import Mathlib.Data.List.ReduceOption
import NewApi.GoText

/-! What an admin fills in when a subscription is delivered by hand. A plan has
a template of fields, and a payload is accepted when every field that must be
filled is. Three of the fields are filled by the server. -/
namespace NewApi.DeliveryPayload
open NewApi.GoText (trimSpace)

/-- `model/subscription.go::SubscriptionDeliveryField`. -/
structure SubscriptionDeliveryField where
  key : String
  label : String
  type : String := "text"
  required : Bool := false
  masked : Bool := false
  copyable : Bool := false
  sortOrder : Int := 0
  placeholder : String := ""
  defaultValue : String := ""
  deriving DecidableEq, Repr

/-- `model/subscription.go::SubscriptionDeliveryPayloadItem`. -/
structure SubscriptionDeliveryPayloadItem where
  key : String
  label : String
  type : String := "text"
  value : String
  masked : Bool := false
  copyable : Bool := false
  deriving DecidableEq, Repr

inductive PayloadError where
  | noTemplate
  | fieldMissing (label : String)
  | nothingFilled
  deriving DecidableEq, Repr

def PayloadError.text : PayloadError → String
  | .noTemplate => "该套餐未配置交付字段模板"
  | .fieldMissing label => "请填写交付字段：" ++ label
  | .nothingFilled => "请至少填写一项交付信息"

/-! ## Templates and payloads -/

def normalizeDeliveryFieldType (fieldType : String) : String :=
  if trimSpace fieldType ∈ ["url", "textarea", "email", "password"] then trimSpace fieldType
  else "text"

def normalizeField (index : Nat) (field : SubscriptionDeliveryField) : Option SubscriptionDeliveryField :=
  if trimSpace field.key = "" ∨ trimSpace field.label = "" then none
  else some { field with
    key := trimSpace field.key
    label := trimSpace field.label
    type := normalizeDeliveryFieldType field.type
    sortOrder := if field.sortOrder = 0 then index + 1 else field.sortOrder
    placeholder := trimSpace field.placeholder
    defaultValue := trimSpace field.defaultValue }

def keepField (kept : List SubscriptionDeliveryField) (entry : SubscriptionDeliveryField × Nat) :
    List SubscriptionDeliveryField :=
  match normalizeField entry.2 entry.1 with
  | none => kept
  | some field => if kept.any fun old => old.key = field.key then kept else kept ++ [field]

/-- `model/subscription.go::normalizeSubscriptionDeliveryFields`. -/
def normalizeSubscriptionDeliveryFields (fields : List SubscriptionDeliveryField) :
    List SubscriptionDeliveryField :=
  fields.zipIdx.foldl keepField []

def normalizeItem (item : SubscriptionDeliveryPayloadItem) : Option SubscriptionDeliveryPayloadItem :=
  if trimSpace item.key = "" ∨ trimSpace item.label = "" ∨ trimSpace item.value = "" then none
  else some { item with
    key := trimSpace item.key
    label := trimSpace item.label
    type := normalizeDeliveryFieldType item.type
    value := trimSpace item.value }

/-- `model/subscription.go::normalizeSubscriptionDeliveryPayload`. -/
def normalizeSubscriptionDeliveryPayload (items : List SubscriptionDeliveryPayloadItem) :
    List SubscriptionDeliveryPayloadItem :=
  items.filterMap normalizeItem

/-- `model/subscription.go::buildSubscriptionDeliveryFieldsFromPayload`, a
template for an order that has none. -/
def buildSubscriptionDeliveryFieldsFromPayload (items : List SubscriptionDeliveryPayloadItem) :
    List SubscriptionDeliveryField :=
  normalizeSubscriptionDeliveryFields
    ((normalizeSubscriptionDeliveryPayload items).zipIdx.map fun (item, index) =>
      { key := item.key
        label := item.label
        type := normalizeDeliveryFieldType item.type
        required := true
        masked := item.masked
        copyable := item.copyable
        sortOrder := index + 1 })

/-- `model/subscription.go::buildAutoIssuedSubscriptionDeliveryFields`. -/
def buildAutoIssuedSubscriptionDeliveryFields : List SubscriptionDeliveryField :=
  normalizeSubscriptionDeliveryFields
    [{ key := "api_key", label := "API Key", required := true, sortOrder := 1 },
      { key := "base_url", label := "Base URL", required := true, sortOrder := 2 },
      { key := "usage_query_url", label := "Usage URL", required := true, sortOrder := 3 }]

def subscriptionDeliverySchemaHasKey (schema : List SubscriptionDeliveryField) (key : String) :
    Bool :=
  trimSpace key ≠ "" && schema.any fun field => trimSpace field.key = trimSpace key

/-- `model/subscription.go::isAutoIssuedSubscriptionDeliverySchema`. -/
def isAutoIssuedSubscriptionDeliverySchema (schema : List SubscriptionDeliveryField) : Bool :=
  subscriptionDeliverySchemaHasKey schema "api_key" &&
    subscriptionDeliverySchemaHasKey schema "base_url" &&
      subscriptionDeliverySchemaHasKey schema "usage_query_url"

/-! ## Values -/

/-- `model/subscription.go::getSubscriptionDeliveryPayloadValue`. -/
def getSubscriptionDeliveryPayloadValue (payload : List SubscriptionDeliveryPayloadItem)
    (key : String) : String :=
  if trimSpace key = "" then ""
  else match payload.find? fun item => trimSpace item.key = trimSpace key with
  | some item => trimSpace item.value
  | none => ""

def putValue (field : SubscriptionDeliveryField) (key value : String) :
    List SubscriptionDeliveryPayloadItem → List SubscriptionDeliveryPayloadItem
  | [] => [{
      key := key
      label := field.label
      type := field.type
      value := value
      masked := field.masked
      copyable := field.copyable }]
  | item :: rest =>
    if trimSpace item.key = key then
      { item with
        value := value
        label := if field.label ≠ "" then field.label else item.label
        type := if field.type ≠ "" then field.type else item.type
        masked := field.masked
        copyable := field.copyable } :: rest
    else item :: putValue field key value rest

/-- `model/subscription.go::upsertSubscriptionDeliveryPayloadValue`. -/
def upsertSubscriptionDeliveryPayloadValue (payload : List SubscriptionDeliveryPayloadItem)
    (schema : List SubscriptionDeliveryField) (key value : String) :
    List SubscriptionDeliveryPayloadItem :=
  if trimSpace key = "" ∨ trimSpace value = "" then payload
  else match schema.find? fun field => trimSpace field.key = trimSpace key with
  | none => payload
  | some field => putValue field (trimSpace key) (trimSpace value) payload

/-! ## Validation -/

def subscriptionDeliveryFieldIsAutoFilled (key : String) : Bool :=
  trimSpace key ∈ ["api_key", "base_url", "usage_query_url"]

def itemOfField (items : List SubscriptionDeliveryPayloadItem) (field : SubscriptionDeliveryField) :
    Option SubscriptionDeliveryPayloadItem :=
  (items.reverse.find? fun item => item.key = field.key).map fun item =>
    { key := field.key
      label := field.label
      type := field.type
      value := trimSpace item.value
      masked := field.masked
      copyable := field.copyable }

def fillField (items : List SubscriptionDeliveryPayloadItem) (field : SubscriptionDeliveryField) :
    Except PayloadError (Option SubscriptionDeliveryPayloadItem) :=
  match (itemOfField items field).filter fun item => trimSpace item.value ≠ "" with
  | some item => .ok (some item)
  | none =>
    if field.required && !subscriptionDeliveryFieldIsAutoFilled field.key then
      .error (.fieldMissing field.label)
    else .ok none

/-- `model/subscription.go::validateManualDeliveryPayload`. -/
def validateManualDeliveryPayload (schema : List SubscriptionDeliveryField)
    (payload : List SubscriptionDeliveryPayloadItem) :
    Except PayloadError (List SubscriptionDeliveryPayloadItem) :=
  let fields := normalizeSubscriptionDeliveryFields schema
  if fields = [] then .error .noTemplate
  else do
    let filled ← fields.mapM (fillField (normalizeSubscriptionDeliveryPayload payload))
    if filled.reduceOption = [] ∧
        ¬ fields.all fun field => subscriptionDeliveryFieldIsAutoFilled field.key then
      .error .nothingFilled
    else return filled.reduceOption

end NewApi.DeliveryPayload
