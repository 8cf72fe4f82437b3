import NewApi.DeliveryPayload
import NewApi.GroupUpgrade
import NewApi.OrderCompletion

/-! Orders of plans that an admin delivers by hand. A paid order is delivered,
or rejected with or without a refund to the quota, and the subscription of a
delivered order may be invalidated. A rejection refuses an order that was
delivered; a delivery asks for no rejection, so an order that was refunded can
still be delivered. -/
namespace NewApi.ManualDelivery
open NewApi.GuardedRun NewApi.KeyedTable NewApi.DeliveryPayload
open NewApi.GoText (trimSpace hasPrefix mentions)
open NewApi.ResetWindow NewApi.Subscription
open NewApi.SubscriptionStore hiding step Event
open NewApi.OrderCompletion hiding deliveries deliver
open NewApi.GroupUpgrade (cancelRow setUserGroup moveUser)

/-! ## Rows -/

/-- The columns of `SubscriptionOrder` that a delivery by hand adds; the
delivery template is a column of the plan's snapshot. -/
structure ManualOrder extends SubscriptionOrder where
  money : Rat := 0
  planDeliveryFields : List SubscriptionDeliveryField := []
  deliveryPayload : List SubscriptionDeliveryPayloadItem := []
  deliveryAdminRemark : String := ""
  deliveredBy : Int := 0
  deliveredAt : Int := 0
  refundToQuota : Bool := false
  refundQuotaAmount : Int := 0
  deriving DecidableEq, Repr

def ManualOrder.key (order : ManualOrder) : Int := order.id

structure ManualTables where
  base : Database
  orders : List ManualOrder := []
  topUps : List TopUp := []
  deriving DecidableEq, Repr

def ManualTables.order (tables : ManualTables) (orderId : Int) : Option ManualOrder :=
  lookup ManualOrder.key tables.orders orderId

def ManualTables.saveOrder (tables : ManualTables) (order : ManualOrder) : ManualTables :=
  { tables with orders := save ManualOrder.key tables.orders order }

/-! ## Slots of a channel -/

/-- An index of a key, after the key at `removed` is gone. -/
def shiftIndex (channelId removed boundChannel index : Int) : Int :=
  if boundChannel = channelId ∧ index > removed then index - 1 else index

def shiftOrder (channelId removed currentOrderId : Int) (order : ManualOrder) : ManualOrder :=
  if order.id = currentOrderId then order
  else { order with
    reservedChannelKeyIndex :=
      shiftIndex channelId removed order.reservedChannelId order.reservedChannelKeyIndex }

def shiftSubscription (channelId removed : Int) (sub : UserSubscription) : UserSubscription :=
  { sub with
    specificChannelKeyIndex :=
      shiftIndex channelId removed sub.specificChannelId sub.specificChannelKeyIndex }

/-- `model/subscription.go::shiftBoundChannelKeyIndexesAfterRemovalTx`, on the
orders and the subscriptions. -/
def shiftBoundChannelKeyIndexes (channelId removed currentOrderId : Int) (tables : ManualTables) :
    ManualTables :=
  let rows := tables.base.subscriptions.map (shiftSubscription channelId removed)
  { tables with
    orders := tables.orders.map (shiftOrder channelId removed currentOrderId)
    base := { tables.base with subscriptions := rows } }

/-- `model/subscription.go::releaseReservedChannelSlotTx`, the order afterwards
and the tables. `slotFound` says that the channel still has the key. -/
def releaseReservedChannelSlot (slotFound : Bool) (order : ManualOrder) (tables : ManualTables) :
    Option (ManualOrder × ManualTables) :=
  if order.reservedChannelId ≤ 0 ∨ order.reservedChannelKeyIndex < 0 then some (order, tables)
  else if !slotFound then none
  else
    let released := { order with reservedChannelId := 0, reservedChannelKeyIndex := -1 }
    some (released, (shiftBoundChannelKeyIndexes order.reservedChannelId
      order.reservedChannelKeyIndex order.id tables).saveOrder released)

/-! ## Delivering -/

/-- A call of the delivery endpoint, and what the plan cache, the channels and
the tokens answer it. -/
structure DeliverCall where
  orderId : Int
  adminId : Int := 0
  payload : List SubscriptionDeliveryPayloadItem := []
  adminRemark : String := ""
  now : Int
  serverAddress : String := ""
  cachedPlan : Option SubscriptionPlan := none
  reserveSlot : Option (Int × Int) := none
  replaceKey : Bool := true
  channelFound : Bool := true
  allocateChannel : Option (Int × Int) := none
  accessKey : Option String := some ""

def DeliverCall.answers (call : DeliverCall) : CompletionCall where
  now := call.now
  reserveSlot := call.reserveSlot
  allocateChannel := call.allocateChannel
  refreshAccessToken := call.accessKey.isSome

inductive DeliverError where
  | invalidOrderId
  | recordNotFound
  | notManualDelivery
  | notPaid
  | planNotFound
  | planMissing
  | payload (error : PayloadError)
  | noServerAddress
  | realKeyMissing
  | channel
  | slotMissing
  | create (error : CreateError)
  | complete (error : CompleteError)
  | accessToken
  deriving DecidableEq, Repr

/-- `model/subscription.go::isClaudePlan`. -/
def isClaudePlan (terms : PlanTerms) : Bool :=
  mentions (trimSpace terms.title) "claude" || mentions (trimSpace terms.upgradeGroup) "claude" ||
    (terms.allowedGroups.any fun group => mentions (trimSpace group) "claude") ||
      terms.allowedModels.any fun model => hasPrefix (trimSpace model).toLower "claude"

/-- `model/subscription.go::mergeManualDeliveryEffectivePlan` with a current
plan: what the order sold, under the rules that the plan has now. -/
def mergeManualDeliveryEffectivePlan (snapshot : Option PlanTerms) (current : PlanTerms) :
    Option PlanTerms :=
  match snapshot.bind buildSubscriptionPlanSnapshot with
  | none => buildSubscriptionPlanSnapshot current
  | some sold =>
    let merged := { sold with
      upgradeGroup := trimSpace current.upgradeGroup
      allowedGroups := current.allowedGroups
      allowedModels := current.allowedModels
      allowedVendorIDs := current.allowedVendorIDs
      deliveryMode := current.deliveryMode }
    some { merged with isClaude := isClaudePlan merged }

def effectivePlan (call : DeliverCall) (order : ManualOrder) (db : Database) :
    Except DeliverError PlanTerms :=
  if order.planId ≤ 0 then .error .planNotFound
  else match call.cachedPlan.or (db.plan order.planId) with
  | none => .error .planNotFound
  | some current =>
    match mergeManualDeliveryEffectivePlan (buildSubscriptionPlanSnapshot order.terms)
        current.terms with
    | none => .error .planMissing
    | some terms => .ok terms

def deliverySchema (order : ManualOrder) (terms : PlanTerms)
    (payload : List SubscriptionDeliveryPayloadItem) : List SubscriptionDeliveryField × Bool :=
  let stored := normalizeSubscriptionDeliveryFields order.planDeliveryFields
  if stored ≠ [] then (stored, true)
  else if isClaudeSeriesRequestCountManualDeliveryPlan terms then
    (buildAutoIssuedSubscriptionDeliveryFields, true)
  else (buildSubscriptionDeliveryFieldsFromPayload payload, false)

def firstValue : List String → String
  | [] => ""
  | value :: rest => if trimSpace value = "" then firstValue rest else trimSpace value

/-- `strings.TrimRight(address, "/")`. -/
def resolveSubscriptionDeliveryBaseURL (serverAddress : String) : String :=
  String.ofList ((trimSpace serverAddress).toList.rdropWhile (· = '/'))

/-- `Order("id desc")`. -/
def newerThan (first second : UserSubscription) : Prop := second.id ≤ first.id

instance : DecidableRel newerThan := fun first second =>
  inferInstanceAs (Decidable (second.id ≤ first.id))

/-- `model/subscription.go::getLatestUserSubscriptionBySourceOrderIDTx`. -/
def getLatestUserSubscriptionBySourceOrderID (orderId : Int) (db : Database) : Option UserSubscription :=
  first newerThan (db.subscriptions.filter fun sub => sub.sourceOrderId = orderId)

/-- `model/subscription.go::reserveManualDeliveryChannelSlotForOrderTx`, for an
order that holds no slot. -/
def reserveSlotForOrder (call : DeliverCall) (order : ManualOrder) : Except DeliverError ManualOrder :=
  if order.reservedChannelId > 0 ∧ order.reservedChannelKeyIndex ≥ 0 then .ok order
  else match call.reserveSlot with
  | some (channelId, keyIndex) => .ok { order with
      reservedChannelId := channelId, reservedChannelKeyIndex := keyIndex }
  | none => .error .channel

def holdSlot (call : DeliverCall) (realChannelKey : String) (order : ManualOrder) :
    Except DeliverError ManualOrder :=
  reserveSlotForOrder call order >>= fun order =>
    if realChannelKey ≠ "" then if call.replaceKey then .ok order else .error .channel
    else if call.channelFound then .ok order else .error .channel

def issueSubscription (calendar : Calendar) (call : DeliverCall) (terms : PlanTerms)
    (order : ManualOrder) (tables : ManualTables) :
    Except DeliverError (ManualTables × UserSubscription) :=
  match getLatestUserSubscriptionBySourceOrderID order.id tables.base with
  | some sub => .ok (tables, sub)
  | none => do
    let (base, sub) ← (createUserSubscriptionFromPlan calendar order.userId order.planId terms
      .order call.now tables.base).mapError .create
    let sub := { sub with
      sourceOrderId := order.id, sourceOrderTradeNo := order.tradeNo, updatedAt := call.now }
    let topUps ← (upsertSubscriptionTopUp order.toSubscriptionOrder call.now
      tables.topUps).mapError .complete
    return ({ tables with base := base.saveSubscription sub, topUps := topUps }, sub)

def bindDelivery (call : DeliverCall) (terms : PlanTerms) (order : ManualOrder)
    (sub : UserSubscription) : Except DeliverError UserSubscription :=
  if isClaudeSeriesRequestCountManualDeliveryPlan terms then
    if order.reservedChannelId ≤ 0 ∨ order.reservedChannelKeyIndex < 0 then .error .slotMissing
    else .ok { sub with
      specificChannelId := order.reservedChannelId
      specificChannelKeyIndex := order.reservedChannelKeyIndex
      updatedAt := call.now }
  else (provisionAggregateAccess call.answers sub).mapError .complete

def fillAccess (schema : List SubscriptionDeliveryField) (key baseURL usageQueryURL : String)
    (payload : List SubscriptionDeliveryPayloadItem) : List SubscriptionDeliveryPayloadItem :=
  let payload := upsertSubscriptionDeliveryPayloadValue payload schema "api_key" ("sk-" ++ key)
  let payload := upsertSubscriptionDeliveryPayloadValue payload schema "base_url" baseURL
  upsertSubscriptionDeliveryPayloadValue payload schema "usage_query_url" usageQueryURL

def autoIssue (calendar : Calendar) (call : DeliverCall) (terms : PlanTerms)
    (schema : List SubscriptionDeliveryField) (payload : List SubscriptionDeliveryPayloadItem)
    (order : ManualOrder) (tables : ManualTables) :
    Except DeliverError (ManualTables × ManualOrder × List SubscriptionDeliveryPayloadItem) :=
  let given := getSubscriptionDeliveryPayloadValue payload
  let existing := getSubscriptionDeliveryPayloadValue order.deliveryPayload
  let baseURL := firstValue [given "base_url", existing "base_url",
    resolveSubscriptionDeliveryBaseURL call.serverAddress]
  let usageQueryURL := firstValue [given "usage_query_url", existing "usage_query_url",
    "https://api-key-tool.nbility.dev/"]
  let claude := isClaudeSeriesRequestCountManualDeliveryPlan terms
  let realChannelKey := trimSpace (given "api_key")
  if baseURL = "" then .error .noServerAddress
  else if claude ∧ realChannelKey = "" ∧ (order.fulfillmentStatus ≠ .delivered ∨
      getLatestUserSubscriptionBySourceOrderID order.id tables.base = none) then
    .error .realKeyMissing
  else (if claude then holdSlot call realChannelKey order else .ok order) >>= fun order => do
    let (tables, sub) ← issueSubscription calendar call terms order tables
    let sub ← bindDelivery call terms order sub
    match call.accessKey with
    | none => .error .accessToken
    | some key =>
      return ({ tables with base := tables.base.saveSubscription sub }, order,
        fillAccess schema key baseURL usageQueryURL payload)

def markDelivered (call : DeliverCall) (payload : List SubscriptionDeliveryPayloadItem)
    (order : ManualOrder) : ManualOrder :=
  { order with
    fulfillmentStatus := .delivered
    deliveryPayload := payload
    deliveryAdminRemark := trimSpace call.adminRemark
    deliveredBy := call.adminId
    deliveredAt := call.now }

def deliverFilled (calendar : Calendar) (call : DeliverCall) (terms : PlanTerms)
    (schema : List SubscriptionDeliveryField) (autoIssued : Bool)
    (payload : List SubscriptionDeliveryPayloadItem) (order : ManualOrder)
    (tables : ManualTables) : Except DeliverError ManualTables :=
  if autoIssued && isAutoIssuedSubscriptionDeliverySchema schema then do
    let (tables, order, payload) ← autoIssue calendar call terms schema payload order tables
    return tables.saveOrder (markDelivered call payload order)
  else .ok (tables.saveOrder (markDelivered call payload order))

def deliverOrder (calendar : Calendar) (call : DeliverCall) (order : ManualOrder)
    (tables : ManualTables) : Except DeliverError ManualTables := do
  let terms ← effectivePlan call order tables.base
  let schema := deliverySchema order terms call.payload
  let payload ← (validateManualDeliveryPayload schema.1 call.payload).mapError .payload
  deliverFilled calendar call terms schema.1 schema.2 payload order tables

/-- `model/subscription.go::AdminDeliverManualDeliveryOrder`. -/
def adminDeliverManualDeliveryOrder (calendar : Calendar) (call : DeliverCall)
    (tables : ManualTables) : Except DeliverError ManualTables :=
  if call.orderId ≤ 0 then .error .invalidOrderId
  else match tables.order call.orderId with
  | none => .error .recordNotFound
  | some order =>
    if order.terms.deliveryMode ≠ .manualDelivery then .error .notManualDelivery
    else if order.status ≠ .success then .error .notPaid
    else deliverOrder calendar call order tables

/-! ## Rejecting -/

/-- A call of the rejection endpoint. `quotaOfMoney` is the quota of an amount of
money under the display settings of the moment. -/
structure RejectCall where
  orderId : Int
  adminId : Int := 0
  adminRemark : String := ""
  refundToQuota : Bool := false
  now : Int
  quotaOfMoney : Rat → Int := fun _ => 0
  slotFound : Bool := true

inductive RejectError where
  | invalidOrderId
  | recordNotFound
  | notManualDelivery
  | notPaid
  | alreadyDelivered
  | slotNotFound
  | nothingToRefund
  deriving DecidableEq, Repr

/-- `model/subscription.go::calcManualDeliveryOrderRefundQuota`. -/
def calcManualDeliveryOrderRefundQuota (quotaOfMoney : Rat → Int) (order : ManualOrder) : Int :=
  if order.money ≤ 0 then 0 else quotaOfMoney order.money

def refundQuota (call : RejectCall) (order : ManualOrder) : Except RejectError Int :=
  if call.refundToQuota && !order.refundToQuota then
    if calcManualDeliveryOrderRefundQuota call.quotaOfMoney order ≤ 0 then .error .nothingToRefund
    else .ok (calcManualDeliveryOrderRefundQuota call.quotaOfMoney order)
  else .ok 0

def addUserQuota (users : List User) (userId quota : Int) : List User :=
  update User.id users userId fun user => { user with quota := user.quota + quota }

def markRejected (call : RejectCall) (refunded : Int) (order : ManualOrder) : ManualOrder :=
  { order with
    fulfillmentStatus := .rejected
    deliveryAdminRemark := trimSpace call.adminRemark
    deliveredBy := call.adminId
    deliveredAt := call.now
    refundToQuota := order.refundToQuota || call.refundToQuota
    refundQuotaAmount := if refunded > 0 then order.refundQuotaAmount + refunded
      else order.refundQuotaAmount }

/-- `model/subscription.go::AdminRejectManualDeliveryOrder`, with the quota that
it refunded. -/
def adminRejectManualDeliveryOrder (call : RejectCall) (tables : ManualTables) :
    Except RejectError (ManualTables × Int) :=
  if call.orderId ≤ 0 then .error .invalidOrderId
  else match tables.order call.orderId with
  | none => .error .recordNotFound
  | some order =>
    if order.terms.deliveryMode ≠ .manualDelivery then .error .notManualDelivery
    else if order.status ≠ .success then .error .notPaid
    else if order.fulfillmentStatus = .delivered then .error .alreadyDelivered
    else match releaseReservedChannelSlot call.slotFound order tables with
    | none => .error .slotNotFound
    | some (order, tables) => do
      let refunded ← refundQuota call order
      let users := if refunded > 0 then addUserQuota tables.base.users order.userId refunded
        else tables.base.users
      return ({ tables with base := { tables.base with users := users } }.saveOrder
        (markRejected call refunded order), refunded)

/-! ## Invalidating -/

/-- A call that invalidates a subscription. `slotFound` is the channel's answer
and `refreshed` that of the access tokens. -/
structure InvalidateCall where
  userSubscriptionId : Int
  now : Int
  slotFound : Bool := true
  refreshed : Bool := true

def releaseSlotOfSubscription (slotFound : Bool) (sub : UserSubscription) (tables : ManualTables) :
    Option ManualTables :=
  if sub.sourceOrderId > 0 then
    (tables.order sub.sourceOrderId).bind fun order =>
      (releaseReservedChannelSlot slotFound order tables).map Prod.snd
  else some tables

/-- `model/subscription.go::AdminInvalidateUserSubscription`. -/
def adminInvalidateUserSubscription (call : InvalidateCall) (tables : ManualTables) : Option ManualTables :=
  if call.userSubscriptionId ≤ 0 then none
  else (tables.base.subscription call.userSubscriptionId).bind fun sub =>
    (releaseSlotOfSubscription call.slotFound sub tables).bind fun tables =>
      if call.refreshed then some { tables with
        base := GroupUpgrade.adminInvalidateUserSubscription call.userSubscriptionId call.now tables.base }
      else none

/-! ## What the operations do -/

def ManualTables.standing (tables : ManualTables) (orderId : Int) : Option (FulfillmentStatus × Bool) :=
  (tables.order orderId).map fun order => (order.fulfillmentStatus, order.refundToQuota)

def issues (db : Database) : List (Int × Int) :=
  db.subscriptions.map fun sub => (sub.id, sub.sourceOrderId)

def issuedFor (orderId : Int) (db : Database) : Nat :=
  ((issues db).filter fun issue => issue.2 = orderId).length

def accounts (db : Database) : List (Int × Int) :=
  db.users.map fun user => (user.id, user.quota)

structure Numbered (db : Database) : Prop where
  fresh : ∀ issue ∈ issues db, issue.1 < db.nextSubscriptionId
  unique : ((issues db).map Prod.fst).Nodup

structure SameIssues (before after : Database) : Prop where
  issues : issues after = issues before
  next : after.nextSubscriptionId = before.nextSubscriptionId
  accounts : accounts after = accounts before

structure FirstIssue (orderId : Int) (before after : Database) : Prop where
  none_yet : issuedFor orderId before = 0
  issues : issues after = issues before ++ [(before.nextSubscriptionId, orderId)]
  next : after.nextSubscriptionId = before.nextSubscriptionId + 1
  accounts : accounts after = accounts before

section Effects
variable {calendar : Calendar} {tables after : ManualTables} {order : ManualOrder}
variable {orderId : Int}

theorem same_issues_refl (db : Database) : SameIssues db db := ⟨rfl, rfl, rfl⟩

theorem same_issues_numbered (same : SameIssues db base) (numbered : Numbered db) : Numbered base := by
  refine ⟨?_, ?_⟩
  · rw [same.issues, same.next]
    exact numbered.fresh
  · rw [same.issues]
    exact numbered.unique

theorem first_issue_numbered (issued : FirstIssue orderId db base) (numbered : Numbered db) :
    Numbered base := by
  refine ⟨?_, ?_⟩
  · intro issue member
    rw [issued.next]
    rw [issued.issues] at member
    rcases List.mem_append.mp member with old | new
    · have := numbered.fresh issue old
      omega
    · rw [List.mem_singleton.mp new]
      exact Int.lt_succ db.nextSubscriptionId
  · rw [issued.issues, List.map_append, List.map_singleton]
    apply List.nodup_append.mpr
    refine ⟨numbered.unique, List.pairwise_singleton _ _, ?_⟩
    intro id member last new same
    obtain ⟨issue, old, rfl⟩ := List.mem_map.mp member
    have := numbered.fresh issue old
    rw [List.mem_singleton.mp new] at same
    omega

theorem saved_same_issues (numbered : Numbered db)
    (member : old ∈ db.subscriptions) (id : sub.id = old.id)
    (source : sub.sourceOrderId = old.sourceOrderId) :
    SameIssues db (db.saveSubscription sub) := by
  refine ⟨?_, rfl, rfl⟩
  have distinct : (db.subscriptions.map UserSubscription.id).Nodup := by
    simpa [issues, Function.comp_def] using numbered.unique
  unfold issues Database.saveSubscription save
  rw [List.map_map]
  apply List.map_congr_left
  intro row held
  simp only [Function.comp_apply]
  split
  · rename_i same
    have found := lookup_of_mem distinct member
    rw [← id, ← same, lookup_of_mem distinct held, Option.some.injEq] at found
    rw [id, source, found]
  · rfl

theorem standing_saved (found : tables.order orderId = some order)
    (key : stored.key = orderId) (wanted : Int) :
    (tables.saveOrder stored).standing wanted =
      if wanted = orderId then some (stored.fulfillmentStatus, stored.refundToQuota)
      else tables.standing wanted := by
  unfold ManualTables.standing ManualTables.order ManualTables.saveOrder
  rw [lookup_save, key]
  split
  · rename_i same
    subst same
    unfold ManualTables.order at found
    rw [found]
    rfl
  · rfl

theorem shifted_standing (channelId removed currentOrderId wanted : Int) :
    (shiftBoundChannelKeyIndexes channelId removed currentOrderId tables).standing wanted =
      tables.standing wanted := by
  unfold ManualTables.standing ManualTables.order shiftBoundChannelKeyIndexes
  have same : ∀ order, (shiftOrder channelId removed currentOrderId order).key = order.key := by
    intro order
    unfold shiftOrder
    split <;> rfl
  rw [lookup_map same, Option.map_map]
  refine congrFun (congrArg Option.map (funext fun order => ?_)) _
  simp only [Function.comp_apply]
  unfold shiftOrder
  split <;> rfl

theorem shifted_same_issues (channelId removed currentOrderId : Int) :
    SameIssues tables.base (shiftBoundChannelKeyIndexes channelId removed currentOrderId tables).base := by
  refine ⟨?_, rfl, rfl⟩
  simp [issues, shiftBoundChannelKeyIndexes, shiftSubscription, Function.comp_def]

theorem released_keeps
    (found : tables.order orderId = some order)
    (release : releaseReservedChannelSlot slotFound order tables = some (released, after)) :
    (∃ channelId keyIndex, released = { order with
      reservedChannelId := channelId, reservedChannelKeyIndex := keyIndex }) ∧
      after.order orderId = some released ∧ SameIssues tables.base after.base ∧
      ∀ wanted, after.standing wanted = tables.standing wanted := by
  have key : order.key = orderId := lookup_key found
  unfold releaseReservedChannelSlot at release
  split at release
  · cases release
    exact ⟨⟨_, _, rfl⟩, found, same_issues_refl _, fun _ => rfl⟩
  · split at release
    · cases release
    · cases release
      let shifted := shiftBoundChannelKeyIndexes order.reservedChannelId
        order.reservedChannelKeyIndex order.id tables
      have held : ∃ moved, shifted.order orderId = some moved := by
        have same : shifted.standing orderId = tables.standing orderId :=
          shifted_standing _ _ _ _
        simp only [ManualTables.standing, found, Option.map_some] at same
        obtain ⟨moved, stored, -⟩ := Option.map_eq_some_iff.mp same
        exact ⟨moved, stored⟩
      obtain ⟨moved, stored⟩ := held
      let bare : ManualOrder := { order with reservedChannelId := 0, reservedChannelKeyIndex := -1 }
      have bareKey : bare.key = orderId := key
      refine ⟨⟨0, -1, rfl⟩, ?_, shifted_same_issues _ _ order.id, ?_⟩
      · subst key
        exact lookup_save_self stored
      · intro wanted
        refine (standing_saved stored bareKey wanted).trans ?_
        rw [shifted_standing]
        split
        · rename_i same
          rw [same]
          simp [ManualTables.standing, found, bare]
        · rfl

theorem hold_slot_keeps
    (holds : holdSlot call realChannelKey order = .ok held) :
    ∃ channelId keyIndex, held = { order with
      reservedChannelId := channelId, reservedChannelKeyIndex := keyIndex } := by
  obtain ⟨reserved, reserve, rest⟩ := except_bind_ok_iff.mp holds
  have same : reserved = held := by
    repeat' split at rest
    all_goals cases rest
    all_goals rfl
  subst same
  unfold reserveSlotForOrder at reserve
  repeat' split at reserve
  all_goals cases reserve
  · exact ⟨_, _, rfl⟩
  · exact ⟨_, _, rfl⟩

theorem bind_delivery_shape
    (binds : bindDelivery call terms order sub = .ok bound) :
    ∃ channelId keyIndex updatedAt, bound = { sub with
      specificChannelId := channelId
      specificChannelKeyIndex := keyIndex
      updatedAt := updatedAt } := by
  unfold bindDelivery at binds
  split at binds
  · split at binds
    · cases binds
    · cases binds
      exact ⟨_, _, _, rfl⟩
  · cases provision : provisionAggregateAccess call.answers sub with
    | error error => simp [provision, Except.mapError] at binds
    | ok provisioned =>
      obtain ⟨channelId, keyIndex, shape⟩ := provision_keeps provision
      simp only [provision, Except.mapError, Except.ok.injEq] at binds
      exact ⟨channelId, keyIndex, sub.updatedAt, binds ▸ shape⟩

theorem bind_delivery_keeps
    (binds : bindDelivery call terms order sub = .ok bound) :
    bound.id = sub.id ∧ bound.sourceOrderId = sub.sourceOrderId := by
  obtain ⟨channelId, keyIndex, updatedAt, rfl⟩ := bind_delivery_shape binds
  exact ⟨rfl, rfl⟩

theorem upgraded_accounts (db : Database) (userId : Int) (upgradeGroup : String) :
    (upgradeUserGroup db userId upgradeGroup).1.map (fun user => (user.id, user.quota)) = accounts db := by
  unfold upgradeUserGroup accounts
  split
  · rfl
  · dsimp only
    split
    · unfold update
      rw [List.map_map]
      apply List.map_congr_left
      intro user _
      simp only [Function.comp_apply]
      split <;> rfl
    · rfl

theorem issue_writes
    (issued : issueSubscription calendar call terms order tables = .ok (after, sub)) :
    after.orders = tables.orders ∧ sub.sourceOrderId = order.id ∧
      ((after.base = tables.base ∧ sub ∈ tables.base.subscriptions) ∨
        ((∀ old ∈ tables.base.subscriptions, old.sourceOrderId ≠ order.id) ∧
          ∃ created, createUserSubscriptionFromPlan calendar order.userId order.planId terms .order
              call.now tables.base = .ok created ∧
            sub = { created.2 with
              sourceOrderId := order.id
              sourceOrderTradeNo := order.tradeNo
              updatedAt := call.now } ∧
            after.base = created.1.saveSubscription sub)) := by
  unfold issueSubscription at issued
  split at issued
  · rename_i stored found
    cases issued
    have member := List.mem_filter.mp (first_mem found)
    exact ⟨rfl, by simpa using member.2, .inl ⟨rfl, member.1⟩⟩
  · rename_i missing
    obtain ⟨⟨base, row⟩, created, rest⟩ := except_bind_ok_iff.mp issued
    obtain ⟨topUps, -, rest⟩ := except_bind_ok_iff.mp rest
    cases rest
    have none_yet : ∀ old ∈ tables.base.subscriptions, old.sourceOrderId ≠ order.id := by
      intro old held same
      have chosen : old ∈ tables.base.subscriptions.filter fun sub => sub.sourceOrderId = order.id :=
        List.mem_filter.mpr ⟨held, by simpa using same⟩
      have latest : ∃ head, first newerThan (tables.base.subscriptions.filter fun sub =>
          sub.sourceOrderId = order.id) = some head := first_of_mem chosen
      obtain ⟨head, found⟩ := latest
      unfold getLatestUserSubscriptionBySourceOrderID at missing
      rw [missing] at found
      cases found
    cases outcome : createUserSubscriptionFromPlan calendar order.userId order.planId terms .order
      call.now tables.base with
    | error error => simp [outcome, Except.mapError] at created
    | ok result =>
      simp only [outcome, Except.mapError, Except.ok.injEq] at created
      subst created
      exact ⟨rfl, rfl, .inr ⟨none_yet, (base, row), rfl, rfl, rfl⟩⟩

theorem issue_cases
    (numbered : Numbered tables.base)
    (issued : issueSubscription calendar call terms order tables = .ok (after, sub)) :
    after.orders = tables.orders ∧ sub ∈ after.base.subscriptions ∧
      sub.sourceOrderId = order.id ∧
      (SameIssues tables.base after.base ∨ FirstIssue order.id tables.base after.base) := by
  obtain ⟨orders, source, ⟨same, member⟩ | ⟨none_yet, ⟨base, row⟩, outcome, rfl, saved⟩⟩ :=
    issue_writes issued
  · rw [same]
    exact ⟨orders, member, source, .inl (same_issues_refl _)⟩
  obtain ⟨plan, effective, endUnix, -, -, -, -, shape, written⟩ := create_cases outcome
  dsimp only at shape written
  have fresh : ∀ old ∈ tables.base.subscriptions, old.id ≠ row.id := by
    intro old member
    have := numbered.fresh (old.id, old.sourceOrderId) (List.mem_map.mpr ⟨old, member, rfl⟩)
    rw [shape]
    exact ne_of_lt this
  let sub : UserSubscription := { row with
    sourceOrderId := order.id, sourceOrderTradeNo := order.tradeNo, updatedAt := call.now }
  have grown : (base.saveSubscription sub).subscriptions = tables.base.subscriptions ++ [sub] := by
    rw [written]
    exact save_append_one fresh rfl
  rw [saved]
  refine ⟨orders, ?_, rfl, .inr ⟨?_, ?_, ?_, ?_⟩⟩
  · rw [grown]
    exact List.mem_append_right _ (List.mem_singleton_self sub)
  · unfold issuedFor issues
    rw [List.length_eq_zero_iff, List.filter_eq_nil_iff]
    intro issue member same
    obtain ⟨old, held, rfl⟩ := List.mem_map.mp member
    exact none_yet old held (by simpa using same)
  · unfold issues
    rw [grown, List.map_append, List.map_singleton]
    refine congrArg (fun issue => _ ++ [issue]) (Prod.ext ?_ rfl)
    change row.id = tables.base.nextSubscriptionId
    rw [shape]
    rfl
  · change base.nextSubscriptionId = _
    rw [written]
  · rw [written]
    exact upgraded_accounts _ _ _

def Issues (orderId : Int) (before after : Database) : Prop :=
  SameIssues before after ∨ FirstIssue orderId before after

theorem issues_numbered (issued : Issues orderId db base) (numbered : Numbered db) : Numbered base := by
  rcases issued with same | first
  · exact same_issues_numbered same numbered
  · exact first_issue_numbered first numbered

theorem issues_then_same (issued : Issues orderId db base)
    (same : SameIssues base later) : Issues orderId db later := by
  rcases issued with kept | first
  · exact .inl ⟨same.issues.trans kept.issues, same.next.trans kept.next, same.accounts.trans kept.accounts⟩
  · exact .inr ⟨first.none_yet, same.issues.trans first.issues, same.next.trans first.next,
      same.accounts.trans first.accounts⟩

theorem auto_issue_writes
    (issued : autoIssue calendar call terms schema payload order tables = .ok result) :
    ∃ held grown sub bound, (∃ channelId keyIndex, held = { order with
        reservedChannelId := channelId, reservedChannelKeyIndex := keyIndex }) ∧
      issueSubscription calendar call terms held tables = .ok (grown, sub) ∧
      bindDelivery call terms held sub = .ok bound ∧
      result.1 = { grown with base := grown.base.saveSubscription bound } ∧ result.2.1 = held := by
  unfold autoIssue at issued
  dsimp only at issued
  split at issued
  · cases issued
  · split at issued
    · cases issued
    · obtain ⟨held, holds, rest⟩ := except_bind_ok_iff.mp issued
      obtain ⟨⟨grown, sub⟩, creates, rest⟩ := except_bind_ok_iff.mp rest
      obtain ⟨bound, binds, rest⟩ := except_bind_ok_iff.mp rest
      split at rest
      · cases rest
      · cases rest
        refine ⟨held, grown, sub, bound, ?_, creates, binds, rfl, rfl⟩
        split at holds
        · exact hold_slot_keeps holds
        · cases holds
          exact ⟨_, _, rfl⟩

theorem auto_issue_cases
    (numbered : Numbered tables.base)
    (issued : autoIssue calendar call terms schema payload order tables = .ok result) :
    result.1.orders = tables.orders ∧ Issues order.id tables.base result.1.base ∧
      ∃ channelId keyIndex, result.2.1 = { order with
        reservedChannelId := channelId, reservedChannelKeyIndex := keyIndex } := by
  obtain ⟨held, grown, sub, bound, ⟨channelId, keyIndex, rfl⟩, creates, binds, shape, same⟩ :=
    auto_issue_writes issued
  obtain ⟨orders, member, -, issue⟩ := issue_cases numbered creates
  obtain ⟨id, source⟩ := bind_delivery_keeps binds
  have saved := saved_same_issues (issues_numbered issue numbered) member id source
  rw [shape]
  exact ⟨orders, issues_then_same issue saved, channelId, keyIndex, same⟩

theorem deliver_writes
    (delivered : adminDeliverManualDeliveryOrder calendar call tables = .ok after) :
    ∃ order, tables.order call.orderId = some order ∧
      order.terms.deliveryMode = .manualDelivery ∧ order.status = .success ∧
      ((∃ payload, after = tables.saveOrder (markDelivered call payload order)) ∨
        ∃ terms schema payload result,
          autoIssue calendar call terms schema payload order tables = .ok result ∧
          after = result.1.saveOrder (markDelivered call result.2.2 result.2.1)) := by
  unfold adminDeliverManualDeliveryOrder at delivered
  split at delivered
  · cases delivered
  · split at delivered
    · cases delivered
    · rename_i order found
      split at delivered
      · cases delivered
      · rename_i manual
        split at delivered
        · cases delivered
        · rename_i paid
          refine ⟨order, found, not_not.mp manual, not_not.mp paid, ?_⟩
          obtain ⟨terms, -, rest⟩ := except_bind_ok_iff.mp delivered
          obtain ⟨payload, -, rest⟩ := except_bind_ok_iff.mp rest
          unfold deliverFilled at rest
          split at rest
          · obtain ⟨result, issued, rest⟩ := except_bind_ok_iff.mp rest
            cases rest
            exact .inr ⟨_, _, _, result, issued, rfl⟩
          · cases rest
            exact .inl ⟨payload, rfl⟩

theorem deliver_cases (numbered : Numbered tables.base)
    (delivered : adminDeliverManualDeliveryOrder calendar call tables = .ok after) :
    ∃ fulfillment refunded, tables.standing call.orderId = some (fulfillment, refunded) ∧
      (∀ wanted, after.standing wanted = if wanted = call.orderId then some (.delivered, refunded)
        else tables.standing wanted) ∧
      Issues call.orderId tables.base after.base := by
  obtain ⟨order, found, -, -, ⟨payload, rfl⟩ | ⟨terms, schema, payload, result, issued, rfl⟩⟩ :=
    deliver_writes delivered
  all_goals
    have key : order.key = call.orderId := lookup_key found
    refine ⟨order.fulfillmentStatus, order.refundToQuota, by simp [ManualTables.standing, found], ?_⟩
  · refine ⟨fun wanted => ?_, .inl (same_issues_refl _)⟩
    exact standing_saved found (by exact key) wanted
  · obtain ⟨orders, issue, channelId, keyIndex, shape⟩ := auto_issue_cases numbered issued
    obtain ⟨grown, held, filled⟩ := result
    dsimp only at orders issue shape
    subst shape
    have held : grown.order call.orderId = some order := by
      unfold ManualTables.order
      rw [orders]
      exact found
    refine ⟨fun wanted => ?_, by rw [← key]; exact issue⟩
    refine (standing_saved held ?_ wanted).trans ?_
    · exact key
    · split
      · rfl
      · simp [ManualTables.standing, ManualTables.order, orders]

def credited (userId quota : Int) (account : Int × Int) : Int × Int :=
  if account.1 = userId then (account.1, account.2 + quota) else account

theorem added_accounts (db : Database) (userId quota : Int) :
    (addUserQuota db.users userId quota).map (fun user => (user.id, user.quota)) =
      (accounts db).map (credited userId quota) := by
  unfold addUserQuota update accounts
  rw [List.map_map, List.map_map]
  apply List.map_congr_left
  intro user _
  simp only [Function.comp_apply, credited]
  split <;> rfl

theorem credited_zero (userId : Int) : credited userId 0 = id := by
  funext account
  unfold credited
  split
  · simp
  · rfl

theorem refund_quota_cases
    (refund : refundQuota call order = .ok refunded) :
    (refunded = 0 ∨ 0 < refunded) ∧
      (0 < refunded ↔ call.refundToQuota = true ∧ order.refundToQuota = false) := by
  unfold refundQuota at refund
  split at refund
  · rename_i first
    split at refund
    · cases refund
    · cases refund
      rw [Bool.and_eq_true, Bool.not_eq_true'] at first
      exact ⟨.inr (by omega), fun _ => first, fun _ => by omega⟩
  · rename_i again
    cases refund
    rw [Bool.and_eq_true, Bool.not_eq_true'] at again
    exact ⟨.inl rfl, fun positive => absurd positive (lt_irrefl 0), fun first => absurd first again⟩

theorem reject_writes
    (rejected : adminRejectManualDeliveryOrder call tables = .ok (after, refunded)) :
    ∃ order held freed, tables.order call.orderId = some order ∧
      order.terms.deliveryMode = .manualDelivery ∧ order.status = .success ∧
      order.fulfillmentStatus ≠ .delivered ∧
      releaseReservedChannelSlot call.slotFound order tables = some (held, freed) ∧
      refundQuota call held = .ok refunded ∧
      after = { freed with base := { freed.base with
        users := if refunded > 0 then addUserQuota freed.base.users held.userId refunded
          else freed.base.users } }.saveOrder (markRejected call refunded held) := by
  unfold adminRejectManualDeliveryOrder at rejected
  split at rejected
  · cases rejected
  · split at rejected
    · cases rejected
    · rename_i order found
      split at rejected
      · cases rejected
      · rename_i manual
        split at rejected
        · cases rejected
        · rename_i paid
          split at rejected
          · cases rejected
          · rename_i undelivered
            split at rejected
            · cases rejected
            · rename_i held freed release
              obtain ⟨quota, refund, rest⟩ := except_bind_ok_iff.mp rejected
              cases rest
              exact ⟨order, held, freed, found, not_not.mp manual, not_not.mp paid, undelivered,
                release, refund, rfl⟩

theorem reject_cases
    (rejected : adminRejectManualDeliveryOrder call tables = .ok (after, refunded)) :
    ∃ order, tables.order call.orderId = some order ∧ order.fulfillmentStatus ≠ .delivered ∧
      (∀ wanted, after.standing wanted = if wanted = call.orderId then
          some (.rejected, order.refundToQuota || call.refundToQuota)
        else tables.standing wanted) ∧
      issues after.base = issues tables.base ∧
      after.base.nextSubscriptionId = tables.base.nextSubscriptionId ∧
      (0 < refunded ↔ call.refundToQuota = true ∧ order.refundToQuota = false) ∧
      accounts after.base = (accounts tables.base).map (credited order.userId refunded) ∧
      0 ≤ refunded := by
  obtain ⟨order, held, freed, found, -, -, undelivered, release, refund, rfl⟩ :=
    reject_writes rejected
  obtain ⟨⟨channelId, keyIndex, rfl⟩, stored, same, standing⟩ := released_keeps found release
  have key : order.key = call.orderId := lookup_key found
  refine ⟨order, found, undelivered, fun wanted => ?_, same.issues, same.next, ?_, ?_, ?_⟩
  · refine (standing_saved stored (by exact key) wanted).trans ?_
    split
    · rfl
    · exact standing wanted
  · exact (refund_quota_cases refund).2
  · rw [← same.accounts]
    rcases (refund_quota_cases refund).1 with rfl | positive
    · rw [credited_zero, List.map_id]
      rfl
    · rw [← added_accounts, if_pos positive]
      rfl
  · have := (refund_quota_cases refund).1
    omega

theorem cancelled_same_issues (id now : Int) :
    SameIssues db (GroupUpgrade.adminInvalidateUserSubscription id now db) := by
  unfold GroupUpgrade.adminInvalidateUserSubscription
  split
  · exact same_issues_refl db
  · let rest := update UserSubscription.id db.subscriptions id (cancelRow now)
    have rows : issues { db with subscriptions := rest } = issues db := by
      unfold rest issues update
      rw [List.map_map]
      apply List.map_congr_left
      intro row _
      simp only [Function.comp_apply]
      split <;> rfl
    dsimp only
    unfold moveUser
    split
    · refine ⟨rows, rfl, ?_⟩
      unfold accounts setUserGroup update
      rw [List.map_map]
      apply List.map_congr_left
      intro user _
      simp only [Function.comp_apply]
      split <;> rfl
    · exact ⟨rows, rfl, rfl⟩

theorem invalidate_cases
    (invalidated : adminInvalidateUserSubscription call tables = some after) :
    SameIssues tables.base after.base ∧ ∀ wanted, after.standing wanted = tables.standing wanted := by
  unfold adminInvalidateUserSubscription at invalidated
  split at invalidated
  · cases invalidated
  · obtain ⟨sub, -, rest⟩ := Option.bind_eq_some_iff.mp invalidated
    obtain ⟨freed, release, rest⟩ := Option.bind_eq_some_iff.mp rest
    have kept : SameIssues tables.base freed.base ∧
        ∀ wanted, freed.standing wanted = tables.standing wanted := by
      unfold releaseSlotOfSubscription at release
      split at release
      · obtain ⟨order, found, rest⟩ := Option.bind_eq_some_iff.mp release
        obtain ⟨⟨released, shifted⟩, frees, same⟩ := Option.map_eq_some_iff.mp rest
        subst same
        obtain ⟨-, -, same, standing⟩ := released_keeps found frees
        exact ⟨same, standing⟩
      · cases release
        exact ⟨same_issues_refl _, fun _ => rfl⟩
    split at rest
    · cases rest
      have cancelled : SameIssues freed.base (GroupUpgrade.adminInvalidateUserSubscription
        call.userSubscriptionId call.now freed.base) := cancelled_same_issues _ _
      exact ⟨⟨cancelled.issues.trans kept.1.issues, cancelled.next.trans kept.1.next,
        cancelled.accounts.trans kept.1.accounts⟩, kept.2⟩
    · cases rest

end Effects

/-! ## Runs of admin actions -/

inductive Event where
  | deliver (call : DeliverCall)
  | reject (call : RejectCall)
  | invalidate (call : InvalidateCall)

structure Refund where
  orderId : Int
  userId : Int
  quota : Int
  deriving DecidableEq, Repr

structure History where
  tables : ManualTables
  refunds : List Refund := []
  deriving DecidableEq, Repr

def buyer (orderId : Int) (tables : ManualTables) : Int :=
  ((tables.order orderId).map fun order => order.userId).getD 0

def step (calendar : Calendar) (history : History) : Event → History
  | .deliver call =>
    match adminDeliverManualDeliveryOrder calendar call history.tables with
    | .ok after => { history with tables := after }
    | .error _ => history
  | .reject call =>
    match adminRejectManualDeliveryOrder call history.tables with
    | .ok (after, quota) =>
      let refund := ⟨call.orderId, buyer call.orderId history.tables, quota⟩
      { tables := after
        refunds := if quota > 0 then history.refunds ++ [refund] else history.refunds }
    | .error _ => history
  | .invalidate call =>
    { history with
      tables := (adminInvalidateUserSubscription call history.tables).getD history.tables }

def refundsOf (orderId : Int) (history : History) : Nat :=
  (history.refunds.filter fun refund => refund.orderId = orderId).length

def Delivered (orderId : Int) (tables : ManualTables) : Prop :=
  (∃ refunded, tables.standing orderId = some (.delivered, refunded)) ∨ 0 < issuedFor orderId tables.base

structure HonouredOnce (orderId : Int) (history : History) : Prop where
  exclusive : ¬ (0 < refundsOf orderId history ∧ Delivered orderId history.tables)
  refunds : refundsOf orderId history ≤ 1
  subscriptions : issuedFor orderId history.tables.base ≤ 1

def DeliversUnrefunded (calendar : Calendar) (orderId : Int) (history : History) : Event → Prop
  | .deliver call => call.orderId = orderId →
    (adminDeliverManualDeliveryOrder calendar call history.tables).toOption.isSome →
    ∀ order, history.tables.order orderId = some order → order.refundToQuota = false
  | _ => True

/-- The books of an order: its flag counts the refunds, and with a subscription
it is delivered. -/
structure Books (orderId : Int) (history : History) : Prop where
  numbered : Numbered history.tables.base
  refunds : ∃ fulfillment refunded,
    history.tables.standing orderId = some (fulfillment, refunded) ∧
      refundsOf orderId history = (if refunded then 1 else 0) ∧
      (0 < issuedFor orderId history.tables.base → fulfillment = .delivered)
  subscriptions : issuedFor orderId history.tables.base ≤ 1

/-- An order before any of the actions: it was not refunded, and has no
subscription. -/
structure Undecided (orderId : Int) (history : History) : Prop where
  numbered : Numbered history.tables.base
  stored : ∃ order, history.tables.order orderId = some order ∧ order.refundToQuota = false
  unrefunded : refundsOf orderId history = 0
  unissued : issuedFor orderId history.tables.base = 0

section Runs
variable {calendar : Calendar} {history : History} {orderId : Int}

theorem honoured_iff (books : Books orderId history)
    (standing : history.tables.standing orderId = some (fulfillment, refunded)) :
    HonouredOnce orderId history ↔ ¬ (refunded = true ∧ fulfillment = .delivered) := by
  obtain ⟨fulfillment', refunded', found, counts, issued⟩ := books.refunds
  rw [standing, Option.some.injEq, Prod.mk.injEq] at found
  obtain ⟨rfl, rfl⟩ := found
  have delivered : Delivered orderId history.tables ↔ fulfillment = .delivered := by
    constructor
    · rintro (⟨other, same⟩ | some_issued)
      · rw [standing, Option.some.injEq, Prod.mk.injEq] at same
        exact same.1
      · exact issued some_issued
    · rintro rfl
      exact .inl ⟨refunded, standing⟩
  have counted : 0 < refundsOf orderId history ↔ refunded = true := by
    rw [counts]
    split
    · rename_i yes
      exact ⟨fun _ => yes, fun _ => Nat.one_pos⟩
    · rename_i no
      exact ⟨fun positive => absurd positive (lt_irrefl 0), fun yes => absurd yes no⟩
  constructor
  · intro once both
    exact once.exclusive ⟨counted.mpr both.1, delivered.mpr both.2⟩
  · intro exclusive
    refine ⟨fun both => exclusive ⟨counted.mp both.1, delivered.mp both.2⟩, ?_, books.subscriptions⟩
    rw [counts]
    split
    · exact le_refl 1
    · exact Nat.zero_le 1

theorem issued_for_same (same : SameIssues db base) (wanted : Int) :
    issuedFor wanted base = issuedFor wanted db := by
  unfold issuedFor
  rw [same.issues]

theorem issued_for_first (first : FirstIssue target db base)
    (wanted : Int) :
    issuedFor wanted base = issuedFor wanted db + if wanted = target then 1 else 0 := by
  unfold issuedFor
  rw [first.issues, List.filter_append, List.length_append]
  by_cases same : wanted = target
  · simp [same]
  · simp [same, Ne.symm same]

theorem books_delivered (books : Books orderId history)
    (delivered : adminDeliverManualDeliveryOrder calendar call history.tables = .ok after) :
    Books orderId { history with tables := after } := by
  obtain ⟨before, refunded, target, standing, issued⟩ := deliver_cases books.numbered delivered
  obtain ⟨fulfillment, mine, found, counts, settled⟩ := books.refunds
  refine ⟨issues_numbered issued books.numbered, ?_, ?_⟩
  · by_cases same : orderId = call.orderId
    · rw [← same, found, Option.some.injEq, Prod.mk.injEq] at target
      refine ⟨.delivered, mine, ?_, counts, fun _ => rfl⟩
      refine (standing orderId).trans ?_
      rw [if_pos same, target.2]
    · refine ⟨fulfillment, mine, ?_, counts, fun positive => settled ?_⟩
      · refine (standing orderId).trans ?_
        rw [if_neg same]
        exact found
      · rcases issued with kept | first
        · rwa [issued_for_same kept] at positive
        · rwa [issued_for_first first, if_neg same] at positive
  · have few := books.subscriptions
    rcases issued with kept | first
    · rw [issued_for_same kept]
      exact few
    · have none_yet := first.none_yet
      rw [issued_for_first first]
      split
      · rename_i same
        rw [same, none_yet]
      · exact few

theorem books_rejected (books : Books orderId history) :
    Books orderId (step calendar history (.reject call)) := by
  unfold step
  dsimp only
  split
  · rename_i after quota rejected
    obtain ⟨order, target, undelivered, standing, issues_, next, first, -⟩ := reject_cases rejected
    obtain ⟨fulfillment, mine, found, counts, settled⟩ := books.refunds
    have numbered : Numbered after.base := by
      refine ⟨?_, ?_⟩
      · rw [issues_, next]
        exact books.numbered.fresh
      · rw [issues_]
        exact books.numbered.unique
    have unissued : issuedFor orderId after.base = issuedFor orderId history.tables.base := by
      unfold issuedFor
      rw [issues_]
    have few : issuedFor orderId after.base ≤ 1 := by
      rw [unissued]
      exact books.subscriptions
    refine ⟨numbered, ?_, few⟩
    by_cases same : orderId = call.orderId
    · have standings : order.fulfillmentStatus = fulfillment ∧ order.refundToQuota = mine := by
        rw [← same] at target
        simpa [ManualTables.standing, target] using found
      refine ⟨.rejected, mine || call.refundToQuota, ?_, ?_, ?_⟩
      · refine (standing orderId).trans ?_
        rw [if_pos same, standings.2]
      · rw [standings.2] at first
        unfold refundsOf at counts ⊢
        by_cases refunds : 0 < quota
        · obtain ⟨asked, unrefunded⟩ := first.mp refunds
          rw [if_pos refunds, List.filter_append, List.length_append, counts, unrefunded, asked]
          simp [same]
        · have unchanged : (mine || call.refundToQuota) = mine := by
            cases mine with
            | true => rfl
            | false =>
              cases asked : call.refundToQuota with
              | true => exact absurd (first.mpr ⟨asked, rfl⟩) refunds
              | false => rfl
          rw [if_neg refunds, unchanged]
          exact counts
      · intro positive
        have done := settled (by rw [← unissued]; exact positive)
        exact absurd (standings.1.trans done) undelivered
    · refine ⟨fulfillment, mine, ?_, ?_, fun positive => settled ?_⟩
      · refine (standing orderId).trans ?_
        rw [if_neg same]
        exact found
      · unfold refundsOf at counts ⊢
        split
        · simp [Ne.symm same, counts]
        · exact counts
      · rw [← unissued]
        exact positive
  · exact books

theorem books_invalidated (books : Books orderId history) :
    Books orderId (step calendar history (.invalidate call)) := by
  unfold step
  dsimp only
  cases outcome : adminInvalidateUserSubscription call history.tables with
  | none => exact books
  | some after =>
    obtain ⟨same, standing⟩ := invalidate_cases outcome
    obtain ⟨fulfillment, refunded, found, counts, settled⟩ := books.refunds
    have unissued := issued_for_same same orderId
    refine ⟨same_issues_numbered same books.numbered, ?_, ?_⟩
    · refine ⟨fulfillment, refunded, (standing orderId).trans found, counts, fun positive => ?_⟩
      apply settled
      rw [← unissued]
      exact positive
    · exact unissued.trans_le books.subscriptions

theorem honoured_same_standing (books : Books orderId history) (later : Books orderId next)
    (same : next.tables.standing orderId = history.tables.standing orderId) :
    HonouredOnce orderId next ↔ HonouredOnce orderId history := by
  obtain ⟨fulfillment, refunded, found, -, -⟩ := books.refunds
  rw [honoured_iff books found, honoured_iff later (same.trans found)]

theorem deliver_honoured_iff (books : Books orderId history)
    (once : HonouredOnce orderId history) :
    Books orderId (step calendar history (.deliver call)) ∧
      (HonouredOnce orderId (step calendar history (.deliver call)) ↔
        DeliversUnrefunded calendar orderId history (.deliver call)) := by
  unfold step DeliversUnrefunded
  dsimp only
  cases outcome : adminDeliverManualDeliveryOrder calendar call history.tables with
  | error error =>
    refine ⟨books, fun _ _ accepted => ?_, fun _ => once⟩
    cases accepted
  | ok after =>
    have later := books_delivered books outcome
    refine ⟨later, ?_⟩
    obtain ⟨before, refunded, target, standing, -⟩ := deliver_cases books.numbered outcome
    by_cases mine : call.orderId = orderId
    · subst mine
      have standings : after.standing call.orderId = some (.delivered, refunded) := by
        rw [standing, if_pos rfl]
      rw [honoured_iff later standings]
      obtain ⟨order, found, same⟩ := Option.map_eq_some_iff.mp target
      rw [Prod.mk.injEq] at same
      rw [← same.2]
      constructor
      · intro exclusive _ _ other again
        rw [found, Option.some.injEq] at again
        rw [← again]
        cases flag : order.refundToQuota with
        | false => rfl
        | true => exact absurd ⟨flag, rfl⟩ exclusive
      · intro unrefunded both
        have none_yet := unrefunded rfl rfl order found
        rw [none_yet] at both
        cases both.1
    · have other : after.standing orderId = history.tables.standing orderId := by
        rw [standing, if_neg (Ne.symm mine)]
      rw [honoured_same_standing books later other]
      exact ⟨fun _ same => absurd same mine, fun _ => once⟩

theorem reject_honoured (books : Books orderId history)
    (once : HonouredOnce orderId history) :
    HonouredOnce orderId (step calendar history (.reject call)) := by
  have later : Books orderId (step calendar history (.reject call)) := books_rejected books
  unfold step at later ⊢
  dsimp only at later ⊢
  cases outcome : adminRejectManualDeliveryOrder call history.tables with
  | error error => exact once
  | ok result =>
    obtain ⟨after, quota⟩ := result
    rw [outcome] at later
    obtain ⟨order, target, undelivered, standing, -⟩ := reject_cases outcome
    by_cases mine : orderId = call.orderId
    · have standings : after.standing orderId =
          some (.rejected, order.refundToQuota || call.refundToQuota) := by
        rw [standing, if_pos mine]
      rw [honoured_iff later standings]
      rintro ⟨-, delivered⟩
      cases delivered
    · have other : after.standing orderId = history.tables.standing orderId := by
        rw [standing, if_neg mine]
      exact (honoured_same_standing books later other).mpr once

theorem invalidate_honoured (books : Books orderId history)
    (once : HonouredOnce orderId history) :
    HonouredOnce orderId (step calendar history (.invalidate call)) := by
  have later : Books orderId (step calendar history (.invalidate call)) := books_invalidated books
  refine (honoured_same_standing books later ?_).mpr once
  unfold step
  dsimp only
  cases outcome : adminInvalidateUserSubscription call history.tables with
  | none => rfl
  | some after => exact (invalidate_cases outcome).2 orderId

theorem action_honoured_iff (event : Event) (books : Books orderId history)
    (once : HonouredOnce orderId history) :
    Books orderId (step calendar history event) ∧
      (HonouredOnce orderId (step calendar history event) ↔
        DeliversUnrefunded calendar orderId history event) := by
  cases event with
  | deliver call => exact deliver_honoured_iff books once
  | reject call =>
    exact ⟨books_rejected books, fun _ => trivial, fun _ => reject_honoured books once⟩
  | invalidate call =>
    exact ⟨books_invalidated books, fun _ => trivial, fun _ => invalidate_honoured books once⟩

theorem undecided_books (undecided : Undecided orderId history) :
    Books orderId history ∧ HonouredOnce orderId history := by
  obtain ⟨order, found, unrefunded⟩ := undecided.stored
  have standing : history.tables.standing orderId = some (order.fulfillmentStatus, false) := by
    simp [ManualTables.standing, found, unrefunded]
  have books : Books orderId history := by
    refine ⟨undecided.numbered, ⟨order.fulfillmentStatus, false, standing, ?_, fun positive => ?_⟩, ?_⟩
    · exact undecided.unrefunded
    · rw [undecided.unissued] at positive
      exact absurd positive (lt_irrefl 0)
    · rw [undecided.unissued]
      exact Nat.zero_le 1
  refine ⟨books, (honoured_iff books standing).mpr ?_⟩
  rintro ⟨refunded, -⟩
  cases refunded

/-- For any sequence of admin actions on any orders, an order is refunded or
delivered, and either of them once, after every action, exactly when no
delivery goes through for the order while its refund flag is set. -/
theorem honoured_once_iff_delivers_unrefunded (undecided : Undecided orderId history)
    (events : List Event) :
    (∀ done, done <+: events → HonouredOnce orderId (run (step calendar) history done)) ↔
      Guarded (step calendar) (DeliversUnrefunded calendar orderId) history events := by
  obtain ⟨books, once⟩ := undecided_books undecided
  have kept : ∀ state event, DeliversUnrefunded calendar orderId state event →
      Books orderId state ∧ HonouredOnce orderId state →
      Books orderId (step calendar state event) ∧ HonouredOnce orderId (step calendar state event) := by
    rintro state event permitted ⟨books, once⟩
    obtain ⟨later, honoured⟩ := action_honoured_iff event books once
    exact ⟨later, honoured.mpr permitted⟩
  refine always_safe_iff_guarded kept ?_ events ⟨books, once⟩ once
  rintro state event ⟨books, once⟩
  exact (action_honoured_iff event books once).2

end Runs

def paidOrder : ManualOrder where
  id := 5
  userId := 7
  planId := 1
  terms := { durationUnit := .day, durationValue := 30, totalAmount := 100
             deliveryMode := .manualDelivery }
  tradeNo := "T5"
  paymentMethod := "stripe"
  status := .success
  fulfillmentStatus := .pendingDelivery
  money := 10
  planDeliveryFields := buildAutoIssuedSubscriptionDeliveryFields

def paidHistory : History where
  tables :=
    { base := { users := [{ id := 7 }], plans := [{ id := 1, terms := paidOrder.terms }] }
      orders := [paidOrder] }

theorem paid_undecided : Undecided 5 paidHistory :=
  ⟨⟨by decide, by decide⟩, ⟨paidOrder, by decide +kernel, rfl⟩, rfl, rfl⟩

def deliverPaid : Event := .deliver { orderId := 5, now := 1000, serverAddress := "https://a" }

def rejectPaid (refund : Bool) : Event :=
  .reject { orderId := 5, now := 900, refundToQuota := refund, quotaOfMoney := fun _ => 50 }

def rejectThenDeliver (refund : Bool) : List Event := [rejectPaid refund, deliverPaid]

/-- A refunded order is delivered. -/
theorem refunded_order_delivered :
    ¬ ∀ (calendar : Calendar) (orderId : Int) (history : History) (events : List Event),
      Undecided orderId history → HonouredOnce orderId (run (step calendar) history events) := by
  intro always
  have exclusive := (always dayCount 5 paidHistory (rejectThenDeliver true) paid_undecided).exclusive
  have both : 0 < refundsOf 5 (run (step dayCount) paidHistory (rejectThenDeliver true)) ∧
      0 < issuedFor 5 (run (step dayCount) paidHistory (rejectThenDeliver true)).tables.base := by
    decide +kernel
  exact exclusive ⟨both.1, .inr both.2⟩

theorem rejected_order_delivered :
    HonouredOnce 5 (run (step dayCount) paidHistory (rejectThenDeliver false)) := by
  have permitted : Guarded (step dayCount) (DeliversUnrefunded dayCount 5) paidHistory
      (rejectThenDeliver false) := by
    refine ⟨trivial, ?_, trivial⟩
    intro _ _ order found
    have flag : ((step dayCount paidHistory (rejectPaid false)).tables.order 5).map
        ManualOrder.refundToQuota = some false := by
      decide +kernel
    have same := congrArg (Option.map ManualOrder.refundToQuota) found
    exact Option.some.inj (same.symm.trans flag)
  exact (honoured_once_iff_delivers_unrefunded paid_undecided (rejectThenDeliver false)).mpr
    permitted _ (List.prefix_refl _)

end NewApi.ManualDelivery
