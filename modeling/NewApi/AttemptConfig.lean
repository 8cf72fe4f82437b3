import NewApi.GoText

/-! What an attempt of a request is configured with. Every attempt writes its
channel into the keys of the request's context, reads its meta back from them,
maps the model name and applies the param override of its channel. The context
and the relay info are those of the request: the next attempt finds what the
last one left in them. -/
namespace NewApi.AttemptConfig
open NewApi.GoText

/-! ## Channels and requests -/

/-- The channel types that the set-up of a channel tells apart. -/
inductive ChannelType where
  | azure
  | vertexAi
  | xunfei
  | gemini
  | ali
  | cloudflare
  | mokaAI
  | coze
  | other (code : Int)
  deriving DecidableEq, Repr

abbrev Headers := List (String × String)

structure Channel (Json Setting : Type) where
  id : Int
  channelType : ChannelType
  createdTime : Int
  setting : Setting
  paramOverride : List (String × Json)
  headerOverride : Headers
  openAIOrganization : Option String
  modelMapping : String
  statusCodeMapping : String
  isMultiKey : Bool
  baseUrl : String
  other : String

structure OverrideContext (Failure : Type) where
  upstreamModel : String
  originalModel : String
  headerOverride : Headers
  retryIndex : Nat
  lastError : Option Failure

/-- What the client and the settings fix for all attempts of a request.
`unmarshalMapping` reads a model mapping. `applyParamOverride` is the header map
that the operations of a channel leave, `none` when they fail. -/
structure Request (Json Setting Failure : Type) where
  originModelName : String
  responsesCompact : Bool
  apiVersionQuery : String
  mergeAffinityTemplate : List (String × Json) → List (String × Json)
  unmarshalMapping : String → Option (List (String × String))
  applyParamOverride : Channel Json Setting → OverrideContext Failure → Option Headers

/-! ## Headers -/

def normalizeHeaderContextKey (key : String) : String := trimSpace (toLower key)

/-- `relay/common/override.go::isHeaderPassthroughRuleKeyForOverride`. -/
def isHeaderPassthroughRuleKeyForOverride (key : String) : Bool :=
  let key := trimSpace (toLower key)
  key ≠ "" && (key = "*" || hasPrefix key "re:" || hasPrefix key "regex:")

/-- `headers[key] = value`. -/
def setHeader (key value : String) : Headers → Headers
  | [] => [(key, value)]
  | (other, held) :: rest =>
    if key = other then (key, value) :: rest
    else if key < other then (key, value) :: (other, held) :: rest
    else (other, held) :: setHeader key value rest

/-- `relay/common/override.go::sanitizeHeaderOverrideMap`. -/
def sanitizeHeaderOverrideMap (source : Headers) : Headers :=
  source.foldl (fun target (key, value) =>
    let normalizedKey := normalizeHeaderContextKey key
    let normalizedValue := trimSpace value
    if normalizedKey = "" then target
    else if normalizedValue = "" then
      if isHeaderPassthroughRuleKeyForOverride normalizedKey then setHeader normalizedKey "" target
      else target
    else setHeader normalizedKey normalizedValue target) []

/-! ## The context and the relay info -/

section State
variable (Json Setting Failure : Type)

/-- The keys of `gin.Context` that hold the channel. -/
structure Context where
  originalModel : String := ""
  channelId : Int := 0
  channelType : ChannelType := .other 0
  createTime : Int := 0
  setting : Option Setting := none
  paramOverride : List (String × Json) := []
  headerOverride : Headers := []
  organization : String := ""
  modelMapping : String := ""
  statusCodeMapping : String := ""
  isMultiKey : Bool := false
  multiKeyIndex : Int := 0
  key : String := ""
  baseUrl : String := ""
  apiVersion : String := ""
  region : String := ""
  plugin : String := ""
  botId : String := ""

/-- `relay/common/relay_info.go::ChannelMeta`. -/
structure ChannelMeta where
  channelType : ChannelType := .other 0
  channelId : Int := 0
  channelIsMultiKey : Bool := false
  channelMultiKeyIndex : Int := 0
  channelBaseUrl : String := ""
  apiVersion : String := ""
  apiKey : String := ""
  organization : String := ""
  channelCreateTime : Int := 0
  paramOverride : List (String × Json) := []
  headersOverride : Headers := []
  channelSetting : Option Setting := none
  modelMapping : String := ""
  statusCodeMapping : String := ""
  upstreamModelName : String := ""
  isModelMapped : Bool := false

/-- The fields of `RelayInfo` that an attempt reads or writes. -/
structure RelayInfo where
  originModelName : String
  channelMeta : ChannelMeta Json Setting := {}
  runtimeHeadersOverride : Headers := []
  useRuntimeHeadersOverride : Bool := false
  retryIndex : Nat := 0
  lastError : Option Failure := none

structure State where
  context : Context Json Setting := {}
  info : RelayInfo Json Setting Failure

end State

/-! ## An attempt -/

section Code
variable {Json Setting Failure : Type}

def setOther (channelType : ChannelType) (other : String) (context : Context Json Setting) :
    Context Json Setting :=
  match channelType with
  | .azure | .xunfei | .gemini | .cloudflare | .mokaAI => { context with apiVersion := other }
  | .vertexAi => { context with region := other }
  | .ali => { context with plugin := other }
  | .coze => { context with botId := other }
  | .other _ => context

def Channel.organization (channel : Channel Json Setting) : Option String :=
  channel.openAIOrganization.filter fun name => name ≠ ""

/-- `middleware/distributor.go::SetupContextForSelectedChannel`, with the key
and the index that the channel has chosen. -/
def setupContextForSelectedChannel (request : Request Json Setting Failure)
    (channel : Channel Json Setting) (key : String) (index : Int) (modelName : String)
    (context : Context Json Setting) : Context Json Setting :=
  setOther channel.channelType channel.other { context with
    originalModel := modelName
    channelId := channel.id
    channelType := channel.channelType
    createTime := channel.createdTime
    setting := some channel.setting
    paramOverride := request.mergeAffinityTemplate channel.paramOverride
    headerOverride := channel.headerOverride
    organization := channel.organization.getD context.organization
    modelMapping := channel.modelMapping
    statusCodeMapping := channel.statusCodeMapping
    isMultiKey := channel.isMultiKey
    multiKeyIndex := if channel.isMultiKey then index else context.multiKeyIndex
    key := key
    baseUrl := channel.baseUrl }

/-- `relay/common/relay_utils.go::GetAPIVersion`. -/
def getAPIVersion (request : Request Json Setting Failure) (context : Context Json Setting) :
    String :=
  if request.apiVersionQuery = "" then context.apiVersion else request.apiVersionQuery

/-- `relay/common/relay_info.go::InitChannelMeta`. -/
def initChannelMeta (request : Request Json Setting Failure) (context : Context Json Setting)
    (info : RelayInfo Json Setting Failure) : RelayInfo Json Setting Failure :=
  { info with channelMeta :=
      { channelType := context.channelType
        channelId := context.channelId
        channelIsMultiKey := context.isMultiKey
        channelMultiKeyIndex := context.multiKeyIndex
        channelBaseUrl := context.baseUrl
        apiVersion :=
          if context.channelType = .azure then getAPIVersion request context
          else if context.channelType = .vertexAi then context.region
          else context.apiVersion
        apiKey := context.key
        organization := context.organization
        channelCreateTime := context.createTime
        paramOverride := context.paramOverride
        headersOverride := context.headerOverride
        channelSetting := context.setting
        modelMapping := context.modelMapping
        statusCodeMapping := context.statusCodeMapping
        upstreamModelName := context.originalModel
        isModelMapped := false } }

def compactModelSuffix : String := "-openai-compact"

/-- `setting/ratio_setting/compact_suffix.go::WithCompactModelSuffix`. -/
def withCompactModelSuffix (modelName : String) : String :=
  if hasSuffix modelName compactModelSuffix then modelName else modelName ++ compactModelSuffix

/-- How the walk along a model mapping ends: at the origin model itself, in a
cycle, or at the last model of the chain. -/
inductive MappingEnd where
  | originItself
  | cycle
  | last (model : String) (mapped : Bool)
  deriving DecidableEq, Repr

def redirection (mapping : List (String × String)) (model : String) : Option String :=
  (mapping.lookup model).filter fun mapped => mapped ≠ ""

theorem redirection_mem
    (redirected : redirection mapping model = some next) : next ∈ mapping.map Prod.snd := by
  have found := (Option.filter_eq_some_iff.mp redirected).1
  obtain ⟨before, after, shape, -⟩ := List.lookup_eq_some_iff.mp found
  rw [shape]
  simp

/-- The loop of `ModelMappedHelper`; the models that it has visited are distinct
targets of the mapping, but for the first. -/
def walkMapping (originModelName : String) (mapping : List (String × String))
    (visited : List String) (current : String) (mapped : Bool) : MappingEnd :=
  match _redirected : redirection mapping current with
  | none => .last current mapped
  | some next =>
    if _seen : next ∈ visited then
      if next = current then
        if current = originModelName then .originItself else .last current true
      else .cycle
    else walkMapping originModelName mapping (next :: visited) next true
termination_by ((mapping.map Prod.snd).filter fun target => target ∉ visited).length
decreasing_by
  have fresh : next ∈ (mapping.map Prod.snd).filter fun target => target ∉ visited :=
    List.mem_filter.mpr ⟨redirection_mem _redirected, by simpa using _seen⟩
  have fewer : ((mapping.map Prod.snd).filter fun target => target ∉ next :: visited) =
      ((mapping.map Prod.snd).filter fun target => target ∉ visited).filter fun target =>
        target ≠ next := by
    rw [List.filter_filter]
    apply List.filter_congr
    intro target _
    simp [not_or]
  rw [fewer]
  exact List.length_filter_lt_length_iff_exists.mpr ⟨next, fresh, by simp⟩

/-- `relay/helper/model_mapped.go::ModelMappedHelper`, with whether it returns
no error. -/
def modelMappedHelper (request : Request Json Setting Failure) (context : Context Json Setting)
    (info : RelayInfo Json Setting Failure) : RelayInfo Json Setting Failure × Bool :=
  let originModelName := info.originModelName
  let mappingModelName :=
    if request.responsesCompact && hasSuffix originModelName compactModelSuffix then
      trimSuffix originModelName compactModelSuffix
    else originModelName
  let finish (info : RelayInfo Json Setting Failure) : RelayInfo Json Setting Failure :=
    if request.responsesCompact then
      let finalUpstreamModelName :=
        if info.channelMeta.isModelMapped && info.channelMeta.upstreamModelName ≠ "" then
          info.channelMeta.upstreamModelName
        else mappingModelName
      { info with
        channelMeta := { info.channelMeta with upstreamModelName := finalUpstreamModelName }
        originModelName := withCompactModelSuffix finalUpstreamModelName }
    else info
  if context.modelMapping ≠ "" ∧ context.modelMapping ≠ "{}" then
    match request.unmarshalMapping context.modelMapping with
    | none => (info, false)
    | some mapping =>
      match walkMapping originModelName mapping [mappingModelName] mappingModelName false with
      | .originItself => ({ info with channelMeta := { info.channelMeta with isModelMapped := false } },
          true)
      | .cycle => ({ info with channelMeta := { info.channelMeta with isModelMapped := true } }, false)
      | .last current mapped => (finish { info with channelMeta := { info.channelMeta with
          isModelMapped := mapped
          upstreamModelName := if mapped then current else info.channelMeta.upstreamModelName } },
        true)
  else (finish info, true)

/-- `relay/common/override.go::GetEffectiveHeaderOverride`. -/
def getEffectiveHeaderOverride (info : RelayInfo Json Setting Failure) : Headers :=
  if info.useRuntimeHeadersOverride then sanitizeHeaderOverrideMap info.runtimeHeadersOverride
  else sanitizeHeaderOverrideMap info.channelMeta.headersOverride

/-- `relay/common/override.go::BuildParamOverrideContext`. -/
def buildParamOverrideContext (info : RelayInfo Json Setting Failure) : OverrideContext Failure where
  upstreamModel := info.channelMeta.upstreamModelName
  originalModel := info.originModelName
  headerOverride := sanitizeHeaderOverrideMap (getEffectiveHeaderOverride info)
  retryIndex := info.retryIndex
  lastError := info.lastError

/-- `relay/common/override.go::ApplyParamOverrideWithRelayInfo`: an override
that fails leaves the headers as they are. -/
def applyParamOverrideWithRelayInfo (request : Request Json Setting Failure)
    (channel : Channel Json Setting) (info : RelayInfo Json Setting Failure) :
    RelayInfo Json Setting Failure :=
  if info.channelMeta.paramOverride = [] then info
  else match request.applyParamOverride channel (buildParamOverrideContext info) with
  | none => info
  | some headers => { info with
      runtimeHeadersOverride := sanitizeHeaderOverrideMap headers
      useRuntimeHeadersOverride := true }

end Code

/-- A channel that is tried, with the key that it has chosen. `overrides` says
that the body is not passed through as it is. -/
structure Attempt (Json Setting : Type) where
  channel : Channel Json Setting
  key : String
  index : Int
  overrides : Bool

structure FailedAttempt (Json Setting Failure : Type) where
  attempt : Attempt Json Setting
  retryIndex : Nat
  error : Failure

section Attempts
variable {Json Setting Failure : Type}

def prepare (request : Request Json Setting Failure) (attempt : Attempt Json Setting)
    (retryIndex : Nat) (state : State Json Setting Failure) : State Json Setting Failure :=
  let context := setupContextForSelectedChannel request attempt.channel attempt.key attempt.index
    state.info.originModelName state.context
  let info := initChannelMeta request context { state.info with retryIndex := retryIndex }
  let (info, mapped) := modelMappedHelper request context info
  { context := context
    info := if mapped && attempt.overrides then
        applyParamOverrideWithRelayInfo request attempt.channel info
      else info }

def failAll (request : Request Json Setting Failure) (state : State Json Setting Failure)
    (failed : List (FailedAttempt Json Setting Failure)) : State Json Setting Failure :=
  failed.foldl (fun state failure =>
    let after := prepare request failure.attempt failure.retryIndex state
    { after with info := { after.info with lastError := some failure.error } }) state

def received (request : Request Json Setting Failure) : State Json Setting Failure where
  info := { originModelName := request.originModelName }

structure Configured where
  organization : String
  apiVersion : String
  apiKey : String
  baseUrl : String
  multiKeyIndex : Int
  upstreamModelName : String
  headerOverride : Headers
  deriving DecidableEq, Repr

def configured (state : State Json Setting Failure) : Configured where
  organization := state.info.channelMeta.organization
  apiVersion := state.info.channelMeta.apiVersion
  apiKey := state.info.channelMeta.apiKey
  baseUrl := state.info.channelMeta.channelBaseUrl
  multiKeyIndex := state.info.channelMeta.channelMultiKeyIndex
  upstreamModelName := state.info.channelMeta.upstreamModelName
  headerOverride := getEffectiveHeaderOverride state.info

def configuredAfter (request : Request Json Setting Failure) (attempt : Attempt Json Setting)
    (failed : List (FailedAttempt Json Setting Failure)) (retryIndex : Nat) : Configured :=
  configured (prepare request attempt retryIndex (failAll request (received request) failed))

end Attempts

/-! ## What an attempt takes from the ones before -/

section Leaks
variable {Json Setting Failure : Type}

structure Mapped where
  upstreamModelName : String
  originModelName : String
  ok : Bool
  deriving DecidableEq, Repr

/-- `ModelMappedHelper` with the mapping of a channel, on the name that the
relay info has for the model. -/
def mapModel (request : Request Json Setting Failure) (modelMapping originModelName : String) :
    Mapped :=
  let (info, ok) := modelMappedHelper request { modelMapping := modelMapping }
    { originModelName := originModelName
      channelMeta := { upstreamModelName := originModelName } }
  { upstreamModelName := info.channelMeta.upstreamModelName
    originModelName := info.originModelName
    ok := ok }

def versionOf (request : Request Json Setting Failure) (channel : Channel Json Setting)
    (left : String) : String :=
  match channel.channelType with
  | .azure => if request.apiVersionQuery = "" then channel.other else request.apiVersionQuery
  | .xunfei | .gemini | .cloudflare | .mokaAI | .vertexAi => channel.other
  | .ali | .coze | .other _ => left

def setsApiVersion : ChannelType → Bool
  | .azure | .xunfei | .gemini | .cloudflare | .mokaAI | .vertexAi => true
  | .ali | .coze | .other _ => false

/-- What the relay info carries from one attempt to the next. -/
structure Carried (Failure : Type) where
  originModelName : String
  lastError : Option Failure := none
  runtimeHeaders : Option Headers := none

def RelayInfo.runtime (info : RelayInfo Json Setting Failure) : Option Headers :=
  if info.useRuntimeHeadersOverride then some info.runtimeHeadersOverride else none

def RelayInfo.carried (info : RelayInfo Json Setting Failure) : Carried Failure where
  originModelName := info.originModelName
  lastError := info.lastError
  runtimeHeaders := info.runtime

/-- The runtime headers after an attempt: those of its param override, where it
has one that is applied. -/
def overriddenHeaders (request : Request Json Setting Failure) (attempt : Attempt Json Setting)
    (retryIndex : Nat) (carried : Carried Failure) : Option Headers :=
  let mapped := mapModel request attempt.channel.modelMapping carried.originModelName
  if mapped.ok && attempt.overrides &&
      !(request.mergeAffinityTemplate attempt.channel.paramOverride).isEmpty then
    ((request.applyParamOverride attempt.channel
      { upstreamModel := mapped.upstreamModelName
        originalModel := mapped.originModelName
        headerOverride := sanitizeHeaderOverrideMap (sanitizeHeaderOverrideMap
          (carried.runtimeHeaders.getD attempt.channel.headerOverride))
        retryIndex := retryIndex
        lastError := carried.lastError }).map sanitizeHeaderOverrideMap).or carried.runtimeHeaders
  else carried.runtimeHeaders

def headersOf (request : Request Json Setting Failure) (attempt : Attempt Json Setting)
    (retryIndex : Nat) (carried : Carried Failure) : Headers :=
  sanitizeHeaderOverrideMap
    ((overriddenHeaders request attempt retryIndex carried).getD attempt.channel.headerOverride)

def carriedOn (request : Request Json Setting Failure) (carried : Carried Failure)
    (failure : FailedAttempt Json Setting Failure) : Carried Failure where
  originModelName :=
    (mapModel request failure.attempt.channel.modelMapping carried.originModelName).originModelName
  lastError := some failure.error
  runtimeHeaders := overriddenHeaders request failure.attempt failure.retryIndex carried

def carriedAfter (request : Request Json Setting Failure)
    (failed : List (FailedAttempt Json Setting Failure)) : Carried Failure :=
  failed.foldl (carriedOn request) { originModelName := request.originModelName }

/-- Two states that an attempt on a channel is configured alike from: each value
is set by the channel, or left alike. -/
structure LeftAlike (request : Request Json Setting Failure) (attempt : Attempt Json Setting)
    (retryIndex otherIndex : Nat) (state other : State Json Setting Failure) : Prop where
  organization : attempt.channel.organization = none →
    state.context.organization = other.context.organization
  apiVersion : setsApiVersion attempt.channel.channelType = false →
    state.context.apiVersion = other.context.apiVersion
  multiKeyIndex : attempt.channel.isMultiKey = false →
    state.context.multiKeyIndex = other.context.multiKeyIndex
  upstreamModelName :
    (mapModel request attempt.channel.modelMapping state.info.originModelName).upstreamModelName =
      (mapModel request attempt.channel.modelMapping other.info.originModelName).upstreamModelName
  headerOverride : headersOf request attempt retryIndex state.info.carried =
    headersOf request attempt otherIndex other.info.carried

/-! The values that failed attempts leave for a channel that sets none. -/

def lastOf {Value : Type} (first : Value) (writes : FailedAttempt Json Setting Failure → Option Value)
    (failed : List (FailedAttempt Json Setting Failure)) : Value :=
  ((failed.filterMap writes).getLast?).getD first

def organizationLeft (failed : List (FailedAttempt Json Setting Failure)) : String :=
  lastOf "" (fun failure => failure.attempt.channel.organization) failed

/-- The types whose `other` column is the API version of the context. -/
def writtenVersion (channel : Channel Json Setting) : Option String :=
  match channel.channelType with
  | .azure | .xunfei | .gemini | .cloudflare | .mokaAI => some channel.other
  | .vertexAi | .ali | .coze | .other _ => none

def apiVersionLeft (failed : List (FailedAttempt Json Setting Failure)) : String :=
  lastOf "" (fun failure => writtenVersion failure.attempt.channel) failed

def multiKeyIndexLeft (failed : List (FailedAttempt Json Setting Failure)) : Int :=
  lastOf 0 (fun failure =>
    if failure.attempt.channel.isMultiKey then some failure.attempt.index else none) failed

/-- What an attempt takes from the failed ones before it is alike for two
sequences of them: the channel sets it, or both leave the same. -/
structure FailedAlike (request : Request Json Setting Failure) (attempt : Attempt Json Setting)
    (retryIndex otherIndex : Nat) (failed others : List (FailedAttempt Json Setting Failure)) :
    Prop where
  organization : attempt.channel.organization = none → organizationLeft failed = organizationLeft others
  apiVersion : setsApiVersion attempt.channel.channelType = false →
    apiVersionLeft failed = apiVersionLeft others
  multiKeyIndex : attempt.channel.isMultiKey = false → multiKeyIndexLeft failed = multiKeyIndexLeft others
  upstreamModelName :
    (mapModel request attempt.channel.modelMapping
        (carriedAfter request failed).originModelName).upstreamModelName =
      (mapModel request attempt.channel.modelMapping
        (carriedAfter request others).originModelName).upstreamModelName
  headerOverride : headersOf request attempt retryIndex (carriedAfter request failed) =
    headersOf request attempt otherIndex (carriedAfter request others)

variable {request : Request Json Setting Failure} {attempt : Attempt Json Setting}
variable {info : RelayInfo Json Setting Failure}

def RelayInfo.named (info : RelayInfo Json Setting Failure) (names : Mapped) (isMapped : Bool) :
    RelayInfo Json Setting Failure :=
  { info with
    originModelName := names.originModelName
    channelMeta := { info.channelMeta with
      upstreamModelName := names.upstreamModelName
      isModelMapped := isMapped } }

theorem model_mapped (request : Request Json Setting Failure) (context : Context Json Setting)
    (info : RelayInfo Json Setting Failure)
    (named : info.channelMeta.upstreamModelName = info.originModelName)
    (unmapped : info.channelMeta.isModelMapped = false) :
    ∃ isMapped, modelMappedHelper request context info =
      (info.named (mapModel request context.modelMapping info.originModelName) isMapped,
        (mapModel request context.modelMapping info.originModelName).ok) := by
  obtain ⟨originModelName, channelMeta, runtime, use, retryIndex, lastError⟩ := info
  dsimp only at named ⊢
  subst named
  unfold mapModel modelMappedHelper
  dsimp only
  split
  · cases request.unmarshalMapping context.modelMapping with
    | none => exact ⟨_, rfl⟩
    | some mapping =>
      dsimp only
      split
      · exact ⟨_, rfl⟩
      · exact ⟨_, rfl⟩
      · split
        · exact ⟨_, rfl⟩
        · exact ⟨_, rfl⟩
  · split
    · rw [unmapped]
      exact ⟨_, rfl⟩
    · exact ⟨_, rfl⟩

structure WrittenFor (request : Request Json Setting Failure) (channel : Channel Json Setting)
    (key : String) (index : Int) (modelName : String) (before after : Context Json Setting) :
    Prop where
  originalModel : after.originalModel = modelName
  channelType : after.channelType = channel.channelType
  paramOverride : after.paramOverride = request.mergeAffinityTemplate channel.paramOverride
  headerOverride : after.headerOverride = channel.headerOverride
  organization : after.organization = channel.organization.getD before.organization
  modelMapping : after.modelMapping = channel.modelMapping
  multiKeyIndex : after.multiKeyIndex = if channel.isMultiKey then index else before.multiKeyIndex
  key : after.key = key
  baseUrl : after.baseUrl = channel.baseUrl
  writtenVersion : after.apiVersion = (writtenVersion channel).getD before.apiVersion
  apiVersion : (if channel.channelType = .azure then getAPIVersion request after
      else if channel.channelType = .vertexAi then after.region else after.apiVersion) =
    versionOf request channel before.apiVersion

theorem setup_written (request : Request Json Setting Failure) (channel : Channel Json Setting)
    (key : String) (index : Int) (modelName : String) (context : Context Json Setting) :
    WrittenFor request channel key index modelName context
      (setupContextForSelectedChannel request channel key index modelName context) := by
  unfold setupContextForSelectedChannel setOther
  cases kind : channel.channelType <;> constructor <;> simp [kind, versionOf, getAPIVersion, writtenVersion]

theorem effective_headers (info : RelayInfo Json Setting Failure) :
    getEffectiveHeaderOverride info =
      sanitizeHeaderOverrideMap (info.runtime.getD info.channelMeta.headersOverride) := by
  unfold getEffectiveHeaderOverride RelayInfo.runtime
  split <;> rfl

def RelayInfo.withRuntime (info : RelayInfo Json Setting Failure) (headers : Headers) (use : Bool) :
    RelayInfo Json Setting Failure :=
  { info with runtimeHeadersOverride := headers, useRuntimeHeadersOverride := use }

theorem override_applied (request : Request Json Setting Failure) (channel : Channel Json Setting)
    (info : RelayInfo Json Setting Failure) :
    ∃ headers use, applyParamOverrideWithRelayInfo request channel info = info.withRuntime headers use ∧
      (info.withRuntime headers use).runtime = if info.channelMeta.paramOverride.isEmpty then info.runtime
        else ((request.applyParamOverride channel (buildParamOverrideContext info)).map
          sanitizeHeaderOverrideMap).or info.runtime := by
  unfold applyParamOverrideWithRelayInfo
  split
  · rename_i empty
    exact ⟨_, _, rfl, by rw [empty]; rfl⟩
  · rename_i some_
    rw [if_neg (by simpa using some_)]
    split
    · rename_i refused
      exact ⟨_, _, rfl, by rw [refused]; rfl⟩
    · rename_i headers applied
      exact ⟨_, _, rfl, by rw [applied]; rfl⟩

/-- An attempt writes its channel, maps the name that it finds, and leaves the
runtime headers of its param override. -/
theorem prepare_spec (request : Request Json Setting Failure) (attempt : Attempt Json Setting)
    (retryIndex : Nat) (state : State Json Setting Failure) :
    ∃ context isMapped headers use,
      let prepared := ((initChannelMeta request context { state.info with retryIndex := retryIndex }).named
        (mapModel request attempt.channel.modelMapping state.info.originModelName)
        isMapped).withRuntime headers use
      WrittenFor request attempt.channel attempt.key attempt.index state.info.originModelName
        state.context context ∧
      prepare request attempt retryIndex state = ⟨context, prepared⟩ ∧
      prepared.runtime = overriddenHeaders request attempt retryIndex state.info.carried := by
  have written := setup_written request attempt.channel attempt.key attempt.index
    state.info.originModelName state.context
  unfold prepare
  generalize setupContextForSelectedChannel request attempt.channel attempt.key attempt.index
    state.info.originModelName state.context = context at written ⊢
  obtain ⟨isMapped, mapped⟩ := model_mapped request context
    (initChannelMeta request context { state.info with retryIndex := retryIndex })
    written.originalModel rfl
  have sameNames : mapModel request context.modelMapping (initChannelMeta request context
      { state.info with retryIndex := retryIndex }).originModelName =
        mapModel request attempt.channel.modelMapping state.info.originModelName := by
    rw [written.modelMapping]
    rfl
  dsimp only
  rw [mapped, sameNames]
  have carriedName : state.info.carried.originModelName = state.info.originModelName := rfl
  unfold overriddenHeaders
  rw [← written.paramOverride, ← written.headerOverride, carriedName]
  generalize mapModel request attempt.channel.modelMapping state.info.originModelName = names
  dsimp only
  cases reached : (names.ok && attempt.overrides) with
  | false => exact ⟨context, isMapped, _, _, written, rfl, rfl⟩
  | true =>
    obtain ⟨headers, use, applied, runtime⟩ := override_applied request attempt.channel
      ((initChannelMeta request context { state.info with retryIndex := retryIndex }).named names isMapped)
    refine ⟨context, isMapped, headers, use, written, by rw [if_pos rfl, applied], runtime.trans ?_⟩
    have start : buildParamOverrideContext ((initChannelMeta request context
        { state.info with retryIndex := retryIndex }).named names isMapped) =
          { upstreamModel := names.upstreamModelName
            originalModel := names.originModelName
            headerOverride := sanitizeHeaderOverrideMap (sanitizeHeaderOverrideMap
              (state.info.runtime.getD context.headerOverride))
            retryIndex := retryIndex
            lastError := state.info.lastError } := by
      rw [buildParamOverrideContext, effective_headers]
      rfl
    have overrides : ((initChannelMeta request context
        { state.info with retryIndex := retryIndex }).named names isMapped).channelMeta.paramOverride =
          context.paramOverride := rfl
    rw [start, overrides]
    cases context.paramOverride.isEmpty <;> rfl

theorem prepare_configured (request : Request Json Setting Failure) (attempt : Attempt Json Setting)
    (retryIndex : Nat) (state : State Json Setting Failure) :
    configured (prepare request attempt retryIndex state) =
      { organization := attempt.channel.organization.getD state.context.organization
        apiVersion := versionOf request attempt.channel state.context.apiVersion
        apiKey := attempt.key
        baseUrl := attempt.channel.baseUrl
        multiKeyIndex :=
          if attempt.channel.isMultiKey then attempt.index else state.context.multiKeyIndex
        upstreamModelName :=
          (mapModel request attempt.channel.modelMapping state.info.originModelName).upstreamModelName
        headerOverride := headersOf request attempt retryIndex state.info.carried } := by
  obtain ⟨context, isMapped, headers, use, written, prepared, runtime⟩ :=
    prepare_spec request attempt retryIndex state
  rw [prepared, configured, effective_headers, runtime, headersOf, ← written.apiVersion,
    ← written.organization, ← written.multiKeyIndex, ← written.key, ← written.baseUrl,
    ← written.headerOverride, ← written.channelType]
  rfl

theorem configured_alike_iff (request : Request Json Setting Failure)
    (attempt : Attempt Json Setting) (retryIndex otherIndex : Nat)
    (state other : State Json Setting Failure) :
    configured (prepare request attempt retryIndex state) =
        configured (prepare request attempt otherIndex other) ↔
      LeftAlike request attempt retryIndex otherIndex state other := by
  rw [prepare_configured, prepare_configured, Configured.mk.injEq]
  constructor
  · rintro ⟨organization, version, -, -, index, model, headers⟩
    refine ⟨?_, ?_, ?_, model, headers⟩
    · intro none_
      simpa only [none_, Option.getD_none] using organization
    · intro unset
      unfold versionOf at version
      split at version <;> simp_all [setsApiVersion]
    · intro single
      simpa [single] using index
  · rintro ⟨organization, version, index, model, headers⟩
    refine ⟨?_, ?_, rfl, rfl, ?_, model, headers⟩
    · cases named : attempt.channel.organization with
      | none => simpa [named] using organization named
      | some name => rfl
    · unfold versionOf
      split <;> try rfl
      all_goals
        rename_i kind
        exact version (by rw [kind]; rfl)
    · cases multi : attempt.channel.isMultiKey with
      | false => simpa [multi] using index multi
      | true => rfl

theorem fail_all_cons (request : Request Json Setting Failure) (state : State Json Setting Failure)
    (failure : FailedAttempt Json Setting Failure)
    (failed : List (FailedAttempt Json Setting Failure)) :
    failAll request state (failure :: failed) =
      failAll request { prepare request failure.attempt failure.retryIndex state with
        info := { (prepare request failure.attempt failure.retryIndex state).info with
          lastError := some failure.error } } failed := rfl

theorem last_left {Value : Type} (request : Request Json Setting Failure) (read : Context Json Setting → Value)
    (writes : FailedAttempt Json Setting Failure → Option Value)
    (written : ∀ failure state, read
      (prepare request (FailedAttempt.attempt failure) failure.retryIndex state).context =
        (writes failure).getD (read state.context))
    (state : State Json Setting Failure) (failed : List (FailedAttempt Json Setting Failure)) :
    read (failAll request state failed).context = lastOf (read state.context) writes failed := by
  induction failed generalizing state with
  | nil => rfl
  | cons failure rest ih =>
    rw [fail_all_cons, ih]
    dsimp only
    rw [written, lastOf, lastOf]
    cases value : writes failure with
    | none => rw [List.filterMap_cons_none value, Option.getD_none]
    | some value_ =>
      rw [List.filterMap_cons_some value, List.getLast?_cons, Option.getD_some, Option.getD_some]

theorem carried_left (request : Request Json Setting Failure)
    (state : State Json Setting Failure) (failed : List (FailedAttempt Json Setting Failure)) :
    (failAll request state failed).info.carried =
      failed.foldl (carriedOn request) state.info.carried := by
  induction failed generalizing state with
  | nil => rfl
  | cons failure rest ih =>
    obtain ⟨context, isMapped, headers, use, -, prepared, runtime⟩ :=
      prepare_spec request failure.attempt failure.retryIndex state
    rw [fail_all_cons, ih, List.foldl_cons, prepared, carriedOn, ← runtime]
    rfl

/-- Two attempts with one channel and key, after two sequences of failed ones,
are configured alike exactly where both sequences leave the same of what the
channel does not set. -/
theorem attempts_configured_alike_iff (request : Request Json Setting Failure)
    (attempt : Attempt Json Setting) (failed others : List (FailedAttempt Json Setting Failure))
    (retryIndex otherIndex : Nat) :
    configuredAfter request attempt failed retryIndex =
        configuredAfter request attempt others otherIndex ↔
      FailedAlike request attempt retryIndex otherIndex failed others := by
  have organization : ∀ failed, (failAll request (received request) failed).context.organization =
      organizationLeft failed := fun failed =>
    last_left request Context.organization _ (fun failure state =>
      (setup_written request failure.attempt.channel _ _ _ _).organization) _ failed
  have version : ∀ failed, (failAll request (received request) failed).context.apiVersion =
      apiVersionLeft failed := fun failed =>
    last_left request Context.apiVersion _ (fun failure state =>
      (setup_written request failure.attempt.channel _ _ _ _).writtenVersion) _ failed
  have index : ∀ failed, (failAll request (received request) failed).context.multiKeyIndex =
      multiKeyIndexLeft failed := by
    intro failed
    apply last_left request Context.multiKeyIndex
    intro failure state
    refine (setup_written request failure.attempt.channel _ _ _ _).multiKeyIndex.trans ?_
    split <;> rfl
  have carried : ∀ failed, (failAll request (received request) failed).info.carried =
      carriedAfter request failed := carried_left request (received request)
  have origin : ∀ failed, (failAll request (received request) failed).info.originModelName =
      (carriedAfter request failed).originModelName :=
    fun failed => congrArg Carried.originModelName (carried failed)
  rw [configuredAfter, configuredAfter, configured_alike_iff]
  constructor
  · rintro ⟨sameOrganization, sameVersion, sameIndex, sameModel, sameHeaders⟩
    rw [organization, organization] at sameOrganization
    rw [version, version] at sameVersion
    rw [index, index] at sameIndex
    rw [origin, origin] at sameModel
    rw [carried, carried] at sameHeaders
    exact ⟨sameOrganization, sameVersion, sameIndex, sameModel, sameHeaders⟩
  · rintro ⟨sameOrganization, sameVersion, sameIndex, sameModel, sameHeaders⟩
    rw [← organization failed, ← organization others] at sameOrganization
    rw [← version failed, ← version others] at sameVersion
    rw [← index failed, ← index others] at sameIndex
    rw [← origin failed, ← origin others] at sameModel
    rw [← carried failed, ← carried others] at sameHeaders
    exact ⟨sameOrganization, sameVersion, sameIndex, sameModel, sameHeaders⟩

end Leaks

/-! ## A request that is retried -/

def plainRequest : Request Unit Unit Unit where
  originModelName := "gpt-4"
  responsesCompact := false
  apiVersionQuery := ""
  mergeAffinityTemplate := id
  unmarshalMapping := fun _ => some []
  applyParamOverride := fun _ context => some context.headerOverride

def plainChannel (id : Int) (organization : Option String) (headers : Headers) : Channel Unit Unit where
  id := id
  channelType := .other 1
  createdTime := 1750000000
  setting := ()
  paramOverride := if headers = [] then [] else [("temperature", ())]
  headerOverride := headers
  openAIOrganization := organization
  modelMapping := ""
  statusCodeMapping := ""
  isMultiKey := false
  baseUrl := "https://api.openai.com"
  other := ""

def plainAttempt (id : Int) (key : String) (organization : Option String) (headers : Headers) :
    Attempt Unit Unit where
  channel := plainChannel id organization headers
  key := key
  index := 0
  overrides := true

theorem organization_and_header_leak :
    ¬ ∀ (request : Request Unit Unit Unit) (attempt : Attempt Unit Unit)
      (failed others : List (FailedAttempt Unit Unit Unit)) (retryIndex otherIndex : Nat),
      configuredAfter request attempt failed retryIndex =
        configuredAfter request attempt others otherIndex := by
  intro always
  have own : configuredAfter plainRequest (plainAttempt 2 "sk-b" none []) [] 0 =
      { organization := "", apiVersion := "", apiKey := "sk-b", baseUrl := "https://api.openai.com"
        multiKeyIndex := 0, upstreamModelName := "gpt-4", headerOverride := [] } := by
    decide +kernel
  have taken : configuredAfter plainRequest (plainAttempt 2 "sk-b" none [])
      [{ attempt := plainAttempt 1 "sk-a" (some "org-a") [("x-tenant", "a")]
         retryIndex := 0, error := () }] 1 =
      { organization := "org-a", apiVersion := "", apiKey := "sk-b"
        baseUrl := "https://api.openai.com", multiKeyIndex := 0, upstreamModelName := "gpt-4"
        headerOverride := [("x-tenant", "a")] } := by
    decide +kernel
  have alike := always plainRequest (plainAttempt 2 "sk-b" none []) []
    [{ attempt := plainAttempt 1 "sk-a" (some "org-a") [("x-tenant", "a")]
       retryIndex := 0, error := () }] 0 1
  rw [own, taken] at alike
  exact absurd alike (by decide)

end NewApi.AttemptConfig
