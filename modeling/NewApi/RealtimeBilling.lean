import NewApi.BillingSettlement
import Mathlib.Algebra.BigOperators.Group.List.Basic

/-! A realtime session over a websocket. The relay takes an estimate before the
session, the reader of the upstream charges each response as it is done, and
what is left over is charged when the session ends. The estimate is not looked
at again, and a usage whose charge is refused is entered a second time. -/
namespace NewApi.RealtimeBilling
open NewApi.GuardedRun NewApi.KeyedTable NewApi.GoText
open NewApi.ResetWindow NewApi.Subscription
open NewApi.SubscriptionStore hiding step Event
open NewApi.RequestCharge NewApi.RequestBilling NewApi.BillingCalls NewApi.BillingSettlement

/-! ## Usage -/

/-- The fields of `dto/openai_response.go::InputTokenDetails` that a realtime
session adds up. -/
structure InputTokenDetails where
  cachedTokens : Int := 0
  textTokens : Int := 0
  audioTokens : Int := 0
  deriving DecidableEq, Repr

structure OutputTokenDetails where
  textTokens : Int := 0
  audioTokens : Int := 0
  deriving DecidableEq, Repr

/-- `dto/realtime.go::RealtimeUsage`. -/
@[ext] structure RealtimeUsage where
  totalTokens : Int := 0
  inputTokens : Int := 0
  outputTokens : Int := 0
  inputTokenDetails : InputTokenDetails := {}
  outputTokenDetails : OutputTokenDetails := {}
  deriving DecidableEq, Repr

instance : Zero RealtimeUsage := ⟨{}⟩

/-- The `+=` of every field. -/
instance : Add RealtimeUsage where
  add usage more :=
    { totalTokens := usage.totalTokens + more.totalTokens
      inputTokens := usage.inputTokens + more.inputTokens
      outputTokens := usage.outputTokens + more.outputTokens
      inputTokenDetails :=
        { cachedTokens := usage.inputTokenDetails.cachedTokens + more.inputTokenDetails.cachedTokens
          textTokens := usage.inputTokenDetails.textTokens + more.inputTokenDetails.textTokens
          audioTokens := usage.inputTokenDetails.audioTokens + more.inputTokenDetails.audioTokens }
      outputTokenDetails :=
        { textTokens := usage.outputTokenDetails.textTokens + more.outputTokenDetails.textTokens
          audioTokens :=
            usage.outputTokenDetails.audioTokens + more.outputTokenDetails.audioTokens } }

def RealtimeUsage.addInput (usage : RealtimeUsage) (textToken audioToken : Int) : RealtimeUsage :=
  { usage with
    totalTokens := usage.totalTokens + (textToken + audioToken)
    inputTokens := usage.inputTokens + (textToken + audioToken)
    inputTokenDetails := { usage.inputTokenDetails with
      textTokens := usage.inputTokenDetails.textTokens + textToken
      audioTokens := usage.inputTokenDetails.audioTokens + audioToken } }

def RealtimeUsage.addOutput (usage : RealtimeUsage) (textToken audioToken : Int) : RealtimeUsage :=
  { usage with
    totalTokens := usage.totalTokens + (textToken + audioToken)
    outputTokens := usage.outputTokens + (textToken + audioToken)
    outputTokenDetails := { usage.outputTokenDetails with
      textTokens := usage.outputTokenDetails.textTokens + textToken
      audioTokens := usage.outputTokenDetails.audioTokens + audioToken } }

theorem usage_add_def (usage more : RealtimeUsage) : usage + more = Add.add usage more := rfl

theorem usage_zero_def : (0 : RealtimeUsage) = {} := rfl

instance : AddMonoid RealtimeUsage where
  add_assoc one two three := by simp [usage_add_def, Add.add, Int.add_assoc]
  zero_add usage := by simp [usage_add_def, Add.add, usage_zero_def]
  add_zero usage := by simp [usage_add_def, Add.add, usage_zero_def]
  nsmul := nsmulRec

/-! ## Quota -/

structure TokenDetails where
  textTokens : Int
  audioTokens : Int

/-- `service/quota.go::QuotaInfo`. -/
structure QuotaInfo where
  inputDetails : TokenDetails
  outputDetails : TokenDetails
  modelName : String
  usePrice : Bool
  modelPrice : Rat := 0
  modelRatio : Rat
  groupRatio : Rat

/-- What `setting/ratio_setting` and the settings hold. -/
structure RatioSetting where
  quotaPerUnit : Rat
  getModelRatio : String → Rat
  getCompletionRatio : String → Rat
  getAudioRatio : String → Rat
  getAudioCompletionRatio : String → Rat
  getGroupRatio : String → Rat
  getGroupGroupRatio : String → String → Option Rat

def maxQuota : Int := 2147483647

def minQuota : Int := -2147483648

/-- `decimal.Round(0)`: half away from zero. -/
def roundHalfAway (value : Rat) : Int :=
  if 0 ≤ value then (value + 1 / 2).floor else -(-value + 1 / 2).floor

/-- `common/quota_math.go::QuotaFromDecimalChecked`, up to the clamp that is
noted. -/
def quotaFromDecimal (value : Rat) : Int :=
  let value := roundHalfAway value
  if value ≥ maxQuota then maxQuota else if value ≤ minQuota then minQuota else value

/-- `service/quota.go::calculateAudioQuota`. -/
def calculateAudioQuota (setting : RatioSetting) (info : QuotaInfo) : Int :=
  if info.usePrice then
    quotaFromDecimal (info.modelPrice * setting.quotaPerUnit * info.groupRatio)
  else
    let completionRatio := setting.getCompletionRatio info.modelName
    let audioRatio := setting.getAudioRatio info.modelName
    let audioCompletionRatio := setting.getAudioCompletionRatio info.modelName
    let ratio := info.groupRatio * info.modelRatio
    let quota := (info.inputDetails.textTokens + info.outputDetails.textTokens * completionRatio +
      info.inputDetails.audioTokens * audioRatio +
      info.outputDetails.audioTokens * audioRatio * audioCompletionRatio) * ratio
    -- A price that is not 0 is never charged as nothing.
    let quota := if ratio ≠ 0 ∧ quota ≤ 0 then 1 else quota
    quotaFromDecimal quota

theorem quota_from_decimal_nonneg (nonneg : 0 ≤ value) : 0 ≤ quotaFromDecimal value := by
  have rounded : 0 ≤ roundHalfAway value := by
    rw [roundHalfAway, if_pos nonneg, Rat.le_floor_iff]
    grind
  simp only [quotaFromDecimal, maxQuota, minQuota]
  by_cases large : roundHalfAway value ≥ 2147483647
  · simp [large]
  · have above : ¬ roundHalfAway value ≤ -2147483648 := by omega
    simpa [large, above] using rounded

theorem audio_quota_nonneg (setting : RatioSetting) (ratio : info.usePrice = false) :
    0 ≤ calculateAudioQuota setting info := by
  simp only [calculateAudioQuota, ratio, Bool.false_eq_true, if_false]
  apply quota_from_decimal_nonneg
  by_cases free : info.groupRatio * info.modelRatio = 0
  · simp [free]
  · split
    · decide
    · grind

/-! ## One charge -/

/-- `types/price_data.go::PriceData`, as far as a realtime session reads it. -/
structure PriceData where
  modelRatio : Rat
  groupRatio : Rat
  usePrice : Bool

/-- The fields of `RelayInfo` that realtime billing reads beside those of its
billing session, the group of the context, and what `TryTieredSettle` makes of
the input and output tokens. -/
structure RealtimeInfo where
  billing : BillingSession
  unlimitedQuota : Bool := false
  originModelName : String
  upstreamModelName : String
  usingGroup : String
  userGroup : String
  autoGroup : Option String := none
  usePrice : Bool := false
  priceData : PriceData
  tryTieredSettle : RealtimeUsage → Option Int := fun _ => none

abbrev RealtimeInfo.relayInfo (info : RealtimeInfo) : RelayInfo := info.billing.relayInfo

inductive WssError where
  | recordNotFound
  | userQuota (userQuota quota : Int)
  | tokenQuota (remainQuota quota : Int)
  | subscriptionIdMissing
  | funding (error : FundingError)
  | token (error : QuotaError)

/-- The funding step of `service/quota.go::PostConsumeQuota`. -/
def postConsumeFunding (billing : BillingSession) (quota now : Int) (books : Books) :
    Except WssError Books :=
  match billing.funding with
  | .subscription sub =>
    if sub.subscriptionId = 0 then .error .subscriptionIdMissing
    else if quota = 0 then .ok books
    else match postConsumeUserSubscriptionDeltaForWindow sub.subscriptionId quota 0
        sub.resetWindowStart sub.resetWindowEnd now books.db with
    | .error error => .error (.funding (.postConsume error))
    | .ok db => .ok { books with db := db }
  | .wallet _ =>
    (if quota > 0 then decreaseUserQuota billing.relayInfo.userId quota books
      else increaseUserQuota billing.relayInfo.userId (-quota) books).mapError
        fun error => .funding (.quota error)

/-- `service/quota.go::PostConsumeQuota`: what it leaves, and its error. -/
def postConsumeQuota (billing : BillingSession) (quota now : Int) (books : Books) :
    Books × Option WssError :=
  match postConsumeFunding billing quota now books with
  | .error error => (books, some error)
  | .ok books =>
    if billing.funding.useTokenQuota && !billing.relayInfo.isPlayground then
      match if quota > 0 then decreaseTokenQuota billing.relayInfo.tokenId quota books
        else increaseTokenQuota billing.relayInfo.tokenId (-quota) books with
      | .error error => (books, some (.token error))
      | .ok books => (books, none)
    else (books, none)

/-- The quota that `PreWssConsumeQuota` computes for a usage. -/
def preWssQuota (setting : RatioSetting) (info : RealtimeInfo) (usage : RealtimeUsage) : Int :=
  let usingGroup := info.autoGroup.getD info.usingGroup
  let groupRatio := setting.getGroupRatio usingGroup
  let actualGroupRatio := (setting.getGroupGroupRatio info.userGroup usingGroup).getD groupRatio
  calculateAudioQuota setting
    { inputDetails :=
        { textTokens := usage.inputTokenDetails.textTokens
          audioTokens := usage.inputTokenDetails.audioTokens }
      outputDetails :=
        { textTokens := usage.outputTokenDetails.textTokens
          audioTokens := usage.outputTokenDetails.audioTokens }
      modelName := info.originModelName
      usePrice := info.usePrice
      modelRatio := setting.getModelRatio info.originModelName
      groupRatio := actualGroupRatio }

def RealtimeInfo.token (info : RealtimeInfo) (books : Books) : Option Token :=
  lookup Token.key books.tokens (trimPrefix info.relayInfo.tokenKey "sk-")

/-- `service/quota.go::PreWssConsumeQuota`. -/
def preWssConsumeQuota (setting : RatioSetting) (info : RealtimeInfo) (usage : RealtimeUsage)
    (now : Int) (books : Books) : Books × Option WssError :=
  if info.usePrice then (books, none)
  else match info.token books with
  | none => (books, some .recordNotFound)
  | some token =>
    let quota := preWssQuota setting info usage
    let userQuota := books.userQuota info.relayInfo.userId
    if userQuota < quota then (books, some (.userQuota userQuota quota))
    else if !info.unlimitedQuota && token.remainQuota < quota then
      (books, some (.tokenQuota token.remainQuota quota))
    else postConsumeQuota info.billing quota now books

/-- The quota that `service/quota.go::PostWssConsumeQuota` writes to the consume
log. The price of a model with a fixed one is not handed on. -/
def postWssConsumeQuota (setting : RatioSetting) (info : RealtimeInfo) (usage : RealtimeUsage) :
    Int :=
  let quota := calculateAudioQuota setting
    { inputDetails :=
        { textTokens := usage.inputTokenDetails.textTokens
          audioTokens := usage.inputTokenDetails.audioTokens }
      outputDetails :=
        { textTokens := usage.outputTokenDetails.textTokens
          audioTokens := usage.outputTokenDetails.audioTokens }
      modelName := info.upstreamModelName
      usePrice := info.priceData.usePrice
      modelRatio := info.priceData.modelRatio
      groupRatio := info.priceData.groupRatio }
  let quota := (info.tryTieredSettle usage).getD quota
  if usage.totalTokens = 0 then 0 else quota

/-! ## The session -/

inductive Origin where
  | reported
  | estimated
  deriving DecidableEq, Repr

/-- One call of `preConsumeUsage`: the usage it entered, who counted it, and
whether its charge was carried out. -/
structure Record where
  usage : RealtimeUsage
  origin : Origin
  charged : Bool

/-- The variables of `OpenaiRealtimeHandler`. The reader of the upstream stops
when a charge is refused. The last two fields say what happened so far: the
usages that the upstream reported, and the calls of `preConsumeUsage`. -/
structure Handler where
  books : Books
  usage : RealtimeUsage := 0
  localUsage : RealtimeUsage := 0
  sumUsage : RealtimeUsage := 0
  reading : Bool := true
  reports : List RealtimeUsage := []
  records : List Record := []

/-- What the two readers receive. The token counts are those of
`CountTokenRealtime`. -/
inductive Message where
  | client (textToken audioToken : Int)
  | responseDone (usage : RealtimeUsage)
  | responseDoneUncounted (textToken audioToken : Int)
  | sessionChanged
  | upstream (textToken audioToken : Int)

/-- The steps of a session: a message at one of the readers, and the two charges
that the handler makes at the end. -/
inductive Event where
  | message (message : Message) (now : Int)
  | flushUsage (now : Int)
  | flushLocalUsage (now : Int)

section Steps
variable (setting : RatioSetting) (info : RealtimeInfo)

/-- `relay/channel/openai/relay-openai.go::preConsumeUsage`: the variables after
it, and its error. The usage enters the sum first. -/
def preConsumeUsage (usage : RealtimeUsage) (origin : Origin) (now : Int) (state : Handler) :
    Handler × Option WssError :=
  let outcome := preWssConsumeQuota setting info usage now state.books
  ({ state with
      books := outcome.1
      sumUsage := state.sumUsage + usage
      records := state.records ++ [{ usage, origin, charged := outcome.2.isNone }] },
    outcome.2)

def receive (state : Handler) (message : Message) (now : Int) : Handler :=
  match message with
  | .client textToken audioToken =>
    { state with localUsage := state.localUsage.addInput textToken audioToken }
  | .responseDone realtimeUsage =>
    if state.reading then
      let usage := state.usage + realtimeUsage
      match preConsumeUsage setting info usage .reported now
        { state with usage := usage, reports := state.reports ++ [realtimeUsage] } with
      | (state, some _) => { state with reading := false }
      | (state, none) => { state with usage := 0, localUsage := 0 }
    else state
  | .responseDoneUncounted textToken audioToken =>
    if state.reading then
      let localUsage := state.localUsage.addInput textToken audioToken
      match preConsumeUsage setting info localUsage .estimated now
        { state with localUsage := localUsage } with
      | (state, some _) => { state with reading := false }
      | (state, none) => { state with localUsage := 0 }
    else state
  | .sessionChanged => state
  | .upstream textToken audioToken =>
    if state.reading then
      { state with localUsage := state.localUsage.addOutput textToken audioToken }
    else state

/-- One step of `OpenaiRealtimeHandler`. -/
def step (state : Handler) : Event → Handler
  | .message message now => receive setting info state message now
  | .flushUsage now =>
    if state.usage.totalTokens ≠ 0 then
      (preConsumeUsage setting info state.usage .reported now state).1
    else state
  | .flushLocalUsage now =>
    if state.localUsage.totalTokens ≠ 0 then
      (preConsumeUsage setting info state.localUsage .estimated now state).1
    else state

end Steps

structure Received where
  message : Message
  now : Int

/-- A session from its first message on, in the order of its steps. One of the
connections closes, or a reader fails; then the handler charges what is left
over, and the consume log is written. The readers may go on meanwhile and
after it, until the connections are torn down. -/
structure Session where
  open_ : List Received
  flushed : Int
  closing : List Received
  flushedLocal : Int
  closed : List Received
  late : List Received

def messages (received : List Received) : List Event :=
  received.map fun received => .message received.message received.now

def Session.logged (session : Session) : List Event :=
  messages session.open_ ++ .flushUsage session.flushed ::
    (messages session.closing ++ .flushLocalUsage session.flushedLocal :: messages session.closed)

def Session.events (session : Session) : List Event := session.logged ++ messages session.late

/-! ## What a session owes -/

section Owed
variable (setting : RatioSetting) (info : RealtimeInfo)

def charge (usage : RealtimeUsage) : Int := if info.usePrice then 0 else preWssQuota setting info usage

def consumed (records : List Record) : Int :=
  ((records.filter Record.charged).map fun record => charge setting info record.usage).sum

def reported (records : List Record) : List RealtimeUsage :=
  (records.filter fun record => record.origin = .reported).map Record.usage

/-- A session billed as it should be. The source and the token have paid the
quotas of the usages that were consumed since before the session, every usage
that was reported is entered once into the total, and the log has what was
paid. A token that is not charged pays nothing. -/
structure BilledExactly (before opened : Books) (session : Session) : Prop where
  funding : FundingPaid info.billing.funding before opened
    (run (step setting info) { books := opened } session.events).books
    (consumed setting info (run (step setting info) { books := opened } session.events).records)
  token : TokenPaid info.billing before
    (run (step setting info) { books := opened } session.events).books
    (if chargesToken info.billing then
      consumed setting info (run (step setting info) { books := opened } session.events).records
    else 0)
  total : (run (step setting info) { books := opened } session.events).sumUsage =
    ((run (step setting info) { books := opened } session.events).records.map Record.usage).sum
  once : reported (run (step setting info) { books := opened } session.events).records =
    (run (step setting info) { books := opened } session.events).reports
  log : postWssConsumeQuota setting info
      (run (step setting info) { books := opened } session.logged).sumUsage =
    consumed setting info (run (step setting info) { books := opened } session.events).records

/-! ## When it is -/

def entering (state : Handler) : Event → Option RealtimeUsage
  | .message (.responseDone usage) _ => if state.reading then some (state.usage + usage) else none
  | .message (.responseDoneUncounted textToken audioToken) _ =>
    if state.reading then some (state.localUsage.addInput textToken audioToken) else none
  | .message _ _ => none
  | .flushUsage _ => if state.usage.totalTokens ≠ 0 then some state.usage else none
  | .flushLocalUsage _ => if state.localUsage.totalTokens ≠ 0 then some state.localUsage else none

def SourceAccepts (quota : Int) (books : Books) : Prop :=
  match info.billing.funding with
  | .wallet _ => True
  | .subscription sub => sub.subscriptionId ≠ 0 ∧ (quota ≠ 0 → 0 < sub.subscriptionId ∧
    ∃ row, books.db.subscription sub.subscriptionId = some row ∧
      (leftWindow row sub.resetWindowStart sub.resetWindowEnd = true ∨ SettlementFits row quota 0))

def SourceCurrent (books : Books) : Prop :=
  match info.billing.funding with
  | .wallet _ => True
  | .subscription sub => ∀ row, books.db.subscription sub.subscriptionId = some row →
    leftWindow row sub.resetWindowStart sub.resetWindowEnd = false

def Affordable (usage : RealtimeUsage) (books : Books) : Prop :=
  info.usePrice = true ∨ ∃ token, info.token books = some token ∧
    preWssQuota setting info usage ≤ books.userQuota info.relayInfo.userId ∧
    (info.unlimitedQuota = true ∨ preWssQuota setting info usage ≤ token.remainQuota) ∧
    SourceAccepts info (preWssQuota setting info usage) books

def StepAffordable (state : Handler) (event : Event) : Prop :=
  ∀ usage, entering state event = some usage →
    Affordable setting info usage state.books ∧ SourceCurrent info state.books

def KeepsNothing : Prop :=
  match info.billing.funding with
  | .wallet wallet => wallet.consumed = 0
  | .subscription sub => sub.amountTotal ≤ 0

end Owed

def usages (localUsage : RealtimeUsage) : List Event → List RealtimeUsage
  | [] => []
  | .message (.client textToken audioToken) _ :: rest =>
    usages (localUsage.addInput textToken audioToken) rest
  | .message (.responseDone usage) _ :: rest => usage :: usages 0 rest
  | .message (.responseDoneUncounted textToken audioToken) _ :: rest =>
    localUsage.addInput textToken audioToken :: usages 0 rest
  | .message .sessionChanged _ :: rest => usages localUsage rest
  | .message (.upstream textToken audioToken) _ :: rest =>
    usages (localUsage.addOutput textToken audioToken) rest
  | .flushUsage _ :: rest => usages localUsage rest
  | .flushLocalUsage _ :: rest =>
    if localUsage.totalTokens ≠ 0 then localUsage :: usages localUsage rest
    else usages localUsage rest

def PricedAlike (setting : RatioSetting) (info : RealtimeInfo) (session : Session) : Prop :=
  postWssConsumeQuota setting info (usages 0 session.logged).sum =
    ((usages 0 session.events).map (charge setting info)).sum

def RefusesReport (setting : RatioSetting) (info : RealtimeInfo) (opened : Books)
    (session : Session) : Prop :=
  ∃ earlier usage now later,
    session.open_ = earlier ++ { message := .responseDone usage, now := now } :: later ∧
    (run (step setting info) { books := opened } (messages earlier)).reading = true ∧
    usage.totalTokens ≠ 0 ∧
    ¬ Affordable setting info usage (run (step setting info) { books := opened } (messages earlier)).books

/-! ## One charge -/

section Charges
variable {info : RealtimeInfo} {books : Books}

theorem delta_taken_iff {id : Int} (moved : quota ≠ 0) (now : Int) :
    (∃ result, postConsumeUserSubscriptionDeltaForWindow id quota 0 windowStart windowEnd now db =
        .ok result) ↔
      0 < id ∧ ∃ row, db.subscription id = some row ∧
        (leftWindow row windowStart windowEnd = true ∨ SettlementFits row quota 0) := by
  by_cases positive : 0 < id
  · have known : ¬ id ≤ 0 := by omega
    simp only [postConsumeUserSubscriptionDeltaForWindow, known, moved, false_and, if_false,
      positive, true_and]
    cases found : db.subscription id with
    | none => simp
    | some row =>
      simp only [Option.some.injEq, exists_eq_left']
      cases left : leftWindow row windowStart windowEnd with
      | true => simp
      | false =>
        simp only [Bool.false_eq_true, if_false, false_or]
        constructor
        · rintro ⟨result, taken⟩
          cases settled : settleRow row quota 0 with
          | error error => simp [settled, Except.map] at taken
          | ok after => exact (settle_row_ok_iff.mp settled).2
        · intro fits
          exact ⟨_, by rw [settle_row_ok_iff.mpr ⟨rfl, fits⟩]; rfl⟩
  · have unknown : id ≤ 0 := by omega
    simp [postConsumeUserSubscriptionDeltaForWindow, unknown, positive]

theorem funding_consumes_iff (now : Int) :
    (∃ after, postConsumeFunding info.billing quota now books = .ok after) ↔
      SourceAccepts info quota books := by
  unfold postConsumeFunding SourceAccepts
  cases info.billing.funding with
  | wallet wallet =>
    simp only [iff_true]
    by_cases up : quota > 0
    · exact ⟨addUserQuota info.billing.relayInfo.userId (-quota) books, by
        simp [up, decreaseUserQuota, show ¬ quota < 0 by omega, Except.mapError]⟩
    · exact ⟨addUserQuota info.billing.relayInfo.userId (-quota) books, by
        simp [up, increaseUserQuota, Except.mapError]⟩
  | subscription sub =>
    by_cases named : sub.subscriptionId = 0
    · simp [named]
    · by_cases same : quota = 0
      · simp [named, same]
      · have moved : quota ≠ 0 := same
        simp only [named, same, if_false, ne_eq, not_false_eq_true, true_and, true_implies,
          ← delta_taken_iff moved now]
        cases postConsumeUserSubscriptionDeltaForWindow sub.subscriptionId quota 0
          sub.resetWindowStart sub.resetWindowEnd now books.db <;> simp

theorem consumed_affordable
    (accepted : (preWssConsumeQuota setting info usage now books).2 = none) :
    Affordable setting info usage books := by
  unfold preWssConsumeQuota at accepted
  by_cases priced : info.usePrice = true
  · exact .inl priced
  · simp only [priced, Bool.false_eq_true, if_false] at accepted
    cases found : info.token books with
    | none => simp [found] at accepted
    | some token =>
      simp only [found] at accepted
      split at accepted
      · cases accepted
      · split at accepted
        · cases accepted
        · rename_i enough room
          refine .inr ⟨token, found, by omega, ?_, (funding_consumes_iff now).mp ?_⟩
          · simp only [Bool.and_eq_true, Bool.not_eq_true', decide_eq_true_eq, not_and] at room
            cases unlimited : info.unlimitedQuota with
            | true => exact .inl rfl
            | false => exact .inr (Int.not_lt.mp (room unlimited))
          · unfold postConsumeQuota at accepted
            split at accepted
            · cases accepted
            · exact ⟨_, ‹_›⟩

theorem charge_nonneg (usage : RealtimeUsage) : 0 ≤ charge setting info usage := by
  unfold charge
  split
  · exact Int.le_refl 0
  · rename_i unpriced
    exact audio_quota_nonneg setting (by simpa using unpriced)

def SourcePaid (info : RealtimeInfo) (before opened books : Books) (paid : Int) : Prop :=
  match info.billing.funding with
  | .wallet wallet => wallet.userId = info.relayInfo.userId ∧
    (lookup User.id books.db.users wallet.userId).isSome ∧
    books.userQuota wallet.userId = before.userQuota wallet.userId - paid
  | .subscription sub => 0 < sub.subscriptionId ∧ ∃ record charged row,
    opened.db.record sub.request.requestId = some record ∧
    opened.db.subscription sub.subscriptionId = some charged ∧
    0 ≤ charged.amountUsed - record.preConsumedAmount ∧
    books.db.subscription sub.subscriptionId = some row ∧
    row.amountUsed = charged.amountUsed - record.preConsumedAmount + paid

structure Paid (info : RealtimeInfo) (before opened books : Books) (paid : Int) : Prop where
  nonneg : 0 ≤ paid
  stored : TokenStored info.relayInfo books
  token : TokenPaid info.billing before books (if chargesToken info.billing then paid else 0)
  source : SourcePaid info before opened books paid

theorem funding_paid_unique
    (held : Paid info before opened books paid) :
    FundingPaid info.billing.funding before opened books other ↔ other = paid := by
  have source := held.source
  revert source
  unfold SourcePaid FundingPaid
  cases info.billing.funding with
  | wallet wallet =>
    rintro ⟨-, -, quota⟩
    dsimp only
    omega
  | subscription sub =>
    rintro ⟨-, record, charged, row, recorded, opened, -, found, used⟩
    constructor
    · intro holds
      obtain ⟨_, there, sum⟩ := holds record charged recorded opened
      cases found.symm.trans there
      omega
    · rintro rfl again same recordedAgain openedAgain
      cases recorded.symm.trans recordedAgain
      cases opened.symm.trans openedAgain
      exact ⟨row, found, used⟩

theorem funding_pays (nonneg : 0 ≤ quota) (floor : 0 ≤ paid)
    (source : SourcePaid info before opened books paid) (accepts : SourceAccepts info quota books)
    (current : SourceCurrent info books) (now : Int) :
    ∃ after, postConsumeFunding info.billing quota now books = .ok after ∧
      after.tokens = books.tokens ∧ SourcePaid info before opened after (paid + quota) := by
  revert source accepts current
  unfold SourcePaid SourceAccepts SourceCurrent postConsumeFunding
  cases info.billing.funding with
  | wallet wallet =>
    rintro ⟨mine, known, balance⟩ - -
    have mine' : wallet.userId = info.billing.relayInfo.userId := mine
    refine ⟨addUserQuota info.billing.relayInfo.userId (-quota) books, ?_, rfl, mine, ?_, ?_⟩
    · by_cases up : quota > 0
      · simp [up, decreaseUserQuota, show ¬ quota < 0 by omega, Except.mapError]
      · simp [up, increaseUserQuota, Except.mapError]
    · rw [← mine', add_quota_user, if_pos rfl]
      simpa using known
    · rw [← mine', add_quota_self known, balance]
      omega
  | subscription sub =>
    rintro ⟨positive, record, charged, row, recorded, opened, base, found, used⟩ ⟨named, fits⟩ current
    have known : ¬ sub.subscriptionId ≤ 0 := by omega
    dsimp only
    rw [if_neg named]
    by_cases same : quota = 0
    · refine ⟨books, if_pos same, rfl, positive, record, charged, row, recorded, opened, base, found,
        ?_⟩
      omega
    · obtain ⟨-, other, held, either⟩ := fits same
      rw [found, Option.some.injEq] at held
      subst held
      have here := current row found
      have room : SettlementFits row quota 0 := by simpa [here] using either
      refine ⟨{ books with db := books.db.saveSubscription ((settledRow row quota 0).touch now) },
        ?_, rfl, positive, record, charged, (settledRow row quota 0).touch now, recorded, opened,
        base, ?_, ?_⟩
      · simp [same, postConsumeUserSubscriptionDeltaForWindow, known, found, here,
          settle_row_ok_iff.mpr ⟨rfl, room⟩, Except.map]
      · have mine : row.id = sub.subscriptionId := lookup_key found
        have key : sub.subscriptionId = ((settledRow row quota 0).touch now).id := mine.symm
        exact (lookup_save books.db.subscriptions _ _).trans (by
          rw [if_pos key]
          exact congrArg (Option.map _) found)
      · simp only [settledRow, same, UserSubscription.touch_amountUsed,
          UserSubscription.setUsage_amountUsed, applyDelta, ne_eq, not_false_eq_true, if_true]
        omega

theorem post_consume_pays (nonneg : 0 ≤ quota)
    (held : Paid info before opened books paid) (accepts : SourceAccepts info quota books)
    (current : SourceCurrent info books) (now : Int) :
    ∃ after, postConsumeQuota info.billing quota now books = (after, none) ∧
      Paid info before opened after (paid + quota) := by
  obtain ⟨funded, consumes, tokens, source⟩ :=
    funding_pays nonneg held.nonneg held.source accepts current now
  have more : 0 ≤ paid + quota := by
    have := held.nonneg
    omega
  have stored : TokenStored info.relayInfo funded := by
    intro charged
    obtain ⟨positive, known⟩ := held.stored charged
    exact ⟨positive, by rwa [Books.token, tokens]⟩
  have balance : ∀ id, funded.tokenBalance id = books.tokenBalance id := fun id => by
    simp only [Books.tokenBalance, Books.token, tokens]
  unfold postConsumeQuota
  rw [consumes]
  by_cases charges : chargesToken info.billing = true
  · have used : (info.billing.funding.useTokenQuota && !info.billing.relayInfo.isPlayground) = true :=
      charges
    have played : info.billing.relayInfo.isPlayground = false := by
      simp only [chargesToken, Bool.and_eq_true, Bool.not_eq_true'] at charges
      exact charges.2
    obtain ⟨positive, known⟩ := stored played
    have moved : (if quota > 0 then decreaseTokenQuota info.billing.relayInfo.tokenId quota funded
        else increaseTokenQuota info.billing.relayInfo.tokenId (-quota) funded) =
          .ok (moveToken info.billing.relayInfo.tokenId (-quota) funded) := by
      have adjusted : adjustTokenQuota info.billing.relayInfo.tokenId (-quota) funded =
          .ok (moveToken info.billing.relayInfo.tokenId (-quota) funded) :=
        adjust_token_ok positive known
      by_cases up : quota > 0
      · simpa [up, decreaseTokenQuota, show ¬ quota < 0 by omega] using adjusted
      · simpa [up, increaseTokenQuota, show ¬ 0 < quota by omega] using adjusted
    refine ⟨moveToken info.billing.relayInfo.tokenId (-quota) funded, ?_, more,
      token_stored_move _ _ stored, ?_, source⟩
    · simp only [used, if_true, moved]
    · have token := held.token
      rw [TokenPaid, charges, if_pos rfl] at token ⊢
      rw [move_token_balance, if_pos rfl, balance, token, Option.map_map]
      congr 1
      funext pair
      simp only [Function.comp_apply, Prod.mk.injEq]
      omega
  · have unused : ¬ (info.billing.funding.useTokenQuota && !info.billing.relayInfo.isPlayground) =
        true := charges
    refine ⟨funded, if_neg unused, more, stored, ?_, source⟩
    have token := held.token
    rw [TokenPaid, if_neg charges] at token ⊢
    rw [balance, token]

theorem charge_pays
    (held : Paid info before opened books paid) (affordable : Affordable setting info usage books)
    (current : SourceCurrent info books) (now : Int) :
    ∃ after, preWssConsumeQuota setting info usage now books = (after, none) ∧
      Paid info before opened after (paid + charge setting info usage) := by
  rcases affordable with priced | ⟨token, found, enough, room, accepts⟩
  · exact ⟨books, by simp [preWssConsumeQuota, priced], by simpa [charge, priced] using held⟩
  · by_cases priced : info.usePrice = true
    · exact ⟨books, by simp [preWssConsumeQuota, priced], by simpa [charge, priced] using held⟩
    · have cost : charge setting info usage = preWssQuota setting info usage := by
        simp [charge, priced]
      have nonneg : 0 ≤ preWssQuota setting info usage := cost ▸ charge_nonneg usage
      obtain ⟨after, consumes, paid⟩ := post_consume_pays nonneg held accepts current now
      refine ⟨after, ?_, cost ▸ paid⟩
      have fits : ¬ (!info.unlimitedQuota && decide (token.remainQuota <
          preWssQuota setting info usage)) = true := by
        simp only [Bool.and_eq_true, Bool.not_eq_true', decide_eq_true_eq, not_and, not_lt]
        intro limited
        rcases room with unlimited | room
        · simp [unlimited] at limited
        · exact room
      simp only [preWssConsumeQuota, priced, Bool.false_eq_true, if_false, found,
        show ¬ books.userQuota info.relayInfo.userId < preWssQuota setting info usage by omega, fits]
      exact consumes

end Charges

/-! ## What the run enters -/

section Runs
variable {setting : RatioSetting} {info : RealtimeInfo} {before opened : Books}

/-- A session that nothing was refused in. It has paid for what it entered on
top of what its opening took. -/
structure Clear (setting : RatioSetting) (info : RealtimeInfo) (before opened : Books) (kept : Int)
    (state : Handler) : Prop where
  usage : state.usage = 0
  reading : state.reading = true
  charged : ∀ record ∈ state.records, record.charged = true
  once : reported state.records = state.reports
  paid : Paid info before opened state.books (kept + consumed setting info state.records)

@[simp] theorem reported_append (records more : List Record) :
    reported (records ++ more) = reported records ++ reported more := by
  simp [reported]

@[simp] theorem consumed_append (records more : List Record) :
    consumed setting info (records ++ more) =
      consumed setting info records + consumed setting info more := by
  simp [consumed]

theorem step_sums (setting : RatioSetting) (info : RealtimeInfo) (state : Handler) (event : Event) :
    ∃ added, (step setting info state event).records = state.records ++ added ∧
      (step setting info state event).sumUsage = state.sumUsage + (added.map Record.usage).sum := by
  cases event with
  | flushUsage | flushLocalUsage =>
    simp only [step]
    split
    · exact ⟨_, rfl, by simp [preConsumeUsage]⟩
    · exact ⟨[], by simp⟩
  | message message now =>
    cases message with
    | client | sessionChanged => exact ⟨[], by simp [step, receive]⟩
    | upstream textToken audioToken =>
      simp only [step, receive]
      split <;> exact ⟨[], by simp⟩
    | responseDone | responseDoneUncounted =>
      simp only [step, receive, preConsumeUsage]
      split
      · generalize preWssConsumeQuota setting info _ now state.books = outcome
        obtain ⟨after, _ | error⟩ := outcome <;> exact ⟨_, rfl, by simp⟩
      · exact ⟨[], by simp⟩

theorem run_total (setting : RatioSetting) (info : RealtimeInfo) (opened : Books) (events : List Event) :
    (run (step setting info) { books := opened } events).sumUsage =
      ((run (step setting info) { books := opened } events).records.map Record.usage).sum := by
  have kept : ∀ (state : Handler) event, state.sumUsage = (state.records.map Record.usage).sum →
      (step setting info state event).sumUsage =
        ((step setting info state event).records.map Record.usage).sum := by
    intro state event total
    obtain ⟨added, records, sum⟩ := step_sums setting info state event
    rw [records, sum, total, List.map_append, List.sum_append]
  exact run_preserves_always kept events rfl

theorem clear_enters
    (clear : Clear setting info before opened kept state) (origin : Origin)
    (localUsage sumUsage : RealtimeUsage) (paid : Paid info before opened after
      (kept + consumed setting info state.records + charge setting info usage)) :
    Clear setting info before opened kept
      { state with
        books := after
        usage := 0
        localUsage := localUsage
        sumUsage := sumUsage
        reports := state.reports ++ if origin = .reported then [usage] else []
        records := state.records ++ [{ usage, origin, charged := true }] } := by
  refine ⟨rfl, clear.reading, ?_, ?_, ?_⟩
  · intro record member
    rcases List.mem_append.mp member with earlier | last
    · exact clear.charged record earlier
    · rw [List.mem_singleton.mp last]
  · cases origin <;> simp [reported, ← clear.once]
  · have cost : consumed setting info [{ usage, origin, charged := true }] =
        charge setting info usage := by simp [consumed]
    rw [consumed_append, cost, ← Int.add_assoc]
    exact paid

theorem clear_step
    (clear : Clear setting info before opened kept state)
    (affordable : StepAffordable setting info state event) :
    Clear setting info before opened kept (step setting info state event) ∧
      ∃ added, (step setting info state event).records.map Record.usage =
          state.records.map Record.usage ++ added ∧
        ∀ rest, usages state.localUsage (event :: rest) =
          added ++ usages (step setting info state event).localUsage rest := by
  have pays : ∀ usage, entering state event = some usage → ∀ now, ∃ after,
      preWssConsumeQuota setting info usage now state.books = (after, none) ∧
      Paid info before opened after
        (kept + consumed setting info state.records + charge setting info usage) := by
    intro usage enters now
    obtain ⟨accepted, current⟩ := affordable usage enters
    exact charge_pays clear.paid accepted current now
  cases event with
  | flushUsage now =>
    have none_left : ¬ state.usage.totalTokens ≠ 0 := by
      rw [clear.usage]
      simp [usage_zero_def]
    simp only [step, if_neg none_left]
    exact ⟨clear, [], by simp, fun _ => rfl⟩
  | flushLocalUsage now =>
    by_cases counted : state.localUsage.totalTokens ≠ 0
    · obtain ⟨after, consumes, paid⟩ := pays state.localUsage (if_pos counted) now
      have stepped : step setting info state (.flushLocalUsage now) =
          { state with
            books := after
            usage := 0
            localUsage := state.localUsage
            sumUsage := state.sumUsage + state.localUsage
            reports := state.reports ++ if Origin.estimated = .reported then [state.localUsage] else []
            records := state.records ++
              [{ usage := state.localUsage, origin := .estimated, charged := true }] } := by
        simp [step, counted, preConsumeUsage, consumes, clear.usage]
      rw [stepped]
      refine ⟨clear_enters clear .estimated _ _ paid, [state.localUsage], by simp, fun rest => ?_⟩
      simp [usages, counted]
    · simp only [step, if_neg counted]
      exact ⟨clear, [], by simp, fun _ => by simp [usages, counted]⟩
  | message message now =>
    cases message with
    | client textToken audioToken => exact ⟨⟨clear.1, clear.2, clear.3, clear.4, clear.5⟩, [], by simp [step, receive], fun _ => rfl⟩
    | sessionChanged => exact ⟨clear, [], by simp [step, receive], fun _ => rfl⟩
    | upstream textToken audioToken =>
      simp only [step, receive, clear.reading, if_true]
      exact ⟨⟨clear.1, rfl, clear.3, clear.4, clear.5⟩, [], by simp, fun _ => rfl⟩
    | responseDone usage =>
      obtain ⟨after, consumes, paid⟩ := pays usage (by simp [entering, clear.reading, clear.usage]) now
      have stepped : step setting info state (.message (.responseDone usage) now) =
          { state with
            books := after
            usage := 0
            localUsage := 0
            sumUsage := state.sumUsage + usage
            reports := state.reports ++ if Origin.reported = .reported then [usage] else []
            records := state.records ++ [{ usage, origin := .reported, charged := true }] } := by
        simp [step, receive, preConsumeUsage, consumes, clear.usage, clear.reading]
      rw [stepped]
      exact ⟨clear_enters clear .reported _ _ paid, [usage], by simp, fun rest => rfl⟩
    | responseDoneUncounted textToken audioToken =>
      obtain ⟨after, consumes, paid⟩ := pays (state.localUsage.addInput textToken audioToken)
        (by simp [entering, clear.reading]) now
      have stepped : step setting info state (.message (.responseDoneUncounted textToken audioToken) now) =
          { state with
            books := after
            usage := 0
            localUsage := 0
            sumUsage := state.sumUsage + state.localUsage.addInput textToken audioToken
            reports := state.reports ++ if Origin.estimated = .reported then
              [state.localUsage.addInput textToken audioToken] else []
            records := state.records ++ [{
              usage := state.localUsage.addInput textToken audioToken
              origin := .estimated
              charged := true }] } := by
        simp [step, receive, preConsumeUsage, consumes, clear.usage, clear.reading]
      rw [stepped]
      exact ⟨clear_enters clear .estimated _ _ paid,
        [state.localUsage.addInput textToken audioToken], by simp, fun rest => rfl⟩

theorem clear_run (events : List Event)
    (clear : Clear setting info before opened kept state)
    (affordable : Guarded (step setting info) (StepAffordable setting info) state events) :
    Clear setting info before opened kept (run (step setting info) state events) ∧
      (run (step setting info) state events).records.map Record.usage =
        state.records.map Record.usage ++ usages state.localUsage events := by
  induction events generalizing state with
  | nil => exact ⟨clear, by simp [usages]⟩
  | cons event rest ih =>
    obtain ⟨next, added, records, expands⟩ := clear_step clear affordable.1
    obtain ⟨ended, entered⟩ := ih next affordable.2
    refine ⟨ended, ?_⟩
    rw [run_cons, entered, records, expands, List.append_assoc]

theorem clear_consumed
    (clear : Clear setting info before opened kept state) :
    consumed setting info state.records =
      ((state.records.map Record.usage).map (charge setting info)).sum := by
  rw [consumed, List.filter_eq_self.mpr clear.charged, List.map_map]
  rfl

end Runs

/-! ## The opening -/

section Opening

theorem wallet_opening_paid
    (opening : WalletSession info.relayInfo quota before opened info.billing) :
    ∃ kept, Paid info before opened opened kept ∧ (KeepsNothing info ↔ kept = 0) := by
  have took := wallet_opening opening
  have funding : info.billing.funding = .wallet
      { userId := info.relayInfo.userId, consumed := if quota ≤ 0 then 0 else quota } := by
    rw [opening.shape]
    rfl
  have taken : info.billing.tokenConsumed = if quota ≤ 0 then 0 else quota := by
    rw [opening.shape]
    simp only [sessionOf, FundingSource.useTokenQuota, true_and]
    split <;> split <;> omega
  refine ⟨info.billing.tokenConsumed, ⟨?_, took.stored, took.token, ?_⟩, ?_⟩
  · rw [taken]
    split <;> omega
  · rw [SourcePaid, funding]
    exact ⟨rfl, took.user, took.wallet⟩
  · rw [KeepsNothing, funding, taken]

theorem subscription_opening_paid
    (opening : SubscriptionSession calendar info.relayInfo now request before tables sub result
      info.billing opened) :
    ∃ kept, Paid info before opened opened kept ∧ (KeepsNothing info ↔ kept = 0) := by
  obtain ⟨id, total, -⟩ := funding_row opening.charged
  obtain ⟨amount, -⟩ := charged_usage sub now opening.charged.positive
  have positive := opening.charged.positive
  have recorded : (chargeRecord request sub now).preConsumedAmount =
      if 0 < sub.amountTotal then request.amount else 0 := by
    by_cases capped : 0 < sub.amountTotal
    · rw [if_pos capped]
      exact (charged_amount opening.charged capped).2
    · rw [if_neg capped]
      exact charged_count opening.charged (by omega)
  refine ⟨if 0 < sub.amountTotal then request.amount else 0, ⟨?_, opening.held, ?_, ?_⟩, ?_⟩
  · split <;> omega
  · have token := opening.paid
    rwa [opening.taken] at token
  · rw [SourcePaid, opening.funding]
    dsimp only
    rw [id]
    refine ⟨opening.counted.id, chargeRecord request sub now, chargedRow request sub now,
      chargedRow request sub now, opened_record opening, opened_row opening, ?_,
      opened_row opening, ?_⟩
    · have base := opening.counted.amountUsed
      omega
    · omega
  · rw [KeepsNothing, opening.funding]
    dsimp only
    split <;> omega

theorem opening_paid
    (unique : (before.db.subscriptions.map UserSubscription.id).Nodup)
    (counted : ∀ sub ∈ before.db.subscriptions, Counted sub)
    (fresh : before.db.record info.relayInfo.request.requestId = none)
    (user : (lookup User.id before.db.users info.relayInfo.userId).isSome)
    (token : TokenStored info.relayInfo before)
    (opens : newBillingSession calendar preference info.relayInfo quota now before =
      (opened, .ok info.billing)) :
    ∃ kept, Paid info before opened opened kept ∧ (KeepsNothing info ↔ kept = 0) := by
  rcases session_opened unique counted fresh user token opens with opening | ⟨_, _, _, opening⟩
  · exact wallet_opening_paid opening
  · exact subscription_opening_paid opening

end Opening

/-! ## A session that can be paid for -/

section Sessions
variable {setting : RatioSetting} {info : RealtimeInfo} {before opened : Books}

theorem clear_opened (paid : Paid info before opened opened kept) :
    Clear setting info before opened kept { books := opened } :=
  ⟨rfl, rfl, fun _ member => absurd member List.not_mem_nil, rfl, by simpa [consumed] using paid⟩

theorem affordable_billed_iff (paid : Paid info before opened opened kept)
    (keeps : KeepsNothing info ↔ kept = 0) (session : Session)
    (affordable : Guarded (step setting info) (StepAffordable setting info) { books := opened }
      session.events) :
    BilledExactly setting info before opened session ↔
      KeepsNothing info ∧ PricedAlike setting info session := by
  obtain ⟨clear, entered⟩ := clear_run session.events (clear_opened paid) affordable
  obtain ⟨logged, written⟩ := clear_run session.logged (clear_opened paid)
    ((guarded_append _ _ _).mp affordable).1
  have cost := clear_consumed clear
  have total := run_total setting info opened session.logged
  rw [entered, List.map_nil, List.nil_append] at cost
  rw [written, List.map_nil, List.nil_append] at total
  have same : PricedAlike setting info session ↔ postWssConsumeQuota setting info
      (run (step setting info) { books := opened } session.logged).sumUsage =
        consumed setting info (run (step setting info) { books := opened } session.events).records := by
    rw [PricedAlike, total, cost]
  rw [keeps, same]
  constructor
  · intro billed
    refine ⟨?_, billed.log⟩
    have sum := (funding_paid_unique clear.paid).mp billed.funding
    omega
  · rintro ⟨nothing, log⟩
    have exact_ := clear.paid
    rw [nothing, Int.zero_add] at exact_
    exact ⟨(funding_paid_unique exact_).mpr rfl, exact_.token, run_total setting info opened session.events,
      clear.once, log⟩

/-! ## A report that is refused -/

structure Pending (state : Handler) : Prop where
  stopped : state.reading = false
  left_ : state.usage.totalTokens ≠ 0
  once : state.reports.length ≤ (reported state.records).length

structure Doubled (state : Handler) : Prop where
  stopped : state.reading = false
  twice : state.reports.length < (reported state.records).length

theorem message_reads (state : Handler) (message : Message) (now : Int)
    (once : state.reading = true → state.usage = 0 ∧ reported state.records = state.reports) :
    (step setting info state (.message message now)).reading = true →
      (step setting info state (.message message now)).usage = 0 ∧
        reported (step setting info state (.message message now)).records =
          (step setting info state (.message message now)).reports := by
  cases message with
  | client | sessionChanged => exact once
  | upstream textToken audioToken =>
    simp only [step, receive]
    split <;> exact once
  | responseDone | responseDoneUncounted =>
    simp only [step, receive, preConsumeUsage]
    split
    · rename_i reads
      obtain ⟨none_left, same⟩ := once reads
      generalize preWssConsumeQuota setting info _ now state.books = outcome
      obtain ⟨after, _ | error⟩ := outcome
      · simp [reported, ← same, none_left]
      · simp
    · exact once

theorem messages_read (received : List Received) (state : Handler)
    (once : state.reading = true → state.usage = 0 ∧ reported state.records = state.reports) :
    (run (step setting info) state (messages received)).reading = true →
      (run (step setting info) state (messages received)).usage = 0 ∧
        reported (run (step setting info) state (messages received)).records =
          (run (step setting info) state (messages received)).reports := by
  induction received generalizing state with
  | nil => exact once
  | cons first rest ih => exact ih _ (message_reads state first.message first.now once)

theorem stopped_step (setting : RatioSetting) (info : RealtimeInfo) (state : Handler) (event : Event)
    (stopped : state.reading = false) :
    (step setting info state event).reading = false ∧
      (step setting info state event).usage = state.usage ∧
      (step setting info state event).reports = state.reports := by
  cases event with
  | flushUsage | flushLocalUsage =>
    simp only [step]
    split <;> exact ⟨stopped, rfl, rfl⟩
  | message message now =>
    cases message <;> simp [step, receive, stopped]

theorem pending_step (state : Handler) (event : Event) (pending : Pending state) :
    Pending (step setting info state event) := by
  obtain ⟨still, usage, reports⟩ := stopped_step setting info state event pending.stopped
  obtain ⟨added, records, -⟩ := step_sums setting info state event
  refine ⟨still, usage ▸ pending.left_, ?_⟩
  have once := pending.once
  rw [reports, records, reported_append, List.length_append]
  omega

theorem doubled_step (state : Handler) (event : Event) (doubled : Doubled state) :
    Doubled (step setting info state event) := by
  obtain ⟨still, -, reports⟩ := stopped_step setting info state event doubled.stopped
  obtain ⟨added, records, -⟩ := step_sums setting info state event
  refine ⟨still, ?_⟩
  have twice := doubled.twice
  rw [reports, records, reported_append, List.length_append]
  omega

theorem pending_flushed (state : Handler) (now : Int) (pending : Pending state) :
    Doubled (step setting info state (.flushUsage now)) := by
  obtain ⟨still, -, reports⟩ := stopped_step setting info state (.flushUsage now) pending.stopped
  refine ⟨still, ?_⟩
  have once := pending.once
  simp only [step, if_pos pending.left_, preConsumeUsage, reported_append, List.length_append]
  simp only [reported, List.length_map] at once ⊢
  simp
  omega

theorem refused_pending (state : Handler) (usage : RealtimeUsage) (now : Int) (reads : state.reading = true)
    (once : state.usage = 0 ∧ reported state.records = state.reports)
    (counted : usage.totalTokens ≠ 0) (poor : ¬ Affordable setting info usage state.books) :
    Pending (step setting info state (.message (.responseDone usage) now)) := by
  obtain ⟨none_left, same⟩ := once
  simp only [step, receive, preConsumeUsage, reads, if_true, none_left, zero_add]
  cases outcome : preWssConsumeQuota setting info usage now state.books with
  | mk after error =>
    cases error with
    | none => exact absurd (consumed_affordable (congrArg Prod.snd outcome)) poor
    | some error =>
      refine ⟨rfl, counted, ?_⟩
      rw [reported_append, same, List.length_append, List.length_append]
      simp [reported]

theorem refused_entered_twice (session : Session) (refuses : RefusesReport setting info opened session) :
    Doubled (run (step setting info) { books := opened } session.events) := by
  obtain ⟨earlier, usage, now, later, open_, reads, counted, poor⟩ := refuses
  have once := messages_read earlier { books := opened } (fun _ => ⟨rfl, rfl⟩) reads
  have pending := refused_pending _ usage now reads once counted poor
  have waiting : Pending (run (step setting info) _ (messages later)) :=
    run_preserves_always pending_step _ pending
  have flushed : Doubled (step setting info _ (.flushUsage session.flushed)) :=
    pending_flushed _ session.flushed waiting
  have twice : Doubled (run (step setting info) _ (messages session.closing ++
      .flushLocalUsage session.flushedLocal :: messages session.closed ++ messages session.late)) :=
    run_preserves_always doubled_step _ flushed
  simpa [Session.events, Session.logged, open_, messages, run_append] using twice

/-- Whoever pays for a realtime session, and however it closes: one whose steps
can all be paid for is billed exactly when its opening took nothing and its
usages cost one by one what their sum does, and one that refuses a report is
not. -/
theorem realtime_billed_iff (setting : RatioSetting) (calendar : Calendar)
    (preference : BillingPreference) (info : RealtimeInfo) (quota now : Int) (before opened : Books)
    (unique : (before.db.subscriptions.map UserSubscription.id).Nodup)
    (counted : ∀ sub ∈ before.db.subscriptions, Counted sub)
    (fresh : before.db.record info.relayInfo.request.requestId = none)
    (user : (lookup User.id before.db.users info.relayInfo.userId).isSome)
    (token : TokenStored info.relayInfo before)
    (opens : newBillingSession calendar preference info.relayInfo quota now before =
      (opened, .ok info.billing)) (session : Session) :
    (Guarded (step setting info) (StepAffordable setting info) { books := opened } session.events →
      (BilledExactly setting info before opened session ↔
        KeepsNothing info ∧ PricedAlike setting info session)) ∧
      (RefusesReport setting info opened session → ¬ BilledExactly setting info before opened session) := by
  obtain ⟨kept, paid, keeps⟩ := opening_paid unique counted fresh user token opens
  refine ⟨affordable_billed_iff paid keeps session, fun refuses billed => ?_⟩
  have twice := (refused_entered_twice session refuses).twice
  rw [billed.once] at twice
  exact absurd twice (lt_irrefl _)

end Sessions

/-! ### A response of twenty tokens -/

def plainSetting : RatioSetting where
  quotaPerUnit := 500000
  getModelRatio _ := 1
  getCompletionRatio _ := 1
  getAudioRatio _ := 1
  getAudioCompletionRatio _ := 1
  getGroupRatio _ := 1
  getGroupGroupRatio _ _ := none

def plainInfo (billing : BillingSession) : RealtimeInfo where
  billing := billing
  originModelName := "gpt-4o-realtime-preview"
  upstreamModelName := "gpt-4o-realtime-preview"
  usingGroup := "default"
  userGroup := "default"
  priceData := { modelRatio := 1, groupRatio := 1, usePrice := false }

def oneResponse : Session where
  open_ := [{
    message := .responseDone
      { totalTokens := 20, inputTokens := 10, outputTokens := 10
        inputTokenDetails := { textTokens := 10 }, outputTokenDetails := { textTokens := 10 } }
    now := 1 }]
  flushed := 2
  closing := []
  flushedLocal := 2
  closed := []
  late := []

/-- The wallet has paid ten before the session and twenty for the response; the
log has twenty. -/
theorem estimate_is_kept :
    ¬ ∀ (setting : RatioSetting) (calendar : Calendar) (preference : BillingPreference)
      (info : RealtimeInfo) (quota now : Int) (before opened : Books),
      (before.db.subscriptions.map UserSubscription.id).Nodup →
      (∀ sub ∈ before.db.subscriptions, Counted sub) →
      before.db.record info.relayInfo.request.requestId = none →
      (lookup User.id before.db.users info.relayInfo.userId).isSome →
      TokenStored info.relayInfo before →
      newBillingSession calendar preference info.relayInfo quota now before = (opened, .ok info.billing) →
      ∀ session, BilledExactly setting info before opened session := by
  intro always
  have billed := always plainSetting dayCount .walletOnly (plainInfo walletSession) 10 0 walletBooks
    walletOpened (by decide) (fun _ member => absurd member List.not_mem_nil) rfl rfl
    (fun _ => ⟨by decide, rfl⟩) rfl oneResponse
  have paid : (run (step plainSetting (plainInfo walletSession)) { books := walletOpened }
      oneResponse.events).books.userQuota 7 = 70 := by decide +kernel
  have cost : consumed plainSetting (plainInfo walletSession) (run (step plainSetting
      (plainInfo walletSession)) { books := walletOpened } oneResponse.events).records = 20 := by
    decide +kernel
  have funding : (run (step plainSetting (plainInfo walletSession)) { books := walletOpened }
      oneResponse.events).books.userQuota 7 = 100 - consumed plainSetting (plainInfo walletSession)
        (run (step plainSetting (plainInfo walletSession)) { books := walletOpened }
          oneResponse.events).records := billed.funding
  rw [paid, cost] at funding
  omega

def trustedInfo : RelayInfo := { walletInfo with trustQuota := 50 }

def trustedSession : BillingSession :=
  sessionOf trustedInfo (.wallet { userId := 7, consumed := 0 }) 0

theorem trusted_response_billed :
    BilledExactly plainSetting (plainInfo trustedSession) walletBooks walletBooks oneResponse := by
  refine ((realtime_billed_iff plainSetting dayCount .walletOnly (plainInfo trustedSession) 10 0
    walletBooks walletBooks (by decide) (fun _ member => absurd member List.not_mem_nil) rfl rfl
    (fun _ => ⟨by decide, rfl⟩) rfl oneResponse).1 ⟨?_, ?_, ?_, trivial⟩).mpr ⟨rfl, ?_⟩
  · intro usage enters
    cases enters
    refine ⟨.inr ⟨{ id := 3, key := "key", remainQuota := 100 }, rfl, ?_, .inr ?_, trivial⟩, trivial⟩
    · decide +kernel
    · decide +kernel
  · intro usage enters
    have nothing : (run (step plainSetting (plainInfo trustedSession)) { books := walletBooks }
        (messages oneResponse.open_)).usage.totalTokens = 0 := by decide +kernel
    cases enters.symm.trans (if_neg (not_not_intro nothing))
  · intro usage enters
    have nothing : (run (step plainSetting (plainInfo trustedSession)) { books := walletBooks }
        (messages oneResponse.open_ ++ [.flushUsage 2])).localUsage.totalTokens = 0 := by
      decide +kernel
    cases enters.symm.trans (if_neg (not_not_intro nothing))
  · unfold PricedAlike
    decide +kernel

end NewApi.RealtimeBilling
