import NewApi.TieredParams
import NewApi.TruncatedScaling

/-! Tiered pricing. An expression that the administrator writes is run on an estimate
before a request and on its usage afterwards, and may give any number. The
settlement takes a negative number as nothing; the estimate does not, and what it
gave is settled where the expression fails. -/
namespace NewApi.TieredSettle
open NewApi.RealtimeBilling (maxQuota minQuota roundHalfAway)
open NewApi.TextQuota (Storable round_half_away_nonneg_iff)
open NewApi.TieredParams (TokenParams)
open NewApi.TruncatedScaling (truncate truncate_int)

/-! ## Floats -/

/-- A `float64` without its rounding. -/
inductive Extended where
  | real (value : Rat)
  | posInf
  | negInf
  | nan
  deriving DecidableEq, Repr

namespace Extended

def scaleInf (factor : Rat) (inf opposite : Extended) : Extended :=
  if factor = 0 then .nan else if 0 < factor then inf else opposite

def mul : Extended → Extended → Extended
  | .nan, _ => .nan
  | _, .nan => .nan
  | .real first, .real second => .real (first * second)
  | .real first, .posInf => scaleInf first .posInf .negInf
  | .real first, .negInf => scaleInf first .negInf .posInf
  | .posInf, .real second => scaleInf second .posInf .negInf
  | .negInf, .real second => scaleInf second .negInf .posInf
  | .posInf, .posInf => .posInf
  | .posInf, .negInf => .negInf
  | .negInf, .posInf => .negInf
  | .negInf, .negInf => .posInf

/-- `value < 0`, which is false for NaN. -/
def negative : Extended → Bool
  | .real value => value < 0
  | .negInf => true
  | .posInf => false
  | .nan => false

/-- `math.Round`. -/
def round : Extended → Extended
  | .real value => .real (roundHalfAway value)
  | other => other

end Extended

/-! ## Quotas -/

/-- The values of `QuotaClamp.Kind`. -/
inductive QuotaClampKind where
  | overflow
  | underflow
  | nan
  deriving DecidableEq, Repr

/-- `common/quota_math.go::QuotaClamp`. -/
structure QuotaClamp where
  op : String
  kind : QuotaClampKind
  original : Extended
  clamped : Int
  deriving DecidableEq, Repr

/-- `common/quota_math.go::saturateQuota`. -/
def saturateQuota (value : Extended) (op : String) : Int × Option QuotaClamp :=
  match value with
  | .nan => (0, some ⟨op, .nan, value, 0⟩)
  | .posInf => (maxQuota, some ⟨op, .overflow, value, maxQuota⟩)
  | .negInf => (minQuota, some ⟨op, .underflow, value, minQuota⟩)
  | .real whole =>
    if whole ≥ maxQuota then (maxQuota, some ⟨op, .overflow, value, maxQuota⟩)
    else if whole ≤ minQuota then (minQuota, some ⟨op, .underflow, value, minQuota⟩)
    else (truncate whole, none)

/-- `common/quota_math.go::QuotaRoundChecked`. -/
def quotaRoundChecked (value : Extended) : Int × Option QuotaClamp :=
  saturateQuota value.round "QuotaRound"

def quotaRound (value : Extended) : Int := (quotaRoundChecked value).1

/-! ## The estimate -/

/-- `pkg/billingexpr/types.go::RequestInput`. -/
structure RequestInput where
  headers : List (String × String) := []
  body : String := ""
  deriving DecidableEq, Repr

abbrev Runner := String → TokenParams → RequestInput → Except String (Extended × String)

/-- `pkg/billingexpr/types.go::BillingSnapshot`, as far as the settlement reads it. -/
structure BillingSnapshot where
  billingMode : String := "tiered_expr"
  modelName : String
  exprString : String
  groupRatio : Rat
  estimatedPromptTokens : Int
  estimatedCompletionTokens : Int
  estimatedQuotaBeforeGroup : Extended
  estimatedQuotaAfterGroup : Int
  estimatedTier : String
  quotaPerUnit : Extended
  deriving DecidableEq, Repr

structure PricingSetting where
  getBillingExpr : String → Option String
  quotaPerUnit : Extended
  enableFreeModelPreConsume : Bool

structure PricedRequest where
  originModelName : String
  promptTokens : Int
  maxTokens : Int
  groupRatio : Rat
  requestInput : Except String RequestInput

/-- `types/price_data.go::PriceData`, with what the estimate leaves in the relay info. -/
structure TieredPrice where
  freeModel : Bool
  groupRatio : Rat
  quotaToPreConsume : Int
  snapshot : BillingSnapshot
  requestInput : RequestInput
  deriving DecidableEq, Repr

def defaultTieredPreConsumeMaxTokens : Int := 8192

def estimatedCompletionTokens (request : PricedRequest) : Int :=
  if request.maxTokens = 0 ∧ request.groupRatio ≠ 0 then defaultTieredPreConsumeMaxTokens
  else request.maxTokens

def estimateParams (request : PricedRequest) : TokenParams where
  p := request.promptTokens
  c := estimatedCompletionTokens request
  len := request.promptTokens
  cr := 0
  cc := 0
  cc1h := 0
  img := 0
  imgO := 0
  ai := 0
  ao := 0

/-- `rawCost / 1_000_000 * common.QuotaPerUnit`. -/
def quotaBeforeGroup (cost quotaPerUnit : Extended) : Extended :=
  (cost.mul (.real (1 / 1000000))).mul quotaPerUnit

/-- `relay/helper/price.go::modelPriceHelperTiered`. -/
def modelPriceHelperTiered (run : Runner) (setting : PricingSetting) (request : PricedRequest) :
    Except String TieredPrice :=
  match setting.getBillingExpr request.originModelName with
  | none => .error ("model " ++ request.originModelName ++
      " is configured as tiered_expr but has no billing expression")
  | some exprStr =>
    match request.requestInput with
    | .error error => .error error
    | .ok requestInput =>
      match run exprStr (estimateParams request) requestInput with
      | .error error => .error ("model " ++ request.originModelName ++ " tiered expr run failed: " ++
          error)
      | .ok (rawCost, matchedTier) =>
        let quotaBeforeGroup := quotaBeforeGroup rawCost setting.quotaPerUnit
        let free := !setting.enableFreeModelPreConsume && request.groupRatio = 0
        let preConsumedQuota :=
          if free then 0 else quotaRound (quotaBeforeGroup.mul (.real request.groupRatio))
        .ok
          { freeModel := free
            groupRatio := request.groupRatio
            quotaToPreConsume := preConsumedQuota
            requestInput
            snapshot :=
              { modelName := request.originModelName
                exprString := exprStr
                groupRatio := request.groupRatio
                estimatedPromptTokens := request.promptTokens
                estimatedCompletionTokens := estimatedCompletionTokens request
                estimatedQuotaBeforeGroup := quotaBeforeGroup
                estimatedQuotaAfterGroup := preConsumedQuota
                estimatedTier := matchedTier
                quotaPerUnit := setting.quotaPerUnit } }

/-! ## The settlement -/

/-- `pkg/billingexpr/types.go::TieredResult`. -/
structure TieredResult where
  actualQuotaBeforeGroup : Extended
  actualQuotaAfterGroup : Int
  matchedTier : String
  crossedTier : Bool
  clamp : Option QuotaClamp
  deriving DecidableEq, Repr

/-- `pkg/billingexpr/settle.go::ComputeTieredQuotaWithRequest`. -/
def computeTieredQuotaWithRequest (run : Runner) (snap : BillingSnapshot) (params : TokenParams)
    (request : RequestInput) : Except String TieredResult :=
  match run snap.exprString params request with
  | .error error => .error error
  | .ok (cost, matchedTier) =>
    let quotaBeforeGroup := quotaBeforeGroup cost snap.quotaPerUnit
    let rawAfterGroup := quotaBeforeGroup.mul (.real snap.groupRatio)
    let crossed := decide (matchedTier ≠ snap.estimatedTier)
    if rawAfterGroup.negative then
      .ok ⟨quotaBeforeGroup, 0, matchedTier, crossed, some ⟨"tiered_settle", .underflow, rawAfterGroup, 0⟩⟩
    else
      let (afterGroup, clamp) := quotaRoundChecked rawAfterGroup
      .ok ⟨quotaBeforeGroup, afterGroup, matchedTier, crossed, clamp⟩

structure SettleInfo where
  tieredBillingSnapshot : Option BillingSnapshot
  billingRequestInput : Option RequestInput
  finalPreConsumedQuota : Int
  quotaClamp : Option QuotaClamp := none

/-- `service/text_quota.go::noteQuotaClamp`: the first one stays. -/
def noteQuotaClamp (info : SettleInfo) (clamp : Option QuotaClamp) : SettleInfo :=
  if info.quotaClamp = none then { info with quotaClamp := clamp } else info

/-- `service/tiered_settle.go::TryTieredSettle`: the quota and the result where tiered
billing applies. -/
def tryTieredSettle (run : Runner) (info : SettleInfo) (params : TokenParams) :
    SettleInfo × Option (Int × Option TieredResult) :=
  match info.tieredBillingSnapshot with
  | none => (info, none)
  | some snap =>
    if snap.billingMode ≠ "tiered_expr" then (info, none)
    else match computeTieredQuotaWithRequest run snap params
        (info.billingRequestInput.getD {}) with
    | .error _ =>
      (info, some (if info.finalPreConsumedQuota ≤ 0 then snap.estimatedQuotaAfterGroup
        else info.finalPreConsumedQuota, none))
    | .ok result =>
      (noteQuotaClamp info result.clamp, some (result.actualQuotaAfterGroup, some result))

/-- What a billing session takes beforehand: nothing from a trusted user and for a free
model, the estimate from a wallet, at least 1 from a subscription by quota, and 1 from
one by requests. -/
inductive Taken where
  | nothing
  | wallet
  | subscriptionQuota
  | subscriptionRequest
  deriving DecidableEq, Repr

/-- `BillingSession.preConsumedQuota`. -/
def finalPreConsumedQuota (preConsumedQuota : Int) : Taken → Int
  | .nothing => 0
  | .wallet => preConsumedQuota
  | .subscriptionQuota => if preConsumedQuota ≤ 0 then 1 else preConsumedQuota
  | .subscriptionRequest => 1

def settleInfo (price : TieredPrice) (taken : Taken) : SettleInfo where
  tieredBillingSnapshot := some price.snapshot
  billingRequestInput := some price.requestInput
  finalPreConsumedQuota := finalPreConsumedQuota price.quotaToPreConsume taken

/-! ## What is asked of both ends -/

def InCaps (run : Runner) (setting : PricingSetting) (request : PricedRequest) : Prop :=
  ∀ price, modelPriceHelperTiered run setting request = .ok price →
    Storable price.quotaToPreConsume ∧
      ∀ taken params quota result,
        (tryTieredSettle run (settleInfo price taken) params).2 = some (quota, result) →
        Storable quota

def Credits : Extended → Prop
  | .real value => value ≤ -1 / 2
  | .negInf => True
  | .posInf => False
  | .nan => False

def EstimateCharges (run : Runner) (setting : PricingSetting) (request : PricedRequest) : Prop :=
  ∀ exprStr input cost tier, setting.getBillingExpr request.originModelName = some exprStr →
    request.requestInput = .ok input →
    run exprStr (estimateParams request) input = .ok (cost, tier) →
    ¬ Credits ((quotaBeforeGroup cost setting.quotaPerUnit).mul (.real request.groupRatio))

/-! ## Rounding and clamping -/

theorem storable_zero : Storable 0 := by decide

theorem credits_negative (credits : Credits value) : value.negative = true := by
  cases value with
  | real value =>
    have below : value ≤ -1 / 2 := credits
    exact decide_eq_true (by linarith)
  | posInf | nan => exact credits.elim
  | negInf => rfl

theorem storable_round_iff (value : Extended) : Storable (quotaRound value) ↔ ¬ Credits value := by
  cases value with
  | real value =>
    have whole := round_half_away_nonneg_iff value
    have credits : ¬ Credits (.real value) ↔ -1 / 2 < value := not_le
    rw [credits, ← whole, quotaRound, quotaRoundChecked, Extended.round, saturateQuota]
    split
    · rename_i most
      have above : maxQuota ≤ roundHalfAway value := by exact_mod_cast most
      have nonneg : 0 ≤ roundHalfAway value := le_trans (by decide) above
      exact iff_of_true (show Storable maxQuota by decide) nonneg
    · rename_i below
      split
      · rename_i least
        have under : roundHalfAway value ≤ minQuota := by exact_mod_cast least
        have negative : ¬ 0 ≤ roundHalfAway value := not_le.mpr (lt_of_le_of_lt under (by decide))
        exact iff_of_false (show ¬ Storable minQuota by decide) negative
      · have under : roundHalfAway value < maxQuota := by exact_mod_cast not_le.mp below
        rw [truncate_int, Storable]
        exact and_iff_left (le_of_lt under)
  | posInf | nan => exact iff_of_true (by decide) not_false
  | negInf => exact iff_of_false (by decide) (not_not.mpr trivial)

theorem free_charges (value : Extended) : ¬ Credits (value.mul (.real 0)) := by
  cases value with
  | real value =>
    rw [Extended.mul, mul_zero]
    exact not_le.mpr (by norm_num)
  | posInf | negInf | nan => exact not_false

section Settlement

theorem computed_storable
    (computed : computeTieredQuotaWithRequest run snap params request = .ok result) :
    Storable result.actualQuotaAfterGroup := by
  rw [computeTieredQuotaWithRequest] at computed
  split at computed
  · exact absurd computed (by simp)
  · rename_i cost matchedTier ran
    dsimp only at computed
    split at computed
    · obtain rfl := Except.ok.inj computed
      exact storable_zero
    · rename_i notNegative
      obtain rfl := Except.ok.inj computed
      exact (storable_round_iff _).mpr fun credits => notNegative (credits_negative credits)

theorem taken_capped (capped : quota ≤ maxQuota) (taken : Taken) :
    finalPreConsumedQuota quota taken ≤ maxQuota := by
  have one : (1 : Int) ≤ maxQuota := by decide
  cases taken with
  | nothing => exact (show (0 : Int) ≤ maxQuota by decide)
  | wallet => exact capped
  | subscriptionQuota =>
    rw [finalPreConsumedQuota]
    split
    · exact one
    · exact capped
  | subscriptionRequest => exact one

theorem settled_storable
    (storable : Storable price.quotaToPreConsume)
    (estimate : price.snapshot.estimatedQuotaAfterGroup = price.quotaToPreConsume)
    (settled : (tryTieredSettle run (settleInfo price taken) params).2 = some (quota, result)) :
    Storable quota := by
  rw [tryTieredSettle, settleInfo] at settled
  dsimp only at settled
  split at settled
  · exact absurd settled (by simp)
  · split at settled
    · obtain ⟨rfl, -⟩ := Prod.mk.inj (Option.some.inj settled)
      rw [estimate]
      split
      · exact storable
      · rename_i positive
        exact ⟨le_of_lt (not_le.mp positive), taken_capped storable.2 taken⟩
    · rename_i computed
      obtain ⟨rfl, -⟩ := Prod.mk.inj (Option.some.inj settled)
      exact computed_storable computed

end Settlement

theorem priced_cases
    (priced : modelPriceHelperTiered run setting request = .ok price) :
    price.snapshot.estimatedQuotaAfterGroup = price.quotaToPreConsume ∧
      ∃ exprStr cost tier, setting.getBillingExpr request.originModelName = some exprStr ∧
        request.requestInput = .ok price.requestInput ∧
        run exprStr (estimateParams request) price.requestInput = .ok (cost, tier) ∧
        (Storable price.quotaToPreConsume ↔
          ¬ Credits ((quotaBeforeGroup cost setting.quotaPerUnit).mul (.real request.groupRatio))) := by
  rw [modelPriceHelperTiered] at priced
  split at priced
  · exact absurd priced (by simp)
  rename_i exprStr configured
  split at priced
  · exact absurd priced (by simp)
  rename_i requestInput resolved
  split at priced
  · exact absurd priced (by simp)
  rename_i cost tier ran
  obtain rfl := Except.ok.inj priced
  refine ⟨rfl, exprStr, cost, tier, configured, resolved, ran, ?_⟩
  dsimp only
  split
  · rename_i free
    have nothing : request.groupRatio = 0 := of_decide_eq_true (Bool.and_eq_true_iff.mp free).2
    rw [nothing]
    exact iff_of_true storable_zero (free_charges _)
  · exact storable_round_iff _

/-- Both ends stay in the caps exactly where the estimate does not round to a credit. -/
theorem tiered_quota_capped_iff (run : Runner) (setting : PricingSetting) (request : PricedRequest) :
    InCaps run setting request ↔ EstimateCharges run setting request := by
  constructor
  · intro inCaps exprStr input cost tier configured resolved ran
    have priced : ∃ price, modelPriceHelperTiered run setting request = .ok price := by
      rw [modelPriceHelperTiered, configured, resolved]
      dsimp only
      rw [ran]
      exact ⟨_, rfl⟩
    obtain ⟨price, priced⟩ := priced
    obtain ⟨-, expr, amount, matched, also, given, run_, storable⟩ := priced_cases priced
    obtain rfl := Option.some.inj (configured.symm.trans also)
    obtain rfl := Except.ok.inj (resolved.symm.trans given)
    obtain ⟨rfl, rfl⟩ := Prod.mk.inj (Except.ok.inj (ran.symm.trans run_))
    exact storable.mp (inCaps price priced).1
  · intro charges price priced
    obtain ⟨estimate, exprStr, cost, tier, configured, resolved, ran, storable⟩ := priced_cases priced
    have inRange := storable.mpr (charges exprStr _ cost tier configured resolved ran)
    exact ⟨inRange, fun taken params quota result settled =>
      settled_storable inRange estimate settled⟩

def longAnswers : Runner := fun _ params _ =>
  .ok (.real (params.p - max (params.c - 600000) 0 : Int), "base")

/-- A short prompt that may have a long answer is estimated as a credit. -/
theorem long_answer_credits :
    ¬ InCaps longAnswers ⟨fun _ => some "p - max(c - 600000, 0)", .real 500000, true⟩
      ⟨"model", 100, 2000000, 1, .ok {}⟩ := by
  intro inCaps
  have priced : modelPriceHelperTiered longAnswers
      ⟨fun _ => some "p - max(c - 600000, 0)", .real 500000, true⟩
      ⟨"model", 100, 2000000, 1, .ok {}⟩ = .ok _ := rfl
  obtain ⟨-, exprStr, cost, tier, -, -, ran, storable⟩ := priced_cases priced
  obtain ⟨rfl, -⟩ := Prod.mk.inj (Except.ok.inj ran)
  apply storable.mp (inCaps _ priced).1
  change (((100 - max (2000000 - 600000) 0 : Int) : Rat) * (1 / 1000000) * 500000 * 1 : Rat) ≤ -1 / 2
  norm_num

end NewApi.TieredSettle
