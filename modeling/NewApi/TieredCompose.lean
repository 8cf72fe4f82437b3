import NewApi.TieredSettle

/-! The quota of a text request under tiered pricing. The expression prices the
tokens, and the calls of tools come on top. So does the audio input of some models,
although the expression has been given its tokens. -/
namespace NewApi.TieredCompose
open NewApi.RealtimeBilling (maxQuota minQuota roundHalfAway)
open NewApi.TextQuota
open NewApi.TieredParams (TokenParams buildTieredTokenParams)
open NewApi.TieredSettle
open NewApi.TruncatedScaling (truncate_int)

/-! ## The composed quota -/

/-- `common/quota_math.go::QuotaFromDecimalChecked`. -/
def quotaFromDecimalChecked (value : Rat) : Int × Option QuotaClamp :=
  saturateQuota (.real (roundHalfAway value)) "QuotaFromDecimal"

def quotaFromDecimal (value : Rat) : Int := (quotaFromDecimalChecked value).1

def tokenPart (snapshot : Option BillingSnapshot) (tieredQuota : Int)
    (tieredResult : Option TieredResult) : Rat :=
  match tieredResult.map TieredResult.actualQuotaBeforeGroup, snapshot with
  | some (.real raw), some snap => if 0 ≤ raw then raw * snap.groupRatio else tieredQuota
  | _, _ => tieredQuota

/-- `service/text_quota.go::composeTieredTextQuota`. -/
def composeTieredTextQuota (info : SettleInfo) (toolCallSurchargeQuota : Rat) (tieredQuota : Int)
    (tieredResult : Option TieredResult) : SettleInfo × Int :=
  if toolCallSurchargeQuota = 0 then (info, tieredQuota)
  else
    let (quota, clamp) := quotaFromDecimalChecked
      (tokenPart info.tieredBillingSnapshot tieredQuota tieredResult + toolCallSurchargeQuota)
    (noteQuotaClamp info clamp, quota)

/-- The usage that is billed, which `calculateTextQuotaSummary` completes in place. -/
def settledUsage (ctx : RequestContext) (info : RelayInfo) (usage : Usage) : Usage :=
  billedUsage ctx info (some (applyEstimatedPromptTokensFallback info usage))

/-- The parameters that `PostTextConsumeQuota` settles with. -/
def settleParams (ctx : RequestContext) (info : RelayInfo) (usage : Usage)
    (usedVars : String → Bool) : TokenParams :=
  let reported := some (applyEstimatedPromptTokensFallback info usage)
  let usage := settledUsage ctx info usage
  buildTieredTokenParams usage (claudeLikeUsage info reported usage) usedVars

def textSummary (setting : Setting) (ctx : RequestContext) (info : RelayInfo) (usage : Usage) :
    TextQuotaSummary :=
  calculateTextQuotaSummary setting ctx info (some (applyEstimatedPromptTokensFallback info usage))

/-- `service/text_quota.go::PostTextConsumeQuota`, up to the quota of a usage that was
reported. -/
def postTextQuota (run : Runner) (usedVars : String → String → Bool) (setting : Setting)
    (ctx : RequestContext) (info : RelayInfo) (billing : SettleInfo) (usage : Usage) :
    SettleInfo × Int :=
  let summary := textSummary setting ctx info usage
  let vars := (billing.tieredBillingSnapshot.map fun snap => usedVars snap.exprString).getD
    fun _ => false
  match tryTieredSettle run billing (settleParams ctx info usage vars) with
  | (billing, none) => (billing, summary.quota)
  | (billing, some (tieredQuota, tieredResult)) =>
    composeTieredTextQuota billing summary.toolCallSurchargeQuota tieredQuota tieredResult

/-! ## What is asked of it -/

/-- The settled quota before it is rounded: what the expression comes to at the group
ratio, or the quota itself where it comes to nothing that can be charged. -/
structure SettledAmount (snap : BillingSnapshot) (tieredQuota : Int)
    (tieredResult : Option TieredResult) (amount : Rat) : Prop where
  priced : ∀ result ∈ tieredResult, ∀ raw, result.actualQuotaBeforeGroup = .real raw → 0 ≤ raw →
    amount = raw * snap.groupRatio
  unpriced : (∀ result ∈ tieredResult, ∀ raw, result.actualQuotaBeforeGroup = .real raw → raw < 0) →
    amount = tieredQuota

def withCalls (tieredQuota : Int) (amount calls : Rat) : Int :=
  if calls = 0 then tieredQuota else quotaFromDecimal (amount + calls)

def ChargedOnce (setting : Setting) (ctx : RequestContext) (info : RelayInfo) (usage : Usage) :
    Prop :=
  ∀ run usedVars billing snap settled tieredQuota tieredResult amount,
    billing.tieredBillingSnapshot = some snap → snap.groupRatio = info.priceData.groupRatio →
    snap.quotaPerUnit = .real setting.quotaPerUnit →
    tryTieredSettle run billing (settleParams ctx info usage (usedVars snap.exprString)) =
      (settled, some (tieredQuota, tieredResult)) →
    Storable tieredQuota → SettledAmount snap tieredQuota tieredResult amount →
    (postTextQuota run usedVars setting ctx info billing usage).2 =
      withCalls tieredQuota amount (toolCharge setting ctx info)

def audioFee (setting : Setting) (ctx : RequestContext) (info : RelayInfo) (usage : Usage) : Rat :=
  if info.priceData.usePrice then 0
  else audioCharge setting info (summaryCounts setting info (settledUsage ctx info usage))

def AudioFree (setting : Setting) (ctx : RequestContext) (info : RelayInfo) (usage : Usage) : Prop :=
  info.priceData.usePrice = true ∨
    pricedAudioTokens info (summaryCounts setting info (settledUsage ctx info usage)) = 0 ∨
    info.priceData.groupRatio = 0 ∨ setting.quotaPerUnit = 0

def AtCap (charge : Rat) : Prop := (maxQuota : Rat) - 1 / 2 ≤ charge

section Fee
variable (setting : Setting) (ctx : RequestContext) (info : RelayInfo) (usage : Usage)

theorem surcharge_eq : (textSummary setting ctx info usage).toolCallSurchargeQuota =
    toolCharge setting ctx info + audioFee setting ctx info usage := by
  have same : (textSummary setting ctx info usage).toolCallSurchargeQuota =
      (pricedSummary setting ctx info
        (some (applyEstimatedPromptTokensFallback info usage))).toolCallSurchargeQuota := by
    rw [textSummary, calculateTextQuotaSummary]
    split
    · rfl
    · split <;> rfl
  rw [same, pricedSummary]
  dsimp only
  rw [audio_input_quota_eq, toolCharge, audioFee, settledUsage]
  ring

theorem audio_fee_zero_iff : audioFee setting ctx info usage = 0 ↔ AudioFree setting ctx info usage := by
  rw [audioFee, AudioFree]
  by_cases priced : info.priceData.usePrice = true
  · simp [priced]
  generalize summaryCounts setting info (settledUsage ctx info usage) = counts
  rw [if_neg priced, or_iff_right priced, audioCharge, mul_eq_zero, mul_eq_zero, mul_eq_zero,
    Int.cast_eq_zero]
  constructor
  · rintro (((free | none_) | ratio) | unit)
    · have unpriced : ¬ getGeminiInputAudioPricePerMillionTokens info.originModelName > 0 := by
        intro positive
        exact absurd free (ne_of_gt (by positivity))
      exact .inl (by rw [pricedAudioTokens, if_neg unpriced])
    · exact .inl none_
    · exact .inr (.inl ratio)
    · exact .inr (.inr unit)
  · rintro (none_ | ratio | unit)
    · exact .inl (.inl (.inr none_))
    · exact .inl (.inr ratio)
    · exact .inr unit

end Fee

/-! ## Rounding -/

theorem quota_at_cap_iff (value : Rat) : quotaFromDecimal value = maxQuota ↔ AtCap value := by
  have below : roundHalfAway value ≤ maxQuota - 1 ↔ ¬ AtCap value := by
    rw [round_half_away_le_iff (by decide), AtCap, not_le]
    have half : ((maxQuota - 1 : Int) : Rat) + 1 / 2 = maxQuota - 1 / 2 := by
      push_cast
      ring
    rw [half]
  rw [quotaFromDecimal, quotaFromDecimalChecked, saturateQuota]
  split
  · rename_i most
    have reached : maxQuota ≤ roundHalfAway value := by exact_mod_cast most
    refine iff_of_true rfl ?_
    by_contra under
    have := below.mpr under
    omega
  · rename_i less
    have under : roundHalfAway value < maxQuota := by exact_mod_cast not_le.mp less
    have notCap : ¬ AtCap value := below.mp (by omega)
    split
    · exact iff_of_false (show ¬ minQuota = maxQuota by decide) notCap
    · rw [truncate_int]
      exact iff_of_false (ne_of_lt under) notCap

theorem round_whole {whole : Int} (nonneg : 0 ≤ whole) : roundHalfAway whole = whole := by
  have cast : (0 : Rat) ≤ whole := by exact_mod_cast nonneg
  rw [roundHalfAway, if_pos cast]
  apply le_antisymm
  · have small : ((whole : Rat) + 1 / 2).floor < whole + 1 := by
      rw [Rat.floor_lt_iff]
      push_cast
      linarith
    omega
  · rw [Rat.le_floor_iff]
    linarith

theorem quota_of_storable {quota : Int} (storable : Storable quota) : quotaFromDecimal quota = quota := by
  obtain ⟨low, high⟩ := storable
  rw [quotaFromDecimal, quotaFromDecimalChecked, round_whole low, saturateQuota]
  split
  · rename_i most
    have reached : maxQuota ≤ quota := by exact_mod_cast most
    exact le_antisymm reached high
  · split
    · rename_i least
      have under : quota ≤ minQuota := by exact_mod_cast least
      have impossible : ¬ (0 : Int) ≤ minQuota := by decide
      exact absurd (le_trans low under) impossible
    · rw [truncate_int]

theorem quota_round_real (value : Rat) : quotaRound (.real value) = quotaFromDecimal value := by
  rw [quotaRound, quotaRoundChecked, Extended.round, quotaFromDecimal, quotaFromDecimalChecked,
    saturateQuota, saturateQuota]
  split
  · rfl
  · split <;> rfl

/-! ## Composed and asked for -/

section Composed

theorem computed_real
    (computed : computeTieredQuotaWithRequest run snap params request = .ok result)
    (actual : result.actualQuotaBeforeGroup = .real raw) (product : 0 ≤ raw * snap.groupRatio) :
    result.actualQuotaAfterGroup = quotaFromDecimal (raw * snap.groupRatio) := by
  rw [computeTieredQuotaWithRequest] at computed
  split at computed
  · exact absurd computed (by simp)
  dsimp only at computed
  split at computed
  · rename_i negative
    obtain rfl := Except.ok.inj computed
    dsimp only at actual
    rw [actual] at negative
    exact absurd (of_decide_eq_true negative) (not_lt.mpr product)
  · obtain rfl := Except.ok.inj computed
    dsimp only at actual ⊢
    rw [actual]
    exact quota_round_real _

theorem settled_token_part (ratio : 0 ≤ snap.groupRatio) (taken : billing.tieredBillingSnapshot = some snap)
    (settles : tryTieredSettle run billing params = (settled, some (tieredQuota, tieredResult)))
    (storable : Storable tieredQuota) :
    settled.tieredBillingSnapshot = some snap ∧
      0 ≤ tokenPart (some snap) tieredQuota tieredResult ∧
      quotaFromDecimal (tokenPart (some snap) tieredQuota tieredResult) = tieredQuota := by
  have whole : (0 : Rat) ≤ tieredQuota := by exact_mod_cast storable.1
  have same := quota_of_storable storable
  rw [tryTieredSettle, taken] at settles
  dsimp only at settles
  split at settles
  · exact absurd (Prod.mk.inj settles).2 (by simp)
  split at settles
  · obtain ⟨rfl, given⟩ := Prod.mk.inj settles
    obtain ⟨rfl, rfl⟩ := Prod.mk.inj (Option.some.inj given)
    exact ⟨taken, whole, same⟩
  · rename_i result computed
    obtain ⟨rfl, given⟩ := Prod.mk.inj settles
    obtain ⟨rfl, rfl⟩ := Prod.mk.inj (Option.some.inj given)
    refine ⟨by rw [noteQuotaClamp]; split <;> exact taken, ?_⟩
    cases actual : result.actualQuotaBeforeGroup with
    | real raw =>
      have part : tokenPart (some snap) result.actualQuotaAfterGroup (some result) =
          if 0 ≤ raw then raw * snap.groupRatio else result.actualQuotaAfterGroup := by
        simp [tokenPart, actual]
      rw [part]
      split
      · rename_i nonneg
        have product : 0 ≤ raw * snap.groupRatio := mul_nonneg nonneg ratio
        exact ⟨product, (computed_real computed actual product).symm⟩
      · exact ⟨whole, same⟩
    | _ =>
      rw [show tokenPart (some snap) result.actualQuotaAfterGroup (some result) =
        result.actualQuotaAfterGroup by simp [tokenPart, actual]]
      exact ⟨whole, same⟩

theorem composed_eq (surcharge : Rat) (kept : settled.tieredBillingSnapshot = some snap)
    (rounds : quotaFromDecimal (tokenPart (some snap) tieredQuota tieredResult) = tieredQuota) :
    (composeTieredTextQuota settled surcharge tieredQuota tieredResult).2 =
      quotaFromDecimal (tokenPart (some snap) tieredQuota tieredResult + surcharge) := by
  rw [composeTieredTextQuota, kept]
  split
  · rename_i nothing
    rw [nothing, add_zero, rounds]
  · rfl

theorem settled_amount_iff : SettledAmount snap tieredQuota tieredResult amount ↔
    amount = tokenPart (some snap) tieredQuota tieredResult := by
  constructor
  · rintro ⟨priced, unpriced⟩
    unfold tokenPart
    split
    · rename_i taken given
      obtain ⟨result, there, actual⟩ := Option.map_eq_some_iff.mp taken
      obtain rfl := Option.some.inj given
      split
      · rename_i nonneg
        exact priced result there _ actual nonneg
      · rename_i negative
        refine unpriced fun other member raw same => ?_
        cases there.symm.trans member
        cases actual.symm.trans same
        exact not_le.mp negative
    · rename_i other
      refine unpriced fun result member raw same => ?_
      exact absurd rfl (other raw snap (by rw [member, Option.map_some, same]))
  · rintro rfl
    constructor
    · intro result there raw actual nonneg
      obtain rfl : tieredResult = some result := there
      simp only [tokenPart, Option.map_some, actual, if_pos nonneg]
    · intro unpriced
      unfold tokenPart
      split
      · rename_i taken given
        obtain ⟨result, there, actual⟩ := Option.map_eq_some_iff.mp taken
        rw [if_neg (not_le.mpr (unpriced result there _ actual))]
      · rfl

theorem with_calls_eq (calls : Rat)
    (rounds : quotaFromDecimal (tokenPart (some snap) tieredQuota tieredResult) = tieredQuota) :
    withCalls tieredQuota (tokenPart (some snap) tieredQuota tieredResult) calls =
      quotaFromDecimal (tokenPart (some snap) tieredQuota tieredResult + calls) := by
  rw [withCalls]
  split
  · rename_i nothing
    rw [nothing, add_zero, rounds]
  · rfl

end Composed

/-! ## Every token part is reached -/

def fixedCost (cost : Rat) : Runner := fun _ _ _ => .ok (.real cost, "base")

def snapshotOf (setting : Setting) (info : RelayInfo) : BillingSnapshot where
  modelName := info.originModelName
  exprString := "expression"
  groupRatio := info.priceData.groupRatio
  estimatedPromptTokens := 0
  estimatedCompletionTokens := 0
  estimatedQuotaBeforeGroup := .real 0
  estimatedQuotaAfterGroup := 0
  estimatedTier := "base"
  quotaPerUnit := .real setting.quotaPerUnit

theorem fixed_cost_computed (cost unit : Rat) (snap : BillingSnapshot) (params : TokenParams)
    (request : RequestInput) (isUnit : snap.quotaPerUnit = .real unit) :
    ∃ result, computeTieredQuotaWithRequest (fixedCost cost) snap params request = .ok result ∧
      result.actualQuotaBeforeGroup = .real (cost * (1 / 1000000) * unit) := by
  rw [computeTieredQuotaWithRequest, fixedCost, isUnit]
  dsimp only
  split
  · exact ⟨_, rfl, rfl⟩
  · exact ⟨_, rfl, rfl⟩

theorem token_part_reached (setting : Setting) (info : RelayInfo) (params : TokenParams)
    (ratio : 0 < info.priceData.groupRatio) (unit : setting.quotaPerUnit ≠ 0)
    (nonneg : 0 ≤ part) :
    ∃ run settled tieredQuota tieredResult,
      tryTieredSettle run ⟨some (snapshotOf setting info), none, 0, none⟩ params =
          (settled, some (tieredQuota, tieredResult)) ∧
        Storable tieredQuota ∧
        tokenPart (some (snapshotOf setting info)) tieredQuota tieredResult = part := by
  obtain ⟨result, computed, actual⟩ := fixed_cost_computed
    (part / info.priceData.groupRatio * 1000000 / setting.quotaPerUnit) setting.quotaPerUnit
    (snapshotOf setting info) params {} rfl
  have raw : part / info.priceData.groupRatio * 1000000 / setting.quotaPerUnit * (1 / 1000000) *
      setting.quotaPerUnit = part / info.priceData.groupRatio := by
    field_simp
  rw [raw] at actual
  refine ⟨fixedCost (part / info.priceData.groupRatio * 1000000 / setting.quotaPerUnit),
    noteQuotaClamp ⟨some (snapshotOf setting info), none, 0, none⟩ result.clamp,
    result.actualQuotaAfterGroup, some result, ?_, computed_storable computed, ?_⟩
  · rw [tryTieredSettle]
    dsimp only [Option.getD_none]
    rw [if_neg (by simp [snapshotOf]), computed]
  · have quotient : 0 ≤ part / info.priceData.groupRatio := div_nonneg nonneg ratio.le
    simp only [tokenPart, Option.map_some, actual, if_pos quotient, snapshotOf]
    exact div_mul_cancel₀ part ratio.ne'

/-! ## Charged once -/

theorem cap_separates_lt (less : first < second) (below : ¬ AtCap first) :
    ∃ part, 0 ≤ part ∧ AtCap (part + second) ∧ ¬ AtCap (part + first) := by
  rw [AtCap, not_le] at below
  refine ⟨max 0 (maxQuota - 1 / 2 - second), le_max_left _ _, ?_, ?_⟩
  · have reaches := le_max_right (0 : Rat) (maxQuota - 1 / 2 - second)
    rw [AtCap]
    linarith
  · rw [AtCap, not_le]
    rcases max_choice (0 : Rat) (maxQuota - 1 / 2 - second) with lift | lift <;> rw [lift]
    · linarith
    · linarith

theorem cap_separates (apart : first ≠ second)
    (below : ¬ (AtCap first ∧ AtCap second)) :
    ∃ part, 0 ≤ part ∧ quotaFromDecimal (part + second) ≠ quotaFromDecimal (part + first) := by
  rcases lt_or_gt_of_ne apart with less | more
  · have under : ¬ AtCap first := fun reached => below ⟨reached, le_trans reached less.le⟩
    obtain ⟨part, nonneg, capped, notCapped⟩ := cap_separates_lt less under
    refine ⟨part, nonneg, fun same => notCapped ?_⟩
    rw [← quota_at_cap_iff, ← same, quota_at_cap_iff]
    exact capped
  · have under : ¬ AtCap second := fun reached => below ⟨le_trans reached more.le, reached⟩
    obtain ⟨part, nonneg, capped, notCapped⟩ := cap_separates_lt more under
    refine ⟨part, nonneg, fun same => notCapped ?_⟩
    rw [← quota_at_cap_iff, same, quota_at_cap_iff]
    exact capped

theorem charged_once_iff_rounds (setting : Setting) (ctx : RequestContext) (info : RelayInfo)
    (usage : Usage) (ratio : 0 ≤ info.priceData.groupRatio)
    {usedVars : String → String → Bool}
    (taken : billing.tieredBillingSnapshot = some snap)
    (same : snap.groupRatio = info.priceData.groupRatio)
    (settles : tryTieredSettle run billing
      (settleParams ctx info usage (usedVars snap.exprString)) =
        (settled, some (tieredQuota, tieredResult)))
    (storable : Storable tieredQuota) :
    (postTextQuota run usedVars setting ctx info billing usage).2 =
        withCalls tieredQuota (tokenPart (some snap) tieredQuota tieredResult)
          (toolCharge setting ctx info) ↔
      quotaFromDecimal (tokenPart (some snap) tieredQuota tieredResult +
          (toolCharge setting ctx info + audioFee setting ctx info usage)) =
        quotaFromDecimal (tokenPart (some snap) tieredQuota tieredResult +
          toolCharge setting ctx info) := by
  obtain ⟨kept, -, rounds⟩ := settled_token_part (same ▸ ratio) taken settles storable
  rw [postTextQuota, taken]
  dsimp only [Option.map_some, Option.getD_some]
  rw [settles]
  dsimp only
  rw [composed_eq _ kept rounds, surcharge_eq, with_calls_eq _ rounds]

/-- For ratios that are not negative, a request is charged once whatever its expression
is exactly where no audio input is priced by itself, or the calls of tools come to the
cap alone. -/
theorem tiered_charged_once_iff (setting : Setting) (ctx : RequestContext) (info : RelayInfo)
    (usage : Usage) (ratio : 0 ≤ info.priceData.groupRatio) :
    ChargedOnce setting ctx info usage ↔
      AudioFree setting ctx info usage ∨
        (AtCap (toolCharge setting ctx info) ∧
          AtCap (toolCharge setting ctx info + audioFee setting ctx info usage)) := by
  rw [← audio_fee_zero_iff]
  constructor
  · intro once
    by_contra neither
    rw [not_or] at neither
    obtain ⟨fee, caps⟩ := neither
    have priced : ¬ AudioFree setting ctx info usage := mt (audio_fee_zero_iff ..).mpr fee
    rw [AudioFree, not_or, not_or, not_or] at priced
    obtain ⟨-, -, ratioed, unit⟩ := priced
    have apart : toolCharge setting ctx info ≠
        toolCharge setting ctx info + audioFee setting ctx info usage :=
      fun same => fee (left_eq_add.mp same)
    obtain ⟨part, nonneg, differs⟩ := cap_separates apart caps
    -- the expression that comes to this part shows the fee
    have usedVars : String → String → Bool := fun _ _ => true
    obtain ⟨run, settled, tieredQuota, tieredResult, settles, storable, reaches⟩ :=
      token_part_reached setting info
        (settleParams ctx info usage (usedVars (snapshotOf setting info).exprString))
        (lt_of_le_of_ne ratio (Ne.symm ratioed)) unit nonneg
    have charged := once run usedVars _ (snapshotOf setting info) settled tieredQuota
      tieredResult _ rfl rfl rfl settles storable (settled_amount_iff.mpr rfl)
    rw [charged_once_iff_rounds setting ctx info usage ratio rfl rfl settles storable, reaches] at charged
    exact differs charged
  · rintro (free | ⟨calls, both⟩) run usedVars billing snap settled tieredQuota tieredResult amount
      taken same - settles storable amounts <;> obtain rfl := settled_amount_iff.mp amounts
    · refine (charged_once_iff_rounds setting ctx info usage ratio taken same settles storable).mpr ?_
      rw [free, add_zero]
    · refine (charged_once_iff_rounds setting ctx info usage ratio taken same settles storable).mpr ?_
      have nonneg := (settled_token_part (same ▸ ratio) taken settles storable).2.1
      rw [(quota_at_cap_iff _).mpr (le_trans both (le_add_of_nonneg_left nonneg)),
        (quota_at_cap_iff _).mpr (le_trans calls (le_add_of_nonneg_left nonneg))]

/-- A prompt of text. -/
theorem text_prompt_charged_once :
    ChargedOnce {} {} { originModelName := "gemini-2.5-flash" } { promptTokens := 1000 } := by
  refine (tiered_charged_once_iff {} {} { originModelName := "gemini-2.5-flash" }
    { promptTokens := 1000 } (by norm_num)).mpr (.inl (.inr (.inl ?_)))
  rw [pricedAudioTokens]
  split
  · rfl
  · rfl

def geminiFlash : RelayInfo := { originModelName := "gemini-2.5-flash" }

def audioPrompt : Usage :=
  { promptTokens := 1000000, promptTokensDetails := { audioTokens := 1000000 } }

/-- The audio tokens of a prompt are charged beside the expression. -/
theorem audio_prompt_charged_twice : ¬ ChargedOnce {} {} geminiFlash audioPrompt := by
  intro once
  have ratio : (0 : Rat) < geminiFlash.priceData.groupRatio := by norm_num [geminiFlash]
  have unit : ({} : Setting).quotaPerUnit ≠ 0 := by norm_num
  have calls : toolCharge {} {} geminiFlash = 0 := by
    have plain : GoText.hasSuffix "gemini-2.5-flash" "search-preview" = false := by decide
    simp [toolCharge, webSearchCall, claudeWebSearchCall, fileSearchCall, imageGenerationCallQuota,
      imageGenerationCallPrice, plain, geminiFlash]
  have price : getGeminiInputAudioPricePerMillionTokens geminiFlash.originModelName = 1 := by
    decide
  have tokens : pricedAudioTokens geminiFlash (summaryCounts {} geminiFlash
      (settledUsage {} geminiFlash audioPrompt)) = 1000000 := by
    rw [pricedAudioTokens, price, if_pos (by norm_num)]
    rfl
  have fee : audioFee {} {} geminiFlash audioPrompt = 500000 := by
    rw [audioFee, if_neg (by simp [geminiFlash]), audioCharge, price, tokens]
    norm_num [geminiFlash]
  have usedVars : String → String → Bool := fun _ _ => true
  obtain ⟨run, settled, tieredQuota, tieredResult, settles, storable, reaches⟩ :=
    token_part_reached {} geminiFlash
      (settleParams {} geminiFlash audioPrompt (usedVars (snapshotOf {} geminiFlash).exprString))
      ratio unit (le_refl 0)
  have charged := once run usedVars _ (snapshotOf {} geminiFlash) settled tieredQuota
    tieredResult _ rfl rfl rfl settles storable (settled_amount_iff.mpr rfl)
  rw [charged_once_iff_rounds {} {} geminiFlash audioPrompt ratio.le rfl rfl settles storable,
    reaches, calls, fee] at charged
  have whole : quotaFromDecimal ((500000 : Int) : Rat) = 500000 := quota_of_storable (by decide)
  have nothing : quotaFromDecimal ((0 : Int) : Rat) = 0 := quota_of_storable (by decide)
  norm_num at charged whole nothing
  rw [whole, nothing] at charged
  exact absurd charged (by decide)

end NewApi.TieredCompose
