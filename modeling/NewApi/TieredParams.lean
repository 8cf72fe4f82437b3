import NewApi.TextQuota

/-! The counts that a tiered expression is given. A usage is reported with what
was cached in its prompt or beside it, and with the writes to the cache as one
count or by their lifetime. Which counts are taken off the prompt depends on the
variables of the expression. -/
namespace NewApi.TieredParams
open NewApi.TextQuota

/-! ## The parameters -/

/-- `pkg/billingexpr/types.go::TokenParams`. The floats hold token counts below
2^53 exactly, and so do the sums of them. -/
@[ext] structure TokenParams where
  p : Int
  c : Int
  len : Int
  cr : Int
  cc : Int
  cc1h : Int
  img : Int
  imgO : Int
  ai : Int
  ao : Int
  deriving DecidableEq, Repr

def pricedCount (usedVars : String → Bool) (variable_ : String) (count : Int) : Int :=
  if usedVars variable_ then count else 0

/-- `service/tiered_settle.go::BuildTieredTokenParams`. -/
def buildTieredTokenParams (usage : Usage) (isClaudeUsageSemantic : Bool)
    (usedVars : String → Bool) : TokenParams :=
  let p := usage.promptTokens
  let c := usage.completionTokens
  let cr := usage.promptTokensDetails.cachedTokens
  let (cc5m, cc1h) :=
    if usage.usageSemantic = "anthropic" || usage.claudeCacheCreation5mTokens > 0 ||
        usage.claudeCacheCreation1hTokens > 0 then
      (usage.claudeCacheCreation5mTokens, usage.claudeCacheCreation1hTokens)
    else (usage.promptTokensDetails.cachedCreationTokens, 0)
  let img := usage.promptTokensDetails.imageTokens
  let ai := usage.promptTokensDetails.audioTokens
  let imgO := usage.completionTokenDetails.imageTokens
  let ao := usage.completionTokenDetails.audioTokens
  let inputLen := if isClaudeUsageSemantic then p + cr + cc5m + cc1h else p
  let (p, c) :=
    if !isClaudeUsageSemantic then
      let p := p - pricedCount usedVars "cr" cr
      let p := p - pricedCount usedVars "cc" cc5m
      let p := p - pricedCount usedVars "cc1h" cc1h
      let p := p - pricedCount usedVars "img" img
      let p := p - pricedCount usedVars "ai" ai
      let c := c - pricedCount usedVars "img_o" imgO
      let c := c - pricedCount usedVars "ao" ao
      (p, c)
    else (p, c)
  { p := if p < 0 then 0 else p
    c := if c < 0 then 0 else c
    len := inputLen
    cr, cc := cc5m, cc1h, img, imgO, ai, ao }

/-! ## What the parameters stand for -/

def cacheWrites (usage : Usage) : Int :=
  max usage.promptTokensDetails.cachedCreationTokens
    (usage.claudeCacheCreation5mTokens + usage.claudeCacheCreation1hTokens)

def claudeReport (usage : Usage) : Usage :=
  { usage with
    usageSemantic := "anthropic"
    promptTokens :=
      usage.promptTokens - usage.promptTokensDetails.cachedTokens - cacheWrites usage }

def TokenParams.separate (params : TokenParams) (usedVars : String → Bool) : Int :=
  pricedCount usedVars "cr" params.cr + pricedCount usedVars "cc" params.cc +
    pricedCount usedVars "cc1h" params.cc1h + pricedCount usedVars "img" params.img +
    pricedCount usedVars "ai" params.ai

def TokenParams.CoversWrites (params : TokenParams) (usage : Usage) : Prop :=
  params.cc + params.cc1h = cacheWrites usage

instance (params : TokenParams) (usage : Usage) : Decidable (params.CoversWrites usage) :=
  inferInstanceAs (Decidable (_ = _))

def PricesCache (usedVars : String → Bool) : Prop :=
  usedVars "cr" = true ∧ usedVars "cc" = true ∧ usedVars "cc1h" = true

def Partitions (usage : Usage) (usedVars : String → Bool) : Prop :=
  let params := buildTieredTokenParams usage false usedVars
  0 ≤ params.p ∧ (params.separate usedVars ≤ usage.promptTokens →
    params.p + params.separate usedVars = usage.promptTokens)

/-- The parameters of a usage do not depend on how it is reported, and lose none
of it. -/
structure Faithful (usage : Usage) (usedVars : String → Bool) : Prop where
  partitions : Partitions usage usedVars
  covers : (buildTieredTokenParams usage false usedVars).CoversWrites usage
  claudeCovers : (buildTieredTokenParams (claudeReport usage) true usedVars).CoversWrites usage
  agree : PricesCache usedVars → buildTieredTokenParams (claudeReport usage) true usedVars =
    buildTieredTokenParams usage false usedVars

theorem prompt_partitioned (usage : Usage) (usedVars : String → Bool) : Partitions usage usedVars := by
  simp only [Partitions, TokenParams.separate, buildTieredTokenParams, Bool.not_false, if_true]
  split <;> split <;> omega

/-! ## The reports of one usage -/

def SplitTold (usage : Usage) : Prop :=
  0 < usage.claudeCacheCreation5mTokens ∨ 0 < usage.claudeCacheCreation1hTokens

instance (usage : Usage) : Decidable (SplitTold usage) := inferInstanceAs (Decidable (_ ∨ _))

/-- `rest` is zero or below once `part` is taken off it, and is so already where a
part is taken. -/
def Unaffected (rest part : Int) : Prop := part = 0 ∨ rest ≤ 0 ∧ rest ≤ part

theorem unaffected_iff (rest part : Int) : Unaffected rest part ↔ max 0 (rest - part) = max 0 rest := by
  unfold Unaffected
  omega

def SplitAccounts (usage : Usage) (usedVars : String → Bool) : Prop :=
  let creation := usage.promptTokensDetails.cachedCreationTokens
  let creation5m := usage.claudeCacheCreation5mTokens
  let creation1h := usage.claudeCacheCreation1hTokens
  creation ≤ creation5m + creation1h ∧
    (¬ SplitTold usage → creation5m + creation1h ≤ creation) ∧
    (PricesCache usedVars →
      (¬ SplitTold usage → creation1h = 0) ∧
      Unaffected
        (usage.promptTokens - usage.promptTokensDetails.cachedTokens - (creation5m + creation1h))
        (pricedCount usedVars "img" usage.promptTokensDetails.imageTokens +
          pricedCount usedVars "ai" usage.promptTokensDetails.audioTokens) ∧
      Unaffected usage.completionTokens
        (pricedCount usedVars "img_o" usage.completionTokenDetails.imageTokens +
          pricedCount usedVars "ao" usage.completionTokenDetails.audioTokens))

theorem floored (count : Int) : (if count < 0 then 0 else count) = max 0 count := by
  split <;> omega

theorem writes_of_params (usage : Usage) (claude : Bool) (usedVars : String → Bool) :
    let params := buildTieredTokenParams usage claude usedVars
    (usage.usageSemantic = "anthropic" ∨ SplitTold usage →
      params.cc = usage.claudeCacheCreation5mTokens ∧ params.cc1h = usage.claudeCacheCreation1hTokens) ∧
    (usage.usageSemantic ≠ "anthropic" → ¬ SplitTold usage →
      params.cc = usage.promptTokensDetails.cachedCreationTokens ∧ params.cc1h = 0) := by
  simp only [buildTieredTokenParams, SplitTold, Bool.or_eq_true, decide_eq_true_eq, or_assoc, gt_iff_lt]
  constructor
  · intro told
    rw [if_pos told]
    exact ⟨rfl, rfl⟩
  · intro open_ untold
    rw [if_neg (not_or.mpr ⟨open_, untold⟩)]
    exact ⟨rfl, rfl⟩

section TakenOver
variable (usage : Usage) (claude : Bool) (usedVars : String → Bool)

@[simp] theorem params_cr : (buildTieredTokenParams usage claude usedVars).cr =
    usage.promptTokensDetails.cachedTokens := rfl

@[simp] theorem params_img : (buildTieredTokenParams usage claude usedVars).img =
    usage.promptTokensDetails.imageTokens := rfl

@[simp] theorem params_ai : (buildTieredTokenParams usage claude usedVars).ai =
    usage.promptTokensDetails.audioTokens := rfl

@[simp] theorem params_img_o : (buildTieredTokenParams usage claude usedVars).imgO =
    usage.completionTokenDetails.imageTokens := rfl

@[simp] theorem params_ao : (buildTieredTokenParams usage claude usedVars).ao =
    usage.completionTokenDetails.audioTokens := rfl

end TakenOver

theorem open_params (usage : Usage) (usedVars : String → Bool) :
    let params := buildTieredTokenParams usage false usedVars
    params.p = max 0 (usage.promptTokens - params.separate usedVars) ∧
      params.c = max 0 (usage.completionTokens - (pricedCount usedVars "img_o" params.imgO +
        pricedCount usedVars "ao" params.ao)) ∧
      params.len = usage.promptTokens := by
  simp only [buildTieredTokenParams, TokenParams.separate, Bool.not_false, if_true, floored,
    Bool.false_eq_true, if_false]
  refine ⟨?_, ?_, trivial⟩ <;> omega

theorem claude_params (usage : Usage) (usedVars : String → Bool) :
    let params := buildTieredTokenParams usage true usedVars
    params.p = max 0 usage.promptTokens ∧ params.c = max 0 usage.completionTokens ∧
      params.len = usage.promptTokens + params.cr + params.cc + params.cc1h := by
  simp only [buildTieredTokenParams, Bool.not_true, Bool.false_eq_true, if_false, floored, if_true,
    and_self]

theorem reports_agree_iff {usedVars : String → Bool}
    (priced : PricesCache usedVars) (open_ : usage.usageSemantic ≠ "anthropic")
    (covered : (buildTieredTokenParams usage false usedVars).CoversWrites usage)
    (whole : usage.claudeCacheCreation5mTokens + usage.claudeCacheCreation1hTokens = cacheWrites usage) :
    buildTieredTokenParams (claudeReport usage) true usedVars =
        buildTieredTokenParams usage false usedVars ↔
      (¬ SplitTold usage → usage.claudeCacheCreation1hTokens = 0) ∧
      Unaffected (usage.promptTokens - usage.promptTokensDetails.cachedTokens -
          (usage.claudeCacheCreation5mTokens + usage.claudeCacheCreation1hTokens))
        (pricedCount usedVars "img" usage.promptTokensDetails.imageTokens +
          pricedCount usedVars "ai" usage.promptTokensDetails.audioTokens) ∧
      Unaffected usage.completionTokens
        (pricedCount usedVars "img_o" usage.completionTokenDetails.imageTokens +
          pricedCount usedVars "ao" usage.completionTokenDetails.audioTokens) := by
  obtain ⟨cr, cc, cc1h⟩ := priced
  obtain ⟨openP, openC, openLen⟩ := open_params usage usedVars
  obtain ⟨told, untold⟩ := writes_of_params usage false usedVars
  obtain ⟨claudeP, claudeC, claudeLen⟩ := claude_params (claudeReport usage) usedVars
  obtain ⟨claudeCc, claudeCc1h⟩ := (writes_of_params (claudeReport usage) true usedVars).1 (.inl rfl)
  have separate : (buildTieredTokenParams usage false usedVars).separate usedVars =
      usage.promptTokensDetails.cachedTokens + cacheWrites usage +
        (pricedCount usedVars "img" usage.promptTokensDetails.imageTokens +
          pricedCount usedVars "ai" usage.promptTokensDetails.audioTokens) := by
    rw [← covered]
    simp only [TokenParams.separate, params_cr, params_img, params_ai]
    simp only [pricedCount, cr, cc, cc1h, if_true]
    omega
  have sameWrites : usage.claudeCacheCreation5mTokens =
      (buildTieredTokenParams usage false usedVars).cc ∧ usage.claudeCacheCreation1hTokens =
        (buildTieredTokenParams usage false usedVars).cc1h ↔
      (¬ SplitTold usage → usage.claudeCacheCreation1hTokens = 0) := by
    unfold TokenParams.CoversWrites at covered
    by_cases split_ : SplitTold usage
    · obtain ⟨cc', cc1h'⟩ := told (.inr split_)
      simp only [cc', cc1h', split_, and_self, not_true_eq_false, false_implies]
    · obtain ⟨-, cc1h'⟩ := untold open_ split_
      simp only [split_, not_false_eq_true, true_implies]
      omega
  rw [← sameWrites]
  rw [unaffected_iff, unaffected_iff, TokenParams.ext_iff]
  simp only [openP, openC, openLen, claudeP, claudeC, claudeLen, claudeCc, claudeCc1h, separate,
    params_cr, params_img, params_ai, params_img_o, params_ao]
  simp only [claudeReport]
  generalize pricedCount usedVars "img" usage.promptTokensDetails.imageTokens +
    pricedCount usedVars "ai" usage.promptTokensDetails.audioTokens = inputs
  generalize pricedCount usedVars "img_o" usage.completionTokenDetails.imageTokens +
    pricedCount usedVars "ao" usage.completionTokenDetails.audioTokens = outputs
  rw [whole]
  constructor
  · rintro ⟨plain, completion, -, -, written5m, written1h, -⟩
    exact ⟨⟨written5m, written1h⟩, by omega, by omega⟩
  · rintro ⟨⟨written5m, written1h⟩, plain, completion⟩
    exact ⟨by omega, by omega, by omega, trivial, written5m, written1h, trivial, trivial, trivial, trivial⟩

/-- The parameters of a usage are the same, whole, whichever way it is reported,
if and only if the split of its writes accounts for all of them. -/
theorem faithful_iff (usage : Usage) (usedVars : String → Bool)
    (open_ : usage.usageSemantic ≠ "anthropic") :
    Faithful usage usedVars ↔ SplitAccounts usage usedVars := by
  obtain ⟨told, untold⟩ := writes_of_params usage false usedVars
  obtain ⟨claudeCc, claudeCc1h⟩ := (writes_of_params (claudeReport usage) true usedVars).1 (.inl rfl)
  have claudeCovers : (buildTieredTokenParams (claudeReport usage) true usedVars).CoversWrites usage ↔
      usage.claudeCacheCreation5mTokens + usage.claudeCacheCreation1hTokens = cacheWrites usage := by
    rw [TokenParams.CoversWrites, claudeCc, claudeCc1h]
    rfl
  have covers : (buildTieredTokenParams usage false usedVars).CoversWrites usage ↔
      if SplitTold usage then usage.promptTokensDetails.cachedCreationTokens ≤
        usage.claudeCacheCreation5mTokens + usage.claudeCacheCreation1hTokens
      else usage.claudeCacheCreation5mTokens + usage.claudeCacheCreation1hTokens ≤
        usage.promptTokensDetails.cachedCreationTokens := by
    unfold TokenParams.CoversWrites cacheWrites
    split
    · rename_i split_
      obtain ⟨cc, cc1h⟩ := told (.inr split_)
      omega
    · rename_i split_
      obtain ⟨cc, cc1h⟩ := untold open_ split_
      omega
  constructor
  · rintro ⟨-, open', claude, agree⟩
    have whole := claudeCovers.mp claude
    refine ⟨by rw [whole, cacheWrites]; omega, fun split_ => ?_, fun priced => ?_⟩
    · rw [covers, if_neg split_] at open'
      exact open'
    · exact (reports_agree_iff priced open_ open' whole).mp (agree priced)
  · rintro ⟨within, untold', agree⟩
    have whole : usage.claudeCacheCreation5mTokens + usage.claudeCacheCreation1hTokens =
        cacheWrites usage := by
      rw [cacheWrites]
      omega
    have open' : (buildTieredTokenParams usage false usedVars).CoversWrites usage := by
      rw [covers]
      split
      · exact within
      · rename_i split_
        exact untold' split_
    exact ⟨prompt_partitioned usage usedVars, open', claudeCovers.mpr whole,
      fun priced => (reports_agree_iff priced open_ open' whole).mpr (agree priced)⟩

/-- A prompt with 100 tokens written, 60 of them for an hour. -/
theorem told_split_faithful :
    Faithful
      { promptTokens := 1000
        promptTokensDetails := { cachedTokens := 300, cachedCreationTokens := 100 }
        claudeCacheCreation5mTokens := 40
        claudeCacheCreation1hTokens := 60 }
      (fun variable_ => variable_ ∈ ["p", "c", "cr", "cc", "cc1h"]) :=
  (faithful_iff _ _ (by decide)).mpr
    ⟨by decide, by decide, fun _ => ⟨by decide, .inl (by decide), .inl (by decide)⟩⟩

/-- A hundred tokens are written. Where 10 of them are told by their lifetime the
others are priced nowhere, and where none are Claude's report prices no write. -/
theorem untold_writes_lost :
    let told : Usage :=
      { promptTokens := 1000
        promptTokensDetails := { cachedCreationTokens := 100 }
        claudeCacheCreation5mTokens := 10 }
    let untold : Usage :=
      { promptTokens := 1000
        promptTokensDetails := { cachedCreationTokens := 100 } }
    let usedVars := fun variable_ => decide (variable_ ∈ ["p", "c", "cr", "cc", "cc1h"])
    ¬ (buildTieredTokenParams told false usedVars).CoversWrites told ∧
      (buildTieredTokenParams (claudeReport untold) true usedVars).cc = 0 ∧
      buildTieredTokenParams (claudeReport untold) true usedVars ≠
        buildTieredTokenParams untold false usedVars ∧
      ¬ ∀ usage usedVars, usage.usageSemantic ≠ "anthropic" → Faithful usage usedVars := by
  refine ⟨by decide, by decide, by decide, fun always => ?_⟩
  have covers := (always
    { promptTokens := 1000
      promptTokensDetails := { cachedCreationTokens := 100 }
      claudeCacheCreation5mTokens := 10 } (fun _ => true) (by decide)).covers
  exact absurd covers (by decide)

end NewApi.TieredParams
