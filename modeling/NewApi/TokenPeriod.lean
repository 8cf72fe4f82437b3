import NewApi.BatchUpdater
import NewApi.CivilTime

/-! The quota of a token for a period. A period is not ended by a timer: the
first consumption after its end starts the next one, at the last anchor of the
day or at once. What is noted as used is what was consumed since the start, less
what was given back of it, as long as no refund of an earlier period arrives
while a later one runs. -/
namespace NewApi.TokenPeriod
open NewApi.BatchUpdater NewApi.CivilTime

/-! ## Clocks -/

/-- `time.Time.AddDate(0, 0, -1)`. -/
def dayBefore (zone : Zone) (instant : Int) : Int :=
  let shown := zone.local_ instant
  let date := dateOf (shown / 86400)
  zone.instant (86400 * { date with day := date.day - 1 }.number + shown % 86400)

/-- The clock of `subscriptionResetLocation`. -/
def zoneClock (zone : Zone) : Clock where
  atClock := atClock zone
  dayBefore := dayBefore zone

def periodLength (token : Token) : Int :=
  if token.periodDuration ≤ 0 then 86400 else token.periodDuration

def expired (now : Int) (token : Token) : Bool :=
  tokenPeriodExpired now token.periodStartAt token.periodDuration

def Anchored (token : Token) : Prop :=
  token.periodResetAnchor > 0 ∧ token.periodDuration ≥ 86400

instance (token : Token) : Decidable (Anchored token) := inferInstanceAs (Decidable (_ ∧ _))

/-! ## Adjustments -/

/-- A call of `DecreaseTokenQuota` or of `IncreaseTokenQuota`; `chargedAt` is when
the quota was consumed that a refund gives back. -/
inductive Adjustment where
  | consume (quota : Nat) (now : Int)
  | refund (quota : Nat) (now chargedAt : Int)
  deriving DecidableEq, Repr

def Adjustment.now : Adjustment → Int
  | .consume _ now => now
  | .refund _ now _ => now

def Adjustment.delta : Adjustment → Int
  | .consume quota _ => -quota
  | .refund quota _ _ => quota

abbrev History := List Adjustment

def History.lastTime : History → Int
  | [] => 0
  | adjustment :: _ => adjustment.now

def History.Charged (past : History) (time : Int) : Prop :=
  ∃ quota, 0 < quota ∧ Adjustment.consume quota time ∈ past

def consumedSince (start : Int) : History → Int
  | [] => 0
  | .consume quota now :: past => (if start ≤ now then quota else 0) + consumedSince start past
  | .refund .. :: past => consumedSince start past

def refundedSince (start duration : Int) : History → Int
  | [] => 0
  | .consume .. :: past => refundedSince start duration past
  | .refund quota now chargedAt :: past =>
    (if start ≤ chargedAt ∧ tokenPeriodExpired now start duration = false then quota else 0) +
      refundedSince start duration past

def usage (token : Token) (past : History) : Int :=
  consumedSince token.periodStartAt past - refundedSince token.periodStartAt token.periodDuration past

/-- The states of a token over its adjustments. What it has used at the outset
was consumed at the start of its period; times do not go back, and a refund is of
quota that was consumed. Each step meets a condition on what was before it. -/
inductive Run (clock : Clock) (condition : History → Token → Adjustment → Prop) (first : Token) :
    History → Token → Prop
  | opened (quota : Nat) (noted : first.periodUsedQuota = quota) :
    Run clock condition first [.consume quota first.periodStartAt] first
  | step {past : History} {token : Token} (adjustment : Adjustment)
    (run : Run clock condition first past token)
    (later : past.lastTime ≤ adjustment.now ∧ 0 < adjustment.now)
    (charged : ∀ quota now chargedAt, adjustment = .refund quota now chargedAt → past.Charged chargedAt)
    (meets : condition past token adjustment) :
    Run clock condition first (adjustment :: past) (adjusted clock adjustment.delta adjustment.now token)

structure Accurate (first : Token) (past : History) (token : Token) : Prop where
  /-- A consumption is in the period that it is counted in. -/
  within : ∀ quota now before, past = .consume quota now :: before → 0 < quota →
    token.periodStartAt ≤ now ∧ now < token.periodStartAt + periodLength token
  noted : token.periodUsedQuota = max 0 (usage token past)
  /-- A refund of an earlier period takes nothing off this one. -/
  kept : ∀ quota now chargedAt before, past = .refund quota now chargedAt :: before →
    chargedAt < token.periodStartAt → usage token before ≤ token.periodUsedQuota
  total : token.remainQuota + token.usedQuota = first.remainQuota + first.usedQuota

def RefundMeets (token : Token) (quota : Nat) (now chargedAt : Int) : Prop :=
  0 < quota → expired now token = false →
    token.periodStartAt ≤ chargedAt ∧ quota ≤ token.periodUsedQuota ∨
      chargedAt < token.periodStartAt ∧ token.periodUsedQuota = 0

def RollsOver (clock : Clock) (past : History) (token : Token) (now : Int) : Prop :=
  let start := alignToAnchor clock now token.periodResetAnchor
  start ≤ now ∧ now < start + periodLength token ∧ ∀ time, past.Charged time → time < start

def Meets (clock : Clock) (past : History) (token : Token) : Adjustment → Prop
  | .consume quota now =>
    0 < quota → expired now token → Anchored token → RollsOver clock past token now
  | .refund quota now chargedAt => RefundMeets token quota now chargedAt

variable {clock : Clock} {first token : Token} {past : History}

/-! ## What an adjustment writes -/

def nextStart (clock : Clock) (now : Int) (token : Token) : Int :=
  if Anchored token then alignToAnchor clock now token.periodResetAnchor else now

theorem consumed_running {quota : Nat} (limited : 0 < token.periodQuota)
    (positive : 0 < quota) (running : expired now token = false) :
    adjusted clock (-quota) now token =
      { token with
        periodUsedQuota := token.periodUsedQuota + quota
        remainQuota := token.remainQuota + -quota
        usedQuota := token.usedQuota - -quota } := by
  have unlimited : ¬ token.periodQuota ≤ 0 := by omega
  have consumes : -(quota : Int) < 0 := by omega
  have same : consumedPeriod clock now token = (token.periodStartAt, token.periodUsedQuota) := by
    rw [consumedPeriod, if_neg (by simpa [expired] using running)]
  simp only [adjusted, adjustPeriod, unlimited, consumes, same, if_true, if_false, Int.sub_neg]

theorem consumed_expired {quota : Nat} (limited : 0 < token.periodQuota)
    (positive : 0 < quota) (ended : expired now token) :
    adjusted clock (-quota) now token =
      { token with
        periodStartAt := nextStart clock now token
        periodUsedQuota := quota
        remainQuota := token.remainQuota + -quota
        usedQuota := token.usedQuota - -quota } := by
  have unlimited : ¬ token.periodQuota ≤ 0 := by omega
  have consumes : -(quota : Int) < 0 := by omega
  have started : consumedPeriod clock now token = (nextStart clock now token, 0) := by
    rw [consumedPeriod, if_pos (by simpa [expired] using ended), nextStart]
    by_cases anchored : Anchored token
    · rw [if_pos anchored]
      exact if_pos anchored
    · rw [if_neg anchored]
      exact if_neg anchored
  simp only [adjusted, adjustPeriod, unlimited, consumes, started, if_true, if_false, Int.sub_neg,
    Int.zero_add]

theorem refunded_running {quota : Nat} (limited : 0 < token.periodQuota)
    (running : expired now token = false) :
    adjusted clock quota now token =
      { token with
        periodUsedQuota :=
          if 0 < quota then max 0 (token.periodUsedQuota - quota) else token.periodUsedQuota
        remainQuota := token.remainQuota + quota
        usedQuota := token.usedQuota - quota } := by
  have unlimited : ¬ token.periodQuota ≤ 0 := by omega
  have refunds : ¬ (quota : Int) < 0 := by omega
  have runs : tokenPeriodExpired now token.periodStartAt token.periodDuration = false := running
  by_cases positive : 0 < quota
  · simp [adjusted, adjustPeriod, unlimited, refunds, runs, positive]
  · have none_ : quota = 0 := by omega
    simp [adjusted, adjustPeriod, unlimited, none_]

theorem adjusted_apart (apart : delta = 0 ∨ 0 < delta ∧ expired now token) :
    adjusted clock delta now token =
      { token with
        remainQuota := token.remainQuota + delta
        usedQuota := token.usedQuota - delta } := by
  have kept : adjustPeriod clock delta now token = token := by
    unfold adjustPeriod
    rcases apart with rfl | ⟨positive, ended⟩
    · simp
    · have gives : ¬ delta < 0 := by omega
      have ends : tokenPeriodExpired now token.periodStartAt token.periodDuration = true := ended
      simp [gives, ends]
  rw [adjusted, kept]

/-! ## What the history says -/

theorem consumed_none {start : Int} (before : ∀ time, past.Charged time → time < start) :
    consumedSince start past = 0 := by
  induction past with
  | nil => rfl
  | cons last past ih =>
    have rest : consumedSince start past = 0 := ih fun time ⟨quota, positive, member⟩ =>
      before time ⟨quota, positive, List.mem_cons_of_mem _ member⟩
    cases last with
    | refund => exact rest
    | consume quota now =>
      by_cases positive : 0 < quota
      · have earlier := before now ⟨quota, positive, List.mem_cons_self⟩
        rw [consumedSince, rest, if_neg (by omega)]
        rfl
      · have none_ : quota = 0 := by omega
        simp [consumedSince, rest, none_]

theorem refunded_none {start : Int}
    (before : ∀ quota now chargedAt, Adjustment.refund quota now chargedAt ∈ past →
      chargedAt < start) : refundedSince start duration past = 0 := by
  induction past with
  | nil => rfl
  | cons last past ih =>
    have rest : refundedSince start duration past = 0 := ih fun quota now chargedAt member =>
      before quota now chargedAt (List.mem_cons_of_mem _ member)
    cases last with
    | consume => exact rest
    | refund quota now chargedAt =>
      have earlier := before quota now chargedAt List.mem_cons_self
      rw [refundedSince, rest, if_neg (by omega)]
      rfl

theorem charged_cons (charged : past.Charged time) :
    History.Charged (last :: past) time := by
  obtain ⟨quota, positive, member⟩ := charged
  exact ⟨quota, positive, List.mem_cons_of_mem _ member⟩

theorem charged_cases {last : Adjustment} (charged : History.Charged (last :: past) time) :
    (∃ quota, 0 < quota ∧ last = .consume quota time) ∨ past.Charged time := by
  obtain ⟨quota, positive, member⟩ := charged
  rcases List.mem_cons.mp member with same | earlier
  · exact .inl ⟨quota, positive, same.symm⟩
  · exact .inr ⟨quota, positive, earlier⟩

theorem length_pos (token : Token) : 0 < periodLength token := by
  unfold periodLength
  split <;> omega

theorem running_iff :
    expired now token = false ↔
      0 < token.periodStartAt ∧ now < token.periodStartAt + periodLength token := by
  simp only [expired, tokenPeriodExpired, periodLength, Bool.or_eq_false_iff, decide_eq_false_iff_not]
  split <;> omega

/-! ## What a run keeps -/

structure Ledger (first : Token) (past : History) (token : Token) : Prop where
  limited : 0 < token.periodQuota
  started : token.periodStartAt ≤ past.lastTime
  nonneg : 0 ≤ token.periodUsedQuota
  noted : token.periodUsedQuota = usage token past
  within : ∀ quota now before, past = .consume quota now :: before → 0 < quota →
    token.periodStartAt ≤ now ∧ now < token.periodStartAt + periodLength token
  given : ∀ quota now chargedAt, Adjustment.refund quota now chargedAt ∈ past → past.Charged chargedAt
  /-- Periods that start at once follow one another. -/
  follows : ¬ Anchored token → ∀ time, past.Charged time →
    time < token.periodStartAt + periodLength token ∧ (token.periodStartAt ≤ 0 → time ≤ token.periodStartAt)
  total : token.remainQuota + token.usedQuota = first.remainQuota + first.usedQuota

theorem next_start_fresh {now : Int} (ledger : Ledger first past token) (timed : 0 < now)
    (ended : expired now token)
    (meets : Anchored token → RollsOver clock past token now) :
    nextStart clock now token ≤ now ∧ now < nextStart clock now token + periodLength token ∧
      (∀ time, past.Charged time → time < nextStart clock now token) ∧
      (¬ Anchored token → nextStart clock now token = now) := by
  by_cases anchored : Anchored token
  · have rolled : nextStart clock now token = alignToAnchor clock now token.periodResetAnchor :=
      if_pos anchored
    obtain ⟨started, lasts, behind⟩ := meets anchored
    rw [rolled]
    exact ⟨started, lasts, behind, fun free => absurd anchored free⟩
  · have rolled : nextStart clock now token = now := if_neg anchored
    have lasts := length_pos token
    have over_ : ¬ (0 < token.periodStartAt ∧ now < token.periodStartAt + periodLength token) := by
      rw [← running_iff, ended]
      simp
    rw [rolled]
    refine ⟨Int.le_refl _, by omega, fun time charged => ?_, fun _ => rfl⟩
    have follows := ledger.follows anchored time charged
    omega

theorem opened_ledger {quota : Nat} (limited : 0 < first.periodQuota)
    (noted : first.periodUsedQuota = quota) :
    Ledger first [.consume quota first.periodStartAt] first where
  limited := limited
  started := Int.le_refl _
  nonneg := by omega
  noted := by simp [usage, consumedSince, refundedSince, noted]
  within := by
    intro _ _ _ same _
    cases same
    have lasts := length_pos first
    omega
  given := by simp
  follows := by
    intro _ time charged
    obtain ⟨_, _, member⟩ := charged
    cases List.mem_singleton.mp member
    have lasts := length_pos first
    omega
  total := rfl

theorem given_consume {quota : Nat} (ledger : Ledger first past token) :
    ∀ back time chargedAt, Adjustment.refund back time chargedAt ∈
      (.consume quota now :: past : History) → History.Charged (.consume quota now :: past) chargedAt := by
  intro back time chargedAt member
  rcases List.mem_cons.mp member with same | earlier
  · cases same
  · exact charged_cons (ledger.given back time chargedAt earlier)

theorem total_moved {delta : Int} (ledger : Ledger first past token) :
    token.remainQuota + delta + (token.usedQuota - delta) = first.remainQuota + first.usedQuota := by
  have total := ledger.total
  omega

theorem running_ledger {quota : Nat} (ledger : Ledger first past token)
    (later : past.lastTime ≤ now) (positive : 0 < quota) (running : expired now token = false) :
    Ledger first (.consume quota now :: past) (adjusted clock (-quota) now token) := by
  obtain ⟨begun, lasts⟩ := running_iff.mp running
  have inside : token.periodStartAt ≤ now := ledger.started.trans later
  have nonneg := ledger.nonneg
  have noted := ledger.noted
  rw [consumed_running ledger.limited positive running]
  refine ⟨ledger.limited, inside, by simp only; omega, ?_, ?_, given_consume ledger, ?_, total_moved ledger⟩
  · simp only [usage, consumedSince, refundedSince, if_pos inside] at noted ⊢
    omega
  · intro _ _ _ same _
    cases same
    exact ⟨inside, lasts⟩
  · intro free time charged
    rcases charged_cases charged with ⟨_, _, same⟩ | earlier
    · cases same
      exact ⟨lasts, fun none_ => absurd begun (not_lt.mpr none_)⟩
    · exact ledger.follows free time earlier

theorem rolled_ledger {quota : Nat} (ledger : Ledger first past token)
    (timed : 0 < now) (positive : 0 < quota) (ended : expired now token)
    (meets : Anchored token → RollsOver clock past token now) :
    Ledger first (.consume quota now :: past) (adjusted clock (-quota) now token) := by
  obtain ⟨begun, lasts, behind, atOnce⟩ := next_start_fresh ledger timed ended meets
  have long := length_pos token
  rw [consumed_expired ledger.limited positive ended]
  refine ⟨ledger.limited, begun, by simp only; omega, ?_, ?_, given_consume ledger, ?_, total_moved ledger⟩
  · have earlier := consumed_none behind
    have back : refundedSince (nextStart clock now token) token.periodDuration past = 0 :=
      refunded_none fun quota time chargedAt member =>
        behind chargedAt (ledger.given quota time chargedAt member)
    simp only [usage, consumedSince, refundedSince, if_pos begun, earlier, back]
    omega
  · intro _ _ _ same _
    cases same
    exact ⟨begun, lasts⟩
  · intro free time charged
    have rolled : nextStart clock now token = now := atOnce free
    have within : time ≤ now := by
      rcases charged_cases charged with ⟨_, _, same⟩ | earlier
      · cases same
        exact Int.le_refl _
      · have before := behind time earlier
        omega
    simp only [rolled]
    exact ⟨show time < now + periodLength token by omega, fun none_ => by omega⟩

theorem nothing_ledger (ledger : Ledger first past token) (later : past.lastTime ≤ now) :
    Ledger first (.consume 0 now :: past) (adjusted clock (-(0 : Nat)) now token) := by
  have noted := ledger.noted
  have nothing : -((0 : Nat) : Int) = 0 := rfl
  rw [nothing, adjusted_apart (.inl rfl)]
  refine ⟨ledger.limited, ledger.started.trans later, ledger.nonneg, ?_, ?_,
    given_consume ledger, ?_, total_moved ledger⟩
  · simpa [usage, consumedSince, refundedSince] using noted
  · intro _ _ _ same some_
    cases same
    exact absurd some_ (Nat.lt_irrefl 0)
  · intro free time charged
    rcases charged_cases charged with ⟨_, some_, same⟩ | earlier
    · cases same
      exact absurd some_ (Nat.lt_irrefl 0)
    · exact ledger.follows free time earlier

theorem consumed_ledger (ledger : Ledger first past token)
    (later : past.lastTime ≤ now ∧ 0 < now) (meets : Meets clock past token (.consume quota now)) :
    Ledger first (.consume quota now :: past) (adjusted clock (-quota) now token) := by
  by_cases positive : 0 < quota
  · cases ended : expired now token with
    | false => exact running_ledger ledger later.1 positive ended
    | true => exact rolled_ledger ledger later.2 positive ended (meets positive ended)
  · obtain rfl : quota = 0 := by omega
    exact nothing_ledger ledger later.1

theorem refunded_ledger {quota : Nat} (ledger : Ledger first past token)
    (later : past.lastTime ≤ now) (charged : past.Charged chargedAt)
    (meets : RefundMeets token quota now chargedAt) :
    Ledger first (.refund quota now chargedAt :: past) (adjusted clock quota now token) := by
  have nonneg := ledger.nonneg
  have noted := ledger.noted
  have given : ∀ back time at_, Adjustment.refund back time at_ ∈
      (.refund quota now chargedAt :: past : History) →
        History.Charged (.refund quota now chargedAt :: past) at_ := by
    intro back time at_ member
    rcases List.mem_cons.mp member with same | earlier
    · cases same
      exact charged_cons charged
    · exact charged_cons (ledger.given back time at_ earlier)
  have follows : ¬ Anchored token → ∀ time,
      History.Charged (.refund quota now chargedAt :: past) time →
        time < token.periodStartAt + periodLength token ∧
          (token.periodStartAt ≤ 0 → time ≤ token.periodStartAt) := by
    intro free time charged
    rcases charged_cases charged with ⟨_, _, same⟩ | earlier
    · cases same
    · exact ledger.follows free time earlier
  have within : ∀ back time before,
      (.refund quota now chargedAt :: past : History) = .consume back time :: before →
        0 < back → token.periodStartAt ≤ time ∧ time < token.periodStartAt + periodLength token := by
    intro _ _ _ same
    cases same
  cases ended : expired now token with
  | false =>
    have runs : tokenPeriodExpired now token.periodStartAt token.periodDuration = false := ended
    rw [refunded_running ledger.limited ended]
    refine ⟨ledger.limited, ledger.started.trans later, ?_, ?_, within, given, follows, total_moved ledger⟩
    · simp only
      split <;> omega
    · simp only [usage, consumedSince, refundedSince, runs, and_true] at noted ⊢
      by_cases positive : 0 < quota
      · rcases meets positive ended with ⟨inside, enough⟩ | ⟨outside, unused⟩
        · rw [if_pos positive, if_pos inside]
          omega
        · rw [if_pos positive, if_neg (by omega)]
          omega
      · rw [if_neg positive]
        split <;> omega
  | true =>
    have ends : tokenPeriodExpired now token.periodStartAt token.periodDuration = true := ended
    have apart : (quota : Int) = 0 ∨ 0 < (quota : Int) ∧ expired now token = true := by
      rcases Nat.eq_zero_or_pos quota with none_ | positive
      · exact .inl (by omega)
      · exact .inr ⟨by omega, ended⟩
    rw [adjusted_apart apart]
    refine ⟨ledger.limited, ledger.started.trans later, nonneg, ?_, within, given, follows,
      total_moved ledger⟩
    simpa [usage, consumedSince, refundedSince, ends] using noted

theorem step_ledger (ledger : Ledger first past token)
    (later : past.lastTime ≤ adjustment.now ∧ 0 < adjustment.now)
    (charged : ∀ quota now chargedAt, adjustment = .refund quota now chargedAt → past.Charged chargedAt)
    (meets : Meets clock past token adjustment) :
    Ledger first (adjustment :: past) (adjusted clock adjustment.delta adjustment.now token) := by
  cases adjustment with
  | consume quota now => exact consumed_ledger ledger later meets
  | refund quota now chargedAt =>
    exact refunded_ledger ledger later.1 (charged quota now chargedAt rfl) meets

theorem run_ledger (limited : 0 < first.periodQuota) (run : Run clock (Meets clock) first past token) :
    Ledger first past token := by
  induction run with
  | opened quota noted => exact opened_ledger limited noted
  | step adjustment _ later charged meets ih => exact step_ledger ih later charged meets

theorem Ledger.accurate (ledger : Ledger first past token) : Accurate first past token where
  within := ledger.within
  noted := by
    have nonneg := ledger.nonneg
    have noted := ledger.noted
    omega
  kept := by
    rintro quota now chargedAt before rfl old
    have noted := ledger.noted
    simp only [usage, consumedSince, refundedSince,
      if_neg (not_and_of_not_left _ (not_le.mpr old))] at noted ⊢
    omega
  total := ledger.total

/-- In every run whose steps all meet the condition, the columns of the token say
what its history says, in every state that is reached. -/
theorem run_accurate (limited : 0 < first.periodQuota)
    (run : Run clock (Meets clock) first past token) : Accurate first past token :=
  (run_ledger limited run).accurate

/-! ## A refund of the day before -/

def dailyToken : Token where
  id := 1
  remainQuota := 5000
  periodQuota := 1000
  periodStartAt := 1750064400
  periodDuration := 86400

def greenwich : Clock := zoneClock (fixedZone 0)

/-- 100 are consumed and given back on the first day, and 10 are consumed on the
second. -/
theorem daily_token_accurate :
    Accurate dailyToken
      [.consume 10 1750150810, .refund 100 1750064500 1750064410, .consume 100 1750064410,
        .consume 0 1750064400]
      (adjusted greenwich (-10) 1750150810 (adjusted greenwich 100 1750064500
        (adjusted greenwich (-100) 1750064410 dailyToken))) := by
  have opened : Run greenwich (Meets greenwich) dailyToken [.consume 0 1750064400] dailyToken :=
    .opened 0 rfl
  have consumed := opened.step (.consume 100 1750064410) (by decide) (fun _ _ _ same => by cases same)
    fun _ _ anchored => absurd anchored (by decide)
  have refunded := consumed.step (.refund 100 1750064500 1750064410) (by decide)
    (fun _ _ _ same => by
      cases same
      exact ⟨100, by decide, by decide⟩)
    fun _ _ => .inl (by decide)
  have nextDay := refunded.step (.consume 10 1750150810) (by decide) (fun _ _ _ same => by cases same)
    fun _ _ anchored => absurd anchored (by decide)
  exact run_accurate (by decide) nextDay

def refundedLate : History :=
  [.refund 100 1750150820 1750064410, .consume 10 1750150810, .consume 100 1750064410,
    .consume 0 1750064400]

def longToken : Token where
  id := 1
  remainQuota := 5000
  periodQuota := 1000
  periodStartAt := 1750060800
  periodDuration := 90000
  periodResetAnchor := 28800

def consumedBetween : History :=
  [.consume 10 1750152600, .consume 5 1750149000, .consume 0 1750060800]

theorem late_refund_lowers_usage :
    (∃ token, Run greenwich (fun _ _ _ => True) dailyToken refundedLate token ∧
      token.periodUsedQuota = 0 ∧ usage token refundedLate = 10 ∧
      ¬ Accurate dailyToken refundedLate token) ∧
    ∃ token, Run greenwich (fun _ _ _ => True) longToken consumedBetween token ∧
      token.periodUsedQuota = 10 ∧ usage token consumedBetween = 15 ∧
      ¬ Accurate longToken consumedBetween token := by
  constructor
  · have opened : Run greenwich (fun _ _ _ => True) dailyToken [.consume 0 1750064400] dailyToken :=
      .opened 0 rfl
    have consumed := opened.step (.consume 100 1750064410) (by decide)
      (fun _ _ _ same => by cases same) trivial
    have nextDay := consumed.step (.consume 10 1750150810) (by decide)
      (fun _ _ _ same => by cases same) trivial
    have refunded := nextDay.step (.refund 100 1750150820 1750064410) (by decide)
      (fun _ _ _ same => by
        cases same
        exact ⟨100, by decide, by decide⟩) trivial
    refine ⟨_, refunded, by decide, by decide, fun accurate => ?_⟩
    exact absurd accurate.noted (by decide)
  · have opened : Run greenwich (fun _ _ _ => True) longToken [.consume 0 1750060800] longToken :=
      .opened 0 rfl
    have inside := opened.step (.consume 5 1750149000) (by decide) (fun _ _ _ same => by cases same) trivial
    have behind := inside.step (.consume 10 1750152600) (by decide)
      (fun _ _ _ same => by cases same) trivial
    refine ⟨_, behind, by decide +kernel, by decide +kernel, fun accurate => ?_⟩
    exact absurd accurate.noted (by decide +kernel)

end NewApi.TokenPeriod
