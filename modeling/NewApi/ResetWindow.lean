import Mathlib.Logic.Basic

/-! The reset windows of a subscription: when the next window opens, and the
loop that moves a subscription into the window that holds the present. Time is
in unix seconds. The zone rules come from the time package's database, so they
are a parameter; the model relies on them only to move forward. -/
namespace NewApi.ResetWindow

/-- `SubscriptionResetNever` and its siblings, as `NormalizeResetPeriod` leaves
them. -/
inductive ResetPeriod where
  | never
  | daily
  | weekly
  | monthly
  | yearly
  | custom
  deriving DecidableEq, Repr

/-- What the time package computes from the zone database: `AddDate` in the
server's zone and in `subscriptionResetLocation`, and the instant at which the
reset zone shows a clock time on the day of another instant. Adding a calendar
period moves forward, also past an instant whose day was taken. -/
structure Calendar where
  addDate (years months days : Nat) (from_ : Int) : Int
  addDateReset (years months days : Nat) (from_ : Int) : Int
  atClock (seconds : Int) (day : Int) : Int
  addDate_later : ∀ years months days from_, 0 < years + months + days →
    from_ < addDate years months days from_
  addDateReset_forward : ∀ years months days from_, 0 < years + months + days →
    from_ < addDateReset years months days from_
  addDateReset_later : ∀ years months days seconds day, 0 < years + months + days →
    day < addDateReset years months days (atClock seconds day)

structure ResetRule where
  quotaResetPeriod : ResetPeriod
  quotaResetCustomSeconds : Int
  quotaResetUseFixedClock : Bool
  quotaResetFixedSeconds : Int
  deriving DecidableEq, Repr

def resetPeriodSupportsFixedClock : ResetPeriod → Bool
  | .daily | .weekly | .monthly | .yearly => true
  | .never | .custom => false

/-- `model/subscription.go::normalizeResetFixedClock`, `none` for `false, 0`. -/
def normalizeResetFixedClock (useFixed : Bool) (fixedSeconds : Int) (period : ResetPeriod) : Option Int :=
  if !useFixed || !resetPeriodSupportsFixedClock period then none
  else if fixedSeconds < 0 then none
  else if fixedSeconds ≥ 24 * 3600 then some (24 * 3600 - 1)
  else some fixedSeconds

/-- `model/subscription.go::applyFixedClockToResetTime`. -/
def applyFixedClockToResetTime (calendar : Calendar) (base next : Int)
    (period : ResetPeriod) (fixedSeconds : Int) : Int :=
  match normalizeResetFixedClock true fixedSeconds period with
  | none => next
  | some seconds =>
    let candidate := calendar.atClock seconds next
    if candidate > base then candidate
    else match period with
      | .daily => calendar.addDateReset 0 0 1 candidate
      | .weekly => calendar.addDateReset 0 0 7 candidate
      | .monthly => calendar.addDateReset 0 1 0 candidate
      | .yearly => calendar.addDateReset 1 0 0 candidate
      | .never | .custom => candidate

/-- The start of the window after the one that starts at `base`, before the
fixed clock and the end of the subscription are applied. -/
def nextPeriodStart (calendar : Calendar) (rule : ResetRule) (base : Int) : Option Int :=
  match rule.quotaResetPeriod with
  | .never => none
  | .daily => some (base + 24 * 3600)
  | .weekly => some (calendar.addDate 0 0 7 base)
  | .monthly => some (calendar.addDate 0 1 0 base)
  | .yearly => some (calendar.addDate 1 0 0 base)
  | .custom =>
    if rule.quotaResetCustomSeconds ≤ 0 then none
    else some (base + rule.quotaResetCustomSeconds)

/-- `model/subscription.go::calcNextResetTime`, 0 when no window follows. -/
def calcNextResetTime (calendar : Calendar) (base : Int) (rule : ResetRule) (endUnix : Int) : Int :=
  match nextPeriodStart calendar rule base with
  | none => 0
  | some start =>
    let next := if rule.quotaResetUseFixedClock then
        applyFixedClockToResetTime calendar base start rule.quotaResetPeriod rule.quotaResetFixedSeconds
      else start
    if endUnix > 0 ∧ next > endUnix then 0 else next

theorem next_period_start_later
    (next : nextPeriodStart calendar rule base = some start) : base < start := by
  unfold nextPeriodStart at next
  split at next
  · cases next
  · cases next; omega
  · cases next; exact calendar.addDate_later 0 0 7 base (by omega)
  · cases next; exact calendar.addDate_later 0 1 0 base (by omega)
  · cases next; exact calendar.addDate_later 1 0 0 base (by omega)
  · split at next
    · cases next
    · cases next; omega

theorem fixed_clock_later
    (later : base < next) :
    base < applyFixedClockToResetTime calendar base next period fixedSeconds := by
  unfold applyFixedClockToResetTime
  cases clock : normalizeResetFixedClock true fixedSeconds period with
  | none => exact later
  | some seconds =>
    by_cases reached : calendar.atClock seconds next > base
    · simp only [reached, if_true]
    · cases period with
      | never | custom => simp [normalizeResetFixedClock, resetPeriodSupportsFixedClock] at clock
      | daily =>
        simpa [reached] using Int.lt_trans later (calendar.addDateReset_later 0 0 1 seconds next (by omega))
      | weekly =>
        simpa [reached] using Int.lt_trans later (calendar.addDateReset_later 0 0 7 seconds next (by omega))
      | monthly =>
        simpa [reached] using Int.lt_trans later (calendar.addDateReset_later 0 1 0 seconds next (by omega))
      | yearly =>
        simpa [reached] using Int.lt_trans later (calendar.addDateReset_later 1 0 0 seconds next (by omega))

theorem next_reset_later (calendar : Calendar) (base : Int) (rule : ResetRule) (endUnix : Int) :
    calcNextResetTime calendar base rule endUnix = 0 ∨
      base < calcNextResetTime calendar base rule endUnix := by
  unfold calcNextResetTime
  cases period : nextPeriodStart calendar rule base with
  | none => exact .inl rfl
  | some start =>
    have later := next_period_start_later period
    dsimp only
    split
    · split
      · exact .inl rfl
      · exact .inr (fixed_clock_later later)
    · split
      · exact .inl rfl
      · exact .inr later

/-- The loop `for next > 0 && next <= now`, which opens every window up to the
present. `fuel` bounds the rounds. -/
def advanceWindow (calendar : Calendar) (rule : ResetRule) (endUnix now : Int) : Nat → Int → Int
  | 0, base => base
  | fuel + 1, base =>
    let next := calcNextResetTime calendar base rule endUnix
    if 0 < next ∧ next ≤ now then advanceWindow calendar rule endUnix now fuel next else base

def windowRounds (base now : Int) : Nat := (now - base).toNat

theorem advance_window_finished (calendar : Calendar) (rule : ResetRule)
    (endUnix now base : Int) (enough : windowRounds base now ≤ fuel) :
    let reached := advanceWindow calendar rule endUnix now fuel base
    ¬ (0 < calcNextResetTime calendar reached rule endUnix ∧
      calcNextResetTime calendar reached rule endUnix ≤ now) := by
  induction fuel generalizing base with
  | zero =>
    simp only [advanceWindow, not_and]
    intro positive due
    rcases next_reset_later calendar base rule endUnix with none_left | later
    · omega
    · simp only [windowRounds] at enough
      omega
  | succ fuel ih =>
    simp only [advanceWindow]
    split
    · rename_i due
      refine ih _ ?_
      rcases next_reset_later calendar base rule endUnix with none_left | later
      · omega
      · simp only [windowRounds] at enough ⊢
        omega
    · assumption

theorem advance_window_bounds (calendar : Calendar) (rule : ResetRule)
    (endUnix now base : Int) (fuel : Nat) :
    advanceWindow calendar rule endUnix now fuel base = base ∨
      (base < advanceWindow calendar rule endUnix now fuel base ∧
        advanceWindow calendar rule endUnix now fuel base ≤ now) := by
  induction fuel generalizing base with
  | zero => exact .inl rfl
  | succ fuel ih =>
    simp only [advanceWindow]
    split
    · rename_i due
      have later : base < calcNextResetTime calendar base rule endUnix := by
        rcases next_reset_later calendar base rule endUnix with none_left | later
        · omega
        · exact later
      rcases ih (calcNextResetTime calendar base rule endUnix) with same | ⟨moved, reached⟩
      · exact .inr (by rw [same]; exact ⟨later, due.2⟩)
      · exact .inr ⟨Int.lt_trans later moved, reached⟩
    · exact .inl rfl

theorem advance_window_more (calendar : Calendar) (rule : ResetRule) (endUnix now base : Int)
    (enough : windowRounds base now ≤ fuel) (more : Nat) :
    advanceWindow calendar rule endUnix now (fuel + more) base =
      advanceWindow calendar rule endUnix now fuel base := by
  induction fuel generalizing base with
  | zero =>
    cases more with
    | zero => rfl
    | succ more =>
      rw [Nat.zero_add, advanceWindow, advanceWindow]
      refine if_neg ?_
      rintro ⟨positive, due⟩
      have later := (next_reset_later calendar base rule endUnix).resolve_left (by omega)
      simp only [windowRounds] at enough
      omega
  | succ fuel ih =>
    rw [Nat.succ_add, advanceWindow, advanceWindow]
    split
    · rename_i due
      have later := (next_reset_later calendar base rule endUnix).resolve_left (by omega)
      apply ih
      simp only [windowRounds] at enough ⊢
      omega
    · rfl

/-! ## The windows that follow a start -/

/-- The instants at which the windows after `start` begin, each where the one
before it ends. -/
inductive Boundary (calendar : Calendar) (rule : ResetRule) (endUnix start : Int) : Int → Prop
  | start : Boundary calendar rule endUnix start start
  | next (base : Int) : Boundary calendar rule endUnix start base →
    0 < calcNextResetTime calendar base rule endUnix →
    Boundary calendar rule endUnix start (calcNextResetTime calendar base rule endUnix)

section Boundaries

theorem start_le_boundary (boundary : Boundary calendar rule endUnix start base) : start ≤ base := by
  induction boundary with
  | start => exact Int.le_refl start
  | next base _ positive ih =>
    have later := (next_reset_later calendar base rule endUnix).resolve_left (by omega)
    omega

theorem advance_window_boundary (boundary : Boundary calendar rule endUnix start base) (fuel : Nat) :
    Boundary calendar rule endUnix start (advanceWindow calendar rule endUnix now fuel base) := by
  induction fuel generalizing base with
  | zero => exact boundary
  | succ fuel ih =>
    rw [advanceWindow]
    split
    · rename_i due
      apply ih
      exact .next base boundary due.1
    · exact boundary

theorem advance_window_from_boundary (boundary : Boundary calendar rule endUnix start base)
    (reached : base ≤ now) (enough : windowRounds start now ≤ fuel) :
    advanceWindow calendar rule endUnix now fuel start =
      advanceWindow calendar rule endUnix now (windowRounds base now) base := by
  induction boundary with
  | start =>
    obtain ⟨more, rfl⟩ := Nat.exists_eq_add_of_le enough
    exact advance_window_more calendar rule endUnix now start (Nat.le_refl _) more
  | next base _ positive ih =>
    have later := (next_reset_later calendar base rule endUnix).resolve_left (by omega)
    rw [ih (by omega)]
    obtain ⟨rounds, shape⟩ : ∃ rounds, windowRounds base now = rounds + 1 :=
      Nat.exists_eq_succ_of_ne_zero (by simp only [windowRounds]; omega)
    rw [shape, advanceWindow]
    rw [if_pos ⟨positive, reached⟩]
    obtain ⟨more, rounded⟩ := Nat.exists_eq_add_of_le (show windowRounds
      (calcNextResetTime calendar base rule endUnix) now ≤ rounds by
        simp only [windowRounds] at shape ⊢; omega)
    rw [rounded]
    exact advance_window_more calendar rule endUnix now _ (Nat.le_refl _) more

theorem advance_window_holds (boundary : Boundary calendar rule endUnix start base) (reached : base ≤ now)
    (holds : ¬ (0 < calcNextResetTime calendar base rule endUnix ∧
      calcNextResetTime calendar base rule endUnix ≤ now)) :
    advanceWindow calendar rule endUnix now (windowRounds start now) start = base := by
  rw [advance_window_from_boundary boundary reached (Nat.le_refl _)]
  cases windowRounds base now with
  | zero => rfl
  | succ rounds => exact if_neg holds

end Boundaries

def dayCount : Calendar where
  addDate years months days from_ := from_ + 86400 * (365 * years + 30 * months + days)
  addDateReset years months days from_ := from_ + 86400 * (365 * years + 30 * months + days)
  atClock seconds day := day - day % 86400 + max 0 (min seconds 86399)
  addDate_later := by intros; omega
  addDateReset_forward := by intros; omega
  addDateReset_later := by intros; omega

example : calcNextResetTime dayCount 1000 ⟨.daily, 0, false, 0⟩ 0 = 87400 := by decide
example : advanceWindow dayCount ⟨.custom, 10, false, 0⟩ 0 35 35 0 = 30 := by decide

end NewApi.ResetWindow
