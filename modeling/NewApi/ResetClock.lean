import Mathlib.Algebra.Group.Int.Defs
import Mathlib.Algebra.Group.Nat.Defs
import NewApi.CivilTime
import NewApi.Subscription

/-! The reset times of a subscription on real clocks: durations are 64-bit
nanoseconds, dates are added in the zone of the server, and a fixed clock is read
in the reset zone. What is proved is for exactly which periods a reset time is
after its base, and so for which the loops over the windows end. On clocks of
fixed offsets this is the calendar that the windows of a subscription are computed
with elsewhere. -/
namespace NewApi.ResetClock
open NewApi.CivilTime NewApi.Subscription
open NewApi.ResetWindow (ResetPeriod ResetRule normalizeResetFixedClock)

/-- `time.Local`, in which dates are added, and `subscriptionResetLocation`. -/
structure Clocks where
  server : Zone
  reset : Zone

/-- `time.Duration(seconds) * time.Second`, in nanoseconds of 64 bits. -/
def durationOf (seconds : Int) : Int := (seconds * 10 ^ 9).bmod (2 ^ 64)

/-- `time.Time.Add` from a whole second, read by `Unix`. -/
def addDuration (base duration : Int) : Int := base + duration / 10 ^ 9

/-- `controller/subscription.go::normalizeSubscriptionPlanResetFields`. -/
def normalizeSubscriptionPlanResetFields (rule : ResetRule) : Except String ResetRule :=
  match rule.quotaResetPeriod with
  | .never => .ok ⟨.never, 0, false, 0⟩
  | .custom =>
    if rule.quotaResetCustomSeconds < 60 then .error "自定义重置周期需大于等于60秒"
    else .ok ⟨.custom, rule.quotaResetCustomSeconds, false, 0⟩
  | period =>
    if rule.quotaResetUseFixedClock then
      if rule.quotaResetFixedSeconds < 0 ∨ 24 * 3600 ≤ rule.quotaResetFixedSeconds then
        .error "固定重置时刻必须在 00:00:00 到 23:59:59 之间"
      else .ok ⟨period, 0, true, rule.quotaResetFixedSeconds⟩
    else .ok ⟨period, 0, false, 0⟩

section Times

variable (clocks : Clocks)

/-- `model/subscription.go::applyFixedClockToResetTime`. -/
def applyFixedClockToResetTime (base next : Int) (period : ResetPeriod) (fixedSeconds : Int) : Int :=
  match normalizeResetFixedClock true fixedSeconds period with
  | none => next
  | some seconds =>
    let candidate := atClock clocks.reset seconds next
    if candidate > base then candidate
    else match period with
      | .daily => addDate clocks.reset 0 0 1 candidate
      | .weekly => addDate clocks.reset 0 0 7 candidate
      | .monthly => addDate clocks.reset 0 1 0 candidate
      | .yearly => addDate clocks.reset 1 0 0 candidate
      | .never | .custom => candidate

/-- The next reset of `calcNextResetTime`, before the fixed clock and the end. -/
def nextPeriodStart (rule : ResetRule) (base : Int) : Option Int :=
  match rule.quotaResetPeriod with
  | .never => none
  | .daily => some (addDuration base (24 * 3600 * 10 ^ 9))
  | .weekly => some (addDate clocks.server 0 0 7 base)
  | .monthly => some (addDate clocks.server 0 1 0 base)
  | .yearly => some (addDate clocks.server 1 0 0 base)
  | .custom =>
    if rule.quotaResetCustomSeconds ≤ 0 then none
    else some (addDuration base (durationOf rule.quotaResetCustomSeconds))

/-- `model/subscription.go::calcNextResetTime`, 0 when no window follows. -/
def calcNextResetTime (base : Int) (rule : ResetRule) (endUnix : Int) : Int :=
  match nextPeriodStart clocks rule base with
  | none => 0
  | some start =>
    let next := if rule.quotaResetUseFixedClock then
        applyFixedClockToResetTime clocks base start rule.quotaResetPeriod rule.quotaResetFixedSeconds
      else start
    if endUnix > 0 ∧ next > endUnix then 0 else next

/-- The loop `for next > 0 && next <= now`: where it stops, and what follows
there; nothing if it has not stopped after so many rounds. -/
def advance (rule : ResetRule) (endUnix now : Int) : Nat → Int → Option (Int × Int)
  | 0, _ => none
  | rounds + 1, base =>
    let next := calcNextResetTime clocks base rule endUnix
    if 0 < next ∧ next ≤ now then advance rule endUnix now rounds next else some (base, next)

/-- `model/subscription.go::recalculateSubscriptionResetWindow`, if its loop ends
within so many rounds. -/
def recalculateSubscriptionResetWindow (rounds : Nat) (sub : UserSubscription) (now : Int) :
    Option UserSubscription :=
  if sub.resetPeriod = .never then some (sub.moveWindow 0 0)
  else
    (advance clocks (resetRule sub) sub.endTime now rounds (windowBase sub)).map fun (base, next) =>
      sub.moveWindow base next

/-- `model/subscription.go::getSubscriptionResetWindowForTimestamp`, if its loop
ends within so many rounds. -/
def getSubscriptionResetWindowForTimestamp (rounds : Nat) (sub : UserSubscription) (timestamp : Int) :
    Option (Int × Int) :=
  if timestamp ≤ 0 then some (0, 0)
  else if sub.resetPeriod = .never then some (sub.startTime, 0)
  else
    let baseUnix := if sub.startTime ≤ 0 then sub.lastResetTime else sub.startTime
    if baseUnix ≤ 0 then some (0, 0)
    else advance clocks (resetRule sub) sub.endTime timestamp rounds baseUnix

end Times

/-! ## When a reset time is after its base -/

def Lasts (rule : ResetRule) : Prop :=
  rule.quotaResetPeriod = .custom → 10 ^ 9 ≤ durationOf rule.quotaResetCustomSeconds

instance (rule : ResetRule) : Decidable (Lasts rule) :=
  inferInstanceAs (Decidable (_ → _))

variable {clocks : Clocks} {rule : ResetRule} {base endUnix now : Int}

theorem fixed_clock_later
    (later : base + 86400 ≤ next) :
    base < applyFixedClockToResetTime clocks base next period fixedSeconds := by
  unfold applyFixedClockToResetTime
  cases clock : normalizeResetFixedClock true fixedSeconds period with
  | none =>
    dsimp only
    omega
  | some seconds =>
    have low : 0 ≤ seconds := by
      unfold normalizeResetFixedClock at clock
      split at clock
      · cases clock
      · split at clock
        · cases clock
        · split at clock <;> cases clock <;> omega
    by_cases reached : atClock clocks.reset seconds next > base
    · simp only [reached, if_true]
    · simp only [reached, if_false]
      -- the candidate is in the day of the next reset, so a period on from it is after the base
      have inDay := at_clock_in_day clocks.reset low next
      cases period with
      | never | custom => simp [normalizeResetFixedClock, NewApi.ResetWindow.resetPeriodSupportsFixedClock] at clock
      | daily =>
        have on := add_date_later clocks.reset 0 0 1 (atClock clocks.reset seconds next)
        dsimp only
        omega
      | weekly =>
        have on := add_date_later clocks.reset 0 0 7 (atClock clocks.reset seconds next)
        dsimp only
        omega
      | monthly =>
        have on := add_date_later clocks.reset 0 1 0 (atClock clocks.reset seconds next)
        dsimp only
        omega
      | yearly =>
        have on := add_date_later clocks.reset 1 0 0 (atClock clocks.reset seconds next)
        dsimp only
        omega

theorem next_period_start_later (next : nextPeriodStart clocks rule base = some start) :
    (rule.quotaResetPeriod ≠ .custom ∧ base + 86400 ≤ start) ∨
      (rule.quotaResetPeriod = .custom ∧ 0 < rule.quotaResetCustomSeconds ∧
        start = base + durationOf rule.quotaResetCustomSeconds / 10 ^ 9) := by
  unfold nextPeriodStart at next
  split at next
  · cases next
  · rename_i daily
    cases next
    refine .inl ⟨by simp [daily], ?_⟩
    simp only [addDuration]
    omega
  · rename_i weekly
    cases next
    have on := add_date_later clocks.server 0 0 7 base
    exact .inl ⟨by simp [weekly], by omega⟩
  · rename_i monthly
    cases next
    have on := add_date_later clocks.server 0 1 0 base
    exact .inl ⟨by simp [monthly], by omega⟩
  · rename_i yearly
    cases next
    have on := add_date_later clocks.server 1 0 0 base
    exact .inl ⟨by simp [yearly], by omega⟩
  · rename_i custom
    split at next
    · cases next
    · cases next
      exact .inr ⟨custom, by omega, rfl⟩

theorem fixed_clock_custom (base next fixedSeconds : Int) :
    applyFixedClockToResetTime clocks base next .custom fixedSeconds = next := rfl

theorem custom_next (custom : rule.quotaResetPeriod = .custom) (positive : 0 < rule.quotaResetCustomSeconds) :
    calcNextResetTime clocks base rule 0 = base + durationOf rule.quotaResetCustomSeconds / 10 ^ 9 := by
  have start : nextPeriodStart clocks rule base =
      some (addDuration base (durationOf rule.quotaResetCustomSeconds)) := by
    simp only [nextPeriodStart, custom]
    exact if_neg (by omega)
  simp [calcNextResetTime, start, custom, fixed_clock_custom, addDuration]

theorem next_reset_later (lasts : Lasts rule) (base endUnix : Int) :
    calcNextResetTime clocks base rule endUnix = 0 ∨ base < calcNextResetTime clocks base rule endUnix := by
  unfold calcNextResetTime
  cases period : nextPeriodStart clocks rule base with
  | none => exact .inl rfl
  | some start =>
    have later : base < if rule.quotaResetUseFixedClock then
        applyFixedClockToResetTime clocks base start rule.quotaResetPeriod rule.quotaResetFixedSeconds
        else start := by
      rcases next_period_start_later period with ⟨-, day⟩ | ⟨custom, -, shape⟩
      · split
        · exact fixed_clock_later day
        · omega
      · have second := lasts custom
        rw [custom, fixed_clock_custom, ite_self]
        omega
    dsimp only
    generalize (if rule.quotaResetUseFixedClock then
      applyFixedClockToResetTime clocks base start rule.quotaResetPeriod rule.quotaResetFixedSeconds
      else start) = next at later ⊢
    split
    · exact .inl rfl
    · exact .inr later

/-! ## When the loops end -/

theorem advance_stops (rounds : Nat)
    (stop : ¬ (0 < calcNextResetTime clocks base rule endUnix ∧ calcNextResetTime clocks base rule endUnix ≤ now)) :
    (advance clocks rule endUnix now (rounds + 1) base).isSome = true := by
  rw [advance, if_neg stop]
  rfl

theorem advance_ends (measure : Int → Nat)
    (lowers : ∀ base, 0 < calcNextResetTime clocks base rule endUnix →
      calcNextResetTime clocks base rule endUnix ≤ now →
        measure (calcNextResetTime clocks base rule endUnix) < measure base)
    (enough : measure base < rounds) :
    (advance clocks rule endUnix now rounds base).isSome = true := by
  induction rounds generalizing base with
  | zero => omega
  | succ rounds ih =>
    by_cases due : 0 < calcNextResetTime clocks base rule endUnix ∧
        calcNextResetTime clocks base rule endUnix ≤ now
    · rw [advance, if_pos due]
      have lower := lowers base due.1 due.2
      exact ih (by omega)
    · exact advance_stops rounds due

theorem advance_stands (still : ∀ base, calcNextResetTime clocks base rule endUnix = base)
    (positive : 0 < base) (reached : base ≤ now) (rounds : Nat) :
    advance clocks rule endUnix now rounds base = none := by
  induction rounds with
  | zero => rfl
  | succ rounds ih =>
    rw [advance, if_pos (by rw [still base]; exact ⟨positive, reached⟩), still base]
    exact ih

def Moves (rule : ResetRule) : Prop :=
  rule.quotaResetPeriod = .custom → 0 < rule.quotaResetCustomSeconds →
    durationOf rule.quotaResetCustomSeconds / 10 ^ 9 ≠ 0

theorem advance_ends_of_moves (moves : Moves rule) (endUnix now base : Int) :
    ∃ rounds, (advance clocks rule endUnix now rounds base).isSome = true := by
  by_cases lasts : Lasts rule
  · refine ⟨(now - base).toNat + 1, advance_ends (fun base => (now - base).toNat) ?_ (Nat.lt_succ_self _)⟩
    intro base positive due
    have later := (@next_reset_later clocks _ lasts base endUnix).resolve_left (by omega)
    omega
  · obtain ⟨custom, short⟩ := Classical.not_imp.mp lasts
    refine ⟨base.toNat + 1, advance_ends Int.toNat ?_ (Nat.lt_succ_self _)⟩
    intro base positive due
    unfold calcNextResetTime at positive due ⊢
    cases period : nextPeriodStart clocks rule base with
    | none => simp [period] at positive
    | some start =>
      obtain ⟨other, -⟩ | ⟨-, seconds, shape⟩ := next_period_start_later period
      · exact absurd custom other
      · have back := moves custom seconds
        simp only [period, custom, fixed_clock_custom, ite_self] at positive due ⊢
        split at positive
        · omega
        · omega

structure LoopsEnd (clocks : Clocks) (rule : ResetRule) : Prop where
  recalculate : ∀ sub now, resetRule sub = rule →
    ∃ rounds, (recalculateSubscriptionResetWindow clocks rounds sub now).isSome = true
  forTimestamp : ∀ sub timestamp, resetRule sub = rule →
    ∃ rounds, (getSubscriptionResetWindowForTimestamp clocks rounds sub timestamp).isSome = true

theorem loops_end_iff (clocks : Clocks) (rule : ResetRule) : LoopsEnd clocks rule ↔ Moves rule := by
  constructor
  · intro ends custom seconds none_
    have still : ∀ base, calcNextResetTime clocks base rule 0 = base := by
      intro base
      rw [custom_next custom seconds, none_, Int.add_zero]
    let sub : UserSubscription :=
      { resetPeriod := rule.quotaResetPeriod
        resetCustomSeconds := rule.quotaResetCustomSeconds
        resetUseFixedClock := rule.quotaResetUseFixedClock
        resetFixedSeconds := rule.quotaResetFixedSeconds
        startTime := 1 }
    obtain ⟨rounds, ended⟩ := ends.recalculate sub 1 rfl
    have stands : advance clocks rule 0 1 rounds 1 = none :=
      advance_stands still (by omega) (Int.le_refl 1) rounds
    have resets : sub.resetPeriod ≠ .never := by simp [sub, custom]
    rw [recalculateSubscriptionResetWindow, if_neg resets,
      show advance clocks (resetRule sub) sub.endTime 1 rounds (windowBase sub) = none from stands] at ended
    cases ended
  · intro moves
    refine ⟨fun sub now same => ?_, fun sub timestamp same => ?_⟩
    · subst same
      obtain ⟨rounds, ended⟩ := @advance_ends_of_moves clocks _ moves sub.endTime now (windowBase sub)
      refine ⟨rounds, ?_⟩
      unfold recalculateSubscriptionResetWindow
      split
      · rfl
      · rw [Option.isSome_map]
        exact ended
    · subst same
      obtain ⟨rounds, ended⟩ := @advance_ends_of_moves clocks _ moves sub.endTime timestamp
        (if sub.startTime ≤ 0 then sub.lastResetTime else sub.startTime)
      refine ⟨rounds, ?_⟩
      unfold getSubscriptionResetWindowForTimestamp
      split
      · rfl
      · split
        · rfl
        · dsimp only
          generalize (if sub.startTime ≤ 0 then sub.lastResetTime else sub.startTime) = base at ended ⊢
          split
          · rfl
          · exact ended

theorem accepted_custom (accepted : normalizeSubscriptionPlanResetFields raw = .ok rule)
    (custom : rule.quotaResetPeriod = .custom) : 60 ≤ rule.quotaResetCustomSeconds := by
  unfold normalizeSubscriptionPlanResetFields at accepted
  split at accepted
  · cases accepted
    cases custom
  · split at accepted
    · cases accepted
    · cases accepted
      dsimp only
      omega
  · rename_i _ other
    split at accepted
    · split at accepted
      · cases accepted
      · cases accepted
        exact absurd custom other
    · cases accepted
      exact absurd custom other

/-- Of the reset fields that the validation of a plan accepts, every reset time
comes after its base and both loops end exactly where a custom period lasts at
least a second as a duration of 64 bits; the loops end exactly where it is not cut
to less than one. -/
theorem reset_advances_iff (clocks : Clocks) {raw : ResetRule}
    (accepted : normalizeSubscriptionPlanResetFields raw = .ok rule) :
    ((∀ base endUnix, calcNextResetTime clocks base rule endUnix = 0 ∨
        base < calcNextResetTime clocks base rule endUnix) ∧ LoopsEnd clocks rule ↔ Lasts rule) ∧
      (LoopsEnd clocks rule ↔ Moves rule) := by
  refine ⟨⟨fun both custom => ?_, fun lasts => ?_⟩, loops_end_iff clocks rule⟩
  · have seconds := accepted_custom accepted custom
    by_contra short
    -- from a base after the first second of 1970 the reset goes back to it
    have next : calcNextResetTime clocks (1 - durationOf rule.quotaResetCustomSeconds / 10 ^ 9) rule 0 = _ :=
      custom_next custom (by omega)
    rcases both.1 (1 - durationOf rule.quotaResetCustomSeconds / 10 ^ 9) 0 with zero | later <;> omega
  · refine ⟨next_reset_later lasts, (loops_end_iff clocks rule).mpr fun custom _ none_ => ?_⟩
    have second := lasts custom
    omega

/-! ## Clocks of fixed offsets -/

theorem fixed_add_date (offset : Int) (years months days : Nat) (instant : Int) :
    instant + 86400 * (28 * (12 * years + months) + days) ≤ addDate (fixedZone offset) years months days instant := by
  have gone := date_add_number (dateOf ((instant + offset) / 86400)) years months days
  rw [date_of_number] at gone
  simp only [addDate, Zone.instant, Zone.local_, fixedZone]
  omega

theorem fixed_at_clock (offset seconds instant : Int) (low : 0 ≤ seconds) :
    instant < atClock (fixedZone offset) seconds instant + 86400 := by
  simp only [atClock, Zone.instant, Zone.local_, fixedZone, date_of_number]
  omega

/-- What a `ResetWindow.Calendar` promises holds of the days of two zones whose offset is
fixed, so that the results over any calendar are about these. -/
def civilCalendar (server reset : Int) : NewApi.ResetWindow.Calendar where
  addDate := addDate (fixedZone server)
  addDateReset := addDate (fixedZone reset)
  atClock := fun seconds day => CivilTime.atClock (fixedZone reset) (max 0 (min seconds 86399)) day
  addDate_later := fun years months days from_ some_ => by
    have on := fixed_add_date server years months days from_
    omega
  addDateReset_forward := fun years months days from_ some_ => by
    have on := fixed_add_date reset years months days from_
    omega
  addDateReset_later := fun years months days seconds day some_ => by
    have on := fixed_add_date reset years months days
      (CivilTime.atClock (fixedZone reset) (max 0 (min seconds 86399)) day)
    have inDay := fixed_at_clock reset (max 0 (min seconds 86399)) day (by omega)
    omega

def greenwich : Clocks := ⟨fixedZone 0, fixedZone 0⟩

theorem monthly_reset_advances :
    (∀ base endUnix, calcNextResetTime greenwich base ⟨.monthly, 0, true, 28800⟩ endUnix = 0 ∨
        base < calcNextResetTime greenwich base ⟨.monthly, 0, true, 28800⟩ endUnix) ∧
      LoopsEnd greenwich ⟨.monthly, 0, true, 28800⟩ :=
  (reset_advances_iff greenwich (show normalizeSubscriptionPlanResetFields ⟨.monthly, 0, true, 28800⟩ =
    .ok ⟨.monthly, 0, true, 28800⟩ from rfl)).1.mpr (by decide)

/-- A period of 2^55 seconds is accepted, and is no time at all as a duration. -/
theorem long_period_stands :
    normalizeSubscriptionPlanResetFields ⟨.custom, 2 ^ 55, false, 0⟩ = .ok ⟨.custom, 2 ^ 55, false, 0⟩ ∧
      ¬ ((∀ base endUnix, calcNextResetTime greenwich base ⟨.custom, 2 ^ 55, false, 0⟩ endUnix = 0 ∨
          base < calcNextResetTime greenwich base ⟨.custom, 2 ^ 55, false, 0⟩ endUnix) ∧
        LoopsEnd greenwich ⟨.custom, 2 ^ 55, false, 0⟩) := by
  refine ⟨by decide, fun both => ?_⟩
  have moves := (loops_end_iff greenwich ⟨.custom, 2 ^ 55, false, 0⟩).mp both.2
  exact moves rfl (by decide) (by decide)

end NewApi.ResetClock
