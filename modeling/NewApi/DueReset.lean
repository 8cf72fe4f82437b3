import NewApi.ResetClock

/-! The reset of a subscription that is due: the window is moved past every reset
up to the present, and a window that moved starts with counters at zero. Proved on
real clocks, for a row whose window starts in the past, whose custom period is one
as a duration, and whose stored next reset, where it is ahead, is the one that the
rule gives. -/
namespace NewApi.DueReset
open NewApi.CivilTime NewApi.Subscription NewApi.ResetClock
open NewApi.ResetWindow (ResetPeriod ResetRule)

/-- `model/subscription.go::maybeResetUserSubscriptionWithPlanTx`, if its loop
ends within so many rounds. -/
def maybeResetUserSubscriptionWithPlan (clocks : Clocks) (rounds : Nat) (sub : UserSubscription) (now : Int) :
    Option ResetResult :=
  if sub.nextResetTime > 0 ∧ sub.nextResetTime > now then some ⟨sub, false⟩
  else if sub.resetPeriod = .never then some ⟨sub, false⟩
  else
    (ResetClock.recalculateSubscriptionResetWindow clocks rounds sub now).map fun moved =>
      if moved.lastResetTime > windowBase sub ∧ moved.lastResetTime ≤ now then
        ⟨(clearWindowUsage moved).touch now, true⟩
      else if moved.nextResetTime = 0 ∧
          (moved.lastResetTime ≠ sub.lastResetTime ∨ moved.nextResetTime ≠ sub.nextResetTime) then
        ⟨moved.touch now, true⟩
      else ⟨moved, false⟩

/-- The starts of the windows from one on, each where the one before it ends. -/
inductive Boundary (clocks : Clocks) (rule : ResetRule) (endUnix start : Int) : Int → Prop
  | start : Boundary clocks rule endUnix start start
  | next (base : Int) : Boundary clocks rule endUnix start base →
    0 < ResetClock.calcNextResetTime clocks base rule endUnix →
    Boundary clocks rule endUnix start (ResetClock.calcNextResetTime clocks base rule endUnix)

def ResetPassed (clocks : Clocks) (sub : UserSubscription) (now : Int) : Prop :=
  ∃ boundary, Boundary clocks (resetRule sub) sub.endTime (windowBase sub) boundary ∧
    windowBase sub < boundary ∧ sub.lastResetTime < boundary ∧ boundary ≤ now

/-- What a row is to be for its window to say where it is: it started since 1970, not
in the future unless its reset is still ahead, a custom period is one as a duration,
and a next reset that is ahead does not hide one that has come. -/
structure Regular (clocks : Clocks) (sub : UserSubscription) (now : Int) : Prop where
  resets : sub.resetPeriod ≠ .never
  lasts : Lasts (resetRule sub)
  started : 0 ≤ windowBase sub
  past : sub.lastResetTime ≤ now
  begun : ¬ (0 < sub.nextResetTime ∧ now < sub.nextResetTime) → windowBase sub ≤ now
  ahead : 0 < sub.nextResetTime ∧ now < sub.nextResetTime →
    ¬ (0 < ResetClock.calcNextResetTime clocks (windowBase sub) (resetRule sub) sub.endTime ∧
      ResetClock.calcNextResetTime clocks (windowBase sub) (resetRule sub) sub.endTime ≤ now)

/-- What the reset leaves: a window around the present, and counters at zero, in the
row that is stored too, exactly where a reset has come. -/
structure Reset (clocks : Clocks) (sub : UserSubscription) (now : Int) (result : ResetResult) : Prop where
  last : result.sub.lastResetTime ≤ now
  next : result.sub.nextResetTime = 0 ∨ now < result.sub.nextResetTime
  zeroed : ResetPassed clocks sub now →
    result.sub.amountUsed = 0 ∧ getCurrentRequestCountUsed result.sub = 0 ∧ result.saved = true
  kept : ¬ ResetPassed clocks sub now → result.sub.amountUsed = sub.amountUsed ∧
    result.sub.requestCountUsed = sub.requestCountUsed ∧
    result.sub.requestCountPeriodUsed = sub.requestCountPeriodUsed
  lifetime : hasSeparatePeriodRequestCounter sub = true → result.sub.requestCountUsed = sub.requestCountUsed

section Windows

theorem boundary_first (lasts : Lasts rule) (reaches : Boundary clocks rule endUnix start boundary) :
    boundary = start ∨ (0 < ResetClock.calcNextResetTime clocks start rule endUnix ∧
      ResetClock.calcNextResetTime clocks start rule endUnix ≤ boundary) := by
  induction reaches with
  | start => exact .inl rfl
  | next base _ positive ih =>
    have later := (@next_reset_later clocks _ lasts base endUnix).resolve_left (by omega)
    rcases ih with rfl | ⟨first, before⟩
    · exact .inr ⟨positive, Int.le_refl _⟩
    · exact .inr ⟨first, by omega⟩

theorem advance_reaches (lasts : Lasts rule)
    (stops : advance clocks rule endUnix now rounds base = some (boundary, next)) :
    next = ResetClock.calcNextResetTime clocks boundary rule endUnix ∧ ¬ (0 < next ∧ next ≤ now) ∧
      (boundary = base ∨ (base < boundary ∧ boundary ≤ now ∧ Boundary clocks rule endUnix base boundary)) := by
  induction rounds generalizing base with
  | zero => cases stops
  | succ rounds ih =>
    rw [advance] at stops
    split at stops
    · rename_i due
      have later := (@next_reset_later clocks _ lasts base endUnix).resolve_left (by omega)
      have first : Boundary clocks rule endUnix base (ResetClock.calcNextResetTime clocks base rule endUnix) :=
        .next base .start due.1
      obtain ⟨same, stop, rfl | ⟨after, reached, further⟩⟩ := ih stops
      · exact ⟨same, stop, .inr ⟨later, due.2, first⟩⟩
      · refine ⟨same, stop, .inr ⟨by omega, reached, ?_⟩⟩
        clear stops ih stop same reached after
        induction further with
        | start => exact first
        | next base _ positive ih => exact .next base ih positive
    · rename_i stop
      cases stops
      exact ⟨rfl, stop, .inl rfl⟩

end Windows

section Rows

variable {clocks : Clocks} {sub : UserSubscription} {now last next : Int}

theorem last_le_base (regular : Regular clocks sub now) : sub.lastResetTime ≤ windowBase sub := by
  have started := regular.started
  unfold windowBase at started ⊢
  split at started <;> split <;> omega

theorem not_passed_of_ahead (regular : Regular clocks sub now)
    (ahead : 0 < sub.nextResetTime ∧ now < sub.nextResetTime) : ¬ ResetPassed clocks sub now := by
  rintro ⟨boundary, reaches, after, -, reached⟩
  have hidden := regular.ahead ahead
  rcases boundary_first regular.lasts reaches with same | ⟨positive, first⟩ <;> omega

structure Moved (clocks : Clocks) (sub : UserSubscription) (now last next : Int) : Prop where
  begun : windowBase sub ≤ now
  follows : next = ResetClock.calcNextResetTime clocks last (resetRule sub) sub.endTime
  stops : ¬ (0 < next ∧ next ≤ now)
  reached : last = windowBase sub ∨ (windowBase sub < last ∧ last ≤ now ∧
    Boundary clocks (resetRule sub) sub.endTime (windowBase sub) last)

theorem recalculate_moved (regular : Regular clocks sub now) (begun : windowBase sub ≤ now)
    (recalculated : ResetClock.recalculateSubscriptionResetWindow clocks rounds sub now = some moved) :
    ∃ last next, moved = sub.moveWindow last next ∧ Moved clocks sub now last next := by
  rw [ResetClock.recalculateSubscriptionResetWindow, if_neg regular.resets] at recalculated
  obtain ⟨⟨last, next⟩, stops, rfl⟩ := Option.map_eq_some_iff.mp recalculated
  obtain ⟨follows, stop, reached⟩ := advance_reaches regular.lasts stops
  exact ⟨last, next, rfl, begun, follows, stop, reached⟩

theorem moved_bounds (regular : Regular clocks sub now) (window : Moved clocks sub now last next) :
    0 ≤ last ∧ last ≤ now ∧ (next = 0 ∨ (0 < next ∧ now < next)) := by
  have low := regular.started
  have high := window.begun
  have reached := window.reached
  have stops := window.stops
  have later := @next_reset_later clocks _ regular.lasts last sub.endTime
  rw [← window.follows] at later
  omega

theorem passed_iff_moved (regular : Regular clocks sub now) (window : Moved clocks sub now last next) :
    ResetPassed clocks sub now ↔ windowBase sub < last := by
  constructor
  · rintro ⟨boundary, reaches, after, -, passed⟩
    rcases window.reached with stayed | ⟨moved, -⟩
    · have stops := window.stops
      rw [window.follows, stayed] at stops
      rcases boundary_first regular.lasts reaches with same | ⟨positive, first⟩ <;> omega
    · exact moved
  · intro after
    rcases window.reached with stayed | ⟨moved, past, reaches⟩
    · omega
    · have before := last_le_base regular
      exact ⟨last, reaches, moved, by omega, past⟩

theorem reset_again (regular : Regular clocks sub now) (window : Moved clocks sub now last next)
    (rule : resetRule row = resetRule sub) (start : row.startTime = sub.startTime)
    (ends : row.endTime = sub.endTime) (lastReset : row.lastResetTime = last)
    (nextReset : row.nextResetTime = next) (more : Nat) :
    maybeResetUserSubscriptionWithPlan clocks (more + 1) row now = some ⟨row, false⟩ := by
  have period : row.resetPeriod = sub.resetPeriod := congrArg ResetRule.quotaResetPeriod rule
  obtain ⟨low, -, ended | ⟨positive, ahead⟩⟩ := moved_bounds regular window
  · -- no window follows, and the base of the row is the window that it is in
    have base : windowBase row = last := by
      have reached := window.reached
      have started := regular.started
      unfold windowBase at reached started ⊢
      rw [lastReset, start]
      split
      · split at reached <;> omega
      · rfl
    have stopped : advance clocks (resetRule sub) sub.endTime now (more + 1) last = some (last, next) := by
      rw [advance, ← window.follows, if_neg window.stops]
    have same : ResetClock.recalculateSubscriptionResetWindow clocks (more + 1) row now = some row := by
      rw [ResetClock.recalculateSubscriptionResetWindow, if_neg (period ▸ regular.resets), rule, ends, base,
        stopped, Option.map_some, ← lastReset, ← nextReset]
      rfl
    rw [maybeResetUserSubscriptionWithPlan, if_neg (by omega), if_neg (period ▸ regular.resets), same,
      Option.map_some, if_neg (by omega), if_neg (by simp)]
  · rw [maybeResetUserSubscriptionWithPlan, if_pos (by omega)]

theorem clear_zeroes (sub : UserSubscription) :
    (clearWindowUsage sub).amountUsed = 0 ∧ getCurrentRequestCountUsed (clearWindowUsage sub) = 0 ∧
      (hasSeparatePeriodRequestCounter sub = true →
        (clearWindowUsage sub).requestCountUsed = sub.requestCountUsed) := by
  unfold clearWindowUsage
  split
  · rename_i separate
    refine ⟨rfl, ?_, fun _ => rfl⟩
    rw [getCurrentRequestCountUsed,
      show hasSeparatePeriodRequestCounter (sub.setUsage 0 sub.requestCountUsed 0) = true from separate]
    rfl
  · rename_i shared
    refine ⟨rfl, ?_, fun separate => absurd separate shared⟩
    rw [getCurrentRequestCountUsed,
      show hasSeparatePeriodRequestCounter (sub.setUsage 0 0 sub.requestCountPeriodUsed) = false from
        Bool.eq_false_iff.mpr shared]
    rfl

theorem cleared_window (sub : UserSubscription) :
    ((clearWindowUsage sub).touch now).lastResetTime = sub.lastResetTime ∧
      ((clearWindowUsage sub).touch now).nextResetTime = sub.nextResetTime ∧
      resetRule ((clearWindowUsage sub).touch now) = resetRule sub ∧
      ((clearWindowUsage sub).touch now).startTime = sub.startTime ∧
      ((clearWindowUsage sub).touch now).endTime = sub.endTime := by
  unfold clearWindowUsage
  split <;> exact ⟨rfl, rfl, rfl, rfl, rfl⟩

theorem due_result (regular : Regular clocks sub now)
    (due : ¬ (0 < sub.nextResetTime ∧ now < sub.nextResetTime))
    (ran : maybeResetUserSubscriptionWithPlan clocks rounds sub now = some result) :
    ∃ last next, Moved clocks sub now last next ∧
      ((windowBase sub < last ∧ result = ⟨(clearWindowUsage (sub.moveWindow last next)).touch now, true⟩) ∨
        (¬ windowBase sub < last ∧ ∃ saved, result = ⟨(sub.moveWindow last next).touch now, saved⟩ ∨
          result = ⟨sub.moveWindow last next, saved⟩)) := by
  rw [maybeResetUserSubscriptionWithPlan, if_neg (by omega), if_neg regular.resets] at ran
  obtain ⟨moved, recalculated, rfl⟩ := Option.map_eq_some_iff.mp ran
  obtain ⟨last, next, rfl, window⟩ := recalculate_moved regular (regular.begun due) recalculated
  refine ⟨last, next, window, ?_⟩
  obtain ⟨-, high, -⟩ := moved_bounds regular window
  by_cases after : windowBase sub < last
  · refine .inl ⟨after, ?_⟩
    rw [if_pos ⟨after, high⟩]
  · refine .inr ⟨after, ?_⟩
    rw [if_neg (fun advanced => after advanced.1)]
    split
    · exact ⟨true, .inl rfl⟩
    · exact ⟨false, .inr rfl⟩

theorem reset_ends (lasts : Lasts (resetRule sub)) (now : Int) :
    ∃ rounds, (maybeResetUserSubscriptionWithPlan clocks rounds sub now).isSome = true := by
  have moves : Moves (resetRule sub) := fun custom _ none_ => by
    have second := lasts custom
    omega
  obtain ⟨rounds, ended⟩ := (loops_end_iff clocks (resetRule sub)).mpr moves |>.recalculate sub now rfl
  refine ⟨rounds, ?_⟩
  unfold maybeResetUserSubscriptionWithPlan
  split
  · rfl
  · split
    · rfl
    · rw [Option.isSome_map]
      exact ended

end Rows

variable {clocks : Clocks} {sub : UserSubscription} {now : Int}

/-- The reset of a row whose window says where it is ends, leaves a window around
the present, clears the counters exactly where a reset has come, and changes
nothing the second time. -/
theorem due_reset (regular : Regular clocks sub now) :
    (∃ rounds, (maybeResetUserSubscriptionWithPlan clocks rounds sub now).isSome = true) ∧
      ∀ rounds result, maybeResetUserSubscriptionWithPlan clocks rounds sub now = some result →
        Reset clocks sub now result ∧ ∀ more,
          maybeResetUserSubscriptionWithPlan clocks (more + 1) result.sub now = some ⟨result.sub, false⟩ := by
  refine ⟨reset_ends regular.lasts now, fun rounds result ran => ?_⟩
  by_cases ahead : 0 < sub.nextResetTime ∧ now < sub.nextResetTime
  · -- the gate lets nothing through
    have untouched : ∀ rounds, maybeResetUserSubscriptionWithPlan clocks rounds sub now = some ⟨sub, false⟩ :=
      fun rounds => if_pos ahead
    obtain rfl : ⟨sub, false⟩ = result := Option.some.inj ((untouched rounds).symm.trans ran)
    have none_ := not_passed_of_ahead regular ahead
    exact ⟨⟨regular.past, .inr ahead.2, fun passed => absurd passed none_, fun _ => ⟨rfl, rfl, rfl⟩,
      fun _ => rfl⟩, fun more => untouched (more + 1)⟩
  · obtain ⟨last, next, window, ⟨after, rfl⟩ | ⟨stayed, saved, shape⟩⟩ := due_result regular ahead ran
    · obtain ⟨-, high, around⟩ := moved_bounds regular window
      obtain ⟨amount, count, lifetime⟩ := clear_zeroes (sub.moveWindow last next)
      have passed := (passed_iff_moved regular window).mpr after
      obtain ⟨sameLast, sameNext, sameRule, sameStart, sameEnd⟩ := cleared_window (sub.moveWindow last next)
      refine ⟨⟨?_, ?_, fun _ => ⟨amount, count, rfl⟩, fun none_ => absurd passed none_, lifetime⟩,
        reset_again regular window sameRule sameStart sameEnd sameLast sameNext⟩
      · rw [sameLast]
        exact high
      · rw [sameNext]
        exact around.imp_right And.right
    · obtain ⟨-, high, around⟩ := moved_bounds regular window
      have none_ := mt (passed_iff_moved regular window).mp stayed
      have later : next = 0 ∨ now < next := around.imp_right And.right
      rcases shape with rfl | rfl
      · exact ⟨⟨high, later, fun passed => absurd passed none_, fun _ => ⟨rfl, rfl, rfl⟩, fun _ => rfl⟩,
          reset_again regular window rfl rfl rfl rfl rfl⟩
      · exact ⟨⟨high, later, fun passed => absurd passed none_, fun _ => ⟨rfl, rfl, rfl⟩, fun _ => rfl⟩,
          reset_again regular window rfl rfl rfl rfl rfl⟩

def dailyRow (last next : Int) : UserSubscription :=
  { resetPeriod := .daily
    amountUsed := 700
    requestCountUsed := 5
    lastResetTime := last
    nextResetTime := next }

/-- Three days on. -/
theorem days_behind_reset :
    (∃ rounds, (maybeResetUserSubscriptionWithPlan greenwich rounds (dailyRow 1000 87400) 300000).isSome = true) ∧
      ∀ rounds result, maybeResetUserSubscriptionWithPlan greenwich rounds (dailyRow 1000 87400) 300000 = some result →
        Reset greenwich (dailyRow 1000 87400) 300000 result ∧ ∀ more,
          maybeResetUserSubscriptionWithPlan greenwich (more + 1) result.sub 300000 = some ⟨result.sub, false⟩ :=
  due_reset
    { resets := by decide
      lasts := by decide
      started := by decide
      past := by decide
      begun := by decide
      ahead := fun ahead => absurd ahead (by decide) }

/-- A row whose window starts in the future keeps it, and a row whose stored next
reset is later than the one of its rule keeps its counters past that one. -/
theorem stored_window_trusted :
    maybeResetUserSubscriptionWithPlan greenwich 1 (dailyRow 1000 87400) 999 =
        some ⟨dailyRow 1000 87400, false⟩ ∧
      ¬ Reset greenwich (dailyRow 1000 87400) 999 ⟨dailyRow 1000 87400, false⟩ ∧
      maybeResetUserSubscriptionWithPlan greenwich 1 (dailyRow 1000 200000) 100000 =
        some ⟨dailyRow 1000 200000, false⟩ ∧
      ¬ Reset greenwich (dailyRow 1000 200000) 100000 ⟨dailyRow 1000 200000, false⟩ := by
  refine ⟨by decide +kernel, fun reset => ?_, by decide +kernel, fun reset => ?_⟩
  · exact absurd reset.last (by decide)
  · have passed : ResetPassed greenwich (dailyRow 1000 200000) 100000 :=
      ⟨87400, .next 1000 .start (by decide +kernel), by decide, by decide, by decide⟩
    exact absurd (reset.zeroed passed).1 (by decide)

end NewApi.DueReset
