import NewApi.SubscriptionRows

/-! The counters of a subscription stay within its limits: over any history of
purchases, pre-consumes, settlements, refunds and due resets, whatever order
they come in. One settlement is the exception. A row that resets without a
period total has its period bounded by the lifetime total, and a settlement
that adds to its count checks neither bound. -/
namespace NewApi.SubscriptionBounds
open NewApi.GuardedRun NewApi.KeyedTable
open NewApi.ResetWindow NewApi.Subscription NewApi.SubscriptionStore NewApi.SubscriptionRows

structure WithinLimits (sub : UserSubscription) : Prop where
  amount : 0 < sub.amountTotal → 0 ≤ sub.amountUsed ∧ sub.amountUsed ≤ sub.amountTotal
  lifetime : hasLifetimeRequestCountLimit sub = true →
    0 ≤ sub.requestCountUsed ∧ sub.requestCountUsed ≤ sub.requestCountTotal
  period : 0 < getSubscriptionRequestCountPeriodLimit sub →
    0 ≤ getCurrentRequestCountUsed sub ∧
      getCurrentRequestCountUsed sub ≤ getSubscriptionRequestCountPeriodLimit sub

variable {calendar : Calendar} {sub : UserSubscription} {db : Database}

theorem within_pre_consumed (positive : 0 < amount) (within : WithinLimits sub)
    (eligible : (isUserSubscriptionEligibleForPreConsume sub amount).eligible = true) :
    let need := isUserSubscriptionEligibleForPreConsume sub amount
    WithinLimits ((addPreConsumed sub need.requiredAmount need.requiredCount).touch now) := by
  obtain ⟨shape, amountRoom, lifetimeRoom, periodRoom⟩ := eligible_room eligible
  obtain ⟨amountCap, lifetimeCap, periodCap⟩ := within
  simp only [shape]
  constructor
  case amount =>
    simp only [addPreConsumed, UserSubscription.touch_amountTotal, UserSubscription.touch_amountUsed,
      UserSubscription.setUsage_amountUsed, UserSubscription.setUsage_amountTotal]
    grind
  case lifetime =>
    intro limited
    have capped : hasLifetimeRequestCountLimit sub = true := limited
    have room := lifetimeRoom capped
    have used := lifetimeCap capped
    simp only [addPreConsumed, UserSubscription.touch_requestCountUsed,
      UserSubscription.touch_requestCountTotal, UserSubscription.setUsage_requestCountUsed,
      UserSubscription.setUsage_requestCountTotal]
    grind
  case period =>
    simp only [addPreConsumed, touch_period, touch_current, set_usage_period]
    simp only [getCurrentRequestCountUsed, set_usage_separate,
      UserSubscription.setUsage_requestCountUsed, UserSubscription.setUsage_requestCountPeriodUsed]
    intro limited
    have room := periodRoom limited
    have used := periodCap limited
    simp only [getCurrentRequestCountUsed] at room used
    by_cases separate : hasSeparatePeriodRequestCounter sub = true
    · simp only [separate, limited, or_true, if_true, Int.one_pos, gt_iff_lt, and_self] at *
      omega
    · have counts := counts_lifetime_of_shared (by simpa using separate)
      simp only [separate, counts, limited, or_true, if_true, if_false, Int.one_pos, gt_iff_lt,
        and_self, Bool.false_eq_true] at *
      omega

/-! ## What holds whatever is settled -/

/-- What every history keeps, whatever is settled: no counter is negative, and
every counter is within the bound that a settlement compares it with. -/
structure Accounted (sub : UserSubscription) : Prop where
  id : 0 < sub.id
  amountUsed : 0 ≤ sub.amountUsed
  requestCountUsed : 0 ≤ sub.requestCountUsed
  requestCountPeriodUsed : 0 ≤ sub.requestCountPeriodUsed
  amount : 0 < sub.amountTotal → sub.amountUsed ≤ sub.amountTotal
  lifetime : hasLifetimeRequestCountLimit sub = true → sub.requestCountUsed ≤ sub.requestCountTotal
  period : hasSeparatePeriodRequestCounter sub = true →
    0 < getSubscriptionRequestCountPeriodLimit sub →
    sub.requestCountPeriodUsed ≤ getSubscriptionRequestCountPeriodLimit sub
  unused : hasSeparatePeriodRequestCounter sub = false → sub.requestCountPeriodUsed = 0

theorem accounted_move_window (last next : Int) (ready : Accounted sub) :
    Accounted (sub.moveWindow last next) :=
  ⟨ready.1, ready.2, ready.3, ready.4, ready.5, ready.6, ready.7, ready.8⟩

theorem accounted_touch (now : Int) (ready : Accounted sub) : Accounted (sub.touch now) :=
  ⟨ready.1, ready.2, ready.3, ready.4, ready.5, ready.6, ready.7, ready.8⟩

theorem accounted_clear (ready : Accounted sub) : Accounted (clearWindowUsage sub) := by
  unfold clearWindowUsage
  split
  · rename_i separate
    exact ⟨ready.id, le_rfl, ready.requestCountUsed, le_rfl, le_of_lt, ready.lifetime,
      fun _ limited => le_of_lt limited, fun shared => absurd separate (by simpa using shared)⟩
  · exact ⟨ready.id, le_rfl, le_rfl, ready.requestCountPeriodUsed, le_of_lt,
      fun limited => le_of_lt (has_lifetime_iff.mp limited).2.2, ready.period, ready.unused⟩

theorem accounted_reset (now : Int) (ready : Accounted sub) :
    Accounted (maybeResetUserSubscriptionWithPlan calendar sub now).sub := by
  obtain ⟨last, next, reset | reset | reset⟩ := reset_cases calendar sub now <;> rw [reset]
  · exact accounted_move_window last next ready
  · exact accounted_touch now (accounted_move_window last next ready)
  · exact accounted_touch now (accounted_clear (accounted_move_window last next ready))

def Counters (sub : UserSubscription) : Prop :=
  0 ≤ sub.amountUsed ∧ 0 ≤ sub.requestCountUsed ∧ 0 ≤ sub.requestCountPeriodUsed ∧
    (0 < sub.amountTotal → sub.amountUsed ≤ sub.amountTotal)

theorem counters_pre_consumed (positive : 0 < amount) (counters : Counters sub)
    (eligible : (isUserSubscriptionEligibleForPreConsume sub amount).eligible = true) :
    let need := isUserSubscriptionEligibleForPreConsume sub amount
    Counters (addPreConsumed sub need.requiredAmount need.requiredCount) := by
  obtain ⟨shape, amountRoom, -, -⟩ := eligible_room eligible
  obtain ⟨amountUsed, countUsed, periodUsed, amountCap⟩ := counters
  simp only [shape, Counters, addPreConsumed, UserSubscription.setUsage_amountUsed,
    UserSubscription.setUsage_requestCountUsed, UserSubscription.setUsage_requestCountPeriodUsed,
    UserSubscription.setUsage_amountTotal]
  refine ⟨?_, ?_, ?_, ?_⟩ <;> grind

theorem accounted_pre_consumed (positive : 0 < amount) (ready : Accounted sub)
    (eligible : (isUserSubscriptionEligibleForPreConsume sub amount).eligible = true) :
    let need := isUserSubscriptionEligibleForPreConsume sub amount
    Accounted (addPreConsumed sub need.requiredAmount need.requiredCount) := by
  have counters := counters_pre_consumed positive ⟨ready.2, ready.3, ready.4, ready.5⟩ eligible
  obtain ⟨shape, -, lifetimeRoom, periodRoom⟩ := eligible_room eligible
  simp only [shape] at counters ⊢
  obtain ⟨amountUsed, countUsed, periodUsed, amountCap⟩ := counters
  refine ⟨ready.id, amountUsed, countUsed, periodUsed, amountCap, ?_, ?_, ?_⟩
  · simp only [addPreConsumed, set_usage_lifetime, UserSubscription.setUsage_requestCountUsed,
      UserSubscription.setUsage_requestCountTotal]
    intro limited
    have := lifetimeRoom limited
    have := ready.lifetime limited
    grind
  · simp only [addPreConsumed, set_usage_period, set_usage_separate,
      UserSubscription.setUsage_requestCountPeriodUsed]
    intro separate limited
    have := periodRoom limited
    have := ready.period separate limited
    simp only [getCurrentRequestCountUsed, separate, if_true] at *
    grind
  · simp only [addPreConsumed, set_usage_separate, UserSubscription.setUsage_requestCountPeriodUsed]
    intro shared
    simpa [shared] using ready.unused shared

theorem apply_delta_nonnegative (used delta : Int) : 0 ≤ applyDelta used delta := by
  simp [applyDelta]

theorem apply_delta_le (down : delta ≤ 0) (nonnegative : 0 ≤ used) :
    applyDelta used delta ≤ used := by
  simp only [applyDelta]
  omega

theorem counters_settled (counters : Counters sub) (fits : SettlementFits sub amountDelta countDelta) :
    Counters (settledRow sub amountDelta countDelta) := by
  obtain ⟨amountUsed, countUsed, periodUsed, amountCap⟩ := counters
  simp only [Counters, settledRow, UserSubscription.setUsage_amountUsed, UserSubscription.setUsage_requestCountUsed,
    UserSubscription.setUsage_requestCountPeriodUsed, UserSubscription.setUsage_amountTotal]
  refine ⟨?_, ?_, ?_, fun capped => ?_⟩
  all_goals split
  · exact apply_delta_nonnegative _ _
  · exact amountUsed
  · exact apply_delta_nonnegative _ _
  · exact countUsed
  · exact apply_delta_nonnegative _ _
  · exact periodUsed
  · exact fits.amount ‹_› capped
  · exact amountCap capped

theorem accounted_settled (ready : Accounted sub)
    (fits : SettlementFits sub amountDelta countDelta) :
    Accounted (settledRow sub amountDelta countDelta) := by
  obtain ⟨amountUsed, countUsed, periodUsed, amountCap⟩ := counters_settled
    ⟨ready.2, ready.3, ready.4, ready.5⟩ fits
  refine ⟨ready.id, amountUsed, countUsed, periodUsed, amountCap, ?_, ?_, ?_⟩
  · simp only [settledRow, set_usage_lifetime, UserSubscription.setUsage_requestCountUsed,
      UserSubscription.setUsage_requestCountTotal]
    intro limited
    split
    · exact fits.lifetime (And.left ‹_›) limited
    · exact ready.lifetime limited
  · simp only [settledRow, set_usage_period, set_usage_separate,
      UserSubscription.setUsage_requestCountPeriodUsed]
    intro separate limited
    split
    · exact fits.period (And.left ‹_›) (.inl separate) limited
    · exact ready.period separate limited
  · simp only [settledRow, set_usage_separate, UserSubscription.setUsage_requestCountPeriodUsed]
    intro shared
    simp [shared, ready.unused shared]

theorem new_subscription_accounted (id userId planId : Int) (terms : PlanTerms) (source : Source)
    (prevGroup : String) (now endUnix : Int) (positive : 0 < id) :
    Accounted (newSubscription calendar id userId planId terms source prevGroup now endUnix) where
  id := positive
  amountUsed := le_rfl
  requestCountUsed := le_rfl
  requestCountPeriodUsed := le_rfl
  amount := le_of_lt
  lifetime limited := le_of_lt (has_lifetime_iff.mp limited).2.2
  period _ := le_of_lt
  unused _ := rfl

theorem accounted_rule (calendar : Calendar) : RowRule calendar (fun _ _ _ => True) Accounted where
  issued := new_subscription_accounted
  rebound _ _ _ _ ready :=
    ⟨ready.1, ready.2, ready.3, ready.4, ready.5, ready.6, ready.7, ready.8⟩
  reset _ now ready := accounted_reset now ready
  preConsumed _ _ now positive ready eligible :=
    accounted_touch now (accounted_pre_consumed positive ready eligible)
  settled _ _ _ now _ fits ready := accounted_touch now (accounted_settled ready fits)
  givesBack _ _ _ _ _ := trivial

/-! ## What needs the settlements checked -/

/-- The invariant: an accounted row whose period, where it is bounded by the
lifetime total, is within that bound too. -/
structure Bounded (sub : UserSubscription) : Prop where
  accounted : Accounted sub
  shared : hasSeparatePeriodRequestCounter sub = false →
    0 < getSubscriptionRequestCountPeriodLimit sub →
    sub.requestCountUsed ≤ getSubscriptionRequestCountPeriodLimit sub

theorem bounded_within_limits (bounded : Bounded sub) : WithinLimits sub := by
  obtain ⟨ready, sharedCap⟩ := bounded
  refine ⟨fun capped => ⟨ready.amountUsed, ready.amount capped⟩,
    fun limited => ⟨ready.requestCountUsed, ready.lifetime limited⟩, fun limited => ?_⟩
  unfold getCurrentRequestCountUsed
  split
  · rename_i separate
    exact ⟨ready.requestCountPeriodUsed, ready.period separate limited⟩
  · rename_i shared
    exact ⟨ready.requestCountUsed, sharedCap (by simpa using shared) limited⟩

theorem bounded_reset (now : Int) (bounded : Bounded sub) :
    Bounded (maybeResetUserSubscriptionWithPlan calendar sub now).sub := by
  refine ⟨accounted_reset now bounded.accounted, ?_⟩
  obtain ⟨last, next, reset | reset | reset⟩ := reset_cases calendar sub now <;> rw [reset]
  · exact bounded.shared
  · exact bounded.shared
  · intro shared limited
    have zero : (clearWindowUsage (sub.moveWindow last next)).requestCountUsed = 0 := by
      unfold clearWindowUsage at shared ⊢
      split
      · simp_all
      · rfl
    simpa [zero] using le_of_lt limited

theorem bounded_pre_consumed (positive : 0 < amount) (bounded : Bounded sub)
    (eligible : (isUserSubscriptionEligibleForPreConsume sub amount).eligible = true) :
    let need := isUserSubscriptionEligibleForPreConsume sub amount
    Bounded (addPreConsumed sub need.requiredAmount need.requiredCount) := by
  refine ⟨accounted_pre_consumed positive bounded.accounted eligible, ?_⟩
  obtain ⟨shape, -, -, room⟩ := eligible_room eligible
  simp only [shape, addPreConsumed, set_usage_separate, set_usage_period,
    UserSubscription.setUsage_requestCountUsed]
  intro shared limited
  have := room limited
  simp only [getCurrentRequestCountUsed, shared, if_false, Bool.false_eq_true] at this
  grind

def CountFits (sub : UserSubscription) (countDelta : Int) : Prop :=
  0 < countDelta → hasSeparatePeriodRequestCounter sub = false →
    0 < getSubscriptionRequestCountPeriodLimit sub →
    sub.requestCountUsed + countDelta ≤ getSubscriptionRequestCountPeriodLimit sub

instance (sub : UserSubscription) (countDelta : Int) : Decidable (CountFits sub countDelta) :=
  inferInstanceAs (Decidable (_ → _))

theorem bounded_settled (bounded : Bounded sub)
    (room : CountFits sub countDelta) (fits : SettlementFits sub amountDelta countDelta) :
    Bounded (settledRow sub amountDelta countDelta) := by
  refine ⟨accounted_settled bounded.accounted fits, ?_⟩
  simp only [settledRow, set_usage_separate, set_usage_period, UserSubscription.setUsage_requestCountUsed]
  intro shared limited
  have before := bounded.shared shared limited
  have nonnegative := bounded.accounted.requestCountUsed
  split
  · by_cases up : 0 < countDelta
    · have := room up shared limited
      simp only [applyDelta]
      omega
    · exact (apply_delta_le (by omega) nonnegative).trans before
  · exact before

theorem bounded_rule (calendar : Calendar) :
    RowRule calendar (fun sub _ countDelta => CountFits sub countDelta) Bounded where
  issued _ _ _ _ _ _ _ _ positive :=
    ⟨new_subscription_accounted _ _ _ _ _ _ _ _ positive, fun _ limited => le_of_lt limited⟩
  rebound sub _ _ _ bounded :=
    ⟨(accounted_rule calendar).rebound sub _ _ _ bounded.accounted, bounded.shared⟩
  reset _ now bounded := bounded_reset now bounded
  preConsumed _ _ now positive bounded eligible :=
    have kept := bounded_pre_consumed positive bounded eligible
    ⟨accounted_touch now kept.accounted, kept.shared⟩
  settled _ _ _ now room fits bounded :=
    have kept := bounded_settled bounded room fits
    ⟨accounted_touch now kept.accounted, kept.shared⟩
  givesBack _ _ _ _ down up := absurd up (not_lt.mpr down)

/-! ## Every run -/

abbrev SettlementChecked : Database → Event → Prop :=
  SettlementAllowed fun sub _ countDelta => CountFits sub countDelta

theorem unchecked_settlement_exceeds
    (bounded : Bounded sub) (exceeds : ¬ CountFits sub countDelta) :
    ¬ WithinLimits ((settledRow sub amountDelta countDelta).touch now) := by
  simp only [CountFits, Classical.not_imp, not_le] at exceeds
  obtain ⟨up, shared, limited, exceeds⟩ := exceeds
  intro within
  have after := (within.period limited).2
  have counts := counts_lifetime_of_shared shared
  have moved : countDelta ≠ 0 := by omega
  have used := bounded.accounted.requestCountUsed
  rw [touch_current, touch_period] at after
  simp only [settledRow, set_usage_period, getCurrentRequestCountUsed, set_usage_separate,
    shared, Bool.false_eq_true, if_false, UserSubscription.setUsage_requestCountUsed, ne_eq, moved,
    not_false_eq_true, counts, and_self, if_true, applyDelta] at after
  omega

def AllWithinLimits (db : Database) : Prop := ∀ sub ∈ db.subscriptions, WithinLimits sub

theorem all_bounded_within (all : AllRows Bounded db) : AllWithinLimits db :=
  fun sub member => bounded_within_limits (all.subscriptions sub member)

theorem step_within_iff (db : Database) (event : Event) (all : AllRows Bounded db) :
    AllWithinLimits (step calendar db event) ↔ SettlementChecked db event := by
  refine ⟨fun within => ?_, fun room => all_bounded_within
    (step_all_rows (bounded_rule calendar) db event room all)⟩
  cases event with
  | settle id amountDelta countDelta windowStart windowEnd now =>
    intro sub positive found current fits
    by_contra exceeds
    have moved : ¬ (amountDelta = 0 ∧ countDelta = 0) := by
      rintro ⟨-, rfl⟩
      exact exceeds fun up => absurd up (lt_irrefl 0)
    have settled : settleRow sub amountDelta countDelta = .ok _ :=
      settle_row_ok_iff.mpr ⟨rfl, fits⟩
    simp only [step, postConsumeUserSubscriptionDeltaForWindow, not_le.mpr positive, moved, found,
      current, settled, Except.map, if_false, Bool.false_eq_true] at within
    have saved : (settledRow sub amountDelta countDelta).touch now ∈ _ :=
      mem_save found (show sub.id = id from lookup_key found)
    exact unchecked_settlement_exceeds (all.subscriptions sub (lookup_mem found)) exceeds (within _ saved)
  | _ => trivial

/-- Over every history of purchases, pre-consumes, settlements, refunds and
resets, every subscription is within its limits after every step, exactly when
every settlement that adds to an unchecked count leaves room for it. -/
theorem within_limits_iff_settlements_checked (calendar : Calendar) (start : Database)
    (unissued : Unissued start) (events : List Event) :
    (∀ done, done <+: events → AllWithinLimits (run (step calendar) start done)) ↔
      Guarded (step calendar) SettlementChecked start events := by
  have initially : AllRows Bounded start := unissued_all_rows unissued
  exact always_safe_iff_guarded (step_all_rows (bounded_rule calendar)) step_within_iff events
    initially (all_bounded_within initially)

def dailyPlan : SubscriptionPlan where
  id := 1
  terms := { durationUnit := .day, durationValue := 30, resourceType := .requestCount
             requestCountTotal := 1, reset := ⟨.daily, 0, false, 0⟩ }

def dailyShop : Database := { users := [{ id := 7 }], plans := [dailyPlan] }

def overdrawnDay : List Event :=
  [.create 7 1 dailyPlan.terms .order 1000, .settle 1 0 2 0 0 2000]

/-- A settlement that adds to the count of a day is checked against no limit:
two requests of a plan of one per day go through. -/
theorem settlement_exceeds_period_limit :
    ¬ ∀ (calendar : Calendar) (start : Database) (events : List Event), Unissued start →
      AllWithinLimits (run (step calendar) start events) := by
  intro always
  have within := always dayCount dailyShop overdrawnDay ⟨by decide, rfl, rfl⟩
  have overdrawn : ∃ sub ∈ (run (step dayCount) dailyShop overdrawnDay).subscriptions,
      getSubscriptionRequestCountPeriodLimit sub = 1 ∧ getCurrentRequestCountUsed sub = 2 := by
    decide
  obtain ⟨sub, member, limit, used⟩ := overdrawn
  have bound := ((within sub member).period (by omega)).2
  omega

def checkedDay : List Event :=
  [.create 7 1 dailyPlan.terms .order 1000, .settle 1 0 1 0 0 2000, .settle 1 0 (-1) 0 0 3000]

theorem checked_day_within_limits : AllWithinLimits (run (step dayCount) dailyShop checkedDay) := by
  have permitted : Guarded (step dayCount) SettlementChecked dailyShop checkedDay := by
    refine ⟨trivial, ?_, ?_, trivial⟩
    · intro sub _ found _ _
      cases found
      decide
    · intro sub _ found _ _
      cases found
      decide
  exact (within_limits_iff_settlements_checked dayCount dailyShop ⟨by decide, rfl, rfl⟩
    checkedDay).mpr permitted checkedDay (List.prefix_refl _)

end NewApi.SubscriptionBounds
