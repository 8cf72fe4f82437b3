import NewApi.SubscriptionBounds

/-! A request that was pre-consumed at one time and refunded at another, with
any history in between. The refund takes effect at most once. In the window of
the pre-consume it takes back what was charged as long as that much is still
recorded; in a later window it must leave the usage alone, and it does so only
when nothing is recorded there, because it acts on whatever window is current.
A row may hold a count for the period that it has no counter of its own for, as
edits of its plan leave it; a refund lowers that count, which no charge raises. -/
namespace NewApi.RefundWindow
open NewApi.GuardedRun NewApi.KeyedTable
open NewApi.GoText (trimSpace)
open NewApi.ResetWindow NewApi.Subscription NewApi.SubscriptionStore
open NewApi.SubscriptionRows NewApi.SubscriptionBounds

variable {calendar : Calendar} {db : Database} {now : Int} {requestId : String}
variable {record : SubscriptionPreConsumeRecord} {sub before after : UserSubscription}

/-! ## Records through a run -/

def RecordAges (before after : SubscriptionPreConsumeRecord) : Prop :=
  after = before ∨ (before.status = .consumed ∧
    ∃ refundedAt, after = { before with status := .refunded, updatedAt := refundedAt })

theorem record_ages_trans {first : SubscriptionPreConsumeRecord}
    (earlier : RecordAges first second) (later : RecordAges second third) :
    RecordAges first third := by
  rcases earlier with rfl | ⟨consumed, _, rfl⟩
  · exact later
  · rcases later with rfl | ⟨again, _⟩
    · exact .inr ⟨consumed, _, rfl⟩
    · cases again

theorem refund_cases
    (refunded : refundSubscriptionPreConsume requestId now db = .ok result) :
    (result = db ∧ ∃ record, db.record requestId = some record ∧ record.status = .refunded) ∨
      ∃ record sub settled, db.record requestId = some record ∧ record.status = .consumed ∧
        db.subscription record.userSubscriptionId = some sub ∧
        (if (refundSums record sub).1 ≤ 0 ∧ (refundSums record sub).2 ≤ 0 then settled = db
          else postConsumeUserSubscriptionUsage record.userSubscriptionId
            (-(refundSums record sub).1) (-(refundSums record sub).2) now db = .ok settled) ∧
        result = settled.saveRecord { record with status := .refunded, updatedAt := now } := by
  unfold refundSubscriptionPreConsume at refunded
  split at refunded
  · cases refunded
  · split at refunded
    · cases refunded
    · rename_i record found
      split at refunded
      · cases refunded
        exact .inl ⟨rfl, record, found, ‹_›⟩
      · rename_i pending
        have consumed : record.status = .consumed := by
          cases status : record.status with
          | consumed => rfl
          | refunded => exact absurd status pending
        split at refunded
        · cases refunded
        · rename_i sub held
          dsimp only at refunded
          split at refunded
          · rename_i empty
            cases refunded
            exact .inr ⟨record, sub, db, found, consumed, held, by simp [empty], rfl⟩
          · rename_i sums
            split at refunded
            · rename_i settled posted
              cases refunded
              exact .inr ⟨record, sub, settled, found, consumed, held, by simpa [sums] using posted, rfl⟩
            · cases refunded

theorem settled_records {id : Int}
    (settled : postConsumeUserSubscriptionDeltaForWindow id amountDelta countDelta windowStart
      windowEnd now db = .ok result) : result.records = db.records := by
  rcases post_consume_cases settled with rfl | ⟨sub, -, -, -, -, rfl⟩ <;> rfl

theorem reset_due_records (calendar : Calendar) (limit : Nat) (now : Int) (db : Database) :
    (resetDueSubscriptions calendar limit now db).records = db.records := by
  have one : ∀ (db : Database) (due : UserSubscription),
      (resetDueSubscription calendar now db due).records = db.records := by
    intro db due
    unfold resetDueSubscription
    split
    · rfl
    · split
      · rfl
      · exact open_window_records ..
  unfold resetDueSubscriptions
  dsimp only
  generalize List.take _ _ = due
  induction due generalizing db with
  | nil => rfl
  | cons first rest ih => exact (ih _).trans (one db first)

private theorem refund_ages (found : db.record requestId = some record)
    (refunded : refundSubscriptionPreConsume other now db = .ok result) :
    ∃ aged, result.record requestId = some aged ∧ RecordAges record aged := by
  rcases refund_cases refunded with ⟨rfl, -⟩ | ⟨mine, sub, settled, held, consumed, -, posted, rfl⟩
  · exact ⟨record, found, .inl rfl⟩
  · have same : settled.records = db.records := by
      split at posted
      · rw [posted]
      · exact settled_records posted
    have key : mine.requestId = other := lookup_key held
    by_cases hit : requestId = other
    · subst hit
      rw [found] at held
      cases held
      refine ⟨_, ?_, .inr ⟨consumed, now, rfl⟩⟩
      simp only [Database.record, Database.saveRecord, lookup_save, same, key, if_true]
      exact (congrArg (Option.map _) found).trans rfl
    · refine ⟨record, ?_, .inl rfl⟩
      simp only [Database.record, Database.saveRecord, lookup_save, same, key, if_neg hit]
      exact found

theorem step_record_ages (calendar : Calendar) (event : Event) (found : db.record requestId = some record) :
    ∃ aged, (step calendar db event).record requestId = some aged ∧ RecordAges record aged := by
  have kept : ∀ {result : Database}, result.records = db.records →
      ∃ aged, result.record requestId = some aged ∧ RecordAges record aged :=
    fun same => ⟨record, by simpa [Database.record, same] using found, .inl rfl⟩
  cases event with
  | create userId planId terms source now =>
    simp only [step]
    split
    · rename_i after sub created
      obtain ⟨_, _, _, -, -, -, -, -, shape⟩ := create_cases created
      exact kept (by rw [show after = _ from shape])
    · exact kept rfl
  | preConsume request now =>
    simp only [step]
    split
    · rename_i after _ accepted
      unfold preConsumeUserSubscriptionWithPreference at accepted
      repeat' split at accepted
      all_goals first
        | cases accepted
        | skip
      rcases pre_consume_records accepted with ⟨-, same⟩ | ⟨-, sub, added⟩
      · exact kept (congrArg Database.records same)
      · refine ⟨record, ?_, .inl rfl⟩
        have held : lookup SubscriptionPreConsumeRecord.requestId db.records requestId =
          some record := found
        simp only [Database.record, show after.records = _ from added, lookup_append_one, held,
          Option.some_or]
    · exact kept rfl
  | settle id amountDelta countDelta windowStart windowEnd now =>
    simp only [step]
    split
    · exact kept (settled_records ‹_›)
    · exact kept rfl
  | refund other now =>
    simp only [step]
    split
    · exact refund_ages found ‹_›
    · exact kept rfl
  | resetDue limit now => exact kept (reset_due_records calendar limit now db)

theorem run_record_ages (calendar : Calendar) (events : List Event) (found : db.record requestId = some record) :
    ∃ aged, (run (step calendar) db events).record requestId = some aged ∧ RecordAges record aged := by
  induction events generalizing db record with
  | nil => exact ⟨record, found, .inl rfl⟩
  | cons event rest ih =>
    obtain ⟨aged, held, ages⟩ := step_record_ages calendar event found
    obtain ⟨final, kept, later⟩ := ih held
    exact ⟨final, kept, record_ages_trans ages later⟩

/-! ## At most once -/

def RefundsOnce (calendar : Calendar) (db : Database) (requestId : String) (now : Int) : Prop :=
  step calendar db (.refund requestId now) ≠ db → ∀ (later : List Event) (again : Int),
    let reached := run (step calendar) (step calendar db (.refund requestId now)) later
    step calendar reached (.refund requestId again) = reached

theorem refunded_stays (found : db.record requestId = some record) (refunded : record.status = .refunded) :
    step calendar db (.refund requestId now) = db := by
  simp only [step, refundSubscriptionPreConsume, found, refunded, if_true]
  split
  · rename_i same
    split at same
    · cases same
    · exact (Except.ok.inj same).symm
  · rfl

theorem refunds_once (calendar : Calendar) (db : Database) (requestId : String) (now : Int) :
    RefundsOnce calendar db requestId now := by
  intro changed later again
  have effective : ∃ result, refundSubscriptionPreConsume requestId now db = .ok result ∧
      result ≠ db := by
    simp only [step] at changed
    split at changed
    · rename_i result refunded
      exact ⟨result, refunded, changed⟩
    · exact absurd rfl changed
  obtain ⟨result, refunded, different⟩ := effective
  rcases refund_cases refunded with ⟨same, -⟩ | ⟨record, sub, settled, found, -, -, posted, saved⟩
  · exact absurd same different
  · have same : settled.records = db.records := by
      split at posted
      · rw [posted]
      · exact settled_records posted
    have marked : result.record requestId =
        some { record with status := .refunded, updatedAt := now } := by
      rw [saved]
      simp only [Database.record, Database.saveRecord, lookup_save, same,
        (lookup_key found : record.requestId = requestId), if_true]
      exact (congrArg (Option.map _) found).trans rfl
    have reached : step calendar db (.refund requestId now) = result := by
      simp only [step, refunded]
    dsimp only
    rw [reached]
    obtain ⟨final, kept, rfl | ⟨consumed, -⟩⟩ := run_record_ages calendar later marked
    · exact refunded_stays kept rfl
    · cases consumed

/-! ## Returns -/

/-- The counters after a return: each lower by its delta and not below zero. The
lifetime counter of a row that counts its periods alone is another one's business. -/
structure Lowered (before after : UserSubscription) (amountDelta countDelta : Int) : Prop where
  amount : after.amountUsed = max 0 (before.amountUsed + amountDelta)
  period : after.requestCountPeriodUsed = max 0 (before.requestCountPeriodUsed + countDelta)
  lifetime : after.requestCountUsed =
    if countsLifetime before then max 0 (before.requestCountUsed + countDelta) else before.requestCountUsed

structure WithinAfter (sub : UserSubscription) (countDelta : Int) : Prop where
  lifetime : hasLifetimeRequestCountLimit sub = true →
    sub.requestCountUsed + countDelta ≤ sub.requestCountTotal
  period : 0 < getSubscriptionRequestCountPeriodLimit sub →
    sub.requestCountPeriodUsed + countDelta ≤ getSubscriptionRequestCountPeriodLimit sub

/-- What every history leaves of a row, whatever is settled and however its plan
is edited. -/
structure Counted (sub : UserSubscription) : Prop where
  id : 0 < sub.id
  amountUsed : 0 ≤ sub.amountUsed
  requestCountUsed : 0 ≤ sub.requestCountUsed
  requestCountPeriodUsed : 0 ≤ sub.requestCountPeriodUsed
  amount : 0 < sub.amountTotal → sub.amountUsed ≤ sub.amountTotal

theorem counted_move_window (last next : Int) (counted : Counted sub) : Counted (sub.moveWindow last next) :=
  ⟨counted.id, counted.amountUsed, counted.requestCountUsed, counted.requestCountPeriodUsed, counted.amount⟩

theorem counted_touch (now : Int) (counted : Counted sub) : Counted (sub.touch now) :=
  ⟨counted.id, counted.amountUsed, counted.requestCountUsed, counted.requestCountPeriodUsed, counted.amount⟩

theorem counted_clear (counted : Counted sub) : Counted (clearWindowUsage sub) := by
  unfold clearWindowUsage
  split
  · exact ⟨counted.id, le_rfl, counted.requestCountUsed, le_rfl, le_of_lt⟩
  · exact ⟨counted.id, le_rfl, le_rfl, counted.requestCountPeriodUsed, le_of_lt⟩

theorem counted_reset (now : Int) (counted : Counted sub) :
    Counted (maybeResetUserSubscriptionWithPlan calendar sub now).sub := by
  obtain ⟨last, next, reset | reset | reset⟩ := reset_cases calendar sub now <;> rw [reset]
  · exact counted_move_window last next counted
  · exact counted_touch now (counted_move_window last next counted)
  · exact counted_touch now (counted_clear (counted_move_window last next counted))

theorem counted_pre_consumed (positive : 0 < amount) (counted : Counted sub)
    (eligible : (isUserSubscriptionEligibleForPreConsume sub amount).eligible = true) :
    let need := isUserSubscriptionEligibleForPreConsume sub amount
    Counted (addPreConsumed sub need.requiredAmount need.requiredCount) := by
  obtain ⟨amountUsed, countUsed, periodUsed, amountCap⟩ := counters_pre_consumed positive
    ⟨counted.2, counted.3, counted.4, counted.5⟩ eligible
  exact ⟨counted.id, amountUsed, countUsed, periodUsed, amountCap⟩

theorem counted_settled (counted : Counted sub)
    (fits : SettlementFits sub amountDelta countDelta) : Counted (settledRow sub amountDelta countDelta) := by
  obtain ⟨amountUsed, countUsed, periodUsed, amountCap⟩ := counters_settled
    ⟨counted.2, counted.3, counted.4, counted.5⟩ fits
  exact ⟨counted.id, amountUsed, countUsed, periodUsed, amountCap⟩

theorem counted_rule (calendar : Calendar) : RowRule calendar (fun _ _ _ => True) Counted where
  issued _ _ _ _ _ _ _ _ positive := ⟨positive, le_rfl, le_rfl, le_rfl, le_of_lt⟩
  rebound _ _ _ _ counted :=
    ⟨counted.id, counted.amountUsed, counted.requestCountUsed, counted.requestCountPeriodUsed, counted.amount⟩
  reset _ now counted := counted_reset now counted
  preConsumed _ _ now positive counted eligible :=
    counted_touch now (counted_pre_consumed positive counted eligible)
  settled _ _ _ now _ fits counted := counted_touch now (counted_settled counted fits)
  givesBack _ _ _ _ _ := trivial

theorem return_fits_iff {amountDelta countDelta : Int} (counted : Counted sub) (lessAmount : amountDelta ≤ 0) (lessCount : countDelta ≤ 0) :
    SettlementFits sub amountDelta countDelta ↔ countDelta = 0 ∨ WithinAfter sub countDelta := by
  constructor
  · intro fits
    by_cases none_ : countDelta = 0
    · exact .inl none_
    · refine .inr ⟨fun limited => ?_, fun limited => ?_⟩
      · have within := fits.lifetime none_ limited
        exact (le_max_right _ _).trans within
      · by_cases counts : hasSeparatePeriodRequestCounter sub = true ∨ sub.requestCountPeriodUsed > 0
        · have within := fits.period none_ counts limited
          exact (le_max_right _ _).trans within
        · obtain ⟨-, unused⟩ := not_or.mp counts
          omega
  · intro within
    constructor
    case lifetime =>
      intro some_ limited
      have room := (within.resolve_left some_).lifetime limited
      exact max_le (has_lifetime_iff.mp limited).2.2.le room
    case period =>
      intro some_ _ limited
      have room := (within.resolve_left some_).period limited
      exact max_le limited.le room
    case amount =>
      intro _ capped
      have room := counted.amount capped
      exact max_le capped.le (by omega)

theorem settled_lowered {amountDelta countDelta now : Int} (counted : Counted sub) (lessCount : countDelta ≤ 0) :
    Lowered sub ((settledRow sub amountDelta countDelta).touch now) amountDelta countDelta := by
  obtain ⟨-, amountUsed, countUsed, periodUsed, -⟩ := counted
  constructor
  case amount =>
    simp only [settledRow, UserSubscription.touch_amountUsed, UserSubscription.setUsage_amountUsed, applyDelta]
    split <;> omega
  case period =>
    simp only [settledRow, UserSubscription.touch_requestCountPeriodUsed,
      UserSubscription.setUsage_requestCountPeriodUsed, applyDelta]
    split
    · rfl
    · rename_i still
      rcases Classical.not_and_iff_not_or_not.mp still with none_ | unused
      · omega
      · obtain ⟨-, unused⟩ := not_or.mp unused
        omega
  case lifetime =>
    simp only [settledRow, UserSubscription.touch_requestCountUsed,
      UserSubscription.setUsage_requestCountUsed, applyDelta]
    by_cases counts : countsLifetime sub = true
    · simp only [counts, and_true, if_true]
      split <;> omega
    · simp only [counts, and_false, if_false, Bool.false_eq_true]

/-! ## Exactly what was charged, from the window it was charged to -/

structure SubtractsExactly (record : SubscriptionPreConsumeRecord)
    (before after : UserSubscription) : Prop where
  amount : after.amountUsed = before.amountUsed - record.preConsumedAmount
  count : after.requestCountUsed =
    before.requestCountUsed - (if countsLifetime before then record.preConsumedCount else 0)
  period : after.requestCountPeriodUsed = before.requestCountPeriodUsed -
    (if hasSeparatePeriodRequestCounter before then record.preConsumedCount else 0)

def LeavesWindowAlone (before after : UserSubscription) : Prop :=
  after.amountUsed = before.amountUsed ∧
    getCurrentRequestCountUsed after = getCurrentRequestCountUsed before

def BoundaryReached (charged : UserSubscription) (now : Int) : Prop :=
  charged.resetPeriod ≠ .never ∧ 0 < charged.nextResetTime ∧ charged.nextResetTime ≤ now

instance (charged : UserSubscription) (now : Int) : Decidable (BoundaryReached charged now) :=
  inferInstanceAs (Decidable (_ ∧ _))

def RefundExact (record : SubscriptionPreConsumeRecord) (now : Int)
    (charged before after : UserSubscription) : Prop :=
  if getSubscriptionUsageWindowStart before = getSubscriptionUsageWindowStart charged then
    ¬ BoundaryReached charged now → SubtractsExactly record before after
  else LeavesWindowAlone before after

/-- The counts that stay after the refund are within the limits on requests. -/
def Returnable (record : SubscriptionPreConsumeRecord) (before : UserSubscription) : Prop :=
  record.preConsumedCount = 0 ∨ WithinAfter before (-record.preConsumedCount)

def RefundFits (record : SubscriptionPreConsumeRecord) (now : Int)
    (charged before : UserSubscription) : Prop :=
  if getSubscriptionUsageWindowStart before = getSubscriptionUsageWindowStart charged then
    ¬ BoundaryReached charged now →
      Returnable record before ∧ record.preConsumedAmount ≤ before.amountUsed ∧
        (countsLifetime before = true → record.preConsumedCount ≤ before.requestCountUsed) ∧
        if hasSeparatePeriodRequestCounter before then
          record.preConsumedCount ≤ before.requestCountPeriodUsed
        else record.preConsumedCount = 0 ∨ before.requestCountPeriodUsed = 0
  else Returnable record before →
    (record.preConsumedAmount = 0 ∨ before.amountUsed = 0) ∧
      (record.preConsumedCount = 0 ∨ getCurrentRequestCountUsed before = 0)

instance (sub : UserSubscription) (countDelta : Int) : Decidable (WithinAfter sub countDelta) :=
  decidable_of_iff (_ ∧ _) ⟨fun both => ⟨both.1, both.2⟩, fun within => ⟨within.1, within.2⟩⟩

instance (record : SubscriptionPreConsumeRecord) (before : UserSubscription) :
    Decidable (Returnable record before) := inferInstanceAs (Decidable (_ ∨ _))

instance (record : SubscriptionPreConsumeRecord) (now : Int) (charged before : UserSubscription) :
    Decidable (RefundFits record now charged before) :=
  inferInstanceAs (Decidable (if
    getSubscriptionUsageWindowStart before = getSubscriptionUsageWindowStart charged then _ else _))

/-- The sums of a record that an accepted pre-consume made: it holds them
split, and they are not negative. -/
structure Charged (record : SubscriptionPreConsumeRecord) : Prop where
  amount : 0 ≤ record.preConsumedAmount
  count : 0 ≤ record.preConsumedCount
  split : record.preConsumedAmount ≤ 0 → record.preConsumedCount ≤ 0 → record.preConsumed ≤ 0

theorem charged_sums (charged : Charged record) (sub : UserSubscription) :
    refundSums record sub = (record.preConsumedAmount, record.preConsumedCount) := by
  unfold refundSums
  split
  · rename_i legacy
    exact absurd (charged.split legacy.1 legacy.2.1) (not_le.mpr legacy.2.2)
  · rfl

theorem apply_delta_zero (nonnegative : 0 ≤ used) : applyDelta used 0 = used := by
  simp [applyDelta, nonnegative]

section Lowered
variable (counted : Counted before) (sums : Charged record)
variable (lowered : Lowered before after (-record.preConsumedAmount) (-record.preConsumedCount))
include counted sums lowered

theorem lowered_subtracts_iff :
    SubtractsExactly record before after ↔ record.preConsumedAmount ≤ before.amountUsed ∧
      (countsLifetime before = true → record.preConsumedCount ≤ before.requestCountUsed) ∧
      if hasSeparatePeriodRequestCounter before then
        record.preConsumedCount ≤ before.requestCountPeriodUsed
      else record.preConsumedCount = 0 ∨ before.requestCountPeriodUsed = 0 := by
  obtain ⟨amount, period, lifetime⟩ := lowered
  have amountDown := sums.amount
  have countDown := sums.count
  have amountUp := counted.amountUsed
  have countUp := counted.requestCountUsed
  have periodUp := counted.requestCountPeriodUsed
  constructor
  · intro exact_
    have amountBack := exact_.amount
    have countBack := exact_.count
    have periodBack := exact_.period
    rw [amount] at amountBack
    rw [lifetime] at countBack
    rw [period] at periodBack
    refine ⟨by omega, fun counts => ?_, ?_⟩
    · simp only [counts, if_true] at countBack
      omega
    · split at periodBack
      · rw [if_pos ‹_›]
        omega
      · rw [if_neg ‹_›]
        omega
  · rintro ⟨amountRoom, countRoom, periodRoom⟩
    refine ⟨by omega, ?_, ?_⟩
    · rw [lifetime]
      split
      · have := countRoom ‹_›
        omega
      · omega
    · rw [period]
      split at periodRoom
      · rw [if_pos ‹_›]
        omega
      · rw [if_neg ‹_›]
        omega

theorem lowered_alone_iff
    (separate : hasSeparatePeriodRequestCounter after = hasSeparatePeriodRequestCounter before) :
    LeavesWindowAlone before after ↔ (record.preConsumedAmount = 0 ∨ before.amountUsed = 0) ∧
      (record.preConsumedCount = 0 ∨ getCurrentRequestCountUsed before = 0) := by
  obtain ⟨amount, period, lifetime⟩ := lowered
  have current : getCurrentRequestCountUsed after =
      max 0 (getCurrentRequestCountUsed before + -record.preConsumedCount) := by
    unfold getCurrentRequestCountUsed
    rw [separate]
    split
    · exact period
    · rename_i none_
      rw [lifetime, if_pos (counts_lifetime_of_shared (by simpa using none_))]
  have currentUp : 0 ≤ getCurrentRequestCountUsed before := by
    unfold getCurrentRequestCountUsed
    split
    · exact counted.requestCountPeriodUsed
    · exact counted.requestCountUsed
  have amountDown := sums.amount
  have countDown := sums.count
  have amountUp := counted.amountUsed
  rw [LeavesWindowAlone, amount, current]
  omega

end Lowered

/-- A count that stays in the row is not given back. -/
theorem kept_inexact (some_ : record.preConsumedCount ≠ 0) : ¬ SubtractsExactly record before before := by
  intro exact_
  by_cases own : hasSeparatePeriodRequestCounter before = true
  · have periodBack := exact_.period
    rw [if_pos own] at periodBack
    omega
  · have countBack := exact_.count
    rw [if_pos (counts_lifetime_of_shared (by simpa using own))] at countBack
    omega

theorem refund_exact_iff (counted : Counted before) (sums : Charged record)
    (separate : hasSeparatePeriodRequestCounter after = hasSeparatePeriodRequestCounter before)
    (taken : Returnable record before →
      Lowered before after (-record.preConsumedAmount) (-record.preConsumedCount))
    (refused : ¬ Returnable record before → after = before) :
    RefundExact record now charged before after ↔ RefundFits record now charged before := by
  unfold RefundExact RefundFits
  by_cases returns : Returnable record before
  · have lowered := taken returns
    simp only [returns, true_and, true_imp_iff]
    rw [lowered_subtracts_iff counted sums lowered, lowered_alone_iff counted sums lowered separate]
  · -- a refund that is refused leaves the row, and a count stays charged
    have some_ : record.preConsumedCount ≠ 0 := fun none_ => returns (.inl none_)
    rw [refused returns]
    simp only [returns, false_and, false_imp_iff]
    split
    · exact imp_congr_right fun _ => iff_false_intro (kept_inexact some_)
    · exact iff_of_true ⟨rfl, rfl⟩ trivial

theorem accepted_charged (positive : 0 < request.amount)
    (sub : UserSubscription) (now : Int) :
    Charged (acceptedRecord request sub
      (isUserSubscriptionEligibleForPreConsume sub request.amount) now) := by
  have amount : 0 ≤ (isUserSubscriptionEligibleForPreConsume sub request.amount).requiredAmount := by
    unfold isUserSubscriptionEligibleForPreConsume
    grind
  have count : 0 ≤ (isUserSubscriptionEligibleForPreConsume sub request.amount).requiredCount := by
    unfold isUserSubscriptionEligibleForPreConsume
    grind
  refine ⟨amount, count, fun noAmount noCount => ?_⟩
  simp only [acceptedRecord] at noAmount noCount ⊢
  rw [if_pos noAmount]
  exact noCount

theorem fresh_record_charged (fresh : db.record request.requestId = none)
    (recorded : (step calendar db (.preConsume request now)).record request.requestId = some record) :
    trimSpace request.requestId ≠ "" ∧ record.requestId = request.requestId ∧
      record.status = .consumed ∧ Charged record := by
  simp only [step] at recorded
  split at recorded
  · rename_i after result accepted
    unfold preConsumeUserSubscriptionWithPreference at accepted
    split at accepted
    · cases accepted
    · split at accepted
      · cases accepted
      · split at accepted
        · cases accepted
        · rename_i given positive
          rcases pre_consume_records accepted with ⟨known, -⟩ | ⟨unknown, sub, added⟩
          · exact absurd fresh known
          · simp only [Database.record] at unknown recorded
            simp only [show after.records = _ from added, lookup_append_one, unknown,
              Option.none_or, acceptedRecord, if_true, Option.some.injEq] at recorded
            subst recorded
            exact ⟨given, rfl, rfl, accepted_charged (by omega) sub now⟩
  · rw [fresh] at recorded
    cases recorded

/-- The row after a refund. A refund whose remaining counts are beyond the limits
is refused. -/
theorem refund_row (given : trimSpace requestId ≠ "")
    (found : db.record requestId = some record) (consumed : record.status = .consumed)
    (held : db.subscription record.userSubscriptionId = some before) (counted : Counted before)
    (charged : Charged record) :
    ∃ after, (step calendar db (.refund requestId now)).subscription record.userSubscriptionId =
        some after ∧
      hasSeparatePeriodRequestCounter after = hasSeparatePeriodRequestCounter before ∧
      (Returnable record before →
        Lowered before after (-record.preConsumedAmount) (-record.preConsumedCount)) ∧
      (¬ Returnable record before → after = before) := by
  have pending : ¬ record.status = .refunded := by simp [consumed]
  have key : before.id = record.userSubscriptionId := lookup_key held
  have amountDown := charged.amount
  have countDown := charged.count
  have fits : SettlementFits before (-record.preConsumedAmount) (-record.preConsumedCount) ↔
      Returnable record before := by
    rw [return_fits_iff counted (by omega) (by omega), Returnable, neg_eq_zero]
  simp only [step, refundSubscriptionPreConsume, given, found, pending, held, if_false,
    charged_sums charged before]
  by_cases empty : record.preConsumedAmount ≤ 0 ∧ record.preConsumedCount ≤ 0
  · simp only [empty, and_self, if_true]
    have amount : record.preConsumedAmount = 0 := by omega
    have count : record.preConsumedCount = 0 := by omega
    refine ⟨before, held, rfl, fun _ => ?_, fun _ => rfl⟩
    have lowered := @settled_lowered before 0 0 now counted le_rfl
    rw [amount, count]
    exact ⟨lowered.amount, lowered.period, lowered.lifetime⟩
  · have moved : ¬ (-record.preConsumedAmount = 0 ∧ -record.preConsumedCount = 0) := by omega
    have positive : ¬ record.userSubscriptionId ≤ 0 := by have := counted.id; omega
    have current : leftWindow before 0 0 = false := by simp [leftWindow]
    simp only [empty, if_false, postConsumeUserSubscriptionUsage,
      postConsumeUserSubscriptionDeltaForWindow, positive, moved, held, current,
      Bool.false_eq_true]
    by_cases returns : Returnable record before
    · have settled : settleRow before _ _ = .ok _ := settle_row_ok_iff.mpr ⟨rfl, fits.mpr returns⟩
      simp only [settled, Except.map]
      have present : lookup UserSubscription.id db.subscriptions before.id = some before := by
        rw [key]
        exact held
      rw [← key]
      exact ⟨_, lookup_save_self present, rfl, fun _ => settled_lowered counted (by omega),
        fun refused => absurd returns refused⟩
    · cases row : settleRow before (-record.preConsumedAmount) (-record.preConsumedCount) with
      | ok settled => exact absurd (fits.mp (settle_row_ok_iff.mp row).2) returns
      | error error =>
        simp only [Except.map]
        exact ⟨before, held, rfl, fun returned => absurd returned returns, fun _ => rfl⟩

theorem stray_refund_inexact (given : trimSpace requestId ≠ "")
    (found : db.record requestId = some record) (consumed : record.status = .consumed)
    (held : db.subscription record.userSubscriptionId = some before) (counted : Counted before)
    (charged : Charged record) (some_ : record.preConsumedCount ≠ 0)
    (shared : hasSeparatePeriodRequestCounter before = false)
    (used : 0 < before.requestCountPeriodUsed)
    (refunded : (step calendar db (.refund requestId now)).subscription record.userSubscriptionId =
      some after) : ¬ SubtractsExactly record before after := by
  intro exact_
  have countDown := charged.count
  obtain ⟨written, row, same, taken, refused⟩ :
      ∃ written, (step calendar db (.refund requestId now)).subscription record.userSubscriptionId =
        some written ∧ _ := refund_row given found consumed held counted charged
  cases refunded.symm.trans row
  by_cases returns : Returnable record before
  · have lowered := (taken returns).period
    have back := exact_.period
    rw [shared, if_neg Bool.false_ne_true] at back
    omega
  · rw [refused returns] at exact_
    exact kept_inexact some_ exact_

/-! ## Every history -/

/-- A request charged in a history: what came before, the record that its
pre-consume made, and the row it charged. -/
structure Charge (calendar : Calendar) (start : Database) where
  earlier : List Event
  request : PreConsumeRequest
  chargedAt : Int
  record : SubscriptionPreConsumeRecord
  sub : UserSubscription
  fresh : (run (step calendar) start earlier).record request.requestId = none
  recorded : (run (step calendar) start (earlier ++ [.preConsume request chargedAt])).record
    request.requestId = some record
  held : (run (step calendar) start (earlier ++ [.preConsume request chargedAt])).subscription
    record.userSubscriptionId = some sub

def Charge.reached {start : Database} (charge : Charge calendar start) (later : List Event) :
    Database :=
  run (step calendar) start (charge.earlier ++ [.preConsume charge.request charge.chargedAt] ++ later)

def RefundKeepsBooks {start : Database} (charge : Charge calendar start) (later : List Event)
    (now : Int) : Prop :=
  RefundsOnce calendar (charge.reached later) charge.request.requestId now ∧
    ∀ before after, (charge.reached later).record charge.request.requestId = some charge.record →
      (charge.reached later).subscription charge.record.userSubscriptionId = some before →
      (step calendar (charge.reached later) (.refund charge.request.requestId now)).subscription
        charge.record.userSubscriptionId = some after →
      RefundExact charge.record now charge.sub before after

def ChargeFits {start : Database} (charge : Charge calendar start) (later : List Event)
    (now : Int) : Prop :=
  ∀ before, (charge.reached later).record charge.request.requestId = some charge.record →
    (charge.reached later).subscription charge.record.userSubscriptionId = some before →
    RefundFits charge.record now charge.sub before

/-- For every charge and every history after it, a refund keeps the books
exactly when it fits. The tables that the history starts from may be those that
edits of plans have left. -/
theorem refund_keeps_books_iff {start : Database} (counted : AllRows Counted start)
    (charge : Charge calendar start) (later : List Event) (now : Int) :
    RefundKeepsBooks charge later now ↔ ChargeFits charge later now := by
  have made := charge.recorded
  rw [run_append] at made
  obtain ⟨given, -, consumed, charged⟩ := fresh_record_charged charge.fresh made
  have counted : AllRows Counted (charge.reached later) :=
    run_all_rows_always (counted_rule calendar) (fun _ _ _ => trivial) _ counted
  have exact_iff : ∀ before after, (charge.reached later).record charge.request.requestId =
        some charge.record →
      (charge.reached later).subscription charge.record.userSubscriptionId = some before →
      (step calendar (charge.reached later) (.refund charge.request.requestId now)).subscription
        charge.record.userSubscriptionId = some after →
      (RefundExact charge.record now charge.sub before after ↔
        RefundFits charge.record now charge.sub before) := by
    intro before after pending found refunded
    have ready := counted.subscriptions before (lookup_mem found)
    obtain ⟨same, written, separate, taken, refused⟩ :=
      refund_row given pending consumed found ready charged
    cases refunded.symm.trans written
    exact refund_exact_iff ready charged separate taken refused
  refine ⟨fun keeps before pending found => ?_, fun fits => ⟨refunds_once _ _ _ _, ?_⟩⟩
  · have ready := counted.subscriptions before (lookup_mem found)
    obtain ⟨after, refunded, -⟩ := refund_row given pending consumed found ready charged
    exact (exact_iff before after pending found refunded).mp (keeps.2 before after pending found refunded)
  · intro before after pending found refunded
    exact (exact_iff before after pending found refunded).mpr (fits before pending found)

def dailyQuota : SubscriptionPlan where
  id := 1
  terms := { durationUnit := .day, durationValue := 30, totalAmount := 100
             reset := ⟨.daily, 0, false, 0⟩ }

def quotaShop : Database := { users := [{ id := 7 }], plans := [dailyQuota] }

def firstDay : Charge dayCount quotaShop where
  earlier := [.create 7 1 dailyQuota.terms .order 1000]
  request := { requestId := "first", userId := 7, amount := 10 }
  chargedAt := 2000
  record := ⟨"first", 7, 1, 10, 10, 0, .consumed, 2000, 2000⟩
  sub := { newSubscription dayCount 1 7 1 dailyQuota.terms .order "" 1000 2593000 with
    amountUsed := 10, updatedAt := 2000 }
  fresh := by decide
  recorded := by decide
  held := by decide

def secondDay : Event :=
  .preConsume { requestId := "second", userId := 7, amount := 30 } 90000

/-- The first day's request is given back from the usage of the second day. -/
theorem refund_takes_from_later_window :
    ¬ ∀ (calendar : Calendar) (start : Database) (charge : Charge calendar start)
      (later : List Event) (now : Int), AllRows Counted start → RefundKeepsBooks charge later now := by
  intro always
  have keeps := always dayCount quotaShop firstDay [secondDay] 91000
    (unissued_all_rows ⟨by decide, rfl, rfl⟩)
  obtain ⟨before, found, used, moved⟩ : ∃ before,
      (firstDay.reached [secondDay]).subscription 1 = some before ∧ before.amountUsed = 30 ∧
        getSubscriptionUsageWindowStart before ≠ getSubscriptionUsageWindowStart firstDay.sub :=
    ⟨_, rfl, by decide, by decide⟩
  obtain ⟨after, refunded, left⟩ : ∃ after,
      (step dayCount (firstDay.reached [secondDay]) (.refund "first" 91000)).subscription 1 =
        some after ∧ after.amountUsed = 20 := ⟨_, rfl, by decide⟩
  have exact_ := keeps.2 before after (by decide) found refunded
  rw [RefundExact, if_neg moved] at exact_
  have alone := exact_.1
  omega

/-- A refund on the day of the charge. -/
theorem same_day_refund_keeps_books : RefundKeepsBooks firstDay [] 3000 := by
  refine (refund_keeps_books_iff (unissued_all_rows ⟨by decide, rfl, rfl⟩) firstDay [] 3000).mpr ?_
  intro before _ found
  have same : before = firstDay.sub := Option.some.inj (found.symm.trans firstDay.held)
  subst same
  decide

end NewApi.RefundWindow
