import NewApi.SubscriptionStore

/-! The rule for properties of subscription rows: what each operation keeps on
the row it writes, every history keeps on every row of the table. A property
may allow only some settlements; refunds, which only give back, are always
allowed. -/
namespace NewApi.SubscriptionRows
open NewApi.GuardedRun NewApi.KeyedTable
open NewApi.ResetWindow NewApi.Subscription NewApi.SubscriptionStore

/-- A property of rows that survives everything the operations do to a row,
settlements as far as they are allowed. -/
structure RowRule (calendar : Calendar) (allowed : UserSubscription → Int → Int → Prop)
    (property : UserSubscription → Prop) : Prop where
  issued : ∀ id userId planId terms source prevGroup now endUnix, 0 < id →
    property (newSubscription calendar id userId planId terms source prevGroup now endUnix)
  rebound : ∀ sub channelId keyIndex updatedAt, property sub →
    property { sub with
      specificChannelId := channelId
      specificChannelKeyIndex := keyIndex
      updatedAt := updatedAt }
  reset : ∀ sub now, property sub → property (maybeResetUserSubscriptionWithPlan calendar sub now).sub
  preConsumed : ∀ sub amount now, 0 < amount → property sub →
    (isUserSubscriptionEligibleForPreConsume sub amount).eligible = true →
    let need := isUserSubscriptionEligibleForPreConsume sub amount
    property ((addPreConsumed sub need.requiredAmount need.requiredCount).touch now)
  settled : ∀ sub amountDelta countDelta now, allowed sub amountDelta countDelta →
    SettlementFits sub amountDelta countDelta → property sub →
    property ((settledRow sub amountDelta countDelta).touch now)
  givesBack : ∀ sub amountDelta countDelta, amountDelta ≤ 0 → countDelta ≤ 0 →
    allowed sub amountDelta countDelta

/-- Every subscription has the property, the next one gets a positive id, and
no record gives back a negative sum. -/
structure AllRows (property : UserSubscription → Prop) (db : Database) : Prop where
  nextId : 0 < db.nextSubscriptionId
  subscriptions : ∀ sub ∈ db.subscriptions, property sub
  records : ∀ record ∈ db.records, 0 ≤ record.preConsumedAmount ∧ 0 ≤ record.preConsumedCount

structure RowRuleAt (calendar : Calendar) (now : Int) (allowed : UserSubscription → Int → Int → Prop)
    (property : UserSubscription → Prop) : Prop where
  issued : ∀ id userId planId terms source prevGroup endUnix, 0 < id →
    property (newSubscription calendar id userId planId terms source prevGroup now endUnix)
  rebound : ∀ sub channelId keyIndex updatedAt, property sub →
    property { sub with
      specificChannelId := channelId
      specificChannelKeyIndex := keyIndex
      updatedAt := updatedAt }
  reset : ∀ sub, property sub → property (maybeResetUserSubscriptionWithPlan calendar sub now).sub
  preConsumed : ∀ sub amount, 0 < amount → property sub →
    (isUserSubscriptionEligibleForPreConsume sub amount).eligible = true →
    let need := isUserSubscriptionEligibleForPreConsume sub amount
    property ((addPreConsumed sub need.requiredAmount need.requiredCount).touch now)
  settled : ∀ sub amountDelta countDelta, allowed sub amountDelta countDelta →
    SettlementFits sub amountDelta countDelta → property sub →
    property ((settledRow sub amountDelta countDelta).touch now)
  givesBack : ∀ sub amountDelta countDelta, amountDelta ≤ 0 → countDelta ≤ 0 →
    allowed sub amountDelta countDelta

theorem RowRule.at_ {allowed : UserSubscription → Int → Int → Prop}
    {property : UserSubscription → Prop} (rule : RowRule calendar allowed property) (now : Int) :
    RowRuleAt calendar now allowed property where
  issued id userId planId terms source prevGroup endUnix :=
    rule.issued id userId planId terms source prevGroup now endUnix
  rebound := rule.rebound
  reset sub := rule.reset sub now
  preConsumed sub amount := rule.preConsumed sub amount now
  settled sub amountDelta countDelta := rule.settled sub amountDelta countDelta now
  givesBack := rule.givesBack

theorem RowRule.and {allowed : UserSubscription → Int → Int → Prop}
    {one other : UserSubscription → Prop} (first : RowRule calendar allowed one)
    (second : RowRule calendar allowed other) :
    RowRule calendar allowed fun sub => one sub ∧ other sub where
  issued id userId planId terms source prevGroup now endUnix positive :=
    ⟨first.issued id userId planId terms source prevGroup now endUnix positive,
      second.issued id userId planId terms source prevGroup now endUnix positive⟩
  rebound sub channelId keyIndex updatedAt holds :=
    ⟨first.rebound sub channelId keyIndex updatedAt holds.1,
      second.rebound sub channelId keyIndex updatedAt holds.2⟩
  reset sub now holds := ⟨first.reset sub now holds.1, second.reset sub now holds.2⟩
  preConsumed sub amount now positive holds eligible :=
    ⟨first.preConsumed sub amount now positive holds.1 eligible,
      second.preConsumed sub amount now positive holds.2 eligible⟩
  settled sub amountDelta countDelta now free fits holds :=
    ⟨first.settled sub amountDelta countDelta now free fits holds.1,
      second.settled sub amountDelta countDelta now free fits holds.2⟩
  givesBack := first.givesBack

theorem AllRows.imp {one other : UserSubscription → Prop} (all : AllRows one db)
    (weaker : ∀ sub, one sub → other sub) : AllRows other db :=
  ⟨all.nextId, fun sub member => weaker sub (all.subscriptions sub member), all.records⟩

def SettlementAllowed (allowed : UserSubscription → Int → Int → Prop) (db : Database) : Event → Prop
  | .settle userSubscriptionId amountDelta countDelta windowStart windowEnd _ =>
    ∀ sub, 0 < userSubscriptionId → db.subscription userSubscriptionId = some sub →
      leftWindow sub windowStart windowEnd = false →
      SettlementFits sub amountDelta countDelta → allowed sub amountDelta countDelta
  | _ => True

variable {calendar : Calendar} {allowed : UserSubscription → Int → Int → Prop}
variable {property : UserSubscription → Prop} {db : Database} {now : Int}

/-! ## What each operation does to the table -/

theorem all_rows_save (all : AllRows property db) (holds : property sub) :
    AllRows property (db.saveSubscription sub) :=
  ⟨all.nextId, forall_save all.subscriptions holds, all.records⟩

theorem refund_sums_nonnegative
    (sums : 0 ≤ record.preConsumedAmount ∧ 0 ≤ record.preConsumedCount) :
    0 ≤ (refundSums record sub).1 ∧ 0 ≤ (refundSums record sub).2 := by
  unfold refundSums
  split
  · split <;> constructor <;> simp only <;> omega
  · exact sums

section Operations
variable (rule : RowRuleAt calendar now allowed property)
include rule

theorem all_rows_backfill (all : AllRows property db) (holds : property sub) :
    AllRows property (tryBackfillUserSubscriptionChannelBinding request now db sub).1 ∧
      property (tryBackfillUserSubscriptionChannelBinding request now db sub).2 := by
  unfold tryBackfillUserSubscriptionChannelBinding
  split
  · exact ⟨all, holds⟩
  · split
    · exact ⟨all, holds⟩
    · refine ⟨⟨all.nextId, forall_update all.subscriptions ?_, all.records⟩, ?_⟩
      · exact fun old _ _ ready => rule.rebound old _ _ now ready
      · exact rule.rebound sub _ _ sub.updatedAt holds

theorem all_rows_open_window (all : AllRows property db) (holds : property sub) :
    AllRows property (openWindow calendar now db sub).1 ∧ property (openWindow calendar now db sub).2 := by
  refine ⟨?_, rule.reset sub holds⟩
  unfold openWindow
  dsimp only
  split
  · exact all_rows_save all (rule.reset sub holds)
  · exact all

theorem round_rule (request : PreConsumeRequest) :
    RoundRule calendar request now (AllRows property) property where
  opens _ _ all holds := all_rows_open_window rule all holds
  binds _ _ all holds := all_rows_backfill rule all holds

theorem all_rows_accept (positive : 0 < request.amount)
    (all : AllRows property db) (holds : property sub)
    (eligible : (isUserSubscriptionEligibleForPreConsume sub request.amount).eligible = true) :
    AllRows property (acceptRequest request sub now db) := by
  have charged : AllRows property (db.saveSubscription _) :=
    all_rows_save all (rule.preConsumed sub request.amount positive holds eligible)
  refine ⟨all.nextId, charged.subscriptions, fun record member => ?_⟩
  rcases List.mem_append.mp member with old | new
  · exact all.records record old
  · rw [List.mem_singleton.mp new]
    obtain ⟨shape, -⟩ := eligible_room eligible
    simp only [acceptedRecord, shape]
    constructor <;> split <;> omega

theorem all_rows_pre_consume
    (positive : 0 < request.amount) (all : AllRows property db)
    (subs : ∀ sub ∈ held.subs, property sub) (preferred : ∀ sub ∈ held.preferred, property sub)
    (accepted : preConsumeFrom calendar request now held db = .ok result) :
    AllRows property result.1 := by
  rcases pre_consume_cases (round_rule rule request) all subs preferred accepted with
    ⟨-, same⟩ | ⟨-, opened, sub, ⟨ready, -⟩, holds, eligible, written, -⟩
  · rw [same]
    exact all
  · rw [written]
    exact all_rows_accept rule positive ready holds eligible

theorem all_rows_request
    (all : AllRows property db)
    (accepted : preConsumeUserSubscriptionWithPreference calendar request now db = .ok result) :
    AllRows property result.1 := by
  unfold preConsumeUserSubscriptionWithPreference at accepted
  split at accepted
  · cases accepted
  · split at accepted
    · cases accepted
    · split at accepted
      · cases accepted
      · obtain ⟨listed, preferred⟩ := read_rows_stored all.subscriptions
        exact all_rows_pre_consume rule (by omega) all listed preferred accepted

theorem all_rows_create
    (all : AllRows property db)
    (created : createUserSubscriptionFromPlan calendar userId planId terms source now db =
      .ok result) : AllRows property result.1 := by
  obtain ⟨plan, effective, endUnix, -, -, -, -, row, after⟩ := create_cases created
  have nextId := all.nextId
  rw [after]
  refine ⟨by dsimp only; omega, fun sub member => ?_, all.records⟩
  rcases List.mem_append.mp member with old | new
  · exact all.subscriptions sub old
  · rw [List.mem_singleton.mp new, row]
    exact rule.issued _ _ _ _ _ _ _ nextId

theorem all_rows_settle {id : Int}
    (all : AllRows property db)
    (room : SettlementAllowed allowed db (.settle id amountDelta countDelta windowStart windowEnd now))
    (settled : postConsumeUserSubscriptionDeltaForWindow id amountDelta countDelta windowStart
      windowEnd now db = .ok result) : AllRows property result := by
  rcases post_consume_cases settled with rfl | ⟨sub, positive, found, current, fits, rfl⟩
  · exact all
  · have holds := all.subscriptions sub (lookup_mem found)
    exact all_rows_save all (rule.settled sub _ _ (room sub positive found current fits) fits holds)

theorem all_rows_refund (all : AllRows property db)
    (refunded : refundSubscriptionPreConsume requestId now db = .ok result) :
    AllRows property result := by
  have saved : ∀ {db : Database} {record : SubscriptionPreConsumeRecord}, AllRows property db →
      0 ≤ record.preConsumedAmount ∧ 0 ≤ record.preConsumedCount →
      AllRows property (db.saveRecord { record with status := .refunded, updatedAt := now }) :=
    fun ready sums => ⟨ready.nextId, ready.subscriptions, forall_save ready.records sums⟩
  unfold refundSubscriptionPreConsume at refunded
  split at refunded
  · cases refunded
  · split at refunded
    · cases refunded
    · rename_i record found
      have sums := all.records record (lookup_mem found)
      split at refunded
      · cases refunded
        exact all
      · split at refunded
        · cases refunded
        · rename_i sub held
          dsimp only at refunded
          split at refunded
          · cases refunded
            exact saved all sums
          · split at refunded
            · rename_i settled
              cases refunded
              have back : 0 ≤ (refundSums record sub).1 ∧ _ := refund_sums_nonnegative sums
              refine saved (all_rows_settle rule all ?_ settled) sums
              exact fun row _ _ _ _ => rule.givesBack row _ _ (by omega) (by omega)
            · cases refunded

theorem all_rows_reset_due (limit : Nat) (all : AllRows property db) :
    AllRows property (resetDueSubscriptions calendar limit now db) := by
  have one : ∀ {db : Database} (due : UserSubscription), AllRows property db →
      AllRows property (resetDueSubscription calendar now db due) := by
    intro db due ready
    unfold resetDueSubscription
    split
    · exact ready
    · split
      · exact ready
      · rename_i locked found
        exact (all_rows_open_window rule ready
          (ready.subscriptions locked (List.mem_of_find?_eq_some found))).1
  unfold resetDueSubscriptions
  dsimp only
  generalize List.take _ _ = due
  induction due generalizing db with
  | nil => exact all
  | cons first rest ih => exact ih (one first all)

end Operations

/-! ## Every run -/

def eventTime : Event → Int
  | .create _ _ _ _ now => now
  | .preConsume _ now => now
  | .settle _ _ _ _ _ now => now
  | .refund _ now => now
  | .resetDue _ now => now

theorem step_all_rows_at (db : Database) (event : Event)
    (rule : RowRuleAt calendar (eventTime event) allowed property)
    (room : SettlementAllowed allowed db event) (all : AllRows property db) :
    AllRows property (step calendar db event) := by
  cases event with
  | create userId planId terms source now =>
    simp only [step]
    split
    · exact all_rows_create rule all ‹_›
    · exact all
  | preConsume request now =>
    simp only [step]
    split
    · exact all_rows_request rule all ‹_›
    · exact all
  | settle id amountDelta countDelta windowStart windowEnd now =>
    simp only [step]
    split
    · exact all_rows_settle rule all room ‹_›
    · exact all
  | refund requestId now =>
    simp only [step]
    split
    · exact all_rows_refund rule all ‹_›
    · exact all
  | resetDue limit now => exact all_rows_reset_due rule limit all

section Always
variable (rule : RowRule calendar allowed property)
include rule

theorem step_all_rows (db : Database) (event : Event) (room : SettlementAllowed allowed db event)
    (all : AllRows property db) : AllRows property (step calendar db event) :=
  step_all_rows_at db event (rule.at_ (eventTime event)) room all

theorem run_all_rows
    (permitted : Guarded (step calendar) (SettlementAllowed allowed) start events)
    (initially : AllRows property start) : AllRows property (run (step calendar) start events) :=
  run_preserves (step_all_rows rule) permitted initially

omit rule in
theorem settlements_free (free : ∀ sub amountDelta countDelta, allowed sub amountDelta countDelta)
    (db : Database) (event : Event) : SettlementAllowed allowed db event := by
  cases event with
  | settle => exact fun sub _ _ _ _ => free sub _ _
  | _ => trivial

theorem run_all_rows_always (free : ∀ sub amountDelta countDelta, allowed sub amountDelta countDelta)
    (events : List Event) (initially : AllRows property start) :
    AllRows property (run (step calendar) start events) :=
  run_all_rows rule (guarded_of_forall (settlements_free free) start events) initially

end Always

/-! ## Ids -/

structure SameIds (before after : Database) : Prop where
  ids : after.subscriptions.map UserSubscription.id = before.subscriptions.map UserSubscription.id
  next : after.nextSubscriptionId = before.nextSubscriptionId

theorem same_ids_refl (db : Database) : SameIds db db := ⟨rfl, rfl⟩

theorem same_ids_trans {first : Database} (one : SameIds first second)
    (two : SameIds second third) : SameIds first third :=
  ⟨two.ids.trans one.ids, two.next.trans one.next⟩

theorem save_same_ids (db : Database) (sub : UserSubscription) : SameIds db (db.saveSubscription sub) :=
  ⟨map_key_save .., rfl⟩

theorem open_window_same_ids (calendar : Calendar) (now : Int) (db : Database)
    (sub : UserSubscription) : SameIds db (openWindow calendar now db sub).1 := by
  unfold openWindow
  dsimp only
  split
  · apply save_same_ids
  · apply same_ids_refl

theorem backfill_same_ids (request : PreConsumeRequest) (now : Int) (db : Database)
    (sub : UserSubscription) :
    SameIds db (tryBackfillUserSubscriptionChannelBinding request now db sub).1 := by
  unfold tryBackfillUserSubscriptionChannelBinding
  split
  · apply same_ids_refl
  · split
    · apply same_ids_refl
    · exact ⟨map_key_update _ _ fun _ => rfl, rfl⟩

theorem round_rule_same_ids (calendar : Calendar) (request : PreConsumeRequest) (now : Int)
    (start : Database) : RoundRule calendar request now (SameIds start) (fun _ => True) where
  opens db sub same _ := ⟨same_ids_trans same (open_window_same_ids calendar now db sub), trivial⟩
  binds db sub same _ := ⟨same_ids_trans same (backfill_same_ids request now db sub), trivial⟩

theorem request_same_ids
    (accepted : preConsumeUserSubscriptionWithPreference calendar request now db = .ok result) :
    SameIds db result.1 := by
  unfold preConsumeUserSubscriptionWithPreference at accepted
  split at accepted
  · cases accepted
  · split at accepted
    · cases accepted
    · split at accepted
      · cases accepted
      · rcases pre_consume_cases (round_rule_same_ids calendar request now db) (same_ids_refl db)
          (fun _ _ => trivial) (fun _ _ => trivial) accepted with
          ⟨-, same⟩ | ⟨-, opened, sub, ⟨same, -⟩, -, -, written, -⟩
        · rw [same]
          apply same_ids_refl
        · rw [written]
          exact same_ids_trans same ⟨map_key_save .., rfl⟩

theorem settle_same_ids {id : Int}
    (settled : postConsumeUserSubscriptionDeltaForWindow id amountDelta countDelta windowStart
      windowEnd now db = .ok result) : SameIds db result := by
  rcases post_consume_cases settled with rfl | ⟨sub, -, -, -, -, rfl⟩
  · apply same_ids_refl
  · apply save_same_ids

theorem refund_same_ids
    (refunded : refundSubscriptionPreConsume requestId now db = .ok result) :
    SameIds db result := by
  unfold refundSubscriptionPreConsume at refunded
  split at refunded
  · cases refunded
  · split at refunded
    · cases refunded
    · split at refunded
      · cases refunded
        apply same_ids_refl
      · split at refunded
        · cases refunded
        · dsimp only at refunded
          split at refunded
          · cases refunded
            exact ⟨rfl, rfl⟩
          · split at refunded
            · rename_i settled
              cases refunded
              have same := settle_same_ids settled
              exact ⟨same.ids, same.next⟩
            · cases refunded

theorem reset_due_same_ids (calendar : Calendar) (limit : Nat) (now : Int) (db : Database) :
    SameIds db (resetDueSubscriptions calendar limit now db) := by
  have one : ∀ (db : Database) (due : UserSubscription),
      SameIds db (resetDueSubscription calendar now db due) := by
    intro db due
    unfold resetDueSubscription
    split
    · apply same_ids_refl
    · split
      · apply same_ids_refl
      · apply open_window_same_ids
  unfold resetDueSubscriptions
  dsimp only
  generalize List.take _ _ = due
  induction due generalizing db with
  | nil => exact same_ids_refl db
  | cons first rest ih => exact same_ids_trans (one db first) (ih _)

theorem step_ids (calendar : Calendar) (db : Database) (event : Event) :
    SameIds db (step calendar db event) ∨
      ((step calendar db event).subscriptions.map UserSubscription.id =
          db.subscriptions.map UserSubscription.id ++ [db.nextSubscriptionId] ∧
        (step calendar db event).nextSubscriptionId = db.nextSubscriptionId + 1) := by
  cases event with
  | create userId planId terms source now =>
    simp only [step]
    split
    · rename_i created
      obtain ⟨plan, effective, endUnix, -, -, -, -, row, after⟩ := create_cases created
      dsimp only at row after
      right
      rw [after, row]
      exact ⟨List.map_append, rfl⟩
    · exact .inl (same_ids_refl db)
  | preConsume request now =>
    simp only [step]
    split
    · exact .inl (request_same_ids ‹_›)
    · exact .inl (same_ids_refl db)
  | settle id amountDelta countDelta windowStart windowEnd now =>
    simp only [step]
    split
    · exact .inl (settle_same_ids ‹_›)
    · exact .inl (same_ids_refl db)
  | refund requestId now =>
    simp only [step]
    split
    · exact .inl (refund_same_ids ‹_›)
    · exact .inl (same_ids_refl db)
  | resetDue limit now => exact .inl (reset_due_same_ids calendar limit now db)

theorem step_next_id (calendar : Calendar) (db : Database) (event : Event) :
    db.nextSubscriptionId ≤ (step calendar db event).nextSubscriptionId := by
  rcases step_ids calendar db event with same | ⟨-, next⟩
  · exact same.next.ge
  · omega

structure Numbered (db : Database) : Prop where
  unique : (db.subscriptions.map UserSubscription.id).Nodup
  below : ∀ id ∈ db.subscriptions.map UserSubscription.id, id < db.nextSubscriptionId

theorem same_ids_numbered (numbered : Numbered db) (same : SameIds db after) :
    Numbered after := by
  constructor
  · rw [same.ids]
    exact numbered.unique
  · rw [same.ids, same.next]
    exact numbered.below

theorem numbered_insert (numbered : Numbered db)
    (ids : after.subscriptions.map UserSubscription.id =
      db.subscriptions.map UserSubscription.id ++ [db.nextSubscriptionId])
    (next : after.nextSubscriptionId = db.nextSubscriptionId + 1) : Numbered after := by
  constructor
  · rw [ids]
    apply List.nodup_append.mpr
    refine ⟨numbered.unique, List.pairwise_singleton _ _, ?_⟩
    intro id member other new same
    have below := numbered.below id member
    rw [List.mem_singleton.mp new] at same
    omega
  · rw [ids, next]
    intro id member
    rcases List.mem_append.mp member with old | new
    · have below := numbered.below id old
      omega
    · rw [List.mem_singleton.mp new]
      omega

theorem step_numbered (calendar : Calendar) (event : Event) (numbered : Numbered db) :
    Numbered (step calendar db event) := by
  rcases step_ids calendar db event with same | ⟨ids, next⟩
  · exact same_ids_numbered numbered same
  · exact numbered_insert numbered ids next

theorem unissued_numbered (empty : start.subscriptions = []) : Numbered start := by
  constructor
  · rw [empty]
    exact List.nodup_nil
  · rw [empty]
    exact fun id member => nomatch member

/-- The tables that a history starts from hold plans and users, and no
subscription was issued yet. -/
structure Unissued (db : Database) : Prop where
  nextId : 0 < db.nextSubscriptionId
  subscriptions : db.subscriptions = []
  records : db.records = []

theorem unissued_all_rows (unissued : Unissued start) : AllRows property start :=
  ⟨unissued.nextId, by simp [unissued.subscriptions], by simp [unissued.records]⟩

end NewApi.SubscriptionRows
