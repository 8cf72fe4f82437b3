import NewApi.RefundWindow

/-! What a request leaves of the tables when it is charged to a subscription,
and what its refund takes back. The charge may first bring rows into their
window and give them a channel binding. The refund undoes the charge and
nothing of that. -/
namespace NewApi.RequestCharge
open NewApi.KeyedTable
open NewApi.GoText (trimSpace)
open NewApi.ResetWindow NewApi.Subscription
open NewApi.SubscriptionStore hiding step Event
open NewApi.SubscriptionBounds
open NewApi.RefundWindow (Charged charged_sums accepted_charged apply_delta_zero)

variable {calendar : Calendar} {now : Int} {db opened : Database} {request : PreConsumeRequest}
variable {sub before after : UserSubscription}

/-! ## Rows before the charge -/

/-- What a pre-consume may do to a row before it charges one. -/
inductive PrepareStep (calendar : Calendar) (now : Int) :
    UserSubscription → UserSubscription → Prop
  | reset (sub : UserSubscription) :
    PrepareStep calendar now sub (maybeResetUserSubscriptionWithPlan calendar sub now).sub
  | bind (sub : UserSubscription) (channelId keyIndex updatedAt : Int) :
    PrepareStep calendar now sub { sub with
      specificChannelId := channelId
      specificChannelKeyIndex := keyIndex
      updatedAt := updatedAt }

def Prepares (calendar : Calendar) (now : Int) : UserSubscription → UserSubscription → Prop :=
  Relation.ReflTransGen (PrepareStep calendar now)

theorem prepares_keep {motive : UserSubscription → Prop}
    (reset : ∀ sub, motive sub → motive (maybeResetUserSubscriptionWithPlan calendar sub now).sub)
    (bind : ∀ sub channelId keyIndex updatedAt, motive sub → motive { sub with
      specificChannelId := channelId
      specificChannelKeyIndex := keyIndex
      updatedAt := updatedAt })
    (prepared : Prepares calendar now before after) (holds : motive before) : motive after := by
  induction prepared with
  | refl => exact holds
  | tail _ step ih =>
    cases step with
    | reset => exact reset _ ih
    | bind => exact bind _ _ _ _ ih

structure SameUsage (before after : UserSubscription) : Prop where
  amount : after.amountUsed = before.amountUsed
  count : after.requestCountUsed = before.requestCountUsed
  period : after.requestCountPeriodUsed = before.requestCountPeriodUsed

theorem same_usage_refl (sub : UserSubscription) : SameUsage sub sub := ⟨rfl, rfl, rfl⟩

theorem same_usage_trans {first : UserSubscription} (one : SameUsage first second)
    (two : SameUsage second third) : SameUsage first third :=
  ⟨two.amount.trans one.amount, two.count.trans one.count, two.period.trans one.period⟩

/-- What a stored row is like whatever its plan is edited to: no counter is
negative. -/
structure Counted (sub : UserSubscription) : Prop where
  id : 0 < sub.id
  amountUsed : 0 ≤ sub.amountUsed
  requestCountUsed : 0 ≤ sub.requestCountUsed
  requestCountPeriodUsed : 0 ≤ sub.requestCountPeriodUsed

/-- The row holds a count for the period that it has no counter of its own for,
as edits of its plan can leave one. A refund lowers it, and no charge raises it. -/
def Stray (sub : UserSubscription) : Prop :=
  hasSeparatePeriodRequestCounter sub = false ∧ 0 < sub.requestCountPeriodUsed

instance (sub : UserSubscription) : Decidable (Stray sub) := inferInstanceAs (Decidable (_ ∧ _))

theorem counted_clear (ready : Counted sub) : Counted (clearWindowUsage sub) := by
  unfold clearWindowUsage
  split
  · exact ⟨ready.id, le_rfl, ready.requestCountUsed, le_rfl⟩
  · exact ⟨ready.id, le_rfl, le_rfl, ready.requestCountPeriodUsed⟩

theorem counted_reset (ready : Counted sub) :
    Counted (maybeResetUserSubscriptionWithPlan calendar sub now).sub := by
  have moved : ∀ last next, Counted (sub.moveWindow last next) :=
    fun _ _ => ⟨ready.1, ready.2, ready.3, ready.4⟩
  obtain ⟨last, next, reset | reset | reset⟩ := reset_cases calendar sub now <;> rw [reset]
  · exact moved last next
  · exact ⟨ready.1, ready.2, ready.3, ready.4⟩
  · have cleared := counted_clear (moved last next)
    exact ⟨cleared.1, cleared.2, cleared.3, cleared.4⟩

theorem counted_prepared (prepared : Prepares calendar now before after) (ready : Counted before) :
    Counted after :=
  prepares_keep (fun _ ready => counted_reset ready)
    (fun _ _ _ _ ready => ⟨ready.1, ready.2, ready.3, ready.4⟩) prepared ready

theorem stray_reset (none_ : ¬ Stray sub) :
    ¬ Stray (maybeResetUserSubscriptionWithPlan calendar sub now).sub := by
  have cleared : ∀ last next, ¬ Stray (clearWindowUsage (sub.moveWindow last next)) := by
    intro last next
    unfold clearWindowUsage
    split
    · exact fun stray => lt_irrefl 0 stray.2
    · exact none_
  obtain ⟨last, next, reset | reset | reset⟩ := reset_cases calendar sub now <;> rw [reset]
  · exact none_
  · exact none_
  · exact cleared last next

theorem stray_prepared (prepared : Prepares calendar now before after) (none_ : ¬ Stray before) :
    ¬ Stray after :=
  prepares_keep (motive := (¬ Stray ·)) (fun _ => stray_reset) (fun _ _ _ _ => id) prepared none_

/-! ## Tables before the charge -/

structure Prepared (calendar : Calendar) (now : Int) (before after : Database) : Prop where
  ids : after.subscriptions.map UserSubscription.id = before.subscriptions.map UserSubscription.id
  users : after.users = before.users
  rows : ∀ id stored, before.subscription id = some stored →
    ∃ row, after.subscription id = some row ∧ Prepares calendar now stored row

def FromStored (calendar : Calendar) (now : Int) (db : Database) (sub : UserSubscription) : Prop :=
  ∃ stored, db.subscription sub.id = some stored ∧ Prepares calendar now stored sub

theorem prepared_refl (calendar : Calendar) (now : Int) (db : Database) : Prepared calendar now db db :=
  ⟨rfl, rfl, fun _ stored found => ⟨stored, found, .refl⟩⟩

theorem prepared_save (ready : Prepared calendar now db opened) (from_ : FromStored calendar now db sub) :
    Prepared calendar now db (opened.saveSubscription sub) := by
  refine ⟨(map_key_save ..).trans ready.ids, ready.users, fun id stored found => ?_⟩
  obtain ⟨row, held, prepares⟩ := ready.rows id stored found
  simp only [Database.subscription, Database.saveSubscription] at held ⊢
  rw [lookup_save]
  by_cases mine : id = sub.id
  · obtain ⟨same, known, prepares⟩ := from_
    rw [← mine, found] at known
    cases known
    rw [if_pos mine, held]
    exact ⟨sub, rfl, prepares⟩
  · rw [if_neg mine]
    exact ⟨row, held, prepares⟩

theorem prepared_open_window (ready : Prepared calendar now db opened)
    (from_ : FromStored calendar now db sub) :
    Prepared calendar now db (openWindow calendar now opened sub).1 ∧
      FromStored calendar now db (openWindow calendar now opened sub).2 := by
  have next : FromStored calendar now db (openWindow calendar now opened sub).2 := by
    obtain ⟨stored, known, prepares⟩ := from_
    exact ⟨stored, by rw [show (openWindow calendar now opened sub).2.id = sub.id from
      reset_id calendar sub now]; exact known, prepares.tail (.reset sub)⟩
  refine ⟨?_, next⟩
  unfold openWindow
  dsimp only
  split
  · exact prepared_save ready next
  · exact ready

theorem prepared_bind (ready : Prepared calendar now db opened) (from_ : FromStored calendar now db sub) :
    Prepared calendar now db (tryBackfillUserSubscriptionChannelBinding request now opened sub).1 ∧
      FromStored calendar now db (tryBackfillUserSubscriptionChannelBinding request now opened sub).2 := by
  unfold tryBackfillUserSubscriptionChannelBinding
  split
  · exact ⟨ready, from_⟩
  · split
    · exact ⟨ready, from_⟩
    · obtain ⟨stored, known, prepares⟩ := from_
      refine ⟨⟨?_, ready.users, ?_⟩, stored, known, prepares.tail (.bind sub _ _ sub.updatedAt)⟩
      · rw [← ready.ids]
        exact map_key_update _ _ fun _ => rfl
      intro id stored found
      obtain ⟨row, held, prepares⟩ := ready.rows id stored found
      simp only [Database.subscription] at held ⊢
      rw [lookup_update]
      · by_cases mine : id = sub.id
        · rw [if_pos mine, held]
          exact ⟨_, rfl, prepares.tail (.bind row _ _ now)⟩
        · rw [if_neg mine]
          exact ⟨row, held, prepares⟩
      · exact fun _ => rfl

theorem prepare_rule (calendar : Calendar) (request : PreConsumeRequest) (now : Int) (db : Database) :
    RoundRule calendar request now (Prepared calendar now db) (FromStored calendar now db) :=
  ⟨fun _ _ => prepared_open_window, fun _ _ => prepared_bind⟩

theorem held_from_stored (calendar : Calendar) (request : PreConsumeRequest) (now : Int)
    (unique : (db.subscriptions.map UserSubscription.id).Nodup) :
    (∀ sub ∈ (readRows request now db).subs, FromStored calendar now db sub) ∧
      ∀ sub ∈ (readRows request now db).preferred, FromStored calendar now db sub := by
  have stored : ∀ sub ∈ db.subscriptions, FromStored calendar now db sub :=
    fun sub member => ⟨sub, lookup_of_mem unique member, .refl⟩
  exact read_rows_stored stored

/-! ## The charge -/

def chargedRow (request : PreConsumeRequest) (sub : UserSubscription) (now : Int) :
    UserSubscription :=
  let need := isUserSubscriptionEligibleForPreConsume sub request.amount
  (addPreConsumed sub need.requiredAmount need.requiredCount).touch now

def chargeRecord (request : PreConsumeRequest) (sub : UserSubscription) (now : Int) :
    SubscriptionPreConsumeRecord :=
  acceptedRecord request sub (isUserSubscriptionEligibleForPreConsume sub request.amount) now

structure ChargedTo (calendar : Calendar) (request : PreConsumeRequest) (now : Int)
    (db opened : Database) (sub : UserSubscription) (after : Database × PreConsumeResult) :
    Prop where
  given : trimSpace request.requestId ≠ ""
  positive : 0 < request.amount
  fresh : db.record request.requestId = none
  prepared : Prepared calendar now db opened
  records : opened.records = db.records
  from_ : FromStored calendar now db sub
  eligible : (isUserSubscriptionEligibleForPreConsume sub request.amount).eligible = true
  tables : after.1 = acceptRequest request sub now opened
  answer : after.2 = acceptedResult request sub now

theorem request_charges_opened {chosen : UserSubscription → Prop}
    (rule : OpeningRule calendar request now (Prepared calendar now db) (FromStored calendar now db)
      fun sub => FromStored calendar now db sub ∧ chosen sub)
    (unique : (db.subscriptions.map UserSubscription.id).Nodup)
    (fresh : db.record request.requestId = none)
    (accepted : preConsumeUserSubscriptionWithPreference calendar request now db = .ok result) :
    ∃ opened sub, ChargedTo calendar request now db opened sub result ∧ chosen sub := by
  unfold preConsumeUserSubscriptionWithPreference at accepted
  split at accepted
  · cases accepted
  · split at accepted
    · cases accepted
    · rename_i given
      split at accepted
      · cases accepted
      · rename_i positive
        obtain ⟨subs, preferred⟩ := held_from_stored calendar request now unique
        rcases pre_consume_opened rule (prepared_refl calendar now db) subs preferred accepted with
          ⟨known, -⟩ | ⟨-, opened, sub, ⟨prepared, records⟩, ⟨from_, holds⟩, eligible, tables, answer⟩
        · exact absurd fresh known
        · exact ⟨opened, sub, ⟨given, by omega, fresh, prepared, records, from_, eligible, tables,
            answer⟩, holds⟩

theorem request_charges
    (unique : (db.subscriptions.map UserSubscription.id).Nodup)
    (fresh : db.record request.requestId = none)
    (accepted : preConsumeUserSubscriptionWithPreference calendar request now db = .ok result) :
    ∃ opened sub, ChargedTo calendar request now db opened sub result := by
  have prepare := prepare_rule calendar request now db
  have rule : OpeningRule calendar request now (Prepared calendar now db) (FromStored calendar now db)
      fun sub => FromStored calendar now db sub ∧ True := by
    constructor
    · intro db sub ready from_
      have step := prepare.opens db sub ready from_
      exact ⟨step.1, step.2, trivial⟩
    · exact prepare.binds
    · intro db sub ready from_
      have step := prepare.binds db sub ready from_.1
      exact ⟨step.1, step.2, trivial⟩
  obtain ⟨opened, sub, charged, -⟩ := request_charges_opened rule unique fresh accepted
  exact ⟨opened, sub, charged⟩

section Charged

theorem charged_id (request : PreConsumeRequest) (sub : UserSubscription) (now : Int) :
    (chargedRow request sub now).id = sub.id := rfl

theorem charged_rows (charged : ChargedTo calendar request now db opened sub result) (id : Int) :
    result.1.subscription id =
      if id = sub.id then some (chargedRow request sub now) else opened.subscription id := by
  rw [charged.tables]
  obtain ⟨stored, known, -⟩ := charged.from_
  obtain ⟨row, held, -⟩ := charged.prepared.rows sub.id stored known
  have saved : (acceptRequest request sub now opened).subscription id =
      if id = sub.id then (opened.subscription id).map fun _ => chargedRow request sub now
      else opened.subscription id := lookup_save opened.subscriptions _ id
  rw [saved]
  by_cases mine : id = sub.id
  · simp [mine, held]
  · simp [mine]

theorem charged_record (charged : ChargedTo calendar request now db opened sub result) :
    result.1.record request.requestId = some (chargeRecord request sub now) := by
  have unknown : lookup SubscriptionPreConsumeRecord.requestId opened.records request.requestId =
      none := by
    rw [charged.records]
    exact charged.fresh
  rw [charged.tables]
  simp only [acceptRequest, Database.record, lookup_append_one, unknown, Option.none_or]
  exact if_pos rfl

theorem charged_users (charged : ChargedTo calendar request now db opened sub result) :
    result.1.users = db.users := by
  rw [charged.tables]
  exact charged.prepared.users

end Charged

/-! ## The refund -/

def refundedTables (record : SubscriptionPreConsumeRecord) (row : UserSubscription) (now : Int)
    (db : Database) : Database :=
  if record.preConsumedAmount ≤ 0 ∧ record.preConsumedCount ≤ 0 then
    db.saveRecord { record with status := .refunded, updatedAt := now }
  else (db.saveSubscription ((settledRow row (-record.preConsumedAmount)
    (-record.preConsumedCount)).touch now)).saveRecord { record with status := .refunded, updatedAt := now }

theorem refund_ok
    (given : trimSpace record.requestId ≠ "") (found : db.record record.requestId = some record)
    (consumed : record.status = .consumed) (charged : Charged record)
    (held : db.subscription record.userSubscriptionId = some row) (positive : 0 < row.id)
    (fits : SettlementFits row (-record.preConsumedAmount) (-record.preConsumedCount)) :
    refundSubscriptionPreConsume record.requestId now db = .ok (refundedTables record row now db) := by
  have pending : ¬ record.status = .refunded := by simp [consumed]
  have key : row.id = record.userSubscriptionId := lookup_key held
  simp only [refundSubscriptionPreConsume, given, found, pending, held, if_false,
    charged_sums charged row, refundedTables]
  split
  · rfl
  · rename_i sums
    have amountUp := charged.amount
    have countUp := charged.count
    have moved : ¬ (-record.preConsumedAmount = 0 ∧ -record.preConsumedCount = 0) := by omega
    have known : ¬ record.userSubscriptionId ≤ 0 := by omega
    have current : leftWindow row 0 0 = false := by simp [leftWindow]
    have settled : settleRow row _ _ = .ok _ := settle_row_ok_iff.mpr ⟨rfl, fits⟩
    simp only [postConsumeUserSubscriptionUsage, postConsumeUserSubscriptionDeltaForWindow, known,
      moved, held, current, settled, Except.map, if_false, Bool.false_eq_true]

theorem refund_again
    (given : trimSpace record.requestId ≠ "") (found : db.record record.requestId = some record)
    (refunded : record.status = .refunded) :
    refundSubscriptionPreConsume record.requestId now db = .ok db := by
  simp only [refundSubscriptionPreConsume, given, found, refunded, if_false, if_true]

theorem refunded_record
    (found : db.record record.requestId = some record) :
    (refundedTables record row now db).record record.requestId =
      some { record with status := .refunded, updatedAt := now } := by
  have saved : ∀ tables : Database, tables.records = db.records →
      (tables.saveRecord { record with status := .refunded, updatedAt := now }).record
        record.requestId = some { record with status := .refunded, updatedAt := now } := by
    intro tables same
    simp only [Database.record, Database.saveRecord, lookup_save, same, if_true]
    exact (congrArg (Option.map _) found).trans rfl
  unfold refundedTables
  split
  · exact saved _ rfl
  · exact saved _ rfl

theorem refunded_users (record : SubscriptionPreConsumeRecord) (row : UserSubscription) (now : Int)
    (db : Database) : (refundedTables record row now db).users = db.users := by
  unfold refundedTables
  split <;> rfl

theorem added_usage (sub : UserSubscription) (amountUp : 0 ≤ amount) (countUp : 0 ≤ count) :
    (addPreConsumed sub amount count).amountUsed = sub.amountUsed + amount ∧
      (addPreConsumed sub amount count).requestCountUsed =
        sub.requestCountUsed + (if countsLifetime sub then count else 0) ∧
      (addPreConsumed sub amount count).requestCountPeriodUsed =
        sub.requestCountPeriodUsed + (if hasSeparatePeriodRequestCounter sub then count else 0) := by
  simp only [addPreConsumed, UserSubscription.setUsage_amountUsed,
    UserSubscription.setUsage_requestCountUsed, UserSubscription.setUsage_requestCountPeriodUsed]
  refine ⟨?_, ?_, ?_⟩
  · split <;> omega
  · by_cases counts : countsLifetime sub = true <;> simp only [counts] <;> grind
  · by_cases separate : hasSeparatePeriodRequestCounter sub = true <;> simp only [separate] <;> grind

theorem added_given_back (counted : Counted sub) (amountUp : 0 ≤ amount)
    (countUp : 0 ≤ count) (restores : count = 0 ∨ ¬ Stray sub) :
    SameUsage sub (settledRow ((addPreConsumed sub amount count).touch now) (-amount) (-count)) := by
  obtain ⟨-, amountUsed, countUsed, periodUsed⟩ := counted
  obtain ⟨amountAdded, countAdded, periodAdded⟩ := added_usage sub amountUp countUp
  have counts : countsLifetime ((addPreConsumed sub amount count).touch now) = countsLifetime sub :=
    rfl
  have separate : hasSeparatePeriodRequestCounter ((addPreConsumed sub amount count).touch now) =
      hasSeparatePeriodRequestCounter sub := rfl
  simp only [settledRow, counts, separate, UserSubscription.touch_amountUsed,
    UserSubscription.touch_requestCountUsed, UserSubscription.touch_requestCountPeriodUsed,
    amountAdded, countAdded, periodAdded, applyDelta]
  constructor
  case amount =>
    simp only [UserSubscription.setUsage_amountUsed]
    split <;> omega
  case count =>
    simp only [UserSubscription.setUsage_requestCountUsed]
    by_cases lifetime : countsLifetime sub = true
    · simp only [lifetime, and_true, if_true]
      split <;> omega
    · simp [lifetime]
  case period =>
    simp only [UserSubscription.setUsage_requestCountPeriodUsed]
    by_cases own : hasSeparatePeriodRequestCounter sub = true
    · simp only [own, true_or, and_true, if_true]
      split <;> omega
    · have shared : hasSeparatePeriodRequestCounter sub = false := by simpa using own
      rcases restores with none_ | none_
      · simp [none_]
      · have none_counted : ¬ 0 < sub.requestCountPeriodUsed := fun some_ => none_ ⟨shared, some_⟩
        simp [shared, none_counted]

theorem charge_given_back (now : Int) (counted : Counted sub)
    (eligible : (isUserSubscriptionEligibleForPreConsume sub request.amount).eligible = true)
    (positive : 0 < request.amount)
    (restores : (chargeRecord request sub now).preConsumedCount = 0 ∨ ¬ Stray sub) :
    let record := chargeRecord request sub now
    SettlementFits (chargedRow request sub now) (-record.preConsumedAmount)
        (-record.preConsumedCount) ∧
      SameUsage sub (settledRow (chargedRow request sub now) (-record.preConsumedAmount)
        (-record.preConsumedCount)) := by
  obtain ⟨shape, amountRoom, lifetimeRoom, periodRoom⟩ := eligible_room eligible
  have charged : Charged (chargeRecord request sub now) := accepted_charged positive sub now
  have taken : SameUsage sub (settledRow (chargedRow request sub now)
      (-(chargeRecord request sub now).preConsumedAmount)
      (-(chargeRecord request sub now).preConsumedCount)) :=
    added_given_back counted charged.amount charged.count restores
  refine ⟨⟨fun moved limited => ?_, fun moved active limited => ?_, fun moved capped => ?_⟩, taken⟩
  · have counts : countsLifetime (chargedRow request sub now) = true := by
      simp [countsLifetime, limited]
    have room : sub.requestCountUsed < sub.requestCountTotal := lifetimeRoom limited
    have back := taken.count
    simp only [settledRow, counts, moved, UserSubscription.setUsage_requestCountUsed, ne_eq,
      not_false_eq_true, and_self, if_true] at back
    exact back.le.trans room.le
  · have back := taken.period
    have room : getCurrentRequestCountUsed sub < getSubscriptionRequestCountPeriodLimit sub :=
      periodRoom limited
    by_cases separate : hasSeparatePeriodRequestCounter sub = true
    · simp only [settledRow, active, moved, UserSubscription.setUsage_requestCountPeriodUsed, ne_eq,
        not_false_eq_true, and_self, if_true] at back
      simp only [getCurrentRequestCountUsed, separate, if_true] at room
      exact back.le.trans room.le
    · have shared : hasSeparatePeriodRequestCounter sub = false := by simpa using separate
      have none_ := restores.resolve_left (by omega)
      rcases active with own | used
      · exact absurd own separate
      · have same : (chargedRow request sub now).requestCountPeriodUsed = sub.requestCountPeriodUsed := by
          simp [chargedRow, addPreConsumed, shared]
        exact absurd ⟨shared, same ▸ used⟩ none_
  · have room : sub.amountUsed + request.amount ≤ sub.amountTotal := amountRoom capped
    have back := taken.amount
    simp only [settledRow, moved, UserSubscription.setUsage_amountUsed, ne_eq, not_false_eq_true,
      if_true] at back
    have same : (chargedRow request sub now).amountTotal = sub.amountTotal := rfl
    exact back.le.trans (by omega)

theorem charged_usage (sub : UserSubscription) (now : Int) (positive : 0 < request.amount) :
    (chargedRow request sub now).amountUsed =
        sub.amountUsed + (chargeRecord request sub now).preConsumedAmount ∧
      (chargedRow request sub now).requestCountUsed = sub.requestCountUsed +
        (if countsLifetime sub then (chargeRecord request sub now).preConsumedCount else 0) ∧
      (chargedRow request sub now).requestCountPeriodUsed = sub.requestCountPeriodUsed +
        (if hasSeparatePeriodRequestCounter sub then (chargeRecord request sub now).preConsumedCount
          else 0) :=
  have sums : Charged (chargeRecord request sub now) := accepted_charged positive sub now
  added_usage sub sums.amount sums.count

theorem empty_charge_kept (positive : 0 < request.amount)
    (amount : (chargeRecord request sub now).preConsumedAmount ≤ 0)
    (count : (chargeRecord request sub now).preConsumedCount ≤ 0) :
    SameUsage sub (chargedRow request sub now) := by
  have sums : Charged (chargeRecord request sub now) := accepted_charged positive sub now
  obtain ⟨usedAmount, usedCount, usedPeriod⟩ := charged_usage sub now positive
  rw [le_antisymm amount sums.amount] at usedAmount
  rw [le_antisymm count sums.count, ite_self] at usedCount usedPeriod
  exact ⟨by omega, by omega, by omega⟩

theorem refunded_rows (record : SubscriptionPreConsumeRecord) (now : Int)
    (held : db.subscription row.id = some row) (id : Int) :
    (refundedTables record row now db).subscription id =
      if id = row.id then
        some (if record.preConsumedAmount ≤ 0 ∧ record.preConsumedCount ≤ 0 then row
          else (settledRow row (-record.preConsumedAmount) (-record.preConsumedCount)).touch now)
      else db.subscription id := by
  unfold refundedTables
  by_cases empty : record.preConsumedAmount ≤ 0 ∧ record.preConsumedCount ≤ 0
  · simp only [empty, and_self, if_true]
    by_cases mine : id = row.id
    · rw [if_pos mine, mine]
      exact held
    · rw [if_neg mine]
      rfl
  · simp only [if_neg empty]
    have saved : ((db.saveSubscription ((settledRow row (-record.preConsumedAmount)
        (-record.preConsumedCount)).touch now)).saveRecord
          { record with status := .refunded, updatedAt := now }).subscription id =
        if id = row.id then (db.subscription id).map fun _ =>
          (settledRow row (-record.preConsumedAmount) (-record.preConsumedCount)).touch now
        else db.subscription id := lookup_save db.subscriptions _ id
    rw [saved]
    by_cases mine : id = row.id
    · simp [mine, held]
    · simp [mine]

structure GivenBack (request : PreConsumeRequest) (sub : UserSubscription) (charged : Database)
    (final : Database) : Prop where
  users : final.users = charged.users
  row : ∃ row, final.subscription sub.id = some row ∧ SameUsage sub row ∧
    row.amountTotal = sub.amountTotal ∧ row.lastResetTime = sub.lastResetTime
  others : ∀ id, id ≠ sub.id → final.subscription id = charged.subscription id
  record : ∃ record, final.record request.requestId = some record ∧ record.status = .refunded ∧
    record.requestId = request.requestId

theorem charge_refunded (later : Int)
    (charged : ChargedTo calendar request now db opened sub result) (counted : Counted sub)
    (restores : (chargeRecord request sub now).preConsumedCount = 0 ∨ ¬ Stray sub) :
    ∃ final, refundSubscriptionPreConsume request.requestId later result.1 = .ok final ∧
      GivenBack request sub result.1 final := by
  obtain ⟨fits, taken⟩ := charge_given_back now counted charged.eligible charged.positive restores
  have sums : Charged (chargeRecord request sub now) := accepted_charged charged.positive sub now
  have found := charged_record charged
  have held : result.1.subscription (chargedRow request sub now).id =
      some (chargedRow request sub now) := by
    rw [charged_rows charged, charged_id, if_pos rfl]
  have ok : refundSubscriptionPreConsume (chargeRecord request sub now).requestId later result.1 =
      .ok (refundedTables (chargeRecord request sub now) (chargedRow request sub now) later result.1) := by
    apply refund_ok
    case given => exact charged.given
    case found => exact found
    case consumed => rfl
    case charged => exact sums
    case held => exact held
    case positive => exact counted.id
    case fits => exact fits
  refine ⟨_, ok, refunded_users .., ?_, ?_, ?_⟩
  · refine ⟨_, by rw [refunded_rows _ _ held, charged_id, if_pos rfl], ?_⟩
    split
    · rename_i empty
      have amount : (chargeRecord request sub now).preConsumedAmount = 0 := by
        have := sums.amount
        omega
      have count : (chargeRecord request sub now).preConsumedCount = 0 := by
        have := sums.count
        omega
      refine ⟨?_, rfl, rfl⟩
      simpa [settledRow, amount, count] using taken
    · exact ⟨⟨taken.amount, taken.count, taken.period⟩, rfl, rfl⟩
  · intro id other
    rw [refunded_rows _ _ held, charged_id, if_neg other]
  · exact ⟨_, refunded_record found, rfl, rfl⟩

end NewApi.RequestCharge
