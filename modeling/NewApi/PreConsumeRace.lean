import NewApi.SubscriptionBounds

/-! Pre-consumes of different requests at the same time. Each transaction reads
the rows of its user, charges one of them in memory and saves the whole row.
The charges of a subscription add up, within its limits, exactly when every
charge is computed from counters that are still the stored ones. The read takes
no lock, so nothing ensures that; with the row lock every run would. -/
namespace NewApi.PreConsumeRace
open NewApi.GuardedRun NewApi.KeyedTable
open NewApi.GoText (trimSpace)
open NewApi.ReadCommitted (Transaction ReadLock alone idle)
open NewApi.ResetWindow NewApi.Subscription
open NewApi.SubscriptionStore hiding step Event
open NewApi.SubscriptionBounds

/-! ## The transactions -/

structure Call where
  request : PreConsumeRequest
  now : Int

/-- `model/subscription.go::preConsumeUserSubscriptionWithPreference` as a
transaction that reads its rows, and writes later. -/
def preConsumeTransaction (calendar : Calendar) (call : Call) : Transaction Database HeldRows where
  read := readRows call.request call.now
  write held db :=
    if call.request.userId ≤ 0 ∨ trimSpace call.request.requestId = "" ∨ call.request.amount ≤ 0
    then none
    else (preConsumeFrom calendar call.request call.now held db).toOption.map Prod.fst

variable {Id : Type*} {calendar : Calendar} {calls : Id → Call}

def heldCopies (held : HeldRows) : List UserSubscription := held.subs ++ held.preferred.toList

theorem held_copies_stored
    (member : copy ∈ heldCopies (readRows request now db)) :
    copy ∈ db.subscriptions := by
  have stored : ∀ sub ∈ db.subscriptions, sub ∈ db.subscriptions := fun _ member => member
  obtain ⟨listed, preferred⟩ := @read_rows_stored request now db _ stored
  rcases List.mem_append.mp member with among | chosen
  · exact listed copy among
  · exact preferred copy (Option.mem_toList.mp chosen)

/-! ## What a transaction leaves of one subscription -/

def Rebound (before after : UserSubscription) : Prop :=
  ∃ channelId keyIndex updatedAt, after = { before with
    specificChannelId := channelId
    specificChannelKeyIndex := keyIndex
    updatedAt := updatedAt }

theorem rebound_refl (sub : UserSubscription) : Rebound sub sub := ⟨_, _, _, rfl⟩

theorem rebound_trans {first : UserSubscription} (one : Rebound first second)
    (two : Rebound second third) : Rebound first third := by
  obtain ⟨_, _, _, rfl⟩ := one
  obtain ⟨channelId, keyIndex, updatedAt, rfl⟩ := two
  exact ⟨channelId, keyIndex, updatedAt, rfl⟩

structure Prepared (target : Int) (before after : Database) : Prop where
  row : ∀ stored, before.subscription target = some stored →
    ∃ rebound, after.subscription target = some rebound ∧ Rebound stored rebound
  ids : after.subscriptions.map UserSubscription.id = before.subscriptions.map UserSubscription.id
  users : after.users = before.users

theorem prepared_refl (target : Int) (db : Database) : Prepared target db db :=
  ⟨fun stored found => ⟨stored, found, rebound_refl stored⟩, rfl, rfl⟩

theorem prepared_trans {first : Database}
    (one : Prepared target first second) (two : Prepared target second third) :
    Prepared target first third := by
  refine ⟨fun stored found => ?_, two.ids.trans one.ids, two.users.trans one.users⟩
  obtain ⟨middle, found, bound⟩ := one.row stored found
  obtain ⟨last, found, again⟩ := two.row middle found
  exact ⟨last, found, rebound_trans bound again⟩

theorem prepared_bind (request : PreConsumeRequest) (now target : Int) (db : Database)
    (sub : UserSubscription) :
    Prepared target db (tryBackfillUserSubscriptionChannelBinding request now db sub).1 ∧
      Rebound sub (tryBackfillUserSubscriptionChannelBinding request now db sub).2 := by
  unfold tryBackfillUserSubscriptionChannelBinding
  split
  · exact ⟨prepared_refl target db, rebound_refl sub⟩
  · split
    · exact ⟨prepared_refl target db, rebound_refl sub⟩
    · rename_i channelId keyIndex _
      refine ⟨⟨fun stored found => ?_, map_key_update _ _ fun _ => rfl, rfl⟩,
        channelId, keyIndex, sub.updatedAt, rfl⟩
      have held : lookup UserSubscription.id db.subscriptions target = some stored := found
      by_cases mine : target = sub.id
      · refine ⟨_, ?_, channelId, keyIndex, now, rfl⟩
        simp only [Database.subscription]
        rw [lookup_update]
        · rw [if_pos mine, held]
          rfl
        · exact fun _ => rfl
      · refine ⟨stored, ?_, rebound_refl stored⟩
        simp only [Database.subscription]
        rw [lookup_update]
        · rw [if_neg mine]
          exact held
        · exact fun _ => rfl

theorem prepared_open_window (calendar : Calendar)
    (db : Database) (inWindow : sub.id = target → WindowOpen sub now) :
    Prepared target db (openWindow calendar now db sub).1 ∧
      (openWindow calendar now db sub).2.id = sub.id ∧
      (sub.id = target → (openWindow calendar now db sub).2 = sub) := by
  have same : (openWindow calendar now db sub).2.id = sub.id := reset_id calendar sub now
  by_cases mine : sub.id = target
  · have unmoved := reset_window_open calendar (inWindow mine)
    simp only [openWindow, unmoved, Bool.false_eq_true, if_false]
    exact ⟨prepared_refl target db, trivial, fun _ => trivial⟩
  · refine ⟨?_, same, fun hit => absurd hit mine⟩
    unfold openWindow
    dsimp only
    split
    · refine ⟨fun stored found => ⟨stored, ?_, rebound_refl stored⟩, map_key_save .., rfl⟩
      have other : target ≠ (maybeResetUserSubscriptionWithPlan calendar sub now).sub.id := by
        rw [reset_id]
        exact Ne.symm mine
      exact (lookup_save_ne other).trans found
    · exact prepared_refl target db

def FromCopy (target : Int) (held : HeldRows) (sub : UserSubscription) : Prop :=
  ∃ copy ∈ heldCopies held, copy.id = sub.id ∧ (sub.id = target → Rebound copy sub)

theorem window_open_rebound (bound : Rebound copy sub)
    (inWindow : WindowOpen copy now) : WindowOpen sub now := by
  obtain ⟨_, _, _, rfl⟩ := bound
  exact inWindow

theorem target_round_rule
    (inWindow : ∀ copy ∈ heldCopies held, copy.id = target → WindowOpen copy now) (db : Database) :
    RoundRule calendar request now (Prepared target db) (FromCopy target held) where
  opens reached sub ready := by
    rintro ⟨copy, member, same, bound⟩
    obtain ⟨prepared, kept, unmoved⟩ :=
      prepared_open_window calendar reached fun mine =>
        window_open_rebound (bound mine) (inWindow copy member (same.trans mine))
    refine ⟨prepared_trans ready prepared, copy, member, same.trans kept.symm, fun mine => ?_⟩
    rw [unmoved (kept ▸ mine)]
    exact bound (kept ▸ mine)
  binds reached sub ready := by
    rintro ⟨copy, member, same, bound⟩
    obtain ⟨prepared, again⟩ := prepared_bind request now target reached sub
    have kept : (tryBackfillUserSubscriptionChannelBinding request now reached sub).2.id =
        sub.id := by
      obtain ⟨_, _, _, shape⟩ := again
      rw [shape]
    refine ⟨prepared_trans ready prepared, copy, member, same.trans kept.symm, fun mine => ?_⟩
    exact rebound_trans (bound (kept ▸ mine)) again

theorem accept_subscription (request : PreConsumeRequest) (sub : UserSubscription) (now : Int)
    (db : Database) (id : Int) :
    let need := isUserSubscriptionEligibleForPreConsume sub request.amount
    (acceptRequest request sub now db).subscription id =
      if id = sub.id then (db.subscription id).map fun _ =>
        (addPreConsumed sub need.requiredAmount need.requiredCount).touch now
      else db.subscription id :=
  lookup_save db.subscriptions _ id

def Charges (target : Int) (before after : Database) : Prop :=
  ∃ record, after.records = before.records ++ [record] ∧ record.userSubscriptionId = target

theorem write_cases
    (found : db.subscription target = some stored)
    (inWindow : ∀ copy ∈ heldCopies held, copy.id = target → WindowOpen copy call.now)
    (written : (preConsumeTransaction calendar call).write held db = some after) :
    after.subscriptions.map UserSubscription.id = db.subscriptions.map UserSubscription.id ∧
      ((¬ Charges target db after ∧
          (∃ other, (∀ record ∈ other, record.userSubscriptionId ≠ target) ∧
            after.records = db.records ++ other) ∧
          ∃ rebound, after.subscription target = some rebound ∧ Rebound stored rebound) ∨
        ∃ copy sub, copy ∈ heldCopies held ∧ copy.id = target ∧ Rebound copy sub ∧
          0 < call.request.amount ∧
          (isUserSubscriptionEligibleForPreConsume sub call.request.amount).eligible = true ∧
          after.subscription target = some ((addPreConsumed sub
            (isUserSubscriptionEligibleForPreConsume sub call.request.amount).requiredAmount
            (isUserSubscriptionEligibleForPreConsume sub call.request.amount).requiredCount).touch
              call.now) ∧
          after.records = db.records ++ [acceptedRecord call.request sub
            (isUserSubscriptionEligibleForPreConsume sub call.request.amount) call.now]) := by
  simp only [preConsumeTransaction] at written
  split at written
  · cases written
  · rename_i valid
    have positive : 0 < call.request.amount := by
      by_contra refused
      exact valid (.inr (.inr (not_lt.mp refused)))
    cases outcome : preConsumeFrom calendar call.request call.now held db with
    | error error => simp [outcome, Except.toOption] at written
    | ok result =>
      simp only [outcome, Except.toOption, Option.map_some, Option.some.injEq] at written
      subst written
      have copies : ∀ sub ∈ heldCopies held, FromCopy target held sub :=
        fun sub member => ⟨sub, member, rfl, fun _ => rebound_refl sub⟩
      rcases pre_consume_cases (target_round_rule inWindow db) (prepared_refl target db)
        (fun sub member => copies sub (List.mem_append_left _ member))
        (fun sub member => copies sub (List.mem_append_right _ (Option.mem_toList.mpr member)))
        outcome with ⟨-, same⟩ | ⟨-, opened, sub, ⟨prepared, records⟩, from_, eligible, shape, -⟩
      · rw [same]
        refine ⟨rfl, .inl ⟨?_, ⟨[], by simp, by simp⟩, stored, found, rebound_refl stored⟩⟩
        rintro ⟨record, grown, -⟩
        simp at grown
      · obtain ⟨copy, member, key, bound⟩ := from_
        obtain ⟨rebound, row, rebinds⟩ := prepared.row stored found
        have grown : result.1.records = db.records ++ [acceptedRecord call.request sub
            (isUserSubscriptionEligibleForPreConsume sub call.request.amount) call.now] := by
          rw [shape, acceptRequest, records]
        refine ⟨?_, ?_⟩
        · rw [shape]
          exact (map_key_save ..).trans prepared.ids
        by_cases mine : sub.id = target
        · refine .inr ⟨copy, sub, member, key.trans mine, bound mine, positive, eligible, ?_, grown⟩
          rw [shape, accept_subscription, if_pos mine.symm, row]
          rfl
        · refine .inl ⟨?_, ⟨_, ?_, grown⟩, rebound, ?_, rebinds⟩
          · rintro ⟨record, again, charged⟩
            rw [grown] at again
            have same := List.cons.inj (List.append_cancel_left again)
            rw [← same.1] at charged
            exact mine charged
          · intro record inside
            rw [List.mem_singleton.mp inside]
            exact mine
          · rw [shape, accept_subscription, if_neg (Ne.symm mine)]
            exact row

/-! ## Adding up -/

def chargedSum (part : SubscriptionPreConsumeRecord → Int)
    (records : List SubscriptionPreConsumeRecord) (id : Int) : Int :=
  ((records.filter fun record => record.userSubscriptionId = id).map part).sum

theorem charged_sum_other {part : SubscriptionPreConsumeRecord → Int} {id : Int}
    (records : List SubscriptionPreConsumeRecord)
    (elsewhere : ∀ record ∈ other, record.userSubscriptionId ≠ id) :
    chargedSum part (records ++ other) id = chargedSum part records id := by
  have none_here : other.filter (fun record => record.userSubscriptionId = id) = [] :=
    List.filter_eq_nil_iff.mpr fun record inside => by simpa using elsewhere record inside
  simp [chargedSum, List.filter_append, none_here]

theorem charged_sum_here {part : SubscriptionPreConsumeRecord → Int} {id : Int}
    (records : List SubscriptionPreConsumeRecord)
    (here : record.userSubscriptionId = id) :
    chargedSum part (records ++ [record]) id = chargedSum part records id + part record := by
  simp [chargedSum, List.filter_append, here]

structure AddsUp (start : Database) (row : UserSubscription) (db : Database)
    (stored : UserSubscription) : Prop where
  amount : stored.amountUsed = row.amountUsed +
    (chargedSum (·.preConsumedAmount) db.records row.id -
      chargedSum (·.preConsumedAmount) start.records row.id)
  count : stored.requestCountUsed = row.requestCountUsed + (if countsLifetime row then
    chargedSum (·.preConsumedCount) db.records row.id -
      chargedSum (·.preConsumedCount) start.records row.id else 0)
  period : stored.requestCountPeriodUsed = row.requestCountPeriodUsed +
    (if hasSeparatePeriodRequestCounter row then
      chargedSum (·.preConsumedCount) db.records row.id -
        chargedSum (·.preConsumedCount) start.records row.id else 0)

def BooksKept (start : Database) (row : UserSubscription) (db : Database) : Prop :=
  ∃ stored, db.subscription row.id = some stored ∧ AddsUp start row db stored ∧ WithinLimits stored

def SameTerms (row sub : UserSubscription) : Prop :=
  ∃ amount count period, Rebound (row.setUsage amount count period) sub

def SameUsage (first second : UserSubscription) : Prop :=
  first.amountUsed = second.amountUsed ∧ first.requestCountUsed = second.requestCountUsed ∧
    first.requestCountPeriodUsed = second.requestCountPeriodUsed

instance (first second : UserSubscription) : Decidable (SameUsage first second) :=
  inferInstanceAs (Decidable (_ ∧ _))

theorem same_terms_rebound (same : SameTerms row sub)
    (bound : Rebound sub rebound) : SameTerms row rebound := by
  obtain ⟨amount, count, period, shape⟩ := same
  exact ⟨amount, count, period, rebound_trans shape bound⟩

theorem rebound_usage (bound : Rebound sub rebound) :
    SameUsage rebound sub := by
  obtain ⟨_, _, _, rfl⟩ := bound
  exact ⟨rfl, rfl, rfl⟩

theorem within_same_usage {first : UserSubscription} (one : SameTerms row first)
    (two : SameTerms row second) (usage : SameUsage second first) (within : WithinLimits first) :
    WithinLimits second := by
  obtain ⟨_, _, _, _, _, _, rfl⟩ := one
  obtain ⟨_, _, _, _, _, _, rfl⟩ := two
  obtain ⟨amount, count, period⟩ := usage
  dsimp only [UserSubscription.setUsage] at amount count period
  subst amount count period
  exact ⟨within.amount, within.lifetime, within.period⟩

theorem same_terms_counters (same : SameTerms row sub) :
    sub.id = row.id ∧ countsLifetime sub = countsLifetime row ∧
      hasSeparatePeriodRequestCounter sub = hasSeparatePeriodRequestCounter row := by
  obtain ⟨_, _, _, _, _, _, rfl⟩ := same
  exact ⟨rfl, rfl, rfl⟩

theorem same_terms_window (same : SameTerms row sub)
    (inWindow : WindowOpen row now) : WindowOpen sub now := by
  obtain ⟨_, _, _, _, _, _, rfl⟩ := same
  exact inWindow

theorem charge_adds_up_iff
    (ready : AddsUp start row db stored)
    (terms : SameTerms row sub) (positive : 0 < request.amount)
    (eligible : (isUserSubscriptionEligibleForPreConsume sub request.amount).eligible = true)
    (grown : after.records = db.records ++ [acceptedRecord request sub
      (isUserSubscriptionEligibleForPreConsume sub request.amount) now]) :
    let need := isUserSubscriptionEligibleForPreConsume sub request.amount
    AddsUp start row after ((addPreConsumed sub need.requiredAmount need.requiredCount).touch now) ↔
      SameUsage sub stored := by
  obtain ⟨key, counts, separate⟩ := same_terms_counters terms
  obtain ⟨shape, -⟩ := eligible_room eligible
  obtain ⟨amountBefore, countBefore, periodBefore⟩ := ready
  have amountUp : 0 ≤ (isUserSubscriptionEligibleForPreConsume sub request.amount).requiredAmount := by
    rw [shape]
    dsimp only
    split <;> omega
  have countUp : 0 ≤ (isUserSubscriptionEligibleForPreConsume sub request.amount).requiredCount := by
    rw [shape]
    dsimp only
    split <;> omega
  revert grown amountUp countUp
  generalize isUserSubscriptionEligibleForPreConsume sub request.amount = need
  intro grown amountUp countUp
  have amountSum : chargedSum (·.preConsumedAmount) after.records row.id =
      chargedSum (·.preConsumedAmount) db.records row.id + need.requiredAmount := by
    rw [grown]
    exact charged_sum_here db.records key
  have countSum : chargedSum (·.preConsumedCount) after.records row.id =
      chargedSum (·.preConsumedCount) db.records row.id + need.requiredCount := by
    rw [grown]
    exact charged_sum_here db.records key
  constructor
  · rintro ⟨amount, count, period⟩
    simp only [addPreConsumed, UserSubscription.touch_amountUsed,
      UserSubscription.touch_requestCountUsed, UserSubscription.touch_requestCountPeriodUsed,
      UserSubscription.setUsage_amountUsed, UserSubscription.setUsage_requestCountUsed,
      UserSubscription.setUsage_requestCountPeriodUsed, amountSum, countSum, counts,
      separate] at amount count period
    exact ⟨by grind, by grind, by grind⟩
  · rintro ⟨amount, count, period⟩
    constructor <;>
      simp only [addPreConsumed, UserSubscription.touch_amountUsed,
        UserSubscription.touch_requestCountUsed, UserSubscription.touch_requestCountPeriodUsed,
        UserSubscription.setUsage_amountUsed, UserSubscription.setUsage_requestCountUsed,
        UserSubscription.setUsage_requestCountPeriodUsed, amountSum, countSum, counts, separate] <;>
      grind

/-! ## Every interleaving -/

section Race
variable {start : Database} {row : UserSubscription}

structure InWindow (row : UserSubscription) (db : Database) : Prop where
  unique : (db.subscriptions.map UserSubscription.id).Nodup
  stored : ∃ stored, db.subscription row.id = some stored ∧ SameTerms row stored

def CopiesAgree (row : UserSubscription) (held : HeldRows) : Prop :=
  ∃ seen, SameTerms row seen ∧ ∀ copy ∈ heldCopies held, copy.id = row.id → copy = seen

def ChargesCurrent (target : Int) (held : HeldRows) (db after : Database) : Prop :=
  Charges target db after → ∀ stored, db.subscription target = some stored →
    ∀ copy ∈ heldCopies held, copy.id = target → SameUsage copy stored

theorem same_terms_charged (same : SameTerms row sub)
    (amount count now : Int) : SameTerms row ((addPreConsumed sub amount count).touch now) := by
  obtain ⟨_, _, _, channelId, keyIndex, _, rfl⟩ := same
  exact ⟨_, _, _, channelId, keyIndex, now, rfl⟩

theorem copies_in_window (agree : CopiesAgree row held)
    (inWindow : WindowOpen row now) :
    ∀ copy ∈ heldCopies held, copy.id = row.id → WindowOpen copy now := by
  obtain ⟨seen, terms, same⟩ := agree
  intro copy member key
  rw [same copy member key]
  exact same_terms_window terms inWindow

theorem stored_copy (ready : InWindow row db)
    (found : db.subscription row.id = some stored) (member : copy ∈ db.subscriptions)
    (key : copy.id = row.id) : copy = stored := by
  have listed := lookup_of_mem ready.unique member
  rw [key] at listed
  exact Option.some.inj (listed.symm.trans found)

theorem keeps_window (inWindow : ∀ id, WindowOpen row (calls id).now) :
    ReadCommitted.Keeps (fun id => preConsumeTransaction calendar (calls id)) (InWindow row)
      (CopiesAgree row) where
  reads id db ready := by
    obtain ⟨stored, found, terms⟩ := ready.stored
    exact ⟨stored, terms, fun copy member key =>
      stored_copy ready found (held_copies_stored member) key⟩
  writes id held db after ready agree written := by
    obtain ⟨stored, found, terms⟩ := ready.stored
    obtain ⟨ids, ⟨-, -, rebound, row, binds⟩ | ⟨copy, sub, member, key, bound, -, -, row, -⟩⟩ :=
      write_cases found (copies_in_window agree (inWindow id)) written
    · exact ⟨ids ▸ ready.unique, rebound, row, same_terms_rebound terms binds⟩
    · obtain ⟨seen, seenTerms, same⟩ := agree
      have charged := same_terms_rebound (same copy member key ▸ seenTerms) bound
      exact ⟨ids ▸ ready.unique, _, row, same_terms_charged charged _ _ _⟩

theorem books_kept_iff
    (found : db.subscription row.id = some stored) :
    BooksKept start row db ↔ AddsUp start row db stored ∧ WithinLimits stored := by
  constructor
  · rintro ⟨other, same, adds, within⟩
    rw [found, Option.some.injEq] at same
    rw [same]
    exact ⟨adds, within⟩
  · rintro ⟨adds, within⟩
    exact ⟨stored, found, adds, within⟩

theorem books_kept_uncharged
    (terms : SameTerms row stored)
    (adds : AddsUp start row db stored) (within : WithinLimits stored)
    (elsewhere : ∀ record ∈ other, record.userSubscriptionId ≠ row.id)
    (grown : after.records = db.records ++ other)
    (found : after.subscription row.id = some rebound) (bound : Rebound stored rebound) :
    BooksKept start row after := by
  obtain ⟨amount, count, period⟩ := rebound_usage bound
  have sums : ∀ part : SubscriptionPreConsumeRecord → Int,
      chargedSum part after.records row.id = chargedSum part db.records row.id := by
    intro part
    rw [grown]
    exact charged_sum_other db.records elsewhere
  refine (books_kept_iff found).mpr ⟨⟨?_, ?_, ?_⟩, ?_⟩
  · rw [amount, sums]
    exact adds.amount
  · rw [count, sums]
    exact adds.count
  · rw [period, sums]
    exact adds.period
  · exact within_same_usage terms (same_terms_rebound terms bound) ⟨amount, count, period⟩ within

theorem commit_books_iff
    (inWindow : WindowOpen row call.now) (ready : InWindow row db) (books : BooksKept start row db)
    (agree : CopiesAgree row held)
    (written : (preConsumeTransaction calendar call).write held db = some after) :
    BooksKept start row after ↔ ChargesCurrent row.id held db after := by
  obtain ⟨stored, found, terms⟩ := ready.stored
  obtain ⟨adds, within⟩ := (books_kept_iff found).mp books
  obtain ⟨-, ⟨uncharged, ⟨other, elsewhere, grown⟩, rebound, here, binds⟩ |
      ⟨copy, sub, member, key, bound, positive, eligible, here, grown⟩⟩ :=
    write_cases found (copies_in_window agree inWindow) written
  · exact ⟨fun _ charges => absurd charges uncharged, fun _ =>
      books_kept_uncharged terms adds within elsewhere grown here binds⟩
  · obtain ⟨seen, seenTerms, same⟩ := agree
    have copyTerms : SameTerms row copy := same copy member key ▸ seenTerms
    have subTerms := same_terms_rebound copyTerms bound
    have usage := rebound_usage bound
    have charges : Charges row.id db after := ⟨_, grown, (same_terms_counters subTerms).1⟩
    have added : AddsUp start row after _ ↔ SameUsage sub stored :=
      charge_adds_up_iff adds subTerms positive eligible grown
    rw [books_kept_iff here, added]
    constructor
    · rintro ⟨current, -⟩ - foundStored again other inside key
      rw [found, Option.some.injEq] at again
      rw [← again, same other inside key, ← same copy member ‹_›]
      exact ⟨usage.1.symm.trans current.1, usage.2.1.symm.trans current.2.1,
        usage.2.2.symm.trans current.2.2⟩
    · intro guarded
      have current := guarded charges stored found copy member key
      have sameUsage : SameUsage sub stored := ⟨usage.1.trans current.1,
        usage.2.1.trans current.2.1, usage.2.2.trans current.2.2⟩
      exact ⟨sameUsage, within_pre_consumed positive
        (within_same_usage terms subTerms sameUsage within) eligible⟩

/-- The tables a race starts from hold the subscription, within its limits and
in one window for all calls. -/
structure RaceStart (calls : Id → Call) (start : Database) (row : UserSubscription) : Prop where
  unique : (start.subscriptions.map UserSubscription.id).Nodup
  found : start.subscription row.id = some row
  within : WithinLimits row
  inWindow : ∀ id, WindowOpen row (calls id).now

theorem race_start_ready (begin_ : RaceStart calls start row) :
    InWindow row start ∧ BooksKept start row start := by
  have terms : SameTerms row row := ⟨_, _, _, rebound_refl row⟩
  refine ⟨⟨begin_.unique, row, begin_.found, terms⟩, (books_kept_iff begin_.found).mpr ⟨?_, begin_.within⟩⟩
  constructor <;> simp

variable [DecidableEq Id]

/-- The legacy read takes no lock. In every interleaving of calls, the charges
of a subscription add up, within its limits, after every event, exactly when
every copy that is charged still has the stored counters. -/
theorem charges_add_up_iff_current (begin_ : RaceStart calls start row)
    (events : List (ReadCommitted.Event Id)) :
    (∀ done, done <+: events → BooksKept start row
        (run (ReadCommitted.step (fun id => preConsumeTransaction calendar (calls id)) queryOption)
          (idle start) done).shared) ↔
      Guarded (ReadCommitted.step (fun id => preConsumeTransaction calendar (calls id)) queryOption)
        (ReadCommitted.Commits (fun id => preConsumeTransaction calendar (calls id))
          (ChargesCurrent row.id)) (idle start) events := by
  obtain ⟨ready, books⟩ := race_start_ready begin_
  exact ReadCommitted.always_safe_iff_commits queryOption (keeps_window begin_.inWindow)
    (fun id held db after ready books agree written =>
      commit_books_iff (begin_.inWindow id) ready books agree written) ready books events

end Race

def lastQuota : UserSubscription where
  id := 1
  userId := 7
  planId := 1
  amountTotal := 15
  startTime := 1000
  endTime := 100000

def lastQuotaShop : Database where
  users := [{ id := 7 }]
  plans := [{ id := 1 }]
  subscriptions := [lastQuota]
  nextSubscriptionId := 2

def twoRequests (second : Bool) : Call where
  request :=
    { requestId := if second then "second" else "first", userId := 7
      amount := if second then 10 else 5 }
  now := 2000

theorem last_quota_start : RaceStart twoRequests lastQuotaShop lastQuota :=
  ⟨by decide, rfl, ⟨by decide, by decide, by decide⟩, fun _ => .inl rfl⟩

def readsFirst : List (ReadCommitted.Event Bool) :=
  [.read false, .read true, .finish false, .finish true]

/-- The charge of the first of two requests is lost. -/
theorem stale_charge_lost :
    ¬ ∀ (calendar : Calendar) (calls : Bool → Call) (start : Database) (row : UserSubscription)
      (events : List (ReadCommitted.Event Bool)),
      (calls false).request.requestId ≠ (calls true).request.requestId →
      RaceStart calls start row →
      BooksKept start row (run (ReadCommitted.step
        (fun id => preConsumeTransaction calendar (calls id)) queryOption) (idle start) events).shared := by
  intro always
  obtain ⟨stored, found, adds, -⟩ :=
    always dayCount twoRequests lastQuotaShop lastQuota readsFirst (by decide) last_quota_start
  cases found
  have amount := adds.amount
  revert amount
  decide

def oneAfterOther : List (ReadCommitted.Event Bool) :=
  [.read false, .finish false, .read true, .finish true]

theorem one_after_other_adds_up :
    BooksKept lastQuotaShop lastQuota (run (ReadCommitted.step
      (fun id => preConsumeTransaction dayCount (twoRequests id)) queryOption)
        (idle lastQuotaShop) oneAfterOther).shared := by
  refine (charges_add_up_iff_current last_quota_start oneAfterOther).mpr ?_ oneAfterOther
    (List.prefix_refl _)
  refine ⟨trivial, ?_, trivial, ?_, trivial⟩
  · rintro held after reading - - stored found copy member -
    cases reading
    cases found
    revert copy
    decide
  · rintro held after reading - - stored found copy member -
    cases reading
    cases found
    revert copy
    decide

end NewApi.PreConsumeRace
