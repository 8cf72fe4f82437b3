import Mathlib.Algebra.Order.BigOperators.Group.List
import NewApi.DayPassPlan
import NewApi.PlanSync

/-! Plan edits under day passes: a sync selects the active subscriptions of a
plan, and the day passes that were taken out of them are among these. A day
pass keeps what it was given exactly where the plan happens to say the same. -/
namespace NewApi.DayPassSync
open NewApi.GuardedRun NewApi.KeyedTable
open NewApi.ResetWindow NewApi.Subscription
open NewApi.SubscriptionStore hiding step Event
open NewApi.SubscriptionRows NewApi.PlanSync
open NewApi.UsageReconcile hiding Tables
open NewApi.DayPassPlan hiding step Event

/-! ## The system -/

inductive Event where
  | dayPass (event : DayPassPlan.Event)
  | updatePlan (nextPlan : SubscriptionPlan) (now : Int)
  | syncPlan (planId now : Int)

def editOutcome {Error : Type} (before : PlanTables) : Except Error Database → PlanTables
  | .ok base => { before with base := base }
  | .error _ => before

def step (calendar : Calendar) (tables : PlanTables) : Event → PlanTables
  | .dayPass event => DayPassPlan.step calendar tables event
  | .updatePlan nextPlan now =>
    editOutcome tables (adminUpdateSubscriptionPlan calendar nextPlan now tables.base)
  | .syncPlan planId now =>
    editOutcome tables (syncActiveSubscriptionsForPlanUsers calendar planId now tables.base)

def syncedPlan (db : Database) : Event → Option (SubscriptionPlan × Int)
  | .dayPass _ => none
  | .updatePlan nextPlan now =>
    match db.plan nextPlan.id with
    | none => none
    | some currentPlan =>
      if nextPlan.soldCount < (db.subscriptions.filter fun sub => sub.planId = nextPlan.id).length ∨
          nextPlan.id ≤ 0 then none
      else if shouldSyncActiveSubscriptionsForPlanUpdate currentPlan.terms nextPlan.terms then
        some (nextPlan, now)
      else none
  | .syncPlan planId now =>
    if planId ≤ 0 then none else (db.plan planId).map fun plan => (plan, now)

/-! ## What a day pass is to keep -/

def isUsable (now : Int) (sub : UserSubscription) : Bool :=
  sub.status = .active && sub.endTime > now

def inFamily (parentId : Int) (sub : UserSubscription) : Bool :=
  sub.id = parentId || sub.parentUserSubscriptionId = parentId

def family (subs : List UserSubscription) (parentId now : Int) : List UserSubscription :=
  subs.filter fun sub => inFamily parentId sub && isUsable now sub

def familyRemaining (subs : List UserSubscription) (parentId now : Int) : Int :=
  ((family subs parentId now).map getUserSubscriptionRemainingRequestCount).sum

/-- Every day pass holds what its parent was charged for it, under its own
reset period and until its own end, and no family can make more requests. -/
structure EntitlementsKept (now : Int) (before after : PlanTables) : Prop where
  entitled : ∀ child ∈ before.base.subscriptions, child.parentUserSubscriptionId ≠ 0 →
    ∃ row, after.base.subscription child.id = some row ∧
      (∃ generation ∈ before.generations, generation.child.id = child.id) ∧
      (∀ generation ∈ before.generations, generation.child.id = child.id →
        row.requestCountTotal = generation.count) ∧
      row.resetPeriod = child.resetPeriod ∧ row.endTime = child.endTime
  noGain : ∀ child ∈ before.base.subscriptions, child.parentUserSubscriptionId ≠ 0 →
    familyRemaining after.base.subscriptions child.parentUserSubscriptionId now ≤
      familyRemaining before.base.subscriptions child.parentUserSubscriptionId now

def SyncSafe (calendar : Calendar) (tables : PlanTables) (event : Event) : Prop :=
  ∀ plan now, syncedPlan tables.base event = some (plan, now) →
    EntitlementsKept now tables (step calendar tables event)

/-! ## When it does -/

def remainingUnder (terms : PlanTerms) (sub : UserSubscription) : Int :=
  getUserSubscriptionRemainingRequestCount { sub with
    resourceType := terms.resourceType
    requestCountTotal := terms.requestCountTotal
    requestCountPeriodTotal := terms.requestCountPeriodTotal
    resetPeriod := terms.reset.quotaResetPeriod }

def remainingWith (plan : SubscriptionPlan) (now : Int) (sub : UserSubscription) : Int :=
  if isSynced plan.id now sub then remainingUnder plan.terms sub
  else getUserSubscriptionRemainingRequestCount sub

/-- The plan has the total and the reset period of each of its usable day
passes, and no family would have more left under its limits. -/
structure SyncFits (plan : SubscriptionPlan) (now : Int) (subs : List UserSubscription) : Prop where
  passes : ∀ child ∈ subs, child.parentUserSubscriptionId ≠ 0 → isSynced plan.id now child = true →
    plan.terms.requestCountTotal = child.requestCountTotal ∧
      plan.terms.reset.quotaResetPeriod = child.resetPeriod
  families : ∀ child ∈ subs, child.parentUserSubscriptionId ≠ 0 →
    ((family subs child.parentUserSubscriptionId now).map (remainingWith plan now)).sum ≤
      familyRemaining subs child.parentUserSubscriptionId now

instance (plan : SubscriptionPlan) (now : Int) (subs : List UserSubscription) :
    Decidable (SyncFits plan now subs) :=
  decidable_of_iff
    ((∀ child ∈ subs, child.parentUserSubscriptionId ≠ 0 → isSynced plan.id now child = true →
        plan.terms.requestCountTotal = child.requestCountTotal ∧
          plan.terms.reset.quotaResetPeriod = child.resetPeriod) ∧
      ∀ child ∈ subs, child.parentUserSubscriptionId ≠ 0 →
        ((family subs child.parentUserSubscriptionId now).map (remainingWith plan now)).sum ≤
          familyRemaining subs child.parentUserSubscriptionId now)
    ⟨fun both => ⟨both.1, both.2⟩, fun fits => ⟨fits.passes, fits.families⟩⟩

def SyncPermitted (tables : PlanTables) (event : Event) : Prop :=
  ∀ synced, syncedPlan tables.base event = some synced →
    SyncFits synced.1 synced.2 tables.base.subscriptions

instance (tables : PlanTables) (event : Event) : Decidable (SyncPermitted tables event) :=
  inferInstanceAs (Decidable (∀ synced, _ = some synced → _))

/-! ## The books under the syncs -/

structure Ledger (tables : PlanTables) : Prop where
  rows : AllRows (PaidFor tables.generations) tables.base
  numbered : Numbered tables.base
  once : (tables.generations.map fun generation => generation.child.id).Nodup
  issued : ∀ generation ∈ tables.generations, generation.child.id < tables.base.nextSubscriptionId

section Ledgers

theorem Ledger.rebase (ledger : Ledger tables)
    (rows : AllRows (PaidFor tables.generations) after.base) (numbered : Numbered after.base)
    (next : tables.base.nextSubscriptionId ≤ after.base.nextSubscriptionId)
    (history : after.generations = tables.generations) : Ledger after where
  rows := by
    rw [history]
    exact rows
  numbered := numbered
  once := by
    rw [history]
    exact ledger.once
  issued generation member := by
    rw [history] at member
    exact lt_of_lt_of_le (ledger.issued generation member) next

theorem Ledger.pass
    (ledger : Ledger tables) (stored : tables.base.subscription parent.id = some row)
    (created : createDerivedDayPassFromParent days parent count now planInForce tables.base =
      .ok (made, child, remain)) (base : after.base = made)
    (history : after.generations = (tables.addPass planId dueAt made child).generations) :
    Ledger after := by
  obtain ⟨-, -, -, passed, written⟩ := day_pass_written stored created
  have fresh : child.id = tables.base.nextSubscriptionId := by rw [passed]; rfl
  have next : made.nextSubscriptionId = tables.base.nextSubscriptionId + 1 := by rw [written]
  have entry := pass_history stored created planId dueAt
  rw [entry] at history
  have paid : PaidFor tables.generations row := ledger.rows.subscriptions row (lookup_mem stored)
  constructor
  case rows =>
    rw [history, base]
    refine pass_tables stored created ledger.rows ?_ paid (pass_paid_for stored created rfl)
    intro sub
    exact paid_for_more _
  case numbered =>
    rw [base]
    refine numbered_insert ledger.numbered ?_ next
    rw [written, ← fresh]
    show List.map _ (_ ++ [child]) = _
    rw [List.map_append, List.map_singleton]
    congr 1
    exact map_key_save ..
  case once =>
    rw [history, List.map_append, List.map_singleton]
    apply List.nodup_append.mpr
    refine ⟨ledger.once, List.nodup_singleton _, ?_⟩
    intro id member other new same
    obtain ⟨generation, old, rfl⟩ := List.mem_map.mp member
    have below := ledger.issued generation old
    rw [List.mem_singleton.mp new, fresh] at same
    omega
  case issued =>
    intro generation member
    rw [history] at member
    rw [base, next]
    rcases List.mem_append.mp member with old | new
    · have below := ledger.issued generation old
      omega
    · rw [List.mem_singleton.mp new]
      show child.id < _
      omega

theorem day_pass_step_ledger (event : DayPassPlan.Event) (ledger : Ledger tables) :
    Ledger (DayPassPlan.step calendar tables event) := by
  have rule := paid_rule calendar tables.generations
  cases step_effect calendar tables event with
  | stored event rows history =>
    apply ledger.rebase _ _ _ history <;> rw [rows]
    · exact step_all_rows rule _ event (settlements_free (fun _ _ _ => trivial) _ event) ledger.rows
    · exact step_numbered calendar event ledger.numbered
    · exact step_next_id ..
  | untouched rows history =>
    apply ledger.rebase _ _ _ history <;> rw [rows]
    · exact ledger.rows
    · exact ledger.numbered
  | opened read rows history =>
    obtain ⟨opened, ids, -⟩ := parent_read rule ledger.rows read
    apply ledger.rebase _ _ _ history <;> rw [rows]
    · exact opened
    · exact same_ids_numbered ledger.numbered ids
    · exact ids.next.ge
  | @charged id userId now count remain base made parent child planInForce read created rows history =>
    obtain ⟨opened, ids, row, last, next, stored, -⟩ := parent_read rule ledger.rows read
    have paid := opened.subscriptions row (lookup_mem stored)
    let window : PlanTables := { tables with base := base }
    have here : window.base.subscription parent.id = some row := stored
    have charge : made.subscription parent.id = some (chargedParent row count now) :=
      pass_charged here created
    rw [charge, Option.getD_some] at rows
    have issued := same_ids_numbered ledger.numbered ids
    apply ledger.rebase _ _ _ history <;> rw [rows]
    · exact all_rows_save opened paid
    · exact same_ids_numbered issued (save_same_ids ..)
    · exact ids.next.ge
  | passed planId dueAt read created rows history =>
    obtain ⟨opened, ids, row, last, next, stored, -⟩ := parent_read rule ledger.rows read
    have ready : Ledger { tables with base := _ } :=
      ledger.rebase opened (same_ids_numbered ledger.numbered ids) ids.next.ge rfl
    exact ready.pass stored created rows history

end Ledgers

/-! ## What a sync does -/

section Sync
variable {calendar : Calendar} {plan : SubscriptionPlan} {now : Int}

structure SyncedRows (calendar : Calendar) (plan : SubscriptionPlan) (now : Int)
    (before after : PlanTables) : Prop where
  rows : after.base.subscriptions = before.base.subscriptions.map (syncRow calendar plan now)
  records : after.base.records = before.base.records
  next : after.base.nextSubscriptionId = before.base.nextSubscriptionId
  history : after.generations = before.generations

theorem synced_step (synced : syncedPlan tables.base event = some (plan, now)) :
    SyncedRows calendar plan now tables (step calendar tables event) := by
  cases event with
  | dayPass event => cases synced
  | updatePlan nextPlan time =>
    unfold syncedPlan at synced
    dsimp only at synced
    split at synced
    · cases synced
    · rename_i currentPlan found
      split at synced
      · cases synced
      · rename_i admitted
        split at synced
        · rename_i needed
          cases synced
          obtain ⟨sold, positive⟩ := not_or.mp admitted
          have saved : ({ tables.base with
              plans := save SubscriptionPlan.id tables.base.plans plan } : Database).plan plan.id =
              some plan := lookup_save_self found
          simp only [step, adminUpdateSubscriptionPlan, found, if_neg sold, needed, if_true,
            syncActiveSubscriptionsForPlanUsers, if_neg positive, saved, Except.mapError,
            editOutcome]
          exact ⟨rfl, rfl, rfl, rfl⟩
        · cases synced
  | syncPlan planId time =>
    unfold syncedPlan at synced
    dsimp only at synced
    split at synced
    · cases synced
    · rename_i positive
      cases found : tables.base.plan planId with
      | none => simp [found] at synced
      | some read =>
        simp only [found, Option.map_some, Option.some.injEq, Prod.mk.injEq] at synced
        obtain ⟨rfl, rfl⟩ := synced
        simp only [step, syncActiveSubscriptionsForPlanUsers, if_neg positive, found, editOutcome]
        exact ⟨rfl, rfl, rfl, rfl⟩

theorem unsynced_step (edit : ∀ event_, event ≠ .dayPass event_)
    (unsynced : syncedPlan tables.base event = none) :
    ∃ plans, step calendar tables event = { tables with base := { tables.base with plans := plans } } := by
  cases event with
  | dayPass event => exact absurd rfl (edit event)
  | updatePlan nextPlan time =>
    cases updated : adminUpdateSubscriptionPlan calendar nextPlan time tables.base with
    | error error => exact ⟨tables.base.plans, by simp only [step, updated, editOutcome]⟩
    | ok base =>
      obtain ⟨currentPlan, found, ⟨-, same⟩ | ⟨needed, -⟩⟩ := update_plan_cases updated
      · refine ⟨save SubscriptionPlan.id tables.base.plans nextPlan, ?_⟩
        simp only [step, updated, editOutcome, same]
      · have admitted : nextPlan.soldCount <
            (tables.base.subscriptions.filter fun sub => sub.planId = nextPlan.id).length ∨
            nextPlan.id ≤ 0 := by
          by_contra admitted
          simp [syncedPlan, found, needed, admitted] at unsynced
        rcases admitted with sold | negative
        · simp [adminUpdateSubscriptionPlan, found, sold] at updated
        · unfold adminUpdateSubscriptionPlan at updated
          simp [found, needed, syncActiveSubscriptionsForPlanUsers, negative, Except.mapError] at updated
          grind
  | syncPlan planId time =>
    refine ⟨tables.base.plans, ?_⟩
    unfold syncedPlan at unsynced
    dsimp only at unsynced
    split at unsynced
    · rename_i negative
      simp only [step, syncActiveSubscriptionsForPlanUsers, if_pos negative, editOutcome]
    · rename_i positive
      have missing : tables.base.plan planId = none := Option.map_eq_none_iff.mp unsynced
      simp only [step, syncActiveSubscriptionsForPlanUsers, if_neg positive, missing, editOutcome]

theorem sync_row_remaining (calendar : Calendar) (plan : SubscriptionPlan) (now : Int)
    (sub : UserSubscription) :
    getUserSubscriptionRemainingRequestCount (syncRow calendar plan now sub) =
      remainingWith plan now sub := by
  unfold remainingWith
  split
  · rename_i selected
    obtain ⟨last, next, updatedAt, row⟩ := sync_row_selected calendar selected
    rw [row]
    rfl
  · rename_i free
    rw [syncRow, if_neg free]

theorem synced_family (calendar : Calendar) (plan : SubscriptionPlan)
    (subs : List UserSubscription) (parentId now time : Int) :
    family (subs.map (syncRow calendar plan time)) parentId now =
      (family subs parentId now).map (syncRow calendar plan time) := by
  unfold family
  rw [List.filter_map]
  congr 1
  apply List.filter_congr
  intro sub _
  obtain ⟨id, parent, endTime, status⟩ := sync_row_frame calendar plan time sub
  simp only [Function.comp_apply, inFamily, isUsable, id, parent, endTime, status]

theorem synced_remaining (calendar : Calendar) (plan : SubscriptionPlan)
    (subs : List UserSubscription) (parentId now : Int) :
    familyRemaining (subs.map (syncRow calendar plan now)) parentId now =
      ((family subs parentId now).map (remainingWith plan now)).sum := by
  rw [familyRemaining, synced_family, List.map_map]
  congr 1
  apply List.map_congr_left
  intro sub _
  exact sync_row_remaining calendar plan now sub

theorem Ledger.entry (ledger : Ledger tables)
    (member : child ∈ tables.base.subscriptions) (pass : child.parentUserSubscriptionId ≠ 0) :
    ∃ generation ∈ tables.generations, generation.child.id = child.id ∧
      ∀ other ∈ tables.generations, other.child.id = child.id → other.count = child.requestCountTotal := by
  obtain ⟨generation, made, mine, -, count⟩ := ledger.rows.subscriptions child member pass
  refine ⟨generation, made, mine, ?_⟩
  intro other listed same
  have one : other = generation :=
    List.inj_on_of_nodup_map ledger.once listed made (same.trans mine.symm)
  rw [one]
  exact count

theorem sync_keeps_iff (ledger : Ledger tables)
    (synced : SyncedRows calendar plan now tables after) :
    EntitlementsKept now tables after ↔ SyncFits plan now tables.base.subscriptions := by
  have same : ∀ sub, (syncRow calendar plan now sub).id = sub.id := fun sub =>
    (sync_row_frame calendar plan now sub).1
  have found : ∀ child ∈ tables.base.subscriptions,
      after.base.subscription child.id = some (syncRow calendar plan now child) := by
    intro child member
    have here : tables.base.subscription child.id = some child :=
      lookup_of_mem ledger.numbered.unique member
    rw [Database.subscription, synced.rows, lookup_map same]
    exact congrArg _ here
  constructor
  · intro kept
    constructor
    case passes =>
      intro child member pass selected
      obtain ⟨row, read, -, total, period, -⟩ := kept.entitled child member pass
      rw [found child member] at read
      cases read
      obtain ⟨generation, made, mine, count⟩ := ledger.entry member pass
      have given := total generation made mine
      rw [count generation made mine] at given
      obtain ⟨last, next, updatedAt, written⟩ := sync_row_selected calendar selected
      rw [written] at given period
      exact ⟨given, period⟩
    case families =>
      intro child member pass
      have bound := kept.noGain child member pass
      rw [synced.rows, synced_remaining] at bound
      exact bound
  · intro fits
    constructor
    case entitled =>
      intro child member pass
      obtain ⟨generation, made, mine, count⟩ := ledger.entry member pass
      obtain ⟨-, -, endTime, -⟩ := sync_row_frame calendar plan now child
      have terms : (syncRow calendar plan now child).requestCountTotal = child.requestCountTotal ∧
          (syncRow calendar plan now child).resetPeriod = child.resetPeriod := by
        by_cases selected : isSynced plan.id now child = true
        · obtain ⟨last, next, updatedAt, written⟩ := sync_row_selected calendar selected
          rw [written]
          exact fits.passes child member pass selected
        · rw [syncRow, if_neg selected]
          exact ⟨rfl, rfl⟩
      refine ⟨_, found child member, ⟨generation, made, mine⟩, ?_, terms.2, endTime⟩
      intro other listed named
      rw [terms.1, count other listed named]
    case noGain =>
      intro child member pass
      rw [synced.rows, synced_remaining]
      exact fits.families child member pass

theorem Ledger.sync (ledger : Ledger tables)
    (synced : SyncedRows calendar plan now tables after)
    (fits : SyncFits plan now tables.base.subscriptions) : Ledger after := by
  have ids : SameIds tables.base after.base := by
    refine ⟨?_, synced.next⟩
    rw [synced.rows]
    exact (sync_same_ids tables.base plan now).ids
  apply ledger.rebase _ (same_ids_numbered ledger.numbered ids) ids.next.ge synced.history
  constructor
  · rw [synced.next]
    exact ledger.rows.nextId
  · intro row member
    rw [synced.rows] at member
    obtain ⟨sub, held, rfl⟩ := List.mem_map.mp member
    obtain ⟨id, parent, -, -⟩ := sync_row_frame calendar plan now sub
    intro pass
    rw [parent] at pass
    obtain ⟨generation, made, mine, owner, count⟩ := ledger.rows.subscriptions sub held pass
    refine ⟨generation, made, mine.trans id.symm, owner.trans parent.symm, ?_⟩
    by_cases selected : isSynced plan.id now sub = true
    · obtain ⟨last, next, updatedAt, written⟩ := sync_row_selected calendar selected
      rw [written, count]
      exact (fits.passes sub held pass selected).1.symm
    · rw [syncRow, if_neg selected]
      exact count
  · rw [synced.records]
    exact ledger.rows.records

theorem Ledger.plans (ledger : Ledger tables) (plans : List SubscriptionPlan) :
    Ledger { tables with base := { tables.base with plans := plans } } :=
  ⟨⟨ledger.rows.nextId, ledger.rows.subscriptions, ledger.rows.records⟩,
    ⟨ledger.numbered.unique, ledger.numbered.below⟩, ledger.once, ledger.issued⟩

theorem step_ledger (permitted : SyncPermitted tables event) (ledger : Ledger tables) :
    Ledger (step calendar tables event) := by
  cases synced : syncedPlan tables.base event with
  | some found => exact ledger.sync (synced_step synced) (permitted found synced)
  | none =>
    cases event with
    | dayPass event => exact day_pass_step_ledger event ledger
    | updatePlan nextPlan time =>
      have edit : ∀ event, Event.updatePlan nextPlan time ≠ .dayPass event := fun _ => nofun
      obtain ⟨plans, same⟩ := unsynced_step edit synced
      exact same ▸ ledger.plans plans
    | syncPlan planId time =>
      have edit : ∀ event, Event.syncPlan planId time ≠ .dayPass event := fun _ => nofun
      obtain ⟨plans, same⟩ := unsynced_step edit synced
      exact same ▸ ledger.plans plans

theorem sync_safe_iff (ledger : Ledger tables) (event : Event) :
    SyncSafe calendar tables event ↔ SyncPermitted tables event := by
  constructor
  · rintro safe ⟨plan, now⟩ synced
    exact (sync_keeps_iff ledger (synced_step synced)).mp (safe plan now synced)
  · intro permitted plan now synced
    exact (sync_keeps_iff ledger (synced_step synced)).mpr (permitted (plan, now) synced)

theorem start_ledger (unplanned : Unplanned tables) : Ledger tables where
  rows := unissued_all_rows unplanned.unissued
  numbered := unissued_numbered unplanned.unissued.subscriptions
  once := by simp [unplanned.generations]
  issued := by simp [unplanned.generations]

end Sync

/-! ## Every run -/

/-- Over every run of purchases, requests, day passes and plan edits, the syncs
keep what the day passes were given exactly where each of them fits. -/
theorem syncs_keep_day_passes_iff (calendar : Calendar) (start : PlanTables)
    (unplanned : Unplanned start) (events : List Event) :
    (∀ done event, done ++ [event] <+: events →
        SyncSafe calendar (run (step calendar) start done) event) ↔
      Guarded (step calendar) SyncPermitted start events := by
  apply steps_safe_iff_guarded _ _ events (start_ledger unplanned)
  · intro tables event permitted ledger
    exact step_ledger permitted ledger
  · intro tables event ledger
    exact sync_safe_iff ledger event

def renamedModelsPlan : SubscriptionPlan :=
  { cappedMonth with soldCount := 2, terms := { cappedMonth.terms with allowedModels := ["m"] } }

def renamedModels : List Event :=
  [.dayPass (.base (.create 7 2 cappedMonth.terms .order 1000)), .dayPass (.createPass 7 1 3 2000),
    .updatePlan renamedModelsPlan 3000]

theorem edit_refills_day_pass :
    ¬ ∀ (calendar : Calendar) (start : PlanTables) (events : List Event), Unplanned start →
      ∀ done event, done ++ [event] <+: events →
        SyncSafe calendar (run (step calendar) start done) event := by
  intro always
  have safe := always dayCount monthShop renamedModels unplanned_shop (renamedModels.take 2)
    (.updatePlan renamedModelsPlan 3000) (List.prefix_refl _)
  have kept := safe renamedModelsPlan 3000 (by decide +kernel)
  have gain : ∃ child ∈ (run (step dayCount) monthShop (renamedModels.take 2)).base.subscriptions,
      child.parentUserSubscriptionId ≠ 0 ∧
        familyRemaining (run (step dayCount) monthShop (renamedModels.take 2)).base.subscriptions
          child.parentUserSubscriptionId 3000 = 10 ∧
        familyRemaining (run (step dayCount) monthShop renamedModels).base.subscriptions
          child.parentUserSubscriptionId 3000 = 17 := by
    decide +kernel
  obtain ⟨child, member, pass, before, after⟩ := gain
  have bound := kept.noGain child member pass
  rw [before] at bound
  have bound : familyRemaining (run (step dayCount) monthShop renamedModels).base.subscriptions
    child.parentUserSubscriptionId 3000 ≤ 10 := bound
  omega

def wholeMonth : List Event :=
  [.dayPass (.base (.create 7 2 cappedMonth.terms .order 1000)), .dayPass (.createPass 7 1 10 2000),
    .updatePlan renamedModelsPlan 3000]

theorem whole_month_keeps_day_pass :
    Guarded (step dayCount) SyncPermitted monthShop wholeMonth ∧
      ∀ done event, done ++ [event] <+: wholeMonth →
        SyncSafe dayCount (run (step dayCount) monthShop done) event := by
  have permitted : Guarded (step dayCount) SyncPermitted monthShop wholeMonth :=
    ⟨by decide +kernel, by decide +kernel, by decide +kernel, trivial⟩
  have exactly := syncs_keep_day_passes_iff dayCount monthShop unplanned_shop wholeMonth
  exact ⟨permitted, exactly.mpr permitted⟩

end NewApi.DayPassSync
