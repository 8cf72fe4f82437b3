import NewApi.SubscriptionRows

/-! Edits of a plan and their synchronisation to the subscriptions that were
issued from it: an active subscription takes over the limits and the reset rule
of its plan, and its window is counted again. -/
namespace NewApi.PlanSync
open NewApi.KeyedTable
open NewApi.GoText (trimSpace)
open NewApi.ResetWindow NewApi.Subscription
open NewApi.SubscriptionStore hiding step Event
open NewApi.SubscriptionRows

/-! ## One subscription -/

def copyPlanFields (sub : UserSubscription) (terms : PlanTerms) : UserSubscription :=
  { sub with
    resourceType := terms.resourceType
    requestCountTotal := terms.requestCountTotal
    requestCountPeriodTotal := terms.requestCountPeriodTotal
    resetPeriod := terms.reset.quotaResetPeriod
    resetCustomSeconds := terms.reset.quotaResetCustomSeconds
    resetUseFixedClock := terms.reset.quotaResetUseFixedClock
    resetFixedSeconds := terms.reset.quotaResetFixedSeconds
    allowedGroups := terms.allowedGroups
    allowedModels := terms.allowedModels
    allowedVendorIDs := terms.allowedVendorIDs
    upgradeGroup :=
      if trimSpace sub.upgradeGroup ≠ trimSpace terms.upgradeGroup then trimSpace terms.upgradeGroup
      else sub.upgradeGroup }

/-- `model/subscription.go::syncSubscriptionPlanSnapshotFields`. Its answer
says whether the row is another one after it. -/
def syncSubscriptionPlanSnapshotFields (calendar : Calendar) (sub : UserSubscription)
    (terms : PlanTerms) (now : Int) : UserSubscription :=
  recalculateSubscriptionResetWindow calendar (copyPlanFields sub terms) now

def isSynced (planId now : Int) (sub : UserSubscription) : Bool :=
  sub.planId = planId && sub.status = .active && sub.endTime > now

def syncRow (calendar : Calendar) (plan : SubscriptionPlan) (now : Int) (sub : UserSubscription) :
    UserSubscription :=
  if isSynced plan.id now sub then
    let synced := syncSubscriptionPlanSnapshotFields calendar sub plan.terms now
    if synced = sub then sub else synced.touch now
  else sub

/-! ## The plan and its subscriptions -/

inductive SyncError where
  | invalidPlanId
  | planNotFound
  deriving DecidableEq, Repr

/-- `model/subscription.go::SyncActiveSubscriptionsForPlanUsersTx`. -/
def syncActiveSubscriptionsForPlanUsers (calendar : Calendar) (planId now : Int) (db : Database) :
    Except SyncError Database :=
  if planId ≤ 0 then .error .invalidPlanId
  else match db.plan planId with
  | none => .error .planNotFound
  | some plan => .ok { db with subscriptions := db.subscriptions.map (syncRow calendar plan now) }

/-- `controller/subscription.go::shouldSyncActiveSubscriptionsForPlanUpdate`. -/
def shouldSyncActiveSubscriptionsForPlanUpdate (currentPlan nextPlan : PlanTerms) : Bool :=
  currentPlan.resourceType ≠ nextPlan.resourceType ||
    currentPlan.requestCountTotal ≠ nextPlan.requestCountTotal ||
    currentPlan.requestCountPeriodTotal ≠ nextPlan.requestCountPeriodTotal ||
    currentPlan.reset ≠ nextPlan.reset ||
    trimSpace currentPlan.upgradeGroup ≠ trimSpace nextPlan.upgradeGroup ||
    currentPlan.allowedGroups ≠ nextPlan.allowedGroups ||
    currentPlan.allowedModels ≠ nextPlan.allowedModels ||
    currentPlan.allowedVendorIDs ≠ nextPlan.allowedVendorIDs

inductive UpdatePlanError where
  | planNotFound
  | soldCountBelow (actualIssuedCount : Int)
  | sync (error : SyncError)
  deriving DecidableEq, Repr

def SyncError.text : SyncError → String
  | .invalidPlanId => "invalid planId"
  | .planNotFound => "record not found"

def UpdatePlanError.text : UpdatePlanError → String
  | .planNotFound => "record not found"
  | .soldCountBelow actualIssuedCount => s!"已售数量不能小于实际已发放数量 {actualIssuedCount}"
  | .sync error => s!"同步活跃订阅快照失败: {error.text}"

/-- `controller/subscription.go::AdminUpdateSubscriptionPlan`, from the plan
that its checks of the fields let through. -/
def adminUpdateSubscriptionPlan (calendar : Calendar) (nextPlan : SubscriptionPlan) (now : Int)
    (db : Database) : Except UpdatePlanError Database :=
  match db.plan nextPlan.id with
  | none => .error .planNotFound
  | some currentPlan =>
    let actualIssuedCount : Int :=
      (db.subscriptions.filter fun sub => sub.planId = nextPlan.id).length
    if nextPlan.soldCount < actualIssuedCount then .error (.soldCountBelow actualIssuedCount)
    else
      let updated := { db with plans := save SubscriptionPlan.id db.plans nextPlan }
      if shouldSyncActiveSubscriptionsForPlanUpdate currentPlan.terms nextPlan.terms then
        (syncActiveSubscriptionsForPlanUsers calendar nextPlan.id now updated).mapError .sync
      else .ok updated

/-! ## What a sync can do -/

section Sync

theorem sync_row_cases (calendar : Calendar) (plan : SubscriptionPlan) (now : Int)
    (sub : UserSubscription) :
    syncRow calendar plan now sub = sub ∨
      (isSynced plan.id now sub = true ∧ syncRow calendar plan now sub =
        (syncSubscriptionPlanSnapshotFields calendar sub plan.terms now).touch now) := by
  unfold syncRow
  split
  · rename_i selected
    dsimp only
    split
    · exact .inl rfl
    · exact .inr ⟨selected, rfl⟩
  · exact .inl rfl

theorem sync_row_frame (calendar : Calendar) (plan : SubscriptionPlan) (now : Int)
    (sub : UserSubscription) :
    (syncRow calendar plan now sub).id = sub.id ∧
      (syncRow calendar plan now sub).parentUserSubscriptionId = sub.parentUserSubscriptionId ∧
      (syncRow calendar plan now sub).endTime = sub.endTime ∧
      (syncRow calendar plan now sub).status = sub.status := by
  rcases sync_row_cases calendar plan now sub with same | ⟨-, synced⟩
  · rw [same]
    exact ⟨rfl, rfl, rfl, rfl⟩
  · rw [synced, syncSubscriptionPlanSnapshotFields]
    obtain ⟨last, next, moved⟩ :=
      recalculate_moves_window calendar (copyPlanFields sub plan.terms) now
    rw [moved]
    exact ⟨rfl, rfl, rfl, rfl⟩

theorem sync_row_selected (calendar : Calendar) (selected : isSynced plan.id now sub = true) :
    ∃ last next updatedAt, syncRow calendar plan now sub =
      ((copyPlanFields sub plan.terms).moveWindow last next).touch updatedAt := by
  obtain ⟨last, next, moved⟩ :=
    recalculate_moves_window calendar (copyPlanFields sub plan.terms) now
  have synced : syncSubscriptionPlanSnapshotFields calendar sub plan.terms now =
      (copyPlanFields sub plan.terms).moveWindow last next := moved
  refine ⟨last, next, ?_⟩
  rw [syncRow, if_pos selected, synced]
  dsimp only
  split
  · rename_i unchanged
    refine ⟨sub.updatedAt, ?_⟩
    calc sub = sub.touch sub.updatedAt := rfl
      _ = _ := by rw [unchanged]
  · exact ⟨now, rfl⟩

theorem sync_cases (synced : syncActiveSubscriptionsForPlanUsers calendar planId now db = .ok after) :
    ∃ plan, db.plan planId = some plan ∧
      after = { db with subscriptions := db.subscriptions.map (syncRow calendar plan now) } := by
  unfold syncActiveSubscriptionsForPlanUsers at synced
  split at synced
  · cases synced
  · split at synced
    · cases synced
    · rename_i plan found
      cases synced
      exact ⟨plan, found, rfl⟩

theorem sync_same_ids (db : Database) (plan : SubscriptionPlan) (now : Int) :
    SameIds db { db with subscriptions := db.subscriptions.map (syncRow calendar plan now) } := by
  refine ⟨?_, rfl⟩
  rw [List.map_map]
  exact List.map_congr_left fun sub _ => (sync_row_frame calendar plan now sub).1

theorem update_plan_cases (updated : adminUpdateSubscriptionPlan calendar nextPlan now db = .ok after) :
    ∃ currentPlan, db.plan nextPlan.id = some currentPlan ∧
      ((shouldSyncActiveSubscriptionsForPlanUpdate currentPlan.terms nextPlan.terms = false ∧
          after = { db with plans := save SubscriptionPlan.id db.plans nextPlan }) ∨
        (shouldSyncActiveSubscriptionsForPlanUpdate currentPlan.terms nextPlan.terms = true ∧
          after = { db with
            plans := save SubscriptionPlan.id db.plans nextPlan
            subscriptions := db.subscriptions.map (syncRow calendar nextPlan now) })) := by
  unfold adminUpdateSubscriptionPlan at updated
  split at updated
  · cases updated
  · rename_i currentPlan found
    refine ⟨currentPlan, found, ?_⟩
    dsimp only at updated
    split at updated
    · cases updated
    · split at updated
      · rename_i needed
        cases synced : syncActiveSubscriptionsForPlanUsers calendar nextPlan.id now
            { db with plans := save SubscriptionPlan.id db.plans nextPlan } with
        | error error => simp [synced, Except.mapError] at updated
        | ok written =>
          simp only [synced, Except.mapError, Except.ok.injEq] at updated
          obtain ⟨plan, held, tables⟩ := sync_cases synced
          have saved : lookup SubscriptionPlan.id (save SubscriptionPlan.id db.plans nextPlan)
              nextPlan.id = some nextPlan := lookup_save_self found
          cases held.symm.trans saved
          exact .inr ⟨needed, by rw [← updated, tables]⟩
      · rename_i unneeded
        cases updated
        exact .inl ⟨by simpa using unneeded, rfl⟩

end Sync

end NewApi.PlanSync
