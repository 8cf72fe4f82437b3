import NewApi.PlanSnapshot

/-! Subscriptions that change hands or plans. A transfer can bring a row back to
life: its natural end is computed again from the few duration columns that the
row itself holds, and from the time it started. A migration issues a row of
another plan in place of the old one. What is proved is that the restored end is
the one that the purchase computed, whatever was written to the row in between
and wherever no fixed clock had a part in it, and for which rows a migration and
a due reset can change places. -/
namespace NewApi.SubscriptionMoves
open NewApi.GoText (trimSpace)
open NewApi.KeyedTable
open NewApi.ResetWindow
open NewApi.SubscriptionStore (User)
open NewApi.PlanSnapshot

/-! ## The duration of a row -/

/-- `model/subscription.go::subscriptionDurationSnapshotToPlan`. The other
columns of the plan stay empty. -/
def subscriptionDurationSnapshotToPlan (sub : UserSubscription) : SubscriptionPlan :=
  { id := 0
    durationUnit := sub.durationUnit
    durationValue := sub.durationValue
    customSeconds := sub.customSeconds
    resourceType := ""
    quotaResetPeriod := ""
    deliveryMode := "" }

/-! ## The columns that the reset code reads -/

/-- The counters, the limits and the window of a row. -/
@[simps] def metered (sub : UserSubscription) : Subscription.UserSubscription :=
  { id := sub.id
    userId := sub.userId
    planId := sub.planId
    amountTotal := sub.amountTotal
    amountUsed := sub.amountUsed
    resourceType :=
      if normalizeSubscriptionResourceType sub.resourceType = "request_count" then .requestCount
      else .quota
    requestCountTotal := sub.requestCountTotal
    requestCountUsed := sub.requestCountUsed
    requestCountPeriodTotal := sub.requestCountPeriodTotal
    requestCountPeriodUsed := sub.requestCountPeriodUsed
    resetPeriod := resetPeriodOf (normalizeResetPeriod sub.resetPeriod)
    resetCustomSeconds := sub.resetCustomSeconds
    resetUseFixedClock := sub.resetUseFixedClock
    resetFixedSeconds := sub.resetFixedSeconds
    startTime := sub.startTime
    endTime := sub.endTime
    lastResetTime := sub.lastResetTime
    nextResetTime := sub.nextResetTime
    updatedAt := sub.updatedAt }

/-- A row with the columns that the reset code writes. -/
@[simps] def writeMetered (sub : UserSubscription) (after : Subscription.UserSubscription) :
    UserSubscription :=
  { sub with
    amountUsed := after.amountUsed
    requestCountUsed := after.requestCountUsed
    requestCountPeriodUsed := after.requestCountPeriodUsed
    lastResetTime := after.lastResetTime
    nextResetTime := after.nextResetTime
    updatedAt := after.updatedAt }

@[simp] theorem write_metered_self (sub : UserSubscription) : writeMetered sub (metered sub) = sub := rfl

def recalculateSubscriptionResetWindow (calendar : Calendar) (sub : UserSubscription) (now : Int) :
    UserSubscription :=
  writeMetered sub (Subscription.recalculateSubscriptionResetWindow calendar (metered sub) now)

section Restore
variable (unmarshal : String → Option (List String)) (calendar : Calendar)

/-! ## Transfers -/

/-- `model/subscription.go::restoreTransferredSubscriptionState`. -/
def restoreTransferredSubscriptionState (sub : UserSubscription) (now : Int) :
    Except String UserSubscription :=
  match calcPlanEndTime unmarshal calendar sub.startTime (subscriptionDurationSnapshotToPlan sub) with
  | .error error => .error error
  | .ok restoredEndTime =>
    if restoredEndTime ≤ now then .error "该订阅自然有效期已过，无法重新激活"
    else .ok (recalculateSubscriptionResetWindow calendar
      { sub with
        status := "active"
        endTime := restoredEndTime } now)

def handOver (sub : UserSubscription) (targetUserId now : Int) : UserSubscription :=
  { sub with
    userId := targetUserId
    prevUserGroup := ""
    updatedAt := now }

/-- The row that `AdminTransferUserSubscription` stores. -/
def transferredRow (sub : UserSubscription) (targetUserId : Int) (reactivate : Bool) (now : Int) :
    Except String UserSubscription :=
  if reactivate then
    restoreTransferredSubscriptionState unmarshal calendar (handOver sub targetUserId now) now
  else .ok (handOver sub targetUserId now)

/-- `model/subscription.go::downgradeUserGroupForSubscriptionTx`: the users
after it. -/
def downgradeUserGroupForSubscription (tables : Tables) (sub : UserSubscription) (now : Int) : List User :=
  let upgradeGroup := trimSpace sub.upgradeGroup
  let currentGroup := tables.userGroup sub.userId
  let prevGroup := trimSpace sub.prevUserGroup
  if upgradeGroup = "" ∨ currentGroup ≠ upgradeGroup then tables.users
  else if tables.subscriptions.any fun other => other.userId = sub.userId && other.status = "active" &&
      other.endTime > now && other.id ≠ sub.id && other.upgradeGroup ≠ "" then tables.users
  else if prevGroup = "" ∨ prevGroup = currentGroup then tables.users
  else update User.id tables.users sub.userId fun user => { user with group := prevGroup }

/-- `model/subscription.go::AdminTransferUserSubscription`, the part of its
transaction that writes users and subscriptions. -/
def adminTransferUserSubscription (tables : Tables) (userSubscriptionId targetUserId : Int)
    (reactivate : Bool) (now : Int) : Except String Tables :=
  if userSubscriptionId ≤ 0 then .error "invalid userSubscriptionId"
  else if targetUserId ≤ 0 then .error "invalid targetUserId"
  else match lookup UserSubscription.id tables.subscriptions userSubscriptionId with
  | none => .error "record not found"
  | some sub =>
    if sub.userId = targetUserId then .error "不能转移给当前用户"
    else match lookup User.id tables.users targetUserId with
    | none => .error "record not found"
    | some _ =>
      match transferredRow unmarshal calendar sub targetUserId reactivate now with
      | .error error => .error error
      | .ok row => .ok { tables with
          users := downgradeUserGroupForSubscription tables sub now
          subscriptions := save UserSubscription.id tables.subscriptions row }

/-! ## What else is written to a row -/

/-- The writes to a row between its purchase and its reactivation, each with
the values that its function computed. -/
inductive RowWrite where
  /-- `AdminInvalidateUserSubscription`, and a conversion of the row to balance. -/
  | cancel (now : Int)
  /-- A rejected conversion request, which gives back what its snapshot holds. -/
  | resume (endTime nextResetTime now : Int)
  /-- `AdminTransferUserSubscription`. -/
  | transfer (targetUserId : Int) (reactivate : Bool) (now : Int)
  /-- `ExpireDueSubscriptions`. -/
  | expire (now : Int)
  /-- A save of the end, the status, the counters and the window, as the admin's
  actions, the requests and the resets compute them. -/
  | save (endTime : Int) (status : String) (amountUsed requestCountUsed requestCountPeriodUsed
      lastResetTime nextResetTime now : Int)
  deriving DecidableEq, Repr

def RowWrite.apply (sub : UserSubscription) : RowWrite → UserSubscription
  | .cancel now =>
    { sub with
      status := "cancelled"
      endTime := now
      updatedAt := now }
  | .resume endTime nextResetTime now =>
    { sub with
      status := "active"
      endTime := endTime
      nextResetTime := nextResetTime
      updatedAt := now }
  | .transfer targetUserId reactivate now =>
    match transferredRow unmarshal calendar sub targetUserId reactivate now with
    | .error _ => sub
    | .ok row => row
  | .expire now =>
    if sub.status = "active" ∧ 0 < sub.endTime ∧ sub.endTime ≤ now then
      { sub with
        status := "expired"
        updatedAt := now }
    else sub
  | .save endTime status amountUsed requestCountUsed requestCountPeriodUsed lastResetTime
      nextResetTime now =>
    { sub with
      endTime := endTime
      status := status
      amountUsed := amountUsed
      requestCountUsed := requestCountUsed
      requestCountPeriodUsed := requestCountPeriodUsed
      lastResetTime := lastResetTime
      nextResetTime := nextResetTime
      updatedAt := now }

def rowAfter (sub : UserSubscription) (writes : List RowWrite) : UserSubscription :=
  writes.foldl (RowWrite.apply unmarshal calendar) sub

/-! ## The natural end -/

@[simp] theorem snapshot_not_claude (sub : UserSubscription) :
    isClaudePlan unmarshal (subscriptionDurationSnapshotToPlan sub) = false := by
  have blank : decodeSubscriptionStringList unmarshal "" = [] := if_pos (by decide)
  simp only [isClaudePlan, subscriptionDurationSnapshotToPlan, blank, List.any_nil, Bool.or_false]
  decide

theorem snapshot_end_time
    (unit : sub.durationUnit = plan.durationUnit)
    (value : sub.durationValue = if plan.durationValue = 0 then 1 else plan.durationValue)
    (seconds : sub.customSeconds = plan.customSeconds)
    (running : calcFixedClockDeadlineEndTime unmarshal calendar start plan = none)
    (ends : calcPlanEndTime unmarshal calendar start plan = .ok endTime) :
    calcPlanEndTime unmarshal calendar start (subscriptionDurationSnapshotToPlan sub) = .ok endTime := by
  have plain : calcFixedClockDeadlineEndTime unmarshal calendar start
      (subscriptionDurationSnapshotToPlan sub) = none := by
    rfl
  rw [← ends]
  unfold calcPlanEndTime at ends ⊢
  rw [plain, running]
  simp only [subscriptionDurationSnapshotToPlan, unit, value, seconds]
  by_cases unset : plan.durationValue = 0
  · -- only a custom duration does without a value, and it does not look at the column
    have custom : plan.durationUnit = "custom" := by
      by_contra other
      simp [unset, other] at ends
    simp [unset, custom]
  · rw [if_neg unset]

structure SameDuration (sub later : UserSubscription) : Prop where
  start : later.startTime = sub.startTime
  snapshot : subscriptionDurationSnapshotToPlan later = subscriptionDurationSnapshotToPlan sub

theorem SameDuration.refl (sub : UserSubscription) : SameDuration sub sub := ⟨rfl, rfl⟩

theorem SameDuration.trans (first : SameDuration sub later)
    (second : SameDuration later latest) : SameDuration sub latest :=
  ⟨second.start.trans first.start, second.snapshot.trans first.snapshot⟩

theorem transferred_same_duration
    (moved : transferredRow unmarshal calendar sub targetUserId reactivate now = .ok row) :
    SameDuration sub row := by
  unfold transferredRow restoreTransferredSubscriptionState at moved
  split at moved
  · split at moved
    · cases moved
    · split at moved <;> cases moved
      exact ⟨rfl, rfl⟩
  · cases moved
    exact ⟨rfl, rfl⟩

theorem write_same_duration (sub : UserSubscription) (write : RowWrite) :
    SameDuration sub (write.apply unmarshal calendar sub) := by
  cases write with
  | cancel | resume | save => exact ⟨rfl, rfl⟩
  | transfer targetUserId reactivate now =>
    cases moved : transferredRow unmarshal calendar sub targetUserId reactivate now with
    | error error =>
      simp only [RowWrite.apply, moved]
      exact .refl sub
    | ok row =>
      simp only [RowWrite.apply, moved]
      exact transferred_same_duration unmarshal calendar moved
  | expire now =>
    simp only [RowWrite.apply]
    split
    · exact ⟨rfl, rfl⟩
    · exact .refl sub

theorem row_after_same_duration (sub : UserSubscription) (writes : List RowWrite) :
    SameDuration sub (rowAfter unmarshal calendar sub writes) := by
  induction writes generalizing sub with
  | nil => exact .refl sub
  | cons write writes ih =>
    exact (write_same_duration unmarshal calendar sub write).trans (ih _)

theorem created_end_time
    (created : createUserSubscriptionFromPlan unmarshal calendar tables userId plan source start =
      .ok (after, sub)) :
    ∃ lockedPlan effective, tables.getSubscriptionPlanById plan.id = .ok lockedPlan ∧
      effective = (effectivePlan plan lockedPlan source).1 ∧
      calcPlanEndTime unmarshal calendar start effective = .ok sub.endTime ∧
      sub.startTime = start ∧ sub.durationUnit = effective.durationUnit ∧
      sub.durationValue = (if effective.durationValue = 0 then 1 else effective.durationValue) ∧
      sub.customSeconds = effective.customSeconds := by
  unfold createUserSubscriptionFromPlan at created
  split at created
  · cases created
  · split at created
    · cases created
    · split at created
      · cases created
      · rename_i lockedPlan locked
        dsimp only at created
        split at created
        · cases created
        · unfold issue at created
          split at created
          · cases created
          · rename_i endUnix ends
            obtain ⟨-, row⟩ := Prod.mk.inj (Except.ok.inj created)
            subst row
            exact ⟨lockedPlan, _, locked, rfl, ends, rfl, rfl, rfl, rfl⟩

end Restore

/-! ## A transfer that reactivates -/

def reactivatedRow (calendar : Calendar) (sub : UserSubscription) (targetUserId endTime now : Int) :
    UserSubscription :=
  recalculateSubscriptionResetWindow calendar
    { handOver sub targetUserId now with
      status := "active"
      endTime := endTime } now

@[simp] theorem reactivated_end_time (calendar : Calendar) (sub : UserSubscription)
    (targetUserId endTime now : Int) :
    (reactivatedRow calendar sub targetUserId endTime now).endTime = endTime := rfl

@[simp] theorem reactivated_status (calendar : Calendar) (sub : UserSubscription)
    (targetUserId endTime now : Int) :
    (reactivatedRow calendar sub targetUserId endTime now).status = "active" := rfl

theorem transfer_reactivates {unmarshal : String → Option (List String)}
    (ends : calcPlanEndTime unmarshal calendar sub.startTime (subscriptionDurationSnapshotToPlan sub) =
      .ok endTime) (targetUserId now : Int) :
    transferredRow unmarshal calendar sub targetUserId true now =
      if endTime ≤ now then .error "该订阅自然有效期已过，无法重新激活"
      else .ok (reactivatedRow calendar sub targetUserId endTime now) := by
  have handed : calcPlanEndTime unmarshal calendar (handOver sub targetUserId now).startTime
      (subscriptionDurationSnapshotToPlan (handOver sub targetUserId now)) = .ok endTime := ends
  rw [transferredRow, if_pos rfl, restoreTransferredSubscriptionState, handed]
  rfl

/-- A row that a purchase created, in whose end no fixed clock had a part, keeps
its natural end through whatever is written to it. A transfer that reactivates
it, by anyone to any other user at any time, is refused once that end has
passed, and otherwise makes the row active until the end that the purchase
computed for the time it started. -/
theorem reactivation_restores_natural_end (unmarshal : String → Option (List String))
    (calendar : Calendar) {tables after : Tables} {userId start : Int} {plan : SubscriptionPlan}
    {source : String} {sub : UserSubscription}
    (created : createUserSubscriptionFromPlan unmarshal calendar tables userId plan source start =
      .ok (after, sub))
    (running : ∀ lockedPlan, tables.getSubscriptionPlanById plan.id = .ok lockedPlan →
      calcFixedClockDeadlineEndTime unmarshal calendar start
        (effectivePlan plan lockedPlan source).1 = none)
    (writes : List RowWrite) (later : Tables) (targetUserId now : Int) (known : 0 < sub.id)
    (held : lookup UserSubscription.id later.subscriptions sub.id =
      some (rowAfter unmarshal calendar sub writes))
    (other : (rowAfter unmarshal calendar sub writes).userId ≠ targetUserId)
    (positive : 0 < targetUserId) (target : lookup User.id later.users targetUserId ≠ none) :
    (∃ lockedPlan, tables.getSubscriptionPlanById plan.id = .ok lockedPlan ∧
      calcPlanEndTime unmarshal calendar start (effectivePlan plan lockedPlan source).1 = .ok sub.endTime) ∧
    adminTransferUserSubscription unmarshal calendar later sub.id targetUserId true now =
      (if sub.endTime ≤ now then .error "该订阅自然有效期已过，无法重新激活"
      else .ok { later with
        users := downgradeUserGroupForSubscription later (rowAfter unmarshal calendar sub writes) now
        subscriptions := save UserSubscription.id later.subscriptions
          (reactivatedRow calendar (rowAfter unmarshal calendar sub writes) targetUserId
            sub.endTime now) }) ∧
    (reactivatedRow calendar (rowAfter unmarshal calendar sub writes) targetUserId sub.endTime
        now).endTime = sub.endTime ∧
    (reactivatedRow calendar (rowAfter unmarshal calendar sub writes) targetUserId sub.endTime
        now).status = "active" := by
  obtain ⟨lockedPlan, effective, locked, rfl, ends, started, unit, value, seconds⟩ :=
    created_end_time unmarshal calendar created
  refine ⟨⟨lockedPlan, locked, ends⟩, ?_, reactivated_end_time .., reactivated_status ..⟩
  have same := row_after_same_duration unmarshal calendar sub writes
  have natural : calcPlanEndTime unmarshal calendar (rowAfter unmarshal calendar sub writes).startTime
      (subscriptionDurationSnapshotToPlan (rowAfter unmarshal calendar sub writes)) = .ok sub.endTime := by
    rw [same.start, same.snapshot, started]
    exact snapshot_end_time unmarshal calendar unit value seconds (running lockedPlan locked) ends
  obtain ⟨user, found⟩ := Option.ne_none_iff_exists'.mp target
  have row := transfer_reactivates natural targetUserId now
  unfold adminTransferUserSubscription
  rw [if_neg (by omega), if_neg (by omega), held]
  dsimp only
  rw [if_neg other, found, row]
  by_cases passed : sub.endTime ≤ now
  · rw [if_pos passed, if_pos passed]
  · rw [if_neg passed, if_neg passed]

def hourCard : SubscriptionPlan :=
  { id := 3
    title := "Hour card"
    durationUnit := "hour"
    durationValue := 1
    totalAmount := 500 }

def hourCardTables : Tables := { users := [{ id := 7 }, { id := 8 }], plans := [hourCard.toPlanRow] }

def hourCardRow : UserSubscription :=
  newSubscription dayCount 1 7 3 hourCard "admin" "" 1000 4600

def cancelledHourCard : Tables :=
  { hourCardTables with
    subscriptions := [rowAfter readNothing dayCount hourCardRow [.cancel 2000]] }

theorem hour_card_reactivated :
    adminTransferUserSubscription readNothing dayCount cancelledHourCard 1 8 true 3000 =
      .ok { cancelledHourCard with
        subscriptions := [{ hourCardRow with
          userId := 8
          updatedAt := 3000 }] } := by
  have created : createUserSubscriptionFromPlan readNothing dayCount hourCardTables 7 hourCard
      "admin" 1000 = .ok ({ hourCardTables with
        plans := [{ hourCard.toPlanRow with soldCount := 1 }]
        subscriptions := [hourCardRow]
        nextSubscriptionId := 2 }, hourCardRow) := by decide +kernel
  have restored := reactivation_restores_natural_end readNothing dayCount created
    (fun lockedPlan locked => by
      cases locked
      decide +kernel)
    [.cancel 2000] cancelledHourCard 8 3000 (by decide) (by decide +kernel) (by decide +kernel)
    (by decide) (by decide +kernel)
  exact restored.2.1.trans (by decide +kernel)

/-- The card that is reactivated at 3000 ends when it would have ended, and not
an hour later. -/
theorem hour_card_not_extended :
    ((adminTransferUserSubscription readNothing dayCount cancelledHourCard 1 8 true 3000).map
        fun tables => tables.subscriptions.map UserSubscription.endTime) = .ok [4600] ∧
      calcPlanEndTime readNothing dayCount 3000 hourCard = .ok 6600 := by
  constructor <;> decide +kernel

/-! ## Migration to another plan -/

section Migrate
variable (calendar : Calendar)

/-- `model/subscription.go::alignMigratedSubscriptionResetWindow`. -/
def alignMigratedSubscriptionResetWindow (sub : UserSubscription) (plan : PlanRow) (now : Int) :
    Int × Int :=
  if normalizeResetPeriod plan.quotaResetPeriod = "never" then (0, 0)
  else
    let baseUnix := Subscription.windowBase (metered sub)
    let base := advanceWindow calendar plan.resetRule sub.endTime now (windowRounds baseUnix now)
      baseUnix
    (base, calcNextResetTime calendar base plan.resetRule sub.endTime)

def preserveEntitlement (sourceTotal sourceUsed targetTotal : Int) : Int × Int :=
  if sourceTotal ≤ 0 ∨ targetTotal ≤ 0 then (targetTotal, 0)
  else
    let remaining := max 0 (sourceTotal - sourceUsed)
    let total := max targetTotal remaining
    (total, max 0 (total - remaining))

/-- `model/subscription.go::preserveQuotaSubscriptionEntitlement`. -/
def preserveQuotaSubscriptionEntitlement (source : UserSubscription) (targetPlan : PlanRow) : Int × Int :=
  preserveEntitlement source.amountTotal source.amountUsed targetPlan.totalAmount

/-- `model/subscription.go::preserveRequestCountSubscriptionEntitlement`. -/
def preserveRequestCountSubscriptionEntitlement (source : UserSubscription) (targetPlan : PlanRow) :
    Int × Int :=
  preserveEntitlement source.requestCountTotal source.requestCountUsed targetPlan.requestCountTotal

def migrationError (source : UserSubscription) (targetPlan : PlanRow) : Option String :=
  let sourceResourceType := normalizeSubscriptionResourceType source.resourceType
  let targetResourceType := normalizeSubscriptionResourceType targetPlan.resourceType
  let targetGroup := trimSpace targetPlan.upgradeGroup
  let sourceGroup := trimSpace source.upgradeGroup
  if sourceResourceType ≠ targetResourceType then
    some s!"resource type mismatch: source={sourceResourceType} target={targetResourceType}"
  else if targetGroup ≠ "" ∧ sourceGroup ≠ "" ∧ targetGroup ≠ sourceGroup then
    some s!"target plan group mismatch: target={targetGroup} source={sourceGroup}"
  else none

def migratedGroup (source : UserSubscription) (targetPlan : PlanRow) : String :=
  if trimSpace targetPlan.upgradeGroup = "" then trimSpace source.upgradeGroup
  else trimSpace targetPlan.upgradeGroup

def migrateUserGroup (tables : Tables) (source : UserSubscription) (targetPlan : PlanRow) :
    List User × String :=
  let targetGroup := migratedGroup source targetPlan
  let prevGroup := trimSpace source.prevUserGroup
  let currentGroup := tables.userGroup source.userId
  if targetGroup = "" ∨ currentGroup = targetGroup then (tables.users, prevGroup)
  else (update User.id tables.users source.userId fun user => { user with group := targetGroup },
    if prevGroup = "" then currentGroup else prevGroup)

def migratedAmounts (source : UserSubscription) (targetPlan : PlanRow) : Int × Int :=
  if normalizeSubscriptionResourceType targetPlan.resourceType = "request_count" then (0, 0)
  else preserveQuotaSubscriptionEntitlement source targetPlan

def migratedCounts (source : UserSubscription) (targetPlan : PlanRow) : Int × Int :=
  if normalizeSubscriptionResourceType targetPlan.resourceType = "request_count" then
    preserveRequestCountSubscriptionEntitlement source targetPlan
  else (0, 0)

/-- The row that a migration inserts. -/
@[simps] def migratedRow (id : Int) (source : UserSubscription) (targetPlan : PlanRow) (prevGroup : String)
    (now : Int) : UserSubscription :=
  { id := id
    userId := source.userId
    planId := targetPlan.id
    amountTotal := (migratedAmounts source targetPlan).1
    amountUsed := (migratedAmounts source targetPlan).2
    resourceType := normalizeSubscriptionResourceType targetPlan.resourceType
    requestCountTotal := (migratedCounts source targetPlan).1
    requestCountUsed := (migratedCounts source targetPlan).2
    requestCountPeriodTotal := targetPlan.requestCountPeriodTotal
    requestCountPeriodUsed := source.requestCountPeriodUsed
    resetPeriod := normalizeResetPeriod targetPlan.quotaResetPeriod
    resetCustomSeconds := targetPlan.quotaResetCustomSeconds
    resetUseFixedClock := targetPlan.quotaResetUseFixedClock
    resetFixedSeconds := targetPlan.quotaResetFixedSeconds
    allowedGroupsJSON := trimSpace targetPlan.allowedGroupsJSON
    allowedModelsJSON := trimSpace targetPlan.allowedModelsJSON
    allowedVendorIDsJSON := trimSpace targetPlan.allowedVendorIDsJSON
    durationUnit := targetPlan.durationUnit
    durationValue := targetPlan.durationValue
    customSeconds := targetPlan.customSeconds
    startTime := source.startTime
    endTime := source.endTime
    source := "migration"
    lastResetTime := (alignMigratedSubscriptionResetWindow calendar source targetPlan now).1
    nextResetTime := (alignMigratedSubscriptionResetWindow calendar source targetPlan now).2
    upgradeGroup := migratedGroup source targetPlan
    prevUserGroup := prevGroup
    createdAt := now
    updatedAt := now }

/-- `model/subscription.go::createMigratedUserSubscriptionTx`. -/
def createMigratedUserSubscription (tables : Tables) (source : UserSubscription)
    (targetPlan : PlanRow) (now : Int) : Except String (Tables × UserSubscription) :=
  match migrationError source targetPlan with
  | some error => .error error
  | none =>
    let (users, prevGroup) := migrateUserGroup tables source targetPlan
    let newSub := migratedRow calendar tables.nextSubscriptionId source targetPlan prevGroup now
    .ok ({ tables with
      users := users
      subscriptions := tables.subscriptions ++ [newSub]
      nextSubscriptionId := tables.nextSubscriptionId + 1 }, newSub)

/-- The stored row after `maybeResetUserSubscriptionWithPlanTx`. -/
def maybeResetUserSubscriptionWithPlan (sub : UserSubscription) (now : Int) : UserSubscription :=
  let result := Subscription.maybeResetUserSubscriptionWithPlan calendar (metered sub) now
  if result.saved then writeMetered sub result.sub else sub

end Migrate

/-! ## What a due reset leaves to a migration -/

section Due
variable {calendar : Calendar} {rule : ResetRule} {endUnix start base now : Int}

theorem boundary_positive (boundary : Boundary calendar rule endUnix start base) :
    base = start ∨ 0 < base := by
  cases boundary with
  | start => exact .inl rfl
  | next base _ positive => exact .inr positive

theorem advanced_boundary (calendar : Calendar) (rule : ResetRule) (endUnix now start : Int) :
    Boundary calendar rule endUnix start
      (advanceWindow calendar rule endUnix now (windowRounds start now) start) :=
  advance_window_boundary .start (windowRounds start now)

theorem advance_still
    (idle : ¬ (0 < calcNextResetTime calendar base rule endUnix ∧
      calcNextResetTime calendar base rule endUnix ≤ now)) :
    advanceWindow calendar rule endUnix now fuel base = base := by
  cases fuel with
  | zero => rfl
  | succ fuel => exact if_neg idle

theorem advance_due
    (due : 0 < calcNextResetTime calendar base rule endUnix ∧
      calcNextResetTime calendar base rule endUnix ≤ now) :
    let reached := advanceWindow calendar rule endUnix now (windowRounds base now) base
    base < reached ∧ 0 < reached ∧ reached ≤ now := by
  have ended := advance_window_finished calendar rule endUnix now base (Nat.le_refl _)
  have bounds := advance_window_bounds calendar rule endUnix now base (windowRounds base now)
  have positive := boundary_positive (advanced_boundary calendar rule endUnix now base)
  rcases bounds with same | ⟨moved, reached⟩
  · rw [same] at ended
    exact absurd due ended
  · exact ⟨moved, positive.resolve_left (by omega), reached⟩

def ResetDue (calendar : Calendar) (sub : Subscription.UserSubscription) (now : Int) : Prop :=
  ¬ (0 < sub.nextResetTime ∧ now < sub.nextResetTime) ∧ sub.resetPeriod ≠ .never ∧
    0 < calcNextResetTime calendar (Subscription.windowBase sub) (Subscription.resetRule sub) sub.endTime ∧
    calcNextResetTime calendar (Subscription.windowBase sub) (Subscription.resetRule sub) sub.endTime ≤ now

instance (calendar : Calendar) (sub : Subscription.UserSubscription) (now : Int) :
    Decidable (ResetDue calendar sub now) :=
  inferInstanceAs (Decidable (_ ∧ _))

variable {sub : Subscription.UserSubscription}

theorem reset_when_due (due : ResetDue calendar sub now) :
    Subscription.maybeResetUserSubscriptionWithPlan calendar sub now =
      ⟨(Subscription.clearWindowUsage
        (Subscription.recalculateSubscriptionResetWindow calendar sub now)).touch now, true⟩ := by
  obtain ⟨reached, resets, come⟩ := due
  obtain ⟨moved, -, past⟩ := advance_due come
  unfold Subscription.maybeResetUserSubscriptionWithPlan
  rw [if_neg reached, if_neg resets]
  refine if_pos ?_
  rw [Subscription.recalculateSubscriptionResetWindow, if_neg resets]
  exact ⟨moved, past⟩

theorem reset_not_due (idle : ¬ ResetDue calendar sub now) :
    (Subscription.maybeResetUserSubscriptionWithPlan calendar sub now).saved = false ∨
    ∃ next, Subscription.maybeResetUserSubscriptionWithPlan calendar sub now =
        ⟨(sub.moveWindow (Subscription.windowBase sub) next).touch now, true⟩ ∧
      next = calcNextResetTime calendar (Subscription.windowBase sub) (Subscription.resetRule sub)
        sub.endTime ∧
      (Subscription.windowBase sub ≠ sub.lastResetTime ∨ next ≠ sub.nextResetTime) := by
  by_cases isOpen : Subscription.WindowOpen sub now
  · exact .inl (by rw [Subscription.reset_window_open calendar isOpen])
  obtain ⟨resets, reached⟩ := not_or.mp isOpen
  have still := @advance_still calendar (Subscription.resetRule sub) sub.endTime
    (Subscription.windowBase sub) now (windowRounds (Subscription.windowBase sub) now)
    fun come => idle ⟨reached, resets, come⟩
  unfold Subscription.maybeResetUserSubscriptionWithPlan
  rw [if_neg reached, if_neg resets, Subscription.recalculateSubscriptionResetWindow, if_neg resets, still]
  dsimp only
  rw [Subscription.UserSubscription.moveWindow_lastResetTime, if_neg (by omega)]
  by_cases changed : (sub.moveWindow (Subscription.windowBase sub)
      (calcNextResetTime calendar (Subscription.windowBase sub) (Subscription.resetRule sub)
        sub.endTime)).nextResetTime = 0 ∧
      (Subscription.windowBase sub ≠ sub.lastResetTime ∨
        (sub.moveWindow (Subscription.windowBase sub)
          (calcNextResetTime calendar (Subscription.windowBase sub) (Subscription.resetRule sub)
            sub.endTime)).nextResetTime ≠ sub.nextResetTime)
  · rw [if_pos changed]
    exact .inr ⟨_, rfl, rfl, changed.2⟩
  · rw [if_neg changed]
    exact .inl rfl

theorem window_base_kept :
    (if Subscription.windowBase sub ≤ 0 then sub.startTime else Subscription.windowBase sub) =
      Subscription.windowBase sub := by
  unfold Subscription.windowBase
  by_cases unset : sub.lastResetTime ≤ 0
  · simp only [unset, if_true, ite_self]
  · simp only [unset, if_false]

theorem window_base_written (source : UserSubscription) (after : Subscription.UserSubscription) :
    Subscription.windowBase (metered (writeMetered source after)) =
      if after.lastResetTime ≤ 0 then source.startTime else after.lastResetTime := rfl

end Due

section Commute
variable (calendar : Calendar)

def NothingCleared (source : UserSubscription) (targetPlan : PlanRow) : Prop :=
  if normalizeSubscriptionResourceType targetPlan.resourceType = "request_count" then
    if Subscription.hasSeparatePeriodRequestCounter (metered source) then
      source.requestCountPeriodUsed = 0
    else source.requestCountTotal ≤ 0 ∨ targetPlan.requestCountTotal ≤ 0 ∨
      source.requestCountUsed = 0
  else
    (Subscription.hasSeparatePeriodRequestCounter (metered source) = true →
      source.requestCountPeriodUsed = 0) ∧
    (source.amountTotal ≤ 0 ∨ targetPlan.totalAmount ≤ 0 ∨ source.amountUsed = 0)

instance (source : UserSubscription) (targetPlan : PlanRow) :
    Decidable (NothingCleared source targetPlan) := by
  unfold NothingCleared
  infer_instance

def WindowsMeet (source : UserSubscription) (targetPlan : PlanRow) (now : Int) : Prop :=
  normalizeResetPeriod targetPlan.quotaResetPeriod = "never" ∨
  ∃ start ≤ now,
    Boundary calendar targetPlan.resetRule source.endTime (Subscription.windowBase (metered source)) start ∧
    Boundary calendar targetPlan.resetRule source.endTime
      (recalculateSubscriptionResetWindow calendar source now).lastResetTime start

theorem preserve_same_iff :
    preserveEntitlement total used targetTotal = preserveEntitlement total 0 targetTotal ↔
      total ≤ 0 ∨ targetTotal ≤ 0 ∨ used = 0 := by
  unfold preserveEntitlement
  by_cases free : total ≤ 0 ∨ targetTotal ≤ 0
  · rw [if_pos free, if_pos free]
    exact ⟨fun _ => by omega, fun _ => rfl⟩
  · rw [if_neg free, if_neg free, Prod.mk.injEq]
    omega

theorem aligned_same_iff {rule : ResetRule} {endUnix now old new : Int} (past : old ≤ now) :
    advanceWindow calendar rule endUnix now (windowRounds new now) new =
        advanceWindow calendar rule endUnix now (windowRounds old now) old ↔
      ∃ start ≤ now, Boundary calendar rule endUnix old start ∧
        Boundary calendar rule endUnix new start := by
  constructor
  · intro same
    refine ⟨_, ?_, advanced_boundary calendar rule endUnix now old, ?_⟩
    · have bounds := advance_window_bounds calendar rule endUnix now old (windowRounds old now)
      omega
    · rw [← same]
      exact advanced_boundary calendar rule endUnix now new
  · rintro ⟨start, reached, fromOld, fromNew⟩
    rw [advance_window_from_boundary fromOld reached (Nat.le_refl _),
      advance_window_from_boundary fromNew reached (Nat.le_refl _)]

theorem migrated_same_iff {id : Int}
    (after : Subscription.UserSubscription) :
    migratedRow calendar id (writeMetered source after) targetPlan prevGroup now =
        migratedRow calendar id source targetPlan prevGroup now ↔
      migratedAmounts (writeMetered source after) targetPlan = migratedAmounts source targetPlan ∧
      migratedCounts (writeMetered source after) targetPlan = migratedCounts source targetPlan ∧
      after.requestCountPeriodUsed = source.requestCountPeriodUsed ∧
      alignMigratedSubscriptionResetWindow calendar (writeMetered source after) targetPlan now =
        alignMigratedSubscriptionResetWindow calendar source targetPlan now := by
  constructor
  · intro same
    have parts := congrArg (fun row : UserSubscription => ((row.amountTotal, row.amountUsed),
      (row.requestCountTotal, row.requestCountUsed), row.requestCountPeriodUsed,
      (row.lastResetTime, row.nextResetTime))) same
    simpa only [migratedRow_amountTotal, migratedRow_amountUsed, migratedRow_requestCountTotal,
      migratedRow_requestCountUsed, migratedRow_requestCountPeriodUsed, migratedRow_lastResetTime,
      migratedRow_nextResetTime, writeMetered_requestCountPeriodUsed, Prod.mk.injEq,
      Prod.mk.eta] using parts
  · rintro ⟨amounts, counts, period, window⟩
    unfold migratedRow
    rw [amounts, counts, window, writeMetered_requestCountPeriodUsed, period]
    rfl

theorem migrated_needs_no_reset (id now : Int) (source : UserSubscription) (targetPlan : PlanRow)
    (prevGroup : String) :
    maybeResetUserSubscriptionWithPlan calendar
        (migratedRow calendar id source targetPlan prevGroup now) now =
      migratedRow calendar id source targetPlan prevGroup now := by
  generalize shape : metered (migratedRow calendar id source targetPlan prevGroup now) = row
  have rule : Subscription.resetRule row = targetPlan.resetRule := by
    subst shape
    simp only [Subscription.resetRule, metered, migratedRow, PlanRow.resetRule, normalize_reset_period_idem]
  have ends : row.endTime = source.endTime := by
    rw [← shape, metered_endTime, migratedRow_endTime]
  suffices unsaved : (Subscription.maybeResetUserSubscriptionWithPlan calendar row now).saved =
      false by
    unfold maybeResetUserSubscriptionWithPlan
    rw [shape]
    simp only [unsaved, Bool.false_eq_true, if_false]
  by_cases never : normalizeResetPeriod targetPlan.quotaResetPeriod = "never"
  · have stays : targetPlan.resetRule.quotaResetPeriod = .never := by
      rw [PlanRow.resetRule, reset_period_never_iff]
      exact never
    have period : row.resetPeriod = .never := by
      rw [← stays, ← rule]
      rfl
    rw [Subscription.reset_window_open calendar (.inl period)]
  · have last : row.lastResetTime =
        (alignMigratedSubscriptionResetWindow calendar source targetPlan now).1 := by
      rw [← shape, metered_lastResetTime, migratedRow_lastResetTime]
    have next : row.nextResetTime =
        (alignMigratedSubscriptionResetWindow calendar source targetPlan now).2 := by
      rw [← shape, metered_nextResetTime, migratedRow_nextResetTime]
    rw [alignMigratedSubscriptionResetWindow, if_neg never] at last next
    dsimp only at last next
    generalize old : Subscription.windowBase (metered source) = baseUnix at last next
    have reaches := boundary_positive
      (advanced_boundary calendar targetPlan.resetRule source.endTime now baseUnix)
    have base : Subscription.windowBase row = row.lastResetTime := by
      have started : row.startTime = source.startTime := by
        rw [← shape, metered_startTime, migratedRow_startTime]
      have unset : baseUnix ≤ 0 → baseUnix = source.startTime := by
        subst old
        intro low
        simp only [Subscription.windowBase, metered_lastResetTime, metered_startTime] at low ⊢
        split at low <;> split <;> omega
      unfold Subscription.windowBase
      split <;> omega
    have follows : calcNextResetTime calendar (Subscription.windowBase row)
        (Subscription.resetRule row) row.endTime = row.nextResetTime := by
      rw [base, rule, ends, next, last]
    have idle : ¬ ResetDue calendar row now := by
      rintro ⟨-, -, positive, come⟩
      have finished := advance_window_finished calendar targetPlan.resetRule source.endTime now
        baseUnix (Nat.le_refl _)
      rw [follows, next] at positive come
      exact finished ⟨positive, come⟩
    rcases reset_not_due idle with unsaved | ⟨following, -, same, changed⟩
    · exact unsaved
    · rw [base] at changed
      rw [follows] at same
      exact absurd changed (by simp [same])

theorem reset_source_cases (source : UserSubscription) (now : Int) :
    ∃ after, maybeResetUserSubscriptionWithPlan calendar source now = writeMetered source after ∧
      (¬ ResetDue calendar (metered source) now →
        after.amountUsed = source.amountUsed ∧ after.requestCountUsed = source.requestCountUsed ∧
        after.requestCountPeriodUsed = source.requestCountPeriodUsed ∧
        Subscription.windowBase (metered (writeMetered source after)) =
          Subscription.windowBase (metered source)) ∧
      (ResetDue calendar (metered source) now →
        after = (Subscription.clearWindowUsage (Subscription.recalculateSubscriptionResetWindow
          calendar (metered source) now)).touch now) := by
  unfold maybeResetUserSubscriptionWithPlan
  by_cases due : ResetDue calendar (metered source) now
  · rw [reset_when_due due]
    exact ⟨_, rfl, fun idle => absurd due idle, fun _ => rfl⟩
  · rcases reset_not_due due with unsaved | ⟨next, shape, -, -⟩
    · refine ⟨metered source, ?_, fun _ => ⟨rfl, rfl, rfl, rfl⟩, fun come => absurd come due⟩
      simp only [unsaved, Bool.false_eq_true, if_false, write_metered_self]
    · rw [shape]
      refine ⟨_, rfl, fun _ => ⟨rfl, rfl, rfl, ?_⟩, fun come => absurd come due⟩
      exact @window_base_kept (metered source)

theorem cleared_row (sub : Subscription.UserSubscription) (last next now : Int) :
    (Subscription.clearWindowUsage (sub.moveWindow last next)).touch now =
      ((sub.moveWindow last next).setUsage 0
        (if Subscription.hasSeparatePeriodRequestCounter sub then sub.requestCountUsed else 0)
        (if Subscription.hasSeparatePeriodRequestCounter sub then 0
          else sub.requestCountPeriodUsed)).touch now := by
  have same : Subscription.hasSeparatePeriodRequestCounter (sub.moveWindow last next) =
      Subscription.hasSeparatePeriodRequestCounter sub := rfl
  unfold Subscription.clearWindowUsage
  rw [same]
  by_cases separate : Subscription.hasSeparatePeriodRequestCounter sub = true
  · simp only [separate, if_true]
    rfl
  · simp only [separate, if_false, Bool.false_eq_true]
    rfl

theorem migrated_amounts_written (source : UserSubscription)
    (after : Subscription.UserSubscription) (targetPlan : PlanRow) :
    migratedAmounts (writeMetered source after) targetPlan =
      if normalizeSubscriptionResourceType targetPlan.resourceType = "request_count" then (0, 0)
      else preserveEntitlement source.amountTotal after.amountUsed targetPlan.totalAmount := rfl

theorem migrated_counts_written (source : UserSubscription)
    (after : Subscription.UserSubscription) (targetPlan : PlanRow) :
    migratedCounts (writeMetered source after) targetPlan =
      if normalizeSubscriptionResourceType targetPlan.resourceType = "request_count" then
        preserveEntitlement source.requestCountTotal after.requestCountUsed targetPlan.requestCountTotal
      else (0, 0) := rfl

theorem align_by_base
    (same : Subscription.windowBase (metered (writeMetered source after)) =
      Subscription.windowBase (metered source)) (targetPlan : PlanRow) (now : Int) :
    alignMigratedSubscriptionResetWindow calendar (writeMetered source after) targetPlan now =
      alignMigratedSubscriptionResetWindow calendar source targetPlan now := by
  unfold alignMigratedSubscriptionResetWindow
  rw [same, writeMetered_endTime]

theorem align_same_iff {source : UserSubscription} {after : Subscription.UserSubscription}
    {targetPlan : PlanRow} {now : Int} (due : ResetDue calendar (metered source) now)
    (last : after.lastResetTime = (recalculateSubscriptionResetWindow calendar source now).lastResetTime) :
    alignMigratedSubscriptionResetWindow calendar (writeMetered source after) targetPlan now =
        alignMigratedSubscriptionResetWindow calendar source targetPlan now ↔
      WindowsMeet calendar source targetPlan now := by
  unfold alignMigratedSubscriptionResetWindow WindowsMeet
  by_cases never : normalizeResetPeriod targetPlan.quotaResetPeriod = "never"
  · rw [if_pos never, if_pos never]
    exact ⟨fun _ => .inl never, fun _ => rfl⟩
  obtain ⟨-, resets, come⟩ := due
  obtain ⟨moved, positive, past⟩ := advance_due come
  have reached : (recalculateSubscriptionResetWindow calendar source now).lastResetTime =
      advanceWindow calendar (Subscription.resetRule (metered source)) (metered source).endTime now
        (windowRounds (Subscription.windowBase (metered source)) now)
        (Subscription.windowBase (metered source)) := by
    rw [recalculateSubscriptionResetWindow, writeMetered_lastResetTime,
      Subscription.recalculateSubscriptionResetWindow, if_neg resets]
    rfl
  rw [if_neg never, if_neg never, window_base_written, last, if_neg (by omega), writeMetered_endTime]
  have chains := @aligned_same_iff calendar targetPlan.resetRule source.endTime now
    (Subscription.windowBase (metered source))
    (recalculateSubscriptionResetWindow calendar source now).lastResetTime (by omega)
  rw [Prod.mk.injEq]
  constructor
  · rintro ⟨same, -⟩
    exact .inr (chains.mp same)
  · intro meet
    have same := chains.mpr (meet.resolve_left never)
    exact ⟨same, by rw [same]⟩

theorem cleared_same_iff
    (cleared : after = (Subscription.clearWindowUsage
      (Subscription.recalculateSubscriptionResetWindow calendar (metered source) now)).touch now) :
    (migratedAmounts (writeMetered source after) targetPlan = migratedAmounts source targetPlan ∧
      migratedCounts (writeMetered source after) targetPlan = migratedCounts source targetPlan ∧
      after.requestCountPeriodUsed = source.requestCountPeriodUsed) ↔
      NothingCleared source targetPlan := by
  obtain ⟨last, next, moved⟩ :=
    Subscription.recalculate_moves_window calendar (metered source) now
  rw [moved, cleared_row] at cleared
  subst cleared
  rw [migrated_amounts_written, migrated_counts_written]
  unfold migratedAmounts migratedCounts NothingCleared preserveQuotaSubscriptionEntitlement
    preserveRequestCountSubscriptionEntitlement
  simp only [Subscription.UserSubscription.touch_amountUsed,
    Subscription.UserSubscription.touch_requestCountUsed,
    Subscription.UserSubscription.touch_requestCountPeriodUsed,
    Subscription.UserSubscription.setUsage_amountUsed,
    Subscription.UserSubscription.setUsage_requestCountUsed,
    Subscription.UserSubscription.setUsage_requestCountPeriodUsed]
  have amounts := @preserve_same_iff source.amountTotal source.amountUsed targetPlan.totalAmount
  have counts := @preserve_same_iff source.requestCountTotal source.requestCountUsed
    targetPlan.requestCountTotal
  rw [eq_comm] at amounts counts
  by_cases counted : normalizeSubscriptionResourceType targetPlan.resourceType = "request_count"
  · by_cases separate : Subscription.hasSeparatePeriodRequestCounter (metered source) = true
    · simp only [counted, separate, if_true, true_and, metered_requestCountUsed]
      exact eq_comm
    · simp only [counted, separate, if_true, if_false, true_and, and_true, Bool.false_eq_true,
        metered_requestCountPeriodUsed]
      exact counts
  · by_cases separate : Subscription.hasSeparatePeriodRequestCounter (metered source) = true
    · simp only [counted, separate, if_true, if_false, true_and, forall_const]
      rw [amounts, and_comm, eq_comm]
    · simp only [counted, separate, if_false, true_and, and_true, Bool.false_eq_true,
        metered_requestCountPeriodUsed, false_implies]
      exact amounts

/-- Migrating a row and resetting the new one gives the row that resetting the
old one and migrating it gives, for every source, plan and time, exactly where
the migration is refused, no reset of the source is due, or what the due reset
clears is worth nothing to the target plan and the windows of the target are
the same from the source's old window as from its new one. -/
theorem migration_commutes_iff (tables : Tables) (source : UserSubscription) (targetPlan : PlanRow)
    (now : Int) :
    (createMigratedUserSubscription calendar tables source targetPlan now).map (fun created =>
        maybeResetUserSubscriptionWithPlan calendar created.2 now) =
      (createMigratedUserSubscription calendar tables
        (maybeResetUserSubscriptionWithPlan calendar source now) targetPlan now).map Prod.snd ↔
      migrationError source targetPlan ≠ none ∨ ¬ ResetDue calendar (metered source) now ∨
        (NothingCleared source targetPlan ∧ WindowsMeet calendar source targetPlan now) := by
  obtain ⟨after, shape, kept, cleared⟩ := reset_source_cases calendar source now
  have groups : migrateUserGroup tables (writeMetered source after) targetPlan =
      migrateUserGroup tables source targetPlan := rfl
  have errors : migrationError (writeMetered source after) targetPlan =
      migrationError source targetPlan := rfl
  rw [shape]
  unfold createMigratedUserSubscription
  rw [errors, groups]
  cases refused : migrationError source targetPlan with
  | some error =>
    exact ⟨fun _ => .inl (Option.some_ne_none error), fun _ => rfl⟩
  | none =>
    dsimp only [Except.map]
    rw [migrated_needs_no_reset, Except.ok.injEq, eq_comm, migrated_same_iff]
    by_cases due : ResetDue calendar (metered source) now
    · have row := cleared due
      have last : after.lastResetTime =
          (recalculateSubscriptionResetWindow calendar source now).lastResetTime := by
        obtain ⟨last, next, moved⟩ :=
          Subscription.recalculate_moves_window calendar (metered source) now
        rw [row, recalculateSubscriptionResetWindow, moved, cleared_row]
        rfl
      rw [align_same_iff calendar due last, ← cleared_same_iff calendar row]
      constructor
      · rintro ⟨amounts, counts, period, meet⟩
        exact .inr (.inr ⟨⟨amounts, counts, period⟩, meet⟩)
      · rintro (impossible | idle | ⟨⟨amounts, counts, period⟩, meet⟩)
        · exact absurd rfl impossible
        · exact absurd due idle
        · exact ⟨amounts, counts, period, meet⟩
    · obtain ⟨amount, count, period, base⟩ := kept due
      refine ⟨fun _ => .inr (.inl due), fun _ => ⟨?_, ?_, period, ?_⟩⟩
      · rw [migrated_amounts_written, amount]
        rfl
      · rw [migrated_counts_written, count]
        rfl
      · exact align_by_base calendar base targetPlan now

end Commute

def dailyPlan : PlanRow :=
  { id := 5
    totalAmount := 1000
    quotaResetPeriod := "daily" }

def dailyRow : UserSubscription :=
  { newSubscription dayCount 1 7 5 dailyPlan.load "admin" "" 1000 2593000 with amountUsed := 900 }

/-- On the next day the row starts at zero. A migration at that moment gives the
new row what was used the day before, in a window in which no reset is due. -/
theorem stale_usage_migrated :
    ((createMigratedUserSubscription dayCount {} dailyRow dailyPlan 90000).map fun created =>
        (maybeResetUserSubscriptionWithPlan dayCount created.2 90000).amountUsed) = .ok 900 ∧
      ((createMigratedUserSubscription dayCount {}
        (maybeResetUserSubscriptionWithPlan dayCount dailyRow 90000) dailyPlan 90000).map fun created =>
          created.2.amountUsed) = .ok 0 := by
  constructor <;> decide +kernel

end NewApi.SubscriptionMoves
