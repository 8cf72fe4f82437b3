import NewApi.SubscriptionBounds
import NewApi.UsageReconcile

/-! Day-pass plans: a month card is split over some days, and a scheduler takes
one day pass out of it for each day of the plan. The books of a plan are the
passes that were made for it, and what a pass takes out of the card is what it
holds. A step is one transaction. -/
namespace NewApi.DayPassPlan
open NewApi.GuardedRun NewApi.KeyedTable
open NewApi.GoText (trimSpace)
open NewApi.ResetWindow NewApi.Subscription
open NewApi.SubscriptionStore hiding step Event
open NewApi.SubscriptionRows NewApi.SubscriptionBounds
open NewApi.UsageReconcile hiding Tables

/-! ## Days -/

/-- A calendar whose instants fall on days of the reset zone. Days come in
order, `AddDate` of one day goes to the next one, and a clock time stays on its
day. -/
structure DayCalendar extends Calendar where
  day : Int → Int
  day_mono : ∀ {first second}, first ≤ second → day first ≤ day second
  day_tomorrow : ∀ from_, day (addDateReset 0 0 1 from_) = day from_ + 1
  day_clock : ∀ seconds from_, 0 ≤ seconds → seconds < 24 * 3600 → day (atClock seconds from_) = day from_

def equalDays : DayCalendar where
  toCalendar := dayCount
  day instant := instant / 86400
  day_mono := by intros; omega
  day_tomorrow := by intros; simp only [dayCount]; omega
  day_clock := by intros; simp only [dayCount]; omega

/-- `model/subscription_day_pass_plan.go::getDerivedDayPassFixedSeconds`. -/
def getDerivedDayPassFixedSeconds (parent : UserSubscription) : Int :=
  if parent.resetUseFixedClock then
    (normalizeResetFixedClock true parent.resetFixedSeconds .daily).getD (8 * 3600)
  else 8 * 3600

/-- `model/subscription_day_pass_plan.go::calcDerivedDayPassPlanGenerateAt`. -/
def calcDerivedDayPassPlanGenerateAt (calendar : Calendar) (now : Int) (parent : UserSubscription) :
    Int :=
  let deadline := calendar.atClock (getDerivedDayPassFixedSeconds parent) now
  if deadline > now then deadline else calendar.addDateReset 0 0 1 deadline

/-- `model/subscription_day_pass_plan.go::calcNextDerivedDayPassPlanGenerateAt`. -/
def calcNextDerivedDayPassPlanGenerateAt (calendar : Calendar) (currentGenerateAt : Int)
    (parent : UserSubscription) : Int :=
  if currentGenerateAt ≤ 0 then 0
  else calendar.atClock (getDerivedDayPassFixedSeconds parent)
    (calendar.addDateReset 0 0 1 currentGenerateAt)

/-- The loop of `calcDerivedDayPassPlanMaxDays`. -/
def countPlanDays (calendar : Calendar) (parent : UserSubscription) : Nat → Int → Int
  | 0, _ => 0
  | fuel + 1, current =>
    if 0 < current ∧ current < parent.endTime then
      countPlanDays calendar parent fuel (calcNextDerivedDayPassPlanGenerateAt calendar current parent) + 1
    else 0

/-- `model/subscription_day_pass_plan.go::calcDerivedDayPassPlanMaxDays`. Every
round of the loop moves forward, so the seconds left are rounds enough. -/
def calcDerivedDayPassPlanMaxDays (calendar : Calendar) (nextGenerateAt : Int)
    (parent : UserSubscription) : Int :=
  if nextGenerateAt ≤ 0 ∨ parent.endTime ≤ 0 ∨ nextGenerateAt ≥ parent.endTime then 0
  else countPlanDays calendar parent (parent.endTime - nextGenerateAt).toNat nextGenerateAt

section Days
variable (calendar : DayCalendar) (parent : UserSubscription)

theorem fixed_seconds_within :
    0 ≤ getDerivedDayPassFixedSeconds parent ∧ getDerivedDayPassFixedSeconds parent < 24 * 3600 := by
  unfold getDerivedDayPassFixedSeconds
  split
  · cases fixed : normalizeResetFixedClock true parent.resetFixedSeconds .daily with
    | none => simp
    | some seconds =>
      simp only [normalizeResetFixedClock, resetPeriodSupportsFixedClock] at fixed
      grind
  · omega

theorem next_plan_day (positive : 0 < current) :
    calendar.day (calcNextDerivedDayPassPlanGenerateAt calendar.toCalendar current parent) =
      calendar.day current + 1 := by
  obtain ⟨low, high⟩ := fixed_seconds_within parent
  rw [calcNextDerivedDayPassPlanGenerateAt, if_neg (by omega), calendar.day_clock _ _ low high,
    calendar.day_tomorrow]

theorem next_plan_day_later (positive : 0 < current) :
    current < calcNextDerivedDayPassPlanGenerateAt calendar.toCalendar current parent := by
  have tomorrow := next_plan_day calendar parent positive
  by_contra back
  have order := calendar.day_mono (Int.not_lt.mp back)
  omega

end Days

/-! ## Rows -/

/-- The values of `SubscriptionDayPassPlan.Status`. -/
inductive PlanStatus where
  | active
  | completed
  | cancelled
  deriving DecidableEq, Repr

/-- `model/subscription_day_pass_plan.go::SubscriptionDayPassPlan`, without the
texts that only describe it. -/
structure SubscriptionDayPassPlan where
  id : Int
  userId : Int
  parentUserSubscriptionId : Int
  status : PlanStatus := .active
  totalDays : Int
  generatedDays : Int := 0
  requestCountPerDay : Int
  totalRequestCount : Int
  generatedRequestCount : Int := 0
  nextGenerateAt : Int
  lastGenerateAt : Int := 0
  lastError : String := ""
  deriving DecidableEq, Repr

structure Duration where
  subscriptionId : Int
  unit : DurationUnit
  value : Int
  deriving DecidableEq, Repr

/-- A day pass that was taken out of a parent: for which plan and which of its
days, the stored parent before and after, and the pass. -/
structure Generation where
  planId : Option Int
  dueAt : Int
  parent : UserSubscription
  charged : UserSubscription
  child : UserSubscription
  deriving DecidableEq, Repr

structure PlanTables where
  base : Database := {}
  durations : List Duration := []
  dayPassPlans : List SubscriptionDayPassPlan := []
  nextPlanId : Int := 1
  generations : List Generation := []
  deriving DecidableEq, Repr

def PlanTables.dayPassPlan (tables : PlanTables) (id : Int) : Option SubscriptionDayPassPlan :=
  lookup SubscriptionDayPassPlan.id tables.dayPassPlans id

/-- `UPDATE ... WHERE id = ?` of a day-pass plan. -/
def PlanTables.writePlan (tables : PlanTables) (id : Int)
    (change : SubscriptionDayPassPlan → SubscriptionDayPassPlan) : PlanTables :=
  { tables with dayPassPlans := update SubscriptionDayPassPlan.id tables.dayPassPlans id change }

/-! ## What a parent must be -/

inductive GenerateError where
  | invalidSubscription
  | isDayPass
  | notActive
  | notMonthly
  | notByCount
  | nothingToSplit
  deriving DecidableEq, Repr

def GenerateError.text : GenerateError → String
  | .invalidSubscription => "无效的订阅"
  | .isDayPass => "天卡不能再次派生天卡"
  | .notActive => "仅支持从生效中的月卡生成天卡"
  | .notMonthly => "当前仅支持从月卡生成天卡"
  | .notByCount => "当前仅支持按次数套餐生成天卡"
  | .nothingToSplit => "当前套餐没有可拆分的次数额度"

/-- `model/subscription.go::isDerivedDayPassSubscription`. -/
def isDerivedDayPassSubscription (sub : UserSubscription) : Bool :=
  sub.source = .derivedDayPass || sub.parentUserSubscriptionId > 0

/-- `model/subscription.go::canGenerateDerivedDayPassFromSubscription`, the
error unless it can. -/
def canGenerateDerivedDayPassFromSubscription (durations : List Duration) (sub : UserSubscription)
    (now : Int) : Option GenerateError :=
  let monthly := (lookup Duration.subscriptionId durations sub.id).any fun duration =>
    duration.unit = .month && duration.value > 0
  if sub.userId ≤ 0 ∨ sub.id ≤ 0 then some .invalidSubscription
  else if isDerivedDayPassSubscription sub then some .isDayPass
  else if sub.status ≠ .active then some .notActive
  else if sub.endTime > 0 ∧ sub.endTime ≤ now then some .notActive
  else if !monthly then some .notMonthly
  else if sub.resourceType ≠ .requestCount then some .notByCount
  else if !hasLifetimeRequestCountLimit sub ∧ getSubscriptionRequestCountPeriodLimit sub ≤ 0 then
    some .nothingToSplit
  else none

def getActiveDerivedDayPassPlanByParent (tables : PlanTables) (parentSubscriptionId : Int) :
    Option SubscriptionDayPassPlan :=
  if parentSubscriptionId ≤ 0 then none
  else first (fun one other => other.id ≤ one.id) (tables.dayPassPlans.filter fun plan =>
    plan.parentUserSubscriptionId = parentSubscriptionId && plan.status = .active)

def hasActiveChild (db : Database) (parentId now : Int) : Bool :=
  db.subscriptions.any fun child =>
    child.parentUserSubscriptionId = parentId && child.status = .active && child.endTime > now

inductive ParentError where
  | recordNotFound
  | planNotFound
  deriving DecidableEq, Repr

def readParent (calendar : Calendar) (id userId now : Int) (db : Database) :
    Except ParentError (Database × UserSubscription) :=
  match (db.subscription id).filter fun sub => sub.userId = userId with
  | none => .error .recordNotFound
  | some parent =>
    if (db.plan parent.planId).isNone then .error .planNotFound
    else .ok (openWindow calendar now db parent)

/-! ## Conversion to a plan -/

inductive CreatePlanError where
  | invalidUserId
  | invalidSubscriptionId
  | daysNotPositive
  | countNotPositive
  | parent (error : ParentError)
  | generate (error : GenerateError)
  | planInForce
  | passInForce
  | tooShort
  | atMostDays (maxDays : Int)
  | atMostCount (remaining : Int)
  deriving DecidableEq, Repr

def ParentError.text : ParentError → String
  | .recordNotFound | .planNotFound => "record not found"

def CreatePlanError.text : CreatePlanError → String
  | .invalidUserId => "无效的用户ID"
  | .invalidSubscriptionId => "无效的订阅ID"
  | .daysNotPositive => "拆分天数必须大于 0"
  | .countNotPositive => "每日转出次数必须大于 0"
  | .parent error => error.text
  | .generate error => error.text
  | .planInForce => "当前月卡已有生效中的拆分计划"
  | .passInForce => "当前月卡已有生效中的天卡，请先等待其到期"
  | .tooShort => "当前月卡剩余有效期不足，无法创建拆分计划"
  | .atMostDays maxDays => s!"当前最多仅可拆分 {maxDays} 天"
  | .atMostCount remaining => s!"当前最多可拆分 {remaining} 次"

/-- A product of two `int64`. -/
def mulInt64 (first second : Int) : Int := (first * second).bmod (2 ^ 64)

theorem mul_int64_exact {first : Int} (positive : 0 < first * second)
    (fits : first * second < 2 ^ 63) : mulInt64 first second = first * second :=
  Int.bmod_eq_of_le (by omega) (by omega)

def admitPlan (calendar : Calendar) (tables : PlanTables) (parent : UserSubscription)
    (totalDays requestCountPerDay now : Int) : Option CreatePlanError :=
  let nextGenerateAt := calcDerivedDayPassPlanGenerateAt calendar now parent
  let maxDays := calcDerivedDayPassPlanMaxDays calendar nextGenerateAt parent
  let remaining := getUserSubscriptionRemainingRequestCount parent
  match canGenerateDerivedDayPassFromSubscription tables.durations parent now with
  | some error => some (.generate error)
  | none =>
    if (getActiveDerivedDayPassPlanByParent tables parent.id).isSome then some .planInForce
    else if hasActiveChild tables.base parent.id now then some .passInForce
    else if maxDays ≤ 0 then some .tooShort
    else if totalDays > maxDays then some (.atMostDays maxDays)
    else if mulInt64 totalDays requestCountPerDay > remaining then some (.atMostCount remaining)
    else none

def newPlan (calendar : Calendar) (id userId : Int) (parent : UserSubscription)
    (totalDays requestCountPerDay now : Int) : SubscriptionDayPassPlan where
  id := id
  userId := userId
  parentUserSubscriptionId := parent.id
  totalDays := totalDays
  requestCountPerDay := requestCountPerDay
  totalRequestCount := mulInt64 totalDays requestCountPerDay
  nextGenerateAt := calcDerivedDayPassPlanGenerateAt calendar now parent

/-- `tx.Create(derivedPlan)`. -/
def PlanTables.insertPlan (tables : PlanTables) (plan : SubscriptionDayPassPlan) : PlanTables :=
  { tables with
    dayPassPlans := tables.dayPassPlans ++ [plan]
    nextPlanId := tables.nextPlanId + 1 }

/-- `model/subscription_day_pass_plan.go::CreateDerivedDayPassPlan`. -/
def createDerivedDayPassPlan (calendar : Calendar) (userId parentSubscriptionId totalDays
    requestCountPerDay now : Int) (tables : PlanTables) : Except CreatePlanError PlanTables :=
  if userId ≤ 0 then .error .invalidUserId
  else if parentSubscriptionId ≤ 0 then .error .invalidSubscriptionId
  else if totalDays ≤ 0 then .error .daysNotPositive
  else if requestCountPerDay ≤ 0 then .error .countNotPositive
  else match readParent calendar parentSubscriptionId userId now tables.base with
  | .error error => .error (.parent error)
  | .ok (base, parent) =>
    let tables := { tables with base := base }
    match admitPlan calendar tables parent totalDays requestCountPerDay now with
    | some error => .error error
    | none => .ok (tables.insertPlan
        (newPlan calendar tables.nextPlanId userId parent totalDays requestCountPerDay now))

/-! ## One day pass -/

def PlanTables.addPass (tables : PlanTables) (planId : Option Int) (dueAt : Int) (base : Database)
    (child : UserSubscription) : PlanTables :=
  let row := fun db : Database => (db.subscription child.parentUserSubscriptionId).getD {}
  { tables with
    base := base
    durations := tables.durations ++ [⟨child.id, .day, 1⟩]
    generations := tables.generations ++ [⟨planId, dueAt, row tables.base, row base, child⟩] }

inductive CreatePassError where
  | invalidUserId
  | invalidSubscriptionId
  | countNotPositive
  | parent (error : ParentError)
  | generate (error : GenerateError)
  | pass (error : DayPassError)
  deriving DecidableEq, Repr

def CreatePassError.text : CreatePassError → String
  | .invalidUserId => "无效的用户ID"
  | .invalidSubscriptionId => "无效的订阅ID"
  | .countNotPositive => "转出次数必须大于 0"
  | .parent error => error.text
  | .generate error => error.text
  | .pass error => error.text

/-- `model/subscription.go::CreateDerivedDayPassFromSubscription`. Every error
rolls its transaction back, those after the charge as well. -/
def createDerivedDayPassFromSubscription (calendar : Calendar) (userId parentSubscriptionId
    transferCount now : Int) (tables : PlanTables) : Except CreatePassError PlanTables :=
  if userId ≤ 0 then .error .invalidUserId
  else if parentSubscriptionId ≤ 0 then .error .invalidSubscriptionId
  else if transferCount ≤ 0 then .error .countNotPositive
  else match readParent calendar parentSubscriptionId userId now tables.base with
  | .error error => .error (.parent error)
  | .ok (base, parent) =>
    let tables := { tables with base := base }
    match canGenerateDerivedDayPassFromSubscription tables.durations parent now with
    | some error => .error (.generate error)
    | none =>
      match createDerivedDayPassFromParent calendar parent transferCount now
          (getActiveDerivedDayPassPlanByParent tables parent.id).isSome base with
      | .error error => .error (.pass error)
      | .ok (after, child, _) => .ok (tables.addPass none 0 after child)

/-! ## The scheduler -/

/-- `model/subscription_day_pass_plan.go::markDerivedDayPassPlanStatusTx`. -/
def markDerivedDayPassPlanStatus (tables : PlanTables) (planId : Int) (status : PlanStatus)
    (nextGenerateAt : Int) (lastError : String) : PlanTables :=
  tables.writePlan planId fun plan => { plan with
    status := status
    nextGenerateAt := nextGenerateAt
    lastError := trimSpace lastError }

/-- What goes wrong after the parent is charged: an error that the transaction
does not survive, or an error of the insert of the pass or of its token that
the scheduler answers itself. -/
inductive Fault where
  | rolledBack
  | childNotInserted (text : String)
  | tokenNotSynced (text : String)
  deriving DecidableEq, Repr

inductive ProcessError where
  | dayPassPlanNotFound
  | parent (error : ParentError)
  | database
  deriving DecidableEq, Repr

def afterPass (calendar : Calendar) (plan : SubscriptionDayPassPlan) (parent : UserSubscription)
    (parentRemainCount : Int) : PlanStatus × Int :=
  if plan.generatedDays + 1 ≥ plan.totalDays ∨ parentRemainCount ≤ 0 then (.completed, 0)
  else
    let nextGenerateAt :=
      calcNextDerivedDayPassPlanGenerateAt calendar plan.nextGenerateAt parent
    if nextGenerateAt ≤ 0 ∨ (parent.endTime > 0 ∧ nextGenerateAt ≥ parent.endTime) then
      (.completed, 0)
    else (.active, nextGenerateAt)

def progressPlan (calendar : Calendar) (plan : SubscriptionDayPassPlan) (parent : UserSubscription)
    (parentRemainCount now : Int) (row : SubscriptionDayPassPlan) : SubscriptionDayPassPlan :=
  { row with
    generatedDays := plan.generatedDays + 1
    generatedRequestCount := plan.generatedRequestCount + plan.requestCountPerDay
    lastGenerateAt := now
    lastError := ""
    status := (afterPass calendar plan parent parentRemainCount).1
    nextGenerateAt := (afterPass calendar plan parent parentRemainCount).2 }

def generateForPlan (calendar : Calendar) (plan : SubscriptionDayPassPlan)
    (parent : UserSubscription) (now : Int) (fault : Option Fault) (tables : PlanTables) :
    Except ProcessError PlanTables :=
  match createDerivedDayPassFromParent calendar parent plan.requestCountPerDay now false
      tables.base with
  | .error error => .ok (markDerivedDayPassPlanStatus tables plan.id .cancelled 0 error.text)
  | .ok (after, child, parentRemainCount) =>
    -- the parent is read again after the charge
    let charged := (after.subscription parent.id).getD parent
    match fault with
    | some .rolledBack => .error .database
    | some (.childNotInserted text) =>
      .ok (markDerivedDayPassPlanStatus { tables with base := tables.base.saveSubscription charged }
        plan.id .cancelled 0 text)
    | some (.tokenNotSynced text) =>
      .ok (markDerivedDayPassPlanStatus
        (tables.addPass (some plan.id) plan.nextGenerateAt after child) plan.id .cancelled 0 text)
    | none =>
      .ok ((tables.addPass (some plan.id) plan.nextGenerateAt after child).writePlan plan.id
        (progressPlan calendar plan charged parentRemainCount now))

/-- The transaction of `ProcessDueDerivedDayPassPlans` for one plan. -/
def processDueDerivedDayPassPlan (calendar : Calendar) (planId now : Int) (fault : Option Fault)
    (tables : PlanTables) : Except ProcessError PlanTables :=
  match tables.dayPassPlan planId with
  | none => .error .dayPassPlanNotFound
  | some plan =>
    if plan.status ≠ .active ∨ plan.nextGenerateAt ≤ 0 ∨ plan.nextGenerateAt > now then .ok tables
    else if plan.generatedDays ≥ plan.totalDays then
      .ok (markDerivedDayPassPlanStatus tables plan.id .completed 0 "")
    else match readParent calendar plan.parentUserSubscriptionId plan.userId now tables.base with
    | .error .recordNotFound =>
      .ok (markDerivedDayPassPlanStatus tables plan.id .cancelled 0 "原月卡不存在或已变更")
    | .error error => .error (.parent error)
    | .ok (base, parent) =>
      let tables := { tables with base := base }
      match canGenerateDerivedDayPassFromSubscription tables.durations parent now with
      | some error => .ok (markDerivedDayPassPlanStatus tables plan.id .cancelled 0 error.text)
      | none => generateForPlan calendar plan parent now fault tables

def dueBefore (one other : SubscriptionDayPassPlan) : Prop :=
  one.nextGenerateAt < other.nextGenerateAt ∨
    (one.nextGenerateAt = other.nextGenerateAt ∧ one.id ≤ other.id)

instance : DecidableRel dueBefore := fun _ _ => inferInstanceAs (Decidable (_ ∨ _))

def duePlanIds (limit : Nat) (now : Int) (tables : PlanTables) : List Int :=
  let limit := if limit = 0 then 100 else limit
  let due := tables.dayPassPlans.filter fun plan =>
    plan.status = .active && plan.nextGenerateAt > 0 && plan.nextGenerateAt ≤ now
  ((due.insertionSort dueBefore).take limit).map SubscriptionDayPassPlan.id

def processPlans (calendar : Calendar) (met : Int → Int × Option Fault) : List Int → PlanTables → PlanTables
  | [], tables => tables
  | planId :: rest, tables =>
    match processDueDerivedDayPassPlan calendar planId (met planId).1 (met planId).2 tables with
    | .error _ => tables
    | .ok tables => processPlans calendar met rest tables

/-- `model/subscription_day_pass_plan.go::ProcessDueDerivedDayPassPlans`. -/
def processDueDerivedDayPassPlans (calendar : Calendar) (limit : Nat) (now : Int)
    (met : Int → Int × Option Fault) (tables : PlanTables) : PlanTables :=
  processPlans calendar met (duePlanIds limit now tables) tables

/-! ## Cancellation -/

inductive CancelError where
  | invalidArguments
  | recordNotFound
  | notActive
  deriving DecidableEq, Repr

def cancelPlan (planId : Int) (readable : SubscriptionDayPassPlan → Bool) (tables : PlanTables) :
    Except CancelError PlanTables :=
  match (tables.dayPassPlan planId).filter readable with
  | none => .error .recordNotFound
  | some plan =>
    if plan.status ≠ .active then .error .notActive
    else .ok (markDerivedDayPassPlanStatus tables plan.id .cancelled 0 "")

/-- `model/subscription_day_pass_plan.go::CancelDerivedDayPassPlan`. -/
def cancelDerivedDayPassPlan (userId planId : Int) (tables : PlanTables) : Except CancelError PlanTables :=
  if userId ≤ 0 ∨ planId ≤ 0 then .error .invalidArguments
  else cancelPlan planId (fun plan => plan.userId = userId) tables

/-- `model/subscription_day_pass_plan.go::AdminCancelDerivedDayPassPlan`. -/
def adminCancelDerivedDayPassPlan (planId : Int) (tables : PlanTables) : Except CancelError PlanTables :=
  if planId ≤ 0 then .error .invalidArguments
  else cancelPlan planId (fun _ => true) tables

/-! ## The system -/

inductive Event where
  | base (event : SubscriptionStore.Event)
  | createPlan (userId parentSubscriptionId totalDays requestCountPerDay now : Int)
  | createPass (userId parentSubscriptionId transferCount now : Int)
  | processPlan (planId now : Int) (fault : Option Fault)
  | cancel (userId planId : Int)
  | adminCancel (planId : Int)

def purchasedDuration (calendar : Calendar) (db : Database) : SubscriptionStore.Event → List Duration
  | .create userId planId terms source now =>
    match createUserSubscriptionFromPlan calendar userId planId terms source now db, db.plan planId with
    | .ok (_, sub), some lockedPlan =>
      let effective := (effectiveTerms terms lockedPlan source).1
      [⟨sub.id, effective.durationUnit, effective.durationValue⟩]
    | _, _ => []
  | _ => []

def outcome {Error : Type} (before : PlanTables) : Except Error PlanTables → PlanTables
  | .ok after => after
  | .error _ => before

def step (calendar : Calendar) (tables : PlanTables) : Event → PlanTables
  | .base event => { tables with
      base := SubscriptionStore.step calendar tables.base event
      durations := tables.durations ++ purchasedDuration calendar tables.base event }
  | .createPlan userId parentSubscriptionId totalDays requestCountPerDay now =>
    outcome tables (createDerivedDayPassPlan calendar userId parentSubscriptionId totalDays
      requestCountPerDay now tables)
  | .createPass userId parentSubscriptionId transferCount now =>
    outcome tables (createDerivedDayPassFromSubscription calendar userId parentSubscriptionId
      transferCount now tables)
  | .processPlan planId now fault =>
    outcome tables (processDueDerivedDayPassPlan calendar planId now fault tables)
  | .cancel userId planId => outcome tables (cancelDerivedDayPassPlan userId planId tables)
  | .adminCancel planId => outcome tables (adminCancelDerivedDayPassPlan planId tables)

theorem process_plans_run (calendar : Calendar) (met : Int → Int × Option Fault) (planIds : List Int)
    (tables : PlanTables) :
    ∃ done, done <+: planIds ∧ processPlans calendar met planIds tables =
      run (step calendar) tables (done.map fun planId => .processPlan planId (met planId).1 (met planId).2) := by
  induction planIds generalizing tables with
  | nil => exact ⟨[], List.prefix_rfl, rfl⟩
  | cons planId rest ih =>
    unfold processPlans
    cases processed : processDueDerivedDayPassPlan calendar planId (met planId).1 (met planId).2 tables with
    | error error => exact ⟨[], List.nil_prefix, rfl⟩
    | ok after =>
      obtain ⟨done, shorter, same⟩ := ih after
      refine ⟨planId :: done, List.cons_prefix_cons.mpr ⟨rfl, shorter⟩, ?_⟩
      rw [List.map_cons, run_cons, step, processed]
      exact same

/-- A round of the scheduler is a run of the transactions of plans that are due, up to
the first that fails. -/
theorem process_due_runs (calendar : Calendar) (limit : Nat) (now : Int)
    (met : Int → Int × Option Fault) (tables : PlanTables) :
    ∃ done, done <+: duePlanIds limit now tables ∧
      processDueDerivedDayPassPlans calendar limit now met tables =
        run (step calendar) tables
          (done.map fun planId => .processPlan planId (met planId).1 (met planId).2) :=
  process_plans_run calendar met _ tables

/-! ## What a transaction does to the rows -/

/-- What a transaction does to the subscriptions and to the history: what the
store does, nothing, or what it does with the parent that it has read. A scheduled
pass that was not inserted leaves the charge alone. -/
inductive Effect (days : Calendar) (before after : PlanTables) : Prop
  | stored (event : SubscriptionStore.Event)
      (rows : after.base = SubscriptionStore.step days before.base event)
      (history : after.generations = before.generations)
  | untouched (rows : after.base = before.base) (history : after.generations = before.generations)
  | opened {id userId now : Int} {base : Database} {parent : UserSubscription}
      (read : readParent days id userId now before.base = .ok (base, parent))
      (rows : after.base = base) (history : after.generations = before.generations)
  | charged {id userId now count remain : Int} {base made : Database}
      {parent child : UserSubscription} {planInForce : Bool}
      (read : readParent days id userId now before.base = .ok (base, parent))
      (created : createDerivedDayPassFromParent days parent count now planInForce base =
        .ok (made, child, remain))
      (rows : after.base = base.saveSubscription ((made.subscription parent.id).getD parent))
      (history : after.generations = before.generations)
  | passed {id userId now count remain : Int} {base made : Database}
      {parent child : UserSubscription} {planInForce : Bool} (planId : Option Int) (dueAt : Int)
      (read : readParent days id userId now before.base = .ok (base, parent))
      (created : createDerivedDayPassFromParent days parent count now planInForce base =
        .ok (made, child, remain))
      (rows : after.base = made)
      (history : after.generations =
        ({ before with base := base }.addPass planId dueAt made child).generations)

section Effects
variable {tables after : PlanTables}

theorem create_pass_cases
    (created : createDerivedDayPassFromSubscription days userId parentId count now tables = .ok after) :
    0 < parentId ∧ ∃ base parent made child remain,
      readParent days parentId userId now tables.base = .ok (base, parent) ∧
      createDerivedDayPassFromParent days parent count now
        (getActiveDerivedDayPassPlanByParent tables parent.id).isSome base = .ok (made, child, remain) ∧
      after = { tables with base := base }.addPass none 0 made child := by
  unfold createDerivedDayPassFromSubscription at created
  split at created
  · cases created
  · split at created
    · cases created
    · rename_i positive
      split at created
      · cases created
      · split at created
        · cases created
        · rename_i base parent read
          dsimp only at created
          split at created
          · cases created
          · split at created
            · cases created
            · rename_i made child remain passed
              cases created
              exact ⟨Int.not_le.mp positive, base, parent, made, child, remain, read, passed, rfl⟩

theorem create_pass_effect
    (created : createDerivedDayPassFromSubscription days userId parentId count now tables =
      .ok after) : Effect days tables after := by
  obtain ⟨-, base, parent, made, child, remain, read, passed, rfl⟩ := create_pass_cases created
  exact .passed none 0 read passed rfl rfl

theorem create_plan_cases
    (created : createDerivedDayPassPlan days userId parentId totalDays perDay now tables = .ok after) :
    0 < totalDays ∧ 0 < perDay ∧ ∃ base parent,
      readParent days parentId userId now tables.base = .ok (base, parent) ∧
      admitPlan days { tables with base := base } parent totalDays perDay now = none ∧
      after = { tables with base := base }.insertPlan
        (newPlan days tables.nextPlanId userId parent totalDays perDay now) := by
  unfold createDerivedDayPassPlan at created
  split at created
  · cases created
  · split at created
    · cases created
    · split at created
      · cases created
      · rename_i days
        split at created
        · cases created
        · rename_i requests
          split at created
          · cases created
          · rename_i base parent read
            dsimp only at created
            split at created
            · cases created
            · rename_i admitted
              cases created
              exact ⟨Int.not_le.mp days, Int.not_le.mp requests, base, parent, read, admitted, rfl⟩

theorem create_plan_effect
    (created : createDerivedDayPassPlan days userId parentId totalDays perDay now tables =
      .ok after) : Effect days tables after := by
  obtain ⟨-, -, base, parent, read, -, rfl⟩ := create_plan_cases created
  exact .opened read rfl rfl

theorem process_effect
    (processed : processDueDerivedDayPassPlan days planId now fault tables = .ok after) :
    Effect days tables after := by
  unfold processDueDerivedDayPassPlan at processed
  split at processed
  · cases processed
  · split at processed
    · cases processed
      exact .untouched rfl rfl
    · split at processed
      · cases processed
        exact .untouched rfl rfl
      · split at processed
        · cases processed
          exact .untouched rfl rfl
        · cases processed
        · rename_i base parent read
          dsimp only at processed
          split at processed
          · cases processed
            exact .opened read rfl rfl
          · unfold generateForPlan at processed
            split at processed
            · cases processed
              exact .opened read rfl rfl
            · rename_i made
              split at processed
              · cases processed
              · cases processed
                exact .charged read made rfl rfl
              · cases processed
                exact .passed _ _ read made rfl rfl
              · cases processed
                exact .passed _ _ read made rfl rfl

theorem cancel_effect {readable : SubscriptionDayPassPlan → Bool}
    (cancelled : cancelPlan planId readable tables = .ok after) : Effect days tables after := by
  unfold cancelPlan at cancelled
  split at cancelled
  · cases cancelled
  · split at cancelled
    · cases cancelled
    · cases cancelled
      exact .untouched rfl rfl

theorem outcome_effect {Error : Type} {result : Except Error PlanTables}
    (accepted : ∀ after, result = .ok after → Effect days tables after) :
    Effect days tables (outcome tables result) := by
  cases result with
  | ok after => exact accepted after rfl
  | error error => exact .untouched rfl rfl

theorem step_effect (days : Calendar) (tables : PlanTables) (event : Event) :
    Effect days tables (step days tables event) := by
  cases event with
  | base event => exact .stored event rfl rfl
  | createPlan => exact outcome_effect fun after => create_plan_effect
  | createPass => exact outcome_effect fun after => create_pass_effect
  | processPlan => exact outcome_effect fun after => process_effect
  | cancel userId planId =>
    refine outcome_effect fun after cancelled => ?_
    unfold cancelDerivedDayPassPlan at cancelled
    split at cancelled
    · cases cancelled
    · exact cancel_effect cancelled
  | adminCancel planId =>
    refine outcome_effect fun after cancelled => ?_
    unfold adminCancelDerivedDayPassPlan at cancelled
    split at cancelled
    · cases cancelled
    · exact cancel_effect cancelled

end Effects

/-! ## The books of a plan -/

def madeFor (generations : List Generation) (planId : Int) : List Generation :=
  generations.filter fun generation => generation.planId = some planId

def Generation.count (generation : Generation) : Int := generation.child.requestCountTotal

/-- What a plan says of itself agrees with the passes that were made for it: as
many days and requests, within its totals, and no two passes for one day. -/
structure PlanBooks (calendar : DayCalendar) (generations : List Generation)
    (plan : SubscriptionDayPassPlan) : Prop where
  days : plan.generatedDays = (madeFor generations plan.id).length
  withinDays : plan.generatedDays ≤ plan.totalDays
  requests : plan.generatedRequestCount = ((madeFor generations plan.id).map Generation.count).sum
  perDay : plan.generatedRequestCount = plan.generatedDays * plan.requestCountPerDay
  withinRequests : plan.generatedRequestCount ≤ plan.totalRequestCount
  onceADay : ((madeFor generations plan.id).map fun generation =>
    calendar.day generation.dueAt).Nodup

/-- A pass takes out of its parent what it holds: each counter that the parent
keeps rises by exactly that, no other does, and what the parent has left falls
by it. -/
structure Debited (generation : Generation) : Prop where
  mine : generation.charged.id = generation.parent.id ∧
    generation.child.parentUserSubscriptionId = generation.parent.id
  positive : 0 < generation.count
  unspent : generation.child.requestCountUsed = 0
  lifetime : generation.charged.requestCountUsed = generation.parent.requestCountUsed +
    if countsLifetime generation.parent then generation.count else 0
  period : generation.charged.requestCountPeriodUsed = generation.parent.requestCountPeriodUsed +
    if hasSeparatePeriodRequestCounter generation.parent then generation.count else 0
  amount : generation.charged.amountUsed = generation.parent.amountUsed
  remaining : getUserSubscriptionRemainingRequestCount generation.charged + generation.count =
    getUserSubscriptionRemainingRequestCount generation.parent

def PaidFor (generations : List Generation) (sub : UserSubscription) : Prop :=
  sub.parentUserSubscriptionId ≠ 0 → ∃ generation ∈ generations,
    generation.child.id = sub.id ∧ generation.parent.id = sub.parentUserSubscriptionId ∧
      generation.count = sub.requestCountTotal

/-- The plans keep their books, every pass was taken out of its parent, and
every day pass of the table was made once. -/
structure Conserved (calendar : DayCalendar) (tables : PlanTables) : Prop where
  plans : ∀ plan ∈ tables.dayPassPlans, PlanBooks calendar tables.generations plan
  debits : ∀ generation ∈ tables.generations, Debited generation
  passes : ∀ sub ∈ tables.base.subscriptions, PaidFor tables.generations sub
  once : (tables.generations.map fun generation => generation.child.id).Nodup

/-- The books of a plan, with what their proof needs: the totals were not
wrapped, and an active plan is due on a day after those of its passes. -/
structure PlanSound (calendar : DayCalendar) (generations : List Generation)
    (plan : SubscriptionDayPassPlan) : Prop where
  days : plan.generatedDays = (madeFor generations plan.id).length
  withinDays : plan.generatedDays ≤ plan.totalDays
  requests : plan.generatedRequestCount = ((madeFor generations plan.id).map Generation.count).sum
  perDay : plan.generatedRequestCount = plan.generatedDays * plan.requestCountPerDay
  positive : 0 < plan.requestCountPerDay
  total : plan.totalRequestCount = plan.totalDays * plan.requestCountPerDay
  onceADay : ((madeFor generations plan.id).map fun generation =>
    calendar.day generation.dueAt).Nodup
  later : plan.status = .active → ∀ generation ∈ madeFor generations plan.id,
    calendar.day generation.dueAt < calendar.day plan.nextGenerateAt

def RowSound (generations : List Generation) (sub : UserSubscription) : Prop :=
  Accounted sub ∧ PaidFor generations sub

structure Sound (calendar : DayCalendar) (tables : PlanTables) : Prop where
  rows : AllRows (RowSound tables.generations) tables.base
  planIds : (tables.dayPassPlans.map SubscriptionDayPassPlan.id).Nodup
  below : ∀ plan ∈ tables.dayPassPlans, plan.id < tables.nextPlanId
  known : ∀ generation ∈ tables.generations, ∀ id, generation.planId = some id → id < tables.nextPlanId
  plans : ∀ plan ∈ tables.dayPassPlans, PlanSound calendar tables.generations plan
  debits : ∀ generation ∈ tables.generations, Debited generation
  once : (tables.generations.map fun generation => generation.child.id).Nodup
  issued : ∀ generation ∈ tables.generations, generation.child.id < tables.base.nextSubscriptionId

section Books
variable {tables : PlanTables}
variable {plan : SubscriptionDayPassPlan}

theorem plan_sound_books (sound : PlanSound calendar generations plan) :
    PlanBooks calendar generations plan where
  days := sound.days
  withinDays := sound.withinDays
  requests := sound.requests
  perDay := sound.perDay
  withinRequests := by
    rw [sound.perDay, sound.total]
    exact Int.mul_le_mul_of_nonneg_right sound.withinDays sound.positive.le
  onceADay := sound.onceADay

theorem sound_conserved (sound : Sound calendar tables) : Conserved calendar tables where
  plans plan member := plan_sound_books (sound.plans plan member)
  debits := sound.debits
  passes sub member := (sound.rows.subscriptions sub member).2
  once := sound.once

theorem plan_sound_same (sound : PlanSound calendar generations plan)
    (same : madeFor others plan.id = madeFor generations plan.id) :
    PlanSound calendar others plan := by
  constructor
  case positive => exact sound.positive
  case withinDays => exact sound.withinDays
  case perDay => exact sound.perDay
  case total => exact sound.total
  all_goals rw [same]
  case days => exact sound.days
  case requests => exact sound.requests
  case onceADay => exact sound.onceADay
  case later => exact sound.later

theorem start_sound (unissued : Unissued tables.base) (noPlans : tables.dayPassPlans = [])
    (noPasses : tables.generations = []) : Sound calendar tables where
  rows := unissued_all_rows unissued
  planIds := by simp [noPlans]
  below := by simp [noPlans]
  known := by simp [noPasses]
  plans := by simp [noPlans]
  debits := by simp [noPasses]
  once := by simp [noPasses]
  issued := by simp [noPasses]

theorem paid_rule (calendar : Calendar) (generations : List Generation) :
    RowRule calendar (fun _ _ _ => True) (PaidFor generations) where
  issued _ _ _ _ _ _ _ _ _ := fun child => absurd rfl child
  rebound _ _ _ _ paid := paid
  reset sub now paid := by
    obtain ⟨last, next, reset | reset | reset⟩ := reset_cases calendar sub now <;> rw [reset]
    · exact paid
    · exact paid
    · unfold clearWindowUsage
      split <;> exact paid
  preConsumed _ _ _ _ paid _ := paid
  settled _ _ _ _ _ _ paid := paid
  givesBack _ _ _ _ _ := trivial

theorem row_rule (calendar : Calendar) (generations : List Generation) :
    RowRule calendar (fun _ _ _ => True) (RowSound generations) :=
  (accounted_rule calendar).and (paid_rule calendar generations)

theorem Sound.rebase (sound : Sound calendar tables)
    (rows : AllRows (RowSound tables.generations) base)
    (next : tables.base.nextSubscriptionId ≤ base.nextSubscriptionId) :
    Sound calendar { tables with base := base, durations := durations } where
  rows := rows
  planIds := sound.planIds
  below := sound.below
  known := sound.known
  plans := sound.plans
  debits := sound.debits
  once := sound.once
  issued generation member := lt_of_lt_of_le (sound.issued generation member) next

theorem Sound.rewrite (sound : Sound calendar tables) {id : Int}
    {change : SubscriptionDayPassPlan → SubscriptionDayPassPlan}
    (same : ∀ plan, (change plan).id = plan.id)
    (kept : ∀ plan ∈ tables.dayPassPlans, plan.id = id →
      PlanSound calendar tables.generations plan →
      PlanSound calendar tables.generations (change plan)) :
    Sound calendar (tables.writePlan id change) where
  rows := sound.rows
  planIds := by
    rw [PlanTables.writePlan, map_key_update _ _ same]
    exact sound.planIds
  below := by
    apply forall_update sound.below
    intro plan _ _ below
    rw [same]
    exact below
  known := sound.known
  plans := forall_update sound.plans kept
  debits := sound.debits
  once := sound.once
  issued := sound.issued

theorem Sound.mark (sound : Sound calendar tables) {id : Int}
    (ends : status ≠ .active) :
    Sound calendar (markDerivedDayPassPlanStatus tables id status next text) := by
  refine sound.rewrite ?_ ?_
  · intro plan
    rfl
  intro plan _ _ before
  exact ⟨before.days, before.withinDays, before.requests, before.perDay, before.positive,
    before.total, before.onceADay, fun active => absurd active ends⟩

theorem made_for_new (sound : Sound calendar tables) :
    madeFor tables.generations tables.nextPlanId = [] := by
  apply List.filter_eq_nil_iff.mpr
  intro generation member
  rw [decide_eq_true_eq]
  intro mine
  exact absurd (sound.known generation member _ mine) (lt_irrefl _)

theorem Sound.insert (sound : Sound calendar tables) (numbered : plan.id = tables.nextPlanId)
    (days : 0 ≤ plan.totalDays) (positive : 0 < plan.requestCountPerDay)
    (total : plan.totalRequestCount = plan.totalDays * plan.requestCountPerDay)
    (noDays : plan.generatedDays = 0) (noRequests : plan.generatedRequestCount = 0) :
    Sound calendar (tables.insertPlan plan) where
  rows := sound.rows
  planIds := by
    simp only [PlanTables.insertPlan, List.map_append, List.map_singleton]
    apply List.nodup_append.mpr
    refine ⟨sound.planIds, List.nodup_singleton _, ?_⟩
    intro id member other new same
    obtain ⟨old, held, rfl⟩ := List.mem_map.mp member
    have below := sound.below old held
    rw [List.mem_singleton.mp new, numbered] at same
    omega
  below := by
    intro other member
    simp only [PlanTables.insertPlan, List.mem_append, List.mem_singleton] at member ⊢
    rcases member with old | rfl
    · have below := sound.below other old
      omega
    · omega
  known generation member id mine := by
    have below := sound.known generation member id mine
    simp only [PlanTables.insertPlan]
    omega
  plans := by
    intro other member
    rcases List.mem_append.mp member with old | new
    · exact sound.plans other old
    · rw [List.mem_singleton.mp new]
      have empty : madeFor tables.generations plan.id = [] := by
        rw [numbered]
        exact made_for_new sound
      constructor
      case days => simp [PlanTables.insertPlan, empty, noDays]
      case withinDays => omega
      case requests => simp [PlanTables.insertPlan, empty, noRequests]
      case perDay => rw [noRequests, noDays, Int.zero_mul]
      case positive => exact positive
      case total => exact total
      case onceADay => simp [PlanTables.insertPlan, empty]
      case later => simp [PlanTables.insertPlan, empty]
  debits := sound.debits
  once := sound.once
  issued := sound.issued

/-! ## What a pass writes -/

theorem parent_stored {id : Int}
    (read : readParent days id userId now db = .ok (base, parent)) :
    SameIds db base ∧ parent.id = id ∧
      ∃ row last next, base.subscription parent.id = some row ∧ parent = row.moveWindow last next := by
  unfold readParent at read
  split at read
  · cases read
  · rename_i sub found
    obtain ⟨stored, -⟩ := Option.filter_eq_some_iff.mp found
    split at read
    · cases read
    · have opened : openWindow days now db sub = (base, parent) := Except.ok.inj read
      have ids := open_window_same_ids days now db sub
      have mine : sub.id = id := lookup_key stored
      rw [opened] at ids
      refine ⟨ids, ?_⟩
      have here : db.subscription sub.id = some sub := by rw [mine]; exact stored
      obtain ⟨last, next, reset | reset | reset⟩ := reset_cases days sub now
      · rw [openWindow, reset] at opened
        cases opened
        exact ⟨mine, sub, last, next, here, rfl⟩
      · rw [openWindow, reset] at opened
        cases opened
        exact ⟨mine, _, _, _, lookup_save_self here, (move_window_self _).symm⟩
      · rw [openWindow, reset] at opened
        cases opened
        have same : ((clearWindowUsage (sub.moveWindow last next)).touch now).id = sub.id := by
          unfold clearWindowUsage
          split <;> rfl
        rw [← same] at here
        exact ⟨same.trans mine, _, _, _, lookup_save_self here, (move_window_self _).symm⟩

theorem parent_read {allowed : UserSubscription → Int → Int → Prop}
    {property : UserSubscription → Prop}
    {id : Int} (rule : RowRule days allowed property)
    (all : AllRows property db) (read : readParent days id userId now db = .ok (base, parent)) :
    AllRows property base ∧ SameIds db base ∧
      ∃ row last next, base.subscription parent.id = some row ∧ parent = row.moveWindow last next := by
  obtain ⟨ids, -, stored⟩ := parent_stored read
  refine ⟨?_, ids, stored⟩
  unfold readParent at read
  split at read
  · cases read
  · rename_i sub found
    split at read
    · cases read
    · have held : sub ∈ db.subscriptions := lookup_mem (Option.filter_eq_some_iff.mp found).1
      have opened : openWindow days now db sub = (base, parent) := Except.ok.inj read
      have rows : AllRows property (openWindow days now db sub).1 ∧
          property (openWindow days now db sub).2 :=
        all_rows_open_window (rule.at_ now) all (all.subscriptions sub held)
      rw [opened] at rows
      exact rows.1

theorem remaining_after (moves : 0 < count)
    (room : count ≤ getUserSubscriptionRemainingRequestCount row)
    (sameLimits : hasLifetimeRequestCountLimit after = hasLifetimeRequestCountLimit row ∧
      getSubscriptionRequestCountPeriodLimit after = getSubscriptionRequestCountPeriodLimit row ∧
      after.resourceType = row.resourceType ∧ after.requestCountTotal = row.requestCountTotal)
    (lifetime : hasLifetimeRequestCountLimit row = true →
      after.requestCountUsed = row.requestCountUsed + count)
    (current : getCurrentRequestCountUsed after = getCurrentRequestCountUsed row + count) :
    getUserSubscriptionRemainingRequestCount after + count =
      getUserSubscriptionRemainingRequestCount row := by
  obtain ⟨limited, period, kind, total⟩ := sameLimits
  unfold getUserSubscriptionRemainingRequestCount at room ⊢
  by_cases byCount : row.resourceType = .requestCount
  · by_cases capped : hasLifetimeRequestCountLimit row = true
    · grind
    · grind
  · rw [if_pos byCount] at room
    omega

theorem pass_debited
    {id : Int} (ready : Accounted row) (moves : 0 < count)
    (room : count ≤ getUserSubscriptionRemainingRequestCount row) :
    Debited ⟨planId, dueAt, row, chargedParent row count now,
      dayPass days id (chargedParent row count now) count now⟩ := by
  have counted : count ≠ 0 := by omega
  have lifetimeUsed := ready.requestCountUsed
  have periodUsed := ready.requestCountPeriodUsed
  have lifetime : (chargedParent row count now).requestCountUsed = row.requestCountUsed +
      if countsLifetime row then count else 0 := by
    by_cases counts : countsLifetime row = true
    · simp only [chargedParent, settledRow, UserSubscription.touch_requestCountUsed,
        UserSubscription.setUsage_requestCountUsed, counts, counted, ne_eq, not_false_eq_true,
        and_self, if_true, applyDelta]
      omega
    · simp only [chargedParent, settledRow, UserSubscription.touch_requestCountUsed,
        UserSubscription.setUsage_requestCountUsed, counts, and_false, if_false, Int.add_zero,
        Bool.false_eq_true]
  constructor
  case mine => exact ⟨rfl, rfl⟩
  case positive => exact moves
  case unspent => rfl
  case lifetime => exact lifetime
  case period =>
    show (chargedParent row count now).requestCountPeriodUsed = row.requestCountPeriodUsed +
      if hasSeparatePeriodRequestCounter row then count else 0
    by_cases separate : hasSeparatePeriodRequestCounter row = true
    · simp only [chargedParent, settledRow, UserSubscription.touch_requestCountPeriodUsed,
        UserSubscription.setUsage_requestCountPeriodUsed, separate, counted, ne_eq,
        not_false_eq_true, true_or, and_self, if_true, applyDelta]
      omega
    · have unused := ready.unused (by simpa using separate)
      rw [charged_unused (by simpa using separate) unused, unused, if_neg separate]
      rfl
  case amount => rfl
  case remaining =>
    refine remaining_after moves room ⟨rfl, rfl, rfl, rfl⟩ ?_ ?_
    · intro capped
      have counts : countsLifetime row = true := by simp [countsLifetime, capped]
      rw [if_pos counts] at lifetime
      exact lifetime
    · exact charged_current lifetimeUsed periodUsed moves

section Pass
variable {days : Calendar} {row parent child : UserSubscription} {after : Database}
variable {count now remain : Int} {planInForce : Bool} {planId : Option Int} {dueAt : Int}
variable (stored : tables.base.subscription parent.id = some row)
variable (created : createDerivedDayPassFromParent days parent count now planInForce tables.base =
  .ok (after, child, remain))
include stored created

theorem pass_charged : after.subscription parent.id = some (chargedParent row count now) := by
  obtain ⟨-, -, -, -, written⟩ := day_pass_written stored created
  have here : row.id = parent.id := lookup_key stored
  have same : (chargedParent row count now).id = parent.id := here
  have saved : (tables.base.saveSubscription (chargedParent row count now)).subscription parent.id =
      some (chargedParent row count now) := by
    rw [← same] at stored ⊢
    exact lookup_save_self stored
  rw [written]
  refine (lookup_append_one _ _ _).trans ?_
  exact congrArg (fun found => Option.or found _) saved

theorem pass_history (planId : Option Int) (dueAt : Int) : (tables.addPass planId dueAt after child).generations =
    tables.generations ++ [⟨planId, dueAt, row, chargedParent row count now, child⟩] := by
  obtain ⟨-, -, -, passed, -⟩ := day_pass_written stored created
  have here : row.id = parent.id := lookup_key stored
  have mine : child.parentUserSubscriptionId = parent.id := by
    rw [passed]
    exact here
  simp only [PlanTables.addPass, mine, stored, pass_charged stored created, Option.getD_some]

theorem pass_tables {one other : UserSubscription → Prop} (all : AllRows one tables.base)
    (more : ∀ sub, one sub → other sub) (charged : one (chargedParent row count now))
    (mine : other child) : AllRows other after := by
  obtain ⟨-, -, -, -, written⟩ := day_pass_written stored created
  have kept := (all_rows_save all charged).imp more
  have nextId := all.nextId
  rw [written]
  refine ⟨?_, ?_, kept.records⟩
  · show 0 < tables.base.nextSubscriptionId + 1
    omega
  · intro sub member
    rcases List.mem_append.mp member with old | new
    · exact kept.subscriptions sub old
    · rw [List.mem_singleton.mp new]
      exact mine

theorem pass_paid_for
    (entry : generation = ⟨planId, dueAt, row, chargedParent row count now, child⟩) :
    PaidFor (generations ++ [generation]) child := by
  obtain ⟨-, -, -, passed, -⟩ := day_pass_written stored created
  intro _
  refine ⟨generation, List.mem_append_right _ (List.mem_singleton.mpr rfl), ?_⟩
  rw [entry, passed]
  exact ⟨rfl, rfl, rfl⟩

omit stored created in
theorem paid_for_more (generation : Generation)
    (paid : PaidFor generations sub) :
    PaidFor (generations ++ [generation]) sub := by
  intro pass
  obtain ⟨old, member, same⟩ := paid pass
  exact ⟨old, List.mem_append_left _ member, same⟩

theorem pass_rows
    (all : AllRows (RowSound generations) tables.base)
    (entry : generation = ⟨planId, dueAt, row, chargedParent row count now, child⟩) :
    AllRows (RowSound (generations ++ [generation])) after := by
  obtain ⟨moves, -, fits, passed, -⟩ := day_pass_written stored created
  have before : RowSound generations row := all.subscriptions row (lookup_mem stored)
  have charged : RowSound generations (chargedParent row count now) :=
    ⟨accounted_touch now (accounted_settled before.1 fits), before.2⟩
  have nextId := all.nextId
  have ready : Accounted child := by
    rw [passed]
    constructor
    case id => exact nextId
    case amount => exact fun limited => absurd limited (lt_irrefl 0)
    case lifetime => exact fun _ => moves.le
    case period => exact fun separate => absurd rfl (has_separate_iff.mp separate).1
    case unused => exact fun _ => rfl
    all_goals exact le_rfl
  exact pass_tables stored created all (fun sub holds => ⟨holds.1, paid_for_more generation holds.2⟩)
    charged ⟨ready, pass_paid_for stored created entry⟩

theorem Sound.pass (sound : Sound calendar tables)
    (window : parent = row.moveWindow last next)
    (known : ∀ id, planId = some id → id < tables.nextPlanId) {plans : List SubscriptionDayPassPlan}
    (keys : plans.map SubscriptionDayPassPlan.id = tables.dayPassPlans.map SubscriptionDayPassPlan.id)
    (kept : ∀ plan ∈ plans, PlanSound calendar (tables.addPass planId dueAt after child).generations plan) :
    Sound calendar { tables.addPass planId dueAt after child with dayPassPlans := plans } := by
  obtain ⟨moves, room, -, passed, written⟩ := day_pass_written stored created
  have history := pass_history stored created planId dueAt
  have ready := (sound.rows.subscriptions row (lookup_mem stored)).1
  have available : count ≤ getUserSubscriptionRemainingRequestCount row := by
    rw [window] at room
    exact room
  have fresh : child.id = tables.base.nextSubscriptionId := by rw [passed]; rfl
  have ids : after.nextSubscriptionId = tables.base.nextSubscriptionId + 1 := by rw [written]
  constructor
  case rows =>
    rw [history]
    exact pass_rows stored created sound.rows rfl
  case planIds =>
    rw [keys]
    exact sound.planIds
  case below =>
    intro plan member
    have held : plan.id ∈ tables.dayPassPlans.map SubscriptionDayPassPlan.id := by
      rw [← keys]
      exact List.mem_map_of_mem member
    obtain ⟨old, inside, same⟩ := List.mem_map.mp held
    rw [← same]
    exact sound.below old inside
  case known =>
    intro generation member
    rcases List.mem_append.mp member with old | new
    · exact sound.known generation old
    · rw [List.mem_singleton.mp new]
      exact known
  case plans => exact kept
  case debits =>
    intro generation member
    rw [history] at member
    rcases List.mem_append.mp member with old | new
    · exact sound.debits generation old
    · rw [List.mem_singleton.mp new, passed]
      exact pass_debited ready moves available
  case once =>
    rw [history, List.map_append, List.map_singleton]
    apply List.nodup_append.mpr
    refine ⟨sound.once, List.nodup_singleton _, ?_⟩
    intro id member other new same
    obtain ⟨generation, old, rfl⟩ := List.mem_map.mp member
    have below := sound.issued generation old
    rw [List.mem_singleton.mp new, fresh] at same
    omega
  case issued =>
    intro generation member
    show generation.child.id < after.nextSubscriptionId
    rcases List.mem_append.mp member with old | new
    · have below := sound.issued generation old
      omega
    · rw [List.mem_singleton.mp new]
      show child.id < after.nextSubscriptionId
      omega

theorem made_for_other (other : planId ≠ some plan.id) :
    madeFor (tables.addPass planId dueAt after child).generations plan.id =
      madeFor tables.generations plan.id := by
  rw [pass_history stored created, madeFor, List.filter_append, List.filter_singleton]
  simp [other, madeFor]

theorem made_for_plan (id : Int) :
    madeFor (tables.addPass (some id) dueAt after child).generations id =
      madeFor tables.generations id ++ [⟨some id, dueAt, row, chargedParent row count now, child⟩] := by
  rw [pass_history stored created, madeFor, List.filter_append, List.filter_singleton]
  simp [madeFor]

end Pass

/-! ## What each transaction keeps -/

theorem sound_create_pass
    (sound : Sound calendar tables)
    (created : createDerivedDayPassFromSubscription calendar.toCalendar userId parentId count now
      tables = .ok after) : Sound calendar after := by
  obtain ⟨-, base, parent, _, child, _, read, made, rfl⟩ := create_pass_cases created
  obtain ⟨rows, ids, row, last, next, stored, window⟩ :=
    parent_read (row_rule calendar.toCalendar tables.generations) sound.rows read
  have opened : Sound calendar { tables with base := base } := sound.rebase rows ids.next.ge
  refine opened.pass stored made window ?_ rfl ?_
  · intro id manual
    cases manual
  intro plan member
  have other : (none : Option Int) ≠ some plan.id := fun same => nomatch same
  exact plan_sound_same (opened.plans plan member) (made_for_other stored made other)

theorem sound_create_plan
    (sound : Sound calendar tables) (fits : totalDays * perDay < 2 ^ 63)
    (created : createDerivedDayPassPlan calendar.toCalendar userId parentId totalDays perDay now
      tables = .ok after) : Sound calendar after := by
  obtain ⟨days, requests, base, parent, read, -, rfl⟩ := create_plan_cases created
  obtain ⟨rows, ids, -⟩ := parent_read (row_rule calendar.toCalendar tables.generations) sound.rows read
  have opened : Sound calendar { tables with base := base } := sound.rebase rows ids.next.ge
  have whole := mul_int64_exact (Int.mul_pos days requests) fits
  exact opened.insert rfl days.le requests whole rfl rfl

theorem after_pass_active
    (goesOn : (afterPass days plan parent remain).1 = .active) :
    (afterPass days plan parent remain).2 =
      calcNextDerivedDayPassPlanGenerateAt days plan.nextGenerateAt parent := by
  unfold afterPass at goesOn ⊢
  dsimp only at goesOn ⊢
  split at goesOn
  · cases goesOn
  · rename_i more
    rw [if_neg more]
    split at goesOn
    · cases goesOn
    · rename_i inside
      rw [if_neg inside]

theorem progress_sound
    (before : PlanSound calendar generations plan)
    (active : plan.status = .active) (due : 0 < plan.nextGenerateAt)
    (room : plan.generatedDays < plan.totalDays)
    (one : madeFor others plan.id = madeFor generations plan.id ++ [generation])
    (day : generation.dueAt = plan.nextGenerateAt)
    (count : generation.count = plan.requestCountPerDay) :
    PlanSound calendar others (progressPlan calendar.toCalendar plan parent remain now plan) := by
  constructor
  case days =>
    show plan.generatedDays + 1 = ((madeFor others plan.id).length : Int)
    rw [one, List.length_append, before.days]
    rfl
  case withinDays =>
    show plan.generatedDays + 1 ≤ plan.totalDays
    omega
  case requests =>
    show plan.generatedRequestCount + plan.requestCountPerDay =
      ((madeFor others plan.id).map Generation.count).sum
    rw [one, List.map_append, List.sum_append, before.requests, List.map_singleton,
      List.sum_singleton, count]
  case perDay =>
    show plan.generatedRequestCount + plan.requestCountPerDay =
      (plan.generatedDays + 1) * plan.requestCountPerDay
    rw [before.perDay, Int.add_mul, Int.one_mul]
  case positive => exact before.positive
  case total => exact before.total
  case onceADay =>
    show ((madeFor others plan.id).map fun generation => calendar.day generation.dueAt).Nodup
    rw [one, List.map_append, List.map_singleton]
    apply List.nodup_append.mpr
    refine ⟨before.onceADay, List.nodup_singleton _, ?_⟩
    intro taken member other new same
    obtain ⟨old, inside, rfl⟩ := List.mem_map.mp member
    have earlier := before.later active old inside
    rw [List.mem_singleton.mp new, day] at same
    omega
  case later =>
    intro goesOn pass member
    have tomorrow : (progressPlan calendar.toCalendar plan parent remain now plan).nextGenerateAt =
        calcNextDerivedDayPassPlanGenerateAt calendar.toCalendar plan.nextGenerateAt parent :=
      after_pass_active goesOn
    have next := next_plan_day calendar parent due
    have member : pass ∈ madeFor others plan.id := member
    rw [tomorrow, next]
    rw [one] at member
    rcases List.mem_append.mp member with old | new
    · have earlier := before.later active pass old
      omega
    · rw [List.mem_singleton.mp new, day]
      omega

theorem sound_generate
    (sound : Sound calendar tables)
    (found : tables.dayPassPlan plan.id = some plan) (active : plan.status = .active)
    (due : 0 < plan.nextGenerateAt) (room : plan.generatedDays < plan.totalDays)
    (stored : tables.base.subscription parent.id = some row)
    (window : parent = row.moveWindow last next)
    (survives : fault = none ∨ fault = some .rolledBack)
    (generated : generateForPlan calendar.toCalendar plan parent now fault tables = .ok after) :
    Sound calendar after := by
  unfold generateForPlan at generated
  split at generated
  · cases generated
    exact sound.mark (by decide)
  · rename_i base child remain made
    rcases survives with rfl | rfl
    · cases generated
      refine sound.pass stored made window ?_ (map_key_update _ _ fun _ => rfl) ?_
      · intro id same
        cases same
        exact sound.below plan (lookup_mem found)
      · intro written member
        obtain ⟨old, held, rfl⟩ := List.mem_map.mp member
        split
        · rename_i mine
          have same : tables.dayPassPlan old.id = some old := lookup_of_mem sound.planIds held
          rw [mine, found] at same
          cases same
          obtain ⟨-, -, -, passed, -⟩ := day_pass_written stored made
          refine progress_sound (sound.plans plan held) active due room
            (made_for_plan stored made plan.id) rfl ?_
          rw [passed]
          rfl
        · rename_i other
          have different : some plan.id ≠ some old.id := fun same => other (Option.some.inj same).symm
          exact plan_sound_same (sound.plans old held) (made_for_other stored made different)
    · cases generated

theorem sound_process
    (sound : Sound calendar tables) (survives : fault = none ∨ fault = some .rolledBack)
    (processed : processDueDerivedDayPassPlan calendar.toCalendar planId now fault tables =
      .ok after) : Sound calendar after := by
  unfold processDueDerivedDayPassPlan at processed
  split at processed
  · cases processed
  · rename_i plan found
    split at processed
    · cases processed
      exact sound
    · rename_i due
      split at processed
      · cases processed
        exact sound.mark (by decide)
      · split at processed
        · cases processed
          exact sound.mark (by decide)
        · cases processed
        · rename_i base parent read
          obtain ⟨rows, ids, row, last, next, stored, window⟩ :=
            parent_read (row_rule calendar.toCalendar tables.generations) sound.rows read
          have opened : Sound calendar { tables with base := base } := sound.rebase rows ids.next.ge
          dsimp only at processed
          split at processed
          · cases processed
            exact opened.mark (by decide)
          · have same : tables.dayPassPlan plan.id = some plan := by
              rw [lookup_key found]
              exact found
            refine sound_generate opened same ?_ ?_ ?_ stored window survives processed
            · by_contra ended
              exact due (.inl ended)
            · by_contra undated
              exact due (.inr (.inl (Int.not_lt.mp undated)))
            · omega

theorem sound_cancel {readable : SubscriptionDayPassPlan → Bool}
    (sound : Sound calendar tables) (cancelled : cancelPlan planId readable tables = .ok after) :
    Sound calendar after := by
  unfold cancelPlan at cancelled
  split at cancelled
  · cases cancelled
  · split at cancelled
    · cases cancelled
    · cases cancelled
      exact sound.mark (by decide)

/-- The steps that the books survive: a conversion whose product is an `int64`,
and a scheduled pass that no error meets after the charge but one that rolls it
back. -/
def Survivable (_ : PlanTables) : Event → Prop
  | .createPlan _ _ totalDays requestCountPerDay _ => totalDays * requestCountPerDay < 2 ^ 63
  | .processPlan _ _ fault => fault = none ∨ fault = some .rolledBack
  | _ => True

instance (tables : PlanTables) (event : Event) : Decidable (Survivable tables event) := by
  cases event <;> unfold Survivable <;> infer_instance

theorem sound_outcome {Error : Type} {result : Except Error PlanTables}
    (sound : Sound calendar tables) (kept : ∀ after, result = .ok after → Sound calendar after) :
    Sound calendar (outcome tables result) := by
  cases result with
  | ok after => exact kept after rfl
  | error error => exact sound

theorem step_sound (tables : PlanTables) (event : Event) (survives : Survivable tables event)
    (sound : Sound calendar tables) : Sound calendar (step calendar.toCalendar tables event) := by
  cases event with
  | base event =>
    apply sound.rebase
    · exact step_all_rows (row_rule calendar.toCalendar tables.generations) _ event
        (settlements_free (fun _ _ _ => trivial) _ event) sound.rows
    · exact step_next_id ..
  | createPlan userId parentId totalDays perDay now =>
    exact sound_outcome sound fun after created => sound_create_plan sound survives created
  | createPass userId parentId count now =>
    exact sound_outcome sound fun after created => sound_create_pass sound created
  | processPlan planId now fault =>
    exact sound_outcome sound fun after processed => sound_process sound survives processed
  | cancel userId planId =>
    refine sound_outcome sound fun after cancelled => ?_
    unfold cancelDerivedDayPassPlan at cancelled
    split at cancelled
    · cases cancelled
    · exact sound_cancel sound cancelled
  | adminCancel planId =>
    refine sound_outcome sound fun after cancelled => ?_
    unfold adminCancelDerivedDayPassPlan at cancelled
    split at cancelled
    · cases cancelled
    · exact sound_cancel sound cancelled

end Books

/-! ## Every run -/

/-- The tables that a history starts from: no subscription was issued, and no
day pass was planned or made. -/
structure Unplanned (tables : PlanTables) : Prop where
  unissued : Unissued tables.base
  plans : tables.dayPassPlans = []
  generations : tables.generations = []

/-- Over every run of purchases, requests, conversions, scheduled passes at any
delay, passes by hand and cancellations, the plans keep their books and no
request is created or lost. -/
theorem day_passes_conserve_requests (calendar : DayCalendar) (start : PlanTables)
    (unplanned : Unplanned start) (events : List Event)
    (survives : Guarded (step calendar.toCalendar) Survivable start events) :
    Conserved calendar (run (step calendar.toCalendar) start events) := by
  have initially : Sound calendar start :=
    start_sound unplanned.unissued unplanned.plans unplanned.generations
  exact sound_conserved (run_preserves step_sound survives initially)

def dailyMonth : SubscriptionPlan where
  id := 1
  terms := { resourceType := .requestCount
             requestCountPeriodTotal := 10
             reset := ⟨.daily, 0, false, 0⟩ }

def cappedMonth : SubscriptionPlan where
  id := 2
  terms := { resourceType := .requestCount, requestCountTotal := 10 }

def monthShop : PlanTables where
  base := { users := [{ id := 7 }], plans := [dailyMonth, cappedMonth] }

def handmade : List Event :=
  [.base (.create 7 1 dailyMonth.terms .order 1000), .createPass 7 1 3 2000]

def scheduled : List Event :=
  [.base (.create 7 2 cappedMonth.terms .order 1000), .createPlan 7 1 2 3 2000,
    .processPlan 1 30000 none, .processPlan 1 250000 none]

theorem unplanned_shop : Unplanned monthShop := ⟨⟨by decide, rfl, rfl⟩, rfl, rfl⟩

/-- A month that counts its days alone has no lifetime count for a pass to
raise. -/
theorem pass_leaves_lifetime_count :
    ¬ ∀ (calendar : DayCalendar) (start : PlanTables) (events : List Event), Unplanned start →
      ∀ generation ∈ (run (step calendar.toCalendar) start events).generations,
        generation.charged.requestCountUsed = generation.parent.requestCountUsed + generation.count := by
  intro always
  have raised := always equalDays monthShop handmade unplanned_shop
  have made : ∃ generation ∈ (run (step equalDays.toCalendar) monthShop handmade).generations,
      generation.count = 3 ∧ generation.parent.requestCountUsed = 0 ∧
        generation.charged.requestCountUsed = 0 := by
    decide +kernel
  obtain ⟨generation, member, count, before, after⟩ := made
  have rise := raised generation member
  omega

theorem scheduled_month_conserved :
    Conserved equalDays (run (step equalDays.toCalendar) monthShop scheduled) := by
  apply day_passes_conserve_requests equalDays monthShop unplanned_shop scheduled
  exact ⟨trivial, by decide, .inl rfl, .inl rfl, trivial⟩

example : (run (step equalDays.toCalendar) monthShop scheduled).dayPassPlans.map (fun plan =>
    (plan.status, plan.generatedDays, plan.generatedRequestCount)) = [(.completed, 2, 6)] := by
  decide +kernel

/-! ## The product of a conversion -/

theorem accepted_plan_cases
    (read : readParent calendar parentId userId now tables.base = .ok (base, parent))
    (accepted : createDerivedDayPassPlan calendar userId parentId totalDays perDay now tables = .ok after) :
    0 < totalDays ∧ 0 < perDay ∧
      mulInt64 totalDays perDay ≤ getUserSubscriptionRemainingRequestCount parent := by
  obtain ⟨days, requests, base', parent', read', admitted, -⟩ := create_plan_cases accepted
  obtain ⟨rfl, rfl⟩ := Prod.mk.inj (Except.ok.inj (read.symm.trans read'))
  refine ⟨days, requests, ?_⟩
  unfold admitPlan at admitted
  dsimp only at admitted
  split at admitted
  · cases admitted
  · split at admitted
    · cases admitted
    · split at admitted
      · cases admitted
      · split at admitted
        · cases admitted
        · split at admitted
          · cases admitted
          · split at admitted
            · cases admitted
            · rename_i within
              exact Int.not_lt.mp within

/-- What an accepted conversion takes out of its parent in all is there to be
taken exactly when the product of its days and its requests is an `int64`, as
what the parent has left is one. -/
theorem accepted_product_within_iff (calendar : Calendar) (tables after : PlanTables)
    (base : Database) (parent : UserSubscription) (userId parentId totalDays perDay now : Int)
    (read : readParent calendar parentId userId now tables.base = .ok (base, parent))
    (int64 : getUserSubscriptionRemainingRequestCount parent < 2 ^ 63)
    (accepted : createDerivedDayPassPlan calendar userId parentId totalDays perDay now tables = .ok after) :
    (0 < totalDays * perDay ∧
        totalDays * perDay ≤ getUserSubscriptionRemainingRequestCount parent) ↔
      totalDays * perDay < 2 ^ 63 := by
  obtain ⟨days, requests, within⟩ := accepted_plan_cases read accepted
  have positive : 0 < totalDays * perDay := Int.mul_pos days requests
  constructor
  · rintro ⟨-, room⟩
    omega
  · intro fits
    rw [mul_int64_exact positive fits] at within
    exact ⟨positive, within⟩

def wholeMonth : PlanTables :=
  step equalDays.toCalendar monthShop (.base (.create 7 2 cappedMonth.terms .order 1000))

def monthRead : Database × UserSubscription :=
  (readParent equalDays.toCalendar 1 7 2000 wholeMonth.base).toOption.getD ({}, {})

/-- Two days of as many requests as an `int64` holds are minus two requests. -/
theorem wrapped_product_accepted :
    ¬ ∀ (calendar : Calendar) (tables after : PlanTables) (base : Database)
      (parent : UserSubscription) (userId parentId totalDays perDay now : Int),
      totalDays < 2 ^ 63 → perDay < 2 ^ 63 →
      readParent calendar parentId userId now tables.base = .ok (base, parent) →
      createDerivedDayPassPlan calendar userId parentId totalDays perDay now tables = .ok after →
        0 < totalDays * perDay ∧ totalDays * perDay ≤ getUserSubscriptionRemainingRequestCount parent := by
  intro always
  have converted := always equalDays.toCalendar wholeMonth
    (wholeMonth.insertPlan (newPlan equalDays.toCalendar 1 7 monthRead.2 2 (2 ^ 63 - 1) 2000))
    monthRead.1 monthRead.2 7 1 2 (2 ^ 63 - 1) 2000 (by decide) (by decide) (by decide +kernel)
    (by decide +kernel)
  have remaining : getUserSubscriptionRemainingRequestCount monthRead.2 = 10 := by decide +kernel
  omega

theorem small_product_accepted :
    (0 < (2 * 3 : Int) ∧ 2 * 3 ≤ getUserSubscriptionRemainingRequestCount monthRead.2) ↔
      (2 * 3 : Int) < 2 ^ 63 :=
  accepted_product_within_iff equalDays.toCalendar wholeMonth
    (wholeMonth.insertPlan (newPlan equalDays.toCalendar 1 7 monthRead.2 2 3 2000))
    monthRead.1 monthRead.2 7 1 2 3 2000 (by decide +kernel) (by decide +kernel) (by decide +kernel)

end NewApi.DayPassPlan
