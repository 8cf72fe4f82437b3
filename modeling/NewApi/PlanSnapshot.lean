import NewApi.SubscriptionStore

/-! The plan that an order remembers. Creating an order copies the columns of
its plan, a payment rebuilds a plan from the copy, and the subscription is
issued from a copy of that, or by hand from a copy that follows the plan of then. The columns are texts here, as the tables hold
them, so that what the copies trim and what they leave can be compared. What is
proved is that a subscription issued from an order is the one that its plan
issues, and where a plan that nobody ordered issues another one. -/
namespace NewApi.PlanSnapshot
open NewApi.GoText (trimSpace hasPrefix mentions)
open NewApi.KeyedTable
open NewApi.ResetWindow
open NewApi.SubscriptionStore (User DurationUnit PlanTerms)

/-! ## Columns -/

/-- `model/subscription.go::NormalizeResetPeriod`. -/
def normalizeResetPeriod (period : String) : String :=
  if trimSpace period ∈ ["daily", "weekly", "monthly", "yearly", "custom"] then trimSpace period
  else "never"

/-- `model/subscription.go::NormalizeSubscriptionResourceType`. -/
def normalizeSubscriptionResourceType (resourceType : String) : String :=
  if trimSpace resourceType = "request_count" then "request_count" else "quota"

/-- `model/subscription.go::normalizeSubscriptionDeliveryMode`. -/
def normalizeSubscriptionDeliveryMode (mode : String) : String :=
  if trimSpace mode = "manual_delivery" then "manual_delivery" else "auto_activate"

@[simp] theorem normalize_reset_period_idem (period : String) :
    normalizeResetPeriod (normalizeResetPeriod period) = normalizeResetPeriod period := by
  by_cases known : trimSpace period ∈ ["daily", "weekly", "monthly", "yearly", "custom"]
  · simp only [normalizeResetPeriod, if_pos known, GoText.trim_space_idem]
  · rw [normalizeResetPeriod, normalizeResetPeriod, if_neg known, if_neg (by decide)]

@[simp] theorem normalize_resource_type_idem (resourceType : String) :
    normalizeSubscriptionResourceType (normalizeSubscriptionResourceType resourceType) =
      normalizeSubscriptionResourceType resourceType := by
  by_cases counted : trimSpace resourceType = "request_count"
  · rw [normalizeSubscriptionResourceType, normalizeSubscriptionResourceType, if_pos counted,
      if_pos (by decide)]
  · rw [normalizeSubscriptionResourceType, normalizeSubscriptionResourceType, if_neg counted,
      if_neg (by decide)]

@[simp] theorem normalize_delivery_mode_idem (mode : String) :
    normalizeSubscriptionDeliveryMode (normalizeSubscriptionDeliveryMode mode) =
      normalizeSubscriptionDeliveryMode mode := by
  by_cases manual : trimSpace mode = "manual_delivery"
  · rw [normalizeSubscriptionDeliveryMode, normalizeSubscriptionDeliveryMode, if_pos manual,
      if_pos (by decide)]
  · rw [normalizeSubscriptionDeliveryMode, normalizeSubscriptionDeliveryMode, if_neg manual,
      if_neg (by decide)]

/-- The columns of `model/subscription.go::SubscriptionPlan` that an order
copies or a purchase checks. -/
structure PlanRow where
  id : Int
  title : String := ""
  durationUnit : String := "month"
  durationValue : Int := 1
  customSeconds : Int := 0
  maxPurchasePerUser : Int := 0
  saleLimitCount : Int := 0
  soldCount : Int := 0
  upgradeGroup : String := ""
  totalAmount : Int := 0
  resourceType : String := "quota"
  requestCountTotal : Int := 0
  requestCountPeriodTotal : Int := 0
  quotaResetPeriod : String := "never"
  quotaResetCustomSeconds : Int := 0
  quotaResetUseFixedClock : Bool := false
  quotaResetFixedSeconds : Int := 0
  allowedGroupsJSON : String := ""
  allowedModelsJSON : String := ""
  allowedVendorIDsJSON : String := ""
  deliveryMode : String := "auto_activate"
  deliveryFieldSchemaJSON : String := ""
  deriving DecidableEq, Repr

/-- `model/subscription.go::SubscriptionPlan` in memory: its row, and the
lists that are decoded for display. No table holds these. -/
structure SubscriptionPlan extends PlanRow where
  allowedGroups : List String := []
  allowedModels : List String := []
  deriving DecidableEq, Repr

def PlanRow.load (row : PlanRow) : SubscriptionPlan := { toPlanRow := row }

@[simp] theorem load_row (row : PlanRow) : row.load.toPlanRow = row := rfl

@[simp] theorem load_groups (row : PlanRow) : row.load.allowedGroups = [] := rfl

@[simp] theorem load_models (row : PlanRow) : row.load.allowedModels = [] := rfl

def PlanRow.isSoldOut (row : PlanRow) : Bool :=
  row.saleLimitCount > 0 && row.soldCount ≥ row.saleLimitCount

/-- What a plan delivers: its columns as a purchase reads them. A purchase
trims the texts and normalizes the enumerations, but compares the duration unit
as it stands. -/
structure Entitlement where
  title : String
  durationUnit : String
  durationValue : Int
  customSeconds : Int
  upgradeGroup : String
  totalAmount : Int
  resourceType : String
  requestCountTotal : Int
  requestCountPeriodTotal : Int
  quotaResetPeriod : String
  quotaResetCustomSeconds : Int
  quotaResetUseFixedClock : Bool
  quotaResetFixedSeconds : Int
  allowedGroupsJSON : String
  allowedModelsJSON : String
  allowedVendorIDsJSON : String
  deliveryMode : String
  deliveryFieldSchemaJSON : String
  deriving DecidableEq, Repr

def PlanRow.entitlement (row : PlanRow) : Entitlement :=
  { title := trimSpace row.title
    durationUnit := row.durationUnit
    durationValue := row.durationValue
    customSeconds := row.customSeconds
    upgradeGroup := trimSpace row.upgradeGroup
    totalAmount := row.totalAmount
    resourceType := normalizeSubscriptionResourceType row.resourceType
    requestCountTotal := row.requestCountTotal
    requestCountPeriodTotal := row.requestCountPeriodTotal
    quotaResetPeriod := normalizeResetPeriod row.quotaResetPeriod
    quotaResetCustomSeconds := row.quotaResetCustomSeconds
    quotaResetUseFixedClock := row.quotaResetUseFixedClock
    quotaResetFixedSeconds := row.quotaResetFixedSeconds
    allowedGroupsJSON := trimSpace row.allowedGroupsJSON
    allowedModelsJSON := trimSpace row.allowedModelsJSON
    allowedVendorIDsJSON := trimSpace row.allowedVendorIDsJSON
    deliveryMode := normalizeSubscriptionDeliveryMode row.deliveryMode
    deliveryFieldSchemaJSON := trimSpace row.deliveryFieldSchemaJSON }

/-- The columns of `model/subscription.go::SubscriptionOrder` that name its
buyer and its plan. -/
structure SubscriptionOrder where
  userId : Int
  planId : Int
  planTitle : String := ""
  planDurationUnit : String := ""
  planDurationValue : Int := 0
  planCustomSeconds : Int := 0
  planUpgradeGroup : String := ""
  planTotalAmount : Int := 0
  planResourceType : String := ""
  planRequestCountTotal : Int := 0
  planRequestCountPeriodTotal : Int := 0
  planQuotaResetPeriod : String := ""
  planQuotaResetCustomSec : Int := 0
  planQuotaResetUseFixedClock : Bool := false
  planQuotaResetFixedSeconds : Int := 0
  planAllowedGroupsJSON : String := ""
  planAllowedModelsJSON : String := ""
  planAllowedVendorIDsJSON : String := ""
  planDeliveryMode : String := "auto_activate"
  planDeliveryFieldSchemaJSON : String := ""
  fulfillmentStatus : String := "not_required"
  deriving DecidableEq, Repr

/-! ## The copies -/

/-- `model/subscription.go::ApplyPlanSnapshot`. -/
def SubscriptionOrder.applyPlanSnapshot (order : SubscriptionOrder) (plan : SubscriptionPlan) :
    SubscriptionOrder :=
  { order with
    planTitle := trimSpace plan.title
    planDurationUnit := trimSpace plan.durationUnit
    planDurationValue := plan.durationValue
    planCustomSeconds := plan.customSeconds
    planUpgradeGroup := trimSpace plan.upgradeGroup
    planTotalAmount := plan.totalAmount
    planResourceType := normalizeSubscriptionResourceType plan.resourceType
    planRequestCountTotal := plan.requestCountTotal
    planRequestCountPeriodTotal := plan.requestCountPeriodTotal
    planQuotaResetPeriod := normalizeResetPeriod plan.quotaResetPeriod
    planQuotaResetCustomSec := plan.quotaResetCustomSeconds
    planQuotaResetUseFixedClock := plan.quotaResetUseFixedClock
    planQuotaResetFixedSeconds := plan.quotaResetFixedSeconds
    planAllowedGroupsJSON := trimSpace plan.allowedGroupsJSON
    planAllowedModelsJSON := trimSpace plan.allowedModelsJSON
    planAllowedVendorIDsJSON := trimSpace plan.allowedVendorIDsJSON
    planDeliveryMode := normalizeSubscriptionDeliveryMode plan.deliveryMode
    planDeliveryFieldSchemaJSON := trimSpace plan.deliveryFieldSchemaJSON
    fulfillmentStatus :=
      if normalizeSubscriptionDeliveryMode plan.deliveryMode = "manual_delivery" then
        "pending_delivery"
      else "not_required" }

/-- `model/subscription.go::SnapshotPlan`. -/
def SubscriptionOrder.snapshotPlan (order : SubscriptionOrder) : Option SubscriptionPlan :=
  if trimSpace order.planDurationUnit = "" then none
  else some
    { id := order.planId
      title := trimSpace order.planTitle
      durationUnit := trimSpace order.planDurationUnit
      durationValue := order.planDurationValue
      customSeconds := order.planCustomSeconds
      upgradeGroup := trimSpace order.planUpgradeGroup
      totalAmount := order.planTotalAmount
      resourceType := normalizeSubscriptionResourceType order.planResourceType
      requestCountTotal := order.planRequestCountTotal
      requestCountPeriodTotal := order.planRequestCountPeriodTotal
      quotaResetPeriod := normalizeResetPeriod order.planQuotaResetPeriod
      quotaResetCustomSeconds := order.planQuotaResetCustomSec
      quotaResetUseFixedClock := order.planQuotaResetUseFixedClock
      quotaResetFixedSeconds := order.planQuotaResetFixedSeconds
      allowedGroupsJSON := trimSpace order.planAllowedGroupsJSON
      allowedModelsJSON := trimSpace order.planAllowedModelsJSON
      allowedVendorIDsJSON := trimSpace order.planAllowedVendorIDsJSON
      deliveryMode := normalizeSubscriptionDeliveryMode order.planDeliveryMode
      deliveryFieldSchemaJSON := trimSpace order.planDeliveryFieldSchemaJSON }

/-- `model/subscription.go::buildSubscriptionPlanSnapshot`. -/
def buildSubscriptionPlanSnapshot (plan : SubscriptionPlan) (planId : Int) : Option SubscriptionPlan :=
  if planId ≤ 0 ∨ trimSpace plan.durationUnit = "" then none
  else some
    { id := planId
      title := trimSpace plan.title
      durationUnit := trimSpace plan.durationUnit
      durationValue := plan.durationValue
      customSeconds := plan.customSeconds
      upgradeGroup := trimSpace plan.upgradeGroup
      totalAmount := plan.totalAmount
      resourceType := normalizeSubscriptionResourceType plan.resourceType
      requestCountTotal := plan.requestCountTotal
      requestCountPeriodTotal := plan.requestCountPeriodTotal
      quotaResetPeriod := normalizeResetPeriod plan.quotaResetPeriod
      quotaResetCustomSeconds := plan.quotaResetCustomSeconds
      quotaResetUseFixedClock := plan.quotaResetUseFixedClock
      quotaResetFixedSeconds := plan.quotaResetFixedSeconds
      allowedGroupsJSON := trimSpace plan.allowedGroupsJSON
      allowedModelsJSON := trimSpace plan.allowedModelsJSON
      allowedVendorIDsJSON := trimSpace plan.allowedVendorIDsJSON
      deliveryMode := normalizeSubscriptionDeliveryMode plan.deliveryMode
      deliveryFieldSchemaJSON := trimSpace plan.deliveryFieldSchemaJSON }

/-- What a delivery by hand takes from the plan of the day. -/
def SubscriptionPlan.following (plan : SubscriptionPlan) (current : PlanRow) : SubscriptionPlan :=
  { plan with
    upgradeGroup := trimSpace current.upgradeGroup
    allowedGroupsJSON := trimSpace current.allowedGroupsJSON
    allowedModelsJSON := trimSpace current.allowedModelsJSON
    allowedVendorIDsJSON := trimSpace current.allowedVendorIDsJSON
    deliveryMode := normalizeSubscriptionDeliveryMode current.deliveryMode
    deliveryFieldSchemaJSON := trimSpace current.deliveryFieldSchemaJSON }

/-- `model/subscription.go::mergeManualDeliveryEffectivePlan`, with a plan of today. -/
def mergeManualDeliveryEffectivePlan (snapshotPlan : Option SubscriptionPlan) (currentPlan : PlanRow)
    (planId : Int) : Option SubscriptionPlan :=
  match snapshotPlan.bind fun plan => buildSubscriptionPlanSnapshot plan planId with
  | none => buildSubscriptionPlanSnapshot currentPlan.load planId
  | some merged => some (merged.following currentPlan)

section Copies
variable {order : SubscriptionOrder} {plan copy : SubscriptionPlan}

theorem order_snapshot (order : SubscriptionOrder) (plan : SubscriptionPlan) (positive : 0 < order.planId) :
    (order.applyPlanSnapshot plan).snapshotPlan = buildSubscriptionPlanSnapshot plan order.planId := by
  have kept : ¬ order.planId ≤ 0 := by omega
  simp [SubscriptionOrder.applyPlanSnapshot, SubscriptionOrder.snapshotPlan,
    buildSubscriptionPlanSnapshot, kept]

theorem order_snapshot_cases (remembered : (order.applyPlanSnapshot plan).snapshotPlan = some copy) :
    copy.id = order.planId ∧ copy = copy.toPlanRow.load ∧
      copy.entitlement = { plan.entitlement with durationUnit := trimSpace plan.durationUnit } := by
  unfold SubscriptionOrder.snapshotPlan at remembered
  split at remembered
  · cases remembered
  · cases remembered
    refine ⟨rfl, rfl, ?_⟩
    simp [SubscriptionOrder.applyPlanSnapshot, PlanRow.entitlement]

theorem order_snapshot_again
    (remembered : (order.applyPlanSnapshot plan).snapshotPlan = some copy) (planId : Int) :
    buildSubscriptionPlanSnapshot copy planId = buildSubscriptionPlanSnapshot plan planId := by
  unfold SubscriptionOrder.snapshotPlan at remembered
  split at remembered
  · cases remembered
  · cases remembered
    simp [buildSubscriptionPlanSnapshot, SubscriptionOrder.applyPlanSnapshot]

theorem order_snapshot_none_iff :
    (order.applyPlanSnapshot plan).snapshotPlan = none ↔ trimSpace plan.durationUnit = "" := by
  simp [SubscriptionOrder.applyPlanSnapshot, SubscriptionOrder.snapshotPlan]

end Copies

/-! ## Issuing a subscription -/

/-- `model/subscription.go::normalizeSubscriptionStringList`. -/
def normalizeSubscriptionStringList (items : List String) : List String :=
  ((items.map trimSpace).filter (· ≠ "")).eraseDups

section Issue
-- What `encoding/json` reads a text as, nothing for a text that is no list of
-- strings.
variable (unmarshal : String → Option (List String))
variable (calendar : Calendar)

/-- `model/subscription.go::decodeSubscriptionStringList`. -/
def decodeSubscriptionStringList (raw : String) : List String :=
  if trimSpace raw = "" then []
  else match unmarshal (trimSpace raw) with
  | none => []
  | some items => normalizeSubscriptionStringList items

/-- `model/subscription.go::isClaudePlan`. -/
def isClaudePlan (plan : SubscriptionPlan) : Bool :=
  mentions (trimSpace plan.title) "claude" ||
  mentions (trimSpace plan.upgradeGroup) "claude" ||
  mentions (trimSpace plan.allowedGroupsJSON) "claude" ||
  (plan.allowedGroups.any fun group => mentions (trimSpace group) "claude") ||
  (plan.allowedModels.any fun modelName =>
    hasPrefix (GoText.toLower (trimSpace modelName)) "claude") ||
  (decodeSubscriptionStringList unmarshal plan.allowedModelsJSON).any fun modelName =>
    hasPrefix (GoText.toLower (trimSpace modelName)) "claude"

def resetPeriodOf (period : String) : ResetPeriod :=
  if period = "daily" then .daily
  else if period = "weekly" then .weekly
  else if period = "monthly" then .monthly
  else if period = "yearly" then .yearly
  else if period = "custom" then .custom
  else .never

def PlanRow.resetRule (row : PlanRow) : ResetRule :=
  { quotaResetPeriod := resetPeriodOf (normalizeResetPeriod row.quotaResetPeriod)
    quotaResetCustomSeconds := row.quotaResetCustomSeconds
    quotaResetUseFixedClock := row.quotaResetUseFixedClock
    quotaResetFixedSeconds := row.quotaResetFixedSeconds }

/-- `model/subscription.go::calcFixedClockDeadlineEndTime`. -/
def calcFixedClockDeadlineEndTime (start : Int) (plan : SubscriptionPlan) : Option Int :=
  if !isClaudePlan unmarshal plan then none
  else if plan.durationUnit ≠ "day" ∨ plan.durationValue ≤ 0 then none
  else if normalizeResetPeriod plan.quotaResetPeriod ≠ "never" then none
  else
    (normalizeResetFixedClock plan.quotaResetUseFixedClock plan.quotaResetFixedSeconds .daily).map
      fun seconds =>
        let deadline := calendar.atClock seconds
          (calendar.addDateReset 0 0 plan.durationValue.toNat start)
        if deadline > start then deadline else calendar.addDateReset 0 0 1 deadline

/-- `model/subscription.go::calcPlanEndTime`. -/
def calcPlanEndTime (start : Int) (plan : SubscriptionPlan) : Except String Int :=
  if plan.durationValue ≤ 0 ∧ plan.durationUnit ≠ "custom" then
    .error "duration_value must be > 0"
  else match calcFixedClockDeadlineEndTime unmarshal calendar start plan with
  | some endUnix => .ok endUnix
  | none =>
    if plan.durationUnit = "year" then
      .ok (calendar.addDate plan.durationValue.toNat 0 0 start)
    else if plan.durationUnit = "month" then
      .ok (calendar.addDate 0 plan.durationValue.toNat 0 start)
    else if plan.durationUnit = "week" then
      .ok (calendar.addDate 0 0 (7 * plan.durationValue.toNat) start)
    else if plan.durationUnit = "day" then .ok (start + plan.durationValue * 24 * 3600)
    else if plan.durationUnit = "hour" then .ok (start + plan.durationValue * 3600)
    else if plan.durationUnit = "custom" then
      if plan.customSeconds ≤ 0 then .error "custom_seconds must be > 0"
      else .ok (start + plan.customSeconds)
    else .error s!"invalid duration_unit: {plan.durationUnit}"

/-- The columns of `model/subscription.go::UserSubscription` that a purchase
writes, with those it starts at zero. -/
structure UserSubscription where
  id : Int
  userId : Int
  planId : Int
  parentUserSubscriptionId : Int := 0
  amountTotal : Int
  amountUsed : Int := 0
  resourceType : String
  requestCountTotal : Int
  requestCountUsed : Int := 0
  requestCountPeriodTotal : Int
  requestCountPeriodUsed : Int := 0
  resetPeriod : String
  resetCustomSeconds : Int
  resetUseFixedClock : Bool
  resetFixedSeconds : Int
  allowedGroupsJSON : String
  allowedModelsJSON : String
  allowedVendorIDsJSON : String
  durationUnit : String
  durationValue : Int
  customSeconds : Int
  startTime : Int
  endTime : Int
  status : String := "active"
  source : String
  lastResetTime : Int
  nextResetTime : Int
  upgradeGroup : String
  prevUserGroup : String
  createdAt : Int
  updatedAt : Int
  deriving DecidableEq, Repr

structure Tables where
  users : List User := []
  plans : List PlanRow := []
  subscriptions : List UserSubscription := []
  nextSubscriptionId : Int := 1
  deriving DecidableEq, Repr

/-- `model/subscription.go::getUserGroupByIdTx`; a missing user has no group. -/
def Tables.userGroup (tables : Tables) (userId : Int) : String :=
  ((lookup User.id tables.users userId).map User.group).getD ""

/-- `model/subscription.go::getSubscriptionPlanByIdForUpdateTx`, and what
`GetSubscriptionPlanById` reads when no cache is ahead of the table. -/
def Tables.getSubscriptionPlanById (tables : Tables) (id : Int) : Except String PlanRow :=
  if id ≤ 0 then .error "invalid plan id"
  else match lookup PlanRow.id tables.plans id with
  | none => .error "record not found"
  | some row => .ok row

def effectivePlan (plan : SubscriptionPlan) (lockedPlan : PlanRow) (source : String) :
    SubscriptionPlan × Bool :=
  if source = "order" then
    match buildSubscriptionPlanSnapshot plan lockedPlan.id with
    | some snapshotPlan => (snapshotPlan, true)
    | none => (lockedPlan.load, false)
  else (lockedPlan.load, false)

def planGuard (tables : Tables) (userId : Int) (lockedPlan : PlanRow) (source : String) : Option String :=
  let count : Int := (tables.subscriptions.filter fun sub =>
    sub.userId = userId ∧ sub.planId = lockedPlan.id ∧ sub.parentUserSubscriptionId = 0).length
  if lockedPlan.maxPurchasePerUser > 0 ∧ count ≥ lockedPlan.maxPurchasePerUser then
    some "已达到该套餐购买上限"
  else if source ≠ "redemption" ∧ lockedPlan.isSoldOut then some "该套餐已售罄"
  else none

def upgradeUserGroup (tables : Tables) (userId : Int) (upgradeGroup : String) : List User × String :=
  if upgradeGroup = "" ∨ tables.userGroup userId = upgradeGroup then (tables.users, "")
  else (update User.id tables.users userId fun user => { user with group := upgradeGroup },
    tables.userGroup userId)

def newSubscription (id userId planId : Int) (plan : SubscriptionPlan) (source prevGroup : String)
    (now endUnix : Int) : UserSubscription :=
  let nextReset := calcNextResetTime calendar now plan.resetRule endUnix
  { id := id
    userId := userId
    planId := planId
    amountTotal := plan.totalAmount
    resourceType := normalizeSubscriptionResourceType plan.resourceType
    requestCountTotal := plan.requestCountTotal
    requestCountPeriodTotal := plan.requestCountPeriodTotal
    resetPeriod := normalizeResetPeriod plan.quotaResetPeriod
    resetCustomSeconds := plan.quotaResetCustomSeconds
    resetUseFixedClock := plan.quotaResetUseFixedClock
    resetFixedSeconds := plan.quotaResetFixedSeconds
    allowedGroupsJSON := trimSpace plan.allowedGroupsJSON
    allowedModelsJSON := trimSpace plan.allowedModelsJSON
    allowedVendorIDsJSON := trimSpace plan.allowedVendorIDsJSON
    durationUnit := plan.durationUnit
    -- the default of the column
    durationValue := if plan.durationValue = 0 then 1 else plan.durationValue
    customSeconds := plan.customSeconds
    startTime := now
    endTime := endUnix
    source := source
    lastResetTime := if nextReset > 0 then now else 0
    nextResetTime := nextReset
    upgradeGroup := trimSpace plan.upgradeGroup
    prevUserGroup := prevGroup
    createdAt := now
    updatedAt := now }

def issue (tables : Tables) (userId planId : Int) (plan : SubscriptionPlan) (source : String)
    (now : Int) : Except String (Tables × UserSubscription) :=
  match calcPlanEndTime unmarshal calendar now plan with
  | .error error => .error error
  | .ok endUnix =>
    let (users, prevGroup) := upgradeUserGroup tables userId (trimSpace plan.upgradeGroup)
    let sub := newSubscription calendar tables.nextSubscriptionId userId planId plan source
      prevGroup now endUnix
    .ok ({ tables with
      users := users
      subscriptions := tables.subscriptions ++ [sub]
      plans := update PlanRow.id tables.plans planId fun row =>
        { row with soldCount := row.soldCount + 1 }
      nextSubscriptionId := tables.nextSubscriptionId + 1 }, sub)

/-- `model/subscription.go::CreateUserSubscriptionFromPlanTx`. -/
def createUserSubscriptionFromPlan (tables : Tables) (userId : Int) (plan : SubscriptionPlan)
    (source : String) (now : Int) : Except String (Tables × UserSubscription) :=
  if plan.id = 0 then .error "invalid plan"
  else if userId ≤ 0 then .error "invalid user id"
  else match tables.getSubscriptionPlanById plan.id with
  | .error error => .error error
  | .ok lockedPlan =>
    let (effective, skipPlanGuard) := effectivePlan plan lockedPlan source
    match if skipPlanGuard then none else planGuard tables userId lockedPlan source with
    | some error => .error error
    | none => issue unmarshal calendar tables userId lockedPlan.id effective source now

/-- The plan of a completion: the one that the order remembers, or that of today
when it remembers none. -/
def orderPlan (tables : Tables) (order : SubscriptionOrder) : Except String SubscriptionPlan :=
  match order.snapshotPlan with
  | some plan => .ok plan
  | none => (tables.getSubscriptionPlanById order.planId).map PlanRow.load

/-- What `CompleteSubscriptionOrderWithResult` issues: nothing yet where the plan
is delivered by hand. -/
def completeOrder (tables : Tables) (order : SubscriptionOrder) (now : Int) :
    Except String (Tables × Option UserSubscription) :=
  match orderPlan tables order with
  | .error error => .error error
  | .ok plan =>
    if normalizeSubscriptionDeliveryMode plan.deliveryMode = "manual_delivery" then
      .ok (tables, none)
    else (createUserSubscriptionFromPlan unmarshal calendar tables order.userId plan "order" now).map
      fun (tables, sub) => (tables, some sub)

/-- What the delivery by hand of an order issues, when it issues its fields itself
and the order has no subscription yet. -/
def deliverOrder (tables : Tables) (order : SubscriptionOrder) (now : Int) :
    Except String (Tables × UserSubscription) :=
  match tables.getSubscriptionPlanById order.planId with
  | .error error => .error error
  | .ok current =>
    match mergeManualDeliveryEffectivePlan order.snapshotPlan current order.planId with
    | none => .error "套餐不存在，无法完成人工发放"
    | some plan =>
      createUserSubscriptionFromPlan unmarshal calendar tables order.userId plan "order" now

/-! ## One entitlement, one subscription -/

theorem decode_by_trim (same : trimSpace raw = trimSpace other) :
    decodeSubscriptionStringList unmarshal raw = decodeSubscriptionStringList unmarshal other := by
  unfold decodeSubscriptionStringList
  rw [same]

theorem is_claude_by_texts {plan copy : PlanRow} (title : trimSpace copy.title = trimSpace plan.title)
    (upgradeGroup : trimSpace copy.upgradeGroup = trimSpace plan.upgradeGroup)
    (groups : trimSpace copy.allowedGroupsJSON = trimSpace plan.allowedGroupsJSON)
    (models : trimSpace copy.allowedModelsJSON = trimSpace plan.allowedModelsJSON) :
    isClaudePlan unmarshal copy.load = isClaudePlan unmarshal plan.load := by
  unfold isClaudePlan
  rw [load_row, load_row, title, upgradeGroup, groups, decode_by_trim unmarshal models]
  rfl

section Entitled
variable {plan copy : PlanRow} (same : copy.entitlement = plan.entitlement)
include same

theorem end_time_by_entitlement (start : Int) :
    calcPlanEndTime unmarshal calendar start copy.load =
      calcPlanEndTime unmarshal calendar start plan.load := by
  simp only [PlanRow.entitlement, Entitlement.mk.injEq] at same
  obtain ⟨title, unit, value, seconds, upgradeGroup, -, -, -, -, period, -, useFixed, fixedSeconds,
    groups, models, -⟩ := same
  have claude := is_claude_by_texts unmarshal title upgradeGroup groups models
  unfold calcPlanEndTime calcFixedClockDeadlineEndTime
  rw [claude, load_row, load_row, unit, value, seconds, period, useFixed, fixedSeconds]

theorem issue_by_entitlement (tables : Tables) (userId planId : Int) (source : String) (now : Int) :
    issue unmarshal calendar tables userId planId copy.load source now =
      issue unmarshal calendar tables userId planId plan.load source now := by
  have ends := end_time_by_entitlement unmarshal calendar same now
  simp only [PlanRow.entitlement, Entitlement.mk.injEq] at same
  obtain ⟨-, unit, value, seconds, upgradeGroup, amount, resource, count, periodCount, period,
    resetSeconds, useFixed, fixedSeconds, groups, models, vendors, -⟩ := same
  unfold issue newSubscription PlanRow.resetRule
  rw [ends, load_row, load_row, unit, value, seconds, upgradeGroup, amount, resource, count,
    periodCount, period, resetSeconds, useFixed, fixedSeconds, groups, models, vendors]

end Entitled

/-! ## Which units last -/

def Lasts (durationUnit : String) (durationValue customSeconds : Int) : Prop :=
  (durationUnit = "custom" ∧ 0 < customSeconds) ∨
    (durationUnit ∈ ["year", "month", "week", "day", "hour"] ∧ 0 < durationValue)

instance (durationUnit : String) (durationValue customSeconds : Int) :
    Decidable (Lasts durationUnit durationValue customSeconds) :=
  inferInstanceAs (Decidable (_ ∨ _))

theorem lasts_trimmed
    (lasts : Lasts durationUnit durationValue customSeconds) :
    trimSpace durationUnit = durationUnit := by
  obtain ⟨rfl, -⟩ | ⟨known, -⟩ := lasts
  · decide
  · simp only [List.mem_cons, List.not_mem_nil, or_false] at known
    obtain rfl | rfl | rfl | rfl | rfl := known <;> decide

theorem blank_never_lasts
    (blank : trimSpace durationUnit = "") : ¬ Lasts durationUnit durationValue customSeconds := by
  intro lasts
  rw [← lasts_trimmed lasts, blank] at lasts
  simp [Lasts] at lasts

theorem fixed_clock_lasts
    (deadline : calcFixedClockDeadlineEndTime unmarshal calendar start plan = some endUnix) :
    plan.durationUnit = "day" ∧ 0 < plan.durationValue := by
  unfold calcFixedClockDeadlineEndTime at deadline
  split at deadline
  · cases deadline
  · split at deadline
    · cases deadline
    · rename_i days
      exact ⟨Classical.not_not.mp (not_or.mp days).1, Int.not_le.mp (not_or.mp days).2⟩

theorem end_time_iff (start : Int) (plan : SubscriptionPlan) :
    (∃ endUnix, calcPlanEndTime unmarshal calendar start plan = .ok endUnix) ↔
      Lasts plan.durationUnit plan.durationValue plan.customSeconds := by
  unfold calcPlanEndTime
  split
  · rename_i short
    constructor
    · rintro ⟨_, ends⟩
      cases ends
    · rintro (⟨custom, -⟩ | ⟨-, positive⟩)
      · exact absurd custom short.2
      · omega
  · rename_i long
    cases clock : calcFixedClockDeadlineEndTime unmarshal calendar start plan with
    | some endUnix =>
      obtain ⟨day, positive⟩ := fixed_clock_lasts unmarshal calendar clock
      exact ⟨fun _ => .inr ⟨by simp [day], positive⟩, fun _ => ⟨endUnix, rfl⟩⟩
    | none =>
      dsimp only
      by_cases custom : plan.durationUnit = "custom"
      · by_cases positive : 0 < plan.customSeconds
        · simp [Lasts, custom, positive, Int.not_le.mpr positive]
        · simp [Lasts, custom, positive, Int.not_lt.mp positive]
      · have positive : 0 < plan.durationValue := by
          by_contra short
          exact long ⟨Int.not_lt.mp short, custom⟩
        by_cases known : plan.durationUnit ∈ ["year", "month", "week", "day", "hour"]
        · have lasts := known
          simp only [List.mem_cons, List.not_mem_nil, or_false] at known
          refine ⟨fun _ => .inr ⟨lasts, positive⟩, fun _ => ?_⟩
          obtain unit | unit | unit | unit | unit := known <;> simp [unit]
        · have unknown := known
          simp only [List.mem_cons, List.not_mem_nil, or_false, not_or] at unknown
          simp [Lasts, custom, known, unknown]

/-! ## Issuing and completing -/

def issued (result : Except String (Tables × UserSubscription)) : Option UserSubscription :=
  result.toOption.map Prod.snd

def UserSubscription.fromSource (source : String) (sub : UserSubscription) : UserSubscription :=
  { sub with source := source }

theorem new_from_source (id userId planId : Int) (plan : SubscriptionPlan)
    (source other prevGroup : String) (now endUnix : Int) :
    (newSubscription calendar id userId planId plan source prevGroup now endUnix).fromSource other =
      newSubscription calendar id userId planId plan other prevGroup now endUnix := by
  simp only [UserSubscription.fromSource, newSubscription]

theorem issue_source (tables : Tables) (userId planId : Int) (plan : SubscriptionPlan)
    (source other : String) (now : Int) :
    (issued (issue unmarshal calendar tables userId planId plan source now)).map
        (UserSubscription.fromSource other) =
      issued (issue unmarshal calendar tables userId planId plan other now) := by
  unfold issue
  cases calcPlanEndTime unmarshal calendar now plan with
  | error error => rfl
  | ok endUnix => simp only [issued, Except.toOption, Option.map_some, new_from_source]

theorem issued_iff (tables : Tables) (userId planId : Int) (plan : SubscriptionPlan)
    (source : String) (now : Int) :
    issued (issue unmarshal calendar tables userId planId plan source now) = none ↔
      ¬ Lasts plan.durationUnit plan.durationValue plan.customSeconds := by
  rw [← end_time_iff unmarshal calendar now plan]
  unfold issue
  cases calcPlanEndTime unmarshal calendar now plan with
  | error | ok => simp [issued, Except.toOption]

section Create
variable {tables : Tables} {userId now : Int} {plan copy : SubscriptionPlan} {source : String}
variable {order : SubscriptionOrder}

theorem stored_positive (stored : tables.getSubscriptionPlanById plan.id = .ok plan.toPlanRow) :
    0 < plan.id := by
  unfold Tables.getSubscriptionPlanById at stored
  split at stored
  · cases stored
  · omega

theorem create_by_snapshot (same : copy.id = plan.id)
    (again : ∀ planId,
      buildSubscriptionPlanSnapshot copy planId = buildSubscriptionPlanSnapshot plan planId) :
    createUserSubscriptionFromPlan unmarshal calendar tables userId copy "order" now =
      createUserSubscriptionFromPlan unmarshal calendar tables userId plan "order" now := by
  unfold createUserSubscriptionFromPlan effectivePlan
  simp only [same, again]

theorem create_direct (known : 0 < userId)
    (stored : tables.getSubscriptionPlanById plan.id = .ok plan.toPlanRow)
    (direct : source ≠ "order")
    (admitted : planGuard tables userId plan.toPlanRow source = none) :
    createUserSubscriptionFromPlan unmarshal calendar tables userId plan source now =
      issue unmarshal calendar tables userId plan.id plan.load source now := by
  have positive := stored_positive stored
  unfold createUserSubscriptionFromPlan effectivePlan
  rw [if_neg (by omega), if_neg (by omega), stored]
  simp [direct, admitted]

theorem create_ordered (known : 0 < userId)
    (stored : tables.getSubscriptionPlanById plan.id = .ok plan.toPlanRow)
    (built : buildSubscriptionPlanSnapshot plan plan.id = some copy) :
    createUserSubscriptionFromPlan unmarshal calendar tables userId plan "order" now =
      issue unmarshal calendar tables userId plan.id copy "order" now := by
  have positive := stored_positive stored
  unfold createUserSubscriptionFromPlan effectivePlan
  rw [if_neg (by omega), if_neg (by omega), stored]
  simp [built]

theorem create_blank (stored : tables.getSubscriptionPlanById plan.id = .ok plan.toPlanRow)
    (blank : trimSpace plan.durationUnit = "") :
    issued (createUserSubscriptionFromPlan unmarshal calendar tables userId plan source now) =
      none := by
  have nothing := (issued_iff unmarshal calendar tables userId plan.id plan.load source now).mpr
    (blank_never_lasts blank)
  have effective : effectivePlan plan plan.toPlanRow source = (plan.load, false) := by
    simp [effectivePlan, buildSubscriptionPlanSnapshot, blank]
  unfold createUserSubscriptionFromPlan
  split
  · rfl
  · split
    · rfl
    · rw [stored]
      dsimp only
      rw [effective]
      dsimp only
      split
      · rfl
      · exact nothing

theorem order_plan_cases (order : SubscriptionOrder) (ordered : order.planId = plan.id)
    (kept : trimSpace plan.durationUnit = "" →
      tables.getSubscriptionPlanById plan.id = .ok plan.toPlanRow) :
    ∃ copy, orderPlan tables (order.applyPlanSnapshot plan) = .ok copy ∧ copy.id = plan.id ∧
      normalizeSubscriptionDeliveryMode copy.deliveryMode =
        normalizeSubscriptionDeliveryMode plan.deliveryMode ∧
      ∀ planId, buildSubscriptionPlanSnapshot copy planId = buildSubscriptionPlanSnapshot plan planId := by
  unfold orderPlan
  cases remembered : (order.applyPlanSnapshot plan).snapshotPlan with
  | some copy =>
    obtain ⟨id, -, delivers⟩ := order_snapshot_cases remembered
    refine ⟨copy, rfl, id.trans ordered, ?_, order_snapshot_again remembered⟩
    exact congrArg Entitlement.deliveryMode delivers
  | none =>
    have stored := kept (order_snapshot_none_iff.mp remembered)
    have named : (order.applyPlanSnapshot plan).planId = plan.id := ordered
    rw [named, stored]
    exact ⟨plan.load, rfl, rfl, rfl, fun _ => rfl⟩

theorem order_completed (ordered : order.planId = plan.id)
    (kept : trimSpace plan.durationUnit = "" →
      tables.getSubscriptionPlanById plan.id = .ok plan.toPlanRow) :
    completeOrder unmarshal calendar tables (order.applyPlanSnapshot plan) now =
      if normalizeSubscriptionDeliveryMode plan.deliveryMode = "manual_delivery" then
        .ok (tables, none)
      else
        (createUserSubscriptionFromPlan unmarshal calendar tables order.userId plan "order" now).map
          fun (tables, sub) => (tables, some sub) := by
  obtain ⟨copy, named, same, mode, again⟩ := order_plan_cases order ordered kept
  unfold completeOrder
  rw [named]
  dsimp only
  rw [mode, ← create_by_snapshot unmarshal calendar same again]
  rfl

theorem follow_snapshot (plan : SubscriptionPlan) (current : PlanRow) (planId : Int) :
    (buildSubscriptionPlanSnapshot plan planId).map (·.following current) =
      buildSubscriptionPlanSnapshot (plan.following current) planId := by
  unfold buildSubscriptionPlanSnapshot SubscriptionPlan.following
  split <;> simp

theorem order_delivered (ordered : order.planId = plan.id) (named : trimSpace plan.durationUnit ≠ "")
    (stored : tables.getSubscriptionPlanById plan.id = .ok current) :
    deliverOrder unmarshal calendar tables (order.applyPlanSnapshot plan) now =
      createUserSubscriptionFromPlan unmarshal calendar tables order.userId
        (plan.following current) "order" now := by
  have positive : ¬ plan.id ≤ 0 := by
    intro none_
    rw [Tables.getSubscriptionPlanById, if_pos none_] at stored
    cases stored
  have known : (order.applyPlanSnapshot plan).planId = plan.id := ordered
  unfold deliverOrder
  rw [known, stored]
  cases remembered : (order.applyPlanSnapshot plan).snapshotPlan with
  | none => exact absurd (order_snapshot_none_iff.mp remembered) named
  | some copy =>
    have again := order_snapshot_again remembered
    have followed := follow_snapshot plan current plan.id
    simp only [mergeManualDeliveryEffectivePlan, Option.bind_some, again]
    cases built : buildSubscriptionPlanSnapshot plan plan.id with
    | none => simp [buildSubscriptionPlanSnapshot, positive, named] at built
    | some merged =>
      rw [built] at followed
      refine create_by_snapshot unmarshal calendar ?_ fun planId => ?_
      · simp only [buildSubscriptionPlanSnapshot] at built
        split at built
        · cases built
        · cases built
          rfl
      · rw [← follow_snapshot, ← follow_snapshot]
        simp only [buildSubscriptionPlanSnapshot] at built
        split at built
        · cases built
        · cases built
          simp [buildSubscriptionPlanSnapshot]

theorem direct_issues_ordered_iff (known : 0 < order.userId) (ordered : order.planId = plan.id)
    (stored : tables.getSubscriptionPlanById plan.id = .ok plan.toPlanRow)
    (direct : source ≠ "order")
    (admitted : planGuard tables order.userId plan.toPlanRow source = none) :
    (issued (createUserSubscriptionFromPlan unmarshal calendar tables order.userId plan source
          now)).map (UserSubscription.fromSource "order") =
        issued (createUserSubscriptionFromPlan unmarshal calendar tables order.userId plan "order"
          now) ↔
      trimSpace plan.durationUnit = plan.durationUnit ∨
        ¬ Lasts (trimSpace plan.durationUnit) plan.durationValue plan.customSeconds := by
  cases remembered : (order.applyPlanSnapshot plan).snapshotPlan with
  | none =>
    have blank := order_snapshot_none_iff.mp remembered
    rw [create_blank unmarshal calendar stored blank, create_blank unmarshal calendar stored blank]
    refine ⟨fun _ => .inr (blank_never_lasts ?_), fun _ => rfl⟩
    rw [GoText.trim_space_idem, blank]
  | some copy =>
    obtain ⟨-, plain, delivers⟩ := order_snapshot_cases remembered
    have positive := stored_positive stored
    have built : buildSubscriptionPlanSnapshot plan plan.id = some copy := by
      rw [← ordered, ← order_snapshot order plan (by omega), remembered]
    rw [create_direct unmarshal calendar known stored direct admitted,
      create_ordered unmarshal calendar known stored built, issue_source unmarshal calendar]
    have columns := delivers
    simp only [PlanRow.entitlement, Entitlement.mk.injEq] at columns
    obtain ⟨-, unit, value, seconds, -⟩ := columns
    by_cases trimmed : trimSpace plan.durationUnit = plan.durationUnit
    · have same : copy.entitlement = plan.entitlement := by
        rw [delivers, trimmed]
        simp only [PlanRow.entitlement]
      rw [plain, issue_by_entitlement unmarshal calendar same]
      exact ⟨fun _ => .inl trimmed, fun _ => rfl⟩
    · have refused := (issued_iff unmarshal calendar tables order.userId plan.id plan.load "order"
        now).mpr fun lasts => trimmed (lasts_trimmed lasts)
      have sold := issued_iff unmarshal calendar tables order.userId plan.id copy "order" now
      rw [unit, value, seconds] at sold
      rw [refused, eq_comm, sold]
      exact ⟨.inr, fun either => either.resolve_left trimmed⟩

end Create

end Issue

/-! ## The typed terms -/

/-- `model/subscription.go::normalizeSubscriptionIntList`. -/
def normalizeSubscriptionIntList (items : List Int) : List Int :=
  (items.filter (0 < ·)).eraseDups

/-- `model/subscription.go::decodeSubscriptionIntList`. -/
def decodeSubscriptionIntList (unmarshalInts : String → Option (List Int)) (raw : String) : List Int :=
  if trimSpace raw = "" then []
  else match unmarshalInts (trimSpace raw) with
  | none => []
  | some items => normalizeSubscriptionIntList items

section Terms
variable (unmarshal : String → Option (List String)) (unmarshalInts : String → Option (List Int))

def PlanRow.terms (row : PlanRow) : PlanTerms :=
  { title := row.title
    isClaude := isClaudePlan unmarshal row.load
    durationUnit := .ofText row.durationUnit
    durationValue := row.durationValue
    customSeconds := row.customSeconds
    upgradeGroup := row.upgradeGroup
    totalAmount := row.totalAmount
    resourceType :=
      if normalizeSubscriptionResourceType row.resourceType = "request_count" then .requestCount
      else .quota
    requestCountTotal := row.requestCountTotal
    requestCountPeriodTotal := row.requestCountPeriodTotal
    reset := row.resetRule
    allowedGroups := decodeSubscriptionStringList unmarshal row.allowedGroupsJSON
    allowedModels := decodeSubscriptionStringList unmarshal row.allowedModelsJSON
    allowedVendorIDs := decodeSubscriptionIntList unmarshalInts row.allowedVendorIDsJSON
    deliveryMode :=
      if normalizeSubscriptionDeliveryMode row.deliveryMode = "manual_delivery" then .manualDelivery
      else .autoActivate }

theorem reset_period_never_iff (period : String) :
    resetPeriodOf (normalizeResetPeriod period) = .never ↔ normalizeResetPeriod period = "never" := by
  unfold resetPeriodOf normalizeResetPeriod
  grind

end Terms

/-! ## The round trip -/

/-- Whatever plan an order is made for, the order remembers what the plan
delivers, but for the blanks around its duration unit, and forgets only a plan
without a unit. Completing the order issues what a purchase of the plan for an
order issues at that time; for a plan that is delivered by hand it issues nothing,
and the delivery issues what a purchase of the plan issues with the group, the
lists and the mode that the plan has by then. A purchase from another source that
the limits of the stored plan admit issues the same row but for its source,
exactly when no blanks surround the unit, or the trimmed unit has no end time
either. -/
theorem order_issues_plan (unmarshal : String → Option (List String)) (calendar : Calendar)
    (tables : Tables) (order : SubscriptionOrder) (plan : SubscriptionPlan) (now : Int)
    (ordered : order.planId = plan.id) :
    ((∀ copy, (order.applyPlanSnapshot plan).snapshotPlan = some copy →
        copy.id = plan.id ∧ copy.entitlement =
          { plan.entitlement with durationUnit := trimSpace plan.durationUnit }) ∧
      ((order.applyPlanSnapshot plan).snapshotPlan = none ↔ trimSpace plan.durationUnit = "")) ∧
    ((trimSpace plan.durationUnit = "" →
        tables.getSubscriptionPlanById plan.id = .ok plan.toPlanRow) →
      completeOrder unmarshal calendar tables (order.applyPlanSnapshot plan) now =
        if normalizeSubscriptionDeliveryMode plan.deliveryMode = "manual_delivery" then
          .ok (tables, none)
        else
          (createUserSubscriptionFromPlan unmarshal calendar tables order.userId plan "order" now).map
            fun (tables, sub) => (tables, some sub)) ∧
    (trimSpace plan.durationUnit ≠ "" → ∀ current,
      tables.getSubscriptionPlanById plan.id = .ok current →
        deliverOrder unmarshal calendar tables (order.applyPlanSnapshot plan) now =
          createUserSubscriptionFromPlan unmarshal calendar tables order.userId
            (plan.following current) "order" now) ∧
    (tables.getSubscriptionPlanById plan.id = .ok plan.toPlanRow → 0 < order.userId →
      ∀ source, source ≠ "order" →
        planGuard tables order.userId plan.toPlanRow source = none →
        ((issued (createUserSubscriptionFromPlan unmarshal calendar tables order.userId plan source
              now)).map (UserSubscription.fromSource "order") =
            issued (createUserSubscriptionFromPlan unmarshal calendar tables order.userId plan
              "order" now) ↔
          trimSpace plan.durationUnit = plan.durationUnit ∨
            ¬ Lasts (trimSpace plan.durationUnit) plan.durationValue plan.customSeconds)) := by
  refine ⟨⟨fun copy remembered => ?_, order_snapshot_none_iff⟩,
    order_completed unmarshal calendar ordered,
    fun named current stored => order_delivered unmarshal calendar ordered named stored,
    fun stored known source direct admitted =>
      direct_issues_ordered_iff unmarshal calendar known ordered stored direct admitted⟩
  obtain ⟨same, -, delivers⟩ := order_snapshot_cases remembered
  exact ⟨same.trans ordered, delivers⟩

def claudeDayCard : SubscriptionPlan :=
  { id := 3
    title := " Claude day card "
    durationUnit := "day"
    durationValue := 2
    upgradeGroup := "vip "
    totalAmount := 500
    quotaResetUseFixedClock := true
    quotaResetFixedSeconds := 8 * 3600 }

def dayCardTables (plan : SubscriptionPlan) : Tables :=
  { users := [{ id := 7 }], plans := [plan.toPlanRow] }

def dayCardOrder : SubscriptionOrder := { userId := 7, planId := 3 }

/-- What `encoding/json` reads these cards' texts as: they name no lists. -/
def readNothing (_ : String) : Option (List String) := none

theorem day_card_order_issues_plan :
    completeOrder readNothing dayCount (dayCardTables claudeDayCard)
        (dayCardOrder.applyPlanSnapshot claudeDayCard) 1000 =
      (createUserSubscriptionFromPlan readNothing dayCount (dayCardTables claudeDayCard) 7
        claudeDayCard "order" 1000).map (fun (tables, sub) => (tables, some sub)) ∧
    (issued (createUserSubscriptionFromPlan readNothing dayCount (dayCardTables claudeDayCard) 7
          claudeDayCard "admin" 1000)).map (UserSubscription.fromSource "order") =
        issued (createUserSubscriptionFromPlan readNothing dayCount (dayCardTables claudeDayCard) 7
          claudeDayCard "order" 1000) :=
  have card := order_issues_plan readNothing dayCount (dayCardTables claudeDayCard) dayCardOrder
    claudeDayCard 1000 rfl
  ⟨card.2.1 fun _ => by decide +kernel,
    (card.2.2.2 (by decide +kernel) (by decide) "admin" (by decide) (by decide +kernel)).mpr
      (.inl (by decide +kernel))⟩

def spacedDayCard : SubscriptionPlan := { claudeDayCard with durationUnit := " day" }

/-- The order remembers another unit than the plan has. An admin cannot issue
the card, and whoever orders it gets two days. -/
theorem spaced_unit_sold_by_order_alone :
    ((dayCardOrder.applyPlanSnapshot spacedDayCard).snapshotPlan.map fun copy =>
        copy.entitlement) ≠ some spacedDayCard.entitlement ∧
      (createUserSubscriptionFromPlan readNothing dayCount (dayCardTables spacedDayCard) 7
        spacedDayCard "admin" 1000).map Prod.snd = .error "invalid duration_unit:  day" ∧
      (completeOrder readNothing dayCount (dayCardTables spacedDayCard)
        (dayCardOrder.applyPlanSnapshot spacedDayCard) 1000).map
          (fun (_, sub) => sub.map UserSubscription.endTime) = .ok (some 201600) := by
  refine ⟨by decide +kernel, by decide +kernel, by decide +kernel⟩

end NewApi.PlanSnapshot
