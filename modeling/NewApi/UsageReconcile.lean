import Mathlib.Algebra.Order.BigOperators.Group.List
import NewApi.SubscriptionStore

/-! The reconciliation of a subscription's counters with its pre-consume
records and consume logs, and the derived day pass, which takes requests out of
a subscription and leaves neither. A counter that already is what records, logs
and passes imply should be left alone; the reconciliation forgets some of what
they imply. -/
namespace NewApi.UsageReconcile
open NewApi.KeyedTable
open NewApi.ResetWindow NewApi.Subscription
open NewApi.SubscriptionStore hiding step Event

/-! ## Consume logs -/

/-- SQL `LIKE`: `%` stands for any text and `_` for any character. -/
def like : List Char → List Char → Bool
  | [], text => text.isEmpty
  | '%' :: rest, text => text.tails.any fun tail => like rest tail
  | '_' :: rest, text => match text with
    | [] => false
    | _ :: tail => like rest tail
  | char :: rest, text => match text with
    | [] => false
    | head :: tail => char = head && like rest tail

/-- The JSON column of a log: its text, and the integer that `readInt64FromMap`
reads for each key of the decoded map, unless the text does not decode. -/
structure LogOther where
  text : String
  fields : Option (List (String × Int))
  deriving DecidableEq, Repr

/-- `model/log.go::Log`, the columns that the summaries read. -/
structure Log where
  userId : Int
  createdAt : Int
  type : Int
  requestId : String
  other : LogOther
  deriving DecidableEq, Repr

def logTypeConsume : Int := 2

/-- The tables of subscriptions and the log table, which may be in another
database. -/
structure Tables where
  db : Database
  logs : List Log
  deriving DecidableEq, Repr

/-- `model/log.go::applySubscriptionJSONIdFilter`. -/
def applySubscriptionJSONIdFilter (key : String) (value : Int) (log : Log) : Bool :=
  like s!"%\"{key}\":{value},%".toList log.other.text.toList ||
    like s!"%\"{key}\":{value}\x7d%".toList log.other.text.toList

/-- `model/log.go::buildSubscriptionConsumeLogsQuery`. -/
def buildSubscriptionConsumeLogsQuery (userId subscriptionId planId filterUserId startTimestamp
    endTimestamp : Int) (logs : List Log) : List Log :=
  logs.filter fun log =>
    log.type = logTypeConsume &&
      like "%\"billing_source\":\"subscription\"%".toList log.other.text.toList &&
      (userId ≤ 0 || log.userId = userId) &&
      (filterUserId ≤ 0 || log.userId = filterUserId) &&
      (subscriptionId ≤ 0 || applySubscriptionJSONIdFilter "subscription_id" subscriptionId log) &&
      (planId ≤ 0 || applySubscriptionJSONIdFilter "subscription_plan_id" planId log) &&
      (startTimestamp = 0 || log.createdAt ≥ startTimestamp) &&
      (endTimestamp = 0 || log.createdAt ≤ endTimestamp)

def readInt64FromMap (values : List (String × Int)) (key : String) : Int :=
  (values.lookup key).getD 0

def firstPositive : List Int → Int
  | [] => 0
  | value :: rest => if value > 0 then value else firstPositive rest

/-- `model/log.go::readSubscriptionConsumedFromOther`. -/
def readSubscriptionConsumedFromOther (values : List (String × Int)) : ResourceType → Int
  | .requestCount => firstPositive [
      readInt64FromMap values "subscription_request_count_consumed",
      readInt64FromMap values "subscription_consumed",
      readInt64FromMap values "subscription_pre_consumed_count"]
  | .quota =>
    let preConsumed :=
      if readInt64FromMap values "subscription_pre_consumed_amount" ≤ 0 then
        readInt64FromMap values "subscription_pre_consumed"
      else readInt64FromMap values "subscription_pre_consumed_amount"
    firstPositive [
      readInt64FromMap values "subscription_amount_consumed",
      readInt64FromMap values "subscription_consumed",
      preConsumed + readInt64FromMap values "subscription_post_delta"]

/-- `model/log.go::buildSubscriptionResourceTypeMap`, and the type that a
summary takes for a log of a subscription that is not in the map. -/
def logResourceType (db : Database) (values : List (String × Int)) : ResourceType :=
  let subscriptionID := readInt64FromMap values "subscription_id"
  if subscriptionID ≤ 0 then .quota
  else ((db.subscription subscriptionID).map UserSubscription.resourceType).getD .quota

def isNamed (requestIDs : List String) (requestId : String) : Bool :=
  requestId ≠ "" && requestIDs.contains requestId

/-- The totals of `model/log.go::SubscriptionConsumeSummary`. -/
structure ConsumeSummary where
  totalQuotaConsumed : Int := 0
  totalRequestConsumed : Int := 0
  deriving DecidableEq, Repr

def ConsumeSummary.add (db : Database) (summary : ConsumeSummary) (log : Log) : ConsumeSummary :=
  match log.other.fields with
  | none => summary
  | some values =>
    let consumed := readSubscriptionConsumedFromOther values (logResourceType db values)
    if consumed ≤ 0 then summary
    else match logResourceType db values with
    | .requestCount =>
      { summary with totalRequestConsumed := summary.totalRequestConsumed + consumed }
    | .quota => { summary with totalQuotaConsumed := summary.totalQuotaConsumed + consumed }

/-- `model/log.go::summarizeSubscriptionConsumeLogsWithExcludedRequestIDs`. -/
def summarizeSubscriptionConsumeLogsWithExcludedRequestIDs (tables : Tables) (userId subscriptionId
    planId filterUserId startTimestamp endTimestamp : Int) (excludedRequestIDs : List String) :
    ConsumeSummary :=
  (buildSubscriptionConsumeLogsQuery userId subscriptionId planId filterUserId startTimestamp
    endTimestamp tables.logs).foldl (fun summary log =>
      if isNamed excludedRequestIDs log.requestId then summary else summary.add tables.db log) {}

/-! ## Pre-consume records -/

def settlementFields : List String :=
  ["subscription_amount_consumed", "subscription_request_count_consumed", "subscription_consumed",
    "subscription_post_delta"]

def hasSubscriptionSettlementFields (values : List (String × Int)) : Bool :=
  settlementFields.any fun field => (values.lookup field).isSome

/-- `model/subscription.go::findFinalizedSubscriptionConsumeRequestIDs`. -/
def findFinalizedSubscriptionConsumeRequestIDs (tables : Tables) (sub : UserSubscription)
    (startTimestamp endTimestamp : Int) : List String :=
  ((buildSubscriptionConsumeLogsQuery 0 sub.id 0 sub.userId startTimestamp endTimestamp
    tables.logs).filter fun log => log.requestId ≠ "" &&
      (log.other.fields.any hasSubscriptionSettlementFields)).map Log.requestId

def consumedRecords (db : Database) (sub : UserSubscription) (startTimestamp endTimestamp : Int) :
    List SubscriptionPreConsumeRecord :=
  db.records.filter fun record =>
    record.userSubscriptionId = sub.id && record.userId = sub.userId &&
      record.status = .consumed && record.createdAt ≥ startTimestamp &&
      record.createdAt ≤ endTimestamp

structure RecordUsage where
  amountUsed : Int := 0
  countUsed : Int := 0
  requestIDs : List String := []
  deriving DecidableEq, Repr

def RecordUsage.add (usage : RecordUsage) (record : SubscriptionPreConsumeRecord) : RecordUsage where
  amountUsed := usage.amountUsed + record.preConsumedAmount
  countUsed := usage.countUsed + record.preConsumedCount
  requestIDs :=
    if record.requestId ≠ "" then usage.requestIDs ++ [record.requestId] else usage.requestIDs

/-- `model/subscription.go::summarizeUserSubscriptionUsageFromPreConsumeRecords`. -/
def summarizeUserSubscriptionUsageFromPreConsumeRecords (tables : Tables) (sub : UserSubscription)
    (startTimestamp endTimestamp : Int) : RecordUsage :=
  let finalizedRequestIDs :=
    findFinalizedSubscriptionConsumeRequestIDs tables sub startTimestamp endTimestamp
  (consumedRecords tables.db sub startTimestamp endTimestamp).foldl (fun usage record =>
    if isNamed finalizedRequestIDs record.requestId then usage else usage.add record) {}

/-! ## Reconciliation -/

def usageStart (sub : UserSubscription) (now : Int) : Int :=
  let windowStart := getSubscriptionUsageWindowStart sub
  let windowStart := if windowStart ≤ 0 then sub.startTime else windowStart
  if windowStart ≤ 0 then now else windowStart

def capAt (limit value : Int) : Int := if limit > 0 ∧ value > limit then limit else value

/-- `model/subscription.go::reconcileUserSubscriptionUsageFromLogs`: the row
after it, and whether a counter changed. -/
def reconcileUserSubscriptionUsageFromLogs (tables : Tables) (sub : UserSubscription) (now : Int) :
    UserSubscription × Bool :=
  let windowStart := usageStart sub now
  let records := summarizeUserSubscriptionUsageFromPreConsumeRecords tables sub windowStart now
  let summary := summarizeSubscriptionConsumeLogsWithExcludedRequestIDs tables 0 sub.id 0 sub.userId
    windowStart now records.requestIDs
  let expectedAmountUsed := capAt sub.amountTotal (records.amountUsed + summary.totalQuotaConsumed)
  let expectedPeriodCountUsed := capAt (getSubscriptionRequestCountPeriodLimit sub)
    (records.countUsed + summary.totalRequestConsumed)
  if hasSeparatePeriodRequestCounter sub then
    let total := summarizeUserSubscriptionUsageFromPreConsumeRecords tables sub sub.startTime now
    let totalSummary := summarizeSubscriptionConsumeLogsWithExcludedRequestIDs tables 0 sub.id 0
      sub.userId sub.startTime now total.requestIDs
    -- the first value that the summary of the records returns is their amount
    let expectedTotalCountUsed := capAt sub.requestCountTotal
      (total.amountUsed + totalSummary.totalRequestConsumed)
    (sub.setUsage expectedAmountUsed expectedTotalCountUsed expectedPeriodCountUsed,
      sub.amountUsed ≠ expectedAmountUsed || sub.requestCountUsed ≠ expectedTotalCountUsed ||
        sub.requestCountPeriodUsed ≠ expectedPeriodCountUsed)
  else
    (sub.setUsage expectedAmountUsed expectedPeriodCountUsed 0,
      sub.amountUsed ≠ expectedAmountUsed || sub.requestCountUsed ≠ expectedPeriodCountUsed ||
        sub.requestCountPeriodUsed ≠ 0)

/-! ## Derived day passes -/

/-- `model/subscription.go::getUserSubscriptionRemainingRequestCount`. -/
def getUserSubscriptionRemainingRequestCount (sub : UserSubscription) : Int :=
  if sub.resourceType ≠ .requestCount then 0
  else
    let remaining :=
      if hasLifetimeRequestCountLimit sub then max 0 (sub.requestCountTotal - sub.requestCountUsed)
      else -1
    let periodLimit := getSubscriptionRequestCountPeriodLimit sub
    let periodRemain := max 0 (periodLimit - getCurrentRequestCountUsed sub)
    let remaining :=
      if periodLimit > 0 ∧ (remaining < 0 ∨ periodRemain < remaining) then periodRemain
      else remaining
    max 0 remaining

/-- `model/subscription.go::calcDerivedDayPassEndTime`. -/
def calcDerivedDayPassEndTime (calendar : Calendar) (now : Int) (parent : UserSubscription) : Int :=
  let fixedSeconds :=
    if parent.resetUseFixedClock then
      (normalizeResetFixedClock true parent.resetFixedSeconds .daily).getD (8 * 3600)
    else 8 * 3600
  let deadline := calendar.atClock fixedSeconds (calendar.addDateReset 0 0 1 now)
  if deadline > now then deadline else calendar.addDateReset 0 0 1 deadline

inductive DayPassError where
  | invalidParent
  | transferNotPositive
  | planInForce
  | passInForce
  | nothingLeft
  | atMost (remaining : Int)
  | settle (error : PostConsumeError)
  deriving DecidableEq, Repr

def DayPassError.text : DayPassError → String
  | .invalidParent => "无效的月卡"
  | .transferNotPositive => "转出次数必须大于 0"
  | .planInForce => "当前月卡已有生效中的拆分计划"
  | .passInForce => "当前月卡已有生效中的天卡，请先等待其到期"
  | .nothingLeft => "当前月卡已无可拆分次数"
  | .atMost remaining => s!"当前最多可转出 {remaining} 次"
  | .settle error => error.text

/-- The row as `Create` stores it: where a field is zero, the default of its column. -/
def dayPass (calendar : Calendar) (id : Int) (parent : UserSubscription) (transferCount now : Int) :
    UserSubscription where
  id := id
  userId := parent.userId
  planId := parent.planId
  parentUserSubscriptionId := parent.id
  resourceType := .requestCount
  requestCountTotal := transferCount
  allowedGroups := parent.allowedGroups
  allowedModels := parent.allowedModels
  allowedVendorIDs := parent.allowedVendorIDs
  startTime := now
  endTime := calcDerivedDayPassEndTime calendar now parent
  source := .derivedDayPass
  upgradeGroup := parent.upgradeGroup
  aggregateEnabled := true
  specificChannelId := parent.specificChannelId
  specificChannelKeyIndex :=
    if parent.specificChannelKeyIndex = 0 then -1 else parent.specificChannelKeyIndex
  updatedAt := now

/-- `model/subscription.go::createDerivedDayPassFromParentTx`: the requests are
charged to the stored parent and given to a new row. `planInForce` is the
answer of `getActiveDerivedDayPassPlanByParentTx`, where it is asked. -/
def createDerivedDayPassFromParent (calendar : Calendar) (parent : UserSubscription)
    (transferCount now : Int) (planInForce : Bool) (db : Database) :
    Except DayPassError (Database × UserSubscription × Int) :=
  if parent.id ≤ 0 then .error .invalidParent
  else if transferCount ≤ 0 then .error .transferNotPositive
  else if planInForce then .error .planInForce
  else if db.subscriptions.any fun child =>
      child.parentUserSubscriptionId = parent.id && child.status = .active && child.endTime > now then
    .error .passInForce
  else if getUserSubscriptionRemainingRequestCount parent ≤ 0 then .error .nothingLeft
  else if transferCount > getUserSubscriptionRemainingRequestCount parent then
    .error (.atMost (getUserSubscriptionRemainingRequestCount parent))
  else match postConsumeUserSubscriptionUsage parent.id 0 transferCount now db with
  | .error error => .error (.settle error)
  | .ok db =>
    match db.subscription parent.id with
    | none => .error (.settle .recordNotFound)
    | some parent =>
      let child := dayPass calendar db.nextSubscriptionId parent transferCount now
      .ok ({ db with
        subscriptions := db.subscriptions ++ [child]
        nextSubscriptionId := db.nextSubscriptionId + 1 },
        child, getUserSubscriptionRemainingRequestCount parent)

/-! ## What records, logs and passes imply -/

def openRecords (tables : Tables) (sub : UserSubscription) (from_ to_ : Int) :
    List SubscriptionPreConsumeRecord :=
  (consumedRecords tables.db sub from_ to_).filter fun record =>
    !isNamed (findFinalizedSubscriptionConsumeRequestIDs tables sub from_ to_) record.requestId

def settledLogs (tables : Tables) (sub : UserSubscription) (from_ to_ : Int) : List (List (String × Int)) :=
  ((buildSubscriptionConsumeLogsQuery 0 sub.id 0 sub.userId from_ to_ tables.logs).filter fun log =>
    !isNamed ((openRecords tables sub from_ to_).map SubscriptionPreConsumeRecord.requestId)
      log.requestId).filterMap fun log => log.other.fields

def quotaOf (db : Database) (values : List (String × Int)) : Int :=
  match logResourceType db values with
  | .quota => readSubscriptionConsumedFromOther values .quota
  | .requestCount => 0

def requestsOf (db : Database) (values : List (String × Int)) : Int :=
  match logResourceType db values with
  | .quota => 0
  | .requestCount => readSubscriptionConsumedFromOther values .requestCount

def amountBeside (db : Database) (values : List (String × Int)) : Int :=
  match logResourceType db values with
  | .quota => 0
  | .requestCount => firstPositive [readInt64FromMap values "subscription_amount_consumed"]

section Implied
variable (tables : Tables) (sub : UserSubscription) (from_ to_ : Int)

def recordedAmount : Int :=
  ((openRecords tables sub from_ to_).map SubscriptionPreConsumeRecord.preConsumedAmount).sum

def recordedCount : Int :=
  ((openRecords tables sub from_ to_).map SubscriptionPreConsumeRecord.preConsumedCount).sum

def loggedQuota : Int := ((settledLogs tables sub from_ to_).map (quotaOf tables.db)).sum

def loggedRequests : Int := ((settledLogs tables sub from_ to_).map (requestsOf tables.db)).sum

def loggedBeside : Int := ((settledLogs tables sub from_ to_).map (amountBeside tables.db)).sum

def dayPasses : List UserSubscription :=
  tables.db.subscriptions.filter fun child =>
    child.parentUserSubscriptionId = sub.id && child.startTime ≥ from_ && child.startTime ≤ to_

def transferred : Int := ((dayPasses tables sub from_ to_).map UserSubscription.requestCountTotal).sum

def impliedAmount : Int :=
  recordedAmount tables sub from_ to_ + loggedQuota tables sub from_ to_ + loggedBeside tables sub from_ to_

def impliedCount : Int :=
  recordedCount tables sub from_ to_ + loggedRequests tables sub from_ to_ +
    transferred tables sub from_ to_

end Implied

/-- The counters of a row are what its records, its logs and its day passes
imply: the amount and the requests of the current window, and the requests
since the start where the row counts them. A day pass holds requests. -/
structure Consistent (tables : Tables) (sub : UserSubscription) (now : Int) : Prop where
  passes : ∀ child ∈ tables.db.subscriptions, child.parentUserSubscriptionId = sub.id →
    0 < child.requestCountTotal
  amount : sub.amountUsed = impliedAmount tables sub (usageStart sub now) now
  window : getCurrentRequestCountUsed sub = impliedCount tables sub (usageStart sub now) now
  lifetime : hasSeparatePeriodRequestCounter sub = true → sub.requestCountUsed =
    if hasLifetimeRequestCountLimit sub then impliedCount tables sub sub.startTime now else 0
  unused : hasSeparatePeriodRequestCounter sub = false → sub.requestCountPeriodUsed = 0

def LifetimeAgrees (tables : Tables) (sub : UserSubscription) (now : Int) : Prop :=
  let added := recordedAmount tables sub sub.startTime now
  let implied := impliedCount tables sub sub.startTime now
  if hasLifetimeRequestCountLimit sub then
    (added = recordedCount tables sub sub.startTime now + transferred tables sub sub.startTime now ∧
        implied ≤ sub.requestCountTotal) ∨
      (sub.requestCountTotal < added + loggedRequests tables sub sub.startTime now ∧
        implied = sub.requestCountTotal)
  else added + loggedRequests tables sub sub.startTime now = 0

/-- What the reconciliation finds again: in the current window no request was
moved to a day pass, no log names an amount beside requests, and nothing is
over a limit; and the lifetime counter agrees with the amounts. -/
structure Recoverable (tables : Tables) (sub : UserSubscription) (now : Int) : Prop where
  transfers : transferred tables sub (usageStart sub now) now = 0
  beside : loggedBeside tables sub (usageStart sub now) now = 0
  amountFits : 0 < sub.amountTotal → impliedAmount tables sub (usageStart sub now) now ≤ sub.amountTotal
  countFits : 0 < getSubscriptionRequestCountPeriodLimit sub →
    impliedCount tables sub (usageStart sub now) now ≤ getSubscriptionRequestCountPeriodLimit sub
  lifetime : hasSeparatePeriodRequestCounter sub = true → LifetimeAgrees tables sub now

/-! ## When the reconciliation leaves them alone -/

section Sums
variable {tables : Tables} {sub : UserSubscription} {now : Int}

theorem first_positive_nonneg (values : List Int) : 0 ≤ firstPositive values := by
  induction values with
  | nil => exact le_refl 0
  | cons value rest ih =>
    unfold firstPositive
    split
    · omega
    · exact ih

theorem consumed_nonneg (values : List (String × Int)) (resourceType : ResourceType) :
    0 ≤ readSubscriptionConsumedFromOther values resourceType := by
  cases resourceType <;> exact first_positive_nonneg _

theorem record_usage_sums (records : List SubscriptionPreConsumeRecord) (usage : RecordUsage) :
    records.foldl RecordUsage.add usage =
      { amountUsed := usage.amountUsed +
          (records.map SubscriptionPreConsumeRecord.preConsumedAmount).sum
        countUsed := usage.countUsed + (records.map SubscriptionPreConsumeRecord.preConsumedCount).sum
        requestIDs := usage.requestIDs ++
          (records.map SubscriptionPreConsumeRecord.requestId).filter (· ≠ "") } := by
  induction records generalizing usage with
  | nil => simp
  | cons record rest ih =>
    rw [List.foldl_cons, ih]
    by_cases blank : record.requestId = "" <;> simp [RecordUsage.add, blank, Int.add_assoc]

theorem summarize_records (tables : Tables) (sub : UserSubscription) (from_ to_ : Int) :
    summarizeUserSubscriptionUsageFromPreConsumeRecords tables sub from_ to_ =
      { amountUsed := recordedAmount tables sub from_ to_
        countUsed := recordedCount tables sub from_ to_
        requestIDs := ((openRecords tables sub from_ to_).map
          SubscriptionPreConsumeRecord.requestId).filter (· ≠ "") } := by
  have kept : summarizeUserSubscriptionUsageFromPreConsumeRecords tables sub from_ to_ =
      (openRecords tables sub from_ to_).foldl RecordUsage.add {} := by
    rw [openRecords, List.foldl_filter]
    refine congrArg (fun loop => List.foldl loop _ _) (funext fun usage => funext fun record => ?_)
    cases isNamed _ record.requestId <;> rfl
  rw [kept, record_usage_sums]
  simp [recordedAmount, recordedCount]

theorem consume_summary_sums (db : Database) (logs : List Log) (summary : ConsumeSummary) :
    logs.foldl (ConsumeSummary.add db) summary =
      { totalQuotaConsumed := summary.totalQuotaConsumed +
          ((logs.filterMap fun log => log.other.fields).map (quotaOf db)).sum
        totalRequestConsumed := summary.totalRequestConsumed +
          ((logs.filterMap fun log => log.other.fields).map (requestsOf db)).sum } := by
  induction logs generalizing summary with
  | nil => simp
  | cons log rest ih =>
    rw [List.foldl_cons, ih]
    unfold ConsumeSummary.add
    cases decoded : log.other.fields with
    | none => simp [decoded]
    | some values =>
      have positive := consumed_nonneg values (logResourceType db values)
      have first : (log :: rest).filterMap (fun log => log.other.fields) =
          values :: rest.filterMap fun log => log.other.fields := by simp [decoded]
      rw [first, List.map_cons, List.map_cons, List.sum_cons, List.sum_cons]
      cases kind : logResourceType db values <;> rw [kind] at positive <;>
        simp only [kind, quotaOf, requestsOf] <;> split <;>
        simp only [ConsumeSummary.mk.injEq] <;> omega

theorem summarize_logs (tables : Tables) (sub : UserSubscription) (from_ to_ : Int) :
    summarizeSubscriptionConsumeLogsWithExcludedRequestIDs tables 0 sub.id 0 sub.userId from_ to_
        (((openRecords tables sub from_ to_).map SubscriptionPreConsumeRecord.requestId).filter (· ≠ "")) =
      { totalQuotaConsumed := loggedQuota tables sub from_ to_
        totalRequestConsumed := loggedRequests tables sub from_ to_ } := by
  have same : ∀ log : Log, isNamed (((openRecords tables sub from_ to_).map
      SubscriptionPreConsumeRecord.requestId).filter (· ≠ "")) log.requestId =
        isNamed ((openRecords tables sub from_ to_).map
          SubscriptionPreConsumeRecord.requestId) log.requestId := by
    intro log
    by_cases blank : log.requestId = "" <;> simp [isNamed, blank]
  have kept : summarizeSubscriptionConsumeLogsWithExcludedRequestIDs tables 0 sub.id 0 sub.userId
      from_ to_ (((openRecords tables sub from_ to_).map
        SubscriptionPreConsumeRecord.requestId).filter (· ≠ "")) =
      ((buildSubscriptionConsumeLogsQuery 0 sub.id 0 sub.userId from_ to_ tables.logs).filter
        fun log => !isNamed ((openRecords tables sub from_ to_).map
          SubscriptionPreConsumeRecord.requestId) log.requestId).foldl
        (ConsumeSummary.add tables.db) {} := by
    rw [List.foldl_filter]
    refine congrArg (fun loop => List.foldl loop _ _) (funext fun summary => funext fun log => ?_)
    rw [same]
    cases isNamed _ log.requestId <;> rfl
  rw [kept, consume_summary_sums]
  simp [loggedQuota, loggedRequests, settledLogs]

theorem reconcile_row (tables : Tables) (sub : UserSubscription) (now : Int) :
    (reconcileUserSubscriptionUsageFromLogs tables sub now).1 =
      let amount := capAt sub.amountTotal (recordedAmount tables sub (usageStart sub now) now +
        loggedQuota tables sub (usageStart sub now) now)
      let count := capAt (getSubscriptionRequestCountPeriodLimit sub)
        (recordedCount tables sub (usageStart sub now) now +
          loggedRequests tables sub (usageStart sub now) now)
      if hasSeparatePeriodRequestCounter sub then
        sub.setUsage amount (capAt sub.requestCountTotal
          (recordedAmount tables sub sub.startTime now + loggedRequests tables sub sub.startTime now)) count
      else sub.setUsage amount count 0 := by
  simp only [reconcileUserSubscriptionUsageFromLogs, summarize_records, summarize_logs]
  split <;> rfl

theorem set_usage_same_iff :
    sub.setUsage amount count period = sub ↔
      sub.amountUsed = amount ∧ sub.requestCountUsed = count ∧ sub.requestCountPeriodUsed = period := by
  constructor
  · intro same
    exact ⟨(congrArg UserSubscription.amountUsed same).symm,
      (congrArg UserSubscription.requestCountUsed same).symm,
      (congrArg UserSubscription.requestCountPeriodUsed same).symm⟩
  · rintro ⟨rfl, rfl, rfl⟩
    rfl

theorem reconcile_changed (tables : Tables) (sub : UserSubscription) (now : Int) :
    (reconcileUserSubscriptionUsageFromLogs tables sub now).2 = false ↔
      (reconcileUserSubscriptionUsageFromLogs tables sub now).1 = sub := by
  simp only [reconcileUserSubscriptionUsageFromLogs]
  split <;> simp only [Bool.or_eq_false_iff, decide_eq_false_iff_not, not_not, set_usage_same_iff,
    ne_eq, and_assoc]

theorem cap_at_add_eq_iff (nonneg : 0 ≤ dropped) :
    capAt limit value = value + dropped ↔ dropped = 0 ∧ (0 < limit → value + dropped ≤ limit) := by
  unfold capAt
  split <;> omega

theorem transferred_nonneg (consistent : Consistent tables sub now) :
    0 ≤ transferred tables sub from_ to_ := by
  refine List.sum_nonneg fun count member => ?_
  obtain ⟨child, inside, rfl⟩ := List.mem_map.mp member
  obtain ⟨stored, pass⟩ := List.mem_filter.mp inside
  simp only [Bool.and_eq_true, decide_eq_true_eq] at pass
  exact Int.le_of_lt (consistent.passes child stored pass.1.1)

theorem logged_beside_nonneg : 0 ≤ loggedBeside tables sub from_ to_ := by
  refine List.sum_nonneg fun amount member => ?_
  obtain ⟨values, -, rfl⟩ := List.mem_map.mp member
  unfold amountBeside
  split
  · exact le_refl 0
  · exact first_positive_nonneg _

theorem amount_kept_iff (consistent : Consistent tables sub now) :
    sub.amountUsed = capAt sub.amountTotal (recordedAmount tables sub (usageStart sub now) now +
        loggedQuota tables sub (usageStart sub now) now) ↔
      loggedBeside tables sub (usageStart sub now) now = 0 ∧ (0 < sub.amountTotal →
        impliedAmount tables sub (usageStart sub now) now ≤ sub.amountTotal) := by
  rw [consistent.amount, eq_comm]
  exact cap_at_add_eq_iff logged_beside_nonneg

theorem count_kept_iff (consistent : Consistent tables sub now) :
    getCurrentRequestCountUsed sub = capAt (getSubscriptionRequestCountPeriodLimit sub)
        (recordedCount tables sub (usageStart sub now) now +
          loggedRequests tables sub (usageStart sub now) now) ↔
      transferred tables sub (usageStart sub now) now = 0 ∧
        (0 < getSubscriptionRequestCountPeriodLimit sub →
          impliedCount tables sub (usageStart sub now) now ≤
            getSubscriptionRequestCountPeriodLimit sub) := by
  rw [consistent.window, eq_comm]
  exact cap_at_add_eq_iff (transferred_nonneg consistent)

theorem lifetime_kept_iff (consistent : Consistent tables sub now)
    (separate : hasSeparatePeriodRequestCounter sub = true) :
    sub.requestCountUsed = capAt sub.requestCountTotal
        (recordedAmount tables sub sub.startTime now + loggedRequests tables sub sub.startTime now) ↔
      LifetimeAgrees tables sub now := by
  rw [consistent.lifetime separate]
  unfold LifetimeAgrees capAt impliedCount
  by_cases limited : hasLifetimeRequestCountLimit sub = true
  · have positive := (has_lifetime_iff.mp limited).2.2
    simp only [limited, if_true]
    split <;> omega
  · simp only [limited, if_false, Bool.false_eq_true]
    split <;> omega

/-- Reconciliation as a fixpoint: a row whose counters are what its records,
logs and day passes imply is left as it is exactly when what was moved out or
named beside is nothing, nothing is over a limit, and the lifetime counter
agrees with the amounts. -/
theorem reconcile_fixed_iff_recoverable (consistent : Consistent tables sub now) :
    reconcileUserSubscriptionUsageFromLogs tables sub now = (sub, false) ↔ Recoverable tables sub now := by
  have row : reconcileUserSubscriptionUsageFromLogs tables sub now = (sub, false) ↔
      (reconcileUserSubscriptionUsageFromLogs tables sub now).1 = sub := by
    rw [Prod.ext_iff]
    exact ⟨fun same => same.1, fun same => ⟨same, (reconcile_changed tables sub now).mpr same⟩⟩
  have amount := amount_kept_iff consistent
  have count := count_kept_iff consistent
  rw [row, reconcile_row]
  by_cases separate : hasSeparatePeriodRequestCounter sub = true
  · have lifetime := lifetime_kept_iff consistent separate
    simp only [getCurrentRequestCountUsed, separate, if_true] at count
    simp only [separate, if_true, set_usage_same_iff, amount, count, lifetime]
    constructor
    · rintro ⟨⟨beside, amountFits⟩, agrees, transfers, countFits⟩
      exact ⟨transfers, beside, amountFits, countFits, fun _ => agrees⟩
    · rintro ⟨transfers, beside, amountFits, countFits, agrees⟩
      exact ⟨⟨beside, amountFits⟩, agrees separate, transfers, countFits⟩
  · have unused := consistent.unused (by simpa using separate)
    simp only [getCurrentRequestCountUsed, separate, if_false, Bool.false_eq_true] at count
    simp only [separate, if_false, set_usage_same_iff, amount, count, unused, and_true, Bool.false_eq_true]
    constructor
    · rintro ⟨⟨beside, amountFits⟩, transfers, countFits⟩
      exact ⟨transfers, beside, amountFits, countFits, fun impossible => absurd impossible separate⟩
    · rintro ⟨transfers, beside, amountFits, countFits, -⟩
      exact ⟨⟨beside, amountFits⟩, transfers, countFits⟩

end Sums

/-! ## What a day pass takes out is given back -/

section DayPass
variable {parent child : UserSubscription} {transferCount now : Int}
variable {db : Database}

theorem count_settled (stored : db.subscription parent.id = some row)
    (moves : transferCount ≠ 0)
    (settled : postConsumeUserSubscriptionUsage parent.id 0 transferCount now db = .ok after) :
    after = db.saveSubscription ((settledRow row 0 transferCount).touch now) ∧
      SettlementFits row 0 transferCount := by
  unfold postConsumeUserSubscriptionUsage postConsumeUserSubscriptionDeltaForWindow at settled
  rw [stored] at settled
  split at settled
  · cases settled
  · have open_ : leftWindow row 0 0 = false := by simp [leftWindow]
    simp only [moves, and_false, if_false, open_, Bool.false_eq_true] at settled
    cases charged : settleRow row 0 transferCount with
    | error error => simp [charged, Except.map] at settled
    | ok result =>
      obtain ⟨rfl, fits⟩ := settle_row_ok_iff.mp charged
      simp only [charged, Except.map, Except.ok.injEq] at settled
      exact ⟨settled.symm, fits⟩

theorem day_pass_written (stored : db.subscription parent.id = some row)
    (created : createDerivedDayPassFromParent calendar parent transferCount now planInForce db =
      .ok (after, child, remain)) :
    let charged := (settledRow row 0 transferCount).touch now
    0 < transferCount ∧ transferCount ≤ getUserSubscriptionRemainingRequestCount parent ∧
      SettlementFits row 0 transferCount ∧
      child = dayPass calendar db.nextSubscriptionId charged transferCount now ∧
      after = { db.saveSubscription charged with
        subscriptions := (db.saveSubscription charged).subscriptions ++ [child]
        nextSubscriptionId := db.nextSubscriptionId + 1 } := by
  unfold createDerivedDayPassFromParent at created
  split at created
  · cases created
  · split at created
    · cases created
    · split at created
      · cases created
      · split at created
        · cases created
        · split at created
          · cases created
          · split at created
            · cases created
            · split at created
              · cases created
              · rename_i settled
                obtain ⟨charged, fits⟩ := count_settled stored (by omega) settled
                subst charged
                have same : row.id = parent.id := lookup_key stored
                have reread : (db.saveSubscription
                    ((settledRow row 0 transferCount).touch now)).subscription parent.id =
                      some ((settledRow row 0 transferCount).touch now) := by
                  rw [← same] at stored ⊢
                  exact lookup_save_self stored
                rw [reread] at created
                cases created
                exact ⟨by omega, by omega, fits, rfl, rfl⟩

def withDayPass (db : Database) (charged child : UserSubscription) : Database :=
  { db.saveSubscription charged with
    subscriptions := (db.saveSubscription charged).subscriptions ++ [child]
    nextSubscriptionId := db.nextSubscriptionId + 1 }

def chargedParent (parent : UserSubscription) (transferCount now : Int) : UserSubscription :=
  (settledRow parent 0 transferCount).touch now

theorem charged_current (lifetime : 0 ≤ parent.requestCountUsed)
    (period : 0 ≤ parent.requestCountPeriodUsed) (moves : 0 < transferCount) :
    getCurrentRequestCountUsed (chargedParent parent transferCount now) =
      getCurrentRequestCountUsed parent + transferCount := by
  have counted : transferCount ≠ 0 := by omega
  by_cases separate : hasSeparatePeriodRequestCounter parent = true
  · simp only [getCurrentRequestCountUsed, chargedParent, settledRow, touch_separate,
      set_usage_separate, separate, if_true, UserSubscription.touch_requestCountPeriodUsed,
      UserSubscription.setUsage_requestCountPeriodUsed, counted, ne_eq, not_false_eq_true, true_or,
      and_true, applyDelta]
    omega
  · have counts := counts_lifetime_of_shared (by simpa using separate)
    simp only [getCurrentRequestCountUsed, chargedParent, settledRow, touch_separate,
      set_usage_separate, separate, if_false, UserSubscription.touch_requestCountUsed,
      UserSubscription.setUsage_requestCountUsed, counted, ne_eq, not_false_eq_true, counts,
      and_true, applyDelta, if_true, Bool.false_eq_true]
    omega

theorem charged_unused (shared : hasSeparatePeriodRequestCounter parent = false)
    (unused : parent.requestCountPeriodUsed = 0) :
    (chargedParent parent transferCount now).requestCountPeriodUsed = 0 := by
  simp [chargedParent, settledRow, shared, unused]

end DayPass

def monthCard : UserSubscription where
  id := 4
  userId := 7
  resourceType := .requestCount
  requestCountTotal := 100
  requestCountUsed := 1
  startTime := 1000
  endTime := 5000

def firstRequest : SubscriptionPreConsumeRecord where
  requestId := "r1"
  userId := 7
  userSubscriptionId := 4
  preConsumed := 1
  preConsumedAmount := 0
  preConsumedCount := 1
  status := .consumed
  createdAt := 1500
  updatedAt := 1500

def firstLog : Log where
  userId := 7
  createdAt := 1501
  type := logTypeConsume
  requestId := "r1"
  other := {
    text := "\x7b\"billing_source\":\"subscription\"," ++
      "\"subscription_consumed\":1,\"subscription_id\":4\x7d"
    fields := some [("subscription_consumed", 1), ("subscription_id", 4)] }

def monthTables : Tables where
  db := { subscriptions := [monthCard], records := [firstRequest], nextSubscriptionId := 5 }
  logs := [firstLog]

def splitTables : Tables where
  db := withDayPass monthTables.db (chargedParent monthCard 10 2000)
    (dayPass dayCount 5 (chargedParent monthCard 10 2000) 10 2000)
  logs := [firstLog]

example : (createDerivedDayPassFromParent dayCount monthCard 10 2000 false monthTables.db).toOption.map
    Prod.fst = some splitTables.db := by decide

theorem month_consistent : Consistent monthTables monthCard 2000 where
  passes := by decide
  amount := by decide
  window := by decide
  lifetime := by decide
  unused := by decide

/-- The row is consistent, and the reconciliation gives the 10 requests back. -/
theorem day_pass_reconciled_away :
    ¬ ∀ (tables : Tables) (sub : UserSubscription) (now : Int), Consistent tables sub now →
      reconcileUserSubscriptionUsageFromLogs tables sub now = (sub, false) := by
  intro fixed
  have same := fixed splitTables (chargedParent monthCard 10 2000) 3000
    { passes := by decide, amount := by decide, window := by decide, lifetime := by decide,
      unused := by decide }
  revert same
  decide

/-- Without a day pass the reconciliation changes nothing. -/
theorem month_reconciled_same :
    reconcileUserSubscriptionUsageFromLogs monthTables monthCard 2000 = (monthCard, false) :=
  (reconcile_fixed_iff_recoverable month_consistent).mpr
    ⟨by decide, by decide, by decide, by decide, fun separate => absurd separate (by decide)⟩

end NewApi.UsageReconcile
