import NewApi.GoText
import NewApi.RequestBilling

/-! One row of the tasks table and what the billing of an asynchronous task
computes from it: which ledgers a refund or a settlement moves, and by how
much. A refund is what the row says was taken, unless that is nothing or the
ledger refuses it. -/
namespace NewApi.TaskRows
open NewApi.Subscription NewApi.RequestBilling

/-! ## Rows -/

/-- `model/task.go::TaskStatus`. The upstream of a song names statuses of its
own, and they are stored as they come. -/
abbrev TaskStatus := String

namespace TaskStatus

def notStart : TaskStatus := "NOT_START"
def submitted : TaskStatus := "SUBMITTED"
def queued : TaskStatus := "QUEUED"
def inProgress : TaskStatus := "IN_PROGRESS"
def failure : TaskStatus := "FAILURE"
def success : TaskStatus := "SUCCESS"

def isDone (status : TaskStatus) : Bool := status = success || status = failure

theorem is_done_iff : isDone status ↔ status = success ∨ status = failure := by
  simp [isDone]

@[simp] theorem failure_is_done : isDone failure = true := by decide

@[simp] theorem success_is_done : isDone success = true := by decide

theorem success_ne_failure : success ≠ failure := by decide

end TaskStatus

/-- `constant/task.go::TaskPlatform`: a task of a video belongs to the type of
its channel. -/
inductive TaskPlatform where
  | suno
  | midjourney
  | image
  | channelType (type : Int)
  deriving DecidableEq, Repr

/-- `model/task.go::TaskPrivateData`: the billing of the submission, and of
`BillingContext` whether it was per call. A row that names no source was paid
from the wallet. -/
structure TaskPrivateData extends BillingInfo where
  billingSource := .wallet
  upstreamTaskID : String := ""
  resultURL : String := ""
  tokenId : Int := 0
  perCallBilling : Bool := false
  deriving DecidableEq, Repr

/-- `model/task.go::Task`. -/
structure Task where
  id : Int
  taskID : String := ""
  platform : TaskPlatform
  userId : Int := 0
  quota : Int := 0
  status : TaskStatus := TaskStatus.notStart
  failReason : String := ""
  submitTime : Int := 0
  startTime : Int := 0
  finishTime : Int := 0
  progress : String := "0%"
  privateData : TaskPrivateData := {}
  data : List UInt8 := []
  deriving DecidableEq, Repr

namespace Task

def getUpstreamTaskID (task : Task) : String :=
  if task.privateData.upstreamTaskID ≠ "" then task.privateData.upstreamTaskID else task.taskID

def getResultURL (task : Task) : String :=
  if task.privateData.resultURL ≠ "" then task.privateData.resultURL else task.failReason

/-- `model/task.go::GetAllUnFinishSyncTasks`, the rows that it asks for. -/
def unfinished (task : Task) : Bool :=
  task.progress ≠ "100%" && !TaskStatus.isDone task.status

end Task

/-- `model/task.go::taskSnapshot`. -/
structure TaskSnapshot where
  status : TaskStatus
  progress : String
  startTime : Int
  finishTime : Int
  failReason : String
  resultURL : String
  data : List UInt8
  deriving DecidableEq

def Task.snapshot (task : Task) : TaskSnapshot where
  status := task.status
  progress := task.progress
  startTime := task.startTime
  finishTime := task.finishTime
  failReason := task.failReason
  resultURL := task.privateData.resultURL
  data := task.data

/-! ## Billing -/

def taskIsSubscription (task : Task) : Bool :=
  task.privateData.billingSource = .subscription && task.privateData.subscriptionId > 0

def taskUsesTokenQuota (task : Task) : Bool :=
  if !taskIsSubscription task then true
  else task.privateData.subscriptionAmountTotal > 0 ||
    task.privateData.subscriptionResourceType ≠ .requestCount

def taskUsesSubscriptionRequestCount (task : Task) : Bool :=
  task.privateData.subscriptionRequestCountTotal > 0 ||
    task.privateData.subscriptionResourceType = .requestCount

def taskSubscriptionPreConsumedAmount (task : Task) : Int :=
  if task.privateData.subscriptionPreConsumedAmount > 0 then
    task.privateData.subscriptionPreConsumedAmount
  else if task.privateData.subscriptionResourceType ≠ .requestCount then task.quota
  else if task.privateData.subscriptionAmountTotal > 0 then task.quota
  else 0

def taskSubscriptionPreConsumedCount (task : Task) : Int :=
  if task.privateData.subscriptionPreConsumedCount > 0 then
    task.privateData.subscriptionPreConsumedCount
  else if task.privateData.subscriptionResourceType = .requestCount ∧
      task.privateData.subscriptionPreConsumed > 0 then
    task.privateData.subscriptionPreConsumed
  else if taskUsesSubscriptionRequestCount task then 1
  else 0

structure BillingFaults where
  funding : Bool := false
  token : Bool := false
  deriving DecidableEq

/-- What a refund or a settlement of a task adds to the charges: of the wallet,
or of the subscription and its count, and of the token. -/
structure TaskCharge where
  task : Int
  amountDelta : Int
  countDelta : Int := 0
  tokenDelta : Int := 0
  deriving DecidableEq, Repr

/-- `service/task_billing.go::taskAdjustTokenQuota`, what is charged. -/
def taskAdjustTokenQuota (task : Task) (delta : Int) (refused : Bool) : Int :=
  if !taskUsesTokenQuota task || task.privateData.tokenId ≤ 0 || refused then 0 else delta

def amountRefund (task : Task) : Int :=
  if taskIsSubscription task then taskSubscriptionPreConsumedAmount task else 0

def countRefund (task : Task) : Int :=
  if taskIsSubscription task then taskSubscriptionPreConsumedCount task else 0

def fundingRefund (task : Task) : Int :=
  if taskIsSubscription task then
    if amountRefund task > 0 then amountRefund task
    else if countRefund task > 0 then countRefund task
    else 0
  else task.quota

/-- `service/task_billing.go::RefundTaskQuota`. -/
def refundTaskQuota (task : Task) (faults : BillingFaults) : Option TaskCharge :=
  if fundingRefund task = 0 then none
  else if faults.funding then none
  else some {
    task := task.id
    amountDelta := if taskIsSubscription task then -amountRefund task else -fundingRefund task
    countDelta := if taskIsSubscription task then -countRefund task else 0
    tokenDelta :=
      if taskUsesTokenQuota task then taskAdjustTokenQuota task (-task.quota) faults.token else 0 }

def refundsTask (task : Task) (faults : BillingFaults) : Bool :=
  fundingRefund task ≠ 0 && !faults.funding

/-- `service/task_billing.go::RecalculateTaskQuota`: the row in memory, and what
is charged. -/
def recalculateTaskQuota (task : Task) (actualQuota : Int) (faults : BillingFaults) :
    Task × Option TaskCharge :=
  if actualQuota ≤ 0 then (task, none)
  else if taskIsSubscription task && !taskUsesTokenQuota task &&
      taskUsesSubscriptionRequestCount task then
    ({ task with quota := actualQuota }, none)
  else
    let quotaDelta := actualQuota - task.quota
    if quotaDelta = 0 then (task, none)
    else if faults.funding then (task, none)
    else ({ task with quota := actualQuota }, some {
      task := task.id
      amountDelta := quotaDelta
      tokenDelta := taskAdjustTokenQuota task quotaDelta faults.token })

theorem refund_task
    (refunded : refundTaskQuota task faults = some charge) : charge.task = task.id := by
  unfold refundTaskQuota at refunded
  split at refunded
  · cases refunded
  · split at refunded
    · cases refunded
    · cases refunded
      rfl

theorem refund_congr (id : one.id = other.id) (quota : one.quota = other.quota)
    (privateData : one.privateData = other.privateData) (faults : BillingFaults) :
    refundTaskQuota one faults = refundTaskQuota other faults := by
  cases one
  cases other
  dsimp only at id quota privateData
  subst id quota privateData
  rfl

theorem refund_is_some (task : Task) (faults : BillingFaults) :
    (refundTaskQuota task faults).isSome = refundsTask task faults := by
  unfold refundTaskQuota refundsTask
  split
  · simp [*]
  · cases faults.funding <;> simp [*]

theorem recalculate_keeps (task : Task) (actualQuota : Int) (faults : BillingFaults) :
    ∃ quota, (recalculateTaskQuota task actualQuota faults).1 = { task with quota := quota } := by
  unfold recalculateTaskQuota
  dsimp only
  split
  · exact ⟨task.quota, rfl⟩
  · split
    · exact ⟨actualQuota, rfl⟩
    · split
      · exact ⟨task.quota, rfl⟩
      · split
        · exact ⟨task.quota, rfl⟩
        · exact ⟨actualQuota, rfl⟩

end NewApi.TaskRows
