import NewApi.GuardedRun
import NewApi.TaskRows

/-! The polling of asynchronous tasks. A sweeper and any number of pollers read
rows of unfinished tasks, and act on their copies later, when the upstream has
answered: the sweeper and the polls of videos write by compare and swap on the
status that they have read and refund if they win, the poll of songs refunds
and then saves the whole row, and a task that cannot be asked about is failed
in bulk. -/
namespace NewApi.TaskPolling
open NewApi.GuardedRun NewApi.KeyedTable NewApi.TaskRows

/-! ## The writes of a row -/

/-- `model/task.go::UpdateWithStatus`, by the row that is stored: what is stored
if this caller wins. -/
def updateWithStatus (row task : Task) (fromStatus : TaskStatus) (failed : Bool) : Option Task :=
  if failed then none else if row.status = fromStatus then some task else none

/-- `model/task.go::TaskBulkUpdateByID`. -/
def taskBulkUpdateByID (tasks : List Task) (ids : List Int) (params : Task → Task) : List Task :=
  tasks.map fun row => if row.id ∈ ids then params row else row

/-- What an act on a copy does: the copy that is left in memory, the row that is
stored, and what is refunded and charged. -/
structure TaskOutcome where
  copy : Task
  stored : Option Task := none
  refund : Option TaskCharge := none
  charge : Option TaskCharge := none

/-! ## The sweeper -/

def legacyTaskCutoff : Int := 1740182400

def isLegacy (task : Task) : Bool := task.submitTime > 0 && task.submitTime < legacyTaskCutoff

structure Sweep where
  now : Int
  taskTimeoutMinutes : Int
  saveFails : Bool := false
  faults : BillingFaults := {}
  deriving DecidableEq

def sweptTask (sweep : Sweep) (task : Task) : Task :=
  { task with
    status := TaskStatus.failure
    progress := "100%"
    finishTime := sweep.now
    failReason :=
      if isLegacy task then "任务超时（旧系统遗留任务，不进行退款，请联系管理员）"
      else s!"任务超时（{sweep.taskTimeoutMinutes}分钟）" }

def sweepRefund (sweep : Sweep) (task : Task) : Option TaskCharge :=
  if !isLegacy task && task.quota ≠ 0 then refundTaskQuota (sweptTask sweep task) sweep.faults
  else none

def Sweep.refunds (sweep : Sweep) (task : Task) : Bool :=
  !isLegacy task && task.quota ≠ 0 && refundsTask task sweep.faults

/-- `service/task_polling.go::sweepTimedOutTasks`, the turn of one task. -/
def sweepTimedOutTask (sweep : Sweep) (row task : Task) : TaskOutcome :=
  let swept := sweptTask sweep task
  match updateWithStatus row swept task.status sweep.saveFails with
  | none => { copy := swept }
  | some won => { copy := swept, stored := some won, refund := sweepRefund sweep task }

/-! ## Videos -/

/-- `relay/common/relay_info.go::TaskInfo`, without what only a caller reads. -/
structure TaskInfo where
  status : TaskStatus := ""
  reason : String := ""
  url : String := ""
  progress : String := ""
  totalTokens : Int := 0
  deriving DecidableEq

def failTaskInfo (reason : String) : TaskInfo := { status := "FAILURE", reason := reason }

def mergeTaskInfo (dst src : TaskInfo) : TaskInfo where
  status := if src.status ≠ "" then src.status else dst.status
  reason := if src.reason ≠ "" then src.reason else dst.reason
  url := if src.url ≠ "" then src.url else dst.url
  progress := if src.progress ≠ "" then src.progress else dst.progress
  totalTokens := if src.totalTokens ≠ 0 then src.totalTokens else dst.totalTokens

/-- An answer about a video as the code reads it: as the task of a program like
this one, if it is a success; by the adaptor, unless that fails; as an error
reply, with the code if there is an error in it; and the body to keep. -/
structure VideoReply where
  newApiTask : Option Task := none
  parsed : Option TaskInfo := none
  errorReply : Option (Option String) := none
  redactedBody : List UInt8 := []
  deriving DecidableEq

/-- What the answer says of the task; `none` if it cannot be parsed. -/
def VideoReply.taskInfo (reply : VideoReply) : Option TaskInfo :=
  match reply.newApiTask with
  | some task =>
    let info : TaskInfo := {
      status := task.status
      reason := task.failReason
      url := task.getResultURL
      progress := task.progress }
    some (match reply.parsed with
      | some parsed => mergeTaskInfo info parsed
      | none => info)
  | none => reply.parsed

def VideoReply.judged (reply : VideoReply) (info : TaskInfo) : Option TaskInfo :=
  if info.status ≠ "" then some info
  else match reply.errorReply with
  | none => some info
  | some none => some (failTaskInfo "upstream returned unrecognized message")
  | some (some code) =>
    if code = "429" then none else some (failTaskInfo "upstream returned error")

def knownStatus (status : TaskStatus) : Bool :=
  status ∈ [TaskStatus.submitted, TaskStatus.queued, TaskStatus.inProgress, TaskStatus.success,
    TaskStatus.failure]

def progressSubmitted : String := "10%"
def progressQueued : String := "20%"
def progressInProgress : String := "30%"
def progressComplete : String := "100%"

/-- `relay/channel/task/taskcommon/helpers.go::BuildProxyURL`. -/
def buildProxyURL (serverAddress taskID : String) : String :=
  serverAddress ++ "/v1/videos/" ++ taskID ++ "/content"

def withStatus (serverAddress : String) (now : Int) (info : TaskInfo) (task : Task) : Task :=
  let task := { task with status := info.status }
  if info.status = TaskStatus.submitted then { task with progress := progressSubmitted }
  else if info.status = TaskStatus.queued then { task with progress := progressQueued }
  else if info.status = TaskStatus.inProgress then
    { task with
      progress := progressInProgress
      startTime := if task.startTime = 0 then now else task.startTime }
  else if info.status = TaskStatus.success then
    { task with
      progress := progressComplete
      finishTime := if task.finishTime = 0 then now else task.finishTime
      privateData := { task.privateData with
        resultURL :=
          if GoText.hasPrefix info.url "data:" then buildProxyURL serverAddress task.taskID
          else if info.url ≠ "" then info.url
          else buildProxyURL serverAddress task.taskID } }
  else
    { task with
      progress := progressComplete
      finishTime := if task.finishTime = 0 then now else task.finishTime
      failReason := info.reason }

def reportedProgress (info : TaskInfo) : String :=
  if info.status = TaskStatus.failure then progressComplete else info.progress

def withProgress (info : TaskInfo) (task : Task) : Task :=
  if reportedProgress info ≠ "" then { task with progress := reportedProgress info } else task

/-- One poll of a video: the answer, unless none can be fetched; the quota that
the adaptor and the tokens make of it; the time, and what fails. -/
structure VideoPoll where
  reply : Option VideoReply
  adjustedQuota : Int := 0
  tokensQuota : Int := 0
  now : Int
  saveFails : Bool := false
  faults : BillingFaults := {}
  deriving DecidableEq

def VideoPoll.status (poll : VideoPoll) : Option TaskStatus :=
  (poll.reply.bind fun reply => reply.taskInfo.bind reply.judged).map TaskInfo.status
    |>.filter knownStatus

/-- `service/task_polling.go::settleTaskBillingOnComplete`. -/
def settleTaskBillingOnComplete (poll : VideoPoll) (info : TaskInfo) (task : Task) :
    Task × Option TaskCharge :=
  if task.privateData.perCallBilling then (task, none)
  else if poll.adjustedQuota > 0 then recalculateTaskQuota task poll.adjustedQuota poll.faults
  else if info.totalTokens > 0 then recalculateTaskQuota task poll.tokensQuota poll.faults
  else (task, none)

def storeVideoTask (poll : VideoPoll) (info : TaskInfo) (row task updated : Task) : TaskOutcome :=
  let moved := TaskStatus.isDone updated.status && task.status ≠ updated.status
  if moved || task.snapshot ≠ updated.snapshot then
    match updateWithStatus row updated task.status poll.saveFails with
    | none => { copy := updated }
    | some won =>
      if moved && info.status = TaskStatus.success then
        let settled := settleTaskBillingOnComplete poll info updated
        { copy := settled.1, stored := some won, charge := settled.2 }
      else if moved && task.quota ≠ 0 then
        { copy := updated, stored := some won, refund := refundTaskQuota updated poll.faults }
      else { copy := updated, stored := some won }
  else { copy := updated }

/-- `service/task_polling.go::updateVideoSingleTask`. -/
def updateVideoSingleTask (serverAddress : String) (poll : VideoPoll) (row task : Task) :
    TaskOutcome :=
  match poll.reply with
  | none => { copy := task }
  | some reply => match reply.taskInfo with
    | none => { copy := task }
    | some parsed =>
      let read := { task with data := reply.redactedBody }
      match reply.judged parsed with
      | none => { copy := read }
      | some info =>
        if knownStatus info.status then
          storeVideoTask poll info row task
            (withProgress info (withStatus serverAddress poll.now info read))
        else { copy := { read with status := info.status } }

/-! ## Songs -/

/-- `dto/suno.go::SunoDataResponse`, what an update reads. -/
structure SunoDataResponse where
  status : TaskStatus
  failReason : String := ""
  submitTime : Int := 0
  startTime : Int := 0
  finishTime : Int := 0
  data : List UInt8 := []
  deriving DecidableEq

/-- `service/task_polling.go::taskNeedsUpdate`; `marshal` compacts raw JSON. -/
def taskNeedsUpdate (marshal : List UInt8 → List UInt8) (oldTask : Task)
    (newTask : SunoDataResponse) : Bool :=
  oldTask.submitTime ≠ newTask.submitTime || oldTask.startTime ≠ newTask.startTime ||
    oldTask.finishTime ≠ newTask.finishTime || oldTask.status ≠ newTask.status ||
    oldTask.failReason ≠ newTask.failReason ||
    (TaskStatus.isDone oldTask.status && oldTask.progress ≠ "100%") ||
    (marshal oldTask.data).insertionSort (· ≤ ·) ≠ (marshal newTask.data).insertionSort (· ≤ ·)

structure SunoPoll where
  item : SunoDataResponse
  saveFails : Bool := false
  faults : BillingFaults := {}
  deriving DecidableEq

def sunoStatus (item : SunoDataResponse) (task : Task) : TaskStatus :=
  if item.status ≠ "" then item.status else task.status

def sunoTask (item : SunoDataResponse) (task : Task) : Task :=
  { task with
    status := sunoStatus item task
    failReason := if item.failReason ≠ "" then item.failReason else task.failReason
    submitTime := if item.submitTime ≠ 0 then item.submitTime else task.submitTime
    startTime := if item.startTime ≠ 0 then item.startTime else task.startTime
    finishTime := if item.finishTime ≠ 0 then item.finishTime else task.finishTime }

def sunoFailed (item : SunoDataResponse) (task : Task) : Bool :=
  item.failReason ≠ "" || sunoStatus item task = TaskStatus.failure

def sunoRefund (poll : SunoPoll) (task : Task) : Option TaskCharge :=
  if sunoFailed poll.item task then refundTaskQuota (sunoTask poll.item task) poll.faults else none

def SunoPoll.refunds (poll : SunoPoll) (task : Task) : Bool :=
  sunoFailed poll.item task && refundsTask task poll.faults

/-- `service/task_polling.go::updateSunoTasks`, the turn of one item. -/
def updateSunoTask (marshal : List UInt8 → List UInt8) (poll : SunoPoll) (task : Task) :
    TaskOutcome :=
  if taskNeedsUpdate marshal task poll.item then
    let updated := { sunoTask poll.item task with
      progress :=
        if sunoFailed poll.item task || poll.item.status = TaskStatus.success then "100%"
        else task.progress
      data := poll.item.data }
    { copy := updated
      stored := if poll.saveFails then none else some updated
      refund := sunoRefund poll task }
  else { copy := task }

/-! ## Interleavings -/

variable {Handle : Type*}

/-- The rows, the copies that sweepers and pollers hold, and what has been
refunded and charged. -/
structure Server (Handle : Type*) where
  tasks : List Task
  sweeping : Handle → Option Task := fun _ => none
  polled : Handle → Option Task := fun _ => none
  refunds : List TaskCharge := []
  charges : List TaskCharge := []

/-- A step of a sweeper or a poller. Without an id to ask for, or without its
channel, a task is failed in bulk. -/
inductive Event (Handle : Type*) where
  | sweepRead (handle : Handle) (id cutoff : Int)
  | pollRead (handle : Handle) (id : Int)
  | sweep (handle : Handle) (sweep : Sweep)
  | video (handle : Handle) (poll : VideoPoll)
  | suno (handle : Handle) (poll : SunoPoll)
  | failUnsent (handles : List Handle) (saveFails : Bool)
  | failChannel (handles : List Handle) (failReason : String) (saveFails : Bool)
  deriving DecidableEq

/-- Which copies are polled as videos, by `DispatchPlatformUpdate`. -/
def polledAsVideo (task : Task) : Bool :=
  task.platform ≠ .suno && task.platform ≠ .midjourney

def actOn (server : Server Handle) (held : Option Task) (act : Task → Task → TaskOutcome) :
    Option TaskOutcome :=
  held.bind fun task => (lookup Task.id server.tasks task.id).map fun row => act row task

variable (serverAddress : String) (marshal : List UInt8 → List UInt8)

def outcome (server : Server Handle) : Event Handle → Option TaskOutcome
  | .sweep handle sweep => actOn server (server.sweeping handle) (sweepTimedOutTask sweep)
  | .video handle poll =>
    actOn server ((server.polled handle).filter polledAsVideo) (updateVideoSingleTask serverAddress poll)
  | .suno handle poll =>
    actOn server ((server.polled handle).filter fun task => task.platform = .suno)
      (fun _ => updateSunoTask marshal poll)
  | _ => none

def bulkIDs (server : Server Handle) : Event Handle → List Int
  | .failUnsent handles saveFails =>
    if saveFails then []
    else ((handles.filterMap server.polled).filter fun task => task.getUpstreamTaskID = "").map Task.id
  | .failChannel handles _ saveFails =>
    if saveFails then [] else (handles.filterMap server.polled).map Task.id
  | _ => []

def bulkParams : Event Handle → Task → Task
  | .failChannel _ failReason _, row =>
    { row with failReason := failReason, status := "FAILURE", progress := "100%" }
  | _, row => { row with status := "FAILURE", progress := "100%" }

def commit (server : Server Handle) (outcome : TaskOutcome) : Server Handle :=
  { server with
    tasks := (outcome.stored.map (save Task.id server.tasks)).getD server.tasks
    refunds := server.refunds ++ outcome.refund.toList
    charges := server.charges ++ outcome.charge.toList }

def step [DecidableEq Handle] (server : Server Handle) (event : Event Handle) : Server Handle :=
  match event with
  | .sweepRead handle id cutoff =>
    match lookup Task.id server.tasks id with
    | some row =>
      if row.unfinished && row.submitTime < cutoff then
        { server with sweeping := Function.update server.sweeping handle (some row) }
      else server
    | none => server
  | .pollRead handle id =>
    match lookup Task.id server.tasks id with
    | some row =>
      if row.unfinished then
        { server with polled := Function.update server.polled handle (some row) }
      else server
    | none => server
  | .sweep handle _ =>
    let after := (outcome serverAddress marshal server event).map fun done =>
      { commit server done with sweeping := Function.update server.sweeping handle none }
    after.getD server
  | .video handle _ | .suno handle _ =>
    let after := (outcome serverAddress marshal server event).map fun done =>
      { commit server done with polled := Function.update server.polled handle (some done.copy) }
    after.getD server
  | .failUnsent .. | .failChannel .. =>
    { server with
      tasks := taskBulkUpdateByID server.tasks (bulkIDs server event) (bulkParams event) }

def Server.timesRefunded (server : Server Handle) (id : Int) : Nat :=
  server.refunds.countP fun charge => charge.task = id

def TerminalKept (before after : Server Handle) : Prop :=
  ∀ id row, lookup Task.id before.tasks id = some row → TaskStatus.isDone row.status →
    (lookup Task.id after.tasks id).map Task.status = some row.status

/-- A step overwrites no status that ends a task, and leaves no task refunded
twice. -/
structure EndsOnce (before after : Server Handle) : Prop where
  kept : TerminalKept before after
  once : ∀ id, after.timesRefunded id ≤ 1

def SweepFits (server : Server Handle) (sweep : Sweep) (row task : Task) : Prop :=
  task.platform = .suno → row.status = task.status → sweep.saveFails = false →
    sweep.refunds task → server.timesRefunded task.id = 0

def VideoFits (poll : VideoPoll) (row task : Task) : Prop :=
  TaskStatus.isDone task.status → row.status = task.status → poll.saveFails = false →
    ∀ status ∈ poll.status, status = task.status

def SunoFits (server : Server Handle) (poll : SunoPoll) (row task : Task) : Prop :=
  taskNeedsUpdate marshal task poll.item →
    (poll.saveFails = false → TaskStatus.isDone row.status → sunoStatus poll.item task = row.status) ∧
    (poll.refunds task → server.timesRefunded task.id = 0)

def Orderly (server : Server Handle) (event : Event Handle) : Prop :=
  match event with
  | .sweepRead .. | .pollRead .. => True
  | .sweep handle sweep => ∀ task ∈ server.sweeping handle,
      ∀ row ∈ lookup Task.id server.tasks task.id, SweepFits server sweep row task
  | .video handle poll => ∀ task ∈ server.polled handle, polledAsVideo task →
      ∀ row ∈ lookup Task.id server.tasks task.id, VideoFits poll row task
  | .suno handle poll => ∀ task ∈ server.polled handle, task.platform = .suno →
      ∀ row ∈ lookup Task.id server.tasks task.id, SunoFits marshal server poll row task
  | .failUnsent .. | .failChannel .. => ∀ id ∈ bulkIDs server event,
      ∀ row ∈ lookup Task.id server.tasks id, row.status ≠ TaskStatus.success

/-! ## What one act leaves alone -/

structure Concerns (task : Task) (outcome : TaskOutcome) : Prop where
  copy_id : outcome.copy.id = task.id
  copy_platform : outcome.copy.platform = task.platform
  stored_id : ∀ next ∈ outcome.stored, next.id = task.id
  stored_platform : ∀ next ∈ outcome.stored, next.platform = task.platform
  refund : ∀ charge ∈ outcome.refund, charge.task = task.id

theorem update_with_status_some :
    updateWithStatus row task fromStatus failed = some next ↔
      failed = false ∧ row.status = fromStatus ∧ next = task := by
  unfold updateWithStatus
  cases failed <;> by_cases same : row.status = fromStatus <;> simp [same, eq_comm]

theorem sweep_refund_is_some (sweep : Sweep) (task : Task) :
    (sweepRefund sweep task).isSome = sweep.refunds task := by
  have same : refundTaskQuota (sweptTask sweep task) sweep.faults =
      refundTaskQuota task sweep.faults := refund_congr rfl rfl rfl sweep.faults
  unfold sweepRefund Sweep.refunds
  rw [same, ← refund_is_some]
  cases (!isLegacy task && task.quota ≠ 0) <;> rfl

theorem suno_refund_is_some (poll : SunoPoll) (task : Task) :
    (sunoRefund poll task).isSome = poll.refunds task := by
  have same : refundTaskQuota (sunoTask poll.item task) poll.faults =
      refundTaskQuota task poll.faults := refund_congr rfl rfl rfl poll.faults
  unfold sunoRefund SunoPoll.refunds
  rw [same, ← refund_is_some]
  cases sunoFailed poll.item task <;> rfl

theorem sweep_refund_task
    (refunded : sweepRefund sweep task = some charge) : charge.task = task.id := by
  unfold sweepRefund at refunded
  split at refunded
  · exact refund_task refunded
  · cases refunded

theorem sweep_concerns (sweep : Sweep) (row task : Task) :
    Concerns task (sweepTimedOutTask sweep row task) := by
  unfold sweepTimedOutTask
  dsimp only
  split
  · constructor <;> simp [sweptTask]
  · rename_i won wins
    obtain ⟨-, -, rfl⟩ := update_with_status_some.mp wins
    constructor <;> simp [sweptTask]
    intro charge refunded
    exact sweep_refund_task refunded

structure Moved (info : TaskInfo) (task updated : Task) : Prop where
  id : updated.id = task.id
  platform : updated.platform = task.platform
  quota : updated.quota = task.quota
  status : updated.status = info.status
  billing : info.status = TaskStatus.failure → updated.privateData = task.privateData

theorem with_status_moved (now : Int) (info : TaskInfo) (task : Task) :
    Moved info task (withStatus serverAddress now info task) := by
  unfold withStatus
  split
  · exact ⟨rfl, rfl, rfl, rfl, fun _ => rfl⟩
  split
  · exact ⟨rfl, rfl, rfl, rfl, fun _ => rfl⟩
  split
  · exact ⟨rfl, rfl, rfl, rfl, fun _ => rfl⟩
  split
  · rename_i success
    refine ⟨rfl, rfl, rfl, rfl, fun failed => ?_⟩
    exact absurd (success.symm.trans failed) TaskStatus.success_ne_failure
  · exact ⟨rfl, rfl, rfl, rfl, fun _ => rfl⟩

theorem with_progress_moved
    (moved : Moved info task updated) : Moved info task (withProgress info updated) := by
  obtain ⟨id, platform, quota, status, billing⟩ := moved
  unfold withProgress
  split <;> constructor <;> assumption

theorem settle_keeps (poll : VideoPoll) (info : TaskInfo) (task : Task) :
    ∃ quota, (settleTaskBillingOnComplete poll info task).1 = { task with quota := quota } := by
  unfold settleTaskBillingOnComplete
  split
  · exact ⟨task.quota, rfl⟩
  · split
    · exact recalculate_keeps task poll.adjustedQuota poll.faults
    · split
      · exact recalculate_keeps task poll.tokensQuota poll.faults
      · exact ⟨task.quota, rfl⟩

theorem store_video_concerns
    (moved : Moved info task updated) : Concerns task (storeVideoTask poll info row task updated) := by
  obtain ⟨id, platform, -, -, -⟩ := moved
  obtain ⟨quota, settled⟩ := settle_keeps poll info updated
  unfold storeVideoTask
  dsimp only
  split
  · split
    · constructor <;> simp [id, platform]
    · rename_i won wins
      obtain ⟨-, -, rfl⟩ := update_with_status_some.mp wins
      split
      · constructor <;> simp [settled, id, platform]
      · split
        · constructor <;> simp [id, platform]
          intro charge refunded
          rw [refund_task refunded, id]
        · constructor <;> simp [id, platform]
  · constructor <;> simp [id, platform]

theorem video_concerns (poll : VideoPoll) (row task : Task) :
    Concerns task (updateVideoSingleTask serverAddress poll row task) := by
  have unchanged : ∀ copy : Task, copy.id = task.id → copy.platform = task.platform →
      Concerns task { copy := copy } := by
    intro copy id platform
    constructor <;> simp [id, platform]
  unfold updateVideoSingleTask
  cases poll.reply with
  | none => exact unchanged task rfl rfl
  | some reply =>
    dsimp only
    cases reply.taskInfo with
    | none => exact unchanged task rfl rfl
    | some parsed =>
      dsimp only
      cases reply.judged parsed with
      | none => exact unchanged _ rfl rfl
      | some info =>
        dsimp only
        split
        · have moved := with_progress_moved
            (with_status_moved serverAddress poll.now info { task with data := reply.redactedBody })
          exact store_video_concerns ⟨moved.id, moved.platform, moved.quota, moved.status, moved.billing⟩
        · exact unchanged _ rfl rfl

theorem suno_refund_task
    (refunded : sunoRefund poll task = some charge) : charge.task = task.id := by
  unfold sunoRefund at refunded
  split at refunded
  · exact refund_task refunded
  · cases refunded

theorem suno_concerns (poll : SunoPoll) (task : Task) :
    Concerns task (updateSunoTask marshal poll task) := by
  unfold updateSunoTask
  split
  · cases fails : poll.saveFails <;> constructor <;> simp [sunoTask]
    · intro charge refunded
      exact suno_refund_task refunded
    · intro charge refunded
      exact suno_refund_task refunded
  · constructor <;> simp

/-! ## What each act stores and refunds -/

theorem sweep_stored (sweep : Sweep) (row task : Task) :
    (sweepTimedOutTask sweep row task).stored =
      if row.status = task.status ∧ sweep.saveFails = false then some (sweptTask sweep task)
      else none := by
  unfold sweepTimedOutTask updateWithStatus
  cases sweep.saveFails <;> by_cases same : row.status = task.status <;> simp [same]

theorem sweep_refund (sweep : Sweep) (row task : Task) :
    (sweepTimedOutTask sweep row task).refund =
      if row.status = task.status ∧ sweep.saveFails = false then sweepRefund sweep task else none := by
  unfold sweepTimedOutTask updateWithStatus
  cases sweep.saveFails <;> by_cases same : row.status = task.status <;> simp [same]

def videoRefund (poll : VideoPoll) (task : Task) : Option TaskCharge :=
  if task.quota ≠ 0 then refundTaskQuota task poll.faults else none

theorem video_refund_is_some (poll : VideoPoll) (task : Task) :
    (videoRefund poll task).isSome = (task.quota ≠ 0 && refundsTask task poll.faults) := by
  unfold videoRefund
  rw [← refund_is_some]
  by_cases free : task.quota = 0 <;> simp [free]

/-- What a poll of a video stores and refunds: it stores the status of its
answer over the status that it has read, and refunds a task that it fails. -/
structure VideoSpec (poll : VideoPoll) (row task : Task) (outcome : TaskOutcome) : Prop where
  wins : ∀ next ∈ outcome.stored,
    row.status = task.status ∧ poll.saveFails = false ∧ next.status ∈ poll.status
  moves : row.status = task.status → poll.saveFails = false →
    ∀ status ∈ poll.status, status ≠ task.status → ∃ next ∈ outcome.stored, next.status = status
  refunds : outcome.refund.isSome →
    task.status ≠ TaskStatus.failure ∧ ∃ next ∈ outcome.stored, next.status = TaskStatus.failure
  refund : ∀ next ∈ outcome.stored, next.status = TaskStatus.failure →
    task.status ≠ TaskStatus.failure → outcome.refund = videoRefund poll task

theorem snapshot_moved (moved : Moved info task updated)
    (other : info.status ≠ task.status) : task.snapshot ≠ updated.snapshot := by
  intro same
  have status := congrArg TaskSnapshot.status same
  exact other (moved.status.symm.trans status.symm)

theorem VideoSpec.of_none (row task : Task)
    (unanswered : poll.status = none) : VideoSpec poll row task { copy := copy } := by
  constructor
  · simp
  · intro _ _ status answer
    rw [unanswered] at answer
    cases answer
  · simp
  · simp

theorem VideoSpec.of_won {outcome : TaskOutcome}
    (stored : outcome.stored = some won) (answered : poll.status = some won.status)
    (accepted : poll.saveFails = false) (same : row.status = task.status)
    (refund : outcome.refund =
      if won.status = TaskStatus.failure ∧ task.status ≠ TaskStatus.failure then
        videoRefund poll task
      else none) :
    VideoSpec poll row task outcome := by
  constructor
  · intro next written
    rw [stored] at written
    cases written
    exact ⟨same, accepted, answered⟩
  · intro _ _ status answer _
    rw [answered] at answer
    exact ⟨won, stored, Option.some.inj answer⟩
  · intro refunded
    rw [refund] at refunded
    split at refunded
    · rename_i fails
      exact ⟨fails.2, won, stored, fails.1⟩
    · cases refunded
  · intro next written failed going
    rw [stored] at written
    cases written
    rw [refund, if_pos ⟨failed, going⟩]

theorem store_video_spec (row : Task)
    (moved : Moved info task updated) (answered : poll.status = some info.status) :
    VideoSpec poll row task (storeVideoTask poll info row task updated) := by
  unfold storeVideoTask
  dsimp only
  split
  · split
    · rename_i lost
      constructor
      · simp
      · intro same accepted
        rw [updateWithStatus, accepted, if_neg Bool.false_ne_true, if_pos same] at lost
        cases lost
      · simp
      · simp
    · rename_i won wins
      obtain ⟨accepted, same, rfl⟩ := update_with_status_some.mp wins
      have refund : won.status = TaskStatus.failure → refundTaskQuota won poll.faults =
          refundTaskQuota task poll.faults := by
        intro failed
        have billing := moved.billing (moved.status.symm.trans failed)
        exact refund_congr moved.id moved.quota billing poll.faults
      have succeeded : info.status = TaskStatus.success → won.status ≠ TaskStatus.failure := by
        intro success failed
        exact TaskStatus.success_ne_failure (success.symm.trans (moved.status.symm.trans failed))
      have ended : won.status.isDone → info.status ≠ TaskStatus.success →
          won.status = TaskStatus.failure := by
        intro done other
        rcases TaskStatus.is_done_iff.mp done with success | failure
        · exact absurd (moved.status.symm.trans success) other
        · exact failure
      rw [← moved.status] at answered
      refine VideoSpec.of_won ?_ answered accepted same ?_
      · split_ifs <;> rfl
      · split
        · rename_i success
          simp only [Bool.and_eq_true, decide_eq_true_eq] at success
          rw [if_neg fun fails => succeeded success.2 fails.1]
        · rename_i other
          simp only [Bool.and_eq_true, decide_eq_true_eq, not_and] at other
          split
          · rename_i charged
            simp only [Bool.and_eq_true, decide_eq_true_eq] at charged
            have failed := ended charged.1.1 (other charged.1)
            have going : task.status ≠ TaskStatus.failure := failed ▸ charged.1.2
            rw [if_pos ⟨failed, going⟩, videoRefund, if_pos charged.2]
            exact refund failed
          · rename_i uncharged
            simp only [Bool.and_eq_true, decide_eq_true_eq, not_and, not_not] at uncharged
            split
            · rename_i fails
              have free := uncharged ⟨by rw [fails.1]; rfl, fails.1 ▸ fails.2⟩
              rw [videoRefund, if_neg (not_not.mpr free)]
            · rfl
  · rename_i unchanged
    simp only [Bool.or_eq_true, not_or, decide_eq_true_eq, not_not] at unchanged
    constructor
    · simp
    · intro _ _ status answer other
      rw [answered] at answer
      cases answer
      exact absurd unchanged.2 (snapshot_moved moved other)
    · simp
    · simp

theorem video_spec (poll : VideoPoll) (row task : Task) :
    VideoSpec poll row task (updateVideoSingleTask serverAddress poll row task) := by
  unfold updateVideoSingleTask
  cases fetched : poll.reply with
  | none => exact VideoSpec.of_none row task (by simp [VideoPoll.status, fetched])
  | some reply =>
    dsimp only
    cases read : reply.taskInfo with
    | none => exact VideoSpec.of_none row task (by simp [VideoPoll.status, fetched, read])
    | some parsed =>
      dsimp only
      cases judged : reply.judged parsed with
      | none => exact VideoSpec.of_none row task (by simp [VideoPoll.status, fetched, read, judged])
      | some info =>
        have status : poll.status = (some info.status).filter knownStatus := by
          simp [VideoPoll.status, fetched, read, judged]
        dsimp only
        split
        · rename_i known
          rw [Option.filter_some_pos known] at status
          have moved := with_progress_moved
            (with_status_moved serverAddress poll.now info { task with data := reply.redactedBody })
          exact store_video_spec row ⟨moved.id, moved.platform, moved.quota, moved.status, moved.billing⟩ status
        · rename_i unknown
          rw [Option.filter_some_neg (eq_false_of_ne_true unknown)] at status
          exact VideoSpec.of_none row task status

/-! ## Commits -/

section Commits
variable {server : Server Handle} {outcome : TaskOutcome} {task row : Task}

theorem commit_lookup (concerns : Concerns task outcome)
    (found : lookup Task.id server.tasks task.id = some row) (id : Int) :
    lookup Task.id (commit server outcome).tasks id =
      if id = task.id then some (outcome.stored.getD row) else lookup Task.id server.tasks id := by
  cases written : outcome.stored with
  | none =>
    simp only [commit, written, Option.map_none, Option.getD_none]
    split
    · rename_i same
      rw [same, found]
    · rfl
  | some next =>
    have same := concerns.stored_id next written
    simp only [commit, written, Option.map_some, Option.getD_some, lookup_save, same]
    split
    · rename_i here
      rw [here, found, Option.map_some]
    · rfl

theorem commit_times_refunded (concerns : Concerns task outcome) (id : Int) :
    (commit server outcome).timesRefunded id =
      server.timesRefunded id + if outcome.refund.isSome ∧ task.id = id then 1 else 0 := by
  cases refunded : outcome.refund with
  | none => simp [Server.timesRefunded, commit, refunded]
  | some charge =>
    have same := concerns.refund charge refunded
    simp [Server.timesRefunded, commit, refunded, List.countP_append, List.countP_cons, same]

theorem commit_kept_iff (concerns : Concerns task outcome)
    (found : lookup Task.id server.tasks task.id = some row) :
    TerminalKept server (commit server outcome) ↔
      ∀ next ∈ outcome.stored, TaskStatus.isDone row.status → next.status = row.status := by
  constructor
  · intro kept next written ended
    have after := kept task.id row found ended
    rw [commit_lookup concerns found, if_pos rfl, Option.mem_def.mp written] at after
    exact Option.some.inj after
  · intro same id old held ended
    rw [commit_lookup concerns found]
    split
    · rename_i here
      rw [here, found] at held
      cases held
      cases written : outcome.stored with
      | none => rfl
      | some next => exact congrArg some (same next written ended)
    · rw [held, Option.map_some]

theorem commit_once_iff (concerns : Concerns task outcome) (once : ∀ id, server.timesRefunded id ≤ 1) :
    (∀ id, (commit server outcome).timesRefunded id ≤ 1) ↔
      (outcome.refund.isSome → server.timesRefunded task.id = 0) := by
  constructor
  · intro after refunded
    have here := after task.id
    rw [commit_times_refunded concerns, if_pos ⟨refunded, rfl⟩] at here
    omega
  · intro first id
    rw [commit_times_refunded concerns]
    have before := once id
    split
    · rename_i refunded
      have none_yet := first refunded.1
      rw [refunded.2] at none_yet
      omega
    · exact before

theorem commit_ends_once_iff (concerns : Concerns task outcome)
    (found : lookup Task.id server.tasks task.id = some row)
    (once : ∀ id, server.timesRefunded id ≤ 1) :
    EndsOnce server (commit server outcome) ↔
      (∀ next ∈ outcome.stored, TaskStatus.isDone row.status → next.status = row.status) ∧
        (outcome.refund.isSome → server.timesRefunded task.id = 0) := by
  rw [← commit_kept_iff concerns found, ← commit_once_iff concerns once]
  exact ⟨fun ends => ⟨ends.kept, ends.once⟩, fun ends => ⟨ends.1, ends.2⟩⟩

end Commits

/-! ## One step -/

def Held (server : Server Handle) (task : Task) : Prop :=
  ∃ row, lookup Task.id server.tasks task.id = some row ∧ row.platform = task.platform

/-- Sweepers hold tasks that have not ended, and of the tasks that are not songs
only those that have failed are refunded. -/
structure Sound (server : Server Handle) : Prop where
  once : ∀ id, server.timesRefunded id ≤ 1
  sweeping : ∀ handle, ∀ task ∈ server.sweeping handle,
    TaskStatus.isDone task.status = false ∧ Held server task
  polled : ∀ handle, ∀ task ∈ server.polled handle, Held server task
  refunded : ∀ id row, lookup Task.id server.tasks id = some row → row.platform ≠ .suno →
    server.timesRefunded id ≠ 0 → row.status = TaskStatus.failure

section Steps
variable {server : Server Handle} {row task : Task}

theorem Sound.unrefunded (sound : Sound server) (held : Held server task)
    (found : lookup Task.id server.tasks task.id = some row) (other : task.platform ≠ .suno)
    (going : row.status ≠ TaskStatus.failure) : server.timesRefunded task.id = 0 := by
  obtain ⟨stored, same, platform⟩ := held
  rw [found] at same
  cases same
  by_contra refunded
  exact going (sound.refunded task.id row found (platform ▸ other) refunded)

theorem sweep_ends_once_iff (sound : Sound server) (sweep : Sweep) (held : Held server task)
    (going : TaskStatus.isDone task.status = false)
    (found : lookup Task.id server.tasks task.id = some row) :
    EndsOnce server (commit server (sweepTimedOutTask sweep row task)) ↔
      SweepFits server sweep row task := by
  have kept : ∀ next ∈ (sweepTimedOutTask sweep row task).stored,
      TaskStatus.isDone row.status → next.status = row.status := by
    intro next stored ended
    rw [sweep_stored] at stored
    split at stored
    · rename_i wins
      rw [wins.1, going] at ended
      cases ended
    · cases stored
  rw [commit_ends_once_iff (sweep_concerns sweep row task) found sound.once, sweep_refund]
  constructor
  · rintro ⟨-, first⟩ _ same accepted refunds
    apply first
    rwa [if_pos ⟨same, accepted⟩, sweep_refund_is_some]
  · intro fits
    refine ⟨kept, fun refunds => ?_⟩
    by_cases wins : row.status = task.status ∧ sweep.saveFails = false
    · rw [if_pos wins, sweep_refund_is_some] at refunds
      by_cases song : task.platform = .suno
      · exact fits song wins.1 wins.2 refunds
      · refine sound.unrefunded held found song fun failed => ?_
        rw [wins.1] at failed
        rw [failed] at going
        cases going
    · rw [if_neg wins] at refunds
      cases refunds

theorem video_ends_once_iff (sound : Sound server) (poll : VideoPoll) (held : Held server task)
    (video : polledAsVideo task) (found : lookup Task.id server.tasks task.id = some row) :
    EndsOnce server (commit server (updateVideoSingleTask serverAddress poll row task)) ↔
      VideoFits poll row task := by
  have spec := video_spec serverAddress poll row task
  rw [commit_ends_once_iff (video_concerns serverAddress poll row task) found sound.once]
  constructor
  · rintro ⟨kept, -⟩ ended same accepted status answer
    by_contra other
    obtain ⟨next, stored, becomes⟩ := spec.moves same accepted status answer other
    exact other (becomes.symm.trans ((kept next stored (same ▸ ended)).trans same))
  · intro fits
    constructor
    · intro next stored ended
      obtain ⟨same, accepted, answer⟩ := spec.wins next stored
      rw [same] at ended ⊢
      exact fits ended same accepted next.status answer
    · intro refunds
      obtain ⟨going, next, stored, fails⟩ := spec.refunds refunds
      obtain ⟨same, accepted, answer⟩ := spec.wins next stored
      have song : task.platform ≠ .suno := by
        simp only [polledAsVideo, Bool.and_eq_true, decide_eq_true_eq] at video
        exact video.1
      exact sound.unrefunded held found song (same ▸ going)

theorem suno_ends_once_iff (sound : Sound server) (poll : SunoPoll)
    (found : lookup Task.id server.tasks task.id = some row) :
    EndsOnce server (commit server (updateSunoTask marshal poll task)) ↔
      SunoFits marshal server poll row task := by
  rw [commit_ends_once_iff (suno_concerns marshal poll task) found sound.once]
  unfold SunoFits updateSunoTask
  by_cases needed : taskNeedsUpdate marshal task poll.item
  · cases fails : poll.saveFails <;> simp [needed, sunoTask, suno_refund_is_some]
  · simp [needed]

end Steps

theorem act_outcome {server : Server Handle} {held : Option Task} {act : Task → Task → TaskOutcome}
    {done : TaskOutcome} (acts : actOn server held act = some done) :
    ∃ task row, held = some task ∧ lookup Task.id server.tasks task.id = some row ∧
      done = act row task := by
  obtain ⟨task, holds, rest⟩ := Option.bind_eq_some_iff.mp acts
  obtain ⟨row, found, shape⟩ := Option.map_eq_some_iff.mp rest
  exact ⟨task, row, holds, found, shape.symm⟩

theorem act_safe_iff {safe : Server Handle → Prop}
    {act : Task → Task → TaskOutcome} (before : safe server) (fits : Task → Task → Prop)
    (after : TaskOutcome → Server Handle)
    (commits : ∀ done, safe (after done) ↔ safe (commit server done))
    (sharp : ∀ task row, held = some task → lookup Task.id server.tasks task.id = some row →
      (safe (commit server (act row task)) ↔ fits row task)) :
    safe (((actOn server held act).map after).getD server) ↔
      ∀ task ∈ held, ∀ row ∈ lookup Task.id server.tasks task.id, fits row task := by
  cases holds : held with
  | none => simp [actOn, before]
  | some task =>
    cases found : lookup Task.id server.tasks task.id with
    | none => simp [actOn, found, before]
    | some row =>
      simp only [actOn, found, Option.bind_some, Option.map_some, Option.getD_some, commits,
        sharp task row holds found, Option.mem_def, Option.some.injEq, forall_eq']

/-! ## Bulk failures -/

theorem bulk_params_id (event : Event Handle) (row : Task) : (bulkParams event row).id = row.id := by
  cases event <;> rfl

theorem bulk_params_platform (event : Event Handle) (row : Task) :
    (bulkParams event row).platform = row.platform := by
  cases event <;> rfl

theorem bulk_params_status (event : Event Handle) (row : Task) :
    (bulkParams event row).status = TaskStatus.failure := by
  cases event <;> rfl

theorem lookup_bulk (tasks : List Task) (ids : List Int) (event : Event Handle) (id : Int) :
    lookup Task.id (taskBulkUpdateByID tasks ids (bulkParams event)) id =
      (lookup Task.id tasks id).map fun row => if id ∈ ids then bulkParams event row else row := by
  have same : ∀ row : Task, (if row.id ∈ ids then bulkParams event row else row).id = row.id := by
    intro row
    split
    · exact bulk_params_id event row
    · rfl
  rw [taskBulkUpdateByID, lookup_map same]
  cases found : lookup Task.id tasks id with
  | none => rfl
  | some row =>
    have key := lookup_key found
    simp [key]

theorem bulk_ends_once_iff {server : Server Handle} (sound : Sound server) (event : Event Handle)
    (ids : List Int) :
    EndsOnce server { server with
      tasks := taskBulkUpdateByID server.tasks ids (bulkParams event) } ↔
      ∀ id ∈ ids, ∀ row ∈ lookup Task.id server.tasks id, row.status ≠ TaskStatus.success := by
  constructor
  · rintro ⟨kept, -⟩ id named row found succeeded
    have after := kept id row found (by rw [succeeded]; rfl)
    simp only [lookup_bulk, Option.mem_def.mp found, Option.map_some, if_pos named,
      bulk_params_status, succeeded, Option.some.injEq] at after
    exact TaskStatus.success_ne_failure after.symm
  · intro going
    refine ⟨?_, sound.once⟩
    intro id row found ended
    simp only [lookup_bulk, found, Option.map_some, Option.some.injEq]
    split
    · rename_i named
      rw [bulk_params_status]
      rcases TaskStatus.is_done_iff.mp ended with success | failure
      · exact absurd success (going id named row found)
      · exact failure.symm
    · rfl

/-! ## What a run keeps -/

theorem commit_held {server : Server Handle} {outcome : TaskOutcome} {task other : Task}
    (concerns : Concerns task outcome) (held : Held server task) (kept : Held server other) :
    Held (commit server outcome) other := by
  obtain ⟨row, found, platform⟩ := held
  obtain ⟨old, stored, same⟩ := kept
  unfold Held
  rw [commit_lookup concerns found]
  split
  · rename_i here
    rw [here, found] at stored
    cases stored
    refine ⟨_, rfl, ?_⟩
    cases written : outcome.stored with
    | none => exact same
    | some next => exact (concerns.stored_platform next written).trans (platform.symm.trans same)
  · exact ⟨old, stored, same⟩

theorem committed_row {server : Server Handle} {outcome : TaskOutcome} {task now : Task} {id : Int}
    (concerns : Concerns task outcome) (held : Held server task)
    (stored : lookup Task.id (commit server outcome).tasks id = some now) :
    ∃ old, lookup Task.id server.tasks id = some old ∧ old.platform = now.platform := by
  obtain ⟨row, found, platform⟩ := held
  rw [commit_lookup concerns found] at stored
  split at stored
  · rename_i here
    refine ⟨row, here ▸ found, ?_⟩
    cases written : outcome.stored with
    | none =>
      rw [written] at stored
      cases stored
      rfl
    | some next =>
      rw [written] at stored
      cases stored
      exact platform.trans (concerns.stored_platform _ written).symm
  · exact ⟨now, stored, rfl⟩

theorem Sound.committed {server : Server Handle} {outcome : TaskOutcome} {task row : Task}
    (sound : Sound server) (concerns : Concerns task outcome) (held : Held server task)
    (found : lookup Task.id server.tasks task.id = some row)
    (ends : EndsOnce server (commit server outcome))
    (fails : task.platform ≠ .suno → outcome.refund.isSome →
      ∃ next ∈ outcome.stored, next.status = TaskStatus.failure) :
    Sound (commit server outcome) where
  once := ends.once
  sweeping handle other holds := by
    obtain ⟨going, stored⟩ := sound.sweeping handle other holds
    exact ⟨going, commit_held concerns held stored⟩
  polled handle other holds := commit_held concerns held (sound.polled handle other holds)
  refunded id now stored song charged := by
    rw [commit_times_refunded concerns] at charged
    by_cases again : outcome.refund.isSome ∧ task.id = id
    · obtain ⟨refunds, rfl⟩ := again
      obtain ⟨kept, same, platform⟩ := commit_held concerns held held
      rw [stored] at same
      cases same
      obtain ⟨next, written, failed⟩ := fails (platform ▸ song) refunds
      rw [commit_lookup concerns found, if_pos rfl, Option.mem_def.mp written] at stored
      cases stored
      exact failed
    · rw [if_neg again] at charged
      obtain ⟨old, known, platform⟩ := committed_row concerns held stored
      have failed := sound.refunded id old known (platform ▸ song) charged
      have kept := ends.kept id old known (by rw [failed]; rfl)
      rw [stored, Option.map_some, failed] at kept
      exact Option.some.inj kept

theorem Sound.bulk {server : Server Handle} (sound : Sound server) (event : Event Handle) (ids : List Int) :
    Sound { server with tasks := taskBulkUpdateByID server.tasks ids (bulkParams event) } where
  once := sound.once
  sweeping handle task holds := by
    obtain ⟨going, row, found, platform⟩ := sound.sweeping handle task holds
    refine ⟨going, if task.id ∈ ids then bulkParams event row else row, ?_, ?_⟩
    · rw [lookup_bulk, found, Option.map_some]
    · split <;> simp [bulk_params_platform, platform]
  polled handle task holds := by
    obtain ⟨row, found, platform⟩ := sound.polled handle task holds
    refine ⟨if task.id ∈ ids then bulkParams event row else row, ?_, ?_⟩
    · rw [lookup_bulk, found, Option.map_some]
    · split <;> simp [bulk_params_platform, platform]
  refunded id now stored song charged := by
    rw [lookup_bulk] at stored
    obtain ⟨row, found, rfl⟩ := Option.map_eq_some_iff.mp stored
    split
    · exact bulk_params_status event row
    · rename_i spared
      rw [if_neg spared] at song
      exact sound.refunded id row found song charged

theorem Sound.unchanged {server : Server Handle} (sound : Sound server) {after : Server Handle}
    (tasks : after.tasks = server.tasks) (refunds : after.refunds = server.refunds) :
    EndsOnce server after where
  kept id row found _ := by rw [tasks, found, Option.map_some]
  once id := by
    have before := sound.once id
    rwa [Server.timesRefunded, refunds]

theorem ends_once_congr {server after committed : Server Handle} (tasks : after.tasks = committed.tasks)
    (refunds : after.refunds = committed.refunds) :
    EndsOnce server after ↔ EndsOnce server committed := by
  have kept : TerminalKept server after ↔ TerminalKept server committed := by
    simp only [TerminalKept, tasks]
  have once : (∀ id, after.timesRefunded id ≤ 1) ↔ ∀ id, committed.timesRefunded id ≤ 1 := by
    simp only [Server.timesRefunded, refunds]
  constructor
  · exact fun ends => ⟨kept.mp ends.kept, once.mp ends.once⟩
  · exact fun ends => ⟨kept.mpr ends.kept, once.mpr ends.once⟩

section Runs
variable [DecidableEq Handle] {server : Server Handle}

theorem copies_update {copies : Handle → Option Task}
    {property : Task → Prop} (others : ∀ handle, ∀ task ∈ copies handle, property task)
    (here : ∀ task ∈ value, property task) :
    ∀ handle, ∀ task ∈ Function.update copies written value handle, property task := by
  intro handle task holds
  by_cases same : handle = written
  · subst same
    rw [Function.update_self] at holds
    exact here task holds
  · rw [Function.update_of_ne same] at holds
    exact others handle task holds

theorem Sound.hold (sound : Sound server) (handle : Handle) (held : Held server copy) :
    Sound { server with polled := Function.update server.polled handle (some copy) } where
  once := sound.once
  sweeping := sound.sweeping
  polled := copies_update sound.polled fun _ same => Option.some.inj same ▸ held
  refunded := sound.refunded

theorem Sound.holdSweeping (sound : Sound server) (handle : Handle)
    (held : ∀ task ∈ copy, TaskStatus.isDone task.status = false ∧ Held server task) :
    Sound { server with sweeping := Function.update server.sweeping handle copy } where
  once := sound.once
  sweeping := copies_update sound.sweeping held
  polled := sound.polled
  refunded := sound.refunded

theorem step_ends_once_iff (sound : Sound server) (event : Event Handle) :
    EndsOnce server (step serverAddress marshal server event) ↔ Orderly marshal server event := by
  cases event with
  | sweepRead | pollRead =>
    refine iff_of_true ?_ trivial
    unfold step
    dsimp only
    split
    · split <;> exact sound.unchanged rfl rfl
    · exact sound.unchanged rfl rfl
  | sweep handle sweep =>
    refine act_safe_iff (sound.unchanged rfl rfl) (SweepFits server sweep) (fun done => { commit server done with
      sweeping := Function.update server.sweeping handle none }) (fun done => ends_once_congr rfl rfl) ?_
    intro task row holds found
    obtain ⟨going, held⟩ := sound.sweeping handle task holds
    exact sweep_ends_once_iff sound sweep held going found
  | video handle poll =>
    refine (act_safe_iff (sound.unchanged rfl rfl) (VideoFits poll) (fun done => { commit server done with
      polled := Function.update server.polled handle (some done.copy) })
      (fun done => ends_once_congr rfl rfl) ?_).trans ?_
    · intro task row holds found
      obtain ⟨read, video⟩ := Option.filter_eq_some_iff.mp holds
      exact video_ends_once_iff serverAddress sound poll (sound.polled handle task read) video found
    · simp only [Option.mem_filter_iff, and_imp, Orderly]
  | suno handle poll =>
    refine (act_safe_iff (sound.unchanged rfl rfl) (SunoFits marshal server poll) (fun done => { commit server done
      with polled := Function.update server.polled handle (some done.copy) })
      (fun done => ends_once_congr rfl rfl) ?_).trans ?_
    · intro task row holds found
      exact suno_ends_once_iff marshal sound poll found
    · simp only [Option.mem_filter_iff, and_imp, Orderly, decide_eq_true_eq]
  | failUnsent handles saveFails =>
    exact bulk_ends_once_iff sound (.failUnsent handles saveFails) _
  | failChannel handles failReason saveFails =>
    exact bulk_ends_once_iff sound (.failChannel handles failReason saveFails) _

theorem Sound.polls (sound : Sound server) (handle : Handle) {outcome : TaskOutcome}
    (concerns : Concerns task outcome) (held : Held server task)
    (found : lookup Task.id server.tasks task.id = some row)
    (ends : EndsOnce server (commit server outcome))
    (fails : task.platform ≠ .suno → outcome.refund.isSome →
      ∃ next ∈ outcome.stored, next.status = TaskStatus.failure) :
    Sound { commit server outcome with
      polled := Function.update server.polled handle (some outcome.copy) } := by
  have committed := sound.committed concerns held found ends fails
  obtain ⟨kept, stored, platform⟩ := commit_held concerns held held
  refine committed.hold handle ⟨kept, ?_, platform.trans concerns.copy_platform.symm⟩
  rw [concerns.copy_id, stored]

theorem step_sound (orderly : Orderly marshal server event)
    (sound : Sound server) : Sound (step serverAddress marshal server event) := by
  cases event with
  | sweepRead handle id cutoff =>
    unfold step
    dsimp only
    split
    · rename_i row found
      split
      · rename_i asked
        simp only [Task.unfinished, Bool.and_eq_true, Bool.not_eq_true'] at asked
        refine sound.holdSweeping handle fun task same => ?_
        cases same
        exact ⟨asked.1.2, row, lookup_key found ▸ found, rfl⟩
      · exact sound
    · exact sound
  | pollRead handle id =>
    unfold step
    dsimp only
    split
    · rename_i row found
      split
      · exact sound.hold handle ⟨row, lookup_key found ▸ found, rfl⟩
      · exact sound
    · exact sound
  | sweep handle sweep =>
    unfold step
    cases acts : outcome serverAddress marshal server (.sweep handle sweep) with
    | none => exact sound
    | some done =>
      obtain ⟨task, row, holds, found, rfl⟩ := act_outcome acts
      obtain ⟨going, held⟩ := sound.sweeping handle task holds
      have ends := (sweep_ends_once_iff sound sweep held going found).mpr (orderly task holds row found)
      have concerns := sweep_concerns sweep row task
      refine (sound.committed concerns held found ends fun _ refunds => ?_).holdSweeping handle ?_
      · rw [sweep_refund] at refunds
        split at refunds
        · rename_i wins
          refine ⟨sweptTask sweep task, ?_, rfl⟩
          rw [sweep_stored, if_pos wins]
          rfl
        · cases refunds
      · intro copy impossible
        cases impossible
  | video handle poll =>
    unfold step
    cases acts : outcome serverAddress marshal server (.video handle poll) with
    | none => exact sound
    | some done =>
      obtain ⟨task, row, holds, found, rfl⟩ := act_outcome acts
      obtain ⟨read, video⟩ := Option.filter_eq_some_iff.mp holds
      have held := sound.polled handle task read
      have ends := (video_ends_once_iff serverAddress sound poll held video found).mpr
        (orderly task read video row found)
      refine sound.polls handle (video_concerns serverAddress poll row task) held found ends ?_
      exact fun _ refunds => ((video_spec serverAddress poll row task).refunds refunds).2
  | suno handle poll =>
    unfold step
    cases acts : outcome serverAddress marshal server (.suno handle poll) with
    | none => exact sound
    | some done =>
      obtain ⟨task, row, holds, found, rfl⟩ := act_outcome acts
      obtain ⟨read, song⟩ := Option.filter_eq_some_iff.mp holds
      have ends := (suno_ends_once_iff marshal sound poll found).mpr
        (orderly task read (of_decide_eq_true song) row found)
      refine sound.polls handle (suno_concerns marshal poll task) (sound.polled handle task read)
        found ends ?_
      exact fun other => absurd (of_decide_eq_true song) other
  | failUnsent | failChannel => exact sound.bulk _ _

/-- From the tasks of a table, with nothing read or refunded yet: every step
keeps the statuses that end tasks and refunds none of them again exactly when
every step is orderly. -/
theorem tasks_end_once_iff (tasks : List Task) (events : List (Event Handle)) :
    (∀ done event, done ++ [event] <+: events →
      EndsOnce (run (step serverAddress marshal) { tasks := tasks } done)
        (step serverAddress marshal (run (step serverAddress marshal) { tasks := tasks } done) event)) ↔
      Guarded (step serverAddress marshal) (Orderly marshal) { tasks := tasks } events := by
  have initially : Sound ({ tasks := tasks } : Server Handle) := by
    constructor
    · exact fun _ => Nat.zero_le 1
    · intro _ _ impossible
      cases impossible
    · intro _ _ impossible
      cases impossible
    · intro _ _ _ _ charged
      exact absurd rfl charged
  let safe : Server Handle → Event Handle → Prop := fun server event =>
    EndsOnce server (step serverAddress marshal server event)
  have sharp : ∀ server event, Sound server → (safe server event ↔ Orderly marshal server event) :=
    fun server event sound => step_ends_once_iff serverAddress marshal sound event
  exact steps_safe_iff_guarded
    (fun server event orderly sound => step_sound serverAddress marshal orderly sound) sharp events
    initially

def twoPollers : List (Event Nat) :=
  let poll : SunoPoll := { item := { status := "FAILURE", failReason := "rejected" } }
  [.pollRead 0 1, .pollRead 1 1, .suno 0 poll, .suno 1 poll]

/-- Each refunds it. -/
theorem song_refunded_twice :
    ¬ ∀ done event, done ++ [event] <+: twoPollers →
      let start : Server Nat := { tasks := [{ id := 1, platform := .suno, quota := 500 }] }
      EndsOnce (run (step "" id) start done) (step "" id (run (step "" id) start done) event) := by
  intro ends
  have last := ends (twoPollers.take 3) _ (List.prefix_refl twoPollers)
  exact absurd (last.once 1) (by decide +kernel)

end Runs

end NewApi.TaskPolling
