import NewApi.GoText
import NewApi.GuardedRun
import NewApi.KeyedTable

/-! The jobs that check users in, and the scheduler that runs them. A pass of
the scheduler puts running items that are stale back, arms the daily jobs for
the date, and executes what is due. The status of a job is the summary of its
items, and the arming selects by status: a job whose day ended well is
completed, and no pass selects it again. -/
namespace NewApi.CheckinJobs
open NewApi.GuardedRun NewApi.KeyedTable
open NewApi.GoText (trimSpace)

/-! ## Dates -/

/-- `model/checkin_auto_job.go::formatCheckinDate`: the number of the day in
`checkinLocation`, which is eight hours ahead. -/
def checkinDate (now : Int) : Int := (now + 28800) / 86400

/-- `model/checkin_auto_job.go::CheckinDateTime` of a date that parses. -/
def checkinDateTime (targetDate seconds : Int) : Except String Int :=
  if seconds < 0 ∨ seconds ≥ 86400 then .error "签到时间必须在 0 到 86399 秒之间"
  else .ok (targetDate * 86400 - 28800 + seconds)

/-! ## Rows -/

inductive JobStatus where
  | scheduled
  | running
  | partial_
  | completed
  | cancelled
  deriving DecidableEq, Repr

inductive ItemStatus where
  | pending
  | running
  | success
  | failed
  | skipped
  | cancelled
  deriving DecidableEq, Repr

/-- `model/checkin_auto_job.go::CheckinAutoJob`. The JSON column of the users is
`none` where it does not parse. -/
structure Job where
  id : Int
  name : String := ""
  enabled : Bool := true
  repeatDaily : Bool := false
  targetDate : Int
  windowStartSeconds : Int := 0
  windowEndSeconds : Int := 0
  randomWindowSeconds : Int := 480
  userIdsJSON : Option (List Int)
  status : JobStatus := .scheduled
  itemCount : Nat := 0
  successCount : Nat := 0
  failedCount : Nat := 0
  skippedCount : Nat := 0
  cancelledCount : Nat := 0
  lastError : String := ""
  createdAt : Int := 0
  updatedAt : Int := 0
  deriving DecidableEq, Repr

/-- `model/checkin_auto_job.go::CheckinAutoJobItem`. -/
structure Item where
  id : Int
  jobId : Int
  userId : Int
  scheduledAt : Int
  executedAt : Int := 0
  status : ItemStatus := .pending
  errorMessage : String := ""
  quotaAwarded : Int := 0
  createdAt : Int := 0
  updatedAt : Int := 0
  deriving DecidableEq, Repr

/-- `model/checkin.go::Checkin`; user and date are a unique index. -/
structure Checkin where
  userId : Int
  checkinDate : Int
  quotaAwarded : Int
  deriving DecidableEq, Repr

structure Outcome where
  itemId : Int
  status : ItemStatus
  quotaAwarded : Int
  errorMessage : String
  deriving DecidableEq, Repr

structure History where
  passed : List Int := []
  written : List (Int × Int) := []
  deriving DecidableEq, Repr

/-- The tables with the counters of their ids; the items that the running pass
has still to claim, the one it has claimed, the outcome it has to write, and
its time. The history and what jobs ever checked in are remembered. -/
structure Store where
  users : List Int := []
  lastJob : Int := 0
  lastItem : Int := 0
  jobs : List Job := []
  items : List Item := []
  checkins : List Checkin := []
  queue : List Item := []
  claimed : Option Item := none
  outcome : Option Outcome := none
  passNow : Int := 0
  history : History := {}
  made : List (Int × Checkin) := []

def Store.job (store : Store) (jobId : Int) : Option Job := lookup Job.id store.jobs jobId

def Store.itemsOf (store : Store) (jobId : Int) : List Item :=
  store.items.filter fun item => item.jobId = jobId

/-! ## Items and their summary -/

/-- `model/checkin_auto_job.go::normalizeCheckinAutoJobUserIDs`. -/
def normalizeUserIDs (userIDs : List Int) : List Int :=
  (userIDs.filter fun userId => 0 < userId).eraseDups

/-- The items of users, with ids from `next` on; `random` is what
`secureRandIntn` draws for each. -/
def buildItems (jobId startUnix endUnix nowUnix : Int) (random : Int → Nat) : Int → List Int → List Item
  | _, [] => []
  | next, userId :: rest =>
    { id := next
      jobId := jobId
      userId := userId
      scheduledAt := if endUnix > startUnix then
        startUnix + (random userId : Int) % (endUnix - startUnix + 1) else startUnix
      createdAt := nowUnix
      updatedAt := nowUnix } :: buildItems jobId startUnix endUnix nowUnix random (next + 1) rest

/-- `model/checkin_auto_job.go::buildCheckinAutoJobItems`. -/
def buildCheckinAutoJobItems (jobId targetDate windowStart windowEnd randomWindow : Int)
    (userIDs : List Int) (nowUnix : Int) (random : Int → Nat) (next : Int) :
    Except String (List Item) :=
  match checkinDateTime targetDate windowStart with
  | .error text => .error text
  | .ok startAt =>
    match checkinDateTime targetDate windowEnd with
    | .error text => .error text
    | .ok endAt =>
      if endAt < startAt then .error "签到结束时间不能早于开始时间"
      else
        let scheduleEndAt := if randomWindow > 0 then min endAt (startAt + randomWindow) else endAt
        .ok (buildItems jobId startAt scheduleEndAt nowUnix random next userIDs)

def countStatus (items : List Item) (status : ItemStatus) : Nat :=
  (items.filter fun item => item.status = status).length

def summaryStatus (items : List Item) : JobStatus :=
  if countStatus items .pending = 0 ∧ countStatus items .running = 0 ∧ countStatus items .failed = 0 then
    if countStatus items .cancelled = items.length ∧ items.length > 0 then .cancelled else .completed
  else if countStatus items .running > 0 then .running
  else if countStatus items .failed > 0 then .partial_
  else .scheduled

def Store.updateJob (store : Store) (jobId : Int) (change : Job → Job) : Store :=
  { store with jobs := update Job.id store.jobs jobId change }

def summaryRow (items : List Item) (nowUnix : Int) (job : Job) : Job :=
  { job with
    status := summaryStatus items
    itemCount := items.length
    successCount := countStatus items .success
    failedCount := countStatus items .failed
    skippedCount := countStatus items .skipped
    cancelledCount := countStatus items .cancelled
    updatedAt := nowUnix }

/-- `model/checkin_auto_job.go::refreshCheckinAutoJobSummaryTx`. -/
def refreshSummary (jobId nowUnix : Int) (store : Store) : Store :=
  store.updateJob jobId (summaryRow (store.itemsOf jobId) nowUnix)

/-! ## Creating, updating and cancelling -/

/-- The date that a request asks for; none asks for every day. -/
inductive RequestedDate where
  | daily
  | on (date : Int)
  | malformed
  deriving DecidableEq, Repr

/-- `model/checkin_auto_job.go::CheckinAutoJobCreateRequest`, which has the
fields of `CheckinAutoJobUpdateRequest`. -/
structure JobRequest where
  name : String := ""
  enabled : Option Bool := none
  targetDate : RequestedDate := .daily
  windowStartSeconds : Int := 0
  windowEndSeconds : Int := 0
  randomWindowSeconds : Int := 480
  userIDs : List Int

def JobRequest.refused (req : JobRequest) (users : List Int) : Option String :=
  if normalizeUserIDs req.userIDs = [] then some "至少需要一个用户"
  else if (users.filter fun userId => userId ∈ normalizeUserIDs req.userIDs).length ≠
      (normalizeUserIDs req.userIDs).length then some "用户列表中包含不存在的用户"
  else if req.windowStartSeconds < 0 ∨ req.windowStartSeconds ≥ 86400 then
    some "签到开始时间必须在 0 到 86399 秒之间"
  else if req.windowEndSeconds < 0 ∨ req.windowEndSeconds ≥ 86400 then
    some "签到结束时间必须在 0 到 86399 秒之间"
  else if req.windowEndSeconds < req.windowStartSeconds then some "签到结束时间不能早于开始时间"
  else if req.randomWindowSeconds < 0 then some "随机签到窗口不能小于 0"
  else none

/-- The date of the items of a request; `none` does not parse. -/
def JobRequest.date (req : JobRequest) (now : Int) : Option Int :=
  match req.targetDate with
  | .daily => some (checkinDate now)
  | .on date => some date
  | .malformed => none

def JobRequest.items (req : JobRequest) (jobId targetDate now : Int) (random : Int → Nat)
    (next : Int) : Except String (List Item) :=
  buildCheckinAutoJobItems jobId targetDate req.windowStartSeconds req.windowEndSeconds
    req.randomWindowSeconds (normalizeUserIDs req.userIDs) now random next

/-- What `Create` stores of a request: where a field is zero, the default of its
column. -/
def JobRequest.created (req : JobRequest) : JobRequest :=
  { req with
    enabled := some true
    randomWindowSeconds := if req.randomWindowSeconds = 0 then 480 else req.randomWindowSeconds }

def newJob (id targetDate now : Int) (req : JobRequest) : Job where
  id := id
  name := trimSpace req.name
  enabled := req.enabled.getD true
  repeatDaily := req.targetDate = .daily
  targetDate := targetDate
  windowStartSeconds := req.windowStartSeconds
  windowEndSeconds := req.windowEndSeconds
  randomWindowSeconds := req.randomWindowSeconds
  userIdsJSON := some (normalizeUserIDs req.userIDs)
  itemCount := (normalizeUserIDs req.userIDs).length
  createdAt := now
  updatedAt := now

def History.write (history : History) (jobId today : Int) : History :=
  { history with written := history.written ++ [(jobId, today)] }

def Store.insert (store : Store) (job : Job) (items : List Item) : Store :=
  { store with
    lastJob := job.id
    lastItem := store.lastItem + items.length
    jobs := store.jobs ++ [job]
    items := store.items ++ items }

/-- `model/checkin_auto_job.go::CreateCheckinAutoJob`. -/
def createCheckinAutoJob (req : JobRequest) (random : Int → Nat) (now : Int) (store : Store) :
    Except String Store :=
  match req.refused store.users with
  | some text => .error text
  | none =>
    match req.date now with
    | none => .error "签到日期格式错误"
    | some targetDate =>
      match req.created.items (store.lastJob + 1) targetDate now random (store.lastItem + 1) with
      | .error text => .error text
      | .ok items => .ok { store.insert (newJob (store.lastJob + 1) targetDate now req.created) items with
          history := store.history.write (store.lastJob + 1) (checkinDate now) }

def Store.rebuild (store : Store) (target : Int) (change : Job → Job) (items : List Item) : Store :=
  { store.updateJob target change with
    lastItem := store.lastItem + items.length
    items := (store.items.filter fun item => item.jobId ≠ target) ++ items }

def updateRow (targetDate now : Int) (enabled : Bool) (req : JobRequest) (job : Job) : Job :=
  { job with
    name := trimSpace req.name
    enabled := enabled
    repeatDaily := req.targetDate = .daily
    targetDate := targetDate
    windowStartSeconds := req.windowStartSeconds
    windowEndSeconds := req.windowEndSeconds
    randomWindowSeconds := req.randomWindowSeconds
    userIdsJSON := some (normalizeUserIDs req.userIDs)
    status := .scheduled
    itemCount := (normalizeUserIDs req.userIDs).length
    successCount := 0
    failedCount := 0
    skippedCount := 0
    cancelledCount := 0
    lastError := ""
    updatedAt := now }

/-- `model/checkin_auto_job.go::UpdateCheckinAutoJob`. -/
def updateCheckinAutoJob (jobId : Int) (req : JobRequest) (random : Int → Nat) (now : Int)
    (store : Store) : Except String Store :=
  if jobId ≤ 0 then .error "record not found"
  else match store.job jobId with
    | none => .error "record not found"
    | some job =>
      if job.status ≠ .scheduled then .error "仅支持修改待执行任务"
      else match req.refused store.users with
        | some text => .error text
        | none =>
          match req.date now with
          | none => .error "签到日期格式错误"
          | some targetDate =>
            match req.items jobId targetDate now random (store.lastItem + 1) with
            | .error text => .error text
            | .ok items => .ok { store.rebuild jobId
                (updateRow targetDate now (req.enabled.getD job.enabled) req) items with
                history := store.history.write jobId (checkinDate now) }

def cancelRow (now : Int) (job : Job) : Job :=
  { job with enabled := false, status := .cancelled, updatedAt := now }

def cancelItem (jobId now : Int) (item : Item) : Item :=
  if item.jobId = jobId ∧ (item.status = .pending ∨ item.status = .running) then
    { item with status := .cancelled, updatedAt := now }
  else item

/-- `model/checkin_auto_job.go::CancelCheckinAutoJob`. -/
def cancelCheckinAutoJob (jobId now : Int) (store : Store) : Except String Store :=
  if jobId ≤ 0 then .error "任务不存在"
  else match store.job jobId with
    | none => .error "record not found"
    | some job =>
      if job.status = .cancelled ∨ job.status = .completed then .error "当前任务状态不允许取消"
      else
        let store := store.updateJob jobId (cancelRow now)
        let store := { store with items := store.items.map (cancelItem jobId now) }
        .ok ((refreshSummary jobId now store).updateJob jobId (cancelRow now))

/-! ## The pass of the scheduler -/

def staleItem (expireBefore now : Int) (item : Item) : Item :=
  if item.status = .running ∧ item.updatedAt > 0 ∧ item.updatedAt < expireBefore then
    { item with status := .pending, errorMessage := "", updatedAt := now }
  else item

/-- `model/checkin_auto_job.go::ResetStaleRunningCheckinAutoJobItems`. -/
def resetStale (expireBefore now : Int) (store : Store) : Store :=
  { store with items := store.items.map (staleItem expireBefore now) }

/-- The query of `refreshRepeatDailyCheckinAutoJobs`. -/
def isSelected (today : Int) (job : Job) : Bool :=
  job.enabled && job.repeatDaily && job.targetDate ≠ today &&
    (job.status = .scheduled || job.status = .running || job.status = .partial_)

def armRow (today now : Int) (job : Job) : Job :=
  { job with
    targetDate := today
    status := .scheduled
    successCount := 0
    failedCount := 0
    skippedCount := 0
    cancelledCount := 0
    lastError := ""
    updatedAt := now }

/-- The transaction of `refreshRepeatDailyCheckinAutoJobs` for one job that it
has read; an error rolls it back. -/
def armJob (today now : Int) (random : Int → Nat) (job : Job) (store : Store) : Store :=
  match store.job job.id with
  | none => store
  | some row =>
    if !row.repeatDaily ∨ row.targetDate = today then store
    else match job.userIdsJSON.map normalizeUserIDs with
    | none => store
    | some userIDs =>
      if userIDs = [] then store
      else match buildCheckinAutoJobItems job.id today job.windowStartSeconds job.windowEndSeconds
          job.randomWindowSeconds userIDs now random (store.lastItem + 1) with
        | .error _ => store
        | .ok items => store.rebuild job.id (armRow today now) items

/-- `model/checkin_auto_job.go::refreshRepeatDailyCheckinAutoJobs`. -/
def refreshRepeatDaily (now : Int) (random : Int → Nat) (store : Store) : Store :=
  (store.jobs.filter (isSelected (checkinDate now))).foldl
    (fun store job => armJob (checkinDate now) now random job store) store

/-- `Order("scheduled_at asc, id asc")`. -/
def scheduledBefore (one other : Item) : Prop :=
  one.scheduledAt < other.scheduledAt ∨ (one.scheduledAt = other.scheduledAt ∧ one.id ≤ other.id)

instance : DecidableRel scheduledBefore := fun _ _ => inferInstanceAs (Decidable (_ ∨ _))

/-- The query of `ListDueCheckinAutoJobItems`. -/
def dueItems (now : Int) (limit : Nat) (store : Store) : List Item :=
  ((store.items.filter fun item =>
    ((store.job item.jobId).any fun job => job.enabled &&
      (job.status = .scheduled || job.status = .running || job.status = .partial_)) &&
    item.status = .pending && item.scheduledAt ≤ now).insertionSort scheduledBefore).take limit

def Store.idle (store : Store) : Bool :=
  store.queue = [] && store.claimed = none && store.outcome = none

/-- The first part of `service/checkin_auto_task.go::runCheckinAutoJobOnce`; a
pass that is still going on lets no other start. -/
def beginPass (now : Int) (random : Int → Nat) (store : Store) : Store :=
  if !store.idle then store
  else
    let armed := refreshRepeatDaily now random (resetStale (now - 600) now store)
    { armed with
      queue := dueItems now 100 armed
      passNow := now
      history := { store.history with passed := store.history.passed ++ [checkinDate now] } }

def Store.updateItem (store : Store) (itemId : Int) (change : Item → Item) : Store :=
  { store with items := update Item.id store.items itemId change }

def finishRow (status : ItemStatus) (quotaAwarded : Int) (errorMessage : String) (executedAt : Int)
    (item : Item) : Item :=
  { item with
    status := status
    quotaAwarded := quotaAwarded
    errorMessage := trimSpace errorMessage
    executedAt := executedAt
    updatedAt := executedAt }

/-- `model/checkin_auto_job.go::FinishCheckinAutoJobItem`. -/
def finishItem (itemId : Int) (status : ItemStatus) (quotaAwarded : Int) (errorMessage : String)
    (executedAt : Int) (store : Store) : Store :=
  match lookup Item.id store.items itemId with
  | none => store
  | some item => refreshSummary item.jobId executedAt
      (store.updateItem itemId (finishRow status quotaAwarded errorMessage executedAt))

/-- The columns of `ClaimCheckinAutoJobItem`. -/
def claimRow (now : Int) (item : Item) : Item := { item with status := .running, updatedAt := now }

/-- What a check-in meets: what the checks of `UserCheckinWithOptions` before the
one of the date say, the quota, and whether the row can be stored. -/
structure Attempt where
  refused : Option String := none
  quotaAwarded : Int := 0
  stored : Bool := true

/-- `model/checkin.go::UserCheckinWithOptions` for a date. -/
def userCheckin (attempt : Attempt) (userId date : Int) (checkins : List Checkin) : Except String Checkin :=
  match attempt.refused with
  | some text => .error text
  | none =>
    if checkins.any fun row => row.userId = userId && row.checkinDate = date then .error "今日已签到"
    else if !attempt.stored then .error "签到失败，请稍后重试"
    else .ok ⟨userId, date, attempt.quotaAwarded⟩

/-- `service/checkin_auto_task.go::executeCheckinAutoJobItem` up to the write of
its outcome. -/
def executeItem (attempt : Attempt) (item : Item) (store : Store) : Store :=
  match store.job item.jobId with
  | none => { store with outcome := some ⟨item.id, .failed, 0, "record not found"⟩ }
  | some job =>
    if !job.enabled ∨ job.status = .cancelled then
      { store with outcome := some ⟨item.id, .cancelled, 0, "任务已取消"⟩ }
    else match userCheckin attempt item.userId (checkinDate item.scheduledAt) store.checkins with
      | .error text =>
        let status := if text = "今日已签到" then .skipped else .failed
        { store with outcome := some ⟨item.id, status, 0, text⟩ }
      | .ok checkin => { store with
          checkins := store.checkins ++ [checkin]
          made := store.made ++ [(item.jobId, checkin)]
          outcome := some ⟨item.id, .success, checkin.quotaAwarded, ""⟩ }

def claimNext (store : Store) : Store :=
  if store.claimed ≠ none ∨ store.outcome ≠ none then store
  else match store.queue with
    | [] => store
    | item :: rest =>
      match lookup Item.id store.items item.id with
      | none => { store with queue := rest }
      | some row =>
        if row.status ≠ .pending then { store with queue := rest }
        else { store.updateItem item.id (claimRow store.passNow) with
          queue := rest
          claimed := some item }

def executeClaimed (attempt : Attempt) (store : Store) : Store :=
  match store.claimed with
  | none => store
  | some item => executeItem attempt item { store with claimed := none }

def writeOutcome (store : Store) : Store :=
  match store.outcome with
  | none => store
  | some outcome => finishItem outcome.itemId outcome.status outcome.quotaAwarded
      outcome.errorMessage store.passNow { store with outcome := none }

/-! ## Runs -/

/-- What can happen: jobs are created, updated and cancelled; the scheduler begins
a pass, and claims its items, executes them and writes their outcome one by one;
its process ends; a user checks in. -/
inductive Event where
  | create (req : JobRequest) (random : Int → Nat) (now : Int)
  | update_ (jobId : Int) (req : JobRequest) (random : Int → Nat) (now : Int)
  | cancel (jobId now : Int)
  | begin_ (now : Int) (random : Int → Nat)
  | claim
  | execute (attempt : Attempt)
  | finish
  | crash
  | checkin (attempt : Attempt) (userId now : Int)

def step (store : Store) : Event → Store
  | .create req random now => (createCheckinAutoJob req random now store).toOption.getD store
  | .update_ jobId req random now =>
    (updateCheckinAutoJob jobId req random now store).toOption.getD store
  | .cancel jobId now => (cancelCheckinAutoJob jobId now store).toOption.getD store
  | .begin_ now random => beginPass now random store
  | .claim => claimNext store
  | .execute attempt => executeClaimed attempt store
  | .finish => writeOutcome store
  | .crash => { store with queue := [], claimed := none, outcome := none }
  | .checkin attempt userId now =>
    match userCheckin attempt userId (checkinDate now) store.checkins with
    | .error _ => store
    | .ok checkin => { store with checkins := store.checkins ++ [checkin] }

/-! ## The items of a job -/

def isOpen (status : ItemStatus) : Bool :=
  status = .pending || status = .running || status = .failed

def Unfinished (jobId : Int) (store : Store) : Prop :=
  ∃ item ∈ store.itemsOf jobId, isOpen item.status = true

theorem count_status_zero :
    countStatus items status = 0 ↔ ∀ item ∈ items, item.status ≠ status := by
  rw [countStatus, List.length_eq_zero_iff, List.filter_eq_nil_iff]
  simp only [decide_eq_true_eq]

theorem summary_completed_iff (live : summaryStatus items ≠ .cancelled) :
    summaryStatus items = .completed ↔ ¬ ∃ item ∈ items, isOpen item.status = true := by
  have closed : (countStatus items .pending = 0 ∧ countStatus items .running = 0 ∧
      countStatus items .failed = 0) ↔ ¬ ∃ item ∈ items, isOpen item.status = true := by
    simp only [count_status_zero, isOpen, not_exists, not_and, Bool.or_eq_true, decide_eq_true_eq, not_or]
    exact ⟨fun all item member => ⟨⟨all.1 item member, all.2.1 item member⟩, all.2.2 item member⟩,
      fun all => ⟨fun item member => (all item member).1.1, fun item member => (all item member).1.2,
        fun item member => (all item member).2⟩⟩
  rw [← closed]
  unfold summaryStatus at live ⊢
  split
  · rename_i done
    rw [if_pos done] at live
    split at live
    · exact absurd rfl live
    · rename_i some_
      rw [if_neg some_]
      exact iff_of_true rfl done
  · rename_i open_
    refine iff_of_false (fun completed => ?_) open_
    split at completed
    · cases completed
    · split at completed <;> cases completed

theorem build_items_spec (jobId startUnix endUnix nowUnix : Int) (random : Int → Nat) (next : Int)
    (userIDs : List Int) :
    let items := buildItems jobId startUnix endUnix nowUnix random next userIDs
    (∀ item ∈ items, item.jobId = jobId ∧ item.status = .pending ∧ next ≤ item.id ∧
      item.id < next + items.length ∧ startUnix ≤ item.scheduledAt ∧
      (startUnix ≤ endUnix → item.scheduledAt ≤ endUnix)) ∧
    items.map Item.userId = userIDs := by
  induction userIDs generalizing next with
  | nil => exact ⟨fun _ member => absurd member List.not_mem_nil, rfl⟩
  | cons userId rest ih =>
    obtain ⟨later, users⟩ := ih (next + 1)
    refine ⟨fun item member => ?_, by simp only [buildItems, List.map_cons, users]⟩
    simp only [buildItems, List.mem_cons, List.length_cons] at member ⊢
    rcases member with rfl | inside
    · refine ⟨rfl, rfl, le_refl _, by push_cast; omega, ?_, fun ordered => ?_⟩
      · dsimp only
        split
        · have := Int.emod_nonneg (random userId : Int) (b := endUnix - startUnix + 1) (by omega)
          omega
        · exact le_refl _
      · dsimp only
        split
        · have := Int.emod_lt_of_pos (random userId : Int) (b := endUnix - startUnix + 1) (by omega)
          omega
        · exact ordered
    · obtain ⟨mine, pending, above, below, early, late⟩ := later item inside
      exact ⟨mine, pending, by omega, by omega, early, late⟩

structure Valid (job : Job) : Prop where
  start : 0 ≤ job.windowStartSeconds
  ordered : job.windowStartSeconds ≤ job.windowEndSeconds
  end_ : job.windowEndSeconds < 86400
  users : ∃ userIDs, job.userIdsJSON = some userIDs ∧ normalizeUserIDs userIDs ≠ []

theorem normalize_idem (userIDs : List Int) :
    ∀ userId ∈ normalizeUserIDs userIDs, userId ∈ normalizeUserIDs (normalizeUserIDs userIDs) := by
  intro userId member
  simp only [normalizeUserIDs, List.mem_eraseDups, List.mem_filter] at member ⊢
  exact ⟨member, member.2⟩

theorem build_checkin_items_spec {jobId targetDate windowStart windowEnd randomWindow : Int}
    (start : 0 ≤ windowStart) (ordered : windowStart ≤ windowEnd) (end_ : windowEnd < 86400)
    (userIDs : List Int) (nowUnix : Int) (random : Int → Nat) (next : Int) :
    ∃ items, buildCheckinAutoJobItems jobId targetDate windowStart windowEnd randomWindow userIDs
        nowUnix random next = .ok items ∧ items.map Item.userId = userIDs ∧
      ∀ item ∈ items, checkinDate item.scheduledAt = targetDate := by
  let startAt := targetDate * 86400 - 28800 + windowStart
  let endAt := targetDate * 86400 - 28800 + windowEnd
  let scheduleEndAt := if randomWindow > 0 then min endAt (startAt + randomWindow) else endAt
  have opens : checkinDateTime targetDate windowStart = .ok startAt := if_neg (by omega)
  have closes : checkinDateTime targetDate windowEnd = .ok endAt := if_neg (by omega)
  have forward : ¬ endAt < startAt := by omega
  have built : buildCheckinAutoJobItems jobId targetDate windowStart windowEnd randomWindow userIDs
      nowUnix random next = .ok (buildItems jobId startAt scheduleEndAt nowUnix random next userIDs) := by
    simp only [buildCheckinAutoJobItems, opens, closes, if_neg forward]
    rfl
  have within : startAt ≤ scheduleEndAt ∧ scheduleEndAt ≤ endAt := by
    simp only [scheduleEndAt]
    split <;> omega
  obtain ⟨all, users⟩ := build_items_spec jobId startAt scheduleEndAt nowUnix random next userIDs
  refine ⟨_, built, users, fun item member => ?_⟩
  obtain ⟨-, -, -, -, early, late⟩ := all item member
  unfold checkinDate
  omega

theorem built_items {jobId targetDate windowStart windowEnd randomWindow : Int}
    {random : Int → Nat}
    (built : buildCheckinAutoJobItems jobId targetDate windowStart windowEnd randomWindow userIDs
      nowUnix random next = .ok items) :
    (∀ item ∈ items, item.jobId = jobId ∧ item.status = .pending ∧ next ≤ item.id ∧
      item.id < next + items.length) ∧ items.length = userIDs.length := by
  unfold buildCheckinAutoJobItems at built
  split at built
  · cases built
  · split at built
    · cases built
    · split at built
      · cases built
      · cases built
        obtain ⟨all, users⟩ := build_items_spec jobId _ _ nowUnix random next userIDs
        refine ⟨fun item member => ?_, by rw [← users, List.length_map, users]⟩
        obtain ⟨mine, pending, above, below, -⟩ := all item member
        exact ⟨mine, pending, above, below⟩

/-! ## What every step keeps -/

structure Shaped (store : Store) : Prop where
  jobs : ∀ job ∈ store.jobs, job.id ≤ store.lastJob
  jobIds : (store.jobs.map Job.id).Nodup
  items : ∀ item ∈ store.items, item.jobId ≤ store.lastJob ∧ item.id ≤ store.lastItem
  sameJob : ∀ one ∈ store.items, ∀ other ∈ store.items, one.id = other.id → one.jobId = other.jobId

def Live (job : Job) : Prop := job.enabled = true ∧ job.status ≠ .cancelled

instance (job : Job) : Decidable (Live job) := inferInstanceAs (Decidable (_ ∧ _))

def History.has (history : History) (jobId date : Int) : Prop :=
  date ∈ history.passed ∨ (jobId, date) ∈ history.written

structure RowKept (history : History) (job : Job) : Prop where
  valid : Valid job
  dated : job.repeatDaily = true → history.has job.id job.targetDate

structure Framed (jobId : Int) (history : History) (store : Store) : Prop where
  shaped : Shaped store
  row : ∀ job, store.job jobId = some job → RowKept history job

structure Sound (jobId : Int) (history : History) (store : Store) : Prop extends
    Framed jobId history store where
  summary : ∀ job, store.job jobId = some job → Live job →
    (job.status = .completed ↔ ¬ Unfinished jobId store)

section Steps
variable {jobId target now : Int} {history : History} {store next : Store}

theorem job_update (store : Store) (target : Int) (change : Job → Job)
    (same : ∀ job, (change job).id = job.id) (jobId : Int) :
    (store.updateJob target change).job jobId =
      if jobId = target then (store.job jobId).map change else store.job jobId :=
  lookup_update store.jobs target jobId change same

theorem items_of_map (store : Store) (change : Item → Item)
    (same : ∀ item, (change item).jobId = item.jobId) (jobId : Int) :
    ({ store with items := store.items.map change } : Store).itemsOf jobId =
      (store.itemsOf jobId).map change := by
  simp only [Store.itemsOf, List.filter_map, Function.comp_def, same]

theorem Shaped.map_items (shaped : Shaped store) {change : Item → Item}
    (sameId : ∀ item, (change item).id = item.id) (sameJob : ∀ item, (change item).jobId = item.jobId) :
    Shaped { store with items := store.items.map change } where
  jobs := shaped.jobs
  jobIds := shaped.jobIds
  items := by
    intro item member
    obtain ⟨old, inside, rfl⟩ := List.mem_map.mp member
    rw [sameId, sameJob]
    exact shaped.items old inside
  sameJob := by
    intro one member other memberToo same
    obtain ⟨first, inside, rfl⟩ := List.mem_map.mp member
    obtain ⟨second, insideToo, rfl⟩ := List.mem_map.mp memberToo
    rw [sameId, sameId] at same
    rw [sameJob, sameJob]
    exact shaped.sameJob first inside second insideToo same

theorem Shaped.update_job (shaped : Shaped store) {change : Job → Job}
    (same : ∀ job, (change job).id = job.id) (target : Int) :
    Shaped (store.updateJob target change) where
  jobs := by
    intro job member
    obtain ⟨old, inside, rfl⟩ := List.mem_map.mp member
    split
    · rw [same]
      exact shaped.jobs old inside
    · exact shaped.jobs old inside
  jobIds := by
    rw [Store.updateJob, map_key_update store.jobs target same]
    exact shaped.jobIds
  items := shaped.items
  sameJob := shaped.sameJob

theorem Framed.update_job (framed : Framed jobId history store) {change : Job → Job}
    (same : ∀ job, (change job).id = job.id)
    (kept : ∀ job, job.id = target → RowKept history job → RowKept history (change job)) :
    Framed jobId history (store.updateJob target change) where
  shaped := framed.shaped.update_job same target
  row := by
    intro job found
    rw [job_update store target change same] at found
    split at found
    · rename_i mine
      obtain ⟨old, before, rfl⟩ := Option.map_eq_some_iff.mp found
      exact kept old ((lookup_key before).trans mine) (framed.row old before)
    · exact framed.row job found

theorem Sound.frame (sound : Sound jobId history store) (shaped : Shaped next)
    (job : next.job jobId = store.job jobId) (items : next.itemsOf jobId = store.itemsOf jobId) :
    Sound jobId history next where
  shaped := shaped
  row := fun row found => sound.row row (job ▸ found)
  summary := by
    intro row found live
    rw [Unfinished, items]
    exact sound.summary row (job ▸ found) live

theorem Sound.of_tables (sound : Sound jobId history store) (jobs : next.jobs = store.jobs)
    (items : next.items = store.items) (lastJob : next.lastJob = store.lastJob)
    (lastItem : next.lastItem = store.lastItem) : Sound jobId history next := by
  refine sound.frame ⟨?_, ?_, ?_, ?_⟩ ?_ ?_
  · rw [jobs, lastJob]
    exact sound.shaped.jobs
  · rw [jobs]
    exact sound.shaped.jobIds
  · rw [items, lastJob, lastItem]
    exact sound.shaped.items
  · rw [items]
    exact sound.shaped.sameJob
  · rw [Store.job, jobs, Store.job]
  · rw [Store.itemsOf, items, Store.itemsOf]

theorem Framed.refresh_self (framed : Framed target history store) (now : Int) :
    Sound target history (refreshSummary target now store) := by
  have same : Framed target history (refreshSummary target now store) :=
    @Framed.update_job _ _ _ _ framed (summaryRow (store.itemsOf target) now) (fun _ => rfl)
      fun _ _ kept => ⟨⟨kept.valid.start, kept.valid.ordered, kept.valid.end_, kept.valid.users⟩,
        kept.dated⟩
  refine ⟨same, fun job found live => ?_⟩
  rw [refreshSummary, job_update store target (summaryRow _ now) fun _ => rfl, if_pos rfl] at found
  obtain ⟨old, -, rfl⟩ := Option.map_eq_some_iff.mp found
  exact summary_completed_iff live.2

theorem Sound.refresh_other (sound : Sound jobId history store) (other : jobId ≠ target) (now : Int) :
    Sound jobId history (refreshSummary target now store) :=
  sound.frame (@Shaped.update_job _ sound.shaped (summaryRow (store.itemsOf target) now)
      (fun _ => rfl) target)
    ((job_update store target (summaryRow _ now) (fun _ => rfl) jobId).trans (if_neg other)) rfl

theorem update_item_other (shaped : Shaped store)
    (found : lookup Item.id store.items item.id = some item) (other : item.jobId ≠ jobId)
    {change : Item → Item} (sameJob : ∀ item, (change item).jobId = item.jobId) :
    (store.updateItem item.id change).itemsOf jobId = store.itemsOf jobId := by
  refine (items_of_map store _ (fun row => ?_) jobId).trans ?_
  · split
    · exact sameJob row
    · rfl
  · refine (List.map_congr_left fun row member => ?_).trans (List.map_id _)
    obtain ⟨stored, mine⟩ := List.mem_filter.mp member
    have apart : row.id ≠ item.id := fun same => other
      ((shaped.sameJob row stored item (lookup_mem found) same).symm.trans (of_decide_eq_true mine))
    rw [if_neg apart]
    rfl

theorem Shaped.update_item (shaped : Shaped store) (itemId : Int) {change : Item → Item}
    (sameId : ∀ item, (change item).id = item.id) (sameJob : ∀ item, (change item).jobId = item.jobId) :
    Shaped (store.updateItem itemId change) := by
  refine shaped.map_items (fun item => ?_) fun item => ?_
  · split
    · exact sameId item
    · rfl
  · split
    · exact sameJob item
    · rfl

theorem finish_sound (sound : Sound jobId history store) (itemId : Int) (status : ItemStatus)
    (quota : Int) (text : String) (now : Int) :
    Sound jobId history (finishItem itemId status quota text now store) := by
  unfold finishItem
  split
  · exact sound
  · rename_i item found
    obtain rfl : item.id = itemId := lookup_key found
    let change := finishRow status quota text now
    have shaped : Shaped (store.updateItem item.id change) :=
      sound.shaped.update_item item.id (fun _ => rfl) fun _ => rfl
    by_cases mine : jobId = item.jobId
    · subst mine
      have framed : Framed item.jobId history (store.updateItem item.id change) := ⟨shaped, sound.row⟩
      exact framed.refresh_self now
    · have kept : (store.updateItem item.id change).itemsOf jobId = store.itemsOf jobId :=
        update_item_other sound.shaped found (Ne.symm mine) fun _ => rfl
      have framed : Sound jobId history (store.updateItem item.id change) := sound.frame shaped rfl kept
      exact framed.refresh_other mine now

theorem claim_sound (sound : Sound jobId history store)
    (found : lookup Item.id store.items item.id = some item) (pending : item.status = .pending)
    (now : Int) : Sound jobId history (store.updateItem item.id (claimRow now)) := by
  have shaped : Shaped (store.updateItem item.id (claimRow now)) :=
    sound.shaped.update_item item.id (fun _ => rfl) fun _ => rfl
  by_cases mine : item.jobId = jobId
  · refine ⟨⟨shaped, sound.row⟩, fun job known live => ?_⟩
    have before : Unfinished jobId store :=
      ⟨item, List.mem_filter.mpr ⟨lookup_mem found, decide_eq_true mine⟩, by simp [isOpen, pending]⟩
    have stored : claimRow now item ∈ (store.updateItem item.id (claimRow now)).items :=
      List.mem_map.mpr ⟨item, lookup_mem found, if_pos rfl⟩
    have after : Unfinished jobId (store.updateItem item.id (claimRow now)) :=
      ⟨claimRow now item, List.mem_filter.mpr ⟨stored, decide_eq_true mine⟩, by simp [isOpen, claimRow]⟩
    have unsettled := (sound.summary job known live).not.mpr (not_not.mpr before)
    exact iff_of_false unsettled (not_not.mpr after)
  · exact sound.frame shaped rfl (update_item_other sound.shaped found mine fun _ => rfl)

theorem stale_item_same (expireBefore now : Int) (item : Item) :
    (staleItem expireBefore now item).id = item.id ∧
      (staleItem expireBefore now item).jobId = item.jobId ∧
      isOpen (staleItem expireBefore now item).status = isOpen item.status := by
  unfold staleItem
  split
  · rename_i stale
    simp [isOpen, stale.1]
  · exact ⟨rfl, rfl, rfl⟩

theorem stale_sound (sound : Sound jobId history store) (expireBefore now : Int) :
    Sound jobId history (resetStale expireBefore now store) := by
  have same := stale_item_same expireBefore now
  refine ⟨⟨sound.shaped.map_items (fun item => (same item).1) fun item => (same item).2.1, sound.row⟩,
    fun job known live => ?_⟩
  rw [sound.summary job known live, Unfinished, Unfinished, resetStale,
    items_of_map store _ fun item => (same item).2.1]
  refine not_congr ⟨fun ⟨item, member, open_⟩ => ?_, fun ⟨item, member, open_⟩ => ?_⟩
  · exact ⟨_, List.mem_map_of_mem member, (same item).2.2.trans open_⟩
  · obtain ⟨old, inside, rfl⟩ := List.mem_map.mp member
    exact ⟨old, inside, (same old).2.2.symm.trans open_⟩

theorem cancel_item_same (target now : Int) (item : Item) :
    (cancelItem target now item).id = item.id ∧ (cancelItem target now item).jobId = item.jobId ∧
      (item.jobId ≠ target → cancelItem target now item = item) := by
  unfold cancelItem
  split
  · rename_i open_
    exact ⟨rfl, rfl, fun other => absurd open_.1 other⟩
  · exact ⟨rfl, rfl, fun _ => rfl⟩

theorem cancel_row_kept (now : Int) (job : Job) (_ : job.id = target) (kept : RowKept history job) :
    RowKept history (cancelRow now job) :=
  ⟨⟨kept.valid.start, kept.valid.ordered, kept.valid.end_, kept.valid.users⟩, kept.dated⟩

theorem cancel_row_id (now : Int) (job : Job) : (cancelRow now job).id = job.id := rfl

theorem cancel_sound (sound : Sound jobId history store)
    (cancelled : cancelCheckinAutoJob target now store = .ok next) : Sound jobId history next := by
  unfold cancelCheckinAutoJob at cancelled
  split at cancelled
  · cases cancelled
  · split at cancelled
    · cases cancelled
    · split at cancelled
      · cases cancelled
      · simp only [Except.ok.injEq] at cancelled
        subst cancelled
        have same := cancel_item_same target now
        let disabled := store.updateJob target (cancelRow now)
        let emptied : Store := { disabled with items := disabled.items.map (cancelItem target now) }
        have shaped : Shaped emptied :=
          (sound.shaped.update_job (cancel_row_id now) target).map_items (fun item => (same item).1)
            fun item => (same item).2.1
        by_cases mine : jobId = target
        · subst mine
          have framed : Framed jobId history emptied := ⟨shaped,
            (sound.toFramed.update_job (cancel_row_id now) (cancel_row_kept now)).row⟩
          refine ⟨(framed.refresh_self now).toFramed.update_job (cancel_row_id now)
            (cancel_row_kept now), fun job found live => ?_⟩
          rw [job_update _ jobId (cancelRow now) (cancel_row_id now), if_pos rfl] at found
          obtain ⟨old, -, rfl⟩ := Option.map_eq_some_iff.mp found
          exact absurd rfl live.2
        · have job : emptied.job jobId = store.job jobId :=
            (job_update store target (cancelRow now) (cancel_row_id now) jobId).trans (if_neg mine)
          have items : emptied.itemsOf jobId = store.itemsOf jobId := by
            refine (items_of_map disabled _ (fun item => (same item).2.1) jobId).trans ?_
            refine (List.map_congr_left fun item member => ?_).trans (List.map_id _)
            have owner := of_decide_eq_true (List.mem_filter.mp member).2
            exact (same item).2.2 fun here => mine (owner.symm.trans here)
          have summed := (sound.frame shaped job items).refresh_other mine now
          exact summed.frame (summed.shaped.update_job (cancel_row_id now) target)
            ((job_update _ target (cancelRow now) (cancel_row_id now) jobId).trans (if_neg mine)) rfl

end Steps

/-! ## Items that are built -/

section Rebuilding
variable {jobId target : Int} {history : History} {store : Store} {change : Job → Job}
variable {items : List Item}

theorem rebuild_items_self (mine : ∀ item ∈ items, item.jobId = target) :
    (store.rebuild target change items).itemsOf target = items := by
  rw [Store.rebuild, Store.itemsOf, List.filter_append, List.filter_eq_self.mpr fun item member =>
    decide_eq_true (mine item member)]
  refine (congrArg (· ++ items) ?_).trans (List.nil_append items)
  simp

theorem added_items_other (mine : ∀ item ∈ items, item.jobId = target) (other : jobId ≠ target)
    (old : List Item) :
    ((old ++ items).filter fun item => item.jobId = jobId) = old.filter fun item => item.jobId = jobId := by
  have none_ : items.filter (fun item => item.jobId = jobId) = [] :=
    List.filter_eq_nil_iff.mpr fun item member => by
      simpa [mine item member] using Ne.symm other
  rw [List.filter_append, none_, List.append_nil]

theorem rebuild_items_other (mine : ∀ item ∈ items, item.jobId = target) (other : jobId ≠ target) :
    (store.rebuild target change items).itemsOf jobId = store.itemsOf jobId := by
  rw [Store.rebuild, Store.itemsOf, added_items_other mine other, List.filter_filter, Store.itemsOf]
  refine List.filter_congr fun item _ => ?_
  by_cases here : item.jobId = jobId
  · simp [here, other]
  · simp [here]

theorem same_job_append
    (sameJob : ∀ one ∈ old, ∀ other ∈ old, one.id = other.id → one.jobId = other.jobId)
    (before : ∀ item ∈ old, item.id ≤ last) (after : ∀ item ∈ items, item.jobId = target ∧ last < item.id) :
    ∀ one ∈ old ++ items, ∀ other ∈ old ++ items, one.id = other.id → one.jobId = other.jobId := by
  intro one first other second same
  rcases List.mem_append.mp first with stored | new <;>
    rcases List.mem_append.mp second with storedToo | newToo
  · exact sameJob one stored other storedToo same
  · have low := before one stored
    have high := (after other newToo).2
    omega
  · have low := before other storedToo
    have high := (after one new).2
    omega
  · exact (after one new).1.trans (after other newToo).1.symm

theorem Shaped.rebuild (shaped : Shaped store) (same : ∀ job, (change job).id = job.id) {row : Job}
    (found : store.job target = some row)
    (fresh : ∀ item ∈ items, item.jobId = target ∧ item.status = .pending ∧ store.lastItem + 1 ≤ item.id ∧
      item.id < store.lastItem + 1 + items.length) : Shaped (store.rebuild target change items) := by
  have jobs := shaped.update_job same target
  have known : target ≤ store.lastJob := by
    have bound := shaped.jobs row (lookup_mem found)
    rwa [show row.id = target from lookup_key found] at bound
  have kept : ∀ item ∈ store.items.filter fun item => item.jobId ≠ target, item ∈ store.items :=
    fun item member => (List.mem_filter.mp member).1
  refine ⟨jobs.jobs, jobs.jobIds, fun item member => ?_, ?_⟩
  · rcases List.mem_append.mp member with old | new
    · obtain ⟨job, id⟩ := shaped.items item (kept item old)
      exact ⟨job, by simp only [Store.rebuild]; omega⟩
    · obtain ⟨mine, -, -, below⟩ := fresh item new
      exact ⟨mine ▸ known, by simp only [Store.rebuild]; omega⟩
  · refine same_job_append (fun one first other second => ?_)
      (fun item member => (shaped.items item (kept item member)).2)
      fun item member => ⟨(fresh item member).1, by have := (fresh item member).2.2.1; omega⟩
    exact shaped.sameJob one (kept one first) other (kept other second)

theorem rebuild_sound (sound : Sound jobId history store) (same : ∀ job, (change job).id = job.id)
    (kept : ∀ job, job.id = target → RowKept history job → RowKept history (change job))
    (scheduled : ∀ job, (change job).status = .scheduled)
    (found : store.job target = some row)
    (fresh : ∀ item ∈ items, item.jobId = target ∧ item.status = .pending ∧ store.lastItem + 1 ≤ item.id ∧
      item.id < store.lastItem + 1 + items.length) (some_ : items ≠ []) :
    Sound jobId history (store.rebuild target change items) := by
  have shaped := sound.shaped.rebuild same found fresh
  have mine : ∀ item ∈ items, item.jobId = target := fun item member => (fresh item member).1
  by_cases here : jobId = target
  · subst here
    refine ⟨⟨shaped, (sound.toFramed.update_job same kept).row⟩, fun job known _ => ?_⟩
    have written := (job_update store jobId change same jobId).symm.trans known
    rw [if_pos rfl, found] at written
    cases written
    refine iff_of_false (fun completed => ?_) (not_not.mpr ?_)
    · rw [scheduled] at completed
      cases completed
    · rw [Unfinished, rebuild_items_self mine]
      obtain ⟨item, member⟩ := List.exists_mem_of_ne_nil items some_
      exact ⟨item, member, by rw [(fresh item member).2.1]; rfl⟩
  · exact sound.frame shaped ((job_update store target change same jobId).trans (if_neg here))
      (rebuild_items_other mine here)

theorem Shaped.insert (shaped : Shaped store) (new : job.id = store.lastJob + 1)
    (fresh : ∀ item ∈ items, item.jobId = job.id ∧ item.status = .pending ∧ store.lastItem + 1 ≤ item.id ∧
      item.id < store.lastItem + 1 + items.length) : Shaped (store.insert job items) := by
  refine ⟨fun row member => ?_, ?_, fun item member => ?_, ?_⟩
  · simp only [Store.insert]
    rcases List.mem_append.mp member with old | last
    · have := shaped.jobs row old
      omega
    · rw [List.mem_singleton.mp last]
  · simp only [Store.insert, List.map_append, List.map_cons, List.map_nil]
    refine List.nodup_append.mpr ⟨shaped.jobIds, List.nodup_singleton _, ?_⟩
    rintro id before last after rfl
    obtain ⟨row, member, same⟩ := List.mem_map.mp before
    have := shaped.jobs row member
    have := List.mem_singleton.mp after
    omega
  · simp only [Store.insert]
    rcases List.mem_append.mp member with old | last
    · have := shaped.items item old
      omega
    · obtain ⟨owner, -, -, below⟩ := fresh item last
      omega
  · exact same_job_append shaped.sameJob (fun item member => (shaped.items item member).2)
      fun item member => ⟨(fresh item member).1, by have := (fresh item member).2.2.1; omega⟩

theorem insert_sound (sound : Sound jobId history store) (new : job.id = store.lastJob + 1)
    (kept : RowKept history job) (scheduled : job.status = .scheduled)
    (fresh : ∀ item ∈ items, item.jobId = job.id ∧ item.status = .pending ∧ store.lastItem + 1 ≤ item.id ∧
      item.id < store.lastItem + 1 + items.length) (some_ : items ≠ []) :
    Sound jobId history (store.insert job items) := by
  have shaped := sound.shaped.insert new fresh
  have mine : ∀ item ∈ items, item.jobId = job.id := fun item member => (fresh item member).1
  have looked : (store.insert job items).job jobId =
      (store.job jobId).or (if job.id = jobId then some job else none) :=
    lookup_append_one store.jobs job jobId
  by_cases here : job.id = jobId
  · have absent : store.job jobId = none := List.find?_eq_none.mpr fun row member => by
      have := sound.shaped.jobs row member
      simp only [decide_eq_true_eq]
      omega
    rw [absent, Option.none_or, if_pos here] at looked
    refine ⟨⟨shaped, fun row found => ?_⟩, fun row found _ => ?_⟩
    · obtain rfl := Option.some.inj (looked.symm.trans found)
      exact kept
    · obtain rfl := Option.some.inj (looked.symm.trans found)
      refine iff_of_false (fun completed => ?_) (not_not.mpr ?_)
      · rw [scheduled] at completed
        cases completed
      · obtain ⟨item, member⟩ := List.exists_mem_of_ne_nil items some_
        refine ⟨item, List.mem_filter.mpr ⟨List.mem_append_right _ member, ?_⟩, ?_⟩
        · exact decide_eq_true ((mine item member).trans here)
        · rw [(fresh item member).2.1]
          rfl
  · rw [if_neg here, Option.or_none] at looked
    exact sound.frame shaped looked (added_items_other mine (Ne.symm here) store.items)

end Rebuilding

/-! ## Arming -/

section Arming
variable {jobId today now : Int} {history : History} {store : Store} {random : Int → Nat}

theorem arm_cases (today now : Int) (random : Int → Nat) (job : Job) (store : Store) :
    armJob today now random job store = store ∨ ∃ row userIDs items, store.job job.id = some row ∧
      row.repeatDaily = true ∧ row.targetDate ≠ today ∧ job.userIdsJSON.map normalizeUserIDs = some userIDs ∧
      userIDs ≠ [] ∧ buildCheckinAutoJobItems job.id today job.windowStartSeconds job.windowEndSeconds
        job.randomWindowSeconds userIDs now random (store.lastItem + 1) = .ok items ∧
      armJob today now random job store = store.rebuild job.id (armRow today now) items := by
  unfold armJob
  cases found : store.job job.id with
  | none => exact .inl rfl
  | some row =>
    dsimp only
    by_cases stays : !row.repeatDaily ∨ row.targetDate = today
    · exact .inl (if_pos stays)
    · rw [if_neg stays]
      rw [not_or] at stays
      cases parsed : job.userIdsJSON.map normalizeUserIDs with
      | none => exact .inl rfl
      | some userIDs =>
        dsimp only
        by_cases nobody : userIDs = []
        · exact .inl (if_pos nobody)
        · rw [if_neg nobody]
          cases built : buildCheckinAutoJobItems job.id today job.windowStartSeconds
              job.windowEndSeconds job.randomWindowSeconds userIDs now random (store.lastItem + 1) with
          | error text => exact .inl rfl
          | ok items =>
            exact .inr ⟨row, userIDs, items, rfl, by simpa using stays.1, stays.2, rfl, nobody, built, rfl⟩

theorem arm_row_id (today now : Int) (job : Job) : (armRow today now job).id = job.id := rfl

theorem arm_other (other : jobId ≠ job.id) :
    (armJob today now random job store).job jobId = store.job jobId ∧
      (armJob today now random job store).itemsOf jobId = store.itemsOf jobId := by
  rcases arm_cases today now random job store with same | ⟨row, userIDs, items, -, -, -, -, -, built, armed⟩
  · rw [same]
    exact ⟨rfl, rfl⟩
  · rw [armed]
    exact ⟨(job_update store job.id (armRow today now) (arm_row_id today now) jobId).trans (if_neg other),
      rebuild_items_other (fun item member => ((built_items built).1 item member).1) other⟩

theorem arm_sound (sound : Sound jobId history store) (known : today ∈ history.passed) (job : Job) :
    Sound jobId history (armJob today now random job store) := by
  rcases arm_cases today now random job store with
    same | ⟨row, userIDs, items, found, -, -, -, some_, built, armed⟩
  · rw [same]
    exact sound
  · obtain ⟨fresh, length⟩ := built_items built
    rw [armed]
    refine rebuild_sound sound (arm_row_id today now) (fun job _ kept => ?_) (fun _ => rfl) found fresh
      fun empty => some_ (List.length_eq_zero_iff.mp ?_)
    · exact ⟨⟨kept.valid.start, kept.valid.ordered, kept.valid.end_, kept.valid.users⟩, fun _ => .inl known⟩
    · rw [← length, empty, List.length_nil]

def Rearmed (jobId today : Int) (store : Store) : Prop :=
  ∃ job userIDs, store.job jobId = some job ∧ job.userIdsJSON = some userIDs ∧
    job.targetDate = today ∧ job.status = .scheduled ∧
    ∀ userId ∈ normalizeUserIDs userIDs, ∃ item ∈ store.itemsOf jobId,
      item.userId = userId ∧ item.status = .pending ∧ checkinDate item.scheduledAt = today

theorem arm_rearms {job : Job} (found : store.job job.id = some job) (valid : Valid job)
    (daily : job.repeatDaily = true) (other : job.targetDate ≠ today) :
    Rearmed job.id today (armJob today now random job store) := by
  obtain ⟨userIDs, parsed, some_⟩ := valid.users
  obtain ⟨items, built, users, dated⟩ := @build_checkin_items_spec job.id today
    job.windowStartSeconds job.windowEndSeconds job.randomWindowSeconds valid.start valid.ordered
    valid.end_ (normalizeUserIDs userIDs) now random (store.lastItem + 1)
  have armed : armJob today now random job store = store.rebuild job.id (armRow today now) items := by
    have stays : ¬ (!job.repeatDaily ∨ job.targetDate = today) := by simp [daily, other]
    simp only [armJob, found, if_neg stays, parsed, Option.map_some, if_neg some_, built]
  rw [armed]
  refine ⟨armRow today now job, userIDs, ?_, parsed, rfl, rfl, fun userId member => ?_⟩
  · have row := job_update store job.id (armRow today now) (arm_row_id today now) job.id
    rw [if_pos rfl, found] at row
    exact row
  · rw [← users] at member
    obtain ⟨item, inside, rfl⟩ := List.mem_map.mp member
    obtain ⟨mine, pending, -⟩ := (built_items built).1 item inside
    refine ⟨item, ?_, rfl, pending, dated item inside⟩
    rw [rebuild_items_self fun item member => ((built_items built).1 item member).1]
    exact inside

theorem arm_all_sound (sound : Sound jobId history store) (known : today ∈ history.passed) (jobs : List Job) :
    Sound jobId history (jobs.foldl (fun store job => armJob today now random job store) store) := by
  induction jobs generalizing store with
  | nil => exact sound
  | cons job rest ih => exact ih (arm_sound sound known job)

theorem arm_all_other (jobs : List Job) (other : ∀ job ∈ jobs, jobId ≠ job.id) (store : Store) :
    let armed := jobs.foldl (fun store job => armJob today now random job store) store
    armed.job jobId = store.job jobId ∧ armed.itemsOf jobId = store.itemsOf jobId := by
  induction jobs generalizing store with
  | nil => exact ⟨rfl, rfl⟩
  | cons job rest ih =>
    obtain ⟨row, items⟩ := ih (fun job member => other job (List.mem_cons_of_mem _ member))
      (armJob today now random job store)
    obtain ⟨rowToo, itemsToo⟩ := @arm_other jobId today now store random job
      (other job (List.mem_cons_self ..))
    exact ⟨row.trans rowToo, items.trans itemsToo⟩

end Arming

/-! ## What every event keeps -/

section Runs
variable {jobId now : Int} {history : History} {store next : Store} {req : JobRequest}
variable {random : Int → Nat}

theorem Sound.later (sound : Sound jobId history store)
    (more : ∀ jobId date, history.has jobId date → longer.has jobId date) : Sound jobId longer store := by
  refine ⟨⟨sound.shaped, fun job found => ?_⟩, sound.summary⟩
  obtain ⟨valid, dated⟩ := sound.row job found
  exact ⟨valid, fun daily => more _ _ (dated daily)⟩

theorem write_has (history : History) (written today : Int) :
    (history.write written today).has written today ∧
      ∀ jobId date, history.has jobId date → (history.write written today).has jobId date :=
  ⟨.inr (List.mem_append_right _ (List.mem_singleton_self _)),
    fun _ _ => Or.imp_right (List.mem_append_left _)⟩

theorem request_valid (accepted : req.refused store.users = none) :
    0 ≤ req.windowStartSeconds ∧ req.windowStartSeconds ≤ req.windowEndSeconds ∧
      req.windowEndSeconds < 86400 ∧ normalizeUserIDs (normalizeUserIDs req.userIDs) ≠ [] := by
  unfold JobRequest.refused at accepted
  split at accepted
  · cases accepted
  · rename_i some_
    obtain ⟨userId, member⟩ := List.exists_mem_of_ne_nil _ some_
    have again := List.ne_nil_of_mem (normalize_idem req.userIDs userId member)
    split at accepted
    · cases accepted
    · split at accepted
      · cases accepted
      · split at accepted
        · cases accepted
        · split at accepted
          · cases accepted
          · exact ⟨by omega, by omega, by omega, again⟩

theorem request_date (dated : req.date now = some targetDate)
    (daily : (decide (req.targetDate = .daily)) = true) : targetDate = checkinDate now := by
  rw [JobRequest.date, of_decide_eq_true daily] at dated
  exact (Option.some.inj dated).symm

theorem request_items
    (accepted : req.refused store.users = none)
    (built : req.items target targetDate now random (store.lastItem + 1) = .ok items) :
    (∀ item ∈ items, item.jobId = target ∧ item.status = .pending ∧ store.lastItem + 1 ≤ item.id ∧
      item.id < store.lastItem + 1 + items.length) ∧ items ≠ [] := by
  obtain ⟨fresh, length⟩ := built_items built
  refine ⟨fresh, fun empty => (request_valid accepted).2.2.2 ?_⟩
  rw [empty, List.length_nil] at length
  rw [List.length_eq_zero_iff.mp length.symm]
  rfl

theorem created_accepted (accepted : req.refused users = none) :
    req.created.refused users = none := by
  have wider : req.created.randomWindowSeconds < 0 ↔ req.randomWindowSeconds < 0 := by
    unfold JobRequest.created
    dsimp only
    split <;> omega
  rw [← accepted, JobRequest.refused, JobRequest.refused]
  simp only [wider]
  rfl

theorem create_cases (created : createCheckinAutoJob req random now store = .ok next) :
    ∃ targetDate items, req.created.refused store.users = none ∧
      req.created.date now = some targetDate ∧
      req.created.items (store.lastJob + 1) targetDate now random (store.lastItem + 1) = .ok items ∧
      next = { store.insert (newJob (store.lastJob + 1) targetDate now req.created) items with
        history := store.history.write (store.lastJob + 1) (checkinDate now) } := by
  unfold createCheckinAutoJob at created
  split at created
  · cases created
  · split at created
    · cases created
    · split at created
      · cases created
      · exact ⟨_, _, created_accepted ‹_›, ‹_›, ‹_›, (Except.ok.inj created).symm⟩

theorem update_cases (updated : updateCheckinAutoJob target req random now store = .ok next) :
    ∃ job targetDate items, store.job target = some job ∧ req.refused store.users = none ∧
      req.date now = some targetDate ∧
      req.items target targetDate now random (store.lastItem + 1) = .ok items ∧
      next = { store.rebuild target (updateRow targetDate now (req.enabled.getD job.enabled) req) items with
        history := store.history.write target (checkinDate now) } := by
  unfold updateCheckinAutoJob at updated
  split at updated
  · cases updated
  · split at updated
    · cases updated
    · split at updated
      · cases updated
      · split at updated
        · cases updated
        · split at updated
          · cases updated
          · split at updated
            · cases updated
            · exact ⟨_, _, _, ‹_›, ‹_›, ‹_›, ‹_›, (Except.ok.inj updated).symm⟩

theorem create_sound (sound : Sound jobId store.history store)
    (created : createCheckinAutoJob req random now store = .ok next) : Sound jobId next.history next := by
  obtain ⟨targetDate, items, accepted, dated, built, rfl⟩ := create_cases created
  obtain ⟨fresh, some_⟩ := request_items accepted built
  obtain ⟨start, ordered, end_, users⟩ := request_valid accepted
  obtain ⟨has, more⟩ := write_has store.history (store.lastJob + 1) (checkinDate now)
  have row : RowKept (store.history.write (store.lastJob + 1) (checkinDate now))
      (newJob (store.lastJob + 1) targetDate now req.created) :=
    ⟨⟨start, ordered, end_, _, rfl, users⟩, fun daily => request_date dated daily ▸ has⟩
  exact (insert_sound (sound.later more) rfl row rfl fresh some_).of_tables rfl rfl rfl rfl

theorem update_row_id (targetDate now : Int) (enabled : Bool) (req : JobRequest) (job : Job) :
    (updateRow targetDate now enabled req job).id = job.id := rfl

theorem update_sound (sound : Sound jobId store.history store)
    (updated : updateCheckinAutoJob target req random now store = .ok next) :
    Sound jobId next.history next := by
  obtain ⟨job, targetDate, items, found, accepted, dated, built, rfl⟩ := update_cases updated
  obtain ⟨fresh, some_⟩ := request_items accepted built
  obtain ⟨start, ordered, end_, users⟩ := request_valid accepted
  obtain ⟨has, more⟩ := write_has store.history target (checkinDate now)
  have rebuilt := rebuild_sound (sound.later more)
    (update_row_id targetDate now (req.enabled.getD job.enabled) req) (fun row here _ => ?_)
    (fun _ => rfl) found fresh some_
  · exact rebuilt.of_tables rfl rfl rfl rfl
  · refine ⟨⟨start, ordered, end_, _, rfl, users⟩, fun daily => ?_⟩
    rw [update_row_id, here, show (updateRow targetDate now (req.enabled.getD job.enabled) req row).targetDate =
      checkinDate now from request_date dated daily]
    exact has

theorem cancel_history (cancelled : cancelCheckinAutoJob target now store = .ok next) :
    next.history = store.history := by
  unfold cancelCheckinAutoJob at cancelled
  split at cancelled
  · cases cancelled
  · split at cancelled
    · cases cancelled
    · split at cancelled
      · cases cancelled
      · rw [← Except.ok.inj cancelled]
        rfl

theorem begin_sound (sound : Sound jobId store.history store) (now : Int) (random : Int → Nat) :
    Sound jobId (beginPass now random store).history (beginPass now random store) := by
  unfold beginPass
  split
  · exact sound
  · let history : History := { store.history with passed := store.history.passed ++ [checkinDate now] }
    have stale : Sound jobId history (resetStale (now - 600) now store) :=
      (stale_sound sound (now - 600) now).later fun _ _ => Or.imp_left (List.mem_append_left _)
    have known : checkinDate now ∈ history.passed :=
      List.mem_append_right _ (List.mem_singleton_self _)
    have armed : Sound jobId history (refreshRepeatDaily now random (resetStale (now - 600) now store)) :=
      arm_all_sound stale known _
    exact armed.of_tables rfl rfl rfl rfl

theorem claim_next_sound (sound : Sound jobId store.history store) :
    Sound jobId (claimNext store).history (claimNext store) := by
  unfold claimNext
  split
  · exact sound
  · split
    · exact sound
    · rename_i item rest _
      split
      · exact sound.of_tables rfl rfl rfl rfl
      · rename_i row found
        split
        · exact sound.of_tables rfl rfl rfl rfl
        · rename_i pending
          obtain same : row.id = item.id := lookup_key found
          rw [← same] at found ⊢
          have claimed := claim_sound sound found (not_not.mp pending) store.passNow
          exact claimed.of_tables rfl rfl rfl rfl

theorem execute_tables (attempt : Attempt) (item : Item) (store : Store) :
    let after := executeItem attempt item store
    after.jobs = store.jobs ∧ after.items = store.items ∧ after.lastJob = store.lastJob ∧
      after.lastItem = store.lastItem ∧ after.history = store.history := by
  unfold executeItem
  split
  · exact ⟨rfl, rfl, rfl, rfl, rfl⟩
  · split
    · exact ⟨rfl, rfl, rfl, rfl, rfl⟩
    · split <;> exact ⟨rfl, rfl, rfl, rfl, rfl⟩

theorem execute_sound (sound : Sound jobId store.history store) (attempt : Attempt) :
    Sound jobId (executeClaimed attempt store).history (executeClaimed attempt store) := by
  unfold executeClaimed
  split
  · exact sound
  · rename_i item _
    have unclaimed : Sound jobId store.history { store with claimed := none } :=
      sound.of_tables rfl rfl rfl rfl
    obtain ⟨jobs, items, lastJob, lastItem, history⟩ :=
      execute_tables attempt item { store with claimed := none }
    rw [history]
    exact unclaimed.of_tables jobs items lastJob lastItem

theorem finish_history (itemId : Int) (status : ItemStatus) (quota : Int) (text : String) (now : Int)
    (store : Store) : (finishItem itemId status quota text now store).history = store.history := by
  unfold finishItem
  split <;> rfl

theorem write_outcome_sound (sound : Sound jobId store.history store) :
    Sound jobId (writeOutcome store).history (writeOutcome store) := by
  unfold writeOutcome
  split
  · exact sound
  · rw [finish_history]
    have written : Sound jobId store.history { store with outcome := none } :=
      sound.of_tables rfl rfl rfl rfl
    exact finish_sound written _ _ _ _ _

theorem step_sound (sound : Sound jobId store.history store) (event : Event) :
    Sound jobId (step store event).history (step store event) := by
  cases event with
  | create req random now =>
    simp only [step]
    cases created : createCheckinAutoJob req random now store with
    | error text => exact sound
    | ok next => exact create_sound sound created
  | update_ target req random now =>
    simp only [step]
    cases updated : updateCheckinAutoJob target req random now store with
    | error text => exact sound
    | ok next => exact update_sound sound updated
  | cancel target now =>
    simp only [step]
    cases cancelled : cancelCheckinAutoJob target now store with
    | error text => exact sound
    | ok next =>
      rw [Except.toOption, Option.getD_some, cancel_history cancelled]
      exact cancel_sound sound cancelled
  | begin_ now random => exact begin_sound sound now random
  | claim => exact claim_next_sound sound
  | execute attempt => exact execute_sound sound attempt
  | finish => exact write_outcome_sound sound
  | crash => exact sound.of_tables rfl rfl rfl rfl
  | checkin attempt userId now =>
    simp only [step]
    split
    · exact sound
    · exact sound.of_tables rfl rfl rfl rfl

end Runs

/-! ## The first pass of a date -/

section FirstPasses
variable {jobId now : Int} {store next : Store}

def FirstPass (jobId now : Int) (store : Store) : Prop :=
  store.idle = true ∧ ¬ store.history.has jobId (checkinDate now) ∧
    ∃ job, store.job jobId = some job ∧ Live job ∧ job.repeatDaily = true

theorem Rearmed.of_same (rearmed : Rearmed jobId today store)
    (job : next.job jobId = store.job jobId) (items : next.itemsOf jobId = store.itemsOf jobId) :
    Rearmed jobId today next := by
  obtain ⟨row, userIDs, found, rest⟩ := rearmed
  rw [← items] at rest
  exact ⟨row, userIDs, job.trans found, rest⟩

theorem selected_iff (live : Live job) (daily : job.repeatDaily = true)
    (other : job.targetDate ≠ today) : isSelected today job = true ↔ job.status ≠ .completed := by
  obtain ⟨enabled, standing⟩ := live
  simp only [isSelected, enabled, daily, other, ne_eq, not_false_eq_true, decide_true, Bool.true_and,
    Bool.or_eq_true, decide_eq_true_eq]
  cases status : job.status with
  | cancelled => exact absurd status standing
  | scheduled | running | partial_ | completed => simp

theorem first_pass_iff (sound : Sound jobId store.history store) (first : FirstPass jobId now store)
    (random : Int → Nat) :
    Rearmed jobId (checkinDate now) (beginPass now random store) ↔ Unfinished jobId store := by
  obtain ⟨idle, new, job, found, live, daily⟩ := first
  obtain rfl : job.id = jobId := lookup_key found
  have kept := sound.row job found
  have other : job.targetDate ≠ checkinDate now := fun same => new (same ▸ kept.dated daily)
  let stale := resetStale (now - 600) now store
  let selected := stale.jobs.filter (isSelected (checkinDate now))
  have unique : (stale.jobs.map Job.id).Nodup := sound.shaped.jobIds
  have begun : Rearmed job.id (checkinDate now) (beginPass now random store) ↔
      Rearmed job.id (checkinDate now) (refreshRepeatDaily now random stale) := by
    rw [beginPass, if_neg (by simp [idle])]
    exact Iff.rfl
  rw [begun]
  by_cases unfinished : Unfinished job.id store
  · refine iff_of_true ?_ unfinished
    have standing := (sound.summary job found live).not.mpr (not_not.mpr unfinished)
    have member : job ∈ selected :=
      List.mem_filter.mpr ⟨lookup_mem found, (selected_iff live daily other).mpr standing⟩
    obtain ⟨before, after, split_⟩ := List.append_of_mem member
    have apart : ((before ++ job :: after).map Job.id).Nodup :=
      split_ ▸ unique.sublist (List.filter_sublist.map Job.id)
    rw [List.map_append, List.map_cons, List.nodup_append, List.nodup_cons] at apart
    obtain ⟨-, ⟨notAfter, -⟩, notBefore⟩ := apart
    rw [refreshRepeatDaily, show stale.jobs.filter (isSelected (checkinDate now)) = _ from split_,
      List.foldl_append, List.foldl_cons]
    obtain ⟨still, -⟩ := @arm_all_other job.id (checkinDate now) now random before
      (fun row inside same => notBefore row.id (List.mem_map_of_mem inside) job.id
        (List.mem_cons_self ..) same.symm) stale
    have armed := @arm_rearms (checkinDate now) now _ random job (still.trans found) kept.valid daily other
    obtain ⟨row, items⟩ := @arm_all_other job.id (checkinDate now) now random after
      (fun row inside same => notAfter (same ▸ List.mem_map_of_mem inside)) _
    exact armed.of_same row items
  · refine iff_of_false (fun rearmed => ?_) unfinished
    have completed := (sound.summary job found live).mpr unfinished
    have absent : ∀ row ∈ selected, job.id ≠ row.id := by
      intro row inside same
      obtain ⟨stored, chosen⟩ := List.mem_filter.mp inside
      have looked := lookup_of_mem unique stored
      rw [← same] at looked
      obtain rfl := Option.some.inj (looked.symm.trans found)
      exact (selected_iff live daily other).mp chosen completed
    obtain ⟨still, -⟩ := @arm_all_other job.id (checkinDate now) now random selected absent stale
    obtain ⟨armed, -, foundToo, -, dated, -⟩ := rearmed
    obtain rfl := Option.some.inj (foundToo.symm.trans (still.trans found))
    exact other dated

end FirstPasses

/-! ## Once a date -/

section Once
variable {store : Store}

structure Recorded (store : Store) : Prop where
  once : (store.made.map fun entry => (entry.2.userId, entry.2.checkinDate)).Nodup
  stored : ∀ entry ∈ store.made, entry.2 ∈ store.checkins

def Store.logs (store : Store) : List Checkin × List (Int × Checkin) := (store.checkins, store.made)

theorem Recorded.of_logs (recorded : Recorded store) (same : next.logs = store.logs) :
    Recorded next := by
  obtain ⟨checkins, made⟩ := Prod.mk.inj same
  refine ⟨?_, fun entry member => ?_⟩
  · rw [made]
    exact recorded.once
  · rw [checkins]
    exact recorded.stored entry (made ▸ member)

theorem arm_all_logs (today now : Int) (random : Int → Nat) (jobs : List Job) (store : Store) :
    (jobs.foldl (fun store job => armJob today now random job store) store).logs = store.logs := by
  induction jobs generalizing store with
  | nil => rfl
  | cons job rest ih =>
    refine (ih _).trans ?_
    dsimp only
    rcases arm_cases today now random job store with same | ⟨row, userIDs, items, -, -, -, -, -, -, armed⟩
    · rw [same]
    · rw [armed]
      rfl

theorem begin_logs (now : Int) (random : Int → Nat) (store : Store) :
    (beginPass now random store).logs = store.logs := by
  unfold beginPass
  split
  · rfl
  · exact arm_all_logs (checkinDate now) now random _ (resetStale (now - 600) now store)

theorem claim_logs (store : Store) : (claimNext store).logs = store.logs := by
  unfold claimNext
  split
  · rfl
  · split
    · rfl
    · split
      · rfl
      · split <;> rfl

theorem write_outcome_logs (store : Store) : (writeOutcome store).logs = store.logs := by
  unfold writeOutcome
  split
  · rfl
  · unfold finishItem
    split <;> rfl

theorem cancel_logs
    (cancelled : cancelCheckinAutoJob jobId now store = .ok next) : next.logs = store.logs := by
  unfold cancelCheckinAutoJob at cancelled
  split at cancelled
  · cases cancelled
  · split at cancelled
    · cases cancelled
    · split at cancelled
      · cases cancelled
      · rw [← Except.ok.inj cancelled]
        rfl

theorem user_checkin_new
    (made : userCheckin attempt userId date checkins = .ok checkin) :
    ∀ row ∈ checkins, (row.userId, row.checkinDate) ≠ (checkin.userId, checkin.checkinDate) := by
  unfold userCheckin at made
  split at made
  · cases made
  · split at made
    · cases made
    · rename_i absent
      split at made
      · cases made
      · rw [← Except.ok.inj made]
        intro row member same
        obtain ⟨user, dated⟩ := Prod.mk.inj same
        exact absent (List.any_eq_true.mpr ⟨row, member, by simp [user, dated]⟩)

theorem execute_recorded (recorded : Recorded store) (attempt : Attempt) (item : Item) :
    Recorded (executeItem attempt item store) := by
  unfold executeItem
  split
  · exact recorded.of_logs rfl
  · split
    · exact recorded.of_logs rfl
    · split
      · exact recorded.of_logs rfl
      · rename_i checkin made
        refine ⟨?_, fun entry member => ?_⟩
        · simp only [List.map_append, List.map_cons, List.map_nil]
          refine List.nodup_append.mpr ⟨recorded.once, List.nodup_singleton _, ?_⟩
          rintro before inside last single same
          obtain ⟨entry, member, rfl⟩ := List.mem_map.mp inside
          rw [List.mem_singleton.mp single] at same
          exact user_checkin_new made entry.2 (recorded.stored entry member) same
        · rcases List.mem_append.mp member with old | new
          · exact List.mem_append_left _ (recorded.stored entry old)
          · rw [List.mem_singleton.mp new]
            exact List.mem_append_right _ (List.mem_singleton_self _)

theorem step_recorded (recorded : Recorded store) (event : Event) : Recorded (step store event) := by
  cases event with
  | create req random now =>
    simp only [step]
    cases created : createCheckinAutoJob req random now store with
    | error text => exact recorded
    | ok next =>
      obtain ⟨targetDate, items, -, -, -, rfl⟩ := create_cases created
      exact recorded.of_logs rfl
  | update_ target req random now =>
    simp only [step]
    cases updated : updateCheckinAutoJob target req random now store with
    | error text => exact recorded
    | ok next =>
      obtain ⟨job, targetDate, items, -, -, -, -, rfl⟩ := update_cases updated
      exact recorded.of_logs rfl
  | cancel target now =>
    simp only [step]
    cases cancelled : cancelCheckinAutoJob target now store with
    | error text => exact recorded
    | ok next => exact recorded.of_logs (cancel_logs cancelled)
  | begin_ now random => exact recorded.of_logs (begin_logs now random store)
  | claim => exact recorded.of_logs (claim_logs store)
  | execute attempt =>
    simp only [step, executeClaimed]
    split
    · exact recorded
    · have unclaimed : Recorded { store with claimed := none } := recorded.of_logs rfl
      exact execute_recorded unclaimed attempt _
  | finish => exact recorded.of_logs (write_outcome_logs store)
  | crash => exact recorded.of_logs rfl
  | checkin attempt userId now =>
    simp only [step]
    split
    · exact recorded
    · exact ⟨recorded.once, fun entry member => List.mem_append_left _ (recorded.stored entry member)⟩

def CheckedInOnce (jobId : Int) (store : Store) : Prop :=
  ∀ userId date, (store.made.filter fun entry =>
    entry.1 = jobId && entry.2.userId = userId && entry.2.checkinDate = date).length ≤ 1

theorem Recorded.checked_in_once (recorded : Recorded store) (jobId : Int) : CheckedInOnce jobId store := by
  intro userId date
  let mine := store.made.filter fun entry =>
    entry.1 = jobId && entry.2.userId = userId && entry.2.checkinDate = date
  let keys := mine.map fun entry => (entry.2.userId, entry.2.checkinDate)
  have once : keys.Nodup := recorded.once.sublist (List.filter_sublist.map _)
  have same : keys = List.replicate keys.length (userId, date) :=
    List.eq_replicate_of_mem fun key member => by
      obtain ⟨entry, inside, rfl⟩ := List.mem_map.mp member
      have kind := (List.mem_filter.mp inside).2
      simp only [Bool.and_eq_true, decide_eq_true_eq] at kind
      rw [kind.1.2, kind.2]
  rw [same, List.nodup_replicate, List.length_map] at once
  exact once

end Once

/-! ## Every run -/

def opening (users : List Int) (checkins : List Checkin) : Store :=
  { users := users, checkins := checkins }

def Rearms (jobId : Int) (store : Store) : Event → Prop
  | .begin_ now random => FirstPass jobId now store →
    Rearmed jobId (checkinDate now) (step store (.begin_ now random))
  | _ => True

def LeftUnfinished (jobId : Int) (store : Store) : Event → Prop
  | .begin_ now _ => FirstPass jobId now store → Unfinished jobId store
  | _ => True

theorem rearms_iff {jobId : Int} (sound : Sound jobId store.history store) (event : Event) :
    Rearms jobId store event ↔ LeftUnfinished jobId store event := by
  cases event with
  | begin_ now random =>
    refine ⟨fun rearms first => ?_, fun unfinished first => ?_⟩
    · exact (first_pass_iff sound first random).mp (rearms first)
    · exact (first_pass_iff sound first random).mpr (unfinished first)
  | _ => exact Iff.rfl

theorem opening_sound (jobId : Int) (users : List Int) (checkins : List Checkin) :
    Sound jobId (opening users checkins).history (opening users checkins) where
  shaped := ⟨fun _ member => absurd member List.not_mem_nil, List.nodup_nil,
    fun _ member => absurd member List.not_mem_nil, fun _ member => absurd member List.not_mem_nil⟩
  row := fun _ found => by cases found
  summary := fun _ found => by cases found

/-- The job is armed on the first pass of every new date, and checks each user in
at most once for each date, in exactly the runs where every first pass of a new
date finds an item of the job that is still pending, running or failed. -/
theorem daily_job_repeats_iff (jobId : Int) (users : List Int) (checkins : List Checkin)
    (events : List Event) :
    ((∀ done event, done ++ [event] <+: events →
        Rearms jobId (run step (opening users checkins) done) event) ∧
      ∀ done, done <+: events → CheckedInOnce jobId (run step (opening users checkins) done)) ↔
    Guarded step (LeftUnfinished jobId) (opening users checkins) events := by
  have armed := @steps_safe_iff_guarded _ _ step (LeftUnfinished jobId)
    (fun store => Sound jobId store.history store) (Rearms jobId)
    (fun _ event _ sound => step_sound sound event) (fun _ event sound => rearms_iff sound event)
    (opening users checkins) events (opening_sound jobId users checkins)
  have start : Recorded (opening users checkins) :=
    ⟨List.nodup_nil, fun _ member => absurd member List.not_mem_nil⟩
  have once : ∀ done, done <+: events → CheckedInOnce jobId (run step (opening users checkins) done) :=
    fun done _ => Recorded.checked_in_once (@run_preserves_always _ _ step Recorded
      (fun _ event recorded => step_recorded recorded event) _ done start) jobId
  rw [← armed]
  exact and_iff_left once

def goodDay : List Event :=
  [.create { userIDs := [7] } (fun _ => 0) 1727971210, .begin_ 1727971230 (fun _ => 0), .claim,
    .execute { quotaAwarded := 500 }, .finish]

def nextPass : Event := .begin_ 1728057630 fun _ => 0

/-- A daily job whose day went well is completed, and the next day does not arm it. -/
theorem good_day_ends_repetition :
    ¬ ∀ done event, done ++ [event] <+: goodDay ++ [nextPass] →
      Rearms 1 (run step (opening [7] []) done) event := by
  intro all
  have row : ((run step (opening [7] []) goodDay).job 1).map
      (fun job => (job.enabled, job.repeatDaily, job.status)) = some (true, true, .completed) := by
    decide +kernel
  have after : ((step (run step (opening [7] []) goodDay) nextPass).job 1).map Job.status =
      some .completed := by
    decide +kernel
  obtain ⟨job, found, kind⟩ := Option.map_eq_some_iff.mp row
  obtain ⟨enabled, daily, completed⟩ : job.enabled = true ∧ job.repeatDaily = true ∧
      job.status = .completed := by simpa using kind
  have first : FirstPass 1 1728057630 (run step (opening [7] []) goodDay) := by
    refine ⟨by decide +kernel, ?_, job, found, ⟨enabled, by simp [completed]⟩, daily⟩
    rw [History.has]
    decide +kernel
  obtain ⟨armed, -, foundToo, -, -, scheduled, -⟩ := all goodDay nextPass List.prefix_rfl first
  rw [show (step (run step (opening [7] []) goodDay) nextPass).job 1 = some armed from foundToo] at after
  rw [Option.map_some, scheduled] at after
  cases after

end NewApi.CheckinJobs
