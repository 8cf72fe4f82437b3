import NewApi.GuardedRun
import NewApi.KeyedTable

/-! The tasks of Midjourney. A submission charges the user and the token, or
neither; the poller, its two bulk updates and the callback of the upstream write
what becomes of the task. Only the poller gives anything back, by the quota of
the row and to the user alone. -/
namespace NewApi.MidjourneyTasks
open NewApi.GuardedRun NewApi.KeyedTable

/-! ## Rows -/

/-- `model/midjourney.go::Midjourney`. -/
structure Midjourney where
  id : Int
  code : Int := 0
  userId : Int := 0
  action : String := ""
  mjId : String := ""
  prompt : String := ""
  promptEn : String := ""
  description : String := ""
  state : String := ""
  submitTime : Int := 0
  startTime : Int := 0
  finishTime : Int := 0
  imageUrl : String := ""
  videoUrl : String := ""
  videoUrls : String := ""
  status : String := ""
  progress : String := ""
  failReason : String := ""
  channelId : Int := 0
  quota : Int := 0
  buttons : String := ""
  properties : String := ""
  deriving DecidableEq, Repr

/-- `dto/midjourney.go::MidjourneyDto`, as far as a task takes it over. Lists and
objects are what they marshal to, and `none` where they are absent or empty. -/
structure MidjourneyDto where
  mjId : String
  promptEn : String := ""
  state : String := ""
  submitTime : Int := 0
  startTime : Int := 0
  finishTime : Int := 0
  imageUrl : String := ""
  videoUrl : String := ""
  videoUrls : Option String := none
  status : String := ""
  progress : String := ""
  failReason : String := ""
  buttons : Option String := none
  properties : Option String := none
  deriving DecidableEq, Repr

/-- A row with the price of its submission, whether that was charged, what the
user and the token have paid for it since, and how often it was refunded. -/
structure Entry where
  row : Midjourney
  price : Int
  charged : Bool
  user : Int
  token : Int
  refunds : Nat := 0
  deriving DecidableEq, Repr

def Entry.id (entry : Entry) : Int := entry.row.id

def Entry.write (row : Midjourney) (entry : Entry) : Entry :=
  { entry with row := { row with id := entry.row.id } }

/-- The table; the tasks that the running round of the poller has read, and the
rows that callbacks have read. -/
structure Store where
  lastId : Int := 0
  entries : List Entry := []
  polled : List Midjourney := []
  callbacks : List (Nat × Midjourney) := []
  deriving DecidableEq, Repr

/-! ## Submission -/

/-- `dto/midjourney.go::MidjourneyResponse` with its status code; the properties
are the image and the status of a task that exists, where both are strings. -/
structure MidjourneyResponse where
  statusCode : Int := 200
  code : Int
  description : String := ""
  result : String := ""
  properties : Option (String × String) := none
  deriving DecidableEq, Repr

/-- A request for which the upstream has answered: `quota` is that of the price
data, `nowMs` the time in milliseconds. -/
structure Submission where
  userId : Int
  action : String
  prompt : String := ""
  quota : Int
  channelId : Int := 0
  nowMs : Int := 0
  response : MidjourneyResponse
  deriving DecidableEq, Repr

/-- The last value of `consumeQuota` in `relay/mjproxy_handler.go::RelayMidjourneySubmit`. -/
def consumeQuota (req : Submission) : Bool :=
  !(req.action = "INPAINT" || req.action = "CUSTOM_ZOOM") &&
    (req.response.code = 1 || req.response.code = 21 || req.response.code = 22)

/-- The task that `RelayMidjourneySubmit` makes of the answer. -/
def answeredTask (id : Int) (req : Submission) : Midjourney where
  id := id
  code := req.response.code
  userId := req.userId
  action := req.action
  mjId := req.response.result
  prompt := req.prompt
  description := req.response.description
  submitTime := req.nowMs
  progress := "0%"
  failReason :=
    if req.response.code = 1 || req.response.code = 21 || req.response.code = 22 then ""
    else req.response.description
  channelId := req.channelId
  quota := req.quota

def existingTask (req : Submission) (task : Midjourney) : Midjourney × Bool :=
  if req.response.code = 21 then
    match req.response.properties with
    | some (imageUrl, status) =>
      let task := { task with imageUrl := imageUrl, status := status }
      if status = "SUCCESS" then
        ({ task with progress := "100%", startTime := req.nowMs, finishTime := req.nowMs }, true)
      else (task, false)
    | none => (task, false)
  else (task, req.response.code = 1)

/-- The row that `RelayMidjourneySubmit` inserts. -/
def submittedTask (id : Int) (req : Submission) : Midjourney :=
  let (task, submitted) := existingTask req (answeredTask id req)
  if submitted && req.action = "UPLOAD" then { task with progress := "100%", status := "SUCCESS" }
  else task

/-- The row is inserted, and `service/quota.go::PostConsumeQuota` takes its quota
from the wallet of the user and from the token. -/
def insertTask (row : Midjourney) (charges : Bool) (store : Store) : Store :=
  { store with
    lastId := store.lastId + 1
    entries := store.entries ++ [{
      row := row
      price := row.quota
      charged := charges
      user := if charges then row.quota else 0
      token := if charges then row.quota else 0 }] }

/-- `relay/mjproxy_handler.go::RelayMidjourneySubmit` from the answer on. -/
def relayMidjourneySubmit (req : Submission) (store : Store) : Store :=
  insertTask (submittedTask (store.lastId + 1) req) (consumeQuota req && req.response.statusCode = 200)
    store

/-- `relay/mjproxy_handler.go::RelaySwapFace` from the answer on. -/
def relaySwapFace (req : Submission) (store : Store) : Store :=
  insertTask
    { id := store.lastId + 1
      code := req.response.code
      userId := req.userId
      action := "SWAP_FACE"
      mjId := req.response.result
      prompt := "InsightFace"
      description := req.response.description
      submitTime := req.nowMs
      startTime := req.nowMs
      progress := "0%"
      channelId := req.channelId
      quota := req.quota }
    (req.response.statusCode = 200 && req.response.code = 1) store

/-! ## The callback -/

/-- The row that `relay/mjproxy_handler.go::RelayMidjourneyNotify` makes of the
one it has read. -/
def notifiedTask (req : MidjourneyDto) (task : Midjourney) : Midjourney :=
  { task with
    progress := req.progress
    promptEn := req.promptEn
    state := req.state
    submitTime := req.submitTime
    startTime := req.startTime
    finishTime := req.finishTime
    imageUrl := req.imageUrl
    videoUrl := req.videoUrl
    videoUrls := req.videoUrls.getD "null"
    status := req.status
    failReason := req.failReason }

def readCallback (call : Nat) (req : MidjourneyDto) (store : Store) : Store :=
  match store.entries.find? fun entry => entry.row.mjId = req.mjId with
  | none => store
  | some entry => { store with callbacks := (call, notifiedTask req entry.row) :: store.callbacks }

/-- `model/midjourney.go::Midjourney.Update`: the whole row is saved. -/
def saveRow (row : Midjourney) (store : Store) : Store :=
  { store with entries := update Entry.id store.entries row.id (Entry.write row) }

def savedRow (call : Nat) (store : Store) : Option Midjourney :=
  (store.callbacks.find? fun read => read.1 = call).map Prod.snd

def saveCallback (call : Nat) (store : Store) : Store :=
  match savedRow call store with
  | none => store
  | some row => saveRow row store

/-! ## The poller -/

/-- `model/midjourney.go::GetAllUnFinishTasks`. -/
def getAllUnFinishTasks (store : Store) : List Midjourney :=
  (store.entries.map Entry.row).filter fun row => row.progress ≠ "100%"

def failRow (reason : Option String) (row : Midjourney) : Midjourney :=
  { row with
    failReason := reason.getD row.failReason
    status := "FAILURE"
    progress := "100%" }

/-- `model/midjourney.go::MjBulkUpdate` and `MjBulkUpdateByTaskIds`: the rows that
are meant fail. -/
def bulkFail (meant : Midjourney → Bool) (reason : Option String) (store : Store) : Store :=
  { store with
    entries := store.entries.map fun entry =>
      if meant entry.row then entry.write (failRow reason entry.row) else entry }

def isNullTask (store : Store) (row : Midjourney) : Bool :=
  store.polled.any fun task => task.mjId = "" && task.id = row.id

def isChannelTask (store : Store) (channelId : Int) (row : Midjourney) : Bool :=
  store.polled.any fun task => task.mjId ≠ "" && task.channelId = channelId && task.mjId = row.mjId

def timedOut (nowMs : Int) (task : Midjourney) (item : MidjourneyDto) : MidjourneyDto :=
  if nowMs - task.submitTime > 3600000 ∧ task.progress ≠ "100%" then
    { item with failReason := "上游任务超时（超过1小时）", status := "FAILURE" }
  else item

/-- `controller/midjourney.go::checkMjTaskNeedUpdate`. -/
def checkMjTaskNeedUpdate (oldTask : Midjourney) (newTask : MidjourneyDto) : Bool :=
  oldTask.code ≠ 1 || oldTask.progress ≠ newTask.progress || oldTask.promptEn ≠ newTask.promptEn ||
    oldTask.state ≠ newTask.state || oldTask.submitTime ≠ newTask.submitTime ||
    oldTask.startTime ≠ newTask.startTime || oldTask.finishTime ≠ newTask.finishTime ||
    oldTask.imageUrl ≠ newTask.imageUrl || oldTask.status ≠ newTask.status ||
    oldTask.failReason ≠ newTask.failReason ||
    (oldTask.progress ≠ "100%" && newTask.failReason ≠ "") ||
    oldTask.videoUrl ≠ newTask.videoUrl || oldTask.videoUrls ≠ newTask.videoUrls.getD ""

def reportsFailure (item : MidjourneyDto) : Bool :=
  (item.progress ≠ "100%" && item.failReason ≠ "") || (item.progress = "100%" && item.status = "FAILURE")

def reportedTask (item : MidjourneyDto) (task : Midjourney) : Midjourney :=
  { task with
    code := 1
    progress := if reportsFailure item then "100%" else item.progress
    promptEn := item.promptEn
    state := item.state
    submitTime := item.submitTime
    startTime := item.startTime
    finishTime := item.finishTime
    imageUrl := item.imageUrl
    status := item.status
    failReason := item.failReason
    properties := item.properties.getD task.properties
    buttons := item.buttons.getD task.buttons
    videoUrl := item.videoUrl
    videoUrls := item.videoUrls.getD "" }

/-- `IncreaseUserQuota` with the quota of the task. -/
def refundEntry (quota : Int) (entry : Entry) : Entry :=
  { entry with user := entry.user - quota, refunds := entry.refunds + 1 }

/-- `model/midjourney.go::UpdateWithStatus` wins. -/
def wins (task : Midjourney) (store : Store) : Bool :=
  (lookup Entry.id store.entries task.id).any fun entry => entry.row.status = task.status

/-- The task of the round that a report is about, `taskM[responseItem.MjId]`. -/
def polledTask (mjId : String) (store : Store) : Option Midjourney :=
  (store.polled.filter fun task => task.mjId ≠ "" && task.mjId = mjId).getLast?

/-- One report of `controller/midjourney.go::UpdateMidjourneyTaskBulk`. A report
without a task ends the round. -/
def pollReport (nowMs : Int) (item : MidjourneyDto) (store : Store) : Store :=
  match polledTask item.mjId store with
  | none => { store with polled := [] }
  | some task =>
    let item := timedOut nowMs task item
    if !checkMjTaskNeedUpdate task item then store
    else
      let reported := reportedTask item task
      let polled := { store with polled := update Midjourney.id store.polled task.id fun _ => reported }
      if !wins task store then polled
      else
        let saved := saveRow reported polled
        if reportsFailure item && task.quota ≠ 0 then
          { saved with entries := update Entry.id saved.entries task.id (refundEntry task.quota) }
        else saved

/-! ## Runs -/

inductive Event where
  | submit (req : Submission)
  | swapFace (req : Submission)
  | callback (call : Nat) (req : MidjourneyDto)
  | save (call : Nat)
  | round
  | nullTasks
  | lostChannel (channelId : Int)
  | report (nowMs : Int) (item : MidjourneyDto)
  deriving DecidableEq, Repr

def lostReason (channelId : Int) : String :=
  "获取渠道信息失败，请联系管理员，渠道ID：" ++ toString channelId

def step (store : Store) : Event → Store
  | .submit req => relayMidjourneySubmit req store
  | .swapFace req => relaySwapFace req store
  | .callback call req => readCallback call req store
  | .save call => saveCallback call store
  | .round => { store with polled := getAllUnFinishTasks store }
  | .nullTasks => bulkFail (isNullTask store) none store
  | .lostChannel channelId => bulkFail (isChannelTask store channelId) (some (lostReason channelId)) store
  | .report nowMs item => pollReport nowMs item store

/-! ## What is conserved -/

def failed (row : Midjourney) : Prop := row.progress = "100%" ∧ row.status = "FAILURE"

instance : DecidablePred failed := fun _ => inferInstanceAs (Decidable (_ ∧ _))

def due (entry : Entry) : Int := if entry.charged = true ∧ ¬ failed entry.row then entry.price else 0

structure ConservesTask (entry : Entry) : Prop where
  user : entry.user = due entry
  token : entry.token = due entry
  nonneg : 0 ≤ entry.user ∧ 0 ≤ entry.token
  once : entry.refunds ≤ 1

def Conserved (store : Store) : Prop := ∀ entry ∈ store.entries, ConservesTask entry

def Priced (entry : Entry) : Prop := entry.charged = true ∧ entry.price ≠ 0

def paid (entry : Entry) : Int := if entry.charged = true then entry.price else 0

theorem conserves_iff (token : entry.token = paid entry) :
    ConservesTask entry ↔ entry.user = paid entry ∧ (Priced entry → ¬ failed entry.row) ∧
      0 ≤ paid entry ∧ entry.refunds ≤ 1 := by
  constructor
  · rintro ⟨user, tokenDue, nonneg, once⟩
    have same : paid entry = due entry := token.symm.trans tokenDue
    refine ⟨user.trans same.symm, fun priced failure => ?_, by rw [← token]; exact nonneg.2, once⟩
    rw [paid, due, if_pos priced.1, if_neg (fun standing => standing.2 failure)] at same
    exact priced.2 same
  · rintro ⟨user, standing, nonneg, once⟩
    have same : paid entry = due entry := by
      unfold paid due
      by_cases charged : entry.charged = true
      · by_cases failure : failed entry.row
        · rw [if_pos charged, if_neg (fun both => both.2 failure)]
          exact not_not.mp fun price => standing ⟨charged, price⟩ failure
        · rw [if_pos charged, if_pos ⟨charged, failure⟩]
      · rw [if_neg charged, if_neg (fun both => charged both.1)]
    exact ⟨user.trans same, token.trans same, ⟨user ▸ nonneg, token ▸ nonneg⟩, once⟩

/-! ## What every step keeps -/

def Copies (entries : List Entry) (copy : Midjourney) : Prop :=
  ∃ entry ∈ entries, entry.id = copy.id ∧ entry.price = copy.quota

structure Shaped (store : Store) : Prop where
  bounded : ∀ entry ∈ store.entries, entry.id ≤ store.lastId
  unique : (store.entries.map Entry.id).Nodup
  priced : ∀ entry ∈ store.entries, entry.row.quota = entry.price
  token : ∀ entry ∈ store.entries, entry.token = paid entry
  polled : ∀ task ∈ store.polled, Copies store.entries task
  callbacks : ∀ read ∈ store.callbacks, Copies store.entries read.2

structure SameCharge (entry after : Entry) : Prop where
  id : after.id = entry.id
  price : after.price = entry.price
  charged : after.charged = entry.charged
  token : after.token = entry.token
  quota : after.row.quota = entry.row.quota

section Steps

theorem Shaped.map (shaped : Shaped store) {change : Entry → Entry}
    (same : ∀ entry ∈ store.entries, SameCharge entry (change entry)) :
    Shaped { store with entries := store.entries.map change } := by
  have copies : ∀ copy, Copies store.entries copy → Copies (store.entries.map change) copy := by
    rintro copy ⟨entry, member, id, price⟩
    have kept := same entry member
    exact ⟨_, List.mem_map_of_mem member, kept.id.trans id, kept.price.trans price⟩
  refine ⟨fun after member => ?_, ?_, fun after member => ?_, fun after member => ?_,
    fun task member => copies task (shaped.polled task member),
    fun read member => copies read.2 (shaped.callbacks read member)⟩
  · obtain ⟨entry, inside, rfl⟩ := List.mem_map.mp member
    rw [(same entry inside).id]
    exact shaped.bounded entry inside
  · have ids : (store.entries.map change).map Entry.id = store.entries.map Entry.id := by
      rw [List.map_map]
      exact List.map_congr_left fun entry member => (same entry member).id
    simp only [ids]
    exact shaped.unique
  · obtain ⟨entry, inside, rfl⟩ := List.mem_map.mp member
    have kept := same entry inside
    rw [kept.quota, kept.price]
    exact shaped.priced entry inside
  · obtain ⟨entry, inside, rfl⟩ := List.mem_map.mp member
    have kept := same entry inside
    rw [kept.token, paid, kept.charged, kept.price]
    exact shaped.token entry inside

theorem conserved_map_iff (shaped : Shaped store) (conserved : Conserved store) {change : Entry → Entry}
    (same : ∀ entry ∈ store.entries, SameCharge entry (change entry))
    (kept : ∀ entry, (change entry).user = entry.user ∧ (change entry).refunds = entry.refunds) :
    Conserved { store with entries := store.entries.map change } ↔
      ∀ entry ∈ store.entries, Priced entry → ¬ failed (change entry).row := by
  have sharp : ∀ entry ∈ store.entries,
      (ConservesTask (change entry) ↔ (Priced entry → ¬ failed (change entry).row)) := by
    intro entry member
    obtain ⟨-, price, charged, token, -⟩ := same entry member
    obtain ⟨user, refunds⟩ := kept entry
    have before := (conserves_iff (shaped.token entry member)).mp (conserved entry member)
    have taken : paid (change entry) = paid entry := by rw [paid, charged, price, paid]
    rw [conserves_iff ((token.trans (shaped.token entry member)).trans taken.symm), taken, user, refunds,
      Priced, charged, price]
    exact ⟨fun after => after.2.1, fun standing => ⟨before.1, standing, before.2.2⟩⟩
  refine ⟨fun all entry member => (sharp entry member).mp (all _ (List.mem_map_of_mem member)),
    fun all after member => ?_⟩
  obtain ⟨entry, inside, rfl⟩ := List.mem_map.mp member
  exact (sharp entry inside).mpr (all entry inside)

theorem write_same (quota : row.quota = entry.row.quota) :
    SameCharge entry (entry.write row) := ⟨rfl, rfl, rfl, rfl, quota⟩

theorem copy_quota (shaped : Shaped store) (copies : Copies store.entries copy)
    {entry : Entry} (member : entry ∈ store.entries) (id : entry.id = copy.id) :
    copy.quota = entry.row.quota := by
  obtain ⟨other, inside, sameId, price⟩ := copies
  have found := lookup_of_mem shaped.unique member
  rw [id, ← sameId, lookup_of_mem shaped.unique inside] at found
  rw [shaped.priced entry member, ← price, Option.some.inj found]

theorem save_same (shaped : Shaped store) (copies : Copies store.entries copy) :
    ∀ entry ∈ store.entries, SameCharge entry (if entry.id = copy.id then entry.write copy else entry) := by
  intro entry member
  split
  · exact write_same (copy_quota shaped copies member ‹_›)
  · exact ⟨rfl, rfl, rfl, rfl, rfl⟩

theorem bulk_same (meant : Midjourney → Bool) (reason : Option String) (entry : Entry) :
    SameCharge entry (if meant entry.row then entry.write (failRow reason entry.row) else entry) := by
  split
  · exact write_same rfl
  · exact ⟨rfl, rfl, rfl, rfl, rfl⟩

theorem save_shaped (shaped : Shaped store) (copies : Copies store.entries copy) :
    Shaped (saveRow copy store) :=
  shaped.map (save_same shaped copies)

theorem conserved_standing (shaped : Shaped store) (conserved : Conserved store)
    (member : entry ∈ store.entries) : Priced entry → ¬ failed entry.row :=
  ((conserves_iff (shaped.token entry member)).mp (conserved entry member)).2.1

theorem save_conserved_iff (shaped : Shaped store) (conserved : Conserved store)
    (copies : Copies store.entries copy) :
    Conserved (saveRow copy store) ↔
      ∀ entry ∈ store.entries, entry.id = copy.id → Priced entry → ¬ failed copy := by
  refine (conserved_map_iff shaped conserved (save_same shaped copies) fun entry => ?_).trans ?_
  · split <;> exact ⟨rfl, rfl⟩
  · refine forall₂_congr fun entry member => ?_
    by_cases mine : entry.id = copy.id
    · simp only [mine, true_imp_iff]
      exact Iff.rfl
    · simp only [mine, false_imp_iff, iff_true]
      exact conserved_standing shaped conserved member

theorem bulk_conserved_iff (shaped : Shaped store) (conserved : Conserved store)
    (meant : Midjourney → Bool) (reason : Option String) :
    Conserved (bulkFail meant reason store) ↔
      ∀ entry ∈ store.entries, meant entry.row = true → ¬ Priced entry := by
  refine (conserved_map_iff shaped conserved (fun entry _ => bulk_same meant reason entry)
    fun entry => ?_).trans ?_
  · split <;> exact ⟨rfl, rfl⟩
  · refine forall₂_congr fun entry member => ?_
    by_cases mine : meant entry.row = true
    · have failure : failed (entry.write (failRow reason entry.row)).row := ⟨rfl, rfl⟩
      simp only [mine, if_true, true_imp_iff]
      exact ⟨fun all priced => all priced failure, fun none_ priced => absurd priced none_⟩
    · simp only [mine, Bool.false_eq_true, if_false, false_imp_iff, iff_true]
      exact conserved_standing shaped conserved member

theorem insert_conserved_iff (conserved : Conserved store)
    (standing : ¬ failed row) :
    Conserved (insertTask row charges store) ↔ (charges = true → 0 ≤ row.quota) := by
  let entry : Entry :=
    { row := row
      price := row.quota
      charged := charges
      user := if charges then row.quota else 0
      token := if charges then row.quota else 0 }
  have sharp : ConservesTask entry ↔ (charges = true → 0 ≤ row.quota) := by
    have token : entry.token = paid entry := rfl
    rw [conserves_iff token]
    refine ⟨fun all charged => ?_, fun nonneg => ⟨rfl, fun _ => standing, ?_, Nat.zero_le 1⟩⟩
    · have taken := all.2.2.1
      rwa [paid, if_pos charged] at taken
    · unfold paid
      split
      · exact nonneg ‹_›
      · exact Int.le_refl 0
  rw [← sharp]
  refine ⟨fun all => all entry (List.mem_append_right _ (List.mem_singleton_self _)), fun new other member => ?_⟩
  rcases List.mem_append.mp member with old | last
  · exact conserved other old
  · rw [List.mem_singleton.mp last]
    exact new

theorem insert_shaped (shaped : Shaped store) (new : row.id = store.lastId + 1)
    (charges : Bool) : Shaped (insertTask row charges store) := by
  have copies : ∀ copy, Copies store.entries copy → Copies (insertTask row charges store).entries copy :=
    fun copy ⟨entry, member, same⟩ => ⟨entry, List.mem_append_left _ member, same⟩
  refine ⟨fun entry member => ?_, ?_, fun entry member => ?_, fun entry member => ?_,
    fun task member => copies task (shaped.polled task member),
    fun read member => copies read.2 (shaped.callbacks read member)⟩
  · simp only [insertTask]
    rcases List.mem_append.mp member with old | last
    · have := shaped.bounded entry old
      omega
    · rw [List.mem_singleton.mp last]
      exact new.le
  · simp only [insertTask, List.map_append, List.map_cons, List.map_nil]
    refine List.nodup_append.mpr ⟨shaped.unique, List.nodup_singleton _, ?_⟩
    rintro id before last after rfl
    obtain ⟨entry, member, same⟩ := List.mem_map.mp before
    have bound := shaped.bounded entry member
    have fresh : id = row.id := List.mem_singleton.mp after
    omega
  · rcases List.mem_append.mp member with old | last
    · exact shaped.priced entry old
    · rw [List.mem_singleton.mp last]
  · rcases List.mem_append.mp member with old | last
    · exact shaped.token entry old
    · rw [List.mem_singleton.mp last]
      rfl

theorem submitted_task_facts (id : Int) (req : Submission) :
    (submittedTask id req).id = id ∧ (submittedTask id req).quota = req.quota ∧
      ¬ failed (submittedTask id req) := by
  have existing : (existingTask req (answeredTask id req)).1.id = id ∧
      (existingTask req (answeredTask id req)).1.quota = req.quota ∧
      ¬ failed (existingTask req (answeredTask id req)).1 := by
    unfold existingTask
    split
    · split
      · dsimp only
        split
        · rename_i success
          refine ⟨rfl, rfl, fun failure => ?_⟩
          have := failure.2
          simp [success] at this
        · exact ⟨rfl, rfl, fun failure => by simp [failed, answeredTask] at failure⟩
      · exact ⟨rfl, rfl, fun failure => by simp [failed, answeredTask] at failure⟩
    · exact ⟨rfl, rfl, fun failure => by simp [failed, answeredTask] at failure⟩
  unfold submittedTask
  dsimp only
  split
  · exact ⟨existing.1, existing.2.1, fun failure => by simp [failed] at failure⟩
  · exact existing

end Steps

/-! ## Which steps conserve -/

section Guards
variable {store : Store}

def FailsNoPriced (store : Store) : Event → Prop
  | .submit req => (consumeQuota req && req.response.statusCode = 200) = true → 0 ≤ req.quota
  | .swapFace req => (req.response.statusCode = 200 && req.response.code = 1) = true → 0 ≤ req.quota
  | .callback _ _ => True
  | .save call => ∀ row, savedRow call store = some row →
    ∀ entry ∈ store.entries, entry.id = row.id → Priced entry → ¬ failed row
  | .round => True
  | .nullTasks => ∀ entry ∈ store.entries, isNullTask store entry.row = true → ¬ Priced entry
  | .lostChannel channelId =>
    ∀ entry ∈ store.entries, isChannelTask store channelId entry.row = true → ¬ Priced entry
  | .report nowMs item => ∀ task, polledTask item.mjId store = some task →
    checkMjTaskNeedUpdate task (timedOut nowMs task item) = true → wins task store = true →
    task.quota ≠ 0 → reportsFailure (timedOut nowMs task item) = false

theorem polled_task_mem {task : Midjourney} (found : polledTask mjId store = some task) :
    task ∈ store.polled :=
  (List.mem_filter.mp (List.mem_of_getLast? found)).1

theorem saved_row_mem (found : savedRow call store = some row) :
    ∃ read ∈ store.callbacks, read.2 = row := by
  obtain ⟨read, inside, rfl⟩ := Option.map_eq_some_iff.mp found
  exact ⟨read, List.mem_of_find?_eq_some inside, rfl⟩

theorem polled_shaped (shaped : Shaped store) {after : Midjourney} (member : task ∈ store.polled)
    (id : after.id = task.id) (quota : after.quota = task.quota) :
    Shaped { store with polled := update Midjourney.id store.polled task.id fun _ => after } := by
  refine ⟨shaped.bounded, shaped.unique, shaped.priced, shaped.token, fun row inside => ?_,
    shaped.callbacks⟩
  obtain ⟨old, stored, rfl⟩ := List.mem_map.mp inside
  split
  · obtain ⟨entry, held, same, price⟩ := shaped.polled task member
    exact ⟨entry, held, same.trans id.symm, price.trans quota.symm⟩
  · exact shaped.polled old stored

theorem reported_standing (standing : reportsFailure item = false)
    (task : Midjourney) : ¬ failed (reportedTask item task) := by
  rintro ⟨progress, status⟩
  simp only [reportedTask, standing, Bool.false_eq_true, if_false] at progress status
  simp [reportsFailure, progress, status] at standing

theorem refund_breaks (member : entry ∈ store.entries) (same : entry.user = entry.token)
    {quota : Int} (price : quota ≠ 0) :
    ¬ Conserved { store with entries := update Entry.id store.entries entry.id (refundEntry quota) } := by
  intro after
  have refunded : refundEntry quota entry ∈ update Entry.id store.entries entry.id (refundEntry quota) :=
    List.mem_map.mpr ⟨entry, member, if_pos rfl⟩
  obtain ⟨user, token, -, -⟩ := after _ refunded
  have taken : entry.user - quota = entry.token := user.trans token.symm
  omega

theorem refund_shaped (shaped : Shaped store) (taskId quota : Int) :
    Shaped { store with entries := update Entry.id store.entries taskId (refundEntry quota) } := by
  refine shaped.map fun entry _ => ?_
  split <;> exact ⟨rfl, rfl, rfl, rfl, rfl⟩

theorem wins_entry (won : wins task store = true) :
    ∃ entry ∈ store.entries, entry.id = task.id := by
  unfold wins at won
  cases found : lookup Entry.id store.entries task.id with
  | none =>
    rw [found] at won
    cases won
  | some entry => exact ⟨entry, lookup_mem found, lookup_key found⟩

theorem report_shaped (shaped : Shaped store) (nowMs : Int) (item : MidjourneyDto) :
    Shaped (pollReport nowMs item store) := by
  unfold pollReport
  split
  · exact ⟨shaped.bounded, shaped.unique, shaped.priced, shaped.token,
      fun _ member => absurd member List.not_mem_nil, shaped.callbacks⟩
  · rename_i task found
    have member := polled_task_mem found
    dsimp only
    split
    · exact shaped
    · let reported := reportedTask (timedOut nowMs task item) task
      have polled : Shaped { store with polled := update Midjourney.id store.polled task.id fun _ => reported } :=
        polled_shaped shaped member rfl rfl
      split
      · exact polled
      · have copies : Copies store.entries reported := shaped.polled task member
        have saved := save_shaped polled copies
        split
        · exact refund_shaped saved task.id task.quota
        · exact saved

theorem report_conserved_iff (shaped : Shaped store) (conserved : Conserved store) (nowMs : Int)
    (item : MidjourneyDto) :
    Conserved (pollReport nowMs item store) ↔ FailsNoPriced store (.report nowMs item) := by
  unfold pollReport
  split
  · rename_i absent
    refine iff_of_true conserved fun task found => ?_
    rw [absent] at found
    cases found
  · rename_i task found
    have guard : FailsNoPriced store (.report nowMs item) ↔
        (checkMjTaskNeedUpdate task (timedOut nowMs task item) = true → wins task store = true →
          task.quota ≠ 0 → reportsFailure (timedOut nowMs task item) = false) :=
      ⟨fun all => all task found, fun holds other same => Option.some.inj (found.symm.trans same) ▸ holds⟩
    have member := polled_task_mem found
    have copies := shaped.polled task member
    dsimp only
    rw [guard]
    split
    · rename_i unneeded
      exact iff_of_true conserved fun needed => by simp [needed] at unneeded
    · rename_i needed
      split
      · rename_i lost
        exact iff_of_true conserved fun _ won => by simp [won] at lost
      · rename_i won
        simp only [Bool.not_eq_true', Bool.not_eq_false] at needed won
        let reported := reportedTask (timedOut nowMs task item) task
        let polled : Store := { store with polled := update Midjourney.id store.polled task.id fun _ => reported }
        have shapedPolled : Shaped polled := polled_shaped shaped member rfl rfl
        split
        · -- what is given back to the user stays taken from the token
          rename_i refunds
          simp only [Bool.and_eq_true, decide_eq_true_eq] at refunds
          refine iff_of_false ?_ fun holds => ?_
          · obtain ⟨entry, inside, id⟩ := wins_entry won
            have right_ := conserved entry inside
            have written : entry.write reported ∈ (saveRow reported polled).entries :=
              List.mem_map.mpr ⟨entry, inside, if_pos id⟩
            rw [← id]
            exact refund_breaks written (right_.user.trans right_.token.symm) refunds.2
          · rw [holds needed won refunds.2] at refunds
            cases refunds.1
        · rename_i kept
          simp only [Bool.and_eq_true, decide_eq_true_eq, not_and, not_not] at kept
          have copied : Copies polled.entries reported := copies
          refine iff_of_true ((save_conserved_iff shapedPolled conserved copied).mpr ?_) fun _ _ price => ?_
          · rintro entry inside id ⟨charged, price⟩ failure
            have quota := copy_quota shaped copies inside id
            rw [shaped.priced entry inside] at quota
            refine reported_standing ?_ task failure
            by_contra reports
            exact price (quota.symm.trans (kept (by simpa using reports)))
          · by_contra reports
            exact price (kept (by simpa using reports))

theorem step_shaped (shaped : Shaped store) (event : Event) : Shaped (step store event) := by
  cases event with
  | submit req => exact insert_shaped shaped (submitted_task_facts _ req).1 _
  | swapFace req => exact insert_shaped shaped rfl _
  | callback call req =>
    simp only [step, readCallback]
    split
    · exact shaped
    · rename_i entry found
      refine ⟨shaped.bounded, shaped.unique, shaped.priced, shaped.token, shaped.polled, fun read member => ?_⟩
      rcases List.mem_cons.mp member with rfl | old
      · have inside := List.mem_of_find?_eq_some found
        exact ⟨entry, inside, rfl, (shaped.priced entry inside).symm⟩
      · exact shaped.callbacks read old
  | save call =>
    simp only [step, saveCallback]
    split
    · exact shaped
    · rename_i row found
      obtain ⟨read, inside, rfl⟩ := saved_row_mem found
      exact save_shaped shaped (shaped.callbacks read inside)
  | round =>
    refine ⟨shaped.bounded, shaped.unique, shaped.priced, shaped.token, fun task member => ?_,
      shaped.callbacks⟩
    obtain ⟨entry, inside, rfl⟩ := List.mem_map.mp (List.mem_filter.mp member).1
    exact ⟨entry, inside, rfl, (shaped.priced entry inside).symm⟩
  | nullTasks => exact shaped.map fun entry _ => bulk_same (isNullTask store) none entry
  | lostChannel channelId => exact shaped.map fun entry _ => bulk_same (isChannelTask store channelId) _ entry
  | report nowMs item => exact report_shaped shaped nowMs item

theorem step_conserved_iff (shaped : Shaped store) (conserved : Conserved store) (event : Event) :
    Conserved (step store event) ↔ FailsNoPriced store event := by
  cases event with
  | submit req =>
    obtain ⟨-, quota, standing⟩ := submitted_task_facts (store.lastId + 1) req
    simp only [step, relayMidjourneySubmit, insert_conserved_iff conserved standing, quota]
    exact Iff.rfl
  | swapFace req =>
    simp only [step, relaySwapFace]
    exact insert_conserved_iff conserved fun failure => by simp [failed] at failure
  | callback call req =>
    refine iff_of_true ?_ trivial
    simp only [step, readCallback]
    split <;> exact conserved
  | save call =>
    simp only [step, saveCallback]
    split
    · rename_i absent
      refine iff_of_true conserved fun row found => ?_
      rw [absent] at found
      cases found
    · rename_i row found
      obtain ⟨read, inside, same⟩ := saved_row_mem found
      rw [save_conserved_iff shaped conserved (same ▸ shaped.callbacks read inside)]
      exact ⟨fun all other again => Option.some.inj (found.symm.trans again) ▸ all,
        fun all => all row found⟩
  | round => exact iff_of_true conserved trivial
  | nullTasks => exact bulk_conserved_iff shaped conserved (isNullTask store) none
  | lostChannel channelId =>
    exact bulk_conserved_iff shaped conserved (isChannelTask store channelId) _
  | report nowMs item => exact report_conserved_iff shaped conserved nowMs item

end Guards

/-! ## Every run -/

theorem empty_shaped : Shaped {} where
  bounded := fun _ member => absurd member List.not_mem_nil
  unique := List.nodup_nil
  priced := fun _ member => absurd member List.not_mem_nil
  token := fun _ member => absurd member List.not_mem_nil
  polled := fun _ member => absurd member List.not_mem_nil
  callbacks := fun _ member => absurd member List.not_mem_nil

/-- Every task conserves quota at every time in exactly the runs that never fail
a priced one. -/
theorem conserved_iff (events : List Event) :
    (∀ done, done <+: events → Conserved (run step {} done)) ↔ Guarded step FailsNoPriced {} events := by
  have empty : Conserved {} := fun _ member => absurd member List.not_mem_nil
  exact @always_safe_iff_guarded _ _ step FailsNoPriced (fun store => Shaped store ∧ Conserved store)
    Conserved
    (fun _ event guard held => ⟨step_shaped held.1 event, (step_conserved_iff held.1 held.2 event).mpr guard⟩)
    (fun _ event held => step_conserved_iff held.1 held.2 event) {} events ⟨empty_shaped, empty⟩ empty

def failedImagine : List Event :=
  [.submit { userId := 1, action := "IMAGINE", quota := 100, response := { code := 1, result := "17" } },
    .round,
    .report 60000 { mjId := "17", status := "FAILURE", progress := "100%", failReason := "banned prompt" }]

/-- The user gets the quota back, and the token does not. -/
theorem failed_task_keeps_token_quota :
    ¬ ∀ done, done <+: failedImagine → Conserved (run step {} done) := by
  intro all
  have last : (run step {} failedImagine).entries.map (fun entry => (entry.user, entry.token)) = [(0, 100)] := by
    decide +kernel
  obtain ⟨entry, member, taken⟩ := List.mem_map.mp (last ▸ List.mem_singleton_self (0, 100))
  have right_ := all failedImagine List.prefix_rfl entry member
  have same := right_.user.trans right_.token.symm
  rw [show entry.user = 0 from congrArg Prod.fst taken, show entry.token = 100 from congrArg Prod.snd taken]
    at same
  cases same

end NewApi.MidjourneyTasks
