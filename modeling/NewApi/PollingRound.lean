import NewApi.Regrouping
import NewApi.SongSync
import Mathlib.Data.List.Dedup

/-! One round of the polling of tasks. The unfinished tasks are sorted by
platform, and those of a platform into the upstream ids of each channel and a
map from the ids to the tasks. The map is shared by the channels: the tasks of
a channel are asked for by their ids, and what stands for an id is the last
task of the platform that has it. -/
namespace NewApi.PollingRound
open NewApi.GoText NewApi.Regrouping NewApi.TaskRows NewApi.TaskPolling NewApi.SongSync

/-! ## Tasks and channels -/

/-- A row as a round reads it: its channel, its action, and the key that its
submission used. -/
structure PolledTask extends Task where
  channelId : Int
  action : String := ""
  key : String := ""
  channelMultiKeyIndex : Option Int := none
  deriving DecidableEq

abbrev PolledTask.upstreamID (task : PolledTask) : String := task.toTask.getUpstreamTaskID

structure PollingChannel where
  typeBaseURL : String := ""
  baseURL : String := ""
  key : String
  keys : List String := []
  proxy : String := ""

/-- `service/task_polling.go::taskPollingKey`. -/
def taskPollingKey (channel : PollingChannel) (task : PolledTask) : String :=
  if trimSpace task.key ≠ "" then trimSpace task.key
  else match task.channelMultiKeyIndex with
  | none => trimSpace channel.key
  | some index =>
    if 0 ≤ index ∧ trimSpace (channel.keys[index.toNat]?.getD "") ≠ "" then
      trimSpace (channel.keys[index.toNat]?.getD "")
    else trimSpace channel.key

/-- What an upstream is asked for. -/
inductive FetchBody where
  | task (taskID action : String)
  | ids (ids : List String)
  deriving DecidableEq

/-- The arguments of `FetchTask`. -/
structure Fetch where
  baseURL : String
  key : String
  body : FetchBody
  proxy : String
  deriving DecidableEq

def videoFetch (channel : PollingChannel) (task : PolledTask) : Fetch where
  baseURL := if channel.baseURL ≠ "" then channel.baseURL else channel.typeBaseURL
  key := taskPollingKey channel task
  body := .task task.upstreamID task.action
  proxy := channel.proxy

def songsFetch (channel : PollingChannel) (taskIds : List String) : Fetch where
  baseURL := channel.baseURL
  key := channel.key
  body := .ids taskIds
  proxy := channel.proxy

/-! ## Sorting -/

/-- The maps of a platform: the ids of each channel, the tasks by their ids, and
the rows without one. -/
structure Batch where
  taskChannelM : Int → List String := fun _ => []
  taskM : String → Option PolledTask := fun _ => none
  nullTaskIds : List Int := []

def Batch.add (batch : Batch) (task : PolledTask) : Batch :=
  if task.upstreamID = "" then { batch with nullTaskIds := batch.nullTaskIds ++ [task.id] }
  else
    { batch with
      taskM := Function.update batch.taskM task.upstreamID (some task)
      taskChannelM := Function.update batch.taskChannelM task.channelId
        (batch.taskChannelM task.channelId ++ [task.upstreamID]) }

def sortTasks (tasks : List PolledTask) : Batch := tasks.foldl Batch.add {}

/-! ## The round -/

/-- What a round finds: the channel cache when a platform's channel is asked
for, the adaptors, the bulk failures that are not stored, and the answers, to
each request for a video in turn and to the one for the songs of a channel;
without a usable answer there are no items. -/
structure World where
  cacheGetChannel : TaskPlatform → Int → Option PollingChannel
  adaptor : TaskPlatform → Bool
  unsentFails : TaskPlatform → Bool := fun _ => false
  missingFails : TaskPlatform → Int → Bool := fun _ _ => false
  videoPoll : TaskPlatform → Int → Nat → VideoPoll
  songItems : Int → List SongItem

/-- What a round does in turn: it fails rows without an id, and the tasks of a
channel that is missing; it asks for a video and applies the answer to a task;
it asks for songs and applies each item to the task it names, if there is one. -/
inductive Entry where
  | unsent (ids : List Int) (saveFails : Bool)
  | missing (channelId : Int) (failReason : String) (tasks : List PolledTask) (saveFails : Bool)
  | video (channelId : Int) (fetch : Fetch) (task : PolledTask) (poll : VideoPoll)
  | songs (channelId : Int) (fetch : Fetch) (tasks : List PolledTask)
      (applied : List (SongItem × Option PolledTask))

def applyItems (taskM : String → Option PolledTask) : List SongItem → List (SongItem × Option PolledTask)
  | [] => []
  | item :: rest =>
    match taskM item.taskID with
    | none => [(item, none)]
    | some task => (item, some task) :: applyItems taskM rest

/-- The loop of `service/task_polling.go::updateVideoTasks` from its `turn`. -/
def updateVideoSingleTasks (world : World) (platform : TaskPlatform) (channelId : Int)
    (channel : PollingChannel) (taskM : String → Option PolledTask) :
    Nat → List String → List Entry
  | _, [] => []
  | turn, taskId :: rest =>
    ((taskM taskId).map fun task =>
      .video channelId (videoFetch channel task) task (world.videoPoll platform channelId turn)).toList ++
      updateVideoSingleTasks world platform channelId channel taskM (turn + 1) rest

def missingReason (platform : TaskPlatform) (channelId : Int) : String :=
  if platform = .suno then s!"获取渠道信息失败，请联系管理员，渠道ID：{channelId}"
  else s!"Failed to get channel info, channel ID: {channelId}"

/-- `service/task_polling.go::updateVideoTasks`, and `updateSunoTasks` for the
songs. -/
def updateChannel (world : World) (platform : TaskPlatform) (taskM : String → Option PolledTask)
    (channelId : Int) (taskIds : List String) : List Entry :=
  if taskIds = [] then []
  else match world.cacheGetChannel platform channelId with
  | none =>
    [.missing channelId (missingReason platform channelId) (taskIds.filterMap taskM)
      (world.missingFails platform channelId)]
  | some channel =>
    if !world.adaptor platform then []
    else if platform = .suno then
      [.songs channelId (songsFetch channel taskIds) (taskIds.filterMap taskM)
        (applyItems taskM (world.songItems channelId))]
    else updateVideoSingleTasks world platform channelId channel taskM 0 taskIds

/-- `service/task_polling.go::DispatchPlatformUpdate`. -/
def dispatchPlatformUpdate (world : World) (platform : TaskPlatform) (channelIds : List Int)
    (batch : Batch) : List Entry :=
  if platform = .midjourney then []
  else channelIds.flatMap fun channelId =>
    updateChannel world platform batch.taskM channelId (batch.taskChannelM channelId)

def platformBatch (tasks : List PolledTask) (platform : TaskPlatform) : Batch :=
  sortTasks (tasks.filter (·.platform = platform))

structure Order (tasks : List PolledTask) where
  platforms : List TaskPlatform
  channelIds : TaskPlatform → List Int
  platforms_nodup : platforms.Nodup
  platforms_keys : ∀ platform, platform ∈ platforms ↔ ∃ task ∈ tasks, task.platform = platform
  channels_nodup : ∀ platform, (channelIds platform).Nodup
  channels_keys : ∀ platform channelId,
    channelId ∈ channelIds platform ↔ (platformBatch tasks platform).taskChannelM channelId ≠ []

structure Round where
  tasks : List PolledTask
  order : Order tasks
  world : World

def Round.platformEntries (round : Round) (platform : TaskPlatform) : List Entry :=
  let batch := platformBatch round.tasks platform
  (if batch.nullTaskIds = [] then []
    else [.unsent batch.nullTaskIds (round.world.unsentFails platform)]) ++
    dispatchPlatformUpdate round.world platform (round.order.channelIds platform) batch

def Entry.panics : Entry → Bool
  | .songs _ _ _ applied => applied.any fun item => item.2.isNone
  | _ => false

def untilPanic : List Entry → List Entry
  | [] => []
  | entry :: rest => if entry.panics then [entry] else entry :: untilPanic rest

/-- `service/task_polling.go::taskPollingOnce`, after the sweep. -/
def Round.entries (round : Round) : List Entry :=
  untilPanic (round.order.platforms.flatMap round.platformEntries)

/-! ## What a round is to do -/

structure Visit where
  channelId : Int
  fetch : Fetch
  task : PolledTask
  deriving DecidableEq

def Entry.visits : Entry → List Visit
  | .video channelId fetch task _ => [⟨channelId, fetch, task⟩]
  | .songs channelId fetch tasks _ => tasks.map (⟨channelId, fetch, ·⟩)
  | _ => []

def Entry.Own : Entry → Prop
  | .unsent .. => True
  | .missing channelId _ tasks _ => ∀ task ∈ tasks, task.channelId = channelId
  | .video channelId _ task _ => task.channelId = channelId
  | .songs channelId _ _ applied => ∀ item ∈ applied, ∃ task, item.2 = some task ∧
      task.channelId = channelId

def Round.polledOn (round : Round) (task : PolledTask) : Option PollingChannel :=
  if task.platform = .midjourney ∨ task.upstreamID = "" ∨ round.world.adaptor task.platform = false
  then none
  else round.world.cacheGetChannel task.platform task.channelId

def Round.fetchFor (round : Round) (channel : PollingChannel) (channelId : Int)
    (task : PolledTask) : Fetch :=
  if task.platform = .suno then
    songsFetch channel ((platformBatch round.tasks .suno).taskChannelM channelId)
  else videoFetch channel task

def Round.ownVisit (round : Round) (task : PolledTask) : Option Visit :=
  (round.polledOn task).map fun channel =>
    ⟨task.channelId, round.fetchFor channel task.channelId task, task⟩

/-- Every task that can be polled is asked for once, on its own channel, and
every answer is applied to a task of the channel that gave it. -/
structure Round.PollsOwn (round : Round) : Prop where
  polled : (round.entries.flatMap Entry.visits).Perm (round.tasks.filterMap round.ownVisit)
  own : ∀ entry ∈ round.entries, entry.Own

def Round.standsFor (round : Round) (task : PolledTask) : Option PolledTask :=
  (platformBatch round.tasks task.platform).taskM task.upstreamID

/-- A task that can be polled stands for its own id, and the id of one whose
channel is missing stands for a task of that channel; and the songs that a
channel answers with are songs of that channel. -/
structure Round.OwnIds (round : Round) : Prop where
  polled : ∀ task ∈ round.tasks, (round.polledOn task).isSome → round.standsFor task = some task
  missing : ∀ task ∈ round.tasks, task.platform ≠ .midjourney → task.upstreamID ≠ "" →
    round.world.cacheGetChannel task.platform task.channelId = none →
    ∀ other ∈ round.standsFor task, other.channelId = task.channelId
  answers : ∀ task ∈ round.tasks, task.platform = .suno → (round.polledOn task).isSome →
    ∀ item ∈ round.world.songItems task.channelId, ∃ song,
      (platformBatch round.tasks .suno).taskM item.taskID = some song ∧ song.channelId = task.channelId

/-! ## The maps -/

def sent (tasks : List PolledTask) : List PolledTask := tasks.filter (·.upstreamID ≠ "")

theorem add_unsent (unsent : task.upstreamID = "") (batch : Batch) :
    (batch.add task).taskM = batch.taskM ∧ (batch.add task).taskChannelM = batch.taskChannelM := by
  rw [Batch.add, if_pos unsent]
  exact ⟨rfl, rfl⟩

theorem add_sent (sent : task.upstreamID ≠ "") (batch : Batch) :
    (batch.add task).taskM = Function.update batch.taskM task.upstreamID (some task) ∧
      (batch.add task).taskChannelM = Function.update batch.taskChannelM task.channelId
        (batch.taskChannelM task.channelId ++ [task.upstreamID]) := by
  rw [Batch.add, if_neg sent]
  exact ⟨rfl, rfl⟩

theorem sent_cons (task : PolledTask) (rest : List PolledTask) :
    sent (task :: rest) = if task.upstreamID = "" then sent rest else task :: sent rest := by
  by_cases unsent : task.upstreamID = "" <;> simp [sent, unsent]

theorem sorted_task (tasks : List PolledTask) (upstreamID : String) :
    (sortTasks tasks).taskM upstreamID = lastWith PolledTask.upstreamID (sent tasks) upstreamID := by
  have folded : ∀ batch : Batch, (tasks.foldl Batch.add batch).taskM =
      (sent tasks).foldl (fun (map : String → Option PolledTask) task =>
        Function.update map task.upstreamID (some task)) batch.taskM := by
    induction tasks with
    | nil => exact fun _ => rfl
    | cons task rest ih =>
      intro batch
      rw [List.foldl_cons, ih, sent_cons]
      by_cases unsent : task.upstreamID = ""
      · rw [if_pos unsent, (add_unsent unsent batch).1]
      · rw [if_neg unsent, List.foldl_cons, (add_sent unsent batch).1]
  rw [sortTasks, folded, last_with_fold]
  exact Option.or_none

theorem sorted_channel (tasks : List PolledTask) (channelId : Int) :
    (sortTasks tasks).taskChannelM channelId =
      ((sent tasks).filter (·.channelId = channelId)).map PolledTask.upstreamID := by
  have folded : ∀ batch : Batch, (tasks.foldl Batch.add batch).taskChannelM channelId =
      batch.taskChannelM channelId ++
        ((sent tasks).filter (·.channelId = channelId)).map PolledTask.upstreamID := by
    induction tasks with
    | nil => exact fun _ => (List.append_nil _).symm
    | cons task rest ih =>
      intro batch
      rw [List.foldl_cons, ih, sent_cons]
      by_cases unsent : task.upstreamID = ""
      · rw [if_pos unsent, (add_unsent unsent batch).2]
      · rw [if_neg unsent, (add_sent unsent batch).2]
        by_cases own : task.channelId = channelId
        · rw [List.filter_cons_of_pos (by simpa using own), List.map_cons, own,
            Function.update_self, List.append_assoc, List.singleton_append]
        · rw [List.filter_cons_of_neg (by simpa using own), Function.update_of_ne (Ne.symm own)]
  rw [sortTasks, folded]
  rfl

section Round
variable {round : Round} {task other : PolledTask} {platform : TaskPlatform} {channelId : Int}

def Round.onChannel (round : Round) (platform : TaskPlatform) (channelId : Int) : List PolledTask :=
  (sent (round.tasks.filter (·.platform = platform))).filter (·.channelId = channelId)

theorem mem_on_channel : task ∈ round.onChannel platform channelId ↔
    task ∈ round.tasks ∧ task.platform = platform ∧ task.upstreamID ≠ "" ∧ task.channelId = channelId := by
  simp only [Round.onChannel, sent, List.mem_filter, decide_eq_true_eq, ne_eq, and_assoc]

theorem channel_ids (round : Round) (platform : TaskPlatform) (channelId : Int) :
    (platformBatch round.tasks platform).taskChannelM channelId =
      (round.onChannel platform channelId).map PolledTask.upstreamID :=
  sorted_channel _ _

theorem batch_task_spec
    (found : (platformBatch round.tasks platform).taskM upstreamID = some other) :
    other ∈ round.tasks ∧ other.platform = platform ∧ other.upstreamID = upstreamID := by
  rw [platformBatch, sorted_task] at found
  obtain ⟨member, same⟩ := last_with_spec found
  simp only [sent, List.mem_filter, decide_eq_true_eq] at member
  exact ⟨member.1.1, member.1.2, same⟩

theorem stands_own (found : round.standsFor task = some other) : round.standsFor other = some other := by
  have spec := batch_task_spec found
  unfold Round.standsFor at found ⊢
  rw [spec.2.1]
  rw [platformBatch, sorted_task] at found ⊢
  exact last_with_own found

/-! ## What is asked -/

def Round.ledVisit (round : Round) (task : PolledTask) : Option Visit :=
  (round.polledOn task).bind fun channel => (round.standsFor task).map fun other =>
    ⟨task.channelId, round.fetchFor channel task.channelId other, other⟩

theorem single_visits (world : World) {taskM : String → Option PolledTask}
    (turn : Nat) (taskIds : List String) :
    (updateVideoSingleTasks world platform channelId channel taskM turn taskIds).flatMap
        Entry.visits =
      (taskIds.filterMap taskM).map fun task => ⟨channelId, videoFetch channel task, task⟩ := by
  induction taskIds generalizing turn with
  | nil => rfl
  | cons taskId rest ih =>
    rw [updateVideoSingleTasks, List.flatMap_append, ih]
    cases found : taskM taskId with
    | none => rw [List.filterMap_cons_none found]; rfl
    | some task => rw [List.filterMap_cons_some found]; rfl

theorem answered_visits (taskIds : List String)
    (asked : taskIds ≠ []) (held : round.world.cacheGetChannel platform channelId = some channel)
    (adapted : round.world.adaptor platform = true)
    (ids : (platformBatch round.tasks platform).taskChannelM channelId = taskIds) :
    (updateChannel round.world platform (platformBatch round.tasks platform).taskM channelId
        taskIds).flatMap Entry.visits =
      (taskIds.filterMap (platformBatch round.tasks platform).taskM).map fun task =>
        ⟨channelId, round.fetchFor channel channelId task, task⟩ := by
  have ours : ∀ task ∈ taskIds.filterMap (platformBatch round.tasks platform).taskM,
      task.platform = platform := by
    intro task member
    obtain ⟨upstreamID, -, found⟩ := List.mem_filterMap.mp member
    exact (batch_task_spec found).2.1
  rw [updateChannel, if_neg asked, held]
  dsimp only
  rw [adapted, if_neg (by decide)]
  by_cases song : platform = .suno
  · rw [if_pos song, List.flatMap_singleton]
    apply List.map_congr_left
    intro task member
    rw [Round.fetchFor, if_pos ((ours task member).trans song), ← song, ids]
  · rw [if_neg song, single_visits]
    apply List.map_congr_left
    intro task member
    rw [Round.fetchFor, if_neg (fun same => song ((ours task member).symm.trans same))]

theorem channel_visits (round : Round) (polled : platform ≠ .midjourney)
    (channelId : Int) :
    (updateChannel round.world platform (platformBatch round.tasks platform).taskM channelId
        ((platformBatch round.tasks platform).taskChannelM channelId)).flatMap Entry.visits =
      (round.onChannel platform channelId).filterMap round.ledVisit := by
  have led : ∀ task ∈ round.onChannel platform channelId, round.ledVisit task =
      (if round.world.adaptor platform = false then none
        else round.world.cacheGetChannel platform channelId).bind fun channel =>
        ((platformBatch round.tasks platform).taskM task.upstreamID).map fun other =>
          ⟨channelId, round.fetchFor channel channelId other, other⟩ := by
    intro task member
    obtain ⟨-, rfl, asked, rfl⟩ := mem_on_channel.mp member
    simp only [Round.ledVisit, Round.polledOn, Round.standsFor, polled, asked, false_or]
  rw [List.filterMap_congr led]
  by_cases asked : (platformBatch round.tasks platform).taskChannelM channelId = []
  · have none_ : round.onChannel platform channelId = [] := by
      rwa [channel_ids, List.map_eq_nil_iff] at asked
    rw [updateChannel, if_pos asked, none_]
    rfl
  cases held : round.world.cacheGetChannel platform channelId with
  | none =>
    rw [updateChannel, if_neg asked, held]
    simp [Entry.visits]
  | some channel =>
    cases adapted : round.world.adaptor platform with
    | false =>
      rw [updateChannel, if_neg asked, held]
      simp [adapted]
    | true =>
      rw [answered_visits _ asked held adapted rfl, channel_ids, List.filterMap_map, List.map_filterMap]
      rfl

theorem led_unsent (unsent : task.upstreamID = "") : round.ledVisit task = none := by
  rw [Round.ledVisit, Round.polledOn, if_pos (.inr (.inl unsent))]
  rfl

theorem led_midjourney (own : task.platform = .midjourney) : round.ledVisit task = none := by
  rw [Round.ledVisit, Round.polledOn, if_pos (.inl own)]
  rfl

theorem channel_listed (round : Round) (platform : TaskPlatform) :
    ∀ task ∈ sent (round.tasks.filter (·.platform = platform)),
      task.channelId ∈ round.order.channelIds platform := by
  intro task member
  have held : task ∈ round.onChannel platform task.channelId :=
    List.mem_filter.mpr ⟨member, decide_eq_true rfl⟩
  rw [round.order.channels_keys, channel_ids]
  exact List.ne_nil_of_mem (List.mem_map_of_mem held)

theorem platform_visits (round : Round) (platform : TaskPlatform) :
    ((round.platformEntries platform).flatMap Entry.visits).Perm
      ((round.tasks.filter (·.platform = platform)).filterMap round.ledVisit) := by
  have unsent : (if (platformBatch round.tasks platform).nullTaskIds = [] then []
      else [Entry.unsent (platformBatch round.tasks platform).nullTaskIds
        (round.world.unsentFails platform)]).flatMap Entry.visits = [] := by
    split <;> rfl
  have asked : (sent (round.tasks.filter (·.platform = platform))).filterMap round.ledVisit =
      (round.tasks.filter (·.platform = platform)).filterMap round.ledVisit := by
    rw [sent, List.filterMap_filter]
    apply List.filterMap_congr
    intro task _
    split
    · rfl
    · rename_i none_
      rw [led_unsent (by simpa using none_)]
  rw [Round.platformEntries, List.flatMap_append, unsent, List.nil_append, dispatchPlatformUpdate, ← asked]
  by_cases midjourney : platform = .midjourney
  · rw [if_pos midjourney]
    have none_ : ∀ task ∈ sent (round.tasks.filter (·.platform = platform)),
        round.ledVisit task = none := by
      intro task member
      simp only [sent, List.mem_filter, decide_eq_true_eq] at member
      exact led_midjourney (member.1.2.trans midjourney)
    rw [List.filterMap_eq_nil_iff.mpr none_]
    rfl
  · rw [if_neg midjourney, List.flatMap_assoc]
    simp only [channel_visits round midjourney]
    exact regrouped_filter_map round.ledVisit (round.order.channels_nodup platform)
      (channel_listed round platform)

theorem round_visits (round : Round) :
    ((round.order.platforms.flatMap round.platformEntries).flatMap Entry.visits).Perm
      (round.tasks.filterMap round.ledVisit) := by
  rw [List.flatMap_assoc]
  refine (List.Perm.flatMap_left _ fun platform _ => platform_visits round platform).trans ?_
  exact regrouped_filter_map round.ledVisit round.order.platforms_nodup
    fun task member => (round.order.platforms_keys _).mpr ⟨task, member, rfl⟩

/-! ## Panics -/

theorem until_panic_initial (entries : List Entry) : untilPanic entries <+: entries := by
  induction entries with
  | nil => exact List.nil_prefix
  | cons entry rest ih =>
    rw [untilPanic]
    split
    · exact ⟨rest, rfl⟩
    · exact (List.prefix_cons_inj entry).mpr ih

theorem until_panic_calm
    (calm : ∀ entry ∈ untilPanic entries, entry.panics = false) : untilPanic entries = entries := by
  induction entries with
  | nil => rfl
  | cons entry rest ih =>
    rw [untilPanic] at calm ⊢
    by_cases panics : entry.panics = true
    · rw [if_pos panics] at calm
      rw [calm entry (List.mem_singleton.mpr rfl)] at panics
      cases panics
    · rw [if_neg panics] at calm ⊢
      rw [ih (List.forall_mem_cons.mp calm).2]

theorem own_calm {entry : Entry} (own : entry.Own) : entry.panics = false := by
  cases entry with
  | songs channelId fetch tasks applied =>
    rw [Entry.panics, List.any_eq_false]
    intro item member
    obtain ⟨task, found, -⟩ := own item member
    simp [found]
  | _ => rfl

theorem own_entries (own : ∀ entry ∈ round.entries, entry.Own) :
    round.entries = round.order.platforms.flatMap round.platformEntries :=
  until_panic_calm fun entry member => own_calm (own entry member)

theorem applied_iff {taskM : String → Option PolledTask}
    {accepts : PolledTask → Prop} :
    (∀ item ∈ applyItems taskM items, ∃ task, item.2 = some task ∧ accepts task) ↔
      ∀ item ∈ items, ∃ task, taskM item.taskID = some task ∧ accepts task := by
  induction items with
  | nil => simp [applyItems]
  | cons item rest ih =>
    rw [applyItems, List.forall_mem_cons]
    cases found : taskM item.taskID with
    | none => simp
    | some task =>
      rw [List.forall_mem_cons, ih]

/-! ## What is applied -/

theorem channel_entry_mem (member : task ∈ round.tasks)
    (polled : task.platform ≠ .midjourney) (asked : task.upstreamID ≠ "")
    (turn : entry ∈ updateChannel round.world task.platform
      (platformBatch round.tasks task.platform).taskM task.channelId
      ((platformBatch round.tasks task.platform).taskChannelM task.channelId)) :
    entry ∈ round.order.platforms.flatMap round.platformEntries := by
  have listed : task.platform ∈ round.order.platforms :=
    (round.order.platforms_keys _).mpr ⟨task, member, rfl⟩
  have held : task ∈ sent (round.tasks.filter (·.platform = task.platform)) := by
    simp only [sent, List.mem_filter, decide_eq_true_eq]
    exact ⟨⟨member, trivial⟩, asked⟩
  refine List.mem_flatMap.mpr ⟨task.platform, listed, ?_⟩
  rw [Round.platformEntries, dispatchPlatformUpdate, if_neg polled]
  exact List.mem_append_right _
    (List.mem_flatMap.mpr ⟨task.channelId, channel_listed round _ task held, turn⟩)

theorem asked_ids (member : task ∈ round.tasks) (asked : task.upstreamID ≠ "") :
    task.upstreamID ∈ (platformBatch round.tasks task.platform).taskChannelM task.channelId := by
  rw [channel_ids]
  exact List.mem_map_of_mem (mem_on_channel.mpr ⟨member, rfl, asked, rfl⟩)

theorem polled_on_some (polled : round.polledOn task = some channel) :
    task.platform ≠ .midjourney ∧ task.upstreamID ≠ "" ∧ round.world.adaptor task.platform = true ∧
      round.world.cacheGetChannel task.platform task.channelId = some channel := by
  unfold Round.polledOn at polled
  split at polled
  · cases polled
  · rename_i open_
    obtain ⟨midjourney, others⟩ := not_or.mp open_
    obtain ⟨unsent, adaptor⟩ := not_or.mp others
    exact ⟨midjourney, unsent, by simpa using adaptor, polled⟩

abbrev Round.idsWith (round : Round) (task : PolledTask) : List String :=
  (platformBatch round.tasks task.platform).taskChannelM task.channelId

theorem missing_turn (member : task ∈ round.tasks) (polled : task.platform ≠ .midjourney)
    (asked : task.upstreamID ≠ "")
    (missing : round.world.cacheGetChannel task.platform task.channelId = none) :
    Entry.missing task.channelId (missingReason task.platform task.channelId)
        ((round.idsWith task).filterMap (platformBatch round.tasks task.platform).taskM)
        (round.world.missingFails task.platform task.channelId) ∈
      round.order.platforms.flatMap round.platformEntries := by
  refine channel_entry_mem member polled asked ?_
  rw [updateChannel, if_neg (List.ne_nil_of_mem (asked_ids member asked)), missing]
  exact List.mem_singleton.mpr rfl

theorem songs_turn (member : task ∈ round.tasks)
    (song : task.platform = .suno) (polled : round.polledOn task = some channel) :
    Entry.songs task.channelId (songsFetch channel (round.idsWith task))
        ((round.idsWith task).filterMap (platformBatch round.tasks task.platform).taskM)
        (applyItems (platformBatch round.tasks task.platform).taskM
          (round.world.songItems task.channelId)) ∈
      round.order.platforms.flatMap round.platformEntries := by
  obtain ⟨midjourney, asked, adapted, held⟩ := polled_on_some polled
  refine channel_entry_mem member midjourney asked ?_
  rw [updateChannel, if_neg (List.ne_nil_of_mem (asked_ids member asked)), held]
  dsimp only
  rw [adapted, if_neg (by decide), if_pos song]
  exact List.mem_singleton.mpr rfl

theorem polls_own_ids (polls : round.PollsOwn) : round.OwnIds := by
  have all := own_entries polls.own
  have own := polls.own
  rw [all] at own
  constructor
  case polled =>
    intro task member polled
    obtain ⟨channel, held⟩ := Option.isSome_iff_exists.mp polled
    have visit : ⟨task.channelId, round.fetchFor channel task.channelId task, task⟩ ∈
        round.tasks.filterMap round.ownVisit :=
      List.mem_filterMap.mpr ⟨task, member, by rw [Round.ownVisit, held]; rfl⟩
    rw [← polls.polled.mem_iff, all, (round_visits round).mem_iff] at visit
    obtain ⟨asked, -, led⟩ := List.mem_filterMap.mp visit
    obtain ⟨_, -, stands⟩ := Option.bind_eq_some_iff.mp led
    obtain ⟨other, found, same⟩ := Option.map_eq_some_iff.mp stands
    rw [Visit.mk.injEq] at same
    rw [same.2.2] at found
    exact stands_own found
  case missing =>
    intro task member midjourney asked missing other stands
    exact own _ (missing_turn member midjourney asked missing) other
      (List.mem_filterMap.mpr ⟨task.upstreamID, asked_ids member asked, stands⟩)
  case answers =>
    intro task member song polled
    obtain ⟨channel, held⟩ := Option.isSome_iff_exists.mp polled
    have applied := applied_iff.mp (own _ (songs_turn member song held))
    rw [song] at applied
    exact applied

/-! ## Own ids -/

theorem single_own {taskM : String → Option PolledTask}
    (ours : ∀ taskId ∈ taskIds, ∀ task ∈ taskM taskId, task.channelId = channelId) (turn : Nat) :
    ∀ entry ∈ updateVideoSingleTasks world platform channelId channel taskM turn taskIds,
      entry.Own := by
  induction taskIds generalizing turn with
  | nil =>
    intro entry member
    cases member
  | cons taskId rest ih =>
    obtain ⟨first, others⟩ := List.forall_mem_cons.mp ours
    rw [updateVideoSingleTasks]
    refine List.forall_mem_append.mpr ⟨fun entry member => ?_, ih others (turn + 1)⟩
    obtain ⟨task, found, rfl⟩ := Option.map_eq_some_iff.mp (Option.mem_toList.mp member)
    exact first task found

theorem channel_own (own : round.OwnIds) (midjourney : platform ≠ .midjourney) (channelId : Int) :
    ∀ entry ∈ updateChannel round.world platform (platformBatch round.tasks platform).taskM
      channelId ((platformBatch round.tasks platform).taskChannelM channelId), entry.Own := by
  have listed : ∀ taskId ∈ (platformBatch round.tasks platform).taskChannelM channelId,
      ∃ task ∈ round.tasks, task.platform = platform ∧ task.channelId = channelId ∧
        task.upstreamID ≠ "" ∧ task.upstreamID = taskId := by
    intro taskId member
    rw [channel_ids] at member
    obtain ⟨task, held, named⟩ := List.mem_map.mp member
    obtain ⟨mine, sort, asked, channel⟩ := mem_on_channel.mp held
    exact ⟨task, mine, sort, channel, asked, named⟩
  generalize idsAre : (platformBatch round.tasks platform).taskChannelM channelId = taskIds at listed
  intro entry turn
  rw [updateChannel] at turn
  split at turn
  · cases turn
  rename_i asked
  obtain ⟨taskId, head⟩ := List.exists_mem_of_ne_nil _ asked
  cases cached : round.world.cacheGetChannel platform channelId with
  | none =>
    rw [cached] at turn
    rw [List.mem_singleton.mp turn]
    intro other failed
    obtain ⟨taskId, member, found⟩ := List.mem_filterMap.mp failed
    obtain ⟨task, held, rfl, rfl, sent, rfl⟩ := listed taskId member
    exact own.missing task held midjourney sent cached other found
  | some channel =>
    rw [cached] at turn
    dsimp only at turn
    split at turn
    · cases turn
    rename_i adapted
    rw [Bool.not_eq_true', Bool.not_eq_false] at adapted
    have polledOn : ∀ task : PolledTask, task.platform = platform → task.channelId = channelId →
        task.upstreamID ≠ "" → round.polledOn task = some channel := by
      rintro task rfl rfl sent
      simp [Round.polledOn, midjourney, sent, adapted, cached]
    split at turn
    · rename_i song
      rw [List.mem_singleton.mp turn]
      obtain ⟨task, held, sort, mine, sent, -⟩ := listed taskId head
      have answers := own.answers task held (sort.trans song) (by rw [polledOn task sort mine sent]; rfl)
      rw [mine, ← song] at answers
      exact applied_iff.mpr answers
    · refine single_own ?_ 0 entry turn
      intro taskId member other found
      obtain ⟨task, held, sort, mine, sent, rfl⟩ := listed taskId member
      have stands := own.polled task held (by rw [polledOn task sort mine sent]; rfl)
      rw [Round.standsFor, sort, found] at stands
      cases stands
      exact mine

theorem own_ids_poll (own : round.OwnIds) : round.PollsOwn := by
  have turns : ∀ entry ∈ round.order.platforms.flatMap round.platformEntries, entry.Own := by
    intro entry member
    obtain ⟨platform, -, turn⟩ := List.mem_flatMap.mp member
    rw [Round.platformEntries] at turn
    rcases List.mem_append.mp turn with unsent | dispatched
    · split at unsent
      · cases unsent
      · rw [List.mem_singleton.mp unsent]
        trivial
    · rw [dispatchPlatformUpdate] at dispatched
      split at dispatched
      · cases dispatched
      · rename_i polled
        obtain ⟨channelId, -, turn⟩ := List.mem_flatMap.mp dispatched
        exact channel_own own polled channelId entry turn
  have all : round.entries = round.order.platforms.flatMap round.platformEntries :=
    own_entries fun entry member => turns entry ((until_panic_initial _).subset member)
  have led : ∀ task ∈ round.tasks, round.ledVisit task = round.ownVisit task := by
    intro task member
    rw [Round.ledVisit, Round.ownVisit]
    cases polled : round.polledOn task with
    | none => rfl
    | some channel =>
      rw [own.polled task member (by rw [polled]; rfl)]
      rfl
  constructor
  case polled =>
    rw [all, ← List.filterMap_congr led]
    exact round_visits round
  case own =>
    rw [all]
    exact turns

end Round

/-- A round polls each task on its own channel exactly where every task that it
asks for stands for its own upstream id, and songs are answered by their
channel. -/
theorem round_polls_own_iff (round : Round) : round.PollsOwn ↔ round.OwnIds :=
  ⟨polls_own_ids, own_ids_poll⟩

def Order.first (tasks : List PolledTask) : Order tasks where
  platforms := (tasks.map (·.platform)).dedup
  channelIds platform := ((sent (tasks.filter (·.platform = platform))).map (·.channelId)).dedup
  platforms_nodup := List.nodup_dedup _
  platforms_keys platform := by rw [List.mem_dedup, List.mem_map]
  channels_nodup _ := List.nodup_dedup _
  channels_keys platform channelId := by
    rw [List.mem_dedup, List.mem_map, platformBatch, sorted_channel, ne_eq, List.map_eq_nil_iff,
      List.filter_eq_nil_iff]
    push Not
    simp only [decide_eq_true_eq]

def twinVideo (id channelId : Int) : PolledTask where
  id := id
  platform := .channelType 50
  privateData := { upstreamTaskID := "7" }
  channelId := channelId

def twinRound : Round where
  tasks := [twinVideo 1 1, twinVideo 2 2]
  order := .first _
  world :=
    { cacheGetChannel := fun _ _ => some { key := "key" }
      adaptor := fun _ => true
      videoPoll := fun _ _ _ => { reply := none, now := 0 }
      songItems := fun _ => [] }

/-- The second video is asked for on both channels, the first on neither. -/
theorem twin_ids_mixed_up :
    (twinRound.entries.flatMap Entry.visits).map (fun visit => (visit.channelId, visit.task.id)) =
        [(1, 2), (2, 2)] ∧
      ¬ twinRound.PollsOwn := by
  refine ⟨by decide +kernel, fun polls => ?_⟩
  have stands := (polls_own_ids polls).polled (twinVideo 1 1) (by decide +kernel) (by decide +kernel)
  exact absurd stands (by decide +kernel)

end NewApi.PollingRound
