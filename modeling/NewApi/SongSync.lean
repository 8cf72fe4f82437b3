import NewApi.TaskPolling

/-! The answer of a song service to one request. It lists items that each name
a task, and the code takes them in turn: it looks the task up, decides whether
the item says anything new, and saves the task with what it says. The answer
need not be about the tasks that were asked for, and new data is told from old
by the sorted bytes of its text. -/
namespace NewApi.SongSync
open NewApi.TaskRows NewApi.TaskPolling

variable {Handle : Type*} [DecidableEq Handle]

/-! ## The loop -/

structure SongItem where
  taskID : String
  poll : SunoPoll

abbrev SongItem.says (item : SongItem) : SunoDataResponse := item.poll.item

structure Songs (Handle : Type*) where
  copies : Handle → Task
  stored : Handle → Task
  refunds : List TaskCharge := []

def Songs.read (rows : Handle → Task) : Songs Handle where
  copies := rows
  stored := rows

variable (marshal : List UInt8 → List UInt8)

def Songs.take (songs : Songs Handle) (handle : Handle) (poll : SunoPoll) : Songs Handle :=
  let outcome := updateSunoTask marshal poll (songs.copies handle)
  { copies := Function.update songs.copies handle outcome.copy
    stored := Function.update songs.stored handle (outcome.stored.getD (songs.stored handle))
    refunds := songs.refunds ++ outcome.refund.toList }

structure Synced (Handle : Type*) where
  songs : Songs Handle
  panicked : Bool := false

/-- `service/task_polling.go::updateSunoTasks`, the loop over the items. -/
def updateSunoTasks (taskM : String → Option Handle) : List SongItem → Songs Handle → Synced Handle
  | [], songs => { songs := songs }
  | item :: rest, songs =>
    match taskM item.taskID with
    | none => { songs := songs, panicked := true }
    | some handle => updateSunoTasks taskM rest (songs.take marshal handle item.poll)

/-! ## What the upstream says -/

def told (item : SunoDataResponse) (task : Task) : Task :=
  { sunoTask item task with
    progress :=
      if sunoFailed item task || item.status = TaskStatus.success then "100%" else task.progress
    data := item.data }

def heard (taskM : String → Option Handle) : List SongItem → (Handle → Task) → Handle → Task
  | [], tasks => tasks
  | item :: rest, tasks =>
    match taskM item.taskID with
    | none => heard taskM rest tasks
    | some handle =>
      heard taskM rest (Function.update tasks handle (told item.says (tasks handle)))

structure SameSong (task other : Task) : Prop where
  status : task.status = other.status
  failReason : task.failReason = other.failReason
  submitTime : task.submitTime = other.submitTime
  startTime : task.startTime = other.startTime
  finishTime : task.finishTime = other.finishTime
  data : marshal task.data = marshal other.data

def Recognised (taskM : String → Option Handle) : List SongItem → Songs Handle → Prop
  | [], _ => True
  | item :: rest, songs => ∀ handle, taskM item.taskID = some handle →
      (marshal (songs.copies handle).data ≠ marshal item.says.data →
        taskNeedsUpdate marshal (songs.copies handle) item.says = true) ∧
      Recognised taskM rest (songs.take marshal handle item.poll)

/-- No missing task is read, every change of data is seen, and in the end the
tasks are as the upstream has said, and so are their rows where no save fails. -/
structure Synchronised (taskM : String → Option Handle) (items : List SongItem)
    (rows : Handle → Task) : Prop where
  total : (updateSunoTasks marshal taskM items (.read rows)).panicked = false
  recognised : Recognised marshal taskM items (.read rows)
  copies : ∀ handle, SameSong marshal
    ((updateSunoTasks marshal taskM items (.read rows)).songs.copies handle)
    (heard taskM items rows handle)
  stored : ∀ handle, (∀ item ∈ items, taskM item.taskID = some handle → item.poll.saveFails = false) →
    SameSong marshal ((updateSunoTasks marshal taskM items (.read rows)).songs.stored handle)
      (heard taskM items rows handle)

/-! ## When it is so -/

/-- An item says of a task what is known but for its data, and the data is made
of the same bytes. -/
structure Rearranged (task : Task) (item : SunoDataResponse) : Prop where
  submitTime : task.submitTime = item.submitTime
  startTime : task.startTime = item.startTime
  finishTime : task.finishTime = item.finishTime
  status : task.status = item.status
  failReason : task.failReason = item.failReason
  settled : TaskStatus.isDone task.status → task.progress = "100%"
  bytes : (marshal task.data).Perm (marshal item.data)
  differs : marshal task.data ≠ marshal item.data

def Distinguishable (taskM : String → Option Handle) : List SongItem → (Handle → Task) → Prop
  | [], _ => True
  | item :: rest, tasks => ∃ handle, taskM item.taskID = some handle ∧
      ¬ Rearranged marshal (tasks handle) item.says ∧
      Distinguishable taskM rest (Function.update tasks handle (told item.says (tasks handle)))

section Item
variable {marshal} {task said : Task} {poll : SunoPoll}

theorem sorted_same_iff {first second : List UInt8} :
    first.insertionSort (· ≤ ·) = second.insertionSort (· ≤ ·) ↔ first.Perm second := by
  constructor
  · intro same
    have sorted := second.perm_insertionSort (· ≤ ·)
    rw [← same] at sorted
    exact (first.perm_insertionSort (· ≤ ·)).symm.trans sorted
  · intro perm
    exact List.Perm.eq_of_pairwise' (first.pairwise_insertionSort _) (second.pairwise_insertionSort _)
      ((first.perm_insertionSort _).trans (perm.trans (second.perm_insertionSort _).symm))

theorem needs_no_update_iff : taskNeedsUpdate marshal task item = false ↔
    task.submitTime = item.submitTime ∧ task.startTime = item.startTime ∧
      task.finishTime = item.finishTime ∧ task.status = item.status ∧
      task.failReason = item.failReason ∧
      (TaskStatus.isDone task.status → task.progress = "100%") ∧
      (marshal task.data).Perm (marshal item.data) := by
  unfold taskNeedsUpdate
  rw [← sorted_same_iff]
  simp only [Bool.or_eq_false_iff, Bool.and_eq_false_imp, decide_eq_false_iff_not, not_not, ne_eq,
    and_assoc]

theorem rearranged_iff : Rearranged marshal task item ↔
    taskNeedsUpdate marshal task item = false ∧ marshal task.data ≠ marshal item.data := by
  rw [needs_no_update_iff]
  constructor
  · rintro ⟨submitTime, startTime, finishTime, status, failReason, settled, bytes, differs⟩
    exact ⟨⟨submitTime, startTime, finishTime, status, failReason, settled, bytes⟩, differs⟩
  · rintro ⟨⟨submitTime, startTime, finishTime, status, failReason, settled, bytes⟩, differs⟩
    exact ⟨submitTime, startTime, finishTime, status, failReason, settled, bytes, differs⟩

/-- A copy is as the upstream has said, and so is its progress once it has
ended. -/
structure Tracks (marshal : List UInt8 → List UInt8) (task said : Task) : Prop extends
    SameSong marshal task said where
  progress : TaskStatus.isDone said.status → task.progress = said.progress

theorem tracks_refl (task : Task) : Tracks marshal task task :=
  ⟨⟨rfl, rfl, rfl, rfl, rfl, rfl⟩, fun _ => rfl⟩

theorem rearranged_congr (tracks : Tracks marshal task said) :
    Rearranged marshal task item ↔ Rearranged marshal said item := by
  have settled : (TaskStatus.isDone task.status → task.progress = "100%") ↔
      (TaskStatus.isDone said.status → said.progress = "100%") := by
    rw [tracks.status]
    exact forall_congr' fun done => by rw [tracks.progress done]
  rw [rearranged_iff, rearranged_iff, needs_no_update_iff, needs_no_update_iff, settled,
    tracks.status, tracks.failReason, tracks.submitTime, tracks.startTime, tracks.finishTime,
    tracks.data]

theorem needed_update (needed : taskNeedsUpdate marshal task poll.item = true) :
    updateSunoTask marshal poll task =
      { copy := told poll.item task
        stored := if poll.saveFails then none else some (told poll.item task)
        refund := sunoRefund poll task } := if_pos needed

theorem needless_update (needless : taskNeedsUpdate marshal task poll.item = false) :
    updateSunoTask marshal poll task = { copy := task } := by
  rw [updateSunoTask, needless]
  rfl

theorem told_tracks (tracks : Tracks marshal task said) :
    Tracks marshal (told item task) (told item said) := by
  have status : sunoStatus item task = sunoStatus item said := by
    unfold sunoStatus
    rw [tracks.status]
  have failed : sunoFailed item task = sunoFailed item said := by
    unfold sunoFailed
    rw [status]
  constructor
  case toSameSong =>
    constructor
    case status => exact status
    case failReason => simp only [told, sunoTask, tracks.failReason]
    case submitTime => simp only [told, sunoTask, tracks.submitTime]
    case startTime => simp only [told, sunoTask, tracks.startTime]
    case finishTime => simp only [told, sunoTask, tracks.finishTime]
    case data => rfl
  case progress =>
    intro done
    simp only [told, sunoTask, failed] at done ⊢
    split
    · rfl
    · rename_i open_
      -- Nothing ends the task here, so it had ended before.
      have kept : sunoStatus item said = said.status := by
        unfold sunoStatus at done ⊢
        split
        · rename_i named
          rw [if_pos named] at done
          rcases TaskStatus.is_done_iff.mp done with success | failure
          · exact absurd (by simp [success]) open_
          · have ended : sunoStatus item said = TaskStatus.failure := by
              rw [sunoStatus, if_pos named, failure]
            exact absurd (by simp [sunoFailed, ended]) open_
        · rfl
      rw [kept] at done
      exact tracks.progress done

theorem needless_tracks (tracks : Tracks marshal task said)
    (needless : taskNeedsUpdate marshal task item = false)
    (same : marshal task.data = marshal item.data) : Tracks marshal task (told item said) := by
  obtain ⟨submitTime, startTime, finishTime, status, failReason, settled, -⟩ :=
    needs_no_update_iff.mp needless
  have kept : sunoStatus item said = task.status := by
    unfold sunoStatus
    split
    · exact status.symm
    · exact tracks.status.symm
  constructor
  case toSameSong =>
    constructor
    case status => exact kept.symm
    case failReason =>
      simp only [told, sunoTask]
      split
      · exact failReason
      · exact tracks.failReason
    case submitTime =>
      simp only [told, sunoTask]
      split
      · exact submitTime
      · exact tracks.submitTime
    case startTime =>
      simp only [told, sunoTask]
      split
      · exact startTime
      · exact tracks.startTime
    case finishTime =>
      simp only [told, sunoTask]
      split
      · exact finishTime
      · exact tracks.finishTime
    case data => exact same
  case progress =>
    intro done
    have ended : TaskStatus.isDone task.status := kept ▸ done
    simp only [told]
    split
    · exact settled ended
    · exact tracks.progress (tracks.status ▸ ended)

theorem turn_tracks (tracks : Tracks marshal task said) (seen : ¬ Rearranged marshal task poll.item) :
    Tracks marshal (updateSunoTask marshal poll task).copy (told poll.item said) := by
  cases needed : taskNeedsUpdate marshal task poll.item with
  | true =>
    rw [needed_update needed]
    exact told_tracks tracks
  | false =>
    rw [needless_update needed]
    have same : marshal task.data = marshal poll.item.data := by
      by_contra differs
      exact seen (rearranged_iff.mpr ⟨needed, differs⟩)
    exact needless_tracks tracks needed same

end Item

section Loop
variable {marshal} {taskM : String → Option Handle}
variable {songs : Songs Handle} {tasks : Handle → Task} {handle : Handle} {poll : SunoPoll}

@[simp] theorem take_copies (songs : Songs Handle) (handle : Handle) (poll : SunoPoll) :
    (songs.take marshal handle poll).copies =
      Function.update songs.copies handle (updateSunoTask marshal poll (songs.copies handle)).copy :=
  rfl

@[simp] theorem take_stored (songs : Songs Handle) (handle : Handle) (poll : SunoPoll) :
    (songs.take marshal handle poll).stored = Function.update songs.stored handle
      ((updateSunoTask marshal poll (songs.copies handle)).stored.getD (songs.stored handle)) :=
  rfl

theorem take_tracks (tracks : ∀ handle, Tracks marshal (songs.copies handle) (tasks handle))
    (seen : ¬ Rearranged marshal (tasks handle) poll.item) (other : Handle) :
    Tracks marshal ((songs.take marshal handle poll).copies other)
      (Function.update tasks handle (told poll.item (tasks handle)) other) := by
  rw [take_copies]
  by_cases same : other = handle
  · subst same
    rw [Function.update_self, Function.update_self]
    exact turn_tracks (tracks other) (mt (rearranged_congr (tracks other)).mp seen)
  · rw [Function.update_of_ne same, Function.update_of_ne same]
    exact tracks other

theorem distinguishable_iff (tracks : ∀ handle, Tracks marshal (songs.copies handle) (tasks handle)) :
    Distinguishable marshal taskM items tasks ↔
      (updateSunoTasks marshal taskM items songs).panicked = false ∧
        Recognised marshal taskM items songs := by
  induction items generalizing songs tasks with
  | nil => exact ⟨fun _ => ⟨rfl, trivial⟩, fun _ => trivial⟩
  | cons item rest ih =>
    simp only [Distinguishable, updateSunoTasks, Recognised]
    cases found : taskM item.taskID with
    | none =>
      dsimp only
      constructor
      · rintro ⟨handle, named, -⟩
        cases named
      · rintro ⟨panicked, -⟩
        cases panicked
    | some handle =>
      dsimp only
      have missed : Rearranged marshal (songs.copies handle) item.says ↔
          Rearranged marshal (tasks handle) item.says := rearranged_congr (tracks handle)
      constructor
      · rintro ⟨_, named, seen, later⟩
        cases named
        have next := take_tracks tracks seen
        obtain ⟨total, recognised⟩ := (ih next).mp later
        refine ⟨total, fun other named => ?_⟩
        cases named
        refine ⟨fun differs => ?_, recognised⟩
        by_contra needless
        rw [Bool.not_eq_true] at needless
        exact seen (missed.mp (rearranged_iff.mpr ⟨needless, differs⟩))
      · rintro ⟨total, recognised⟩
        obtain ⟨changes, later⟩ := recognised handle rfl
        have seen : ¬ Rearranged marshal (tasks handle) item.says := by
          intro rearranged
          obtain ⟨needless, differs⟩ := rearranged_iff.mp (missed.mpr rearranged)
          rw [changes differs] at needless
          cases needless
        exact ⟨handle, rfl, seen, (ih (take_tracks tracks seen)).mpr ⟨total, later⟩⟩

theorem synced_tracks (tracks : ∀ handle, Tracks marshal (songs.copies handle) (tasks handle))
    (told : Distinguishable marshal taskM items tasks) (handle : Handle) :
    Tracks marshal ((updateSunoTasks marshal taskM items songs).songs.copies handle)
      (heard taskM items tasks handle) := by
  induction items generalizing songs tasks with
  | nil => exact tracks handle
  | cons item rest ih =>
    obtain ⟨named, found, seen, later⟩ := told
    simp only [updateSunoTasks, heard, found]
    exact ih (take_tracks tracks seen) later

theorem synced_stored (saved : songs.stored handle = songs.copies handle)
    (accepted : ∀ item ∈ items, taskM item.taskID = some handle → item.poll.saveFails = false) :
    (updateSunoTasks marshal taskM items songs).songs.stored handle =
      (updateSunoTasks marshal taskM items songs).songs.copies handle := by
  induction items generalizing songs with
  | nil => exact saved
  | cons item rest ih =>
    obtain ⟨first, others⟩ := List.forall_mem_cons.mp accepted
    simp only [updateSunoTasks]
    cases found : taskM item.taskID with
    | none => exact saved
    | some named =>
      refine ih ?_ others
      rw [take_stored, take_copies]
      by_cases same : handle = named
      · subst same
        rw [Function.update_self, Function.update_self]
        cases needed : taskNeedsUpdate marshal (songs.copies handle) item.poll.item with
        | true =>
          rw [needed_update needed, first found]
          rfl
        | false =>
          rw [needless_update needed]
          exact saved
      · rw [Function.update_of_ne same, Function.update_of_ne same]
        exact saved

end Loop

/-- An answer is taken over exactly where every item names a task of the poll
and none brings one the data that it has with the bytes in another order. -/
theorem synchronised_iff (marshal : List UInt8 → List UInt8) (taskM : String → Option Handle)
    (items : List SongItem) (rows : Handle → Task) :
    Synchronised marshal taskM items rows ↔ Distinguishable marshal taskM items rows := by
  have tracks : ∀ handle, Tracks marshal ((Songs.read rows).copies handle) (rows handle) :=
    fun handle => tracks_refl (rows handle)
  constructor
  · intro synchronised
    exact (distinguishable_iff tracks).mpr ⟨synchronised.total, synchronised.recognised⟩
  · intro told
    obtain ⟨total, recognised⟩ := (distinguishable_iff tracks).mp told
    have copies := synced_tracks tracks told
    refine ⟨total, recognised, fun handle => (copies handle).toSameSong, fun handle accepted => ?_⟩
    rw [synced_stored rfl accepted]
    exact (copies handle).toSameSong

def storedSong : Task where
  id := 1
  platform := .suno
  status := TaskStatus.inProgress
  data := "[12]".toUTF8.toList

def songId (taskID : String) : Option Unit := if taskID = "song" then some () else none

def songItem (taskID data : String) : SongItem where
  taskID := taskID
  poll := { item := { status := TaskStatus.inProgress, data := data.toUTF8.toList } }

/-- An item about a song that was not asked for ends the loop with a panic, and
the item behind it is lost; data with two digits swapped is taken for the old. -/
theorem answer_not_taken_over :
    ¬ Synchronised id songId [songItem "other" "[3]", songItem "song" "[3]"] (fun _ => storedSong) ∧
      ¬ Synchronised id songId [songItem "song" "[21]"] (fun _ => storedSong) := by
  constructor
  · intro synchronised
    exact absurd synchronised.total (by decide +kernel)
  · intro synchronised
    have changes := (synchronised.recognised () (by decide +kernel)).1 (by decide +kernel)
    exact absurd changes (by decide +kernel)

end NewApi.SongSync
