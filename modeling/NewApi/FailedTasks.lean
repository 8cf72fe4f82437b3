import NewApi.TaskPolling

/-! A task that was charged for and fails while it is polled is owed its quota.
The sweeper and the polls refund what they fail; a bulk failure, for want of an
upstream id or of the channel, refunds nothing. -/
namespace NewApi.FailedTasks
open NewApi.GuardedRun NewApi.KeyedTable NewApi.TaskRows NewApi.TaskPolling

variable {Handle : Type*}

def Charged (task : Task) : Prop := task.unfinished ∧ isLegacy task = false ∧ task.quota ≠ 0

instance (task : Task) : Decidable (Charged task) := inferInstanceAs (Decidable (_ ∧ _ ∧ _))

def Owed (start : List Task) (id : Int) : Prop := ∃ first ∈ lookup Task.id start id, Charged first

def FailuresRefunded (start : List Task) (server : Server Handle) : Prop :=
  ∀ id row, Owed start id → lookup Task.id server.tasks id = some row →
    row.status = TaskStatus.failure → server.timesRefunded id = 1

def OnlyRefund (server : Server Handle) (id : Int) (refunds : Bool) : Prop :=
  server.timesRefunded id = if refunds then 0 else 1

def SweepRefunds (server : Server Handle) (sweep : Sweep) (row task : Task) : Prop :=
  row.status = task.status → sweep.saveFails = false → OnlyRefund server task.id (sweep.refunds task)

def VideoRefunds (server : Server Handle) (poll : VideoPoll) (row task : Task) : Prop :=
  row.status = task.status → poll.saveFails = false → TaskStatus.failure ∈ poll.status →
    task.status ≠ TaskStatus.failure →
      OnlyRefund server task.id (task.quota ≠ 0 && refundsTask task poll.faults)

def SunoRefunds (marshal : List UInt8 → List UInt8) (server : Server Handle) (poll : SunoPoll)
    (row task : Task) : Prop :=
  taskNeedsUpdate marshal task poll.item →
    if poll.saveFails then row.status = TaskStatus.failure → poll.refunds task = false
    else sunoStatus poll.item task = TaskStatus.failure →
      OnlyRefund server task.id (poll.refunds task)

def RefundsFailures (marshal : List UInt8 → List UInt8) (start : List Task) (server : Server Handle)
    (event : Event Handle) : Prop :=
  match event with
  | .sweepRead .. | .pollRead .. => True
  | .sweep handle sweep => ∀ task ∈ server.sweeping handle,
      ∀ row ∈ lookup Task.id server.tasks task.id, Owed start task.id → SweepRefunds server sweep row task
  | .video handle poll => ∀ task ∈ server.polled handle, polledAsVideo task →
      ∀ row ∈ lookup Task.id server.tasks task.id, Owed start task.id → VideoRefunds server poll row task
  | .suno handle poll => ∀ task ∈ server.polled handle, task.platform = .suno →
      ∀ row ∈ lookup Task.id server.tasks task.id, Owed start task.id →
        SunoRefunds marshal server poll row task
  | .failUnsent .. | .failChannel .. => ∀ id ∈ bulkIDs server event,
      ∀ row ∈ lookup Task.id server.tasks id, Owed start id →
        row.status ≠ TaskStatus.failure → server.timesRefunded id = 1

section Steps
variable {start : List Task} {server : Server Handle} {row task : Task}

theorem commit_refunds_iff {outcome : TaskOutcome} (refunded : FailuresRefunded start server)
    (concerns : Concerns task outcome) (found : lookup Task.id server.tasks task.id = some row) :
    FailuresRefunded start (commit server outcome) ↔
      (Owed start task.id → (outcome.stored.getD row).status = TaskStatus.failure →
        (server.timesRefunded task.id + if outcome.refund.isSome then 1 else 0) = 1) := by
  constructor
  · intro after owed failed
    have here := after task.id _ owed (by rw [commit_lookup concerns found, if_pos rfl]) failed
    simpa [commit_times_refunded concerns] using here
  · intro own id now owed stored failed
    rw [commit_lookup concerns found] at stored
    rw [commit_times_refunded concerns]
    split at stored
    · rename_i here
      subst here
      cases stored
      simpa using own owed failed
    · rename_i other
      rw [if_neg fun again => other again.2.symm]
      exact refunded id now owed stored failed

theorem FailuresRefunded.own (refunded : FailuresRefunded start server)
    (found : lookup Task.id server.tasks task.id = some row) (owed : Owed start task.id)
    (failed : row.status = TaskStatus.failure) : server.timesRefunded task.id = 1 :=
  refunded task.id row owed found failed

theorem only_refund_iff {id : Int} :
    OnlyRefund server id refunds ↔ server.timesRefunded id + (if refunds then 1 else 0) = 1 := by
  unfold OnlyRefund
  split <;> omega

theorem sweep_refunds_iff (refunded : FailuresRefunded start server) (sweep : Sweep)
    (found : lookup Task.id server.tasks task.id = some row) :
    FailuresRefunded start (commit server (sweepTimedOutTask sweep row task)) ↔
      (Owed start task.id → SweepRefunds server sweep row task) := by
  rw [commit_refunds_iff refunded (sweep_concerns sweep row task) found, sweep_stored, sweep_refund]
  refine imp_congr_right fun owed => ?_
  by_cases wins : row.status = task.status ∧ sweep.saveFails = false
  · rw [if_pos wins, if_pos wins, SweepRefunds, only_refund_iff, sweep_refund_is_some]
    simp [wins.1, wins.2, sweptTask]
  · rw [if_neg wins, if_neg wins]
    refine iff_of_true (fun failed => ?_) fun same accepted => absurd ⟨same, accepted⟩ wins
    simpa using refunded.own found owed failed

theorem video_refunds_iff (serverAddress : String) (refunded : FailuresRefunded start server)
    (poll : VideoPoll) (found : lookup Task.id server.tasks task.id = some row) :
    FailuresRefunded start (commit server (updateVideoSingleTask serverAddress poll row task)) ↔
      (Owed start task.id → VideoRefunds server poll row task) := by
  have spec := video_spec serverAddress poll row task
  rw [commit_refunds_iff refunded (video_concerns serverAddress poll row task) found]
  refine imp_congr_right fun owed => ?_
  generalize updateVideoSingleTask serverAddress poll row task = outcome at spec ⊢
  constructor
  · intro own same accepted fails going
    obtain ⟨next, stored, becomes⟩ := spec.moves same accepted _ fails (Ne.symm going)
    rw [only_refund_iff, ← video_refund_is_some, ← spec.refund next stored becomes going]
    apply own
    rw [Option.mem_def.mp stored]
    exact becomes
  · intro only failed
    cases stored : outcome.stored with
    | none =>
      have unpaid : ¬ outcome.refund.isSome := by
        intro refunds
        obtain ⟨-, next, written, -⟩ := spec.refunds refunds
        rw [stored] at written
        cases written
      rw [stored] at failed
      rw [if_neg unpaid, refunded.own found owed failed]
    | some next =>
      rw [stored] at failed
      obtain ⟨same, accepted, answer⟩ := spec.wins next stored
      by_cases going : task.status = TaskStatus.failure
      · have unpaid : ¬ outcome.refund.isSome := fun refunds => (spec.refunds refunds).1 going
        rw [if_neg unpaid, refunded.own found owed (same.trans going)]
      · rw [spec.refund next stored failed going, video_refund_is_some, ← only_refund_iff]
        exact only same accepted (failed ▸ answer) going

theorem suno_refunds_iff (marshal : List UInt8 → List UInt8)
    (refunded : FailuresRefunded start server) (poll : SunoPoll)
    (found : lookup Task.id server.tasks task.id = some row) :
    FailuresRefunded start (commit server (updateSunoTask marshal poll task)) ↔
      (Owed start task.id → SunoRefunds marshal server poll row task) := by
  rw [commit_refunds_iff refunded (suno_concerns marshal poll task) found]
  refine imp_congr_right fun owed => ?_
  unfold SunoRefunds updateSunoTask
  by_cases needed : taskNeedsUpdate marshal task poll.item
  · cases fails : poll.saveFails with
    | false => simp [needed, only_refund_iff, sunoTask, suno_refund_is_some]
    | true =>
      simp only [needed, if_true, Option.getD_none, forall_const]
      refine forall_congr' fun failed => ?_
      rw [refunded.own found owed failed, suno_refund_is_some]
      cases poll.refunds task <;> simp
  · rw [if_neg needed]
    refine iff_of_true (fun failed => ?_) fun impossible => absurd impossible needed
    simpa using refunded.own found owed failed

theorem bulk_refunds_iff (refunded : FailuresRefunded start server) (event : Event Handle)
    (ids : List Int) :
    FailuresRefunded start { server with
      tasks := taskBulkUpdateByID server.tasks ids (bulkParams event) } ↔
      ∀ id ∈ ids, ∀ row ∈ lookup Task.id server.tasks id, Owed start id →
        row.status ≠ TaskStatus.failure → server.timesRefunded id = 1 := by
  constructor
  · intro after id named row found owed _
    refine after id (bulkParams event row) owed ?_ (bulk_params_status event row)
    rw [lookup_bulk, Option.mem_def.mp found, Option.map_some, if_pos named]
  · intro paid id now owed stored failed
    rw [lookup_bulk] at stored
    obtain ⟨row, found, rfl⟩ := Option.map_eq_some_iff.mp stored
    by_cases before : row.status = TaskStatus.failure
    · exact refunded id row owed found before
    · split at failed
      · rename_i named
        exact paid id named row found owed before
      · exact absurd failed before

end Steps

section Runs
variable [DecidableEq Handle] (serverAddress : String) (marshal : List UInt8 → List UInt8)
variable {start : List Task}

theorem step_refunds_iff (refunded : FailuresRefunded start server)
    (event : Event Handle) :
    FailuresRefunded start (step serverAddress marshal server event) ↔
      RefundsFailures marshal start server event := by
  cases event with
  | sweepRead | pollRead =>
    refine iff_of_true ?_ trivial
    unfold step
    dsimp only
    split
    · split <;> exact refunded
    · exact refunded
  | sweep handle sweep =>
    refine act_safe_iff refunded (fun row task => Owed start task.id →
      SweepRefunds server sweep row task) (fun done => { commit server done with
      sweeping := Function.update server.sweeping handle none }) (fun done => Iff.rfl) ?_
    intro task row _ found
    exact sweep_refunds_iff refunded sweep found
  | video handle poll =>
    refine (act_safe_iff refunded (fun row task => Owed start task.id →
      VideoRefunds server poll row task) (fun done => { commit server done with
      polled := Function.update server.polled handle (some done.copy) })
      (fun done => Iff.rfl) ?_).trans ?_
    · intro task row _ found
      exact video_refunds_iff serverAddress refunded poll found
    · simp only [Option.mem_filter_iff, and_imp, RefundsFailures]
  | suno handle poll =>
    refine (act_safe_iff refunded (fun row task => Owed start task.id →
      SunoRefunds marshal server poll row task) (fun done => { commit server done with
      polled := Function.update server.polled handle (some done.copy) })
      (fun done => Iff.rfl) ?_).trans ?_
    · intro task row _ found
      exact suno_refunds_iff marshal refunded poll found
    · simp only [Option.mem_filter_iff, and_imp, RefundsFailures, decide_eq_true_eq]
  | failUnsent handles saveFails =>
    exact bulk_refunds_iff refunded (.failUnsent handles saveFails) _
  | failChannel handles failReason saveFails =>
    exact bulk_refunds_iff refunded (.failChannel handles failReason saveFails) _

/-- From any table, with nothing read or refunded yet: every task that was
charged for and has failed is refunded exactly once, throughout the run,
exactly when every step refunds what it fails. -/
theorem failures_refunded_iff (tasks : List Task) (events : List (Event Handle)) :
    (∀ done, done <+: events →
      FailuresRefunded tasks (run (step serverAddress marshal) { tasks := tasks } done)) ↔
      Guarded (step serverAddress marshal) (RefundsFailures marshal tasks) { tasks := tasks }
        events := by
  let safe : Server Handle → Prop := FailuresRefunded tasks
  have initially : safe { tasks := tasks } := by
    intro id row owed found failed
    obtain ⟨first, member, unfinished, -, -⟩ := owed
    -- what has failed before the run was not unfinished
    rw [Option.mem_def.mp member] at found
    cases found
    simp [Task.unfinished, failed] at unfinished
  have sharp : ∀ server event, safe server →
      (safe (step serverAddress marshal server event) ↔ RefundsFailures marshal tasks server event) :=
    fun server event refunded => step_refunds_iff serverAddress marshal refunded event
  exact always_safe_iff_guarded (fun server event permitted refunded =>
    (sharp server event refunded).mpr permitted) sharp events initially initially

def paidVideo : Task where
  id := 1
  taskID := "task_1"
  platform := .channelType 50
  quota := 500
  status := TaskStatus.inProgress
  submitTime := 1780000000
  progress := "30%"

/-- A poller finds the channel of a task gone, and nothing is refunded. -/
theorem lost_channel_refunds_nothing :
    ¬ ∀ done, done <+: [Event.pollRead 0 1,
        Event.failChannel [0] "Failed to get channel info, channel ID: 7" false] →
      FailuresRefunded [paidVideo] (run (step "" id) ({ tasks := [paidVideo] } : Server Nat) done) := by
  intro always
  have owed : Owed [paidVideo] 1 := ⟨paidVideo, rfl, by decide +kernel⟩
  have refunded := always _ (List.prefix_refl _) 1 _ owed rfl (by decide +kernel)
  exact absurd refunded (by decide +kernel)

end Runs

end NewApi.FailedTasks
