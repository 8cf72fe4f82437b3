import NewApi.BillingSettlement
import NewApi.TaskPolling

/-! An image request that is answered with a task. A worker marks the task as in
progress, calls the upstream, settles or refunds the billing session of the
request, and saves its copy of the row. The timeout sweeper fails rows by
compare and swap and refunds what the row says, which is the estimate of the
request and not what its session took. The worker saves without looking. -/
namespace NewApi.ImageTasks
open NewApi.GuardedRun NewApi.KeyedTable
open NewApi.ResetWindow NewApi.Subscription
open NewApi.SubscriptionStore hiding step Event
open NewApi.RequestCharge NewApi.RequestBilling NewApi.BillingCalls NewApi.BillingSettlement
open NewApi.TaskRows NewApi.TaskPolling

/-! ## The ledgers of a task -/

/-- `service/task_billing.go::taskAdjustFunding`. -/
def taskAdjustFunding (task : Task) (amountDelta countDelta now : Int) (books : Books) :
    Except FundingError Books :=
  if taskIsSubscription task then
    match postConsumeUserSubscriptionUsage task.privateData.subscriptionId amountDelta countDelta now
        books.db with
    | .error error => .error (.postConsume error)
    | .ok db => .ok { books with db := db }
  else if amountDelta > 0 then
    (decreaseUserQuota task.userId amountDelta books).mapError .quota
  else (increaseUserQuota task.userId (-amountDelta) books).mapError .quota

/-- What `RefundTaskQuota` does to the ledgers. A source that refuses the refund
leaves the token alone; an error of the token is only logged. -/
def refundTask (task : Task) (charge : TaskCharge) (now : Int) (books : Books) : Books :=
  match taskAdjustFunding task charge.amountDelta charge.countDelta now books with
  | .error _ => books
  | .ok books =>
    if charge.tokenDelta > 0 then
      (decreaseTokenQuota task.privateData.tokenId charge.tokenDelta books).toOption.getD books
    else if charge.tokenDelta < 0 then
      (increaseTokenQuota task.privateData.tokenId (-charge.tokenDelta) books).toOption.getD books
    else books

/-! ## Submission -/

/-- What a submission reads beside the session: the estimate of the price, and
the public id, the time and the data of the row. -/
structure Submission where
  id : Int
  taskID : String
  quotaToPreConsume : Int
  submitTime : Int
  data : List UInt8

/-- `controller/image_task.go::initImageTask`. The quota of the row is the
estimate of the price. -/
def initImageTask (submission : Submission) (session : BillingSession) : Task where
  id := submission.id
  taskID := submission.taskID
  platform := .image
  userId := session.relayInfo.userId
  quota := submission.quotaToPreConsume
  status := TaskStatus.submitted
  submitTime := submission.submitTime
  progress := "0%"
  privateData :=
    { toBillingInfo := session.billing
      tokenId := session.relayInfo.tokenId }
  data := submission.data

/-! ## The worker and the sweeper -/

/-- How far the worker is; after the call with what became of the session. -/
inductive Phase where
  | submitted
  | marked
  | called (outcome : Call)
  | saved (outcome : Call)

/-- The ledgers, the stored row, the copy, session and phase of the worker, the
copies that sweepers hold, and the refunds that they still have to make. -/
structure State where
  books : Books
  row : Task
  task : Task
  session : BillingSession
  phase : Phase := .submitted
  sweeping : List Task := []
  refunding : List (Task × TaskCharge) := []

/-- The state after `submitAsyncImageTask` has inserted the row. -/
def submitAsyncImageTask (submission : Submission) (session : BillingSession) (books : Books) : State where
  books := books
  row := initImageTask submission session
  task := initImageTask submission session
  session := session

/-- The steps of `runAsyncImageTask` and of sweepers. The call of the upstream
succeeds with the quota that it settles, the result and the data of the row, or
it fails with a reason. -/
inductive Event where
  | mark (now : Int)
  | succeed (actualQuota : Int) (resultURL : Option String) (data : List UInt8) (now : Int)
  | fail (reason : String) (now : Int)
  | save
  | sweepRead (cutoff : Int)
  | sweepWrite (index : Nat) (sweep : Sweep)
  | sweepRefund (index : Nat) (now : Int)

def step (state : State) : Event → State
  | .mark now =>
    match state.phase with
    | .submitted =>
      let task := { state.task with
        status := TaskStatus.inProgress, progress := "1%", startTime := now }
      { state with task := task, row := task, phase := .marked }
    | _ => state
  | .succeed actualQuota resultURL data now =>
    match state.phase with
    | .marked =>
      let settled := call (state.books, state.session) (.settle actualQuota now)
      { state with
        books := settled.1
        session := settled.2
        task := { state.task with
          status := TaskStatus.success
          progress := "100%"
          finishTime := now
          privateData := { state.task.privateData with
            resultURL := resultURL.getD state.task.privateData.resultURL }
          data := data }
        phase := .called (.settle actualQuota now) }
    | _ => state
  | .fail reason now =>
    match state.phase with
    | .marked =>
      let refunded := call (state.books, state.session) (.refund now)
      { state with
        books := refunded.1
        session := refunded.2
        task := { state.task with
          status := TaskStatus.failure, progress := "100%", finishTime := now, failReason := reason }
        phase := .called (.refund now) }
    | _ => state
  | .save =>
    match state.phase with
    -- `task.Update()` saves every column, whatever the row holds by now.
    | .called outcome => { state with row := state.task, phase := .saved outcome }
    | _ => state
  | .sweepRead cutoff =>
    if state.row.unfinished && state.row.submitTime < cutoff then
      { state with sweeping := state.sweeping ++ [state.row] }
    else state
  | .sweepWrite index sweep =>
    match state.sweeping[index]? with
    | none => state
    | some copy =>
      let outcome := sweepTimedOutTask sweep state.row copy
      { state with
        row := outcome.stored.getD state.row
        sweeping := state.sweeping.eraseIdx index
        refunding := state.refunding ++ (outcome.refund.map fun charge => (outcome.copy, charge)).toList }
  | .sweepRefund index now =>
    match state.refunding[index]? with
    | none => state
    | some (task, charge) =>
      { state with
        books := refundTask task charge now state.books
        refunding := state.refunding.eraseIdx index }

/-! ## What is owed -/

section Owed
variable (session : BillingSession) (before opened : Books) (start : State)

def KeepsStatus (events : List Event) : Prop :=
  ∀ done event, done ++ [event] <+: events → TaskStatus.isDone (run step start done).row.status →
    (step (run step start done) event).row.status = (run step start done).row.status

def Over (state : State) (outcome : Call) : Prop := state.phase = .saved outcome ∧ state.refunding = []

/-- A final status is kept. When all is over, a task that failed has left the
source and the token as they were before the request, and a task that succeeded
has charged them what was settled. -/
structure Fulfilled (events : List Event) : Prop where
  once : KeepsStatus start events
  failed : ∀ outcome, Over (run step start events) outcome →
    (run step start events).row.status = TaskStatus.failure →
    FirstDecides session before opened (run step start events).books (.refund 0)
  succeeded : ∀ outcome, Over (run step start events) outcome →
    (run step start events).row.status = TaskStatus.success →
    ∃ actualQuota now, outcome = .settle actualQuota now ∧
      FirstDecides session before opened (run step start events).books outcome

def OvertakesNone (state : State) : Event → Prop
  | .mark _ => state.phase = .submitted → TaskStatus.isDone state.row.status = false
  | .save => ∀ outcome, state.phase = .called outcome → TaskStatus.isDone state.row.status →
    state.row.status = state.task.status
  | _ => True

def BillsOnce (state : State) : Event → Prop
  | .sweepWrite index sweep => ∀ copy, state.sweeping[index]? = some copy →
    state.row.status = copy.status → sweep.saveFails = false → sweep.refunds copy = false
  | .succeed actualQuota _ _ now => state.phase = .marked →
    SettlesFirst session opened actualQuota ∧
      (GivesBack session (.settle actualQuota now) → Restores session opened)
  | .fail _ _ => state.phase = .marked → Restores session opened
  | _ => True

end Owed

/-! ## The first call of the session -/

section Opening

theorem first_decides (unique : (before.db.subscriptions.map UserSubscription.id).Nodup)
    (counted : ∀ sub ∈ before.db.subscriptions, Counted sub)
    (fresh : before.db.record info.request.requestId = none)
    (user : (lookup User.id before.db.users info.userId).isSome) (token : TokenStored info before)
    (opens : newBillingSession calendar preference info quota now before = (opened, .ok session))
    (outcome : Call) (restores : GivesBack session outcome → Restores session opened)
    (orderly : Orderly session opened [outcome]) :
    FirstDecides session before opened (call (opened, session) outcome).1 outcome := by
  have first : ∀ call ∈ [outcome].head?, GivesBack session call → Restores session opened := by
    rintro call ⟨rfl⟩
    exact restores
  have decided : DecidedOnce session before opened [outcome] := by
    rcases session_opened unique counted fresh user token opens with opening | ⟨_, _, _, opening⟩
    · exact (wallet_decided_iff opening [outcome]).mpr orderly
    · exact (subscription_decided_iff opening [outcome]).mpr ⟨first, orderly⟩
  exact decided.1

end Opening

/-! ## Statuses -/

section Statuses
variable {state : State}

def Fresh (state : State) : Prop := ∀ copy ∈ state.sweeping, TaskStatus.isDone copy.status = false

theorem step_fresh (state : State) (event : Event) (fresh : Fresh state) : Fresh (step state event) := by
  cases event with
  | mark | succeed | fail | save => cases phase : state.phase <;> (simp only [step, phase]; exact fresh)
  | sweepRead cutoff =>
    simp only [step]
    split
    · rename_i due
      intro copy member
      rcases List.mem_append.mp member with held | read
      · exact fresh copy held
      · rw [List.mem_singleton.mp read]
        simp only [Task.unfinished, Bool.and_eq_true, Bool.not_eq_true'] at due
        exact due.1.2
    · exact fresh
  | sweepWrite index sweep =>
    simp only [step]
    split
    · exact fresh
    · exact fun copy member => fresh copy (List.mem_of_mem_eraseIdx member)
  | sweepRefund index now =>
    simp only [step]
    split <;> exact fresh

theorem swept_row :
    (sweepTimedOutTask sweep row copy).stored.getD row =
      if row.status = copy.status ∧ sweep.saveFails = false then sweptTask sweep copy else row := by
  rw [sweep_stored]
  split <;> rfl

theorem sweep_keeps_done (sweep : Sweep) (fresh : Fresh state)
    (held : copy ∈ state.sweeping) (done : TaskStatus.isDone state.row.status) :
    ¬ (state.row.status = copy.status ∧ sweep.saveFails = false) := by
  intro won
  have unfinished := fresh copy held
  rw [← won.1, done] at unfinished
  cases unfinished

theorem in_progress_unfinished : TaskStatus.isDone TaskStatus.inProgress = false := by decide

theorem step_keeps_status_iff (state : State) (event : Event) (fresh : Fresh state) :
    (TaskStatus.isDone state.row.status → (step state event).row.status = state.row.status) ↔
      OvertakesNone state event := by
  cases event with
  | mark now =>
    cases phase : state.phase with
    | submitted =>
      simp only [step, phase, OvertakesNone, true_implies]
      constructor
      · intro keeps
        by_contra done
        have overwritten := keeps (by simpa using done)
        rw [← overwritten] at done
        exact done in_progress_unfinished
      · intro unfinished done
        rw [unfinished] at done
        cases done
    | marked | called | saved => simp [step, phase, OvertakesNone]
  | succeed actualQuota resultURL data now =>
    cases phase : state.phase <;> simp [step, phase, OvertakesNone]
  | fail reason now => cases phase : state.phase <;> simp [step, phase, OvertakesNone]
  | save =>
    cases phase : state.phase with
    | submitted | marked | saved => simp [step, phase, OvertakesNone]
    | called outcome =>
      simp only [step, phase, OvertakesNone]
      exact ⟨fun keeps _ _ done => (keeps done).symm, fun keeps done => (keeps outcome rfl done).symm⟩
  | sweepRead | sweepRefund =>
    simp only [step, OvertakesNone, iff_true]
    intro _
    split <;> rfl
  | sweepWrite index sweep =>
    simp only [step, OvertakesNone, iff_true]
    intro done
    split
    · rfl
    · rename_i copy held
      rw [swept_row, if_neg (sweep_keeps_done sweep fresh (List.mem_of_getElem? held) done)]

theorem keeps_status_iff (start : State) (events : List Event) (fresh : Fresh start) :
    KeepsStatus start events ↔ Guarded step OvertakesNone start events :=
  steps_safe_iff_guarded (fun state event _ => step_fresh state event) step_keeps_status_iff events fresh

end Statuses

/-! ## Ledgers -/

section Ledgers
variable {session : BillingSession} {opened : Books} {state : State}

def statusOf : Call → TaskStatus
  | .settle _ _ => TaskStatus.success
  | .refund _ => TaskStatus.failure

structure Decided (session : BillingSession) (opened books : Books) (outcome : Call) : Prop where
  books : books = (call (opened, session) outcome).1
  orderly : Orderly session opened [outcome]
  restores : GivesBack session outcome → Restores session opened

def Stage (session : BillingSession) (opened : Books) (state : State) : Prop :=
  match state.phase with
  | .submitted => state.books = opened ∧ state.session = session
  | .marked => state.books = opened ∧ state.session = session
  | .called outcome => Decided session opened state.books outcome ∧
    state.task.status = statusOf outcome
  | .saved outcome => Decided session opened state.books outcome ∧
    state.row.status = statusOf outcome

structure Quiet (session : BillingSession) (opened : Books) (state : State) : Prop where
  fresh : Fresh state
  none_due : state.refunding = []
  stage : Stage session opened state

theorem status_of_done (outcome : Call) : TaskStatus.isDone (statusOf outcome) = true := by
  cases outcome with
  | settle actualQuota now => exact TaskStatus.success_is_done
  | refund now => exact TaskStatus.failure_is_done

theorem step_quiet (state : State) (event : Event) (once : BillsOnce session opened state event)
    (quiet : Quiet session opened state) : Quiet session opened (step state event) := by
  have fresh := step_fresh state event quiet.fresh
  have none_due := quiet.none_due
  have stage := quiet.stage
  refine ⟨fresh, ?_, ?_⟩
  · cases event with
    | mark | succeed | fail | save =>
      cases phase : state.phase <;> (simp only [step, phase]; exact none_due)
    | sweepRead cutoff =>
      simp only [step]
      split <;> exact none_due
    | sweepWrite index sweep =>
      simp only [step]
      split
      · exact none_due
      · rename_i copy held
        have nothing : (sweepTimedOutTask sweep state.row copy).refund = none := by
          rw [sweep_refund]
          split
          · rename_i won
            rw [← Option.not_isSome_iff_eq_none, sweep_refund_is_some, once copy held won.1 won.2]
            simp
          · rfl
        simp [nothing, none_due]
    | sweepRefund index now => simp [step, none_due]
  · unfold Stage at stage ⊢
    cases event with
    | mark | save =>
      cases phase : state.phase <;> simp only [phase] at stage <;> simp only [step, phase] <;> exact stage
    | succeed actualQuota resultURL data now =>
      cases phase : state.phase with
      | marked =>
        simp only [phase] at stage
        obtain ⟨books, same⟩ := stage
        simp only [step, phase]
        exact ⟨⟨by rw [books, same], (once phase).1, (once phase).2⟩, rfl⟩
      | _ => simpa only [step, phase] using stage
    | fail reason now =>
      cases phase : state.phase with
      | marked =>
        simp only [phase] at stage
        obtain ⟨books, same⟩ := stage
        simp only [step, phase]
        exact ⟨⟨by rw [books, same], trivial, fun _ => once phase⟩, rfl⟩
      | _ => simpa only [step, phase] using stage
    | sweepRead cutoff =>
      by_cases due : (state.row.unfinished && decide (state.row.submitTime < cutoff)) = true
      · simpa only [step, due, if_true] using stage
      · simpa only [step, if_neg due] using stage
    | sweepWrite index sweep =>
      cases held : state.sweeping[index]? with
      | none => simpa only [step, held] using stage
      | some copy =>
        simp only [step, held, swept_row]
        cases phase : state.phase with
        | saved outcome =>
          simp only [phase] at stage ⊢
          have done : TaskStatus.isDone state.row.status := stage.2 ▸ status_of_done outcome
          rw [if_neg (sweep_keeps_done sweep quiet.fresh (List.mem_of_getElem? held) done)]
          exact stage
        | _ => simpa only [phase] using stage
    | sweepRefund index now => simpa [step, none_due] using stage

theorem quiet_ended {outcome : Call} (quiet : Quiet session opened state)
    (finished : Over state outcome)
    (first : (GivesBack session outcome → Restores session opened) → Orderly session opened [outcome] →
      FirstDecides session before opened (call (opened, session) outcome).1 outcome) :
    FirstDecides session before opened state.books outcome ∧ state.row.status = statusOf outcome := by
  have stage := quiet.stage
  rw [Stage, finished.1] at stage
  obtain ⟨⟨books, orderly, restores⟩, status⟩ := stage
  exact ⟨books ▸ first restores orderly, status⟩

end Ledgers

/-! ## Every run -/

/-- For every session that was opened, whoever pays for it, and every run of the
worker and any number of sweepers. When the worker overwrites nothing that a
sweeper has failed, sweepers that win have nothing to refund, the settlement can
be carried out, and what is given back is what was charged, then a final status
is kept, a failed task has left the ledgers as before, and one that succeeded
has paid what was settled. And a run in which the worker overwrites a final
status does not. -/
theorem image_task_fulfilled (calendar : Calendar) (preference : BillingPreference)
    (info : RelayInfo) (quota now : Int) (before opened : Books) (session : BillingSession)
    (unique : (before.db.subscriptions.map UserSubscription.id).Nodup)
    (counted : ∀ sub ∈ before.db.subscriptions, Counted sub)
    (fresh : before.db.record info.request.requestId = none)
    (user : (lookup User.id before.db.users info.userId).isSome) (token : TokenStored info before)
    (opens : newBillingSession calendar preference info quota now before = (opened, .ok session))
    (submission : Submission) (events : List Event) :
    let start := submitAsyncImageTask submission session opened
    (Guarded step OvertakesNone start events → Guarded step (BillsOnce session opened) start events →
      Fulfilled session before opened start events) ∧
      (Fulfilled session before opened start events → Guarded step OvertakesNone start events) := by
  intro start
  have none_read : Fresh start := fun copy member => absurd member List.not_mem_nil
  have began : Quiet session opened start := ⟨none_read, rfl, rfl, rfl⟩
  have decides := first_decides unique counted fresh user token opens
  constructor
  · intro overtakes bills
    have ended := run_preserves step_quiet bills began
    refine ⟨(keeps_status_iff start events none_read).mpr overtakes, ?_, ?_⟩
    · intro outcome finished failed
      obtain ⟨decided, status⟩ := quiet_ended ended finished (decides outcome)
      cases outcome with
      | refund later => exact decided
      | settle actualQuota later =>
        exact absurd (status.symm.trans failed) TaskStatus.success_ne_failure
    · intro outcome finished succeeded
      obtain ⟨decided, status⟩ := quiet_ended ended finished (decides outcome)
      cases outcome with
      | refund later => exact absurd (succeeded.symm.trans status) TaskStatus.success_ne_failure
      | settle actualQuota later => exact ⟨actualQuota, later, rfl, decided⟩
  · exact fun fulfilled => (keeps_status_iff start events none_read).mp fulfilled.once

/-! ### A wallet that is trusted, and one that is not -/

def trustingInfo : RelayInfo := { walletInfo with trustQuota := 50 }

def trustingSession : BillingSession :=
  sessionOf trustingInfo (.wallet { userId := 7, consumed := 0 }) 0

def tenSubmitted : Submission where
  id := 1
  taskID := "task_1"
  quotaToPreConsume := 10
  submitTime := 1760000000
  data := []

def sweptDuringCall : List Event :=
  [.mark 1760000001, .sweepRead 1760001800,
    .sweepWrite 0 { now := 1760003600, taskTimeoutMinutes := 30 }, .sweepRefund 0 1760003600,
    .fail "bad response" 1760003700, .save]

/-- The session of a trusted wallet took nothing, and the sweeper refunds the
estimate: the user has more than before. -/
theorem swept_task_refunds_estimate :
    ¬ ∀ (calendar : Calendar) (preference : BillingPreference) (info : RelayInfo) (quota now : Int)
      (before opened : Books) (session : BillingSession),
      (before.db.subscriptions.map UserSubscription.id).Nodup →
      (∀ sub ∈ before.db.subscriptions, Counted sub) →
      before.db.record info.request.requestId = none →
      (lookup User.id before.db.users info.userId).isSome → TokenStored info before →
      newBillingSession calendar preference info quota now before = (opened, .ok session) →
      ∀ submission events,
        Fulfilled session before opened (submitAsyncImageTask submission session opened) events := by
  intro always
  have fulfilled := always dayCount .walletOnly trustingInfo 10 0 walletBooks walletBooks
    trustingSession (by decide) (fun _ member => absurd member List.not_mem_nil) rfl rfl
    (fun _ => ⟨by decide, rfl⟩) rfl tenSubmitted sweptDuringCall
  have refunded := fulfilled.failed (.refund 1760003700) ⟨rfl, rfl⟩ rfl
  have higher : (110 : Int) = 100 - 0 := refunded.1
  omega

theorem called_task_fulfilled :
    Fulfilled walletSession walletBooks walletOpened
      (submitAsyncImageTask tenSubmitted walletSession walletOpened)
      [.mark 1760000001, .succeed 30 none [] 1760000060, .save] := by
  refine (image_task_fulfilled dayCount .walletOnly walletInfo 10 0 walletBooks walletOpened
    walletSession (by decide) (fun _ member => absurd member List.not_mem_nil) rfl rfl
    (fun _ => ⟨by decide, rfl⟩) rfl tenSubmitted _).1 ⟨fun _ => by decide, trivial, ?_, trivial⟩
    ⟨trivial, fun _ => ⟨?_, fun _ => trivial⟩, trivial, trivial⟩
  · intro outcome _ done
    exact absurd done (by decide)
  · show (0 : Int) ≤ 10
    decide

end NewApi.ImageTasks
