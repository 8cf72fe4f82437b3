import NewApi.ImageTasks

/-! The completion of a submitted task. The submission settles a session with
the quota of the row; when the upstream has succeeded, a poll saves the row and
then recalculates the quota: it charges the difference to the source and to
the token, and changes the quota of its copy, which is not saved again. -/
namespace NewApi.TaskCompletion
open NewApi.KeyedTable NewApi.Subscription
open NewApi.SubscriptionStore hiding step Event
open NewApi.RequestCharge NewApi.RequestBilling NewApi.BillingCalls NewApi.BillingSettlement
open NewApi.TaskRows NewApi.TaskPolling
open NewApi.ImageTasks hiding step Event State

/-! ## Submission -/

/-- What `RelayTask` reads beside the session: the row's ids and time, and the
answer of the upstream. -/
structure TaskSubmission where
  id : Int
  taskID : String
  platform : TaskPlatform
  submitTime : Int
  upstreamTaskID : String := ""
  perCallBilling : Bool := false
  taskData : List UInt8 := []

/-- The row of `controller/relay.go::RelayTask`, once the session has settled
with the quota of the result. -/
def relayTask (submission : TaskSubmission) (session : BillingSession) (quota : Int) : Task where
  id := submission.id
  taskID := submission.taskID
  platform := submission.platform
  userId := session.relayInfo.userId
  quota := quota
  submitTime := submission.submitTime
  privateData :=
    { toBillingInfo := session.billing
      upstreamTaskID := submission.upstreamTaskID
      tokenId := session.relayInfo.tokenId
      perCallBilling := submission.perCallBilling }
  data := submission.taskData

structure BilledBy (task : Task) (session : BillingSession) (quota : Int) : Prop where
  user : task.userId = session.relayInfo.userId
  quota : task.quota = quota
  billing : task.privateData.toBillingInfo = session.billing
  token : task.privateData.tokenId = session.relayInfo.tokenId

theorem relayed_billed (submission : TaskSubmission) (session : BillingSession) (quota : Int) :
    BilledBy (relayTask submission session quota) session quota := ⟨rfl, rfl, rfl, rfl⟩

/-! ## Completion -/

structure Polled where
  row : Task
  books : Books

/-- `updateVideoSingleTask` with the ledgers: a refund and a settlement move
them alike. -/
def pollOnBooks (serverAddress : String) (poll : VideoPoll) (row task : Task) (books : Books) :
    Polled :=
  let outcome := updateVideoSingleTask serverAddress poll row task
  { row := outcome.stored.getD row
    books := match outcome.refund.or outcome.charge with
      | none => books
      | some charge => refundTask outcome.copy charge poll.now books }

def recalculated (poll : VideoPoll) (info : TaskInfo) : Option Int :=
  if poll.adjustedQuota > 0 then some poll.adjustedQuota
  else if info.totalTokens > 0 then some poll.tokensQuota
  else none

structure Completes (poll : VideoPoll) (row task : Task) (actualQuota : Int) : Prop where
  answer : ∃ reply parsed info, poll.reply = some reply ∧ reply.taskInfo = some parsed ∧
    reply.judged parsed = some info ∧ info.status = TaskStatus.success ∧
    recalculated poll info = some actualQuota
  open_ : task.status ≠ TaskStatus.success
  wins : row.status = task.status
  saved : poll.saveFails = false
  metered : task.privateData.perCallBilling = false

structure SuccessOf (task updated : Task) : Prop where
  id : updated.id = task.id
  user : updated.userId = task.userId
  quota : updated.quota = task.quota
  billing : updated.privateData.toBillingInfo = task.privateData.toBillingInfo
  token : updated.privateData.tokenId = task.privateData.tokenId
  perCall : updated.privateData.perCallBilling = task.privateData.perCallBilling
  status : updated.status = TaskStatus.success

theorem success_copy (serverAddress : String) (now : Int) (task : Task)
    (data : List UInt8) (success : info.status = TaskStatus.success) :
    SuccessOf task (withProgress info (withStatus serverAddress now info { task with data := data })) := by
  have submitted : ¬ TaskStatus.success = TaskStatus.submitted := by decide
  have queued : ¬ TaskStatus.success = TaskStatus.queued := by decide
  have inProgress : ¬ TaskStatus.success = TaskStatus.inProgress := by decide
  unfold withProgress withStatus
  simp only [success, submitted, queued, inProgress, if_false, if_true]
  split <;> exact ⟨rfl, rfl, rfl, rfl, rfl, rfl, rfl⟩

section Completion
variable (serverAddress : String) {poll : VideoPoll} {task : Task} {actualQuota : Int}
variable {books : Books}

theorem completes_cases (completes : Completes poll row task actualQuota) :
    ∃ updated, SuccessOf task updated ∧
      updateVideoSingleTask serverAddress poll row task =
        { copy := (recalculateTaskQuota updated actualQuota poll.faults).1
          stored := some updated
          charge := (recalculateTaskQuota updated actualQuota poll.faults).2 } := by
  obtain ⟨reply, parsed, info, answered, read, judged, success, quota⟩ := completes.answer
  have copied := success_copy serverAddress poll.now task reply.redactedBody success
  refine ⟨_, copied, ?_⟩
  have known : knownStatus info.status = true := by rw [success]; decide
  simp only [updateVideoSingleTask, answered, read, judged, known, if_true]
  generalize withProgress info _ = updated at copied ⊢
  have moved : (TaskStatus.isDone updated.status && decide (task.status ≠ updated.status)) = true := by
    rw [copied.status]
    simp [completes.open_]
  have won : updateWithStatus row updated task.status poll.saveFails = some updated := by
    simp [updateWithStatus, completes.wins, completes.saved]
  have metered : updated.privateData.perCallBilling = false := copied.perCall.trans completes.metered
  have settled : settleTaskBillingOnComplete poll info updated =
      recalculateTaskQuota updated actualQuota poll.faults := by
    unfold recalculated at quota
    unfold settleTaskBillingOnComplete
    rw [metered]
    split at quota
    · rename_i adjusted
      cases quota
      simp [adjusted]
    · rename_i unadjusted
      split at quota
      · rename_i tokens
        cases quota
        simp [unadjusted, tokens]
      · cases quota
  simp only [storeVideoTask, moved, Bool.true_or, if_true, won, success, decide_true, Bool.and_self,
    settled]

theorem completed_row (completes : Completes poll row task actualQuota) :
    (pollOnBooks serverAddress poll row task books).row.quota = task.quota := by
  obtain ⟨updated, copied, outcome⟩ := completes_cases serverAddress completes
  rw [pollOnBooks, outcome]
  exact copied.quota

/-! ## What it moves -/

def countsOnly (task : Task) : Bool :=
  taskIsSubscription task && !taskUsesTokenQuota task && taskUsesSubscriptionRequestCount task

def Refused (poll : VideoPoll) (task : Task) (actualQuota : Int) (books : Books) : Prop :=
  countsOnly task = false ∧ actualQuota ≠ task.quota ∧ (poll.faults.funding = true ∨
    ∃ error, taskAdjustFunding task (actualQuota - task.quota) 0 poll.now books = .error error)

theorem adjust_funding_same (user : one.userId = other.userId)
    (billing : one.privateData.toBillingInfo = other.privateData.toBillingInfo)
    (amountDelta countDelta now : Int) :
    taskAdjustFunding one amountDelta countDelta now books =
      taskAdjustFunding other amountDelta countDelta now books := by
  unfold taskAdjustFunding taskIsSubscription
  rw [user, billing]

theorem counts_only_same
    (billing : one.privateData.toBillingInfo = other.privateData.toBillingInfo) :
    countsOnly one = countsOnly other := by
  unfold countsOnly taskIsSubscription taskUsesTokenQuota taskUsesSubscriptionRequestCount
    taskIsSubscription
  rw [billing]

theorem refund_task_same (user : one.userId = other.userId)
    (billing : one.privateData.toBillingInfo = other.privateData.toBillingInfo)
    (token : one.privateData.tokenId = other.privateData.tokenId) (charge : TaskCharge) (now : Int) :
    refundTask one charge now books = refundTask other charge now books := by
  unfold refundTask
  rw [adjust_funding_same user billing, token]

def completionCharge (task : Task) (actualQuota : Int) (faults : BillingFaults) : TaskCharge where
  task := task.id
  amountDelta := actualQuota - task.quota
  tokenDelta := taskAdjustTokenQuota task (actualQuota - task.quota) faults.token

theorem completed_books (positive : 0 < actualQuota) (completes : Completes poll row task actualQuota) :
    (pollOnBooks serverAddress poll row task books).books =
      if countsOnly task = true ∨ actualQuota = task.quota ∨ poll.faults.funding = true then books
      else refundTask task (completionCharge task actualQuota poll.faults) poll.now books := by
  obtain ⟨updated, copied, outcome⟩ := completes_cases serverAddress completes
  have paid : ¬ actualQuota ≤ 0 := by omega
  have same := counts_only_same copied.billing
  simp only [pollOnBooks, outcome, Option.none_or]
  unfold recalculateTaskQuota
  rw [if_neg paid]
  by_cases counted : countsOnly task = true
  · have skips := same.trans counted
    unfold countsOnly at skips
    rw [if_pos skips]
    exact (if_pos (.inl counted)).symm
  · have charges : ¬ countsOnly updated = true := same ▸ counted
    unfold countsOnly at charges
    rw [if_neg charges, copied.quota]
    dsimp only
    by_cases exact_ : actualQuota = task.quota
    · rw [if_pos (show actualQuota - task.quota = 0 by omega)]
      exact (if_pos (.inr (.inl exact_))).symm
    · rw [if_neg (show ¬ actualQuota - task.quota = 0 by omega)]
      by_cases fault : poll.faults.funding = true
      · rw [if_pos fault]
        exact (if_pos (.inr (.inr fault))).symm
      · have goesOn : ¬ (countsOnly task = true ∨ actualQuota = task.quota ∨
            poll.faults.funding = true) := by
          simp [counted, exact_, fault]
        have token : taskAdjustTokenQuota updated (actualQuota - task.quota) poll.faults.token =
            taskAdjustTokenQuota task (actualQuota - task.quota) poll.faults.token := by
          unfold taskAdjustTokenQuota taskUsesTokenQuota taskIsSubscription
          rw [copied.billing, copied.token]
        rw [if_neg fault, if_neg goesOn]
        dsimp only
        rw [token, copied.id]
        exact refund_task_same copied.user copied.billing copied.token _ _

theorem refused_unmoved (positive : 0 < actualQuota)
    (completes : Completes poll row task actualQuota) (refused : Refused poll task actualQuota books) :
    (pollOnBooks serverAddress poll row task books).books = books := by
  rw [completed_books serverAddress positive completes]
  obtain ⟨counted, moves, fault | ⟨error, failed⟩⟩ := refused
  · exact if_pos (.inr (.inr fault))
  · split
    · rfl
    · unfold refundTask
      have denied : taskAdjustFunding task (completionCharge task actualQuota poll.faults).amountDelta
          (completionCharge task actualQuota poll.faults).countDelta poll.now books = .error error := failed
      rw [denied]

theorem exact_unmoved (positive : 0 < actualQuota)
    (completes : Completes poll row task actualQuota) (exact_ : actualQuota = task.quota) :
    (pollOnBooks serverAddress poll row task books).books = books := by
  rw [completed_books serverAddress positive completes]
  exact if_pos (.inr (.inl exact_))

end Completion

/-! ## What a completion is to leave -/

def CountsOnly (session : BillingSession) : Prop :=
  match session.funding with
  | .wallet _ => False
  | .subscription sub => sub.resourceType = .requestCount ∧ sub.amountTotal ≤ 0

/-- The source, the token and the row of a completed task all hold its actual
quota; a session that is paid by requests keeps its charge, and no amount. -/
structure ChargedActual (session : BillingSession) (before opened charged : Books)
    (actualQuota : Int) (polled : Polled) : Prop where
  row : polled.row.quota = actualQuota
  amount : ¬ CountsOnly session →
    FundingPaid session.funding before opened polled.books actualQuota ∧
      TokenPaid session before polled.books actualQuota
  requests : CountsOnly session →
    FundingPaid session.funding before opened polled.books 0 ∧ Unmoved session charged polled.books

/-- For every task and the quota that it was charged, and every poll that
completes it with a quota of its own: where the source refuses the difference
nothing changes, and elsewhere everything holds the actual quota exactly when
that is the quota that was charged, to a source with an amount or by requests
alone. -/
theorem completion_charges_actual_iff (serverAddress : String) (poll : VideoPoll) (row task : Task)
    (session : BillingSession) (before opened charged : Books) (quota actualQuota : Int)
    (relayed : session.relayInfo.isPlayground = false)
    (stored : TokenStored session.relayInfo before) (billed : BilledBy task session quota)
    (submitted : FirstDecides session before opened charged (.settle quota 0))
    (positive : 0 < actualQuota) (completes : Completes poll row task actualQuota) :
    let polled := pollOnBooks serverAddress poll row task charged
    (Refused poll task actualQuota charged → polled.books = charged ∧ polled.row.quota = quota) ∧
      (¬ Refused poll task actualQuota charged →
        (ChargedActual session before opened charged actualQuota polled ↔
          actualQuota = quota ∧ (session.funding.useTokenQuota = true ∨ CountsOnly session))) := by
  intro polled
  have held : polled.row.quota = quota := (completed_row serverAddress completes).trans billed.quota
  obtain ⟨source, token⟩ := submitted
  refine ⟨fun refused => ⟨refused_unmoved serverAddress positive completes refused, held⟩, fun _ => ?_⟩
  constructor
  · intro actual
    have exact_ : actualQuota = quota := actual.row.symm.trans held
    refine ⟨exact_, ?_⟩
    by_contra free
    obtain ⟨uncharged, uncounted⟩ := not_or.mp free
    have unmoved : polled.books = charged :=
      exact_unmoved serverAddress positive completes (exact_.trans billed.quota.symm)
    obtain ⟨-, paid⟩ := actual.amount uncounted
    have uses : chargesToken session = false := by simp [chargesToken, uncharged]
    rw [unmoved, TokenPaid] at paid
    rw [TokenPaid, uses] at token
    obtain ⟨-, known⟩ := stored relayed
    obtain ⟨row_, found⟩ := Option.isSome_iff_exists.mp known
    have balance : before.tokenBalance session.relayInfo.tokenId =
        some (row_.remainQuota, row_.usedQuota) := by
      rw [Books.tokenBalance, found]
      rfl
    rw [balance] at paid token
    have same := paid.symm.trans token
    simp only [Option.map_some, Option.some.injEq, Prod.mk.injEq, Bool.false_eq_true, if_false] at same
    omega
  · rintro ⟨exact_, shape⟩
    have unmoved : polled.books = charged :=
      exact_unmoved serverAddress positive completes (exact_.trans billed.quota.symm)
    refine ⟨held.trans exact_.symm, fun uncounted => ?_, fun counted => ?_⟩
    · have charges := shape.resolve_right uncounted
      have uses : chargesToken session = true := by simp [chargesToken, charges, relayed]
      rw [if_pos charges] at source
      rw [if_pos uses] at token
      rw [unmoved, exact_]
      exact ⟨source, token⟩
    · have charges : session.funding.useTokenQuota ≠ true := by
        unfold CountsOnly at counted
        cases funding : session.funding with
        | wallet wallet => simp [funding] at counted
        | subscription sub =>
          rw [funding] at counted
          simp [FundingSource.useTokenQuota, counted.2]
      rw [if_neg charges] at source
      rw [unmoved]
      exact ⟨source, unmoved_refl session charged⟩

def tenQuotaVideo : Task :=
  relayTask
    { id := 1
      taskID := "task_1"
      platform := .channelType 50
      submitTime := 1760000000 }
    walletSession 10

def completedFor (quota : Int) : VideoPoll where
  reply := some { parsed := some { status := "SUCCESS", url := "https://videos.example/1" } }
  adjustedQuota := quota
  now := 1760000060

theorem video_completes (quota : Int) (positive : 0 < quota) :
    Completes (completedFor quota) tenQuotaVideo tenQuotaVideo quota where
  answer := ⟨_, _, _, rfl, rfl, rfl, rfl, if_pos positive⟩
  open_ := by decide
  wins := rfl
  saved := rfl
  metered := rfl

theorem ten_submitted : FirstDecides walletSession walletBooks walletOpened walletOpened
    (.settle 10 0) := ⟨rfl, rfl⟩

/-- A video that costs thirty in the end is paid for, and its row still says
ten. -/
theorem completed_row_keeps_estimate :
    (pollOnBooks "" (completedFor 30) tenQuotaVideo tenQuotaVideo walletOpened).row.quota = 10 ∧
    ¬ ∀ (serverAddress : String) (poll : VideoPoll) (row task : Task) (session : BillingSession)
      (before opened charged : Books) (quota actualQuota : Int),
      session.relayInfo.isPlayground = false → TokenStored session.relayInfo before →
      BilledBy task session quota → FirstDecides session before opened charged (.settle quota 0) →
      0 < actualQuota → Completes poll row task actualQuota →
      ¬ Refused poll task actualQuota charged →
        ChargedActual session before opened charged actualQuota
          (pollOnBooks serverAddress poll row task charged) := by
  have kept : (pollOnBooks "" (completedFor 30) tenQuotaVideo tenQuotaVideo walletOpened).row.quota =
      10 := by decide +kernel
  refine ⟨kept, fun always => ?_⟩
  have actual := always "" (completedFor 30) tenQuotaVideo tenQuotaVideo walletSession walletBooks
    walletOpened walletOpened 10 30 rfl (fun _ => ⟨by decide, rfl⟩) (relayed_billed _ _ _)
    ten_submitted (by decide) (video_completes 30 (by decide)) ?_
  · have thirty := actual.row
    rw [kept] at thirty
    exact absurd thirty (by decide)
  · rintro ⟨-, -, fault | ⟨error, failed⟩⟩
    · cases fault
    · cases failed

theorem estimate_met :
    ChargedActual walletSession walletBooks walletOpened walletOpened 10
      (pollOnBooks "" (completedFor 10) tenQuotaVideo tenQuotaVideo walletOpened) := by
  have charges := completion_charges_actual_iff "" (completedFor 10) tenQuotaVideo tenQuotaVideo
    walletSession walletBooks walletOpened walletOpened 10 10 rfl (fun _ => ⟨by decide, rfl⟩)
    (relayed_billed _ _ _) ten_submitted (by decide) (video_completes 10 (by decide))
  refine (charges.2 ?_).mpr ⟨rfl, .inl rfl⟩
  rintro ⟨-, moves, -⟩
  exact moves rfl

end NewApi.TaskCompletion
