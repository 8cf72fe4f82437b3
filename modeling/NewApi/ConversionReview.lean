import Mathlib.Data.Rat.Floor
import NewApi.GroupUpgrade
import NewApi.StagedReads

/-! Requests to turn subscriptions back into quota. An approval and a rejection
read the request and the subscriptions with statements that take no lock, and
write once at the end. What is proved is exactly which interleavings credit the
user once and never for a rejected request. -/
namespace NewApi.ConversionReview
open NewApi.GuardedRun NewApi.KeyedTable
open NewApi.GoText (trimSpace)
open NewApi.Subscription (UserSubscription)
open NewApi.SubscriptionStore (Database User)
open NewApi.GroupUpgrade (ActiveUpgrade endsAfter userRows moveUser
  downgradeUserGroupForSubscription)
open NewApi.StagedReads (Transaction idle Keeps Commits always_safe_iff_commits)

/-! ## Rows -/

inductive RequestStatus where
  | pending
  | approved
  | rejected
  | canceled
  deriving DecidableEq, Repr

inductive PayoutStatus where
  | none_
  | pending
  | paid
  deriving DecidableEq, Repr

inductive RefundTarget where
  | balance
  | originalPayment
  deriving DecidableEq, Repr

/-- `subscriptionConversionRequestSnapshot`, the columns a rejection restores. -/
structure Snapshot where
  userSubscriptionId : Int
  endTime : Int
  nextResetTime : Int
  deriving DecidableEq, Repr

/-- `model/subscription_conversion_request.go::SubscriptionConversionRequest`.
The two JSON columns are `none` where they do not parse. -/
structure ConversionRequest where
  id : Int
  userId : Int
  status : RequestStatus := .pending
  subscriptionIds : Option (List Int) := some []
  subscriptionSnapshots : Option (List Snapshot) := some []
  adminRemark : String := ""
  requestedRefundTarget : Option RefundTarget := some .balance
  approvedRefundTarget : Option RefundTarget := none
  payoutStatus : PayoutStatus := .none_
  payoutRemark : String := ""
  approvedRatio : Rat := 0
  approvedAmount : Rat := 0
  approvedQuota : Int := 0
  approvedAt : Int := 0
  rejectedAt : Int := 0
  executedAt : Int := 0
  payoutAt : Int := 0
  disabledAt : Int := 0
  createTime : Int := 0
  updateTime : Int := 0
  deriving DecidableEq, Repr

/-- The tables, and in `credits` what approvals of the request ever added to
the quota of its user. -/
structure Tables where
  db : Database := {}
  requests : List ConversionRequest := []
  credits : List Int := []
  deriving DecidableEq, Repr

def Tables.request (tables : Tables) (id : Int) : Option ConversionRequest :=
  lookup ConversionRequest.id tables.requests id

/-- `tx.Save` of the request, all columns of the row in memory. -/
def Tables.saveRequest (tables : Tables) (request : ConversionRequest) (now : Int) : Tables :=
  { tables with
    requests := save ConversionRequest.id tables.requests { request with updateTime := now } }

def Tables.creditUser (tables : Tables) (userId quota : Int) : Tables :=
  { tables with
    db := { tables.db with
      users := update User.id tables.db.users userId fun user =>
        { user with quota := user.quota + quota } }
    credits := tables.credits ++ [quota] }

inductive ConversionError where
  | invalidId
  | notFound
  | notPending
  | targetNotAllowed
  | undecodable
  | noTargets
  | targetsGone
  | targetsChanged
  | quotaNotPositive
  | remarkEmpty
  | snapshotMissing
  | interrupted
  deriving DecidableEq, Repr

/-! ## Helpers -/

/-- `NormalizeSubscriptionRefundTarget`. -/
def normalizeSubscriptionRefundTarget (target : String) : Option RefundTarget :=
  if trimSpace target = "balance" then some .balance
  else if trimSpace target = "original_payment" then some .originalPayment
  else none

/-- `SubscriptionRefundSettings`, and the quota of one unit of money. -/
structure RefundSettings where
  allowBalanceRefund : Bool := true
  allowOriginalPaymentRefund : Bool := true
  quotaPerUnit : Rat := 500000

def RefundSettings.isRefundTargetAllowed (settings : RefundSettings) : Option RefundTarget → Bool
  | some .balance => settings.allowBalanceRefund
  | some .originalPayment => settings.allowOriginalPaymentRefund
  | none => false

/-- `normalizeSubscriptionIntList`. -/
def normalizeSubscriptionIntList (items : List Int) : List Int :=
  (items.filter fun item => item > 0).eraseDups

/-- `decodeSubscriptionConversionSnapshots`. It drops the later snapshots of one
subscription, which a lookup does not find either. -/
def decodeSnapshots (items : List Snapshot) : List Snapshot :=
  items.filter fun item => item.userSubscriptionId > 0

/-- `math.Round`. -/
def roundHalfAway (value : Rat) : Int :=
  if value ≥ 0 then (value + 1 / 2).floor else -((-value + 1 / 2).floor)

/-- `lockSubscriptionConversionTargetsTx`, whose read takes no lock. -/
def lockSubscriptionConversionTargets (userId : Int) (subscriptionIds : List Int) (db : Database) :
    Except ConversionError (List UserSubscription) :=
  if userId ≤ 0 ∨ subscriptionIds = [] then .error .noTargets
  else
    let subs := db.subscriptions.filter fun sub => sub.userId = userId && sub.id ∈ subscriptionIds
    if subs.length ≠ subscriptionIds.length then .error .targetsGone
    else match subscriptionIds.mapM (lookup UserSubscription.id subs) with
    | none => .error .targetsGone
    | some ordered => .ok ordered

def updateSubscription (id : Int) (change : UserSubscription → UserSubscription) (db : Database) :
    Database :=
  { db with subscriptions := update UserSubscription.id db.subscriptions id change }

/-- `downgradeUserGroupsForSubscriptionListTx`. -/
def downgradeUserGroupsForSubscriptionList (subs : List UserSubscription) (now : Int)
    (db : Database) : Database :=
  subs.foldl (fun db sub =>
    let db := updateSubscription sub.id (fun row =>
      { row with status := .cancelled, endTime := now, updatedAt := now }) db
    moveUser db sub.userId (downgradeUserGroupForSubscription sub now (userRows db sub.userId)
      (db.userGroup sub.userId))) db

/-- `restoreUserGroupForPendingConversionTx`. -/
def restoreUserGroupForPendingConversion (userId now : Int) (db : Database) : Database :=
  match first endsAfter ((userRows db userId).filter fun sub =>
      decide (ActiveUpgrade sub) && sub.endTime > now) with
  | none => db
  | some activeSub =>
    let targetGroup := trimSpace activeSub.upgradeGroup
    if targetGroup = "" ∨ db.userGroup userId = targetGroup then db
    else moveUser db userId (some targetGroup)

/-! ## The two calls -/

/-- The arguments of `ApproveSubscriptionConversionRequest`, the settings, and
the time of the database. -/
structure Approval where
  approvedRatio : Rat := 1
  approvedQuota : Int := 0
  approvedAmount : Rat := 0
  approvedRefundTarget : String := ""
  adminRemark : String := ""
  settings : RefundSettings := {}
  now : Int := 0

/-- The arguments of `RejectSubscriptionConversionRequest`. -/
structure Rejection where
  adminRemark : String
  now : Int := 0

inductive Call where
  | approve (approval : Approval)
  | reject (rejection : Rejection)

/-- What a transaction has read so far. `seen` is how often the request had
been credited when the request was read. -/
structure Reads where
  request : Option ConversionRequest
  seen : Nat
  user : Option (Option User) := none
  suggestion : Option (Except ConversionError (Int × Rat)) := none
  targets : Option (Except ConversionError (List UserSubscription)) := none

def namedTargets (request : ConversionRequest) (db : Database) :
    Except ConversionError (List UserSubscription) :=
  match request.subscriptionIds with
  | none => .error .undecodable
  | some ids => lockSubscriptionConversionTargets request.userId (normalizeSubscriptionIntList ids) db

def refundTarget (approval : Approval) (request : ConversionRequest) : Option RefundTarget :=
  match normalizeSubscriptionRefundTarget approval.approvedRefundTarget with
  | some target => some target
  | none => request.requestedRefundTarget

def creditedQuota (approval : Approval) (target : Option RefundTarget) (suggestedQuota : Int) :
    Int :=
  let ratio := if approval.approvedRatio ≤ 0 then 1 else approval.approvedRatio
  if target ≠ some .balance then 0
  else if approval.approvedQuota ≤ 0 then roundHalfAway (suggestedQuota * ratio)
  else approval.approvedQuota

def recordedAmount (approval : Approval) (target : Option RefundTarget) (suggestedAmount : Rat)
    (quota : Int) : Rat :=
  let ratio := if approval.approvedRatio ≤ 0 then 1 else approval.approvedRatio
  let amount := if approval.approvedAmount ≤ 0 then suggestedAmount * ratio
    else approval.approvedAmount
  if target = some .balance ∧ amount ≤ 0 ∧ approval.settings.quotaPerUnit > 0 then
    quota / approval.settings.quotaPerUnit
  else amount

def targetsUnchanged (request : ConversionRequest) (now : Int) (sub : UserSubscription) : Bool :=
  if request.disabledAt ≤ 0 then sub.status = .active && sub.endTime > now
  else sub.status = .cancelled && sub.endTime = request.disabledAt

def approveRow (approval : Approval) (target : Option RefundTarget) (quota : Int) (amount : Rat)
    (request : ConversionRequest) : ConversionRequest :=
  let ratio := if approval.approvedRatio ≤ 0 then 1 else approval.approvedRatio
  { request with
    status := .approved
    approvedAt := approval.now
    executedAt := if target = some .balance then approval.now else request.executedAt
    payoutStatus := if target = some .balance then .none_ else .pending
    payoutAt := 0
    payoutRemark := if target = some .balance then "" else request.payoutRemark
    approvedRefundTarget := target
    approvedQuota := quota
    approvedAmount := roundHalfAway (amount * 100) / 100
    approvedRatio := ratio
    adminRemark := trimSpace approval.adminRemark }

/-- `executeSubscriptionConversionRequestTx` after its read of the
subscriptions. -/
def executeSubscriptionConversionRequest (approval : Approval) (target : Option RefundTarget)
    (quota : Int) (amount : Rat) (request : ConversionRequest) (subs : List UserSubscription)
    (tables : Tables) : Except ConversionError Tables :=
  if !subs.all (targetsUnchanged request approval.now) then .error .targetsChanged
  else if target = some .balance ∧ quota ≤ 0 then .error .quotaNotPositive
  else
    let credited := if target = some .balance then tables.creditUser request.userId quota
      else tables
    let downgraded := if request.disabledAt ≤ 0 then
      { credited with db := downgradeUserGroupsForSubscriptionList subs approval.now credited.db }
      else credited
    .ok (downgraded.saveRequest (approveRow approval target quota amount request) approval.now)

/-- The write of `ApproveSubscriptionConversionRequest`, from what it read. -/
def approveSubscriptionConversionRequest (approval : Approval) (reads : Reads) (tables : Tables) :
    Except ConversionError Tables :=
  match reads.request, reads.user, reads.suggestion, reads.targets with
  | some request, some (some _), some (.ok (suggestedQuota, suggestedAmount)), some (.ok subs) =>
    let target := refundTarget approval request
    let quota := creditedQuota approval target suggestedQuota
    if request.status ≠ .pending then .error .notPending
    else if approval.settings.isRefundTargetAllowed target = false then .error .targetNotAllowed
    else if target = some .balance ∧ quota ≤ 0 then .error .quotaNotPositive
    else executeSubscriptionConversionRequest approval target quota
      (recordedAmount approval target suggestedAmount quota) request subs tables
  | _, _, _, _ => .error .interrupted

def restoreRow (snapshot : Snapshot) (suspendedSeconds now : Int) (sub : UserSubscription) :
    UserSubscription :=
  { sub with
    status := .active
    endTime := if snapshot.endTime > 0 then snapshot.endTime + suspendedSeconds
      else snapshot.endTime
    nextResetTime := if snapshot.nextResetTime > 0 then snapshot.nextResetTime + suspendedSeconds
      else snapshot.nextResetTime
    updatedAt := now }

def restoreSubscriptions (snapshots : List Snapshot) (suspendedSeconds now : Int) :
    List UserSubscription → Database → Except ConversionError Database
  | [], db => .ok db
  | sub :: rest, db =>
    match lookup Snapshot.userSubscriptionId snapshots sub.id with
    | none => .error .snapshotMissing
    | some snapshot => restoreSubscriptions snapshots suspendedSeconds now rest
        (updateSubscription sub.id (restoreRow snapshot suspendedSeconds now) db)

def rejectRow (rejection : Rejection) (request : ConversionRequest) : ConversionRequest :=
  { request with
    status := .rejected
    rejectedAt := rejection.now
    adminRemark := trimSpace rejection.adminRemark }

/-- The write of `RejectSubscriptionConversionRequest`, from what it read. -/
def rejectSubscriptionConversionRequest (rejection : Rejection) (reads : Reads)
    (tables : Tables) : Except ConversionError Tables :=
  if trimSpace rejection.adminRemark = "" then .error .remarkEmpty
  else match reads.request with
  | none => .error .notFound
  | some request =>
    if request.status ≠ .pending then .error .notPending
    else if request.disabledAt ≤ 0 then
      .ok (tables.saveRequest (rejectRow rejection request) rejection.now)
    else match request.subscriptionSnapshots, reads.targets with
    | some snapshots, some (.ok subs) =>
      match restoreSubscriptions (decodeSnapshots snapshots)
          (max 0 (rejection.now - request.disabledAt)) rejection.now subs tables.db with
      | .error error => .error error
      | .ok db =>
        let restored := restoreUserGroupForPendingConversion request.userId rejection.now db
        .ok ({ tables with db := restored }.saveRequest (rejectRow rejection request) rejection.now)
    | _, _ => .error .interrupted

/-! ## Interleavings -/

def readNext (suggest : ConversionRequest → Database → Except ConversionError (Int × Rat))
    (call : Call) (reads : Reads) (tables : Tables) : Reads :=
  match reads.request, call with
  | none, _ => reads
  | some request, .reject _ => { reads with targets := some (namedTargets request tables.db) }
  | some request, .approve _ =>
    if reads.user.isNone then
      { reads with user := some (lookup User.id tables.db.users request.userId) }
    else if reads.suggestion.isNone then
      { reads with suggestion := some (suggest request tables.db) }
    else { reads with targets := some (namedTargets request tables.db) }

/-- One call on the request, by statements. `suggest` is
`calculateSubscriptionConversionRequestSuggestionTx`. -/
def callTransaction (suggest : ConversionRequest → Database → Except ConversionError (Int × Rat))
    (requestId : Int) (call : Call) : Transaction Tables Reads where
  first := fun tables =>
    { request := if requestId ≤ 0 then none else tables.request requestId
      seen := tables.credits.length }
  next := readNext suggest call
  write := fun reads tables =>
    match call with
    | .approve approval => (approveSubscriptionConversionRequest approval reads tables).toOption
    | .reject rejection => (rejectSubscriptionConversionRequest rejection reads tables).toOption

/-! ## What a commit does -/

def quotaOf (userId : Int) (db : Database) : Option Int :=
  (lookup User.id db.users userId).map User.quota

section Writes
variable {suggest : ConversionRequest → Database → Except ConversionError (Int × Rat)}
variable {tables after : Tables} {request : ConversionRequest} {userId : Int}

theorem update_user_quota (users : List User) (other userId : Int) {change : User → User}
    (keeps : ∀ user, (change user).id = user.id) :
    (lookup User.id (update User.id users other change) userId).map User.quota =
      if userId = other then (lookup User.id users userId).map fun user => (change user).quota
      else (lookup User.id users userId).map User.quota := by
  rw [lookup_update users other userId change keeps]
  split
  · rw [Option.map_map]
    rfl
  · rfl

theorem move_user_quota (db : Database) (other : Int) (group : Option String) (userId : Int) :
    quotaOf userId (moveUser db other group) = quotaOf userId db := by
  cases group with
  | none => rfl
  | some group =>
    let change : User → User := fun user => { user with group := group }
    have written := @update_user_quota db.users other userId change fun _ => rfl
    exact written.trans (ite_self _)

theorem downgrade_quota (subs : List UserSubscription) (now : Int) (db : Database) (userId : Int) :
    quotaOf userId (downgradeUserGroupsForSubscriptionList subs now db) = quotaOf userId db := by
  unfold downgradeUserGroupsForSubscriptionList
  induction subs generalizing db with
  | nil => rfl
  | cons sub rest ih =>
    rw [List.foldl_cons, ih]
    exact move_user_quota _ _ _ userId

theorem restore_group_quota (other now : Int) (db : Database) (userId : Int) :
    quotaOf userId (restoreUserGroupForPendingConversion other now db) = quotaOf userId db := by
  unfold restoreUserGroupForPendingConversion
  split
  · rfl
  · dsimp only
    split
    · rfl
    · exact move_user_quota _ _ _ userId

theorem restore_subscriptions_quota
    (restores : restoreSubscriptions snapshots seconds now subs db = .ok restored) :
    quotaOf userId restored = quotaOf userId db := by
  induction subs generalizing db with
  | nil =>
    cases restores
    rfl
  | cons sub rest ih =>
    simp only [restoreSubscriptions] at restores
    split at restores
    · cases restores
    · rw [ih restores]
      rfl

theorem credit_user_quota (tables : Tables) (userId quota : Int) :
    quotaOf userId (tables.creditUser userId quota).db = (quotaOf userId tables.db).map (· + quota) := by
  let change : User → User := fun user => { user with quota := user.quota + quota }
  have written := @update_user_quota tables.db.users userId userId change fun _ => rfl
  rw [if_pos rfl] at written
  refine written.trans ?_
  rw [quotaOf, Option.map_map]
  rfl

theorem save_request_found (row : ConversionRequest)
    (found : tables.request row.id = some old) (now : Int) :
    (tables.saveRequest row now).request row.id = some { row with updateTime := now } := by
  let saved : ConversionRequest := { row with updateTime := now }
  have known : lookup ConversionRequest.id tables.requests (ConversionRequest.id saved) = some old :=
    found
  exact lookup_save_self known

/-- What a verdict on the request leaves: its status, and the credits that it
added to the quota of its user. -/
structure Judged (requestId userId : Int) (status : RequestStatus) (credit : List Int)
    (tables after : Tables) : Prop where
  request : ∃ row, after.request requestId = some row ∧ row.userId = userId ∧ row.status = status
  credits : after.credits = tables.credits ++ credit
  quota : quotaOf userId after.db = (quotaOf userId tables.db).map (· + credit.sum)

theorem unmoved_quota (userId : Int) (db : Database) :
    quotaOf userId db = (quotaOf userId db).map (· + ([] : List Int).sum) := by
  cases quotaOf userId db <;> simp

theorem execute_judged
    (found : tables.request request.id = some old)
    (executes : executeSubscriptionConversionRequest approval target quota amount request subs
      tables = .ok after) :
    Judged request.id request.userId .approved (if target = some .balance then [quota] else [])
      tables after := by
  unfold executeSubscriptionConversionRequest at executes
  split at executes
  · cases executes
  · split at executes
    · cases executes
    · dsimp only at executes
      simp only [Except.ok.injEq] at executes
      let credited := if target = some .balance then tables.creditUser request.userId quota
        else tables
      let downgraded := if request.disabledAt ≤ 0 then
        { credited with db := downgradeUserGroupsForSubscriptionList subs approval.now credited.db }
        else credited
      have written : after = downgraded.saveRequest
          (approveRow approval target quota amount request) approval.now := executes.symm
      have requests : downgraded.requests = tables.requests := by
        simp only [downgraded, credited]
        split <;> split <;> rfl
      have known : downgraded.request (approveRow approval target quota amount request).id =
          some old := by
        rw [Tables.request, requests]
        exact found
      have credits : downgraded.credits =
          tables.credits ++ (if target = some .balance then [quota] else []) := by
        simp only [downgraded, credited, Tables.creditUser]
        split <;> split <;> simp
      have same : quotaOf request.userId downgraded.db = quotaOf request.userId credited.db := by
        simp only [downgraded]
        split
        · exact downgrade_quota _ _ _ _
        · rfl
      have moved : quotaOf request.userId credited.db = (quotaOf request.userId tables.db).map
          (· + (if target = some .balance then [quota] else []).sum) := by
        simp only [credited]
        split
        · rw [credit_user_quota, List.sum_singleton]
        · exact unmoved_quota _ _
      rw [written]
      exact ⟨⟨_, save_request_found _ known _, rfl, rfl⟩, credits, same.trans moved⟩

theorem approve_judged (read : reads.request = some request)
    (found : tables.request request.id = some old)
    (approves : approveSubscriptionConversionRequest approval reads tables = .ok after) :
    request.status = .pending ∧ ∃ quota, Judged request.id request.userId .approved
      (if refundTarget approval request = some .balance then [quota] else []) tables after := by
  unfold approveSubscriptionConversionRequest at approves
  split at approves
  · rename_i row user suggestedQuota suggestedAmount subs held _ _ _
    rw [read] at held
    cases held
    dsimp only at approves
    split at approves
    · cases approves
    · rename_i pending
      refine ⟨not_not.mp pending, creditedQuota approval (refundTarget approval request) suggestedQuota, ?_⟩
      split at approves
      · cases approves
      · split at approves
        · cases approves
        · exact execute_judged found approves
  · cases approves

theorem reject_judged (read : reads.request = some request)
    (found : tables.request request.id = some old)
    (rejects : rejectSubscriptionConversionRequest rejection reads tables = .ok after) :
    request.status = .pending ∧ Judged request.id request.userId .rejected [] tables after := by
  unfold rejectSubscriptionConversionRequest at rejects
  split at rejects
  · cases rejects
  · simp only [read] at rejects
    split at rejects
    · cases rejects
    · rename_i pending
      refine ⟨not_not.mp pending, ?_⟩
      split at rejects
      · cases rejects
        exact ⟨⟨_, save_request_found (rejectRow rejection request) found _, rfl, rfl⟩,
          (List.append_nil _).symm, unmoved_quota _ _⟩
      · split at rejects
        · rename_i snapshots subs _ _
          split at rejects
          · cases rejects
          · rename_i db restores
            cases rejects
            let restored : Tables := { tables with
              db := restoreUserGroupForPendingConversion request.userId rejection.now db }
            have known : restored.request (rejectRow rejection request).id = some old := found
            refine ⟨⟨_, save_request_found (rejectRow rejection request) known _, rfl, rfl⟩,
              (List.append_nil _).symm, ?_⟩
            have same : quotaOf request.userId restored.db = quotaOf request.userId tables.db :=
              (restore_group_quota _ _ _ _).trans (restore_subscriptions_quota restores)
            exact same.trans (unmoved_quota _ _)
        · cases rejects

theorem read_next_request (suggest : ConversionRequest → Database → Except ConversionError (Int × Rat))
    (call : Call) (reads : Reads) (tables : Tables) :
    (readNext suggest call reads tables).request = reads.request ∧
      (readNext suggest call reads tables).seen = reads.seen := by
  unfold readNext
  split
  · exact ⟨rfl, rfl⟩
  · exact ⟨rfl, rfl⟩
  · split
    · exact ⟨rfl, rfl⟩
    · split <;> exact ⟨rfl, rfl⟩

end Writes

/-! ## Every interleaving -/

/-- The user of the request was credited at most once, and not at all if the
request is rejected. -/
structure CreditedRightly (requestId userId : Int) (start tables : Tables) : Prop where
  quota : quotaOf userId tables.db = (quotaOf userId start.db).map (· + tables.credits.sum)
  once : tables.credits.length ≤ 1
  rejected : ∀ request, tables.request requestId = some request → request.status = .rejected →
    tables.credits = []

/-- The request is there, it belongs to its user, and while it is pending
nothing was credited for it. -/
structure Ready (requestId userId : Int) (start tables : Tables) : Prop where
  request : ∃ request, tables.request requestId = some request ∧ request.userId = userId ∧
    (request.status = .pending → tables.credits = [])
  quota : quotaOf userId tables.db = (quotaOf userId start.db).map (· + tables.credits.sum)

def Sound (requestId userId : Int) (reads : Reads) : Prop :=
  ∀ request, reads.request = some request → request.id = requestId ∧ request.userId = userId ∧
    (request.status = .pending → reads.seen = 0)

def Decides (call : Call) (reads : Reads) : Prop :=
  match call with
  | .reject _ => True
  | .approve approval => ∀ request, reads.request = some request →
      refundTarget approval request = some .balance

def Uncredited (call : Call) (reads : Reads) (tables _after : Tables) : Prop :=
  Decides call reads → tables.credits.length = reads.seen

section Runs
variable {suggest : ConversionRequest → Database → Except ConversionError (Int × Rat)}
variable {requestId : Int} {start : Tables}

theorem write_judged (sound : Sound requestId userId reads) (ready : Ready requestId userId start tables)
    (written : (callTransaction suggest requestId call).write reads tables = some after) :
    reads.seen = 0 ∧ ∃ status credit, Judged requestId userId status credit tables after ∧
      status ≠ .pending ∧ (status = .rejected → credit = [] ∧ Decides call reads) ∧
      (Decides call reads → status = .rejected ∨ credit.length = 1) ∧
      (¬ Decides call reads → credit = []) := by
  obtain ⟨old, found, -⟩ := ready.request
  cases call with
  | approve approval =>
    simp only [callTransaction] at written
    cases approves : approveSubscriptionConversionRequest approval reads tables with
    | error error =>
      rw [approves] at written
      cases written
    | ok result =>
      rw [approves] at written
      cases written
      cases read : reads.request with
      | none => simp [approveSubscriptionConversionRequest, read] at approves
      | some request =>
        obtain ⟨mine, owner, unseen⟩ := sound request read
        obtain ⟨pending, quota, judged⟩ := approve_judged read (mine ▸ found) approves
        rw [mine, owner] at judged
        have decides : Decides (.approve approval) reads ↔
            refundTarget approval request = some .balance := by
          simp [Decides, read]
        refine ⟨unseen pending, .approved, _, judged, by simp, by simp, ?_, ?_⟩
        · rw [decides]
          intro balance
          exact .inr (by simp [balance])
        · rw [decides]
          intro other
          simp [other]
  | reject rejection =>
    simp only [callTransaction] at written
    cases rejects : rejectSubscriptionConversionRequest rejection reads tables with
    | error error =>
      rw [rejects] at written
      cases written
    | ok result =>
      rw [rejects] at written
      cases written
      cases read : reads.request with
      | none =>
        simp only [rejectSubscriptionConversionRequest, read] at rejects
        split at rejects <;> cases rejects
      | some request =>
        obtain ⟨mine, owner, unseen⟩ := sound request read
        obtain ⟨pending, judged⟩ := reject_judged read (mine ▸ found) rejects
        rw [mine, owner] at judged
        exact ⟨unseen pending, .rejected, [], judged, by simp, fun _ => ⟨rfl, trivial⟩,
          fun _ => .inl rfl, fun undecided => absurd trivial undecided⟩

theorem judged_ready
    (judged : Judged requestId userId status credit tables after) (other : status ≠ .pending)
    (ready : Ready requestId userId start tables) : Ready requestId userId start after := by
  obtain ⟨row, found, owner, same⟩ := judged.request
  refine ⟨⟨row, found, owner, fun pending => absurd (same.symm.trans pending) other⟩, ?_⟩
  rw [judged.quota, ready.quota, judged.credits, Option.map_map]
  congr 1
  funext quota
  simp only [Function.comp_apply, List.sum_append]
  omega

theorem calls_keep {Id : Type*} (calls : Id → Call) :
    Keeps (fun id => callTransaction suggest requestId (calls id)) (Ready requestId userId start)
      (Sound requestId userId) := by
  refine ⟨fun id tables ready request read => ?_, fun id reads tables _ sound request read => ?_,
    fun id reads tables after ready sound written => ?_⟩
  · simp only [callTransaction] at read ⊢
    split at read
    · cases read
    · obtain ⟨row, found, owner, uncredited⟩ := ready.request
      rw [found] at read
      cases read
      exact ⟨lookup_key found, owner, fun pending => by simp [uncredited pending]⟩
  · obtain ⟨same, seen⟩ := read_next_request suggest (calls id) reads tables
    have kept : (readNext suggest (calls id) reads tables).request = some request := read
    rw [same] at kept
    obtain ⟨mine, owner, unseen⟩ := sound request kept
    exact ⟨mine, owner, fun pending => seen.trans (unseen pending)⟩
  · obtain ⟨-, status, credit, judged, other, -⟩ := write_judged sound ready written
    exact judged_ready judged other ready

theorem commit_safe_iff (ready : Ready requestId userId start tables)
    (before : CreditedRightly requestId userId start tables) (sound : Sound requestId userId reads)
    (written : (callTransaction suggest requestId call).write reads tables = some after) :
    CreditedRightly requestId userId start after ↔ Uncredited call reads tables after := by
  obtain ⟨unseen, status, credit, judged, other, rejects, decides, undecided⟩ :=
    write_judged sound ready written
  have later := judged_ready judged other ready
  obtain ⟨row, found, owner, same⟩ := judged.request
  rw [Uncredited, unseen]
  constructor
  · intro safe decided
    rcases decides decided with rejected | credited
    · have none_credited := safe.rejected row found (same.trans rejected)
      rw [judged.credits] at none_credited
      have empty := (List.append_eq_nil_iff.mp none_credited).1
      rw [empty, List.length_nil]
    · have once := safe.once
      rw [judged.credits, List.length_append, credited] at once
      omega
  · intro uncredited
    by_cases decided : Decides call reads
    · have none_before : tables.credits = [] := List.eq_nil_of_length_eq_zero (uncredited decided)
      refine ⟨later.quota, ?_, fun request there rejected => ?_⟩
      · rw [judged.credits, none_before, List.nil_append]
        rcases decides decided with rejected | credited
        · rw [(rejects rejected).1]
          exact Nat.zero_le 1
        · rw [credited]
      · rw [found] at there
        cases there
        rw [judged.credits, none_before, (rejects (same.symm.trans rejected)).1, List.nil_append]
    · refine ⟨later.quota, ?_, fun request there rejected => ?_⟩
      · rw [judged.credits, undecided decided, List.append_nil]
        exact before.once
      · rw [found] at there
        cases there
        exact absurd (rejects (same.symm.trans rejected)).2 decided

/-- In every interleaving of approvals and rejections of a request: the user is
credited once at most, and never for a rejected request, in every state reached,
exactly when no transaction that credits or rejects commits after a credit that
came since it read the request. -/
theorem credited_rightly_iff {Id : Type*} [DecidableEq Id]
    (suggest : ConversionRequest → Database → Except ConversionError (Int × Rat))
    (requestId : Int) (request : ConversionRequest) (start : Tables)
    (found : start.request requestId = some request) (uncredited : start.credits = [])
    (calls : Id → Call) (events : List (StagedReads.Event Id)) :
    let txn := fun id => callTransaction suggest requestId (calls id)
    (∀ done, done <+: events → CreditedRightly requestId request.userId start
        (run (StagedReads.step txn) (idle start) done).shared) ↔
      Guarded (StagedReads.step txn) (Commits txn fun id => Uncredited (calls id)) (idle start)
        events := by
  have initially : Ready requestId request.userId start start := by
    refine ⟨⟨request, found, rfl, fun _ => uncredited⟩, ?_⟩
    rw [uncredited]
    exact unmoved_quota _ _
  have safe : CreditedRightly requestId request.userId start start := by
    refine ⟨initially.quota, by simp [uncredited], fun _ _ _ => uncredited⟩
  apply always_safe_iff_commits (calls_keep calls) ?_ initially safe events
  intro id reads tables after ready before sound written
  exact commit_safe_iff ready before sound written

end Runs

def pendingRequest : ConversionRequest where
  id := 1
  userId := 7
  subscriptionIds := some [4]
  subscriptionSnapshots := some [⟨4, 9000, 0⟩]
  disabledAt := 100

def requestTables : Tables where
  db := {
    users := [{ id := 7 }]
    subscriptions := [{ id := 4, userId := 7, status := .cancelled, endTime := 100 }] }
  requests := [pendingRequest]

def threeAdmins (id : Fin 3) : Call :=
  match id with
  | 0 => .approve { approvedQuota := 50, approvedAmount := 1, now := 200 }
  | 1 => .approve { approvedQuota := 50, approvedAmount := 1, now := 200 }
  | 2 => .reject { adminRemark := "no", now := 300 }

def approvedTogether : List (StagedReads.Event (Fin 3)) :=
  [.read 0, .read 0, .read 0, .read 0, .read 1, .read 1, .read 1, .read 1, .finish 0, .finish 1]

theorem approved_twice :
    ¬ ∀ (suggest : ConversionRequest → Database → Except ConversionError (Int × Rat))
      (requestId : Int) (request : ConversionRequest) (start : Tables),
      start.request requestId = some request → start.credits = [] →
      ∀ (calls : Fin 3 → Call) (events : List (StagedReads.Event (Fin 3))),
        CreditedRightly requestId request.userId start
          (run (StagedReads.step fun id => callTransaction suggest requestId (calls id)) (idle start)
            events).shared := by
  intro always
  have once := (always (fun _ _ => .ok (0, 0)) 1 pendingRequest requestTables rfl rfl threeAdmins
    approvedTogether).once
  have twice : (run (StagedReads.step fun id => callTransaction (fun _ _ => .ok (0, 0)) 1
      (threeAdmins id)) (idle requestTables) approvedTogether).shared.credits = [50, 50] := by
    decide +kernel
  rw [twice] at once
  exact absurd once (by decide)

def approvedInTurn : List (StagedReads.Event (Fin 3)) :=
  [.read 0, .read 0, .read 0, .read 0, .finish 0, .read 1, .finish 1]

theorem approved_in_turn :
    CreditedRightly 1 7 requestTables
      (run (StagedReads.step fun id => callTransaction (fun _ _ => .ok (0, 0)) 1 (threeAdmins id))
        (idle requestTables) approvedInTurn).shared := by
  refine (credited_rightly_iff (fun _ _ => .ok (0, 0)) 1 pendingRequest requestTables rfl rfl
    threeAdmins approvedInTurn).mpr ?_ _ (List.prefix_refl _)
  refine ⟨trivial, trivial, trivial, trivial, ?_, trivial, ?_, trivial⟩
  · intro reads after held _ _
    cases held
    rfl
  · intro reads after held written
    cases held
    cases written

end NewApi.ConversionReview
