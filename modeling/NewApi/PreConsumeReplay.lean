import NewApi.PlanSync
import NewApi.RequestCharge

/-! A request that is pre-consumed twice. The first call reads the billing
window from the row that it charges; a repeated call finds the record of the
request and counts the window again, from the start of the subscription. The
two agree while the stored windows follow one another from that start. A usage
reset by hand starts a window at any time, and a sync may change the rule in
the middle of one. -/
namespace NewApi.PreConsumeReplay
open NewApi.GuardedRun NewApi.KeyedTable
open NewApi.GoText (trimSpace)
open NewApi.ResetWindow NewApi.Subscription
open NewApi.SubscriptionStore hiding step Event
open NewApi.SubscriptionRows NewApi.RequestCharge NewApi.PlanSync

/-! ## The usage reset by hand -/

/-- `model/subscription.go::calcSubscriptionNextResetFromNow`. -/
def calcSubscriptionNextResetFromNow (calendar : Calendar) (sub : UserSubscription) (now : Int) :
    Int :=
  if sub.resetPeriod = .never then 0
  else calcNextResetTime calendar now (resetRule sub) sub.endTime

inductive OperateError where
  | invalidUserSubscriptionId
  | recordNotFound
  | cancelled
  | planNotFound
  | notActive
  deriving DecidableEq, Repr

def OperateError.text : OperateError → String
  | .invalidUserSubscriptionId => "invalid userSubscriptionId"
  | .recordNotFound | .planNotFound => "record not found"
  | .cancelled => "subscription has been cancelled"
  | .notActive => "subscription is not active"

/-- The row after `AdminSubscriptionActionResetUsage`. -/
def resetUsageRow (calendar : Calendar) (sub : UserSubscription) (now : Int) : UserSubscription :=
  if sub.resetPeriod = .never then (clearWindowUsage sub).moveWindow 0 0
  else (clearWindowUsage sub).moveWindow now (calcSubscriptionNextResetFromNow calendar sub now)

/-- `model/subscription.go::AdminOperateUserSubscription` for the action
`reset_usage_now`. -/
def adminResetUsage (calendar : Calendar) (userSubscriptionId now : Int) (db : Database) :
    Except OperateError Database :=
  if userSubscriptionId ≤ 0 then .error .invalidUserSubscriptionId
  else match db.subscription userSubscriptionId with
  | none => .error .recordNotFound
  | some sub =>
    if sub.status = .cancelled then .error .cancelled
    else if (db.plan sub.planId).isNone then .error .planNotFound
    else if sub.status ≠ .active ∨ sub.endTime ≤ now then .error .notActive
    else .ok (db.saveSubscription ((resetUsageRow calendar sub now).touch now))

/-! ## The system -/

/-- What happens to the tables at some time. -/
inductive Operation where
  | create (userId planId : Int) (terms : PlanTerms) (source : Source)
  | preConsume (request : PreConsumeRequest)
  | settle (userSubscriptionId amountDelta countDelta windowStart windowEnd : Int)
  | refund (requestId : String)
  | resetDue (limit : Nat)
  | updatePlan (nextPlan : SubscriptionPlan)
  | syncPlan (planId : Int)
  | resetUsage (userSubscriptionId : Int)

def Operation.billing (now : Int) : Operation → Option SubscriptionStore.Event
  | .create userId planId terms source => some (.create userId planId terms source now)
  | .preConsume request => some (.preConsume request now)
  | .settle userSubscriptionId amountDelta countDelta windowStart windowEnd =>
    some (.settle userSubscriptionId amountDelta countDelta windowStart windowEnd now)
  | .refund requestId => some (.refund requestId now)
  | .resetDue limit => some (.resetDue limit now)
  | .updatePlan _ | .syncPlan _ | .resetUsage _ => none

structure Timed where
  db : Database
  clock : Int
  deriving DecidableEq, Repr

structure Event where
  elapsed : Nat
  operation : Operation

def outcome {Error : Type} (before : Database) : Except Error Database → Database
  | .ok after => after
  | .error _ => before

def operate (calendar : Calendar) (now : Int) (db : Database) (operation : Operation) : Database :=
  match operation.billing now, operation with
  | some event, _ => SubscriptionStore.step calendar db event
  | none, .updatePlan nextPlan => outcome db (adminUpdateSubscriptionPlan calendar nextPlan now db)
  | none, .syncPlan planId => outcome db (syncActiveSubscriptionsForPlanUsers calendar planId now db)
  | none, .resetUsage userSubscriptionId =>
    outcome db (adminResetUsage calendar userSubscriptionId now db)
  | none, _ => db

def step (calendar : Calendar) (timed : Timed) (event : Event) : Timed where
  db := operate calendar (timed.clock + event.elapsed) timed.db event.operation
  clock := timed.clock + event.elapsed

/-! ## Windows on their schedule -/

structure OnSchedule (calendar : Calendar) (clock : Int) (sub : UserSubscription) : Prop where
  started : 0 < sub.startTime
  begun : sub.startTime ≤ clock
  past : windowBase sub ≤ clock
  boundary : sub.resetPeriod ≠ .never →
    Boundary calendar (resetRule sub) sub.endTime sub.startTime (windowBase sub)
  next : sub.nextResetTime = calcNextResetTime calendar (windowBase sub) (resetRule sub) sub.endTime

def InWindow (sub : UserSubscription) (now : Int) : Prop :=
  sub.resetPeriod = .never ∨ ¬ (0 < sub.nextResetTime ∧ sub.nextResetTime ≤ now)

section Schedule

theorem never_next (never : sub.resetPeriod = .never) (base : Int) :
    calcNextResetTime calendar base (resetRule sub) sub.endTime = 0 := by
  simp [calcNextResetTime, nextPeriodStart, resetRule, never]

theorem on_schedule_later (holds : OnSchedule calendar clock sub) (later : clock ≤ now) :
    OnSchedule calendar now sub :=
  ⟨holds.started, holds.begun.trans later, holds.past.trans later, holds.boundary, holds.next⟩

theorem new_on_schedule (id userId planId : Int) (terms : PlanTerms) (source : Source)
    (prevGroup : String) (endUnix : Int) (positive : 0 < now) :
    OnSchedule calendar now
      (newSubscription calendar id userId planId terms source prevGroup now endUnix) := by
  have base : windowBase
      (newSubscription calendar id userId planId terms source prevGroup now endUnix) = now := by
    simp only [windowBase, newSubscription]
    grind
  constructor
  case started => exact positive
  case begun => exact Int.le_refl now
  case past => exact base.le
  case boundary =>
    intro _
    rw [base]
    exact .start
  case next =>
    rw [base]
    rfl

theorem recalculated_on_schedule (started : 0 < sub.startTime) (begun : sub.startTime ≤ now)
    (past : windowBase sub ≤ now)
    (boundary : sub.resetPeriod ≠ .never →
      Boundary calendar (resetRule sub) sub.endTime sub.startTime (windowBase sub)) :
    OnSchedule calendar now (recalculateSubscriptionResetWindow calendar sub now) := by
  unfold recalculateSubscriptionResetWindow
  split
  · rename_i never
    constructor
    case started => exact started
    case begun => exact begun
    case past => exact begun
    case boundary => exact fun resets => absurd never resets
    case next => exact (never_next never _).symm
  · rename_i resets
    have reached : Boundary calendar (resetRule sub) sub.endTime sub.startTime
        (advanceWindow calendar (resetRule sub) sub.endTime now (windowRounds (windowBase sub) now)
          (windowBase sub)) := advance_window_boundary (boundary resets) _
    have bounds := advance_window_bounds calendar (resetRule sub) sub.endTime now (windowBase sub)
      (windowRounds (windowBase sub) now)
    have order := start_le_boundary reached
    generalize advanceWindow calendar (resetRule sub) sub.endTime now
      (windowRounds (windowBase sub) now) (windowBase sub) = base at reached bounds order
    have moved : windowBase (sub.moveWindow base
        (calcNextResetTime calendar base (resetRule sub) sub.endTime)) = base :=
      if_neg (by simp only [UserSubscription.moveWindow_lastResetTime]; omega)
    constructor
    case started => exact started
    case begun => exact begun
    case past =>
      rw [moved]
      omega
    case boundary =>
      intro _
      rw [moved]
      exact reached
    case next =>
      rw [moved]
      rfl

theorem cleared_on_schedule (holds : OnSchedule calendar clock sub) :
    OnSchedule calendar clock (clearWindowUsage sub) := by
  unfold clearWindowUsage
  split <;> exact ⟨holds.started, holds.begun, holds.past, holds.boundary, holds.next⟩

theorem touched_on_schedule (holds : OnSchedule calendar clock sub) (at_ : Int) :
    OnSchedule calendar clock (sub.touch at_) :=
  ⟨holds.started, holds.begun, holds.past, holds.boundary, holds.next⟩

theorem reset_on_schedule (holds : OnSchedule calendar clock sub) (later : clock ≤ now) :
    OnSchedule calendar now (maybeResetUserSubscriptionWithPlan calendar sub now).sub := by
  have same := on_schedule_later holds later
  have moved := recalculated_on_schedule same.started same.begun same.past same.boundary
  unfold maybeResetUserSubscriptionWithPlan
  dsimp only
  split
  · exact same
  · split
    · exact same
    · split
      · exact touched_on_schedule (cleared_on_schedule moved) now
      · split
        · exact touched_on_schedule moved now
        · exact moved

theorem recalculated_in_window (resets : sub.resetPeriod ≠ .never) :
    InWindow (recalculateSubscriptionResetWindow calendar sub now) now := by
  unfold recalculateSubscriptionResetWindow
  rw [if_neg resets]
  exact .inr (advance_window_finished calendar (resetRule sub) sub.endTime now (windowBase sub)
    (Nat.le_refl _))

theorem reset_in_window (calendar : Calendar) (sub : UserSubscription) (now : Int) :
    InWindow (maybeResetUserSubscriptionWithPlan calendar sub now).sub now := by
  unfold maybeResetUserSubscriptionWithPlan
  split
  · rename_i running
    exact .inr fun due => absurd running.2 (not_lt.mpr due.2)
  · split
    · rename_i never
      exact .inl never
    · rename_i resets
      have moved : InWindow (recalculateSubscriptionResetWindow calendar sub now) now :=
        recalculated_in_window resets
      dsimp only
      split
      · unfold clearWindowUsage
        split <;> exact moved
      · split <;> exact moved

theorem usage_window_start (resets : sub.resetPeriod ≠ .never) :
    getSubscriptionUsageWindowStart sub = windowBase sub := by
  unfold getSubscriptionUsageWindowStart windowBase
  rw [if_neg resets]
  split
  · rename_i moved
    rw [if_neg (not_le.mpr moved)]
  · rename_i unmoved
    rw [if_pos (not_lt.mp unmoved)]

theorem counted_window (started : 0 < sub.startTime) (positive : 0 < now)
    (resets : sub.resetPeriod ≠ .never) :
    let start := advanceWindow calendar (resetRule sub) sub.endTime now
      (windowRounds sub.startTime now) sub.startTime
    getSubscriptionResetWindowForTimestamp calendar sub now =
      (start, calcNextResetTime calendar start (resetRule sub) sub.endTime) := by
  unfold getSubscriptionResetWindowForTimestamp
  rw [if_neg (not_le.mpr positive), if_neg resets, if_neg (not_le.mpr started)]
  exact if_neg (not_le.mpr started)

theorem counted_window_iff (started : 0 < sub.startTime) (begun : sub.startTime ≤ now)
    (past : windowBase sub ≤ now) (within : InWindow sub now) :
    getSubscriptionResetWindowForTimestamp calendar sub now =
        (getSubscriptionUsageWindowStart sub, sub.nextResetTime) ↔
      OnSchedule calendar now sub := by
  have positive : 0 < now := by omega
  by_cases never : sub.resetPeriod = .never
  · have counted : getSubscriptionResetWindowForTimestamp calendar sub now = (sub.startTime, 0) := by
      unfold getSubscriptionResetWindowForTimestamp
      rw [if_neg (not_le.mpr positive), if_pos never]
    have stored : getSubscriptionUsageWindowStart sub = sub.startTime := if_pos never
    rw [counted, stored, Prod.mk.injEq]
    constructor
    · rintro ⟨-, next⟩
      exact ⟨started, begun, past, fun resets => absurd never resets,
        next.symm.trans (never_next never _).symm⟩
    · intro holds
      exact ⟨rfl, (never_next never _).symm.trans holds.next.symm⟩
  · rw [counted_window started positive never, usage_window_start never, Prod.mk.injEq]
    constructor
    · rintro ⟨start, next⟩
      have reached : Boundary calendar (resetRule sub) sub.endTime sub.startTime
          (advanceWindow calendar (resetRule sub) sub.endTime now (windowRounds sub.startTime now)
            sub.startTime) := advance_window_boundary .start _
      rw [start] at reached next
      exact ⟨started, begun, past, fun _ => reached, next.symm⟩
    · intro holds
      have open_ := within.resolve_left never
      rw [holds.next] at open_
      have found := advance_window_holds (holds.boundary never) past open_
      rw [found]
      exact ⟨rfl, holds.next.symm⟩

end Schedule

/-! ## A call that is repeated -/

structure SameAnswer (one other : PreConsumeResult) : Prop where
  userSubscriptionId : other.userSubscriptionId = one.userSubscriptionId
  preConsumedAmount : other.preConsumedAmount = one.preConsumedAmount
  preConsumedCount : other.preConsumedCount = one.preConsumedCount
  resetWindowStart : other.resetWindowStart = one.resetWindowStart
  resetWindowEnd : other.resetWindowEnd = one.resetWindowEnd

structure SameSchedule (one other : UserSubscription) : Prop where
  start : other.startTime = one.startTime
  ends : other.endTime = one.endTime
  period : other.resetPeriod = one.resetPeriod
  rule : resetRule other = resetRule one

/-- What happened after a call left the record of its request alone, and the
schedule of the subscription that it names. -/
structure Undisturbed (requestId : String) (userSubscriptionId : Int) (after later : Database) :
    Prop where
  record : later.record requestId = after.record requestId
  row : ∀ row, after.subscription userSubscriptionId = some row →
    ∃ other, later.subscription userSubscriptionId = some other ∧ SameSchedule row other

def ReplaysSame (calendar : Calendar) (timed : Timed) : Prop :=
  ∀ (request : PreConsumeRequest) (elapsed : Nat) (after : Database) (first : PreConsumeResult),
    preConsumeUserSubscriptionWithPreference calendar request (timed.clock + elapsed) timed.db =
      .ok (after, first) →
    ∀ later, Undisturbed request.requestId first.userSubscriptionId after later →
    ∀ (again : PreConsumeRequest) (now : Int), again.requestId = request.requestId →
      0 < again.userId → 0 < again.amount →
      ∃ second, preConsumeUserSubscriptionWithPreference calendar again now later =
        .ok (later, second) ∧ SameAnswer first second

section Replay
variable {first : PreConsumeResult}

theorem undisturbed_refl (requestId : String) (userSubscriptionId : Int) (db : Database) :
    Undisturbed requestId userSubscriptionId db db :=
  ⟨rfl, fun row held => ⟨row, held, rfl, rfl, rfl, rfl⟩⟩

theorem same_schedule_window (same : SameSchedule row other) (started : 0 < row.startTime)
    (timestamp : Int) :
    getSubscriptionResetWindowForTimestamp calendar other timestamp =
      getSubscriptionResetWindowForTimestamp calendar row timestamp := by
  unfold getSubscriptionResetWindowForTimestamp
  simp only [same.period, same.rule, same.ends, same.start, not_le.mpr started, if_false]

theorem known_request_answered (given : trimSpace again.requestId ≠ "") (user : 0 < again.userId)
    (positive : 0 < again.amount) (known : later.record again.requestId = some record)
    (consumed : record.status ≠ .refunded)
    (held : later.subscription record.userSubscriptionId = some row) :
    preConsumeUserSubscriptionWithPreference calendar again now later =
      .ok (later, repeatedResult calendar row record) := by
  unfold preConsumeUserSubscriptionWithPreference preConsumeFrom
  rw [if_neg (not_le.mpr user), if_neg given, if_neg (not_le.mpr positive), known]
  dsimp only
  rw [if_neg consumed, held]

theorem known_request_cases (known : db.record request.requestId = some record)
    (answered : preConsumeUserSubscriptionWithPreference calendar request now db = .ok (after, first)) :
    after = db ∧ trimSpace request.requestId ≠ "" ∧ record.status ≠ .refunded ∧
      ∃ row, db.subscription record.userSubscriptionId = some row ∧
        first = repeatedResult calendar row record := by
  unfold preConsumeUserSubscriptionWithPreference preConsumeFrom at answered
  rw [known] at answered
  split at answered
  · cases answered
  · split at answered
    · cases answered
    · rename_i given
      split at answered
      · cases answered
      · dsimp only at answered
        split at answered
        · cases answered
        · rename_i consumed
          split at answered
          · cases answered
          · rename_i row held
            cases answered
            exact ⟨rfl, given, consumed, row, held, rfl⟩

theorem charge_replayed (charged : ChargedTo calendar request now db opened sub (after, first))
    (holds : OnSchedule calendar now sub) (within : InWindow sub now)
    (undisturbed : Undisturbed request.requestId first.userSubscriptionId after later)
    (same : again.requestId = request.requestId) (user : 0 < again.userId)
    (positive : 0 < again.amount) :
    ∃ second, preConsumeUserSubscriptionWithPreference calendar again again_ later =
      .ok (later, second) ∧ SameAnswer first second := by
  have answer : first = acceptedResult request sub now := charged.answer
  have mine : first.userSubscriptionId = sub.id := by rw [answer]; rfl
  have stored : after.subscription first.userSubscriptionId = some (chargedRow request sub now) := by
    rw [mine]
    exact (charged_rows charged sub.id).trans (if_pos rfl)
  obtain ⟨row, held, schedule⟩ := undisturbed.row _ stored
  have recorded := undisturbed.record.trans (charged_record charged)
  rw [mine] at held
  refine ⟨repeatedResult calendar row (chargeRecord request sub now), ?_, ?_⟩
  · apply known_request_answered
    · rw [same]
      exact charged.given
    · exact user
    · exact positive
    · rw [same]
      exact recorded
    · exact fun refunded => nomatch refunded
    · exact held
  · have started : 0 < (chargedRow request sub now).startTime := holds.started
    have counted : getSubscriptionResetWindowForTimestamp calendar row now =
        (getSubscriptionUsageWindowStart sub, sub.nextResetTime) := by
      rw [same_schedule_window schedule started]
      exact (counted_window_iff holds.started holds.begun holds.past within).mpr holds
    have named : row.id = sub.id := lookup_key held
    rw [answer]
    constructor
    case userSubscriptionId => exact named
    case preConsumedAmount => rfl
    case preConsumedCount => rfl
    case resetWindowStart => exact congrArg Prod.fst counted
    case resetWindowEnd => exact congrArg Prod.snd counted

end Replay

/-! ## What each operation keeps -/

def Aligned (calendar : Calendar) (rule : ResetRule) (sub : UserSubscription) : Prop :=
  rule.quotaResetPeriod ≠ .never → Boundary calendar rule sub.endTime sub.startTime (windowBase sub)

def KeepsSchedule (calendar : Calendar) (timed : Timed) (event : Event) : Prop :=
  match event.operation with
  | .updatePlan nextPlan => ∀ currentPlan, timed.db.plan nextPlan.id = some currentPlan →
    shouldSyncActiveSubscriptionsForPlanUpdate currentPlan.terms nextPlan.terms = true →
    ∀ sub ∈ timed.db.subscriptions, isSynced nextPlan.id (timed.clock + event.elapsed) sub = true →
      Aligned calendar nextPlan.terms.reset sub
  | .syncPlan planId => ∀ plan, timed.db.plan planId = some plan →
    ∀ sub ∈ timed.db.subscriptions, isSynced plan.id (timed.clock + event.elapsed) sub = true →
      Aligned calendar plan.terms.reset sub
  | .resetUsage userSubscriptionId =>
    ∀ sub, timed.db.subscription userSubscriptionId = some sub → sub.status = .active →
      timed.clock + event.elapsed < sub.endTime → sub.resetPeriod ≠ .never →
      Boundary calendar (resetRule sub) sub.endTime sub.startTime (timed.clock + event.elapsed)
  | _ => True

/-- The tables at some time: every window is on its schedule, and no id is
used twice. -/
structure Scheduled (calendar : Calendar) (now : Int) (db : Database) : Prop where
  rows : AllRows (OnSchedule calendar now) db
  numbered : Numbered db

structure Sound (calendar : Calendar) (timed : Timed) : Prop where
  clock : 0 < timed.clock
  tables : Scheduled calendar timed.clock timed.db

section Operations

theorem schedule_rule (calendar : Calendar) (positive : 0 < now) :
    RowRuleAt calendar now (fun _ _ _ => True) (OnSchedule calendar now) where
  issued id userId planId terms source prevGroup endUnix _ :=
    new_on_schedule id userId planId terms source prevGroup endUnix positive
  rebound _ _ _ _ holds := ⟨holds.started, holds.begun, holds.past, holds.boundary, holds.next⟩
  reset _ holds := reset_on_schedule holds (Int.le_refl now)
  preConsumed _ _ _ holds _ := ⟨holds.started, holds.begun, holds.past, holds.boundary, holds.next⟩
  settled _ _ _ _ _ holds := ⟨holds.started, holds.begun, holds.past, holds.boundary, holds.next⟩
  givesBack _ _ _ _ _ := trivial

theorem synced_on_schedule (holds : OnSchedule calendar now sub)
    (aligned : isSynced plan.id now sub = true → Aligned calendar plan.terms.reset sub) :
    OnSchedule calendar now (syncRow calendar plan now sub) := by
  rcases sync_row_cases calendar plan now sub with same | ⟨selected, synced⟩
  · rw [same]
    exact holds
  · rw [synced]
    apply touched_on_schedule
    unfold syncSubscriptionPlanSnapshotFields
    apply recalculated_on_schedule
    · exact holds.started
    · exact holds.begun
    · exact holds.past
    · exact aligned selected

theorem synced_tables (ready : Scheduled calendar now db)
    (aligned : ∀ sub ∈ db.subscriptions, isSynced plan.id now sub = true →
      Aligned calendar plan.terms.reset sub) (plans : List SubscriptionPlan) :
    Scheduled calendar now { db with
      plans := plans
      subscriptions := db.subscriptions.map (syncRow calendar plan now) } := by
  have same : SameIds db { db with
      subscriptions := db.subscriptions.map (syncRow calendar plan now) } :=
    sync_same_ids db plan now
  refine ⟨⟨ready.rows.nextId, ?_, ready.rows.records⟩, ?_⟩
  · intro row member
    obtain ⟨sub, held, rfl⟩ := List.mem_map.mp member
    exact synced_on_schedule (ready.rows.subscriptions sub held) (aligned sub held)
  · have numbered := same_ids_numbered ready.numbered same
    exact ⟨numbered.unique, numbered.below⟩

theorem reset_usage_on_schedule (holds : OnSchedule calendar now sub)
    (aligned : sub.resetPeriod ≠ .never → Boundary calendar (resetRule sub) sub.endTime sub.startTime now) :
    OnSchedule calendar now (resetUsageRow calendar sub now) := by
  have positive : 0 < now := holds.started.trans_le holds.begun
  have cleared := cleared_on_schedule holds
  have same : (clearWindowUsage sub).resetPeriod = sub.resetPeriod ∧
      resetRule (clearWindowUsage sub) = resetRule sub ∧
      (clearWindowUsage sub).endTime = sub.endTime ∧
      (clearWindowUsage sub).startTime = sub.startTime := by
    unfold clearWindowUsage
    split <;> exact ⟨rfl, rfl, rfl, rfl⟩
  obtain ⟨period, rule, ends, start⟩ := same
  unfold resetUsageRow
  split
  · rename_i never
    rw [← period] at never
    exact ⟨cleared.started, cleared.begun, cleared.begun, fun resets => absurd never resets,
      (never_next never _).symm⟩
  · rename_i resets
    have base : ∀ next, windowBase ((clearWindowUsage sub).moveWindow now next) = now :=
      fun _ => if_neg (not_le.mpr positive)
    constructor
    case started => exact cleared.started
    case begun => exact cleared.begun
    case past => exact (base _).le
    case boundary =>
      intro _
      rw [base]
      show Boundary calendar (resetRule (clearWindowUsage sub)) (clearWindowUsage sub).endTime
        (clearWindowUsage sub).startTime now
      rw [rule, ends, start]
      exact aligned resets
    case next =>
      rw [base]
      show calcSubscriptionNextResetFromNow calendar sub now =
        calcNextResetTime calendar now (resetRule (clearWindowUsage sub)) (clearWindowUsage sub).endTime
      rw [rule, ends]
      exact if_neg resets

theorem reset_usage_cases {id : Int} (reset : adminResetUsage calendar id now db = .ok after) :
    ∃ sub, db.subscription id = some sub ∧ sub.status = .active ∧ now < sub.endTime ∧
      after = db.saveSubscription ((resetUsageRow calendar sub now).touch now) := by
  unfold adminResetUsage at reset
  split at reset
  · cases reset
  · split at reset
    · cases reset
    · rename_i sub held
      split at reset
      · cases reset
      · split at reset
        · cases reset
        · split at reset
          · cases reset
          · rename_i active
            cases reset
            obtain ⟨status, ends⟩ := not_or.mp active
            exact ⟨sub, held, not_not.mp status, not_le.mp ends, rfl⟩

theorem billing_time {operation : Operation} {event : SubscriptionStore.Event}
    (billed : operation.billing now = some event) : eventTime event = now := by
  cases operation <;> cases billed <;> rfl

theorem operate_billing
    (billed : operation.billing now = some event) :
    operate calendar now db operation = SubscriptionStore.step calendar db event := by
  unfold operate
  rw [billed]

theorem billing_keeps (ready : Scheduled calendar now db) (positive : 0 < now)
    {operation : Operation} {event : SubscriptionStore.Event}
    (billed : operation.billing now = some event) :
    Scheduled calendar now (operate calendar now db operation) := by
  rw [operate_billing billed]
  obtain rfl := billing_time billed
  exact ⟨step_all_rows_at db event (schedule_rule calendar positive)
    (settlements_free (fun _ _ _ => trivial) db event) ready.rows,
    step_numbered calendar event ready.numbered⟩

theorem outcome_keeps {Error : Type} {result : Except Error Database} (ready : Scheduled calendar now db)
    (kept : ∀ after, result = .ok after → Scheduled calendar now after) :
    Scheduled calendar now (outcome db result) := by
  cases result with
  | ok after => exact kept after rfl
  | error error => exact ready

theorem update_plan_keeps (ready : Scheduled calendar now db)
    (keeps : KeepsSchedule calendar ⟨db, clock⟩ ⟨elapsed, .updatePlan nextPlan⟩)
    (time : clock + elapsed = now)
    (updated : adminUpdateSubscriptionPlan calendar nextPlan now db = .ok after) :
    Scheduled calendar now after := by
  subst time
  obtain ⟨currentPlan, found, ⟨-, unsynced⟩ | ⟨needed, synced⟩⟩ := update_plan_cases updated
  · rw [unsynced]
    exact ⟨⟨ready.rows.nextId, ready.rows.subscriptions, ready.rows.records⟩,
      ready.numbered.unique, ready.numbered.below⟩
  · rw [synced]
    exact synced_tables ready (keeps currentPlan found needed) _

theorem sync_plan_keeps (ready : Scheduled calendar now db)
    (keeps : KeepsSchedule calendar ⟨db, clock⟩ ⟨elapsed, .syncPlan planId⟩)
    (time : clock + elapsed = now)
    (synced : syncActiveSubscriptionsForPlanUsers calendar planId now db = .ok after) :
    Scheduled calendar now after := by
  subst time
  obtain ⟨plan, found, tables⟩ := sync_cases synced
  rw [tables]
  exact synced_tables ready (keeps plan found) db.plans

theorem reset_usage_keeps {id : Int} (ready : Scheduled calendar now db)
    (keeps : KeepsSchedule calendar ⟨db, clock⟩ ⟨elapsed, .resetUsage id⟩)
    (time : clock + elapsed = now) (reset : adminResetUsage calendar id now db = .ok after) :
    Scheduled calendar now after := by
  subst time
  obtain ⟨sub, held, active, runs, tables⟩ := reset_usage_cases reset
  have holds := ready.rows.subscriptions sub (lookup_mem held)
  have onSchedule := reset_usage_on_schedule holds (keeps sub held active runs)
  rw [tables]
  exact ⟨all_rows_save ready.rows (touched_on_schedule onSchedule _),
    same_ids_numbered ready.numbered (save_same_ids ..)⟩

theorem step_sound (timed : Timed) (event : Event) (keeps : KeepsSchedule calendar timed event)
    (sound : Sound calendar timed) : Sound calendar (step calendar timed event) := by
  obtain ⟨elapsed, operation⟩ := event
  have clock := sound.clock
  have positive : 0 < timed.clock + elapsed := by omega
  have ready : Scheduled calendar (timed.clock + elapsed) timed.db :=
    ⟨sound.tables.rows.imp fun sub holds => on_schedule_later holds (by omega), sound.tables.numbered⟩
  refine ⟨positive, ?_⟩
  change Scheduled calendar (timed.clock + elapsed)
    (operate calendar (timed.clock + elapsed) timed.db operation)
  cases operation with
  | updatePlan nextPlan =>
    exact outcome_keeps ready fun after updated => update_plan_keeps ready keeps rfl updated
  | syncPlan planId =>
    exact outcome_keeps ready fun after synced => sync_plan_keeps ready keeps rfl synced
  | resetUsage id =>
    exact outcome_keeps ready fun after reset => reset_usage_keeps ready keeps rfl reset
  | create | preConsume | refund | resetDue => exact billing_keeps ready positive rfl
  | settle id amountDelta countDelta windowStart windowEnd =>
    exact billing_keeps ready positive rfl

end Operations

/-! ## Every run -/

section Runs
variable {calendar : Calendar}
variable {first : PreConsumeResult}

theorem schedule_opening (ready : Scheduled calendar now db) :
    OpeningRule calendar request now (Prepared calendar now db) (FromStored calendar now db)
      fun sub => FromStored calendar now db sub ∧ (OnSchedule calendar now sub ∧ InWindow sub now) := by
  have prepare := prepare_rule calendar request now db
  have onSchedule : ∀ sub, FromStored calendar now db sub → OnSchedule calendar now sub := by
    rintro sub ⟨stored, held, prepared⟩
    refine prepares_keep (fun _ holds => reset_on_schedule holds (Int.le_refl now)) ?_ prepared
      (ready.rows.subscriptions stored (lookup_mem held))
    exact fun _ _ _ _ holds =>
      ⟨holds.started, holds.begun, holds.past, holds.boundary, holds.next⟩
  constructor
  · intro opened sub kept from_
    have step := prepare.opens opened sub kept from_
    exact ⟨step.1, step.2, onSchedule _ step.2, reset_in_window calendar sub now⟩
  · exact prepare.binds
  · intro opened sub kept holds
    have step := prepare.binds opened sub kept holds.1
    refine ⟨step.1, step.2, onSchedule _ step.2, ?_⟩
    unfold tryBackfillUserSubscriptionChannelBinding
    split
    · exact holds.2.2
    · split <;> exact holds.2.2

theorem sound_replays (sound : Sound calendar timed) : ReplaysSame calendar timed := by
  intro request elapsed after first answered later undisturbed again now same user positive
  have ready : Scheduled calendar (timed.clock + elapsed) timed.db :=
    ⟨sound.tables.rows.imp fun sub holds => on_schedule_later holds (by omega), sound.tables.numbered⟩
  cases known : timed.db.record request.requestId with
  | some record =>
    obtain ⟨rfl, given, consumed, row, held, rfl⟩ := known_request_cases known answered
    have named : row.id = record.userSubscriptionId := lookup_key held
    have holds := ready.rows.subscriptions row (lookup_mem held)
    have mine : timed.db.subscription
        (repeatedResult calendar row record).userSubscriptionId = some row := by
      rw [← named] at held
      exact held
    obtain ⟨other, found, schedule⟩ := undisturbed.row row mine
    have there : later.subscription record.userSubscriptionId = some other := by
      rw [← named]
      exact found
    have window : getSubscriptionResetWindowForTimestamp calendar other record.createdAt =
        getSubscriptionResetWindowForTimestamp calendar row record.createdAt :=
      same_schedule_window schedule holds.started record.createdAt
    refine ⟨repeatedResult calendar other record, ?_, ?_⟩
    · apply known_request_answered
      · rw [same]
        exact given
      · exact user
      · exact positive
      · rw [same, undisturbed.record]
        exact known
      · exact consumed
      · exact there
    · constructor
      case userSubscriptionId => exact (lookup_key there).trans named.symm
      case preConsumedAmount => rfl
      case preConsumedCount => rfl
      case resetWindowStart => exact congrArg Prod.fst window
      case resetWindowEnd => exact congrArg Prod.snd window
  | none =>
    obtain ⟨opened, sub, charged, holds, within⟩ :=
      request_charges_opened (schedule_opening ready) ready.numbered.unique known answered
    exact charge_replayed charged holds within undisturbed same user positive

/-- Over every run of purchases, requests, settlements, refunds, due resets,
edits and syncs of plans and usage resets by hand in which every window stays on
its schedule, a repeated call changes nothing and answers as the first. -/
theorem replay_answers_the_same (calendar : Calendar) (start : Timed) (clock : 0 < start.clock)
    (unissued : Unissued start.db) (events : List Event)
    (keeps : Guarded (step calendar) (KeepsSchedule calendar) start events) :
    ∀ done, done <+: events → ReplaysSame calendar (run (step calendar) start done) := by
  intro done shorter
  obtain ⟨rest, rfl⟩ := shorter
  have initially : Sound calendar start :=
    ⟨clock, unissued_all_rows unissued, unissued_numbered unissued.subscriptions⟩
  have permitted := ((guarded_append start done rest).mp keeps).1
  exact sound_replays (run_preserves step_sound permitted initially)

end Runs

def dailyMonth : SubscriptionPlan where
  id := 1
  terms := { totalAmount := 100, reset := ⟨.daily, 0, false, 0⟩ }

def monthShop : Timed where
  db := { users := [{ id := 7 }], plans := [dailyMonth] }
  clock := 1000

def fiveUnits : PreConsumeRequest where
  requestId := "r"
  userId := 7
  amount := 5

def resetAtNoon : List Event :=
  [⟨0, .create 7 1 dailyMonth.terms .order⟩, ⟨40000, .resetUsage 1⟩]

/-- After a usage reset by hand the first call answers with the window that it
started, and the second with the one before. -/
theorem replay_forgets_usage_reset :
    ¬ ∀ (calendar : Calendar) (start : Timed) (events : List Event), 0 < start.clock →
      Unissued start.db → ReplaysSame calendar (run (step calendar) start events) := by
  intro always
  have replays := always dayCount monthShop resetAtNoon (by decide) ⟨by decide, rfl, rfl⟩
  have answered : ∃ after first second,
      preConsumeUserSubscriptionWithPreference dayCount fiveUnits
        ((run (step dayCount) monthShop resetAtNoon).clock + (10 : Nat))
        (run (step dayCount) monthShop resetAtNoon).db = .ok (after, first) ∧
      preConsumeUserSubscriptionWithPreference dayCount fiveUnits 41020 after =
        .ok (after, second) ∧ first.resetWindowStart = 41000 ∧ second.resetWindowStart = 1000 := by
    refine ⟨_, _, _, rfl, rfl, ?_, ?_⟩ <;> decide
  obtain ⟨after, first, second, called, repeated, start, restart⟩ := answered
  obtain ⟨answer, found, same⟩ := replays fiveUnits 10 after first called after
    (undisturbed_refl _ _ _) fiveUnits 41020 rfl (by decide) (by decide)
  cases repeated.symm.trans found
  have window := same.resetWindowStart
  omega

def resetAtMidnight : List Event :=
  [⟨0, .create 7 1 dailyMonth.terms .order⟩, ⟨86400, .resetUsage 1⟩]

theorem midnight_reset_replayed : ReplaysSame dayCount (run (step dayCount) monthShop resetAtMidnight) := by
  refine replay_answers_the_same dayCount monthShop (by decide) ⟨by decide, rfl, rfl⟩
    resetAtMidnight ⟨trivial, ?_, trivial⟩ _ (List.prefix_refl _)
  intro sub held _ _ _
  cases held
  exact .next 1000 .start (by decide)

end NewApi.PreConsumeReplay
