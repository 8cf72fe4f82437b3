import NewApi.ConversionReview

/-! A conversion request that is made and rejected. The request cancels the
subscriptions and keeps their ends and their next resets; the rejection sets both
again, later by the time in between. It leaves the last reset where it was, so the
next count of the windows may undo the pause, and it does not look whether the
subscriptions are still as the request left them. -/
namespace NewApi.ConversionPause
open NewApi.KeyedTable
open NewApi.GoText (trimSpace)
open NewApi.ResetWindow NewApi.Subscription
open NewApi.SubscriptionStore (Database User)
open NewApi.GroupUpgrade (moveUser userRows downgradeUserGroupForSubscription)
open NewApi.ConversionReview

/-! ## The request -/

def nextRequestId (requests : List ConversionRequest) : Int :=
  (requests.map ConversionRequest.id).foldr max 0 + 1

inductive CreateError where
  | invalidArgs
  | noItems
  | userNotFound
  | alreadyPending
  | targets (error : ConversionError)
  | expired
  | refundOrder
  deriving DecidableEq, Repr

/-- What a request asks for: the selected items of the preview and where the
refund is to go. `refundOrderRead` says whether the order and the top-up of a
subscription could be read. -/
structure Selection where
  userId : Int
  items : List Int
  refundTarget : RefundTarget := .balance
  refundOrderRead : UserSubscription → Bool := fun _ => true
  now : Int

def newRequest (selection : Selection) (ids : List Int) (subs : List UserSubscription)
    (requests : List ConversionRequest) : ConversionRequest where
  id := nextRequestId requests
  userId := selection.userId
  subscriptionIds := some (normalizeSubscriptionIntList ids)
  subscriptionSnapshots := some (subs.map fun sub => ⟨sub.id, sub.endTime, sub.nextResetTime⟩)
  requestedRefundTarget := some selection.refundTarget
  disabledAt := selection.now
  createTime := selection.now
  updateTime := selection.now

/-- `model/subscription_conversion_request.go::createSubscriptionConversionRequestFromPreview`. -/
def createSubscriptionConversionRequestFromPreview (selection : Selection) (tables : Tables) :
    Except CreateError (Tables × ConversionRequest) :=
  if selection.userId ≤ 0 then .error .invalidArgs
  else
    let ids := selection.items.filter fun item => item > 0
    if ids = [] then .error .noItems
    else if (lookup User.id tables.db.users selection.userId).isNone then .error .userNotFound
    else if tables.requests.any fun request => request.userId = selection.userId && request.status = .pending then
      .error .alreadyPending
    else match lockSubscriptionConversionTargets selection.userId ids tables.db with
    | .error error => .error (.targets error)
    | .ok subs =>
      if !subs.all fun sub => sub.status = .active && sub.endTime > selection.now then .error .expired
      else if !subs.all selection.refundOrderRead then .error .refundOrder
      else
        let request := newRequest selection ids subs tables.requests
        .ok ({ tables with
          requests := tables.requests ++ [request]
          db := downgradeUserGroupsForSubscriptionList subs selection.now tables.db }, request)

/-- `model/subscription_conversion_request.go::RejectSubscriptionConversionRequest`,
with nothing in between its reads and its writes. -/
def rejectConversionRequest (requestId : Int) (rejection : Rejection) (tables : Tables) :
    Except ConversionError Tables :=
  if requestId ≤ 0 then .error .invalidId
  else
    let request := tables.request requestId
    rejectSubscriptionConversionRequest rejection
      { request := request
        seen := tables.credits.length
        targets := request.map fun request => namedTargets request tables.db } tables

/-! ## What both leave of the rows -/

def pauseRow (now : Int) (sub : UserSubscription) : UserSubscription :=
  { sub with status := .cancelled, endTime := now, updatedAt := now }

section Rows
variable {id : Int}

theorem move_user_subscription (db : Database) (userId : Int) (group : Option String) (id : Int) :
    (moveUser db userId group).subscription id = db.subscription id := by
  cases group <;> rfl

theorem update_subscription_lookup (db : Database) (target : Int) (change : UserSubscription → UserSubscription)
    (keeps : ∀ row, (change row).id = row.id) (id : Int) :
    (updateSubscription target change db).subscription id =
      if id = target then (db.subscription id).map change else db.subscription id :=
  lookup_update db.subscriptions target id change keeps

theorem downgraded_lookup (subs : List UserSubscription) (db : Database) (id : Int) :
    (downgradeUserGroupsForSubscriptionList subs now db).subscription id =
      if id ∈ subs.map UserSubscription.id then (db.subscription id).map (pauseRow now)
      else db.subscription id := by
  induction subs generalizing db with
  | nil => rfl
  | cons sub rest ih =>
    have one : (moveUser (updateSubscription sub.id (pauseRow now) db) sub.userId
        (downgradeUserGroupForSubscription sub now
          (userRows (updateSubscription sub.id (pauseRow now) db) sub.userId)
          ((updateSubscription sub.id (pauseRow now) db).userGroup sub.userId))).subscription id =
        if id = sub.id then (db.subscription id).map (pauseRow now) else db.subscription id := by
      rw [move_user_subscription]
      exact update_subscription_lookup db sub.id (pauseRow now) (fun _ => rfl) id
    have folded := ih (moveUser (updateSubscription sub.id (pauseRow now) db) sub.userId
      (downgradeUserGroupForSubscription sub now
        (userRows (updateSubscription sub.id (pauseRow now) db) sub.userId)
        ((updateSubscription sub.id (pauseRow now) db).userGroup sub.userId)))
    rw [one] at folded
    refine folded.trans ?_
    have twice : ∀ row, pauseRow now (pauseRow now row) = pauseRow now row := fun _ => rfl
    by_cases own : id = sub.id
    · cases db.subscription id <;> simp [own, twice]
    · simp [own]

theorem restored_others
    (restored : restoreSubscriptions snapshots seconds now subs db = .ok after)
    (unnamed : id ∉ subs.map UserSubscription.id) : after.subscription id = db.subscription id := by
  induction subs generalizing db with
  | nil =>
    cases restored
    rfl
  | cons sub rest ih =>
    obtain ⟨other, unnamed⟩ := not_or.mp (mt List.mem_cons.mpr unnamed)
    unfold restoreSubscriptions at restored
    split at restored
    · cases restored
    · rename_i snapshot held
      have one := update_subscription_lookup db sub.id (restoreRow snapshot seconds now) (fun _ => rfl) id
      rw [ih restored unnamed, one, if_neg other]

theorem restored_lookup
    (restored : restoreSubscriptions snapshots seconds now subs db = .ok after)
    (named : id ∈ subs.map UserSubscription.id) :
    ∃ snapshot, lookup Snapshot.userSubscriptionId snapshots id = some snapshot ∧
      after.subscription id = (db.subscription id).map (restoreRow snapshot seconds now) := by
  induction subs generalizing db with
  | nil => exact absurd named List.not_mem_nil
  | cons sub rest ih =>
    unfold restoreSubscriptions at restored
    split at restored
    · cases restored
    · rename_i snapshot held
      have one := update_subscription_lookup db sub.id (restoreRow snapshot seconds now) (fun _ => rfl) id
      have twice : ∀ row, restoreRow snapshot seconds now (restoreRow snapshot seconds now row) =
          restoreRow snapshot seconds now row := fun _ => rfl
      by_cases later : id ∈ rest.map UserSubscription.id
      · obtain ⟨found, same, written⟩ := ih restored later
        refine ⟨found, same, ?_⟩
        by_cases own : id = sub.id
        · obtain rfl : snapshot = found := Option.some.inj (held.symm.trans (own ▸ same))
          rw [written, one, if_pos own]
          cases db.subscription id <;> simp [twice]
        · rw [written, one, if_neg own]
      · have own := (List.mem_cons.mp named).resolve_right later
        have kept := restored_others restored later
        exact ⟨snapshot, own ▸ held, by rw [kept, one, if_pos own]⟩

theorem located_ids {ids : List Int}
    (located : ids.mapM (lookup UserSubscription.id rows) = some subs) :
    subs.map UserSubscription.id = ids ∧ ∀ sub ∈ subs, sub ∈ rows := by
  induction ids generalizing subs with
  | nil =>
    obtain rfl : [] = subs := by simpa using located
    exact ⟨rfl, fun _ member => absurd member List.not_mem_nil⟩
  | cons id rest ih =>
    rw [List.mapM_cons] at located
    obtain ⟨sub, found, located⟩ := Option.bind_eq_some_iff.mp located
    obtain ⟨others, later, shape⟩ := Option.bind_eq_some_iff.mp located
    obtain rfl : sub :: others = subs := by simpa using shape
    obtain ⟨same, members⟩ := ih later
    refine ⟨by rw [List.map_cons, same, lookup_key found], fun row member => ?_⟩
    rcases List.mem_cons.mp member with rfl | member
    · exact lookup_mem found
    · exact members row member

theorem locked_ids {subs : List UserSubscription}
    (locked : lockSubscriptionConversionTargets userId ids db = .ok subs) :
    subs.map UserSubscription.id = ids ∧ ∀ sub ∈ subs, sub ∈ db.subscriptions := by
  unfold lockSubscriptionConversionTargets at locked
  split at locked
  · cases locked
  · dsimp only at locked
    split at locked
    · cases locked
    · split at locked
      · cases locked
      · rename_i located
        cases locked
        obtain ⟨same, members⟩ := located_ids located
        exact ⟨same, fun sub member => List.mem_of_mem_filter (members sub member)⟩

end Rows

/-! ## What a rejection is to restore -/

def AsLeft (request : ConversionRequest) (row : UserSubscription) : Prop :=
  row.status = .cancelled ∧ row.endTime = request.disabledAt

instance (request : ConversionRequest) (row : UserSubscription) : Decidable (AsLeft request row) :=
  inferInstanceAs (Decidable (_ ∧ _))

/-- The row as it was when the request was made: as much time is left to it and to its
window, also after the windows are counted again, and nothing is used that was not. -/
structure Restored (calendar : Calendar) (createdAt rejectedAt : Int) (before row after : UserSubscription) :
    Prop where
  active : after.status = .active
  lifetime : after.endTime - rejectedAt = before.endTime - createdAt
  window : 0 < before.nextResetTime → after.nextResetTime - rejectedAt = before.nextResetTime - createdAt
  windowless : before.nextResetTime ≤ 0 → after.nextResetTime = before.nextResetTime
  counted : ∀ now, rejectedAt ≤ now → (0 < after.nextResetTime → now < after.nextResetTime) →
    (recalculateSubscriptionResetWindow calendar after now).nextResetTime = after.nextResetTime
  amountUsed : after.amountUsed = row.amountUsed
  requestCountUsed : after.requestCountUsed = row.requestCountUsed
  requestCountPeriodUsed : after.requestCountPeriodUsed = row.requestCountPeriodUsed

/-- The request pauses the rows that it names and leaves their counters; the rejection
restores those that are as it left them, and revives no other. -/
structure PausesAndRestores (calendar : Calendar) (createdAt rejectedAt : Int) (request : ConversionRequest)
    (tables paused later result : Database) : Prop where
  paused : ∀ id ∈ request.subscriptionIds.getD [], ∀ before, tables.subscription id = some before →
    paused.subscription id = some (pauseRow createdAt before)
  restored : ∀ id ∈ request.subscriptionIds.getD [], ∀ before row, tables.subscription id = some before →
    later.subscription id = some row → AsLeft request row →
      ∃ after, result.subscription id = some after ∧ Restored calendar createdAt rejectedAt before row after
  revived : ∀ id ∈ request.subscriptionIds.getD [], ∀ row after, later.subscription id = some row →
    result.subscription id = some after → row.status ≠ .active → after.status = .active → AsLeft request row

def movedReset (createdAt rejectedAt : Int) (before : UserSubscription) : Int :=
  if before.nextResetTime > 0 then before.nextResetTime + (rejectedAt - createdAt) else before.nextResetTime

def Aligned (calendar : Calendar) (createdAt rejectedAt : Int) (before row : UserSubscription) : Prop :=
  (0 < movedReset createdAt rejectedAt before → rejectedAt < movedReset createdAt rejectedAt before) →
    ∃ begun, Boundary calendar (resetRule row) (before.endTime + (rejectedAt - createdAt)) (windowBase row) begun ∧
      (begun = windowBase row ∨ begun ≤ rejectedAt) ∧
      calcNextResetTime calendar begun (resetRule row) (before.endTime + (rejectedAt - createdAt)) =
        movedReset createdAt rejectedAt before

section Schedule

theorem recalculated_window (calendar : Calendar) (row : UserSubscription) (now : Int) :
    ∃ begun, Boundary calendar (resetRule row) row.endTime (windowBase row) begun ∧
      (begun = windowBase row ∨ begun ≤ now) ∧
      (recalculateSubscriptionResetWindow calendar row now).nextResetTime =
        calcNextResetTime calendar begun (resetRule row) row.endTime := by
  by_cases never : row.resetPeriod = .never
  · refine ⟨windowBase row, .start, .inl rfl, ?_⟩
    simp [recalculateSubscriptionResetWindow, calcNextResetTime, nextPeriodStart, resetRule, never]
  · refine ⟨advanceWindow calendar (resetRule row) row.endTime now (windowRounds (windowBase row) now) (windowBase row),
      advance_window_boundary .start _, ?_, ?_⟩
    · exact (advance_window_bounds calendar (resetRule row) row.endTime now (windowBase row) _).imp_right And.right
    · rw [recalculateSubscriptionResetWindow, if_neg never]
      rfl

theorem recalculated_keeps_iff :
    (∀ now, rejectedAt ≤ now → (0 < reset → now < reset) →
        (recalculateSubscriptionResetWindow calendar row now).nextResetTime = reset) ↔
      ((0 < reset → rejectedAt < reset) →
        ∃ begun, Boundary calendar (resetRule row) row.endTime (windowBase row) begun ∧
          (begun = windowBase row ∨ begun ≤ rejectedAt) ∧
          calcNextResetTime calendar begun (resetRule row) row.endTime = reset) := by
  constructor
  · intro kept current
    obtain ⟨begun, boundary, reached, next⟩ := recalculated_window calendar row rejectedAt
    exact ⟨begun, boundary, reached, next.symm.trans (kept rejectedAt le_rfl current)⟩
  · intro scheduled now later current
    obtain ⟨begun, boundary, reached, next⟩ := scheduled fun positive => by
      have before := current positive
      omega
    have holds : ¬ (0 < calcNextResetTime calendar begun (resetRule row) row.endTime ∧
        calcNextResetTime calendar begun (resetRule row) row.endTime ≤ now) := by
      rw [next]
      rintro ⟨positive, passed⟩
      have before := current positive
      omega
    by_cases never : row.resetPeriod = .never
    · have none_ : calcNextResetTime calendar begun (resetRule row) row.endTime = 0 := by
        simp [calcNextResetTime, nextPeriodStart, resetRule, never]
      rw [recalculateSubscriptionResetWindow, if_pos never, UserSubscription.moveWindow_nextResetTime, ← next, none_]
    · rw [recalculateSubscriptionResetWindow, if_neg never]
      simp only [UserSubscription.moveWindow_nextResetTime]
      by_cases past : begun ≤ now
      · rw [advance_window_holds boundary past holds, next]
      · have first : begun = windowBase row := reached.resolve_right (by omega)
        subst first
        have still : windowRounds (windowBase row) now = 0 := by
          simp only [windowRounds]
          omega
        rw [still, advanceWindow, next]

end Schedule

/-! ## The two calls -/

section Calls

theorem created_cases
    (created : createSubscriptionConversionRequestFromPreview selection tables = .ok (paused, request)) :
    ∃ ids subs, (∀ id ∈ ids, 0 < id) ∧
      lockSubscriptionConversionTargets selection.userId ids tables.db = .ok subs ∧
      (∀ sub ∈ subs, sub.status = .active ∧ selection.now < sub.endTime) ∧
      request = newRequest selection ids subs tables.requests ∧
      paused.db = downgradeUserGroupsForSubscriptionList subs selection.now tables.db := by
  unfold createSubscriptionConversionRequestFromPreview at created
  split at created
  · cases created
  · dsimp only at created
    split at created
    · cases created
    · split at created
      · cases created
      · split at created
        · cases created
        · split at created
          · cases created
          · rename_i subs locked
            split at created
            · cases created
            · rename_i running
              split at created
              · cases created
              · simp only [Except.ok.injEq, Prod.mk.injEq] at created
                obtain ⟨rfl, rfl⟩ := created
                refine ⟨_, subs, fun id member => ?_, locked, fun sub member => ?_, rfl, rfl⟩
                · simpa using (List.mem_filter.mp member).2
                · simp only [Bool.not_eq_true', Bool.not_eq_false, List.all_eq_true, Bool.and_eq_true,
                    decide_eq_true_eq] at running
                  exact running sub member

theorem rejected_cases (held : later.request request.id = some request) (disabled : 0 < request.disabledAt)
    (rejected : rejectConversionRequest request.id rejection later = .ok result) :
    ∃ snapshots subs db, request.subscriptionSnapshots = some snapshots ∧
      namedTargets request later.db = .ok subs ∧
      restoreSubscriptions (decodeSnapshots snapshots) (max 0 (rejection.now - request.disabledAt))
        rejection.now subs later.db = .ok db ∧
      ∀ id, result.db.subscription id = db.subscription id := by
  unfold rejectConversionRequest at rejected
  split at rejected
  · cases rejected
  · simp only [held, Option.map_some, rejectSubscriptionConversionRequest] at rejected
    split at rejected
    · cases rejected
    · split at rejected
      · cases rejected
      · rw [if_neg (by omega)] at rejected
        split at rejected
        · rename_i snapshots subs stored named
          split at rejected
          · cases rejected
          · rename_i db restored
            cases rejected
            refine ⟨snapshots, subs, db, stored, Option.some.inj named, restored, fun id => ?_⟩
            show (restoreUserGroupForPendingConversion request.userId rejection.now db).subscription id = _
            unfold restoreUserGroupForPendingConversion
            split
            · rfl
            · dsimp only
              split
              · rfl
              · rfl
        · cases rejected

theorem normalized_mem (positive : ∀ id ∈ ids, 0 < id) (id : Int) :
    id ∈ normalizeSubscriptionIntList ids ↔ id ∈ ids := by
  simp only [normalizeSubscriptionIntList, List.mem_eraseDups, List.mem_filter, decide_eq_true_eq]
  exact ⟨And.left, fun member => ⟨member, positive id member⟩⟩

theorem rejected_row (started : 0 < selection.now)
    (unique : (tables.db.subscriptions.map UserSubscription.id).Nodup)
    (created : createSubscriptionConversionRequestFromPreview selection tables = .ok (paused, request))
    (held : later.request request.id = some request) (delay : selection.now ≤ rejection.now)
    (rejected : rejectConversionRequest request.id rejection later = .ok result) {id : Int}
    (named : id ∈ request.subscriptionIds.getD []) :
    request.disabledAt = selection.now ∧
      paused.db.subscription id = (tables.db.subscription id).map (pauseRow selection.now) ∧
      ∃ before, tables.db.subscription id = some before ∧ selection.now < before.endTime ∧
        result.db.subscription id = (later.db.subscription id).map fun row =>
          { row with
            status := .active
            endTime := before.endTime + (rejection.now - selection.now)
            nextResetTime := movedReset selection.now rejection.now before
            updatedAt := rejection.now } := by
  obtain ⟨ids, subs, positive, locked, running, rfl, pausedRows⟩ := created_cases created
  obtain ⟨same, stored⟩ := locked_ids locked
  have member : id ∈ ids := (normalized_mem positive id).mp named
  obtain ⟨snapshots, targets, db, shape, found, restored, rows⟩ := rejected_cases held started rejected
  obtain rfl : subs.map (fun sub => (⟨sub.id, sub.endTime, sub.nextResetTime⟩ : Snapshot)) = snapshots :=
    Option.some.inj shape
  have target : id ∈ targets.map UserSubscription.id := by
    have located : lockSubscriptionConversionTargets selection.userId
        (normalizeSubscriptionIntList (normalizeSubscriptionIntList ids)) later.db = .ok targets := found
    rw [(locked_ids located).1, normalized_mem, normalized_mem positive]
    · exact member
    · exact fun other inside => positive other ((normalized_mem positive other).mp inside)
  obtain ⟨snapshot, kept, written⟩ := restored_lookup restored target
  -- the snapshot is that of the one row with the id
  have whose := lookup_mem kept
  obtain ⟨sub, locked', rfl⟩ := List.mem_map.mp (List.mem_of_mem_filter whose)
  have named' : Snapshot.userSubscriptionId ⟨sub.id, sub.endTime, sub.nextResetTime⟩ = id := lookup_key kept
  have before : tables.db.subscription id = some sub := named' ▸ lookup_of_mem unique (stored sub locked')
  obtain ⟨-, ends⟩ := running sub locked'
  refine ⟨rfl, ?_, sub, before, ends, ?_⟩
  · rw [pausedRows, downgraded_lookup, if_pos (same.symm ▸ member)]
  · have elapsed : max 0 (rejection.now - selection.now) = rejection.now - selection.now := by omega
    rw [rows, written, newRequest, elapsed]
    congr 1
    funext row
    simp only [restoreRow, movedReset, if_pos (show sub.endTime > 0 by omega)]

end Calls

/-- A request that is made and rejected restores its subscriptions and revives no
other exactly where each of them is active by then, or as the request left it on a
schedule of resets that the pause moves onto itself. -/
theorem pauses_and_restores_iff (calendar : Calendar) {selection : Selection} (started : 0 < selection.now)
    {tables paused : Tables} {request : ConversionRequest}
    (unique : (tables.db.subscriptions.map UserSubscription.id).Nodup)
    (created : createSubscriptionConversionRequestFromPreview selection tables = .ok (paused, request))
    {later result : Tables} (held : later.request request.id = some request) {rejection : Rejection}
    (delay : selection.now ≤ rejection.now)
    (rejected : rejectConversionRequest request.id rejection later = .ok result) :
    PausesAndRestores calendar selection.now rejection.now request tables.db paused.db later.db result.db ↔
      ∀ id ∈ request.subscriptionIds.getD [], ∀ before row, tables.db.subscription id = some before →
        later.db.subscription id = some row →
          row.status = .active ∨
            (AsLeft request row ∧ Aligned calendar selection.now rejection.now before row) := by
  have rows : ∀ id ∈ request.subscriptionIds.getD [], _ := fun id named =>
    rejected_row started unique created held delay rejected named
  constructor
  · intro restores id named before row found stored
    obtain ⟨-, -, known, known', -, written⟩ := rows id named
    obtain rfl : before = known := Option.some.inj (found.symm.trans known')
    rw [stored, Option.map_some] at written
    by_cases active : row.status = .active
    · exact .inl active
    · have left_ := restores.revived id named row _ stored written active rfl
      obtain ⟨after, written', restored⟩ := restores.restored id named before row found stored left_
      obtain rfl := Option.some.inj (written.symm.trans written')
      exact .inr ⟨left_, recalculated_keeps_iff.mp restored.counted⟩
  · intro scheduled
    refine ⟨fun id named before found => ?_, fun id named before row found stored left_ => ?_,
      fun id named row after stored _ inactive _ => ?_⟩
    · obtain ⟨-, paused, -⟩ := rows id named
      rw [paused, found]
      rfl
    · obtain ⟨-, -, known, known', ends, written⟩ := rows id named
      obtain rfl : before = known := Option.some.inj (found.symm.trans known')
      rw [stored, Option.map_some] at written
      have cancelled : row.status ≠ .active := by
        rw [left_.1]
        decide
      obtain ⟨-, aligned⟩ := (scheduled id named before row found stored).resolve_left cancelled
      refine ⟨_, written, rfl, ?_, fun windowed => ?_, fun windowless => ?_, ?_, rfl, rfl, rfl⟩
      · dsimp only
        omega
      · simp only [movedReset, if_pos windowed]
        omega
      · simp only [movedReset, if_neg (Int.not_lt.mpr windowless)]
      · exact recalculated_keeps_iff.mpr aligned
    · obtain ⟨-, -, known, known', -⟩ := rows id named
      exact ((scheduled id named known row known' stored).resolve_left inactive).1

def dailyRow : UserSubscription where
  id := 4
  userId := 7
  amountUsed := 30
  resetPeriod := .daily
  startTime := 1000
  endTime := 900000
  lastResetTime := 1000
  nextResetTime := 87400

def dailyTables : Tables where
  db := { users := [{ id := 7 }], subscriptions := [dailyRow] }

def dailySelection : Selection where
  userId := 7
  items := [4]
  now := 2000

def invalidated (tables : Tables) : Tables :=
  { tables with db := updateSubscription 4 (fun row => { row with endTime := 3000, updatedAt := 3000 }) tables.db }

/-- Rejected after an hour, the window ends an hour later only until it is counted
again; and a subscription that was invalidated in between is active again. -/
theorem pause_lost_and_row_revived :
    (∃ paused request result,
      createSubscriptionConversionRequestFromPreview dailySelection dailyTables = .ok (paused, request) ∧
        rejectConversionRequest request.id ⟨"no", 5600⟩ paused = .ok result ∧
        ¬ PausesAndRestores dayCount 2000 5600 request dailyTables.db paused.db paused.db result.db) ∧
      ∃ paused request result,
        createSubscriptionConversionRequestFromPreview dailySelection dailyTables = .ok (paused, request) ∧
          rejectConversionRequest request.id ⟨"no", 5600⟩ (invalidated paused) = .ok result ∧
          ¬ PausesAndRestores dayCount 2000 5600 request dailyTables.db paused.db (invalidated paused).db
            result.db := by
  refine ⟨⟨_, _, _, rfl, rfl, fun restores => ?_⟩, ⟨_, _, _, rfl, rfl, fun restores => ?_⟩⟩
  · obtain ⟨after, written, restored⟩ := restores.restored 4 (by decide) dailyRow _ rfl rfl ⟨rfl, rfl⟩
    cases written
    exact absurd (restored.counted 5600 (by decide) (by decide)) (by decide +kernel)
  · have left_ := restores.revived 4 (by decide) _ _ rfl rfl (by decide) rfl
    exact absurd left_.2 (by decide)

/-- Rejected after a whole day, the windows stay where they are. -/
theorem whole_day_pause_restored : ∃ paused request result,
    createSubscriptionConversionRequestFromPreview dailySelection dailyTables = .ok (paused, request) ∧
      rejectConversionRequest request.id ⟨"no", 88400⟩ paused = .ok result ∧
      PausesAndRestores dayCount 2000 88400 request dailyTables.db paused.db paused.db result.db := by
  have started : 0 < dailySelection.now := by decide
  have unique : (dailyTables.db.subscriptions.map UserSubscription.id).Nodup := by decide
  have delay : dailySelection.now ≤ Rejection.now ⟨"no", 88400⟩ := by decide
  refine ⟨_, _, _, rfl, rfl, ?_⟩
  refine (pauses_and_restores_iff dayCount started unique rfl rfl delay rfl).mpr ?_
  intro id named before row found stored
  obtain rfl : id = 4 := List.mem_singleton.mp named
  cases found
  cases stored
  refine .inr ⟨⟨rfl, rfl⟩, fun _ => ⟨87400, .next 1000 .start (by decide), .inr (by decide), by decide⟩⟩

end NewApi.ConversionPause
