import Mathlib.Data.List.Sort
import NewApi.GoText
import NewApi.GuardedRun
import NewApi.KeyedTable
import NewApi.ReadCommitted
import NewApi.Subscription

/-! The tables behind subscription billing and the operations on them: issuing
a subscription, pre-consuming for a request, settling a delta, refunding a
request and resetting what is due. An operation that fails leaves the tables
as they were, because its transaction rolls back. -/
namespace NewApi.SubscriptionStore
open NewApi.ResetWindow NewApi.Subscription
open NewApi.GoText (trimSpace)
open NewApi.KeyedTable
open NewApi.ReadCommitted (ReadLock)

/-! ## Locks -/

/-- `model/locking.go::lockForUpdate`; SQLite has no such clause. -/
def lockForUpdate (usingSQLite : Bool) : ReadLock := if usingSQLite then .plain else .forUpdate

/-- `Set("gorm:query_option", "FOR UPDATE")`, the form of the first version of
the ORM. The second version ignores it. -/
def queryOption : ReadLock := .plain

/-! ## Rows -/

structure User where
  id : Int
  group : String := "default"
  quota : Int := 0
  inviterId : Int := 0
  deriving DecidableEq, Repr

inductive DurationUnit where
  | year
  | month
  | week
  | day
  | hour
  | custom
  | other (text : String)
  deriving DecidableEq, Repr

/-- The unit that a column names, in the words of `SubscriptionDurationYear`
and its siblings. -/
def DurationUnit.ofText (text : String) : DurationUnit :=
  if text = "year" then .year
  else if text = "month" then .month
  else if text = "week" then .week
  else if text = "day" then .day
  else if text = "hour" then .hour
  else if text = "custom" then .custom
  else .other text

inductive DeliveryMode where
  | autoActivate
  | manualDelivery
  deriving DecidableEq, Repr

/-- What a plan sells: the fields that an order snapshots and that a
subscription is issued from. `isClaude` is the verdict of `isClaudePlan` on the
plan's title, groups and models. -/
structure PlanTerms where
  title : String := ""
  isClaude : Bool := false
  durationUnit : DurationUnit := .month
  durationValue : Int := 1
  customSeconds : Int := 0
  upgradeGroup : String := ""
  totalAmount : Int := 0
  resourceType : ResourceType := .quota
  requestCountTotal : Int := 0
  requestCountPeriodTotal : Int := 0
  reset : ResetRule := ⟨.never, 0, false, 0⟩
  allowedGroups : List String := []
  allowedModels : List String := []
  allowedVendorIDs : List Int := []
  deliveryMode : DeliveryMode := .autoActivate
  deriving DecidableEq, Repr

/-- `model/subscription.go::SubscriptionPlan`. -/
structure SubscriptionPlan where
  id : Int
  terms : PlanTerms := {}
  maxPurchasePerUser : Int := 0
  saleLimitCount : Int := 0
  soldCount : Int := 0
  deriving DecidableEq, Repr

def SubscriptionPlan.isSoldOut (plan : SubscriptionPlan) : Bool :=
  plan.saleLimitCount > 0 && plan.soldCount ≥ plan.saleLimitCount

inductive RecordStatus where
  | consumed
  | refunded
  deriving DecidableEq, Repr

/-- `model/subscription.go::SubscriptionPreConsumeRecord`; the request id is a
unique index. -/
structure SubscriptionPreConsumeRecord where
  requestId : String
  userId : Int
  userSubscriptionId : Int
  preConsumed : Int
  preConsumedAmount : Int
  preConsumedCount : Int
  status : RecordStatus
  createdAt : Int
  updatedAt : Int
  deriving DecidableEq, Repr

/-- The committed tables. The next subscription id is the auto-increment
counter. -/
structure Database where
  users : List User := []
  plans : List SubscriptionPlan := []
  subscriptions : List UserSubscription := []
  records : List SubscriptionPreConsumeRecord := []
  nextSubscriptionId : Int := 1
  deriving DecidableEq, Repr

def Database.subscription (db : Database) (id : Int) : Option UserSubscription :=
  lookup UserSubscription.id db.subscriptions id

def Database.plan (db : Database) (id : Int) : Option SubscriptionPlan :=
  lookup SubscriptionPlan.id db.plans id

def Database.record (db : Database) (requestId : String) : Option SubscriptionPreConsumeRecord :=
  lookup SubscriptionPreConsumeRecord.requestId db.records requestId

/-- `model/subscription.go::getUserGroupByIdTx`; a missing user has no group. -/
def Database.userGroup (db : Database) (userId : Int) : String :=
  ((lookup User.id db.users userId).map User.group).getD ""

/-- `tx.Save(&sub)`: the whole row is written. -/
def Database.saveSubscription (db : Database) (sub : UserSubscription) : Database :=
  { db with subscriptions := save UserSubscription.id db.subscriptions sub }

def Database.saveRecord (db : Database) (record : SubscriptionPreConsumeRecord) : Database :=
  { db with records := save SubscriptionPreConsumeRecord.requestId db.records record }

def openWindow (calendar : Calendar) (now : Int) (db : Database) (sub : UserSubscription) :
    Database × UserSubscription :=
  let reset := maybeResetUserSubscriptionWithPlan calendar sub now
  (if reset.saved then db.saveSubscription reset.sub else db, reset.sub)

/-! ## Issuing a subscription -/

/-- `model/subscription.go::calcFixedClockDeadlineEndTime`, a day plan that
ends at a fixed clock time. -/
def calcFixedClockDeadlineEndTime (calendar : Calendar) (start : Int) (terms : PlanTerms) : Option Int :=
  if !terms.isClaude then none
  else if terms.durationUnit ≠ .day ∨ terms.durationValue ≤ 0 then none
  else if terms.reset.quotaResetPeriod ≠ .never then none
  else
    (normalizeResetFixedClock terms.reset.quotaResetUseFixedClock
      terms.reset.quotaResetFixedSeconds .daily).map fun seconds =>
        let deadline := calendar.atClock seconds
          (calendar.addDateReset 0 0 terms.durationValue.toNat start)
        if deadline > start then deadline else calendar.addDateReset 0 0 1 deadline

inductive CreateError where
  | invalidPlan
  | invalidUserId
  | planNotFound
  | purchaseLimitReached
  | soldOut
  | durationValueNotPositive
  | customSecondsNotPositive
  | invalidDurationUnit (text : String)
  deriving DecidableEq, Repr

def CreateError.text : CreateError → String
  | .invalidPlan => "invalid plan"
  | .invalidUserId => "invalid user id"
  | .planNotFound => "record not found"
  | .purchaseLimitReached => "已达到该套餐购买上限"
  | .soldOut => "该套餐已售罄"
  | .durationValueNotPositive => "duration_value must be > 0"
  | .customSecondsNotPositive => "custom_seconds must be > 0"
  | .invalidDurationUnit text => s!"invalid duration_unit: {text}"

/-- `model/subscription.go::calcPlanEndTime`. -/
def calcPlanEndTime (calendar : Calendar) (start : Int) (terms : PlanTerms) : Except CreateError Int :=
  if terms.durationValue ≤ 0 ∧ terms.durationUnit ≠ .custom then
    .error .durationValueNotPositive
  else match calcFixedClockDeadlineEndTime calendar start terms with
  | some endUnix => .ok endUnix
  | none =>
    match terms.durationUnit with
    | .year => .ok (calendar.addDate terms.durationValue.toNat 0 0 start)
    | .month => .ok (calendar.addDate 0 terms.durationValue.toNat 0 start)
    | .week => .ok (calendar.addDate 0 0 (7 * terms.durationValue.toNat) start)
    | .day => .ok (start + terms.durationValue * 24 * 3600)
    | .hour => .ok (start + terms.durationValue * 3600)
    | .custom =>
      if terms.customSeconds ≤ 0 then .error .customSecondsNotPositive
      else .ok (start + terms.customSeconds)
    | .other text => .error (.invalidDurationUnit text)

theorem plan_end_later
    (ends : calcPlanEndTime calendar start terms = .ok endUnix) : start < endUnix := by
  unfold calcPlanEndTime at ends
  split at ends
  · cases ends
  · rename_i positive
    split at ends
    · rename_i deadline
      cases ends
      unfold calcFixedClockDeadlineEndTime at deadline
      split at deadline
      · cases deadline
      · split at deadline
        · cases deadline
        · split at deadline
          · cases deadline
          · rename_i days _
            obtain ⟨seconds, -, reached⟩ := Option.map_eq_some_iff.mp deadline
            have tomorrow := calendar.addDateReset_forward 0 0 terms.durationValue.toNat start (by omega)
            dsimp only at reached
            split at reached
            · omega
            · rw [← reached]
              exact Int.lt_trans tomorrow (calendar.addDateReset_later 0 0 1 _ _ (by omega))
    · split at ends
      · cases ends
        exact calendar.addDate_later _ _ _ _ (by simp_all)
      · cases ends
        exact calendar.addDate_later _ _ _ _ (by simp_all)
      · cases ends
        exact calendar.addDate_later _ _ _ _ (by simp_all)
      · rename_i unit
        have days : 0 < terms.durationValue := by
          by_contra short
          exact positive ⟨by omega, by simp [unit]⟩
        cases ends
        omega
      · rename_i unit
        have hours : 0 < terms.durationValue := by
          by_contra short
          exact positive ⟨by omega, by simp [unit]⟩
        cases ends
        omega
      · split at ends
        · cases ends
        · cases ends
          omega
      · cases ends

/-- `model/subscription.go::buildSubscriptionPlanSnapshot`, nothing for a plan
without a duration unit. -/
def buildSubscriptionPlanSnapshot (terms : PlanTerms) : Option PlanTerms :=
  match terms.durationUnit with
  | .other text =>
    if trimSpace text = "" then none
    else some { terms with
      title := trimSpace terms.title
      upgradeGroup := trimSpace terms.upgradeGroup
      durationUnit := .ofText (trimSpace text) }
  | _ => some { terms with
      title := trimSpace terms.title
      upgradeGroup := trimSpace terms.upgradeGroup }

def countPlanPurchases (db : Database) (userId planId : Int) : Int :=
  (db.subscriptions.filter fun sub =>
    sub.userId = userId ∧ sub.planId = planId ∧ sub.parentUserSubscriptionId = 0).length

def effectiveTerms (terms : PlanTerms) (lockedPlan : SubscriptionPlan) (source : Source) :
    PlanTerms × Bool :=
  match source, buildSubscriptionPlanSnapshot terms with
  | .order, some snapshot => (snapshot, true)
  | _, _ => (lockedPlan.terms, false)

/-- The guards of `CreateUserSubscriptionFromPlanTx` before anything is
written: the terms to issue, or the limit that is reached. -/
def admitPurchase (db : Database) (userId : Int) (lockedPlan : SubscriptionPlan)
    (terms : PlanTerms) (source : Source) : Except CreateError PlanTerms :=
  let (effective, skipPlanGuard) := effectiveTerms terms lockedPlan source
  if !skipPlanGuard && lockedPlan.maxPurchasePerUser > 0 &&
      countPlanPurchases db userId lockedPlan.id ≥ lockedPlan.maxPurchasePerUser then
    .error .purchaseLimitReached
  else if !skipPlanGuard && source ≠ .redemption && lockedPlan.isSoldOut then .error .soldOut
  else .ok effective

/-- The row that `CreateUserSubscriptionFromPlanTx` inserts. -/
def newSubscription (calendar : Calendar) (id userId planId : Int) (terms : PlanTerms)
    (source : Source) (prevGroup : String) (now endUnix : Int) : UserSubscription :=
  let nextReset := calcNextResetTime calendar now terms.reset endUnix
  { id := id
    userId := userId
    planId := planId
    amountTotal := terms.totalAmount
    resourceType := terms.resourceType
    requestCountTotal := terms.requestCountTotal
    requestCountPeriodTotal := terms.requestCountPeriodTotal
    resetPeriod := terms.reset.quotaResetPeriod
    resetCustomSeconds := terms.reset.quotaResetCustomSeconds
    resetUseFixedClock := terms.reset.quotaResetUseFixedClock
    resetFixedSeconds := terms.reset.quotaResetFixedSeconds
    allowedGroups := terms.allowedGroups
    allowedModels := terms.allowedModels
    allowedVendorIDs := terms.allowedVendorIDs
    startTime := now
    endTime := endUnix
    status := .active
    source := source
    lastResetTime := if nextReset > 0 then now else 0
    nextResetTime := nextReset
    upgradeGroup := trimSpace terms.upgradeGroup
    prevUserGroup := prevGroup
    updatedAt := now }

def upgradeUserGroup (db : Database) (userId : Int) (upgradeGroup : String) : List User × String :=
  if upgradeGroup = "" then (db.users, "")
  else
    let currentGroup := db.userGroup userId
    if currentGroup ≠ upgradeGroup then
      (update User.id db.users userId fun user => { user with group := upgradeGroup }, currentGroup)
    else (db.users, "")

/-- `model/subscription.go::CreateUserSubscriptionFromPlanTx`, for the terms of
the plan or of the order that paid for it. -/
def createUserSubscriptionFromPlan (calendar : Calendar) (userId planId : Int)
    (terms : PlanTerms) (source : Source) (now : Int) (db : Database) :
    Except CreateError (Database × UserSubscription) :=
  if planId = 0 then .error .invalidPlan
  else if userId ≤ 0 then .error .invalidUserId
  else match db.plan planId with
  | none => .error .planNotFound
  | some lockedPlan => do
    let effective ← admitPurchase db userId lockedPlan terms source
    let endUnix ← calcPlanEndTime calendar now effective
    let (users, prevGroup) := upgradeUserGroup db userId (trimSpace effective.upgradeGroup)
    let sub := newSubscription calendar db.nextSubscriptionId userId lockedPlan.id effective source
      prevGroup now endUnix
    return ({ db with
      users := users
      subscriptions := db.subscriptions ++ [sub]
      plans := update SubscriptionPlan.id db.plans lockedPlan.id fun plan =>
        { plan with soldCount := plan.soldCount + 1 }
      nextSubscriptionId := db.nextSubscriptionId + 1 }, sub)

theorem create_cases
    (created : createUserSubscriptionFromPlan calendar userId planId terms source now db = .ok result) :
    ∃ plan effective endUnix, 0 < userId ∧ db.plan planId = some plan ∧
      admitPurchase db userId plan terms source = .ok effective ∧
      calcPlanEndTime calendar now effective = .ok endUnix ∧
      result.2 = newSubscription calendar db.nextSubscriptionId userId plan.id effective source
        (upgradeUserGroup db userId (trimSpace effective.upgradeGroup)).2 now endUnix ∧
      result.1 = { db with
        users := (upgradeUserGroup db userId (trimSpace effective.upgradeGroup)).1
        subscriptions := db.subscriptions ++ [result.2]
        plans := update SubscriptionPlan.id db.plans plan.id fun plan =>
          { plan with soldCount := plan.soldCount + 1 }
        nextSubscriptionId := db.nextSubscriptionId + 1 } := by
  unfold createUserSubscriptionFromPlan at created
  split at created
  · cases created
  · split at created
    · cases created
    · split at created
      · cases created
      · rename_i plan found
        obtain ⟨effective, admitted, rest⟩ := except_bind_ok_iff.mp created
        obtain ⟨endUnix, ends, rest⟩ := except_bind_ok_iff.mp rest
        refine ⟨plan, effective, endUnix, by omega, found, admitted, ends, ?_⟩
        generalize upgradeUserGroup db userId (trimSpace effective.upgradeGroup) = moved at rest ⊢
        cases rest
        exact ⟨rfl, rfl⟩

/-! ## Pre-consuming for a request -/

/-- What a pre-consume call is given, and what it reads outside these tables:
the groups a group may use, the vendor of the model, and the channel binding
that an old order's token holds. -/
structure PreConsumeRequest where
  requestId : String
  userId : Int
  modelName : String := ""
  usingGroup : String := ""
  amount : Int
  preferredSubID : Int := 0
  usableGroups : String → List String := fun _ => []
  resolvedVendorID : Int := 0
  findBinding : UserSubscription → Option (Int × Int) := fun _ => none

def getUserSubscriptionRouteGroup (sub : UserSubscription) : String :=
  if trimSpace sub.upgradeGroup ≠ "" then trimSpace sub.upgradeGroup
  else match sub.allowedGroups with
  | [group] => trimSpace group
  | _ => ""

/-- `model/subscription.go::doesUserSubscriptionMatchGroup`. -/
def doesUserSubscriptionMatchGroup (request : PreConsumeRequest) (sub : UserSubscription)
    (currentUserGroup : String) : Bool :=
  let subGroup := trimSpace sub.upgradeGroup
  let usingGroup := trimSpace request.usingGroup
  let currentUserGroup := trimSpace currentUserGroup
  if subGroup = "" ∨ usingGroup = "" then true
  else if subGroup = usingGroup then true
  else if currentUserGroup = "" then false
  else if currentUserGroup = subGroup then
    (request.usableGroups currentUserGroup).contains usingGroup
  else (request.usableGroups subGroup).contains usingGroup

def doesUserSubscriptionMatchAllowedGroup (sub : UserSubscription) (usingGroup : String) : Bool :=
  sub.allowedGroups.isEmpty ||
    (trimSpace usingGroup ≠ "" && sub.allowedGroups.contains (trimSpace usingGroup))

def doesUserSubscriptionMatchAllowedModel (sub : UserSubscription) (modelName : String) : Bool :=
  sub.allowedModels.isEmpty ||
    (trimSpace modelName ≠ "" && sub.allowedModels.contains (trimSpace modelName))

def doesUserSubscriptionMatchAllowedVendor (sub : UserSubscription) (vendorID : Int) : Bool :=
  sub.allowedVendorIDs.isEmpty || (vendorID > 0 && sub.allowedVendorIDs.contains vendorID)

def isCandidate (request : PreConsumeRequest) (currentUserGroup : String) (sub : UserSubscription) : Bool :=
  sub.aggregateEnabled && doesUserSubscriptionMatchGroup request sub currentUserGroup &&
    doesUserSubscriptionMatchAllowedGroup sub request.usingGroup &&
    doesUserSubscriptionMatchAllowedModel sub request.modelName &&
    doesUserSubscriptionMatchAllowedVendor sub request.resolvedVendorID

/-- `model/subscription.go::tryBackfillUserSubscriptionChannelBindingTx`. Only
the binding columns are written. -/
def tryBackfillUserSubscriptionChannelBinding (request : PreConsumeRequest) (now : Int)
    (db : Database) (sub : UserSubscription) : Database × UserSubscription :=
  if sub.id ≤ 0 ∨ sub.userId ≤ 0 ∨ sub.specificChannelId > 0 ∨ sub.sourceOrderId ≤ 0 then (db, sub)
  else match request.findBinding sub with
  | none => (db, sub)
  | some (channelId, keyIndex) =>
    ({ db with subscriptions := update UserSubscription.id db.subscriptions sub.id fun row =>
        { row with
          specificChannelId := channelId
          specificChannelKeyIndex := keyIndex
          updatedAt := now } },
      { sub with specificChannelId := channelId, specificChannelKeyIndex := keyIndex })

/-- `model/subscription.go::SubscriptionPreConsumeResult`, the fields that
billing reads. -/
structure PreConsumeResult where
  userSubscriptionId : Int
  preConsumed : Int
  preConsumedAmount : Int
  preConsumedCount : Int
  amountTotal : Int
  amountUsedAfter : Int
  resourceType : ResourceType
  requestCountTotal : Int
  requestCountPeriodTotal : Int
  resetWindowStart : Int
  resetWindowEnd : Int
  deriving DecidableEq, Repr

inductive PreConsumeError where
  | invalidUserId
  | requestIdEmpty
  | amountNotPositive
  | alreadyRefunded
  | recordNotFound
  | noActiveSubscription
  | quotaInsufficient (exhausted : Option UserSubscription) (amount : Int)
  deriving DecidableEq, Repr

def repeatedResult (calendar : Calendar) (sub : UserSubscription)
    (record : SubscriptionPreConsumeRecord) : PreConsumeResult :=
  let window := getSubscriptionResetWindowForTimestamp calendar sub record.createdAt
  { userSubscriptionId := sub.id
    preConsumed := record.preConsumed
    preConsumedAmount := record.preConsumedAmount
    preConsumedCount := record.preConsumedCount
    amountTotal := sub.amountTotal
    amountUsedAfter := sub.amountUsed
    resourceType := sub.resourceType
    requestCountTotal := sub.requestCountTotal
    requestCountPeriodTotal := sub.requestCountPeriodTotal
    resetWindowStart := window.1
    resetWindowEnd := window.2 }

def acceptedRecord (request : PreConsumeRequest) (sub : UserSubscription)
    (need : Eligibility) (now : Int) : SubscriptionPreConsumeRecord where
  requestId := request.requestId
  userId := request.userId
  userSubscriptionId := sub.id
  preConsumed := if need.requiredAmount ≤ 0 then need.requiredCount else need.requiredAmount
  preConsumedAmount := need.requiredAmount
  preConsumedCount := need.requiredCount
  status := .consumed
  createdAt := now
  updatedAt := now

/-- `model/subscription.go::applyUserSubscriptionPreConsumeTx`: the record is
inserted, the counters are added in memory and the whole row is saved. -/
def applyUserSubscriptionPreConsume (calendar : Calendar) (request : PreConsumeRequest)
    (sub : UserSubscription) (need : Eligibility) (now : Int) (db : Database) :
    Except PreConsumeError (Database × PreConsumeResult) :=
  match db.record request.requestId with
  | some dup =>
    if dup.status = .refunded then .error .alreadyRefunded
    else .ok (db, repeatedResult calendar sub dup)
  | none =>
    let record := acceptedRecord request sub need now
    let charged := (addPreConsumed sub need.requiredAmount need.requiredCount).touch now
    .ok ({ db.saveSubscription charged with records := db.records ++ [record] },
      { userSubscriptionId := sub.id
        preConsumed := record.preConsumed
        preConsumedAmount := need.requiredAmount
        preConsumedCount := need.requiredCount
        amountTotal := sub.amountTotal
        amountUsedAfter := charged.amountUsed
        resourceType := need.resourceType
        requestCountTotal := sub.requestCountTotal
        requestCountPeriodTotal := sub.requestCountPeriodTotal
        resetWindowStart := getSubscriptionUsageWindowStart charged
        resetWindowEnd := charged.nextResetTime })

/-- The rows that one pre-consume transaction reads before it writes: the
active subscriptions of the user, earliest end first, and the preferred one. -/
structure HeldRows where
  subs : List UserSubscription
  preferred : Option UserSubscription
  deriving DecidableEq, Repr

def isActiveFor (userId now : Int) (sub : UserSubscription) : Bool :=
  sub.userId = userId && sub.status = .active && sub.endTime > now

/-- `Order("end_time asc, id asc")`. -/
def endsBefore (first second : UserSubscription) : Prop :=
  first.endTime < second.endTime ∨ (first.endTime = second.endTime ∧ first.id ≤ second.id)

instance : DecidableRel endsBefore := fun _ _ => inferInstanceAs (Decidable (_ ∨ _))

def readRows (request : PreConsumeRequest) (now : Int) (db : Database) : HeldRows where
  subs := (db.subscriptions.filter (isActiveFor request.userId now)).insertionSort endsBefore
  preferred :=
    if request.preferredSubID > 0 then
      db.subscriptions.find? fun sub =>
        sub.id = request.preferredSubID && isActiveFor request.userId now sub
    else none

/-- `model/subscription.go::trySelectPreferredUserSubscriptionTx` on the row it
read. Its error is dropped by the caller, its writes are not. -/
def trySelectPreferredUserSubscription (calendar : Calendar) (request : PreConsumeRequest)
    (now : Int) (preferred : UserSubscription) (db : Database) :
    Database × Option PreConsumeResult :=
  if !preferred.aggregateEnabled then (db, none)
  else
    let (db, sub) := tryBackfillUserSubscriptionChannelBinding request now db preferred
    if !doesUserSubscriptionMatchAllowedModel sub request.modelName then (db, none)
    else if !doesUserSubscriptionMatchAllowedVendor sub request.resolvedVendorID then (db, none)
    else if getUserSubscriptionRouteGroup sub = "" then (db, none)
    else
      let (db, sub) := openWindow calendar now db sub
      let need := isUserSubscriptionEligibleForPreConsume sub request.amount
      if !need.eligible then (db, none)
      else match applyUserSubscriptionPreConsume calendar request sub need now db with
        | .ok (db, result) => (db, some result)
        | .error _ => (db, none)

structure Selection where
  db : Database
  exhaustedCandidate : Option UserSubscription := none
  requestCountCandidates : List UserSubscription := []
  quotaCandidates : List UserSubscription := []

def prepareCandidate (calendar : Calendar) (request : PreConsumeRequest) (now : Int)
    (db : Database) (candidate : UserSubscription) : Database × UserSubscription :=
  let (db, sub) := openWindow calendar now db candidate
  tryBackfillUserSubscriptionChannelBinding request now db sub

def Selection.consider (state : Selection) (request : PreConsumeRequest) (db : Database)
    (sub : UserSubscription) : Selection :=
  let need := isUserSubscriptionEligibleForPreConsume sub request.amount
  if !need.eligible then
    { state with db := db, exhaustedCandidate := state.exhaustedCandidate.or (some sub) }
  else if need.resourceType = .requestCount then
    { state with db := db, requestCountCandidates := state.requestCountCandidates ++ [sub] }
  else { state with db := db, quotaCandidates := state.quotaCandidates ++ [sub] }

def selectCandidates (calendar : Calendar) (request : PreConsumeRequest) (now : Int)
    (currentUserGroup : String) : List UserSubscription → Selection →
    Except PreConsumeError Selection
  | [], state => .ok state
  | candidate :: rest, state =>
    if !isCandidate request currentUserGroup candidate then
      selectCandidates calendar request now currentUserGroup rest state
    else if (state.db.plan candidate.planId).isNone then .error .recordNotFound
    else
      let (db, sub) := prepareCandidate calendar request now state.db candidate
      selectCandidates calendar request now currentUserGroup rest (state.consider request db sub)

def Selection.selected (state : Selection) : Option UserSubscription :=
  state.requestCountCandidates.head?.or state.quotaCandidates.head?

def consumeFromCandidates (calendar : Calendar) (request : PreConsumeRequest) (now : Int)
    (subs : List UserSubscription) (db : Database) :
    Except PreConsumeError (Database × PreConsumeResult) := do
  let state ← selectCandidates calendar request now (db.userGroup request.userId) subs { db := db }
  match state.selected with
  | some sub =>
    applyUserSubscriptionPreConsume calendar request sub
      (isUserSubscriptionEligibleForPreConsume sub request.amount) now state.db
  | none => .error (.quotaInsufficient state.exhaustedCandidate request.amount)

/-- `model/subscription.go::preConsumeUserSubscriptionWithPreference` from the
rows it has read. -/
def preConsumeFrom (calendar : Calendar) (request : PreConsumeRequest) (now : Int)
    (held : HeldRows) (db : Database) : Except PreConsumeError (Database × PreConsumeResult) :=
  match db.record request.requestId with
  | some existing =>
    if existing.status = .refunded then .error .alreadyRefunded
    else match db.subscription existing.userSubscriptionId with
      | none => .error .recordNotFound
      | some sub => .ok (db, repeatedResult calendar sub existing)
  | none =>
    if held.subs.isEmpty then .error .noActiveSubscription
    else match held.preferred with
      | none => consumeFromCandidates calendar request now held.subs db
      | some preferred =>
        match trySelectPreferredUserSubscription calendar request now preferred db with
        | (db, some result) => .ok (db, result)
        | (db, none) => consumeFromCandidates calendar request now held.subs db

/-- `model/subscription.go::preConsumeUserSubscriptionWithPreference`. -/
def preConsumeUserSubscriptionWithPreference (calendar : Calendar) (request : PreConsumeRequest)
    (now : Int) (db : Database) : Except PreConsumeError (Database × PreConsumeResult) :=
  if request.userId ≤ 0 then .error .invalidUserId
  else if trimSpace request.requestId = "" then .error .requestIdEmpty
  else if request.amount ≤ 0 then .error .amountNotPositive
  else preConsumeFrom calendar request now (readRows request now db) db

/-! ### What a pre-consume can do -/

theorem read_rows_stored
    {property : UserSubscription → Prop} (all : ∀ sub ∈ db.subscriptions, property sub) :
    (∀ sub ∈ (readRows request now db).subs, property sub) ∧
      ∀ sub ∈ (readRows request now db).preferred, property sub := by
  constructor
  · intro sub member
    simp only [readRows, List.mem_insertionSort, List.mem_filter] at member
    exact all sub member.1
  · intro sub found
    unfold readRows at found
    dsimp only at found
    split at found
    · exact all sub (List.mem_of_find?_eq_some found)
    · cases found

@[simp] theorem backfill_records (request : PreConsumeRequest) (now : Int) (db : Database)
    (sub : UserSubscription) :
    (tryBackfillUserSubscriptionChannelBinding request now db sub).1.records = db.records := by
  unfold tryBackfillUserSubscriptionChannelBinding
  split
  · rfl
  · split <;> rfl

@[simp] theorem open_window_records (calendar : Calendar) (now : Int) (db : Database)
    (sub : UserSubscription) : (openWindow calendar now db sub).1.records = db.records := by
  unfold openWindow
  dsimp only
  split <;> rfl

def acceptRequest (request : PreConsumeRequest) (sub : UserSubscription) (now : Int)
    (db : Database) : Database :=
  let need := isUserSubscriptionEligibleForPreConsume sub request.amount
  { db.saveSubscription
      ((addPreConsumed sub need.requiredAmount need.requiredCount).touch now) with
    records := db.records ++ [acceptedRecord request sub need now] }

def acceptedResult (request : PreConsumeRequest) (sub : UserSubscription) (now : Int) :
    PreConsumeResult :=
  let need := isUserSubscriptionEligibleForPreConsume sub request.amount
  let record := acceptedRecord request sub need now
  let charged := (addPreConsumed sub need.requiredAmount need.requiredCount).touch now
  { userSubscriptionId := sub.id
    preConsumed := record.preConsumed
    preConsumedAmount := need.requiredAmount
    preConsumedCount := need.requiredCount
    amountTotal := sub.amountTotal
    amountUsedAfter := charged.amountUsed
    resourceType := need.resourceType
    requestCountTotal := sub.requestCountTotal
    requestCountPeriodTotal := sub.requestCountPeriodTotal
    resetWindowStart := getSubscriptionUsageWindowStart charged
    resetWindowEnd := charged.nextResetTime }

def Selection.candidates (state : Selection) : List UserSubscription :=
  state.requestCountCandidates ++ state.quotaCandidates

@[simp] theorem consider_db (state : Selection) (request : PreConsumeRequest) (db : Database)
    (sub : UserSubscription) : (state.consider request db sub).db = db := by
  unfold Selection.consider
  dsimp only
  split
  · rfl
  · split <;> rfl

theorem mem_consider {state : Selection}
    (member : candidate ∈ (state.consider request db sub).candidates) :
    candidate ∈ state.candidates ∨ (candidate = sub ∧
      (isUserSubscriptionEligibleForPreConsume sub request.amount).eligible = true) := by
  unfold Selection.consider at member
  dsimp only at member
  split at member
  · exact .inl member
  · rename_i eligible
    simp only [Bool.not_eq_true, Bool.not_eq_false'] at eligible
    split at member <;>
      simp only [Selection.candidates, List.mem_append, List.mem_singleton] at member ⊢ <;> tauto

theorem selected_mem {state : Selection}
    (chosen : state.selected = some sub) : sub ∈ state.candidates := by
  refine List.mem_append.mpr ?_
  rcases Option.or_eq_some_iff.mp chosen with first | ⟨-, first⟩
  · exact .inl (List.mem_of_mem_head? first)
  · exact .inr (List.mem_of_mem_head? first)

section Rounds
variable {calendar : Calendar} {request : PreConsumeRequest} {now : Int} {db opened : Database}
variable {kept : Database → Prop} {read chosen : UserSubscription → Prop} {sub : UserSubscription}
variable {result : Database × PreConsumeResult}

/-- What the two writes that prepare a row keep: of the tables, and of the row
in memory. -/
structure RoundRule (calendar : Calendar) (request : PreConsumeRequest) (now : Int)
    (kept : Database → Prop) (chosen : UserSubscription → Prop) : Prop where
  opens : ∀ db sub, kept db → chosen sub →
    kept (openWindow calendar now db sub).1 ∧ chosen (openWindow calendar now db sub).2
  binds : ∀ db sub, kept db → chosen sub →
    kept (tryBackfillUserSubscriptionChannelBinding request now db sub).1 ∧
      chosen (tryBackfillUserSubscriptionChannelBinding request now db sub).2

/-- The same where a row that was only read may lack what it has in its
window. -/
structure OpeningRule (calendar : Calendar) (request : PreConsumeRequest) (now : Int)
    (kept : Database → Prop) (read chosen : UserSubscription → Prop) : Prop where
  opens : ∀ db sub, kept db → read sub →
    kept (openWindow calendar now db sub).1 ∧ chosen (openWindow calendar now db sub).2
  bindsRead : ∀ db sub, kept db → read sub →
    kept (tryBackfillUserSubscriptionChannelBinding request now db sub).1 ∧
      read (tryBackfillUserSubscriptionChannelBinding request now db sub).2
  binds : ∀ db sub, kept db → chosen sub →
    kept (tryBackfillUserSubscriptionChannelBinding request now db sub).1 ∧
      chosen (tryBackfillUserSubscriptionChannelBinding request now db sub).2

theorem RoundRule.opening (rule : RoundRule calendar request now kept chosen) :
    OpeningRule calendar request now kept chosen chosen :=
  ⟨rule.opens, rule.binds, rule.binds⟩

theorem OpeningRule.with_records (rule : OpeningRule calendar request now kept read chosen)
    (records : List SubscriptionPreConsumeRecord) :
    OpeningRule calendar request now (fun db => kept db ∧ db.records = records) read chosen where
  opens db sub ready holds :=
    have step := rule.opens db sub ready.1 holds
    ⟨⟨step.1, (open_window_records ..).trans ready.2⟩, step.2⟩
  bindsRead db sub ready holds :=
    have step := rule.bindsRead db sub ready.1 holds
    ⟨⟨step.1, (backfill_records ..).trans ready.2⟩, step.2⟩
  binds db sub ready holds :=
    have step := rule.binds db sub ready.1 holds
    ⟨⟨step.1, (backfill_records ..).trans ready.2⟩, step.2⟩

theorem select_candidates_keep (rule : OpeningRule calendar request now kept read chosen)
    {group : String}
    (holds : ∀ sub ∈ subs, read sub)
    (ready : kept state.db)
    (candidates : ∀ sub ∈ state.candidates, chosen sub ∧
      (isUserSubscriptionEligibleForPreConsume sub request.amount).eligible = true)
    (selected : selectCandidates calendar request now group subs state = .ok final) :
    kept final.db ∧ ∀ sub ∈ final.candidates, chosen sub ∧
      (isUserSubscriptionEligibleForPreConsume sub request.amount).eligible = true := by
  induction subs generalizing state with
  | nil =>
    cases selected
    exact ⟨ready, candidates⟩
  | cons candidate rest ih =>
    have later : ∀ sub ∈ rest, read sub := fun sub held => holds sub (.tail _ held)
    unfold selectCandidates at selected
    split at selected
    · exact ih later ready candidates selected
    · split at selected
      · cases selected
      · have inWindow := rule.opens state.db candidate ready (holds candidate (.head _))
        have prepared := rule.binds _ _ inWindow.1 inWindow.2
        refine ih later (by rw [consider_db]; exact prepared.1) ?_ selected
        intro sub member
        rcases mem_consider member with old | ⟨rfl, eligible⟩
        · exact candidates sub old
        · exact ⟨prepared.2, eligible⟩

def Accepted (kept : Database → Prop) (chosen : UserSubscription → Prop)
    (request : PreConsumeRequest) (now : Int) (result : Database × PreConsumeResult) : Prop :=
  ∃ opened sub, kept opened ∧ chosen sub ∧
    (isUserSubscriptionEligibleForPreConsume sub request.amount).eligible = true ∧
    result.1 = acceptRequest request sub now opened ∧ result.2 = acceptedResult request sub now

theorem apply_accepts (unknown : opened.record request.requestId = none) (ready : kept opened)
    (holds : chosen sub)
    (eligible : (isUserSubscriptionEligibleForPreConsume sub request.amount).eligible = true)
    (applied : applyUserSubscriptionPreConsume calendar request sub
      (isUserSubscriptionEligibleForPreConsume sub request.amount) now opened = .ok result) :
    Accepted kept chosen request now result := by
  simp only [applyUserSubscriptionPreConsume, unknown, Except.ok.injEq] at applied
  exact ⟨opened, sub, ready, holds, eligible, applied ▸ rfl, applied ▸ rfl⟩

theorem candidates_accept
    (rule : OpeningRule calendar request now kept read chosen) {subs : List UserSubscription}
    (unknown : ∀ opened, kept opened → opened.record request.requestId = none)
    (ready : kept db) (holds : ∀ sub ∈ subs, read sub)
    (consumed : consumeFromCandidates calendar request now subs db = .ok result) :
    Accepted kept chosen request now result := by
  obtain ⟨state, selected, charged⟩ := except_bind_ok_iff.mp consumed
  obtain ⟨reached, candidates⟩ :=
    select_candidates_keep rule holds ready (by simp [Selection.candidates]) selected
  cases first : state.selected with
  | none => simp [first] at charged
  | some sub =>
    simp only [first] at charged
    obtain ⟨holds, eligible⟩ := candidates sub (selected_mem first)
    exact apply_accepts (unknown _ reached) reached holds eligible charged

theorem preferred_accepts
    (rule : OpeningRule calendar request now kept read chosen)
    (unknown : ∀ opened, kept opened → opened.record request.requestId = none)
    (ready : kept db) (holds : read preferred)
    (tried : trySelectPreferredUserSubscription calendar request now preferred db = (opened, answer)) :
    match answer with
    | some answer => Accepted kept chosen request now (opened, answer)
    | none => kept opened := by
  have bound := rule.bindsRead db preferred ready holds
  have inWindow := rule.opens _ _ bound.1 bound.2
  unfold trySelectPreferredUserSubscription at tried
  dsimp only at tried
  repeat' split at tried
  all_goals cases tried
  · exact ready
  · exact bound.1
  · exact bound.1
  · exact bound.1
  · exact inWindow.1
  · rename_i eligible _ _ applied
    exact apply_accepts (unknown _ inWindow.1) inWindow.1 inWindow.2 (by simpa using eligible) applied
  · exact inWindow.1

theorem pre_consume_opened (rule : OpeningRule calendar request now kept read chosen)
    (ready : kept db) (subs : ∀ sub ∈ held.subs, read sub)
    (preferred : ∀ sub ∈ held.preferred, read sub)
    (accepted : preConsumeFrom calendar request now held db = .ok result) :
    (db.record request.requestId ≠ none ∧ result.1 = db) ∨
      (db.record request.requestId = none ∧
        Accepted (fun opened => kept opened ∧ opened.records = db.records) chosen request now result) := by
  unfold preConsumeFrom at accepted
  cases known : db.record request.requestId with
  | some existing =>
    simp only [known] at accepted
    split at accepted
    · cases accepted
    · split at accepted
      · cases accepted
      · cases accepted
        exact .inl ⟨by simp, rfl⟩
  | none =>
    have unknown : ∀ opened : Database, (kept opened ∧ opened.records = db.records) →
        opened.record request.requestId = none :=
      fun opened same => by simpa [Database.record, same.2] using known
    have rule := rule.with_records db.records
    refine .inr ⟨rfl, ?_⟩
    simp only [known] at accepted
    split at accepted
    · cases accepted
    · split at accepted
      · exact candidates_accept rule unknown ⟨ready, rfl⟩ subs accepted
      · rename_i row found
        have holds : read row := preferred row found
        split at accepted
        · rename_i taken
          cases accepted
          exact preferred_accepts rule unknown ⟨ready, rfl⟩ holds taken
        · rename_i taken
          exact candidates_accept rule unknown
            (preferred_accepts rule unknown ⟨ready, rfl⟩ holds taken) subs accepted

theorem pre_consume_cases (rule : RoundRule calendar request now kept chosen)
    (ready : kept db) (subs : ∀ sub ∈ held.subs, chosen sub)
    (preferred : ∀ sub ∈ held.preferred, chosen sub)
    (accepted : preConsumeFrom calendar request now held db = .ok result) :
    (db.record request.requestId ≠ none ∧ result.1 = db) ∨
      (db.record request.requestId = none ∧
        Accepted (fun opened => kept opened ∧ opened.records = db.records) chosen request now result) :=
  pre_consume_opened rule.opening ready subs preferred accepted

theorem round_rule_trivial (calendar : Calendar) (request : PreConsumeRequest) (now : Int) :
    RoundRule calendar request now (fun _ => True) (fun _ => True) :=
  ⟨fun _ _ _ _ => ⟨trivial, trivial⟩, fun _ _ _ _ => ⟨trivial, trivial⟩⟩

theorem pre_consume_records
    (accepted : preConsumeFrom calendar request now held db = .ok result) :
    (db.record request.requestId ≠ none ∧ result.1 = db) ∨
      (db.record request.requestId = none ∧ ∃ sub, result.1.records = db.records ++
        [acceptedRecord request sub (isUserSubscriptionEligibleForPreConsume sub request.amount) now]) := by
  rcases pre_consume_cases (round_rule_trivial calendar request now) trivial (fun _ _ => trivial)
    (fun _ _ => trivial) accepted with known | ⟨unknown, opened, sub, ⟨-, same⟩, -, -, written, -⟩
  · exact .inl known
  · exact .inr ⟨unknown, sub, by rw [written, acceptRequest, same]⟩

end Rounds

/-! ## Settlement, refund and reset -/

/-- `model/subscription.go::postConsumeUserSubscriptionDeltaDetailedForWindowTx`.
A delta for a window that the row has left changes nothing. -/
def postConsumeUserSubscriptionDeltaForWindow (userSubscriptionId amountDelta countDelta
    windowStart windowEnd now : Int) (db : Database) : Except PostConsumeError Database :=
  if userSubscriptionId ≤ 0 then .error .invalidUserSubscriptionId
  else if amountDelta = 0 ∧ countDelta = 0 then .ok db
  else match db.subscription userSubscriptionId with
  | none => .error .recordNotFound
  | some sub =>
    if leftWindow sub windowStart windowEnd then .ok db
    else (settleRow sub amountDelta countDelta).map fun settled =>
      db.saveSubscription (settled.touch now)

theorem post_consume_cases {id : Int}
    (settled : postConsumeUserSubscriptionDeltaForWindow id amountDelta countDelta windowStart
      windowEnd now db = .ok result) :
    result = db ∨ ∃ sub, 0 < id ∧ db.subscription id = some sub ∧
      leftWindow sub windowStart windowEnd = false ∧ SettlementFits sub amountDelta countDelta ∧
      result = db.saveSubscription ((settledRow sub amountDelta countDelta).touch now) := by
  unfold postConsumeUserSubscriptionDeltaForWindow at settled
  split at settled
  · cases settled
  · split at settled
    · cases settled
      exact .inl rfl
    · split at settled
      · cases settled
      · rename_i positive _ _ sub found
        split at settled
        · cases settled
          exact .inl rfl
        · rename_i current
          cases row : settleRow sub amountDelta countDelta with
          | error error => simp [row, Except.map] at settled
          | ok after =>
            obtain ⟨rfl, fits⟩ := settle_row_ok_iff.mp row
            simp only [row, Except.map, Except.ok.injEq] at settled
            exact .inr ⟨sub, by omega, found, by simpa using current, fits, settled.symm⟩

/-- `model/subscription.go::PostConsumeUserSubscriptionUsage`, without a window. -/
def postConsumeUserSubscriptionUsage (userSubscriptionId amountDelta countDelta now : Int)
    (db : Database) : Except PostConsumeError Database :=
  postConsumeUserSubscriptionDeltaForWindow userSubscriptionId amountDelta countDelta 0 0 now db

inductive RefundError where
  | requestIdEmpty
  | recordNotFound
  | postConsume (error : PostConsumeError)
  deriving DecidableEq, Repr

def refundSums (record : SubscriptionPreConsumeRecord) (sub : UserSubscription) : Int × Int :=
  if record.preConsumedAmount ≤ 0 ∧ record.preConsumedCount ≤ 0 ∧ record.preConsumed > 0 then
    if sub.resourceType = .requestCount then (record.preConsumedAmount, record.preConsumed)
    else (record.preConsumed, record.preConsumedCount)
  else (record.preConsumedAmount, record.preConsumedCount)

/-- `model/subscription.go::RefundSubscriptionPreConsume`. The sums are taken
back from the window that is current now. -/
def refundSubscriptionPreConsume (requestId : String) (now : Int) (db : Database) :
    Except RefundError Database :=
  if trimSpace requestId = "" then .error .requestIdEmpty
  else match db.record requestId with
  | none => .error .recordNotFound
  | some record =>
    if record.status = .refunded then .ok db
    else match db.subscription record.userSubscriptionId with
    | none => .error .recordNotFound
    | some sub =>
      let (amount, count) := refundSums record sub
      let refunded := { record with status := .refunded, updatedAt := now }
      if amount ≤ 0 ∧ count ≤ 0 then .ok (db.saveRecord refunded)
      else match postConsumeUserSubscriptionUsage record.userSubscriptionId (-amount) (-count)
          now db with
        | .ok db => .ok (db.saveRecord refunded)
        | .error error => .error (.postConsume error)

def isResetDue (now : Int) (sub : UserSubscription) : Bool :=
  sub.nextResetTime > 0 && sub.nextResetTime ≤ now

/-- The transaction of `ResetDueSubscriptions` for one subscription, which
reads the row again. -/
def resetDueSubscription (calendar : Calendar) (now : Int) (db : Database)
    (due : UserSubscription) : Database :=
  if (db.plan due.planId).isNone then db
  else match db.subscriptions.find? fun sub => sub.id = due.id && isResetDue now sub with
  | none => db
  | some locked => (openWindow calendar now db locked).1

/-- `model/subscription.go::ResetDueSubscriptions`. -/
def resetDueSubscriptions (calendar : Calendar) (limit : Nat) (now : Int) (db : Database) :
    Database :=
  let limit := if limit = 0 then 200 else limit
  let due := db.subscriptions.filter fun sub => isResetDue now sub && sub.status = .active
  let sorted := due.insertionSort fun first second => first.nextResetTime ≤ second.nextResetTime
  (sorted.take limit).foldl (resetDueSubscription calendar now) db

/-! ## The system -/

inductive Event where
  | create (userId planId : Int) (terms : PlanTerms) (source : Source) (now : Int)
  | preConsume (request : PreConsumeRequest) (now : Int)
  | settle (userSubscriptionId amountDelta countDelta windowStart windowEnd now : Int)
  | refund (requestId : String) (now : Int)
  | resetDue (limit : Nat) (now : Int)

def step (calendar : Calendar) (db : Database) : Event → Database
  | .create userId planId terms source now =>
    match createUserSubscriptionFromPlan calendar userId planId terms source now db with
    | .ok (db, _) => db
    | .error _ => db
  | .preConsume request now =>
    match preConsumeUserSubscriptionWithPreference calendar request now db with
    | .ok (db, _) => db
    | .error _ => db
  | .settle userSubscriptionId amountDelta countDelta windowStart windowEnd now =>
    match postConsumeUserSubscriptionDeltaForWindow userSubscriptionId amountDelta countDelta
        windowStart windowEnd now db with
    | .ok db => db
    | .error _ => db
  | .refund requestId now =>
    match refundSubscriptionPreConsume requestId now db with
    | .ok db => db
    | .error _ => db
  | .resetDue limit now => resetDueSubscriptions calendar limit now db

end NewApi.SubscriptionStore
