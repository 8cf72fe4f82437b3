import Mathlib.Tactic.Common
import NewApi.ResetWindow

/-! One subscription row and what the billing code computes from it: which
counters and limits apply, whether a request may be pre-consumed, what a
charge, a settlement delta and a due reset do to the row. Quotas and counts
are whole numbers. -/
namespace NewApi.Subscription
open NewApi.ResetWindow

/-- `SubscriptionResourceQuota` and `SubscriptionResourceRequestCount`, as
`NormalizeSubscriptionResourceType` leaves them. -/
inductive ResourceType where
  | quota
  | requestCount
  deriving DecidableEq, Repr

/-- The values of `UserSubscription.Status`. -/
inductive Status where
  | active
  | expired
  | cancelled
  deriving DecidableEq, Repr

/-- The values of `UserSubscription.Source`. -/
inductive Source where
  | order
  | admin
  | redemption
  | derivedDayPass
  deriving DecidableEq, Repr

/-- `model/subscription.go::UserSubscription`, with the defaults of a new row.
The three lists of allowed names are the decoded JSON columns. -/
structure UserSubscription where
  id : Int := 0
  userId : Int := 0
  planId : Int := 0
  parentUserSubscriptionId : Int := 0
  amountTotal : Int := 0
  amountUsed : Int := 0
  resourceType : ResourceType := .quota
  requestCountTotal : Int := 0
  requestCountUsed : Int := 0
  requestCountPeriodTotal : Int := 0
  requestCountPeriodUsed : Int := 0
  resetPeriod : ResetPeriod := .never
  resetCustomSeconds : Int := 0
  resetUseFixedClock : Bool := false
  resetFixedSeconds : Int := 0
  allowedGroups : List String := []
  allowedModels : List String := []
  allowedVendorIDs : List Int := []
  startTime : Int := 0
  endTime : Int := 0
  status : Status := .active
  source : Source := .order
  sourceOrderId : Int := 0
  sourceOrderTradeNo : String := ""
  lastResetTime : Int := 0
  nextResetTime : Int := 0
  upgradeGroup : String := ""
  prevUserGroup : String := ""
  aggregateEnabled : Bool := true
  specificChannelId : Int := 0
  specificChannelKeyIndex : Int := -1
  updatedAt : Int := 0
  deriving DecidableEq, Repr

/-- A write of the two window columns. -/
@[simps] def UserSubscription.moveWindow (sub : UserSubscription) (last next : Int) : UserSubscription :=
  { sub with lastResetTime := last, nextResetTime := next }

@[simp] theorem move_window_self (sub : UserSubscription) :
    sub.moveWindow sub.lastResetTime sub.nextResetTime = sub := rfl

/-- The `BeforeUpdate` hook of a save. -/
@[simps] def UserSubscription.touch (sub : UserSubscription) (now : Int) : UserSubscription :=
  { sub with updatedAt := now }

/-- A write of the three counters. -/
@[simps] def UserSubscription.setUsage (sub : UserSubscription) (amount count period : Int) :
    UserSubscription :=
  { sub with
    amountUsed := amount
    requestCountUsed := count
    requestCountPeriodUsed := period }

def resetRule (sub : UserSubscription) : ResetRule where
  quotaResetPeriod := sub.resetPeriod
  quotaResetCustomSeconds := sub.resetCustomSeconds
  quotaResetUseFixedClock := sub.resetUseFixedClock
  quotaResetFixedSeconds := sub.resetFixedSeconds

/-! ## Which limits apply -/

def hasSeparatePeriodRequestCounter (sub : UserSubscription) : Bool :=
  sub.resetPeriod ≠ .never && sub.requestCountPeriodTotal > 0

def hasLifetimeRequestCountLimit (sub : UserSubscription) : Bool :=
  sub.resourceType = .requestCount &&
    !(sub.resetPeriod ≠ .never && !hasSeparatePeriodRequestCounter sub) &&
    sub.requestCountTotal > 0

/-- `model/subscription.go::getSubscriptionRequestCountPeriodLimit`. Without a
period total the lifetime total bounds each period. -/
def getSubscriptionRequestCountPeriodLimit (sub : UserSubscription) : Int :=
  if sub.resourceType ≠ .requestCount then 0
  else if sub.resetPeriod = .never then 0
  else if sub.requestCountPeriodTotal ≤ 0 then sub.requestCountTotal
  else sub.requestCountPeriodTotal

def getCurrentRequestCountUsed (sub : UserSubscription) : Int :=
  if hasSeparatePeriodRequestCounter sub then sub.requestCountPeriodUsed
  else sub.requestCountUsed

def countsLifetime (sub : UserSubscription) : Bool :=
  hasLifetimeRequestCountLimit sub || !hasSeparatePeriodRequestCounter sub

theorem counts_lifetime_of_shared {sub : UserSubscription}
    (shared : hasSeparatePeriodRequestCounter sub = false) : countsLifetime sub = true := by
  simp [countsLifetime, shared]

section SameLimits
variable (sub : UserSubscription)

@[simp] theorem set_usage_separate (a c p : Int) :
    hasSeparatePeriodRequestCounter (sub.setUsage a c p) = hasSeparatePeriodRequestCounter sub :=
  rfl

@[simp] theorem set_usage_lifetime (a c p : Int) :
    hasLifetimeRequestCountLimit (sub.setUsage a c p) = hasLifetimeRequestCountLimit sub := rfl

@[simp] theorem set_usage_period (a c p : Int) :
    getSubscriptionRequestCountPeriodLimit (sub.setUsage a c p) =
      getSubscriptionRequestCountPeriodLimit sub := rfl

@[simp] theorem set_usage_counts (a c p : Int) :
    countsLifetime (sub.setUsage a c p) = countsLifetime sub := rfl

@[simp] theorem set_usage_twice (a c p a' c' p' : Int) :
    (sub.setUsage a c p).setUsage a' c' p' = sub.setUsage a' c' p' := rfl

@[simp] theorem set_usage_self :
    sub.setUsage sub.amountUsed sub.requestCountUsed sub.requestCountPeriodUsed = sub := rfl

@[simp] theorem touch_separate (now : Int) :
    hasSeparatePeriodRequestCounter (sub.touch now) = hasSeparatePeriodRequestCounter sub := rfl

@[simp] theorem touch_period (now : Int) :
    getSubscriptionRequestCountPeriodLimit (sub.touch now) =
      getSubscriptionRequestCountPeriodLimit sub := rfl

@[simp] theorem touch_current (now : Int) :
    getCurrentRequestCountUsed (sub.touch now) = getCurrentRequestCountUsed sub := rfl

end SameLimits

theorem has_separate_iff :
    hasSeparatePeriodRequestCounter sub = true ↔
      sub.resetPeriod ≠ .never ∧ 0 < sub.requestCountPeriodTotal := by
  simp [hasSeparatePeriodRequestCounter]

theorem has_lifetime_iff :
    hasLifetimeRequestCountLimit sub = true ↔
      sub.resourceType = .requestCount ∧
        (sub.resetPeriod = .never ∨ 0 < sub.requestCountPeriodTotal) ∧
        0 < sub.requestCountTotal := by
  by_cases never : sub.resetPeriod = .never <;>
    simp [hasLifetimeRequestCountLimit, hasSeparatePeriodRequestCounter, never, and_assoc]

/-! ## Reset windows -/

def getSubscriptionUsageWindowStart (sub : UserSubscription) : Int :=
  if sub.resetPeriod = .never then sub.startTime
  else if sub.lastResetTime > 0 then sub.lastResetTime
  else sub.startTime

def windowBase (sub : UserSubscription) : Int :=
  if sub.lastResetTime ≤ 0 then sub.startTime else sub.lastResetTime

/-- `model/subscription.go::recalculateSubscriptionResetWindow`. -/
def recalculateSubscriptionResetWindow (calendar : Calendar) (sub : UserSubscription)
    (now : Int) : UserSubscription :=
  if sub.resetPeriod = .never then sub.moveWindow 0 0
  else
    let base := advanceWindow calendar (resetRule sub) sub.endTime now
      (windowRounds (windowBase sub) now) (windowBase sub)
    sub.moveWindow base (calcNextResetTime calendar base (resetRule sub) sub.endTime)

/-- `model/subscription.go::getSubscriptionResetWindowForTimestamp`. -/
def getSubscriptionResetWindowForTimestamp (calendar : Calendar) (sub : UserSubscription)
    (timestamp : Int) : Int × Int :=
  if timestamp ≤ 0 then (0, 0)
  else if sub.resetPeriod = .never then (sub.startTime, 0)
  else
    let baseUnix := if sub.startTime ≤ 0 then sub.lastResetTime else sub.startTime
    if baseUnix ≤ 0 then (0, 0)
    else
      let windowStart := advanceWindow calendar (resetRule sub) sub.endTime timestamp
        (windowRounds baseUnix timestamp) baseUnix
      (windowStart, calcNextResetTime calendar windowStart (resetRule sub) sub.endTime)

def clearWindowUsage (sub : UserSubscription) : UserSubscription :=
  if hasSeparatePeriodRequestCounter sub then sub.setUsage 0 sub.requestCountUsed 0
  else sub.setUsage 0 0 sub.requestCountPeriodUsed

structure ResetResult where
  sub : UserSubscription
  saved : Bool
  deriving DecidableEq, Repr

/-- `model/subscription.go::maybeResetUserSubscriptionWithPlanTx`. A row whose
window did not advance keeps its counters; it is saved only when no window
follows any more. -/
def maybeResetUserSubscriptionWithPlan (calendar : Calendar) (sub : UserSubscription)
    (now : Int) : ResetResult :=
  if sub.nextResetTime > 0 ∧ sub.nextResetTime > now then ⟨sub, false⟩
  else if sub.resetPeriod = .never then ⟨sub, false⟩
  else
    let moved := recalculateSubscriptionResetWindow calendar sub now
    if moved.lastResetTime > windowBase sub ∧ moved.lastResetTime ≤ now then
      ⟨(clearWindowUsage moved).touch now, true⟩
    else if moved.nextResetTime = 0 ∧
        (moved.lastResetTime ≠ sub.lastResetTime ∨ moved.nextResetTime ≠ sub.nextResetTime) then
      ⟨moved.touch now, true⟩
    else ⟨moved, false⟩

theorem recalculate_moves_window (calendar : Calendar) (sub : UserSubscription) (now : Int) :
    ∃ last next, recalculateSubscriptionResetWindow calendar sub now = sub.moveWindow last next := by
  unfold recalculateSubscriptionResetWindow
  split
  · exact ⟨0, 0, rfl⟩
  · exact ⟨_, _, rfl⟩

def WindowOpen (sub : UserSubscription) (now : Int) : Prop :=
  sub.resetPeriod = .never ∨ (0 < sub.nextResetTime ∧ now < sub.nextResetTime)

instance (sub : UserSubscription) (now : Int) : Decidable (WindowOpen sub now) :=
  inferInstanceAs (Decidable (_ ∨ _))

theorem reset_window_open (calendar : Calendar)
    (isOpen : WindowOpen sub now) :
    maybeResetUserSubscriptionWithPlan calendar sub now = ⟨sub, false⟩ := by
  unfold maybeResetUserSubscriptionWithPlan
  rcases isOpen with never | running
  · simp only [if_pos never, ite_self]
  · rw [if_pos running]

theorem reset_cases (calendar : Calendar) (sub : UserSubscription) (now : Int) :
    ∃ last next,
      maybeResetUserSubscriptionWithPlan calendar sub now = ⟨sub.moveWindow last next, false⟩ ∨
        maybeResetUserSubscriptionWithPlan calendar sub now = ⟨(sub.moveWindow last next).touch now, true⟩ ∨
        maybeResetUserSubscriptionWithPlan calendar sub now =
          ⟨(clearWindowUsage (sub.moveWindow last next)).touch now, true⟩ := by
  by_cases isOpen : WindowOpen sub now
  · exact ⟨sub.lastResetTime, sub.nextResetTime, .inl (reset_window_open calendar isOpen)⟩
  obtain ⟨last, next, moved⟩ := recalculate_moves_window calendar sub now
  obtain ⟨resets, running⟩ := not_or.mp isOpen
  refine ⟨last, next, ?_⟩
  generalize reset : maybeResetUserSubscriptionWithPlan calendar sub now = result
  unfold maybeResetUserSubscriptionWithPlan at reset
  rw [if_neg running, if_neg resets, moved] at reset
  dsimp only at reset
  split at reset
  · exact .inr (.inr reset.symm)
  · split at reset
    · exact .inr (.inl reset.symm)
    · exact .inl reset.symm

theorem reset_id (calendar : Calendar) (sub : UserSubscription) (now : Int) :
    (maybeResetUserSubscriptionWithPlan calendar sub now).sub.id = sub.id := by
  obtain ⟨last, next, reset | reset | reset⟩ := reset_cases calendar sub now <;> rw [reset]
  · rfl
  · rfl
  · show (clearWindowUsage (sub.moveWindow last next)).id = sub.id
    unfold clearWindowUsage
    split <;> rfl

/-! ## Pre-consumption -/

structure Eligibility where
  eligible : Bool
  requiredAmount : Int
  requiredCount : Int
  resourceType : ResourceType
  deriving DecidableEq, Repr

/-- `model/subscription.go::isUserSubscriptionEligibleForPreConsume`. -/
def isUserSubscriptionEligibleForPreConsume (sub : UserSubscription) (amount : Int) :
    Eligibility :=
  let requiredAmount := if sub.amountTotal > 0 then amount else 0
  if sub.amountTotal > 0 ∧ sub.amountTotal - sub.amountUsed < requiredAmount then
    ⟨false, requiredAmount, 0, sub.resourceType⟩
  else
    let lifetimeCount := if hasLifetimeRequestCountLimit sub then 1 else 0
    if hasLifetimeRequestCountLimit sub ∧
        sub.requestCountTotal - sub.requestCountUsed < lifetimeCount then
      ⟨false, requiredAmount, lifetimeCount, sub.resourceType⟩
    else
      let periodLimit := getSubscriptionRequestCountPeriodLimit sub
      let requiredCount := if periodLimit > 0 then 1 else lifetimeCount
      if periodLimit > 0 ∧ periodLimit - getCurrentRequestCountUsed sub < requiredCount then
        ⟨false, requiredAmount, requiredCount, sub.resourceType⟩
      else ⟨true, requiredAmount, requiredCount, sub.resourceType⟩

theorem eligible_room
    (eligible : (isUserSubscriptionEligibleForPreConsume sub amount).eligible = true) :
    isUserSubscriptionEligibleForPreConsume sub amount =
        ⟨true, if sub.amountTotal > 0 then amount else 0,
          if hasLifetimeRequestCountLimit sub ∨ 0 < getSubscriptionRequestCountPeriodLimit sub
            then 1 else 0, sub.resourceType⟩ ∧
      (0 < sub.amountTotal → sub.amountUsed + amount ≤ sub.amountTotal) ∧
      (hasLifetimeRequestCountLimit sub = true → sub.requestCountUsed < sub.requestCountTotal) ∧
      (0 < getSubscriptionRequestCountPeriodLimit sub →
        getCurrentRequestCountUsed sub < getSubscriptionRequestCountPeriodLimit sub) := by
  unfold isUserSubscriptionEligibleForPreConsume at eligible ⊢
  by_cases lifetime : hasLifetimeRequestCountLimit sub = true <;>
    by_cases limited : 0 < getSubscriptionRequestCountPeriodLimit sub <;>
    by_cases capped : 0 < sub.amountTotal <;>
    simp only [lifetime, limited, capped, if_true, if_false, true_and, false_and, or_true,
      or_false, Bool.false_eq_true] at eligible ⊢ <;>
    grind

/-- The counters that `applyUserSubscriptionPreConsumeTx` adds to the row. -/
def addPreConsumed (sub : UserSubscription) (requiredAmount requiredCount : Int) :
    UserSubscription :=
  sub.setUsage
    (if requiredAmount > 0 then sub.amountUsed + requiredAmount else sub.amountUsed)
    (if requiredCount > 0 ∧ countsLifetime sub then sub.requestCountUsed + requiredCount
      else sub.requestCountUsed)
    (if requiredCount > 0 ∧ hasSeparatePeriodRequestCounter sub then
        sub.requestCountPeriodUsed + requiredCount
      else sub.requestCountPeriodUsed)

/-! ## Settlement deltas -/

/-- The errors of `postConsumeUserSubscriptionDeltaDetailedForWindowTx`. -/
inductive PostConsumeError where
  | invalidUserSubscriptionId
  | recordNotFound
  | requestCountExceedsTotal (used total : Int)
  | requestCountExceedsPeriodLimit (used total : Int)
  | usedExceedsTotal (used total : Int)
  deriving DecidableEq, Repr

def PostConsumeError.text : PostConsumeError → String
  | .invalidUserSubscriptionId => "invalid userSubscriptionId"
  | .recordNotFound => "record not found"
  | .requestCountExceedsTotal used total =>
    s!"subscription request count exceeds total, used={used} total={total}"
  | .requestCountExceedsPeriodLimit used total =>
    s!"subscription request count exceeds period limit, used={used} total={total}"
  | .usedExceedsTotal used total => s!"subscription used exceeds total, used={used} total={total}"

def applyDelta (used delta : Int) : Int := max 0 (used + delta)

def settleLifetimeCount (sub : UserSubscription) (countDelta : Int) :
    Except PostConsumeError UserSubscription :=
  if countsLifetime sub then
    let newCountUsed := applyDelta sub.requestCountUsed countDelta
    if hasLifetimeRequestCountLimit sub ∧ newCountUsed > sub.requestCountTotal then
      .error (.requestCountExceedsTotal newCountUsed sub.requestCountTotal)
    else .ok (sub.setUsage sub.amountUsed newCountUsed sub.requestCountPeriodUsed)
  else .ok sub

def settlePeriodCount (sub : UserSubscription) (countDelta : Int) :
    Except PostConsumeError UserSubscription :=
  if hasSeparatePeriodRequestCounter sub ∨ sub.requestCountPeriodUsed > 0 then
    let newPeriodCountUsed := applyDelta sub.requestCountPeriodUsed countDelta
    let periodLimit := getSubscriptionRequestCountPeriodLimit sub
    if periodLimit > 0 ∧ newPeriodCountUsed > periodLimit then
      .error (.requestCountExceedsPeriodLimit newPeriodCountUsed periodLimit)
    else .ok (sub.setUsage sub.amountUsed sub.requestCountUsed newPeriodCountUsed)
  else .ok sub

def settleAmount (sub : UserSubscription) (amountDelta : Int) : Except PostConsumeError UserSubscription :=
  let newAmountUsed := applyDelta sub.amountUsed amountDelta
  if sub.amountTotal > 0 ∧ newAmountUsed > sub.amountTotal then
    .error (.usedExceedsTotal newAmountUsed sub.amountTotal)
  else .ok (sub.setUsage newAmountUsed sub.requestCountUsed sub.requestCountPeriodUsed)

def settleCount (sub : UserSubscription) (countDelta : Int) : Except PostConsumeError UserSubscription :=
  if countDelta ≠ 0 then
    settleLifetimeCount sub countDelta >>= fun sub => settlePeriodCount sub countDelta
  else .ok sub

/-- What `postConsumeUserSubscriptionDeltaDetailedForWindowTx` does to the row
it read, before the save. -/
def settleRow (sub : UserSubscription) (amountDelta countDelta : Int) :
    Except PostConsumeError UserSubscription :=
  settleCount sub countDelta >>= fun sub =>
    if amountDelta ≠ 0 then settleAmount sub amountDelta else .ok sub

def settledRow (sub : UserSubscription) (amountDelta countDelta : Int) : UserSubscription :=
  sub.setUsage
    (if amountDelta ≠ 0 then applyDelta sub.amountUsed amountDelta else sub.amountUsed)
    (if countDelta ≠ 0 ∧ countsLifetime sub then applyDelta sub.requestCountUsed countDelta
      else sub.requestCountUsed)
    (if countDelta ≠ 0 ∧ (hasSeparatePeriodRequestCounter sub ∨ sub.requestCountPeriodUsed > 0)
      then applyDelta sub.requestCountPeriodUsed countDelta
      else sub.requestCountPeriodUsed)

structure SettlementFits (sub : UserSubscription) (amountDelta countDelta : Int) : Prop where
  lifetime : countDelta ≠ 0 → hasLifetimeRequestCountLimit sub = true →
    applyDelta sub.requestCountUsed countDelta ≤ sub.requestCountTotal
  period : countDelta ≠ 0 →
    hasSeparatePeriodRequestCounter sub = true ∨ sub.requestCountPeriodUsed > 0 →
    0 < getSubscriptionRequestCountPeriodLimit sub →
    applyDelta sub.requestCountPeriodUsed countDelta ≤ getSubscriptionRequestCountPeriodLimit sub
  amount : amountDelta ≠ 0 → 0 < sub.amountTotal → applyDelta sub.amountUsed amountDelta ≤ sub.amountTotal

private theorem settle_lifetime_ok_iff :
    settleLifetimeCount sub countDelta = .ok after ↔
      after = sub.setUsage sub.amountUsed
          (if countsLifetime sub then applyDelta sub.requestCountUsed countDelta
            else sub.requestCountUsed) sub.requestCountPeriodUsed ∧
        (hasLifetimeRequestCountLimit sub = true →
          applyDelta sub.requestCountUsed countDelta ≤ sub.requestCountTotal) := by
  unfold settleLifetimeCount
  by_cases counts : countsLifetime sub = true
  · by_cases exceeds : hasLifetimeRequestCountLimit sub = true ∧
        applyDelta sub.requestCountUsed countDelta > sub.requestCountTotal
    · simp [counts, exceeds.1, exceeds.2]
    · have fits : hasLifetimeRequestCountLimit sub = true →
          applyDelta sub.requestCountUsed countDelta ≤ sub.requestCountTotal :=
        fun lifetime => Int.not_lt.mp fun more => exceeds ⟨lifetime, more⟩
      simp only [if_pos counts, if_neg exceeds, Except.ok.injEq]
      exact ⟨fun same => ⟨same.symm, fits⟩, fun same => same.1.symm⟩
  · have unlimited : hasLifetimeRequestCountLimit sub = false := by
      by_contra limited
      exact counts (by simp [countsLifetime, limited])
    simp only [counts, unlimited, set_usage_self, if_false, Except.ok.injEq, Bool.false_eq_true,
      false_implies, and_true]
    exact eq_comm

private theorem settle_period_ok_iff :
    settlePeriodCount sub countDelta = .ok after ↔
      after = sub.setUsage sub.amountUsed sub.requestCountUsed
          (if hasSeparatePeriodRequestCounter sub ∨ sub.requestCountPeriodUsed > 0 then
            applyDelta sub.requestCountPeriodUsed countDelta else sub.requestCountPeriodUsed) ∧
        (hasSeparatePeriodRequestCounter sub = true ∨ sub.requestCountPeriodUsed > 0 →
          0 < getSubscriptionRequestCountPeriodLimit sub →
          applyDelta sub.requestCountPeriodUsed countDelta ≤
            getSubscriptionRequestCountPeriodLimit sub) := by
  unfold settlePeriodCount
  by_cases counts : hasSeparatePeriodRequestCounter sub = true ∨ sub.requestCountPeriodUsed > 0
  · by_cases exceeds : getSubscriptionRequestCountPeriodLimit sub > 0 ∧
        applyDelta sub.requestCountPeriodUsed countDelta > getSubscriptionRequestCountPeriodLimit sub
    · simp only [if_pos counts, if_pos exceeds]
      refine ⟨fun impossible => (nomatch impossible), fun fits => ?_⟩
      exact absurd (fits.2 counts exceeds.1) (Int.not_le.mpr exceeds.2)
    · simp only [if_pos counts, if_neg exceeds, Except.ok.injEq]
      exact ⟨fun same => ⟨same.symm, fun _ limited => Int.not_lt.mp fun more =>
        exceeds ⟨limited, more⟩⟩, fun same => same.1.symm⟩
  · rw [if_neg counts, if_neg counts, set_usage_self, Except.ok.injEq]
    exact ⟨fun same => ⟨same.symm, fun active => absurd active counts⟩, fun same => same.1.symm⟩

private theorem settle_amount_ok_iff :
    settleAmount sub amountDelta = .ok after ↔
      after = sub.setUsage (applyDelta sub.amountUsed amountDelta) sub.requestCountUsed
          sub.requestCountPeriodUsed ∧
        (0 < sub.amountTotal → applyDelta sub.amountUsed amountDelta ≤ sub.amountTotal) := by
  unfold settleAmount
  by_cases exceeds : sub.amountTotal > 0 ∧ applyDelta sub.amountUsed amountDelta > sub.amountTotal
  · simp [exceeds.1, exceeds.2]
  · simp only [if_neg exceeds, Except.ok.injEq]
    exact ⟨fun same => ⟨same.symm, fun capped => Int.not_lt.mp fun more => exceeds ⟨capped, more⟩⟩,
      fun same => same.1.symm⟩

theorem except_bind_ok_iff {Error Value Result : Type} {first : Except Error Value}
    {next : Value → Except Error Result} {result : Result} :
    (first >>= next) = .ok result ↔ ∃ value, first = .ok value ∧ next value = .ok result := by
  cases first with
  | error | ok => simp [bind, Except.bind]

private theorem settle_count_ok_iff {sub after : UserSubscription} :
    settleCount sub countDelta = .ok after ↔
      after = settledRow sub 0 countDelta ∧ SettlementFits sub 0 countDelta := by
  unfold settleCount
  by_cases moved : countDelta = 0
  · simp only [moved, ne_eq, not_true, if_false, Except.ok.injEq, settledRow, false_and,
      set_usage_self]
    exact ⟨fun same => ⟨same.symm, by constructor <;> simp⟩, fun same => same.1.symm⟩
  · simp only [ne_eq, moved, not_false_eq_true, if_true, except_bind_ok_iff,
      settle_lifetime_ok_iff, settle_period_ok_iff, settledRow]
    constructor
    · rintro ⟨_, ⟨rfl, lifetime⟩, rfl, period⟩
      exact ⟨by simp, ⟨fun _ => lifetime, fun _ => period, by simp⟩⟩
    · rintro ⟨rfl, fits⟩
      exact ⟨_, ⟨rfl, fits.lifetime moved⟩, by simp, fits.period moved⟩

theorem settle_row_ok_iff {sub after : UserSubscription} :
    settleRow sub amountDelta countDelta = .ok after ↔
      after = settledRow sub amountDelta countDelta ∧ SettlementFits sub amountDelta countDelta := by
  simp only [settleRow, except_bind_ok_iff, settle_count_ok_iff]
  by_cases moved : amountDelta = 0
  · subst moved
    simp only [ne_eq, not_true, if_false, Except.ok.injEq]
    exact ⟨by rintro ⟨_, shape, rfl⟩; exact shape, fun shape => ⟨_, shape, rfl⟩⟩
  · simp only [ne_eq, moved, not_false_eq_true, if_true, settle_amount_ok_iff]
    constructor
    · rintro ⟨_, ⟨rfl, fits⟩, rfl, amount⟩
      exact ⟨by simp [settledRow, moved], ⟨fits.lifetime, fits.period, fun _ => amount⟩⟩
    · rintro ⟨rfl, fits⟩
      exact ⟨_, ⟨rfl, ⟨fits.lifetime, fits.period, by simp⟩⟩, by simp [settledRow, moved],
        fits.amount moved⟩

def leftWindow (sub : UserSubscription) (windowStart windowEnd : Int) : Bool :=
  (windowStart > 0 && sub.lastResetTime > windowStart) || (windowEnd > 0 && sub.lastResetTime ≥ windowEnd)

end NewApi.Subscription
