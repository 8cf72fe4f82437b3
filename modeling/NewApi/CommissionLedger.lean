import Mathlib.Data.Rat.Floor
import NewApi.OrderCompletion

/-! Commissions that an inviter earns on the paid orders of invited users. Each
paid order leaves at most one row, and the history of an inviter is the sum of
the rows that were granted, at once or by a review. -/
namespace NewApi.CommissionLedger
open NewApi.GuardedRun NewApi.KeyedTable
open NewApi.GoText (trimSpace)
open NewApi.SubscriptionStore (DeliveryMode)
open NewApi.OrderCompletion (PaymentStatus SubscriptionOrder paymentGateway)

/-! ## Rows -/

inductive SourceType where
  | topUp
  | subscriptionOrder
  deriving DecidableEq, Repr

inductive Status where
  | granted
  | pending
  | skipped
  | rejected
  | reversed
  deriving DecidableEq, Repr

/-- `model/affiliate_commission.go::AffiliateCommission`; the source is a unique
index. -/
structure AffiliateCommission where
  id : Int := 0
  inviterId : Int := 0
  inviteeId : Int
  sourceType : SourceType
  sourceId : Int
  sourceTradeNo : String := ""
  paymentProvider : String := ""
  paymentMethod : String := ""
  orderMoney : Rat := 0
  rate : Rat := 0
  settlementType : String := "quota"
  commissionQuota : Int := 0
  status : Status := .skipped
  reason : String := ""
  withdrawalStatus : String := "not_available"
  createdAt : Int := 0
  updatedAt : Int := 0
  deriving DecidableEq, Repr

/-- The columns of `model/user.go::User` that payments and commissions touch. A
deleted user keeps the row, and no query finds it. -/
structure User where
  id : Int
  inviterId : Int := 0
  quota : Int := 0
  email : String := ""
  stripeCustomer : String := ""
  affQuota : Int := 0
  affHistoryQuota : Int := 0
  affiliateCommissionRate : Rat := -1
  deleted : Bool := false
  deriving DecidableEq, Repr

/-- `model/topup.go::TopUp`. -/
structure TopUp where
  id : Int
  userId : Int
  amount : Int := 0
  money : Rat := 0
  tradeNo : String
  paymentMethod : String := ""
  paymentProvider : String := ""
  createTime : Int := 0
  completeTime : Int := 0
  status : PaymentStatus := .pending
  deriving DecidableEq, Repr

/-- The `AffiliateCommission` options of `common/constants.go`, and the quota
of one unit of money. -/
structure Settings where
  enabled : Bool := true
  settlementMode : String := "quota"
  includeTopup : Bool := true
  includeSubscription : Bool := true
  scope : String := "all_paid_orders"
  minOrderMoney : Rat := 0
  autoGrant : Bool := true
  defaultRate : Rat := 0
  maxQuotaPerOrder : Int := 0
  quotaPerUnit : Rat := 500000
  deriving DecidableEq, Repr

structure Credit where
  commissionId : Int
  inviterId : Int
  quota : Int
  deriving DecidableEq, Repr

/-- The two tables, and in `credits` what was ever added to a history. -/
structure Ledger where
  users : List User := []
  commissions : List AffiliateCommission := []
  nextId : Int := 1
  credits : List Credit := []
  deriving DecidableEq, Repr

def Ledger.user (ledger : Ledger) (id : Int) : Option User :=
  (lookup User.id ledger.users id).filter fun user => !user.deleted

def Ledger.commission (ledger : Ledger) (id : Int) : Option AffiliateCommission :=
  lookup AffiliateCommission.id ledger.commissions id

inductive CommissionError where
  | recordNotFound
  | duplicatedKey
  | invalidId
  | notPending
  | cannotBeApproved
  deriving DecidableEq, Repr

/-! ## Grants -/

/-- `affiliateCommissionSource`. -/
structure Source where
  sourceType : SourceType
  sourceId : Int
  inviteeId : Int
  tradeNo : String := ""
  paymentProvider : String := ""
  paymentMethod : String := ""
  orderMoney : Rat := 0
  manualDelivery : Bool := false
  deriving DecidableEq, Repr

/-- `ResolveAffiliateCommissionRate`. -/
def resolveAffiliateCommissionRate (settings : Settings) (inviter : User) : Rat :=
  if inviter.affiliateCommissionRate ≥ 0 then inviter.affiliateCommissionRate
  else settings.defaultRate

def isFrom (sourceType : SourceType) (sourceId : Int) (commission : AffiliateCommission) : Bool :=
  commission.sourceType = sourceType && commission.sourceId = sourceId

def countsAsPaid (inviteeId : Int) (commission : AffiliateCommission) : Bool :=
  commission.inviteeId = inviteeId && decide (commission.status ∈ [Status.granted, .pending, .rejected])

/-- `resolveAffiliateCommissionSkipReason`. A failing count leaves no reason. -/
def resolveAffiliateCommissionSkipReason (settings : Settings) (source : Source) (inviteeId : Int)
    (countFails : Bool) (ledger : Ledger) : String :=
  if settings.enabled = false then "commission_disabled"
  else if settings.settlementMode ≠ "quota" then "settlement_mode_unsupported"
  else if source.sourceType = .topUp ∧ settings.includeTopup = false then "topup_excluded"
  else if source.sourceType = .subscriptionOrder ∧ settings.includeSubscription = false then
    "subscription_excluded"
  else if source.sourceType = .subscriptionOrder ∧ source.manualDelivery = true then
    "manual_delivery_excluded"
  else if settings.scope = "first_paid_order" ∧ inviteeId > 0 ∧ countFails = true then ""
  else if settings.scope = "first_paid_order" ∧ inviteeId > 0 ∧
      ledger.commissions.countP (countsAsPaid inviteeId) > 0 then "first_paid_order_only"
  else if settings.minOrderMoney > 0 ∧ source.orderMoney < settings.minOrderMoney then
    "below_min_order_money"
  else ""

def calculateAffiliateCommissionQuota (settings : Settings) (orderMoney rate : Rat) : Int :=
  if orderMoney ≤ 0 ∨ rate ≤ 0 ∨ settings.quotaPerUnit ≤ 0 then 0
  else (orderMoney * rate / 100 * settings.quotaPerUnit).floor

/-- The row as `tx.Create` writes it, with `BeforeCreate`. -/
def stored (ledger : Ledger) (now : Int) (commission : AffiliateCommission) : AffiliateCommission :=
  { commission with id := ledger.nextId, createdAt := now, updatedAt := now }

/-- `tx.Create` of a row. -/
def insertCommission (commission : AffiliateCommission) (now : Int) (ledger : Ledger) :
    Except CommissionError Ledger :=
  if ledger.commissions.any (isFrom commission.sourceType commission.sourceId) then
    .error .duplicatedKey
  else .ok { ledger with
    commissions := ledger.commissions ++ [stored ledger now commission]
    nextId := ledger.nextId + 1 }

def creditRow (quota : Int) (user : User) : User :=
  if user.deleted then user
  else { user with
    affQuota := user.affQuota + quota
    affHistoryQuota := user.affHistoryQuota + quota }

def creditInviter (credit : Credit) (ledger : Ledger) : Ledger :=
  { ledger with
    users := update User.id ledger.users credit.inviterId (creditRow credit.quota)
    credits := ledger.credits ++ [credit] }

def skippedCommission (source : Source) : AffiliateCommission where
  inviteeId := source.inviteeId
  sourceType := source.sourceType
  sourceId := source.sourceId
  sourceTradeNo := trimSpace source.tradeNo
  paymentProvider := trimSpace source.paymentProvider
  paymentMethod := trimSpace source.paymentMethod
  orderMoney := source.orderMoney

def cappedQuota (settings : Settings) (orderMoney rate : Rat) : Int :=
  let quota := calculateAffiliateCommissionQuota settings orderMoney rate
  if settings.maxQuotaPerOrder > 0 ∧ quota > settings.maxQuotaPerOrder then
    settings.maxQuotaPerOrder
  else quota

def skipReason (settings : Settings) (source : Source) (inviter : User) (countFails : Bool)
    (ledger : Ledger) : String :=
  let reason := resolveAffiliateCommissionSkipReason settings source source.inviteeId countFails
    ledger
  let rate := resolveAffiliateCommissionRate settings inviter
  if reason ≠ "" then reason
  else if rate ≤ 0 then "rate_zero"
  else if cappedQuota settings source.orderMoney rate ≤ 0 then "commission_quota_zero"
  else ""

/-- `grantAffiliateCommissionTx`. `countFails` is an error of the count of
earlier commissions. -/
def grantAffiliateCommission (settings : Settings) (source : Source) (countFails : Bool)
    (now : Int) (ledger : Ledger) : Except CommissionError Ledger :=
  if source.sourceId ≤ 0 ∨ source.inviteeId ≤ 0 then .ok ledger
  else if ledger.commissions.any (isFrom source.sourceType source.sourceId) then .ok ledger
  else match ledger.user source.inviteeId with
  | none => .error .recordNotFound
  | some invitee =>
    if invitee.inviterId ≤ 0 then
      insertCommission { skippedCommission source with reason := "no_inviter" } now ledger
    else match ledger.user invitee.inviterId with
    | none =>
      insertCommission { skippedCommission source with
        inviterId := invitee.inviterId, reason := "inviter_not_found" } now ledger
    | some inviter =>
      let rate := resolveAffiliateCommissionRate settings inviter
      let commission := { skippedCommission source with inviterId := invitee.inviterId, rate := rate }
      let reason := skipReason settings source inviter countFails ledger
      let quota := cappedQuota settings source.orderMoney rate
      if reason ≠ "" then insertCommission { commission with reason := reason } now ledger
      else if settings.autoGrant = false then
        insertCommission { commission with commissionQuota := quota, status := .pending } now ledger
      else
        (insertCommission { commission with commissionQuota := quota, status := .granted } now
          ledger).map (creditInviter ⟨ledger.nextId, invitee.inviterId, quota⟩)

def sourceOfTopUp (topUp : TopUp) : Source where
  sourceType := .topUp
  sourceId := topUp.id
  inviteeId := topUp.userId
  tradeNo := topUp.tradeNo
  paymentProvider := paymentGateway topUp.paymentProvider topUp.paymentMethod
  paymentMethod := trimSpace topUp.paymentMethod
  orderMoney := topUp.money

/-- The order's `Money` is a column that the order's model leaves out. -/
def sourceOfSubscriptionOrder (order : SubscriptionOrder) (money : Rat) : Source where
  sourceType := .subscriptionOrder
  sourceId := order.id
  inviteeId := order.userId
  tradeNo := order.tradeNo
  paymentProvider := paymentGateway order.paymentProvider order.paymentMethod
  paymentMethod := trimSpace order.paymentMethod
  orderMoney := money
  manualDelivery := order.terms.deliveryMode = .manualDelivery

/-- `GrantAffiliateCommissionForTopUpTx`. -/
def grantAffiliateCommissionForTopUp (settings : Settings) (topUp : TopUp) (countFails : Bool)
    (now : Int) (ledger : Ledger) : Except CommissionError Ledger :=
  if topUp.id ≤ 0 then .ok ledger
  else grantAffiliateCommission settings (sourceOfTopUp topUp) countFails now ledger

/-- `GrantAffiliateCommissionForSubscriptionOrderTx`. -/
def grantAffiliateCommissionForSubscriptionOrder (settings : Settings) (order : SubscriptionOrder)
    (money : Rat) (countFails : Bool) (now : Int) (ledger : Ledger) :
    Except CommissionError Ledger :=
  if order.id ≤ 0 then .ok ledger
  else grantAffiliateCommission settings (sourceOfSubscriptionOrder order money) countFails now
    ledger

/-! ## Reviews -/

/-- `UPDATE ... WHERE id = ? AND status = 'pending'` of the verdict. -/
def AffiliateCommission.judge (status : Status) (reason : String) (now : Int)
    (commission : AffiliateCommission) : AffiliateCommission :=
  if commission.status = .pending then
    { commission with status := status, reason := reason, updatedAt := now }
  else commission

def Ledger.judge (ledger : Ledger) (id : Int) (status : Status) (reason : String) (now : Int) :
    Ledger :=
  { ledger with
    commissions := update AffiliateCommission.id ledger.commissions id
      (AffiliateCommission.judge status reason now) }

/-- `ApproveAffiliateCommission`, one transaction. -/
def approveAffiliateCommission (id now : Int) (ledger : Ledger) : Except CommissionError Ledger :=
  if id ≤ 0 then .error .invalidId
  else match ledger.commission id with
  | none => .error .recordNotFound
  | some commission =>
    if commission.status ≠ .pending then .error .notPending
    else if commission.inviterId ≤ 0 ∨ commission.commissionQuota ≤ 0 then
      .error .cannotBeApproved
    else match ledger.user commission.inviterId with
    | none => .error .recordNotFound
    | some inviter =>
      .ok (creditInviter ⟨id, inviter.id, commission.commissionQuota⟩ (ledger.judge id .granted "" now))

/-- `RejectAffiliateCommission`, one transaction. -/
def rejectAffiliateCommission (id : Int) (reason : String) (now : Int) (ledger : Ledger) :
    Except CommissionError Ledger :=
  if id ≤ 0 then .error .invalidId
  else match ledger.commission id with
  | none => .error .recordNotFound
  | some commission =>
    if commission.status ≠ .pending then .error .notPending
    else .ok (ledger.judge id .rejected
      (if trimSpace reason = "" then "admin_rejected" else trimSpace reason) now)

/-! ## Runs -/

inductive Event where
  | topUpPaid (settings : Settings) (topUp : TopUp) (countFails : Bool) (now : Int)
  | orderPaid (settings : Settings) (order : SubscriptionOrder) (money : Rat) (countFails : Bool)
      (now : Int)
  | approve (id now : Int)
  | reject (id : Int) (reason : String) (now : Int)

def apply (ledger : Ledger) : Event → Except CommissionError Ledger
  | .topUpPaid settings topUp countFails now =>
    grantAffiliateCommissionForTopUp settings topUp countFails now ledger
  | .orderPaid settings order money countFails now =>
    grantAffiliateCommissionForSubscriptionOrder settings order money countFails now ledger
  | .approve id now => approveAffiliateCommission id now ledger
  | .reject id reason now => rejectAffiliateCommission id reason now ledger

def step (ledger : Ledger) (event : Event) : Ledger :=
  match apply ledger event with
  | .ok after => after
  | .error _ => ledger

def opening (users : List User) : Ledger where
  users := users

/-! ## What one step does -/

section Steps
variable {settings : Settings} {source : Source} {countFails : Bool} {now id : Int}
variable {ledger after : Ledger} {commission : AffiliateCommission} {reason : String}

structure NewCommission (settings : Settings) (source : Source) (countFails : Bool)
    (ledger : Ledger) (commission : AffiliateCommission) : Prop where
  id : commission.id = ledger.nextId
  invitee : commission.inviteeId = source.inviteeId
  given : 0 < source.inviteeId
  fresh : ∀ old ∈ ledger.commissions,
    (old.sourceType, old.sourceId) ≠ (commission.sourceType, commission.sourceId)
  status : commission.status = .skipped ∨ (commission.status = .pending ∨
    commission.status = .granted) ∧ resolveAffiliateCommissionSkipReason settings source
      source.inviteeId countFails ledger = ""
  inviter : commission.status = .granted → ∃ inviter, ledger.user commission.inviterId = some inviter

def Ledger.add (ledger : Ledger) (commission : AffiliateCommission) : Ledger :=
  { ledger with
    commissions := ledger.commissions ++ [commission]
    nextId := ledger.nextId + 1 }

def creditOf (commission : AffiliateCommission) : Credit :=
  ⟨commission.id, commission.inviterId, commission.commissionQuota⟩

theorem insert_commission_ok (inserted : insertCommission commission now ledger = .ok after) :
    (∀ old ∈ ledger.commissions,
      (old.sourceType, old.sourceId) ≠ (commission.sourceType, commission.sourceId)) ∧
      after = ledger.add (stored ledger now commission) := by
  unfold insertCommission at inserted
  split at inserted
  · cases inserted
  · rename_i absent
    cases inserted
    refine ⟨fun old member same => absent ?_, rfl⟩
    rw [List.any_eq_true]
    exact ⟨old, member, by simpa [isFrom] using same⟩

theorem skip_reason_empty
    (none_given : skipReason settings source inviter countFails ledger = "") :
    resolveAffiliateCommissionSkipReason settings source source.inviteeId countFails ledger = "" := by
  unfold skipReason at none_given
  dsimp only at none_given
  split at none_given
  · exact none_given
  · rename_i empty
    exact not_not.mp empty

theorem inserted_is_new (given : 0 < source.inviteeId) (invitee : commission.inviteeId = source.inviteeId)
    (status : commission.status = .skipped ∨ (commission.status = .pending ∨
      commission.status = .granted) ∧ resolveAffiliateCommissionSkipReason settings source
        source.inviteeId countFails ledger = "")
    (inviter : commission.status = .granted → ∃ inviter, ledger.user commission.inviterId = some inviter)
    (inserted : insertCommission commission now ledger = .ok after) :
    ∃ row, row.status = commission.status ∧ creditOf row = ⟨ledger.nextId, commission.inviterId,
        commission.commissionQuota⟩ ∧
      NewCommission settings source countFails ledger row ∧ after = ledger.add row := by
  obtain ⟨fresh, added⟩ := insert_commission_ok inserted
  exact ⟨stored ledger now commission, rfl, rfl, ⟨rfl, invitee, given, fresh, status, inviter⟩, added⟩

theorem grant_cases (granted : grantAffiliateCommission settings source countFails now ledger = .ok after) :
    after = ledger ∨ ∃ commission, NewCommission settings source countFails ledger commission ∧
      (commission.status ≠ .granted ∧ after = ledger.add commission ∨
        commission.status = .granted ∧
          after = creditInviter (creditOf commission) (ledger.add commission)) := by
  unfold grantAffiliateCommission at granted
  split at granted
  · cases granted
    exact .inl rfl
  rename_i sane
  have given : 0 < source.inviteeId := by omega
  have skipped : ∀ {row : AffiliateCommission} {after : Ledger}, row.inviteeId = source.inviteeId →
      row.status = .skipped → insertCommission row now ledger = .ok after →
      ∃ commission, NewCommission settings source countFails ledger commission ∧
        (commission.status ≠ .granted ∧ after = ledger.add commission ∨
          commission.status = .granted ∧
            after = creditInviter (creditOf commission) (ledger.add commission)) := by
    intro row after invitee status inserted
    have other : row.status ≠ .granted := by simp [status]
    obtain ⟨added, same, -, fresh, table⟩ := inserted_is_new given invitee (.inl status)
      (fun granted => absurd granted other) inserted
    exact ⟨added, fresh, .inl ⟨by simp [same, status], table⟩⟩
  split at granted
  · cases granted
    exact .inl rfl
  · right
    cases known : ledger.user source.inviteeId with
    | none =>
      rw [known] at granted
      cases granted
    | some invitee =>
      simp only [known] at granted
      split at granted
      · exact skipped rfl rfl granted
      · cases found : ledger.user invitee.inviterId with
        | none =>
          simp only [found] at granted
          exact skipped rfl rfl granted
        | some inviter =>
          simp only [found] at granted
          split at granted
          · exact skipped rfl rfl granted
          · rename_i reason
            have free := skip_reason_empty (not_not.mp reason)
            split at granted
            · obtain ⟨row, status, -, fresh, table⟩ := inserted_is_new given rfl
                (.inr ⟨.inl rfl, free⟩) (fun granted => by cases granted) granted
              exact ⟨row, fresh, .inl ⟨by simp [status], table⟩⟩
            · cases inserted : insertCommission _ now ledger with
              | error error =>
                rw [inserted] at granted
                cases granted
              | ok middle =>
                rw [inserted] at granted
                cases granted
                obtain ⟨row, status, credit, fresh, table⟩ := inserted_is_new given rfl
                  (.inr ⟨.inr rfl, free⟩) (fun _ => ⟨inviter, found⟩) inserted
                exact ⟨row, fresh, .inr ⟨status, by rw [credit, table]⟩⟩

theorem approve_cases (approved : approveAffiliateCommission id now ledger = .ok after) :
    ∃ commission inviter, ledger.commission id = some commission ∧
      commission.status = .pending ∧ ledger.user commission.inviterId = some inviter ∧
      after = creditInviter (creditOf commission) (ledger.judge id .granted "" now) := by
  unfold approveAffiliateCommission at approved
  split at approved
  · cases approved
  · cases found : ledger.commission id with
    | none =>
      rw [found] at approved
      cases approved
    | some commission =>
      simp only [found] at approved
      split at approved
      · cases approved
      · rename_i pending
        split at approved
        · cases approved
        · cases known : ledger.user commission.inviterId with
          | none =>
            rw [known] at approved
            cases approved
          | some inviter =>
            simp only [known, Except.ok.injEq] at approved
            have same : inviter.id = commission.inviterId :=
              lookup_key (Option.mem_filter_iff.mp known).1
            have key : commission.id = id := lookup_key found
            refine ⟨commission, inviter, rfl, not_not.mp pending, known, ?_⟩
            rw [← approved, creditOf, same, key]

theorem reject_cases (rejected : rejectAffiliateCommission id reason now ledger = .ok after) :
    ∃ commission text, ledger.commission id = some commission ∧ commission.status = .pending ∧
      after = ledger.judge id .rejected text now := by
  unfold rejectAffiliateCommission at rejected
  split at rejected
  · cases rejected
  · cases found : ledger.commission id with
    | none =>
      rw [found] at rejected
      cases rejected
    | some commission =>
      simp only [found] at rejected
      split at rejected
      · cases rejected
      · rename_i pending
        cases rejected
        exact ⟨commission, _, rfl, not_not.mp pending, rfl⟩

end Steps

/-! ## What every run keeps -/

def grantedTo (userId : Int) (commission : AffiliateCommission) : Int :=
  if commission.inviterId = userId ∧ commission.status = .granted then commission.commissionQuota
  else 0

def HistoryIsSum (ledger : Ledger) : Prop :=
  ∀ user ∈ ledger.users, user.affHistoryQuota = (ledger.commissions.map (grantedTo user.id)).sum

def OnePerSource (ledger : Ledger) : Prop :=
  (ledger.commissions.map fun commission => (commission.sourceType, commission.sourceId)).Nodup

def OnePaidPerInvitee (ledger : Ledger) : Prop :=
  ∀ inviteeId, ledger.commissions.countP (countsAsPaid inviteeId) ≤ 1

structure CreditedOnce (ledger : Ledger) : Prop where
  once : (ledger.credits.map Credit.commissionId).Nodup
  granted : ∀ credit ∈ ledger.credits, ∃ commission ∈ ledger.commissions,
    commission.status = .granted ∧ credit = creditOf commission

structure Sound (ledger : Ledger) : Prop where
  users : (ledger.users.map User.id).Nodup
  ids : (ledger.commissions.map AffiliateCommission.id).Nodup
  issued : ∀ commission ∈ ledger.commissions, commission.id < ledger.nextId
  sources : OnePerSource ledger
  history : HistoryIsSum ledger
  credits : CreditedOnce ledger

section Kept
variable {settings : Settings} {source : Source} {countFails : Bool} {now id : Int}
variable {ledger : Ledger} {commission : AffiliateCommission} {text : String}

theorem opening_sound (unique : (users.map User.id).Nodup)
    (unpaid : ∀ user ∈ users, user.affHistoryQuota = 0) : Sound (opening users) :=
  ⟨unique, List.nodup_nil, fun _ member => absurd member List.not_mem_nil, List.nodup_nil, unpaid,
    List.nodup_nil, fun _ member => absurd member List.not_mem_nil⟩

theorem credited_history (ledger : Ledger) (credit : Credit)
    (sound : (ledger.users.map User.id).Nodup)
    (known : ledger.user credit.inviterId = some inviter) :
    ∀ user ∈ (creditInviter credit ledger).users, ∃ old ∈ ledger.users, old.id = user.id ∧
      user.affHistoryQuota =
        old.affHistoryQuota + (if user.id = credit.inviterId then credit.quota else 0) := by
  intro user member
  obtain ⟨found, alive⟩ := Option.mem_filter_iff.mp known
  obtain ⟨old, held, rfl⟩ := List.mem_map.mp member
  by_cases mine : old.id = credit.inviterId
  · have same : old = inviter := by
      have again := lookup_of_mem sound held
      rw [mine] at again
      exact Option.some.inj (again.symm.trans found)
    subst same
    have live : old.deleted = false := by simpa using alive
    refine ⟨old, held, ?_, ?_⟩ <;> simp [mine, creditRow, live]
  · exact ⟨old, held, by simp [mine], by simp [mine]⟩

theorem credited_users (credit : Credit) (ledger : Ledger) :
    (creditInviter credit ledger).users.map User.id = ledger.users.map User.id := by
  apply map_key_update
  intro user
  unfold creditRow
  split <;> rfl

theorem added_sound (sound : Sound ledger)
    (new : NewCommission settings source countFails ledger commission) :
    (((ledger.add commission).commissions.map AffiliateCommission.id).Nodup ∧
      (∀ row ∈ (ledger.add commission).commissions, row.id < (ledger.add commission).nextId)) ∧
      OnePerSource (ledger.add commission) := by
  refine ⟨⟨?_, ?_⟩, ?_⟩
  · simp only [Ledger.add, List.map_append, List.map_cons, List.map_nil]
    refine List.nodup_append.mpr ⟨sound.ids, List.nodup_singleton _, ?_⟩
    rintro _ member _ last rfl
    obtain ⟨old, held, same⟩ := List.mem_map.mp member
    have below := sound.issued old held
    rw [List.mem_singleton.mp last, new.id] at same
    omega
  · intro row member
    simp only [Ledger.add, List.mem_append, List.mem_singleton] at member ⊢
    rcases member with held | rfl
    · have below := sound.issued row held
      omega
    · rw [new.id]
      omega
  · simp only [OnePerSource, Ledger.add, List.map_append, List.map_cons, List.map_nil]
    refine List.nodup_append.mpr ⟨sound.sources, List.nodup_singleton _, ?_⟩
    rintro _ member _ last rfl
    obtain ⟨old, held, same⟩ := List.mem_map.mp member
    exact new.fresh old held (same.trans (List.mem_singleton.mp last))

theorem kept_sound (sound : Sound ledger) (new : NewCommission settings source countFails ledger commission)
    (ungranted : commission.status ≠ .granted) : Sound (ledger.add commission) := by
  obtain ⟨⟨ids, issued⟩, sources⟩ := added_sound sound new
  refine ⟨sound.users, ids, issued, sources, fun user member => ?_, sound.credits.once,
    fun credit member => ?_⟩
  · simp only [Ledger.add, List.map_append, List.sum_append, List.map_cons, List.map_nil,
      List.sum_singleton, grantedTo, ungranted, and_false, if_false, Int.add_zero]
    exact sound.history user member
  · obtain ⟨row, held, granted⟩ := sound.credits.granted credit member
    exact ⟨row, List.mem_append_left _ held, granted⟩

theorem granted_sound (sound : Sound ledger)
    (new : NewCommission settings source countFails ledger commission)
    (granted : commission.status = .granted) :
    Sound (creditInviter (creditOf commission) (ledger.add commission)) := by
  obtain ⟨⟨ids, issued⟩, sources⟩ := added_sound sound new
  obtain ⟨inviter, known⟩ := new.inviter granted
  refine ⟨?_, ids, issued, sources, fun user member => ?_, ?_, fun credit member => ?_⟩
  · rw [credited_users]
    exact sound.users
  · obtain ⟨old, held, same, moved⟩ := credited_history (ledger.add commission)
      (creditOf commission) sound.users known user member
    have before := sound.history old held
    simp only [creditInviter, Ledger.add, List.map_append, List.sum_append, List.map_cons,
      List.map_nil, List.sum_singleton, grantedTo, granted, and_true]
    rw [moved, before, same]
    simp only [creditOf, eq_comm]
    rfl
  · simp only [creditInviter, Ledger.add, List.map_append, List.map_cons, List.map_nil]
    refine List.nodup_append.mpr ⟨sound.credits.once, List.nodup_singleton _, ?_⟩
    rintro _ member _ last rfl
    obtain ⟨credit, held, same⟩ := List.mem_map.mp member
    obtain ⟨row, there, -, rfl⟩ := sound.credits.granted credit held
    have below := sound.issued row there
    have last : row.id = commission.id := same.trans (List.mem_singleton.mp last)
    rw [new.id] at last
    omega
  · simp only [creditInviter, Ledger.add, List.mem_append, List.mem_singleton] at member ⊢
    rcases member with held | rfl
    · obtain ⟨row, there, granted⟩ := sound.credits.granted credit held
      exact ⟨row, .inl there, granted⟩
    · exact ⟨commission, .inr rfl, granted, rfl⟩

theorem judge_pending (pending : commission.status = .pending) :
    commission.judge status text now =
      { commission with status := status, reason := text, updatedAt := now } := by
  rw [AffiliateCommission.judge, if_pos pending]

theorem judge_granted (granted : commission.status = .granted) :
    commission.judge status text now = commission := by
  have other : commission.status ≠ .pending := by simp [granted]
  rw [AffiliateCommission.judge, if_neg other]

theorem judged_keys {Key : Type*} (status : Status) (read : AffiliateCommission → Key)
    (kept : ∀ commission : AffiliateCommission, read (commission.judge status text now) =
      read commission) : (ledger.judge id status text now).commissions.map read =
        ledger.commissions.map read := by
  simp only [Ledger.judge, update, List.map_map]
  refine List.map_congr_left fun row _ => ?_
  simp only [Function.comp_apply]
  split
  · exact kept row
  · rfl

theorem judge_keeps (status : Status) (text : String) (now : Int) (commission : AffiliateCommission) :
    (commission.judge status text now).id = commission.id ∧
      (commission.judge status text now).sourceType = commission.sourceType ∧
      (commission.judge status text now).sourceId = commission.sourceId := by
  unfold AffiliateCommission.judge
  split <;> exact ⟨rfl, rfl, rfl⟩

theorem judge_keeps_granted
    (held : row ∈ ledger.commissions) (granted : row.status = .granted) :
    row ∈ (ledger.judge id status text now).commissions := by
  refine List.mem_map.mpr ⟨row, held, ?_⟩
  split
  · exact judge_granted granted
  · rfl

theorem judge_history (sound : Sound ledger) (status : Status) (text : String) (now : Int)
    (found : ledger.commission id = some commission) (pending : commission.status = .pending)
    (userId : Int) :
    ((ledger.judge id status text now).commissions.map (grantedTo userId)).sum =
      (ledger.commissions.map (grantedTo userId)).sum +
        (if commission.inviterId = userId ∧ status = .granted then commission.commissionQuota else 0) := by
  have moved := sum_map_update sound.ids found (grantedTo userId)
    (AffiliateCommission.judge status text now)
  have before : grantedTo userId commission = 0 := by simp [grantedTo, pending]
  have after : grantedTo userId (commission.judge status text now) =
      if commission.inviterId = userId ∧ status = .granted then commission.commissionQuota
        else 0 := by
    rw [judge_pending pending]
    rfl
  rw [before, after] at moved
  simp only [Ledger.judge]
  omega

theorem judged_issued (sound : Sound ledger) (status : Status) :
    ∀ row ∈ (ledger.judge id status text now).commissions, row.id < ledger.nextId := by
  intro row member
  have key : row.id ∈ (ledger.judge id status text now).commissions.map AffiliateCommission.id :=
    List.mem_map_of_mem member
  rw [judged_keys status AffiliateCommission.id fun row => (judge_keeps status text now row).1] at key
  obtain ⟨old, held, same⟩ := List.mem_map.mp key
  rw [← same]
  exact sound.issued old held

theorem judged_ids (sound : Sound ledger) (status : Status) :
    ((ledger.judge id status text now).commissions.map AffiliateCommission.id).Nodup := by
  rw [judged_keys status AffiliateCommission.id fun row => (judge_keeps status text now row).1]
  exact sound.ids

theorem judged_sources (sound : Sound ledger) (status : Status) :
    OnePerSource (ledger.judge id status text now) := by
  rw [OnePerSource, judged_keys status _ fun row => by
    obtain ⟨-, type, source⟩ := judge_keeps status text now row
    rw [type, source]]
  exact sound.sources

theorem rejected_sound (sound : Sound ledger) (found : ledger.commission id = some commission)
    (pending : commission.status = .pending) : Sound (ledger.judge id .rejected text now) := by
  refine ⟨sound.users, judged_ids sound _, judged_issued sound _, judged_sources sound _,
    fun user member => ?_, sound.credits.once, fun credit member => ?_⟩
  · have owed := judge_history sound .rejected text now found pending user.id
    simp only [reduceCtorEq, and_false, if_false, Int.add_zero] at owed
    rw [owed]
    exact sound.history user member
  · obtain ⟨row, held, granted, same⟩ := sound.credits.granted credit member
    exact ⟨row, judge_keeps_granted held granted, granted, same⟩

theorem approved_sound (sound : Sound ledger) (found : ledger.commission id = some commission)
    (pending : commission.status = .pending)
    (known : ledger.user commission.inviterId = some inviter) :
    Sound (creditInviter (creditOf commission) (ledger.judge id .granted text now)) := by
  refine ⟨?_, judged_ids sound _, judged_issued sound _, judged_sources sound _,
    fun user member => ?_, ?_, fun credit member => ?_⟩
  · rw [credited_users]
    exact sound.users
  · obtain ⟨old, held, same, moved⟩ := credited_history (ledger.judge id .granted text now)
      (creditOf commission) sound.users known user member
    have owed := judge_history sound .granted text now found pending user.id
    have before := sound.history old held
    simp only [creditInviter, owed, moved, before, same, creditOf, and_true]
    by_cases mine : user.id = commission.inviterId
    · simp [mine]
    · simp [mine, Ne.symm mine]
  · simp only [creditInviter, Ledger.judge, List.map_append, List.map_cons, List.map_nil]
    refine List.nodup_append.mpr ⟨sound.credits.once, List.nodup_singleton _, ?_⟩
    rintro _ member _ last rfl
    obtain ⟨credit, held, same⟩ := List.mem_map.mp member
    obtain ⟨row, there, granted, rfl⟩ := sound.credits.granted credit held
    -- the row credited before has the id of the row that is still pending
    have again : row.id = commission.id := same.trans (List.mem_singleton.mp last)
    have key : commission.id = id := lookup_key found
    have same : lookup AffiliateCommission.id ledger.commissions row.id = some row :=
      lookup_of_mem sound.ids there
    rw [again, key] at same
    have rows : row = commission := Option.some.inj (same.symm.trans found)
    rw [rows, pending] at granted
    cases granted
  · simp only [creditInviter, List.mem_append, List.mem_singleton] at member
    rcases member with held | rfl
    · obtain ⟨row, there, granted, same⟩ := sound.credits.granted credit held
      exact ⟨row, judge_keeps_granted there granted, granted, same⟩
    · refine ⟨commission.judge .granted text now, ?_, ?_, ?_⟩
      · refine List.mem_map.mpr ⟨commission, lookup_mem found, ?_⟩
        rw [if_pos (lookup_key found)]
      · rw [judge_pending pending]
      · rw [judge_pending pending]
        rfl

/-! ### One paid order of an invited user -/

theorem judge_counts (verdict : status = .granted ∨ status = .rejected)
    (inviteeId : Int) : (ledger.judge id status text now).commissions.countP
      (countsAsPaid inviteeId) = ledger.commissions.countP (countsAsPaid inviteeId) := by
  have same : ∀ row : AffiliateCommission,
      countsAsPaid inviteeId (row.judge status text now) = countsAsPaid inviteeId row := by
    intro row
    by_cases pending : row.status = .pending
    · rw [judge_pending pending]
      rcases verdict with rfl | rfl <;> simp [countsAsPaid, pending]
    · rw [AffiliateCommission.judge, if_neg pending]
  simp only [Ledger.judge, update, List.countP_map]
  refine List.countP_congr fun row _ => ?_
  simp only [Function.comp_apply]
  split
  · rw [same]
  · rfl

def FirstPaidOnly : Event → Prop
  | .topUpPaid settings _ countFails _ => settings.scope = "first_paid_order" ∧ countFails = false
  | .orderPaid settings _ _ countFails _ =>
    settings.scope = "first_paid_order" ∧ countFails = false
  | .approve _ _ => True
  | .reject _ _ _ => True

theorem first_paid_is_first (scope : settings.scope = "first_paid_order")
    (given : 0 < source.inviteeId) (free : resolveAffiliateCommissionSkipReason settings source
      source.inviteeId false ledger = "") :
    ledger.commissions.countP (countsAsPaid source.inviteeId) = 0 := by
  by_contra more
  have counted : 0 < ledger.commissions.countP (countsAsPaid source.inviteeId) := by omega
  unfold resolveAffiliateCommissionSkipReason at free
  simp only [scope, given, counted, true_and, Bool.false_eq_true, and_false, if_false,
    if_true, gt_iff_lt] at free
  repeat' split at free
  all_goals exact absurd free (by decide)

theorem added_one_paid (one : OnePaidPerInvitee ledger) (scope : settings.scope = "first_paid_order")
    (new : NewCommission settings source false ledger commission) :
    OnePaidPerInvitee (ledger.add commission) := by
  intro inviteeId
  simp only [Ledger.add, List.countP_append]
  rcases new.status with skipped | ⟨-, free⟩
  · have uncounted : countsAsPaid inviteeId commission = false := by simp [countsAsPaid, skipped]
    rw [List.countP_singleton, uncounted]
    exact one inviteeId
  · have first := first_paid_is_first scope new.given free
    by_cases mine : source.inviteeId = inviteeId
    · rw [← mine, first, Nat.zero_add]
      exact List.countP_le_length
    · have uncounted : countsAsPaid inviteeId commission = false := by
        simp [countsAsPaid, new.invitee, mine]
      rw [List.countP_singleton, uncounted]
      exact one inviteeId

end Kept

/-! ## Every run -/

section Runs
variable {ledger after : Ledger} {event : Event}

theorem apply_cases (applied : apply ledger event = .ok after) :
    after = ledger ∨
      (∃ settings source countFails commission,
        NewCommission settings source countFails ledger commission ∧
        (FirstPaidOnly event → settings.scope = "first_paid_order" ∧ countFails = false) ∧
        (commission.status ≠ .granted ∧ after = ledger.add commission ∨
          commission.status = .granted ∧
            after = creditInviter (creditOf commission) (ledger.add commission))) ∨
      (∃ id commission inviter now, ledger.commission id = some commission ∧
        commission.status = .pending ∧ ledger.user commission.inviterId = some inviter ∧
        after = creditInviter (creditOf commission) (ledger.judge id .granted "" now)) ∨
      ∃ id commission text now, ledger.commission id = some commission ∧
        commission.status = .pending ∧ after = ledger.judge id .rejected text now := by
  cases event with
  | topUpPaid settings topUp countFails now =>
    simp only [apply, grantAffiliateCommissionForTopUp] at applied
    split at applied
    · cases applied
      exact .inl rfl
    · rcases grant_cases applied with same | ⟨commission, new, written⟩
      · exact .inl same
      · exact .inr (.inl ⟨settings, _, countFails, commission, new, fun first => first, written⟩)
  | orderPaid settings order money countFails now =>
    simp only [apply, grantAffiliateCommissionForSubscriptionOrder] at applied
    split at applied
    · cases applied
      exact .inl rfl
    · rcases grant_cases applied with same | ⟨commission, new, written⟩
      · exact .inl same
      · exact .inr (.inl ⟨settings, _, countFails, commission, new, fun first => first, written⟩)
  | approve id now =>
    obtain ⟨commission, inviter, found, pending, known, written⟩ := approve_cases applied
    exact .inr (.inr (.inl ⟨id, commission, inviter, now, found, pending, known, written⟩))
  | reject id reason now =>
    obtain ⟨commission, text, found, pending, written⟩ := reject_cases applied
    exact .inr (.inr (.inr ⟨id, commission, text, now, found, pending, written⟩))

theorem step_sound (ledger : Ledger) (event : Event) (sound : Sound ledger) :
    Sound (step ledger event) := by
  unfold step
  split
  · rename_i after applied
    rcases apply_cases applied with rfl | ⟨settings, source, countFails, commission, new, -, written⟩
      | ⟨id, commission, inviter, now, found, pending, known, rfl⟩
      | ⟨id, commission, text, now, found, pending, rfl⟩
    · exact sound
    · rcases written with ⟨ungranted, rfl⟩ | ⟨granted, rfl⟩
      · exact kept_sound sound new ungranted
      · exact granted_sound sound new granted
    · exact approved_sound sound found pending known
    · exact rejected_sound sound found pending
  · exact sound

theorem step_one_paid (ledger : Ledger) (event : Event) (first : FirstPaidOnly event)
    (one : OnePaidPerInvitee ledger) : OnePaidPerInvitee (step ledger event) := by
  unfold step
  split
  · rename_i after applied
    rcases apply_cases applied with rfl | ⟨settings, source, countFails, commission, new, scope,
      written⟩ | ⟨id, commission, inviter, now, -, -, -, rfl⟩ | ⟨id, commission, text, now, -, -, rfl⟩
    · exact one
    · obtain ⟨only, rfl⟩ := scope first
      have added := added_one_paid one only new
      rcases written with ⟨-, rfl⟩ | ⟨-, rfl⟩
      · exact added
      · exact added
    · intro inviteeId
      have counts : (ledger.judge id .granted "" now).commissions.countP (countsAsPaid inviteeId) =
          ledger.commissions.countP (countsAsPaid inviteeId) := judge_counts (.inl rfl) inviteeId
      simpa only [creditInviter, counts] using one inviteeId
    · intro inviteeId
      rw [judge_counts (.inr rfl)]
      exact one inviteeId
  · exact one

end Runs

/-- In every run of paid orders and reviews: the history of each user is the
sum of the commissions granted to it, no source has two rows, a scope of the
first paid order leaves one commission of an invited user beside the skipped
ones, no commission is credited twice, and a review succeeds only on a pending
row. -/
theorem commissions_add_up (users : List User) (unique : (users.map User.id).Nodup)
    (unpaid : ∀ user ∈ users, user.affHistoryQuota = 0) (events : List Event) :
    let ledger := run step (opening users) events
    HistoryIsSum ledger ∧ OnePerSource ledger ∧
      ((∀ event ∈ events, FirstPaidOnly event) → OnePaidPerInvitee ledger) ∧
      CreditedOnce ledger ∧
      (∀ id now after, approveAffiliateCommission id now ledger = .ok after →
        ∃ commission, ledger.commission id = some commission ∧ commission.status = .pending) ∧
      ∀ id reason now after, rejectAffiliateCommission id reason now ledger = .ok after →
        ∃ commission, ledger.commission id = some commission ∧ commission.status = .pending := by
  intro ledger
  have sound : Sound ledger :=
    run_preserves_always step_sound events (opening_sound unique unpaid)
  refine ⟨sound.history, sound.sources, fun first => ?_, sound.credits, fun id now after approved => ?_,
    fun id reason now after rejected => ?_⟩
  · have permitted : Guarded step (fun _ event => FirstPaidOnly event) (opening users) events :=
      guarded_of_events first _
    have none_yet : OnePaidPerInvitee (opening users) := fun _ => Nat.zero_le 1
    exact run_preserves step_one_paid permitted none_yet
  · obtain ⟨commission, inviter, found, pending, -⟩ := approve_cases approved
    exact ⟨commission, found, pending⟩
  · obtain ⟨commission, text, found, pending, -⟩ := reject_cases rejected
    exact ⟨commission, found, pending⟩

def twoUsers : List User := [{ id := 1 }, { id := 2, inviterId := 1 }]

def firstOrderOnly : Settings where
  scope := "first_paid_order"
  defaultRate := 10

def twoTopUps : List Event :=
  [.topUpPaid firstOrderOnly { id := 1, userId := 2, money := 3, tradeNo := "a" } false 100,
    .topUpPaid firstOrderOnly { id := 2, userId := 2, money := 3, tradeNo := "b" } false 200]

/-- The second order of the user leaves a commission too, a skipped one. -/
theorem skipped_commission_beside_first :
    ¬ ∀ users : List User, (users.map User.id).Nodup →
      (∀ user ∈ users, user.affHistoryQuota = 0) → ∀ events : List Event,
        (∀ event ∈ events, FirstPaidOnly event) → ∀ inviteeId,
          (run step (opening users) events).commissions.countP
            (fun commission => commission.inviteeId = inviteeId) ≤ 1 := by
  intro always
  have unpaid : ∀ user ∈ twoUsers, user.affHistoryQuota = 0 := by
    intro user member
    simp only [twoUsers, List.mem_cons, List.not_mem_nil, or_false] at member
    rcases member with rfl | rfl <;> rfl
  have limited : ∀ event ∈ twoTopUps, FirstPaidOnly event := by
    intro event member
    simp only [twoTopUps, List.mem_cons, List.not_mem_nil, or_false] at member
    rcases member with rfl | rfl <;> exact ⟨rfl, rfl⟩
  have one := always twoUsers (by decide) unpaid twoTopUps limited 2
  have two : (run step (opening twoUsers) twoTopUps).commissions.countP
      (fun commission => commission.inviteeId = 2) = 2 := by decide +kernel
  omega

theorem two_top_ups_add_up : let ledger := run step (opening twoUsers) twoTopUps
    HistoryIsSum ledger ∧ OnePerSource ledger ∧
      ((∀ event ∈ twoTopUps, FirstPaidOnly event) → OnePaidPerInvitee ledger) ∧
      CreditedOnce ledger ∧
      (∀ id now after, approveAffiliateCommission id now ledger = .ok after →
        ∃ commission, ledger.commission id = some commission ∧ commission.status = .pending) ∧
      ∀ id reason now after, rejectAffiliateCommission id reason now ledger = .ok after →
        ∃ commission, ledger.commission id = some commission ∧ commission.status = .pending := by
  refine commissions_add_up twoUsers (by decide) (fun user member => ?_) twoTopUps
  simp only [twoUsers, List.mem_cons, List.not_mem_nil, or_false] at member
  rcases member with rfl | rfl <;> rfl

end NewApi.CommissionLedger
