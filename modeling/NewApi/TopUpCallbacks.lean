import NewApi.CommissionLedger

/-! The callbacks that complete or close a top-up order. Each is a transaction
that reads the order under its row lock, checks the status and, when it
completes the order, credits the user and the inviter. Any number of them may
interleave: the user is credited at most once, only if the order ends
successful, and a closed order stays as it is. -/
namespace NewApi.TopUpCallbacks
open NewApi.GuardedRun NewApi.KeyedTable
open NewApi.ReadCommitted (Transaction ReadLock idle LockHeld lock_held_step)
open NewApi.OrderCompletion (PaymentStatus paymentGateway)
open NewApi.CommissionLedger hiding step Event apply

/-! ## Tables -/

structure Payment where
  tradeNo : String
  userId : Int
  quota : Int
  deriving DecidableEq, Repr

/-- The tables, and in `payments` what was ever added to a user's quota. -/
structure Shop where
  ledger : Ledger := {}
  topUps : List TopUp := []
  payments : List Payment := []
  deriving DecidableEq, Repr

def Shop.topUp (shop : Shop) (tradeNo : String) : Option TopUp :=
  lookup TopUp.tradeNo shop.topUps tradeNo

/-- `tx.Save` of an order. -/
def Shop.saveTopUp (shop : Shop) (topUp : TopUp) : Shop :=
  { shop with topUps := save TopUp.id shop.topUps topUp }

def addQuota (quota : Int) (change : User → User) (user : User) : User :=
  { change user with quota := user.quota + quota }

def Shop.creditUser (shop : Shop) (payment : Payment) (change : User → User) : Shop :=
  match shop.ledger.user payment.userId with
  | none => shop
  | some _ =>
    { shop with
      ledger := { shop.ledger with
        users := update User.id shop.ledger.users payment.userId (addQuota payment.quota change) }
      payments := shop.payments ++ [payment] }

inductive TopUpError where
  | notFound
  | paymentMethodMismatch
  | statusInvalid
  | quotaInvalid
  | userNotFound
  | commission (error : CommissionError)
  deriving DecidableEq, Repr

/-! ## The entry points -/

/-- `TopUp.ensurePaymentProvider`. -/
def ensurePaymentProvider (topUp : TopUp) (expectedProvider : String) : Except TopUpError TopUp :=
  if expectedProvider = "" then .ok topUp
  else if paymentGateway topUp.paymentProvider topUp.paymentMethod ≠ expectedProvider then
    .error .paymentMethodMismatch
  else if topUp.paymentProvider = "" then .ok { topUp with paymentProvider := expectedProvider }
  else .ok topUp

/-- `decimal.IntPart`. -/
def intPart (value : Rat) : Int := value.num.tdiv value.den

structure Report where
  settings : Settings := {}
  countFails : Bool := false
  now : Int := 0

def complete (report : Report) (grants : Bool) (quota : Int) (change : User → User)
    (topUp : TopUp) (shop : Shop) : Except TopUpError Shop :=
  let done := { topUp with completeTime := report.now, status := .success }
  let paid := (shop.saveTopUp done).creditUser ⟨topUp.tradeNo, topUp.userId, quota⟩ change
  if grants then
    match grantAffiliateCommissionForTopUp report.settings done report.countFails report.now
      paid.ledger with
    | .error error => .error (.commission error)
    | .ok ledger => .ok { paid with ledger := ledger }
  else .ok paid

def whenPending (expectedProvider : String) (row : Option TopUp) (shop : Shop)
    (next : TopUp → Except TopUpError Shop) : Except TopUpError Shop :=
  match row with
  | none => .error .notFound
  | some topUp =>
    match ensurePaymentProvider topUp expectedProvider with
    | .error error => .error error
    | .ok topUp =>
      if topUp.status = .success then .ok shop
      else if topUp.status ≠ .pending then .error .statusInvalid
      else next topUp

def amountQuota (settings : Settings) (topUp : TopUp) : Int :=
  intPart (topUp.amount * settings.quotaPerUnit)

/-- `rechargeAmountBasedTopUp`. -/
def rechargeAmountBasedTopUp (expectedProvider actualPaymentMethod : String) (report : Report)
    (row : Option TopUp) (shop : Shop) : Except TopUpError Shop :=
  whenPending expectedProvider row shop fun topUp =>
    let quotaToAdd := amountQuota report.settings topUp
    if quotaToAdd ≤ 0 then .error .quotaInvalid
    else
      let method := if actualPaymentMethod ≠ "" then actualPaymentMethod else topUp.paymentMethod
      complete report true quotaToAdd id { topUp with paymentMethod := method } shop

def rechargeEpay (actualPaymentMethod : String) : Report → Option TopUp → Shop → Except TopUpError Shop :=
  rechargeAmountBasedTopUp "epay" actualPaymentMethod

def rechargeWaffo : Report → Option TopUp → Shop → Except TopUpError Shop :=
  rechargeAmountBasedTopUp "waffo" ""

/-- `Recharge`. The credit of a Stripe order is a fraction, and `column` is what
the quota column keeps of it. -/
def recharge (column : Rat → Int) (customerId : String) (report : Report) (row : Option TopUp)
    (shop : Shop) : Except TopUpError Shop :=
  whenPending "stripe" row shop fun topUp =>
    complete report true (column (topUp.money * report.settings.quotaPerUnit))
      (fun user => { user with stripeCustomer := customerId }) topUp shop

/-- `RechargeCreem`. The email is written to a user that has none. -/
def rechargeCreem (customerEmail : String) (report : Report) (row : Option TopUp) (shop : Shop) :
    Except TopUpError Shop :=
  whenPending "creem" row shop fun topUp =>
    if customerEmail ≠ "" ∧ (shop.ledger.user topUp.userId).isNone then .error .userNotFound
    else complete report true (amountQuota report.settings topUp)
      (fun user => if customerEmail ≠ "" ∧ user.email = "" then
        { user with email := customerEmail } else user) topUp shop

def manualQuota (settings : Settings) (topUp : TopUp) : Int :=
  if paymentGateway topUp.paymentProvider topUp.paymentMethod = "stripe" then
    intPart (topUp.money * settings.quotaPerUnit)
  else amountQuota settings topUp

/-- `ManualCompleteTopUp`, which looks at no provider and grants no commission. -/
def manualCompleteTopUp (report : Report) (row : Option TopUp) (shop : Shop) : Except TopUpError Shop :=
  whenPending "" row shop fun topUp =>
    if manualQuota report.settings topUp ≤ 0 then .error .quotaInvalid
    else complete report false (manualQuota report.settings topUp) id topUp shop

/-- `UpdatePendingTopUpStatus`, which refuses a completed order too. -/
def updatePendingTopUpStatus (expectedProvider : String) (targetStatus : PaymentStatus)
    (report : Report) (row : Option TopUp) (shop : Shop) : Except TopUpError Shop :=
  match row with
  | none => .error .notFound
  | some topUp =>
    match ensurePaymentProvider topUp expectedProvider with
    | .error error => .error error
    | .ok topUp =>
      if topUp.status ≠ .pending then .error .statusInvalid
      else .ok (shop.saveTopUp
        { topUp with status := targetStatus, completeTime := report.now })

/-! ## Interleavings -/

/-- The statuses that a callback closes an order with. -/
inductive Closed where
  | expired
  | failed

def Closed.status : Closed → PaymentStatus
  | .expired => .expired
  | .failed => .failed

inductive Callback where
  | stripe (customerId : String)
  | epay (actualPaymentMethod : String)
  | creem (customerEmail : String)
  | waffo
  | admin
  | close (expectedProvider : String) (target : Closed)

def Callback.handle (column : Rat → Int) : Callback → Report → Option TopUp → Shop → Except TopUpError Shop
  | .stripe customerId => recharge column customerId
  | .epay actualPaymentMethod => rechargeEpay actualPaymentMethod
  | .creem customerEmail => rechargeCreem customerEmail
  | .waffo => rechargeWaffo
  | .admin => manualCompleteTopUp
  | .close expectedProvider target => updatePendingTopUpStatus expectedProvider target.status

def callbackTransaction (column : Rat → Int) (tradeNo : String) (callback : Callback × Report) :
    Transaction Shop (Option TopUp) where
  read := fun shop => shop.topUp tradeNo
  write := fun row shop =>
    if tradeNo = "" then none else (callback.1.handle column callback.2 row shop).toOption

/-! ## What one callback does -/

def Shop.quota (shop : Shop) (userId : Int) : Option Int :=
  (lookup User.id shop.ledger.users userId).map User.quota

def paidTo (userId : Int) (payments : List Payment) : Int :=
  (payments.map fun payment => if payment.userId = userId then payment.quota else 0).sum

def QuotaIsPaid (start shop : Shop) : Prop :=
  ∀ userId, shop.quota userId = (start.quota userId).map (· + paidTo userId shop.payments)

def Shop.status (shop : Shop) (tradeNo : String) : Option PaymentStatus :=
  (shop.topUp tradeNo).map TopUp.status

/-- What a callback for an order leaves. -/
inductive Outcome (tradeNo : String) (shop after : Shop) : Prop where
  | nothing (same : after = shop)
  | closed (pending : shop.status tradeNo = some .pending)
      (status : ∃ closed : Closed, after.status tradeNo = some closed.status)
      (payments : after.payments = shop.payments) (quota : ∀ id, after.quota id = shop.quota id)
  | completed (pending : shop.status tradeNo = some .pending)
      (status : after.status tradeNo = some .success)
      (payments : after.payments = shop.payments ∨
        ∃ payment, payment.tradeNo = tradeNo ∧ after.payments = shop.payments ++ [payment])
      (quota : ∀ start, QuotaIsPaid start shop → QuotaIsPaid start after)

section Callbacks
variable {shop after start : Shop} {topUp order : TopUp} {tradeNo : String} {report : Report}
variable {ledger granted : Ledger}

theorem grant_keeps_quota
    (grants : grantAffiliateCommissionForTopUp settings topUp countFails now ledger = .ok granted)
    (userId : Int) : (lookup User.id granted.users userId).map User.quota =
      (lookup User.id ledger.users userId).map User.quota := by
  unfold grantAffiliateCommissionForTopUp at grants
  split at grants
  · cases grants
    rfl
  · rcases grant_cases grants with rfl | ⟨commission, -, ⟨-, rfl⟩ | ⟨-, rfl⟩⟩
    · rfl
    · rfl
    · have keeps : ∀ user, (creditRow (creditOf commission).quota user).id = user.id ∧
          (creditRow (creditOf commission).quota user).quota = user.quota := by
        intro user
        unfold creditRow
        split <;> exact ⟨rfl, rfl⟩
      simp only [creditInviter, Ledger.add]
      rw [lookup_update _ _ _ _ fun user => (keeps user).1]
      split
      · rw [Option.map_map]
        congr 1
        funext user
        exact (keeps user).2
      · rfl

theorem credit_user_paid {change : User → User}
    (keeps : ∀ user, (change user).id = user.id) (paid : QuotaIsPaid start shop) :
    QuotaIsPaid start (shop.creditUser payment change) := by
  unfold Shop.creditUser
  split
  · exact paid
  · intro userId
    have before := paid userId
    simp only [Shop.quota] at before ⊢
    rw [lookup_update _ _ _ (addQuota payment.quota change) keeps]
    simp only [paidTo, List.map_append, List.sum_append, List.map_cons, List.map_nil,
      List.sum_singleton] at before ⊢
    by_cases mine : userId = payment.userId
    · rw [if_pos mine, Option.map_map]
      have moved : User.quota ∘ addQuota payment.quota change = (· + payment.quota) ∘ User.quota := rfl
      rw [moved, ← Option.map_map, before, Option.map_map]
      congr 1
      funext held
      simp only [Function.comp_apply, if_pos mine.symm]
      omega
    · rw [if_neg mine, before]
      congr 1
      funext held
      simp only [if_neg (Ne.symm mine)]
      omega

theorem credit_user_payments (shop : Shop) (payment : Payment) (change : User → User) :
    (shop.creditUser payment change).payments = shop.payments ∨
      (shop.creditUser payment change).payments = shop.payments ++ [payment] := by
  unfold Shop.creditUser
  split
  · exact .inl rfl
  · exact .inr rfl

theorem credit_user_top_ups (shop : Shop) (payment : Payment) (change : User → User) :
    (shop.creditUser payment change).topUps = shop.topUps := by
  unfold Shop.creditUser
  split <;> rfl

theorem save_top_up_found (found : shop.topUp tradeNo = some order) (id : topUp.id = order.id)
    (key : topUp.tradeNo = order.tradeNo) : (shop.saveTopUp topUp).topUp tradeNo = some topUp := by
  have same : order.tradeNo = tradeNo := lookup_key found
  exact lookup_save_by found id.symm (key.trans same)

theorem ensure_ok
    (ensured : ensurePaymentProvider order expectedProvider = .ok topUp) :
    topUp.id = order.id ∧ topUp.tradeNo = order.tradeNo ∧ topUp.status = order.status := by
  unfold ensurePaymentProvider at ensured
  split at ensured
  · cases ensured
    exact ⟨rfl, rfl, rfl⟩
  · split at ensured
    · cases ensured
    · split at ensured <;> cases ensured <;> exact ⟨rfl, rfl, rfl⟩

theorem complete_outcome {change : User → User}
    (completes : complete report grants quota change topUp shop = .ok after)
    (found : shop.topUp tradeNo = some order) (id : topUp.id = order.id)
    (key : topUp.tradeNo = order.tradeNo) (pending : order.status = .pending)
    (keeps : ∀ user, (change user).id = user.id) : Outcome tradeNo shop after := by
  have before : shop.status tradeNo = some .pending := by
    rw [Shop.status, found, Option.map_some, pending]
  let done : TopUp := { topUp with completeTime := report.now, status := .success }
  let payment : Payment := ⟨topUp.tradeNo, topUp.userId, quota⟩
  let paid := (shop.saveTopUp done).creditUser payment change
  have saved : (shop.saveTopUp done).topUp tradeNo = some done := save_top_up_found found id key
  have mine : payment.tradeNo = tradeNo := key.trans (lookup_key found)
  have status : paid.status tradeNo = some .success := by
    rw [Shop.status, Shop.topUp, credit_user_top_ups]
    exact congrArg (Option.map TopUp.status) saved
  have payments : paid.payments = shop.payments ∨
      ∃ payment, payment.tradeNo = tradeNo ∧ paid.payments = shop.payments ++ [payment] := by
    rcases credit_user_payments (shop.saveTopUp done) payment change with same | more
    · exact .inl same
    · exact .inr ⟨payment, mine, more⟩
  have quotas : ∀ start, QuotaIsPaid start shop → QuotaIsPaid start paid :=
    fun start holds => credit_user_paid keeps holds
  unfold complete at completes
  dsimp only at completes
  cases grants with
  | false =>
    cases completes
    exact .completed before status payments quotas
  | true =>
    simp only [if_true] at completes
    cases granted : grantAffiliateCommissionForTopUp report.settings done report.countFails
        report.now paid.ledger with
    | error error =>
      rw [granted] at completes
      cases completes
    | ok ledger =>
      rw [granted] at completes
      cases completes
      refine .completed before status payments fun start holds userId => ?_
      have kept := grant_keeps_quota granted userId
      simp only [Shop.quota, kept]
      exact quotas start holds userId

theorem when_pending_outcome {next : TopUp → Except TopUpError Shop}
    (checked : whenPending expectedProvider (shop.topUp tradeNo) shop next = .ok after)
    (goes : ∀ order topUp, shop.topUp tradeNo = some order → topUp.id = order.id →
      topUp.tradeNo = order.tradeNo → order.status = .pending → next topUp = .ok after →
      Outcome tradeNo shop after) : Outcome tradeNo shop after := by
  unfold whenPending at checked
  cases found : shop.topUp tradeNo with
  | none =>
    rw [found] at checked
    cases checked
  | some order =>
    simp only [found] at checked
    cases ensured : ensurePaymentProvider order expectedProvider with
    | error error =>
      rw [ensured] at checked
      cases checked
    | ok topUp =>
      obtain ⟨id, key, status⟩ := ensure_ok ensured
      simp only [ensured] at checked
      split at checked
      · cases checked
        exact .nothing rfl
      · split at checked
        · cases checked
        · rename_i pending
          apply goes order topUp found id key ?_ checked
          rw [← status]
          exact not_not.mp pending

theorem callback_outcome (column : Rat → Int) (callback : Callback)
    (handled : callback.handle column report (shop.topUp tradeNo) shop = .ok after) :
    Outcome tradeNo shop after := by
  have amounts : ∀ {expected method : String},
      rechargeAmountBasedTopUp expected method report (shop.topUp tradeNo) shop = .ok after →
      Outcome tradeNo shop after := by
    intro expected method recharged
    apply when_pending_outcome recharged
    intro order topUp found id key pending next
    dsimp only at next
    split at next
    · cases next
    · exact complete_outcome next found id key pending fun _ => rfl
  cases callback with
  | stripe customerId =>
    simp only [Callback.handle, recharge] at handled
    apply when_pending_outcome handled
    intro order topUp found id key pending next
    exact complete_outcome next found id key pending fun _ => rfl
  | epay method =>
    simp only [Callback.handle, rechargeEpay] at handled
    exact amounts handled
  | waffo =>
    simp only [Callback.handle, rechargeWaffo] at handled
    exact amounts handled
  | creem customerEmail =>
    simp only [Callback.handle, rechargeCreem] at handled
    apply when_pending_outcome handled
    intro order topUp found id key pending next
    split at next
    · cases next
    · refine complete_outcome next found id key pending fun user => ?_
      split <;> rfl
  | admin =>
    simp only [Callback.handle, manualCompleteTopUp] at handled
    apply when_pending_outcome handled
    intro order topUp found id key pending next
    split at next
    · cases next
    · exact complete_outcome next found id key pending fun _ => rfl
  | close expectedProvider target =>
    simp only [Callback.handle, updatePendingTopUpStatus] at handled
    cases found : shop.topUp tradeNo with
    | none =>
      rw [found] at handled
      cases handled
    | some order =>
      simp only [found] at handled
      cases ensured : ensurePaymentProvider order expectedProvider with
      | error error =>
        rw [ensured] at handled
        cases handled
      | ok topUp =>
        obtain ⟨id, key, status⟩ := ensure_ok ensured
        simp only [ensured] at handled
        split at handled
        · cases handled
        · rename_i pending
          cases handled
          let done : TopUp := { topUp with status := target.status, completeTime := report.now }
          have saved : (shop.saveTopUp done).topUp tradeNo = some done :=
            save_top_up_found found id key
          refine .closed ?_ ⟨target, ?_⟩ rfl (fun _ => rfl)
          · rw [Shop.status, found, Option.map_some, ← status, not_not.mp pending]
          · exact congrArg (Option.map TopUp.status) saved

end Callbacks

/-! ## Every interleaving -/

/-- The order of a run that started with no payment: it was paid at most once,
only if it is successful, and the quotas are those of the start and the
payment. -/
structure PaidOnce (start : Shop) (tradeNo : String) (shop : Shop) : Prop where
  once : shop.payments.length ≤ 1
  mine : ∀ payment ∈ shop.payments, payment.tradeNo = tradeNo
  success : shop.payments ≠ [] → shop.status tradeNo = some .success
  quota : QuotaIsPaid start shop

def StaysClosed (tradeNo : String) (before after : Shop) : Prop :=
  ∀ status, before.status tradeNo = some status → status ≠ .pending → after.status tradeNo = some status

section Runs
variable {start shop after : Shop} {tradeNo : String}

theorem unpaid_start (unpaid : start.payments = []) : PaidOnce start tradeNo start := by
  refine ⟨by simp [unpaid], by simp [unpaid], fun paid => absurd unpaid paid, fun userId => ?_⟩
  simp [unpaid, paidTo]

theorem outcome_paid_once (outcome : Outcome tradeNo shop after) (paid : PaidOnce start tradeNo shop) :
    PaidOnce start tradeNo after ∧ StaysClosed tradeNo shop after := by
  have unpaid : shop.status tradeNo = some .pending → shop.payments = [] := by
    intro pending
    by_contra some_paid
    have success := paid.success some_paid
    rw [pending] at success
    cases success
  have open_ : shop.status tradeNo = some .pending → StaysClosed tradeNo shop after := by
    intro pending status held closed
    rw [pending] at held
    exact absurd (Option.some.inj held).symm closed
  cases outcome with
  | nothing same =>
    subst same
    exact ⟨paid, fun _ held _ => held⟩
  | closed pending status payments quota =>
    refine ⟨⟨?_, ?_, fun more => ?_, fun userId => ?_⟩, open_ pending⟩
    · rw [payments]
      exact paid.once
    · rw [payments]
      exact paid.mine
    · rw [payments, unpaid pending] at more
      exact absurd rfl more
    · rw [quota userId, payments]
      exact paid.quota userId
  | completed pending status payments quota =>
    refine ⟨⟨?_, ?_, fun _ => status, quota start paid.quota⟩, open_ pending⟩
    · rcases payments with same | ⟨payment, -, more⟩
      · rw [same]
        exact paid.once
      · rw [more, unpaid pending]
        exact Nat.le_refl 1
    · rcases payments with same | ⟨payment, mine, more⟩
      · rw [same]
        exact paid.mine
      · rw [more, unpaid pending]
        intro other member
        rw [List.mem_singleton.mp member]
        exact mine

/-- For every order, and any number of callbacks, completions by an admin and
closings of it in any interleaving: the user is credited at most once, only if
the order is successful, and an order that reached a terminal status keeps it. -/
theorem order_paid_once {Id : Type*} [DecidableEq Id] (column : Rat → Int) (tradeNo : String)
    (start : Shop) (unpaid : start.payments = []) (callbacks : Id → Callback × Report)
    (events later : List (ReadCommitted.Event Id)) :
    let txn := fun id => callbackTransaction column tradeNo (callbacks id)
    let lock := SubscriptionStore.lockForUpdate false
    PaidOnce start tradeNo (run (ReadCommitted.step txn lock) (idle start) events).shared ∧
      StaysClosed tradeNo (run (ReadCommitted.step txn lock) (idle start) events).shared
        (run (ReadCommitted.step txn lock) (idle start) (events ++ later)).shared := by
  intro txn lock
  refine ReadCommitted.locked_run_relates (fun shop status held _ => held) ?_ ?_
    (unpaid_start unpaid) events later
  · intro first second third one two status held closed
    exact two status (one status held closed) closed
  · intro shop id paid
    simp only [ReadCommitted.alone, txn, callbackTransaction]
    split
    · exact ⟨paid, fun _ held _ => held⟩
    · cases handled : (callbacks id).1.handle column (callbacks id).2 (shop.topUp tradeNo) shop with
      | error error => exact ⟨paid, fun _ held _ => held⟩
      | ok after => exact outcome_paid_once (callback_outcome column _ handled) paid

end Runs

def oneOrder : Shop where
  ledger := { users := [{ id := 2 }] }
  topUps := [{ id := 1, userId := 2, amount := 10, tradeNo := "a", paymentProvider := "epay" }]

def fourReports (id : Fin 4) : Callback × Report :=
  match id with
  | 0 => (.epay "alipay", {})
  | 1 => (.epay "alipay", {})
  | 2 => (.admin, {})
  | 3 => (.close "epay" .expired, {})

def reportsInTurn : List (ReadCommitted.Event (Fin 4)) :=
  [.read 0, .read 3, .finish 0, .read 3, .finish 3, .read 1, .finish 1]

theorem one_order_paid_once :
    let txn := fun id => callbackTransaction (fun sum => sum.floor) "a" (fourReports id)
    let lock := SubscriptionStore.lockForUpdate false
    PaidOnce oneOrder "a" (run (ReadCommitted.step txn lock) (idle oneOrder) reportsInTurn).shared ∧
      StaysClosed "a" (run (ReadCommitted.step txn lock) (idle oneOrder) reportsInTurn).shared
        (run (ReadCommitted.step txn lock) (idle oneOrder)
          (reportsInTurn ++ [.read 2, .finish 2])).shared :=
  order_paid_once (fun sum => sum.floor) "a" oneOrder rfl fourReports reportsInTurn [.read 2, .finish 2]

end NewApi.TopUpCallbacks
