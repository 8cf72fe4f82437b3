import NewApi.SubscriptionStore

/-! Completing a paid order: webhooks, the return page and an admin may all
report one payment, each by a transaction that reads the order, and if it is
pending issues the subscription, books the payment and writes the order. What
is proved is what one of these transactions can do to the tables, and for any
number of them, in any interleaving, exactly when one payment is delivered once. -/
namespace NewApi.OrderCompletion
open NewApi.GuardedRun NewApi.KeyedTable
open NewApi.GoText (trimSpace hasPrefix mentions)
open NewApi.ReadCommitted (Transaction ReadLock idle)
open NewApi.ResetWindow NewApi.Subscription
open NewApi.SubscriptionStore hiding step Event

/-! ## Rows -/

/-- The values of `TopUpStatus` in `common/constants.go`. -/
inductive PaymentStatus where
  | pending
  | success
  | failed
  | expired
  deriving DecidableEq, Repr

inductive FulfillmentStatus where
  | notRequired
  | pendingDelivery
  | delivered
  | rejected
  deriving DecidableEq, Repr

/-- `model/subscription.go::SubscriptionOrder`; `terms` are its plan columns. A
blank duration unit is an order from before they existed. -/
structure SubscriptionOrder where
  id : Int
  userId : Int
  planId : Int
  terms : PlanTerms := {}
  tradeNo : String
  paymentMethod : String := ""
  paymentProvider : String := ""
  status : PaymentStatus := .pending
  createTime : Int := 0
  completeTime : Int := 0
  providerPayload : String := ""
  fulfillmentStatus : FulfillmentStatus := .notRequired
  reservedChannelId : Int := 0
  reservedChannelKeyIndex : Int := -1
  deriving DecidableEq, Repr

/-- `model/topup.go::TopUp`; the trade number is a unique index. -/
structure TopUp where
  userId : Int
  tradeNo : String
  paymentMethod : String
  paymentProvider : String
  createTime : Int
  completeTime : Int
  status : PaymentStatus
  deriving DecidableEq, Repr

inductive CommissionStatus where
  | granted
  | pending
  | skipped
  deriving DecidableEq, Repr

/-- `model/affiliate_commission.go::AffiliateCommission` of an order. -/
structure AffiliateCommission where
  sourceId : Int
  inviteeId : Int
  inviterId : Int := 0
  commissionQuota : Int := 0
  status : CommissionStatus := .skipped
  deriving DecidableEq, Repr

structure OrderTables where
  base : Database
  orders : List SubscriptionOrder := []
  topUps : List TopUp := []
  commissions : List AffiliateCommission := []
  deriving DecidableEq, Repr

def OrderTables.order (tables : OrderTables) (tradeNo : String) : Option SubscriptionOrder :=
  lookup SubscriptionOrder.tradeNo tables.orders tradeNo

/-- What one report of the payment brings, and what the tables of channels and
tokens and the commission settings answer it. -/
structure CompletionCall where
  providerPayload : String := ""
  expectedPaymentProvider : String := ""
  actualPaymentMethod : String := ""
  now : Int
  reserveSlot : Option (Int × Int) := none
  allocateChannel : Option (Int × Int) := none
  refreshAccessToken : Bool := true
  commissionQuota : SubscriptionOrder → User → Int := fun _ _ => 0
  autoGrant : Bool := true

inductive CompleteError where
  | orderNotFound
  | paymentMethodMismatch
  | statusInvalid
  | planNotFound
  | slotNotReserved
  | create (error : CreateError)
  | channelNotAllocated
  | accessToken
  | recordNotFound
  deriving DecidableEq, Repr

/-! ## The parts of a completion -/

/-- `model/topup.go::inferPaymentProviderFromMethod`. -/
def inferPaymentProviderFromMethod (method : String) : String :=
  if trimSpace method = "stripe" then "stripe"
  else if trimSpace method = "creem" then "creem"
  else if trimSpace method = "waffo" then "waffo"
  else if trimSpace method = "waffo_pancake" then "waffo_pancake"
  else if trimSpace method ∈ ["redemption", "admin", ""] then ""
  else "epay"

/-- `PaymentGateway` of an order and of a top-up. -/
def paymentGateway (paymentProvider paymentMethod : String) : String :=
  if trimSpace paymentProvider ≠ "" then trimSpace paymentProvider
  else inferPaymentProviderFromMethod paymentMethod

def ensurePaymentProvider (order : SubscriptionOrder) (expectedProvider : String) :
    Except CompleteError SubscriptionOrder :=
  if expectedProvider = "" then .ok order
  else if paymentGateway order.paymentProvider order.paymentMethod ≠ expectedProvider then
    .error .paymentMethodMismatch
  else if order.paymentProvider = "" then .ok { order with paymentProvider := expectedProvider }
  else .ok order

def orderTerms (order : SubscriptionOrder) (db : Database) : Except CompleteError PlanTerms :=
  match buildSubscriptionPlanSnapshot order.terms with
  | some snapshot => .ok snapshot
  | none =>
    match db.plan order.planId with
    | some plan => .ok plan.terms
    | none => .error .planNotFound

def markCompleted (call : CompletionCall) (terms : PlanTerms) (order : SubscriptionOrder) :
    SubscriptionOrder :=
  { order with
    status := .success
    completeTime := call.now
    terms := { order.terms with deliveryMode := terms.deliveryMode }
    fulfillmentStatus :=
      if terms.deliveryMode = .manualDelivery then .pendingDelivery else .notRequired
    providerPayload := if call.providerPayload ≠ "" then call.providerPayload else order.providerPayload
    paymentMethod := if call.actualPaymentMethod ≠ "" then call.actualPaymentMethod
      else order.paymentMethod }

def isClaudeSeriesRequestCountManualDeliveryPlan (terms : PlanTerms) : Bool :=
  terms.resourceType = .requestCount && terms.deliveryMode = .manualDelivery &&
    (mentions (trimSpace terms.title) "claude" ||
      terms.allowedModels.any fun model => mentions (trimSpace model) "claude")

/-- `model/subscription.go::reserveManualDeliveryChannelSlotForOrderTx`, the
columns it sets on the order, for the plans that need a slot. -/
def reserveManualDeliveryChannelSlot (call : CompletionCall) (terms : PlanTerms)
    (order : SubscriptionOrder) : Except CompleteError SubscriptionOrder :=
  if !isClaudeSeriesRequestCountManualDeliveryPlan terms then .ok order
  else if order.reservedChannelId > 0 ∧ order.reservedChannelKeyIndex ≥ 0 then .ok order
  else match call.reserveSlot with
  | some (channelId, keyIndex) => .ok { order with
      reservedChannelId := channelId, reservedChannelKeyIndex := keyIndex }
  | none => .error .slotNotReserved

def leaveToAdmin (call : CompletionCall) (terms : PlanTerms) (order : SubscriptionOrder)
    (tables : OrderTables) : Except CompleteError OrderTables := do
  let order ← reserveManualDeliveryChannelSlot call terms order
  return { tables with orders := save SubscriptionOrder.id tables.orders order }

def bindPoolChannel (call : CompletionCall) (sub : UserSubscription) :
    Except CompleteError UserSubscription :=
  if sub.specificChannelId > 0 then .ok sub
  else match call.allocateChannel with
  | some (channelId, keyIndex) => .ok { sub with
      specificChannelId := channelId, specificChannelKeyIndex := keyIndex }
  | none => .error .channelNotAllocated

/-- `model/subscription.go::provisionAggregateAccessForSubscriptionTx`, the
columns it sets on the subscription. -/
def provisionAggregateAccess (call : CompletionCall) (sub : UserSubscription) :
    Except CompleteError UserSubscription :=
  if sub.id ≤ 0 ∨ sub.userId ≤ 0 then .ok sub
  else if sub.resourceType ≠ .requestCount then .ok sub
  else if !hasPrefix (getUserSubscriptionRouteGroup sub) "sub_plan_" then .ok sub
  else if sub.specificChannelId ≤ 0 ∧ sub.planId ≤ 0 then .ok sub
  else bindPoolChannel call sub >>= fun sub =>
    if call.refreshAccessToken then .ok sub else .error .accessToken

/-- `model/subscription.go::upsertSubscriptionTopUpTx`. -/
def upsertSubscriptionTopUp (order : SubscriptionOrder) (now : Int) (topUps : List TopUp) :
    Except CompleteError (List TopUp) :=
  let gateway := paymentGateway order.paymentProvider order.paymentMethod
  match lookup TopUp.tradeNo topUps order.tradeNo with
  | none => .ok (topUps ++ [{
      userId := order.userId
      tradeNo := order.tradeNo
      paymentMethod := order.paymentMethod
      paymentProvider := gateway
      createTime := order.createTime
      completeTime := now
      status := .success }])
  | some topUp =>
    let known := paymentGateway topUp.paymentProvider topUp.paymentMethod
    if known ≠ "" ∧ gateway ≠ "" ∧ known ≠ gateway then .error .paymentMethodMismatch
    else .ok (save TopUp.tradeNo topUps { topUp with
      paymentProvider := if topUp.paymentProvider = "" then gateway else topUp.paymentProvider
      paymentMethod := if topUp.paymentMethod = "" then order.paymentMethod else topUp.paymentMethod
      createTime := if topUp.createTime = 0 then order.createTime else topUp.createTime
      completeTime := now
      status := .success })

/-- `model/affiliate_commission.go::GrantAffiliateCommissionForSubscriptionOrderTx`.
An order has one commission at most. -/
def grantAffiliateCommission (call : CompletionCall) (order : SubscriptionOrder)
    (tables : OrderTables) : Except CompleteError OrderTables :=
  if order.id ≤ 0 ∨ order.userId ≤ 0 then .ok tables
  else if (lookup AffiliateCommission.sourceId tables.commissions order.id).isSome then .ok tables
  else match lookup User.id tables.base.users order.userId with
  | none => .error .recordNotFound
  | some invitee =>
    let skipped : AffiliateCommission := { sourceId := order.id, inviteeId := invitee.id }
    let commission := match lookup User.id tables.base.users invitee.inviterId with
      | none => if invitee.inviterId ≤ 0 then skipped
        else { skipped with inviterId := invitee.inviterId }
      | some inviter =>
        if invitee.inviterId ≤ 0 then skipped
        else if call.commissionQuota order inviter ≤ 0 then
          { skipped with inviterId := invitee.inviterId }
        else { skipped with
          inviterId := invitee.inviterId
          commissionQuota := call.commissionQuota order inviter
          status := if call.autoGrant then .granted else .pending }
    .ok { tables with commissions := tables.commissions ++ [commission] }

def activate (calendar : Calendar) (call : CompletionCall) (terms : PlanTerms)
    (order : SubscriptionOrder) (tables : OrderTables) : Except CompleteError OrderTables := do
  let (base, sub) ← (createUserSubscriptionFromPlan calendar order.userId order.planId terms .order
    call.now tables.base).mapError .create
  let sub ← provisionAggregateAccess call { sub with
    sourceOrderId := order.id, sourceOrderTradeNo := order.tradeNo, updatedAt := call.now }
  let topUps ← upsertSubscriptionTopUp order call.now tables.topUps
  grantAffiliateCommission call order { tables with
    base := base.saveSubscription sub
    topUps := topUps
    orders := save SubscriptionOrder.id tables.orders order }

def deliver (calendar : Calendar) (call : CompletionCall) (terms : PlanTerms)
    (order : SubscriptionOrder) (tables : OrderTables) : Except CompleteError OrderTables :=
  match terms.deliveryMode with
  | .manualDelivery => leaveToAdmin call terms order tables
  | .autoActivate => activate calendar call terms order tables

/-- `model/subscription.go::CompleteSubscriptionOrderWithResult` from the order
it has read, and whether this call completed it. -/
def completeSubscriptionOrder (calendar : Calendar) (call : CompletionCall)
    (held : Option SubscriptionOrder) (tables : OrderTables) :
    Except CompleteError (OrderTables × Bool) :=
  match held with
  | none => .error .orderNotFound
  | some order =>
    ensurePaymentProvider order call.expectedPaymentProvider >>= fun order =>
      match order.status with
      | .success => .ok (tables, false)
      | .pending => do
        let terms ← orderTerms order tables.base
        let tables ← deliver calendar call terms (markCompleted call terms order) tables
        return (tables, order.userId > 0)
      | _ => .error .statusInvalid

/-! ## What a completion can do -/

section Cases
variable {calendar : Calendar} {call : CompletionCall} {order : SubscriptionOrder}
variable {tables after : OrderTables} {terms : PlanTerms}

structure SameOrder (before after : SubscriptionOrder) : Prop where
  id : after.id = before.id
  userId : after.userId = before.userId
  planId : after.planId = before.planId
  tradeNo : after.tradeNo = before.tradeNo

theorem ensure_provider_keeps
    (ensured : ensurePaymentProvider order expected = .ok checked) :
    ∃ provider, checked = { order with paymentProvider := provider } := by
  unfold ensurePaymentProvider at ensured
  repeat' split at ensured
  all_goals cases ensured
  · exact ⟨order.paymentProvider, rfl⟩
  · exact ⟨expected, rfl⟩
  · exact ⟨order.paymentProvider, rfl⟩

theorem provision_keeps
    (provision : provisionAggregateAccess call sub = .ok provisioned) :
    ∃ channelId keyIndex, provisioned = { sub with
      specificChannelId := channelId, specificChannelKeyIndex := keyIndex } := by
  unfold provisionAggregateAccess at provision
  iterate 4
    split at provision
    · cases provision
      exact ⟨_, _, rfl⟩
  obtain ⟨bound, allocated, rest⟩ := except_bind_ok_iff.mp provision
  have shape : ∃ channelId keyIndex, bound = { sub with
      specificChannelId := channelId, specificChannelKeyIndex := keyIndex } := by
    unfold bindPoolChannel at allocated
    repeat' split at allocated
    all_goals cases allocated
    · exact ⟨_, _, rfl⟩
    · exact ⟨_, _, rfl⟩
  split at rest
  · cases rest
    exact shape
  · cases rest

theorem reserve_keeps
    (reserve : reserveManualDeliveryChannelSlot call terms order = .ok reserved) :
    ∃ channelId keyIndex, reserved = { order with
      reservedChannelId := channelId, reservedChannelKeyIndex := keyIndex } := by
  unfold reserveManualDeliveryChannelSlot at reserve
  repeat' split at reserve
  all_goals cases reserve
  · exact ⟨_, _, rfl⟩
  · exact ⟨_, _, rfl⟩
  · exact ⟨_, _, rfl⟩

theorem commission_keeps (granted : grantAffiliateCommission call order tables = .ok after) :
    after.base = tables.base ∧ after.orders = tables.orders := by
  unfold grantAffiliateCommission at granted
  repeat' split at granted
  all_goals cases granted
  all_goals exact ⟨rfl, rfl⟩

theorem activate_cases (activated : activate calendar call terms order tables = .ok after) :
    ∃ created sub, createUserSubscriptionFromPlan calendar order.userId order.planId terms .order
        call.now tables.base = .ok created ∧
      sub.id = created.2.id ∧ sub.userId = created.2.userId ∧ sub.planId = created.2.planId ∧
      sub.parentUserSubscriptionId = created.2.parentUserSubscriptionId ∧
      sub.sourceOrderId = order.id ∧ sub.sourceOrderTradeNo = order.tradeNo ∧
      after.base = created.1.saveSubscription sub ∧
      after.orders = save SubscriptionOrder.id tables.orders order := by
  obtain ⟨⟨base, row⟩, issued, rest⟩ := except_bind_ok_iff.mp activated
  obtain ⟨sub, provision, rest⟩ := except_bind_ok_iff.mp rest
  obtain ⟨topUps, -, granted⟩ := except_bind_ok_iff.mp rest
  obtain ⟨sameBase, sameOrders⟩ := commission_keeps granted
  obtain ⟨channelId, keyIndex, shape⟩ := provision_keeps provision
  have created : createUserSubscriptionFromPlan calendar order.userId order.planId terms .order
      call.now tables.base = .ok (base, row) := by
    cases outcome : createUserSubscriptionFromPlan calendar order.userId order.planId terms .order
      call.now tables.base with
    | error error => simp [outcome, Except.mapError] at issued
    | ok result => simpa [outcome, Except.mapError] using issued
  exact ⟨(base, row), sub, created, by rw [shape], by rw [shape], by rw [shape], by rw [shape],
    by rw [shape], by rw [shape], sameBase, sameOrders⟩

theorem deliver_writes (delivery : deliver calendar call terms order tables = .ok after) :
    (terms.deliveryMode = .manualDelivery ∧ after.base = tables.base ∧
      ∃ channelId keyIndex, after.orders = save SubscriptionOrder.id tables.orders { order with
        reservedChannelId := channelId, reservedChannelKeyIndex := keyIndex }) ∨
    (terms.deliveryMode = .autoActivate ∧
      after.orders = save SubscriptionOrder.id tables.orders order ∧
      ∃ created sub, createUserSubscriptionFromPlan calendar order.userId order.planId terms .order
          call.now tables.base = .ok created ∧
        sub.id = created.2.id ∧ sub.userId = created.2.userId ∧ sub.planId = created.2.planId ∧
        sub.parentUserSubscriptionId = created.2.parentUserSubscriptionId ∧
        sub.sourceOrderId = order.id ∧ sub.sourceOrderTradeNo = order.tradeNo ∧
        after.base = created.1.saveSubscription sub) := by
  unfold deliver at delivery
  split at delivery
  · rename_i manual
    obtain ⟨reserved, reserve, rest⟩ := except_bind_ok_iff.mp delivery
    cases rest
    obtain ⟨channelId, keyIndex, rfl⟩ := reserve_keeps reserve
    exact .inl ⟨manual, rfl, channelId, keyIndex, rfl⟩
  · rename_i auto
    obtain ⟨created, sub, issued, id, user, plan, parent, source, tradeNo, base, orders⟩ :=
      activate_cases delivery
    exact .inr ⟨auto, orders, created, sub, issued, id, user, plan, parent, source, tradeNo, base⟩

theorem complete_delivers
    (outcome : completeSubscriptionOrder calendar call held tables = .ok (after, completedNow)) :
    ∃ order, held = some order ∧ ((order.status = .success ∧ after = tables) ∨
      ∃ terms provider, order.status = .pending ∧ orderTerms order tables.base = .ok terms ∧
        deliver calendar call terms
          (markCompleted call terms { order with paymentProvider := provider }) tables = .ok after) := by
  unfold completeSubscriptionOrder at outcome
  cases held with
  | none => cases outcome
  | some order =>
    refine ⟨order, rfl, ?_⟩
    obtain ⟨checked, ensured, rest⟩ := except_bind_ok_iff.mp outcome
    obtain ⟨provider, rfl⟩ := ensure_provider_keeps ensured
    split at rest
    · rename_i done
      cases rest
      exact .inl ⟨done, rfl⟩
    · rename_i pending
      obtain ⟨terms, snapshot, rest⟩ := except_bind_ok_iff.mp rest
      obtain ⟨delivered, delivery, rest⟩ := except_bind_ok_iff.mp rest
      cases rest
      exact .inr ⟨terms, provider, pending, snapshot, delivery⟩
    · cases rest

theorem complete_cases
    (outcome : completeSubscriptionOrder calendar call held tables = .ok (after, completedNow)) :
    ∃ order, held = some order ∧
      ((order.status = .success ∧ after = tables) ∨
        ∃ terms completed, order.status = .pending ∧ orderTerms order tables.base = .ok terms ∧
          SameOrder order completed ∧ completed.status = .success ∧
          after.orders = save SubscriptionOrder.id tables.orders completed ∧
          ((terms.deliveryMode = .manualDelivery ∧ after.base = tables.base) ∨
            (terms.deliveryMode = .autoActivate ∧ ∃ created sub,
              createUserSubscriptionFromPlan calendar order.userId order.planId terms .order
                call.now tables.base = .ok created ∧
              sub.id = created.2.id ∧ sub.userId = created.2.userId ∧
              sub.planId = created.2.planId ∧
              sub.parentUserSubscriptionId = created.2.parentUserSubscriptionId ∧
              sub.sourceOrderTradeNo = order.tradeNo ∧
              after.base = created.1.saveSubscription sub))) := by
  obtain ⟨order, read, done | ⟨terms, provider, pending, snapshot, delivery⟩⟩ :=
    complete_delivers outcome
  · exact ⟨order, read, .inl done⟩
  refine ⟨order, read, .inr ?_⟩
  rcases deliver_writes delivery with ⟨manual, base, channelId, keyIndex, orders⟩ |
    ⟨auto, orders, created, sub, issued, id, user, plan, parent, -, tradeNo, base⟩
  · refine ⟨terms, _, pending, snapshot, ?_, ?_, orders, .inl ⟨manual, base⟩⟩
    · exact ⟨rfl, rfl, rfl, rfl⟩
    · rfl
  · refine ⟨terms, _, pending, snapshot, ?_, ?_, orders,
      .inr ⟨auto, created, sub, issued, id, user, plan, parent, tradeNo, base⟩⟩
    · exact ⟨rfl, rfl, rfl, rfl⟩
    · rfl

end Cases

/-! ## Delivered once -/

def deliveries (tradeNo : String) (db : Database) : Nat :=
  (db.subscriptions.filter fun sub => sub.sourceOrderTradeNo = tradeNo).length

/-- One payment is delivered once: one subscription, one unit of the stock, and
one purchase of the user. -/
structure DeliveredOnce (start : OrderTables) (order : SubscriptionOrder) (tables : OrderTables) :
    Prop where
  subscription : deliveries order.tradeNo tables.base ≤ 1
  stock : ∀ plan stored, start.base.plan order.planId = some plan →
    tables.base.plan order.planId = some stored → stored.soldCount ≤ plan.soldCount + 1
  purchases : countPlanPurchases tables.base order.userId order.planId ≤
    countPlanPurchases start.base order.userId order.planId + 1

def WaitsForAdmin (order : SubscriptionOrder) (db : Database) : Prop :=
  ∃ terms, orderTerms order db = .ok terms ∧ terms.deliveryMode = .manualDelivery

/-- The books of one order: each of its deliveries took one unit of the stock
and counts as one purchase, and none came before the order was completed. -/
structure Ledger (start : OrderTables) (order : SubscriptionOrder) (tables : OrderTables) :
    Prop where
  fresh : ∀ sub ∈ tables.base.subscriptions, sub.id < tables.base.nextSubscriptionId
  plan : tables.base.plan order.planId = (start.base.plan order.planId).map fun plan =>
    { plan with soldCount := plan.soldCount + deliveries order.tradeNo tables.base }
  purchases : countPlanPurchases tables.base order.userId order.planId =
    countPlanPurchases start.base order.userId order.planId + deliveries order.tradeNo tables.base
  stored : ∃ stored, tables.order order.tradeNo = some stored ∧
    ((stored = order ∧ deliveries order.tradeNo tables.base = 0) ∨
      (stored.status = .success ∧ stored.id = order.id ∧
        (WaitsForAdmin order start.base ∨ 0 < deliveries order.tradeNo tables.base)))

section Once
variable {calendar : Calendar} {call : CompletionCall} {start tables after : OrderTables}
variable {order : SubscriptionOrder}

theorem ledger_terms (ledger : Ledger start order tables) :
    orderTerms order tables.base = orderTerms order start.base := by
  unfold orderTerms
  rw [ledger.plan]
  cases buildSubscriptionPlanSnapshot order.terms with
  | some snapshot => rfl
  | none => cases start.base.plan order.planId <;> rfl

theorem delivery_counted
    (fresh : ∀ sub ∈ db.subscriptions, sub.id < db.nextSubscriptionId)
    (issued : createUserSubscriptionFromPlan calendar order.userId order.planId terms .order call.now
      db = .ok created)
    (id : sub.id = created.2.id) (user : sub.userId = created.2.userId)
    (planId : sub.planId = created.2.planId)
    (parent : sub.parentUserSubscriptionId = created.2.parentUserSubscriptionId)
    (tradeNo : sub.sourceOrderTradeNo = order.tradeNo)
    (saved : base = created.1.saveSubscription sub) :
    base.subscriptions = db.subscriptions ++ [sub] ∧
      base.nextSubscriptionId = db.nextSubscriptionId + 1 ∧ sub.id = db.nextSubscriptionId ∧
      deliveries order.tradeNo base = deliveries order.tradeNo db + 1 ∧
      base.plan order.planId =
        (db.plan order.planId).map (fun plan => { plan with soldCount := plan.soldCount + 1 }) ∧
      countPlanPurchases base order.userId order.planId =
        countPlanPurchases db order.userId order.planId + 1 := by
  obtain ⟨plan, effective, endUnix, -, found, -, -, row, shape⟩ := create_cases issued
  have key : plan.id = order.planId := lookup_key found
  have next : sub.id = db.nextSubscriptionId := by rw [id, row]; rfl
  have grown : base.subscriptions = db.subscriptions ++ [sub] := by
    rw [saved, shape]
    refine save_append_one (fun old member => ?_) id.symm
    have := fresh old member
    omega
  refine ⟨grown, by rw [saved, shape]; rfl, next, ?_, ?_, ?_⟩
  · simp [deliveries, grown, List.filter_append, tradeNo]
  · rw [saved, shape]
    simp only [Database.plan, Database.saveSubscription]
    rw [lookup_update]
    · rw [if_pos key.symm]
    · exact fun _ => rfl
  · have mine : sub.userId = order.userId ∧ sub.planId = order.planId ∧
        sub.parentUserSubscriptionId = 0 := by
      rw [user, planId, parent, row]
      exact ⟨rfl, key, rfl⟩
    simp [countPlanPurchases, grown, List.filter_append, mine]

def HeldOrder (order : SubscriptionOrder) (held : Option SubscriptionOrder) : Prop :=
  held = some order ∨ ∃ stored, held = some stored ∧ stored.status = .success

def OrderCurrent (tradeNo : String) (held : Option SubscriptionOrder) (tables after : OrderTables) : Prop :=
  (∃ sub, after.base.subscriptions = tables.base.subscriptions ++ [sub]) → tables.order tradeNo = held

theorem ledger_completed
    (pending : order.status = .pending) (ledger : Ledger start order tables)
    (holds : HeldOrder order held)
    (outcome : completeSubscriptionOrder calendar call held tables = .ok (after, completedNow)) :
    Ledger start order after ∧
      (after.base = tables.base ∨
        (held = some order ∧ ¬ WaitsForAdmin order start.base ∧
          (∃ sub, after.base.subscriptions = tables.base.subscriptions ++ [sub]) ∧
          deliveries order.tradeNo after.base = deliveries order.tradeNo tables.base + 1)) := by
  obtain ⟨mine, rfl, ⟨-, rfl⟩ | ⟨terms, completed, unpaid, snapshot, same, success, orders, delivery⟩⟩ :=
    complete_cases outcome
  · exact ⟨ledger, .inl rfl⟩
  · have original : mine = order := by
      rcases holds with same | ⟨stored, same, done⟩
      · exact Option.some.inj same
      · rw [← Option.some.inj same, unpaid] at done
        cases done
    subst original
    obtain ⟨stored, found, progress⟩ := ledger.stored
    have storedId : stored.id = mine.id := by
      rcases progress with ⟨rfl, -⟩ | ⟨-, key, -⟩
      · rfl
      · exact key
    have written : after.order mine.tradeNo = some completed := by
      unfold OrderTables.order
      rw [orders]
      exact lookup_save_by found (storedId.trans same.id.symm) same.tradeNo
    rcases delivery with ⟨manual, base⟩ |
      ⟨auto, created, sub, issued, id, user, planId, parent, tradeNo, base⟩
    · have waits : WaitsForAdmin mine start.base :=
        ⟨terms, (ledger_terms ledger).symm.trans snapshot, manual⟩
      refine ⟨⟨?_, ?_, ?_, completed, written, .inr ⟨success, same.id, .inl waits⟩⟩, .inl base⟩
      · rw [base]
        exact ledger.fresh
      · rw [base]
        exact ledger.plan
      · rw [base]
        exact ledger.purchases
    · obtain ⟨grown, next, key, count, plan, purchases⟩ :=
        delivery_counted ledger.fresh issued id user planId parent tradeNo base
      refine ⟨⟨?_, ?_, ?_, completed, written, .inr ⟨success, same.id, .inr (by omega)⟩⟩,
        .inr ⟨rfl, ?_, ⟨sub, grown⟩, count⟩⟩
      · intro other member
        rw [grown] at member
        rw [next]
        rcases List.mem_append.mp member with old | new
        · have := ledger.fresh other old
          omega
        · rw [List.mem_singleton.mp new]
          omega
      · rw [plan, ledger.plan, count, Option.map_map]
        refine congrFun (congrArg Option.map (funext fun plan => ?_)) _
        simp only [Function.comp_apply, SubscriptionPlan.mk.injEq, true_and]
        omega
      · rw [purchases, ledger.purchases, count]
        omega
      · rintro ⟨other, again, manual⟩
        rw [← ledger_terms ledger, snapshot, Except.ok.injEq] at again
        rw [again, manual] at auto
        cases auto

theorem delivered_once_iff (ledger : Ledger start order tables) :
    DeliveredOnce start order tables ↔ deliveries order.tradeNo tables.base ≤ 1 := by
  refine ⟨fun once => once.subscription, fun once => ⟨once, fun plan stored found held => ?_, ?_⟩⟩
  · rw [ledger.plan, found, Option.map_some, Option.some.injEq] at held
    rw [← held]
    dsimp only
    omega
  · rw [ledger.purchases]
    omega

theorem commit_delivers_once_iff
    (pending : order.status = .pending) (ledger : Ledger start order tables)
    (once : DeliveredOnce start order tables) (holds : HeldOrder order held)
    (outcome : completeSubscriptionOrder calendar call held tables = .ok (after, completedNow)) :
    DeliveredOnce start order after ↔ OrderCurrent order.tradeNo held tables after := by
  obtain ⟨next, base | ⟨rfl, auto, grown, count⟩⟩ := ledger_completed pending ledger holds outcome
  · rw [delivered_once_iff next, base, ← delivered_once_iff ledger]
    refine ⟨fun _ ⟨sub, grown⟩ => ?_, fun _ => once⟩
    rw [base] at grown
    simp at grown
  · rw [delivered_once_iff next, count]
    obtain ⟨stored, found, ⟨rfl, none_yet⟩ | ⟨success, -, waits | delivered⟩⟩ := ledger.stored
    · exact ⟨fun _ _ => found, fun _ => by omega⟩
    · exact absurd waits auto
    · constructor
      · omega
      · intro current
        have unchanged := found.symm.trans (current grown)
        rw [← Option.some.inj unchanged, success] at pending
        cases pending

end Once

/-! ## Every interleaving -/

def completionTransaction (calendar : Calendar) (tradeNo : String) (call : CompletionCall) :
    Transaction OrderTables (Option SubscriptionOrder) where
  read tables := tables.order tradeNo
  write held tables :=
    if tradeNo = "" then none
    else (completeSubscriptionOrder calendar call held tables).toOption.map Prod.fst

/-- The tables before the payment: the order is pending, nothing was issued for
it, and the next subscription gets a new id. -/
structure Unpaid (start : OrderTables) (order : SubscriptionOrder) : Prop where
  found : start.order order.tradeNo = some order
  pending : order.status = .pending
  undelivered : deliveries order.tradeNo start.base = 0
  fresh : ∀ sub ∈ start.base.subscriptions, sub.id < start.base.nextSubscriptionId

section Calls
variable {Id : Type*} {calendar : Calendar} {calls : Id → CompletionCall}
variable {start tables after : OrderTables} {order : SubscriptionOrder}

theorem unpaid_ledger (unpaid : Unpaid start order) :
    Ledger start order start ∧ DeliveredOnce start order start := by
  have ledger : Ledger start order start := by
    refine ⟨unpaid.fresh, ?_, ?_, order, unpaid.found, .inl ⟨rfl, unpaid.undelivered⟩⟩
    · rw [unpaid.undelivered]
      cases start.base.plan order.planId <;> simp
    · simp [unpaid.undelivered]
  refine ⟨ledger, (delivered_once_iff ledger).mpr ?_⟩
  rw [unpaid.undelivered]
  exact Nat.zero_le 1

theorem transaction_completes
    (written : (completionTransaction calendar tradeNo call).write held tables = some after) :
    ∃ completedNow, completeSubscriptionOrder calendar call held tables = .ok (after, completedNow) := by
  simp only [completionTransaction] at written
  split at written
  · cases written
  · cases outcome : completeSubscriptionOrder calendar call held tables with
    | error error => simp [outcome, Except.toOption] at written
    | ok result =>
      simp only [outcome, Except.toOption, Option.map_some, Option.some.injEq] at written
      exact ⟨result.2, by rw [← written]⟩

theorem keeps_ledger (pending : order.status = .pending) :
    ReadCommitted.Keeps (fun id => completionTransaction calendar order.tradeNo (calls id))
      (Ledger start order) (HeldOrder order) where
  reads id tables ledger := by
    obtain ⟨stored, found, ⟨rfl, -⟩ | ⟨success, -⟩⟩ := ledger.stored
    · exact .inl found
    · exact .inr ⟨stored, found, success⟩
  writes id held tables after ledger holds written := by
    obtain ⟨completedNow, outcome⟩ := transaction_completes written
    exact (ledger_completed pending ledger holds outcome).1

variable [DecidableEq Id]

/-- The legacy read takes no lock. In every interleaving of calls for a trade
number, the payment is delivered once at most after every event, exactly when
every commit that issues a subscription finds the order as it read it. -/
theorem delivered_once_iff_order_current (unpaid : Unpaid start order)
    (events : List (ReadCommitted.Event Id)) :
    (∀ done, done <+: events → DeliveredOnce start order
        (run (ReadCommitted.step
          (fun id => completionTransaction calendar order.tradeNo (calls id)) queryOption)
          (idle start) done).shared) ↔
      Guarded (ReadCommitted.step
          (fun id => completionTransaction calendar order.tradeNo (calls id)) queryOption)
        (ReadCommitted.Commits (fun id => completionTransaction calendar order.tradeNo (calls id))
          (OrderCurrent order.tradeNo)) (idle start) events := by
  obtain ⟨ledger, once⟩ := unpaid_ledger unpaid
  refine ReadCommitted.always_safe_iff_commits queryOption (keeps_ledger unpaid.pending)
    (fun id held tables after ledger once holds written => ?_) ledger once events
  obtain ⟨completedNow, outcome⟩ := transaction_completes written
  exact commit_delivers_once_iff unpaid.pending ledger once holds outcome

end Calls

def lastUnit : SubscriptionOrder where
  id := 5
  userId := 7
  planId := 1
  terms := { durationUnit := .day, durationValue := 30, totalAmount := 100 }
  tradeNo := "T5"
  paymentMethod := "stripe"

def lastUnitShop : OrderTables where
  base := { users := [{ id := 7 }]
            plans := [{ id := 1, terms := lastUnit.terms, saleLimitCount := 1 }] }
  orders := [lastUnit]

def twoReports (second : Bool) : CompletionCall where
  expectedPaymentProvider := "stripe"
  now := if second then 1001 else 1000

theorem last_unit_unpaid : Unpaid lastUnitShop lastUnit := ⟨by decide, rfl, by decide, by decide⟩

def reportsTogether : List (ReadCommitted.Event Bool) :=
  [.read false, .read true, .finish false, .finish true]

/-- One payment is delivered twice. -/
theorem payment_delivered_twice :
    ¬ ∀ (calendar : Calendar) (calls : Bool → CompletionCall) (start : OrderTables)
      (order : SubscriptionOrder) (events : List (ReadCommitted.Event Bool)), Unpaid start order →
      DeliveredOnce start order (run (ReadCommitted.step
        (fun id => completionTransaction calendar order.tradeNo (calls id)) queryOption)
          (idle start) events).shared := by
  intro always
  have once := (always dayCount twoReports lastUnitShop lastUnit reportsTogether
    last_unit_unpaid).subscription
  revert once
  decide

def reportsInTurn : List (ReadCommitted.Event Bool) :=
  [.read false, .finish false, .read true, .finish true]

theorem reports_in_turn_deliver_once :
    DeliveredOnce lastUnitShop lastUnit (run (ReadCommitted.step
      (fun id => completionTransaction dayCount lastUnit.tradeNo (twoReports id)) queryOption)
        (idle lastUnitShop) reportsInTurn).shared := by
  refine (delivered_once_iff_order_current last_unit_unpaid reportsInTurn).mpr
    ⟨trivial, ?_, trivial, ?_, trivial⟩ reportsInTurn (List.prefix_refl _)
  · rintro held after reading - -
    cases reading
    rfl
  · rintro held after reading - -
    cases reading
    rfl

end NewApi.OrderCompletion
