import Mathlib.Data.List.Perm.Basic
import NewApi.ManualDelivery

/-! What counts against the purchase limit of a plan: the subscriptions of the
user, and the orders that an admin delivers by hand. Each order of a user moves
through its life in one of a few ways, some of which issue a subscription for it.
What is proved is how often the count takes an order over any history of orders
and deliveries, and so for exactly which histories it is the number of
purchases. -/
namespace NewApi.PurchaseCounts
open NewApi.KeyedTable
open NewApi.ResetWindow (Calendar dayCount)
open NewApi.Subscription (UserSubscription except_bind_ok_iff)
open NewApi.SubscriptionStore hiding step Event
open NewApi.OrderCompletion hiding Ledger deliver
open NewApi.ManualDelivery hiding step Event
open NewApi.GroupUpgrade (cancelRow moveUser)

/-! ## The life of an order -/

structure Sale where
  id : Int
  userId : Int
  planId : Int
  status : PaymentStatus
  deliveryMode : DeliveryMode
  fulfillmentStatus : FulfillmentStatus
  deriving DecidableEq, Repr

structure Holding where
  id : Int
  userId : Int
  planId : Int
  parentUserSubscriptionId : Int
  sourceOrderId : Int
  deriving DecidableEq, Repr

structure Ledger where
  sales : List Sale
  holdings : List Holding
  nextSubscriptionId : Int

/-- What can happen to an order, and whether it issues a subscription: a payment
activates it or leaves it to an admin, who delivers it by hand, with or without a
subscription that the server issues, or rejects it. -/
inductive Handled : Sale → Sale → Bool → Prop
  | activate (sale : Sale) : sale.status = .pending →
    Handled sale { sale with
      status := .success
      deliveryMode := .autoActivate
      fulfillmentStatus := .notRequired } true
  | leave_ (sale : Sale) : sale.status = .pending →
    Handled sale { sale with
      status := .success
      deliveryMode := .manualDelivery
      fulfillmentStatus := .pendingDelivery } false
  | deliver (sale : Sale) (issues : Bool) : sale.status = .success →
    sale.deliveryMode = .manualDelivery →
    Handled sale { sale with fulfillmentStatus := .delivered } issues
  | reject (sale : Sale) : sale.status = .success → sale.deliveryMode = .manualDelivery →
    sale.fulfillmentStatus ≠ .delivered →
    Handled sale { sale with fulfillmentStatus := .rejected } false

def holdingOf (ledger : Ledger) (sale : Sale) : Holding :=
  { id := ledger.nextSubscriptionId
    userId := sale.userId
    planId := sale.planId
    parentUserSubscriptionId := 0
    sourceOrderId := sale.id }

def Ledger.issue (ledger : Ledger) (holding : Holding) : Ledger :=
  { ledger with
    holdings := ledger.holdings ++ [holding]
    nextSubscriptionId := ledger.nextSubscriptionId + 1 }

def Ledger.saveSale (ledger : Ledger) (sale : Sale) : Ledger :=
  { ledger with sales := save Sale.id ledger.sales sale }

/-- One step of a ledger. An order issues a subscription only if it has none. -/
inductive Moves (ledger : Ledger) : Ledger → Prop
  | kept : Moves ledger ledger
  | ordered (sale : Sale) : 0 < sale.id → (∀ old ∈ ledger.sales, old.id ≠ sale.id) →
    sale.status = .pending → Moves ledger { ledger with sales := ledger.sales ++ [sale] }
  | given (holding : Holding) : holding.id = ledger.nextSubscriptionId →
    holding.sourceOrderId = 0 → Moves ledger (ledger.issue holding)
  | handled (sale sold : Sale) : sale ∈ ledger.sales → Handled sale sold false →
    Moves ledger (ledger.saveSale sold)
  | issued (sale sold : Sale) : sale ∈ ledger.sales → Handled sale sold true →
    (∀ holding ∈ ledger.holdings, holding.sourceOrderId ≠ sale.id) →
    Moves ledger ((ledger.issue (holdingOf ledger sale)).saveSale sold)

/-- A subscription that came from an order came from a paid one, which an admin
has delivered unless the payment activated it. -/
structure IssuedBy (holding : Holding) (sale : Sale) : Prop where
  source : sale.id = holding.sourceOrderId
  user : sale.userId = holding.userId
  plan : sale.planId = holding.planId
  whole : holding.parentUserSubscriptionId = 0
  paid : sale.status = .success
  delivered : sale.deliveryMode = .manualDelivery → sale.fulfillmentStatus = .delivered

/-- The books of a shop: no two subscriptions came from one order, and each
order that a payment activated has its subscription. -/
structure Sound (ledger : Ledger) : Prop where
  numbered : (ledger.sales.map Sale.id).Nodup
  positive : ∀ sale ∈ ledger.sales, 0 < sale.id
  fresh : ∀ holding ∈ ledger.holdings, holding.id < ledger.nextSubscriptionId
  unique : (ledger.holdings.map Holding.id).Nodup
  once : ((ledger.holdings.filter fun holding => holding.sourceOrderId ≠ 0).map Holding.sourceOrderId).Nodup
  issued : ∀ holding ∈ ledger.holdings, holding.sourceOrderId ≠ 0 →
    ∃ sale ∈ ledger.sales, IssuedBy holding sale
  activated : ∀ sale ∈ ledger.sales, sale.status = .success →
    sale.deliveryMode = .autoActivate → ∃ holding ∈ ledger.holdings, holding.sourceOrderId = sale.id

section Steps
variable {ledger : Ledger} {sale sold : Sale} {issues : Bool}

theorem handled_same (handled : Handled sale sold issues) :
    sold.id = sale.id ∧ sold.userId = sale.userId ∧ sold.planId = sale.planId ∧ sold.status = .success := by
  cases handled with
  | activate | leave_ => exact ⟨rfl, rfl, rfl, rfl⟩
  | deliver _ paid => exact ⟨rfl, rfl, rfl, paid⟩
  | reject paid => exact ⟨rfl, rfl, rfl, paid⟩

theorem mem_save_sale :
    other ∈ save Sale.id sales sold ↔
      (other = sold ∧ ∃ old ∈ sales, old.id = sold.id) ∨ (other ∈ sales ∧ other.id ≠ sold.id) := by
  unfold save
  rw [List.mem_map]
  constructor
  · rintro ⟨old, member, rfl⟩
    by_cases same : old.id = sold.id
    · exact .inl ⟨if_pos same, old, member, same⟩
    · rw [if_neg same]
      exact .inr ⟨member, same⟩
  · rintro (⟨rfl, old, member, same⟩ | ⟨member, other_⟩)
    · exact ⟨old, member, if_pos same⟩
    · exact ⟨other, member, if_neg other_⟩

theorem sale_unique (sound : Sound ledger) (member : sale ∈ ledger.sales)
    (held : other ∈ ledger.sales) (same : other.id = sale.id) : other = sale :=
  List.inj_on_of_nodup_map sound.numbered held member same

theorem issue_once (sound : Sound ledger) {holding : Holding}
    (new : ∀ old ∈ ledger.holdings, holding.sourceOrderId ≠ 0 → old.sourceOrderId ≠ holding.sourceOrderId) :
    (((ledger.issue holding).holdings.filter fun holding => holding.sourceOrderId ≠ 0).map
      Holding.sourceOrderId).Nodup := by
  unfold Ledger.issue
  rw [List.filter_append, List.map_append]
  by_cases none_ : holding.sourceOrderId = 0
  · simpa [none_] using sound.once
  · simp only [ne_eq, List.filter_singleton, none_, not_false_eq_true, decide_true,
      List.nodup_append]
    refine ⟨by simpa using sound.once, List.nodup_singleton _, ?_⟩
    intro source member last same
    obtain ⟨old, held, rfl⟩ := List.mem_map.mp member
    rw [List.mem_singleton.mp same]
    exact new old (List.mem_filter.mp held).1 none_

theorem issue_numbered (sound : Sound ledger) {holding : Holding}
    (next : holding.id = ledger.nextSubscriptionId) :
    (∀ old ∈ (ledger.issue holding).holdings, old.id < (ledger.issue holding).nextSubscriptionId) ∧
      ((ledger.issue holding).holdings.map Holding.id).Nodup := by
  unfold Ledger.issue
  constructor
  · intro old member
    dsimp only at member ⊢
    rcases List.mem_append.mp member with held | new
    · have := sound.fresh old held
      omega
    · rw [List.mem_singleton.mp new, next]
      omega
  · rw [List.map_append, List.map_singleton, List.nodup_append]
    refine ⟨sound.unique, List.nodup_singleton _, ?_⟩
    intro id member last same
    obtain ⟨old, held, rfl⟩ := List.mem_map.mp member
    have := sound.fresh old held
    rw [List.mem_singleton.mp same, next]
    omega

theorem handled_issued (sound : Sound ledger) (member : sale ∈ ledger.sales)
    (handled : Handled sale sold issues) {holding : Holding} (held : holding ∈ ledger.holdings)
    (source : holding.sourceOrderId ≠ 0) :
    ∃ other ∈ save Sale.id ledger.sales sold, IssuedBy holding other := by
  obtain ⟨from_, stored, issuedBy⟩ := sound.issued holding held source
  obtain ⟨id, user, plan, paid⟩ := handled_same handled
  by_cases same : from_.id = sale.id
  · have here := sale_unique sound member stored same
    subst here
    refine ⟨sold, mem_save_sale.mpr (.inl ⟨rfl, from_, stored, id.symm⟩), ?_⟩
    refine ⟨id.trans issuedBy.source, user.trans issuedBy.user, plan.trans issuedBy.plan,
      issuedBy.whole, paid, ?_⟩
    cases handled with
    | activate pending =>
      rw [issuedBy.paid] at pending
      cases pending
    | leave_ pending =>
      rw [issuedBy.paid] at pending
      cases pending
    | deliver => exact fun _ => rfl
    | reject _ manual undelivered => exact absurd (issuedBy.delivered manual) undelivered
  · exact ⟨from_, mem_save_sale.mpr (.inr ⟨stored, by rwa [id]⟩), issuedBy⟩

theorem save_numbered (sound : Sound ledger) (sold : Sale) :
    ((save Sale.id ledger.sales sold).map Sale.id).Nodup := by
  rw [map_key_save]
  exact sound.numbered

theorem save_positive (sound : Sound ledger) (member : sale ∈ ledger.sales) (id : sold.id = sale.id)
    {other : Sale} (held : other ∈ save Sale.id ledger.sales sold) : 0 < other.id := by
  rcases mem_save_sale.mp held with ⟨rfl, -⟩ | ⟨stored, -⟩
  · rw [id]
    exact sound.positive sale member
  · exact sound.positive other stored

theorem moves_sound (sound : Sound ledger) (moves : Moves ledger after) : Sound after := by
  cases moves with
  | kept => exact sound
  | ordered sale positive new pending =>
    refine ⟨?_, ?_, sound.fresh, sound.unique, sound.once, ?_, ?_⟩
    · rw [List.map_append, List.map_singleton, List.nodup_append]
      refine ⟨sound.numbered, List.nodup_singleton _, ?_⟩
      intro id member last same
      obtain ⟨old, held, rfl⟩ := List.mem_map.mp member
      rw [List.mem_singleton.mp same]
      exact new old held
    · intro other member
      rcases List.mem_append.mp member with held | last
      · exact sound.positive other held
      · rwa [List.mem_singleton.mp last]
    · intro holding held source
      obtain ⟨other, stored, issuedBy⟩ := sound.issued holding held source
      exact ⟨other, List.mem_append_left _ stored, issuedBy⟩
    · intro other member paid auto
      rcases List.mem_append.mp member with held | last
      · exact sound.activated other held paid auto
      · rw [List.mem_singleton.mp last, pending] at paid
        cases paid
  | given holding next source =>
    obtain ⟨fresh, unique⟩ := issue_numbered sound next
    refine ⟨sound.numbered, sound.positive, fresh, unique, issue_once sound ?_, ?_, ?_⟩
    · exact fun _ _ from_ => absurd source from_
    · intro other member from_
      rcases List.mem_append.mp member with held | last
      · exact sound.issued other held from_
      · rw [List.mem_singleton.mp last] at from_
        exact absurd source from_
    · intro sale member paid auto
      obtain ⟨old, held, same⟩ := sound.activated sale member paid auto
      exact ⟨old, List.mem_append_left _ held, same⟩
  | handled sale sold member handled =>
    obtain ⟨id, -, -, -⟩ := handled_same handled
    refine ⟨save_numbered sound sold, fun other => save_positive sound member id, sound.fresh,
      sound.unique, sound.once, fun holding => handled_issued sound member handled, ?_⟩
    intro other held paid auto
    rcases mem_save_sale.mp held with ⟨rfl, -⟩ | ⟨stored, -⟩
    · cases handled with
      | leave_ => cases auto
      | deliver _ _ manual =>
        dsimp only at auto
        rw [manual] at auto
        cases auto
      | reject _ manual =>
        dsimp only at auto
        rw [manual] at auto
        cases auto
    · exact sound.activated other stored paid auto
  | issued sale sold member handled none_ =>
    obtain ⟨id, user, plan, paid⟩ := handled_same handled
    obtain ⟨fresh, unique⟩ := @issue_numbered ledger sound (holdingOf ledger sale) rfl
    refine ⟨save_numbered sound sold, fun other => save_positive sound member id, fresh, unique,
      issue_once sound fun old held _ => none_ old held, ?_, ?_⟩
    · intro holding held source
      rcases List.mem_append.mp held with old | last
      · exact handled_issued sound member handled old source
      · rw [List.mem_singleton.mp last]
        refine ⟨sold, mem_save_sale.mpr (.inl ⟨rfl, sale, member, id.symm⟩), id, user, plan, rfl, paid, ?_⟩
        cases handled with
        | activate => exact fun manual => nomatch manual
        | deliver => exact fun _ => rfl
    · intro other held paid auto
      rcases mem_save_sale.mp held with ⟨rfl, -⟩ | ⟨stored, -⟩
      · exact ⟨holdingOf ledger sale, List.mem_append_right _ (List.mem_singleton_self _), id.symm⟩
      · obtain ⟨old, held, same⟩ := sound.activated other stored paid auto
        exact ⟨old, List.mem_append_left _ held, same⟩

end Steps

/-! ## The two counts -/

def Holding.counts (userId planId : Int) (holding : Holding) : Bool :=
  holding.userId = userId && holding.planId = planId && holding.parentUserSubscriptionId = 0

def Sale.ofPlan (userId planId : Int) (sale : Sale) : Bool :=
  sale.userId = userId && sale.planId = planId

def Sale.byHand (sale : Sale) : Bool :=
  sale.status = .success && sale.deliveryMode = .manualDelivery && sale.fulfillmentStatus ≠ .rejected

def Sale.purchased (sale : Sale) : Bool :=
  sale.status = .success && !(sale.deliveryMode = .manualDelivery && sale.fulfillmentStatus = .rejected)

def Ledger.isIssued (ledger : Ledger) (sale : Sale) : Bool :=
  ledger.holdings.any fun holding => holding.sourceOrderId = sale.id

/-- What `CountUserPlanPurchases` adds up. -/
def Ledger.counted (ledger : Ledger) (userId planId : Int) : Nat :=
  ledger.holdings.countP (Holding.counts userId planId) +
    ledger.sales.countP fun sale => sale.ofPlan userId planId && sale.byHand

def Ledger.purchases (ledger : Ledger) (userId planId : Int) : Nat :=
  (ledger.sales.countP fun sale => sale.ofPlan userId planId && sale.purchased) +
    ledger.holdings.countP fun holding =>
      holding.counts userId planId && holding.sourceOrderId = 0

def Ledger.issuedByHand (ledger : Ledger) (userId planId : Int) : Nat :=
  ledger.sales.countP fun sale => sale.ofPlan userId planId &&
    sale.deliveryMode = .manualDelivery && ledger.isIssued sale

theorem count_by_parts {Row : Type*} {rows : List Row} {first second third fourth : Row → Bool}
    (same : ∀ row ∈ rows, (first row).toNat + (second row).toNat = (third row).toNat + (fourth row).toNat) :
    rows.countP first + rows.countP second = rows.countP third + rows.countP fourth := by
  induction rows with
  | nil => rfl
  | cons row rows ih =>
    have here := same row List.mem_cons_self
    have rest := ih fun other member => same other (List.mem_cons_of_mem row member)
    have size : ∀ counted : Bool, (if counted = true then 1 else 0) = counted.toNat := by decide
    simp only [List.countP_cons, size]
    omega

section Counts
variable {ledger : Ledger} {sale : Sale}

theorem is_issued_iff : ledger.isIssued sale = true ↔
    ∃ holding ∈ ledger.holdings, holding.sourceOrderId = sale.id := by
  simp [Ledger.isIssued]

theorem issued_by (sound : Sound ledger) (member : sale ∈ ledger.sales)
    (held : holding ∈ ledger.holdings) (source : holding.sourceOrderId = sale.id) :
    IssuedBy holding sale := by
  have positive := sound.positive sale member
  obtain ⟨other, stored, issuedBy⟩ := sound.issued holding held (by omega)
  have same := sale_unique sound member stored (issuedBy.source.trans source)
  exact same ▸ issuedBy

theorem holdings_of_sales (sound : Sound ledger) (userId planId : Int) :
    (ledger.holdings.countP fun holding =>
        holding.counts userId planId && holding.sourceOrderId ≠ 0) =
      ledger.sales.countP fun sale => sale.ofPlan userId planId && ledger.isIssued sale := by
  let held := ledger.holdings.filter fun holding =>
    holding.counts userId planId && holding.sourceOrderId ≠ 0
  let sold := ledger.sales.filter fun sale => sale.ofPlan userId planId && ledger.isIssued sale
  have sources : (held.map Holding.sourceOrderId).Nodup := by
    have sub : List.Sublist held (ledger.holdings.filter fun holding => holding.sourceOrderId ≠ 0) := by
      have twice : held = (ledger.holdings.filter fun holding =>
          holding.sourceOrderId ≠ 0).filter (Holding.counts userId planId) :=
        (List.filter_filter ..).symm
      rw [twice]
      exact List.filter_sublist
    exact sound.once.sublist (sub.map _)
  have ids : (sold.map Sale.id).Nodup := sound.numbered.sublist (List.filter_sublist.map _)
  have same : (held.map Holding.sourceOrderId).Perm (sold.map Sale.id) := by
    refine (List.perm_ext_iff_of_nodup sources ids).mpr fun id => ?_
    rw [List.mem_map, List.mem_map]
    constructor
    · rintro ⟨holding, kept, rfl⟩
      obtain ⟨member, mine⟩ := List.mem_filter.mp kept
      simp only [Holding.counts, Bool.and_eq_true, decide_eq_true_eq] at mine
      obtain ⟨⟨⟨user, plan⟩, -⟩, source⟩ := mine
      obtain ⟨sale, stored, issuedBy⟩ := sound.issued holding member source
      refine ⟨sale, List.mem_filter.mpr ⟨stored, ?_⟩, issuedBy.source⟩
      simp only [Sale.ofPlan, Bool.and_eq_true, decide_eq_true_eq, is_issued_iff]
      exact ⟨⟨issuedBy.user.trans user, issuedBy.plan.trans plan⟩, holding, member, issuedBy.source.symm⟩
    · rintro ⟨sale, kept, rfl⟩
      obtain ⟨member, mine⟩ := List.mem_filter.mp kept
      simp only [Sale.ofPlan, Bool.and_eq_true, decide_eq_true_eq, is_issued_iff] at mine
      obtain ⟨⟨user, plan⟩, holding, stored, source⟩ := mine
      have issuedBy := issued_by sound member stored source
      have positive := sound.positive sale member
      refine ⟨holding, List.mem_filter.mpr ⟨stored, ?_⟩, source⟩
      simp only [Holding.counts, Bool.and_eq_true, decide_eq_true_eq]
      exact ⟨⟨⟨issuedBy.user.symm.trans user, issuedBy.plan.symm.trans plan⟩, issuedBy.whole⟩, by omega⟩
  have lengths := same.length_eq
  rw [List.length_map, List.length_map] at lengths
  rw [List.countP_eq_length_filter, List.countP_eq_length_filter]
  exact lengths

theorem counted_twice (sound : Sound ledger) (userId planId : Int) :
    ledger.counted userId planId = ledger.purchases userId planId + ledger.issuedByHand userId planId := by
  have holdings : ledger.holdings.countP (Holding.counts userId planId) =
      (ledger.holdings.countP fun holding =>
        holding.counts userId planId && holding.sourceOrderId = 0) +
      ledger.holdings.countP fun holding =>
        holding.counts userId planId && holding.sourceOrderId ≠ 0 := by
    have parts := @count_by_parts Holding ledger.holdings (Holding.counts userId planId)
      (fun _ => false) (fun holding => holding.counts userId planId && holding.sourceOrderId = 0)
      (fun holding => holding.counts userId planId && holding.sourceOrderId ≠ 0) fun holding _ => by
        by_cases none_ : holding.sourceOrderId = 0 <;>
          cases Holding.counts userId planId holding <;> simp [none_]
    simpa using parts
  have orders : (ledger.sales.countP fun sale =>
        sale.ofPlan userId planId && ledger.isIssued sale) +
      (ledger.sales.countP fun sale => sale.ofPlan userId planId && sale.byHand) =
      (ledger.sales.countP fun sale => sale.ofPlan userId planId && sale.purchased) +
      ledger.sales.countP fun sale => sale.ofPlan userId planId &&
        sale.deliveryMode = .manualDelivery && ledger.isIssued sale := by
    refine count_by_parts fun sale member => ?_
    cases mode : sale.deliveryMode with
    | manualDelivery =>
      simp only [Sale.byHand, Sale.purchased, mode]
      cases sale.ofPlan userId planId <;> cases ledger.isIssued sale <;>
        by_cases paid : sale.status = .success <;>
        by_cases rejected : sale.fulfillmentStatus = .rejected <;> simp [paid, rejected]
    | autoActivate =>
      have same : ledger.isIssued sale = decide (sale.status = .success) := by
        rw [Bool.eq_iff_iff, is_issued_iff, decide_eq_true_eq]
        constructor
        · rintro ⟨holding, held, source⟩
          exact (issued_by sound member held source).paid
        · exact fun paid => sound.activated sale member paid mode
      simp only [Sale.byHand, Sale.purchased, mode, same]
      cases sale.ofPlan userId planId <;> by_cases paid : sale.status = .success <;> simp [paid]
  have issued := holdings_of_sales sound userId planId
  unfold Ledger.counted Ledger.purchases Ledger.issuedByHand
  omega

end Counts

/-! ## The shop -/

/-- The tables of the orders and of the deliveries by hand, with the commissions
that completions grant. -/
structure Shop extends ManualTables where
  commissions : List AffiliateCommission := []
  deriving DecidableEq, Repr

def Shop.orderTables (shop : Shop) : OrderTables :=
  { base := shop.base
    orders := shop.orders.map ManualOrder.toSubscriptionOrder
    topUps := shop.topUps
    commissions := shop.commissions }

def writeOrder (orders : List SubscriptionOrder) (order : ManualOrder) : ManualOrder :=
  match lookup SubscriptionOrder.id orders order.id with
  | some row => { order with toSubscriptionOrder := row }
  | none => order

def Shop.write (shop : Shop) (after : OrderTables) : Shop :=
  { base := after.base
    orders := shop.orders.map (writeOrder after.orders)
    topUps := after.topUps
    commissions := after.commissions }

/-- `model/subscription.go::CountUserPlanPurchases`. -/
def countUserPlanPurchases (userId planId : Int) (tables : ManualTables) : Except String Nat :=
  if userId ≤ 0 ∨ planId ≤ 0 then .error "invalid userId or planId"
  else
    let subscriptionCount := (tables.base.subscriptions.filter fun sub =>
      sub.userId = userId && sub.planId = planId && sub.parentUserSubscriptionId = 0).length
    let manualOrderCount := (tables.orders.filter fun order =>
      order.userId = userId && order.planId = planId && order.status = .success &&
        order.terms.deliveryMode = .manualDelivery && order.fulfillmentStatus ≠ .rejected).length
    .ok (subscriptionCount + manualOrderCount)

/-- `controller/subscription.go::validateSubscriptionPlanPurchaseAvailability`. -/
def validateSubscriptionPlanPurchaseAvailability (enabled : Bool) (userId : Int)
    (plan : SubscriptionPlan) (tables : ManualTables) : Except String Unit :=
  if !enabled then .error "套餐已下架"
  else if plan.isSoldOut then .error "该套餐已售罄"
  else if userId ≤ 0 ∨ plan.maxPurchasePerUser ≤ 0 then .ok ()
  else match countUserPlanPurchases userId plan.id tables with
  | .error error => .error error
  | .ok count => if count ≥ plan.maxPurchasePerUser then .error "已达到该套餐购买上限" else .ok ()

/-- What happens to the orders of a shop: an order is made, its payment is
reported, an admin delivers or rejects it or invalidates a subscription, and a
subscription is given without an order. -/
inductive Event where
  | order (order : ManualOrder)
  | complete (tradeNo : String) (call : CompletionCall)
  | deliver (call : DeliverCall)
  | reject (call : RejectCall)
  | invalidate (call : InvalidateCall)
  | give (userId planId : Int) (terms : PlanTerms) (source : Subscription.Source) (now : Int)

def step (calendar : Calendar) (shop : Shop) : Event → Shop
  | .order order =>
    if 0 < order.id ∧ order.status = .pending ∧ ∀ old ∈ shop.orders, old.id ≠ order.id then
      { shop with orders := shop.orders ++ [order] }
    else shop
  | .complete tradeNo call =>
    match completeSubscriptionOrder calendar call (shop.orderTables.order tradeNo)
        shop.orderTables with
    | .ok (after, _) => shop.write after
    | .error _ => shop
  | .deliver call =>
    match adminDeliverManualDeliveryOrder calendar call shop.toManualTables with
    | .ok after => { shop with toManualTables := after }
    | .error _ => shop
  | .reject call =>
    match adminRejectManualDeliveryOrder call shop.toManualTables with
    | .ok (after, _) => { shop with toManualTables := after }
    | .error _ => shop
  | .invalidate call =>
    match adminInvalidateUserSubscription call shop.toManualTables with
    | some after => { shop with toManualTables := after }
    | none => shop
  | .give userId planId terms source now =>
    match createUserSubscriptionFromPlan calendar userId planId terms source now shop.base with
    | .ok (base, _) => { shop with base := base }
    | .error _ => shop

def run (calendar : Calendar) (shop : Shop) (events : List Event) : Shop :=
  events.foldl (step calendar) shop

/-! ## The ledger of a shop -/

def saleOf (order : SubscriptionOrder) : Sale :=
  { id := order.id
    userId := order.userId
    planId := order.planId
    status := order.status
    deliveryMode := order.terms.deliveryMode
    fulfillmentStatus := order.fulfillmentStatus }

def rowOf (sub : UserSubscription) : Holding :=
  { id := sub.id
    userId := sub.userId
    planId := sub.planId
    parentUserSubscriptionId := sub.parentUserSubscriptionId
    sourceOrderId := sub.sourceOrderId }

def ledgerOf (tables : ManualTables) : Ledger :=
  { sales := tables.orders.map fun order => saleOf order.toSubscriptionOrder
    holdings := tables.base.subscriptions.map rowOf
    nextSubscriptionId := tables.base.nextSubscriptionId }

section Refine
variable {calendar : Calendar} {tables : ManualTables}

theorem counted_by_ledger (user : 0 < userId) (plan : 0 < planId) :
    countUserPlanPurchases userId planId tables = .ok ((ledgerOf tables).counted userId planId) := by
  unfold countUserPlanPurchases Ledger.counted ledgerOf
  rw [if_neg (by omega), List.countP_map, List.countP_map, List.countP_eq_length_filter,
    List.countP_eq_length_filter]
  have orders : (fun order : ManualOrder => order.userId = userId && order.planId = planId &&
      order.status = .success && order.terms.deliveryMode = .manualDelivery &&
        order.fulfillmentStatus ≠ .rejected) =
      (fun sale : Sale => sale.ofPlan userId planId && sale.byHand) ∘ fun order : ManualOrder =>
        saleOf order.toSubscriptionOrder := by
    funext order
    simp only [Function.comp_apply, Sale.ofPlan, Sale.byHand, ← Bool.and_assoc]
    rfl
  rw [← orders]
  rfl

theorem saved_order (stored : ManualOrder) :
    ledgerOf (tables.saveOrder stored) =
      (ledgerOf tables).saveSale (saleOf stored.toSubscriptionOrder) := by
  unfold ledgerOf ManualTables.saveOrder Ledger.saveSale
  have sales := @map_save ManualOrder Int _ ManualOrder.key Sale Sale.id
    (fun order => saleOf order.toSubscriptionOrder) (fun _ => rfl) tables.orders stored
  rw [sales]

theorem found_sale {orderId : Int} (found : tables.order orderId = some order) :
    saleOf order.toSubscriptionOrder ∈ (ledgerOf tables).sales :=
  List.mem_map_of_mem (lookup_mem found)

theorem created_ledger {userId planId now : Int} {terms : PlanTerms} {source : Subscription.Source}
    {created : Database × UserSubscription} {sub : UserSubscription}
    (sound : Sound (ledgerOf tables))
    (creates : createUserSubscriptionFromPlan calendar userId planId terms source now tables.base =
      .ok created)
    (id : sub.id = created.2.id) (user : sub.userId = created.2.userId)
    (plan : sub.planId = created.2.planId)
    (parent : sub.parentUserSubscriptionId = created.2.parentUserSubscriptionId) :
    (created.1.saveSubscription sub).subscriptions = tables.base.subscriptions ++ [sub] ∧
      created.1.nextSubscriptionId = tables.base.nextSubscriptionId + 1 ∧
      rowOf sub = ⟨tables.base.nextSubscriptionId, userId, planId, 0, sub.sourceOrderId⟩ := by
  obtain ⟨stored, effective, endUnix, -, found, -, -, row, written⟩ := create_cases creates
  have key : stored.id = planId := lookup_key found
  refine ⟨?_, by rw [written], ?_⟩
  · rw [written]
    refine save_append_one (fun old member => ?_) id.symm
    have fresh := sound.fresh (rowOf old) (List.mem_map_of_mem member)
    rw [id, row]
    exact ne_of_lt fresh
  · unfold rowOf
    rw [id, user, plan, parent, row, ← key]
    rfl

theorem shifted_ledger (channelId removed currentOrderId : Int) :
    ledgerOf (shiftBoundChannelKeyIndexes channelId removed currentOrderId tables) = ledgerOf tables := by
  have sales : ∀ order : ManualOrder,
      saleOf (shiftOrder channelId removed currentOrderId order).toSubscriptionOrder =
        saleOf order.toSubscriptionOrder := by
    intro order
    unfold shiftOrder
    split <;> rfl
  unfold ledgerOf shiftBoundChannelKeyIndexes
  simp only [List.map_map, Function.comp_def, sales]
  rfl

theorem released_ledger
    (sound : Sound (ledgerOf tables)) (found : tables.order orderId = some order)
    (release : releaseReservedChannelSlot slotFound order tables = some (released, after)) :
    saleOf released.toSubscriptionOrder = saleOf order.toSubscriptionOrder ∧
      ledgerOf after = ledgerOf tables := by
  unfold releaseReservedChannelSlot at release
  split at release
  · cases release
    exact ⟨rfl, rfl⟩
  · split at release
    · cases release
    · cases release
      refine ⟨rfl, ?_⟩
      rw [saved_order, shifted_ledger]
      unfold Ledger.saveSale
      have same := save_present sound.numbered (found_sale found)
      exact congrArg (fun sales => { ledgerOf tables with sales := sales }) same

theorem write_orders {shop : Shop} (sound : Sound (ledgerOf shop.toManualTables))
    (completed : SubscriptionOrder) :
    (shop.orders.map (writeOrder (save SubscriptionOrder.id shop.orderTables.orders completed))).map
        (fun order => saleOf order.toSubscriptionOrder) =
      save Sale.id (ledgerOf shop.toManualTables).sales (saleOf completed) := by
  have unique : (shop.orderTables.orders.map SubscriptionOrder.id).Nodup := by
    simpa [Shop.orderTables, ledgerOf, saleOf, Function.comp_def] using sound.numbered
  unfold ledgerOf save
  rw [List.map_map, List.map_map]
  apply List.map_congr_left
  intro order member
  have held : lookup SubscriptionOrder.id shop.orderTables.orders order.id =
      some order.toSubscriptionOrder :=
    lookup_of_mem unique (List.mem_map_of_mem member)
  have written := @lookup_save SubscriptionOrder Int _ SubscriptionOrder.id
    shop.orderTables.orders completed order.id
  rw [held] at written
  simp only [Function.comp_apply, writeOrder]
  change saleOf (match lookup SubscriptionOrder.id
    (save SubscriptionOrder.id shop.orderTables.orders completed) order.id with
      | some row => { order with toSubscriptionOrder := row }
      | none => order).toSubscriptionOrder = _
  rw [written]
  by_cases same : order.id = completed.id
  · rw [if_pos same]
    exact (if_pos same).symm
  · rw [if_neg same]
    exact (if_neg same).symm

theorem completed_moves {shop : Shop}
    (sound : Sound (ledgerOf shop.toManualTables))
    (outcome : completeSubscriptionOrder calendar call (shop.orderTables.order tradeNo)
      shop.orderTables = .ok (written, completedNow)) :
    Moves (ledgerOf shop.toManualTables) (ledgerOf (shop.write written).toManualTables) := by
  obtain ⟨order, read, done⟩ := complete_delivers outcome
  have stored : order ∈ shop.orderTables.orders := lookup_mem read
  have member : saleOf order ∈ (ledgerOf shop.toManualTables).sales := by
    obtain ⟨row, held, rfl⟩ := List.mem_map.mp stored
    exact List.mem_map_of_mem held
  rcases done with ⟨-, rfl⟩ | ⟨terms, provider, pending, -, delivery⟩
  · have same : ledgerOf (shop.write shop.orderTables).toManualTables =
        ledgerOf shop.toManualTables := by
      have unique : (shop.orderTables.orders.map SubscriptionOrder.id).Nodup := by
        simpa [Shop.orderTables, ledgerOf, saleOf, Function.comp_def] using sound.numbered
      have rows := write_orders sound order
      rw [save_present unique stored, save_present sound.numbered member] at rows
      exact congrArg (fun sales => { ledgerOf shop.toManualTables with sales := sales }) rows
    rw [same]
    exact .kept
  · rcases OrderCompletion.deliver_writes delivery with
      ⟨manual, base, channelId, keyIndex, orders⟩ |
      ⟨auto, orders, created, sub, creates, id, user, plan, parent, source, -, base⟩
    · have sales := write_orders sound { markCompleted call terms
        { order with paymentProvider := provider } with
          reservedChannelId := channelId, reservedChannelKeyIndex := keyIndex }
      have shape : ledgerOf (shop.write written).toManualTables =
          (ledgerOf shop.toManualTables).saveSale { saleOf order with
            status := .success
            deliveryMode := .manualDelivery
            fulfillmentStatus := .pendingDelivery } := by
        unfold Shop.write ledgerOf Ledger.saveSale
        dsimp only
        rw [base, orders, sales]
        simp only [saleOf, markCompleted, manual, if_true]
        rfl
      rw [shape]
      exact .handled _ _ member (.leave_ _ pending)
    · have sales := write_orders sound (markCompleted call terms
        { order with paymentProvider := provider })
      obtain ⟨grown, next, row⟩ := created_ledger sound creates id user plan parent
      have none_yet : ∀ holding ∈ (ledgerOf shop.toManualTables).holdings,
          holding.sourceOrderId ≠ (saleOf order).id := by
        intro holding held same
        have paid := (issued_by sound member held same).paid
        change order.status = .success at paid
        rw [pending] at paid
        cases paid
      have shape : ledgerOf (shop.write written).toManualTables =
          ((ledgerOf shop.toManualTables).issue
            (holdingOf (ledgerOf shop.toManualTables) (saleOf order))).saveSale { saleOf order with
              status := .success
              deliveryMode := .autoActivate
              fulfillmentStatus := .notRequired } := by
        unfold Shop.write ledgerOf Ledger.saveSale Ledger.issue holdingOf
        dsimp only
        rw [base, orders, sales, grown, List.map_append, List.map_singleton, row, source]
        simp only [saleOf, markCompleted, auto, reduceCtorEq, if_false]
        exact congrArg (Ledger.mk _ _) next
      rw [shape]
      exact .issued _ _ member (.activate _ pending) none_yet

theorem bound_ledger (sub : UserSubscription) {bound : UserSubscription}
    (unique : ((ledgerOf tables).holdings.map Holding.id).Nodup)
    (member : sub ∈ tables.base.subscriptions) (same : rowOf bound = rowOf sub) :
    ledgerOf { tables with base := tables.base.saveSubscription bound } = ledgerOf tables := by
  have rows := @map_save UserSubscription Int _ UserSubscription.id Holding Holding.id rowOf
    (fun _ => rfl) tables.base.subscriptions bound
  have present : save Holding.id (tables.base.subscriptions.map rowOf) (rowOf sub) =
      tables.base.subscriptions.map rowOf :=
    save_present unique (List.mem_map_of_mem member)
  rw [same, present] at rows
  exact congrArg (fun holdings => { ledgerOf tables with holdings := holdings }) rows

theorem delivered_moves {call : DeliverCall} (sound : Sound (ledgerOf tables))
    (delivered : adminDeliverManualDeliveryOrder calendar call tables = .ok after) :
    Moves (ledgerOf tables) (ledgerOf after) := by
  obtain ⟨order, found, manual, paid, ⟨payload, rfl⟩ | ⟨terms, schema, payload, result, issued, rfl⟩⟩ :=
    ManualDelivery.deliver_writes delivered
  · rw [saved_order]
    exact .handled _ _ (found_sale found) (.deliver _ false paid manual)
  · obtain ⟨held, grown, sub, bound, ⟨channelId, keyIndex, rfl⟩, creates, binds, shape, same⟩ :=
      auto_issue_writes issued
    have bound_row : rowOf bound = rowOf sub := by
      obtain ⟨boundChannel, boundKey, updatedAt, rfl⟩ := bind_delivery_shape binds
      rfl
    obtain ⟨orders, source, issue⟩ := issue_writes creates
    rw [saved_order, shape, same]
    rcases issue with ⟨base, member⟩ | ⟨none_yet, created, made, row, base⟩
    · have kept : ledgerOf grown = ledgerOf tables := by
        unfold ledgerOf
        rw [base, orders]
      rw [bound_ledger sub (by rw [kept]; exact sound.unique) (by rw [base]; exact member) bound_row, kept]
      exact .handled _ _ (found_sale found) (.deliver _ false paid manual)
    · obtain ⟨grows, next, columns⟩ := @created_ledger calendar tables order.userId order.planId
        call.now terms .order created sub sound made (by rw [row]) (by rw [row]) (by rw [row])
        (by rw [row])
      have issues : ledgerOf grown = (ledgerOf tables).issue
          (holdingOf (ledgerOf tables) (saleOf order.toSubscriptionOrder)) := by
        unfold ledgerOf Ledger.issue holdingOf
        rw [orders, base, grows, List.map_append, List.map_singleton, columns, source]
        exact congrArg (Ledger.mk _ _) next
      have numbered := @issue_numbered (ledgerOf tables) sound
        (holdingOf (ledgerOf tables) (saleOf order.toSubscriptionOrder)) rfl
      rw [bound_ledger sub (by rw [issues]; exact numbered.2)
        (by rw [base, grows]; exact List.mem_append_right _ (List.mem_singleton_self sub))
        bound_row, issues]
      refine .issued _ _ (found_sale found) (.deliver _ true paid manual) fun holding held => ?_
      obtain ⟨old, member, rfl⟩ := List.mem_map.mp held
      exact none_yet old member

theorem rejected_moves (sound : Sound (ledgerOf tables))
    (rejected : adminRejectManualDeliveryOrder call tables = .ok (after, refunded)) :
    Moves (ledgerOf tables) (ledgerOf after) := by
  obtain ⟨order, held, freed, found, manual, paid, undelivered, release, -, rfl⟩ :=
    reject_writes rejected
  obtain ⟨columns, kept⟩ := released_ledger sound found release
  have shape : saleOf (markRejected call refunded held).toSubscriptionOrder =
      { saleOf order.toSubscriptionOrder with fulfillmentStatus := .rejected } := by
    rw [← columns]
    rfl
  rw [saved_order, shape]
  have users : ledgerOf { freed with base := { freed.base with
      users := if refunded > 0 then addUserQuota freed.base.users held.userId refunded
        else freed.base.users } } = ledgerOf tables := kept
  rw [users]
  exact .handled _ _ (found_sale found) (.reject _ paid manual undelivered)

theorem cancelled_ledger (tables : ManualTables) (id now : Int) :
    ledgerOf { tables with
      base := GroupUpgrade.adminInvalidateUserSubscription id now tables.base } =
      ledgerOf tables := by
  unfold GroupUpgrade.adminInvalidateUserSubscription
  split
  · rfl
  · rename_i sub found
    have rows : (update UserSubscription.id tables.base.subscriptions id (cancelRow now)).map rowOf =
        tables.base.subscriptions.map rowOf := by
      unfold update
      rw [List.map_map]
      apply List.map_congr_left
      intro row _
      simp only [Function.comp_apply]
      split <;> rfl
    dsimp only
    unfold moveUser
    split <;> exact congrArg (fun holdings => { ledgerOf tables with holdings := holdings }) rows

theorem invalidated_moves (sound : Sound (ledgerOf tables))
    (invalidated : adminInvalidateUserSubscription call tables = some after) :
    Moves (ledgerOf tables) (ledgerOf after) := by
  suffices same : ledgerOf after = ledgerOf tables by
    rw [same]
    exact .kept
  unfold adminInvalidateUserSubscription at invalidated
  split at invalidated
  · cases invalidated
  obtain ⟨sub, -, rest⟩ := Option.bind_eq_some_iff.mp invalidated
  obtain ⟨freed, release, rest⟩ := Option.bind_eq_some_iff.mp rest
  have kept : ledgerOf freed = ledgerOf tables := by
    unfold releaseSlotOfSubscription at release
    split at release
    · obtain ⟨order, found, rest⟩ := Option.bind_eq_some_iff.mp release
      obtain ⟨⟨released, shifted⟩, frees, same⟩ := Option.map_eq_some_iff.mp rest
      dsimp only at same
      subst same
      exact (released_ledger sound found frees).2
    · cases release
      rfl
  split at rest
  · cases rest
    rw [← kept]
    exact cancelled_ledger freed call.userSubscriptionId call.now
  · cases rest

theorem step_moves (sound : Sound (ledgerOf shop.toManualTables)) (event : Event) :
    Moves (ledgerOf shop.toManualTables) (ledgerOf (step calendar shop event).toManualTables) := by
  cases event with
  | order order =>
    dsimp only [step]
    by_cases new : 0 < order.id ∧ order.status = .pending ∧ ∀ old ∈ shop.orders, old.id ≠ order.id
    · rw [if_pos new]
      have sales : (shop.orders ++ [order]).map (fun order => saleOf order.toSubscriptionOrder) =
          (ledgerOf shop.toManualTables).sales ++ [saleOf order.toSubscriptionOrder] := by
        rw [List.map_append, List.map_singleton]
        rfl
      have shape : ledgerOf { shop with orders := shop.orders ++ [order] }.toManualTables =
          { ledgerOf shop.toManualTables with
            sales := (ledgerOf shop.toManualTables).sales ++ [saleOf order.toSubscriptionOrder] } :=
        congrArg (fun sales => { ledgerOf shop.toManualTables with sales := sales }) sales
      rw [shape]
      refine .ordered _ new.1 (fun old held => ?_) new.2.1
      obtain ⟨row, member, rfl⟩ := List.mem_map.mp held
      exact new.2.2 row member
    · rw [if_neg new]
      exact .kept
  | complete tradeNo call =>
    dsimp only [step]
    split
    · rename_i outcome
      exact completed_moves sound outcome
    · exact .kept
  | deliver call =>
    dsimp only [step]
    split
    · rename_i delivered
      exact delivered_moves sound delivered
    · exact .kept
  | reject call =>
    dsimp only [step]
    split
    · rename_i rejected
      exact rejected_moves sound rejected
    · exact .kept
  | invalidate call =>
    dsimp only [step]
    split
    · rename_i invalidated
      exact invalidated_moves sound invalidated
    · exact .kept
  | give userId planId terms source now =>
    dsimp only [step]
    split
    · rename_i base sub created
      obtain ⟨stored, effective, endUnix, -, -, -, -, row, written⟩ := create_cases created
      dsimp only at row written
      have shape : ledgerOf { shop with base := base }.toManualTables =
          (ledgerOf shop.toManualTables).issue (rowOf sub) := by
        unfold ledgerOf Ledger.issue
        dsimp only
        rw [written, List.map_append, List.map_singleton]
      rw [shape]
      exact .given _ (by rw [row]; rfl) (by rw [row]; rfl)
    · exact .kept

theorem run_sound {shop : Shop} (sound : Sound (ledgerOf shop.toManualTables))
    (events : List Event) : Sound (ledgerOf (run calendar shop events).toManualTables) := by
  induction events generalizing shop with
  | nil => exact sound
  | cons event events ih => exact ih (moves_sound sound (step_moves sound event))

theorem empty_sound {shop : Shop} (orders : shop.orders = [])
    (subscriptions : shop.base.subscriptions = []) : Sound (ledgerOf shop.toManualTables) := by
  unfold ledgerOf
  rw [orders, subscriptions]
  constructor <;> simp

end Refine

/-! ## Counted once -/

def IssuedByHand (userId planId : Int) (tables : ManualTables) : Prop :=
  ∃ order ∈ tables.orders, order.userId = userId ∧ order.planId = planId ∧
    order.terms.deliveryMode = .manualDelivery ∧
    ∃ sub ∈ tables.base.subscriptions, sub.sourceOrderId = order.id

instance (userId planId : Int) (tables : ManualTables) : Decidable (IssuedByHand userId planId tables) :=
  inferInstanceAs (Decidable (∃ order ∈ tables.orders, _))

theorem issued_by_hand_iff {tables : ManualTables} :
    0 < (ledgerOf tables).issuedByHand userId planId ↔ IssuedByHand userId planId tables := by
  unfold Ledger.issuedByHand IssuedByHand ledgerOf
  rw [List.countP_pos_iff]
  simp [Sale.ofPlan, is_issued_iff, saleOf, rowOf, and_assoc]

/-- After any history of orders, payments, deliveries and rejections of a shop
that opened empty, the count of a user for a plan is the number of purchases,
each order once, exactly where no order of the user for the plan that is
delivered by hand has a subscription of its own. There the limit admits one more
purchase exactly while the purchases are fewer than it. -/
theorem purchases_counted_once_iff (calendar : Calendar) {shop : Shop} (orders : shop.orders = [])
    (subscriptions : shop.base.subscriptions = []) (events : List Event) {userId planId : Int}
    (user : 0 < userId) (positive : 0 < planId) :
    let tables := (run calendar shop events).toManualTables
    (countUserPlanPurchases userId planId tables =
        .ok ((ledgerOf tables).purchases userId planId) ↔ ¬ IssuedByHand userId planId tables) ∧
      (¬ IssuedByHand userId planId tables → ∀ plan : SubscriptionPlan, plan.id = planId →
        plan.isSoldOut = false → 0 < plan.maxPurchasePerUser →
        (validateSubscriptionPlanPurchaseAvailability true userId plan tables = .ok () ↔
          ((ledgerOf tables).purchases userId planId : Int) < plan.maxPurchasePerUser)) := by
  intro tables
  have sound : Sound (ledgerOf tables) :=
    run_sound (empty_sound orders subscriptions) events
  have counted := @counted_by_ledger tables userId planId user positive
  have twice := counted_twice sound userId planId
  have hand := @issued_by_hand_iff userId planId tables
  refine ⟨?_, ?_⟩
  · rw [counted, Except.ok.injEq, ← hand]
    omega
  · intro once plan same available limited
    have exactly_ : (ledgerOf tables).counted userId planId =
        (ledgerOf tables).purchases userId planId := by
      rw [← hand] at once
      omega
    unfold validateSubscriptionPlanPurchaseAvailability
    rw [Bool.not_true, if_neg Bool.false_ne_true, available, if_neg Bool.false_ne_true,
      if_neg (by omega), same, counted, exactly_]
    by_cases reached : ((ledgerOf tables).purchases userId planId : Int) ≥ plan.maxPurchasePerUser
    · simp only [reached, if_true, reduceCtorEq, false_iff]
      omega
    · simp only [reached, if_false, true_iff]
      omega

def cardPlan : SubscriptionPlan :=
  { id := 1
    terms := paidOrder.terms
    maxPurchasePerUser := 2 }

def cardShop : Shop := { base := { users := [{ id := 7 }], plans := [cardPlan] } }

def orderCard : List Event :=
  [.order { paidOrder with
      status := .pending
      fulfillmentStatus := .notRequired },
    .complete "T5" { now := 900 }]

def orderAndDeliverCard : List Event :=
  orderCard ++ [.deliver { orderId := 5, now := 1000, serverAddress := "https://a" }]

theorem awaiting_order_counted_once :
    countUserPlanPurchases 7 1 (run dayCount cardShop orderCard).toManualTables =
        .ok ((ledgerOf (run dayCount cardShop orderCard).toManualTables).purchases 7 1) ∧
      validateSubscriptionPlanPurchaseAvailability true 7 cardPlan
        (run dayCount cardShop orderCard).toManualTables = .ok () :=
  have counted := purchases_counted_once_iff dayCount (show cardShop.orders = [] from rfl)
    (show cardShop.base.subscriptions = [] from rfl) orderCard (show (0 : Int) < 7 by decide)
    (show (0 : Int) < 1 by decide)
  have once : ¬ IssuedByHand 7 1 (run dayCount cardShop orderCard).toManualTables := by
    decide +kernel
  ⟨counted.1.mpr once,
    (counted.2 once cardPlan rfl (by decide +kernel) (by decide)).mpr (by decide +kernel)⟩

/-- One order that was delivered with a subscription counts as two purchases,
and the user may not buy the plan a second time. -/
theorem delivered_order_counted_twice :
    countUserPlanPurchases 7 1 (run dayCount cardShop orderAndDeliverCard).toManualTables = .ok 2 ∧
      (ledgerOf (run dayCount cardShop orderAndDeliverCard).toManualTables).purchases 7 1 = 1 ∧
      validateSubscriptionPlanPurchaseAvailability true 7 cardPlan
        (run dayCount cardShop orderAndDeliverCard).toManualTables = .error "已达到该套餐购买上限" := by
  refine ⟨by decide +kernel, by decide +kernel, by decide +kernel⟩

end NewApi.PurchaseCounts
