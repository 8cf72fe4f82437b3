import Mathlib.Tactic.Linarith
import Mathlib.Tactic.NormNum
import NewApi.CommissionLedger
import NewApi.ConversionReview

/-! The self-service conversion of subscriptions into quota. An execution reads
a preview, then the subscriptions with a statement that takes no lock, and then
credits and cancels each of them by its id alone. The order behind a
subscription is found by user, plan and time where the subscription does not
name one, so two subscriptions can find the same order. -/
namespace NewApi.LegacyConversion
open NewApi.GuardedRun NewApi.KeyedTable
open NewApi.GoText (trimSpace toLower)
open NewApi.Subscription (UserSubscription)
open NewApi.SubscriptionStore (Database User SubscriptionPlan DurationUnit endsBefore)
open NewApi.GroupUpgrade (userRows moveUser downgradeUserGroupForSubscription)
open NewApi.CommissionLedger (TopUp)
open NewApi.OrderCompletion (PaymentStatus)
open NewApi.ConversionReview (roundHalfAway updateSubscription quotaOf)
open NewApi.StagedReads (Transaction Keeps Commits idle always_safe_iff_commits)

/-! ## What an execution reads -/

/-- The columns of a subscription that only a conversion reads. No duration
unit is the empty text. -/
structure Columns where
  createdAt : Int := 0
  durationUnit : Option DurationUnit := none
  durationValue : Int := 0
  customSeconds : Int := 0
  sourceOrderPaymentMethod : String := ""
  sourceOrderMoney : Rat := 0

structure Plan extends SubscriptionPlan where
  enabled : Bool := true

/-- The columns of `model/subscription.go::SubscriptionOrder` that tell what was paid. -/
structure PaidOrder where
  id : Int
  userId : Int
  planId : Int
  money : Rat
  tradeNo : String := ""
  paymentMethod : String := ""
  status : PaymentStatus := .success
  completeTime : Int := 0

/-- `SelfServiceSubscriptionConversionCampaign`, without its texts. -/
structure Campaign where
  enabled : Bool := true
  deadline : Int
  requireDisabledPlan : Bool := true
  eligiblePlanIds : List Int := []
  eligibleUpgradeGroups : List String := ["claude_sub"]
  eligibleTitleKeywords : List String := ["Claude", "claude"]

inductive SettlementMode where
  | durationRatio
  | tokenUsage
  deriving DecidableEq, Repr

/-- The fields of `model/subscription_refund_setting.go::SubscriptionRefundSettings`
that a conversion reads. -/
structure RefundSettings where
  pageEnabled : Bool := false
  enabled : Bool := true
  settlementMode : SettlementMode := .durationRatio
  codexInputPricePerMillion : Rat := 0
  codexOutputPricePerMillion : Rat := 0
  codexCacheReadPricePerMillion : Rat := 0
  codexCacheWritePricePerMillion : Rat := 0

def RefundSettings.isRefundPageEnabled (settings : RefundSettings) : Bool :=
  settings.pageEnabled && settings.enabled

inductive QuotaDisplay where
  | usd
  | cny
  | tokens
  | custom
  deriving DecidableEq, Repr

structure Currency where
  display : QuotaDisplay := .usd
  quotaPerUnit : Rat := 500000
  usdExchangeRate : Rat := 7
  customCurrencyExchangeRate : Rat := 1

structure UsageRow where
  userId : Int
  createdAt : Int
  subscriptionId : Int
  promptTokens : Int := 0
  completionTokens : Int := 0
  cacheTokens : Int := 0
  cacheWriteTokens : Int := 0
  cacheCreationTokens : Int := 0

/-- The tables and the options that executions read and do not write, and
whether the latest request of the user is pending. -/
structure World where
  columns : Int → Columns := fun _ => {}
  plans : List Plan := []
  orders : List PaidOrder := []
  topUps : List TopUp := []
  usage : List UsageRow := []
  settings : RefundSettings := { pageEnabled := true }
  campaign : Campaign
  currency : Currency := {}
  pendingRequest : Bool := false

/-- `getSubscriptionPlanByIdTx`. -/
def World.plan (world : World) (id : Int) : Option Plan :=
  if id ≤ 0 then none else lookup (fun plan : Plan => plan.id) world.plans id

/-! ## The price of a subscription -/

/-- `model/subscription_legacy_migration.go::isSelfServiceSubscriptionConversionPlanEligible`. -/
def isPlanEligible (sub : UserSubscription) (plan : Plan) (campaign : Campaign) : Bool :=
  if campaign.requireDisabledPlan && plan.enabled then false
  else if campaign.eligiblePlanIds ≠ [] then plan.id ∈ campaign.eligiblePlanIds
  else
    (campaign.eligibleUpgradeGroups.any fun group =>
      trimSpace group ≠ "" &&
        (toLower (trimSpace plan.terms.upgradeGroup) = toLower (trimSpace group) ||
          toLower (trimSpace sub.upgradeGroup) = toLower (trimSpace group))) ||
    campaign.eligibleTitleKeywords.any fun keyword =>
      trimSpace keyword ≠ "" && decide ((trimSpace keyword).toList <:+: (trimSpace plan.terms.title).toList)

/-- `SubscriptionRefundOrderSummary`. -/
structure RefundOrderSummary where
  orderId : Int
  tradeNo : String
  paymentMethod : String
  money : Rat
  topUpId : Int := 0
  completeTime : Int := 0

/-- `model/subscription.go::buildSubscriptionRefundOrderSummaryFromSubscription`. -/
def buildRefundOrderSummary (world : World) (sub : UserSubscription) : Option RefundOrderSummary :=
  let columns := world.columns sub.id
  if sub.source ≠ .order ∨ trimSpace sub.sourceOrderTradeNo = "" then none
  else
    let summary : RefundOrderSummary := {
      orderId := sub.sourceOrderId
      tradeNo := trimSpace sub.sourceOrderTradeNo
      paymentMethod := trimSpace columns.sourceOrderPaymentMethod
      money := columns.sourceOrderMoney }
    match lookup TopUp.tradeNo world.topUps summary.tradeNo with
    | some topUp => some { summary with
        topUpId := topUp.id
        completeTime := topUp.completeTime
        paymentMethod := if summary.paymentMethod = "" then topUp.paymentMethod else summary.paymentMethod
        money := if summary.money ≤ 0 then topUp.money else summary.money }
    | none =>
      if summary.orderId > 0 then
        match lookup PaidOrder.id world.orders summary.orderId with
        | some order => some { summary with completeTime := order.completeTime }
        | none => some summary
      else some summary

/-- `Order("complete_time desc, id desc")`. -/
def completedAfter (one other : PaidOrder) : Prop :=
  other.completeTime < one.completeTime ∨ (one.completeTime = other.completeTime ∧ other.id ≤ one.id)

instance : DecidableRel completedAfter := fun _ _ => inferInstanceAs (Decidable (_ ∨ _))

/-- The loop of `findMatchedSuccessfulSubscriptionOrder`: the first order whose
completion is nearest. -/
def nearest (createdAt : Int) (best : PaidOrder) (orders : List PaidOrder) : PaidOrder :=
  orders.foldl (fun best order =>
    if (order.completeTime - createdAt).natAbs < (best.completeTime - createdAt).natAbs then order
    else best) best

/-- `model/subscription_legacy_migration.go::findMatchedSuccessfulSubscriptionOrder`. -/
def findMatchedSuccessfulSubscriptionOrder (world : World) (userId planId createdAt : Int) :
    Option PaidOrder :=
  if userId ≤ 0 ∨ planId ≤ 0 then none
  else
    let orders := ((world.orders.filter fun order =>
      order.userId = userId && order.planId = planId && order.status = .success).insertionSort
        completedAfter).take 20
    match orders with
    | [] => none
    | order :: rest => if createdAt ≤ 0 then some order else some (nearest createdAt order rest)

structure PriceBasis where
  orderId : Int
  money : Rat

/-- `model/subscription_legacy_migration.go::resolveSelfServiceSubscriptionConversionPriceBasis`,
with the order that the price comes from. -/
def resolvePriceBasis (world : World) (sub : UserSubscription) : Option PriceBasis :=
  let matched : Option PriceBasis :=
    match findMatchedSuccessfulSubscriptionOrder world sub.userId sub.planId
        (world.columns sub.id).createdAt with
    | some order => if order.money > 0 then some ⟨order.id, order.money⟩ else none
    | none => none
  match buildRefundOrderSummary world sub with
  | some summary => if summary.money > 0 then some ⟨summary.orderId, summary.money⟩ else matched
  | none => matched

/-! ## What a subscription converts to -/

/-- `math.Floor(value + 1e-9)`. -/
def floorNearly (value : Rat) : Int := (value + 1 / 1000000000).floor

def usdAmount (currency : Currency) (amount : Rat) : Rat :=
  match currency.display with
  | .cny => if currency.usdExchangeRate > 0 then amount / currency.usdExchangeRate else amount
  | .custom =>
    if currency.customCurrencyExchangeRate > 0 then amount / currency.customCurrencyExchangeRate
    else amount
  | _ => amount

/-- `model/subscription_legacy_migration.go::convertSubscriptionConversionAmountToQuota`. -/
def convertAmountToQuota (currency : Currency) (amount : Rat) : Int :=
  if amount ≤ 0 ∨ currency.quotaPerUnit ≤ 0 then 0
  else if currency.display = .tokens then floorNearly amount
  else if usdAmount currency amount ≤ 0 then 0
  else floorNearly (usdAmount currency amount * currency.quotaPerUnit)

/-- `model/subscription_legacy_migration.go::resolveSelfServiceSubscriptionConversionDurationDays`. -/
def resolveDurationDays (columns : Columns) (sub : UserSubscription) (plan : Plan) : Rat :=
  let terms := plan.terms
  let (unit, value, customSeconds) := match columns.durationUnit with
    | some unit => (unit, columns.durationValue, columns.customSeconds)
    | none => (terms.durationUnit, terms.durationValue, terms.customSeconds)
  let value := if value ≤ 0 ∧ unit ≠ .custom then 1 else value
  let fallback : Rat :=
    if sub.endTime > sub.startTime then max ((sub.endTime - sub.startTime : Int) / 86400) (1 / 24)
    else 1
  match unit with
  | .year => (value * 365 : Int)
  | .month => (value * 30 : Int)
  | .week => (value * 7 : Int)
  | .day => value
  | .hour => max ((value : Rat) / 24) (1 / 24)
  | .custom => if customSeconds > 0 then max ((customSeconds : Rat) / 86400) (1 / 24) else fallback
  | .other _ => fallback

/-- `subscriptionRefundUsageSummary`. -/
structure UsageSummary where
  inputTokens : Int := 0
  outputTokens : Int := 0
  cacheReadTokens : Int := 0
  cacheWriteTokens : Int := 0

def UsageSummary.billedInputTokens (summary : UsageSummary) : Int :=
  max 0 (summary.inputTokens - summary.cacheReadTokens - summary.cacheWriteTokens)

/-- `model/subscription_legacy_migration.go::summarizeSubscriptionRefundUsage`. -/
def summarizeRefundUsage (rows : List UsageRow) (userId subscriptionId start end_ : Int) :
    UsageSummary :=
  if userId ≤ 0 ∨ subscriptionId ≤ 0 then {}
  else
    let rows := rows.filter fun row => row.userId = userId && (start ≤ 0 || row.createdAt ≥ start) &&
      (end_ ≤ 0 || row.createdAt ≤ end_) && row.subscriptionId = subscriptionId
    { inputTokens := (rows.map UsageRow.promptTokens).sum
      outputTokens := (rows.map UsageRow.completionTokens).sum
      cacheReadTokens := (rows.map UsageRow.cacheTokens).sum
      cacheWriteTokens := (rows.map fun row =>
        if row.cacheWriteTokens ≤ 0 then row.cacheCreationTokens else row.cacheWriteTokens).sum }

/-- `model/subscription_legacy_migration.go::calcSubscriptionRefundTokenCostAmount`. -/
def calcTokenCostAmount (summary : UsageSummary) (settings : RefundSettings) : Rat :=
  let total := summary.billedInputTokens * settings.codexInputPricePerMillion +
    summary.outputTokens * settings.codexOutputPricePerMillion +
    summary.cacheReadTokens * settings.codexCacheReadPricePerMillion +
    summary.cacheWriteTokens * settings.codexCacheWritePricePerMillion
  roundHalfAway (total / 1000000 * 100) / 100

def remainingRatio (durationDays : Rat) (usedDays : Int) : Rat :=
  let durationDays := if durationDays ≤ 0 then 1 else durationDays
  let billableUsedDays := min ((usedDays : Rat) + 1 / 2) durationDays
  min (max ((durationDays - billableUsedDays) / durationDays) 0) 1

/-- The amount that `buildSubscriptionConversionPreviewItemWithOptions` converts a price to. -/
def convertibleAmount (world : World) (sub : UserSubscription) (plan : Plan) (now : Int)
    (price : Rat) : Rat :=
  if world.settings.enabled ∧ world.settings.settlementMode = .tokenUsage then
    let usage := summarizeRefundUsage world.usage sub.userId sub.id sub.startTime now
    let consumedCostAmount := min (calcTokenCostAmount usage world.settings) price
    max (roundHalfAway ((price - consumedCostAmount) * 100) / 100) 0
  else
    let usedDays := max (now - sub.startTime) 0 / 86400
    let ratio := remainingRatio (resolveDurationDays (world.columns sub.id) sub plan) usedDays
    roundHalfAway (price * ratio * 100) / 100

/-- What `SelfServiceSubscriptionConversionPreviewItem` says of the price and of
what it converts to. -/
structure PreviewItem where
  userSubscriptionId : Int
  priceBasis : PriceBasis
  refundOrder : Option RefundOrderSummary
  convertibleAmount : Rat
  convertibleQuota : Int

/-- `model/subscription_legacy_migration.go::buildSelfServiceSubscriptionConversionPreviewItem`. -/
def buildPreviewItem (world : World) (campaign : Campaign) (now : Int) (sub : UserSubscription)
    (plan : Plan) : Option PreviewItem :=
  if sub.status ≠ .active ∨ sub.endTime ≤ now then none
  else if !isPlanEligible sub plan campaign then none
  else match resolvePriceBasis world sub with
    | none => none
    | some basis =>
      let amount := convertibleAmount world sub plan now basis.money
      some {
        userSubscriptionId := sub.id
        priceBasis := basis
        refundOrder := buildRefundOrderSummary world sub
        convertibleAmount := amount
        convertibleQuota := convertAmountToQuota world.currency amount }

/-! ## Executions -/

/-- A conversion that an execution made: the subscription, the order of its
price and what that order is worth in quota, and the quota credited. -/
structure Conversion where
  userId : Int
  userSubscriptionId : Int
  orderId : Int
  value : Int
  quota : Int
  deriving DecidableEq, Repr

/-- The tables, and in `conversions` what executions ever converted. -/
structure Tables where
  db : Database := {}
  conversions : List Conversion := []

/-- A call of `ExecuteSelfServiceSubscriptionConversion`: its user, and the time
and the tables that the preview and the transaction see. -/
structure Execution where
  userId : Int
  previewNow : Int
  seen : World
  now : Int
  world : World

/-- What `PreviewSelfServiceSubscriptionConversion` tells an execution: whether
it may go on, and the subscriptions to convert. -/
structure Preview where
  canExecute : Bool
  items : List Int

def previewItems (call : Execution) : List UserSubscription → Option (List Int)
  | [] => some []
  | sub :: rest =>
    match call.seen.plan sub.planId with
    | none => none
    | some plan =>
      match previewItems call rest with
      | none => none
      | some items =>
        match buildPreviewItem call.seen call.seen.campaign call.previewNow sub plan with
        | none => some items
        | some item => some (if item.convertibleQuota ≤ 0 then items else sub.id :: items)

/-- `model/subscription_legacy_migration.go::PreviewSelfServiceSubscriptionConversion`. -/
def previewConversion (call : Execution) (db : Database) : Option Preview :=
  if call.userId ≤ 0 ∨ lookup User.id db.users call.userId = none then none
  else if !call.seen.settings.isRefundPageEnabled then some ⟨false, []⟩
  else
    let subs := (db.subscriptions.filter fun sub =>
      sub.userId = call.userId && sub.status = .active && sub.endTime > call.previewNow)
    match previewItems call (subs.insertionSort endsBefore) with
    | none => none
    | some items =>
      let campaign := call.seen.campaign
      some ⟨campaign.enabled && call.previewNow < campaign.deadline && items ≠ [] &&
        !call.seen.pendingRequest, items⟩

def conversionOf (call : Execution) (sub : UserSubscription) : Option Conversion :=
  match call.world.plan sub.planId with
  | none => none
  | some plan =>
    match buildPreviewItem call.world call.seen.campaign call.now sub plan with
    | none => none
    | some item =>
      if item.convertibleQuota ≤ 0 then none
      else some {
        userId := call.userId
        userSubscriptionId := sub.id
        orderId := item.priceBasis.orderId
        value := convertAmountToQuota call.world.currency item.priceBasis.money
        quota := item.convertibleQuota }

def creditUser (userId quota : Int) (db : Database) : Database :=
  { db with users := update User.id db.users userId fun user => { user with quota := user.quota + quota } }

def cancelled (now : Int) (row : UserSubscription) : UserSubscription :=
  { row with status := .cancelled, endTime := now, updatedAt := now }

def convert (call : Execution) (sub : UserSubscription) (conversion : Conversion) (tables : Tables) :
    Tables :=
  let db := updateSubscription sub.id (cancelled call.now)
    (creditUser call.userId conversion.quota tables.db)
  { db := moveUser db sub.userId
      (downgradeUserGroupForSubscription sub call.now (userRows db sub.userId) (db.userGroup sub.userId))
    conversions := tables.conversions ++ [conversion] }

def convertAll (call : Execution) : List UserSubscription → Tables → Option Tables
  | [], tables => some tables
  | sub :: rest, tables =>
    match call.world.plan sub.planId with
    | none => none
    | some _ =>
      match conversionOf call sub with
      | none => convertAll call rest tables
      | some conversion => convertAll call rest (convert call sub conversion tables)

structure Reads where
  preview : Option Preview
  subs : Option (List UserSubscription) := none

def readSubscriptions (call : Execution) (preview : Preview) (db : Database) : List UserSubscription :=
  (db.subscriptions.filter fun sub =>
    sub.userId = call.userId && sub.id ∈ preview.items).insertionSort endsBefore

/-- `model/subscription_legacy_migration.go::ExecuteSelfServiceSubscriptionConversion`
by statements: the preview, the read of the transaction, and its writes. -/
def executeSelfServiceConversion (call : Execution) : Transaction Tables Reads where
  first := fun tables => { preview := previewConversion call tables.db }
  next := fun reads tables =>
    match reads.preview, reads.subs with
    | some preview, none => { reads with subs := some (readSubscriptions call preview tables.db) }
    | _, _ => reads
  write := fun reads tables =>
    match reads.preview, reads.subs with
    | some preview, some subs =>
      let campaign := call.seen.campaign
      if !preview.canExecute then none
      else if !campaign.enabled ∨ call.now ≥ campaign.deadline then none
      else if (subs.filterMap (conversionOf call)) = [] then none
      else convertAll call subs tables
    | _, _ => none

/-! ## What executions must keep -/

/-- Nobody was credited for more than the conversions, every subscription was
converted once at most, every order was the price of one conversion at most,
and the quota credited is not more than these orders are worth. -/
structure ConvertedOnce (start tables : Tables) : Prop where
  credited : ∀ userId, quotaOf userId tables.db = (quotaOf userId start.db).map
    (· + ((tables.conversions.filter (·.userId = userId)).map Conversion.quota).sum)
  subscriptions : (tables.conversions.map Conversion.userSubscriptionId).Nodup
  orders : (tables.conversions.map Conversion.orderId).Nodup
  worth : (tables.conversions.map Conversion.quota).sum ≤ (tables.conversions.map Conversion.value).sum

def planned (call : Execution) (reads : Reads) : List Conversion :=
  (reads.subs.getD []).filterMap (conversionOf call)

/-- The execution finds the subscriptions that it converts active, as it has
read them. -/
def StillActive (call : Execution) (reads : Reads) (tables : Tables) : Prop :=
  ∀ conversion ∈ planned call reads,
    (tables.db.subscription conversion.userSubscriptionId).map UserSubscription.status = some .active

instance (call : Execution) (reads : Reads) (tables : Tables) :
    Decidable (StillActive call reads tables) :=
  inferInstanceAs (Decidable (∀ conversion ∈ planned call reads, _))

/-- The subscription names an order with a trade number, and has a price of its
own or from the top-up under that number. -/
def NamesOrder (world : World) (sub : UserSubscription) : Prop :=
  sub.source = .order ∧ trimSpace sub.sourceOrderTradeNo ≠ "" ∧
    (0 < (world.columns sub.id).sourceOrderMoney ∨
      ∃ topUp ∈ lookup TopUp.tradeNo world.topUps (trimSpace sub.sourceOrderTradeNo), 0 < topUp.money)

def bought (world : World) (userId planId : Int) : List PaidOrder :=
  world.orders.filter fun order =>
    order.userId = userId && order.planId = planId && order.status = .success

def Nearest (createdAt : Int) (order : PaidOrder) (orders : List PaidOrder) : Prop :=
  ∀ other ∈ orders, (order.completeTime - createdAt).natAbs ≤ (other.completeTime - createdAt).natAbs

/-- The order may be the one behind the subscription: the order that it names,
and for want of a name the order of its user and plan that was completed nearest
to its creation. Of more than twenty orders it may be any. -/
structure MayBeBehind (world : World) (sub : UserSubscription) (orderId : Int) : Prop where
  named : NamesOrder world sub → orderId = sub.sourceOrderId
  unnamed : ¬ NamesOrder world sub → ∃ order ∈ bought world sub.userId sub.planId,
    order.id = orderId ∧ 0 < order.money ∧
      (0 < (world.columns sub.id).createdAt → (bought world sub.userId sub.planId).length ≤ 20 →
        Nearest (world.columns sub.id).createdAt order (bought world sub.userId sub.planId))

/-- No order may be behind two subscriptions. -/
def OrdersApart {Id : Type*} (calls : Id → Execution) (start : Tables) : Prop :=
  ∀ one ∈ start.db.subscriptions, ∀ other ∈ start.db.subscriptions, ∀ earlier later orderId,
    MayBeBehind (calls earlier).world one orderId → MayBeBehind (calls later).world other orderId →
      one.id = other.id

def WholeCents (money : Rat) : Prop := ∃ cents : Int, money * 100 = cents

structure Priced (world : World) : Prop where
  columns : ∀ id, WholeCents (world.columns id).sourceOrderMoney
  orders : ∀ order ∈ world.orders, WholeCents order.money
  topUps : ∀ topUp ∈ world.topUps, WholeCents topUp.money
  prices : 0 ≤ world.settings.codexInputPricePerMillion ∧ 0 ≤ world.settings.codexOutputPricePerMillion ∧
    0 ≤ world.settings.codexCacheReadPricePerMillion ∧ 0 ≤ world.settings.codexCacheWritePricePerMillion
  counters : ∀ row ∈ world.usage, 0 ≤ row.promptTokens ∧ 0 ≤ row.completionTokens ∧
    0 ≤ row.cacheTokens ∧ 0 ≤ row.cacheWriteTokens ∧ 0 ≤ row.cacheCreationTokens

/-! ## What the writes of an execution do -/

theorem update_subscription_found (id : Int) (change : UserSubscription → UserSubscription)
    (keeps : ∀ sub, (change sub).id = sub.id) (db : Database) (other : Int) :
    (updateSubscription id change db).subscription other =
      if other = id then (db.subscription other).map change else db.subscription other :=
  lookup_update db.subscriptions id other change keeps

theorem move_user_subscriptions (db : Database) (userId : Int) (group : Option String) :
    (moveUser db userId group).subscriptions = db.subscriptions := by
  cases group <;> rfl

/-- The conversions are recorded and credited, their subscriptions are not
active any more, and the others are as they were. -/
structure Converted (new : List Conversion) (tables after : Tables) : Prop where
  recorded : after.conversions = tables.conversions ++ new
  credited : ∀ userId, quotaOf userId after.db = (quotaOf userId tables.db).map
    (· + ((new.filter (·.userId = userId)).map Conversion.quota).sum)
  kept : ∀ id, id ∉ new.map Conversion.userSubscriptionId →
    after.db.subscription id = tables.db.subscription id
  cancelled : ∀ conversion ∈ new, ∀ row,
    after.db.subscription conversion.userSubscriptionId = some row → row.status ≠ .active
  ids : after.db.subscriptions.map UserSubscription.id = tables.db.subscriptions.map UserSubscription.id

theorem converted_nil (tables : Tables) : Converted [] tables tables where
  recorded := (List.append_nil _).symm
  credited := fun userId => by simp
  kept := fun _ _ => rfl
  cancelled := fun _ member => absurd member List.not_mem_nil
  ids := rfl

theorem Converted.trans {first : List Conversion}
    (earlier : Converted first tables between) (later : Converted second between after) :
    Converted (first ++ second) tables after where
  recorded := by rw [later.recorded, earlier.recorded, List.append_assoc]
  credited := by
    intro userId
    rw [later.credited, earlier.credited, Option.map_map]
    refine congrArg (Option.map · _) (funext fun quota => ?_)
    simp only [Function.comp_apply, List.filter_append, List.map_append, List.sum_append]
    omega
  kept := by
    intro id absent
    rw [List.map_append, List.mem_append, not_or] at absent
    rw [later.kept id absent.2, earlier.kept id absent.1]
  cancelled := by
    intro conversion member row found
    by_cases again : conversion.userSubscriptionId ∈ second.map Conversion.userSubscriptionId
    · obtain ⟨other, inside, same⟩ := List.mem_map.mp again
      exact later.cancelled other inside row (same ▸ found)
    · rcases List.mem_append.mp member with early | late
      · rw [later.kept _ again] at found
        exact earlier.cancelled conversion early row found
      · exact absurd (List.mem_map_of_mem late) again
  ids := later.ids.trans earlier.ids

theorem credit_user_quota (userId quota : Int) (db : Database) (other : Int) :
    quotaOf other (creditUser userId quota db) =
      (quotaOf other db).map (· + if other = userId then quota else 0) := by
  let change : User → User := fun user => { user with quota := user.quota + quota }
  have written := @ConversionReview.update_user_quota db.users userId other change fun _ => rfl
  refine written.trans ?_
  by_cases same : other = userId
  · rw [if_pos same, if_pos same, quotaOf, Option.map_map]
    rfl
  · rw [if_neg same, if_neg same, quotaOf, Option.map_map]
    exact congrArg (Option.map · _) (funext fun user => (Int.add_zero user.quota).symm)

theorem convert_found (call : Execution) (sub : UserSubscription) (conversion : Conversion)
    (tables : Tables) (id : Int) : (convert call sub conversion tables).db.subscription id =
      if id = sub.id then (tables.db.subscription id).map (cancelled call.now)
      else tables.db.subscription id := by
  rw [convert, Database.subscription, move_user_subscriptions]
  exact update_subscription_found sub.id (cancelled call.now) (fun _ => rfl) _ id

theorem convert_converted
    (mine : conversion.userId = call.userId) (here : conversion.userSubscriptionId = sub.id)
    (tables : Tables) : Converted [conversion] tables (convert call sub conversion tables) := by
  refine ⟨rfl, fun userId => ?_, fun id absent => ?_, ?_, ?_⟩
  · rw [convert, ConversionReview.move_user_quota]
    refine (credit_user_quota call.userId conversion.quota tables.db userId).trans ?_
    by_cases same : userId = call.userId
    · simp [same, mine]
    · have other : conversion.userId ≠ userId := fun user => same (user.symm.trans mine)
      simp [same, other]
  · rw [convert_found, if_neg]
    rintro rfl
    exact absent (by simp [here])
  · intro other member row at_
    rw [List.mem_singleton.mp member, convert_found, if_pos here] at at_
    obtain ⟨old, -, rfl⟩ := Option.map_eq_some_iff.mp at_
    simp [cancelled]
  · rw [convert, move_user_subscriptions]
    exact map_key_update _ _ fun _ => rfl

theorem conversion_of_spec
    (made : conversionOf call sub = some conversion) :
    sub.status = .active ∧ ∃ plan basis, resolvePriceBasis call.world sub = some basis ∧
      conversion = {
        userId := call.userId
        userSubscriptionId := sub.id
        orderId := basis.orderId
        value := convertAmountToQuota call.world.currency basis.money
        quota := convertAmountToQuota call.world.currency
          (convertibleAmount call.world sub plan call.now basis.money) } := by
  unfold conversionOf at made
  split at made
  · cases made
  · rename_i plan known
    unfold buildPreviewItem at made
    split at made
    · cases made
    · rename_i item built
      split at built
      · cases built
      · rename_i current
        split at built
        · cases built
        · split at built
          · cases built
          · rename_i basis resolved
            split at made
            · cases made
            · cases built
              cases made
              exact ⟨by by_contra other; exact current (.inl other), plan, basis, resolved, rfl⟩

theorem convert_all_converted
    (done : convertAll call subs tables = some after) :
    Converted (subs.filterMap (conversionOf call)) tables after := by
  induction subs generalizing tables with
  | nil =>
    cases done
    exact converted_nil _
  | cons sub rest ih =>
    unfold convertAll at done
    split at done
    · cases done
    · split at done
      · rename_i nothing
        rw [List.filterMap_cons_none nothing]
        exact ih done
      · rename_i conversion made
        obtain ⟨-, plan, basis, -, rfl⟩ := conversion_of_spec made
        rw [List.filterMap_cons_some made]
        exact (convert_converted rfl rfl tables).trans (ih done)

/-! ## What a conversion is worth -/

theorem round_le {value : Rat} {bound : Int} (below : value ≤ bound) : roundHalfAway value ≤ bound := by
  unfold roundHalfAway
  split
  · have under : (value + 1 / 2).floor < bound + 1 := by
      rw [Rat.floor_lt_iff]
      push_cast
      linarith
    omega
  · have above : -bound ≤ (-value + 1 / 2).floor := by
      rw [Rat.le_floor_iff]
      push_cast
      linarith
    omega

theorem le_round {value : Rat} {bound : Int} (above : (bound : Rat) ≤ value) :
    bound ≤ roundHalfAway value := by
  have mirrored := @round_le (-value) (-bound) (by push_cast; linarith)
  unfold roundHalfAway at mirrored ⊢
  split
  · rw [Rat.le_floor_iff]
    linarith
  · have flipped : (-value) ≥ 0 := by linarith
    rw [if_pos flipped] at mirrored
    omega

theorem round_cents_le {price part : Rat} (cents : WholeCents price)
    (below : part ≤ price) : (roundHalfAway (part * 100) : Rat) / 100 ≤ price := by
  obtain ⟨cents, whole⟩ := cents
  have bound : roundHalfAway (part * 100) ≤ cents := round_le (by linarith)
  have cast : (roundHalfAway (part * 100) : Rat) ≤ cents := by exact_mod_cast bound
  linarith

theorem remaining_ratio_le (durationDays : Rat) (usedDays : Int) :
    remainingRatio durationDays usedDays ≤ 1 := min_le_right _ _

theorem sum_nonneg_of {rows : List UsageRow} {counter : UsageRow → Int}
    (all : ∀ row ∈ rows, 0 ≤ counter row) : 0 ≤ (rows.map counter).sum := by
  induction rows with
  | nil => exact le_refl 0
  | cons row rest ih =>
    exact add_nonneg (all row (List.mem_cons_self ..)) (ih fun other member =>
      all other (List.mem_cons_of_mem row member))

theorem usage_nonneg {world : World} (priced : Priced world) (userId id start now : Int) :
    let usage := summarizeRefundUsage world.usage userId id start now
    0 ≤ usage.outputTokens ∧ 0 ≤ usage.cacheReadTokens ∧ 0 ≤ usage.cacheWriteTokens := by
  unfold summarizeRefundUsage
  split
  · exact ⟨le_refl 0, le_refl 0, le_refl 0⟩
  · have inside {row : UsageRow} {kept : UsageRow → Bool} (member : row ∈ world.usage.filter kept) :=
      priced.counters row (List.mem_filter.mp member).1
    refine ⟨sum_nonneg_of fun row member => (inside member).2.1,
      sum_nonneg_of fun row member => (inside member).2.2.1, sum_nonneg_of fun row member => ?_⟩
    have counter := (inside member).2.2.2
    split
    · exact counter.2
    · exact counter.1

theorem rounded_nonneg (positive : 0 ≤ total) :
    (0 : Rat) ≤ roundHalfAway (total / 1000000 * 100) / 100 := by
  have rounded := @le_round (total / 1000000 * 100) 0 (by linarith)
  have cast : (0 : Rat) ≤ roundHalfAway (total / 1000000 * 100) := by exact_mod_cast rounded
  linarith

theorem token_cost_nonneg (priced : Priced world) (userId id start now : Int) :
    0 ≤ calcTokenCostAmount (summarizeRefundUsage world.usage userId id start now) world.settings := by
  obtain ⟨input, output, cacheRead, cacheWrite⟩ := priced.prices
  obtain ⟨out, read, write⟩ := usage_nonneg priced userId id start now
  generalize summarizeRefundUsage world.usage userId id start now = usage at out read write ⊢
  have billed : 0 ≤ usage.billedInputTokens := le_max_left 0 _
  have priceOf {count : Int} {price : Rat} (counted : 0 ≤ count) (dear : 0 ≤ price) :
      0 ≤ (count : Rat) * price := mul_nonneg (by exact_mod_cast counted) dear
  exact rounded_nonneg (add_nonneg (add_nonneg (add_nonneg (priceOf billed input)
    (priceOf out output)) (priceOf read cacheRead)) (priceOf write cacheWrite))

theorem nearest_mem (createdAt : Int) (best : PaidOrder) (orders : List PaidOrder) :
    nearest createdAt best orders ∈ best :: orders := by
  unfold nearest
  induction orders generalizing best with
  | nil => exact List.mem_singleton.mpr rfl
  | cons order rest ih =>
    rw [List.foldl_cons]
    split
    · exact List.mem_cons_of_mem _ (ih order)
    · rcases List.mem_cons.mp (ih best) with same | later
      · rw [same]
        exact List.mem_cons_self ..
      · exact List.mem_cons_of_mem _ (List.mem_cons_of_mem _ later)

theorem nearest_spec (createdAt : Int) (best : PaidOrder) (orders : List PaidOrder) :
    Nearest createdAt (nearest createdAt best orders) (best :: orders) := by
  unfold nearest
  induction orders generalizing best with
  | nil => simp [Nearest]
  | cons order rest ih =>
    intro other member
    rw [List.foldl_cons]
    split
    · rename_i closer
      have first := ih order order (List.mem_cons_self ..)
      rcases List.mem_cons.mp member with rfl | later
      · omega
      · exact ih order other later
    · rename_i farther
      have first := ih best best (List.mem_cons_self ..)
      rcases List.mem_cons.mp member with rfl | later
      · exact first
      · rcases List.mem_cons.mp later with rfl | last
        · omega
        · exact ih best other (List.mem_cons_of_mem _ last)

theorem matched_order_spec
    (matched : findMatchedSuccessfulSubscriptionOrder world userId planId createdAt = some order) :
    order ∈ bought world userId planId ∧
      (0 < createdAt → (bought world userId planId).length ≤ 20 →
        Nearest createdAt order (bought world userId planId)) := by
  have listed : ∀ {head : PaidOrder} {rest : List PaidOrder},
      ((bought world userId planId).insertionSort completedAfter).take 20 = head :: rest →
      (∀ order ∈ head :: rest, order ∈ bought world userId planId) ∧
        ((bought world userId planId).length ≤ 20 →
          ∀ order ∈ bought world userId planId, order ∈ head :: rest) := by
    intro head rest taken
    rw [← taken]
    refine ⟨fun order member => ?_, fun few order member => ?_⟩
    · exact (List.mem_insertionSort completedAfter).mp (List.mem_of_mem_take member)
    · rw [List.take_of_length_le ((List.length_insertionSort ..).trans_le few)]
      exact (List.mem_insertionSort completedAfter).mpr member
  unfold findMatchedSuccessfulSubscriptionOrder at matched
  split at matched
  · cases matched
  · dsimp only at matched
    split at matched
    · cases matched
    · rename_i head rest taken
      obtain ⟨stored, all⟩ := listed taken
      split at matched
      · rename_i unset
        cases matched
        exact ⟨stored _ (List.mem_cons_self ..), fun positive => absurd unset (not_le.mpr positive)⟩
      · cases matched
        refine ⟨stored _ (nearest_mem createdAt _ rest), fun _ few other member => ?_⟩
        exact nearest_spec createdAt head rest other (all few other member)

theorem summary_cents (priced : Priced world)
    (built : buildRefundOrderSummary world sub = some summary) :
    WholeCents summary.money := by
  have column := priced.columns sub.id
  unfold buildRefundOrderSummary at built
  dsimp only at built
  split at built
  · cases built
  · split at built
    · rename_i topUp found
      cases built
      dsimp only
      split
      · exact priced.topUps topUp (lookup_mem found)
      · exact column
    · split at built
      · split at built <;> (cases built; exact column)
      · cases built
        exact column

theorem summary_names (built : buildRefundOrderSummary world sub = some summary) :
    summary.orderId = sub.sourceOrderId ∧ (0 < summary.money ↔ NamesOrder world sub) := by
  unfold buildRefundOrderSummary at built
  dsimp only at built
  split at built
  · cases built
  · rename_i named
    rw [not_or, not_not] at named
    have names : NamesOrder world sub ↔ 0 < (world.columns sub.id).sourceOrderMoney ∨
        ∃ topUp ∈ lookup TopUp.tradeNo world.topUps (trimSpace sub.sourceOrderTradeNo),
          0 < topUp.money := by
      simp [NamesOrder, named.1, named.2]
    rw [names]
    split at built
    · rename_i topUp found
      cases built
      refine ⟨rfl, ?_⟩
      simp only [found, Option.mem_some_iff, exists_eq_left']
      split
      · rename_i free
        simp [not_lt.mpr free]
      · rename_i dear
        simp [not_le.mp dear]
    · rename_i missing
      have summaries : summary.orderId = sub.sourceOrderId ∧
          summary.money = (world.columns sub.id).sourceOrderMoney := by
        split at built
        · split at built <;> (cases built; exact ⟨rfl, rfl⟩)
        · cases built
          exact ⟨rfl, rfl⟩
      simp [summaries, missing]

theorem not_names (absent : buildRefundOrderSummary world sub = none) : ¬ NamesOrder world sub := by
  rintro ⟨source, named, -⟩
  unfold buildRefundOrderSummary at absent
  simp only [source, named, ne_eq, not_true_eq_false, or_self, if_false] at absent
  split at absent
  · cases absent
  · split at absent
    · split at absent <;> cases absent
    · cases absent

theorem resolve_spec
    (resolved : resolvePriceBasis world sub = some basis) :
    0 < basis.money ∧ (Priced world → WholeCents basis.money) ∧
      MayBeBehind world sub basis.orderId := by
  unfold resolvePriceBasis at resolved
  have matched (unnamed : ¬ NamesOrder world sub)
      (found : (match findMatchedSuccessfulSubscriptionOrder world sub.userId sub.planId
        (world.columns sub.id).createdAt with
      | some order => if order.money > 0 then some (⟨order.id, order.money⟩ : PriceBasis) else none
      | none => none) = some basis) : 0 < basis.money ∧ (Priced world → WholeCents basis.money) ∧
        MayBeBehind world sub basis.orderId := by
    split at found
    · rename_i order listed
      split at found
      · rename_i positive
        cases found
        obtain ⟨member, near⟩ := matched_order_spec listed
        exact ⟨positive, fun priced => priced.orders order (List.mem_filter.mp member).1,
          fun named => absurd named unnamed, fun _ => ⟨order, member, rfl, positive, near⟩⟩
      · cases found
    · cases found
  dsimp only at resolved
  split at resolved
  · rename_i summary built
    obtain ⟨order, names⟩ := summary_names built
    split at resolved
    · rename_i positive
      cases resolved
      exact ⟨positive, fun priced => summary_cents priced built, fun _ => order,
        fun unnamed => absurd (names.mp positive) unnamed⟩
    · rename_i free
      exact matched (fun named => free (names.mpr named)) resolved
  · rename_i absent
    exact matched (not_names absent) resolved

theorem convertible_amount_le (priced : Priced world)
    (resolved : resolvePriceBasis world sub = some basis) (plan : Plan)
    (now : Int) : convertibleAmount world sub plan now basis.money ≤ basis.money := by
  obtain ⟨positive, whole, -⟩ := resolve_spec resolved
  have cents := whole priced
  unfold convertibleAmount
  split
  · have cost := token_cost_nonneg priced sub.userId sub.id sub.startTime now
    refine max_le (round_cents_le cents ?_) positive.le
    have consumed : 0 ≤ min (calcTokenCostAmount (summarizeRefundUsage world.usage sub.userId sub.id
        sub.startTime now) world.settings) basis.money := le_min cost positive.le
    linarith
  · refine round_cents_le cents ?_
    have ratio := remaining_ratio_le (resolveDurationDays (world.columns sub.id) sub plan)
      (max (now - sub.startTime) 0 / 86400)
    calc basis.money * _ ≤ basis.money * 1 := mul_le_mul_of_nonneg_left ratio positive.le
      _ = basis.money := mul_one _

theorem floor_nearly_mono (ordered : less ≤ more) : floorNearly less ≤ floorNearly more :=
  Rat.floor_monotone (by linarith)

theorem floor_nearly_nonneg (positive : 0 ≤ value) : 0 ≤ floorNearly value := by
  rw [floorNearly, Rat.le_floor_iff]
  linarith

theorem usd_amount_mono (currency : Currency) (ordered : less ≤ more) :
    usdAmount currency less ≤ usdAmount currency more := by
  unfold usdAmount
  have divided {rate : Rat} : (if rate > 0 then less / rate else less) ≤
      if rate > 0 then more / rate else more := by
    split
    · rename_i positive
      exact div_le_div_of_nonneg_right ordered positive.le
    · exact ordered
  split
  · exact divided
  · exact divided
  · exact ordered

theorem convert_amount_nonneg (currency : Currency) (amount : Rat) :
    0 ≤ convertAmountToQuota currency amount := by
  unfold convertAmountToQuota
  split
  · exact le_refl 0
  · rename_i positive
    rw [not_or, not_le, not_le] at positive
    split
    · exact floor_nearly_nonneg positive.1.le
    · split
      · exact le_refl 0
      · rename_i dollars
        exact floor_nearly_nonneg (mul_nonneg (not_le.mp dollars).le positive.2.le)

theorem convert_amount_mono (currency : Currency) (ordered : less ≤ more) :
    convertAmountToQuota currency less ≤ convertAmountToQuota currency more := by
  by_cases nothing : less ≤ 0 ∨ currency.quotaPerUnit ≤ 0
  · rw [convertAmountToQuota, if_pos nothing]
    exact convert_amount_nonneg currency more
  · have something : ¬ (more ≤ 0 ∨ currency.quotaPerUnit ≤ 0) := fun none_ =>
      nothing (none_.imp_left ordered.trans)
    rw [convertAmountToQuota, convertAmountToQuota, if_neg nothing, if_neg something]
    rw [not_or, not_le, not_le] at nothing
    by_cases tokens : currency.display = .tokens
    · rw [if_pos tokens, if_pos tokens]
      exact floor_nearly_mono ordered
    · rw [if_neg tokens, if_neg tokens]
      have dollars := usd_amount_mono currency ordered
      by_cases few : usdAmount currency less ≤ 0
      · rw [if_pos few]
        split
        · exact le_refl 0
        · rename_i many
          exact floor_nearly_nonneg (mul_nonneg (not_le.mp many).le nothing.2.le)
      · rw [if_neg few, if_neg fun none_ => few (dollars.trans none_)]
        exact floor_nearly_mono (mul_le_mul_of_nonneg_right dollars nothing.2.le)

theorem conversion_worth (priced : Priced call.world)
    (made : conversionOf call sub = some conversion) :
    conversion.quota ≤ conversion.value := by
  obtain ⟨-, plan, basis, resolved, rfl⟩ := conversion_of_spec made
  exact convert_amount_mono _ (convertible_amount_le priced resolved plan call.now)

/-! ## Every interleaving -/

/-- What the tables keep: the ids, the subscriptions that were not converted,
and that the others are not active. -/
structure Ready (start tables : Tables) : Prop where
  ids : (tables.db.subscriptions.map UserSubscription.id).Nodup
  kept : ∀ id, id ∉ tables.conversions.map Conversion.userSubscriptionId →
    tables.db.subscription id = start.db.subscription id
  cancelled : ∀ conversion ∈ tables.conversions, ∀ row,
    tables.db.subscription conversion.userSubscriptionId = some row → row.status ≠ .active
  credited : ∀ userId, quotaOf userId tables.db = (quotaOf userId start.db).map
    (· + ((tables.conversions.filter (·.userId = userId)).map Conversion.quota).sum)

def Sound (start : Tables) (reads : Reads) : Prop :=
  ∀ subs, reads.subs = some subs → (subs.map UserSubscription.id).Nodup ∧
    ∀ sub ∈ subs, sub.status = .active → start.db.subscription sub.id = some sub

section Runs
variable {start tables : Tables} {reads : Reads}

theorem start_ready (ids : (start.db.subscriptions.map UserSubscription.id).Nodup)
    (none_ : start.conversions = []) : Ready start start where
  ids := ids
  kept := fun _ _ => rfl
  cancelled := fun _ member => absurd (none_ ▸ member) List.not_mem_nil
  credited := fun userId => by simp [none_]

theorem read_sound (ready : Ready start tables) (preview : Preview) :
    ((readSubscriptions call preview tables.db).map UserSubscription.id).Nodup ∧
      ∀ sub ∈ readSubscriptions call preview tables.db, sub.status = .active →
        start.db.subscription sub.id = some sub := by
  constructor
  · have inside := (List.filter_sublist (p := fun sub : UserSubscription =>
      sub.userId = call.userId && decide (sub.id ∈ preview.items)) (l := tables.db.subscriptions)).map
        UserSubscription.id
    have sorted := (List.perm_insertionSort endsBefore (tables.db.subscriptions.filter fun sub =>
      sub.userId = call.userId && sub.id ∈ preview.items)).map UserSubscription.id
    exact sorted.nodup_iff.mpr (ready.ids.sublist inside)
  · intro sub member active
    have stored := (List.mem_filter.mp ((List.mem_insertionSort endsBefore).mp member)).1
    have found : tables.db.subscription sub.id = some sub := lookup_of_mem ready.ids stored
    rw [← ready.kept sub.id, found]
    intro converted
    obtain ⟨conversion, inside, same⟩ := List.mem_map.mp converted
    exact ready.cancelled conversion inside sub (same ▸ found) active

theorem write_converted (written : (executeSelfServiceConversion call).write reads tables = some after) :
    (∃ subs, reads.subs = some subs) ∧ Converted (planned call reads) tables after := by
  simp only [executeSelfServiceConversion] at written
  split at written
  · rename_i preview subs _ held
    split at written
    · cases written
    · split at written
      · cases written
      · split at written
        · cases written
        · refine ⟨⟨subs, held⟩, ?_⟩
          rw [planned, held]
          exact convert_all_converted written
  · cases written

theorem Converted.ready (converted : Converted new tables after)
    (ready : Ready start tables) : Ready start after where
  ids := converted.ids ▸ ready.ids
  kept := by
    intro id absent
    rw [converted.recorded, List.map_append, List.mem_append, not_or] at absent
    rw [converted.kept id absent.2, ready.kept id absent.1]
  cancelled := by
    intro conversion member row found
    by_cases again : conversion.userSubscriptionId ∈ new.map Conversion.userSubscriptionId
    · obtain ⟨other, inside, same⟩ := List.mem_map.mp again
      exact converted.cancelled other inside row (same ▸ found)
    · rw [converted.recorded] at member
      rcases List.mem_append.mp member with before | now
      · rw [converted.kept _ again] at found
        exact ready.cancelled conversion before row found
      · exact absurd (List.mem_map_of_mem now) again
  credited := by
    intro userId
    rw [converted.credited, ready.credited, converted.recorded, Option.map_map]
    refine congrArg (Option.map · _) (funext fun quota => ?_)
    simp only [Function.comp_apply, List.filter_append, List.map_append, List.sum_append]
    omega

theorem executions_keep {Id : Type*} (calls : Id → Execution) :
    Keeps (fun id => executeSelfServiceConversion (calls id)) (Ready start) (Sound start) where
  first := fun id tables _ subs held => by simp [executeSelfServiceConversion] at held
  next := by
    intro id reads tables ready sound
    simp only [executeSelfServiceConversion]
    split
    · intro subs held
      cases held
      exact read_sound ready _
    · exact sound
  writes := by
    intro id reads tables after ready _ written
    obtain ⟨-, converted⟩ := write_converted written
    exact converted.ready ready

theorem conversions_apart (call : Execution) {subs : List UserSubscription}
    (distinct : (subs.map UserSubscription.id).Nodup) :
    ((subs.filterMap (conversionOf call)).map Conversion.userSubscriptionId).Nodup := by
  induction subs with
  | nil => exact List.nodup_nil
  | cons sub rest ih =>
    rw [List.map_cons, List.nodup_cons] at distinct
    cases made : conversionOf call sub with
    | none =>
      rw [List.filterMap_cons_none made]
      exact ih distinct.2
    | some conversion =>
      rw [List.filterMap_cons_some made, List.map_cons, List.nodup_cons]
      refine ⟨fun again => ?_, ih distinct.2⟩
      obtain ⟨other, inside, same⟩ := List.mem_map.mp again
      obtain ⟨twin, member, madeToo⟩ := List.mem_filterMap.mp inside
      obtain ⟨-, _, _, -, rfl⟩ := conversion_of_spec made
      obtain ⟨-, _, _, -, rfl⟩ := conversion_of_spec madeToo
      replace same : twin.id = sub.id := same
      exact distinct.1 (same ▸ List.mem_map_of_mem member)

theorem planned_apart (sound : Sound start reads) :
    ((planned call reads).map Conversion.userSubscriptionId).Nodup := by
  cases held : reads.subs with
  | none => simp [planned, held]
  | some subs =>
    rw [planned, held]
    exact conversions_apart call (sound subs held).1

theorem active_iff_unconverted (ready : Ready start tables) (sound : Sound start reads)
    (member : conversion ∈ planned call reads) :
    (tables.db.subscription conversion.userSubscriptionId).map UserSubscription.status = some .active ↔
      conversion.userSubscriptionId ∉ tables.conversions.map Conversion.userSubscriptionId := by
  obtain ⟨sub, inside, made⟩ := List.mem_filterMap.mp member
  obtain ⟨active, _, _, -, rfl⟩ := conversion_of_spec made
  constructor
  · intro running converted
    obtain ⟨row, found, running⟩ := Option.map_eq_some_iff.mp running
    obtain ⟨other, before, same⟩ := List.mem_map.mp converted
    exact ready.cancelled other before row (same ▸ found) running
  · intro unconverted
    cases held : reads.subs with
    | none => simp [held] at inside
    | some subs =>
      rw [held] at inside
      rw [ready.kept _ unconverted, (sound subs held).2 sub inside active, Option.map_some, active]

theorem converted_once_iff (ready : Ready start tables)
    (before : (tables.conversions.map Conversion.userSubscriptionId).Nodup) (sound : Sound start reads)
    (written : (executeSelfServiceConversion call).write reads tables = some after) :
    (after.conversions.map Conversion.userSubscriptionId).Nodup ↔ StillActive call reads tables := by
  obtain ⟨-, converted⟩ := write_converted written
  rw [converted.recorded, List.map_append, List.nodup_append']
  constructor
  · rintro ⟨-, -, disjoint⟩ conversion member
    exact (active_iff_unconverted ready sound member).mpr fun converted =>
      disjoint converted (List.mem_map_of_mem member)
  · refine fun active => ⟨before, planned_apart sound, fun id old new => ?_⟩
    obtain ⟨conversion, member, rfl⟩ := List.mem_map.mp new
    exact (active_iff_unconverted ready sound member).mp (active conversion member) old

/-- The conversion is one of a subscription that was there at the start, by an
order that may be behind it. -/
def Traced {Id : Type*} (calls : Id → Execution) (start : Tables) (conversion : Conversion) : Prop :=
  ∃ sub ∈ start.db.subscriptions, sub.id = conversion.userSubscriptionId ∧
    ∃ id, MayBeBehind (calls id).world sub conversion.orderId

theorem planned_traced {Id : Type*} {calls : Id → Execution} {id : Id} (sound : Sound start reads)
    (member : conversion ∈ planned (calls id) reads) : Traced calls start conversion := by
  obtain ⟨sub, inside, made⟩ := List.mem_filterMap.mp member
  obtain ⟨active, _, _, resolved, rfl⟩ := conversion_of_spec made
  cases held : reads.subs with
  | none => simp [held] at inside
  | some subs =>
    rw [held] at inside
    have found := (sound subs held).2 sub inside active
    exact ⟨sub, lookup_mem found, rfl, id, (resolve_spec resolved).2.2⟩

theorem orders_once {Id : Type*} {calls : Id → Execution} (apart : OrdersApart calls start)
    {conversions : List Conversion} (traced : ∀ conversion ∈ conversions, Traced calls start conversion)
    (once : (conversions.map Conversion.userSubscriptionId).Nodup) :
    (conversions.map Conversion.orderId).Nodup := by
  refine List.Nodup.map_on (fun one member other inside same => ?_) once.of_map
  obtain ⟨first, stored, here, earlier, behind⟩ := traced one member
  obtain ⟨second, storedToo, there, later, behindToo⟩ := traced other inside
  refine List.inj_on_of_nodup_map once member inside ?_
  rw [← here, ← there]
  exact apart first stored second storedToo earlier later _ behind (same ▸ behindToo)

theorem sum_worth {conversions : List Conversion}
    (each : ∀ conversion ∈ conversions, conversion.quota ≤ conversion.value) :
    (conversions.map Conversion.quota).sum ≤ (conversions.map Conversion.value).sum := by
  induction conversions with
  | nil => exact le_refl 0
  | cons conversion rest ih =>
    exact add_le_add (each conversion (List.mem_cons_self ..)) (ih fun other member =>
      each other (List.mem_cons_of_mem conversion member))

theorem commit_converted_once {Id : Type*} {calls : Id → Execution} {id : Id}
    (apart : OrdersApart calls start) (ready : Ready start tables) (before : ConvertedOnce start tables)
    (traced : ∀ conversion ∈ tables.conversions, Traced calls start conversion)
    (sound : Sound start reads)
    (written : (executeSelfServiceConversion (calls id)).write reads tables = some after)
    (active : StillActive (calls id) reads tables) (priced : Priced (calls id).world) :
    ConvertedOnce start after ∧ ∀ conversion ∈ after.conversions, Traced calls start conversion := by
  have once := (converted_once_iff ready before.subscriptions sound written).mpr active
  obtain ⟨-, converted⟩ := write_converted written
  have traced : ∀ conversion ∈ after.conversions, Traced calls start conversion := by
    rw [converted.recorded]
    intro conversion member
    rcases List.mem_append.mp member with old | new
    · exact traced conversion old
    · exact planned_traced sound new
  refine ⟨⟨(converted.ready ready).credited, once, orders_once apart traced once, ?_⟩, traced⟩
  have new : ((planned (calls id) reads).map Conversion.quota).sum ≤
      ((planned (calls id) reads).map Conversion.value).sum := by
    refine sum_worth fun conversion member => ?_
    obtain ⟨sub, -, made⟩ := List.mem_filterMap.mp member
    exact conversion_worth priced made
  rw [converted.recorded, List.map_append, List.map_append, List.sum_append, List.sum_append]
  exact add_le_add before.worth new

/-- In every interleaving of executions, by any users, over tables where no
order may be behind two subscriptions: when every execution that commits finds
its subscriptions active, and prices are in whole cents, then each subscription
is converted and credited once, each order is the price of one conversion, and
no more is credited than these orders are worth. Finding them active is
necessary, whatever the orders are. -/
theorem converted_once_when {Id : Type*} [DecidableEq Id] (calls : Id → Execution) (start : Tables)
    (ids : (start.db.subscriptions.map UserSubscription.id).Nodup) (none_ : start.conversions = [])
    (events : List (StagedReads.Event Id)) :
    let txn := fun id => executeSelfServiceConversion (calls id)
    (OrdersApart calls start →
      Guarded (StagedReads.step txn) (Commits txn fun id reads tables _ =>
        StillActive (calls id) reads tables ∧ Priced (calls id).world) (idle start) events →
      ∀ done, done <+: events → ConvertedOnce start (run (StagedReads.step txn) (idle start) done).shared) ∧
    ((∀ done, done <+: events →
        ConvertedOnce start (run (StagedReads.step txn) (idle start) done).shared) →
      Guarded (StagedReads.step txn) (Commits txn fun id reads tables _ =>
        StillActive (calls id) reads tables) (idle start) events) := by
  have initially := start_ready ids none_
  have nothing : ConvertedOnce start start :=
    ⟨initially.credited, by simp [none_], by simp [none_], by simp [none_]⟩
  constructor
  · intro apart permitted done before
    let Safe := fun tables : Tables =>
      ConvertedOnce start tables ∧ ∀ conversion ∈ tables.conversions, Traced calls start conversion
    have start_safe : Safe start := ⟨nothing, by simp [none_]⟩
    have commit : ∀ id reads tables after, Ready start tables → Safe tables → Sound start reads →
        (executeSelfServiceConversion (calls id)).write reads tables = some after →
        StillActive (calls id) reads tables ∧ Priced (calls id).world → Safe after :=
      fun id reads tables after ready safe sound written condition =>
        commit_converted_once apart ready safe.1 safe.2 sound written condition.1 condition.2
    exact (StagedReads.safe_of_commits (executions_keep calls) commit initially start_safe permitted
      before).1
  · intro always
    let txn := fun id => executeSelfServiceConversion (calls id)
    have decides : (∀ done, done <+: events →
        ((run (StagedReads.step txn) (idle start) done).shared.conversions.map
          Conversion.userSubscriptionId).Nodup) ↔
        Guarded (StagedReads.step txn) (Commits txn fun id reads tables _ =>
          StillActive (calls id) reads tables) (idle start) events :=
      always_safe_iff_commits (executions_keep calls)
        (fun id reads tables after ready safe sound written => converted_once_iff ready safe sound written)
        initially nothing.subscriptions events
    exact decides.mp fun done before => (always done before).subscriptions

end Runs

/-! ## Two executions, and an order that two subscriptions find -/

def oldPlan : Plan where
  id := 3
  terms := { title := "Claude" }
  enabled := false

def oldOrders : World where
  plans := [oldPlan]
  orders := [{ id := 11, userId := 7, planId := 3, money := 100, completeTime := 1000 }]
  campaign := { deadline := 900000 }

def convertNow (_ : Fin 2) : Execution where
  userId := 7
  previewNow := 1000
  seen := oldOrders
  now := 1000
  world := oldOrders

def boughtOnce : Tables where
  db := {
    users := [{ id := 7 }]
    subscriptions := [{ id := 4, userId := 7, planId := 3, startTime := 1000, endTime := 800000 }] }

theorem old_orders_priced : Priced oldOrders where
  columns := fun _ => ⟨0, by simp [oldOrders]⟩
  orders := by
    intro order member
    rw [List.mem_singleton.mp member]
    exact ⟨10000, by norm_num⟩
  topUps := fun _ member => absurd member List.not_mem_nil
  prices := ⟨le_refl 0, le_refl 0, le_refl 0, le_refl 0⟩
  counters := fun _ member => absurd member List.not_mem_nil

theorem bought_apart : OrdersApart convertNow boughtOnce := by
  intro one member other inside _ _ _ _ _
  rw [List.mem_singleton.mp member, List.mem_singleton.mp inside]

theorem single_execution_converts_once :
    ConvertedOnce boughtOnce (run (StagedReads.step fun id => executeSelfServiceConversion (convertNow id))
      (idle boughtOnce) [.read 0, .read 0, .finish 0]).shared := by
  refine (converted_once_when convertNow boughtOnce (by decide) rfl [.read 0, .read 0, .finish 0]).1
    bought_apart ⟨trivial, trivial, ?_, trivial⟩ _ (List.prefix_refl _)
  intro reads after held _
  cases held
  exact ⟨by decide +kernel, old_orders_priced⟩

def boughtAndGiven : Tables where
  db := { boughtOnce.db with
    subscriptions := boughtOnce.db.subscriptions ++
      [{ id := 5, userId := 7, planId := 3, source := .admin, startTime := 1000, endTime := 800000 }] }

/-- Two executions that both read before either commits credit the order of 100
twice; one execution alone does so when the user has a second subscription of
the plan that nobody paid for. -/
theorem order_credited_twice : let txn := fun id => executeSelfServiceConversion (convertNow id)
    ((run (StagedReads.step txn) (idle boughtOnce)
      [.read 0, .read 0, .read 1, .read 1, .finish 0, .finish 1]).shared.conversions.map
        fun made => (made.userSubscriptionId, made.orderId, made.quota)) =
      [(4, 11, 49165000), (4, 11, 49165000)] ∧
    ((run (StagedReads.step txn) (idle boughtAndGiven) [.read 0, .read 0, .finish 0]).shared.conversions.map
        fun made => (made.userSubscriptionId, made.orderId, made.quota)) =
      [(4, 11, 49165000), (5, 11, 49165000)] ∧
    ¬ ∀ done, done <+: [.read 0, .read 0, .read 1, .read 1, .finish 0, .finish 1] →
      ConvertedOnce boughtOnce (run (StagedReads.step txn) (idle boughtOnce) done).shared := by
  intro txn
  have twice : ((run (StagedReads.step txn) (idle boughtOnce)
      [.read 0, .read 0, .read 1, .read 1, .finish 0, .finish 1]).shared.conversions.map
        fun made => (made.userSubscriptionId, made.orderId, made.quota)) =
      [(4, 11, 49165000), (4, 11, 49165000)] := by decide +kernel
  refine ⟨twice, by decide +kernel, fun always => ?_⟩
  have once := (always _ (List.prefix_refl _)).subscriptions
  have ids : (run (StagedReads.step txn) (idle boughtOnce)
      [.read 0, .read 0, .read 1, .read 1, .finish 0, .finish 1]).shared.conversions.map
        Conversion.userSubscriptionId = [4, 4] := by
    have projected := congrArg (List.map Prod.fst) twice
    rw [List.map_map] at projected
    exact projected
  rw [ids] at once
  exact absurd once (by decide)

end NewApi.LegacyConversion
