import Mathlib.Algebra.Group.Basic
import Mathlib.Algebra.Group.Int.Defs
import NewApi.OrderCompletion
import NewApi.RowLocks

/-! Redeeming a code: a transaction locks the row of the code, grants what the
code carries, which is quota or a subscription, and marks the code as used. The
subscription of a plan that is delivered by hand is granted as a paid order. For
any number of calls on any codes, in any interleaving, the tables are those at
the start with the grant of each call that succeeded added, and nothing else. -/
namespace NewApi.RedemptionCodes
open NewApi.GuardedRun NewApi.KeyedTable
open NewApi.GoText (trimSpace)
open NewApi.ReadCommitted (Transaction alone)
open NewApi.RowLocks (Conflict)
open NewApi.ResetWindow NewApi.Subscription
open NewApi.SubscriptionStore (User PlanTerms SubscriptionPlan Database
  createUserSubscriptionFromPlan create_cases)
open NewApi.OrderCompletion (SubscriptionOrder isClaudeSeriesRequestCountManualDeliveryPlan
  reserveManualDeliveryChannelSlot reserve_keeps CompletionCall)

/-! ## Rows -/

/-- The values of `RedemptionCodeStatus` in `common/constants.go`. -/
inductive CodeStatus where
  | enabled
  | disabled
  | used
  deriving DecidableEq, Repr

/-- `model/redemption.go::Redemption`, a row that is not deleted; the key is a
unique index. -/
structure Redemption where
  id : Int
  key : String
  status : CodeStatus := .enabled
  quota : Int := 100
  redemptionType : String := "quota"
  subscriptionPlanId : Int := 0
  redeemedTime : Int := 0
  usedUserId : Int := 0
  expiredTime : Int := 0
  deriving DecidableEq, Repr

/-- `model/redemption.go::RedeemResult`. -/
structure RedeemResult where
  redemptionType : String
  quota : Int := 0
  subscriptionPlanId : Int := 0
  subscriptionPlanTitle : String := ""
  subscriptionId : Int := 0
  subscriptionOrderId : Int := 0
  fulfillmentStatus : Option OrderCompletion.FulfillmentStatus := none
  deriving DecidableEq, Repr

structure Tables where
  base : Database
  orders : List SubscriptionOrder := []
  nextOrderId : Int := 1
  codes : List Redemption := []
  deriving DecidableEq, Repr

/-- A call, and what the clocks, the random source, the channels and the
database answer it. -/
structure RedeemCall where
  key : String
  userId : Int
  now : Int
  dbNow : Int := 0
  tradeNo : Option String := none
  reserveSlot : Option (Int × Int) := none
  creditFails : Bool := false
  saveFails : Bool := false
  deriving DecidableEq, Repr

/-- A failure that is not the code's is wrapped as `failed`. -/
inductive RedeemError where
  | noKey
  | invalidUserId
  | invalidCode
  | codeUsed
  | codeExpired
  | failed
  deriving DecidableEq, Repr

def RedeemError.text : RedeemError → String
  | .noKey => "未提供兑换码"
  | .invalidUserId => "无效的 user id"
  | .invalidCode => "redeem.invalid_code"
  | .codeUsed => "redeem.code_used"
  | .codeExpired => "redeem.code_expired"
  | .failed => "redeem.failed"

/-! ## Redeeming -/

/-- `model/redemption.go::NormalizeRedemptionType`. -/
def normalizeRedemptionType (redemptionType : String) : String :=
  let normalized := trimSpace redemptionType.toLower
  if normalized = "" ∨ normalized = "quota" then "quota"
  else if normalized = "subscription" then "subscription"
  else "quota"

/-- `ApplyPlanSnapshot`, on the terms of a plan. -/
def planSnapshot (terms : PlanTerms) : PlanTerms :=
  { terms with title := trimSpace terms.title, upgradeGroup := trimSpace terms.upgradeGroup }

def deliveryOrder (call : RedeemCall) (plan : SubscriptionPlan) (id : Int) (tradeNo : String) :
    SubscriptionOrder where
  id := id
  userId := call.userId
  planId := plan.id
  terms := planSnapshot plan.terms
  tradeNo := tradeNo
  paymentMethod := "redemption"
  status := .success
  createTime := call.now
  completeTime := call.now
  fulfillmentStatus := .pendingDelivery

def reserveSlot (call : RedeemCall) (plan : SubscriptionPlan) (order : SubscriptionOrder) :
    Except RedeemError SubscriptionOrder :=
  if !isClaudeSeriesRequestCountManualDeliveryPlan plan.terms then .ok order
  else if order.id ≤ 0 ∨ order.userId ≤ 0 ∨ plan.id ≤ 0 then .error .failed
  else
    let answers : CompletionCall := { now := call.now, reserveSlot := call.reserveSlot }
    (reserveManualDeliveryChannelSlot answers plan.terms order).mapError fun _ => .failed

def grantOrder (call : RedeemCall) (plan : SubscriptionPlan) (tables : Tables) :
    Except RedeemError (Tables × RedeemResult) :=
  match call.tradeNo with
  | none => .error .failed
  | some tradeNo =>
    if tables.orders.any fun order => order.tradeNo = tradeNo then .error .failed
    else
      reserveSlot call plan (deliveryOrder call plan tables.nextOrderId tradeNo) >>= fun order =>
        .ok ({ tables with
          orders := tables.orders ++ [order]
          nextOrderId := tables.nextOrderId + 1 },
        { redemptionType := "subscription"
          subscriptionPlanId := plan.id
          subscriptionPlanTitle := plan.terms.title
          subscriptionOrderId := order.id
          fulfillmentStatus := some order.fulfillmentStatus })

def grantUserSubscription (calendar : Calendar) (call : RedeemCall) (plan : SubscriptionPlan)
    (tables : Tables) : Except RedeemError (Tables × RedeemResult) :=
  match createUserSubscriptionFromPlan calendar call.userId plan.id plan.terms .redemption call.dbNow
      tables.base with
  | .error _ => .error .failed
  | .ok (base, sub) => .ok ({ tables with base := base },
      { redemptionType := "subscription"
        subscriptionPlanId := plan.id
        subscriptionPlanTitle := plan.terms.title
        subscriptionId := sub.id })

/-- The `RedemptionTypeSubscription` case. -/
def grantSubscription (calendar : Calendar) (call : RedeemCall) (code : Redemption)
    (tables : Tables) : Except RedeemError (Tables × RedeemResult) :=
  if code.subscriptionPlanId ≤ 0 then .error .failed
  else match tables.base.plan code.subscriptionPlanId with
  | none => .error .failed
  | some plan =>
    match plan.terms.deliveryMode with
    | .manualDelivery => grantOrder call plan tables
    | .autoActivate => grantUserSubscription calendar call plan tables

def creditQuota (userId quota : Int) (base : Database) : Database :=
  { base with users := update User.id base.users userId fun user =>
    { user with quota := user.quota + quota } }

/-- The `default` case. -/
def grantQuota (call : RedeemCall) (code : Redemption) (tables : Tables) :
    Except RedeemError (Tables × RedeemResult) :=
  if call.creditFails then .error .failed
  else .ok ({ tables with base := creditQuota call.userId code.quota tables.base },
    { redemptionType := normalizeRedemptionType code.redemptionType, quota := code.quota })

def grant (calendar : Calendar) (call : RedeemCall) (code : Redemption) (tables : Tables) :
    Except RedeemError (Tables × RedeemResult) :=
  if normalizeRedemptionType code.redemptionType = "subscription" then
    grantSubscription calendar call code tables
  else grantQuota call code tables

def usedCode (userId time : Int) (code : Redemption) : Redemption :=
  { code with
    redemptionType := normalizeRedemptionType code.redemptionType
    redeemedTime := time
    status := .used
    usedUserId := userId }

/-- `model/redemption.go::Redeem` from the row that it has locked. -/
def redeem (calendar : Calendar) (call : RedeemCall) (held : Option Redemption) (tables : Tables) :
    Except RedeemError (Tables × RedeemResult) :=
  if call.key = "" then .error .noKey
  else if call.userId = 0 then .error .invalidUserId
  else match held with
  | none => .error .invalidCode
  | some code =>
    if code.status ≠ .enabled then .error .codeUsed
    else if code.expiredTime ≠ 0 ∧ code.expiredTime < call.now then .error .codeExpired
    else
      grant calendar call code tables >>= fun (tables, result) =>
        if call.saveFails then .error .failed
        else .ok ({ tables with
          codes := save Redemption.id tables.codes (usedCode call.userId call.now code) }, result)

def Tables.code (tables : Tables) (key : String) : Option Redemption :=
  lookup Redemption.key tables.codes key

/-- What the caller of a successful `Redeem` holds. -/
structure Answer where
  key : String
  userId : Int
  time : Int
  result : RedeemResult
  deriving DecidableEq, Repr

def RedeemCall.answer (call : RedeemCall) (result : RedeemResult) : Answer where
  key := call.key
  userId := call.userId
  time := call.now
  result := result

/-- The tables, and what the calls that committed have returned. -/
structure Served where
  tables : Tables
  answers : List Answer := []
  deriving DecidableEq, Repr

/-- `Redeem` returns its result when the transaction commits, and only an error
otherwise. -/
def redeemTransaction (calendar : Calendar) (call : RedeemCall) :
    Transaction Served (Option Redemption) where
  read := fun served => served.tables.code call.key
  write := fun held served =>
    (redeem calendar call held served.tables).toOption.map fun (tables, result) =>
      { tables := tables, answers := served.answers ++ [call.answer result] }

def onConflict (usingSQLite : Bool) : Conflict := if usingSQLite then .fail else .wait

/-! ## What was granted -/

inductive Benefit where
  | quota (amount : Int)
  | subscription (id planId : Int)
  | order (id planId : Int)
  deriving DecidableEq, Repr

def RedeemResult.benefit (result : RedeemResult) : Benefit :=
  if result.redemptionType ≠ "subscription" then .quota result.quota
  else if result.subscriptionId > 0 then .subscription result.subscriptionId result.subscriptionPlanId
  else .order result.subscriptionOrderId result.subscriptionPlanId

def Answer.credit (answer : Answer) : Int :=
  match answer.result.benefit with
  | .quota amount => amount
  | _ => 0

def Answer.subscription (answer : Answer) : Option (Int × Int × Int) :=
  match answer.result.benefit with
  | .subscription id planId => some (id, answer.userId, planId)
  | _ => none

def Answer.order (answer : Answer) : Option (Int × Int × Int) :=
  match answer.result.benefit with
  | .order id planId => some (id, answer.userId, planId)
  | _ => none

def Carries (db : Database) (code : Redemption) (benefit : Benefit) : Prop :=
  match benefit with
  | .quota amount =>
    normalizeRedemptionType code.redemptionType = "quota" ∧ amount = code.quota
  | .subscription _ planId =>
    normalizeRedemptionType code.redemptionType = "subscription" ∧
      planId = code.subscriptionPlanId ∧
        (db.plan planId).map (fun plan => plan.terms.deliveryMode) = some .autoActivate
  | .order _ planId =>
    normalizeRedemptionType code.redemptionType = "subscription" ∧
      planId = code.subscriptionPlanId ∧
        (db.plan planId).map (fun plan => plan.terms.deliveryMode) = some .manualDelivery

def settleCode (answers : List Answer) (code : Redemption) : Redemption :=
  match answers.find? fun answer => answer.key = code.key with
  | none => code
  | some answer => usedCode answer.userId answer.time code

def credited (userId : Int) (answers : List Answer) : Int :=
  ((answers.filter fun answer => answer.userId = userId).map Answer.credit).sum

/-- The tables hold what was at the start and what the successful calls granted:
every code is redeemed once at most, and is used exactly if it is; the call that
redeemed it granted one benefit, of the kind that the code carries, to the user
who is written down in the code; and nobody has anything else. -/
structure Settled (start : Tables) (served : Served) : Prop where
  codes : served.tables.codes = start.codes.map (settleCode served.answers)
  once : (served.answers.map Answer.key).Nodup
  carried : ∀ answer ∈ served.answers, ∃ code ∈ start.codes, code.key = answer.key ∧
    code.status = .enabled ∧ (∃ user ∈ start.base.users, user.id = answer.userId) ∧
      Carries start.base code answer.result.benefit
  quotas : (served.tables.base.users.map fun user => (user.id, user.quota)) =
    start.base.users.map fun user => (user.id, user.quota + credited user.id served.answers)
  subscriptions : ∃ issued, served.tables.base.subscriptions = start.base.subscriptions ++ issued ∧
    (issued.map fun sub => (sub.id, sub.userId, sub.planId)) =
      served.answers.filterMap Answer.subscription
  orders : ∃ placed, served.tables.orders = start.orders ++ placed ∧
    (placed.map fun order => (order.id, order.userId, order.planId)) =
      served.answers.filterMap Answer.order

structure Opening (start : Tables) : Prop where
  ids : (start.codes.map Redemption.id).Nodup
  keys : (start.codes.map Redemption.key).Nodup
  nextSubscriptionId : 0 < start.base.nextSubscriptionId
  nextOrderId : 0 < start.nextOrderId

structure Books (start : Tables) (served : Served) : Prop where
  settled : Settled start served
  plans : ∀ id, (served.tables.base.plan id).map SubscriptionPlan.terms =
    (start.base.plan id).map SubscriptionPlan.terms
  nextSubscriptionId : 0 < served.tables.base.nextSubscriptionId
  nextOrderId : 0 < served.tables.nextOrderId

/-! ## What a grant can do -/

section Grants
variable {calendar : Calendar} {call : RedeemCall} {code : Redemption}
variable {tables granted : Tables} {result : RedeemResult}

theorem normalized_types (redemptionType : String) :
    normalizeRedemptionType redemptionType = "quota" ∨
      normalizeRedemptionType redemptionType = "subscription" := by
  unfold normalizeRedemptionType
  dsimp only
  split
  · exact .inl rfl
  · split
    · exact .inr rfl
    · exact .inl rfl

/-- Everything that a grant can do. -/
inductive Grants (calendar : Calendar) (call : RedeemCall) (code : Redemption) (tables : Tables) :
    Tables → RedeemResult → Prop
  | quota {result : RedeemResult} (type : normalizeRedemptionType code.redemptionType = "quota")
      (benefit : result.benefit = .quota code.quota) :
      Grants calendar call code tables
        { tables with base := creditQuota call.userId code.quota tables.base } result
  | subscription {result : RedeemResult} {plan : SubscriptionPlan} {base : Database}
      {sub : UserSubscription}
      (type : normalizeRedemptionType code.redemptionType = "subscription")
      (found : tables.base.plan code.subscriptionPlanId = some plan)
      (mode : plan.terms.deliveryMode = .autoActivate)
      (created : createUserSubscriptionFromPlan calendar call.userId plan.id plan.terms .redemption
        call.dbNow tables.base = .ok (base, sub))
      (benefit : result.benefit = .subscription sub.id plan.id) :
      Grants calendar call code tables { tables with base := base } result
  | order {result : RedeemResult} {plan : SubscriptionPlan} {order : SubscriptionOrder}
      (type : normalizeRedemptionType code.redemptionType = "subscription")
      (found : tables.base.plan code.subscriptionPlanId = some plan)
      (mode : plan.terms.deliveryMode = .manualDelivery)
      (mine : order.userId = call.userId ∧ order.planId = plan.id)
      (benefit : result.benefit = .order order.id plan.id) :
      Grants calendar call code tables
        { tables with orders := tables.orders ++ [order], nextOrderId := tables.nextOrderId + 1 }
        result

theorem reserve_slot_keeps
    (reserve : reserveSlot call plan order = .ok reserved) :
    reserved.id = order.id ∧ reserved.userId = order.userId ∧ reserved.planId = order.planId := by
  unfold reserveSlot at reserve
  split at reserve
  · cases reserve
    exact ⟨rfl, rfl, rfl⟩
  · split at reserve
    · cases reserve
    · dsimp only at reserve
      cases outcome : reserveManualDeliveryChannelSlot
          { now := call.now, reserveSlot := call.reserveSlot } plan.terms order with
      | error error => simp [outcome, Except.mapError] at reserve
      | ok kept =>
        simp only [outcome, Except.mapError, Except.ok.injEq] at reserve
        subst reserve
        obtain ⟨channelId, keyIndex, rfl⟩ := reserve_keeps outcome
        exact ⟨rfl, rfl, rfl⟩

theorem grant_cases (nextId : 0 < tables.base.nextSubscriptionId)
    (grants : grant calendar call code tables = .ok (granted, result)) :
    Grants calendar call code tables granted result := by
  unfold grant at grants
  split at grants
  · rename_i type
    unfold grantSubscription at grants
    split at grants
    · cases grants
    · split at grants
      · cases grants
      · rename_i plan found
        split at grants
        · rename_i mode
          unfold grantOrder at grants
          split at grants
          · cases grants
          · split at grants
            · cases grants
            · obtain ⟨order, reserve, rest⟩ := except_bind_ok_iff.mp grants
              obtain ⟨-, user, planId⟩ := reserve_slot_keeps reserve
              cases rest
              exact .order type found mode ⟨user, planId⟩ rfl
        · rename_i mode
          unfold grantUserSubscription at grants
          split at grants
          · cases grants
          · rename_i base sub created
            cases grants
            refine .subscription type found mode created ?_
            obtain ⟨_, _, _, _, _, _, _, row, -⟩ := create_cases created
            have positive : sub.id > 0 := by
              rw [show sub = (base, sub).2 from rfl, row]
              exact nextId
            simp only [RedeemResult.benefit, ne_eq, not_true_eq_false, if_false, positive, if_true]
  · rename_i other
    have type := (normalized_types code.redemptionType).resolve_right other
    unfold grantQuota at grants
    split at grants
    · cases grants
    · cases grants
      exact .quota type (by simp only [RedeemResult.benefit, ne_eq, other, not_false_eq_true, if_true])

theorem redeem_cases
    (nextId : 0 < tables.base.nextSubscriptionId)
    (redeemed : redeem calendar call held tables = .ok (after, result)) :
    ∃ code granted, held = some code ∧ code.status = .enabled ∧
      Grants calendar call code tables granted result ∧
      after = { granted with
        codes := save Redemption.id granted.codes (usedCode call.userId call.now code) } := by
  unfold redeem at redeemed
  split at redeemed
  · cases redeemed
  · split at redeemed
    · cases redeemed
    · split at redeemed
      · cases redeemed
      · rename_i code
        split at redeemed
        · cases redeemed
        · rename_i enabled
          split at redeemed
          · cases redeemed
          · obtain ⟨⟨granted, result⟩, grants, rest⟩ := except_bind_ok_iff.mp redeemed
            dsimp only at rest
            split at rest
            · cases rest
            · cases rest
              exact ⟨code, granted, rfl, by simpa using enabled, grant_cases nextId grants, rfl⟩

end Grants

/-! ## One call -/

section Steps
variable {calendar : Calendar} {call : RedeemCall} {code : Redemption}
variable {start tables : Tables} {served : Served}
variable {answers : List Answer} {answer : Answer}

@[simp] theorem settle_code_id : (settleCode answers code).id = code.id := by
  unfold settleCode
  split <;> rfl

@[simp] theorem settle_code_key : (settleCode answers code).key = code.key := by
  unfold settleCode
  split <;> rfl

theorem enabled_unanswered (enabled : (settleCode answers code).status = .enabled) :
    settleCode answers code = code ∧ code.key ∉ answers.map Answer.key := by
  unfold settleCode at enabled ⊢
  split at enabled
  · rename_i absent
    refine ⟨rfl, fun member => ?_⟩
    obtain ⟨answer, inside, same⟩ := List.mem_map.mp member
    have no_match := List.find?_eq_none.mp absent answer inside
    exact no_match (by simpa using same)
  · cases enabled

theorem settle_append (other : answer.key ≠ code.key) :
    settleCode (answers ++ [answer]) code = settleCode answers code := by
  unfold settleCode
  rw [List.find?_append]
  have unmatched : [answer].find? (fun answer => answer.key = code.key) = none := by
    simp [other]
  rw [unmatched, Option.or_none]

theorem settle_answered (same : answer.key = code.key) (unanswered : code.key ∉ answers.map Answer.key) :
    settleCode (answers ++ [answer]) code = usedCode answer.userId answer.time code := by
  unfold settleCode
  have unmatched : answers.find? (fun answer => answer.key = code.key) = none := by
    apply List.find?_eq_none.mpr
    intro old member
    have apart : old.key ≠ code.key := by
      intro again
      apply unanswered
      rw [← again]
      exact List.mem_map_of_mem member
    simpa using apart
  rw [List.find?_append, unmatched, Option.none_or]
  simp [same]

theorem settled_code (settled : Settled start served) (key : String) :
    served.tables.code key = (start.code key).map (settleCode served.answers) := by
  unfold Tables.code
  rw [settled.codes]
  exact lookup_map (fun code => settle_code_key) start.codes key

theorem settled_enabled (settled : Settled start served)
    (found : served.tables.code key = some code) (enabled : code.status = .enabled) :
    code ∈ start.codes ∧ code.key = key ∧ key ∉ served.answers.map Answer.key := by
  rw [settled_code settled] at found
  obtain ⟨original, stored, rfl⟩ := Option.map_eq_some_iff.mp found
  obtain ⟨same, unanswered⟩ := enabled_unanswered enabled
  rw [same]
  have key := lookup_key stored
  rw [key] at unanswered
  exact ⟨lookup_mem stored, key, unanswered⟩

theorem codes_after (opening : Opening start) (member : code ∈ start.codes)
    (unanswered : code.key ∉ answers.map Answer.key) (same : answer.key = code.key) :
    save Redemption.id (start.codes.map (settleCode answers))
        (usedCode answer.userId answer.time code) =
      start.codes.map (settleCode (answers ++ [answer])) := by
  rw [save, List.map_map]
  apply List.map_congr_left
  intro old held
  simp only [Function.comp_apply, settle_code_id]
  split
  · rename_i mine
    have here : old = code := List.inj_on_of_nodup_map opening.ids held member mine
    rw [here]
    exact (settle_answered same unanswered).symm
  · rename_i other
    refine (settle_append fun again => other ?_).symm
    have here : old = code :=
      List.inj_on_of_nodup_map opening.keys held member (again.symm.trans same)
    rw [here]
    rfl

theorem credited_append (userId : Int) : credited userId (answers ++ [answer]) =
    credited userId answers + if answer.userId = userId then answer.credit else 0 := by
  unfold credited
  rw [List.filter_append, List.map_append, List.sum_append]
  by_cases mine : answer.userId = userId
  · simp [mine]
  · simp [mine]

theorem quotas_after {users : List User} (settled : Settled start served)
    (added : (users.map fun user => (user.id, user.quota)) =
      served.tables.base.users.map fun user =>
        (user.id, user.quota + if answer.userId = user.id then answer.credit else 0)) :
    (users.map fun user => (user.id, user.quota)) = start.base.users.map fun user =>
      (user.id, user.quota + credited user.id (served.answers ++ [answer])) := by
  have moved : (served.tables.base.users.map fun user =>
        (user.id, user.quota + if answer.userId = user.id then answer.credit else 0)) =
      (served.tables.base.users.map fun user => (user.id, user.quota)).map fun account =>
        (account.1, account.2 + if answer.userId = account.1 then answer.credit else 0) := by
    rw [List.map_map]
    rfl
  rw [added, moved, settled.quotas, List.map_map]
  apply List.map_congr_left
  intro user _
  simp only [Function.comp_apply, credited_append, add_assoc]

theorem quotas_kept {users : List User} (settled : Settled start served) (none_credited : answer.credit = 0)
    (kept : (users.map fun user => (user.id, user.quota)) =
      served.tables.base.users.map fun user => (user.id, user.quota)) :
    (users.map fun user => (user.id, user.quota)) = start.base.users.map fun user =>
      (user.id, user.quota + credited user.id (served.answers ++ [answer])) := by
  apply quotas_after settled
  rw [kept]
  apply List.map_congr_left
  intro user _
  rw [none_credited, ite_self, add_zero]

theorem upgrade_accounts (db : Database) (userId : Int) (group : String) :
    ((SubscriptionStore.upgradeUserGroup db userId group).1.map fun user => (user.id, user.quota)) =
      db.users.map fun user => (user.id, user.quota) := by
  unfold SubscriptionStore.upgradeUserGroup
  split
  · rfl
  · dsimp only
    split
    · rw [update, List.map_map]
      apply List.map_congr_left
      intro user _
      simp only [Function.comp_apply]
      split <;> rfl
    · rfl

theorem granted_append {Granted : Type} {answerOf : Answer → Option Granted} {Row : Type}
    {brief : Row → Granted} {before rows new : List Row}
    (settled : ∃ issued, rows = before ++ issued ∧ issued.map brief = answers.filterMap answerOf)
    (added : new.map brief = (answerOf answer).toList) :
    ∃ issued, rows ++ new = before ++ issued ∧
      issued.map brief = (answers ++ [answer]).filterMap answerOf := by
  obtain ⟨issued, rfl, granted⟩ := settled
  refine ⟨issued ++ new, List.append_assoc .., ?_⟩
  rw [List.map_append, granted, added, List.filterMap_append]
  rfl

theorem granted_kept {Granted : Type} {answerOf : Answer → Option Granted} {Row : Type}
    {brief : Row → Granted} {before rows : List Row}
    (settled : ∃ issued, rows = before ++ issued ∧ issued.map brief = answers.filterMap answerOf)
    (nothing : answerOf answer = none) :
    ∃ issued, rows = before ++ issued ∧ issued.map brief = (answers ++ [answer]).filterMap answerOf := by
  have more := @granted_append answers answer Granted answerOf Row brief before rows [] settled
    (by rw [nothing]; rfl)
  rwa [List.append_nil] at more

theorem mode_at_start (books : Books start served)
    (found : served.tables.base.plan code.subscriptionPlanId = some plan) :
    plan.id = code.subscriptionPlanId ∧
      (start.base.plan plan.id).map (fun plan => plan.terms.deliveryMode) =
        some plan.terms.deliveryMode := by
  have id := lookup_key found
  refine ⟨id, ?_⟩
  have terms := books.plans code.subscriptionPlanId
  rw [found, Option.map_some] at terms
  obtain ⟨first, known, same⟩ := Option.map_eq_some_iff.mp terms.symm
  rw [id, known, Option.map_some, same]

theorem sold_terms (plans : List SubscriptionPlan) (sold id : Int) :
    (lookup SubscriptionPlan.id (update SubscriptionPlan.id plans sold fun plan =>
      { plan with soldCount := plan.soldCount + 1 }) id).map SubscriptionPlan.terms =
    (lookup SubscriptionPlan.id plans id).map SubscriptionPlan.terms := by
  have keeps : ∀ plan : SubscriptionPlan,
      SubscriptionPlan.id { plan with soldCount := plan.soldCount + 1 } = plan.id := fun _ => rfl
  rw [lookup_update plans sold id _ keeps]
  split
  · rw [Option.map_map]
    rfl
  · rfl

theorem redeem_books {after : Tables} {result : RedeemResult} (opening : Opening start)
    (books : Books start served) (known : ∃ user ∈ start.base.users, user.id = call.userId)
    (redeemed : redeem calendar call (served.tables.code call.key) served.tables =
      .ok (after, result)) :
    Books start { tables := after, answers := served.answers ++ [call.answer result] } := by
  obtain ⟨code, granted, found, enabled, grants, rfl⟩ := redeem_cases books.nextSubscriptionId redeemed
  have settled := books.settled
  obtain ⟨member, key, unanswered⟩ := settled_enabled settled found enabled
  let answer := call.answer result
  have codes : save Redemption.id served.tables.codes (usedCode call.userId call.now code) =
      start.codes.map (settleCode (served.answers ++ [answer])) := by
    have written := @codes_after code start served.answers answer opening member (by rwa [key]) key.symm
    rw [settled.codes]
    exact written
  have once : ((served.answers ++ [answer]).map Answer.key).Nodup := by
    rw [List.map_append]
    refine List.nodup_append.mpr ⟨settled.once, List.nodup_singleton _, ?_⟩
    rintro old held _ last rfl
    rw [List.mem_singleton.mp last] at held
    exact unanswered held
  have carried : Carries start.base code result.benefit → ∀ given ∈ served.answers ++ [answer],
      ∃ code ∈ start.codes, code.key = given.key ∧ code.status = .enabled ∧
        (∃ user ∈ start.base.users, user.id = given.userId) ∧
          Carries start.base code given.result.benefit := by
    intro carries given held
    rcases List.mem_append.mp held with old | new
    · exact settled.carried given old
    · rw [List.mem_singleton.mp new]
      exact ⟨code, member, key, enabled, known, carries⟩
  cases grants with
  | quota type benefit =>
    refine ⟨⟨codes, once, carried ?_, ?_, ?_, ?_⟩, books.plans, books.nextSubscriptionId, books.nextOrderId⟩
    · rw [benefit]
      exact ⟨type, rfl⟩
    · apply quotas_after settled
      have credit : answer.credit = code.quota := by
        simp only [answer, RedeemCall.answer, Answer.credit, benefit]
      rw [credit, creditQuota, update, List.map_map]
      apply List.map_congr_left
      intro user _
      by_cases mine : user.id = call.userId
      · simp [RedeemCall.answer, mine]
      · simp [RedeemCall.answer, mine, Ne.symm mine]
    · exact granted_kept settled.subscriptions (by simp only [RedeemCall.answer, Answer.subscription, benefit])
    · exact granted_kept settled.orders (by simp only [RedeemCall.answer, Answer.order, benefit])
  | subscription type plan mode created benefit =>
    obtain ⟨planId, atStart⟩ := mode_at_start books plan
    obtain ⟨locked, effective, endUnix, -, stored, -, -, row, written⟩ := create_cases created
    dsimp only at row written
    have lockedId := lookup_key stored
    subst written
    refine ⟨⟨codes, once, carried ?_, ?_, ?_, ?_⟩, fun id => ?_, ?_, books.nextOrderId⟩
    · rw [benefit]
      exact ⟨type, planId, by rw [atStart, mode]⟩
    · apply quotas_kept settled (by simp only [RedeemCall.answer, Answer.credit, benefit])
      exact upgrade_accounts ..
    · apply granted_append settled.subscriptions
      simp only [RedeemCall.answer, Answer.subscription, benefit, row]
      rw [← lockedId]
      rfl
    · exact granted_kept settled.orders (by simp only [RedeemCall.answer, Answer.order, benefit])
    · exact (sold_terms served.tables.base.plans locked.id id).trans (books.plans id)
    · have nextId := books.nextSubscriptionId
      dsimp only
      omega
  | order type plan mode mine benefit =>
    obtain ⟨planId, atStart⟩ := mode_at_start books plan
    refine ⟨⟨codes, once, carried ?_, ?_, ?_, ?_⟩, books.plans, books.nextSubscriptionId, ?_⟩
    · rw [benefit]
      exact ⟨type, planId, by rw [atStart, mode]⟩
    · apply quotas_kept settled (by simp only [RedeemCall.answer, Answer.credit, benefit])
      rfl
    · exact granted_kept settled.subscriptions (by simp only [RedeemCall.answer, Answer.subscription, benefit])
    · apply granted_append settled.orders
      simp only [RedeemCall.answer, Answer.order, benefit, List.map_cons, mine.1, mine.2]
      rfl
    · have nextId := books.nextOrderId
      dsimp only
      omega

end Steps

/-! ## Every interleaving -/

section Runs
variable {calendar : Calendar} {start : Tables}

theorem opening_books (opening : Opening start) : Books start { tables := start } := by
  have none_settled : settleCode [] = id := rfl
  refine ⟨⟨?_, ?_, ?_, ?_, ?_, ?_⟩, fun _ => rfl, opening.nextSubscriptionId, opening.nextOrderId⟩
  · rw [none_settled, List.map_id]
  · exact List.nodup_nil
  · exact fun _ missing => nomatch missing
  · simp [credited]
  · exact ⟨[], by simp, rfl⟩
  · exact ⟨[], by simp, rfl⟩

theorem alone_books (calendar : Calendar) {Id : Type*} {calls : Id → RedeemCall} (opening : Opening start)
    (known : ∀ id, ∃ user ∈ start.base.users, user.id = (calls id).userId) (served : Served)
    (id : Id) (books : Books start served) :
    Books start (alone (fun id => redeemTransaction calendar (calls id)) served id) := by
  simp only [alone, redeemTransaction]
  cases redeemed : redeem calendar (calls id) (served.tables.code (calls id).key) served.tables with
  | error error => exact books
  | ok outcome => exact redeem_books opening books (known id) redeemed

theorem alone_keeps_others {Id : Type*} {calls : Id → RedeemCall} (opening : Opening start)
    (known : ∀ id, ∃ user ∈ start.base.users, user.id = (calls id).userId) :
    RowLocks.KeepsOthers (fun id => redeemTransaction calendar (calls id))
      (fun id => (calls id).key) (Books start) := by
  intro id other served books apart
  have after := alone_books calendar opening known served id books
  simp only [alone, redeemTransaction] at after ⊢
  cases redeemed : redeem calendar (calls id) (served.tables.code (calls id).key) served.tables with
  | error error => rfl
  | ok outcome =>
    rw [redeemed] at after
    simp only [Except.toOption, Option.map_some, Option.getD_some] at after ⊢
    rw [settled_code after.settled, settled_code books.settled]
    cases found : start.code (calls other).key with
    | none => rfl
    | some row =>
      have key := lookup_key found
      simp only [Option.map_some, Option.some.injEq]
      apply settle_append
      rw [key]
      exact Ne.symm apart

/-- For any number of calls by users on any codes, in any interleaving: of the
calls on a code one at most succeeds, and the code is then used by its user; a
call that succeeds grants one benefit of the kind that the code carries to that
user; and a code that no call redeemed is as it was. -/
theorem codes_redeemed_once {Id : Type*} [DecidableEq Id] (usingSQLite : Bool)
    (calendar : Calendar) (start : Tables) (opening : Opening start) (calls : Id → RedeemCall)
    (known : ∀ id, ∃ user ∈ start.base.users, user.id = (calls id).userId)
    (events : List (RowLocks.Event Id)) :
    Settled start (run (RowLocks.step (fun id => redeemTransaction calendar (calls id))
      (fun id => (calls id).key) (onConflict usingSQLite)) (RowLocks.idle { tables := start }) events).shared := by
  have books := @RowLocks.run_keeps Id String Served (Option Redemption) _ _ _
    (fun id => redeemTransaction calendar (calls id)) (fun id => (calls id).key)
    (onConflict usingSQLite) (Books start) (alone_keeps_others opening known)
    (alone_books calendar opening known) { tables := start } (opening_books opening) events
  exact books.settled

end Runs

def oneCode : Tables where
  base := { users := [{ id := 1 }, { id := 2 }] }
  codes := [{ id := 1, key := "k", quota := 50 }]

def bothRedeem (first : Bool) : RedeemCall where
  key := "k"
  userId := if first then 1 else 2
  now := 1000

def redeemTogether : List (RowLocks.Event Bool) :=
  [.read true, .read false, .finish true, .read false, .finish false]

/-- Two users redeem one code at once. The first gets its quota, the second an error. -/
theorem first_user_redeems :
    let served := (run (RowLocks.step (fun id => redeemTransaction dayCount (bothRedeem id))
      (fun id => (bothRedeem id).key) (onConflict false)) (RowLocks.idle { tables := oneCode })
      redeemTogether).shared
    Settled oneCode served ∧ served.answers.map Answer.userId = [1] ∧
      served.tables.base.users.map User.quota = [50, 0] := by
  have opening : Opening oneCode :=
    ⟨List.nodup_singleton _, List.nodup_singleton _, by decide, by decide⟩
  have known : ∀ id, ∃ user ∈ oneCode.base.users, user.id = (bothRedeem id).userId := by
    decide
  exact ⟨codes_redeemed_once false dayCount oneCode opening bothRedeem known redeemTogether,
    by decide +kernel, by decide +kernel⟩

end NewApi.RedemptionCodes
