import NewApi.Channels
import NewApi.SubscriptionStore

/-! The pool of channels that a plan gives its subscriptions, one key each. The
allocation reads which keys live tokens and active subscriptions hold, and takes
the first free one of the pool. It finds one whenever there is one, and nobody else
holds it; where the pool has none it answers without a channel, and the
provisioning reads the channel all the same. -/
namespace NewApi.PlanPool
open NewApi.KeyedTable NewApi.Channels
open NewApi.GoText (trimSpace hasPrefix isSpace trimBoth)
open NewApi.Subscription
open NewApi.SubscriptionStore (getUserSubscriptionRouteGroup)

/-! ## Rows -/

/-- The constants of `common/constants.go`. -/
inductive TokenStatus where
  | enabled
  | disabled
  | expired
  | exhausted
  deriving DecidableEq, Repr

/-- `model/token.go::Token`, as far as access tokens of subscriptions use it. -/
structure Token where
  id : Int
  userId : Int
  key : String
  source : String := ""
  specificChannelId : Int := 0
  specificChannelKeyIndex : Int := -1
  status : TokenStatus := .enabled
  name : String := ""
  createdTime : Int := 0
  accessedTime : Int := 0
  expiredTime : Int := -1
  unlimitedQuota : Bool := false
  modelLimitsEnabled : Bool := false
  modelLimits : String := ""
  group : String := ""
  deletedAt : Option Int := none
  deriving DecidableEq, Repr

structure Tables where
  channels : List Channel := []
  tokens : List Token := []
  subscriptions : List UserSubscription := []
  nextTokenId : Int := 1

def subscriptionAggregateAccessTokenName : String := "Subscription Access"

def tokenSourceSubscriptionAggregateAccess : String := "subscription_aggregate_access"

def isActive (now : Int) (sub : UserSubscription) : Bool :=
  sub.status = .active && sub.endTime > now

/-! ## The allocation -/

/-- A channel and the index of its key that a token or a subscription holds. A
negative index is the whole channel. -/
structure BoundKeyBinding where
  specificChannelId : Int
  specificChannelKeyIndex : Int
  deriving DecidableEq, Repr

def tokenBindings (tables : Tables) : List BoundKeyBinding :=
  (tables.tokens.filter fun token => token.specificChannelId > 0 && token.deletedAt.isNone).map
    fun token => ⟨token.specificChannelId, token.specificChannelKeyIndex⟩

def subscriptionBindings (tables : Tables) (now : Int) : List BoundKeyBinding :=
  (tables.subscriptions.filter fun sub => sub.specificChannelId > 0 && isActive now sub).map
    fun sub => ⟨sub.specificChannelId, sub.specificChannelKeyIndex⟩

def usedWholeChannel (bindings : List BoundKeyBinding) (channelId : Int) : Bool :=
  bindings.any fun binding =>
    binding.specificChannelKeyIndex < 0 && binding.specificChannelId = channelId

def usedKey (bindings : List BoundKeyBinding) (channelId keyIndex : Int) : Bool :=
  bindings.any fun binding => !(binding.specificChannelKeyIndex < 0) &&
    binding.specificChannelId = channelId && binding.specificChannelKeyIndex = keyIndex

def freeKey (bindings : List BoundKeyBinding) (channel : Channel) : Option Int :=
  if channel.keys.length = 0 then none
  else if !channel.channelInfo.isMultiKey then
    if usedWholeChannel bindings channel.id then none
    else if usedKey bindings channel.id 0 then none
    else some 0
  else if usedWholeChannel bindings channel.id then none
  else ((List.range channel.keys.length).find? fun (keyIndex : Nat) =>
    channel.isSpecificKeyAvailable keyIndex && !usedKey bindings channel.id keyIndex).map Int.ofNat

inductive ProvisionError where
  | tagIsEmpty
  | invalidUserId
  | keyNotGenerated
  | invalidAggregateTokenArgs
  deriving DecidableEq, Repr

def ProvisionError.text : ProvisionError → String
  | .tagIsEmpty => "tag is empty"
  | .invalidUserId => "invalid userId"
  | .keyNotGenerated => "key not generated"
  | .invalidAggregateTokenArgs => "invalid aggregate token args"

def inPool (tag : String) (channel : Channel) : Bool :=
  channel.tag = some tag && channel.status = .enabled

/-- `model/subscription.go::allocateSubscriptionPlanChannelFromPoolTx`. A pool
without a free key is no error, and no channel. -/
def allocateSubscriptionPlanChannelFromPool (tag : String) (now : Int) (tables : Tables) :
    Except ProvisionError (Option (Channel × Int)) :=
  let tag := trimSpace tag
  if tag = "" then .error .tagIsEmpty
  else
    let bindings := tokenBindings tables ++ subscriptionBindings tables now
    let channels := (tables.channels.filter (inPool tag)).insertionSort fun one other => one.id ≤ other.id
    .ok (channels.findSome? fun channel => (freeKey bindings channel).map fun keyIndex => (channel, keyIndex))

/-- `model/subscription.go::subscriptionPlanChannelPoolTag`. -/
def subscriptionPlanChannelPoolTag (planId : Int) : String :=
  if planId ≤ 0 then "" else s!"subscription_plan:{planId}"

/-! ## The access token -/

def aggregateAccessToken (userId : Int) (tokens : List Token) : Option Token :=
  first (fun one other => one.id ≤ other.id) (tokens.filter fun token =>
    token.userId = userId && token.name = subscriptionAggregateAccessTokenName && token.deletedAt.isNone)

/-- `model/subscription.go::getOrCreateSubscriptionAggregateAccessTokenTx`, with
the key that is generated for a new one. -/
def getOrCreateSubscriptionAggregateAccessToken (key : Option String) (userId now : Int)
    (tables : Tables) : Except ProvisionError (Token × Tables) :=
  if userId ≤ 0 then .error .invalidUserId
  else match aggregateAccessToken userId tables.tokens with
  | some token =>
    if trimSpace token.source ≠ tokenSourceSubscriptionAggregateAccess then
      .ok ({ token with source := tokenSourceSubscriptionAggregateAccess },
        { tables with tokens := update Token.id tables.tokens token.id fun row =>
            { row with source := tokenSourceSubscriptionAggregateAccess } })
    else .ok (token, tables)
  | none => match key with
    | none => .error .keyNotGenerated
    | some key =>
      let token : Token :=
        { id := tables.nextTokenId
          userId := userId
          name := subscriptionAggregateAccessTokenName
          key := key
          source := tokenSourceSubscriptionAggregateAccess
          createdTime := now
          accessedTime := now
          unlimitedQuota := true
          group := "default" }
      .ok (token, { tables with
        tokens := tables.tokens ++ [token]
        nextTokenId := tables.nextTokenId + 1 })

/-- `model/subscription.go::disableSubscriptionAggregateAccessTokenTx`. -/
def disableSubscriptionAggregateAccessToken (userId now : Int) (tables : Tables) :
    Except ProvisionError Tables :=
  if userId ≤ 0 then .error .invalidUserId
  else match aggregateAccessToken userId tables.tokens with
  | none => .ok tables
  | some token => .ok { tables with tokens := update Token.id tables.tokens token.id fun row =>
      { row with
        source := tokenSourceSubscriptionAggregateAccess
        status := .disabled
        expiredTime := now
        modelLimitsEnabled := false
        modelLimits := ""
        specificChannelId := 0
        specificChannelKeyIndex := -1 } }

def reachedSubscriptions (userId now : Int) (tables : Tables) : List UserSubscription :=
  tables.subscriptions.filter fun sub => sub.userId = userId && isActive now sub && sub.aggregateEnabled &&
    sub.resourceType = .requestCount && getUserSubscriptionRouteGroup sub ≠ "" && sub.specificChannelId > 0

def unionModels (subs : List UserSubscription) : List String :=
  if subs.any fun sub => sub.allowedModels.isEmpty then []
  else ((subs.flatMap fun sub => sub.allowedModels.map trimSpace).filter (· ≠ "")).dedup.insertionSort
    fun one other => one ≤ other

/-- `model/subscription.go::refreshSubscriptionAggregateAccessTokenTx`. -/
def refreshSubscriptionAggregateAccessToken (token : Token) (now : Int) (tables : Tables) :
    Except ProvisionError Tables :=
  if token.id ≤ 0 ∨ token.userId ≤ 0 then .error .invalidAggregateTokenArgs
  else
    let subs := reachedSubscriptions token.userId now tables
    let latestExpiredTime := subs.foldl (fun latest sub => max latest sub.endTime) (-1)
    if latestExpiredTime ≤ 0 then disableSubscriptionAggregateAccessToken token.userId now tables
    else
      let models := unionModels subs
      .ok { tables with tokens := update Token.id tables.tokens token.id fun row =>
        { row with
          source := tokenSourceSubscriptionAggregateAccess
          status := .enabled
          expiredTime := latestExpiredTime
          unlimitedQuota := true
          group := "default"
          specificChannelId := 0
          specificChannelKeyIndex := -1
          modelLimitsEnabled := !models.isEmpty
          modelLimits := String.intercalate "," models } }

/-! ## The provisioning -/

/-- How the provisioning ends: with the subscription in memory and the tables, with
an error, or at the read of a field of no channel. -/
inductive Provision where
  | done (sub : UserSubscription) (tables : Tables)
  | failed (error : ProvisionError)
  | nilChannel

def committed (before : Tables) : Provision → Tables
  | .done _ tables => tables
  | .failed _ | .nilChannel => before

def openAccess (key : Option String) (sub : UserSubscription) (now : Int) (tables : Tables) : Provision :=
  match getOrCreateSubscriptionAggregateAccessToken key sub.userId now tables with
  | .error error => .failed error
  | .ok (token, tables) => match refreshSubscriptionAggregateAccessToken token now tables with
    | .error error => .failed error
    | .ok tables => .done sub tables

/-- `model/subscription.go::provisionAggregateAccessForSubscriptionTx`. -/
def provisionAggregateAccessForSubscription (key : Option String) (sub : UserSubscription) (now : Int)
    (tables : Tables) : Provision :=
  if sub.id ≤ 0 ∨ sub.userId ≤ 0 then .done sub tables
  else if sub.resourceType ≠ .requestCount then .done sub tables
  else if !hasPrefix (getUserSubscriptionRouteGroup sub) "sub_plan_" then .done sub tables
  else if sub.specificChannelId > 0 then openAccess key sub now tables
  else if subscriptionPlanChannelPoolTag sub.planId = "" then .done sub tables
  else match allocateSubscriptionPlanChannelFromPool (subscriptionPlanChannelPoolTag sub.planId) now tables with
    | .error error => .failed error
    | .ok none => .nilChannel
    | .ok (some (channel, keyIndex)) =>
      let bind (row : UserSubscription) := { row with
        specificChannelId := channel.id
        specificChannelKeyIndex := keyIndex
        updatedAt := now }
      openAccess key
        { sub with
          specificChannelId := channel.id
          specificChannelKeyIndex := keyIndex }
        now { tables with subscriptions := update UserSubscription.id tables.subscriptions sub.id bind }

/-! ## Free keys -/

def Holds (channelId keyIndex boundChannel boundIndex : Int) : Prop :=
  0 < boundChannel ∧ boundChannel = channelId ∧ (boundIndex < 0 ∨ boundIndex = keyIndex)

/-- A key of a channel that is there, enabled, and held by no live token and no
active subscription. -/
structure FreeSlot (tables : Tables) (now : Int) (channel : Channel) (keyIndex : Int) : Prop where
  present : 0 ≤ keyIndex ∧ keyIndex < channel.keys.length
  single : channel.channelInfo.isMultiKey = false → keyIndex = 0
  available : channel.isSpecificKeyAvailable keyIndex = true
  noToken : ∀ token ∈ tables.tokens, token.deletedAt = none →
    ¬ Holds channel.id keyIndex token.specificChannelId token.specificChannelKeyIndex
  noSubscription : ∀ row ∈ tables.subscriptions, isActive now row = true →
    ¬ Holds channel.id keyIndex row.specificChannelId row.specificChannelKeyIndex

def HasFreeSlot (tables : Tables) (now : Int) (tag : String) : Prop :=
  ∃ channel ∈ tables.channels, inPool tag channel = true ∧ ∃ keyIndex, FreeSlot tables now channel keyIndex

section Keys

theorem unused_iff (nonnegative : 0 ≤ keyIndex) :
    usedWholeChannel bindings channelId = false ∧ usedKey bindings channelId keyIndex = false ↔
      ∀ binding ∈ bindings, binding.specificChannelId = channelId →
        ¬ (binding.specificChannelKeyIndex < 0 ∨ binding.specificChannelKeyIndex = keyIndex) := by
  simp only [usedWholeChannel, usedKey, List.any_eq_false, Bool.and_eq_true, decide_eq_true_eq,
    Bool.not_eq_true', decide_eq_false_iff_not]
  constructor
  · rintro ⟨whole, key⟩ binding member same
    rintro (negative | index)
    · exact whole binding member ⟨negative, same⟩
    · exact key binding member ⟨⟨by omega, same⟩, index⟩
  · intro free
    refine ⟨fun binding member held => ?_, fun binding member held => ?_⟩
    · exact free binding member held.2 (.inl held.1)
    · exact free binding member held.1.2 (.inr held.2)

theorem bindings_free_iff : (∀ binding ∈ tokenBindings tables ++ subscriptionBindings tables now,
      binding.specificChannelId = channelId →
        ¬ (binding.specificChannelKeyIndex < 0 ∨ binding.specificChannelKeyIndex = keyIndex)) ↔
    (∀ token ∈ tables.tokens, token.deletedAt = none →
      ¬ Holds channelId keyIndex token.specificChannelId token.specificChannelKeyIndex) ∧
    ∀ row ∈ tables.subscriptions, isActive now row = true →
      ¬ Holds channelId keyIndex row.specificChannelId row.specificChannelKeyIndex := by
  simp only [List.mem_append, tokenBindings, subscriptionBindings, List.mem_map, List.mem_filter,
    Bool.and_eq_true, decide_eq_true_eq, Option.isNone_iff_eq_none]
  constructor
  · intro free
    refine ⟨fun token member live held => ?_, fun row member active held => ?_⟩
    · exact free _ (.inl ⟨token, ⟨member, held.1, live⟩, rfl⟩) held.2.1 held.2.2
    · exact free _ (.inr ⟨row, ⟨member, held.1, active⟩, rfl⟩) held.2.1 held.2.2
  · rintro ⟨tokens, rows⟩ binding (⟨token, ⟨member, bound, live⟩, rfl⟩ | ⟨row, ⟨member, bound, active⟩, rfl⟩) same held
    · exact tokens token member live ⟨bound, same, held⟩
    · exact rows row member active ⟨bound, same, held⟩

theorem free_slot_iff (nonnegative : 0 ≤ keyIndex) :
    FreeSlot tables now channel keyIndex ↔ keyIndex < channel.keys.length ∧
      (channel.channelInfo.isMultiKey = false → keyIndex = 0) ∧
      channel.isSpecificKeyAvailable keyIndex = true ∧
      usedWholeChannel (tokenBindings tables ++ subscriptionBindings tables now) channel.id = false ∧
      usedKey (tokenBindings tables ++ subscriptionBindings tables now) channel.id keyIndex = false := by
  rw [unused_iff nonnegative, bindings_free_iff]
  exact ⟨fun slot => ⟨slot.present.2, slot.single, slot.available, slot.noToken, slot.noSubscription⟩,
    fun ⟨below, single, available, tokens, rows⟩ => ⟨⟨nonnegative, below⟩, single, available, tokens, rows⟩⟩

theorem free_key_free (found : freeKey (tokenBindings tables ++ subscriptionBindings tables now) channel =
    some keyIndex) : FreeSlot tables now channel keyIndex := by
  unfold freeKey at found
  split at found
  · cases found
  · rename_i some_
    split at found
    · rename_i single
      split at found
      · cases found
      · rename_i whole
        split at found
        · cases found
        · rename_i key
          cases found
          have below : (0 : Int) < channel.keys.length := by omega
          refine (free_slot_iff le_rfl).mpr ⟨below, fun _ => rfl, ?_, by simpa using whole, by simpa using key⟩
          simp only [Channel.isSpecificKeyAvailable, if_neg (by omega : ¬ ((0 : Int) < 0 ∨ 0 ≥
            (channel.keys.length : Int)))]
          simp [show channel.channelInfo.isMultiKey = false by simpa using single]
    · rename_i multi
      split at found
      · cases found
      · rename_i whole
        obtain ⟨index, first, rfl⟩ := Option.map_eq_some_iff.mp found
        have free := List.find?_some first
        have member := List.mem_range.mp (List.mem_of_find?_eq_some first)
        simp only [Bool.and_eq_true, Bool.not_eq_true'] at free
        refine (free_slot_iff (Int.natCast_nonneg index)).mpr ⟨?_, ?_, free.1, by simpa using whole, free.2⟩
        · exact Int.ofNat_lt.mpr member
        · intro single
          simp [single] at multi

theorem free_key_found (slot : FreeSlot tables now channel keyIndex) :
    ∃ found, freeKey (tokenBindings tables ++ subscriptionBindings tables now) channel = some found := by
  obtain ⟨below, single, available, whole, key⟩ := (free_slot_iff slot.present.1).mp slot
  have low := slot.present.1
  unfold freeKey
  rw [if_neg (by omega)]
  cases multi : channel.channelInfo.isMultiKey with
  | false =>
    obtain rfl := single multi
    simp [whole, key]
  | true =>
    obtain ⟨index, rfl⟩ := Int.eq_ofNat_of_zero_le low
    simp only [Bool.not_true, Bool.false_eq_true, if_false, whole, Option.map_eq_some_iff]
    cases first : (List.range channel.keys.length).find? fun (keyIndex : Nat) =>
        channel.isSpecificKeyAvailable keyIndex &&
          !usedKey (tokenBindings tables ++ subscriptionBindings tables now) channel.id keyIndex with
    | none =>
      have missed := List.find?_eq_none.mp first index (List.mem_range.mpr (by omega))
      simp [available, key] at missed
    | some found => exact ⟨_, found, rfl, rfl⟩

end Keys

/-! ## What the allocation finds -/

section Allocation

theorem allocated_free (named : trimSpace tag ≠ "")
    (allocated : allocateSubscriptionPlanChannelFromPool tag now tables = .ok (some (channel, keyIndex))) :
    channel ∈ tables.channels ∧ inPool (trimSpace tag) channel = true ∧ FreeSlot tables now channel keyIndex := by
  unfold allocateSubscriptionPlanChannelFromPool at allocated
  rw [if_neg named] at allocated
  simp only [Except.ok.injEq] at allocated
  obtain ⟨held, member, free⟩ := List.exists_of_findSome?_eq_some allocated
  obtain ⟨index, found, same⟩ := Option.map_eq_some_iff.mp free
  cases same
  obtain ⟨stored, pooled⟩ := List.mem_filter.mp ((List.mem_insertionSort _).mp member)
  exact ⟨stored, pooled, free_key_free found⟩

theorem allocated_none_iff (named : trimSpace tag ≠ "") :
    allocateSubscriptionPlanChannelFromPool tag now tables = .ok none ↔
      ¬ HasFreeSlot tables now (trimSpace tag) := by
  unfold allocateSubscriptionPlanChannelFromPool
  rw [if_neg named]
  simp only [Except.ok.injEq, List.findSome?_eq_none_iff, List.mem_insertionSort, List.mem_filter,
    Option.map_eq_none_iff]
  constructor
  · rintro none_ ⟨channel, stored, pooled, keyIndex, slot⟩
    obtain ⟨found, free⟩ := free_key_found slot
    rw [none_ channel ⟨stored, pooled⟩] at free
    cases free
  · rintro exhausted channel ⟨stored, pooled⟩
    cases free : freeKey (tokenBindings tables ++ subscriptionBindings tables now) channel with
    | none => rfl
    | some keyIndex => exact absurd ⟨channel, stored, pooled, keyIndex, free_key_free free⟩ exhausted

theorem trim_space_ne_empty {first : Char}
    (shape : text.toList = first :: rest) (mark : isSpace first = false) : trimSpace text ≠ "" := by
  have kept : text.toList.dropWhile isSpace = first :: rest := by
    rw [shape]
    exact List.dropWhile_cons_of_neg (by simp [mark])
  have left_ : trimBoth isSpace text.toList ≠ [] := by
    rw [trimBoth, kept, Ne, List.rdropWhile_eq_nil_iff]
    exact fun blank => absurd (blank first (List.mem_cons_self ..)) (by simp [mark])
  intro empty
  exact left_ (String.ofList_injective (empty.trans rfl))

theorem pool_tag_named (positive : 0 < planId) :
    trimSpace (subscriptionPlanChannelPoolTag planId) ≠ "" := by
  have shape : (subscriptionPlanChannelPoolTag planId).toList =
      's' :: ("ubscription_plan:".toList ++ (toString planId).toList) := by
    rw [subscriptionPlanChannelPoolTag, if_neg (by omega)]
    show ("subscription_plan:" ++ toString planId).toList = _
    rw [String.toList_append]
    rfl
  exact trim_space_ne_empty shape (by decide)

end Allocation

/-! ## What the access token changes -/

section Access
variable {before after : Tables}

structure KeepsBindings (before after : Tables) : Prop where
  channels : after.channels = before.channels
  subscriptions : after.subscriptions = before.subscriptions
  tokens : ∀ token ∈ after.tokens, token.specificChannelId = 0 ∨ ∃ old ∈ before.tokens,
    old.deletedAt = token.deletedAt ∧ old.specificChannelId = token.specificChannelId ∧
      old.specificChannelKeyIndex = token.specificChannelKeyIndex

theorem keeps_bindings_refl (tables : Tables) : KeepsBindings tables tables :=
  ⟨rfl, rfl, fun token held => .inr ⟨token, held, rfl, rfl, rfl⟩⟩

theorem keeps_bindings_trans (first : KeepsBindings before middle) (second : KeepsBindings middle after) :
    KeepsBindings before after := by
  refine ⟨second.channels.trans first.channels, second.subscriptions.trans first.subscriptions, ?_⟩
  intro token held
  rcases second.tokens token held with free | ⟨old, kept, deleted, channel, index⟩
  · exact .inl free
  · rcases first.tokens old kept with free | ⟨older, kept, deleted', channel', index'⟩
    · exact .inl (channel ▸ free)
    · exact .inr ⟨older, kept, deleted'.trans deleted, channel'.trans channel, index'.trans index⟩

theorem update_keeps_bindings (tables : Tables) (wanted : Int) {change : Token → Token}
    (kept : ∀ token, (change token).specificChannelId = 0 ∨ ((change token).deletedAt = token.deletedAt ∧
      (change token).specificChannelId = token.specificChannelId ∧
      (change token).specificChannelKeyIndex = token.specificChannelKeyIndex)) :
    KeepsBindings tables { tables with tokens := update Token.id tables.tokens wanted change } := by
  refine ⟨rfl, rfl, fun token held => ?_⟩
  obtain ⟨old, stored, rfl⟩ := List.mem_map.mp held
  split
  · rcases kept old with free | ⟨deleted, channel, index⟩
    · exact .inl free
    · exact .inr ⟨old, stored, deleted.symm, channel.symm, index.symm⟩
  · exact .inr ⟨old, stored, rfl, rfl, rfl⟩

theorem get_or_create_keeps
    (got : getOrCreateSubscriptionAggregateAccessToken key userId now before = .ok (token, after)) :
    KeepsBindings before after := by
  unfold getOrCreateSubscriptionAggregateAccessToken at got
  split at got
  · cases got
  · split at got
    · split at got
      · cases got
        exact update_keeps_bindings before _ fun _ => .inr ⟨rfl, rfl, rfl⟩
      · cases got
        exact keeps_bindings_refl before
    · split at got
      · cases got
      · cases got
        refine ⟨rfl, rfl, fun token held => ?_⟩
        rcases List.mem_append.mp held with old | new
        · exact .inr ⟨token, old, rfl, rfl, rfl⟩
        · obtain rfl := List.mem_singleton.mp new
          exact .inl rfl

theorem disable_keeps
    (disabled : disableSubscriptionAggregateAccessToken userId now before = .ok after) :
    KeepsBindings before after := by
  unfold disableSubscriptionAggregateAccessToken at disabled
  split at disabled
  · cases disabled
  · split at disabled
    · cases disabled
      exact keeps_bindings_refl before
    · cases disabled
      exact update_keeps_bindings before _ fun _ => .inl rfl

theorem refresh_keeps
    (refreshed : refreshSubscriptionAggregateAccessToken token now before = .ok after) :
    KeepsBindings before after := by
  unfold refreshSubscriptionAggregateAccessToken at refreshed
  split at refreshed
  · cases refreshed
  · dsimp only at refreshed
    split at refreshed
    · exact disable_keeps refreshed
    · cases refreshed
      exact update_keeps_bindings before _ fun _ => .inl rfl

theorem open_access_cases (key : Option String) (sub : UserSubscription) (now : Int) (before : Tables) :
    (∃ error, openAccess key sub now before = .failed error) ∨
      ∃ after, openAccess key sub now before = .done sub after ∧ KeepsBindings before after := by
  unfold openAccess
  cases got : getOrCreateSubscriptionAggregateAccessToken key sub.userId now before with
  | error error => exact .inl ⟨error, rfl⟩
  | ok result =>
    obtain ⟨token, tables⟩ := result
    dsimp only
    cases refreshed : refreshSubscriptionAggregateAccessToken token now tables with
    | error error => exact .inl ⟨error, rfl⟩
    | ok after => exact .inr ⟨after, rfl, keeps_bindings_trans (get_or_create_keeps got) (refresh_keeps refreshed)⟩

end Access

/-! ## The provisioning -/

/-- The subscriptions that are given a key: counted by requests, routed by the group
of a plan, and without one. -/
structure NeedsSlot (sub : UserSubscription) : Prop where
  stored : 0 < sub.id ∧ 0 < sub.userId
  counted : sub.resourceType = .requestCount
  routed : hasPrefix (getUserSubscriptionRouteGroup sub) "sub_plan_" = true
  unbound : sub.specificChannelId ≤ 0
  planned : 0 < sub.planId

/-- The subscription is bound to a key of the pool that is there and enabled, in
memory and in its row, and nobody else holds it. -/
structure BoundAlone (before : Tables) (now : Int) (sub after : UserSubscription) (tables : Tables) : Prop where
  key : ∃ channel ∈ before.channels, inPool (trimSpace (subscriptionPlanChannelPoolTag sub.planId)) channel = true ∧
    channel.id = after.specificChannelId ∧
    0 ≤ after.specificChannelKeyIndex ∧ after.specificChannelKeyIndex < channel.keys.length ∧
    channel.isSpecificKeyAvailable after.specificChannelKeyIndex = true
  row : ∀ row ∈ tables.subscriptions, row.id = sub.id →
    row.specificChannelId = after.specificChannelId ∧
      row.specificChannelKeyIndex = after.specificChannelKeyIndex
  noToken : ∀ token ∈ tables.tokens, token.deletedAt = none →
    ¬ Holds after.specificChannelId after.specificChannelKeyIndex token.specificChannelId
      token.specificChannelKeyIndex
  noSubscription : ∀ other ∈ tables.subscriptions, other.id ≠ sub.id → isActive now other = true →
    ¬ Holds after.specificChannelId after.specificChannelKeyIndex other.specificChannelId
      other.specificChannelKeyIndex

def Provisions (before : Tables) (now : Int) (sub : UserSubscription) : Provision → Prop
  | .done after tables =>
    tables.channels = before.channels ∧
      (∀ row ∈ tables.subscriptions, row.id ≠ sub.id → row ∈ before.subscriptions) ∧
      (∀ token ∈ tables.tokens, token.specificChannelId = 0 ∨ ∃ old ∈ before.tokens,
        old.deletedAt = token.deletedAt ∧ old.specificChannelId = token.specificChannelId ∧
          old.specificChannelKeyIndex = token.specificChannelKeyIndex) ∧
      (NeedsSlot sub → BoundAlone before now sub after tables) ∧
      (¬ NeedsSlot sub → after = sub ∧ tables.subscriptions = before.subscriptions)
  | .failed error => committed before (.failed error) = before
  | .nilChannel => False

section Provisioning
variable {before : Tables} {key : Option String} {sub : UserSubscription} {now : Int}

theorem unneeded_provisions (unneeded : ¬ NeedsSlot sub) (before : Tables) (key : Option String) (now : Int) :
    Provisions before now sub (provisionAggregateAccessForSubscription key sub now before) := by
  have still : Provisions before now sub (.done sub before) :=
    ⟨rfl, fun _ held _ => held, (keeps_bindings_refl before).tokens, fun needs => absurd needs unneeded,
      fun _ => ⟨rfl, rfl⟩⟩
  generalize given : provisionAggregateAccessForSubscription key sub now before = outcome
  unfold provisionAggregateAccessForSubscription at given
  split at given
  · exact given ▸ still
  · split at given
    · exact given ▸ still
    · split at given
      · exact given ▸ still
      · split at given
        · rcases open_access_cases key sub now before with ⟨error, failed⟩ | ⟨after, opened, kept⟩
          · rw [← given, failed]
            rfl
          · rw [← given, opened]
            exact ⟨kept.channels, fun _ held _ => kept.subscriptions ▸ held, kept.tokens,
              fun needs => absurd needs unneeded, fun _ => ⟨rfl, kept.subscriptions⟩⟩
        · split at given
          · exact given ▸ still
          · rename_i stored counted routed unbound named
            refine absurd ⟨by omega, not_not.mp counted, by simpa using routed, by omega, ?_⟩ unneeded
            by_contra unplanned
            exact named (if_pos (by omega))

theorem needed_provision (needs : NeedsSlot sub) :
    provisionAggregateAccessForSubscription key sub now before =
      match allocateSubscriptionPlanChannelFromPool (subscriptionPlanChannelPoolTag sub.planId) now before with
      | .error error => .failed error
      | .ok none => .nilChannel
      | .ok (some (channel, keyIndex)) => openAccess key
          { sub with
            specificChannelId := channel.id
            specificChannelKeyIndex := keyIndex }
          now { before with subscriptions := update UserSubscription.id before.subscriptions sub.id fun row =>
            { row with
              specificChannelId := channel.id
              specificChannelKeyIndex := keyIndex
              updatedAt := now } } := by
  obtain ⟨⟨stored, owned⟩, counted, routed, unbound, planned⟩ := needs
  have named : subscriptionPlanChannelPoolTag sub.planId ≠ "" := fun blank =>
    pool_tag_named planned (by rw [blank]; decide)
  rw [provisionAggregateAccessForSubscription, if_neg (by omega), if_neg (not_not.mpr counted),
    if_neg (by simp [routed]), if_neg (by omega), if_neg named]

theorem bound_alone
    (stored : channel ∈ before.channels)
    (pooled : inPool (trimSpace (subscriptionPlanChannelPoolTag sub.planId)) channel = true)
    (slot : FreeSlot before now channel keyIndex)
    (kept : KeepsBindings { before with
      subscriptions := update UserSubscription.id before.subscriptions sub.id fun row =>
        { row with
          specificChannelId := channel.id
          specificChannelKeyIndex := keyIndex
          updatedAt := now } } after) :
    (∀ row ∈ after.subscriptions, row.id ≠ sub.id → row ∈ before.subscriptions) ∧
      BoundAlone before now sub
        { sub with
          specificChannelId := channel.id
          specificChannelKeyIndex := keyIndex } after := by
  have rows : ∀ row ∈ after.subscriptions, (row.id ≠ sub.id ∧ row ∈ before.subscriptions) ∨
      (row.id = sub.id ∧ row.specificChannelId = channel.id ∧ row.specificChannelKeyIndex = keyIndex) := by
    intro row held
    rw [kept.subscriptions] at held
    obtain ⟨old, member, rfl⟩ := List.mem_map.mp held
    by_cases own : old.id = sub.id
    · rw [if_pos own]
      exact .inr ⟨own, rfl, rfl⟩
    · rw [if_neg own]
      exact .inl ⟨own, member⟩
  refine ⟨fun row held other => ?_, ⟨channel, stored, pooled, rfl, slot.present.1, slot.present.2, slot.available⟩,
    fun row held own => ?_, fun token held live holds => ?_, fun row held other active holds => ?_⟩
  · rcases rows row held with ⟨-, member⟩ | ⟨own, -⟩
    · exact member
    · exact absurd own other
  · rcases rows row held with ⟨other, -⟩ | ⟨-, bound⟩
    · exact absurd own other
    · exact bound
  · rcases kept.tokens token held with free | ⟨old, member, deleted, boundChannel, boundIndex⟩
    · exact absurd holds.1 (by omega)
    · refine slot.noToken old member (deleted.trans live) ?_
      rw [boundChannel, boundIndex]
      exact holds
  · rcases rows row held with ⟨-, member⟩ | ⟨own, -⟩
    · exact slot.noSubscription row member active holds
    · exact absurd own other

/-- The provisioning does what it is to do exactly where the subscription needs no
key or the pool of its plan has one left; else it reads a channel that is not there. -/
theorem provisions_iff (before : Tables) (key : Option String) (sub : UserSubscription) (now : Int) :
    Provisions before now sub (provisionAggregateAccessForSubscription key sub now before) ↔
      (NeedsSlot sub → HasFreeSlot before now (trimSpace (subscriptionPlanChannelPoolTag sub.planId))) := by
  by_cases needs : NeedsSlot sub
  · have named := pool_tag_named needs.planned
    rw [needed_provision needs]
    cases allocated : allocateSubscriptionPlanChannelFromPool (subscriptionPlanChannelPoolTag sub.planId) now
        before with
    | error error =>
      rw [allocateSubscriptionPlanChannelFromPool, if_neg named] at allocated
      cases allocated
    | ok found => cases found with
      | none =>
        have exhausted := (allocated_none_iff named).mp allocated
        exact ⟨fun impossible => impossible.elim, fun free => absurd (free needs) exhausted⟩
      | some slot =>
        obtain ⟨channel, keyIndex⟩ := slot
        obtain ⟨stored, pooled, slot⟩ := allocated_free named allocated
        refine ⟨fun _ _ => ⟨channel, stored, pooled, keyIndex, slot⟩, fun _ => ?_⟩
        dsimp only
        rcases open_access_cases key _ now _ with ⟨error, failed⟩ | ⟨after, opened, kept⟩
        · rw [failed]
          rfl
        · rw [opened]
          obtain ⟨others, bound⟩ := bound_alone stored pooled slot kept
          exact ⟨kept.channels, others, kept.tokens, fun _ => bound, fun unneeded => absurd needs unneeded⟩
  · exact ⟨fun _ needed => absurd needed needs, fun _ => unneeded_provisions needs before key now⟩

end Provisioning

def sold : UserSubscription where
  id := 1
  userId := 7
  planId := 2001
  resourceType := .requestCount
  requestCountTotal := 100
  endTime := 5000
  upgradeGroup := "sub_plan_claude_lite"

def soldOut : Tables where
  channels := [{ id := 3201, keys := ["k"], tag := some "subscription_plan:2001" }]
  subscriptions := [sold, { sold with
    id := 2
    userId := 8
    specificChannelId := 3201
    specificChannelKeyIndex := 0 }]

theorem sold_out_pool_reads_nil : ¬ ∀ (before : Tables) (key : Option String) (sub : UserSubscription) (now : Int),
    Provisions before now sub (provisionAggregateAccessForSubscription key sub now before) := by
  intro always
  have crashed : provisionAggregateAccessForSubscription (some "key") sold 1000 soldOut = .nilChannel := by
    rfl
  have provisions := always soldOut (some "key") sold 1000
  rw [crashed] at provisions
  exact provisions

end NewApi.PlanPool
