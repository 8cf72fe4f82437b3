import Mathlib.Tactic.Ring
import NewApi.AbilityRows
import NewApi.PriorityLevels

/-! Routing from the database, beside routing from memory. Both select among
the channels that serve a group and model: the one from the abilities and the
rows of their channels, the other from the lists of a rebuild. A selection
considers the channels of one priority, and then draws one of them. -/
namespace NewApi.ChannelRouting
open NewApi.KeyedTable NewApi.Channels NewApi.ChannelCache NewApi.AbilityRows
open NewApi.PriorityLevels

/-! ## Selecting from the abilities -/

/-- `ORDER BY priority DESC, weight DESC` is some arrangement of the rows. What
is considered does not depend on it. -/
structure AbilityOrder where
  arrange : List Ability → List Ability
  perm : ∀ abilities, (arrange abilities).Perm abilities

def insertionOrder : AbilityOrder where
  arrange abilities := abilities
  perm abilities := .refl abilities

def enabledAbilities (order : AbilityOrder) (abilities : List Ability) (group model : String) :
    List Ability :=
  order.arrange (abilities.filter fun ability =>
    ability.group = group && ability.model = model && ability.enabled)

def matchedAbilities (formatMatchingModelName : String → String) (order : AbilityOrder)
    (abilities : List Ability) (group model : String) : List Ability :=
  let named := enabledAbilities order abilities group model
  let normalizedModel := formatMatchingModelName model
  if named = [] ∧ normalizedModel ≠ model then
    enabledAbilities order abilities group normalizedModel
  else named

def servable (channels : List Channel) (ability : Ability) : Bool :=
  match lookup Channel.id channels ability.channelId with
  | none => false
  | some channel => !channel.reachedUsageLimit

def priorityOf (ability : Ability) : Int := ability.priority.getD 0

def targetAbilities (retry : Nat) (usable : List Ability) : List Ability × Int :=
  let target := (levelAt retry (usable.map priorityOf)).getD 0
  (usable.filter fun ability => priorityOf ability = target, target)

def walkAbilities : List Ability → Int → Option Ability
  | [], _ => none
  | ability :: rest, weight =>
    let weight := weight - (ability.weight + 10)
    if weight ≤ 0 then some ability else walkAbilities rest weight

/-- The draw among the abilities of one priority; `random` gives the draw. -/
def drawAbility (targets : List Ability) (random : Nat) : Option Ability :=
  let weightSum := (targets.map fun ability => ability.weight + 10).sum
  (walkAbilities targets (random % weightSum : Nat)).or targets.getLast?

/-- `model/ability.go::GetChannel`. -/
def getChannel (formatMatchingModelName : String → String) (order : AbilityOrder)
    (tables : AbilityTables) (group model : String) (retry random : Nat) : Option Channel :=
  match (matchedAbilities formatMatchingModelName order tables.abilities group model).filter
      (servable tables.channels) with
  | [] => none
  | usable =>
    let (targets, _) := targetAbilities retry usable
    if targets = [] then none
    else (drawAbility targets random).bind fun ability =>
      lookup Channel.id tables.channels ability.channelId

/-! ## What a selection considers -/

structure Choice where
  candidates : List Int
  priority : Int
  deriving DecidableEq, Repr

def considered (retry : Nat) (offers : List (Int × Int)) : Option Choice :=
  (levelAt retry (offers.map Prod.snd)).map fun target =>
    { candidates := (offers.filter fun offer => offer.2 = target).map Prod.fst
      priority := target }

/-- What `GetRandomSatisfiedChannel` considers, with the cache on. -/
def cachedChoice (formatMatchingModelName : String → String) (cache : Cache)
    (group model : String) (retry : Nat) : Except SelectError (Option Choice) :=
  match usableChannels cache (routedChannels formatMatchingModelName cache group model) with
  | .error error => .error error
  | .ok [] => .ok none
  | .ok usable =>
    let (targets, priority) := targetChannels retry usable
    .ok (some { candidates := targets.map Channel.id, priority := priority })

/-- What `GetChannel` considers. -/
def storedChoice (formatMatchingModelName : String → String) (order : AbilityOrder)
    (tables : AbilityTables) (group model : String) (retry : Nat) : Option Choice :=
  match (matchedAbilities formatMatchingModelName order tables.abilities group model).filter
      (servable tables.channels) with
  | [] => none
  | usable =>
    let (targets, priority) := targetAbilities retry usable
    some { candidates := targets.map Ability.channelId, priority := priority }

def Agree : Except SelectError (Option Choice) → Option Choice → Prop
  | .ok none, none => True
  | .ok (some cached), some stored =>
    cached.priority = stored.priority ∧ cached.candidates.Nodup ∧ stored.candidates.Nodup ∧
      ∀ id, id ∈ cached.candidates ↔ id ∈ stored.candidates
  | _, _ => False

/-- The ids are distinct, and the abilities mirror the channels: those of a
channel are its pairs, and there are no others. -/
structure Consistent (tables : AbilityTables) : Prop where
  unique : (tables.channels.map Channel.id).Nodup
  mirrored : Mirrored tables
  owned : ∀ ability ∈ tables.abilities, ∃ channel ∈ tables.channels, channel.id = ability.channelId

def matchedModel (formatMatchingModelName : String → String) (channels : List Channel)
    (group model : String) : String :=
  if channels.any fun channel => channel.status = .enabled && group ∈ channel.groupNames &&
      model ∈ channel.modelNames then model
  else formatMatchingModelName model

/-! ## The choice of either selection -/

section Choices
variable {tables : AbilityTables} {format : String → String} {retry : Nat}
variable {group model : String} {order : AbilityOrder}
variable {channel : Channel}

def offerOf (channel : Channel) : Int × Int := (channel.id, channel.getPriority)

def abilityOffer (ability : Ability) : Int × Int := (ability.channelId, priorityOf ability)

@[simp] theorem considered_nil (retry : Nat) : considered retry [] = none := rfl

theorem considered_some (retry : Nat) (offers : List (Int × Int)) (nonempty : offers ≠ []) :
    ∃ target ∈ offers.map Prod.snd, levelAt retry (offers.map Prod.snd) = some target ∧
      considered retry offers = some
        { candidates := (offers.filter fun offer => offer.2 = target).map Prod.fst
          priority := target } := by
  obtain ⟨target, member, level⟩ :=
    levelAt_some retry (offers.map Prod.snd) fun none_ => nonempty (List.map_eq_nil_iff.mp none_)
  exact ⟨target, member, level, by rw [considered, level, Option.map_some]⟩

theorem target_channels_eq (retry : Nat) (usable : List Channel) :
    (targetChannels retry usable).2 = (levelAt retry (usable.map Channel.getPriority)).getD 0 := rfl

theorem cached_choice_eq (read :
    usableChannels cache (routedChannels format cache group model) = .ok usable) :
    cachedChoice format cache group model retry = .ok (considered retry (usable.map offerOf)) := by
  unfold cachedChoice
  rw [read]
  cases usable with
  | nil => rfl
  | cons first rest =>
    obtain ⟨target, -, level, considers⟩ :=
      considered_some retry ((first :: rest).map offerOf) (by simp)
    have priorities : ((first :: rest).map offerOf).map Prod.snd =
        (first :: rest).map Channel.getPriority := by
      rw [List.map_map]
      rfl
    rw [priorities] at level
    have found : (targetChannels retry (first :: rest)).2 = target := by
      rw [target_channels_eq, level, Option.getD_some]
    have targets : (targetChannels retry (first :: rest)).1 =
        (first :: rest).filter fun channel => channel.getPriority = target := by
      rw [← found]
      rfl
    simp only [considers, found, targets, List.filter_map, List.map_map]
    rfl

theorem stored_choice_eq (order : AbilityOrder) (tables : AbilityTables) (retry : Nat) :
    storedChoice format order tables group model retry = considered retry
      (((matchedAbilities format order tables.abilities group model).filter
        (servable tables.channels)).map abilityOffer) := by
  unfold storedChoice
  cases (matchedAbilities format order tables.abilities group model).filter (servable tables.channels) with
  | nil => rfl
  | cons first rest =>
    obtain ⟨target, -, level, considers⟩ :=
      considered_some retry ((first :: rest).map abilityOffer) (by simp)
    have priorities : ((first :: rest).map abilityOffer).map Prod.snd =
        (first :: rest).map priorityOf := by
      rw [List.map_map]
      rfl
    rw [priorities] at level
    simp only [considers, targetAbilities, level, Option.getD_some, List.filter_map, List.map_map]
    rfl

/-- What the cache selects is a candidate of what it considers. -/
theorem cached_drawn
    (selected : getRandomSatisfiedChannel format cache group model retry random = .ok (some channel)) :
    ∃ choice, cachedChoice format cache group model retry = .ok (some choice) ∧
      channel.id ∈ choice.candidates := by
  unfold getRandomSatisfiedChannel at selected
  unfold cachedChoice
  generalize usableChannels cache (routedChannels format cache group model) = read at selected ⊢
  cases read with
  | error error => cases selected
  | ok usable =>
    cases usable with
    | nil => cases selected
    | cons first rest =>
      dsimp only at selected
      split at selected
      · cases selected
      · split at selected
        · cases selected
        · rename_i drawn
          cases selected
          exact ⟨_, rfl, List.mem_map_of_mem (draw_mem drawn)⟩

theorem walk_mem (walked : walkAbilities targets left_ = some ability) : ability ∈ targets := by
  induction targets generalizing left_ with
  | nil => cases walked
  | cons first rest ih =>
    unfold walkAbilities at walked
    dsimp only at walked
    split at walked
    · cases walked
      exact List.mem_cons_self ..
    · exact List.mem_cons_of_mem _ (ih walked)

/-- What is selected from the database is a candidate of what it considers. -/
theorem stored_drawn
    (selected : getChannel format order tables group model retry random = some channel) :
    ∃ choice, storedChoice format order tables group model retry = some choice ∧
      channel.id ∈ choice.candidates := by
  unfold getChannel at selected
  unfold storedChoice
  generalize (matchedAbilities format order tables.abilities group model).filter
    (servable tables.channels) = usable at selected ⊢
  cases usable with
  | nil => cases selected
  | cons first rest =>
    dsimp only at selected
    split at selected
    · cases selected
    · obtain ⟨ability, drawn, found⟩ := Option.bind_eq_some_iff.mp selected
      have target : ability ∈ (targetAbilities retry (first :: rest)).1 := by
        rcases Option.or_eq_some_iff.mp drawn with walked | ⟨-, last⟩
        · exact walk_mem walked
        · exact List.mem_of_getLast? last
      rw [lookup_key found]
      exact ⟨_, rfl, List.mem_map_of_mem target⟩

end Choices

/-! ## Offers -/

section Offers
variable {one other : List (Int × Int)}

theorem considered_members (same : ∀ offer, offer ∈ one ↔ offer ∈ other) (retry : Nat) :
    levelAt retry (one.map Prod.snd) = levelAt retry (other.map Prod.snd) := by
  apply levelAt_congr
  intro priority
  simp only [List.mem_map, same]

theorem offers_agree_iff (same : ∀ offer, offer ∈ one ↔ offer ∈ other) (once : (other.map Prod.fst).Nodup) :
    (∀ retry, Agree (.ok (considered retry one)) (considered retry other)) ↔ (one.map Prod.fst).Nodup := by
  by_cases empty : one = []
  · subst empty
    have none_ : other = [] := by
      apply List.eq_nil_iff_forall_not_mem.mpr
      intro offer member
      exact absurd ((same offer).mpr member) List.not_mem_nil
    subst none_
    simp [Agree]
  have otherSome : other ≠ [] := by
    rintro rfl
    obtain ⟨offer, member⟩ := List.exists_mem_of_ne_nil one empty
    exact absurd ((same offer).mp member) List.not_mem_nil
  constructor
  · intro agree
    apply List.Nodup.map_on
    · intro offer member again memberAgain sameId
      exact List.inj_on_of_nodup_map once ((same _).mp member) ((same _).mp memberAgain) sameId
    · apply List.nodup_iff_count_le_one.mpr
      intro offer
      by_cases member : offer ∈ one
      · obtain ⟨retry, level⟩ := levelAt_reaches (List.mem_map_of_mem (f := Prod.snd) member)
        have found := agree retry
        rw [considered, level, considered, ← considered_members same, level] at found
        have distinct := List.Nodup.of_map _ found.2.1
        have counted := List.nodup_iff_count_le_one.mp distinct offer
        rwa [List.count_filter (by simp)] at counted
      · rw [List.count_eq_zero.mpr member]
        exact Nat.zero_le 1
  · intro distinct retry
    obtain ⟨target, -, level, considers⟩ := considered_some retry one empty
    rw [considers, considered, ← considered_members same, level]
    refine ⟨rfl, ?_, ?_, ?_⟩
    · exact (List.filter_sublist.map _).nodup distinct
    · exact (List.filter_sublist.map _).nodup once
    · intro id
      simp only [List.mem_map, List.mem_filter, same]

end Offers

/-! ## The offers of a rebuild -/

def offered (channels : List Channel) (id : Int) : Option (Int × Int) :=
  ((lookup Channel.id channels id).filter fun channel => !channel.reachedUsageLimit).map offerOf

def isOffered (channels : List Channel) (id : Int) : Bool := (offered channels id).isSome

section Rebuilt
variable {sorter : PrioritySort} {format : String → String} {group model : String} {id : Int}
variable {channel : Channel}

theorem keep_cursor_row (old : Int → Option Channel) (channel : Channel) :
    ∃ index, keepCursor old channel = { channel with channelInfo :=
      { channel.channelInfo with multiKeyPollingIndex := index } } := by
  unfold keepCursor
  split
  · split
    · exact ⟨channel.channelInfo.multiKeyPollingIndex, rfl⟩
    · split
      · exact ⟨_, rfl⟩
      · exact ⟨channel.channelInfo.multiKeyPollingIndex, rfl⟩
  · exact ⟨channel.channelInfo.multiKeyPollingIndex, rfl⟩

theorem keep_cursor_offer (old : Int → Option Channel) (channel : Channel) :
    offerOf (keepCursor old channel) = offerOf channel ∧
      (keepCursor old channel).reachedUsageLimit = channel.reachedUsageLimit := by
  obtain ⟨index, kept⟩ := keep_cursor_row old channel
  rw [kept]
  exact ⟨rfl, rfl⟩

theorem init_rows (rebuilt : initChannelCache sorter channels abilities before = some published)
    (id : Int) : published.channelsIDM id =
      (lookup Channel.id channels id).map (keepCursor before.channelsIDM) := by
  obtain ⟨routes, -, rfl⟩ := Option.map_eq_some_iff.mp rebuilt
  rfl

theorem usable_rebuilt (rebuilt : initChannelCache sorter channels abilities before = some published)
    (stored : ∀ id ∈ ids, ∃ channel, lookup Channel.id channels id = some channel) :
    ∃ usable, usableChannels published ids = .ok usable ∧
      usable.map offerOf = ids.filterMap (offered channels) := by
  induction ids with
  | nil => exact ⟨[], rfl, rfl⟩
  | cons first rest ih =>
    obtain ⟨channel, row⟩ := stored first (List.mem_cons_self ..)
    obtain ⟨usable, read, offers⟩ := ih fun id member => stored id (List.mem_cons_of_mem _ member)
    obtain ⟨sameOffer, sameLimit⟩ := keep_cursor_offer before.channelsIDM channel
    unfold usableChannels
    rw [init_rows rebuilt, row, read]
    cases limited : channel.reachedUsageLimit with
    | true =>
      have nothing : offered channels first = none := by simp [offered, row, limited]
      refine ⟨usable, by simp [Except.map, sameLimit, limited], ?_⟩
      rw [List.filterMap_cons_none nothing, offers]
    | false =>
      have offer : offered channels first = some (offerOf channel) := by
        simp [offered, row, limited]
      refine ⟨keepCursor before.channelsIDM channel :: usable, by simp [Except.map, sameLimit, limited], ?_⟩
      rw [List.filterMap_cons_some offer, List.map_cons, sameOffer, offers]

theorem routed_rebuilt (rebuilt : initChannelCache sorter channels abilities before = some published) :
    (routedChannels format published group model).Perm
      (listedIds channels group (matchedModel format channels group model)) := by
  have lists := init_lists rebuilt group
  have empty_iff : published.group2model2channels.get group model = [] ↔
      ¬ (channels.any fun channel => channel.status = .enabled && group ∈ channel.groupNames &&
        model ∈ channel.modelNames) = true := by
    have same := (lists model).length_eq
    rw [← List.length_eq_zero_iff, same, List.length_eq_zero_iff, List.eq_nil_iff_forall_not_mem]
    simp only [mem_listed_ids, List.any_eq_true, Bool.and_eq_true, decide_eq_true_eq]
    grind
  unfold routedChannels matchedModel
  by_cases served : (channels.any fun channel => channel.status = .enabled &&
      group ∈ channel.groupNames && model ∈ channel.modelNames) = true
  · rw [if_neg fun empty => empty_iff.mp empty served, if_pos served]
    exact lists model
  · rw [if_pos (empty_iff.mpr served), if_neg served]
    exact lists (format model)

theorem mem_offered (unique : (channels.map Channel.id).Nodup) :
    offer ∈ (listedIds channels group model).filterMap (offered channels) ↔
      ∃ channel ∈ channels, channel.status = .enabled ∧ channel.reachedUsageLimit = false ∧
        group ∈ channel.groupNames ∧ model ∈ channel.modelNames ∧ offerOf channel = offer := by
  simp only [List.mem_filterMap, mem_listed_ids]
  constructor
  · rintro ⟨id, ⟨channel, member, enabled, rfl, inside, served⟩, offers⟩
    rw [offered, lookup_of_mem unique member] at offers
    cases limited : channel.reachedUsageLimit with
    | true => simp [limited] at offers
    | false =>
      simp only [Option.filter, limited, Bool.not_false, if_true, Option.map_some,
        Option.some.injEq] at offers
      exact ⟨channel, member, enabled, limited, inside, served, offers⟩
  · rintro ⟨channel, member, enabled, limited, inside, served, rfl⟩
    refine ⟨channel.id, ⟨channel, member, enabled, rfl, inside, served⟩, ?_⟩
    rw [offered, lookup_of_mem unique member]
    simp [limited]

theorem listed_count (unique : (channels.map Channel.id).Nodup) (member : channel ∈ channels) :
    (listedIds channels group model).count channel.id =
      if channel.status ≠ .enabled then 0 else (listedPairs channel).count (group, model) := by
  induction channels with
  | nil => cases member
  | cons first rest ih =>
    obtain ⟨absent, later⟩ := List.nodup_cons.mp unique
    rw [listedIds, List.flatMap_cons, List.count_append, ← listedIds]
    rcases List.mem_cons.mp member with rfl | inside
    · have elsewhere : (listedIds rest group model).count channel.id = 0 := by
        apply List.count_eq_zero.mpr
        intro listed
        obtain ⟨other, held, -, again, -⟩ := mem_listed_ids.mp listed
        apply absent
        rw [← again]
        exact List.mem_map_of_mem held
      rw [elsewhere, Nat.add_zero]
      split
      · rfl
      · rw [List.count_replicate_self]
    · have different : first.id ≠ channel.id := by
        intro same
        apply absent
        rw [same]
        exact List.mem_map_of_mem inside
      rw [ih later inside]
      split
      · rw [List.count_nil, Nat.zero_add]
      · rw [List.count_replicate, if_neg (by simpa using different), Nat.zero_add]

theorem offered_ids (ids : List Int) : (ids.filterMap (offered channels)).map Prod.fst =
    ids.filter (isOffered channels) := by
  induction ids with
  | nil => rfl
  | cons first rest ih =>
    cases offer : offered channels first with
    | none =>
      rw [List.filterMap_cons_none offer, List.filter_cons_of_neg (by simp [isOffered, offer]), ih]
    | some given =>
      have named : given.1 = first := by
        obtain ⟨channel, row, rfl⟩ := Option.map_eq_some_iff.mp offer
        obtain ⟨found, -⟩ := Option.filter_eq_some_iff.mp row
        have key : channel.id = first := lookup_key found
        exact key
      rw [List.filterMap_cons_some offer, List.filter_cons_of_pos (by simp [isOffered, offer]), List.map_cons,
        named, ih]

theorem offered_once_iff (unique : (channels.map Channel.id).Nodup) :
    (((listedIds channels group model).filterMap (offered channels)).map Prod.fst).Nodup ↔
      ∀ channel ∈ channels, channel.status = .enabled → channel.reachedUsageLimit = false →
        (listedPairs channel).count (group, model) ≤ 1 := by
  rw [offered_ids, List.nodup_iff_count_le_one]
  constructor
  · intro once channel member enabled open_
    have counted := once channel.id
    have offers : isOffered channels channel.id = true := by
      rw [isOffered, offered, lookup_of_mem unique member]
      simp [open_]
    rwa [List.count_filter offers, listed_count unique member, if_neg (not_not.mpr enabled)] at counted
  · intro once id
    by_cases offers : isOffered channels id = true
    · rw [List.count_filter offers]
      obtain ⟨offer, given⟩ := Option.isSome_iff_exists.mp offers
      obtain ⟨channel, row, rfl⟩ := Option.map_eq_some_iff.mp given
      obtain ⟨found, open_⟩ := Option.filter_eq_some_iff.mp row
      have member := lookup_mem found
      have named := lookup_key found
      rw [← named, listed_count unique member]
      split
      · exact Nat.zero_le 1
      · rename_i enabled
        exact once channel member (not_not.mp enabled) (by simpa using open_)
    · rw [List.count_eq_zero.mpr fun inside => offers (List.mem_filter.mp inside).2]
      exact Nat.zero_le 1

end Rebuilt

/-! ## The offers of the abilities -/

section Stored
variable {tables : AbilityTables} {order : AbilityOrder} {format : String → String}
variable {group model : String} {ability : Ability} {channel : Channel}

theorem mem_enabled : ability ∈ enabledAbilities order tables.abilities group model ↔
    ability ∈ tables.abilities ∧ ability.group = group ∧ ability.model = model ∧
      ability.enabled = true := by
  rw [enabledAbilities, (order.perm _).mem_iff, List.mem_filter]
  simp only [Bool.and_eq_true, decide_eq_true_eq, and_assoc]

theorem enabled_channel (consistent : Consistent tables)
    (member : ability ∈ enabledAbilities order tables.abilities group model) :
    ∃ channel ∈ tables.channels, channel.status = .enabled ∧ group ∈ channel.groupNames ∧
      model ∈ channel.modelNames ∧ abilityOffer ability = offerOf channel := by
  obtain ⟨stored, rfl, rfl, enabled⟩ := mem_enabled.mp member
  obtain ⟨channel, held, owner⟩ := consistent.owned ability stored
  have mirrors := consistent.mirrored channel held
  have mine : ability ∈ abilitiesOf channel.id tables.abilities :=
    List.mem_filter.mpr ⟨stored, by simpa using owner.symm⟩
  obtain ⟨status, priority, -, -⟩ := mirrors.columns ability mine
  have pair := (mirrors.pairs ability.group ability.model).mp (List.mem_map.mpr ⟨ability, mine, rfl⟩)
  rw [enabled] at status
  exact ⟨channel, held, of_decide_eq_true status.symm, pair.1, pair.2, Prod.ext owner.symm priority⟩

theorem channel_enabled (order : AbilityOrder) (consistent : Consistent tables)
    (held : channel ∈ tables.channels) (enabled : channel.status = .enabled)
    (inside : group ∈ channel.groupNames) (served : model ∈ channel.modelNames) :
    ∃ ability ∈ enabledAbilities order tables.abilities group model,
      abilityOffer ability = offerOf channel := by
  have mirrors := consistent.mirrored channel held
  obtain ⟨ability, mine, pair⟩ := List.mem_map.mp ((mirrors.pairs group model).mpr ⟨inside, served⟩)
  obtain ⟨stored, owner⟩ := List.mem_filter.mp mine
  obtain ⟨status, priority, -, -⟩ := mirrors.columns ability mine
  refine ⟨ability, mem_enabled.mpr ⟨stored, congrArg Prod.fst pair, congrArg Prod.snd pair, ?_⟩, ?_⟩
  · rw [status, enabled]
    rfl
  · exact Prod.ext (of_decide_eq_true owner) priority

theorem enabled_empty_iff (order : AbilityOrder) (consistent : Consistent tables) :
    enabledAbilities order tables.abilities group model = [] ↔
      ¬ (tables.channels.any fun channel => channel.status = .enabled &&
        group ∈ channel.groupNames && model ∈ channel.modelNames) = true := by
  simp only [List.any_eq_true, Bool.and_eq_true, decide_eq_true_eq, List.eq_nil_iff_forall_not_mem]
  constructor
  · rintro none_ ⟨channel, held, ⟨enabled, inside⟩, served⟩
    obtain ⟨ability, member, -⟩ := channel_enabled order consistent held enabled inside served
    exact none_ ability member
  · intro unserved ability member
    obtain ⟨channel, held, enabled, inside, served, -⟩ := enabled_channel consistent member
    exact unserved ⟨channel, held, ⟨enabled, inside⟩, served⟩

theorem matched_enabled (order : AbilityOrder) (consistent : Consistent tables) :
    matchedAbilities format order tables.abilities group model =
      enabledAbilities order tables.abilities group (matchedModel format tables.channels group model) := by
  unfold matchedAbilities matchedModel
  dsimp only
  by_cases served : (tables.channels.any fun channel => channel.status = .enabled &&
      group ∈ channel.groupNames && model ∈ channel.modelNames) = true
  · rw [if_neg fun both => (enabled_empty_iff order consistent).mp both.1 served, if_pos served]
  · have none_ := (enabled_empty_iff order consistent).mpr served
    rw [if_neg served]
    by_cases same : format model = model
    · rw [if_neg fun both => both.2 same, same]
    · rw [if_pos ⟨none_, same⟩]

theorem mem_ability_offers (order : AbilityOrder) (consistent : Consistent tables) :
    offer ∈ ((enabledAbilities order tables.abilities group model).filter
        (servable tables.channels)).map abilityOffer ↔
      ∃ channel ∈ tables.channels, channel.status = .enabled ∧ channel.reachedUsageLimit = false ∧
        group ∈ channel.groupNames ∧ model ∈ channel.modelNames ∧ offerOf channel = offer := by
  have servable_iff : ∀ {ability : Ability} {channel : Channel}, channel ∈ tables.channels →
      abilityOffer ability = offerOf channel →
      (servable tables.channels ability = true ↔ channel.reachedUsageLimit = false) := by
    intro ability channel held same
    have owner : ability.channelId = channel.id := congrArg Prod.fst same
    rw [servable, owner, lookup_of_mem consistent.unique held]
    simp
  rw [List.mem_map]
  constructor
  · rintro ⟨ability, kept, rfl⟩
    obtain ⟨member, serves⟩ := List.mem_filter.mp kept
    obtain ⟨channel, held, enabled, inside, served, same⟩ := enabled_channel consistent member
    exact ⟨channel, held, enabled, (servable_iff held same).mp serves, inside, served, same.symm⟩
  · rintro ⟨channel, held, enabled, open_, inside, served, rfl⟩
    obtain ⟨ability, member, same⟩ := channel_enabled order consistent held enabled inside served
    exact ⟨ability, List.mem_filter.mpr ⟨member, (servable_iff held same).mpr open_⟩, same⟩

theorem ability_offers_once (order : AbilityOrder) (consistent : Consistent tables) :
    ((((enabledAbilities order tables.abilities group model).filter
      (servable tables.channels)).map abilityOffer).map Prod.fst).Nodup := by
  rw [List.map_map]
  have through : Prod.fst ∘ abilityOffer = Ability.channelId := rfl
  rw [through]
  apply (List.filter_sublist.map _).nodup
  apply List.nodup_iff_count_le_one.mpr
  intro id
  by_cases found : id ∈ (enabledAbilities order tables.abilities group model).map Ability.channelId
  · obtain ⟨ability, member, rfl⟩ := List.mem_map.mp found
    obtain ⟨channel, held, owner⟩ := consistent.owned ability (mem_enabled.mp member).1
    have once := List.nodup_iff_count_le_one.mp (consistent.mirrored channel held).once (group, model)
    refine Nat.le_trans ?_ once
    rw [enabledAbilities, ((order.perm _).map Ability.channelId).count_eq, List.count_eq_countP, List.count_eq_countP,
      List.countP_map, List.countP_map, List.countP_filter, abilitiesOf, List.countP_filter]
    apply List.countP_mono_left
    intro other _ both
    simp only [Function.comp_apply, Bool.and_eq_true, decide_eq_true_eq, beq_iff_eq] at both ⊢
    obtain ⟨same, ⟨sameGroup, sameModel⟩, -⟩ := both
    exact ⟨Prod.ext sameGroup sameModel, same.trans owner.symm⟩
  · rw [List.count_eq_zero.mpr found]
    exact Nat.zero_le 1

end Stored

/-- After a rebuild from consistent tables both selections consider the same
priority and the same channels, each of them once, exactly where every enabled
channel within its limit lists the matched model once for the group. -/
theorem routes_agree_iff {sorter : PrioritySort} {before published : Cache}
    {tables : AbilityTables} (format : String → String) (order : AbilityOrder)
    (consistent : Consistent tables)
    (rebuilt : initChannelCache sorter tables.channels tables.abilities before = some published)
    (group model : String) :
    (∀ retry, Agree (cachedChoice format published group model retry)
        (storedChoice format order tables group model retry)) ↔
      ∀ channel ∈ tables.channels, channel.status = .enabled → channel.reachedUsageLimit = false →
        (listedPairs channel).count (group, matchedModel format tables.channels group model) ≤ 1 := by
  have lists : (routedChannels format published group model).Perm _ := routed_rebuilt rebuilt
  have stored : ∀ id ∈ routedChannels format published group model,
      ∃ channel, lookup Channel.id tables.channels id = some channel := by
    intro id member
    obtain ⟨channel, held, -, rfl, -⟩ := mem_listed_ids.mp (lists.mem_iff.mp member)
    exact ⟨channel, lookup_of_mem consistent.unique held⟩
  obtain ⟨usable, read, offers⟩ := usable_rebuilt rebuilt stored
  have arranged := lists.filterMap (offered tables.channels)
  have same : ∀ offer, offer ∈ usable.map offerOf ↔
      offer ∈ ((enabledAbilities order tables.abilities group
        (matchedModel format tables.channels group model)).filter
          (servable tables.channels)).map abilityOffer := by
    intro offer
    rw [offers, arranged.mem_iff, mem_offered consistent.unique, mem_ability_offers order consistent]
  have agree := offers_agree_iff same (ability_offers_once order consistent)
  rw [offers, (arranged.map Prod.fst).nodup_iff, offered_once_iff consistent.unique, ← offers] at agree
  simpa only [cached_choice_eq read, stored_choice_eq, matched_enabled order consistent] using agree

def plainModel : Channel where
  id := 1
  keys := ["sk-a"]
  models := "gpt-4"
  group := "default,vip"

def plainTables : AbilityTables where
  channels := [plainModel]
  abilities := channelAbilities plainModel

theorem single_row_consistent (distinct : KeysDistinct channel) :
    Consistent { channels := [channel], abilities := channelAbilities channel } := by
  constructor
  case unique => exact List.nodup_singleton _
  case mirrored =>
    intro held member
    cases List.mem_singleton.mp member
    have mine : abilitiesOf channel.id (channelAbilities channel) = channelAbilities channel := by
      apply List.filter_eq_self.mpr
      intro ability created
      exact decide_eq_true (channel_abilities_owner created)
    rw [mine]
    exact (created_mirror_iff channel).mpr distinct
  case owned =>
    intro ability created
    exact ⟨channel, List.mem_singleton_self _, (channel_abilities_owner created).symm⟩

theorem plain_model_routes_agree :
    ∃ published, initChannelCache stableSort plainTables.channels plainTables.abilities {} =
      some published ∧ ∀ retry, Agree (cachedChoice id published "vip" "gpt-4" retry)
        (storedChoice id insertionOrder plainTables "vip" "gpt-4" retry) := by
  have consistent : Consistent plainTables := single_row_consistent (by decide +kernel)
  have known : ∀ channel ∈ plainTables.channels, channel.status = .enabled →
      ∀ group ∈ channel.groupNames, ∃ ability ∈ plainTables.abilities, ability.group = group := by
    intro channel held _
    cases List.mem_singleton.mp held
    decide +kernel
  obtain ⟨published, rebuilt⟩ := (init_some_iff stableSort {}).mpr known
  refine ⟨published, rebuilt, ?_⟩
  apply (routes_agree_iff id insertionOrder consistent rebuilt "vip" "gpt-4").mpr
  intro channel held _ _
  cases List.mem_singleton.mp held
  decide +kernel

def repeatedModel : Channel where
  id := 1
  keys := ["sk-a"]
  models := "gpt-4,gpt-4"
  group := "default"

def repeatedTables : AbilityTables where
  channels := [repeatedModel]
  abilities := channelAbilities repeatedModel

theorem repeated_model_is_considered_twice :
    ¬ ∀ (sorter : PrioritySort) (order : AbilityOrder) (format : String → String)
      (tables : AbilityTables) (before published : Cache), Consistent tables →
      initChannelCache sorter tables.channels tables.abilities before = some published →
      ∀ group model retry, Agree (cachedChoice format published group model retry)
        (storedChoice format order tables group model retry) := by
  intro always
  have consistent : Consistent repeatedTables := single_row_consistent (by decide +kernel)
  have considers : (initChannelCache stableSort repeatedTables.channels repeatedTables.abilities
      {}).map (fun published => cachedChoice id published "default" "gpt-4" 0) =
        some (.ok (some { candidates := [1, 1], priority := 0 })) := by rfl
  obtain ⟨published, rebuilt, choice⟩ := Option.map_eq_some_iff.mp considers
  have agree :=
    always stableSort insertionOrder id _ _ _ consistent rebuilt "default" "gpt-4" 0
  rw [choice] at agree
  cases stored : storedChoice id insertionOrder repeatedTables "default" "gpt-4" 0 with
  | none =>
    rw [stored] at agree
    exact agree
  | some other =>
    rw [stored] at agree
    exact absurd agree.2.1 (by decide)

end NewApi.ChannelRouting
