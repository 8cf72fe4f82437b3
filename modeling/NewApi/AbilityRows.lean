import Mathlib.Data.List.Nodup
import NewApi.StatusUpdates

/-! The abilities of a channel are the pairs of its groups and models, with its
status, priority, weight and tag. Every write of a channel writes its abilities
as well, most of them in a statement of its own. -/
namespace NewApi.AbilityRows
open NewApi.GuardedRun NewApi.KeyedTable NewApi.Channels
open NewApi.StatusUpdates
open NewApi.GoText (split)

/-! ## The abilities of a channel -/

def Ability.pair (ability : Ability) : String × String := (ability.group, ability.model)

def pairKey (group model : String) : String := group ++ "|" ++ model

def newAbility (channel : Channel) (group model : String) : Ability where
  group := group
  model := model
  channelId := channel.id
  enabled := channel.status = .enabled
  priority := some channel.getPriority
  weight := channel.getWeight
  tag := channel.tag

def keepDistinct : List Ability → List String → List Ability
  | [], _ => []
  | ability :: rest, seen =>
    if pairKey ability.group ability.model ∈ seen then keepDistinct rest seen
    else ability :: keepDistinct rest (pairKey ability.group ability.model :: seen)

def channelAbilities (channel : Channel) : List Ability :=
  keepDistinct (channel.modelNames.flatMap fun model =>
    channel.groupNames.map fun group => newAbility channel group model) []

/-- `INSERT ... ON CONFLICT DO NOTHING`, on the primary key. -/
def insertAbility (abilities : List Ability) (ability : Ability) : List Ability :=
  if abilities.any fun old => old.group = ability.group && old.model = ability.model &&
      old.channelId = ability.channelId then abilities
  else abilities ++ [ability]

/-- `model/ability.go::AddAbilities`. -/
def addAbilities (channel : Channel) (abilities : List Ability) : List Ability :=
  (channelAbilities channel).foldl insertAbility abilities

def deleteAbilities (channelIds : List Int) (abilities : List Ability) : List Ability :=
  abilities.filter fun ability => ability.channelId ∉ channelIds

/-- `model/ability.go::UpdateAbilities`. -/
def updateAbilities (abilities : List Ability) (channel : Channel) : List Ability :=
  addAbilities channel (deleteAbilities [channel.id] abilities)

/-! ## The writes -/

structure AbilityTables where
  channels : List Channel := []
  abilities : List Ability := []
  nextChannelId : Int := 1

/-- The row that `DB.Create` stores: zero values get the defaults of their
columns. -/
def createdRow (id : Int) (channel : Channel) : Channel :=
  { channel with
    id := id
    status := if channel.status = .unknown then .enabled else channel.status
    group := if channel.group = "" then "default" else channel.group
    weight := some channel.getWeight
    priority := some channel.getPriority }

/-- `model/channel.go::Insert`. -/
def insertChannel (channel : Channel) (tables : AbilityTables) : AbilityTables :=
  let row := createdRow tables.nextChannelId channel
  { channels := tables.channels ++ [row]
    abilities := addAbilities row tables.abilities
    nextChannelId := tables.nextChannelId + 1 }

def keepBelow {Value : Type} (size : Int) (map : KeyMap Value) : KeyMap Value := fun index =>
  if index ≥ size then none else map index

/-- What `Update` makes of the key data before it writes it. -/
def fitKeys (keys : List String) (info : ChannelInfo) : ChannelInfo :=
  let size : Int := keys.length
  if info.isMultiKey then { info with
    multiKeySize := size
    multiKeyStatusList := keepBelow size info.multiKeyStatusList
    multiKeyDisabledTime := keepBelow size info.multiKeyDisabledTime
    multiKeyDisabledReason := keepBelow size info.multiKeyDisabledReason
    multiKeyUsedCount := keepBelow size info.multiKeyUsedCount
    multiKeyMaxRequestCount := keepBelow size info.multiKeyMaxRequestCount }
  else info

/-- `Updates` with a struct: the zero values of the patch are left out. `noInfo`
says that its key data is one. -/
def updatesRow (patch : Channel) (noInfo : Bool) (row : Channel) : Channel :=
  let keys := if patch.keys = [] then row.keys else patch.keys
  { row with
    keys := keys
    status := if patch.status = .unknown then row.status else patch.status
    models := if patch.models = "" then row.models else patch.models
    group := if patch.group = "" then row.group else patch.group
    weight := patch.weight.or row.weight
    priority := patch.priority.or row.priority
    tag := patch.tag.or row.tag
    modelMapping := patch.modelMapping.or row.modelMapping
    paramOverride := patch.paramOverride.or row.paramOverride
    headerOverride := patch.headerOverride.or row.headerOverride
    usedCount := if patch.usedCount = 0 then row.usedCount else patch.usedCount
    usedQuota := if patch.usedQuota = 0 then row.usedQuota else patch.usedQuota
    maxRequestCount := if patch.maxRequestCount = 0 then row.maxRequestCount else patch.maxRequestCount
    maxRequestQuota := if patch.maxRequestQuota = 0 then row.maxRequestQuota else patch.maxRequestQuota
    otherInfo := if patch.otherInfo = {} then row.otherInfo else patch.otherInfo
    channelInfo := if noInfo then row.channelInfo else fitKeys keys patch.channelInfo }

/-- `model/channel.go::Update` of a channel that its callers have read. -/
def updateChannel (patch : Channel) (noInfo : Bool) (tables : AbilityTables) : AbilityTables :=
  match lookup Channel.id tables.channels patch.id with
  | none => tables
  | some row =>
    let written := updatesRow patch noInfo row
    { tables with
      channels := save Channel.id tables.channels written
      abilities := updateAbilities tables.abilities written }

/-- The arguments of `EditChannelByTag`. -/
structure TagEdit where
  tag : String
  newTag : Option String := none
  modelMapping : Option String := none
  models : Option String := none
  group : Option String := none
  priority : Option Int := none
  weight : Option Nat := none
  paramOverride : Option String := none
  headerOverride : Option String := none
  deriving DecidableEq, Repr

def given (text : Option String) : Option String := text.filter fun text => text ≠ ""

def TagEdit.updatedTag (edit : TagEdit) : String := edit.newTag.getD edit.tag

def TagEdit.shouldReCreateAbilities (edit : TagEdit) : Bool :=
  (given edit.models).isSome || (given edit.group).isSome

def TagEdit.apply (edit : TagEdit) (row : Channel) : Channel :=
  { row with
    tag := (edit.newTag.filter fun newTag => newTag ≠ edit.tag).or row.tag
    modelMapping := (given edit.modelMapping).or row.modelMapping
    models := (given edit.models).getD row.models
    group := (given edit.group).getD row.group
    priority := edit.priority.or row.priority
    weight := edit.weight.or row.weight
    paramOverride := edit.paramOverride.or row.paramOverride
    headerOverride := edit.headerOverride.or row.headerOverride }

/-- `model/ability.go::UpdateAbilityByTag`: the struct holds the weight itself,
so that a weight of zero is left out. -/
def updateAbilityByTag (edit : TagEdit) (abilities : List Ability) : List Ability :=
  abilities.map fun ability =>
    if ability.tag = some edit.tag then { ability with
      tag := edit.newTag.or ability.tag
      priority := edit.priority.or ability.priority
      weight := if edit.weight.getD 0 = 0 then ability.weight else edit.weight.getD 0 }
    else ability

/-- `model/channel.go::EditChannelByTag`. -/
def editChannelByTag (edit : TagEdit) (tables : AbilityTables) : AbilityTables :=
  let channels := tables.channels.map fun row =>
    if row.tag = some edit.tag then edit.apply row else row
  { tables with
    channels := channels
    abilities :=
      if edit.shouldReCreateAbilities then
        (channels.filter fun row => row.tag = some edit.updatedTag).foldl updateAbilities tables.abilities
      else updateAbilityByTag edit tables.abilities }

/-- `EnableChannelByTag` and `DisableChannelByTag`, with `UpdateAbilityStatusByTag`. -/
def setStatusByTag (tag : String) (status : ChannelStatus) (tables : AbilityTables) :
    AbilityTables :=
  { tables with
    channels := tables.channels.map fun row =>
      if row.tag = some tag then { row with status := status } else row
    abilities := tables.abilities.map fun ability =>
      if ability.tag = some tag then { ability with enabled := status = .enabled } else ability }

def enableChannelByTag (tag : String) : AbilityTables → AbilityTables :=
  setStatusByTag tag .enabled

def disableChannelByTag (tag : String) : AbilityTables → AbilityTables :=
  setStatusByTag tag .manuallyDisabled

/-- `lo.Chunk`, of 50. -/
def chunksOfFifty {Row : Type} : List Row → List (List Row)
  | [] => []
  | first :: rest => (first :: rest).take 50 :: chunksOfFifty ((first :: rest).drop 50)
termination_by rows => rows.length

/-- One chunk of `FixAbility`. -/
def fixChunk (abilities : List Ability) (chunk : List Channel) : List Ability :=
  chunk.foldl (fun abilities channel => addAbilities channel abilities)
    (deleteAbilities (chunk.map Channel.id) abilities)

/-- `model/ability.go::FixAbility`. -/
def fixAbility (tables : AbilityTables) : AbilityTables :=
  { tables with abilities := (chunksOfFifty tables.channels).foldl fixChunk [] }

/-- The part of `UpdateChannelStatus` on the database; `stopped` says that the
part on the cache ends the call. -/
def changeStatus (call : StatusCall) (stopped : Bool) (tables : AbilityTables) : AbilityTables :=
  if stopped then tables
  else
    let written := updateStored call { channels := tables.channels, abilities := tables.abilities }
    { tables with channels := written.channels, abilities := written.abilities }

inductive Event where
  | insert (channel : Channel)
  | update (patch : Channel) (noInfo : Bool)
  | editByTag (edit : TagEdit)
  | enableByTag (tag : String)
  | disableByTag (tag : String)
  | changeStatus (call : StatusCall) (stopped : Bool)
  | fixAbility

def step (tables : AbilityTables) : Event → AbilityTables
  | .insert channel => insertChannel channel tables
  | .update patch noInfo => updateChannel patch noInfo tables
  | .editByTag edit => editChannelByTag edit tables
  | .enableByTag tag => enableChannelByTag tag tables
  | .disableByTag tag => disableChannelByTag tag tables
  | .changeStatus call stopped => changeStatus call stopped tables
  | .fixAbility => fixAbility tables

/-! ## Mirrors -/

def abilitiesOf (id : Int) (abilities : List Ability) : List Ability :=
  abilities.filter fun ability => ability.channelId = id

/-- Some abilities are those of a channel: one for each pair of a group and a
model, with the columns of the channel. -/
structure Mirrors (channel : Channel) (mine : List Ability) : Prop where
  pairs : ∀ group model, (group, model) ∈ mine.map Ability.pair ↔
    group ∈ channel.groupNames ∧ model ∈ channel.modelNames
  once : (mine.map Ability.pair).Nodup
  columns : ∀ ability ∈ mine, ability.enabled = decide (channel.status = .enabled) ∧
    ability.priority.getD 0 = channel.getPriority ∧ ability.weight = channel.getWeight ∧
      ability.tag = channel.tag

def Mirrored (tables : AbilityTables) : Prop :=
  ∀ channel ∈ tables.channels, Mirrors channel (abilitiesOf channel.id tables.abilities)

structure Numbered (tables : AbilityTables) : Prop where
  unique : (tables.channels.map Channel.id).Nodup
  below : ∀ channel ∈ tables.channels, channel.id < tables.nextChannelId
  owned : ∀ ability ∈ tables.abilities, ability.channelId < tables.nextChannelId

def KeysDistinct (channel : Channel) : Prop :=
  ∀ group ∈ channel.groupNames, ∀ model ∈ channel.modelNames,
    ∀ otherGroup ∈ channel.groupNames, ∀ otherModel ∈ channel.modelNames,
      pairKey group model = pairKey otherGroup otherModel → group = otherGroup ∧ model = otherModel

instance (channel : Channel) : Decidable (KeysDistinct channel) :=
  inferInstanceAs (Decidable (∀ group ∈ _, _))

def MirrorKept (tables : AbilityTables) : Event → Prop
  | .insert channel => KeysDistinct (createdRow tables.nextChannelId channel)
  | .update patch noInfo => ∀ row, lookup Channel.id tables.channels patch.id = some row →
    KeysDistinct (updatesRow patch noInfo row)
  | .editByTag edit =>
    if edit.shouldReCreateAbilities then
      ∀ row ∈ tables.channels, (if row.tag = some edit.tag then KeysDistinct (edit.apply row)
        else row.tag = some edit.updatedTag → KeysDistinct row)
    else edit.weight = some 0 → ∀ row ∈ tables.channels, row.tag = some edit.tag → row.getWeight = 0
  | .fixAbility => ∀ row ∈ tables.channels, KeysDistinct row
  | _ => True

/-! ## What is created -/

section Creation
variable {channel : Channel} {ability : Ability} {abilities : List Ability}
variable {id : Int}

theorem keep_distinct_mem (kept : ability ∈ keepDistinct abilities seen) :
    ability ∈ abilities ∧ pairKey ability.group ability.model ∉ seen := by
  induction abilities generalizing seen with
  | nil => cases kept
  | cons first rest ih =>
    unfold keepDistinct at kept
    split at kept
    · obtain ⟨later, unseen⟩ := ih kept
      exact ⟨List.mem_cons_of_mem _ later, unseen⟩
    · rename_i fresh
      rcases List.mem_cons.mp kept with rfl | later
      · exact ⟨List.mem_cons_self .., fresh⟩
      · obtain ⟨inside, unseen⟩ := ih later
        exact ⟨List.mem_cons_of_mem _ inside, fun old => unseen (List.mem_cons_of_mem _ old)⟩

theorem keep_distinct_keys (abilities : List Ability) (seen : List String) :
    ((keepDistinct abilities seen).map fun ability =>
      pairKey ability.group ability.model).Nodup := by
  induction abilities generalizing seen with
  | nil => exact List.nodup_nil
  | cons first rest ih =>
    unfold keepDistinct
    split
    · exact ih seen
    · apply List.nodup_cons.mpr
      refine ⟨?_, ih _⟩
      intro again
      obtain ⟨other, kept, same⟩ := List.mem_map.mp again
      apply (keep_distinct_mem kept).2
      rw [same]
      exact List.mem_cons_self ..

theorem keep_distinct_complete (member : ability ∈ abilities)
    (unseen : pairKey ability.group ability.model ∉ seen) :
    ∃ kept ∈ keepDistinct abilities seen,
      pairKey kept.group kept.model = pairKey ability.group ability.model := by
  induction abilities generalizing seen with
  | nil => cases member
  | cons first rest ih =>
    unfold keepDistinct
    split
    · rename_i old
      rcases List.mem_cons.mp member with rfl | later
      · exact absurd old unseen
      · exact ih later unseen
    · by_cases same : pairKey ability.group ability.model = pairKey first.group first.model
      · exact ⟨first, List.mem_cons_self .., same.symm⟩
      · rcases List.mem_cons.mp member with rfl | later
        · exact absurd rfl same
        · obtain ⟨kept, inside, key⟩ := ih later fun old => by
            rcases List.mem_cons.mp old with here | before
            · exact same here
            · exact unseen before
          exact ⟨kept, List.mem_cons_of_mem _ inside, key⟩

theorem channel_abilities_mem (member : ability ∈ channelAbilities channel) :
    ∃ group ∈ channel.groupNames, ∃ model ∈ channel.modelNames,
      ability = newAbility channel group model := by
  obtain ⟨model, served, held⟩ := List.mem_flatMap.mp (keep_distinct_mem member).1
  obtain ⟨group, inside, rfl⟩ := List.mem_map.mp held
  exact ⟨group, inside, model, served, rfl⟩

theorem channel_abilities_owner (member : ability ∈ channelAbilities channel) :
    ability.channelId = channel.id := by
  obtain ⟨group, -, model, -, rfl⟩ := channel_abilities_mem member
  rfl

theorem channel_abilities_once (channel : Channel) :
    ((channelAbilities channel).map Ability.pair).Nodup := by
  have keys := keep_distinct_keys (channel.modelNames.flatMap fun model =>
    channel.groupNames.map fun group => newAbility channel group model) []
  have through : (fun ability : Ability => pairKey ability.group ability.model) =
      (fun pair : String × String => pairKey pair.1 pair.2) ∘ Ability.pair := rfl
  rw [through, ← List.map_map] at keys
  exact List.Nodup.of_map _ keys

theorem created_mirror_iff (channel : Channel) :
    Mirrors channel (channelAbilities channel) ↔ KeysDistinct channel := by
  have listed : ∀ group ∈ channel.groupNames, ∀ model ∈ channel.modelNames,
      newAbility channel group model ∈ channel.modelNames.flatMap fun model =>
        channel.groupNames.map fun group => newAbility channel group model := by
    intro group inside model served
    exact List.mem_flatMap.mpr ⟨model, served, List.mem_map.mpr ⟨group, inside, rfl⟩⟩
  constructor
  · intro mirrors group inside model served otherGroup otherInside otherModel otherServed same
    obtain ⟨one, oneKept, onePair⟩ := List.mem_map.mp ((mirrors.pairs group model).mpr ⟨inside, served⟩)
    obtain ⟨other, otherKept, otherPair⟩ :=
      List.mem_map.mp ((mirrors.pairs otherGroup otherModel).mpr ⟨otherInside, otherServed⟩)
    have together : one = other := by
      apply List.inj_on_of_nodup_map (keep_distinct_keys _ _) oneKept otherKept
      have oneKey : pairKey one.group one.model = pairKey group model :=
        congrArg (fun pair : String × String => pairKey pair.1 pair.2) onePair
      have otherKey : pairKey other.group other.model = pairKey otherGroup otherModel :=
        congrArg (fun pair : String × String => pairKey pair.1 pair.2) otherPair
      exact oneKey.trans (same.trans otherKey.symm)
    rw [together, otherPair] at onePair
    exact ⟨(congrArg Prod.fst onePair).symm, (congrArg Prod.snd onePair).symm⟩
  · intro distinct
    constructor
    case pairs =>
      intro group model
      constructor
      · intro member
        obtain ⟨ability, kept, pair⟩ := List.mem_map.mp member
        obtain ⟨made, inside, served, held, rfl⟩ := channel_abilities_mem kept
        cases pair
        exact ⟨inside, held⟩
      · rintro ⟨inside, served⟩
        obtain ⟨kept, member, same⟩ :=
          keep_distinct_complete (listed group inside model served) (List.not_mem_nil)
        apply List.mem_map.mpr
        refine ⟨kept, member, ?_⟩
        obtain ⟨otherGroup, otherInside, otherModel, otherServed, rfl⟩ := channel_abilities_mem member
        obtain ⟨rfl, rfl⟩ := distinct otherGroup otherInside otherModel otherServed group inside
          model served same
        rfl
    case once => exact channel_abilities_once channel
    case columns =>
      intro ability member
      obtain ⟨group, -, model, -, rfl⟩ := channel_abilities_mem member
      exact ⟨rfl, rfl, rfl, rfl⟩

theorem insert_fresh (added : List Ability) (before : List Ability)
    (owner : ∀ ability ∈ added, ability.channelId = id)
    (fresh : ∀ ability ∈ before, ability.channelId = id → ∀ other ∈ added,
      Ability.pair ability ≠ Ability.pair other)
    (once : (added.map Ability.pair).Nodup) : added.foldl insertAbility before = before ++ added := by
  induction added generalizing before with
  | nil => simp
  | cons first rest ih =>
    obtain ⟨mine, others⟩ := List.forall_mem_cons.mp owner
    obtain ⟨absent, later⟩ := List.nodup_cons.mp once
    have inserted : insertAbility before first = before ++ [first] := by
      apply if_neg
      intro conflict
      obtain ⟨old, held, same⟩ := List.any_eq_true.mp conflict
      simp only [Bool.and_eq_true, decide_eq_true_eq] at same
      apply fresh old held (same.2.trans mine) first (List.mem_cons_self ..)
      exact Prod.ext same.1.1 same.1.2
    rw [List.foldl_cons, inserted, ih (before ++ [first]) others ?_ later]
    · simp
    · intro ability member owned other listed
      rcases List.mem_append.mp member with old | new
      · exact fresh ability old owned other (List.mem_cons_of_mem _ listed)
      · rw [List.mem_singleton.mp new]
        intro same
        apply absent
        rw [same]
        exact List.mem_map_of_mem listed

theorem add_fresh (fresh : ∀ ability ∈ abilities, ability.channelId ≠ channel.id) :
    addAbilities channel abilities = abilities ++ channelAbilities channel := by
  refine insert_fresh _ _ (fun ability => channel_abilities_owner) ?_ (channel_abilities_once channel)
  intro ability member mine
  exact absurd mine (fresh ability member)

@[simp] theorem abilities_of_append (first second : List Ability) :
    abilitiesOf id (first ++ second) = abilitiesOf id first ++ abilitiesOf id second :=
  List.filter_append ..

theorem abilities_of_created (channel : Channel) (id : Int) :
    abilitiesOf id (channelAbilities channel) =
      if channel.id = id then channelAbilities channel else [] := by
  split
  · rename_i mine
    apply List.filter_eq_self.mpr
    intro ability member
    rw [channel_abilities_owner member, decide_eq_true_eq]
    exact mine
  · rename_i other
    apply List.filter_eq_nil_iff.mpr
    intro ability member
    rw [channel_abilities_owner member, decide_eq_true_eq]
    exact other

theorem abilities_of_delete (ids : List Int) (abilities : List Ability) (id : Int) :
    abilitiesOf id (deleteAbilities ids abilities) = if id ∈ ids then [] else abilitiesOf id abilities := by
  unfold abilitiesOf deleteAbilities
  rw [List.filter_filter]
  split
  · rename_i gone
    apply List.filter_eq_nil_iff.mpr
    intro ability _
    simp only [Bool.and_eq_true, decide_eq_true_eq, not_and, not_not]
    rintro rfl
    exact gone
  · rename_i kept
    apply List.filter_congr
    intro ability _
    by_cases mine : ability.channelId = id
    · simp [mine, kept]
    · simp [mine]

theorem abilities_of_eq_nil (none_owned : ∀ ability ∈ abilities, ability.channelId ≠ id) :
    abilitiesOf id abilities = [] :=
  List.filter_eq_nil_iff.mpr fun ability member => by simpa using none_owned ability member

theorem delete_owner (member : ability ∈ deleteAbilities ids abilities) :
    ability ∈ abilities ∧ ability.channelId ∉ ids := by
  obtain ⟨held, kept⟩ := List.mem_filter.mp member
  exact ⟨held, by simpa using kept⟩

theorem update_abilities_append (abilities : List Ability) (channel : Channel) :
    updateAbilities abilities channel =
      deleteAbilities [channel.id] abilities ++ channelAbilities channel := by
  apply add_fresh
  intro ability member
  simpa using (delete_owner member).2

def recreated (channels : List Channel) (abilities : List Ability) (id : Int) : List Ability :=
  match lookup Channel.id channels id with
  | some channel => channelAbilities channel
  | none => abilitiesOf id abilities

theorem abilities_of_update (abilities : List Ability) (channel : Channel) (id : Int) :
    abilitiesOf id (updateAbilities abilities channel) =
      if channel.id = id then channelAbilities channel else abilitiesOf id abilities := by
  rw [update_abilities_append, abilities_of_append, abilities_of_delete, abilities_of_created]
  by_cases mine : channel.id = id
  · simp [mine]
  · have other : id ∉ [channel.id] := by simpa using Ne.symm mine
    rw [if_neg other, if_neg mine, if_neg mine, List.append_nil]

theorem recreated_absent (absent : id ∉ channels.map Channel.id) :
    recreated channels abilities id = abilitiesOf id abilities := by
  have gone : lookup Channel.id channels id = none := by
    rw [lookup, List.find?_eq_none]
    intro other member
    rw [decide_eq_true_eq]
    rintro rfl
    exact absent (List.mem_map_of_mem member)
  rw [recreated, gone]

theorem recreated_congr
    (same : abilitiesOf id others = abilitiesOf id abilities) :
    recreated channels others id = recreated channels abilities id := by
  unfold recreated
  rw [same]

theorem recreated_cons (first : Channel) (rest : List Channel) (abilities : List Ability) (id : Int) :
    recreated (first :: rest) abilities id =
      if first.id = id then channelAbilities first else recreated rest abilities id := by
  unfold recreated lookup
  by_cases mine : first.id = id <;> simp [mine]

theorem recreated_first {first : Channel}
    (absent : first.id ∉ rest.map Channel.id)
    (created : abilitiesOf id next =
      if first.id = id then channelAbilities first else abilitiesOf id abilities) :
    recreated rest next id = recreated (first :: rest) abilities id := by
  rw [recreated_cons]
  by_cases mine : first.id = id
  · rw [if_pos mine] at created ⊢
    rw [recreated_absent (by rw [← mine]; exact absent), created]
  · rw [if_neg mine] at created ⊢
    exact recreated_congr created

theorem abilities_of_updates (unique : (channels.map Channel.id).Nodup)
    (abilities : List Ability) (id : Int) :
    abilitiesOf id (channels.foldl updateAbilities abilities) = recreated channels abilities id := by
  induction channels generalizing abilities with
  | nil => rfl
  | cons first rest ih =>
    obtain ⟨absent, later⟩ := List.nodup_cons.mp unique
    rw [List.foldl_cons, ih later]
    exact recreated_first absent (abilities_of_update abilities first id)

theorem chunks_flatten {Row : Type} (rows : List Row) : (chunksOfFifty rows).flatten = rows := by
  induction rows using chunksOfFifty.induct with
  | case1 => simp [chunksOfFifty]
  | case2 first rest ih => rw [chunksOfFifty, List.flatten_cons, ih, List.take_append_drop]

theorem abilities_of_adds (unique : (channels.map Channel.id).Nodup)
    (fresh : ∀ ability ∈ abilities, ability.channelId ∉ channels.map Channel.id) (id : Int) :
    abilitiesOf id (channels.foldl (fun abilities channel => addAbilities channel abilities)
      abilities) = recreated channels abilities id := by
  induction channels generalizing abilities with
  | nil => rfl
  | cons first rest ih =>
    obtain ⟨absent, later⟩ := List.nodup_cons.mp unique
    have new : ∀ ability ∈ abilities, ability.channelId ≠ first.id := by
      intro ability member same
      apply fresh ability member
      rw [same]
      exact List.mem_cons_self ..
    have stillFresh : ∀ ability ∈ addAbilities first abilities,
        ability.channelId ∉ rest.map Channel.id := by
      intro ability member
      rw [add_fresh new] at member
      rcases List.mem_append.mp member with old | created
      · exact fun owned => fresh ability old (List.mem_cons_of_mem _ owned)
      · rw [channel_abilities_owner created]
        exact absent
    rw [List.foldl_cons, ih later stillFresh]
    apply recreated_first absent
    rw [add_fresh new, abilities_of_append, abilities_of_created]
    split
    · rename_i mine
      rw [abilities_of_eq_nil (by rw [← mine]; exact new), List.nil_append]
    · rw [List.append_nil]

theorem recreated_append (first second : List Channel) (abilities : List Ability) (id : Int) :
    recreated (first ++ second) abilities id =
      if id ∈ first.map Channel.id then recreated first abilities id
      else recreated second abilities id := by
  induction first with
  | nil => simp
  | cons channel rest ih =>
    rw [List.cons_append, recreated_cons, recreated_cons, ih]
    by_cases mine : channel.id = id
    · simp [mine]
    · simp [mine, Ne.symm mine]

theorem abilities_of_chunk (unique : (chunk.map Channel.id).Nodup)
    (abilities : List Ability) (id : Int) :
    abilitiesOf id (fixChunk abilities chunk) = recreated chunk abilities id := by
  have fresh : ∀ ability ∈ deleteAbilities (chunk.map Channel.id) abilities,
      ability.channelId ∉ chunk.map Channel.id := fun ability member => (delete_owner member).2
  rw [fixChunk, abilities_of_adds unique fresh]
  by_cases mine : id ∈ chunk.map Channel.id
  · obtain ⟨channel, member, rfl⟩ := List.mem_map.mp mine
    rw [recreated, recreated, lookup_of_mem unique member]
  · apply recreated_congr
    rw [abilities_of_delete, if_neg mine]

theorem abilities_of_chunks (chunks : List (List Channel))
    (unique : (chunks.flatten.map Channel.id).Nodup) (abilities : List Ability) (id : Int) :
    abilitiesOf id (chunks.foldl fixChunk abilities) = recreated chunks.flatten abilities id := by
  induction chunks generalizing abilities with
  | nil => rfl
  | cons chunk rest ih =>
    rw [List.flatten_cons, List.map_append] at unique
    obtain ⟨mine, others, apart⟩ := List.nodup_append.mp unique
    rw [List.foldl_cons, ih others, List.flatten_cons, recreated_append]
    split
    · rename_i inside
      have elsewhere : id ∉ rest.flatten.map Channel.id := fun again =>
        apart id inside id again rfl
      rw [recreated_absent elsewhere, abilities_of_chunk mine]
    · rename_i outside
      apply recreated_congr
      rw [abilities_of_chunk mine, recreated_absent outside]

theorem fixed_abilities (unique : (tables.channels.map Channel.id).Nodup)
    (id : Int) : abilitiesOf id (fixAbility tables).abilities = recreated tables.channels [] id := by
  have whole := chunks_flatten tables.channels
  have fixed := abilities_of_chunks (chunksOfFifty tables.channels) (by rw [whole]; exact unique) [] id
  rw [whole] at fixed
  exact fixed

end Creation

/-! ## What each write leaves -/

section Writes
variable {tables : AbilityTables}

theorem Mirrored.distinct_row
    (rebuilt : abilitiesOf channel.id abilities = channelAbilities channel) :
    Mirrors channel (abilitiesOf channel.id abilities) ↔ KeysDistinct channel := by
  rw [rebuilt]
  exact created_mirror_iff channel

theorem insert_writes (numbered : Numbered tables) (channel : Channel) :
    (insertChannel channel tables).abilities =
      tables.abilities ++ channelAbilities (createdRow tables.nextChannelId channel) := by
  apply add_fresh
  intro ability member same
  have below := numbered.owned ability member
  rw [same] at below
  exact lt_irrefl _ below

theorem insert_mirrored_iff (numbered : Numbered tables) (mirrored : Mirrored tables)
    (channel : Channel) : Mirrored (insertChannel channel tables) ↔
      KeysDistinct (createdRow tables.nextChannelId channel) := by
  have mine : abilitiesOf tables.nextChannelId (insertChannel channel tables).abilities =
      channelAbilities (createdRow tables.nextChannelId channel) := by
    have own : (createdRow tables.nextChannelId channel).id = tables.nextChannelId := rfl
    rw [insert_writes numbered, abilities_of_append, abilities_of_created, if_pos own]
    rw [abilities_of_eq_nil fun ability member => (numbered.owned ability member).ne, List.nil_append]
  constructor
  · intro mirrors
    rw [← created_mirror_iff, ← mine]
    exact mirrors _ (List.mem_append_right _ (List.mem_singleton.mpr rfl))
  · intro distinct row member
    rcases List.mem_append.mp member with old | new
    · have other : (createdRow tables.nextChannelId channel).id ≠ row.id :=
        (numbered.below row old).ne'
      rw [insert_writes numbered, abilities_of_append, abilities_of_created, if_neg other, List.append_nil]
      exact mirrored row old
    · rw [List.mem_singleton.mp new]
      exact (Mirrored.distinct_row mine).mpr distinct

theorem insert_numbered (numbered : Numbered tables) (channel : Channel) :
    Numbered (insertChannel channel tables) := by
  constructor
  case unique =>
    simp only [insertChannel, List.map_append, List.map_singleton]
    apply List.nodup_append.mpr
    refine ⟨numbered.unique, List.nodup_singleton _, ?_⟩
    intro id member other new same
    obtain ⟨row, held, rfl⟩ := List.mem_map.mp member
    have below := numbered.below row held
    rw [List.mem_singleton.mp new] at same
    exact below.ne same
  case below =>
    intro row member
    show row.id < tables.nextChannelId + 1
    rcases List.mem_append.mp member with old | new
    · have below := numbered.below row old
      omega
    · rw [List.mem_singleton.mp new]
      exact Int.lt_succ _
  case owned =>
    intro ability member
    show ability.channelId < tables.nextChannelId + 1
    rw [insert_writes numbered] at member
    rcases List.mem_append.mp member with old | new
    · have below := numbered.owned ability old
      omega
    · rw [channel_abilities_owner new]
      exact Int.lt_succ _

theorem update_mirrored_iff (mirrored : Mirrored tables)
    (found : lookup Channel.id tables.channels patch.id = some row) :
    Mirrored (updateChannel patch noInfo tables) ↔ KeysDistinct (updatesRow patch noInfo row) := by
  have tablesAfter : updateChannel patch noInfo tables = { tables with
      channels := save Channel.id tables.channels (updatesRow patch noInfo row)
      abilities := updateAbilities tables.abilities (updatesRow patch noInfo row) } := by
    simp only [updateChannel, found]
  rw [tablesAfter]
  have own : (updatesRow patch noInfo row).id = row.id := rfl
  have mine := abilities_of_update tables.abilities (updatesRow patch noInfo row) row.id
  rw [if_pos own] at mine
  constructor
  · intro mirrors
    apply (Mirrored.distinct_row mine).mp
    have key : row.id = patch.id := lookup_key found
    exact mirrors _ (mem_save found key)
  · intro distinct written member
    obtain ⟨old, held, rfl⟩ := List.mem_map.mp member
    split
    · exact (Mirrored.distinct_row mine).mpr distinct
    · rename_i other
      rw [abilities_of_update, if_neg (Ne.symm other)]
      exact mirrored old held

theorem update_numbered (numbered : Numbered tables) (patch : Channel) (noInfo : Bool) :
    Numbered (updateChannel patch noInfo tables) := by
  unfold updateChannel
  split
  · exact numbered
  · rename_i row found
    have stored : row ∈ tables.channels := lookup_mem found
    constructor
    case unique =>
      rw [map_key_save]
      exact numbered.unique
    case below => exact forall_save numbered.below (numbered.below row stored)
    case owned =>
      intro ability member
      simp only [update_abilities_append, List.mem_append] at member
      rcases member with old | new
      · exact numbered.owned ability (delete_owner old).1
      · rw [channel_abilities_owner new]
        exact numbered.below row stored

theorem map_numbered {change : Channel → Channel} (numbered : Numbered tables)
    (same : ∀ row ∈ tables.channels, (change row).id = row.id)
    (owned : ∀ ability ∈ abilities, ability.channelId < tables.nextChannelId) :
    Numbered { tables with channels := tables.channels.map change, abilities := abilities } := by
  constructor
  case unique =>
    have ids : tables.channels.map (Channel.id ∘ change) = tables.channels.map Channel.id :=
      List.map_congr_left same
    rw [List.map_map, ids]
    exact numbered.unique
  case below =>
    intro row member
    obtain ⟨old, held, rfl⟩ := List.mem_map.mp member
    rw [same old held]
    exact numbered.below old held
  case owned => exact owned

theorem recreated_owned
    (inside : ∀ channel ∈ channels, channel.id < tables.nextChannelId)
    (before : ∀ ability ∈ abilities, ability.channelId < tables.nextChannelId)
    (rebuilt : ∀ id, abilitiesOf id after = recreated channels abilities id) :
    ∀ ability ∈ after, ability.channelId < tables.nextChannelId := by
  intro ability member
  have mine : ability ∈ abilitiesOf ability.channelId after :=
    List.mem_filter.mpr ⟨member, decide_eq_true rfl⟩
  rw [rebuilt, recreated] at mine
  split at mine
  · rename_i channel found
    rw [channel_abilities_owner mine]
    exact inside channel (lookup_mem found)
  · exact before ability (List.mem_filter.mp mine).1

theorem fix_mirrored_iff (numbered : Numbered tables) :
    Mirrored (fixAbility tables) ↔ ∀ row ∈ tables.channels, KeysDistinct row := by
  apply forall_congr'
  intro row
  apply forall_congr'
  intro member
  apply Mirrored.distinct_row
  rw [fixed_abilities numbered.unique, recreated]
  rw [lookup_of_mem numbered.unique member]

theorem fix_numbered (numbered : Numbered tables) : Numbered (fixAbility tables) where
  unique := numbered.unique
  below := numbered.below
  owned := by
    apply recreated_owned numbered.below _ (fixed_abilities numbered.unique)
    exact fun ability member => nomatch member

/-! ## Edits by tag -/

@[simp] theorem apply_id (edit : TagEdit) (row : Channel) : (edit.apply row).id = row.id := rfl

theorem apply_tag {edit : TagEdit} (tagged : row.tag = some edit.tag) :
    (edit.apply row).tag = some edit.updatedTag := by
  unfold TagEdit.apply TagEdit.updatedTag
  rw [tagged]
  cases edit.newTag with
  | none => rfl
  | some newTag =>
    by_cases same : newTag = edit.tag
    · simp [Option.filter, same]
    · simp [Option.filter, same]

def editedRow (edit : TagEdit) (row : Channel) : Channel :=
  if row.tag = some edit.tag then edit.apply row else row

@[simp] theorem edited_id (edit : TagEdit) (row : Channel) : (editedRow edit row).id = row.id := by
  unfold editedRow
  split <;> rfl

theorem recreate_abilities (numbered : Numbered tables) (edit : TagEdit) (id : Int) :
    abilitiesOf id
        (((tables.channels.map (editedRow edit)).filter fun row =>
          row.tag = some edit.updatedTag).foldl updateAbilities tables.abilities) =
      recreated ((tables.channels.map (editedRow edit)).filter fun row =>
        row.tag = some edit.updatedTag) tables.abilities id := by
  apply abilities_of_updates
  have ids : ((tables.channels.map (editedRow edit)).map Channel.id).Nodup := by
    rw [List.map_map, show Channel.id ∘ editedRow edit = Channel.id from funext (edited_id edit)]
    exact numbered.unique
  exact ids.sublist (List.filter_sublist.map _)

theorem recreate_mirrored_iff (numbered : Numbered tables) (mirrored : Mirrored tables)
    {edit : TagEdit} (recreates : edit.shouldReCreateAbilities = true) :
    Mirrored (editChannelByTag edit tables) ↔
      ∀ row ∈ tables.channels, (if row.tag = some edit.tag then KeysDistinct (edit.apply row)
        else row.tag = some edit.updatedTag → KeysDistinct row) := by
  have tablesAfter : editChannelByTag edit tables = { tables with
      channels := tables.channels.map (editedRow edit)
      abilities := ((tables.channels.map (editedRow edit)).filter fun row =>
        row.tag = some edit.updatedTag).foldl updateAbilities tables.abilities } := by
    simp only [editChannelByTag, recreates, if_true]
    rfl
  rw [tablesAfter, Mirrored]
  simp only [List.forall_mem_map, edited_id, recreate_abilities numbered]
  have unique : ((tables.channels.map (editedRow edit)).map Channel.id).Nodup := by
    rw [List.map_map, show Channel.id ∘ editedRow edit = Channel.id from funext (edited_id edit)]
    exact numbered.unique
  apply forall_congr'
  intro row
  apply forall_congr'
  intro member
  have edited : editedRow edit row ∈ tables.channels.map (editedRow edit) :=
    List.mem_map_of_mem member
  by_cases retagged : (editedRow edit row).tag = some edit.updatedTag
  · have inside : editedRow edit row ∈ (tables.channels.map (editedRow edit)).filter fun row =>
        row.tag = some edit.updatedTag := List.mem_filter.mpr ⟨edited, by simpa using retagged⟩
    have found := lookup_of_mem (unique.sublist (List.filter_sublist.map _)) inside
    rw [edited_id] at found
    rw [recreated, found]
    rw [created_mirror_iff]
    unfold editedRow at retagged ⊢
    split
    · exact Iff.rfl
    · rename_i other
      rw [if_neg other] at retagged
      exact (imp_iff_right retagged).symm
  · have untouched : editedRow edit row = row := by
      unfold editedRow at retagged ⊢
      split
      · rename_i tagged
        rw [if_pos tagged] at retagged
        exact absurd (apply_tag tagged) retagged
      · rfl
    have other : row.tag ≠ some edit.tag := by
      intro tagged
      apply retagged
      rw [editedRow, if_pos tagged]
      exact apply_tag tagged
    have absent : row.id ∉ ((tables.channels.map (editedRow edit)).filter fun row =>
        row.tag = some edit.updatedTag).map Channel.id := by
      intro inside
      obtain ⟨twin, held, same⟩ := List.mem_map.mp inside
      obtain ⟨listed, tagged⟩ := List.mem_filter.mp held
      have one : twin = editedRow edit row :=
        List.inj_on_of_nodup_map unique listed edited (same.trans (edited_id edit row).symm)
      rw [one] at tagged
      exact retagged (by simpa using tagged)
    rw [recreated_absent absent, untouched, if_neg other]
    rw [untouched] at retagged
    exact iff_of_true (mirrored row member) fun again => absurd again retagged

def editedAbility (edit : TagEdit) (ability : Ability) : Ability :=
  { ability with
    tag := edit.newTag.or ability.tag
    priority := edit.priority.or ability.priority
    weight := if edit.weight.getD 0 = 0 then ability.weight else edit.weight.getD 0 }

theorem abilities_of_map {change : Ability → Ability} (id : Int)
    (same : ∀ ability, (change ability).channelId = ability.channelId) :
    abilitiesOf id (abilities.map change) = (abilitiesOf id abilities).map change := by
  unfold abilitiesOf
  rw [List.filter_map]
  congr 1
  apply List.filter_congr
  intro ability _
  simp only [Function.comp_apply, same]

theorem tagged_abilities (tag : String)
    {change : Ability → Ability} (same : ∀ ability, (change ability).channelId = ability.channelId)
    (mirrors : Mirrors channel (abilitiesOf channel.id abilities)) :
    abilitiesOf channel.id (abilities.map fun ability =>
        if ability.tag = some tag then change ability else ability) =
      if channel.tag = some tag then (abilitiesOf channel.id abilities).map change
      else abilitiesOf channel.id abilities := by
  rw [abilities_of_map]
  · split
    · rename_i tagged
      apply List.map_congr_left
      intro ability member
      rw [if_pos ((mirrors.columns ability member).2.2.2.trans tagged)]
    · rename_i untagged
      refine (List.map_congr_left fun ability member => ?_).trans (List.map_id _)
      rw [if_neg fun tagged => untagged ((mirrors.columns ability member).2.2.2.symm.trans tagged), id]
  · intro ability
    split
    · exact same ability
    · rfl

theorem owned_abilities (owner id : Int)
    {change : Ability → Ability} (same : ∀ ability, (change ability).channelId = ability.channelId) :
    abilitiesOf id (abilities.map fun ability =>
        if ability.channelId = owner then change ability else ability) =
      if id = owner then (abilitiesOf id abilities).map change else abilitiesOf id abilities := by
  have mine : ∀ ability ∈ abilitiesOf id abilities, ability.channelId = id := fun ability member =>
    of_decide_eq_true (List.mem_filter.mp member).2
  rw [abilities_of_map]
  · split
    · rename_i here
      apply List.map_congr_left
      intro ability member
      rw [if_pos ((mine ability member).trans here)]
    · rename_i other
      refine (List.map_congr_left fun ability member => ?_).trans (List.map_id _)
      exact if_neg fun owned => other ((mine ability member).symm.trans owned)
  · intro ability
    split
    · exact same ability
    · rfl

theorem mirror_nonempty (mirrors : Mirrors channel mine) :
    ∃ ability, ability ∈ mine := by
  obtain ⟨group, groups, one⟩ :=
    List.exists_cons_of_ne_nil (GoText.split_ne_nil ',' channel.group)
  obtain ⟨model, models, other⟩ :=
    List.exists_cons_of_ne_nil (GoText.split_ne_nil ',' channel.models)
  have listed : group ∈ channel.groupNames ∧ model ∈ channel.modelNames := by
    rw [Channel.groupNames, Channel.modelNames, one, other]
    exact ⟨List.mem_cons_self .., List.mem_cons_self ..⟩
  obtain ⟨ability, member, -⟩ := List.mem_map.mp ((mirrors.pairs group model).mpr listed)
  exact ⟨ability, member⟩

theorem mirrors_map_iff
    {change : Ability → Ability} (mirrors : Mirrors channel mine)
    (groups : written.groupNames = channel.groupNames)
    (models : written.modelNames = channel.modelNames)
    (pairs : ∀ ability, Ability.pair (change ability) = Ability.pair ability) :
    Mirrors written (mine.map change) ↔ ∀ ability ∈ mine,
      (change ability).enabled = decide (written.status = .enabled) ∧
        (change ability).priority.getD 0 = written.getPriority ∧
          (change ability).weight = written.getWeight ∧ (change ability).tag = written.tag := by
  have same : (mine.map change).map Ability.pair = mine.map Ability.pair := by
    rw [List.map_map]
    exact List.map_congr_left fun ability _ => pairs ability
  constructor
  · intro after ability member
    exact after.columns _ (List.mem_map_of_mem member)
  · intro columns
    constructor
    case pairs =>
      intro group model
      rw [same, groups, models]
      exact mirrors.pairs group model
    case once =>
      rw [same]
      exact mirrors.once
    case columns =>
      intro written member
      obtain ⟨ability, held, rfl⟩ := List.mem_map.mp member
      exact columns ability held

theorem edited_mirror_iff {edit : TagEdit}
    (mirrors : Mirrors row mine) (tagged : row.tag = some edit.tag)
    (keeps : edit.shouldReCreateAbilities = false) :
    Mirrors (edit.apply row) (mine.map (editedAbility edit)) ↔
      (edit.weight = some 0 → row.getWeight = 0) := by
  simp only [TagEdit.shouldReCreateAbilities, Bool.or_eq_false_iff, Option.isSome_eq_false_iff,
    Option.isNone_iff_eq_none] at keeps
  have models : (edit.apply row).modelNames = row.modelNames := by
    simp only [Channel.modelNames, TagEdit.apply, keeps.1, Option.getD_none]
  have groups : (edit.apply row).groupNames = row.groupNames := by
    simp only [Channel.groupNames, TagEdit.apply, keeps.2, Option.getD_none]
  have pairs : ∀ ability, Ability.pair (editedAbility edit ability) = Ability.pair ability :=
    fun _ => rfl
  rw [mirrors_map_iff mirrors groups models pairs]
  have columns : ∀ ability ∈ mine,
      ((editedAbility edit ability).enabled = decide ((edit.apply row).status = .enabled) ∧
        (editedAbility edit ability).priority.getD 0 = (edit.apply row).getPriority ∧
          (editedAbility edit ability).weight = (edit.apply row).getWeight ∧
            (editedAbility edit ability).tag = (edit.apply row).tag) ↔
      (edit.weight = some 0 → row.getWeight = 0) := by
    intro ability member
    obtain ⟨enabled, priority, weight, tag⟩ := mirrors.columns ability member
    have sameTag : (editedAbility edit ability).tag = (edit.apply row).tag := by
      rw [apply_tag tagged]
      simp only [editedAbility, tag, tagged, TagEdit.updatedTag]
      cases edit.newTag <;> rfl
    have samePriority : (editedAbility edit ability).priority.getD 0 = (edit.apply row).getPriority := by
      simp only [editedAbility, TagEdit.apply, Channel.getPriority]
      cases edit.priority with
      | none => exact priority
      | some value => rfl
    simp only [sameTag, samePriority, and_true, true_and]
    have sameEnabled : (editedAbility edit ability).enabled =
        decide ((edit.apply row).status = .enabled) := enabled
    rw [and_iff_right sameEnabled]
    simp only [editedAbility, TagEdit.apply, Channel.getWeight, weight]
    cases edit.weight with
    | none => simp
    | some value =>
      by_cases zero : value = 0
      · simp [zero]
      · simp [zero]
  constructor
  · intro all
    obtain ⟨ability, member⟩ := mirror_nonempty mirrors
    exact (columns ability member).mp (all ability member)
  · intro kept ability member
    exact (columns ability member).mpr kept

theorem keep_mirrored_iff (mirrored : Mirrored tables)
    (keeps : edit.shouldReCreateAbilities = false) :
    Mirrored (editChannelByTag edit tables) ↔
      (edit.weight = some 0 → ∀ row ∈ tables.channels, row.tag = some edit.tag → row.getWeight = 0) := by
  have tablesAfter : editChannelByTag edit tables = { tables with
      channels := tables.channels.map (editedRow edit)
      abilities := tables.abilities.map fun ability =>
        if ability.tag = some edit.tag then editedAbility edit ability else ability } := by
    simp only [editChannelByTag, keeps, Bool.false_eq_true, if_false]
    rfl
  rw [tablesAfter, Mirrored]
  simp only [List.forall_mem_map, edited_id]
  have rows : ∀ row ∈ tables.channels,
      (Mirrors (editedRow edit row) (abilitiesOf row.id (tables.abilities.map fun ability =>
        if ability.tag = some edit.tag then editedAbility edit ability else ability)) ↔
      (row.tag = some edit.tag → edit.weight = some 0 → row.getWeight = 0)) := by
    intro row member
    have sameOwner : ∀ ability, (editedAbility edit ability).channelId = ability.channelId :=
      fun _ => rfl
    rw [tagged_abilities edit.tag sameOwner (mirrored row member), editedRow]
    by_cases tagged : row.tag = some edit.tag
    · rw [if_pos tagged, if_pos tagged, edited_mirror_iff (mirrored row member) tagged keeps]
      exact (imp_iff_right tagged).symm
    · rw [if_neg tagged, if_neg tagged]
      exact iff_of_true (mirrored row member) fun again => absurd again tagged
  constructor
  · intro after zero row member tagged
    exact (rows row member).mp (after row member) tagged zero
  · intro zero row member
    exact (rows row member).mpr fun tagged weight => zero weight row member tagged

theorem edit_numbered (numbered : Numbered tables) (edit : TagEdit) :
    Numbered (editChannelByTag edit tables) := by
  apply map_numbered numbered fun row _ => edited_id edit row
  split
  · apply recreated_owned _ numbered.owned (recreate_abilities numbered edit)
    intro row member
    obtain ⟨old, held, rfl⟩ := List.mem_map.mp (List.mem_filter.mp member).1
    rw [edited_id]
    exact numbered.below old held
  · intro ability member
    obtain ⟨old, held, rfl⟩ := List.mem_map.mp member
    have below := numbered.owned old held
    split <;> exact below

/-! ## Changes of status -/

theorem set_status_mirrored (mirrored : Mirrored tables) (tag : String) (status : ChannelStatus) :
    Mirrored (setStatusByTag tag status tables) := by
  intro row member
  obtain ⟨old, held, rfl⟩ := List.mem_map.mp member
  have sameOwner : ∀ ability : Ability,
      ({ ability with enabled := decide (status = .enabled) } : Ability).channelId =
        ability.channelId := fun _ => rfl
  have reached := tagged_abilities tag sameOwner (mirrored old held)
  by_cases tagged : old.tag = some tag
  · rw [if_pos tagged] at reached ⊢
    simp only [setStatusByTag, reached]
    refine (mirrors_map_iff (mirrored old held) ?_ ?_ ?_).mpr ?_
    · rfl
    · rfl
    · exact fun _ => rfl
    · intro ability mine
      obtain ⟨-, priority, weight, sameTag⟩ := (mirrored old held).columns ability mine
      exact ⟨rfl, priority, weight, sameTag⟩
  · rw [if_neg tagged] at reached ⊢
    simp only [setStatusByTag, reached]
    exact mirrored old held

theorem set_status_numbered (numbered : Numbered tables) (tag : String) (status : ChannelStatus) :
    Numbered (setStatusByTag tag status tables) := by
  apply map_numbered numbered
  · intro row _
    split <;> rfl
  · intro ability member
    obtain ⟨old, held, rfl⟩ := List.mem_map.mp member
    have below := numbered.owned old held
    split <;> exact below

theorem fresh_columns (call : StatusCall) (row : Channel) :
    (freshRow call row).models = row.models ∧ (freshRow call row).group = row.group ∧
      (freshRow call row).priority = row.priority ∧ (freshRow call row).weight = row.weight ∧
        (freshRow call row).tag = row.tag := by
  unfold freshRow updateRow
  split
  · rcases handler_cases row call.usingKey call.status call.reason call.storedAt with
      ⟨-, -, otherInfo, updated⟩ | ⟨-, -, -, updated⟩ | ⟨index, otherInfo, -, updated⟩ <;>
      dsimp only <;> rw [updated] <;> exact ⟨rfl, rfl, rfl, rfl, rfl⟩
  · exact ⟨rfl, rfl, rfl, rfl, rfl⟩

theorem change_status_mirrored (numbered : Numbered tables) (mirrored : Mirrored tables)
    (call : StatusCall) (stopped : Bool) : Mirrored (changeStatus call stopped tables) := by
  unfold changeStatus
  split
  · exact mirrored
  · let stored : StatusTables := { channels := tables.channels, abilities := tables.abilities }
    rcases stored_cases call stored with same | ⟨row, found, -, write⟩
    · rw [same]
      exact mirrored
    · intro channel member
      have ids := stored_same_ids call stored
      have unique : ((updateStored call stored).channels.map Channel.id).Nodup := by
        rw [ids]
        exact numbered.unique
      have here := lookup_of_mem unique member
      rw [write.rows] at here
      dsimp only
      rw [write.abilities]
      have before : row ∈ tables.channels := lookup_mem found
      have sameOwner : ∀ ability : Ability,
          ({ ability with enabled := decide (call.status = .enabled) } : Ability).channelId =
            ability.channelId := fun _ => rfl
      split at here
      · rename_i mine
        cases here
        obtain ⟨models, group, priority, weight, tag⟩ := fresh_columns call row
        have groups : (freshRow call row).groupNames = row.groupNames := by
          rw [Channel.groupNames, Channel.groupNames, group]
        have names : (freshRow call row).modelNames = row.modelNames := by
          rw [Channel.modelNames, Channel.modelNames, models]
        rw [mine]
        rcases fresh_follows call row with ⟨follows, enables⟩ | ⟨stays, unchanged⟩
        · rw [if_pos follows, updateAbilityStatus, owned_abilities row.id row.id sameOwner,
            if_pos rfl]
          have samePair : ∀ ability : Ability,
              Ability.pair { ability with enabled := decide (call.status = .enabled) } =
                Ability.pair ability := fun _ => rfl
          refine (mirrors_map_iff (mirrored row before) groups names samePair).mpr ?_
          intro ability held
          obtain ⟨-, samePriority, sameWeight, sameTag⟩ := (mirrored row before).columns ability held
          refine ⟨?_, ?_, ?_, sameTag.trans tag.symm⟩
          · simp only [enables]
          · rw [samePriority, Channel.getPriority, Channel.getPriority, priority]
          · rw [sameWeight, Channel.getWeight, Channel.getWeight, weight]
        · rw [if_neg (by simp [stays]), ← List.map_id (abilitiesOf row.id stored.abilities)]
          have samePair : ∀ ability : Ability, Ability.pair (id ability) = Ability.pair ability :=
            fun _ => rfl
          refine (mirrors_map_iff (mirrored row before) groups names samePair).mpr ?_
          intro ability held
          rw [unchanged, Channel.getPriority, Channel.getWeight, priority, weight, tag]
          exact (mirrored row before).columns ability held
      · rename_i other
        have kept : abilitiesOf channel.id
            (updateAbilityStatus row.id (decide (call.status = .enabled)) stored.abilities) =
            abilitiesOf channel.id stored.abilities := by
          rw [updateAbilityStatus, owned_abilities row.id channel.id sameOwner, if_neg other]
        split
        · rw [kept]
          exact mirrored channel (lookup_mem here)
        · exact mirrored channel (lookup_mem here)

theorem change_status_numbered (numbered : Numbered tables) (call : StatusCall) (stopped : Bool) :
    Numbered (changeStatus call stopped tables) := by
  unfold changeStatus
  split
  · exact numbered
  · let stored : StatusTables := { channels := tables.channels, abilities := tables.abilities }
    have ids := stored_same_ids call stored
    constructor
    case unique =>
      rw [ids]
      exact numbered.unique
    case below =>
      intro row member
      have inside : row.id ∈ tables.channels.map Channel.id := by
        rw [← ids]
        exact List.mem_map_of_mem member
      obtain ⟨old, held, same⟩ := List.mem_map.mp inside
      rw [← same]
      exact numbered.below old held
    case owned =>
      intro ability member
      have member : ability ∈ (updateStored call stored).abilities := member
      rcases stored_cases call stored with same | ⟨row, -, -, write⟩
      · rw [same] at member
        exact numbered.owned ability member
      · rw [write.abilities] at member
        split at member
        · obtain ⟨old, held, rfl⟩ := List.mem_map.mp member
          have below := numbered.owned old held
          split <;> exact below
        · exact numbered.owned ability member

theorem step_numbered (event : Event) (numbered : Numbered tables) : Numbered (step tables event) := by
  cases event with
  | insert channel => exact insert_numbered numbered channel
  | update patch noInfo => exact update_numbered numbered patch noInfo
  | editByTag edit => exact edit_numbered numbered edit
  | enableByTag tag => exact set_status_numbered numbered tag .enabled
  | disableByTag tag => exact set_status_numbered numbered tag .manuallyDisabled
  | changeStatus call stopped => exact change_status_numbered numbered call stopped
  | fixAbility => exact fix_numbered numbered

theorem step_mirrored_iff (event : Event) (numbered : Numbered tables) (mirrored : Mirrored tables) :
    Mirrored (step tables event) ↔ MirrorKept tables event := by
  cases event with
  | insert channel => exact insert_mirrored_iff numbered mirrored channel
  | update patch noInfo =>
    simp only [step, MirrorKept]
    cases found : lookup Channel.id tables.channels patch.id with
    | none =>
      have same : updateChannel patch noInfo tables = tables := by simp only [updateChannel, found]
      rw [same]
      exact iff_of_true mirrored fun _ missing => by cases missing
    | some row =>
      rw [update_mirrored_iff mirrored found]
      simp
  | editByTag edit =>
    simp only [step, MirrorKept]
    split
    · rename_i recreates
      exact recreate_mirrored_iff numbered mirrored recreates
    · rename_i keeps
      exact keep_mirrored_iff mirrored (by simpa using keeps)
  | enableByTag tag => exact iff_of_true (set_status_mirrored mirrored tag .enabled) trivial
  | disableByTag tag =>
    exact iff_of_true (set_status_mirrored mirrored tag .manuallyDisabled) trivial
  | changeStatus call stopped =>
    exact iff_of_true (change_status_mirrored numbered mirrored call stopped) trivial
  | fixAbility => exact fix_mirrored_iff numbered

end Writes

/-! ## Every run -/

/-- Over every run of writes from mirrored tables, the abilities mirror the
channels after every write exactly where each write keeps the mirror. -/
theorem abilities_mirror_iff (start : AbilityTables) (numbered : Numbered start)
    (mirrored : Mirrored start) (events : List Event) :
    (∀ done, done <+: events → Mirrored (run step start done)) ↔ Guarded step MirrorKept start events := by
  let ready : AbilityTables → Prop := fun tables => Numbered tables ∧ Mirrored tables
  have initially : ready start := ⟨numbered, mirrored⟩
  apply always_safe_iff_guarded _ _ events initially mirrored
  · intro tables event kept before
    exact ⟨step_numbered event before.1, (step_mirrored_iff event before.1 before.2).mpr kept⟩
  · intro tables event before
    exact step_mirrored_iff event before.1 before.2

def reweigh (weight : Nat) : List Event :=
  [.insert { id := 0, models := "m", group := "vip", weight := some 5, tag := some "t" },
    .editByTag { tag := "t", weight := some weight }]

theorem empty_numbered : Numbered {} where
  unique := List.nodup_nil
  below _ member := nomatch member
  owned _ member := nomatch member

theorem empty_mirrored : Mirrored {} := fun _ member => nomatch member

theorem zero_weight_not_mirrored :
    ¬ ∀ (start : AbilityTables), Numbered start → Mirrored start →
      ∀ events done, done <+: events → Mirrored (run step start done) := by
  intro always
  have mirrored := always {} empty_numbered empty_mirrored (reweigh 0) (reweigh 0) (List.prefix_refl _)
  have apart : ∃ channel ∈ (run step {} (reweigh 0)).channels,
      ∃ ability ∈ abilitiesOf channel.id (run step {} (reweigh 0)).abilities,
        ability.weight = 5 ∧ channel.getWeight = 0 := by
    decide +kernel
  obtain ⟨channel, member, ability, held, stale, zero⟩ := apart
  have same := ((mirrored channel member).columns ability held).2.2.1
  rw [stale, zero] at same
  cases same

theorem new_weight_mirrored :
    Guarded step MirrorKept {} (reweigh 3) ∧ ∀ done, done <+: reweigh 3 → Mirrored (run step {} done) := by
  have exactly := abilities_mirror_iff {} empty_numbered empty_mirrored (reweigh 3)
  suffices permitted : Guarded step MirrorKept {} (reweigh 3) by
    exact ⟨permitted, exactly.mpr permitted⟩
  refine ⟨?_, ?_, trivial⟩
  · show KeysDistinct _
    decide +kernel
  · rw [MirrorKept, if_neg (by decide)]
    intro zero
    cases zero

end NewApi.AbilityRows
