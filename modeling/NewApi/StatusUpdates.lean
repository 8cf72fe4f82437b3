import NewApi.ChannelCache

/-! Changes of the status of a channel or of one of its keys. The change is made
on the row in memory and again on the stored row, each from what it finds
there, and the abilities follow the stored row. -/
namespace NewApi.StatusUpdates
open NewApi.GuardedRun NewApi.KeyedTable NewApi.Channels
open NewApi.ChannelCache hiding step Event

/-! ## One row -/

/-- `model/channel.go::hasEnabledMultiKey`. -/
def hasEnabledMultiKey (keys : List String) (statusList : KeyMap ChannelStatus) : Bool :=
  (List.range keys.length).any fun (index : Nat) =>
    match statusList index with
    | none => true
    | some status => status = .enabled

def keyIndex (keys : List String) (usingKey : String) : Option Int :=
  (keys.findIdx? fun key => key = usingKey).map fun (index : Nat) => (index : Int)

def Channel.withReason (channel : Channel) (reason : String) (now : Int) : Channel :=
  { channel with otherInfo := { statusReason := some reason, statusTime := some now } }

def setKeyStatus (info : ChannelInfo) (index : Int) (status : ChannelStatus) (reason : String)
    (now : Int) : ChannelInfo :=
  if status = .enabled then
    { info with multiKeyStatusList := info.multiKeyStatusList.delete index }
  else { info with
    multiKeyStatusList := info.multiKeyStatusList.set index status
    multiKeyDisabledReason := info.multiKeyDisabledReason.set index reason
    multiKeyDisabledTime := info.multiKeyDisabledTime.set index now }

/-- `model/channel.go::handlerMultiKeyUpdate`. -/
def handlerMultiKeyUpdate (channel : Channel) (usingKey : String) (status : ChannelStatus)
    (reason : String) (now : Int) : Channel :=
  if channel.keys = [] then { channel with status := status }
  else match keyIndex channel.keys usingKey with
  | none =>
    if usingKey ≠ "" then channel
    else Channel.withReason { channel with status := status } reason now
  | some index =>
    let info := setKeyStatus channel.channelInfo index status reason now
    let channel := { channel with channelInfo := info }
    if !hasEnabledMultiKey channel.keys info.multiKeyStatusList then
      Channel.withReason { channel with status := .autoDisabled } "All keys are disabled" now
    else if status = .enabled then { channel with status := .enabled }
    else channel

def updateRow (channel : Channel) (usingKey : String) (status : ChannelStatus) (reason : String)
    (now : Int) : Channel × Bool :=
  if channel.channelInfo.isMultiKey then
    let updated := handlerMultiKeyUpdate channel usingKey status reason now
    (updated, channel.status ≠ updated.status)
  else (Channel.withReason { channel with status := status } reason now, true)

/-! ## The tables and the cache -/

structure StatusTables where
  channels : List Channel := []
  abilities : List Ability := []
  cache : Cache := {}

/-- `model/ability.go::UpdateAbilityStatus`. -/
def updateAbilityStatus (channelId : Int) (enabled : Bool) (abilities : List Ability) : List Ability :=
  abilities.map fun ability =>
    if ability.channelId = channelId then { ability with enabled := enabled } else ability

structure StatusCall where
  channelId : Int
  usingKey : String
  status : ChannelStatus
  reason : String := ""
  cachedAt : Int := 0
  storedAt : Int := 0

/-- `SaveWithoutKey`: the key column keeps what is stored. -/
def saveWithoutKey (channels : List Channel) (channel : Channel) : List Channel :=
  update Channel.id channels channel.id fun stored => { channel with keys := stored.keys }

/-- The part of `UpdateChannelStatus` on the database. -/
def updateStored (call : StatusCall) (tables : StatusTables) : StatusTables :=
  match lookup Channel.id tables.channels call.channelId with
  | none => tables
  | some channel =>
    if channel.status = call.status then tables
    else
      let (updated, follows) :=
        updateRow channel call.usingKey call.status call.reason call.storedAt
      { tables with
        channels := saveWithoutKey tables.channels updated
        abilities :=
          if follows then
            updateAbilityStatus call.channelId (call.status = .enabled) tables.abilities
          else tables.abilities }

/-- The part on the cache; `none` says that the call ends there. -/
def updateCached (call : StatusCall) (cache : Cache) : Option Cache :=
  match cache.channelsIDM call.channelId with
  | none => none
  | some channel =>
    if channel.channelInfo.isMultiKey then
      let updated :=
        handlerMultiKeyUpdate channel call.usingKey call.status call.reason call.cachedAt
      let cache := { cache with
        channelsIDM := Function.update cache.channelsIDM call.channelId (some updated) }
      if channel.status ≠ updated.status then
        some (cacheUpdateChannelStatus call.channelId updated.status cache)
      else some cache
    else if channel.status = call.status then none
    else some (cacheUpdateChannelStatus call.channelId call.status cache)

/-- `model/channel.go::UpdateChannelStatus` with the memory cache on. -/
def updateChannelStatus (tables : StatusTables) (call : StatusCall) : StatusTables :=
  match updateCached call tables.cache with
  | none => tables
  | some cache => updateStored call { tables with cache := cache }

/-! ## Consistency -/

/-- A row in memory says the same as its stored row of the channel's status, of
those of its keys, and of what these depend on. -/
structure SameStatus (stored cached : Channel) : Prop where
  status : cached.status = stored.status
  statusList : cached.channelInfo.multiKeyStatusList = stored.channelInfo.multiKeyStatusList
  isMultiKey : cached.channelInfo.isMultiKey = stored.channelInfo.isMultiKey
  keys : cached.keys = stored.keys

def CacheAgrees (tables : StatusTables) : Prop :=
  ∀ id, Option.Rel SameStatus (lookup Channel.id tables.channels id) (tables.cache.channelsIDM id)

def AbilitiesFollow (tables : StatusTables) : Prop :=
  ∀ ability ∈ tables.abilities, ∀ channel,
    lookup Channel.id tables.channels ability.channelId = some channel →
      ability.enabled = decide (channel.status = .enabled)

def AutoDisablesExhausted (before after : StatusTables) : Prop :=
  ∀ id row updated, lookup Channel.id before.channels id = some row →
    lookup Channel.id after.channels id = some updated → row.channelInfo.isMultiKey = true →
      row.status ≠ .autoDisabled → updated.status = .autoDisabled →
        hasEnabledMultiKey updated.keys updated.channelInfo.multiKeyStatusList = false

def EnablesKey (call : StatusCall) (before after : StatusTables) : Prop :=
  call.status = .enabled → ∀ row index,
    lookup Channel.id before.channels call.channelId = some row →
      row.channelInfo.isMultiKey = true → keyIndex row.keys call.usingKey = some index →
        (∃ stored, lookup Channel.id after.channels call.channelId = some stored ∧
          stored.getMultiKeyStatus index = .enabled) ∧
        ∃ cached, after.cache.channelsIDM call.channelId = some cached ∧
          cached.getMultiKeyStatus index = .enabled

structure CallConsistent (before : StatusTables) (call : StatusCall) : Prop where
  cache : CacheAgrees (updateChannelStatus before call)
  abilities : AbilitiesFollow (updateChannelStatus before call)
  exhausted : AutoDisablesExhausted before (updateChannelStatus before call)
  enables : EnablesKey call before (updateChannelStatus before call)

/-- Where a multi-key channel has the status that is asked for, the key has it
as well, and the channel none that is due; and no call without a key auto-disables
a channel that has an enabled one. -/
structure CallFits (channel : Channel) (call : StatusCall) : Prop where
  noChange : channel.status = call.status → ∀ index,
    keyIndex channel.keys call.usingKey = some index →
      if call.status = .enabled then channel.channelInfo.multiKeyStatusList index = none
      else channel.channelInfo.multiKeyStatusList index = some call.status ∧
        (hasEnabledMultiKey channel.keys channel.channelInfo.multiKeyStatusList = false →
          call.status = .autoDisabled)
  wholeChannel : call.status = .autoDisabled → channel.status ≠ .autoDisabled →
    call.usingKey = "" → keyIndex channel.keys "" = none →
      hasEnabledMultiKey channel.keys channel.channelInfo.multiKeyStatusList = false

def CallPermitted (tables : StatusTables) (call : StatusCall) : Prop :=
  ∀ channel, lookup Channel.id tables.channels call.channelId = some channel →
    channel.channelInfo.isMultiKey = true → CallFits channel call

/-! ## What the handler does -/

section Handler
variable {channel : Channel} {index : Int}
variable {status : ChannelStatus}
variable {statusList : KeyMap ChannelStatus}

theorem key_index_within (found : keyIndex keys usingKey = some index) :
    0 ≤ index ∧ index < keys.length := by
  obtain ⟨position, here, rfl⟩ := Option.map_eq_some_iff.mp found
  obtain ⟨inside, -⟩ := List.findIdx?_eq_some_iff_getElem.mp here
  omega

theorem has_enabled_iff : hasEnabledMultiKey keys statusList = true ↔
    ∃ index : Nat, index < keys.length ∧ (statusList index = none ∨ statusList index = some .enabled) := by
  unfold hasEnabledMultiKey
  rw [List.any_eq_true]
  apply exists_congr
  intro index
  rw [List.mem_range]
  apply and_congr_right
  intro _
  cases statusList index with
  | none | some => simp

theorem enabled_key_enabled (found : keyIndex keys usingKey = some index) :
    hasEnabledMultiKey keys (statusList.delete index) = true := by
  obtain ⟨low, high⟩ := key_index_within found
  apply has_enabled_iff.mpr
  refine ⟨index.toNat, by omega, .inl ?_⟩
  have same : ((index.toNat : Nat) : Int) = index := Int.toNat_of_nonneg low
  rw [same]
  exact Function.update_self ..

def statusAfterKey (channel : Channel) (statusList : KeyMap ChannelStatus)
    (status : ChannelStatus) : ChannelStatus :=
  if !hasEnabledMultiKey channel.keys statusList then .autoDisabled
  else if status = .enabled then .enabled
  else channel.status

theorem handler_cases (channel : Channel) (usingKey : String) (status : ChannelStatus)
    (reason : String) (now : Int) :
    let updated := handlerMultiKeyUpdate channel usingKey status reason now
    (keyIndex channel.keys usingKey = none ∧ (channel.keys = [] ∨ usingKey = "") ∧
        ∃ otherInfo, updated = { channel with status := status, otherInfo := otherInfo }) ∨
      (keyIndex channel.keys usingKey = none ∧ channel.keys ≠ [] ∧ usingKey ≠ "" ∧ updated = channel) ∨
      ∃ index otherInfo, keyIndex channel.keys usingKey = some index ∧
        updated = { channel with
          channelInfo := setKeyStatus channel.channelInfo index status reason now
          status := statusAfterKey channel
            (setKeyStatus channel.channelInfo index status reason now).multiKeyStatusList status
          otherInfo := otherInfo } := by
  unfold handlerMultiKeyUpdate statusAfterKey
  dsimp only
  split
  · rename_i empty
    refine .inl ⟨by rw [empty]; rfl, .inl empty, channel.otherInfo, rfl⟩
  · rename_i keyed
    split
    · rename_i missing
      split
      · rename_i named
        exact .inr (.inl ⟨missing, keyed, named, rfl⟩)
      · rename_i unnamed
        exact .inl ⟨missing, .inr (not_not.mp unnamed), _, rfl⟩
    · rename_i index found
      refine .inr (.inr ⟨index, ?_⟩)
      split
      · exact ⟨_, found, rfl⟩
      · split
        · exact ⟨_, found, rfl⟩
        · exact ⟨_, found, rfl⟩

theorem handler_frame (channel : Channel) (usingKey : String) (status : ChannelStatus)
    (reason : String) (now : Int) :
    let updated := handlerMultiKeyUpdate channel usingKey status reason now
    updated.id = channel.id ∧ updated.keys = channel.keys ∧
      updated.channelInfo.isMultiKey = channel.channelInfo.isMultiKey := by
  have key : ∀ index, (setKeyStatus channel.channelInfo index status reason now).isMultiKey =
      channel.channelInfo.isMultiKey := by
    intro index
    unfold setKeyStatus
    split <;> rfl
  rcases handler_cases channel usingKey status reason now with
    ⟨-, -, otherInfo, updated⟩ | ⟨-, -, -, updated⟩ | ⟨index, otherInfo, -, updated⟩ <;>
    dsimp only <;> rw [updated]
  · exact ⟨rfl, rfl, rfl⟩
  · exact ⟨rfl, rfl, rfl⟩
  · exact ⟨rfl, rfl, key index⟩

def statusListAfter (statusList : KeyMap ChannelStatus) (index : Int) (status : ChannelStatus) :
    KeyMap ChannelStatus :=
  if status = .enabled then statusList.delete index else statusList.set index status

theorem set_key_status_list (info : ChannelInfo) :
    (setKeyStatus info index status reason now).multiKeyStatusList =
      statusListAfter info.multiKeyStatusList index status := by
  unfold setKeyStatus statusListAfter
  split <;> rfl

theorem handler_same (same : SameStatus stored cached) :
    SameStatus (handlerMultiKeyUpdate stored usingKey status reason now)
      (handlerMultiKeyUpdate cached usingKey status reason' now') := by
  obtain ⟨storedId, storedKeys, storedMulti⟩ := handler_frame stored usingKey status reason now
  obtain ⟨cachedId, cachedKeys, cachedMulti⟩ := handler_frame cached usingKey status reason' now'
  have written : (handlerMultiKeyUpdate cached usingKey status reason' now').status =
        (handlerMultiKeyUpdate stored usingKey status reason now).status ∧
      (handlerMultiKeyUpdate cached usingKey status reason' now').channelInfo.multiKeyStatusList =
        (handlerMultiKeyUpdate stored usingKey status reason now).channelInfo.multiKeyStatusList := by
    rcases handler_cases stored usingKey status reason now with
        ⟨missing, whole, info, first⟩ | ⟨missing, keyed, named, first⟩ | ⟨index, info, found, first⟩ <;>
      rcases handler_cases cached usingKey status reason' now' with
        ⟨missing', whole', info', second⟩ | ⟨missing', keyed', named', second⟩ |
          ⟨index', info', found', second⟩ <;>
      rw [first, second]
    · exact ⟨rfl, same.statusList⟩
    · rw [same.keys] at keyed'
      exact absurd whole (not_or.mpr ⟨keyed', named'⟩)
    · rw [same.keys, missing] at found'
      cases found'
    · rw [same.keys] at whole'
      exact absurd whole' (not_or.mpr ⟨keyed, named⟩)
    · exact ⟨same.status, same.statusList⟩
    · rw [same.keys, missing] at found'
      cases found'
    · rw [same.keys, found] at missing'
      cases missing'
    · rw [same.keys, found] at missing'
      cases missing'
    · rw [same.keys, found] at found'
      cases found'
      simp only [set_key_status_list, same.statusList, statusAfterKey, same.keys, same.status, and_self]
  exact ⟨written.1, written.2, cachedMulti.trans (same.isMultiKey.trans storedMulti.symm),
    cachedKeys.trans (same.keys.trans storedKeys.symm)⟩

theorem handler_enables_iff
    (changed : (handlerMultiKeyUpdate channel usingKey status reason now).status ≠ channel.status) :
    (handlerMultiKeyUpdate channel usingKey status reason now).status = .enabled ↔ status = .enabled := by
  rcases handler_cases channel usingKey status reason now with
    ⟨-, -, otherInfo, updated⟩ | ⟨-, -, -, updated⟩ | ⟨index, otherInfo, found, updated⟩ <;>
    rw [updated] at changed ⊢
  · exact absurd rfl changed
  · simp only [set_key_status_list, statusAfterKey, statusListAfter] at changed ⊢
    by_cases enables : status = .enabled
    · simp [enables, enabled_key_enabled found]
    · grind

theorem handler_exhausts (before : channel.status ≠ .autoDisabled)
    (after : (handlerMultiKeyUpdate channel usingKey status reason now).status = .autoDisabled) :
    hasEnabledMultiKey (handlerMultiKeyUpdate channel usingKey status reason now).keys
        (handlerMultiKeyUpdate channel usingKey status reason now).channelInfo.multiKeyStatusList =
      false ∨ (status = .autoDisabled ∧ usingKey = "" ∧ keyIndex channel.keys usingKey = none ∧
        (handlerMultiKeyUpdate channel usingKey status reason now).channelInfo = channel.channelInfo) := by
  rcases handler_cases channel usingKey status reason now with
    ⟨missing, whole, otherInfo, updated⟩ | ⟨-, -, -, updated⟩ | ⟨index, otherInfo, found, updated⟩ <;>
    rw [updated] at after ⊢
  · rcases whole with empty | unnamed
    · left
      simp [hasEnabledMultiKey, empty]
    · exact .inr ⟨after, unnamed, missing, rfl⟩
  · exact absurd after before
  · left
    simp only [statusAfterKey] at after
    by_cases exhausted : hasEnabledMultiKey channel.keys
        (setKeyStatus channel.channelInfo index status reason now).multiKeyStatusList = true
    · rw [exhausted] at after
      grind
    · simpa using exhausted

theorem handler_idle_iff (usingKey reason : String) (now : Int) (asked : channel.status = status) :
    ((handlerMultiKeyUpdate channel usingKey status reason now).status = channel.status ∧
        (handlerMultiKeyUpdate channel usingKey status reason now).channelInfo.multiKeyStatusList =
          channel.channelInfo.multiKeyStatusList) ↔
      ∀ index, keyIndex channel.keys usingKey = some index →
        if status = .enabled then channel.channelInfo.multiKeyStatusList index = none
        else channel.channelInfo.multiKeyStatusList index = some status ∧
          (hasEnabledMultiKey channel.keys channel.channelInfo.multiKeyStatusList = false →
            status = .autoDisabled) := by
  rcases handler_cases channel usingKey status reason now with
    ⟨missing, -, otherInfo, updated⟩ | ⟨missing, -, -, updated⟩ | ⟨index, otherInfo, found, updated⟩ <;>
    rw [updated]
  · simp [missing, asked]
  · simp [missing]
  · simp only [found, Option.some.injEq, forall_eq', set_key_status_list]
    by_cases enables : status = .enabled
    · have kept : channel.channelInfo.multiKeyStatusList.delete index =
          channel.channelInfo.multiKeyStatusList ↔
          channel.channelInfo.multiKeyStatusList index = none := by
        rw [KeyMap.delete, Function.update_eq_self_iff, eq_comm]
      simp only [statusListAfter, enables, if_true, kept, statusAfterKey,
        enabled_key_enabled found, asked, Bool.not_true, Bool.false_eq_true, if_false, true_and]
    · have kept : channel.channelInfo.multiKeyStatusList.set index status =
          channel.channelInfo.multiKeyStatusList ↔
          channel.channelInfo.multiKeyStatusList index = some status := by
        rw [KeyMap.set, Function.update_eq_self_iff, eq_comm]
      simp only [statusListAfter, enables, if_false, kept, statusAfterKey, asked]
      constructor
      · rintro ⟨due, same⟩
        refine ⟨same, fun exhausted => ?_⟩
        rw [kept.mpr same, exhausted] at due
        simpa using due.symm
      · rintro ⟨same, due⟩
        refine ⟨?_, same⟩
        rw [kept.mpr same]
        split
        · rename_i exhausted
          exact (due (by simpa using exhausted)).symm
        · rfl

end Handler

/-! ## What a call does -/

section Calls
variable {call : StatusCall} {row : Channel} {id : Int}

def freshRow (call : StatusCall) (row : Channel) : Channel :=
  (updateRow row call.usingKey call.status call.reason call.storedAt).1

theorem fresh_frame (call : StatusCall) (row : Channel) :
    (freshRow call row).id = row.id ∧ (freshRow call row).keys = row.keys ∧
      (freshRow call row).channelInfo.isMultiKey = row.channelInfo.isMultiKey := by
  unfold freshRow updateRow
  split
  · exact handler_frame row call.usingKey call.status call.reason call.storedAt
  · exact ⟨rfl, rfl, rfl⟩

theorem fresh_follows (call : StatusCall) (row : Channel) :
    ((updateRow row call.usingKey call.status call.reason call.storedAt).2 = true ∧
        ((freshRow call row).status = .enabled ↔ call.status = .enabled)) ∨
      ((updateRow row call.usingKey call.status call.reason call.storedAt).2 = false ∧
        (freshRow call row).status = row.status) := by
  unfold freshRow updateRow
  split
  · dsimp only
    by_cases changed : (handlerMultiKeyUpdate row call.usingKey call.status call.reason
        call.storedAt).status = row.status
    · exact .inr ⟨by simp [changed], changed⟩
    · exact .inl ⟨by simpa using Ne.symm changed, handler_enables_iff changed⟩
  · exact .inl ⟨rfl, Iff.rfl⟩

theorem save_without_key_lookup
    (found : lookup Channel.id channels row.id = some row) (sameId : fresh.id = row.id)
    (sameKeys : fresh.keys = row.keys) (id : Int) :
    lookup Channel.id (saveWithoutKey channels fresh) id =
      if id = row.id then some fresh else lookup Channel.id channels id := by
  have columns : saveWithoutKey channels fresh = update Channel.id channels row.id
      fun stored => { fresh with id := stored.id, keys := stored.keys } := by
    unfold saveWithoutKey update
    apply List.map_congr_left
    intro stored _
    rw [sameId]
    split
    · rename_i here
      simp only [here]
    · rfl
  have kept : ∀ stored : Channel,
      ({ fresh with id := stored.id, keys := stored.keys } : Channel).id = stored.id := fun _ => rfl
  rw [columns, lookup_update channels row.id id _ kept]
  split
  · rename_i here
    rw [here, found, Option.map_some, ← sameId, ← sameKeys]
  · rfl

/-- What a call writes to the database, where the status of the channel does
not stop it. -/
structure StoredWrite (call : StatusCall) (row : Channel) (before after : StatusTables) : Prop where
  rows : ∀ id, lookup Channel.id after.channels id =
    if id = row.id then some (freshRow call row) else lookup Channel.id before.channels id
  abilities : after.abilities =
    if (updateRow row call.usingKey call.status call.reason call.storedAt).2 then
      updateAbilityStatus row.id (call.status = .enabled) before.abilities
    else before.abilities

theorem stored_idle (found : lookup Channel.id tables.channels call.channelId = some row)
    (asked : row.status = call.status) : updateStored call tables = tables := by
  simp only [updateStored, found, asked, if_true]

theorem stored_write (found : lookup Channel.id tables.channels call.channelId = some row)
    (asks : row.status ≠ call.status) :
    StoredWrite call row tables (updateStored call tables) := by
  have here : row.id = call.channelId := lookup_key found
  simp only [updateStored, found, asks, if_false]
  constructor
  · obtain ⟨sameId, sameKeys, -⟩ := fresh_frame call row
    have stored : lookup Channel.id tables.channels row.id = some row := by rw [here]; exact found
    exact save_without_key_lookup stored sameId sameKeys
  · rw [here]

theorem stored_same_ids (call : StatusCall) (tables : StatusTables) :
    (updateStored call tables).channels.map Channel.id = tables.channels.map Channel.id := by
  unfold updateStored
  split
  · rfl
  · split
    · rfl
    · rename_i row _ _
      dsimp only [saveWithoutKey, update]
      rw [List.map_map]
      apply List.map_congr_left
      intro stored _
      simp only [Function.comp_apply]
      split
      · rename_i here
        exact here.symm
      · rfl

theorem stored_cases (call : StatusCall) (tables : StatusTables) :
    updateStored call tables = tables ∨
      ∃ row, lookup Channel.id tables.channels call.channelId = some row ∧
        row.status ≠ call.status ∧ StoredWrite call row tables (updateStored call tables) := by
  cases found : lookup Channel.id tables.channels call.channelId with
  | none => exact .inl (by simp only [updateStored, found])
  | some row =>
    by_cases asked : row.status = call.status
    · exact .inl (stored_idle found asked)
    · exact .inr ⟨row, rfl, asked, stored_write found asked⟩

theorem call_effect (found : lookup Channel.id tables.channels call.channelId = some row)
    (held : tables.cache.channelsIDM call.channelId = some twin) (same : SameStatus row twin)
    (moves : row.channelInfo.isMultiKey = true ∨ row.status ≠ call.status) :
    ∃ written, SameStatus (freshRow call row) written ∧
      (updateChannelStatus tables call).cache.channelsIDM =
        Function.update tables.cache.channelsIDM row.id (some written) ∧
      ((row.status = call.status ∧
          (updateChannelStatus tables call).channels = tables.channels ∧
          (updateChannelStatus tables call).abilities = tables.abilities) ∨
        (row.status ≠ call.status ∧ StoredWrite call row tables (updateChannelStatus tables call))) := by
  have here : row.id = call.channelId := lookup_key found
  have cached : ∃ written cache, SameStatus (freshRow call row) written ∧
      updateCached call tables.cache = some cache ∧
      cache.channelsIDM = Function.update tables.cache.channelsIDM row.id (some written) := by
    unfold updateCached freshRow updateRow
    simp only [held, same.isMultiKey, same.status, here]
    by_cases multi : row.channelInfo.isMultiKey = true
    · simp only [multi, if_true]
      have twins : SameStatus
          (handlerMultiKeyUpdate row call.usingKey call.status call.reason call.storedAt)
          (handlerMultiKeyUpdate twin call.usingKey call.status call.reason call.cachedAt) :=
        handler_same same
      generalize handlerMultiKeyUpdate twin call.usingKey call.status call.reason call.cachedAt =
        written at twins ⊢
      refine ⟨written, ?_⟩
      split
      · refine ⟨_, twins, rfl, ?_⟩
        simp only [cacheUpdateChannelStatus, Function.update_self, Function.update_idem]
      · exact ⟨_, twins, rfl, rfl⟩
    · have changes := moves.resolve_left multi
      simp only [multi, Bool.false_eq_true, if_false, if_neg changes]
      refine ⟨{ twin with status := call.status }, _, ?_, rfl, ?_⟩
      · exact ⟨rfl, same.statusList, same.isMultiKey, same.keys⟩
      · simp only [cacheUpdateChannelStatus, held]
  obtain ⟨written, cache, twins, updated, map⟩ := cached
  refine ⟨written, twins, ?_⟩
  let opened : StatusTables := { tables with cache := cache }
  have read : lookup Channel.id opened.channels call.channelId = some row := found
  have stored : updateChannelStatus tables call = updateStored call opened := by
    simp only [updateChannelStatus, updated, opened]
  have sameCache : (updateStored call opened).cache = cache := by
    simp only [updateStored, read]
    split <;> rfl
  refine ⟨by rw [stored, sameCache, map], ?_⟩
  rw [stored]
  by_cases asked : row.status = call.status
  · rw [stored_idle read asked]
    exact .inl ⟨asked, rfl, rfl⟩
  · have write := stored_write read asked
    exact .inr ⟨asked, write.rows, write.abilities⟩

theorem call_idle
    (idle : tables.cache.channelsIDM call.channelId = none ∨
      ∃ twin, tables.cache.channelsIDM call.channelId = some twin ∧
        twin.channelInfo.isMultiKey = false ∧ twin.status = call.status) :
    updateChannelStatus tables call = tables := by
  have stops : updateCached call tables.cache = none := by
    unfold updateCached
    rcases idle with missing | ⟨twin, held, single, asked⟩
    · rw [missing]
    · simp [held, single, asked]
  rw [updateChannelStatus, stops]

theorem idle_consistent (agrees : CacheAgrees tables) (follow : AbilitiesFollow tables)
    (single : ∀ row, lookup Channel.id tables.channels call.channelId = some row →
      row.channelInfo.isMultiKey = false)
    (idle : updateChannelStatus tables call = tables) : CallConsistent tables call := by
  constructor
  case cache =>
    rw [idle]
    exact agrees
  case abilities =>
    rw [idle]
    exact follow
  case exhausted =>
    rw [idle]
    intro id row updated found again _ before after
    rw [found] at again
    cases again
    exact absurd after before
  case enables =>
    intro _ row index found multi
    rw [single row found] at multi
    cases multi

theorem moved_agrees_iff (agrees : CacheAgrees tables)
    (map : after.cache.channelsIDM = Function.update tables.cache.channelsIDM row.id (some twin))
    (rows : ∀ id, lookup Channel.id after.channels id =
      if id = row.id then some stored else lookup Channel.id tables.channels id) :
    CacheAgrees after ↔ SameStatus stored twin := by
  constructor
  · intro agree
    have here := agree row.id
    rw [rows, if_pos rfl, map, Function.update_self] at here
    cases here with
    | some same => exact same
  · intro same id
    rw [rows, map]
    by_cases here : id = row.id
    · rw [if_pos here, here, Function.update_self]
      exact .some same
    · rw [if_neg here, Function.update_of_ne here]
      exact agrees id

theorem stored_write_follow (follow : AbilitiesFollow tables)
    (found : lookup Channel.id tables.channels row.id = some row)
    (write : StoredWrite call row tables after) : AbilitiesFollow after := by
  intro ability member channel stored
  rw [write.rows] at stored
  rw [write.abilities] at member
  rcases fresh_follows call row with ⟨follows, enables⟩ | ⟨stays, unchanged⟩
  · rw [if_pos follows] at member
    obtain ⟨old, held, rfl⟩ := List.mem_map.mp member
    by_cases mine : old.channelId = row.id
    · simp only [mine, if_true, Option.some.injEq] at stored ⊢
      rw [← stored]
      simp only [enables]
    · simp only [mine, if_false] at stored ⊢
      exact follow old held channel stored
  · rw [if_neg (by simp [stays])] at member
    split at stored
    · rename_i mine
      cases stored
      rw [unchanged]
      exact follow ability member row (by rw [mine]; exact found)
    · exact follow ability member channel stored

theorem permitted_iff (found : lookup Channel.id tables.channels call.channelId = some row) :
    CallPermitted tables call ↔ (row.channelInfo.isMultiKey = true → CallFits row call) := by
  unfold CallPermitted
  simp only [found, Option.some.injEq, forall_eq']

theorem fresh_handled (multi : row.channelInfo.isMultiKey = true) :
    freshRow call row = handlerMultiKeyUpdate row call.usingKey call.status call.reason call.storedAt := by
  rw [freshRow, updateRow, if_pos multi]

theorem stopped_agrees_iff (asked : row.status = call.status)
    (multi : row.channelInfo.isMultiKey = true) (twins : SameStatus (freshRow call row) twin) :
    SameStatus row twin ↔ CallFits row call := by
  obtain ⟨-, sameKeys, sameMulti⟩ := fresh_frame call row
  have idle := handler_idle_iff call.usingKey call.reason call.storedAt asked
  rw [← fresh_handled multi] at idle
  constructor
  · intro match_
    constructor
    case noChange =>
      intro _
      apply idle.mp
      exact ⟨twins.status.symm.trans match_.status, twins.statusList.symm.trans match_.statusList⟩
    case wholeChannel =>
      intro whole other
      exact absurd (asked.trans whole) other
  · intro fits
    obtain ⟨status, statusList⟩ := idle.mpr (fits.noChange asked)
    exact ⟨twins.status.trans status, twins.statusList.trans statusList,
      twins.isMultiKey.trans sameMulti, twins.keys.trans sameKeys⟩

theorem stopped_consistent_iff (agrees : CacheAgrees tables) (follow : AbilitiesFollow tables)
    (found : lookup Channel.id tables.channels call.channelId = some row)
    (asked : row.status = call.status) (multi : row.channelInfo.isMultiKey = true)
    (twins : SameStatus (freshRow call row) twin)
    (map : (updateChannelStatus tables call).cache.channelsIDM =
      Function.update tables.cache.channelsIDM row.id (some twin))
    (rows : (updateChannelStatus tables call).channels = tables.channels)
    (abilities : (updateChannelStatus tables call).abilities = tables.abilities) :
    CallConsistent tables call ↔ CallFits row call := by
  have here : row.id = call.channelId := lookup_key found
  have stored : lookup Channel.id tables.channels row.id = some row := by rw [here]; exact found
  have unmoved : ∀ id, lookup Channel.id (updateChannelStatus tables call).channels id =
      if id = row.id then some row else lookup Channel.id tables.channels id := by
    intro id
    rw [rows]
    split
    · rename_i mine
      rw [mine, stored]
    · rfl
  have agree_iff := (moved_agrees_iff agrees map unmoved).trans
    (stopped_agrees_iff asked multi twins)
  constructor
  · exact fun consistent => agree_iff.mp consistent.cache
  · intro fits
    constructor
    case cache => exact agree_iff.mpr fits
    case abilities =>
      intro ability member channel found
      rw [abilities] at member
      rw [rows] at found
      exact follow ability member channel found
    case exhausted =>
      intro id old updated before after _ live disabled
      rw [rows, before] at after
      cases after
      exact absurd disabled live
    case enables =>
      intro enables old index before _ key
      rw [found] at before
      cases before
      have available := fits.noChange asked index key
      rw [if_pos enables] at available
      refine ⟨⟨row, by rw [rows]; exact found, ?_⟩, twin, ?_, ?_⟩
      · simp [Channel.getMultiKeyStatus, available]
      · rw [map, here, Function.update_self]
      · have match_ := (stopped_agrees_iff asked multi twins).mpr fits
        simp [Channel.getMultiKeyStatus, match_.statusList, available]

theorem enabling_clears_key (multi : row.channelInfo.isMultiKey = true)
    (enables : call.status = .enabled) (key : keyIndex row.keys call.usingKey = some index) :
    (freshRow call row).channelInfo.multiKeyStatusList index = none := by
  rw [fresh_handled multi]
  rcases handler_cases row call.usingKey call.status call.reason call.storedAt with
    ⟨missing, -⟩ | ⟨missing, -⟩ | ⟨other, otherInfo, matched, updated⟩
  · rw [missing] at key
    cases key
  · rw [missing] at key
    cases key
  · rw [matched] at key
    cases key
    rw [updated]
    dsimp only
    rw [set_key_status_list, statusListAfter, if_pos enables]
    exact Function.update_self ..

theorem written_consistent_iff (agrees : CacheAgrees tables) (follow : AbilitiesFollow tables)
    (found : lookup Channel.id tables.channels call.channelId = some row)
    (asks : row.status ≠ call.status) (twins : SameStatus (freshRow call row) twin)
    (map : (updateChannelStatus tables call).cache.channelsIDM =
      Function.update tables.cache.channelsIDM row.id (some twin))
    (write : StoredWrite call row tables (updateChannelStatus tables call)) :
    CallConsistent tables call ↔ (row.channelInfo.isMultiKey = true → CallFits row call) := by
  obtain ⟨sameId, sameKeys, sameMulti⟩ := fresh_frame call row
  have here : row.id = call.channelId := lookup_key found
  have stored : lookup Channel.id tables.channels row.id = some row := by rw [here]; exact found
  constructor
  · intro consistent multi
    constructor
    case noChange => exact fun asked => absurd asked asks
    case wholeChannel =>
      intro auto live unnamed unmatched
      have exhausted := consistent.exhausted row.id row (freshRow call row) stored
        (by rw [write.rows, if_pos rfl]) multi live
      rw [fresh_handled multi] at exhausted
      rcases handler_cases row call.usingKey call.status call.reason call.storedAt with
        ⟨-, -, otherInfo, updated⟩ | ⟨-, -, named, -⟩ | ⟨index, otherInfo, matched, -⟩
      · rw [updated] at exhausted
        exact exhausted auto
      · exact absurd unnamed named
      · rw [unnamed, unmatched] at matched
        cases matched
  · intro permitted
    constructor
    case cache => exact (moved_agrees_iff agrees map write.rows).mpr twins
    case abilities => exact stored_write_follow follow stored write
    case exhausted =>
      intro id old updated before after multi live disabled
      rw [write.rows] at after
      split at after
      · rename_i mine
        rw [mine, stored] at before
        cases before
        cases after
        rw [fresh_handled multi] at disabled ⊢
        rcases handler_exhausts live disabled with exhausted | ⟨auto, unnamed, unmatched, unmoved⟩
        · exact exhausted
        · rw [unmoved, ← fresh_handled multi, sameKeys]
          exact (permitted multi).wholeChannel auto live unnamed (by rw [← unnamed]; exact unmatched)
      · rw [before] at after
        cases after
        exact absurd disabled live
    case enables =>
      intro enables old index before multi key
      rw [found] at before
      cases before
      have available := enabling_clears_key multi enables key
      refine ⟨⟨freshRow call row, ?_, ?_⟩, twin, ?_, ?_⟩
      · rw [write.rows, if_pos here.symm]
      · simp [Channel.getMultiKeyStatus, available]
      · rw [map, here, Function.update_self]
      · simp [Channel.getMultiKeyStatus, twins.statusList, available]

theorem moved_consistent_iff (agrees : CacheAgrees tables) (follow : AbilitiesFollow tables)
    (found : lookup Channel.id tables.channels call.channelId = some row)
    (held : tables.cache.channelsIDM call.channelId = some twin) (same : SameStatus row twin)
    (moves : row.channelInfo.isMultiKey = true ∨ row.status ≠ call.status) :
    CallConsistent tables call ↔ CallPermitted tables call := by
  obtain ⟨written, twins, map, effect⟩ := call_effect found held same moves
  rw [permitted_iff found]
  rcases effect with ⟨asked, rows, abilities⟩ | ⟨asks, write⟩
  · have multi : row.channelInfo.isMultiKey = true := moves.resolve_right (not_not.mpr asked)
    rw [stopped_consistent_iff agrees follow found asked multi twins map rows abilities]
    exact ⟨fun fits _ => fits, fun fits => fits multi⟩
  · exact written_consistent_iff agrees follow found asks twins map write

theorem call_consistent_iff (agrees : CacheAgrees tables) (follow : AbilitiesFollow tables) :
    CallConsistent tables call ↔ CallPermitted tables call := by
  have related := agrees call.channelId
  generalize held : tables.cache.channelsIDM call.channelId = cached at related
  generalize found : lookup Channel.id tables.channels call.channelId = stored at related
  cases related with
  | none =>
    refine ⟨fun _ row stored => ?_, fun _ => ?_⟩
    · rw [found] at stored
      cases stored
    · apply idle_consistent agrees follow _ (call_idle (.inl held))
      intro row stored
      rw [found] at stored
      cases stored
  | @some row twin same =>
    by_cases moves : row.channelInfo.isMultiKey = true ∨ row.status ≠ call.status
    · exact moved_consistent_iff agrees follow found held same moves
    · obtain ⟨single, asked⟩ := not_or.mp moves
      have idle : updateChannelStatus tables call = tables := by
        apply call_idle (.inr ⟨twin, held, ?_, ?_⟩)
        · rw [same.isMultiKey]
          simpa using single
        · rw [same.status]
          exact not_not.mp asked
      refine ⟨fun _ other stored multi => ?_, fun _ => ?_⟩
      · rw [found] at stored
        cases stored
        exact absurd multi single
      · apply idle_consistent agrees follow _ idle
        intro other stored
        rw [found] at stored
        cases stored
        simpa using single

theorem named_call_permitted (named : call.usingKey ≠ "")
    (other : ∀ row, lookup Channel.id tables.channels call.channelId = some row →
      row.status ≠ call.status) : CallPermitted tables call := by
  intro row found _
  constructor
  case noChange => exact fun asked => absurd asked (other row found)
  case wholeChannel => exact fun _ _ unnamed => absurd unnamed named

theorem call_cache_kept (consistent : CallConsistent tables call) :
    CacheAgrees (updateChannelStatus tables call) ∧ AbilitiesFollow (updateChannelStatus tables call) :=
  ⟨consistent.cache, consistent.abilities⟩

end Calls

/-! ## Every run -/

/-- Over every run of calls from a consistent state, every call leaves the
database, the cache and the abilities consistent exactly where each of them is
permitted. -/
theorem status_calls_consistent_iff (start : StatusTables) (agrees : CacheAgrees start)
    (follow : AbilitiesFollow start) (calls : List StatusCall) :
    (∀ done call, done ++ [call] <+: calls →
        CallConsistent (run updateChannelStatus start done) call) ↔
      Guarded updateChannelStatus CallPermitted start calls := by
  let consistent : StatusTables → Prop := fun tables =>
    CacheAgrees tables ∧ AbilitiesFollow tables
  have initially : consistent start := ⟨agrees, follow⟩
  apply steps_safe_iff_guarded _ _ calls initially
  · intro tables call permitted consistent
    exact call_cache_kept ((call_consistent_iff consistent.1 consistent.2).mpr permitted)
  · intro tables call consistent
    exact call_consistent_iff consistent.1 consistent.2

def twoKeys : Channel where
  id := 1
  keys := ["sk-a", "sk-b"]
  models := "m"
  channelInfo := { isMultiKey := true, multiKeySize := 2 }

def twoKeyTables : StatusTables where
  channels := [twoKeys]
  abilities := [⟨"default", "m", 1, true, some 0, 0, none⟩]
  cache := { channelsIDM := fun id => if id = 1 then some twoKeys else none }

theorem two_keys_agree : CacheAgrees twoKeyTables := by
  intro id
  by_cases first : id = 1
  · rw [first]
    exact .some ⟨rfl, rfl, rfl, rfl⟩
  · have missing : lookup Channel.id twoKeyTables.channels id = none := by
      simpa [lookup, twoKeyTables, twoKeys] using Ne.symm first
    have uncached : twoKeyTables.cache.channelsIDM id = none := if_neg first
    rw [missing, uncached]
    exact .none

theorem two_keys_follow : AbilitiesFollow twoKeyTables := by
  intro ability member channel found
  rw [List.mem_singleton.mp member] at found ⊢
  have same : some twoKeys = some channel := found
  cases same
  rfl

def disableThenEnable : List StatusCall :=
  [{ channelId := 1, usingKey := "sk-a", status := .autoDisabled },
    { channelId := 1, usingKey := "sk-a", status := .enabled }]

theorem enabled_key_stays_disabled :
    ¬ ∀ (start : StatusTables), CacheAgrees start → AbilitiesFollow start →
      ∀ calls done call, done ++ [call] <+: calls →
        CallConsistent (run updateChannelStatus start done) call := by
  intro always
  have consistent := always twoKeyTables two_keys_agree two_keys_follow disableThenEnable
    (disableThenEnable.take 1) { channelId := 1, usingKey := "sk-a", status := .enabled }
    (List.prefix_refl _)
  have agree := consistent.cache 1
  have stored : (lookup Channel.id (run updateChannelStatus twoKeyTables disableThenEnable).channels
      1).map (fun channel => channel.channelInfo.multiKeyStatusList 0) = some (some .autoDisabled) := by
    decide +kernel
  have cached : ((run updateChannelStatus twoKeyTables disableThenEnable).cache.channelsIDM 1).map
      (fun channel => channel.channelInfo.multiKeyStatusList 0) = some none := by
    decide +kernel
  obtain ⟨row, found, disabled⟩ := Option.map_eq_some_iff.mp stored
  obtain ⟨twin, held, enabled⟩ := Option.map_eq_some_iff.mp cached
  have agree : Option.Rel SameStatus
      (lookup Channel.id (run updateChannelStatus twoKeyTables disableThenEnable).channels 1)
      ((run updateChannelStatus twoKeyTables disableThenEnable).cache.channelsIDM 1) := agree
  rw [found, held] at agree
  cases agree with
  | some same =>
    rw [same.statusList, disabled] at enabled
    cases enabled

def disableAllThenEnable : List StatusCall :=
  [{ channelId := 1, usingKey := "sk-a", status := .autoDisabled },
    { channelId := 1, usingKey := "sk-b", status := .autoDisabled },
    { channelId := 1, usingKey := "sk-a", status := .enabled }]

theorem exhausted_channel_recovers :
    Guarded updateChannelStatus CallPermitted twoKeyTables disableAllThenEnable ∧
      ∀ done call, done ++ [call] <+: disableAllThenEnable →
        CallConsistent (run updateChannelStatus twoKeyTables done) call := by
  have exactly := status_calls_consistent_iff twoKeyTables two_keys_agree two_keys_follow
    disableAllThenEnable
  suffices permitted : Guarded updateChannelStatus CallPermitted twoKeyTables disableAllThenEnable by
    exact ⟨permitted, exactly.mpr permitted⟩
  have other : ∀ (tables : StatusTables) (call : StatusCall) status,
      (lookup Channel.id tables.channels 1).map Channel.status = some status →
        status ≠ call.status → call.channelId = 1 → ∀ row,
        lookup Channel.id tables.channels call.channelId = some row → row.status ≠ call.status := by
    intro tables call status known differs here row found
    rw [here] at found
    rw [found] at known
    cases known
    exact differs
  refine ⟨?_, ?_, ?_, trivial⟩
  · apply named_call_permitted (by decide)
    exact other _ _ .enabled (by decide +kernel) (by decide) rfl
  · apply named_call_permitted (by decide)
    exact other _ _ .enabled (by decide +kernel) (by decide) rfl
  · apply named_call_permitted (by decide)
    exact other _ _ .autoDisabled (by decide +kernel) (by decide) rfl

end NewApi.StatusUpdates
