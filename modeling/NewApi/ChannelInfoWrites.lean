import NewApi.AbilityRows

/-! The usage, the statuses and the limits of the keys of a channel are one
column, which every operation reads, changes in memory and writes in full. Some
hold the polling lock from the read to the write, some take it after the read,
and one writes without it. Where no operation writes back what another has
changed since, the keys of the channel are what the operations make of them one
after another. -/
namespace NewApi.ChannelInfoWrites
open NewApi.GuardedRun NewApi.Channels
open NewApi.StatusUpdates (updateRow keyIndex handlerMultiKeyUpdate setKeyStatus)
open NewApi.AbilityRows (updatesRow fitKeys keepBelow)

/-! ## Operations -/

/-- The operations on the keys of a channel. The last ones are the actions of
`ManageMultiKeys`; `bindings` counts the tokens that are bound to a key, unless
the query fails. -/
inductive Operation where
  | incrementUsedCount (keyIndex count : Int)
  | incrementUsedQuota (keyIndex quota : Int)
  | updateStatus (usingKey : String) (status : ChannelStatus) (reason : String) (now : Int)
  | getNextEnabledKey (memoryCacheEnabled : Bool)
  | disableKey (keyIndex : Option Int)
  | enableKey (keyIndex : Option Int)
  | enableAllKeys
  | disableAllKeys
  | setKeyRequestLimit (keyIndex maxRequestCount : Option Int)
  | deleteKey (keyIndex : Option Int) (bindings : Option (Int → Int))
  | deleteDisabledKeys (bindings : Option (Int → Int))

def Operation.locksRead : Operation → Bool
  | .incrementUsedCount keyIndex amount | .incrementUsedQuota keyIndex amount =>
    keyIndex ≥ 0 && amount ≠ 0
  | _ => false

/-- `GetNextEnabledKey` and `ManageMultiKeys` take the lock after the read. -/
def Operation.locksWrite : Operation → Bool
  | .incrementUsedCount .. | .incrementUsedQuota .. | .updateStatus .. => false
  | _ => true

def addEntry (map : KeyMap Int) (index amount : Int) : KeyMap Int :=
  map.set index ((map index).getD 0 + amount)

/-- `model/channel.go::incrementChannelMultiKeyUsedCount`, and the same for the
quota: the column that is written. -/
def increment (index amount : Int) (change : ChannelInfo → ChannelInfo) (held stored : Channel) :
    Option Channel :=
  if index < 0 ∨ amount = 0 then none
  else if !held.channelInfo.isMultiKey then none
  else some { stored with channelInfo := change held.channelInfo }

def nextCursor (held : Channel) (start : Int) : Int :=
  let size : Int := held.keys.length
  let start := if start < 0 ∨ start ≥ size then 0 else start
  let next := (List.range held.keys.length).find? fun step =>
    held.isSpecificKeyAvailable ((start + step) % size)
  match next with
  | some step => ((start + step) % size + 1) % size
  | none => held.channelInfo.multiKeyPollingIndex

/-- `model/channel.go::GetNextEnabledKey`, what it saves: without the memory
cache the cursor, in the row that the caller has read. The start is read again,
under the lock. -/
def saveCursor (memoryCacheEnabled : Bool) (held stored : Channel) : Option Channel :=
  if !held.channelInfo.isMultiKey || held.keys = [] then none
  else if !(List.range held.keys.length).any fun index =>
      held.isSpecificKeyAvailable (index : Int) then none
  else match held.channelInfo.multiKeyMode with
  | .random | .other => none
  | .polling =>
    if memoryCacheEnabled then none
    else some { stored with channelInfo := { held.channelInfo with
      multiKeyPollingIndex := nextCursor held stored.channelInfo.multiKeyPollingIndex } }

def keyInRange (held : Channel) (keyIndex : Option Int) : Option Int :=
  keyIndex.filter fun index => 0 ≤ index && index < held.channelInfo.multiKeySize

def statusAt (info : ChannelInfo) (index : Int) : ChannelStatus :=
  (info.multiKeyStatusList index).getD .enabled

abbrev Kept := List (String × Nat)

def reindex {Value : Type} (kept : Kept) (entry : Nat → Option Value) : KeyMap Value := fun index =>
  if index < 0 then none else kept[index.toNat]?.bind fun key => entry key.2

def keepKeys (kept : Kept) (noted : Nat → Bool) (held : Channel) : Channel :=
  let info := held.channelInfo
  { held with
    keys := kept.map Prod.fst
    channelInfo := { info with
      multiKeySize := kept.length
      multiKeyStatusList := reindex kept fun index =>
        (info.multiKeyStatusList index).filter fun status => status ≠ .enabled
      multiKeyDisabledTime := reindex kept fun index =>
        if noted index then info.multiKeyDisabledTime index else none
      multiKeyDisabledReason := reindex kept fun index =>
        if noted index then info.multiKeyDisabledReason index else none
      multiKeyUsedCount := reindex kept fun index => info.multiKeyUsedCount index
      multiKeyMaxRequestCount := reindex kept fun index => info.multiKeyMaxRequestCount index } }

/-- The actions of `controller/channel.go::ManageMultiKeys` on the row that was
read; `none` says that the action fails. -/
def manage (operation : Operation) (held : Channel) : Option Channel :=
  let info := held.channelInfo
  match operation with
  | .disableKey keyIndex => (keyInRange held keyIndex).map fun index =>
    { held with channelInfo := { info with
      multiKeyStatusList := info.multiKeyStatusList.set index .manuallyDisabled } }
  | .enableKey keyIndex => (keyInRange held keyIndex).map fun index =>
    { held with channelInfo := { info with
      multiKeyStatusList := info.multiKeyStatusList.delete index
      multiKeyDisabledTime := info.multiKeyDisabledTime.delete index
      multiKeyDisabledReason := info.multiKeyDisabledReason.delete index } }
  | .enableAllKeys => some { held with channelInfo := { info with
      multiKeyStatusList := fun _ => none
      multiKeyDisabledTime := fun _ => none
      multiKeyDisabledReason := fun _ => none } }
  | .setKeyRequestLimit keyIndex maxRequestCount =>
    match keyInRange held keyIndex, maxRequestCount with
    | some index, some limit =>
      if limit < 0 then none
      else some { held with channelInfo := { info with
        multiKeyMaxRequestCount :=
          if limit = 0 then info.multiKeyMaxRequestCount.delete index
          else info.multiKeyMaxRequestCount.set index limit } }
    | _, _ => none
  | .disableAllKeys =>
    let enabled : Int → Bool := fun index =>
      0 ≤ index && index < info.multiKeySize && statusAt info index = .enabled
    if (List.range info.multiKeySize.toNat).any fun index => enabled index then
      some { held with channelInfo := { info with
        multiKeyStatusList := fun index =>
          if enabled index then some .manuallyDisabled else info.multiKeyStatusList index } }
    else none
  | .deleteKey keyIndex bindings =>
    match keyInRange held keyIndex, bindings with
    | some index, some bindings =>
      let kept := held.keys.zipIdx.filter fun key => (key.2 : Int) ≠ index
      if bindings index > 0 then none
      else if kept = [] then none
      else some (keepKeys kept (fun _ => true) held)
    | _, _ => none
  | .deleteDisabledKeys bindings =>
    match bindings with
    | none => none
    | some bindings =>
      let kept := held.keys.zipIdx.filter fun key =>
        statusAt info key.2 ≠ .autoDisabled || bindings key.2 > 0
      if kept.length = held.keys.length then none
      else some (keepKeys kept (fun index => statusAt info index ≠ .enabled) held)
  | _ => none

/-- What an operation writes from the row it has read; `none` says that it fails
or has nothing to write. -/
def written (operation : Operation) (held stored : Channel) : Option Channel :=
  match operation with
  | .incrementUsedCount index count =>
    increment index count (fun info =>
      { info with multiKeyUsedCount := addEntry info.multiKeyUsedCount index count }) held stored
  | .incrementUsedQuota index quota =>
    increment index quota (fun info =>
      { info with multiKeyUsedQuota := addEntry info.multiKeyUsedQuota index quota }) held stored
  | .updateStatus usingKey status reason now =>
    if held.status = status then none
    else some { (updateRow held usingKey status reason now).1 with keys := stored.keys }
  | .getNextEnabledKey memoryCacheEnabled => saveCursor memoryCacheEnabled held stored
  | operation =>
    if !held.channelInfo.isMultiKey then none
    else (manage operation held).map fun patch => updatesRow patch false stored

/-! ## Interleavings -/

/-- The stored row, the rows that operations in flight have read, the owner of
the polling lock, and the operations that have returned success, in order. -/
structure Server (Id : Type*) where
  row : Channel
  held : Id → Option Channel := fun _ => none
  lockedBy : Option Id := none
  performed : List Id := []

inductive Event (Id : Type*) where
  | read (id : Id)
  | write (id : Id) (failed : Bool)
  deriving DecidableEq

variable {Id : Type*} [DecidableEq Id] (operations : Id → Operation)

def startRead (server : Server Id) (id : Id) : Server Id :=
  if (server.held id).isSome then server
  else if (operations id).locksRead then
    if server.lockedBy.isSome then server
    else { server with
      held := Function.update server.held id (some server.row)
      lockedBy := some id }
  else { server with held := Function.update server.held id (some server.row) }

def Server.Free (server : Server Id) (operation : Operation) : Prop :=
  operation.locksWrite → server.lockedBy = none

instance (server : Server Id) (operation : Operation) : Decidable (server.Free operation) :=
  inferInstanceAs (Decidable (_ → _))

def finish (server : Server Id) (id : Id) (failed : Bool) : Server Id :=
  match server.held id with
  | none => server
  | some held =>
    if server.Free (operations id) then
      let after := if failed then none else written (operations id) held server.row
      { row := after.getD server.row
        held := Function.update server.held id none
        lockedBy := if server.lockedBy = some id then none else server.lockedBy
        performed := if after.isSome then server.performed ++ [id] else server.performed }
    else server

def step (server : Server Id) : Event Id → Server Id
  | .read id => startRead operations server id
  | .write id failed => finish operations server id failed

/-! ## The keys of a channel -/

structure KeyRecord where
  key : String
  status : ChannelStatus
  usedCount : Int
  usedQuota : Int
  maxRequestCount : Int
  deriving DecidableEq, Repr

def recordAt (info : ChannelInfo) (index : Nat) (key : String) : KeyRecord where
  key := key
  status := statusAt info index
  usedCount := (info.multiKeyUsedCount index).getD 0
  usedQuota := (info.multiKeyUsedQuota index).getD 0
  maxRequestCount := (info.multiKeyMaxRequestCount index).getD 0

def records (row : Channel) : List KeyRecord :=
  row.keys.zipIdx.map fun key => recordAt row.channelInfo key.2 key.1

def Operation.edit (operation : Operation) (keys : List String) (index : Nat) (record : KeyRecord) :
    KeyRecord :=
  match operation with
  | .incrementUsedCount keyIndex count =>
    if (index : Int) = keyIndex then { record with usedCount := record.usedCount + count } else record
  | .incrementUsedQuota keyIndex quota =>
    if (index : Int) = keyIndex then { record with usedQuota := record.usedQuota + quota } else record
  | .updateStatus usingKey status _ _ =>
    if keyIndex keys usingKey = some (index : Int) then { record with status := status } else record
  | .disableKey keyIndex =>
    if keyIndex = some (index : Int) then { record with status := .manuallyDisabled } else record
  | .enableKey keyIndex =>
    if keyIndex = some (index : Int) then { record with status := .enabled } else record
  | .enableAllKeys => { record with status := .enabled }
  | .disableAllKeys =>
    if record.status = .enabled then { record with status := .manuallyDisabled } else record
  | .setKeyRequestLimit keyIndex maxRequestCount =>
    if keyIndex = some (index : Int) then
      { record with maxRequestCount := maxRequestCount.getD record.maxRequestCount }
    else record
  | .getNextEnabledKey _ | .deleteKey .. | .deleteDisabledKeys _ => record

def Operation.drops (operation : Operation) (index : Nat) (record : KeyRecord) : Bool :=
  match operation with
  | .deleteKey keyIndex _ => keyIndex = some (index : Int)
  | .deleteDisabledKeys bindings =>
    record.status = .autoDisabled && (bindings.map fun bindings => bindings index).getD 0 ≤ 0
  | _ => false

def Operation.intend (operation : Operation) (keys : List KeyRecord) : List KeyRecord :=
  keys.zipIdx.filterMap fun key =>
    if operation.drops key.2 key.1 then none
    else some (operation.edit (keys.map KeyRecord.key) key.2 key.1)

def Intact (start : Channel) (server : Server Id) : Prop :=
  records server.row = server.performed.foldl (fun keys id => (operations id).intend keys) (records start)

def Representable (operation : Operation) (held : Channel) : Prop :=
  match operation with
  | .deleteKey .. | .deleteDisabledKeys _ =>
    operation.intend (records held) ≠ [] ∧
      (operation.intend (records held)).map KeyRecord.usedQuota <+: (records held).map KeyRecord.usedQuota
  | .disableAllKeys => held.keys.length ≤ held.channelInfo.multiKeySize
  | _ => True

/-- What an operation has read of the keys is what is stored, except for what it
changes. -/
structure WritesCurrent (operation : Operation) (held stored : Channel) : Prop where
  keys : held.keys = stored.keys
  current : operation.intend (records held) = operation.intend (records stored)
  representable : Representable operation held

def NoStaleWrite (server : Server Id) : Event Id → Prop
  | .read _ => True
  | .write id failed => ∀ held ∈ server.held id, server.Free (operations id) → failed = false →
      (written (operations id) held server.row).isSome → WritesCurrent (operations id) held server.row

instance : (operation : Operation) → (held : Channel) → Decidable (Representable operation held)
  | .deleteKey .., _ | .deleteDisabledKeys _, _ => inferInstanceAs (Decidable (_ ∧ _))
  | .disableAllKeys, _ => inferInstanceAs (Decidable (_ ≤ _))
  | .incrementUsedCount .., _ | .incrementUsedQuota .., _ | .updateStatus .., _
  | .getNextEnabledKey _, _ | .disableKey _, _ | .enableKey _, _ | .enableAllKeys, _
  | .setKeyRequestLimit .., _ => isTrue trivial

instance (operation : Operation) (held stored : Channel) :
    Decidable (WritesCurrent operation held stored) :=
  decidable_of_iff (held.keys = stored.keys ∧
      operation.intend (records held) = operation.intend (records stored) ∧ Representable operation held)
    ⟨fun ⟨keys, current, representable⟩ => ⟨keys, current, representable⟩,
      fun current => ⟨current.keys, current.current, current.representable⟩⟩

instance (server : Server Id) : (event : Event Id) → Decidable (NoStaleWrite operations server event)
  | .read _ => isTrue trivial
  | .write .. => inferInstanceAs (Decidable (∀ held ∈ _, _))

/-! ## What an operation writes -/

section Records
variable {operation : Operation} {held stored after : Channel}
variable {keys : List String}

theorem zip_idx_map_zip_idx {Item Other : Type} (items : List Item) (make : Item × Nat → Other) :
    (items.zipIdx.map make).zipIdx = items.zipIdx.map fun item => (make item, item.2) := by
  apply List.ext_getElem
  · simp
  · intro index first second
    simp

@[simp] theorem records_keys (row : Channel) : (records row).map KeyRecord.key = row.keys := by
  unfold records recordAt
  rw [List.map_map]
  exact List.zipIdx_map_fst 0 row.keys

theorem intend_records (operation : Operation) (row : Channel) :
    operation.intend (records row) = row.keys.zipIdx.filterMap fun key =>
      let record := recordAt row.channelInfo key.2 key.1
      if operation.drops key.2 record then none else some (operation.edit row.keys key.2 record) := by
  unfold Operation.intend
  rw [records_keys]
  unfold records
  rw [zip_idx_map_zip_idx, List.filterMap_map]
  rfl

theorem records_edited (kept : ∀ index record, operation.drops index record = false)
    (keys : after.keys = held.keys)
    (edited : ∀ (index : Nat) key, index < held.keys.length →
      recordAt after.channelInfo index key =
        operation.edit held.keys index (recordAt held.channelInfo index key)) :
    records after = operation.intend (records held) := by
  rw [intend_records]
  simp only [kept, Bool.false_eq_true, if_false]
  rw [List.filterMap_eq_map', records, keys]
  apply List.map_congr_left
  rintro ⟨key, index⟩ member
  have bound := (List.mk_mem_zipIdx_iff_getElem?.mp member)
  exact edited index key (List.getElem?_eq_some_iff.mp bound).1

theorem record_below (key : String) (below : index < keys.length) :
    recordAt (fitKeys keys info) index key = recordAt info index key := by
  have kept : ∀ {Value : Type} (map : KeyMap Value), keepBelow keys.length map index = map index := by
    intro Value map
    have small : ¬ (index : Int) ≥ keys.length := by omega
    rw [keepBelow, if_neg small]
  unfold fitKeys
  dsimp only
  split
  · simp only [recordAt, statusAt, kept]
  · rfl

theorem updates_records (keys : (if patch.keys = [] then stored.keys
      else patch.keys) = row.keys) (same : row.channelInfo = patch.channelInfo) :
    records (updatesRow patch false stored) = records row := by
  unfold records updatesRow
  simp only [Bool.false_eq_true, if_false, keys, same]
  apply List.map_congr_left
  rintro ⟨key, index⟩ member
  have bound := (List.mk_mem_zipIdx_iff_getElem?.mp member)
  exact record_below key (List.getElem?_eq_some_iff.mp bound).1

theorem increment_records {change : ChannelInfo → ChannelInfo}
    (increments : increment index amount change held stored = some after)
    (keys : held.keys = stored.keys)
    (kept : ∀ index record, operation.drops index record = false)
    (edited : ∀ (at_ : Nat) key, recordAt (change held.channelInfo) at_ key =
      operation.edit held.keys at_ (recordAt held.channelInfo at_ key)) :
    records after = operation.intend (records held) := by
  unfold increment at increments
  split at increments
  · cases increments
  · split at increments
    · cases increments
    · cases increments
      exact records_edited kept keys.symm fun index key _ => edited index key

theorem increment_multi {change : ChannelInfo → ChannelInfo}
    (increments : increment index amount change held stored = some after)
    (keeps : ∀ info, (change info).isMultiKey = info.isMultiKey) :
    after.channelInfo.isMultiKey = true := by
  unfold increment at increments
  split at increments
  · cases increments
  · split at increments
    · cases increments
    · rename_i multi
      cases increments
      rw [keeps]
      simpa using multi

theorem add_entry_value (map : KeyMap Int) (index amount at_ : Int) :
    (addEntry map index amount at_).getD 0 =
      if at_ = index then (map at_).getD 0 + amount else (map at_).getD 0 := by
  unfold addEntry KeyMap.set
  by_cases here : at_ = index
  · subst here
    simp
  · simp [here]

theorem set_status (info : ChannelInfo) (index at_ : Int) (status : ChannelStatus) (reason : String)
    (now : Int) : statusAt (setKeyStatus info index status reason now) at_ =
      if at_ = index then status else statusAt info at_ := by
  unfold setKeyStatus statusAt
  split
  · rename_i enabled
    subst enabled
    by_cases here : at_ = index
    · subst here
      simp [KeyMap.delete]
    · simp [KeyMap.delete, here]
  · by_cases here : at_ = index
    · subst here
      simp [KeyMap.set]
    · simp [KeyMap.set, here]

theorem status_records
    (multi : held.channelInfo.isMultiKey = true) (keys : held.keys = stored.keys) :
    records { (updateRow held usingKey status reason now).1 with keys := stored.keys } =
      (Operation.updateStatus usingKey status reason now).intend (records held) := by
  refine records_edited (fun _ _ => rfl) keys.symm ?_
  intro index key _
  simp only [updateRow, multi, if_true, Operation.edit]
  rcases StatusUpdates.handler_cases held usingKey status reason now with
    ⟨none_found, -, otherInfo, updated⟩ | ⟨none_found, -, -, updated⟩ | ⟨found, otherInfo, mine, updated⟩
  · rw [updated, none_found, if_neg (by simp)]
  · rw [updated, none_found, if_neg (by simp)]
  · rw [updated, mine]
    dsimp only
    have others : (setKeyStatus held.channelInfo found status reason now).multiKeyUsedCount =
          held.channelInfo.multiKeyUsedCount ∧
        (setKeyStatus held.channelInfo found status reason now).multiKeyUsedQuota =
          held.channelInfo.multiKeyUsedQuota ∧
        (setKeyStatus held.channelInfo found status reason now).multiKeyMaxRequestCount =
          held.channelInfo.multiKeyMaxRequestCount := by
      unfold setKeyStatus
      split <;> exact ⟨rfl, rfl, rfl⟩
    simp only [recordAt, set_status, others]
    by_cases here : (index : Int) = found
    · simp [here]
    · simp [here, Ne.symm here]

theorem status_multi :
    (updateRow held usingKey status reason now).1.channelInfo.isMultiKey =
      held.channelInfo.isMultiKey := by
  unfold updateRow
  split
  · rcases StatusUpdates.handler_cases held usingKey status reason now with
      ⟨-, -, otherInfo, updated⟩ | ⟨-, -, -, updated⟩ | ⟨found, otherInfo, -, updated⟩
    · rw [updated]
    · rw [updated]
    · rw [updated]
      unfold setKeyStatus
      split <;> rfl
  · rfl

theorem managed_records (keys : held.keys = stored.keys)
    (sameKeys : patch.keys = held.keys)
    (kept : ∀ index record, operation.drops index record = false)
    (edited : ∀ (index : Nat) key, index < held.keys.length →
      recordAt patch.channelInfo index key =
        operation.edit held.keys index (recordAt held.channelInfo index key)) :
    records (updatesRow patch false stored) = operation.intend (records held) := by
  have written : records (updatesRow patch false stored) = records patch := by
    apply updates_records _ rfl
    split
    · rename_i empty
      rw [sameKeys, keys]
    · rfl
  rw [written]
  exact records_edited kept sameKeys edited

theorem reindex_at {Value : Type} {entry : Nat → Option Value} {index : Nat}
    (found : kept[index]? = some key) : reindex kept entry index = entry key.2 := by
  have natural : ¬ (index : Int) < 0 := by omega
  simp [reindex, natural, found]

theorem deleted_records {noted : Nat → Bool} (nonempty : kept ≠ [])
    (drops : operation.intend (records held) = kept.map fun key => recordAt held.channelInfo key.2 key.1)
    (aligned : (operation.intend (records held)).map KeyRecord.usedQuota <+:
      (records held).map KeyRecord.usedQuota) :
    records (updatesRow (keepKeys kept noted held) false stored) = operation.intend (records held) := by
  have named : ¬ (keepKeys kept noted held).keys = [] := by
    simpa [keepKeys] using nonempty
  rw [updates_records (if_neg named) rfl, drops]
  unfold records
  apply List.ext_getElem
  · simp [keepKeys]
  · intro index first second
    have inside : index < kept.length := by simpa using second
    have found : kept[index]? = some kept[index] := List.getElem?_eq_getElem inside
    have quota : (held.channelInfo.multiKeyUsedQuota index).getD 0 =
        (held.channelInfo.multiKeyUsedQuota kept[index].2).getD 0 := by
      rw [drops] at aligned
      have same := aligned.getElem (by simpa using inside)
      simpa [records, recordAt] using same.symm
    simp only [List.getElem_map, List.getElem_zipIdx, Nat.zero_add]
    simp only [keepKeys, recordAt, statusAt, reindex_at found, List.getElem_map, quota,
      KeyRecord.mk.injEq, true_and, and_true]
    cases held.channelInfo.multiKeyStatusList kept[index].2 with
    | none => rfl
    | some stored => cases stored <;> rfl

theorem in_range_iff {keyIndex : Option Int}
    (inside : keyInRange held keyIndex = some index) : keyIndex = some index ∧ 0 ≤ index := by
  unfold keyInRange at inside
  obtain ⟨given, bounds⟩ := Option.filter_eq_some_iff.mp inside
  refine ⟨given, ?_⟩
  simp only [Bool.and_eq_true, decide_eq_true_eq] at bounds
  exact bounds.1

theorem limit_entry_value (map : KeyMap Int) (index limit at_ : Int) :
    ((if limit = 0 then map.delete index else map.set index limit) at_).getD 0 =
      if at_ = index then limit else (map at_).getD 0 := by
  by_cases unlimited : limit = 0
  · subst unlimited
    by_cases here : at_ = index
    · subst here
      simp [KeyMap.delete]
    · simp [KeyMap.delete, here]
  · by_cases here : at_ = index
    · subst here
      simp [KeyMap.set, unlimited]
    · simp [KeyMap.set, here, unlimited]

theorem status_at_set (info : ChannelInfo) (index at_ : Int) (status : ChannelStatus) :
    statusAt { info with multiKeyStatusList := info.multiKeyStatusList.set index status } at_ =
      if at_ = index then status else statusAt info at_ := by
  unfold statusAt KeyMap.set
  by_cases here : at_ = index
  · subst here
    simp
  · simp [here]

theorem status_at_delete (info : ChannelInfo) (index at_ : Int) :
    statusAt { info with multiKeyStatusList := info.multiKeyStatusList.delete index } at_ =
      if at_ = index then .enabled else statusAt info at_ := by
  unfold statusAt KeyMap.delete
  by_cases here : at_ = index
  · subst here
    simp
  · simp [here]

theorem all_disabled_status {list : KeyMap ChannelStatus} (natural : 0 ≤ index)
    (counted : index < held.channelInfo.multiKeySize)
    (entries : ∀ at_, list at_ =
      if 0 ≤ at_ && at_ < held.channelInfo.multiKeySize &&
        statusAt held.channelInfo at_ = .enabled then some .manuallyDisabled
      else held.channelInfo.multiKeyStatusList at_) :
    (list index).getD .enabled = if statusAt held.channelInfo index = .enabled
      then .manuallyDisabled else statusAt held.channelInfo index := by
  rw [entries]
  by_cases enabled : statusAt held.channelInfo index = .enabled
  · simp [enabled, natural, counted]
  · rw [if_neg enabled, if_neg (by simp [enabled])]
    rfl

theorem kept_records (kept : String × Nat → Bool)
    (drops : ∀ key : String × Nat,
      operation.drops key.2 (recordAt held.channelInfo key.2 key.1) = !kept key)
    (same : ∀ index record, operation.edit held.keys index record = record) :
    operation.intend (records held) =
      (held.keys.zipIdx.filter kept).map fun key => recordAt held.channelInfo key.2 key.1 := by
  rw [intend_records, ← List.filterMap_eq_filter, ← List.filterMap_eq_map, List.filterMap_filterMap]
  apply List.filterMap_congr
  intro key _
  cases keeps : kept key with
  | true => simp [drops, same, keeps, Option.guard]
  | false => simp [drops, keeps, Option.guard]

theorem manage_records (manages : manage operation held = some patch)
    (keys : held.keys = stored.keys) (representable : Representable operation held) :
    records (updatesRow patch false stored) = operation.intend (records held) := by
  cases operation with
  | incrementUsedCount | incrementUsedQuota | updateStatus | getNextEnabledKey => cases manages
  | disableKey keyIndex =>
    obtain ⟨index, inside, rfl⟩ := Option.map_eq_some_iff.mp manages
    obtain ⟨given, -⟩ := in_range_iff inside
    refine managed_records keys rfl (fun _ _ => rfl) fun at_ key _ => ?_
    simp only [recordAt, status_at_set, Operation.edit, given, Option.some.injEq, eq_comm]
    split <;> rfl
  | enableKey keyIndex =>
    obtain ⟨index, inside, rfl⟩ := Option.map_eq_some_iff.mp manages
    obtain ⟨given, -⟩ := in_range_iff inside
    refine managed_records keys rfl (fun _ _ => rfl) fun at_ key _ => ?_
    have cleared := status_at_delete held.channelInfo index at_
    unfold statusAt at cleared
    simp only [recordAt, statusAt, cleared, Operation.edit, given, Option.some.injEq, eq_comm]
    split <;> rfl
  | enableAllKeys =>
    cases manages
    exact managed_records keys rfl (fun _ _ => rfl) fun at_ key _ => rfl
  | setKeyRequestLimit keyIndex maxRequestCount =>
    simp only [manage] at manages
    split at manages
    · rename_i index limit inside
      obtain ⟨given, -⟩ := in_range_iff inside
      split at manages
      · cases manages
      · cases manages
        refine managed_records keys rfl (fun _ _ => rfl) fun at_ key _ => ?_
        simp only [recordAt, limit_entry_value, Operation.edit, given, Option.some.injEq,
          Option.getD_some, statusAt, @eq_comm Int index]
        split <;> rfl
    · cases manages
  | disableAllKeys =>
    simp only [manage] at manages
    split at manages
    · cases manages
      refine managed_records keys rfl (fun _ _ => rfl) fun at_ key below => ?_
      have counted : (at_ : Int) < held.channelInfo.multiKeySize := by
        have room : (held.keys.length : Int) ≤ held.channelInfo.multiKeySize := representable
        omega
      have natural : (0 : Int) ≤ at_ := by omega
      have status := all_disabled_status natural counted (fun _ => rfl)
      simp only [recordAt, Operation.edit]
      rw [statusAt, status]
      by_cases enabled : statusAt held.channelInfo at_ = .enabled
      · simp [enabled]
      · simp [enabled]
    · cases manages
  | deleteKey keyIndex bindings =>
    simp only [manage] at manages
    split at manages
    · rename_i index bindings inside
      obtain ⟨given, -⟩ := in_range_iff inside
      split at manages
      · cases manages
      · split at manages
        · cases manages
        · rename_i nonempty
          cases manages
          refine deleted_records nonempty ?_ representable.2
          apply kept_records
          · intro key
            simp [Operation.drops, given, eq_comm]
          · exact fun _ _ => rfl
    · cases manages
  | deleteDisabledKeys bindings =>
    simp only [manage] at manages
    split at manages
    · cases manages
    · rename_i bindings
      split at manages
      · cases manages
      · cases manages
        have drops : (Operation.deleteDisabledKeys (some bindings)).intend (records held) =
            (held.keys.zipIdx.filter fun key =>
              statusAt held.channelInfo key.2 ≠ .autoDisabled || bindings key.2 > 0).map
              fun key => recordAt held.channelInfo key.2 key.1 := by
          apply kept_records
          · intro key
            rw [Bool.eq_iff_iff]
            simp [Operation.drops, recordAt]
            exact fun _ => decide_eq_true_iff
          · exact fun _ _ => rfl
        refine deleted_records ?_ drops representable.2
        intro empty
        apply representable.1
        rw [drops, empty]
        rfl

theorem updates_multi :
    (updatesRow patch false stored).channelInfo.isMultiKey = patch.channelInfo.isMultiKey := by
  simp only [updatesRow, Bool.false_eq_true, if_false, fitKeys]
  split <;> rfl

theorem manage_multi (manages : manage operation held = some patch) :
    patch.channelInfo.isMultiKey = held.channelInfo.isMultiKey := by
  cases operation with
  | incrementUsedCount | incrementUsedQuota | updateStatus | getNextEnabledKey => cases manages
  | disableKey | enableKey =>
    obtain ⟨index, -, rfl⟩ := Option.map_eq_some_iff.mp manages
    rfl
  | enableAllKeys =>
    cases manages
    rfl
  | setKeyRequestLimit | disableAllKeys | deleteKey | deleteDisabledKeys =>
    simp only [manage] at manages
    repeat' split at manages
    all_goals cases manages
    all_goals rfl

theorem written_records (writes : written operation held stored = some after)
    (multi : held.channelInfo.isMultiKey = true) (current : WritesCurrent operation held stored) :
    records after = operation.intend (records stored) ∧ after.channelInfo.isMultiKey = true := by
  rw [← current.current]
  have keys := current.keys
  cases operation with
  | incrementUsedCount | incrementUsedQuota =>
    dsimp only [written] at writes
    refine ⟨increment_records writes keys (fun _ _ => rfl) fun at_ key => ?_, ?_⟩
    · simp only [recordAt, add_entry_value, Operation.edit]
      split <;> rfl
    · exact increment_multi writes fun _ => rfl
  | updateStatus usingKey status reason now =>
    simp only [written] at writes
    split at writes
    · cases writes
    · cases writes
      refine ⟨status_records multi keys, ?_⟩
      rw [status_multi, multi]
  | getNextEnabledKey memoryCacheEnabled =>
    simp only [written, saveCursor] at writes
    repeat' split at writes
    all_goals cases writes
    exact ⟨records_edited (fun _ _ => rfl) keys.symm fun _ _ _ => rfl, multi⟩
  | disableKey | enableKey | enableAllKeys | disableAllKeys | setKeyRequestLimit | deleteKey
  | deleteDisabledKeys =>
    simp only [written, multi, Bool.not_true, Bool.false_eq_true, if_false] at writes
    obtain ⟨patch, manages, rfl⟩ := Option.map_eq_some_iff.mp writes
    refine ⟨manage_records manages keys current.representable, ?_⟩
    rw [updates_multi, manage_multi manages, multi]

end Records

/-! ## Every interleaving -/

section Runs
variable {operations} {start : Channel} {server : Server Id}

def idle (start : Channel) : Server Id := { row := start }

def AllMultiKey (server : Server Id) : Prop :=
  server.row.channelInfo.isMultiKey = true ∧
    ∀ id held, server.held id = some held → held.channelInfo.isMultiKey = true

theorem read_row (id : Id) : (startRead operations server id).row = server.row ∧
    (startRead operations server id).performed = server.performed := by
  unfold startRead
  repeat' split
  all_goals exact ⟨rfl, rfl⟩

theorem read_held {id : Id}
    (reads : (startRead operations server id).held other = some held) :
    server.held other = some held ∨ (other = id ∧ held = server.row) := by
  have updated : Function.update server.held id (some server.row) other = some held →
      server.held other = some held ∨ (other = id ∧ held = server.row) := by
    intro new
    by_cases same : other = id
    · subst same
      rw [Function.update_self, Option.some.injEq] at new
      exact .inr ⟨rfl, new.symm⟩
    · rw [Function.update_of_ne same] at new
      exact .inl new
  unfold startRead at reads
  split at reads
  · exact .inl reads
  · split at reads
    · split at reads
      · exact .inl reads
      · exact updated reads
    · exact updated reads

theorem finish_held {id : Id}
    (reads : (finish operations server id failed).held other = some held) :
    server.held other = some held := by
  unfold finish at reads
  split at reads
  · exact reads
  · split at reads
    · by_cases same : other = id
      · subst same
        simp at reads
      · simpa [Function.update_of_ne same] using reads
    · exact reads

theorem finish_row (id : Id) (failed : Bool) :
    ((finish operations server id failed).row = server.row ∧
        (finish operations server id failed).performed = server.performed) ∨
      ∃ held after, server.held id = some held ∧ server.Free (operations id) ∧ failed = false ∧
        written (operations id) held server.row = some after ∧
        (finish operations server id failed).row = after ∧
        (finish operations server id failed).performed = server.performed ++ [id] := by
  unfold finish
  cases held : server.held id with
  | none => exact .inl ⟨rfl, rfl⟩
  | some row =>
    dsimp only
    split
    · rename_i free
      cases failed with
      | true => exact .inl ⟨rfl, rfl⟩
      | false =>
        simp only [Bool.false_eq_true, if_false]
        cases writes : written (operations id) row server.row with
        | none => exact .inl ⟨rfl, rfl⟩
        | some after => exact .inr ⟨row, after, rfl, free, trivial, writes, rfl, rfl⟩
    · exact .inl ⟨rfl, rfl⟩

theorem step_intact (event : Event Id) (current : NoStaleWrite operations server event)
    (multi : AllMultiKey server) (intact : Intact operations start server) :
    AllMultiKey (step operations server event) ∧
      Intact operations start (step operations server event) := by
  cases event with
  | read id =>
    obtain ⟨row, performed⟩ := @read_row Id _ operations server id
    refine ⟨⟨?_, fun other held reads => ?_⟩, ?_⟩
    · simpa only [step, row] using multi.1
    · rcases read_held reads with before | ⟨-, rfl⟩
      · exact multi.2 other held before
      · exact multi.1
    · simpa only [Intact, step, row, performed] using intact
  | write id failed =>
    have kept : ∀ other held, (finish operations server id failed).held other = some held →
        held.channelInfo.isMultiKey = true :=
      fun other held reads => multi.2 other held (finish_held reads)
    rcases @finish_row Id _ operations server id failed with
      ⟨row, performed⟩ | ⟨held, after, reads, free, made, writes, row, performed⟩
    · refine ⟨⟨?_, kept⟩, ?_⟩
      · simpa only [step, row] using multi.1
      · simpa only [Intact, step, row, performed] using intact
    · have fresh := current held reads free made (by rw [writes]; rfl)
      obtain ⟨made_of, still⟩ := written_records writes (multi.2 id held reads) fresh
      refine ⟨⟨?_, kept⟩, ?_⟩
      · simpa only [step, row] using still
      · simp only [Intact, step, row, performed, List.foldl_append, List.foldl_cons, List.foldl_nil]
        rw [made_of, intact]

end Runs

/-- For every channel with many keys and every interleaving of operations on it:
while every write that reaches the column writes current data, its keys are what
the operations that returned success make of them, one after another. -/
theorem current_writes_lose_nothing (operations : Id → Operation) (start : Channel)
    (multi : start.channelInfo.isMultiKey = true) (events : List (Event Id))
    (current : Guarded (step operations) (NoStaleWrite operations) (idle start) events) :
    ∀ done, done <+: events → Intact operations start (run (step operations) (idle start) done) := by
  rintro done ⟨rest, rfl⟩
  rw [guarded_append] at current
  let ready : Server Id → Prop := fun server => AllMultiKey server ∧ Intact operations start server
  have initially : ready (idle start) := ⟨⟨multi, fun _ _ missing => nomatch missing⟩, rfl⟩
  have last : ready (run (step operations) (idle start) done) := by
    refine run_preserves ?_ current.1 initially
    intro server event fresh before
    exact step_intact event fresh before.1 before.2
  exact last.2

def twoKeys : Channel where
  id := 1
  keys := ["sk-a", "sk-b"]
  channelInfo := { isMultiKey := true, multiKeySize := 2 }

def countAndDisable (counts : Bool) : Operation :=
  if counts then .incrementUsedCount 0 1 else .updateStatus "sk-b" .autoDisabled "" 1000

theorem disabling_loses_count :
    ¬ ∀ (operations : Bool → Operation) (start : Channel), start.channelInfo.isMultiKey = true →
      ∀ events done, done <+: events →
        Intact operations start (run (step operations) (idle start) done) := by
  intro always
  have intact := always countAndDisable twoKeys rfl
    [.read false, .read true, .write true false, .write false false] _ (List.prefix_refl _)
  have lost : records (run (step countAndDisable) (idle twoKeys)
        [.read false, .read true, .write true false, .write false false]).row ≠
      [true, false].foldl (fun keys id => (countAndDisable id).intend keys) (records twoKeys) := by
    decide +kernel
  exact lost intact

theorem disabling_after_count :
    Intact countAndDisable twoKeys (run (step countAndDisable) (idle twoKeys)
      [.read true, .write true false, .read false, .write false false]) := by
  have current : Guarded (step countAndDisable) (NoStaleWrite countAndDisable) (idle twoKeys)
      [.read true, .write true false, .read false, .write false false] := by
    decide +kernel
  exact current_writes_lose_nothing countAndDisable twoKeys rfl _ current _ (List.prefix_refl _)

end NewApi.ChannelInfoWrites
