import NewApi.KeyListEdits
import NewApi.ManualDelivery
import NewApi.TaskRows

/-! The release of a reserved slot deletes one key of a channel. Orders,
subscriptions, tokens and accounts that are bound to a later key are moved up with
it. Tasks are not, nor are the used quotas, and what else was bound to the deleted
key gets the next one. -/
namespace NewApi.SlotRelease
open NewApi.Channels NewApi.KeyedTable NewApi.ManualDelivery
open NewApi.KeyColumn
open NewApi.KeyListEdits (KeyData keyData)
open NewApi.Subscription (UserSubscription)
open NewApi.TaskRows (TaskStatus)

/-! ## Rows -/

/-- The columns of `Token` that bind it to a key. -/
structure BoundToken where
  id : Int
  specificChannelId : Int := 0
  specificChannelKeyIndex : Int := -1
  deleted : Bool := false

/-- The columns of `EcomAgentAccount` that bind it to a key. -/
structure BoundAccount where
  id : Int
  assignedChannelId : Int := 0
  assignedChannelKeyIndex : Int := -1

/-- The columns of `Task` that bind it to a key; the index is one of the private
data. -/
structure BoundTask where
  id : Int
  channelId : Int
  status : TaskStatus
  channelMultiKeyIndex : Option Int := none

structure ChannelRow extends KeyRow where
  id : Int

structure SlotTables where
  manual : ManualTables
  channels : List ChannelRow := []
  tokens : List BoundToken := []
  accounts : List BoundAccount := []
  tasks : List BoundTask := []

/-! ## The release -/

/-- `model/subscription.go::reindexChannelIntMapAfterKeyRemoval`, which has a
sibling for each type of the values. -/
def reindexAfterKeyRemoval {Value : Type} (source : KeyMap Value) (removedIndex : Int) :
    KeyMap Value := fun index =>
  if index < removedIndex then source index else source (index + 1)

def shiftToken (channelId removed : Int) (token : BoundToken) : BoundToken :=
  if token.deleted then token
  else { token with
    specificChannelKeyIndex :=
      shiftIndex channelId removed token.specificChannelId token.specificChannelKeyIndex }

def shiftAccount (channelId removed : Int) (account : BoundAccount) : BoundAccount :=
  { account with
    assignedChannelKeyIndex :=
      shiftIndex channelId removed account.assignedChannelId account.assignedChannelKeyIndex }

/-- `model/subscription.go::shiftBoundChannelKeyIndexesAfterRemovalTx`. -/
def shiftBoundChannelKeyIndexesAfterRemoval (channelId removedIndex currentOrderId : Int)
    (tables : SlotTables) : SlotTables :=
  { tables with
    manual := shiftBoundChannelKeyIndexes channelId removedIndex currentOrderId tables.manual
    tokens := tables.tokens.map (shiftToken channelId removedIndex)
    accounts := tables.accounts.map (shiftAccount channelId removedIndex) }

def removeKey (keyIndex : Nat) (row : KeyRow) : KeyRow where
  key := joinLines ((getKeys row.key).eraseIdx keyIndex)
  info :=
    { row.info with
      multiKeySize := ((getKeys row.key).eraseIdx keyIndex).length
      multiKeyStatusList := reindexAfterKeyRemoval row.info.multiKeyStatusList keyIndex
      multiKeyDisabledReason := reindexAfterKeyRemoval row.info.multiKeyDisabledReason keyIndex
      multiKeyDisabledTime := reindexAfterKeyRemoval row.info.multiKeyDisabledTime keyIndex
      multiKeyUsedCount := reindexAfterKeyRemoval row.info.multiKeyUsedCount keyIndex
      multiKeyMaxRequestCount := reindexAfterKeyRemoval row.info.multiKeyMaxRequestCount keyIndex }

def unbind (order : ManualOrder) : ManualOrder :=
  { order with reservedChannelId := 0, reservedChannelKeyIndex := -1 }

def freeSlot (channel : ChannelRow) (order : ManualOrder) (tables : SlotTables) : SlotTables :=
  let shifted := shiftBoundChannelKeyIndexesAfterRemoval channel.id order.reservedChannelKeyIndex
    order.id tables
  { shifted with
    channels := save ChannelRow.id shifted.channels
      { channel with
        toKeyRow := removeKey order.reservedChannelKeyIndex.toNat channel.toKeyRow }
    manual := shifted.manual.saveOrder (unbind order) }

/-- `model/subscription.go::releaseReservedChannelSlotTx`: whether a slot was
released, the order afterwards and the tables; `none` is an error. -/
def releaseReservedChannelSlotTx (order : ManualOrder) (tables : SlotTables) :
    Option (Bool × ManualOrder × SlotTables) :=
  if order.reservedChannelId ≤ 0 ∨ order.reservedChannelKeyIndex < 0 then
    some (false, order, tables)
  else
    (lookup ChannelRow.id tables.channels order.reservedChannelId).bind fun channel =>
      if order.reservedChannelKeyIndex ≥ (getKeys channel.key).length then none
      else some (true, unbind order, freeSlot channel order tables)

theorem release_cases
    (release : releaseReservedChannelSlotTx order before = some (true, released, after)) :
    ∃ channel, lookup ChannelRow.id before.channels order.reservedChannelId = some channel ∧
      channel.id = order.reservedChannelId ∧ 0 < order.reservedChannelId ∧
      order.reservedChannelKeyIndex = order.reservedChannelKeyIndex.toNat ∧
      after = freeSlot channel order before := by
  unfold releaseReservedChannelSlotTx at release
  split at release
  · cases release
  obtain ⟨channel, found, rest⟩ := Option.bind_eq_some_iff.mp release
  split at rest
  · cases rest
  cases rest
  exact ⟨channel, found, lookup_key found, by omega, by omega, rfl⟩

/-! ## Bindings -/

/-- What is bound to a key of a channel; a day pass is a subscription. -/
inductive Holder where
  | order (id : Int)
  | subscription (id : Int)
  | token (id : Int)
  | task (id : Int)
  deriving DecidableEq, Repr

def SlotTables.binding (tables : SlotTables) : Holder → Option (Int × Int)
  | .order id => (tables.manual.order id).map fun order =>
    (order.reservedChannelId, order.reservedChannelKeyIndex)
  | .subscription id => (tables.manual.base.subscription id).map fun sub =>
    (sub.specificChannelId, sub.specificChannelKeyIndex)
  | .token id => ((lookup BoundToken.id tables.tokens id).filter fun token => !token.deleted).map
    fun token => (token.specificChannelId, token.specificChannelKeyIndex)
  | .task id => ((lookup BoundTask.id tables.tasks id).filter fun task => !task.status.isDone).bind
    fun task => task.channelMultiKeyIndex.map fun index => (task.channelId, index)

def SlotTables.row (tables : SlotTables) (channelId : Int) : KeyRow :=
  ((lookup ChannelRow.id tables.channels channelId).map ChannelRow.toKeyRow).getD ⟨"", {}⟩

/-- `GetKeys` of the channel. -/
def SlotTables.keys (tables : SlotTables) (channelId : Int) : List String :=
  getKeys (tables.row channelId).key

def keyAt (keys : List String) (index : Int) : Option String :=
  if index < 0 then none else keys[index.toNat]?

/-- Where a key stands after the one at `removed` is gone. -/
def placeAfter (removed index : Nat) : Nat := if index < removed then index else index - 1

/-- The other keys are left, each with what was noted of it; what was bound to one of
them is bound to it still, and what stays live is not led to another key. -/
structure Preserved (live : Holder → Prop) (channelId : Int) (removed : Nat)
    (before after : SlotTables) : Prop where
  keys : after.keys channelId = (before.keys channelId).eraseIdx removed
  noted : ∀ index < (before.keys channelId).length, index ≠ removed →
    keyData (after.row channelId).info (placeAfter removed index) =
      keyData (before.row channelId).info index
  followed : ∀ holder index, before.binding holder = some (channelId, index) → index ≠ removed →
    ∃ moved, after.binding holder = some (channelId, moved) ∧
      keyAt (after.keys channelId) moved = keyAt (before.keys channelId) index
  unmoved : ∀ holder index moved key, live holder →
    before.binding holder = some (channelId, index) →
    after.binding holder = some (channelId, moved) →
    keyAt (after.keys channelId) moved = some key → keyAt (before.keys channelId) index = some key

/-- What a release must find for that: the keys that are left read back, each has
used as much as the one before it, a task refers to a key with the same text after
it, and so does what stays bound to the released key. -/
structure Releasable (live : Holder → Prop) (order : ManualOrder) (removed : Nat)
    (tables : SlotTables) : Prop where
  rejoins :
    let kept := (tables.keys order.reservedChannelId).eraseIdx removed
    kept = [] ∨ joinLines kept ≠ "" ∧ Rejoins kept
  usedQuota : ∀ index < (tables.keys order.reservedChannelId).length, removed < index →
    ((tables.row order.reservedChannelId).info.multiKeyUsedQuota (index - 1 : Nat)).getD 0 =
      ((tables.row order.reservedChannelId).info.multiKeyUsedQuota index).getD 0
  tasks : ∀ id index, tables.binding (.task id) = some (order.reservedChannelId, index) →
    removed < index →
    keyAt (tables.keys order.reservedChannelId) (index + 1) =
      keyAt (tables.keys order.reservedChannelId) index
  live : ∀ holder, live holder → holder ≠ .order order.id →
    tables.binding holder = some (order.reservedChannelId, (removed : Int)) →
    ∀ next, keyAt (tables.keys order.reservedChannelId) (removed + 1) = some next →
      keyAt (tables.keys order.reservedChannelId) removed = some next

/-! ### The places of the keys -/

theorem reindexed {Value : Type} (source : KeyMap Value) {removed index : Nat} (other : index ≠ removed) :
    reindexAfterKeyRemoval source removed (placeAfter removed index) = source index := by
  unfold reindexAfterKeyRemoval placeAfter
  by_cases before : index < removed
  · rw [if_pos before, if_pos (by omega)]
  · rw [if_neg before, if_neg (by omega)]
    congr 1
    omega

theorem removed_data (row : KeyRow) {removed index : Nat} (other : index ≠ removed) :
    keyData (removeKey removed row).info (placeAfter removed index) =
      { keyData row.info index with
        usedQuota := (row.info.multiKeyUsedQuota (placeAfter removed index)).getD 0 } := by
  simp only [keyData, ChannelInfoWrites.statusAt, removeKey, reindexed _ other]

theorem key_at_erased (keys : List String) (removed : Nat) (index : Int) :
    keyAt (keys.eraseIdx removed) index =
      if index < removed then keyAt keys index else keyAt keys (index + 1) := by
  unfold keyAt
  by_cases negative : index < 0
  · have before : index < removed := by omega
    rw [if_pos negative, if_pos before, if_pos negative]
  · have natural : ¬ index + 1 < 0 := by omega
    have next : (index + 1).toNat = index.toNat + 1 := by omega
    rw [if_neg negative, if_neg negative, if_neg natural, List.getElem?_eraseIdx, next]
    by_cases before : index < removed
    · rw [if_pos before, if_pos (by omega)]
    · rw [if_neg before, if_neg (by omega)]

theorem key_at_shifted (keys : List String) {channelId index : Int} {removed : Nat}
    (other : index ≠ removed) :
    keyAt (keys.eraseIdx removed) (shiftIndex channelId removed channelId index) = keyAt keys index := by
  unfold shiftIndex
  by_cases later : index > removed
  · have moved : ¬ index - 1 < removed := by omega
    rw [if_pos ⟨rfl, later⟩, key_at_erased, if_neg moved, Int.sub_add_cancel]
  · have before : index < removed := by omega
    rw [if_neg fun both => later both.2, key_at_erased, if_pos before]

theorem kept_listed_iff (kept : List String) :
    getKeys (joinLines kept) = kept ↔ kept = [] ∨ joinLines kept ≠ "" ∧ Rejoins kept := by
  by_cases empty : joinLines kept = ""
  · rw [empty, getKeys, if_pos rfl]
    constructor
    · intro none_
      exact .inl none_.symm
    · rintro (none_ | ⟨filled, -⟩)
      · exact none_.symm
      · exact absurd rfl filled
  · rw [rejoins_iff empty]
    constructor
    · intro rejoins
      exact .inr ⟨empty, rejoins⟩
    · rintro (rfl | ⟨-, rejoins⟩)
      · exact absurd rfl empty
      · exact rejoins

/-! ### What a release does -/

def Holder.moves : Holder → Bool
  | .task _ => false
  | _ => true

def Holder.follow (channelId removed : Int) (holder : Holder) (bound : Int × Int) : Int × Int :=
  if holder.moves then (bound.1, shiftIndex channelId removed bound.1 bound.2) else bound

theorem shifted_order (channelId removed currentOrderId id : Int) (tables : ManualTables) :
    (shiftBoundChannelKeyIndexes channelId removed currentOrderId tables).order id =
      (tables.order id).map (shiftOrder channelId removed currentOrderId) := by
  refine lookup_map (fun order => ?_) _ _
  unfold shiftOrder
  split <;> rfl

theorem shifted_binding (channelId removed currentOrderId : Int) (tables : SlotTables)
    (other : holder ≠ .order currentOrderId) :
    (shiftBoundChannelKeyIndexesAfterRemoval channelId removed currentOrderId tables).binding
        holder = (tables.binding holder).map (holder.follow channelId removed) := by
  cases holder with
  | order id =>
    simp only [SlotTables.binding, shiftBoundChannelKeyIndexesAfterRemoval]
    rw [shifted_order, Option.map_map, Option.map_map]
    cases found : tables.manual.order id with
    | none => rfl
    | some order =>
      have id_ : order.key = id := lookup_key found
      have notCurrent : order.id ≠ currentOrderId := fun same =>
        other (congrArg Holder.order (id_.symm.trans same))
      simp only [Option.map_some, Function.comp_apply, shiftOrder, if_neg notCurrent]
      rfl
  | subscription id =>
    have same : ∀ sub, (shiftSubscription channelId removed sub).id = sub.id := fun _ => rfl
    have found : lookup UserSubscription.id
        (tables.manual.base.subscriptions.map (shiftSubscription channelId removed)) id =
        (tables.manual.base.subscription id).map (shiftSubscription channelId removed) :=
      lookup_map same _ _
    simp only [SlotTables.binding, shiftBoundChannelKeyIndexesAfterRemoval,
      shiftBoundChannelKeyIndexes, SubscriptionStore.Database.subscription]
    rw [found, Option.map_map, Option.map_map]
    rfl
  | token id =>
    have found : lookup BoundToken.id (tables.tokens.map (shiftToken channelId removed)) id =
        (lookup BoundToken.id tables.tokens id).map (shiftToken channelId removed) :=
      lookup_map (fun token => by unfold shiftToken; split <;> rfl) _ _
    simp only [SlotTables.binding, shiftBoundChannelKeyIndexesAfterRemoval]
    rw [found]
    cases lookup BoundToken.id tables.tokens id with
    | none => rfl
    | some token =>
      cases deleted : token.deleted with
      | true => simp [shiftToken, Option.filter, deleted]
      | false => simp [shiftToken, Option.filter, deleted, Holder.follow, Holder.moves]
  | task taskId =>
    have same : (Holder.task taskId).follow channelId removed = id := rfl
    rw [same, Option.map_id, id]
    rfl

/-- What a release of the key at `removed` leaves. -/
structure Released (order : ManualOrder) (removed : Nat) (before after : SlotTables) : Prop where
  channel : 0 < order.reservedChannelId
  slot : order.reservedChannelKeyIndex = removed
  row : after.row order.reservedChannelId = removeKey removed (before.row order.reservedChannelId)
  binding : ∀ holder, after.binding holder =
    if holder = .order order.id then some (0, -1)
    else (before.binding holder).map (holder.follow order.reservedChannelId removed)

theorem release_spec
    (read : before.manual.order order.id = some order)
    (release : releaseReservedChannelSlotTx order before = some (true, released, after)) :
    Released order order.reservedChannelKeyIndex.toNat before after := by
  obtain ⟨channel, found, channelId, positive, slot, rfl⟩ := release_cases release
  unfold freeSlot
  generalize order.reservedChannelKeyIndex.toNat = removed at slot ⊢
  rw [slot]
  refine ⟨positive, slot, ?_, fun holder => ?_⟩
  · unfold SlotTables.row
    dsimp only
    rw [shiftBoundChannelKeyIndexesAfterRemoval, lookup_save, if_pos channelId.symm, found]
    rfl
  · split
    · rename_i current
      subst current
      have moved := shifted_order channel.id removed order.id order.id before.manual
      rw [read, Option.map_some] at moved
      have saved : (ManualTables.saveOrder (shiftBoundChannelKeyIndexes channel.id removed order.id
          before.manual) (unbind order)).order order.id = some (unbind order) :=
        @lookup_save_self _ _ _ ManualOrder.key _ (unbind order) _ moved
      exact congrArg (Option.map fun order =>
        (order.reservedChannelId, order.reservedChannelKeyIndex)) saved
    · rename_i other
      have shifted := shifted_binding channel.id removed order.id before other
      rw [← channelId, ← shifted]
      cases holder with
      | order id =>
        have apart : id ≠ (unbind order).key := fun same => other (congrArg Holder.order same)
        exact congrArg (Option.map _) (lookup_save_ne apart)
      | subscription | token | task => rfl

section Released
variable {live : Holder → Prop} {order : ManualOrder} {removed : Nat} {before after : SlotTables}
  {holder : Holder} {index : Int}

theorem Released.bound (released : Released order removed before after) (other : holder ≠ .order order.id)
    (bound : before.binding holder = some (order.reservedChannelId, index)) :
    after.binding holder = some (order.reservedChannelId,
      if holder.moves then shiftIndex order.reservedChannelId removed order.reservedChannelId index
      else index) := by
  rw [released.binding, if_neg other, bound, Option.map_some, Holder.follow]
  split <;> rfl

theorem Released.not_order (released : Released order removed before after)
    (read : before.manual.order order.id = some order) (elsewhere : index ≠ removed)
    (bound : before.binding holder = some (order.reservedChannelId, index)) :
    holder ≠ .order order.id := by
  rintro rfl
  rw [SlotTables.binding, read, Option.map_some] at bound
  have same := congrArg Prod.snd (Option.some.inj bound)
  exact elsewhere (same.symm.trans released.slot)

theorem Released.keys (released : Released order removed before after) :
    after.keys order.reservedChannelId =
      getKeys (joinLines ((before.keys order.reservedChannelId).eraseIdx removed)) := by
  rw [SlotTables.keys, released.row]
  rfl

theorem shift_removed (channelId removed : Int) :
    shiftIndex channelId removed channelId removed = removed :=
  if_neg fun both => Int.lt_irrefl _ both.2

theorem Released.releasable (released : Released order removed before after)
    (preserved : Preserved live order.reservedChannelId removed before after) :
    Releasable live order removed before := by
  have listed := preserved.keys
  refine ⟨?_, fun index within later => ?_, fun id index bound later => ?_,
    fun holder alive other bound next isNext => ?_⟩
  · rw [released.keys] at listed
    exact (kept_listed_iff _).mp listed
  · have same := preserved.noted index within (Nat.ne_of_gt later)
    rw [released.row, removed_data _ (Nat.ne_of_gt later), placeAfter,
      if_neg (Nat.not_lt.mpr (Nat.le_of_lt later))] at same
    exact congrArg KeyData.usedQuota same
  · obtain ⟨moved, bound', same⟩ := preserved.followed _ index bound (Int.ne_of_gt later)
    rw [released.bound (by simp) bound] at bound'
    obtain rfl : index = moved := congrArg Prod.snd (Option.some.inj bound')
    rw [listed, key_at_erased, if_neg (Int.not_lt.mpr (Int.le_of_lt later))] at same
    exact same
  · have bound' := released.bound other bound
    rw [shift_removed, ite_self] at bound'
    refine preserved.unmoved holder removed removed next alive bound bound' ?_
    rw [listed, key_at_erased, if_neg (Int.lt_irrefl _)]
    exact isNext

theorem Released.preserved (released : Released order removed before after)
    (read : before.manual.order order.id = some order)
    (releasable : Releasable live order removed before) :
    Preserved live order.reservedChannelId removed before after := by
  have listed : after.keys order.reservedChannelId =
      (before.keys order.reservedChannelId).eraseIdx removed := by
    rw [released.keys]
    exact (kept_listed_iff _).mpr releasable.rejoins
  have followed : ∀ holder index,
      before.binding holder = some (order.reservedChannelId, index) → index ≠ removed →
      ∃ moved, after.binding holder = some (order.reservedChannelId, moved) ∧
        keyAt (after.keys order.reservedChannelId) moved =
          keyAt (before.keys order.reservedChannelId) index := by
    intro holder index bound elsewhere
    refine ⟨_, released.bound (released.not_order read elsewhere bound) bound, ?_⟩
    rw [listed]
    cases holder with
    | task id =>
      change keyAt (List.eraseIdx _ removed) index = _
      rw [key_at_erased]
      by_cases earlier : index < removed
      · rw [if_pos earlier]
      · rw [if_neg earlier]
        exact releasable.tasks id index bound (by omega)
    | order | subscription | token => exact key_at_shifted _ elsewhere
  refine ⟨listed, fun index within other => ?_, followed,
    fun holder index moved key alive bound bound' isKey => ?_⟩
  · rw [released.row, removed_data _ other]
    by_cases earlier : index < removed
    · rw [placeAfter, if_pos earlier]
      rfl
    · rw [placeAfter, if_neg earlier, releasable.usedQuota index within (by omega)]
      rfl
  · by_cases elsewhere : index = removed
    · subst elsewhere
      have other : holder ≠ .order order.id := by
        rintro rfl
        rw [released.binding, if_pos rfl] at bound'
        have channel := congrArg Prod.fst (Option.some.inj bound')
        exact absurd channel (Int.ne_of_lt released.channel)
      rw [released.bound other bound, shift_removed, ite_self] at bound'
      obtain rfl : (removed : Int) = moved := congrArg Prod.snd (Option.some.inj bound')
      rw [listed, key_at_erased, if_neg (Int.lt_irrefl _)] at isKey
      exact releasable.live holder alive other bound key isKey
    · obtain ⟨place, bound'', same⟩ := followed holder index bound elsewhere
      rw [bound''] at bound'
      obtain rfl : place = moved := congrArg Prod.snd (Option.some.inj bound')
      exact same.symm.trans isKey

end Released

/-- A release keeps the other keys, with what was noted of them and what is bound
to them, if and only if the keys that are left read back, the used quotas bear the
shift, no task is led elsewhere and nothing that stays bound to the released key is. -/
theorem release_preserves_iff {live : Holder → Prop} {order released : ManualOrder}
    {before after : SlotTables} (read : before.manual.order order.id = some order)
    (release : releaseReservedChannelSlotTx order before = some (true, released, after)) :
    Preserved live order.reservedChannelId order.reservedChannelKeyIndex.toNat before after ↔
      Releasable live order order.reservedChannelKeyIndex.toNat before :=
  have spec := release_spec read release
  ⟨spec.releasable, spec.preserved read⟩

section Slots
def holding (keyIndex : Int) : ManualOrder where
  id := 1
  userId := 2
  planId := 3
  tradeNo := "paid"
  reservedChannelId := 7
  reservedChannelKeyIndex := keyIndex

def dayPass (keyIndex : Int) : UserSubscription where
  id := 5
  parentUserSubscriptionId := 4
  specificChannelId := 7
  specificChannelKeyIndex := keyIndex

def slots (keyIndex pass task spent : Int) : SlotTables where
  manual := { base := { subscriptions := [dayPass pass] }, orders := [holding keyIndex] }
  channels := [
    { id := 7
      key := "a\nb\nc"
      info :=
        { isMultiKey := true
          multiKeySize := 3
          multiKeyUsedQuota := fun index => if spent ≤ index ∧ index ≤ 2 then some 900 else none } }]
  tasks := [⟨3, 7, TaskStatus.inProgress, some task⟩]

def freed (keyIndex : Int) (tables : SlotTables) : SlotTables :=
  ((releaseReservedChannelSlotTx (holding keyIndex) tables).map fun result =>
    result.2.2).getD tables

private theorem bound_in_slots {keyIndex pass task spent : Int} {at_ : Int × Int}
    (bound : (slots keyIndex pass task spent).binding holder = some at_) :
    holder = .order 1 ∨ (holder = .subscription 5 ∧ at_ = (7, pass)) ∨
      (holder = .task 3 ∧ at_ = (7, task)) := by
  cases holder with
  | order id =>
    obtain ⟨order, found, -⟩ := Option.map_eq_some_iff.mp bound
    have here : order = holding keyIndex := List.mem_singleton.mp (lookup_mem found)
    exact .inl (by rw [← lookup_key found, here]; rfl)
  | subscription id =>
    obtain ⟨sub, found, rfl⟩ := Option.map_eq_some_iff.mp bound
    obtain rfl : sub = dayPass pass := List.mem_singleton.mp (lookup_mem found)
    exact .inr (.inl ⟨congrArg _ (lookup_key found).symm, rfl⟩)
  | token id => cases bound
  | task id =>
    obtain ⟨row, left_, index⟩ := Option.bind_eq_some_iff.mp bound
    have found := (Option.filter_eq_some_iff.mp left_).1
    obtain rfl := List.mem_singleton.mp (lookup_mem found)
    exact .inr (.inr ⟨congrArg _ (lookup_key found).symm, (Option.some.inj index).symm⟩)

/-- The second key is released. The day pass of the third follows it to where the
second was, and a task stays with the first. -/
theorem middle_slot_released :
    let before := slots 1 2 0 1
    let after := freed 1 before
    before.binding (.subscription 5) = some (7, 2) ∧ after.binding (.subscription 5) = some (7, 1) ∧
      Preserved (fun _ => True) 7 1 before after := by
  intro before after
  refine ⟨by decide, by decide, (@release_preserves_iff _ (holding 1) (unbind (holding 1))
    before after rfl rfl).mpr ⟨.inr ⟨by decide, by decide, by decide, by decide, by decide⟩,
      fun index within later => ?_, fun id index bound later => ?_, fun holder _ other bound => ?_⟩⟩
  · have last : index = 2 := by
      have three : (before.keys 7).length = 3 := by decide
      change index < (before.keys 7).length at within
      change 1 < index at later
      omega
    subst last
    rfl
  · rcases bound_in_slots bound with impossible | ⟨impossible, -⟩ | ⟨-, first⟩
    · cases impossible
    · cases impossible
    · obtain rfl : index = 0 := congrArg Prod.snd first
      exact absurd later (by decide)
  · rcases bound_in_slots bound with order | ⟨-, third⟩ | ⟨-, first⟩
    · exact absurd order other
    · exact absurd (congrArg Prod.snd third) (by decide)
    · exact absurd (congrArg Prod.snd first) (by decide)

/-- The first key is released: the task and the day pass are led to the keys of
others, and the used quota of the third key stays where it was. -/
theorem first_slot_released :
    let before := slots 0 0 1 2
    let after := freed 0 before
    before.keys 7 = ["a", "b", "c"] ∧ after.keys 7 = ["b", "c"] ∧
      after.binding (.task 3) = some (7, 1) ∧
      after.binding (.subscription 5) = some (7, 0) ∧
      (keyData (before.row 7).info 2).usedQuota = 900 ∧
      (keyData (after.row 7).info 1).usedQuota = 0 ∧
      ¬ ∀ live order released before after, before.manual.order order.id = some order →
        releaseReservedChannelSlotTx order before = some (true, released, after) →
        Preserved live order.reservedChannelId order.reservedChannelKeyIndex.toNat before
          after := by
  refine ⟨by decide, by decide, by decide, by decide, by decide, by decide, fun always => ?_⟩
  have preserved := always (fun _ => False) (holding 0) (unbind (holding 0)) (slots 0 0 1 2)
    (freed 0 (slots 0 0 1 2)) rfl rfl
  obtain ⟨moved, bound, same⟩ := preserved.followed (.task 3) 1 (by decide) (by decide)
  have kept : (freed 0 (slots 0 0 1 2)).binding (.task 3) = some (7, 1) := by decide
  rw [kept] at bound
  obtain rfl : 1 = moved := congrArg Prod.snd (Option.some.inj bound)
  exact absurd same (by decide)

end Slots

end NewApi.SlotRelease
