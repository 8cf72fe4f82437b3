import NewApi.ChannelInfoWrites
import NewApi.KeyColumn
import Mathlib.Algebra.Order.BigOperators.Group.List
import Mathlib.Algebra.Order.Group.Nat

/-! Keys are appended to the column of a channel and deleted from it, while
tokens, subscriptions and tasks refer to them by index. The column is parsed,
changed as a list, and joined by newlines. -/
namespace NewApi.KeyListEdits
open NewApi.Channels NewApi.GoText NewApi.RawJson NewApi.KeyColumn
open NewApi.AbilityRows (fitKeys keepBelow)

/-! ## Appending -/

/-- What decoding makes of an element of a JSON array: a string, or something else
as `json.Marshal` prints it. -/
inductive Element where
  | text (value : String)
  | other (marshalled : String)

/-- The standard library's decoder of one element; a number that no float holds is
refused. -/
structure Codec where
  decode : String → Option Element

/-- `controller/channel.go::getVertexArrayKeys`; `none` is an error. -/
def getVertexArrayKeys (codec : Codec) (keys : String) : Option (List String) :=
  (rawArray keys.toList).bind fun array =>
    (array.mapM fun raw => codec.decode (String.ofList raw)).bind fun keyArray =>
      let cleanKeys := (keyArray.map fun
        | .text value => trimSpace value
        | .other marshalled => marshalled).filter (· ≠ "")
      if cleanKeys = [] then none else some cleanKeys

/-- The keys of an appended text. `vertexJson` says that the channel's keys are
the JSON credentials of Vertex AI. -/
def newKeys (codec : Codec) (vertexJson : Bool) (text : String) : Option (List String) :=
  if vertexJson then
    if hasPrefix (trimSpace text) "[" then getVertexArrayKeys codec text else some [text]
  else some (((split '\n' text).map trimSpace).filter (· ≠ ""))

def existingKeys (stored : String) : List String :=
  if hasPrefix (trimSpace stored) "[" then (rawKeys stored).getD [] else lines stored

def collect (seen : List String) : List String → List String
  | [] => []
  | key :: rest =>
    let normalized := trimSpace key
    if normalized = "" ∨ normalized ∈ seen then collect seen rest
    else normalized :: collect (normalized :: seen) rest

def dedupedNewKeys (existing new : List String) : List String :=
  collect ((existing.map trimSpace).filter (· ≠ "")) new

/-- `controller/channel.go::UpdateChannel` with the key mode append, of a channel
with many keys: the key that `Update` is given. -/
def appendKeys (codec : Codec) (vertexJson : Bool) (stored text : String) : Option String :=
  if stored = "" then some text
  else (newKeys codec vertexJson text).map fun new =>
    joinLines (existingKeys stored ++ dedupedNewKeys (existingKeys stored) new)

def AppendsInPlace (codec : Codec) (vertexJson : Bool) (stored text : String) : Prop :=
  ∀ key new, appendKeys codec vertexJson stored text = some key →
    newKeys codec vertexJson text = some new →
    getKeys (writtenKey stored key) = getKeys stored ++ dedupedNewKeys (getKeys stored) new

/-! ### The new keys -/

theorem mem_collect :
    key ∈ collect seen new ↔ key ∈ new.map trimSpace ∧ key ≠ "" ∧ key ∉ seen := by
  induction new generalizing seen with
  | nil => simp [collect]
  | cons first new ih =>
    rw [collect, List.map_cons, List.mem_cons]
    split
    · rename_i skipped
      rw [ih]
      refine ⟨fun ⟨later, rest⟩ => ⟨.inr later, rest⟩, ?_⟩
      rintro ⟨rfl | later, filled, unseen⟩
      · rcases skipped with empty | already
        · contradiction
        · contradiction
      · exact ⟨later, filled, unseen⟩
    · rename_i taken
      obtain ⟨filled, unseen⟩ := not_or.mp taken
      rw [List.mem_cons, ih, List.mem_cons, not_or]
      constructor
      · rintro (rfl | ⟨later, some_, -, rest⟩)
        · exact ⟨.inl rfl, filled, unseen⟩
        · exact ⟨.inr later, some_, rest⟩
      · rintro ⟨rfl | later, some_, rest⟩
        · exact .inl rfl
        · by_cases same : key = trimSpace first
          · exact .inl same
          · exact .inr ⟨later, some_, same, rest⟩

theorem collect_nodup (seen new : List String) : (collect seen new).Nodup := by
  induction new generalizing seen with
  | nil => exact List.nodup_nil
  | cons first new ih =>
    rw [collect]
    split
    · exact ih seen
    · refine List.nodup_cons.mpr ⟨fun member => ?_, ih _⟩
      exact (mem_collect.mp member).2.2 List.mem_cons_self

theorem mem_deduped :
    key ∈ dedupedNewKeys existing new ↔
      key ∈ new.map trimSpace ∧ key ≠ "" ∧ key ∉ existing.map trimSpace := by
  rw [dedupedNewKeys, mem_collect]
  refine and_congr_right fun _ => and_congr_right fun filled => not_congr ?_
  simp [filled]

theorem deduped_nodup (existing new : List String) : (dedupedNewKeys existing new).Nodup :=
  collect_nodup _ _

/-! ### Where the keys stay in place -/

def Unparsable (stored : String) : Prop :=
  hasPrefix (trimSpace stored) "[" = true ∧ rawKeys stored = none

def Appendable (stored : String) (new : List String) : Prop :=
  let joined := existingKeys stored ++ dedupedNewKeys (existingKeys stored) new
  joinLines joined = "" ∨
    (Unparsable stored → joined = getKeys stored ++ dedupedNewKeys (getKeys stored) new) ∧ Rejoins joined

theorem existing_of_parsable (filled : stored ≠ "")
    (parsable : ¬ Unparsable stored) : existingKeys stored = getKeys stored := by
  rw [existingKeys, getKeys, if_neg filled]
  by_cases array : hasPrefix (trimSpace stored) "[" = true
  · rw [if_pos array]
    cases read : rawKeys stored with
    | none => exact absurd ⟨array, read⟩ parsable
    | some keys => rw [Option.getD_some, Option.getD_some]
  · rw [if_neg array, rawKeys, if_neg array, Option.getD_none]

theorem existing_of_unparsable (filled : stored ≠ "")
    (unparsable : Unparsable stored) : existingKeys stored = [] ∧ getKeys stored = lines stored := by
  rw [existingKeys, getKeys, if_neg filled, if_pos unparsable.1, unparsable.2, Option.getD_none,
    Option.getD_none]
  exact ⟨rfl, rfl⟩

theorem joined_empty (empty : joinLines keys = "") : ∀ key ∈ keys, key = "" := by
  intro key member
  have some_ : keys.map String.toList ≠ [] := by
    rw [Ne, List.map_eq_nil_iff]
    exact List.ne_nil_of_mem member
  have room := intercalate_room some_
  rw [← to_list_join, empty, roomOf, List.length_map] at room
  have one : 0 < keys.length := List.length_pos_of_mem member
  have total : ((keys.map String.toList).map List.length).sum = 0 := by
    have none_ : "".toList.length = 0 := rfl
    omega
  have short := List.sum_eq_zero_iff.mp total key.toList.length
    (List.mem_map.mpr ⟨_, List.mem_map.mpr ⟨key, member, rfl⟩, rfl⟩)
  rw [← String.toList_inj]
  exact List.eq_nil_of_length_eq_zero short

theorem nothing_joined
    (empty : joinLines (existing ++ dedupedNewKeys existing new) = "") (old : List String) :
    dedupedNewKeys old new = [] := by
  have blank := joined_empty empty
  refine List.eq_nil_iff_forall_not_mem.mpr fun key member => ?_
  obtain ⟨isNew, filled, -⟩ := mem_deduped.mp member
  by_cases known : key ∈ existing.map trimSpace
  · obtain ⟨one, isOne, rfl⟩ := List.mem_map.mp known
    refine filled ?_
    rw [blank one (List.mem_append_left _ isOne), trim_space_empty]
  · exact filled (blank key (List.mem_append_right _ (mem_deduped.mpr ⟨isNew, filled, known⟩)))

/-! ### A text that is no array after all -/

theorem room_eq_sum (texts : List (List Char)) :
    roomOf texts = (texts.map fun text => text.length + 1).sum := by
  induction texts with
  | nil => rfl
  | cons text texts ih =>
    rw [List.map_cons, List.sum_cons, ← ih]
    simp only [roomOf, List.map_cons, List.sum_cons, List.length_cons]
    omega

theorem room_le_of_subset (nodup : texts.Nodup)
    (within : texts ⊆ more) : roomOf texts ≤ roomOf more := by
  obtain ⟨middle, perm, sublist⟩ := List.subperm_of_subset nodup within
  rw [room_eq_sum, room_eq_sum, ← (perm.map _).sum_eq]
  exact (sublist.map _).sum_le_sum fun _ _ => Nat.zero_le _

theorem room_append (texts more : List (List Char)) :
    roomOf (texts ++ more) = roomOf texts + roomOf more := by
  rw [room_eq_sum, room_eq_sum, room_eq_sum, List.map_append, List.sum_append]

theorem room_trimmed (keys : List String) :
    roomOf ((keys.map trimSpace).map String.toList) ≤ roomOf (keys.map String.toList) := by
  rw [room_eq_sum, room_eq_sum, List.map_map, List.map_map, List.map_map]
  refine List.sum_le_sum fun key _ => ?_
  have shorter := length_trim_both isSpace key.toList
  simp only [Function.comp_apply, trimSpace, String.toList_ofList]
  omega

theorem trimmed_one_line (oneLine : '\n' ∉ key.toList) : '\n' ∉ (trimSpace key).toList := by
  rw [trimSpace, String.toList_ofList, trimBoth]
  intro member
  exact oneLine ((List.dropWhile_suffix _).subset ((List.rdropWhile_prefix _ _).subset member))

theorem deduped_within (old new : List String) :
    dedupedNewKeys [] new ⊆ old.map trimSpace ++ dedupedNewKeys old new := by
  intro key member
  obtain ⟨isNew, filled, -⟩ := mem_deduped.mp member
  by_cases known : key ∈ old.map trimSpace
  · exact List.mem_append_left _ known
  · exact List.mem_append_right _ (mem_deduped.mpr ⟨isNew, filled, known⟩)

theorem replaced_rejoins (oneLine : ∀ key ∈ old, '\n' ∉ key.toList)
    (filled : joinLines (dedupedNewKeys [] new) ≠ "")
    (read : getKeys (joinLines (dedupedNewKeys [] new)) = old ++ dedupedNewKeys old new) :
    Rejoins (dedupedNewKeys [] new) := by
  have within := deduped_within old new
  cases array : rawKeys (joinLines (dedupedNewKeys [] new)) with
  | some elements =>
    obtain rfl : elements = old ++ dedupedNewKeys old new := by
      rw [getKeys, if_neg filled, array] at read
      exact read
    have nodup : ((dedupedNewKeys [] new).map String.toList).Nodup :=
      (deduped_nodup [] new).map fun _ _ same => String.toList_inj.mp same
    have room := room_le_of_subset nodup (List.map_subset _ within)
    have trimmed := room_trimmed old
    rw [List.map_append, room_append] at room
    have none_ := joined_is_no_array array (by rw [List.map_append, room_append]; omega)
    exact absurd (by rw [none_]; rfl) filled
  | none =>
    rw [getKeys, if_neg filled, array, Option.getD_none] at read
    have readLines : ∀ key ∈ old ++ dedupedNewKeys old new, '\n' ∉ key.toList := by
      intro key member
      rw [← read] at member
      exact lines_one_line member
    have nonempty : ∀ key ∈ dedupedNewKeys [] new, key ≠ "" := fun key member =>
      (mem_deduped.mp member).2.1
    refine ⟨fun key member => ?_, fun first => ?_, fun last => ?_, array⟩
    · rcases List.mem_append.mp (within member) with known | fresh
      · obtain ⟨one, isOne, rfl⟩ := List.mem_map.mp known
        exact trimmed_one_line (oneLine one isOne)
      · exact readLines key (List.mem_append_right _ fresh)
    · exact nonempty "" (List.mem_of_mem_head? first) rfl
    · exact nonempty "" (List.mem_of_getLast? last) rfl

theorem stored_appends_iff (new : List String) (filled : stored ≠ "") :
    getKeys (writtenKey stored
        (joinLines (existingKeys stored ++ dedupedNewKeys (existingKeys stored) new))) =
      getKeys stored ++ dedupedNewKeys (getKeys stored) new ↔ Appendable stored new := by
  unfold Appendable writtenKey
  dsimp only
  by_cases empty : joinLines (existingKeys stored ++ dedupedNewKeys (existingKeys stored) new) = ""
  · rw [if_pos empty, nothing_joined empty (getKeys stored), List.append_nil]
    exact iff_of_true rfl (.inl empty)
  · rw [if_neg empty, or_iff_right empty]
    by_cases unparsable : Unparsable stored
    · obtain ⟨dropped, asLines⟩ := existing_of_unparsable filled unparsable
      rw [dropped, List.nil_append] at empty ⊢
      have oneLine : ∀ key ∈ getKeys stored, '\n' ∉ key.toList := fun key member =>
        lines_one_line (asLines ▸ member)
      constructor
      · intro read
        have rejoins := replaced_rejoins oneLine empty read
        exact ⟨fun _ => ((rejoins_iff empty).mpr rejoins).symm.trans read, rejoins⟩
      · rintro ⟨same, rejoins⟩
        exact ((rejoins_iff empty).mpr rejoins).trans (same unparsable)
    · rw [existing_of_parsable filled unparsable] at empty ⊢
      rw [rejoins_iff empty]
      exact ⟨fun rejoins => ⟨fun _ => rfl, rejoins⟩, fun both => both.2⟩

/-- An append leaves the old keys in their places, for every stored and every
appended text, if and only if the list it joins begins with them and reads back. -/
theorem appends_in_place_iff (codec : Codec) (vertexJson : Bool) (stored text : String) :
    AppendsInPlace codec vertexJson stored text ↔
      ∀ new, newKeys codec vertexJson text = some new →
        if stored = "" then getKeys text = dedupedNewKeys [] new else Appendable stored new := by
  unfold AppendsInPlace appendKeys
  by_cases empty : stored = ""
  · have written : writtenKey stored text = text := by
      unfold writtenKey
      split
      · rename_i none_
        rw [empty, none_]
      · rfl
    simp only [empty, if_true] at written ⊢
    refine ⟨fun inPlace new isNew => ?_, fun listed key new same isNew => ?_⟩
    · have read := inPlace text new rfl isNew
      rwa [written] at read
    · obtain rfl := Option.some.inj same
      rw [written]
      exact listed new isNew
  · simp only [empty, if_false]
    refine ⟨fun inPlace new isNew => ?_, fun appendable key new same isNew => ?_⟩
    · exact (stored_appends_iff new empty).mp (inPlace _ new (by rw [isNew]; rfl) isNew)
    · rw [isNew] at same
      obtain rfl := Option.some.inj same
      exact (stored_appends_iff new empty).mpr (appendable new isNew)

/-- A credential on three lines is three keys after an append. Text that looks like
an array and is none is dropped. An array in an array is its elements. -/
theorem appended_keys_move :
    getKeys "[\x7b\n\"a\": 1\n\x7d]" = ["\x7b\n\"a\": 1\n\x7d"] ∧
      (appendKeys ⟨fun _ => none⟩ false "[\x7b\n\"a\": 1\n\x7d]" "b").map getKeys =
        some ["\x7b", "\"a\": 1", "\x7d", "b"] ∧
      (appendKeys ⟨fun _ => none⟩ false "[a" "b").map getKeys = some ["b"] ∧
      (appendKeys ⟨fun _ => none⟩ false "[[1]]" "").map getKeys = some ["1"] ∧
      ¬ ∀ codec vertexJson stored text, AppendsInPlace codec vertexJson stored text := by
  refine ⟨by decide, by decide, by decide, by decide, fun always => ?_⟩
  have read := always ⟨fun _ => none⟩ false "[a" "b" "b" ["b"] (by decide) (by decide)
  exact absurd read (by decide)

/-! ## Deleting -/

open NewApi.ChannelInfoWrites (Kept Operation keepKeys keyInRange manage reindex_at statusAt)

/-- What refers to a key of the channel by its index. -/
inductive BindingSource where
  | token
  | subscription
  | task
  deriving DecidableEq, Repr

structure Binding where
  source : BindingSource
  keyIndex : Nat
  deriving DecidableEq, Repr

/-- `model/token.go::GetActiveSpecificChannelKeyBindingCountMap`: tokens alone are
counted. -/
def bindingCountMap (bindings : List Binding) : Int → Int := fun keyIndex =>
  (bindings.filter fun binding => binding.source = .token ∧ (binding.keyIndex : Int) = keyIndex).length

/-- The deletions of `controller/channel.go::ManageMultiKeys`. -/
inductive Deletion where
  | key (keyIndex : Option Int)
  | disabledKeys

def Deletion.operation (bindings : List Binding) : Deletion → Operation
  | .key keyIndex => .deleteKey keyIndex (some (bindingCountMap bindings))
  | .disabledKeys => .deleteDisabledKeys (some (bindingCountMap bindings))

def channelOf (row : KeyRow) : Channel where
  id := 0
  keys := getKeys row.key
  channelInfo := row.info

/-- `controller/channel.go::ManageMultiKeys` with a deletion: the row that it
leaves; `none` says that it is refused. -/
def deleteKeys (bindings : List Binding) (deletion : Deletion) (row : KeyRow) : Option KeyRow :=
  (manage (deletion.operation bindings) (channelOf row)).map fun patch =>
    update ⟨joinLines patch.keys, patch.channelInfo⟩ true row

def survivors (bindings : List Binding) (deletion : Deletion) (row : KeyRow) : Kept :=
  match deletion with
  | .key keyIndex => (getKeys row.key).zipIdx.filter fun key => some (key.2 : Int) ≠ keyIndex
  | .disabledKeys => (getKeys row.key).zipIdx.filter fun key =>
    statusAt row.info key.2 ≠ .autoDisabled || bindingCountMap bindings key.2 > 0

def Deletion.noted (row : KeyRow) : Deletion → Nat → Bool
  | .key _ => fun _ => true
  | .disabledKeys => fun index => statusAt row.info index ≠ .enabled

structure KeyData where
  status : ChannelStatus
  disabledTime : Option Int
  disabledReason : Option String
  usedCount : Int
  usedQuota : Int
  maxRequestCount : Int
  deriving DecidableEq, Repr

def keyData (info : ChannelInfo) (index : Nat) : KeyData where
  status := statusAt info index
  disabledTime := info.multiKeyDisabledTime index
  disabledReason := info.multiKeyDisabledReason index
  usedCount := (info.multiKeyUsedCount index).getD 0
  usedQuota := (info.multiKeyUsedQuota index).getD 0
  maxRequestCount := (info.multiKeyMaxRequestCount index).getD 0

/-- The column lists the keys that are left, each with what was noted of it, and
what referred to one of them refers to it still. -/
structure Preserved (bindings : List Binding) (kept : Kept) (row left_ : KeyRow) : Prop where
  keys : getKeys left_.key = kept.map Prod.fst
  noted : ∀ (place : Nat) (key : String × Nat), kept[place]? = some key →
    keyData left_.info place = keyData row.info key.2
  resolved : ∀ binding ∈ bindings, ∀ key ∈ kept, key.2 = binding.keyIndex →
    (getKeys left_.key)[binding.keyIndex]? = some key.1

/-- What a deletion must find for that: the list reads back, every key has used as
much as the one whose index it gets, an enabled key has no time or reason, and the
keys that are referred to have the same text after the shift. -/
structure Shiftable (bindings : List Binding) (kept : Kept) (noted : Nat → Bool) (row : KeyRow) :
    Prop where
  rejoins : if joinLines (kept.map Prod.fst) = "" then getKeys row.key = kept.map Prod.fst
    else Rejoins (kept.map Prod.fst)
  usedQuota : ∀ (place : Nat) (key : String × Nat), kept[place]? = some key →
    (row.info.multiKeyUsedQuota place).getD 0 = (row.info.multiKeyUsedQuota key.2).getD 0
  unnoted : ∀ key ∈ kept, noted key.2 = false →
    row.info.multiKeyDisabledTime key.2 = none ∧ row.info.multiKeyDisabledReason key.2 = none
  resolved : ∀ binding ∈ bindings, ∀ key ∈ kept, key.2 = binding.keyIndex →
    (kept.map Prod.fst)[binding.keyIndex]? = some key.1

theorem managed_survivors
    (managed : manage (deletion.operation bindings) (channelOf row) = some patch) :
    patch = keepKeys (survivors bindings deletion row) (deletion.noted row) (channelOf row) := by
  cases deletion with
  | key keyIndex =>
    simp only [Deletion.operation, manage] at managed
    cases asked : keyInRange (channelOf row) keyIndex with
    | none =>
      rw [asked] at managed
      contradiction
    | some index =>
      obtain ⟨rfl, -⟩ := Option.filter_eq_some_iff.mp asked
      rw [asked] at managed
      dsimp only at managed
      split at managed
      · contradiction
      split at managed
      · contradiction
      obtain rfl := Option.some.inj managed
      simp only [survivors, ne_eq, Option.some.injEq]
      rfl
  | disabledKeys =>
    simp only [Deletion.operation, manage] at managed
    split at managed
    · contradiction
    · exact (Option.some.inj managed).symm

theorem delete_keeps
    (deleted : deleteKeys bindings deletion row = some left_) :
    let kept := survivors bindings deletion row
    left_ = update ⟨joinLines (kept.map Prod.fst),
      (keepKeys kept (deletion.noted row) (channelOf row)).channelInfo⟩ true row := by
  obtain ⟨patch, managed, rfl⟩ := Option.map_eq_some_iff.mp deleted
  rw [managed_survivors managed]
  rfl

theorem kept_below {Value : Type} {size : Nat} {map : KeyMap Value} {place : Nat}
    (within : place < size) : keepBelow size map place = map place :=
  if_neg (by omega)

theorem counted_kept {kept : Kept} {key : String} {place : Nat}
    (listed : getKeys key = kept.map Prod.fst) (within : place < kept.length) :
    place < (countedKeys key).length := by
  have filled : rawKeys key ≠ some [] := by
    intro array
    have read : getKeys key = [] := by
      rw [getKeys]
      split
      · rfl
      · rw [array, Option.getD_some]
    rw [read] at listed
    rw [List.map_eq_nil_iff.mp listed.symm] at within
    exact absurd within (Nat.not_lt_zero _)
  rw [(counted_length_iff key).mpr filled, listed, List.length_map]
  exact within

theorem kept_data {kept : Kept} {noted : Nat → Bool} {row : KeyRow} (multi : row.info.isMultiKey = true)
    (listed : getKeys (writtenKey row.key (joinLines (kept.map Prod.fst))) = kept.map Prod.fst)
    {place : Nat} {key : String × Nat} (isKept : kept[place]? = some key) :
    keyData (update ⟨joinLines (kept.map Prod.fst),
        (keepKeys kept noted (channelOf row)).channelInfo⟩ true row).info place =
      { keyData row.info key.2 with
        disabledTime := if noted key.2 then row.info.multiKeyDisabledTime key.2 else none
        disabledReason := if noted key.2 then row.info.multiKeyDisabledReason key.2 else none
        usedQuota := (row.info.multiKeyUsedQuota place).getD 0 } := by
  have within : place < (countedKeys (writtenKey row.key (joinLines (kept.map Prod.fst)))).length :=
    counted_kept listed (List.getElem?_eq_some_iff.mp isKept).choose
  have counted : (if joinLines (kept.map Prod.fst) ≠ "" then joinLines (kept.map Prod.fst)
      else if true = true then row.key else "") =
      writtenKey row.key (joinLines (kept.map Prod.fst)) := by
    unfold writtenKey
    split_ifs <;> first | rfl | contradiction
  have multi' : (keepKeys kept noted (channelOf row)).channelInfo.isMultiKey = true := multi
  have status : ((row.info.multiKeyStatusList key.2).filter fun status => status ≠ .enabled).getD
      .enabled = (row.info.multiKeyStatusList key.2).getD .enabled := by
    cases row.info.multiKeyStatusList key.2 with
    | none => rfl
    | some status => cases status <;> rfl
  unfold update
  dsimp only
  rw [counted, fitKeys, if_pos multi']
  simp only [keyData, statusAt, kept_below within, keepKeys, channelOf, reindex_at isKept]
  rw [status]

theorem listed_iff (kept : Kept) (row : KeyRow) :
    getKeys (writtenKey row.key (joinLines (kept.map Prod.fst))) = kept.map Prod.fst ↔
      if joinLines (kept.map Prod.fst) = "" then getKeys row.key = kept.map Prod.fst
      else Rejoins (kept.map Prod.fst) := by
  unfold writtenKey
  split
  · exact Iff.rfl
  · rename_i filled
    exact rejoins_iff filled

/-- A deletion keeps the other keys, with what was noted of them and what refers to
them, if and only if the column, the used quotas and the references bear the shift. -/
theorem deletion_preserves_iff {bindings : List Binding} {deletion : Deletion} {row left_ : KeyRow}
    (multi : row.info.isMultiKey = true)
    (deleted : deleteKeys bindings deletion row = some left_) :
    Preserved bindings (survivors bindings deletion row) row left_ ↔
      Shiftable bindings (survivors bindings deletion row) (deletion.noted row) row := by
  obtain rfl := delete_keeps deleted
  generalize survivors bindings deletion row = kept
  generalize deletion.noted row = noted
  have column : (update ⟨joinLines (kept.map Prod.fst),
      (keepKeys kept noted (channelOf row)).channelInfo⟩ true row).key =
      writtenKey row.key (joinLines (kept.map Prod.fst)) := rfl
  constructor
  · rintro ⟨listed, same, resolved⟩
    rw [column] at listed resolved
    have data : ∀ (place : Nat) (key : String × Nat), kept[place]? = some key →
        (if noted key.2 then row.info.multiKeyDisabledTime key.2 else none) =
          row.info.multiKeyDisabledTime key.2 ∧
        (if noted key.2 then row.info.multiKeyDisabledReason key.2 else none) =
          row.info.multiKeyDisabledReason key.2 ∧
        (row.info.multiKeyUsedQuota place).getD 0 = (row.info.multiKeyUsedQuota key.2).getD 0 := by
      intro place key isKept
      have noted' := same place key isKept
      rw [kept_data multi listed isKept] at noted'
      exact ⟨congrArg KeyData.disabledTime noted', congrArg KeyData.disabledReason noted',
        congrArg KeyData.usedQuota noted'⟩
    refine ⟨(listed_iff kept row).mp listed, fun place key isKept => (data place key isKept).2.2,
      fun key member unnoted => ?_, fun binding bound key member index => ?_⟩
    · obtain ⟨place, isKept⟩ := List.getElem?_of_mem member
      obtain ⟨time, reason, -⟩ := data place key isKept
      rw [unnoted] at time reason
      exact ⟨time.symm, reason.symm⟩
    · rw [← listed]
      exact resolved binding bound key member index
  · rintro ⟨rejoins, usedQuota, unnoted, resolved⟩
    have listed := (listed_iff kept row).mpr rejoins
    refine ⟨listed, fun place key isKept => ?_, fun binding bound key member index => ?_⟩
    · have member := List.mem_of_getElem? isKept
      have time : (if noted key.2 then row.info.multiKeyDisabledTime key.2 else none) =
          row.info.multiKeyDisabledTime key.2 := by
        cases isNoted : noted key.2 with
        | true => rfl
        | false => exact (unnoted key member isNoted).1.symm
      have reason : (if noted key.2 then row.info.multiKeyDisabledReason key.2 else none) =
          row.info.multiKeyDisabledReason key.2 := by
        cases isNoted : noted key.2 with
        | true => rfl
        | false => exact (unnoted key member isNoted).2.symm
      rw [kept_data multi listed isKept, time, reason, usedQuota place key isKept]
      rfl
    · rw [column, listed]
      exact resolved binding bound key member index

section Shifted
def threeKeys : KeyRow where
  key := "a\nb\nc"
  info :=
    { isMultiKey := true
      multiKeySize := 3
      multiKeyStatusList := fun index => if index = 1 then some .autoDisabled else none
      multiKeyUsedCount := fun index => if index = 2 then some 7 else none
      multiKeyUsedQuota := fun index => if index = 2 then some 900 else none }

def leftOf (kept : Kept) : KeyRow :=
  update ⟨joinLines (kept.map Prod.fst),
    (keepKeys kept (fun _ => true) (channelOf threeKeys)).channelInfo⟩ true threeKeys

/-- The last key goes, and a task is bound to the first. -/
theorem last_key_deleted :
    Preserved [⟨.task, 0⟩] (survivors [⟨.task, 0⟩] (.key (some 2)) threeKeys) threeKeys
      (leftOf [("a", 0), ("b", 1)]) := by
  refine (@deletion_preserves_iff [⟨.task, 0⟩] (.key (some 2)) threeKeys _ rfl rfl).mpr
    ⟨⟨by decide, by decide, by decide, by decide⟩, fun place key isKept => ?_, by decide, by decide⟩
  have low : place < 2 := (List.getElem?_eq_some_iff.mp isKept).choose
  have unused : ∀ index : Nat, index < 2 → threeKeys.info.multiKeyUsedQuota index = none := by
    intro index within
    exact if_neg (by omega)
  obtain ⟨member, other⟩ := List.mem_filter.mp (List.mem_of_getElem? isKept)
  have old : key.2 < 3 := (List.mem_zipIdx member).2.1
  have other' : (key.2 : Int) ≠ 2 := by simpa using other
  rw [unused place low, unused key.2 (by omega)]

/-- The first key goes, and a task is bound to the third, whose used quota stays
where it was. -/
theorem later_keys_shift :
    deleteKeys [⟨.task, 2⟩] (.key (some 0)) threeKeys = some (leftOf [("b", 1), ("c", 2)]) ∧
      (keyData (leftOf [("b", 1), ("c", 2)]).info 1).usedQuota = 0 ∧
      (keyData threeKeys.info 2).usedQuota = 900 ∧
      (getKeys (leftOf [("b", 1), ("c", 2)]).key)[2]? = none ∧
      (getKeys threeKeys.key)[2]? = some "c" ∧
      ¬ ∀ bindings deletion row left_, row.info.isMultiKey = true →
        deleteKeys bindings deletion row = some left_ →
        Preserved bindings (survivors bindings deletion row) row left_ := by
  have deleted : deleteKeys [⟨.task, 2⟩] (.key (some 0)) threeKeys =
      some (leftOf [("b", 1), ("c", 2)]) := rfl
  refine ⟨deleted, by decide, by decide, by decide, by decide, fun always => ?_⟩
  have preserved := always _ _ _ _ rfl deleted
  have resolved := preserved.resolved ⟨.task, 2⟩ (by decide) ("c", 2) (by decide) rfl
  exact absurd resolved (by decide)

end Shifted

end NewApi.KeyListEdits
