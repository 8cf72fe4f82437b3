import NewApi.AbilityRows
import NewApi.RawJson

/-! The key column of a channel is one text: a key on each line, or a JSON array
whose elements are the keys. What reads it tells the two apart by the first
character; what writes it joins keys by newlines, whichever way they were held
before. -/
namespace NewApi.KeyColumn
open NewApi.Channels NewApi.GoText NewApi.RawJson
open NewApi.AbilityRows (fitKeys keepBelow)

/-! ## Reading and joining -/

/-- `strings.Trim(text, "\n")`. -/
def trimNewlines (text : String) : String :=
  String.ofList (trimBoth (· = '\n') text.toList)

def rawKeys (text : String) : Option (List String) :=
  if hasPrefix (trimSpace text) "[" then
    (rawArray (trimSpace text).toList).map (List.map String.ofList)
  else none

def lines (text : String) : List String := split '\n' (trimNewlines text)

/-- `model/channel.go::GetKeys`, of a channel as it is stored. -/
def getKeys (key : String) : List String :=
  if key = "" then [] else (rawKeys key).getD (lines key)

/-- `strings.Join(keys, "\n")`. -/
def joinLines (keys : List String) : String := "\n".intercalate keys

theorem to_list_join (keys : List String) :
    (joinLines keys).toList = ['\n'].intercalate (keys.map String.toList) :=
  String.toList_intercalate

theorem length_trim_both (drop : Char → Bool) (chars : List Char) :
    (trimBoth drop chars).length ≤ chars.length :=
  ((List.rdropWhile_prefix _ _).length_le).trans (List.dropWhile_suffix _).length_le

theorem intercalate_room (some_ : texts ≠ []) :
    (['\n'].intercalate texts).length + 1 = roomOf texts := by
  induction texts with
  | nil => contradiction
  | cons text texts ih =>
    cases texts with
    | nil => simp [roomOf]
    | cons next texts =>
      have rest := ih (List.cons_ne_nil _ _)
      simp only [List.intercalate_cons_cons, List.length_append, List.length_cons,
        List.length_nil, roomOf, List.map_cons, List.sum_cons] at rest ⊢
      omega

theorem raw_keys_room (read : rawKeys text = some keys) :
    roomOf (keys.map String.toList) + 1 ≤ text.toList.length := by
  unfold rawKeys at read
  split at read
  · obtain ⟨elements, array, rfl⟩ := Option.map_eq_some_iff.mp read
    have room := raw_array_room array
    have trimmed := length_trim_both isSpace text.toList
    have back : (elements.map String.ofList).map String.toList = elements := by
      simp [List.map_map, Function.comp_def]
    rw [trimSpace, String.toList_ofList] at room
    rw [back]
    exact room.trans trimmed
  · exact absurd read.symm (Option.some_ne_none _)

theorem joined_is_no_array {keys read : List String} (array : rawKeys (joinLines keys) = some read)
    (room : roomOf (keys.map String.toList) ≤ roomOf (read.map String.toList)) : keys = [] := by
  by_contra some_
  have longer := raw_keys_room array
  have length := @intercalate_room (keys.map String.toList) (by simpa using some_)
  rw [to_list_join] at longer
  omega

/-! ## Where reading undoes joining -/

structure Rejoins (keys : List String) : Prop where
  oneLine : ∀ key ∈ keys, '\n' ∉ key.toList
  first : keys.head? ≠ some ""
  last : keys.getLast? ≠ some ""
  noArray : rawKeys (joinLines keys) = none

theorem lines_one_line (member : key ∈ lines text) : '\n' ∉ key.toList :=
  split_plain member

theorem join_lines (text : String) : joinLines (lines text) = trimNewlines text := by
  rw [← String.toList_inj, to_list_join, lines, split, List.map_map]
  have back : String.toList ∘ String.ofList = id := by
    funext chars
    exact String.toList_ofList
  rw [back, List.map_id, List.intercalate_splitOn]

theorem rejoins_iff (filled : joinLines keys ≠ "") :
    getKeys (joinLines keys) = keys ↔ Rejoins keys := by
  rw [getKeys, if_neg filled]
  cases array : rawKeys (joinLines keys) with
  | some read =>
    constructor
    · intro same
      obtain rfl : read = keys := same
      exact absurd (congrArg joinLines (joined_is_no_array array le_rfl)) filled
    · intro rejoins
      exact absurd (array.symm.trans rejoins.noArray) (Option.some_ne_none _)
  | none =>
    rw [Option.getD_none]
    constructor
    · intro same
      have oneLine : ∀ key ∈ keys, '\n' ∉ key.toList := fun key member =>
        lines_one_line (same ▸ member)
      have trimmed : trimNewlines (joinLines keys) = joinLines keys := by
        rw [← join_lines, same]
      obtain ⟨first, last⟩ := (trim_join_iff oneLine filled).mp trimmed
      exact ⟨oneLine, first, last, array⟩
    · rintro ⟨oneLine, first, last, -⟩
      have trimmed : trimNewlines (joinLines keys) = joinLines keys :=
        (trim_join_iff oneLine filled).mpr ⟨first, last⟩
      have some_ : keys.map String.toList ≠ [] := by
        intro none_
        rw [List.map_eq_nil_iff] at none_
        exact filled (by rw [none_]; rfl)
      have pieces : ∀ piece ∈ keys.map String.toList, '\n' ∉ piece := by
        intro piece member
        obtain ⟨key, isKey, rfl⟩ := List.mem_map.mp member
        exact oneLine key isKey
      rw [lines, trimmed, split, to_list_join, List.splitOn_intercalate _ pieces some_, List.map_map]
      simp [Function.comp_def]

/-! ## Update -/

structure KeyRow where
  key : String
  info : ChannelInfo

/-- The keys that `Update` counts. An empty array is read as lines. -/
def countedKeys (key : String) : List String :=
  if key = "" then []
  else
    let keys := (rawKeys key).getD []
    if keys = [] then lines key else keys

/-- A column that is written by `Updates`, which leaves out the empty text. -/
def writtenKey (stored key : String) : String := if key = "" then stored else key

/-- `model/channel.go::Update`, of a channel with many keys. Where the patch has
no key, the stored one is counted, if it can be read. -/
def update (patch : KeyRow) (readable : Bool) (row : KeyRow) : KeyRow :=
  let keyStr := if patch.key ≠ "" then patch.key else if readable then row.key else ""
  { key := writtenKey row.key patch.key
    info := fitKeys (countedKeys keyStr) patch.info }

def HasEntry (info : ChannelInfo) (index : Int) : Prop :=
  info.multiKeyStatusList index ≠ none ∨ info.multiKeyDisabledReason index ≠ none ∨
    info.multiKeyDisabledTime index ≠ none ∨ info.multiKeyUsedCount index ≠ none ∨
    info.multiKeyUsedQuota index ≠ none ∨ info.multiKeyMaxRequestCount index ≠ none

def Fits (row : KeyRow) : Prop :=
  row.info.multiKeySize = (getKeys row.key).length ∧
    ∀ index, HasEntry row.info index → index < row.info.multiKeySize

theorem lines_ne_nil (text : String) : lines text ≠ [] := split_ne_nil _ _

theorem counted_length_iff (key : String) :
    (countedKeys key).length = (getKeys key).length ↔ rawKeys key ≠ some [] := by
  unfold countedKeys getKeys
  split
  · rename_i empty
    have none_ : rawKeys key ≠ some [] := by
      rw [empty]
      decide
    exact iff_of_true rfl none_
  · cases array : rawKeys key with
    | none => simp
    | some keys =>
      cases keys with
      | nil =>
        have one := List.length_pos_of_ne_nil (lines_ne_nil key)
        simp only [Option.getD_some, if_true, List.length_nil, ne_eq, not_true_eq_false, iff_false]
        omega
      | cons => simp

theorem below_of_kept {Value : Type} {map : KeyMap Value} {size index : Int}
    (entry : keepBelow size map index ≠ none) : index < size := by
  unfold keepBelow at entry
  split at entry
  · contradiction
  · omega

theorem fitted_entries_iff {keys : List String} {info : ChannelInfo} (multi : info.isMultiKey = true) :
    (∀ index, HasEntry (fitKeys keys info) index → index < (fitKeys keys info).multiKeySize) ↔
      ∀ index, info.multiKeyUsedQuota index ≠ none → index < keys.length := by
  simp only [fitKeys, multi, if_true]
  constructor
  · intro within index entry
    exact within index (.inr (.inr (.inr (.inr (.inl entry)))))
  · intro within index entry
    rcases entry with entry | entry | entry | entry | entry | entry
    · exact below_of_kept entry
    · exact below_of_kept entry
    · exact below_of_kept entry
    · exact below_of_kept entry
    · exact within index entry
    · exact below_of_kept entry

/-- An edit leaves the key data within the keys if and only if the keys are not an
empty array and no used quota is noted beyond them. -/
theorem update_fits_iff (patch row : KeyRow) (readable : Bool) (multi : patch.info.isMultiKey = true) :
    Fits (update patch readable row) ↔
      (if patch.key = "" ∧ readable = false then getKeys row.key = []
        else rawKeys (writtenKey row.key patch.key) ≠ some []) ∧
      ∀ index, patch.info.multiKeyUsedQuota index ≠ none →
        index < (getKeys (writtenKey row.key patch.key)).length := by
  have size : ∀ keys : List String, (fitKeys keys patch.info).multiKeySize = keys.length := by
    intro keys
    rw [fitKeys, if_pos multi]
  unfold Fits update
  dsimp only
  rw [fitted_entries_iff multi, size]
  by_cases unread : patch.key = "" ∧ readable = false
  · rw [if_pos unread, unread.1, unread.2, writtenKey]
    simp only [ne_eq, not_true_eq_false, if_false, if_true, countedKeys, List.length_nil,
      Bool.false_eq_true]
    cases keys : getKeys row.key with
    | nil => simp
    | cons key keys =>
      refine iff_of_false (fun same => ?_) (fun none_ => List.cons_ne_nil _ _ none_.1)
      exact absurd same.1 (by simp only [List.length_cons]; omega)
  · rw [if_neg unread]
    have counted : (if patch.key ≠ "" then patch.key else if readable = true then row.key else "") =
        writtenKey row.key patch.key := by
      unfold writtenKey
      by_cases given : patch.key = ""
      · have read : readable = true := by
          by_contra unreadable
          exact unread ⟨given, Bool.eq_false_of_not_eq_true unreadable⟩
        simp [given, read]
      · simp [given]
    rw [counted]
    constructor
    · rintro ⟨same, within⟩
      have length : (countedKeys (writtenKey row.key patch.key)).length =
          (getKeys (writtenKey row.key patch.key)).length := by exact_mod_cast same
      exact ⟨(counted_length_iff _).mp length, fun index entry => by
        rw [← length]
        exact within index entry⟩
    · rintro ⟨filled, within⟩
      have length := (counted_length_iff _).mpr filled
      exact ⟨by rw [length], fun index entry => by
        rw [length]
        exact within index entry⟩

section Replaced
def twoKeys : ChannelInfo where
  isMultiKey := true
  multiKeySize := 2
  multiKeyStatusList index := if index = 1 then some .autoDisabled else none
  multiKeyUsedCount index := if index = 1 then some 7 else none

def usedKeys : ChannelInfo where
  isMultiKey := true
  multiKeySize := 2
  multiKeyUsedQuota index := if index = 1 then some 500 else none

/-- Two keys are replaced by one, and no quota was noted of the second. -/
theorem shortened_list_fits : Fits (update ⟨"c", twoKeys⟩ true ⟨"a\nb", twoKeys⟩) :=
  (update_fits_iff ⟨"c", twoKeys⟩ ⟨"a\nb", twoKeys⟩ true rfl).mpr
    ⟨by decide, fun _ entry => absurd rfl entry⟩

/-- The used quota of a second key stays when there is only one, and an empty array
has the size 1 and no keys. -/
theorem used_quota_outlives_key :
    (update ⟨"c", usedKeys⟩ true ⟨"a\nb", usedKeys⟩).info.multiKeyUsedQuota 1 = some 500 ∧
      (update ⟨"c", usedKeys⟩ true ⟨"a\nb", usedKeys⟩).info.multiKeySize = 1 ∧
      (update ⟨"[]", twoKeys⟩ true ⟨"a\nb", twoKeys⟩).info.multiKeySize = 1 ∧
      getKeys (update ⟨"[]", twoKeys⟩ true ⟨"a\nb", twoKeys⟩).key = [] ∧
      ¬ ∀ patch readable row, patch.info.isMultiKey = true → Fits (update patch readable row) := by
  refine ⟨by decide, by decide, by decide, by decide, fun always => ?_⟩
  have fits := (always ⟨"[]", twoKeys⟩ true ⟨"a\nb", twoKeys⟩ rfl).1
  exact absurd fits (by decide)

end Replaced

end NewApi.KeyColumn
