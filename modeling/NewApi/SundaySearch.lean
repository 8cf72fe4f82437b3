import Mathlib.Data.List.Infix
import Mathlib.Logic.Relation
import NewApi.GoRunes

/-! The search for a pattern in a text that skips alignments. The comparison is one of
bytes, while the table of the skips is filled by the runes of the pattern and asked for
the byte behind the alignment. A byte that is no ASCII is not found there, or found for
another character, and the skip may go over an occurrence. -/
namespace NewApi.SundaySearch
open NewApi.GoRunes

/-! ## The model -/

def filled (length : Nat) (entries : List (Nat × Nat)) (table : Nat → Option Nat) : Nat → Option Nat :=
  entries.foldl (fun table entry => fun key =>
    if key = entry.2 then some (length - entry.1) else table key) table

def offset (pattern : Bytes) : Nat → Option Nat :=
  filled pattern.length (ranged 0 (runes pattern)) fun _ => none

/-- The loop over `j`: how many bytes agree. -/
def agreeing : Bytes → Bytes → Nat
  | byte :: text, mark :: pattern => if byte = mark then agreeing text pattern + 1 else 0
  | _, _ => 0

def skip (pattern : Bytes) (next : UInt8) : Nat :=
  match offset pattern next.toNat with
  | some val => val
  | none => pattern.length + 1

section Search
variable (text pattern : Bytes)

def mainLoop : Nat → Nat → Option Bool
  | 0, _ => none
  | rounds + 1, i =>
    if text.length < i + pattern.length then some false
    else if agreeing (text.drop i) pattern = pattern.length then some true
    else match text[i + pattern.length]? with
      | none => some false
      | some next => mainLoop rounds (i + skip pattern next)

/-- `service/str.go::SundaySearch`. -/
def sundaySearch : Option Bool := mainLoop text pattern (text.length + 1) 0

/-! ## What a search should say -/

def SearchesRightly : Prop := sundaySearch text pattern = some (decide (pattern <:+: text))

def Jump (i next : Nat) : Prop :=
  ∃ byte, text[i + pattern.length]? = some byte ∧ next = i + skip pattern byte

def Reached (i : Nat) : Prop := Relation.ReflTransGen (Jump text pattern) 0 i

def Lands : Prop := pattern <:+: text → ∃ i, Reached text pattern i ∧ pattern <+: text.drop i

end Search

def IsAscii (pattern : Bytes) : Prop := ∀ byte ∈ pattern, byte.toNat < 0x80

/-! ## The table -/

variable {text pattern : Bytes}

theorem filled_spec {table : Nat → Option Nat}
    (sorted : entries.Pairwise (·.1 ≤ ·.1)) (key : Nat) :
    (∃ last, (last, key) ∈ entries ∧ (∀ index, (index, key) ∈ entries → index ≤ last) ∧
      filled length entries table key = some (length - last)) ∨
    ((∀ index, (index, key) ∉ entries) ∧ filled length entries table key = table key) := by
  induction entries generalizing table with
  | nil => exact .inr ⟨fun _ => List.not_mem_nil, rfl⟩
  | cons entry rest ih =>
    obtain ⟨ahead, sorted⟩ := List.pairwise_cons.1 sorted
    rw [filled, List.foldl_cons]
    rcases ih sorted with ⟨last, listed, greatest, read⟩ | ⟨unlisted, read⟩
    · refine .inl ⟨last, .tail _ listed, fun index member => ?_, read⟩
      rcases List.mem_cons.1 member with here | later
      · exact (congrArg Prod.fst here).trans_le (ahead _ listed)
      · exact greatest index later
    · by_cases own : key = entry.2
      · refine .inl ⟨entry.1, own ▸ List.mem_cons_self, fun index member => ?_, ?_⟩
        · rcases List.mem_cons.1 member with here | later
          · rw [← here]
          · exact absurd later (unlisted index)
        · exact read.trans (if_pos own)
      · refine .inr ⟨fun index member => ?_, read.trans (if_neg own)⟩
        rcases List.mem_cons.1 member with here | later
        · exact own (congrArg Prod.snd here)
        · exact unlisted index later

theorem offset_spec (pattern : Bytes) (key : Nat) :
    (∃ last, (last, key) ∈ ranged 0 (runes pattern) ∧
      (∀ index, (index, key) ∈ ranged 0 (runes pattern) → index ≤ last) ∧
      offset pattern key = some (pattern.length - last)) ∨
    ((∀ index, (index, key) ∉ ranged 0 (runes pattern)) ∧ offset pattern key = none) :=
  filled_spec (ranged_sorted 0 _).1 key

theorem ranged_lt (member : (index, value) ∈ ranged 0 (runes pattern)) :
    index < pattern.length := by
  obtain ⟨lead, rest, -, shape, -⟩ := mem_ranged member
  have longer := congrArg List.length shape
  rw [List.length_drop, List.length_cons] at longer
  omega

theorem skip_bounds (pattern : Bytes) (next : UInt8) :
    0 < skip pattern next ∧ skip pattern next ≤ pattern.length + 1 := by
  unfold skip
  rcases offset_spec pattern next.toNat with ⟨last, listed, -, read⟩ | ⟨-, read⟩
  · have inside := ranged_lt listed
    rw [read]
    dsimp only
    omega
  · rw [read]
    exact ⟨Nat.succ_pos _, Nat.le_refl _⟩

theorem skip_ascii (there : pattern[j]? = some next) (isAscii : next.toNat < 0x80) :
    skip pattern next ≤ pattern.length - j := by
  have listed : (0 + j, next.toNat) ∈ ranged 0 (runes pattern) := ranged_ascii there isAscii
  rw [Nat.zero_add] at listed
  unfold skip
  rcases offset_spec pattern next.toNat with ⟨last, -, greatest, read⟩ | ⟨unlisted, -⟩
  · rw [read]
    exact Nat.sub_le_sub_left (greatest j listed) _
  · exact absurd listed (unlisted j)

/-! ## The loop -/

theorem agreeing_iff : agreeing text pattern = pattern.length ↔ pattern <+: text := by
  induction pattern generalizing text with
  | nil => cases text <;> simp [agreeing]
  | cons mark pattern ih =>
    cases text with
    | nil => simp [agreeing]
    | cons byte text =>
      rw [agreeing, List.cons_prefix_cons, List.length_cons]
      split
      next same => rw [Nat.add_right_cancel_iff, ih]; simp [same]
      next other => simp [Ne.symm other]

theorem occurrence_within (inside : i ≤ text.length) (occurs : pattern <+: text.drop i) :
    i + pattern.length ≤ text.length := by
  have shorter := occurs.length_le
  rw [List.length_drop] at shorter
  omega

theorem infix_iff_drop : pattern <:+: text ↔ ∃ i, i ≤ text.length ∧ pattern <+: text.drop i := by
  constructor
  · rintro ⟨front, back, rfl⟩
    refine ⟨front.length, ?_, back, ?_⟩
    · rw [List.append_assoc, List.length_append]
      exact Nat.le_add_right _ _
    · rw [List.append_assoc, List.drop_left]
  · rintro ⟨i, -, begins⟩
    exact begins.isInfix.trans (List.drop_suffix i text).isInfix

theorem jump_bounds (jump : Jump text pattern i j) : i < j ∧ j ≤ text.length := by
  obtain ⟨byte, there, rfl⟩ := jump
  have inside := (List.getElem?_eq_some_iff.1 there).1
  have bounds := skip_bounds pattern byte
  omega

theorem main_loop_ends (inside : i ≤ text.length) (enough : text.length < rounds + i) :
    ∃ answer, mainLoop text pattern rounds i = some answer := by
  induction rounds generalizing i with
  | zero => omega
  | succ rounds ih =>
    rw [mainLoop]
    split
    next => exact ⟨_, rfl⟩
    split
    next => exact ⟨_, rfl⟩
    split
    next => exact ⟨_, rfl⟩
    next next there =>
      have further := jump_bounds ⟨next, there, rfl⟩
      exact ih further.2 (by omega)

theorem main_loop_finds (reached : Reached text pattern i)
    (found : mainLoop text pattern rounds i = some true) :
    ∃ j, Reached text pattern j ∧ pattern <+: text.drop j := by
  induction rounds generalizing i with
  | zero => cases found
  | succ rounds ih =>
    rw [mainLoop] at found
    split at found
    next => cases found
    split at found
    next same => exact ⟨i, reached, agreeing_iff.1 same⟩
    split at found
    next => cases found
    next next there => exact ih (reached.tail ⟨next, there, rfl⟩) found

theorem main_loop_comes (inside : j ≤ text.length) (occurs : pattern <+: text.drop j)
    (leads : Relation.ReflTransGen (Jump text pattern) i j)
    (enough : text.length < rounds + i) : mainLoop text pattern rounds i = some true := by
  induction leads using Relation.ReflTransGen.head_induction_on generalizing rounds with
  | refl =>
    obtain ⟨rounds, rfl⟩ := Nat.exists_eq_succ_of_ne_zero (show rounds ≠ 0 by omega)
    have within := occurrence_within inside occurs
    rw [mainLoop, if_neg (Nat.not_lt_of_le within), if_pos (agreeing_iff.2 occurs)]
  | head jump _ ih =>
    rename_i here _
    obtain ⟨byte, there, rfl⟩ := jump
    have further := jump_bounds ⟨byte, there, rfl⟩
    have within := (List.getElem?_eq_some_iff.1 there).1
    obtain ⟨rounds, rfl⟩ := Nat.exists_eq_succ_of_ne_zero (show rounds ≠ 0 by omega)
    rw [mainLoop, if_neg (by omega)]
    split
    next => rfl
    next => rw [there]; exact ih (by omega)

theorem reached_within (reached : Reached text pattern i) : i ≤ text.length := by
  cases reached with
  | refl => exact Nat.zero_le _
  | tail _ jump => exact (jump_bounds jump).2

theorem search_true_iff : sundaySearch text pattern = some true ↔
    ∃ i, Reached text pattern i ∧ pattern <+: text.drop i := by
  constructor
  · exact main_loop_finds .refl
  · rintro ⟨i, reached, occurs⟩
    exact main_loop_comes (reached_within reached) occurs reached (by omega)

theorem searches_rightly_iff_lands : SearchesRightly text pattern ↔ Lands text pattern := by
  have sound : (∃ i, Reached text pattern i ∧ pattern <+: text.drop i) → pattern <:+: text :=
    fun ⟨i, reached, occurs⟩ => infix_iff_drop.2 ⟨i, reached_within reached, occurs⟩
  obtain ⟨answer, ended⟩ : ∃ answer, mainLoop text pattern (text.length + 1) 0 = some answer :=
    main_loop_ends (Nat.zero_le _) (by omega)
  have told : sundaySearch text pattern = some answer := ended
  unfold SearchesRightly Lands
  rw [← search_true_iff] at sound ⊢
  rw [told, Option.some.injEq] at sound ⊢
  cases answer with
  | true => simpa using sound rfl
  | false => simp

/-! ## Patterns of ASCII bytes -/

theorem jump_short (isAscii : IsAscii pattern) (before : i < q) (inside : q ≤ text.length)
    (occurs : pattern <+: text.drop q) : ∃ j, Jump text pattern i j ∧ j ≤ q := by
  have within := occurrence_within inside occurs
  have there : text[i + pattern.length]? = some text[i + pattern.length] :=
    List.getElem?_eq_getElem (by omega)
  refine ⟨_, ⟨_, there, rfl⟩, ?_⟩
  have bounds := skip_bounds pattern text[i + pattern.length]
  by_cases near : q ≤ i + pattern.length
  · -- The byte behind the alignment is one of the occurrence.
    have own : pattern[i + pattern.length - q]? = some text[i + pattern.length] := by
      obtain ⟨back, whole⟩ := occurs
      have read : (pattern ++ back)[i + pattern.length - q]? = some text[i + pattern.length] := by
        rw [whole, List.getElem?_drop, Nat.add_sub_cancel' near]
        exact there
      rwa [List.getElem?_append_left (by omega)] at read
    have short := skip_ascii own (isAscii _ (List.mem_of_getElem? own))
    omega
  · omega

theorem leads_to_occurrence (isAscii : IsAscii pattern) (behind : i ≤ q) (inside : q ≤ text.length)
    (occurs : pattern <+: text.drop q) : Relation.ReflTransGen (Jump text pattern) i q := by
  induction gap : q - i using Nat.strong_induction_on generalizing i with
  | _ gap ih =>
    rcases Nat.eq_or_lt_of_le behind with rfl | before
    · exact .refl
    · obtain ⟨j, jump, short⟩ := jump_short isAscii before inside occurs
      have further := (jump_bounds jump).1
      exact .head jump (ih (q - j) (by omega) short rfl)

theorem ascii_lands (isAscii : IsAscii pattern) (text : Bytes) : Lands text pattern := by
  intro occurs
  obtain ⟨q, inside, begins⟩ := infix_iff_drop.1 occurs
  exact ⟨q, leads_to_occurrence isAscii (Nat.zero_le _) inside begins, begins⟩

/-! ## Patterns with other bytes -/

theorem last_high (other : ¬ IsAscii pattern) : ∃ front byte back,
    pattern = front ++ byte :: back ∧ 0x80 ≤ byte.toNat ∧ IsAscii back := by
  induction pattern with
  | nil => exact absurd (fun _ member => by cases member) other
  | cons first rest ih =>
    by_cases plain : IsAscii rest
    · refine ⟨[], first, rest, rfl, Nat.le_of_not_lt fun low => other ?_, plain⟩
      exact List.forall_mem_cons.2 ⟨low, plain⟩
    · obtain ⟨front, byte, back, rfl, high, after⟩ := ih plain
      exact ⟨first :: front, byte, back, rfl, high, after⟩

theorem skip_over (high : 0x80 ≤ byte.toNat)
    (after : IsAscii back) : back.length + 1 < skip (front ++ byte :: back) byte := by
  unfold skip
  rcases offset_spec (front ++ byte :: back) byte.toNat with ⟨last, listed, -, read⟩ | ⟨-, read⟩
  · obtain ⟨second, there, outside⟩ := ranged_two listed high
      (Nat.lt_trans byte.toNat_lt (by decide))
    rw [read]
    dsimp only
    by_cases early : last < front.length
    · rw [List.length_append, List.length_cons]
      omega
    · -- A second byte behind the last byte that is no ASCII would be another one.
      have later : (byte :: back)[last + 1 - front.length]? = some second := by
        rw [← there, List.getElem?_append_right (by omega)]
      rw [show last + 1 - front.length = last - front.length + 1 by omega, List.getElem?_cons_succ] at later
      exact absurd (after _ (List.mem_of_getElem? later)) (Nat.not_lt_of_le outside)
  · rw [read, List.length_append, List.length_cons]
    dsimp only
    omega

theorem step_over {front back : Bytes} {byte first : UInt8} {rest : Bytes}
    (shape : front ++ byte :: back = first :: rest) (high : 0x80 ≤ byte.toNat)
    (after : IsAscii back) :
    ¬ Lands (List.replicate (back.length + 1) (first + 1) ++ (front ++ byte :: back))
      (front ++ byte :: back) := by
  intro lands
  obtain ⟨i, reached, occurs⟩ := lands (List.suffix_append _ _).isInfix
  have within : i ≤ back.length + 1 := by
    have bound := occurrence_within (reached_within reached) occurs
    simp only [List.length_append, List.length_replicate] at bound
    omega
  have passed : i = 0 ∨ back.length + 1 < i := by
    clear occurs within
    induction reached with
    | refl => exact .inl rfl
    | tail _ jump ih =>
      obtain ⟨next, there, rfl⟩ := jump
      rcases ih with rfl | passed
      · right
        have own : next = byte := by
          rw [Nat.zero_add, List.getElem?_append_right (by simp), List.length_replicate,
            List.length_append, List.length_cons, Nat.add_sub_cancel,
            List.getElem?_append_right (Nat.le_refl _), Nat.sub_self] at there
          exact (Option.some.inj there).symm
        rw [own, Nat.zero_add]
        exact skip_over high after
      · exact .inr (Nat.lt_add_right _ passed)
  rcases passed with rfl | passed
  · rw [List.drop_zero, shape, List.replicate_succ, List.cons_append, List.cons_prefix_cons] at occurs
    have apart : first ≠ first + 1 := by simp
    exact apart occurs.1
  · omega

theorem searches_all_iff : (∀ text, SearchesRightly text pattern) ↔ IsAscii pattern := by
  constructor
  · intro rightly
    by_contra other
    obtain ⟨front, byte, back, rfl, high, after⟩ := last_high other
    obtain ⟨first, rest, shape⟩ := List.exists_cons_of_ne_nil (show front ++ byte :: back ≠ [] by simp)
    exact step_over shape high after (searches_rightly_iff_lands.1 (rightly _))
  · intro isAscii text
    exact searches_rightly_iff_lands.2 (ascii_lands isAscii text)

/-- The search is right about a text exactly when the pattern does not occur or its
steps lead to an occurrence, and right about all texts exactly for a pattern of ASCII
bytes. -/
theorem searches_rightly_iff (pattern : Bytes) :
    (∀ text, SearchesRightly text pattern ↔ Lands text pattern) ∧
      ((∀ text, SearchesRightly text pattern) ↔ IsAscii pattern) :=
  ⟨fun _ => searches_rightly_iff_lands, searches_all_iff⟩

/-- The text `aé` and the pattern `é`: the second byte of the character is looked up as
the rune U+00A9, which the pattern does not have. -/
theorem accented_letter_missed :
    sundaySearch [0x61, 0xC3, 0xA9] [0xC3, 0xA9] = some false ∧
      [0xC3, 0xA9] <:+: ([0x61, 0xC3, 0xA9] : Bytes) := by decide

end NewApi.SundaySearch
