import Mathlib.Data.List.Infix
import Mathlib.Data.List.DropRight

/-! The string helpers of the Go standard library that the code relies on, on
characters. Nothing here depends on what the strings hold. -/
namespace NewApi.GoText

/-- `unicode.IsSpace`. -/
def isSpace (char : Char) : Bool :=
  char.toNat ∈ [0x09, 0x0A, 0x0B, 0x0C, 0x0D, 0x20, 0x85, 0xA0, 0x1680, 0x2028, 0x2029, 0x202F,
    0x205F, 0x3000] || (0x2000 ≤ char.toNat && char.toNat ≤ 0x200A)

/-- The characters left when those that meet `drop` are cut from both ends. -/
def trimBoth (drop : Char → Bool) (chars : List Char) : List Char :=
  (chars.dropWhile drop).rdropWhile drop

/-- `strings.TrimSpace`. -/
def trimSpace (text : String) : String :=
  String.ofList (trimBoth isSpace text.toList)

private theorem dropWhile_rdropWhile_fixed {drop : Char → Bool} {chars : List Char}
    (fixed : chars.dropWhile drop = chars) :
    (chars.rdropWhile drop).dropWhile drop = chars.rdropWhile drop := by
  cases kept : chars.rdropWhile drop with
  | nil => rfl
  | cons first rest =>
    obtain ⟨tail, shape⟩ := List.rdropWhile_prefix drop (l := chars)
    rw [kept, List.cons_append] at shape
    rw [← shape] at fixed
    by_cases cut : drop first = true
    · rw [List.dropWhile_cons_of_pos cut] at fixed
      have shorter := (List.dropWhile_suffix drop (l := rest ++ tail)).length_le
      rw [fixed] at shorter
      exact absurd shorter (by simp)
    · exact List.dropWhile_cons_of_neg cut

/-- What is trimmed stays as it is when it is trimmed again. -/
@[simp] theorem trim_both_idem (drop : Char → Bool) (chars : List Char) :
    trimBoth drop (trimBoth drop chars) = trimBoth drop chars := by
  have front : (trimBoth drop chars).dropWhile drop = trimBoth drop chars :=
    dropWhile_rdropWhile_fixed (List.dropWhile_idempotent drop chars)
  calc trimBoth drop (trimBoth drop chars)
      = ((trimBoth drop chars).dropWhile drop).rdropWhile drop := rfl
    _ = (trimBoth drop chars).rdropWhile drop := by rw [front]
    _ = trimBoth drop chars := List.rdropWhile_idempotent drop _

@[simp] theorem trim_space_idem (text : String) : trimSpace (trimSpace text) = trimSpace text := by
  simp [trimSpace]

@[simp] theorem trim_space_empty : trimSpace "" = "" := by decide

theorem trim_space_empty_iff (text : String) :
    trimSpace text = "" ↔ ∀ char ∈ text.toList, isSpace char = true := by
  have emptied : trimSpace text = "" ↔ trimBoth isSpace text.toList = [] :=
    ⟨fun empty => by simpa [trimSpace] using congrArg String.toList empty,
      fun none_ => by rw [trimSpace, none_, String.ofList_nil]⟩
  rw [emptied, trimBoth, List.rdropWhile_eq_nil_iff, ← List.dropWhile_eq_nil_iff,
    List.dropWhile_idempotent, List.dropWhile_eq_nil_iff]

/-- What has no spaces is not trimmed. -/
theorem trim_space_plain (plain : ∀ char ∈ text.toList, isSpace char = false) :
    trimSpace text = text := by
  have front : text.toList.dropWhile isSpace = text.toList :=
    List.dropWhile_eq_self_iff.mpr fun held => by simp [plain _ (List.getElem_mem held)]
  have back : text.toList.rdropWhile isSpace = text.toList :=
    List.rdropWhile_eq_self_iff.mpr fun held => by simp [plain _ (List.getLast_mem held)]
  rw [trimSpace, trimBoth, front, back, String.ofList_toList]

example : trimSpace "  vip group\n" = "vip group" := by decide

/-- `strings.HasPrefix`. -/
def hasPrefix (text start : String) : Bool := start.toList.isPrefixOf text.toList

/-- `strings.HasSuffix`. -/
def hasSuffix (text ending : String) : Bool := ending.toList.isSuffixOf text.toList

/-- `strings.TrimPrefix`. -/
def trimPrefix (text start : String) : String :=
  if hasPrefix text start then String.ofList (text.toList.drop start.toList.length) else text

/-- `strings.TrimSuffix`. -/
def trimSuffix (text ending : String) : String :=
  if hasSuffix text ending then String.ofList (text.toList.take (text.toList.length - ending.toList.length))
  else text

/-- `strings.ToLower`, of a text whose letters are ASCII. -/
def toLower (text : String) : String := text.map Char.toLower

/-- `strings.Contains(strings.ToLower(text), word)`, for a word of ASCII
letters that no other letter becomes in lower case. -/
def mentions (text word : String) : Bool :=
  decide (word.toList <:+: text.toList.map Char.toLower)

/-- `strings.Split(text, sep)` by one character. -/
def split (sep : Char) (text : String) : List String :=
  (text.toList.splitOn sep).map String.ofList

theorem split_ne_nil (sep : Char) (text : String) : split sep text ≠ [] := by
  rw [split, Ne, List.map_eq_nil_iff]
  exact List.splitOn_ne_nil sep text.toList

/-- `strings.Join(parts, sep)`, for a separator of one character. -/
def join (sep : Char) (parts : List String) : String := (String.singleton sep).intercalate parts

theorem chars_of_join (sep : Char) (parts : List String) :
    (join sep parts).toList = [sep].intercalate (parts.map String.toList) := by
  rw [join, String.toList_intercalate, String.toList_singleton]

theorem mem_join (inside : char ∈ (join sep parts).toList) :
    char = sep ∨ ∃ part ∈ parts, char ∈ part.toList := by
  rw [chars_of_join] at inside
  induction parts with
  | nil => cases inside
  | cons first rest ih =>
    cases rest with
    | nil => exact .inr ⟨first, List.mem_cons_self, by simpa using inside⟩
    | cons second rest =>
      rw [List.map_cons, List.map_cons, List.intercalate_cons_cons, List.mem_append, List.mem_append] at inside
      rcases inside with (own | between) | later
      · exact .inr ⟨first, List.mem_cons_self, own⟩
      · exact .inl (List.mem_singleton.mp between)
      · exact (ih later).imp_right fun ⟨part, member, found⟩ =>
          ⟨part, List.mem_cons_of_mem _ member, found⟩

/-- Parts without the separator are what a text that joins them is split into. -/
theorem split_join (some_ : parts ≠ [])
    (plain : ∀ part ∈ parts, sep ∉ part.toList) : split sep (join sep parts) = parts := by
  have pieces : ∀ piece ∈ parts.map String.toList, sep ∉ piece := List.forall_mem_map.mpr plain
  rw [split, chars_of_join, List.splitOn_intercalate _ pieces (by simpa using some_), List.map_map]
  exact (List.map_congr_left fun part _ => String.ofList_toList).trans (List.map_id parts)

theorem split_on_pieces {chars : List Char} (member : piece ∈ chars.splitOn sep) :
    sep ∉ piece := by
  induction chars generalizing piece with
  | nil =>
    obtain rfl := List.mem_singleton.mp member
    exact List.not_mem_nil
  | cons char chars ih =>
    rw [List.splitOn_cons_eq_if_modifyHead] at member
    split at member
    · rcases List.mem_cons.mp member with rfl | later
      · exact List.not_mem_nil
      · exact ih later
    · rename_i other
      cases pieces : chars.splitOn sep with
      | nil => exact absurd pieces (List.splitOn_ne_nil sep chars)
      | cons first later =>
        rw [pieces, List.modifyHead_cons] at member
        rcases List.mem_cons.mp member with rfl | member
        · have differs : sep ≠ char := by
            rintro rfl
            simp at other
          exact List.not_mem_cons_of_ne_of_not_mem differs (ih (pieces ▸ List.mem_cons_self))
        · exact ih (pieces ▸ List.mem_cons_of_mem _ member)

theorem split_plain {text : String} (member : part ∈ split sep text) :
    sep ∉ part.toList := by
  obtain ⟨piece, isPiece, rfl⟩ := List.mem_map.mp member
  rw [String.toList_ofList]
  exact split_on_pieces isPiece

theorem drop_while_fixed_iff {drop : Char → Bool} {chars : List Char} :
    chars.dropWhile drop = chars ↔ ∀ first, chars.head? = some first → drop first = false := by
  cases chars with
  | nil => simp
  | cons char chars =>
    rw [List.dropWhile_eq_self_iff]
    simp

theorem rdrop_while_fixed_iff {drop : Char → Bool} {chars : List Char} :
    chars.rdropWhile drop = chars ↔ ∀ last, chars.getLast? = some last → drop last = false := by
  rw [List.rdropWhile_eq_self_iff]
  constructor
  · intro kept last isLast
    obtain ⟨some_, rfl⟩ := List.mem_getLast?_eq_getLast isLast
    simpa using kept some_
  · intro kept some_
    simpa using kept _ (List.getLast?_eq_getLast_of_ne_nil some_)

theorem trim_both_fixed_iff {drop : Char → Bool} :
    trimBoth drop chars = chars ↔
      (∀ first, chars.head? = some first → drop first = false) ∧
        ∀ last, chars.getLast? = some last → drop last = false := by
  rw [← drop_while_fixed_iff, ← rdrop_while_fixed_iff]
  constructor
  · intro fixed
    have cut := List.dropWhile_suffix drop (l := chars)
    have longer : chars.length ≤ (chars.dropWhile drop).length := by
      have prefix_ := (List.rdropWhile_prefix drop (l := chars.dropWhile drop)).length_le
      rwa [show (chars.dropWhile drop).rdropWhile drop = chars from fixed] at prefix_
    have front : chars.dropWhile drop = chars := cut.eq_of_length_le longer
    refine ⟨front, ?_⟩
    rw [trimBoth, front] at fixed
    exact fixed
  · rintro ⟨front, back⟩
    rw [trimBoth, front, back]

theorem head_intercalate (sep : Char) (longer : texts ≠ [[]]) :
    ([sep].intercalate texts).head? = texts.head?.bind fun text => some (text.head?.getD sep) := by
  cases texts with
  | nil => rfl
  | cons text texts =>
    cases texts with
    | nil =>
      cases text with
      | nil => simp at longer
      | cons => rfl
    | cons next texts =>
      rw [List.intercalate_cons_cons]
      cases text <;> rfl

theorem last_intercalate (sep : Char) (longer : texts ≠ [[]]) :
    ([sep].intercalate texts).getLast? =
      texts.getLast?.bind fun text => some (text.getLast?.getD sep) := by
  induction texts with
  | nil => rfl
  | cons text texts ih =>
    cases texts with
    | nil =>
      cases text with
      | nil => simp at longer
      | cons char text => simp [List.getLast?_cons]
    | cons next texts =>
      by_cases lone : next :: texts = [[]]
      · obtain ⟨rfl, rfl⟩ := List.cons.inj lone
        simp
      · have rest := ih lone
        rw [List.intercalate_cons_cons, List.getLast?_append, rest, List.getLast?_cons_cons]
        cases ending : (next :: texts).getLast? with
        | none => simp at ending
        | some text => rfl

/-- `strings.Trim(text, sep)` by one character. -/
def trim (sep : Char) (text : String) : String := String.ofList (trimBoth (· = sep) text.toList)

/-- Joined parts are not trimmed exactly if there is something at both ends. -/
theorem trim_join_iff (plain : ∀ part ∈ parts, sep ∉ part.toList)
    (filled : join sep parts ≠ "") :
    trim sep (join sep parts) = join sep parts ↔ parts.head? ≠ some "" ∧ parts.getLast? ≠ some "" := by
  have longer : parts.map String.toList ≠ [[]] := by
    refine fun lone => filled ?_
    rw [← String.toList_inj, chars_of_join, lone]
    rfl
  have ends : ∀ part ∈ parts, (∀ char, part.toList.head? = some char → char ≠ sep) ∧
      ∀ char, part.toList.getLast? = some char → char ≠ sep := by
    intro part member
    have none_ := plain part member
    refine ⟨fun char first same => none_ ?_, fun char last same => none_ ?_⟩
    · exact same ▸ List.mem_of_mem_head? first
    · exact same ▸ List.mem_of_getLast? last
  rw [← String.toList_inj, trim, String.toList_ofList, trim_both_fixed_iff, chars_of_join,
    head_intercalate sep longer, last_intercalate sep longer, List.head?_map, List.getLast?_map]
  simp only [decide_eq_false_iff_not]
  refine and_congr ?_ ?_
  · cases first : parts.head? with
    | none => simp
    | some part =>
      have first_ := (ends part (List.mem_of_mem_head? first)).1
      cases shape : part.toList with
      | nil => simp [shape, ← String.toList_inj]
      | cons char chars =>
        have differs : part ≠ "" := by
          rintro rfl
          simp at shape
        simpa [shape, differs] using first_ char (by rw [shape]; rfl)
  · cases last : parts.getLast? with
    | none => simp
    | some part =>
      have last_ := (ends part (List.mem_of_getLast? last)).2
      cases shape : part.toList.getLast? with
      | none =>
        rw [List.getLast?_eq_none_iff] at shape
        simp [shape, ← String.toList_inj]
      | some char =>
        have differs : part ≠ "" := by
          rintro rfl
          simp at shape
        simpa [shape, differs] using last_ char shape

example : split ',' "vip,,default" = ["vip", "", "default"] := by decide

end NewApi.GoText
