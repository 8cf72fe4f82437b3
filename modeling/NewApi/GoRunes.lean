import Mathlib.Data.List.DropRight
import NewApi.GoText

/-! Byte strings as the Go language reads them. A string is any list of bytes; a range
over it takes one encoded character after the other, and a byte that begins no encoded
character is a rune of its own, `utf8.RuneError`. Nothing here depends on what the
strings hold. -/
namespace NewApi.GoRunes
open NewApi.GoText

abbrev Bytes := List UInt8

def ascii (text : String) : Bytes := text.toList.map fun char => UInt8.ofNat char.toNat

structure Rune where
  value : Nat
  bytes : Bytes
  deriving DecidableEq, Repr

/-- `utf8.RuneError`. -/
def runeError : Nat := 0xFFFD

def Rune.stray (byte : UInt8) : Rune := ⟨runeError, [byte]⟩

def sizeFrom (lead : UInt8) : Option Nat :=
  if lead.toNat < 0x80 then some 1
  else if 0xC2 ≤ lead.toNat ∧ lead.toNat ≤ 0xDF then some 2
  else if 0xE0 ≤ lead.toNat ∧ lead.toNat ≤ 0xEF then some 3
  else if 0xF0 ≤ lead.toNat ∧ lead.toNat ≤ 0xF4 then some 4
  else none

def acceptsSecond (lead second : UInt8) : Bool :=
  (if lead.toNat = 0xE0 then 0xA0 else if lead.toNat = 0xF0 then 0x90 else 0x80) ≤ second.toNat &&
    second.toNat ≤ (if lead.toNat = 0xED then 0x9F else if lead.toNat = 0xF4 then 0x8F else 0xBF)

def isContinuation (byte : UInt8) : Bool := 0x80 ≤ byte.toNat && byte.toNat ≤ 0xBF

/-- `utf8.DecodeRune`, of a string that is not empty. -/
def decodeRune (lead : UInt8) (rest : Bytes) : Rune :=
  match sizeFrom lead, rest with
  | some 1, _ => ⟨lead.toNat, [lead]⟩
  | some 2, second :: _ =>
    if acceptsSecond lead second then
      ⟨(lead.toNat - 0xC0) * 64 + (second.toNat - 0x80), [lead, second]⟩
    else .stray lead
  | some 3, second :: third :: _ =>
    if acceptsSecond lead second && isContinuation third then
      ⟨(lead.toNat - 0xE0) * 4096 + (second.toNat - 0x80) * 64 + (third.toNat - 0x80),
        [lead, second, third]⟩
    else .stray lead
  | some 4, second :: third :: fourth :: _ =>
    if acceptsSecond lead second && isContinuation third && isContinuation fourth then
      ⟨(lead.toNat - 0xF0) * 262144 + (second.toNat - 0x80) * 4096 + (third.toNat - 0x80) * 64 +
        (fourth.toNat - 0x80), [lead, second, third, fourth]⟩
    else .stray lead
  | _, _ => .stray lead

def runesAfter : Nat → Bytes → List Rune
  | _, [] => []
  | 0, lead :: rest =>
    decodeRune lead rest :: runesAfter ((decodeRune lead rest).bytes.length - 1) rest
  | read + 1, _ :: rest => runesAfter read rest

/-- What a range over a string takes, and `[]rune(text)`. -/
def runes (text : Bytes) : List Rune := runesAfter 0 text

def joinRunes (parts : List Rune) : Bytes := parts.flatMap (·.bytes)

/-- `utf8.AppendRune`; a code point that is none is written as `utf8.RuneError`. -/
def encodeRune (value : Nat) : Bytes :=
  if value < 0x80 then [.ofNat value]
  else if value < 0x800 then [.ofNat (0xC0 + value / 64), .ofNat (0x80 + value % 64)]
  else if 0xD800 ≤ value ∧ value ≤ 0xDFFF ∨ 0x10FFFF < value then [0xEF, 0xBF, 0xBD]
  else if value < 0x10000 then [.ofNat (0xE0 + value / 4096), .ofNat (0x80 + value / 64 % 64),
    .ofNat (0x80 + value % 64)]
  else [.ofNat (0xF0 + value / 262144), .ofNat (0x80 + value / 4096 % 64),
    .ofNat (0x80 + value / 64 % 64), .ofNat (0x80 + value % 64)]

/-- `string(values)`, of a slice of runes. -/
def encodeRunes (values : List Nat) : Bytes := values.flatMap encodeRune

def isSpaceRune (rune : Rune) : Bool := isSpace (Char.ofNat rune.value)

/-- `strings.TrimSpace`. -/
def trimSpaceBytes (text : Bytes) : Bytes :=
  joinRunes (((runes text).dropWhile isSpaceRune).rdropWhile isSpaceRune)

/-- `for i, c := range text`: the index of the first byte beside the code point. -/
def ranged : Nat → List Rune → List (Nat × Nat)
  | _, [] => []
  | start, rune :: rest => (start, rune.value) :: ranged (start + rune.bytes.length) rest

example : runes (ascii "a" ++ [0xC3, 0xA9, 0xE2, 0x82, 0xAC, 0xA9]) =
    [⟨0x61, [0x61]⟩, ⟨0xE9, [0xC3, 0xA9]⟩, ⟨0x20AC, [0xE2, 0x82, 0xAC]⟩, .stray 0xA9] ∧
    encodeRunes [0x61, 0xE9, 0x20AC, 0xFFFD] =
      [0x61, 0xC3, 0xA9, 0xE2, 0x82, 0xAC, 0xEF, 0xBF, 0xBD] := by decide

/-! ## One rune -/

theorem decode_prefix (lead : UInt8) (rest : Bytes) : (decodeRune lead rest).bytes <+: lead :: rest := by
  unfold decodeRune
  split <;> (try split) <;> simp [Rune.stray]

theorem decode_nonempty (lead : UInt8) (rest : Bytes) : (decodeRune lead rest).bytes ≠ [] := by
  unfold decodeRune
  split <;> (try split) <;> simp [Rune.stray]

theorem decode_ascii (isAscii : lead.toNat < 0x80) (rest : Bytes) :
    decodeRune lead rest = ⟨lead.toNat, [lead]⟩ := by
  have one : sizeFrom lead = some 1 := if_pos isAscii
  simp only [decodeRune, one]

theorem second_high (accepted : acceptsSecond lead second = true) :
    0x80 ≤ second.toNat := by
  simp only [acceptsSecond, Bool.and_eq_true, decide_eq_true_eq] at accepted
  have low := accepted.1
  split at low <;> (try split at low) <;> omega

theorem decode_outside (high : 0x80 ≤ lead.toNat) (rest : Bytes) :
    ∀ byte ∈ (decodeRune lead rest).bytes, 0x80 ≤ byte.toNat := by
  unfold decodeRune
  split
  next => simpa using high
  next =>
    split
    next accepted => simpa using ⟨high, second_high accepted⟩
    next => simpa [Rune.stray] using high
  next =>
    split
    next accepted =>
      simp only [Bool.and_eq_true, isContinuation, decide_eq_true_eq] at accepted
      simpa using ⟨high, second_high accepted.1, accepted.2.1⟩
    next => simpa [Rune.stray] using high
  next =>
    split
    next accepted =>
      simp only [Bool.and_eq_true, isContinuation, decide_eq_true_eq] at accepted
      simpa using ⟨high, second_high accepted.1.1, accepted.1.2.1, accepted.2.1⟩
    next => simpa [Rune.stray] using high
  next => simpa [Rune.stray] using high

theorem decode_two (high : 0x80 ≤ (decodeRune lead rest).value)
    (low : (decodeRune lead rest).value < 0x800) :
    (decodeRune lead rest).bytes.length = 2 := by
  unfold decodeRune at high low ⊢
  unfold sizeFrom at high low ⊢
  unfold acceptsSecond at high low ⊢
  grind [Rune.stray, runeError]

/-! ## All runes -/

theorem runes_after_drop (read : Nat) (text : Bytes) : runesAfter read text = runes (text.drop read) := by
  induction text generalizing read with
  | nil => cases read <;> rfl
  | cons lead rest ih =>
    cases read with
    | zero => rfl
    | succ read => exact ih read

theorem runes_cons (lead : UInt8) (rest : Bytes) :
    runes (lead :: rest) =
      decodeRune lead rest :: runes ((lead :: rest).drop (decodeRune lead rest).bytes.length) := by
  obtain ⟨first, more, shape⟩ := List.exists_cons_of_ne_nil (decode_nonempty lead rest)
  rw [runes, runesAfter, runes_after_drop, shape, List.length_cons, Nat.add_sub_cancel, List.drop_succ_cons]

theorem runes_induction {motive : Bytes → Prop} (nil : motive [])
    (cons : ∀ lead rest, motive ((lead :: rest).drop (decodeRune lead rest).bytes.length) →
      motive (lead :: rest)) (text : Bytes) : motive text := by
  induction size : text.length using Nat.strong_induction_on generalizing text with
  | _ size ih =>
    cases text with
    | nil => exact nil
    | cons lead rest =>
      refine cons lead rest (ih _ ?_ _ rfl)
      have some_ := List.length_pos_iff.2 (decode_nonempty lead rest)
      rw [List.length_drop, ← size, List.length_cons]
      omega

/-- The runes of a string are all of its bytes, in order. -/
@[simp] theorem join_runes (text : Bytes) : joinRunes (runes text) = text := by
  induction text using runes_induction with
  | nil => rfl
  | cons lead rest ih =>
    obtain ⟨behind, whole⟩ := decode_prefix lead rest
    rw [runes_cons, joinRunes, List.flatMap_cons]
    rw [joinRunes] at ih
    rw [ih, ← whole, List.drop_left]

theorem runes_ascii (isAscii : lead.toNat < 0x80) (rest : Bytes) :
    runes (lead :: rest) = ⟨lead.toNat, [lead]⟩ :: runes rest := by
  rw [runes_cons, decode_ascii isAscii]
  rfl

theorem trim_begins (isAscii : lead.toNat < 0x80) (solid : isSpace (Char.ofNat lead.toNat) = false)
    (rest : Bytes) : ∃ behind, trimSpaceBytes (lead :: rest) = lead :: behind := by
  have stays : isSpaceRune ⟨lead.toNat, [lead]⟩ = false := solid
  rw [trimSpaceBytes, runes_ascii isAscii, List.dropWhile_cons_of_neg (by simp [stays])]
  obtain ⟨cut, whole⟩ := List.rdropWhile_prefix isSpaceRune
    (l := (⟨lead.toNat, [lead]⟩ : Rune) :: runes rest)
  cases kept : ((⟨lead.toNat, [lead]⟩ : Rune) :: runes rest).rdropWhile isSpaceRune with
  | nil =>
    have gone := List.rdropWhile_eq_nil_iff.1 kept _ List.mem_cons_self
    rw [stays] at gone
    cases gone
  | cons first more =>
    rw [kept, List.cons_append] at whole
    rw [(List.cons.inj whole).1]
    exact ⟨joinRunes more, rfl⟩

/-! ## A range over a text -/

theorem mem_ranged (member : (index, value) ∈ ranged start (runes text)) :
    ∃ lead rest, start ≤ index ∧ text.drop (index - start) = lead :: rest ∧
      (decodeRune lead rest).value = value := by
  induction text using runes_induction generalizing start with
  | nil => cases member
  | cons lead rest ih =>
    rw [runes_cons, ranged] at member
    rcases List.mem_cons.1 member with here | later
    · obtain ⟨rfl, rfl⟩ := Prod.mk.inj here
      exact ⟨lead, rest, Nat.le_refl _, by rw [Nat.sub_self, List.drop_zero], rfl⟩
    · obtain ⟨first, more, behind, shape, same⟩ := ih later
      refine ⟨first, more, Nat.le_of_add_right_le behind, ?_, same⟩
      rw [List.drop_drop] at shape
      rw [← shape]
      congr 1
      omega

theorem ranged_sorted (start : Nat) (parts : List Rune) :
    (ranged start parts).Pairwise (·.1 ≤ ·.1) ∧ ∀ entry ∈ ranged start parts, start ≤ entry.1 := by
  induction parts generalizing start with
  | nil => exact ⟨.nil, fun _ member => by cases member⟩
  | cons rune rest ih =>
    obtain ⟨sorted, behind⟩ := ih (start + rune.bytes.length)
    have later : ∀ entry ∈ ranged (start + rune.bytes.length) rest, start ≤ entry.1 :=
      fun entry member => Nat.le_of_add_right_le (behind entry member)
    exact ⟨List.pairwise_cons.2 ⟨later, sorted⟩, List.forall_mem_cons.2 ⟨Nat.le_refl _, later⟩⟩

theorem ranged_ascii (there : text[index]? = some byte)
    (isAscii : byte.toNat < 0x80) : (start + index, byte.toNat) ∈ ranged start (runes text) := by
  induction text using runes_induction generalizing start index with
  | nil => cases there
  | cons lead rest ih =>
    rw [runes_cons, ranged, List.mem_cons]
    by_cases inside : index < (decodeRune lead rest).bytes.length
    · obtain ⟨behind, whole⟩ := decode_prefix lead rest
      have member : byte ∈ (decodeRune lead rest).bytes := by
        rw [← whole, List.getElem?_append_left inside] at there
        exact List.mem_of_getElem? there
      have leads : lead.toNat < 0x80 := Nat.lt_of_not_le fun high =>
        absurd (decode_outside high rest byte member) (by omega)
      rw [decode_ascii leads] at inside member ⊢
      obtain rfl : index = 0 := by simpa using inside
      obtain rfl := List.mem_singleton.1 member
      exact .inl rfl
    · right
      have later : ((lead :: rest).drop (decodeRune lead rest).bytes.length)[
          index - (decodeRune lead rest).bytes.length]? = some byte := by
        rw [List.getElem?_drop, Nat.add_sub_cancel' (Nat.le_of_not_lt inside)]
        exact there
      have found : (start + (decodeRune lead rest).bytes.length +
          (index - (decodeRune lead rest).bytes.length), byte.toNat) ∈
          ranged (start + (decodeRune lead rest).bytes.length)
            (runes ((lead :: rest).drop (decodeRune lead rest).bytes.length)) := ih later
      rwa [show start + (decodeRune lead rest).bytes.length +
        (index - (decodeRune lead rest).bytes.length) = start + index by omega] at found

theorem ranged_two (member : (index, value) ∈ ranged 0 (runes text)) (high : 0x80 ≤ value)
    (low : value < 0x800) : ∃ byte, text[index + 1]? = some byte ∧ 0x80 ≤ byte.toNat := by
  obtain ⟨lead, rest, -, shape, rfl⟩ := mem_ranged member
  rw [Nat.sub_zero] at shape
  have leads : 0x80 ≤ lead.toNat := by
    refine Nat.le_of_not_lt fun isAscii => ?_
    rw [decode_ascii isAscii] at high
    exact absurd high (Nat.not_le_of_lt isAscii)
  have two := decode_two high low
  obtain ⟨first, second, both⟩ := List.length_eq_two.1 two
  obtain ⟨behind, whole⟩ := decode_prefix lead rest
  rw [both] at whole
  refine ⟨second, ?_, decode_outside leads rest second (both ▸ by simp)⟩
  rw [← List.getElem?_drop, shape, ← whole]
  rfl

end NewApi.GoRunes
