import Mathlib.Data.Nat.Digits.Defs
import Mathlib.Tactic.Common

/-! Booleans and integers of 64 bits as the Go standard library writes and reads them.
What is written is read again as what it was. -/
namespace NewApi.Strconv

/-- What `strconv` reports for a text that it cannot read. -/
inductive NumError where
  | syntax_
  | range
  deriving DecidableEq, Repr

/-- `strconv.FormatBool`. -/
def formatBool (value : Bool) : String := if value then "true" else "false"

/-- `strconv.ParseBool`. -/
def parseBool (text : String) : Except NumError Bool :=
  if text ∈ ["1", "t", "T", "true", "TRUE", "True"] then .ok true
  else if text ∈ ["0", "f", "F", "false", "FALSE", "False"] then .ok false
  else .error .syntax_

/-- `strconv.FormatInt(value, 10)`, and `%v` of an integer. -/
def formatInt (value : Int64) : String :=
  match value.toInt with
  | .ofNat number => number.repr
  | .negSucc number => String.ofList ('-' :: Nat.toDigits 10 (number + 1))

def readDigits (digits : List Char) : Except NumError Nat :=
  if digits ≠ [] ∧ digits.all Char.isDigit then .ok (Nat.ofDigitChars 10 digits 0)
  else .error .syntax_

def checkRange (number : Int) : Except NumError Int64 :=
  if Int64.minValue.toInt ≤ number ∧ number ≤ Int64.maxValue.toInt then .ok (Int64.ofInt number)
  else .error .range

/-- `strconv.ParseInt(text, 10, 64)`. -/
def parseInt (text : String) : Except NumError Int64 :=
  match text.toList with
  | '-' :: digits => (readDigits digits).bind fun number => checkRange (-(number : Int))
  | '+' :: digits => (readDigits digits).bind fun number => checkRange number
  | digits => (readDigits digits).bind fun number => checkRange number

@[simp] theorem parse_format_bool (value : Bool) : parseBool (formatBool value) = .ok value := by
  cases value <;> decide

theorem digits_plain (number : Nat) : ∀ char ∈ Nat.toDigits 10 number, char.isDigit = true :=
  fun _ member => Nat.isDigit_of_mem_toDigits (by decide) (by decide) member

@[simp] theorem read_to_digits (number : Nat) : readDigits (Nat.toDigits 10 number) = .ok number := by
  rw [readDigits, if_pos ⟨Nat.toDigits_ne_nil, List.all_eq_true.2 (digits_plain number)⟩,
    Nat.ofDigitChars_ten_toDigits]

theorem check_range_int (value : Int64) : checkRange value.toInt = .ok value := by
  rw [checkRange, if_pos ⟨value.minValue_le_toInt, value.toInt_le⟩, Int64.ofInt_toInt]

@[simp] theorem parse_format_int (value : Int64) : parseInt (formatInt value) = .ok value := by
  have whole := check_range_int value
  unfold parseInt formatInt
  cases sign : value.toInt with
  | negSucc number =>
    rw [sign] at whole
    dsimp only
    rw [String.toList_ofList]
    change ((readDigits (Nat.toDigits 10 (number + 1))).bind fun number => checkRange (-(number : Int))) = _
    rw [read_to_digits, Except.bind, ← whole]
    rfl
  | ofNat number =>
    rw [sign] at whole
    dsimp only
    rw [Nat.toList_repr]
    split
    next rest shape => exact absurd (digits_plain number '-' (shape ▸ List.mem_cons_self)) (by decide)
    next rest shape => exact absurd (digits_plain number '+' (shape ▸ List.mem_cons_self)) (by decide)
    next =>
      rw [read_to_digits]
      exact whole

example : parseInt "-9223372036854775808" = .ok Int64.minValue ∧
    parseInt "9223372036854775808" = .error .range ∧ parseInt "1_0" = .error .syntax_ := by decide

end NewApi.Strconv
