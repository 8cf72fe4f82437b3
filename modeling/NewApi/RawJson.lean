import Mathlib.Algebra.GroupWithZero.Nat
import Mathlib.Algebra.BigOperators.Group.List.Basic

/-! JSON arrays whose elements are kept as they are written. A scanner with a
stack of the open brackets goes over the text; what stands between the brackets,
the commas and the blanks of the outermost array are its elements. -/
namespace NewApi.RawJson

/-! ## The scanner -/

/-- What a bracket has opened. -/
inductive Frame where
  | array
  | object
  deriving DecidableEq, Repr

/-- What may come next. -/
inductive State where
  | value (orEmpty : Bool)
  | key (orEmpty : Bool)
  | colon
  | ended
  | string (isKey : Bool)
  | escape (isKey : Bool)
  | hex (isKey : Bool) (missing : Nat)
  | minus
  | zero
  | digits
  | point
  | fraction
  | exponent
  | exponentSign
  | exponentDigits
  | word (missing : List Char)
  deriving DecidableEq, Repr

/-- The frames of `encoding/json` are at most this many. -/
def maxNestingDepth : Nat := 10000

def isBlank (char : Char) : Bool := char = ' ' || char = '\t' || char = '\r' || char = '\n'

def isDigit (char : Char) : Bool := '0' ≤ char && char ≤ '9'

def isHex (char : Char) : Bool :=
  isDigit char || ('a' ≤ char && char ≤ 'f') || ('A' ≤ char && char ≤ 'F')

def push (frame : Frame) (state : State) (frames : List Frame) : Option (State × List Frame) :=
  if frames.length < maxNestingDepth then some (state, frame :: frames) else none

def beginValue (frames : List Frame) (char : Char) : Option (State × List Frame) :=
  if char = '{' then push .object (.key true) frames
  else if char = '[' then push .array (.value true) frames
  else if char = '"' then some (.string false, frames)
  else if char = '-' then some (.minus, frames)
  else if char = '0' then some (.zero, frames)
  else if isDigit char then some (.digits, frames)
  else if char = 't' then some (.word ['r', 'u', 'e'], frames)
  else if char = 'f' then some (.word ['a', 'l', 's', 'e'], frames)
  else if char = 'n' then some (.word ['u', 'l', 'l'], frames)
  else none

def endValue (frames : List Frame) (char : Char) : Option (State × List Frame) :=
  if isBlank char then some (.ended, frames)
  else match frames with
  | [] => none
  | .array :: outer =>
    if char = ',' then some (.value false, frames)
    else if char = ']' then some (.ended, outer)
    else none
  | .object :: outer =>
    if char = ',' then some (.key false, frames)
    else if char = '}' then some (.ended, outer)
    else none

def State.transition (frames : List Frame) (char : Char) : State → Option (State × List Frame)
  | .value orEmpty =>
    if isBlank char then some (.value orEmpty, frames)
    else if orEmpty && char = ']' then endValue frames char
    else beginValue frames char
  | .key orEmpty =>
    if isBlank char then some (.key orEmpty, frames)
    else if orEmpty && char = '}' then endValue frames char
    else if char = '"' then some (.string true, frames)
    else none
  | .colon =>
    if isBlank char then some (.colon, frames)
    else if char = ':' then some (.value false, frames)
    else none
  | .ended => endValue frames char
  | .string isKey =>
    if char = '"' then some (if isKey then .colon else .ended, frames)
    else if char = '\\' then some (.escape isKey, frames)
    else if char.toNat < 0x20 then none
    else some (.string isKey, frames)
  | .escape isKey =>
    if char = 'u' then some (.hex isKey 4, frames)
    else if char ∈ ['b', 'f', 'n', 'r', 't', '\\', '/', '"'] then some (.string isKey, frames)
    else none
  | .hex isKey missing =>
    if isHex char then some (if missing ≤ 1 then .string isKey else .hex isKey (missing - 1), frames)
    else none
  | .minus =>
    if char = '0' then some (.zero, frames)
    else if isDigit char then some (.digits, frames)
    else none
  | .zero =>
    if char = '.' then some (.point, frames)
    else if char = 'e' || char = 'E' then some (.exponent, frames)
    else endValue frames char
  | .digits =>
    if isDigit char then some (.digits, frames)
    else if char = '.' then some (.point, frames)
    else if char = 'e' || char = 'E' then some (.exponent, frames)
    else endValue frames char
  | .point => if isDigit char then some (.fraction, frames) else none
  | .fraction =>
    if isDigit char then some (.fraction, frames)
    else if char = 'e' || char = 'E' then some (.exponent, frames)
    else endValue frames char
  | .exponent =>
    if char = '+' || char = '-' then some (.exponentSign, frames)
    else if isDigit char then some (.exponentDigits, frames)
    else none
  | .exponentSign => if isDigit char then some (.exponentDigits, frames) else none
  | .exponentDigits =>
    if isDigit char then some (.exponentDigits, frames) else endValue frames char
  | .word missing =>
    match missing with
    | [] => none
    | next :: later =>
      if char = next then some (if later = [] then .ended else .word later, frames) else none

def State.quoted : State → Bool
  | .string _ | .escape _ | .hex _ _ => true
  | _ => false

/-! ## The elements of an array -/

/-- A scan behind the bracket that opens the array. The element that is read and
the ones before it are collected in reverse. -/
structure Scan where
  state : State := .value true
  frames : List Frame := [.array]
  current : List Char := []
  elements : List (List Char) := []

def Scan.close (scan : Scan) : Scan :=
  if scan.current = [] then scan
  else { scan with current := [], elements := scan.current.reverse :: scan.elements }

def Scan.step (scan : Scan) (char : Char) : Option Scan :=
  (scan.state.transition scan.frames char).map fun (state, frames) =>
    let next := { scan with state := state, frames := frames }
    if scan.frames = [] then next
    else if frames = [] then next.close
    else if scan.frames.length = 1 && frames.length = 1 && !scan.state.quoted then
      if isBlank char then next
      else if char = ',' then next.close
      else { next with current := char :: scan.current }
    else { next with current := char :: scan.current }

/-- The elements of a text that is a JSON array, as `json.RawMessage` holds them. -/
def rawArray (text : List Char) : Option (List (List Char)) :=
  match text.dropWhile isBlank with
  | '[' :: rest =>
    (rest.foldlM Scan.step {}).bind fun scan =>
      if scan.frames = [] ∧ scan.state = .ended then some scan.elements.reverse else none
  | _ => none

/-! ## The room that the elements need -/

def roomOf (elements : List (List Char)) : Nat :=
  (elements.map List.length).sum + elements.length

def Scan.room (scan : Scan) : Nat := roomOf scan.elements + scan.current.length

theorem close_room (scan : Scan) : scan.close.room ≤ scan.room + 1 := by
  unfold Scan.close
  split
  · omega
  · simp only [Scan.room, roomOf, List.map_cons, List.sum_cons, List.length_cons,
      List.length_reverse, List.length_nil]
    omega

theorem step_room {scan next : Scan} {char : Char} (steps : scan.step char = some next) :
    next.room ≤ scan.room + 1 := by
  obtain ⟨⟨state, frames⟩, -, rfl⟩ := Option.map_eq_some_iff.mp steps
  have closed := close_room { scan with state := state, frames := frames }
  have collected : Scan.room { scan with
      state := state, frames := frames, current := char :: scan.current } = scan.room + 1 := by
    simp only [Scan.room, List.length_cons]
    omega
  have same : Scan.room { scan with state := state, frames := frames } = scan.room := rfl
  dsimp only
  split_ifs <;> omega

theorem scan_room {text : List Char} {scan next : Scan}
    (scanned : text.foldlM Scan.step scan = some next) : next.room ≤ scan.room + text.length := by
  induction text generalizing scan with
  | nil =>
    obtain rfl := Option.some.inj scanned
    exact Nat.le_add_right _ _
  | cons char text ih =>
    obtain ⟨middle, steps, rest⟩ := Option.bind_eq_some_iff.mp scanned
    have first := step_room steps
    have later := ih rest
    rw [List.length_cons]
    omega

theorem raw_array_room {text : List Char} {elements : List (List Char)}
    (read : rawArray text = some elements) : roomOf elements + 1 ≤ text.length := by
  unfold rawArray at read
  have cut := (List.dropWhile_suffix isBlank (l := text)).length_le
  split at read
  · rename_i rest shape
    obtain ⟨scan, scanned, ended⟩ := Option.bind_eq_some_iff.mp read
    split at ended
    · obtain rfl := Option.some.inj ended
      have room := scan_room scanned
      have reversed : roomOf scan.elements.reverse = roomOf scan.elements := by
        simp [roomOf, List.map_reverse, List.sum_reverse]
      have empty : Scan.room {} = 0 := rfl
      rw [shape, List.length_cons] at cut
      rw [reversed]
      unfold Scan.room at room empty
      omega
    · contradiction
  · contradiction

example : rawArray " [ [1, 2] , -0.5e3,true ] ".toList =
    some ["[1, 2]".toList, "-0.5e3".toList, "true".toList] := by decide

end NewApi.RawJson
