import NewApi.GoRunes
import NewApi.QueuedReads

/-! The scanner of an upstream event stream and the data handler behind its channel. The
scanner takes the lines that begin with `data:`, and also bare lines that begin with
`[DONE]`, but cuts five bytes off both: of a bare `[DONE]` line a bracket is left, which
is passed to the handler as a payload, and the stream is not over. -/
namespace NewApi.StreamScanner
open NewApi.GoRunes NewApi.QueuedReads

/-! ## The model -/

abbrev Line := Bytes

def dataPrefix : Bytes := ascii "data:"

def doneMark : Bytes := ascii "[DONE]"

theorem data_prefix_length : dataPrefix.length = 5 := rfl

theorem done_mark_length : doneMark.length = 6 := rfl

/-- The body of the scanner loop of `relay/helper/stream_scanner.go::StreamScannerHandler`,
from the text of a line on. -/
def scanLine (line : Line) : Reading Bytes :=
  if line.length < 6 then .skip
  else if line.take 5 ≠ dataPrefix ∧ line.take 6 ≠ doneMark then .skip
  else
    let data := trimSpaceBytes (line.drop 5)
    if data = [] then .skip
    else if ¬ doneMark <+: data then .item data
    else .last

/-- `dataChan` is made with room for ten payloads. -/
def channelRoom : Nat := 10

abbrev Handling := Pipe Line Bytes

/-! ## What should be passed -/

/-- The payload of a `data:` line. -/
def payload (line : Line) : Option Bytes :=
  if dataPrefix <+: line then some (trimSpaceBytes (line.drop dataPrefix.length)) else none

/-- A `data:` line whose payload says that the stream is over. -/
def endsAsData (line : Line) : Bool := (payload line).any fun data => doneMark <+: data

/-- A line that says so without `data:`. -/
def isBare (line : Line) : Bool := doneMark <+: line

def signalsDone (line : Line) : Bool := endsAsData line || isBare line

/-- The trimmed payloads, without the empty ones, of the `data:` lines in front of the
first line that signals the end. -/
def payloads (lines : List Line) : List Bytes :=
  ((lines.takeWhile fun line => !signalsDone line).filterMap payload).filter (· ≠ [])

/-- The handler is never passed anything but a beginning of the payloads. The scanner and
the handler come to an end, and where nobody told one of them to stop, all payloads were
passed. -/
structure PassesPayloads (lines : List Line) : Prop where
  nothingElse : ∀ state : Handling, Run scanLine channelRoom (.start lines) state →
    state.passed <+: payloads lines
  ends : ∃ state, Quiet scanLine channelRoom (.start lines) state ∧ Stuck scanLine channelRoom state
  all : ∀ state : Handling, Quiet scanLine channelRoom (.start lines) state →
    Stuck scanLine channelRoom state → state.passed = payloads lines

/-- In front of the first `data:` line that signals the end, no bare line does. -/
def MarkedAsData (lines : List Line) : Prop :=
  ∀ line ∈ lines.takeWhile (fun line => !endsAsData line), isBare line = false

/-! ## One line -/

variable {lines : List Line}

theorem take_eq_iff {start text : Bytes} {size : Nat} (long : start.length = size) :
    text.take size = start ↔ start <+: text := by
  rw [List.prefix_iff_eq_take, long, eq_comm]

theorem bare_rest (bare : isBare line = true) :
    trimSpaceBytes (line.drop 5) ≠ [] ∧ ¬ doneMark <+: trimSpaceBytes (line.drop 5) := by
  obtain ⟨rest, rfl⟩ := of_decide_eq_true bare
  have cut : (doneMark ++ rest).drop 5 = 0x5D :: rest := rfl
  obtain ⟨behind, left⟩ : ∃ behind, trimSpaceBytes (0x5D :: rest) = 0x5D :: behind :=
    trim_begins (by decide) (by decide) rest
  rw [cut, left]
  refine ⟨List.cons_ne_nil _ _, fun begins => ?_⟩
  have apart : (0x5B : UInt8) = 0x5D := (List.cons_prefix_cons.1 begins).1
  exact absurd apart (by decide)

theorem scan_line_data (data : Bytes) (given : payload line = some data) : scanLine line =
    if data = [] then .skip else if doneMark <+: data then .last else .item data := by
  unfold payload at given
  split at given
  next begins =>
    obtain rfl := Option.some.inj given
    obtain ⟨rest, rfl⟩ := begins
    rw [List.drop_left]
    have cut : (dataPrefix ++ rest).drop 5 = rest := rfl
    have marked : (dataPrefix ++ rest).take 5 = dataPrefix := rfl
    unfold scanLine
    rw [cut, marked]
    cases rest with
    | nil => rfl
    | cons byte rest =>
      have long : ¬ (dataPrefix ++ byte :: rest).length < 6 := by
        simp [dataPrefix, ascii]
      rw [if_neg long, if_neg (by simp)]
      dsimp only
      split
      next => rfl
      next => rw [ite_not]
  next => cases given

theorem scan_line_other (other : payload line = none) : scanLine line =
    if isBare line then .item (trimSpaceBytes (line.drop 5)) else .skip := by
  cases bare : isBare line with
  | true =>
    have left := bare_rest bare
    obtain ⟨rest, rfl⟩ := of_decide_eq_true bare
    have long : ¬ (doneMark ++ rest).length < 6 := by simp [doneMark, ascii]
    have marked : (doneMark ++ rest).take 6 = doneMark := rfl
    rw [scanLine, if_neg long, if_neg (by simp [marked])]
    dsimp only
    rw [if_neg left.1, if_pos left.2, if_pos rfl]
  | false =>
    have plain : line.take 5 ≠ dataPrefix := by
      intro same
      rw [payload, if_pos ((take_eq_iff data_prefix_length).1 same)] at other
      cases other
    have unmarked : line.take 6 ≠ doneMark := fun same =>
      absurd (decide_eq_true ((take_eq_iff done_mark_length).1 same)) (Bool.eq_false_iff.1 bare)
    rw [scanLine, if_pos (c := line.take 5 ≠ dataPrefix ∧ _) ⟨plain, unmarked⟩, ite_self]
    rfl

/-! ## The stream -/

theorem payloads_cons (line : Line) (lines : List Line) : payloads (line :: lines) =
    if signalsDone line then [] else
      ((payload line).filter (· ≠ [])).toList ++ payloads lines := by
  unfold payloads
  rw [List.takeWhile_cons]
  cases signalsDone line with
  | true => rfl
  | false =>
    simp only [Bool.not_false, if_true, List.filterMap_cons, Bool.false_eq_true, if_false]
    cases payload line with
    | none => rfl
    | some data => by_cases empty : data = [] <;> simp [empty, Option.filter]

theorem yields_payloads_iff : yielded scanLine lines = payloads lines ↔ MarkedAsData lines := by
  unfold MarkedAsData
  induction lines with
  | nil => simp [yielded, payloads]
  | cons line lines ih =>
    rw [yielded, payloads_cons, signalsDone, List.takeWhile_cons]
    cases given : payload line with
    | none =>
      have plain : endsAsData line = false := by rw [endsAsData, given]; rfl
      rw [scan_line_other given, plain]
      cases bare : isBare line with
      | true => simp [bare]
      | false => simpa [bare] using ih
    | some data =>
      have unbare : isBare line = false := by
        refine decide_eq_false fun begins => ?_
        unfold payload at given
        split at given
        next also =>
          obtain ⟨rest, rfl⟩ := begins
          have apart : (0x64 : UInt8) = 0x5B := (List.cons_prefix_cons.1 also).1
          exact absurd apart (by decide)
        next => cases given
      have ending : endsAsData line = decide (doneMark <+: data) := by rw [endsAsData, given]; rfl
      rw [scan_line_data data given, unbare, ending]
      by_cases done : doneMark <+: data
      · have filled : data ≠ [] := by
          rintro rfl
          exact absurd done (by decide)
        simp [done, filled]
      · by_cases empty : data = []
        · subst empty
          simpa [done, unbare, Option.filter] using ih
        · simpa [done, empty, unbare, Option.filter] using ih

/-- The handler is passed the payloads, in every interleaving, exactly when the first line
that signals the end is a `data:` line. -/
theorem passes_payloads_iff (lines : List Line) : PassesPayloads lines ↔ MarkedAsData lines := by
  rw [← yields_payloads_iff]
  constructor
  · rintro ⟨-, ⟨state, ran, stuck⟩, all⟩
    rw [← all state ran stuck, quiet_passes (by decide) ran stuck]
  · intro same
    refine ⟨fun state ran => ?_, quiet_ends _, fun state ran stuck => ?_⟩
    · rw [← same]
      exact run_passes ran
    · rw [← same]
      exact quiet_passes (by decide) ran stuck

/-- A bare mark in front of more data. -/
theorem bare_mark_passed :
    yielded scanLine [ascii "data: {}", ascii "[DONE]", ascii "data: x"] =
        [ascii "{}", ascii "]", ascii "x"] ∧
      payloads [ascii "data: {}", ascii "[DONE]", ascii "data: x"] = [ascii "{}"] ∧
      ¬ PassesPayloads [ascii "data: {}", ascii "[DONE]", ascii "data: x"] := by
  refine ⟨by decide, by decide, ?_⟩
  rintro ⟨-, ⟨state, ran, stuck⟩, all⟩
  have passed := all state ran stuck
  rw [quiet_passes (by decide) ran stuck] at passed
  exact absurd passed (by decide)

end NewApi.StreamScanner
