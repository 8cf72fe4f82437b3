import NewApi.GuardedRun
import Mathlib.Data.List.Count
import Mathlib.Data.Int.Basic

/-! Streams of numbered blocks. A message opens, starts its blocks in order,
adds to the blocks that are open, stops them, is summed up and ends. The rules
below say which mark may follow what was sent; a producer whose open blocks are
always a window of consecutive numbers of one kind needs only to know the ends
of that window. Nothing here depends on what the blocks carry. -/
namespace NewApi.BlockStream
open NewApi.GuardedRun

/-- What an event of the stream does to the blocks. -/
inductive Mark (Kind : Type*) where
  | opening
  | start (index : Int) (kind : Kind)
  | delta (index : Int) (kind : Kind)
  | stop (index : Int)
  | summary
  | ending
  deriving DecidableEq, Repr

variable {Kind : Type*}

def Mark.isStart : Mark Kind → Bool
  | .start .. => true
  | _ => false

def started (sent : List (Mark Kind)) : Int := sent.countP Mark.isStart

def Closed (sent : List (Mark Kind)) : Prop :=
  ∀ index kind, .start index kind ∈ sent → .stop index ∈ sent

def Permitted (sent : List (Mark Kind)) : Mark Kind → Prop
  | .opening => sent = []
  | .start index _ => .opening ∈ sent ∧ .ending ∉ sent ∧ index = started sent
  | .delta index kind =>
    .opening ∈ sent ∧ .ending ∉ sent ∧ .start index kind ∈ sent ∧ .stop index ∉ sent
  | .stop index => .opening ∈ sent ∧ .ending ∉ sent ∧ .summary ∉ sent ∧
      (∃ kind, .start index kind ∈ sent) ∧ .stop index ∉ sent
  | .summary | .ending => .opening ∈ sent ∧ .ending ∉ sent ∧ Closed sent

def Speaks (marks : List (Mark Kind)) : Prop :=
  ∀ before mark after, marks = before ++ mark :: after → Permitted before mark

def Follows (sent marks : List (Mark Kind)) : Prop :=
  Guarded (fun sent mark => sent ++ [mark]) Permitted sent marks

section Following
variable {sent first second : List (Mark Kind)} {mark : Mark Kind}

theorem run_sent : run (fun sent mark => sent ++ [mark]) sent marks = sent ++ marks := by
  induction marks generalizing sent with
  | nil => simp
  | cons mark rest ih => simp [ih]

@[simp] theorem follows_nil : Follows sent [] := trivial

@[simp] theorem follows_cons :
    Follows sent (mark :: marks) ↔ Permitted sent mark ∧ Follows (sent ++ [mark]) marks :=
  Iff.rfl

theorem follows_append :
    Follows sent (first ++ second) ↔ Follows sent first ∧ Follows (sent ++ first) second := by
  have split :=
    @guarded_append _ _ (fun (sent : List (Mark Kind)) mark => sent ++ [mark]) Permitted sent first
      second
  rwa [run_sent] at split

theorem speaks_append : Speaks (sent ++ marks) ↔ Speaks sent ∧ Follows sent marks := by
  induction marks generalizing sent with
  | nil => simp
  | cons mark rest ih =>
    have here : Speaks (sent ++ [mark]) ↔ Speaks sent ∧ Permitted sent mark := by
      constructor
      · intro speaks
        refine ⟨fun before other after shape => ?_, speaks sent mark [] (by simp)⟩
        exact speaks before other (after ++ [mark]) (by simp [shape])
      · rintro ⟨speaks, permitted⟩ before other after shape
        rcases List.eq_nil_or_concat after with rfl | ⟨front, last, rfl⟩
        · obtain ⟨rfl, same⟩ := List.append_inj' shape rfl
          obtain rfl : mark = other := by simpa using same
          exact permitted
        · have cut : sent ++ [mark] = (before ++ other :: front) ++ [last] := by simpa using shape
          exact speaks before other front (List.append_inj' cut rfl).1
    have again := @ih (sent ++ [mark])
    rw [here] at again
    simpa [and_assoc] using again

end Following

/-! ## A window of open blocks -/

/-- The message is under way, and its open blocks are those from `low` up to the
next number, all of one kind. -/
structure Window (sent : List (Mark Kind)) (low : Int) (kind : Kind) : Prop where
  opened : .opening ∈ sent
  unsummed : .summary ∉ sent
  unended : .ending ∉ sent
  low_le : low ≤ started sent
  known : ∀ index other, .start index other ∈ sent → index < started sent
  live : ∀ index, low ≤ index → index < started sent → .start index kind ∈ sent
  alike : ∀ index other, .start index other ∈ sent → low ≤ index → other = kind
  standing : ∀ index, .stop index ∈ sent → index < low
  done : ∀ index other, .start index other ∈ sent → index < low → .stop index ∈ sent

section Windows
variable {sent : List (Mark Kind)} {low : Int}

theorem started_append (mark : Mark Kind) :
    started (sent ++ [mark]) = started sent + if mark.isStart then 1 else 0 := by
  unfold started
  rw [List.countP_append, List.countP_singleton]
  split <;> simp

theorem window_opening (kind : Kind) : Window [.opening] 0 kind := by
  constructor <;> simp [started, Mark.isStart]

/-- The stops of `count` blocks from `low` on. -/
def Mark.stops (low : Int) (count : Nat) : List (Mark Kind) :=
  (List.range count).map fun offset : Nat => .stop (low + offset)

theorem stops_succ (count : Nat) :
    (Mark.stops low (count + 1) : List (Mark Kind)) = Mark.stops low count ++ [.stop (low + count)] := by
  simp [Mark.stops, List.range_succ]

theorem started_stops : started (sent ++ Mark.stops low count) = started sent := by
  simp only [started, List.countP_append, Mark.stops, List.countP_map]
  have none_starts : (Mark.isStart ∘ fun offset : Nat => (.stop (low + offset) : Mark Kind)) =
      fun _ => false := rfl
  rw [none_starts, List.countP_false]
  simp

namespace Window

theorem retype (window : Window sent low kind) (empty : started sent = low) : Window sent low other := by
  refine { window with live := ?_, alike := ?_ }
  · intro index lower upper
    omega
  · intro index another began lower
    have := window.known index another began
    omega

theorem start_iff (window : Window sent low kind) :
    Permitted sent (.start index other) ↔ index = started sent := by
  simp [Permitted, window.opened, window.unended]

theorem start (window : Window sent low kind) : Window (sent ++ [.start (started sent) kind]) low kind := by
  have count : started (sent ++ [.start (started sent) kind]) = started sent + 1 :=
    started_append _
  have upper := window.low_le
  constructor
  · simp [window.opened]
  · simp [window.unsummed]
  · simp [window.unended]
  · omega
  · intro index other began
    rcases List.mem_append.mp began with old | new
    · have := window.known index other old
      omega
    · obtain ⟨rfl, -⟩ : index = started sent ∧ other = kind := by simpa using new
      omega
  · intro index lower bound
    by_cases newest : index = started sent
    · simp [newest]
    · exact List.mem_append_left _ (window.live index lower (by omega))
  · intro index other began lower
    rcases List.mem_append.mp began with old | new
    · exact window.alike index other old lower
    · obtain ⟨-, same⟩ : index = started sent ∧ other = kind := by simpa using new
      exact same
  · intro index stopped
    exact window.standing index (by simpa using stopped)
  · intro index other began below
    rcases List.mem_append.mp began with old | new
    · exact List.mem_append_left _ (window.done index other old below)
    · obtain ⟨rfl, -⟩ : index = started sent ∧ other = kind := by simpa using new
      omega

theorem delta_iff (window : Window sent low kind) :
    Permitted sent (.delta index kind) ↔ low ≤ index ∧ index < started sent := by
  simp only [Permitted, window.opened, window.unended, not_false_eq_true, true_and]
  constructor
  · rintro ⟨began, standing⟩
    refine ⟨?_, window.known index kind began⟩
    by_contra below
    exact standing (window.done index kind began (by omega))
  · rintro ⟨lower, upper⟩
    refine ⟨window.live index lower upper, fun stopped => ?_⟩
    have := window.standing index stopped
    omega

theorem delta (window : Window sent low kind) : Window (sent ++ [.delta index other]) low kind := by
  have count : started (sent ++ [.delta index other]) = started sent := by
    rw [started_append]
    rfl
  constructor <;> simp only [count, List.mem_append, List.mem_singleton, reduceCtorEq, or_false]
  · exact window.opened
  · exact window.unsummed
  · exact window.unended
  · exact window.low_le
  · exact window.known
  · exact window.live
  · exact window.alike
  · exact window.standing
  · exact window.done

theorem stop_iff (window : Window sent low kind) :
    Permitted sent (.stop index) ↔ low ≤ index ∧ index < started sent := by
  rw [← window.delta_iff]
  simp only [Permitted, window.opened, window.unended, window.unsummed, not_false_eq_true, true_and]
  refine and_congr_left fun standing => ⟨?_, fun began => ⟨kind, began⟩⟩
  rintro ⟨other, began⟩
  have lower : low ≤ index := by
    by_contra below
    exact standing (window.done index other began (by omega))
  rwa [← window.alike index other began lower]

theorem stop (window : Window sent low kind) (inside : low < started sent) :
    Window (sent ++ [.stop low]) (low + 1) kind := by
  have count : started (sent ++ [.stop low]) = started sent := by
    rw [started_append]
    rfl
  constructor <;> simp only [count, List.mem_append, List.mem_singleton, reduceCtorEq, or_false,
    Mark.stop.injEq]
  · exact window.opened
  · exact window.unsummed
  · exact window.unended
  · omega
  · exact window.known
  · intro index lower upper
    exact window.live index (by omega) upper
  · intro index other began lower
    exact window.alike index other began (by omega)
  · rintro index (old | rfl)
    · have := window.standing index old
      omega
    · omega
  · intro index other began below
    by_cases newest : index = low
    · exact .inr newest
    · exact .inl (window.done index other began (by omega))

theorem stops (window : Window sent low kind) :
    (count : Nat) → low + count ≤ started sent →
      Window (sent ++ Mark.stops low count) (low + count) kind := by
  intro count
  induction count with
  | zero =>
    intro _
    simpa [Mark.stops] using window
  | succ count ih =>
    intro inside
    have before := ih (by omega)
    have count_same : started (sent ++ Mark.stops low count) = started sent := started_stops
    have next := before.stop (by omega)
    rw [List.append_assoc, ← stops_succ] at next
    have moved : low + ((count + 1 : Nat) : Int) = low + count + 1 := by omega
    rwa [moved]

theorem stops_iff (window : Window sent low kind) (count : Nat) :
    Follows sent (Mark.stops low count) ↔ low + count ≤ started sent := by
  induction count with
  | zero => simpa [Mark.stops] using window.low_le
  | succ count ih =>
    rw [stops_succ, follows_append, ih]
    constructor
    · rintro ⟨inside, last⟩
      have stopped := ((window.stops count inside).stop_iff).mp last.1
      rw [started_stops] at stopped
      omega
    · intro inside
      have before := window.stops count (by omega)
      refine ⟨by omega, before.stop_iff.mpr ⟨Int.le_refl _, ?_⟩, trivial⟩
      rw [started_stops]
      omega

theorem closed_iff (window : Window sent low kind) : Closed sent ↔ started sent = low := by
  have upper := window.low_le
  constructor
  · intro closed
    by_contra some_open
    have began := window.live low (Int.le_refl _) (by omega)
    have := window.standing low (closed low kind began)
    omega
  · intro empty index other began
    have := window.known index other began
    exact window.done index other began (by omega)

theorem finish_iff (window : Window sent low kind) (summed : Bool) :
    Follows sent ((if summed then [.summary] else []) ++ [.ending]) ↔ started sent = low := by
  rw [← window.closed_iff]
  cases summed with
  | false => simp [Permitted, window.opened, window.unended]
  | true => simp +contextual [Permitted, window.opened, window.unended, Closed]

end Window
end Windows

end NewApi.BlockStream
