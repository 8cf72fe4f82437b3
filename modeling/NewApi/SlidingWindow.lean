import Mathlib.Data.List.Basic
import Mathlib.Order.Basic

/-! A sliding window over a log of times, and the bounded queue that stands for
the log. What the queue has dropped is no longer live, so that the window is
full exactly when the queue is full and its oldest time is live. Nothing here
depends on what is logged, or on the clock. -/
namespace NewApi.SlidingWindow

variable {Time : Type*} [Preorder Time]

/-- A time that is no longer live stays so, and of two times the newer one is
live longer. -/
structure Window (live : Time → Time → Bool) : Prop where
  earlier : ∀ {now later time}, now ≤ later → live later time = true → live now time = true
  newer : ∀ {now time other}, time ≤ other → live now time = true → live now other = true

def count (live : Time → Time → Bool) (now : Time) (log : List Time) : Nat := log.countP (live now)

/-- A queue of at most `limit` times, the end of a log whose other times are no
longer live. -/
structure Keeps (live : Time → Time → Bool) (limit : Nat) (now : Time) (log queue : List Time) :
    Prop where
  split : ∃ dropped, log = dropped ++ queue ∧ ∀ time ∈ dropped, live now time = false
  bounded : queue.length ≤ limit
  sorted : queue.Pairwise (· ≤ ·)
  reached : ∀ time ∈ queue, time ≤ now

variable {live : Time → Time → Bool} {log : List Time}

theorem keeps_nil (live : Time → Time → Bool) (limit : Nat) (now : Time) : Keeps live limit now [] [] :=
  ⟨⟨[], rfl, by simp⟩, Nat.zero_le _, .nil, by simp⟩

theorem dead_later (window : Window live) (passed : now ≤ later)
    (dead : live now time = false) : live later time = false := by
  by_contra alive
  have still := window.earlier passed (by simpa using alive)
  rw [dead] at still
  cases still

theorem keeps_later (window : Window live) (passed : now ≤ later)
    (keeps : Keeps live limit now log queue) : Keeps live limit later log queue := by
  obtain ⟨dropped, shape, dead⟩ := keeps.split
  exact ⟨⟨dropped, shape, fun time member => dead_later window passed (dead time member)⟩,
    keeps.bounded, keeps.sorted, fun time member => le_trans (keeps.reached time member) passed⟩

theorem keeps_count (keeps : Keeps live limit now log queue) :
    count live now log = count live now queue := by
  obtain ⟨dropped, rfl, dead⟩ := keeps.split
  rw [count, List.countP_append, List.countP_eq_zero.mpr fun time member => by simp [dead time member],
    Nat.zero_add, count]

theorem count_later (window : Window live) (passed : now ≤ later) (log : List Time) :
    count live later log ≤ count live now log :=
  List.countP_mono_left fun _ _ alive => window.earlier passed alive

theorem full_iff (window : Window live) (keeps : Keeps live limit now log queue)
    (shape : queue = oldest :: rest) :
    limit ≤ count live now log ↔ limit ≤ queue.length ∧ live now oldest = true := by
  rw [keeps_count keeps, count]
  have bounded := keeps.bounded
  have few := List.countP_le_length (p := live now) (l := queue)
  constructor
  · intro full
    have all := List.countP_eq_length.mp (show queue.countP (live now) = queue.length by omega)
    exact ⟨by omega, all oldest (by simp [shape])⟩
  · rintro ⟨long, alive⟩
    have all : ∀ time ∈ queue, live now time = true := by
      intro time member
      have sorted := keeps.sorted
      rw [shape] at sorted member
      rcases List.mem_cons.mp member with rfl | newer
      · exact alive
      · exact window.newer ((List.pairwise_cons.mp sorted).1 time newer) alive
    rw [List.countP_eq_length.mpr all]
    exact long

theorem keeps_push (window : Window live) (passed : now ≤ later)
    (keeps : Keeps live limit now log queue) (room : queue.length < limit) :
    Keeps live limit later (log ++ [later]) (queue ++ [later]) := by
  obtain ⟨⟨dropped, shape, dead⟩, -, sorted, reached⟩ := keeps_later window passed keeps
  refine ⟨⟨dropped, by rw [shape, List.append_assoc], dead⟩, ?_, ?_, ?_⟩
  · rw [List.length_append, List.length_singleton]
    omega
  · exact List.pairwise_append.mpr ⟨sorted, List.pairwise_singleton .., by simpa using reached⟩
  · intro time member
    rcases List.mem_append.mp member with held | last
    · exact reached time held
    · rw [List.mem_singleton.mp last]

theorem keeps_shift (window : Window live) (passed : now ≤ later)
    (keeps : Keeps live limit now log (oldest :: rest)) (dead : live now oldest = false) :
    Keeps live limit later (log ++ [later]) (rest ++ [later]) := by
  obtain ⟨dropped, shape, gone⟩ := keeps.split
  have short := keeps.bounded
  have sorted := List.pairwise_cons.mp keeps.sorted
  rw [List.length_cons] at short
  have kept : Keeps live limit now log rest := by
    refine ⟨⟨dropped ++ [oldest], by simp [shape], ?_⟩, by omega, sorted.2,
      fun time member => keeps.reached time (List.mem_cons_of_mem _ member)⟩
    intro time member
    rcases List.mem_append.mp member with earlier | last
    · exact gone time earlier
    · rw [List.mem_singleton.mp last]
      exact dead
  exact keeps_push window passed kept (by omega)

theorem keeps_forget (keeps : Keeps live limit now log queue)
    (dead : ∀ time ∈ queue, live now time = false) : Keeps live limit now log [] := by
  obtain ⟨dropped, shape, gone⟩ := keeps.split
  refine ⟨⟨dropped ++ queue, by simp [shape], ?_⟩, Nat.zero_le _, .nil, by simp⟩
  intro time member
  rcases List.mem_append.mp member with earlier | held
  · exact gone time earlier
  · exact dead time held

/-! ## The newest times -/

/-- The time that stands `place` places before the newest one. -/
def newest (place : Nat) (log : List Time) : Option Time := log.reverse[place]?

omit [Preorder Time] in
theorem newest_append (place : Nat) (dropped queue : List Time) :
    newest place (dropped ++ queue) =
      if place < queue.length then newest place queue
      else newest (place - queue.length) dropped := by
  rw [newest, List.reverse_append, List.getElem?_append, List.length_reverse]
  rfl

omit [Preorder Time] in
theorem newest_mem (found : newest place log = some time) : time ∈ log :=
  List.mem_reverse.mp (List.mem_of_getElem? found)

theorem count_back_le_iff (window : Window live) {back : List Time}
    (sorted : back.Pairwise fun newer older => older ≤ newer) (limit : Nat) :
    back.countP (live now) ≤ limit ↔ ∀ time, back[limit]? = some time → live now time = false := by
  induction back generalizing limit with
  | nil => simp
  | cons first back ih =>
    obtain ⟨older, sorted⟩ := List.pairwise_cons.mp sorted
    cases alive : live now first with
    | true =>
      rw [List.countP_cons_of_pos alive]
      cases limit with
      | zero => simp [alive]
      | succ limit => rw [Nat.succ_le_succ_iff, ih sorted, List.getElem?_cons_succ]
    | false =>
      have dead : ∀ time ∈ first :: back, live now time = false := by
        intro time member
        rcases List.mem_cons.mp member with rfl | inside
        · exact alive
        · by_contra lives
          have still := window.newer (older time inside) (by simpa using lives)
          rw [alive] at still
          cases still
      have none_ : (first :: back).countP (live now) = 0 :=
        List.countP_eq_zero.mpr fun time member => by simp [dead time member]
      rw [none_]
      exact iff_of_true (Nat.zero_le _) fun time found => dead time (List.mem_of_getElem? found)

theorem count_le_iff (window : Window live) (sorted : log.Pairwise (· ≤ ·)) (limit : Nat) :
    count live now log ≤ limit ↔ ∀ time, newest limit log = some time → live now time = false := by
  rw [count, ← List.countP_reverse]
  exact count_back_le_iff window (List.pairwise_reverse.mpr sorted) limit

end NewApi.SlidingWindow
