import Mathlib.Data.Nat.Count
import Mathlib.Tactic.Ring

/-! Drawing from a list by weight. A walk over the list takes the weights off
the draw one after the other and ends where the draw falls. Over all draws below
the total each key is selected as often as its items weigh; when the walk starts
one draw late, the first item gets a draw of the last one. -/
namespace NewApi.WeightedDraw

variable {α κ : Type} [DecidableEq κ] {weight : α → Nat} {items : List α}

def total (weight : α → Nat) (items : List α) : Nat := (items.map weight).sum

def choose (weight : α → Nat) : List α → Nat → Option α
  | [], _ => none
  | item :: rest, draw =>
    if draw < weight item then some item else choose weight rest (draw - weight item)

def chooseLate (weight : α → Nat) (items : List α) (draw : Nat) : Option α :=
  choose weight items (draw - 1)

def shareOf (key : α → κ) (weight : α → Nat) (items : List α) (value : κ) : Nat :=
  total weight (items.filter fun item => key item = value)

def drawsOf (key : α → κ) (select : Nat → Option α) (bound : Nat) (value : κ) : Nat :=
  Nat.count (fun draw => (select draw).map key = some value) bound

structure Exact (key : α → κ) (weight : α → Nat) (items : List α) (bound : Nat)
    (select : Nat → Option α) : Prop where
  sums : total weight items = bound
  selects : ∀ draw < bound, ∃ item ∈ items, select draw = some item
  shares : ∀ value, drawsOf key select bound value = shareOf key weight items value

theorem total_cons (item : α) (rest : List α) :
    total weight (item :: rest) = weight item + total weight rest := by
  rw [total, total, List.map_cons, List.sum_cons]

theorem total_affine (weight : α → Nat) (factor adjustment : Nat) (items : List α) :
    total (fun item => weight item * factor + adjustment) items =
      total weight items * factor + items.length * adjustment := by
  induction items with
  | nil => simp [total]
  | cons first rest ih =>
    rw [total_cons, total_cons, ih, List.length_cons]
    ring

theorem share_cons (key : α → κ) (item : α) (rest : List α) (value : κ) :
    shareOf key weight (item :: rest) value =
      (if key item = value then weight item else 0) + shareOf key weight rest value := by
  by_cases same : key item = value
  · simp [shareOf, same, total_cons]
  · simp [shareOf, same]

theorem draws_congr {key : α → κ} {select other : Nat → Option α}
    (same : ∀ draw < bound, select draw = other draw) (value : κ) :
    drawsOf key select bound value = drawsOf key other bound value := by
  unfold drawsOf Nat.count
  refine List.countP_congr fun draw member => ?_
  simp only [same draw (List.mem_range.mp member)]

theorem Exact.congr {key : α → κ} {select other : Nat → Option α}
    (exact_ : Exact key weight items bound other)
    (same : ∀ draw < bound, select draw = other draw) : Exact key weight items bound select where
  sums := exact_.sums
  selects draw below := by
    rw [same draw below]
    exact exact_.selects draw below
  shares value := (draws_congr same value).trans (exact_.shares value)

theorem draws_cons (key : α → κ) (item : α) (rest : List α) (value : κ) :
    drawsOf key (choose weight (item :: rest)) (total weight (item :: rest)) value =
      (if key item = value then weight item else 0) +
        drawsOf key (choose weight rest) (total weight rest) value := by
  have own : drawsOf key (choose weight (item :: rest)) (weight item) value =
      if key item = value then weight item else 0 := by
    have taken : ∀ draw < weight item, choose weight (item :: rest) draw = some item := by
      intro draw below
      rw [choose, if_pos below]
    rw [draws_congr taken]
    by_cases same : key item = value
    · simp [drawsOf, same]
    · simp [drawsOf, same]
  have behind : ∀ draw, choose weight (item :: rest) (weight item + draw) =
      choose weight rest draw := by
    intro draw
    rw [choose, if_neg (by omega), Nat.add_sub_cancel_left]
  rw [total_cons, drawsOf, Nat.count_add]
  simp only [behind]
  exact congrArg (· + _) own

theorem choose_found (below : draw < total weight items) :
    ∃ item ∈ items, choose weight items draw = some item := by
  induction items generalizing draw with
  | nil => exact absurd below (Nat.not_lt_zero draw)
  | cons first rest ih =>
    rw [total_cons] at below
    by_cases here : draw < weight first
    · exact ⟨first, List.mem_cons_self, by rw [choose, if_pos here]⟩
    · obtain ⟨item, member, found⟩ := ih (show draw - weight first < total weight rest by omega)
      exact ⟨item, List.mem_cons_of_mem first member, by rw [choose, if_neg here, found]⟩

theorem choose_draws (key : α → κ) (weight : α → Nat) (items : List α) (value : κ) :
    drawsOf key (choose weight items) (total weight items) value = shareOf key weight items value := by
  induction items with
  | nil => rfl
  | cons first rest ih => rw [draws_cons, share_cons, ih]

theorem choose_exact (key : α → κ) (weight : α → Nat) (items : List α) :
    Exact key weight items (total weight items) (choose weight items) where
  sums := rfl
  selects _ below := choose_found below
  shares := choose_draws key weight items

/-! ## One draw late -/

theorem choose_first (nonempty : items ≠ []) (positive : ∀ item ∈ items, 0 < weight item) :
    choose weight items 0 = some (items.head nonempty) := by
  cases items with
  | nil => exact absurd rfl nonempty
  | cons first rest => rw [choose, if_pos (positive first List.mem_cons_self), List.head_cons]

theorem total_pos (nonempty : items ≠ []) (positive : ∀ item ∈ items, 0 < weight item) :
    0 < total weight items := by
  cases items with
  | nil => exact absurd rfl nonempty
  | cons first rest =>
    have weighs := positive first List.mem_cons_self
    rw [total_cons]
    omega

theorem choose_last (nonempty : items ≠ []) (positive : ∀ item ∈ items, 0 < weight item) :
    choose weight items (total weight items - 1) = some (items.getLast nonempty) := by
  induction items with
  | nil => exact absurd rfl nonempty
  | cons first rest ih =>
    have weighs := positive first List.mem_cons_self
    have others : ∀ item ∈ rest, 0 < weight item := fun item member =>
      positive item (List.mem_cons_of_mem first member)
    rw [total_cons]
    by_cases alone : rest = []
    · subst alone
      rw [choose, if_pos (by simp only [total, List.map_nil, List.sum_nil]; omega)]
      rfl
    · have more := total_pos alone others
      have behind : weight first + total weight rest - 1 - weight first = total weight rest - 1 := by omega
      rw [choose, if_neg (by omega), behind, ih alone others, List.getLast_cons alone]

theorem late_draws (key : α → κ) (weight : α → Nat) (items : List α) (bound : Nat) (value : κ) :
    drawsOf key (chooseLate weight items) (bound + 1) value +
        (if (choose weight items bound).map key = some value then 1 else 0) =
      drawsOf key (choose weight items) (bound + 1) value +
        (if (choose weight items 0).map key = some value then 1 else 0) := by
  have first : drawsOf key (chooseLate weight items) (bound + 1) value =
      drawsOf key (choose weight items) bound value +
        if (choose weight items 0).map key = some value then 1 else 0 :=
    Nat.count_succ' ..
  have last : drawsOf key (choose weight items) (bound + 1) value =
      drawsOf key (choose weight items) bound value +
        if (choose weight items bound).map key = some value then 1 else 0 :=
    Nat.count_succ ..
  omega

theorem late_exact_iff (key : α → κ) (nonempty : items ≠ []) (positive : ∀ item ∈ items, 0 < weight item) :
    Exact key weight items (total weight items) (chooseLate weight items) ↔
      key (items.head nonempty) = key (items.getLast nonempty) := by
  have weighs := total_pos nonempty positive
  have bounded : total weight items - 1 + 1 = total weight items := by omega
  have moved : ∀ value, drawsOf key (chooseLate weight items) (total weight items) value +
        (if key (items.getLast nonempty) = value then 1 else 0) =
      shareOf key weight items value + (if key (items.head nonempty) = value then 1 else 0) := by
    intro value
    have late := late_draws key weight items (total weight items - 1) value
    rw [bounded, choose_last nonempty positive, choose_first nonempty positive, choose_draws] at late
    simpa using late
  constructor
  · intro exact_
    have shared := exact_.shares (key (items.head nonempty))
    have shift := moved (key (items.head nonempty))
    rw [shared, if_pos rfl] at shift
    by_cases same : key (items.getLast nonempty) = key (items.head nonempty)
    · exact same.symm
    · rw [if_neg same] at shift
      omega
  · intro same
    refine ⟨rfl, fun draw below => choose_found (by omega), fun value => ?_⟩
    have shift := moved value
    rw [same] at shift
    omega

end NewApi.WeightedDraw
