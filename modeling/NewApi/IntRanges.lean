import Mathlib.Algebra.Order.Group.Int
import Mathlib.Data.List.Sort

/-! Closed ranges of integers. Ranges that are sorted by their starts are merged from the
left: a range that overlaps the last one, or begins right behind it, extends it. What is
merged holds the same integers, and its ranges lie apart. -/
namespace NewApi.IntRanges

structure IntRange where
  start : Int
  stop : Int
  deriving DecidableEq, Repr

def IntRange.Holds (range : IntRange) (number : Int) : Prop :=
  range.start ≤ number ∧ number ≤ range.stop

/-- The order by start, and then by stop. -/
def before (left right : IntRange) : Bool :=
  if left.start = right.start then left.stop ≤ right.stop else left.start ≤ right.start

/-- A range that ends where the later of two ends. -/
def extend (last range : IntRange) : IntRange :=
  if range.stop > last.stop then { last with stop := range.stop } else last

/-- The ranges behind the last one that has been merged. -/
def mergeFrom (last : IntRange) : List IntRange → List IntRange
  | [] => [last]
  | range :: rest =>
    if range.start ≤ last.stop + 1 then
      mergeFrom (extend last range) rest
    else last :: mergeFrom range rest

def merge : List IntRange → List IntRange
  | [] => []
  | first :: rest => mergeFrom first rest

/-- A walk over sorted ranges that ends at the first one behind the number. -/
def scan (number : Int) : List IntRange → Bool
  | [] => false
  | range :: rest =>
    if number < range.start then false
    else if number ≤ range.stop then true
    else scan number rest

/-- Between two ranges there is a number that neither has. -/
def Apart (left right : IntRange) : Prop := left.stop + 1 < right.start

variable {range : IntRange} {ranges rest : List IntRange} {number : Int}

theorem before_start (sorted : before last range = true) : last.start ≤ range.start := by
  unfold before at sorted
  split at sorted
  · rename_i same
    exact same.le
  · exact of_decide_eq_true sorted

theorem before_total (left right : IntRange) : (before left right || before right left) = true := by
  simp only [before, Bool.or_eq_true]
  split <;> split <;> simp only [decide_eq_true_eq] <;> omega

theorem before_trans (first second third : IntRange) (near : before first second = true)
    (far : before second third = true) : before first third = true := by
  simp only [before] at near far ⊢
  split at near <;> split at far <;> split <;> simp only [decide_eq_true_eq] at near far ⊢ <;> omega

@[simp] theorem extend_start (last range : IntRange) : (extend last range).start = last.start := by
  unfold extend
  split <;> rfl

theorem extend_stop (last range : IntRange) : (extend last range).stop = max last.stop range.stop := by
  unfold extend
  split
  · rename_i longer
    exact (max_eq_right (le_of_lt longer)).symm
  · rename_i shorter
    exact (max_eq_left (not_lt.mp shorter)).symm

/-- Merging ranges with sorted starts keeps what they hold. -/
theorem merge_from_holds (sorted : ∀ range ∈ rest, last.start ≤ range.start)
    (starts : rest.Pairwise fun left right => left.start ≤ right.start) :
    (∃ range ∈ mergeFrom last rest, range.Holds number) ↔
      last.Holds number ∨ ∃ range ∈ rest, range.Holds number := by
  induction rest generalizing last with
  | nil => simp [mergeFrom]
  | cons range rest ih =>
    obtain ⟨behind, starts⟩ := List.pairwise_cons.mp starts
    have first := sorted range List.mem_cons_self
    simp only [mergeFrom, List.exists_mem_cons_iff]
    split
    · rename_i touching
      have later : ∀ other ∈ rest, (extend last range).start ≤ other.start := fun other member => by
        simpa using sorted other (List.mem_cons_of_mem _ member)
      rw [ih later starts, ← or_assoc]
      refine or_congr_left ?_
      rw [IntRange.Holds, IntRange.Holds, IntRange.Holds, extend_start, extend_stop]
      omega
    · simp only [List.exists_mem_cons_iff, ih behind starts]

/-- The ranges of a merge lie apart, as far as each of them holds something. -/
theorem merge_from_apart (filled : last.start ≤ last.stop)
    (starts : rest.Pairwise fun left right => left.start ≤ right.start)
    (proper : ∀ range ∈ rest, range.start ≤ range.stop) :
    (mergeFrom last rest).Pairwise Apart ∧ (∀ range ∈ mergeFrom last rest, range.start ≤ range.stop) ∧
      ∀ range ∈ mergeFrom last rest, range.start = last.start ∨ ∃ other ∈ rest, range.start = other.start := by
  induction rest generalizing last with
  | nil => simp [mergeFrom, filled]
  | cons range rest ih =>
    obtain ⟨behind, starts⟩ := List.pairwise_cons.mp starts
    have inner : ∀ other ∈ rest, other.start ≤ other.stop := fun other member =>
      proper other (List.mem_cons_of_mem _ member)
    simp only [mergeFrom]
    split
    · have wider : (extend last range).start ≤ (extend last range).stop := by
        rw [extend_start, extend_stop]
        exact filled.trans (le_max_left _ _)
      obtain ⟨apart, proper, from_⟩ := ih wider starts inner
      refine ⟨apart, proper, fun other member => ?_⟩
      rcases from_ other member with same | ⟨source, inside, same⟩
      · exact .inl (same.trans (extend_start last range))
      · exact .inr ⟨source, List.mem_cons_of_mem _ inside, same⟩
    · rename_i gap
      obtain ⟨apart, filledRest, from_⟩ := ih (proper range List.mem_cons_self) starts inner
      have later : ∀ other ∈ mergeFrom range rest, Apart last other := by
        intro other member
        unfold Apart
        rcases from_ other member with same | ⟨source, inside, same⟩
        · omega
        · have := behind source inside
          omega
      refine ⟨List.pairwise_cons.mpr ⟨later, apart⟩, ?_, ?_⟩
      · exact List.forall_mem_cons.mpr ⟨filled, filledRest⟩
      · refine List.forall_mem_cons.mpr ⟨.inl rfl, fun other member => .inr ?_⟩
        rcases from_ other member with same | ⟨source, inside, same⟩
        · exact ⟨range, List.mem_cons_self, same⟩
        · exact ⟨source, List.mem_cons_of_mem _ inside, same⟩

/-- Ranges that lie apart are merged already. -/
theorem merge_from_fixed (apart : (last :: rest).Pairwise Apart) : mergeFrom last rest = last :: rest := by
  induction rest generalizing last with
  | nil => rfl
  | cons range rest ih =>
    obtain ⟨behind, apart⟩ := List.pairwise_cons.mp apart
    have gap : last.stop + 1 < range.start := behind range List.mem_cons_self
    rw [mergeFrom, if_neg (by omega), ih apart]

theorem sorted_starts (ranges : List IntRange) :
    (ranges.mergeSort before).Pairwise fun left right => left.start ≤ right.start := by
  have sorted : (ranges.mergeSort before).Pairwise fun left right => before left right = true :=
    List.pairwise_mergeSort before_trans before_total ranges
  exact sorted.imp before_start

theorem merge_sorted_holds : (∃ range ∈ merge (ranges.mergeSort before), range.Holds number) ↔
    ∃ range ∈ ranges, range.Holds number := by
  have starts := sorted_starts ranges
  have same : (∃ range ∈ ranges.mergeSort before, range.Holds number) ↔
      ∃ range ∈ ranges, range.Holds number := by simp only [List.mem_mergeSort]
  rw [← same]
  generalize ranges.mergeSort before = sorted at starts ⊢
  cases sorted with
  | nil => rfl
  | cons first rest =>
    obtain ⟨behind, starts⟩ := List.pairwise_cons.mp starts
    rw [merge, merge_from_holds behind starts, List.exists_mem_cons_iff]

theorem merge_sorted_apart (proper : ∀ range ∈ ranges, range.start ≤ range.stop) :
    (merge (ranges.mergeSort before)).Pairwise Apart ∧
      ∀ range ∈ merge (ranges.mergeSort before), range.start ≤ range.stop := by
  have starts := sorted_starts ranges
  have filled : ∀ range ∈ ranges.mergeSort before, range.start ≤ range.stop := fun range member =>
    proper range (List.mem_mergeSort.mp member)
  generalize ranges.mergeSort before = sorted at starts filled ⊢
  cases sorted with
  | nil => exact ⟨.nil, nofun⟩
  | cons first rest =>
    obtain ⟨own, filled⟩ := List.forall_mem_cons.mp filled
    obtain ⟨apart, proper, -⟩ := merge_from_apart own (List.pairwise_cons.mp starts).2 filled
    exact ⟨apart, proper⟩

theorem merge_sorted_fixed (apart : ranges.Pairwise Apart)
    (proper : ∀ range ∈ ranges, range.start ≤ range.stop) :
    merge (ranges.mergeSort before) = ranges := by
  have sorted : ranges.Pairwise fun left right => before left right = true := by
    refine apart.imp_of_mem fun {left right} member _ gap => ?_
    have own := proper left member
    unfold Apart at gap
    simp only [before]
    split <;> simp only [decide_eq_true_eq] <;> omega
  rw [List.mergeSort_of_pairwise sorted]
  cases ranges with
  | nil => rfl
  | cons first rest => exact merge_from_fixed apart

/-- The walk finds what ranges in order hold. -/
theorem scan_iff (number : Int)
    (ordered : ranges.Pairwise fun left right => left.stop < right.start)
    (proper : ∀ range ∈ ranges, range.start ≤ range.stop) :
    scan number ranges = true ↔ ∃ range ∈ ranges, range.Holds number := by
  induction ranges with
  | nil => simp [scan]
  | cons range rest ih =>
    obtain ⟨behind, ordered⟩ := List.pairwise_cons.mp ordered
    obtain ⟨filled, proper⟩ := List.forall_mem_cons.mp proper
    simp only [scan, List.exists_mem_cons_iff, IntRange.Holds]
    split
    · rename_i under
      refine iff_of_false Bool.false_ne_true ?_
      rintro (inside | ⟨other, member, inside⟩)
      · omega
      · have gap := behind other member
        omega
    · rename_i reached
      split
      · rename_i within
        exact iff_of_true rfl (.inl ⟨by omega, within⟩)
      · rename_i beyond
        rw [ih ordered proper]
        exact ⟨.inr, fun found => found.resolve_left fun inside => beyond inside.2⟩

end NewApi.IntRanges
