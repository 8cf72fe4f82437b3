import Mathlib.Data.List.Dedup
import Mathlib.Data.List.Sort

/-! The distinct values of a list in decreasing order, as the levels that a
sequence of retries goes down. A retry beyond the last level stays at it.
Nothing here depends on what the values are. -/
namespace NewApi.PriorityLevels

variable {Value : Type*} [LinearOrder Value]

def levels (values : List Value) : List Value :=
  values.dedup.insertionSort fun one other => other ≤ one

def levelAt (retry : Nat) (values : List Value) : Option Value :=
  (levels values)[min retry ((levels values).length - 1)]?

section Levels
variable {values others : List Value} {value : Value}

@[simp] theorem mem_levels : value ∈ levels values ↔ value ∈ values := by
  rw [levels, List.mem_insertionSort, List.mem_dedup]

theorem levels_nodup (values : List Value) : (levels values).Nodup :=
  (List.perm_insertionSort _ _).nodup_iff.mpr (List.nodup_dedup values)

theorem levels_decreasing (values : List Value) : (levels values).Pairwise fun one other =>
    other < one := by
  have total : Std.Total fun one other : Value => other ≤ one := ⟨fun one other => le_total other one⟩
  have transitive : IsTrans Value fun one other => other ≤ one :=
    ⟨fun one middle other first second => le_trans second first⟩
  have ordered : (levels values).Pairwise fun one other => other ≤ one :=
    List.pairwise_insertionSort _ _
  apply (ordered.and (levels_nodup values)).imp
  rintro one other ⟨below, different⟩
  exact lt_of_le_of_ne below different.symm

@[simp] theorem levels_eq_nil : levels values = [] ↔ values = [] := by
  constructor
  · intro none_
    apply List.eq_nil_iff_forall_not_mem.mpr
    intro value member
    have level := mem_levels.mpr member
    rw [none_] at level
    cases level
  · rintro rfl
    rfl

theorem levels_congr (same : ∀ value, value ∈ values ↔ value ∈ others) : levels values = levels others := by
  have members : (levels values).Perm (levels others) := by
    apply (List.perm_ext_iff_of_nodup (levels_nodup values) (levels_nodup others)).mpr
    intro value
    rw [mem_levels, mem_levels, same]
  apply members.eq_of_pairwise _ (levels_decreasing values) (levels_decreasing others)
  intro one other _ _ below above
  exact absurd below (lt_asymm above)

theorem levelAt_congr (same : ∀ value, value ∈ values ↔ value ∈ others) (retry : Nat) :
    levelAt retry values = levelAt retry others := by
  rw [levelAt, levelAt, levels_congr same]

theorem levelAt_some (retry : Nat) (values : List Value) (some_ : values ≠ []) :
    ∃ value ∈ values, levelAt retry values = some value := by
  have nonempty : 0 < (levels values).length :=
    List.length_pos_iff.mpr fun none_ => some_ (levels_eq_nil.mp none_)
  have inside : min retry ((levels values).length - 1) < (levels values).length := by omega
  refine ⟨(levels values)[min retry ((levels values).length - 1)], ?_, ?_⟩
  · exact mem_levels.mp (List.getElem_mem inside)
  · exact List.getElem?_eq_getElem inside

theorem levelAt_reaches (member : value ∈ values) : ∃ retry, levelAt retry values = some value := by
  obtain ⟨retry, inside, found⟩ := List.mem_iff_getElem.mp (mem_levels.mpr member)
  refine ⟨retry, ?_⟩
  have clamped : min retry ((levels values).length - 1) = retry := by omega
  rw [levelAt, clamped, List.getElem?_eq_getElem inside, found]

end Levels

end NewApi.PriorityLevels
