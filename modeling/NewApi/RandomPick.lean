import Mathlib.Data.List.Nodup
import Mathlib.Data.List.Perm.Subperm
import Mathlib.Tactic.Common

/-! A random choice from a list by the shuffle of Fisher and Yates. The source
of randomness is any function that gives a number for each round of the loop,
so what is proved holds whatever the source gives. Nothing here depends on what
the list holds. -/
namespace NewApi.RandomPick

variable {α : Type*}

/-- `l[i], l[j] = l[j], l[i]`. -/
def swap (l : List α) (i j : Nat) : List α :=
  match l[i]?, l[j]? with
  | some left_, some right_ => (l.set i right_).set j left_
  | _, _ => l

/-- The loop `for i := last; i > 0; i--` that swaps place `i` with a place up to `i`. -/
def shuffleFrom (random : Nat → Nat) : Nat → List α → List α
  | 0, out => out
  | i + 1, out => shuffleFrom random i (swap out (i + 1) (random (i + 1) % (i + 2)))

/-- The whole list when at most `count` are there, else the first `count` of it shuffled. -/
def pick (random : Nat → Nat) (l : List α) (count : Nat) : List α :=
  if l.length ≤ count then l else (shuffleFrom random (l.length - 1) l).take count

theorem swap_perm (l : List α) (i j : Nat) : (swap l i j).Perm l := by
  unfold swap
  split
  · rename_i left_ right_ atLeft atRight
    obtain ⟨inside, rfl⟩ := List.getElem?_eq_some_iff.mp atLeft
    obtain ⟨within, rfl⟩ := List.getElem?_eq_some_iff.mp atRight
    exact List.set_set_perm inside within
  · exact List.Perm.refl l

theorem shuffle_from_perm (random : Nat → Nat) (last : Nat) (l : List α) :
    (shuffleFrom random last l).Perm l := by
  induction last generalizing l with
  | zero => exact List.Perm.refl l
  | succ i ih => exact (ih _).trans (swap_perm l _ _)

theorem pick_subperm (random : Nat → Nat) (l : List α) (count : Nat) : (pick random l count).Subperm l := by
  unfold pick
  split
  · exact List.Subperm.refl l
  · exact (List.take_sublist _ _).subperm.trans (shuffle_from_perm random _ l).subperm

theorem pick_nodup {l : List α} (distinct : l.Nodup) (random : Nat → Nat) (count : Nat) :
    (pick random l count).Nodup := by
  obtain ⟨part, same, inside⟩ := pick_subperm random l count
  exact same.nodup_iff.mp (distinct.sublist inside)

theorem pick_length (random : Nat → Nat) (l : List α) (count : Nat) :
    (pick random l count).length = min count l.length := by
  unfold pick
  split
  · rename_i few
    rw [Nat.min_eq_right few]
  · rw [List.length_take, (shuffle_from_perm random _ l).length_eq]

theorem mem_of_mem_pick {random : Nat → Nat} {l : List α} {count : Nat} {item : α}
    (picked : item ∈ pick random l count) : item ∈ l :=
  (pick_subperm random l count).subset picked

end NewApi.RandomPick
