import Mathlib.Data.List.Rotate

/-! Positions on a ring that are taken in turn. A scan starts at a cursor, takes
the first position that is available and leaves the cursor behind it, so what is
taken goes to the end of the order. -/
namespace NewApi.CyclicScan

variable {available : Nat → Bool} {size start : Nat}

def ring (size start : Nat) : List Nat := (List.range size).map fun step => (start + step) % size

def turns (available : Nat → Bool) (size start : Nat) : List Nat :=
  (ring size start).filter available

def scan (available : Nat → Bool) (size start : Nat) : Option Nat :=
  (ring size start).find? available

theorem ring_eq_rotate (size start : Nat) : ring size start = (List.range size).rotate start := by
  refine List.ext_getElem (by simp [ring]) fun step _ _ => ?_
  simp [ring, List.getElem_rotate, Nat.add_comm]

theorem scan_eq_head (available : Nat → Bool) (size start : Nat) :
    scan available size start = (turns available size start).head? :=
  List.head?_filter.symm

theorem turns_congr {other : Nat → Bool} (same : ∀ index < size, available index = other index) :
    turns available size start = turns other size start := by
  refine List.filter_congr fun index member => ?_
  obtain ⟨step, within, rfl⟩ := List.mem_map.mp member
  exact same _ (Nat.mod_lt _ (by have := List.mem_range.mp within; omega))

theorem turns_perm (available : Nat → Bool) (size start : Nat) :
    (turns available size start).Perm ((List.range size).filter available) := by
  rw [turns, ring_eq_rotate]
  exact (List.rotate_perm _ _).filter _

theorem turns_next (first : turns available size start = index :: rest) :
    turns available size ((index + 1) % size) = rest ++ [index] := by
  obtain ⟨before, after, shape, skipped, taken, rfl⟩ := List.filter_eq_cons_iff.mp first
  have place : index = (start + before.length) % size := by
    have here : (ring size start)[before.length]? = some index := by simp [shape]
    simp only [ring, List.getElem?_map, Option.map_eq_some_iff] at here
    obtain ⟨step, found, rfl⟩ := here
    rw [(List.getElem?_eq_some_iff.mp found).choose_spec.symm, List.getElem_range]
  have rotated : ring size ((index + 1) % size) = after ++ (before ++ [index]) := by
    have behind : (index + 1) % size = (start + (before.length + 1)) % size := by
      rw [place, Nat.mod_add_mod, Nat.add_assoc]
    have length : (List.range size).length = size := List.length_range
    calc ring size ((index + 1) % size)
        = (List.range size).rotate ((start + (before.length + 1)) % (List.range size).length) := by
          rw [ring_eq_rotate, behind, length]
      _ = (ring size start).rotate (before.length + 1) := by
          rw [List.rotate_mod, ring_eq_rotate, List.rotate_rotate]
      _ = ((before ++ [index]) ++ after).rotate (before ++ [index]).length := by
          rw [shape]
          simp
      _ = after ++ (before ++ [index]) := List.rotate_append_length_eq _ _
  have none_ : before.filter available = [] := List.filter_eq_nil_iff.mpr skipped
  rw [turns, rotated, List.filter_append, List.filter_append, none_]
  simp [taken]

end NewApi.CyclicScan
