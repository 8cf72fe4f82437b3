import Mathlib.Data.List.Basic
import Mathlib.Data.List.Forall2
import Mathlib.Data.List.Nodup
import Mathlib.Data.List.Perm.Subperm
import Mathlib.Order.Monotone.Basic
import NewApi.SeparatedText

/-! Stretches of a text that are marked, and what is kept of the text when every region of
them is replaced by a marker. A region begins where a stretch begins and none goes on. Where
no two stretches overlap the kept bytes are the gaps between them, and there are as many
markers as stretches only then. Nothing here depends on what the stretches are. -/
namespace NewApi.Regions

/-- A byte of the text that is kept, or a marker. -/
inductive Symbol where
  | byte (index : Nat)
  | marker
  deriving DecidableEq, Repr

def keep (first last : Nat) : List Symbol := (List.range' first (last - first)).map .byte

def joined : List (Nat × Nat) → List Symbol
  | [] => []
  | [gap] => keep gap.1 gap.2
  | gap :: next :: rest => keep gap.1 gap.2 ++ .marker :: joined (next :: rest)

def SameGap (first second : Nat × Nat) : Prop :=
  first = second ∨ first.2 ≤ first.1 ∧ second.2 ≤ second.1

section Marked
variable {α : Type*} (start stop : α → Nat) (items : List α)

def covered (position : Nat) : Bool :=
  items.any fun item => start item ≤ position && position < stop item

def begins (position : Nat) : Bool :=
  items.any (start · = position) && !items.any fun item => start item < position && position < stop item

def told (offset : Nat → Nat) (first last : Nat) : List Symbol :=
  (List.range' first (last - first)).flatMap fun position =>
    (if begins start stop items position then [.marker] else []) ++
      if covered start stop items position then []
      else keep (offset position) (offset (position + 1))

def gaps (offset : Nat → Nat) (size : Nat) : Nat → List α → List (Nat × Nat)
  | last, [] => [(last, offset size)]
  | last, item :: rest =>
    (last, offset (start item)) :: gaps offset size (offset (stop item)) rest

def Apart : Prop :=
  ∀ first ∈ items, ∀ second ∈ items, first = second ∨ stop first ≤ start second ∨ stop second ≤ start first

end Marked

/-! ## Gaps -/

theorem keep_append (before : first ≤ middle) (behind : middle ≤ last) :
    keep first middle ++ keep middle last = keep first last := by
  rw [keep, keep, keep, ← List.map_append]
  congr 1
  obtain ⟨more, rfl⟩ := Nat.exists_eq_add_of_le before
  obtain ⟨rest, rfl⟩ := Nat.exists_eq_add_of_le behind
  rw [Nat.add_sub_cancel_left, Nat.add_sub_cancel_left, Nat.add_assoc, Nat.add_sub_cancel_left,
    List.range'_append_1]

theorem keep_empty (none_ : last ≤ first) : keep first last = [] := by
  rw [keep, Nat.sub_eq_zero_of_le none_]
  rfl

theorem keep_no_marker (first last : Nat) : Symbol.marker ∉ keep first last := by
  simp [keep]

theorem keep_same_iff (first second : Nat × Nat) :
    keep first.1 first.2 = keep second.1 second.2 ↔ SameGap first second := by
  obtain ⟨start, stop⟩ := first
  obtain ⟨other, last⟩ := second
  have inj : Function.Injective Symbol.byte := fun _ _ => Symbol.byte.inj
  simp only [keep, List.map_inj_right fun _ _ => Symbol.byte.inj, SameGap, Prod.mk.injEq]
  rw [List.range'_inj]
  omega

theorem joined_no_gaps (gap : Nat × Nat) (some_ : rest ≠ []) :
    joined (gap :: rest) = keep gap.1 gap.2 ++ .marker :: joined rest := by
  cases rest with
  | nil => exact absurd rfl some_
  | cons next rest => rfl

theorem joined_same_iff (some_ : first ≠ [])
    (other : second ≠ []) : joined first = joined second ↔ List.Forall₂ SameGap first second := by
  induction first generalizing second with
  | nil => exact absurd rfl some_
  | cons gap rest ih =>
    cases second with
    | nil => exact absurd rfl other
    | cons next more =>
      rw [List.forall₂_cons, ← keep_same_iff]
      by_cases last : rest = []
      · by_cases ends : more = []
        · simp [last, ends, joined]
        · rw [joined_no_gaps next ends, last]
          refine iff_of_false (fun same => ?_) fun ⟨_, none_⟩ => ends (List.forall₂_nil_left_iff.1 none_)
          refine keep_no_marker gap.1 gap.2 ?_
          rw [show keep gap.1 gap.2 = joined [gap] from rfl, same]
          simp
      · by_cases ends : more = []
        · rw [joined_no_gaps gap last, ends]
          refine iff_of_false (fun same => ?_) fun ⟨_, none_⟩ =>
            last (List.forall₂_nil_right_iff.1 none_)
          refine keep_no_marker next.1 next.2 ?_
          rw [show keep next.1 next.2 = joined [next] from rfl, ← same]
          simp
        · rw [joined_no_gaps gap last, joined_no_gaps next ends,
            ← ih last ends]
          refine ⟨fun same => ?_, fun ⟨here, later⟩ => by rw [here, later]⟩
          have begins : keep gap.1 gap.2 ++ .marker :: joined rest <+:
              keep next.1 next.2 ++ .marker :: joined more := ⟨[], by rw [List.append_nil, same]⟩
          have front := ((SeparatedText.prefix_to_sep (keep_no_marker _ _) (keep_no_marker _ _)).1 begins).1
          rw [front, List.append_cancel_left_eq] at same
          exact ⟨front, (List.cons.inj same).2⟩

theorem joined_markers (gap : Nat × Nat) (rest : List (Nat × Nat)) :
    (joined (gap :: rest)).count .marker = rest.length := by
  induction rest generalizing gap with
  | nil => exact List.count_eq_zero.2 (keep_no_marker _ _)
  | cons next rest ih =>
    rw [joined_no_gaps gap (List.cons_ne_nil _ _), List.count_append,
      List.count_eq_zero.2 (keep_no_marker _ _), List.count_cons_self, ih, Nat.zero_add,
      List.length_cons]

/-! ## Stretches that do not overlap -/

section Marked
variable {α : Type*} {start stop : α → Nat} {items : List α} {offset : Nat → Nat}
  {first middle last : Nat}

theorem told_append (before : first ≤ middle) (behind : middle ≤ last) :
    told start stop items offset first middle ++ told start stop items offset middle last =
      told start stop items offset first last := by
  obtain ⟨more, rfl⟩ := Nat.exists_eq_add_of_le before
  obtain ⟨rest, rfl⟩ := Nat.exists_eq_add_of_le behind
  rw [told, told, told, ← List.flatMap_append, Nat.add_sub_cancel_left, Nat.add_sub_cancel_left,
    Nat.add_assoc, Nat.add_sub_cancel_left, List.range'_append_1]

theorem told_succ (before : first < last) :
    told start stop items offset first last =
      (if begins start stop items first then [.marker] else []) ++
        (if covered start stop items first then [] else keep (offset first) (offset (first + 1))) ++
        told start stop items offset (first + 1) last := by
  obtain ⟨more, rfl⟩ := Nat.exists_eq_add_of_le (Nat.succ_le_of_lt before)
  rw [told, told, show first.succ + more - first = more + 1 by omega,
    show first.succ + more - (first + 1) = more by omega, List.range'_succ, List.flatMap_cons]

theorem told_outside (rising : Monotone offset) (order : first ≤ last)
    (outside : ∀ position, first ≤ position → position < last →
      covered start stop items position = false ∧ begins start stop items position = false) :
    told start stop items offset first last = keep (offset first) (offset last) := by
  obtain ⟨more, rfl⟩ := Nat.exists_eq_add_of_le order
  induction more generalizing first with
  | zero =>
    rw [Nat.add_zero, keep_empty (Nat.le_refl _), told, Nat.sub_self]
    rfl
  | succ more ih =>
    obtain ⟨uncovered, none_⟩ := outside first (Nat.le_refl _) (by omega)
    have shift : first + (more + 1) = first + 1 + more := by omega
    rw [told_succ (by omega), uncovered, none_, shift, ih (by omega) fun position from_ below =>
      outside position (by omega) (by omega)]
    exact keep_append (rising (Nat.le_succ _)) (rising (by omega))

theorem told_inside (inside : ∀ position, first ≤ position → position < last →
      covered start stop items position = true ∧ begins start stop items position = false) :
    told start stop items offset first last = [] := by
  refine List.flatMap_eq_nil_iff.2 fun position member => ?_
  obtain ⟨from_, below⟩ := List.mem_range'_1.1 member
  obtain ⟨within, none_⟩ := inside position from_ (by omega)
  rw [within, none_]
  rfl

theorem outside_all (proper : ∀ item ∈ items, start item < stop item)
    (outside : ∀ item ∈ items, stop item ≤ position ∨ position < start item) :
    covered start stop items position = false ∧ begins start stop items position = false := by
  have uncovered : covered start stop items position = false := by
    refine List.any_eq_false.2 fun item member => ?_
    have apart := outside item member
    simp only [Bool.and_eq_true, decide_eq_true_eq]
    omega
  have unbegun : items.any (start · = position) = false := by
    refine List.any_eq_false.2 fun item member => ?_
    have apart := outside item member
    have some_ := proper item member
    simp only [decide_eq_true_eq]
    omega
  exact ⟨uncovered, by rw [begins, unbegun]; rfl⟩

theorem told_stretch (member : item ∈ items) (some_ : start item < stop item)
    (alone : ∀ other ∈ items, stop other ≤ start item ∨ start item ≤ start other) :
    told start stop items offset (start item) (stop item) = [.marker] := by
  have held : ∀ position, start item ≤ position → position < stop item →
      covered start stop items position = true := fun position from_ below =>
    List.any_eq_true.2 ⟨item, member, by simp [from_, below]⟩
  have here : begins start stop items (start item) = true := by
    have none_ : items.any (fun other => start other < start item && start item < stop other) =
        false := by
      refine List.any_eq_false.2 fun other listed => ?_
      have apart := alone other listed
      simp only [Bool.and_eq_true, decide_eq_true_eq]
      omega
    rw [begins, none_, Bool.not_false, Bool.and_true]
    exact List.any_eq_true.2 ⟨item, member, decide_eq_true rfl⟩
  have rest : told start stop items offset (start item + 1) (stop item) = [] := by
    refine told_inside fun position from_ below => ⟨held position (by omega) below, ?_⟩
    have goes_on : items.any (fun other => start other < position && position < stop other) =
        true := List.any_eq_true.2 ⟨item, member, by simp [below]; omega⟩
    rw [begins, goes_on, Bool.not_true, Bool.and_false]
  rw [told_succ some_, here, held _ (Nat.le_refl _) some_, rest]
  rfl

theorem told_sorted (rising : Monotone offset) {size : Nat} {before after : List α}
    (proper : ∀ item ∈ before ++ after, start item < stop item)
    (inside : ∀ item ∈ after, stop item ≤ size)
    (sorted : after.Pairwise fun first second => stop first ≤ start second)
    (behind : ∀ item ∈ before, stop item ≤ first) (ahead : ∀ item ∈ after, first ≤ start item)
    (order : first ≤ size) :
    told start stop (before ++ after) offset first size =
      joined (gaps start stop offset size (offset first) after) := by
  induction after generalizing before first with
  | nil =>
    refine told_outside rising order fun position from_ _ => outside_all proper fun item member => ?_
    rw [List.append_nil] at member
    exact .inl ((behind item member).trans from_)
  | cons item rest ih =>
    obtain ⟨later, sorted_⟩ := List.pairwise_cons.1 sorted
    have some_ := proper item (List.mem_append_right _ (.head _))
    have here := ahead item (.head _)
    have ends := inside item (.head _)
    have others : ∀ other ∈ before ++ item :: rest, stop other ≤ first ∨ start item ≤ start other := by
      intro other member
      rcases List.mem_append.1 member with early | late
      · exact .inl (behind other early)
      · rcases List.mem_cons.1 late with rfl | last
        · exact .inr (Nat.le_refl _)
        · exact .inr (some_.le.trans (later other last))
    have front : told start stop (before ++ item :: rest) offset first (start item) =
        keep (offset first) (offset (start item)) := by
      refine told_outside rising here fun position from_ below => outside_all proper fun other member => ?_
      rcases others other member with early | late
      · exact .inl (early.trans from_)
      · exact .inr (below.trans_le late)
    have own : told start stop (before ++ item :: rest) offset (start item) (stop item) =
        [.marker] := by
      refine told_stretch (List.mem_append_right _ (.head _)) some_ fun other member => ?_
      exact (others other member).imp (·.trans here) id
    have shape : before ++ item :: rest = (before ++ [item]) ++ rest := by simp
    have back : told start stop (before ++ item :: rest) offset (stop item) size =
        joined (gaps start stop offset size (offset (stop item)) rest) := by
      rw [shape]
      refine ih (fun other member => proper other (shape ▸ member))
        (fun other member => inside other (.tail _ member)) sorted_ (fun other member => ?_)
        (fun other member => later other member) ends
      rcases List.mem_append.1 member with early | last
      · exact (behind other early).trans (here.trans some_.le)
      · rw [List.mem_singleton.1 last]
    have filled : gaps start stop offset size (offset (stop item)) rest ≠ [] := by
      cases rest <;> exact List.cons_ne_nil _ _
    rw [← told_append here (some_.le.trans ends), ← told_append some_.le ends, front, own, back,
      gaps, joined_no_gaps _ filled]
    rfl

/-! ## Counting the markers -/

theorem told_markers (size : Nat) :
    (told start stop items offset 0 size).count .marker =
      ((List.range size).filter (begins start stop items)).length := by
  induction size with
  | zero => rfl
  | succ size ih =>
    have kept : ∀ first last, (keep first last).count .marker = 0 := fun first last =>
      List.count_eq_zero.2 (keep_no_marker first last)
    have none_ : told start stop items offset (size + 1) (size + 1) = [] := by
      rw [told, Nat.sub_self]
      rfl
    rw [← told_append (Nat.zero_le size) (Nat.le_succ size), told_succ (Nat.lt_succ_self size),
      none_, List.append_nil, List.count_append, List.count_append, ih, List.range_succ, List.filter_append,
      List.length_append, List.filter_singleton]
    by_cases begun : begins start stop items size = true
    · by_cases held : covered start stop items size = true <;> simp [begun, held, kept]
    · by_cases held : covered start stop items size = true <;> simp [begun, held, kept]

theorem apart_of_count
    (enough : items.length ≤ ((List.range size).filter (begins start stop items)).length) :
    Apart start stop items := by
  have positions : ((List.range size).filter (begins start stop items)).Perm (items.map start) := by
    have subset : (List.range size).filter (begins start stop items) ⊆ items.map start := by
      intro position member
      have begun := (List.mem_filter.1 member).2
      rw [begins, Bool.and_eq_true] at begun
      obtain ⟨item, listed, here⟩ := List.any_eq_true.1 begun.1
      exact List.mem_map.2 ⟨item, listed, of_decide_eq_true here⟩
    refine List.Subperm.perm_of_length_le (List.subperm_of_subset ?_ subset) ?_
    · exact List.nodup_range.filter _
    · rw [List.length_map]
      exact enough
  have distinct : (items.map start).Nodup := positions.nodup_iff.1 (List.nodup_range.filter _)
  have none_over : ∀ first ∈ items, ∀ second ∈ items, start first < start second →
      stop first ≤ start second := by
    intro first member second other order
    have begun := (List.mem_filter.1 (positions.mem_iff.2 (List.mem_map_of_mem other))).2
    rw [begins, Bool.and_eq_true, Bool.not_eq_true'] at begun
    have apart := List.any_eq_false.1 begun.2 first member
    simp only [Bool.and_eq_true, decide_eq_true_eq] at apart
    omega
  intro first member second other
  rcases Nat.lt_trichotomy (start first) (start second) with before | same | behind
  · exact .inr (.inl (none_over first member second other before))
  · exact .inl (List.inj_on_of_nodup_map distinct member other same)
  · exact .inr (.inr (none_over second other first member behind))

end Marked

end NewApi.Regions
