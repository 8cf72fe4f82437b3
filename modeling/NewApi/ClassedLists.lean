import Mathlib.Data.List.Basic
import Mathlib.Data.List.Forall2

/-! Lists whose elements are of classes. A list is known by the sequence of its
classes and by what it has in each class; it is made of two of its parts, one behind
the other, when the elements of the first come first; and a list of pieces that are
no longer than they should be is what it should be only piece by piece. Elements of
one class fit the counterparts that some of them have when each fits its own. What
stands before an element of the pieces are the pieces before and a part of its own. A
loop over a list that can fail tells of the elements in their order, if it comes to its
end. Nothing here depends on what the elements are. -/
namespace NewApi.ClassedLists

variable {α β κ : Type*}

theorem same_classes [DecidableEq κ] (key : α → κ) {second : List α}
    (sequence : first.map key = second.map key)
    (parts : ∀ kind, first.filter (key · = kind) = second.filter (key · = kind)) :
    first = second := by
  induction first generalizing second with
  | nil => exact (List.map_eq_nil_iff.1 sequence.symm).symm
  | cons item rest ih =>
    cases second with
    | nil => cases sequence
    | cons other others =>
      rw [List.map_cons, List.map_cons, List.cons.injEq] at sequence
      have head := parts (key item)
      rw [List.filter_cons_of_pos (by simp), List.filter_cons_of_pos (by simp [sequence.1])] at head
      obtain ⟨rfl, -⟩ := List.cons.inj head
      refine congrArg _ (ih sequence.2 fun kind => ?_)
      have part := parts kind
      rw [List.filter_cons, List.filter_cons] at part
      split at part
      next => exact (List.cons.inj part).2
      next => exact part

theorem parted_iff (first : α → Bool) (items : List α) :
    items.filter first ++ items.filter (fun item => !first item) = items ↔
      items.Pairwise fun earlier later => first later = true → first earlier = true := by
  induction items with
  | nil => simp
  | cons item rest ih =>
    rw [List.pairwise_cons]
    by_cases leads : first item = true
    · rw [List.filter_cons_of_pos leads, List.filter_cons_of_neg (by simp [leads]),
        List.cons_append, List.cons.injEq, ih]
      exact ⟨fun ⟨_, sorted⟩ => ⟨fun _ _ _ => leads, sorted⟩, fun ⟨_, sorted⟩ => ⟨rfl, sorted⟩⟩
    · have follows : (item :: rest).filter (fun item => !first item) =
          item :: rest.filter fun item => !first item :=
        List.filter_cons_of_pos (by simpa using leads)
      rw [List.filter_cons_of_neg leads, follows]
      have none_ : (∀ later ∈ rest, first later = true → first item = true) ↔
          rest.filter first = [] := by
        rw [List.filter_eq_nil_iff]
        exact forall₂_congr fun later _ => ⟨fun sure other => leads (sure other),
          fun never other => absurd other never⟩
      rw [none_]
      constructor
      · intro same
        cases parts : rest.filter first with
        | nil =>
          rw [parts, List.nil_append, List.cons.injEq] at same
          refine ⟨rfl, ih.1 ?_⟩
          rw [parts, List.nil_append]
          exact same.2
        | cons head tail =>
          rw [parts, List.cons_append, List.cons.injEq] at same
          have member : head ∈ rest.filter first := parts ▸ .head _
          rw [same.1] at member
          exact absurd (List.mem_filter.1 member).2 leads
      · rintro ⟨empty, sorted⟩
        have split_ := ih.2 sorted
        rw [empty, List.nil_append] at split_ ⊢
        rw [split_]

theorem filter_map_same_iff {first second : α → Option β} {items : List α}
    (both : ∀ item ∈ items, (first item).isSome = (second item).isSome) :
    items.filterMap first = items.filterMap second ↔ ∀ item ∈ items, first item = second item := by
  induction items with
  | nil => simp
  | cons item rest ih =>
    have here := both item (.head _)
    rw [List.forall_mem_cons, ← ih fun item listed => both item (.tail _ listed)]
    rw [List.filterMap_cons, List.filterMap_cons]
    cases found : first item with
    | none =>
      rw [found] at here
      rw [Option.not_isSome_iff_eq_none.1 (Bool.eq_false_iff.1 here.symm)]
      simp
    | some result =>
      rw [found] at here
      obtain ⟨other, same⟩ := Option.isSome_iff_exists.1 here.symm
      rw [same]
      simp

section Counterparts
variable {class_ : α → Bool} {counterpart : α → Option β} {fits : α → β → Prop}

theorem counterparts_le (only : ∀ item, (counterpart item).isSome → class_ item = true)
    (items : List α) : (items.filterMap counterpart).length ≤ (items.filter class_).length := by
  induction items with
  | nil => exact Nat.le_refl _
  | cons item rest ih =>
    cases found : counterpart item with
    | some other =>
      rw [List.filterMap_cons_some found, List.filter_cons_of_pos (only item (found ▸ rfl))]
      exact Nat.succ_le_succ ih
    | none =>
      rw [List.filterMap_cons_none found]
      exact Nat.le_trans ih ((List.sublist_cons_self item rest).filter class_).length_le

theorem forall_counterparts_iff (only : ∀ item, (counterpart item).isSome → class_ item = true)
    (items : List α) :
    List.Forall₂ fits (items.filter class_) (items.filterMap counterpart) ↔
      ∀ item ∈ items, class_ item = true → ∃ other, counterpart item = some other ∧ fits item other := by
  induction items with
  | nil => simp
  | cons item rest ih =>
    rw [List.forall_mem_cons, ← ih]
    cases found : counterpart item with
    | some other =>
      have inside := only item (found ▸ rfl)
      rw [List.filter_cons_of_pos inside, List.filterMap_cons_some found, List.forall₂_cons]
      simp [inside]
    | none =>
      rw [List.filterMap_cons_none found]
      by_cases inside : class_ item = true
      · rw [List.filter_cons_of_pos inside]
        refine iff_of_false (fun all => ?_) fun ⟨here, _⟩ => ?_
        · have short := counterparts_le only rest
          have same := all.length_eq
          rw [List.length_cons] at same
          omega
        · obtain ⟨other, none_, -⟩ := here inside
          cases none_
      · rw [List.filter_cons_of_neg inside]
        simp [inside]

end Counterparts

theorem flat_map_length_le {first second : α → List β} {items : List α}
    (short : ∀ item ∈ items, (first item).length ≤ (second item).length) :
    (items.flatMap first).length ≤ (items.flatMap second).length := by
  induction items with
  | nil => exact Nat.le_refl _
  | cons item rest ih =>
    rw [List.flatMap_cons, List.flatMap_cons, List.length_append, List.length_append]
    exact Nat.add_le_add (short item (.head _)) (ih fun item listed => short item (.tail _ listed))

theorem flat_map_same_iff {first second : α → List β} {items : List α}
    (short : ∀ item ∈ items, (first item).length ≤ (second item).length) :
    items.flatMap first = items.flatMap second ↔ ∀ item ∈ items, first item = second item := by
  induction items with
  | nil => simp
  | cons item rest ih =>
    have shorter : ∀ item ∈ rest, (first item).length ≤ (second item).length :=
      fun item listed => short item (.tail _ listed)
    rw [List.forall_mem_cons, ← ih shorter, List.flatMap_cons, List.flatMap_cons]
    refine ⟨fun same => ?_, fun ⟨head, tail⟩ => by rw [head, tail]⟩
    have bound := flat_map_length_le shorter
    have total := congrArg List.length same
    rw [List.length_append, List.length_append] at total
    have here := short item (.head _)
    exact List.append_inj same (by omega)

theorem flat_map_split {pieces : α → List β}
    (whole : items.flatMap pieces = before ++ item :: after) :
    ∃ earlier own later first last, items = earlier ++ own :: later ∧
      pieces own = first ++ item :: last ∧ before = earlier.flatMap pieces ++ first := by
  induction items generalizing before with
  | nil => simp at whole
  | cons head rest ih =>
    rw [List.flatMap_cons] at whole
    rcases List.append_eq_append_iff.1 whole with ⟨middle, rfl, inRest⟩ | ⟨middle, here, inHead⟩
    · obtain ⟨earlier, own, later, first, last, rfl, held, rfl⟩ := ih inRest
      exact ⟨head :: earlier, own, later, first, last, rfl, held, by simp⟩
    · cases middle with
      | nil =>
        rw [List.nil_append] at inHead
        have inRest : rest.flatMap pieces = [] ++ item :: after := inHead.symm
        obtain ⟨earlier, own, later, first, last, rfl, held, none_⟩ := ih inRest
        refine ⟨head :: earlier, own, later, first, last, rfl, held, ?_⟩
        rw [List.flatMap_cons, List.append_assoc, ← none_, List.append_nil, here, List.append_nil]
      | cons next middle =>
        obtain ⟨rfl, rest_⟩ := List.cons.inj inHead
        exact ⟨[], head, rest, before, middle, rfl, here, rfl⟩

section Loops
variable {σ ε : Type*} {round : σ → α → Except ε σ} {start last : σ} {items : List α}

theorem loop_ends_iff {fine : α → Prop}
    (each : ∀ state item, (∃ next, round state item = .ok next) ↔ fine item) :
    (∃ last, items.foldlM round start = .ok last) ↔ ∀ item ∈ items, fine item := by
  induction items generalizing start with
  | nil => simpa using ⟨start, rfl⟩
  | cons item rest ih =>
    rw [List.forall_mem_cons, List.foldlM_cons, ← each start item]
    cases first : round start item with
    | error failure => simp [bind, Except.bind]
    | ok between => simpa [bind, Except.bind] using ih

theorem loop_tells (tells : σ → List β → Prop) {told : α → List β}
    (each : ∀ state before item next, tells state before → round state item = .ok next →
      tells next (before ++ told item))
    (begun : tells start before) (ended : items.foldlM round start = .ok last) :
    tells last (before ++ items.flatMap told) := by
  induction items generalizing start before with
  | nil =>
    obtain rfl := Except.ok.inj ended
    simpa using begun
  | cons item rest ih =>
    rw [List.foldlM_cons] at ended
    cases first : round start item with
    | error failure => rw [first] at ended; cases ended
    | ok between =>
      rw [first] at ended
      rw [List.flatMap_cons, ← List.append_assoc]
      exact ih (each start before item between begun first) ended

end Loops

end NewApi.ClassedLists
