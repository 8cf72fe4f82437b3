import Mathlib.Data.List.Infix

/-! Texts of segments with a separator between them. What holds of a piece without a
separator is decided in one segment. -/
namespace NewApi.SeparatedText

variable {α : Type*} {sep : α} {first text : List α} {rest : List (List α)}

/-! ## Pieces -/

theorem infix_after_sep (plain : sep ∉ first) :
    sep :: piece <:+: first ++ sep :: text ↔ piece <+: text ∨ sep :: piece <:+: text := by
  induction first with
  | nil =>
    rw [List.nil_append, List.infix_cons_iff, List.cons_prefix_cons]
    simp
  | cons char first ih =>
    have apart := List.ne_of_not_mem_cons plain
    rw [List.cons_append, List.infix_cons_iff, List.cons_prefix_cons,
      ih (List.not_mem_of_not_mem_cons plain)]
    simp [apart]

theorem infix_without_sep (plain : sep ∉ text) : ¬ sep :: piece <:+: text :=
  fun found => plain (found.subset List.mem_cons_self)

theorem prefix_to_sep (plain : sep ∉ first) (alsoPlain : sep ∉ other) :
    first ++ sep :: piece <+: other ++ sep :: text ↔ first = other ∧ piece <+: text := by
  induction first generalizing other with
  | nil =>
    cases other with
    | nil => simp
    | cons char other =>
      have apart := List.ne_of_not_mem_cons alsoPlain
      simp [List.cons_prefix_cons, apart]
  | cons char first ih =>
    have apart := List.ne_of_not_mem_cons plain
    cases other with
    | nil => simp [List.cons_prefix_cons, Ne.symm apart]
    | cons mark other =>
      rw [List.cons_append, List.cons_append, List.cons_prefix_cons,
        ih (List.not_mem_of_not_mem_cons plain) (List.not_mem_of_not_mem_cons alsoPlain),
        List.cons.injEq, and_assoc]

theorem plain_begins (plain : sep ∉ first) : first <+: other ++ sep :: text ↔ first <+: other := by
  constructor
  · intro begins
    induction first generalizing other with
    | nil => exact List.nil_prefix
    | cons char first ih =>
      have apart := List.ne_of_not_mem_cons plain
      cases other with
      | nil =>
        rw [List.nil_append, List.cons_prefix_cons] at begins
        exact absurd begins.1.symm apart
      | cons mark other =>
        rw [List.cons_append, List.cons_prefix_cons] at begins
        exact List.cons_prefix_cons.mpr ⟨begins.1, ih (List.not_mem_of_not_mem_cons plain) begins.2⟩
  · intro begins
    exact begins.trans (List.prefix_append _ _)

/-! ## Segments -/

def joined (sep : α) (first : List α) (rest : List (List α)) : List α :=
  first ++ rest.flatMap (sep :: ·)

@[simp] theorem joined_nil (sep : α) (first : List α) : joined sep first [] = first := by
  simp [joined]

theorem joined_cons (sep : α) (first next : List α) (rest : List (List α)) :
    joined sep first (next :: rest) = first ++ sep :: joined sep next rest := by
  simp [joined]

theorem joined_onward (sep : α) (first next : List α) (rest : List (List α)) :
    joined sep first (next :: rest) = joined sep (first ++ sep :: next) rest := by
  simp [joined]

theorem plain_begins_joined (plain : sep ∉ piece) : piece <+: joined sep first rest ↔ piece <+: first := by
  cases rest with
  | nil => rw [joined_nil]
  | cons next rest => rw [joined_cons, plain_begins plain]

section Cut
variable [DecidableEq α]

def cut (sep : α) : List α → List α × List (List α)
  | [] => ([], [])
  | char :: text =>
    if char = sep then ([], (cut sep text).1 :: (cut sep text).2)
    else (char :: (cut sep text).1, (cut sep text).2)

theorem joined_cut (sep : α) (text : List α) : joined sep (cut sep text).1 (cut sep text).2 = text := by
  induction text with
  | nil => rfl
  | cons char text ih =>
    rw [cut]
    split
    · rename_i separator
      rw [joined_cons, List.nil_append, ih, separator]
    · rw [joined] at ih ⊢
      rw [List.cons_append, ih]

theorem cut_plain (sep : α) (text : List α) :
    sep ∉ (cut sep text).1 ∧ ∀ segment ∈ (cut sep text).2, sep ∉ segment := by
  induction text with
  | nil => simp [cut]
  | cons char text ih =>
    rw [cut]
    split
    · refine ⟨List.not_mem_nil, fun segment member => ?_⟩
      rcases List.mem_cons.mp member with rfl | later
      · exact ih.1
      · exact ih.2 segment later
    · rename_i other
      exact ⟨List.not_mem_cons_of_ne_of_not_mem (Ne.symm other) ih.1, ih.2⟩

theorem cut_joined (plain : sep ∉ first) (plains : ∀ segment ∈ rest, sep ∉ segment) :
    cut sep (joined sep first rest) = (first, rest) := by
  induction rest generalizing first with
  | nil =>
    rw [joined_nil]
    induction first with
    | nil => rfl
    | cons char first ih =>
      rw [cut, ih (List.not_mem_of_not_mem_cons plain)]
      exact if_neg (Ne.symm (List.ne_of_not_mem_cons plain))
  | cons next rest ih =>
    have later := ih (plains next List.mem_cons_self) fun segment member =>
      plains segment (List.mem_cons_of_mem _ member)
    rw [joined_cons]
    induction first with
    | nil => simp [cut, later]
    | cons char first ih =>
      rw [List.cons_append, cut, ih (List.not_mem_of_not_mem_cons plain)]
      exact if_neg (Ne.symm (List.ne_of_not_mem_cons plain))

theorem joined_inj (plain : sep ∉ first)
    (plains : ∀ segment ∈ rest, sep ∉ segment) (alsoPlain : ∀ segment ∈ also, sep ∉ segment) :
    joined sep first rest = joined sep first also ↔ rest = also := by
  constructor
  · intro same
    have cuts := congrArg (cut sep) same
    rw [cut_joined plain plains, cut_joined plain alsoPlain] at cuts
    exact (Prod.mk.inj cuts).2
  · intro same
    rw [same]

end Cut

end NewApi.SeparatedText
