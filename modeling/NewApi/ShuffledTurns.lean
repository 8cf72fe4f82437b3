import Mathlib.Data.Set.Basic
import Mathlib.Data.List.Perm.Basic

/-! A cell that several turns change, in an order that is open. A turn leaves the
cell as it is, sets it to one of some values, or completes what is there, by one
map that is the same for all turns. What the cell can hold in the end is told by
which turns there are. Nothing here depends on what the cell holds. -/
namespace NewApi.ShuffledTurns

variable {σ ε ρ : Type*}

/-- What a turn may do to the cell. -/
inductive Turn (σ : Type*) where
  | keeps
  | completes
  | sets (values : Set σ)

/-- The cell before a turn and after it. -/
inductive Takes (complete : σ → σ) : Turn σ → σ → σ → Prop
  | keeps (cell : σ) : Takes complete .keeps cell cell
  | completes (cell : σ) : Takes complete .completes cell (complete cell)
  | sets {values : Set σ} {value : σ} (cell : σ) (offered : value ∈ values) :
      Takes complete (.sets values) cell value

def Runs (complete : σ → σ) : List (Turn σ) → σ → σ → Prop
  | [], before, after => after = before
  | turn :: turns, before, after =>
    ∃ mid, Takes complete turn before mid ∧ Runs complete turns mid after

/-- What the cell can hold after the turns, whatever their order. A turn that sets
it may be the last of these, and what completes it may come later or not. -/
inductive Ends (complete : σ → σ) (turns : List (Turn σ)) (before : σ) : σ → Prop
  | set {values : Set σ} {value : σ} (turn : .sets values ∈ turns) (offered : value ∈ values) :
      Ends complete turns before value
  | completed {values : Set σ} {value : σ} (turn : .sets values ∈ turns) (offered : value ∈ values)
      (later : .completes ∈ turns) : Ends complete turns before (complete value)
  | unset (none_ : ∀ values, .sets values ∉ turns) (later : .completes ∈ turns) :
      Ends complete turns before (complete before)
  | untouched (none_ : ∀ values, .sets values ∉ turns) (never : .completes ∉ turns) :
      Ends complete turns before before

section Turns
variable {complete : σ → σ}

theorem takes_unique (unset : ∀ values, turn ≠ .sets values)
    (takes : Takes complete turn before after) (takes' : Takes complete turn before other) :
    after = other := by
  cases takes with
  | keeps | completes => cases takes'; rfl
  | sets => exact absurd rfl (unset _)

theorem ends_perm (same : order.Perm turns) (ends : Ends complete order before after) :
    Ends complete turns before after := by
  cases ends with
  | set turn offered => exact .set (same.mem_iff.1 turn) offered
  | completed turn offered later =>
    exact .completed (same.mem_iff.1 turn) offered (same.mem_iff.1 later)
  | unset none_ later =>
    exact .unset (fun values turn => none_ values (same.mem_iff.2 turn)) (same.mem_iff.1 later)
  | untouched none_ never =>
    exact .untouched (fun values turn => none_ values (same.mem_iff.2 turn))
      fun later => never (same.mem_iff.2 later)

theorem ends_cons (idem : ∀ cell, complete (complete cell) = complete cell)
    (first : Takes complete turn before mid) (rest : Ends complete turns mid after) :
    Ends complete (turn :: turns) before after := by
  cases rest with
  | set turn offered => exact .set (.tail _ turn) offered
  | completed turn offered later => exact .completed (.tail _ turn) offered (.tail _ later)
  | unset none_ later =>
    cases first with
    | keeps => exact .unset (by simpa using none_) (.tail _ later)
    | completes =>
      rw [idem]
      exact .unset (by simpa using none_) (.head _)
    | sets _ offered => exact .completed (.head _) offered (.tail _ later)
  | untouched none_ never =>
    cases first with
    | keeps => exact .untouched (by simpa using none_) (by simpa using never)
    | completes => exact .unset (by simpa using none_) (.head _)
    | sets _ offered => exact .set (.head _) offered

theorem ends_of_runs (idem : ∀ cell, complete (complete cell) = complete cell)
    (runs : Runs complete turns before after) : Ends complete turns before after := by
  induction turns generalizing before with
  | nil =>
    cases runs
    exact .untouched (fun _ => List.not_mem_nil) List.not_mem_nil
  | cons turn turns ih =>
    obtain ⟨mid, first, rest⟩ := runs
    exact ends_cons idem first (ih rest)

theorem ends_of_takes (idem : ∀ cell, complete (complete cell) = complete cell)
    (takes : Takes complete turn before after) : Ends complete [turn] before after :=
  ends_of_runs idem ⟨after, takes, rfl⟩

theorem ends_raised {up : σ → Prop} (completing : ∀ cell, up (complete cell))
    (setting : ∀ values, .sets values ∈ turns → ∀ value ∈ values, up value)
    (ends : Ends complete turns before after) :
    (up after ∧ ∃ turn ∈ turns, turn ≠ .keeps) ∨ (after = before ∧ ∀ turn ∈ turns, turn = .keeps) := by
  cases ends with
  | set turn offered => exact .inl ⟨setting _ turn _ offered, _, turn, nofun⟩
  | completed turn _ _ => exact .inl ⟨completing _, _, turn, nofun⟩
  | unset _ later => exact .inl ⟨completing _, _, later, nofun⟩
  | untouched none_ never =>
    refine .inr ⟨rfl, fun turn present => ?_⟩
    cases turn with
    | keeps => rfl
    | completes => exact absurd present never
    | sets values => exact absurd present (none_ values)

theorem runs_append (first : Runs complete turns before mid)
    (rest : Runs complete later mid after) : Runs complete (turns ++ later) before after := by
  induction turns generalizing before with
  | nil =>
    cases first
    exact rest
  | cons turn turns ih =>
    obtain ⟨next, taken, left_⟩ := first
    exact ⟨next, taken, ih left_⟩

theorem runs_total (filled : ∀ values, .sets values ∈ turns → values.Nonempty) (before : σ) :
    ∃ after, Runs complete turns before after := by
  induction turns generalizing before with
  | nil => exact ⟨before, rfl⟩
  | cons turn turns ih =>
    have taken : ∃ mid, Takes complete turn before mid := by
      cases turn with
      | keeps => exact ⟨before, .keeps before⟩
      | completes => exact ⟨complete before, .completes before⟩
      | sets values =>
        obtain ⟨value, offered⟩ := filled values (.head _)
        exact ⟨value, .sets before offered⟩
    obtain ⟨mid, taken⟩ := taken
    obtain ⟨after, rest⟩ := ih (fun values turn => filled values (.tail _ turn)) mid
    exact ⟨after, mid, taken, rest⟩

theorem ends_unique (none_ : ∀ values, .sets values ∉ turns)
    (ends : Ends complete turns before after) (ends' : Ends complete turns before other) :
    after = other := by
  cases ends with
  | set turn | completed turn => exact absurd turn (none_ _)
  | unset _ later =>
    cases ends' with
    | set turn | completed turn => exact absurd turn (none_ _)
    | unset => rfl
    | untouched _ never => exact absurd later never
  | untouched _ never =>
    cases ends' with
    | set turn | completed turn => exact absurd turn (none_ _)
    | unset _ later => exact absurd later never
    | untouched => rfl

theorem runs_unset (idem : ∀ cell, complete (complete cell) = complete cell)
    (none_ : ∀ values, .sets values ∉ turns) (ends : Ends complete turns before after) :
    Runs complete turns before after := by
  have total : ∃ reached, Runs complete turns before reached :=
    runs_total (fun values turn => absurd turn (none_ values)) before
  obtain ⟨reached, runs⟩ := total
  exact ends_unique none_ (ends_of_runs idem runs) ends ▸ runs

theorem exists_last (present : turn ∈ turns) : ∃ others, (others ++ [turn]).Perm turns := by
  obtain ⟨front, back, rfl⟩ := List.append_of_mem present
  exact ⟨front ++ back, (List.perm_append_singleton turn _).trans List.perm_middle.symm⟩

theorem runs_of_ends (idem : ∀ cell, complete (complete cell) = complete cell)
    (filled : ∀ values, .sets values ∈ turns → values.Nonempty)
    (ends : Ends complete turns before after) :
    ∃ order, List.Perm order turns ∧ Runs complete order before after := by
  cases ends with
  | set turn offered =>
    obtain ⟨others, same⟩ := exists_last turn
    have total : ∃ mid, Runs complete others before mid := runs_total
      (fun values other => filled values (same.mem_iff.1 (List.mem_append_left _ other))) before
    obtain ⟨mid, runs⟩ := total
    exact ⟨_, same, runs_append runs ⟨_, .sets mid offered, rfl⟩⟩
  | completed turn offered later =>
    obtain ⟨most, same⟩ := exists_last later
    have earlier := List.mem_append.1 (same.mem_iff.2 turn)
    obtain ⟨others, same'⟩ := exists_last (earlier.resolve_right (by simp))
    have total : ∃ mid, Runs complete others before mid := runs_total
      (fun values other => filled values
        (same.mem_iff.1 (List.mem_append_left _ (same'.mem_iff.1 (List.mem_append_left _ other)))))
      before
    obtain ⟨mid, runs⟩ := total
    refine ⟨_, (same'.append_right _).trans same, ?_⟩
    exact runs_append (runs_append runs ⟨_, .sets mid offered, rfl⟩) ⟨_, .completes _, rfl⟩
  | unset none_ later => exact ⟨turns, .refl _, runs_unset idem none_ (.unset none_ later)⟩
  | untouched none_ never => exact ⟨turns, .refl _, runs_unset idem none_ (.untouched none_ never)⟩

theorem shuffled_iff (idem : ∀ cell, complete (complete cell) = complete cell)
    (filled : ∀ values, .sets values ∈ turns → values.Nonempty) (before after : σ) :
    (∃ order, List.Perm order turns ∧ Runs complete order before after) ↔
      Ends complete turns before after :=
  ⟨fun ⟨_, same, runs⟩ => ends_perm same (ends_of_runs idem runs), runs_of_ends idem filled⟩

end Turns

/-! ## One turn that writes entry by entry -/

theorem foldl_last (cell : ρ → σ) (step : ρ → ε → ρ) (change : ε → Option σ)
    (stepped : ∀ state entry, cell (step state entry) = (change entry).getD (cell state))
    (entries : List ε) (state : ρ) :
    cell (entries.foldl step state) = ((entries.filterMap change).getLast?).getD (cell state) := by
  induction entries generalizing state with
  | nil => rfl
  | cons entry entries ih =>
    rw [List.foldl_cons, ih, stepped, List.filterMap_cons]
    cases change entry with
    | none => rfl
    | some value =>
      dsimp only [Option.getD_some]
      rw [List.getLast?_cons]
      rfl

structure VisitOrder (ε : Type*) where
  visit : List ε → List ε
  visits_all : ∀ entries, (visit entries).Perm entries

namespace VisitOrder

def stored : VisitOrder ε := ⟨id, fun _ => .refl _⟩

def ending [DecidableEq ε] (last : ε) : VisitOrder ε where
  visit entries := if last ∈ entries then entries.erase last ++ [last] else entries
  visits_all entries := by
    split
    next present =>
      exact (List.perm_append_singleton last _).trans (List.perm_cons_erase present).symm
    next => exact .refl _

end VisitOrder

section Passes
variable {cell : ρ → σ} {step : ρ → ε → ρ} {change : ε → Option σ}

theorem pass_offers (stepped : ∀ state entry, cell (step state entry) = (change entry).getD (cell state))
    (order : VisitOrder ε) (entries : List ε) (state : ρ) :
    if entries.filterMap change = [] then
      cell ((order.visit entries).foldl step state) = cell state
    else cell ((order.visit entries).foldl step state) ∈ entries.filterMap change := by
  have visited := (order.visits_all entries).filterMap change
  rw [foldl_last cell step change stepped]
  split
  next none_ =>
    rw [none_] at visited
    rw [visited.eq_nil]
    rfl
  next changed =>
    have filled : (order.visit entries).filterMap change ≠ [] := fun none_ =>
      changed (visited.symm.trans (none_ ▸ .refl _)).eq_nil
    rw [List.getLast?_eq_some_getLast filled, Option.getD_some]
    exact visited.mem_iff.1 (List.getLast_mem filled)

theorem pass_reaches [DecidableEq ε]
    (stepped : ∀ state entry, cell (step state entry) = (change entry).getD (cell state))
    {entries : List ε} {value : σ} (offered : value ∈ entries.filterMap change) :
    ∃ order : VisitOrder ε, ∀ state, cell ((order.visit entries).foldl step state) = value := by
  obtain ⟨entry, present, sets⟩ := List.mem_filterMap.1 offered
  refine ⟨.ending entry, fun state => ?_⟩
  have visited : (VisitOrder.ending entry).visit entries = entries.erase entry ++ [entry] :=
    if_pos present
  rw [visited, List.foldl_append, List.foldl_cons, List.foldl_nil, stepped, sets, Option.getD_some]

end Passes

end NewApi.ShuffledTurns
