import Mathlib.Logic.Relation

/-! Chains of a relation with at most one successor. A chain ends, or it enters a
cycle, and not both. -/
namespace NewApi.DeterministicChains
open Relation

variable {α : Type*} {step : α → α → Prop} {start last : α}

def Ends (step : α → α → Prop) (start last : α) : Prop :=
  ReflTransGen step start last ∧ ∀ next, ¬ step last next

def EntersCycle (step : α → α → Prop) (start : α) : Prop :=
  ∃ member, ReflTransGen step start member ∧ TransGen step member member

theorem ends_unique (unique : Relator.RightUnique step) (ends : Ends step start last)
    (alsoEnds : Ends step start other) : last = other := by
  rcases ReflTransGen.total_of_right_unique unique ends.1 alsoEnds.1 with onward | onward
  · rcases onward.cases_head with same | ⟨next, taken, -⟩
    · exact same
    · exact absurd taken (ends.2 next)
  · rcases onward.cases_head with same | ⟨next, taken, -⟩
    · exact same.symm
    · exact absurd taken (alsoEnds.2 next)

theorem enters_cycle_step (unique : Relator.RightUnique step) (enters : EntersCycle step start)
    (taken : step start middle) : EntersCycle step middle := by
  obtain ⟨member, reached, returns⟩ := enters
  rcases reached.cases_head with rfl | ⟨next, first, onward⟩
  · obtain ⟨next, first, onward⟩ := TransGen.head'_iff.mp returns
    obtain rfl := unique first taken
    exact ⟨start, onward, returns⟩
  · obtain rfl := unique first taken
    exact ⟨member, onward, returns⟩

theorem ends_not_cycle (unique : Relator.RightUnique step) (ends : Ends step start last) :
    ¬ EntersCycle step start := by
  intro enters
  have atLast : EntersCycle step last := by
    have reached := ends.1
    clear ends
    induction reached with
    | refl => exact enters
    | tail _ taken ih => exact enters_cycle_step unique ih taken
  obtain ⟨member, reached, returns⟩ := atLast
  rcases reached.cases_head with rfl | ⟨next, taken, -⟩
  · obtain ⟨next, taken, -⟩ := TransGen.head'_iff.mp returns
    exact ends.2 next taken
  · exact ends.2 next taken

theorem enters_cycle_of_return (reached : ReflTransGen step start middle)
    (onward : ReflTransGen step middle last) (returns : step last middle) :
    EntersCycle step start :=
  ⟨middle, reached, TransGen.tail' onward returns⟩

end NewApi.DeterministicChains
