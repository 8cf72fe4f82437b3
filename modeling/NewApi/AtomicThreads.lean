import Mathlib.Algebra.Ring.Int.Defs
import Mathlib.Algebra.BigOperators.Group.List.Basic
import NewApi.GuardedRun

/-! Programs of atomic actions on a shared state, run by threads that interleave
in any order. A request starts its threads, a thread performs its next action,
and the surroundings may change the shared state. What the threads have yet to do
is weighed by a sum over their programs, which one action changes at one place
only. Nothing here depends on what the actions are. -/
namespace NewApi.AtomicThreads
open NewApi.GuardedRun

structure Thread (Action : Type*) (Memory : Type*) where
  todo : List Action
  memory : Memory

structure System (Shared : Type*) (Action : Type*) (Memory : Type*) where
  shared : Shared
  threads : List (Thread Action Memory) := []

/-- What an action leaves; where it does not go on, the rest of the program is
skipped. -/
structure Outcome (Shared : Type*) (Memory : Type*) where
  shared : Shared
  memory : Memory
  goesOn : Bool := true

inductive Event (Request : Type*) (Outside : Type*) where
  | start (request : Request)
  | act (index : Nat)
  | outside (change : Outside)

/-- The actions, the programs that a request starts, and what the surroundings
do. -/
structure Machine (Shared : Type*) (Action : Type*) (Memory : Type*) (Request : Type*)
    (Outside : Type*) where
  perform : Action → Memory → Shared → Outcome Shared Memory
  programs : Request → List (List Action)
  fresh : Memory
  surround : Outside → Shared → Shared

variable {Shared : Type*} {Action : Type*} {Memory : Type*} {Request : Type*} {Outside : Type*}

def Outcome.thread (outcome : Outcome Shared Memory) (rest : List Action) : Thread Action Memory where
  todo := if outcome.goesOn then rest else []
  memory := outcome.memory

variable (machine : Machine Shared Action Memory Request Outside)

def Machine.begin_ (request : Request) : List (Thread Action Memory) :=
  (machine.programs request).map fun program => ⟨program, machine.fresh⟩

def Machine.act (system : System Shared Action Memory) (index : Nat) : System Shared Action Memory :=
  match system.threads[index]? with
  | some ⟨action :: rest, memory⟩ =>
    let outcome := machine.perform action memory system.shared
    { shared := outcome.shared
      threads := system.threads.set index (outcome.thread rest) }
  | _ => system

def Machine.step (system : System Shared Action Memory) : Event Request Outside → System Shared Action Memory
  | .start request => { system with threads := system.threads ++ machine.begin_ request }
  | .act index => machine.act system index
  | .outside change => { system with shared := machine.surround change system.shared }

def Performs (condition : Action → List Action → Memory → System Shared Action Memory → Nat → Prop)
    (system : System Shared Action Memory) : Event Request Outside → Prop
  | .act index => ∀ action rest memory, system.threads[index]? = some ⟨action :: rest, memory⟩ →
      condition action rest memory system index
  | _ => True

def Quiet (system : System Shared Action Memory) : Prop :=
  ∀ thread ∈ system.threads, thread.todo = []

def total (weight : List Action → Int) (threads : List (Thread Action Memory)) : Int :=
  (threads.map fun thread => weight thread.todo).sum

variable {machine}

theorem act_eq
    (found : system.threads[index]? = some ⟨action :: rest, memory⟩) :
    machine.act system index =
      { shared := (machine.perform action memory system.shared).shared
        threads := system.threads.set index
          ((machine.perform action memory system.shared).thread rest) } := by
  simp only [Machine.act, found]

theorem act_idle
    (none_ : ∀ action rest memory, system.threads[index]? ≠ some ⟨action :: rest, memory⟩) :
    machine.act system index = system := by
  unfold Machine.act
  split
  · exact absurd ‹_› (none_ _ _ _)
  · rfl

theorem performs_of {condition : Action → List Action → Memory → System Shared Action Memory → Nat → Prop}
    (found : system.threads[index]? = some ⟨action :: rest, memory⟩)
    (met : condition action rest memory system index) :
    Performs condition system (.act index : Event Request Outside) := by
  intro other more remembered same
  cases found.symm.trans same
  exact met

theorem step_shared {invariant : Shared → Prop}
    {condition : Action → List Action → Memory → System Shared Action Memory → Nat → Prop}
    (performs : ∀ action rest memory system index, condition action rest memory system index →
      invariant system.shared → invariant (machine.perform action memory system.shared).shared)
    (surrounds : ∀ change shared, invariant shared → invariant (machine.surround change shared))
    (system : System Shared Action Memory) (event : Event Request Outside)
    (permitted : Performs condition system event) (held : invariant system.shared) :
    invariant (machine.step system event).shared := by
  cases event with
  | start request => exact held
  | outside change => exact surrounds change _ held
  | act index =>
    simp only [Machine.step, Machine.act]
    split
    · exact performs _ _ _ _ _ (permitted _ _ _ ‹_›) held
    · exact held

theorem step_shared_iff {safe : Shared → Prop}
    {condition : Action → List Action → Memory → System Shared Action Memory → Nat → Prop}
    (sharp : ∀ action rest memory system index, safe system.shared →
      (safe (machine.perform action memory system.shared).shared ↔ condition action rest memory system index))
    (surrounds : ∀ change shared, safe shared → safe (machine.surround change shared))
    (system : System Shared Action Memory) (event : Event Request Outside) (held : safe system.shared) :
    safe (machine.step system event).shared ↔ Performs condition system event := by
  cases event with
  | start request => exact iff_of_true held trivial
  | outside change => exact iff_of_true (surrounds change _ held) trivial
  | act index =>
    constructor
    · intro after action rest memory found
      rw [Machine.step, act_eq found] at after
      exact (sharp action rest memory system index held).mp after
    · intro permitted
      have kept := fun action rest memory system index
          (met : condition action rest memory system index) (held : safe system.shared) =>
        (sharp action rest memory system index held).mpr met
      exact step_shared kept surrounds system (.act index) permitted held

theorem step_programs {formed : List Action → Prop} (empty : formed [])
    (inherits : ∀ action rest, formed (action :: rest) → formed rest)
    (begins : ∀ request, ∀ program ∈ machine.programs request, formed program)
    (system : System Shared Action Memory) (event : Event Request Outside)
    (held : ∀ thread ∈ system.threads, formed thread.todo) :
    ∀ thread ∈ (machine.step system event).threads, formed thread.todo := by
  cases event with
  | outside change => exact held
  | start request =>
    intro thread member
    rcases List.mem_append.mp member with old | new
    · exact held thread old
    · obtain ⟨program, listed, rfl⟩ := List.mem_map.mp new
      exact begins request program listed
  | act index =>
    by_cases idle : ∀ action rest memory, system.threads[index]? ≠ some ⟨action :: rest, memory⟩
    · rw [Machine.step, act_idle idle]
      exact held
    · push Not at idle
      obtain ⟨action, rest, memory, found⟩ := idle
      rw [Machine.step, act_eq found]
      intro thread member
      rcases List.mem_or_eq_of_mem_set member with old | rfl
      · exact held thread old
      · have whole := held _ (List.mem_of_getElem? found)
        simp only [Outcome.thread]
        split
        · exact inherits action rest whole
        · exact empty

section Weights

variable {weight : List Action → Int} {threads : List (Thread Action Memory)} {index : Nat}
variable {old new : Thread Action Memory}

theorem total_append (first second : List (Thread Action Memory)) :
    total weight (first ++ second) = total weight first + total weight second := by
  simp only [total, List.map_append, List.sum_append]

theorem total_set (found : threads[index]? = some old) :
    total weight (threads.set index new) = total weight threads - weight old.todo + weight new.todo := by
  obtain ⟨inside, here⟩ := List.getElem?_eq_some_iff.mp found
  have within : index < (threads.map fun thread => weight thread.todo).length := by
    simpa using inside
  have mapped : (threads.map fun thread => weight thread.todo)[index] = weight old.todo := by
    rw [List.getElem_map, here]
  have sum := List.sum_set' (threads.map fun thread => weight thread.todo) index (weight new.todo)
  rw [dif_pos within, mapped] at sum
  rw [total, List.map_set, sum, total]
  omega

theorem total_quiet (nothing : weight [] = 0)
    (quiet : Quiet system) : total weight system.threads = 0 := by
  refine List.sum_eq_zero fun value member => ?_
  obtain ⟨thread, listed, rfl⟩ := List.mem_map.mp member
  rw [quiet thread listed, nothing]

theorem exists_set (will : List Action → Prop) (found : threads[index]? = some old)
    (keeps : will old.todo → will new.todo) (some_ : ∃ thread ∈ threads, will thread.todo) :
    ∃ thread ∈ threads.set index new, will thread.todo := by
  obtain ⟨thread, listed, does⟩ := some_
  obtain ⟨place, inside, here⟩ := List.mem_iff_getElem.mp listed
  by_cases same : place = index
  · subst same
    have own : thread = old := by
      rw [List.getElem?_eq_getElem inside, here] at found
      exact Option.some.inj found
    exact ⟨new, List.mem_set inside new, keeps (own ▸ does)⟩
  · refine ⟨thread, ?_, does⟩
    have kept : (threads.set index new)[place]? = some thread := by
      rw [List.getElem?_set_ne (Ne.symm same), List.getElem?_eq_getElem inside, here]
    exact List.mem_of_getElem? kept

end Weights

end NewApi.AtomicThreads
