import Mathlib.Logic.Function.Basic
import NewApi.GuardedRun

/-! Database transactions that read with several statements, none of which
takes a lock, and commit once at the end. Each statement sees what is committed
when it is executed, so what a transaction remembers may come from different
states. A condition on the commits decides exactly which runs stay safe.
Nothing here depends on what is read or written. -/
namespace NewApi.StagedReads
open NewApi.GuardedRun

/-- The first statement of a transaction, the statements that follow it, and
what is committed from what they read. `none` rolls back. -/
structure Transaction (Shared : Type*) (Memory : Type*) where
  first : Shared → Memory
  next : Memory → Shared → Memory
  write : Memory → Shared → Option Shared

structure Database (Id : Type*) (Shared : Type*) (Memory : Type*) where
  shared : Shared
  held : Id → Option Memory

/-- The points at which other transactions can come between. -/
inductive Event (Id : Type*) where
  | read (id : Id)
  | finish (id : Id)
  deriving DecidableEq

variable {Id : Type*} {Shared : Type*} {Memory : Type*}

def idle (shared : Shared) : Database Id Shared Memory where
  shared := shared
  held := fun _ => none

variable [DecidableEq Id] (txn : Id → Transaction Shared Memory)

def readMore (db : Database Id Shared Memory) (id : Id) : Memory :=
  match db.held id with
  | none => (txn id).first db.shared
  | some memory => (txn id).next memory db.shared

def finish (db : Database Id Shared Memory) (id : Id) : Database Id Shared Memory :=
  match db.held id with
  | none => db
  | some memory =>
    { shared := ((txn id).write memory db.shared).getD db.shared
      held := Function.update db.held id none }

def step (db : Database Id Shared Memory) : Event Id → Database Id Shared Memory
  | .read id => { db with held := Function.update db.held id (some (readMore txn db id)) }
  | .finish id => finish txn db id

/-- What the transactions keep: of the committed state, and of what they
remember from one statement to the next. -/
structure Keeps (ready : Shared → Prop) (sound : Memory → Prop) : Prop where
  first : ∀ id shared, ready shared → sound ((txn id).first shared)
  next : ∀ id memory shared, ready shared → sound memory → sound ((txn id).next memory shared)
  writes : ∀ id memory shared after, ready shared → sound memory →
    (txn id).write memory shared = some after → ready after

def Commits (current : Id → Memory → Shared → Shared → Prop) (db : Database Id Shared Memory) :
    Event Id → Prop
  | .read _ => True
  | .finish id => ∀ memory after, db.held id = some memory →
      (txn id).write memory db.shared = some after → current id memory db.shared after

/-- What the transactions keep where a memory is judged against the committed
state: a commit of one leaves the memories of the others fitting. -/
structure Fits (ready : Shared → Prop) (fits : Shared → Memory → Prop) : Prop where
  first : ∀ id shared, ready shared → fits shared ((txn id).first shared)
  next : ∀ id memory shared, ready shared → fits shared memory → fits shared ((txn id).next memory shared)
  writes : ∀ id memory shared after, ready shared → fits shared memory →
    (txn id).write memory shared = some after → ready after
  stable : ∀ id memory shared after, ready shared → fits shared memory →
    (txn id).write memory shared = some after → ∀ other, fits shared other → fits after other

def Fitting (ready : Shared → Prop) (fits : Shared → Memory → Prop) (db : Database Id Shared Memory) :
    Prop :=
  ready db.shared ∧ ∀ id memory, db.held id = some memory → fits db.shared memory

def InFlight (ready : Shared → Prop) (sound : Memory → Prop) (db : Database Id Shared Memory) :
    Prop :=
  ready db.shared ∧ ∀ id memory, db.held id = some memory → sound memory

variable {txn} {ready safe : Shared → Prop} {sound : Memory → Prop} {fits : Shared → Memory → Prop}
variable {current : Id → Memory → Shared → Shared → Prop}

omit [DecidableEq Id] in
theorem Keeps.to_fits (keeps : Keeps txn ready sound) : Fits txn ready fun _ => sound where
  first := keeps.first
  next := keeps.next
  writes := keeps.writes
  stable := fun _ _ _ _ _ _ _ _ held => held

omit [DecidableEq Id] in
theorem read_more_fits (keeps : Fits txn ready fits)
    (fitting : Fitting ready fits db) (id : Id) : fits db.shared (readMore txn db id) := by
  unfold readMore
  cases held : db.held id with
  | none => exact keeps.first id db.shared fitting.1
  | some memory => exact keeps.next id memory db.shared fitting.1 (fitting.2 id memory held)

theorem step_fitting (keeps : Fits txn ready fits) (db : Database Id Shared Memory)
    (event : Event Id) (fitting : Fitting ready fits db) : Fitting ready fits (step txn db event) := by
  cases event with
  | read id =>
    refine ⟨fitting.1, fun other memory held => ?_⟩
    by_cases same : other = id
    · subst same
      simp only [step, Function.update_self, Option.some.injEq] at held
      rw [← held]
      exact read_more_fits keeps fitting other
    · simp only [step, Function.update_of_ne same] at held
      exact fitting.2 other memory held
  | finish id =>
    simp only [step, finish]
    cases mine : db.held id with
    | none => exact fitting
    | some memory =>
      dsimp only
      have own := fitting.2 id memory mine
      have others : ∀ other remembered, Function.update db.held id none other = some remembered →
          fits db.shared remembered := by
        intro other remembered held
        by_cases same : other = id
        · subst same
          simp at held
        · rw [Function.update_of_ne same] at held
          exact fitting.2 other remembered held
      cases written : (txn id).write memory db.shared with
      | none => exact ⟨fitting.1, others⟩
      | some after =>
        exact ⟨keeps.writes id memory db.shared after fitting.1 own written, fun other remembered held =>
          keeps.stable id memory db.shared after fitting.1 own written remembered
            (others other remembered held)⟩

theorem safe_step_iff
    (sharp : ∀ id memory shared after, ready shared → safe shared → fits shared memory →
      (txn id).write memory shared = some after → (safe after ↔ current id memory shared after))
    (db : Database Id Shared Memory) (event : Event Id) (fitting : Fitting ready fits db)
    (before : safe db.shared) :
    safe (step txn db event).shared ↔ Commits txn current db event := by
  cases event with
  | read id => exact iff_of_true before trivial
  | finish id =>
    have after : (finish txn db id).shared =
        ((db.held id).bind fun memory => (txn id).write memory db.shared).getD db.shared := by
      unfold finish
      cases db.held id <;> rfl
    simp only [step, Commits]
    rw [after]
    exact commit_safe_iff before fun memory after held written =>
      sharp id memory db.shared after fitting.1 before (fitting.2 id memory held) written

theorem always_safe_iff_fitting_commits (keeps : Fits txn ready fits)
    (sharp : ∀ id memory shared after, ready shared → safe shared → fits shared memory →
      (txn id).write memory shared = some after → (safe after ↔ current id memory shared after))
    (initially : ready start) (startSafe : safe start) (events : List (Event Id)) :
    (∀ done, done <+: events → safe (run (step txn) (idle start) done).shared) ↔
      Guarded (step txn) (Commits txn current) (idle start) events := by
  let committedSafe : Database Id Shared Memory → Prop := fun db => safe db.shared
  have decides : ∀ db event, (Fitting ready fits db ∧ committedSafe db) →
      (committedSafe (step txn db event) ↔ Commits txn current db event) :=
    fun db event reached => safe_step_iff sharp db event reached.1 reached.2
  have kept : ∀ db event, Commits txn current db event →
      (Fitting ready fits db ∧ committedSafe db) →
      Fitting ready fits (step txn db event) ∧ committedSafe (step txn db event) :=
    fun db event meets reached =>
      ⟨step_fitting keeps db event reached.1, (decides db event reached).mpr meets⟩
  have nothing : Fitting ready fits (idle start : Database Id Shared Memory) :=
    ⟨initially, fun _ _ held => by simp [idle] at held⟩
  exact always_safe_iff_guarded kept decides events ⟨nothing, startSafe⟩ startSafe

theorem always_safe_iff_commits (keeps : Keeps txn ready sound)
    (sharp : ∀ id memory shared after, ready shared → safe shared → sound memory →
      (txn id).write memory shared = some after → (safe after ↔ current id memory shared after))
    (initially : ready start) (startSafe : safe start) (events : List (Event Id)) :
    (∀ done, done <+: events → safe (run (step txn) (idle start) done).shared) ↔
      Guarded (step txn) (Commits txn current) (idle start) events :=
  always_safe_iff_fitting_commits keeps.to_fits sharp initially startSafe events

theorem step_in_flight (keeps : Keeps txn ready sound) (db : Database Id Shared Memory)
    (event : Event Id) (inFlight : InFlight ready sound db) :
    InFlight ready sound (step txn db event) :=
  step_fitting keeps.to_fits db event inFlight

theorem safe_of_commits (keeps : Keeps txn ready sound)
    (enough : ∀ id memory shared after, ready shared → safe shared → sound memory →
      (txn id).write memory shared = some after → current id memory shared after → safe after)
    (initially : ready start) (startSafe : safe start)
    (commits : Guarded (step txn) (Commits txn current) (idle start) events)
    (before : done <+: events) : safe (run (step txn) (idle start) done).shared := by
  obtain ⟨rest, rfl⟩ := before
  have permitted := ((guarded_append _ _ _).mp commits).1
  have kept : ∀ db event, Commits txn current db event →
      (InFlight ready sound db ∧ safe db.shared) →
      InFlight ready sound (step txn db event) ∧ safe (step txn db event).shared := by
    intro db event meets reached
    refine ⟨step_in_flight keeps db event reached.1, ?_⟩
    cases event with
    | read id => exact reached.2
    | finish id =>
      simp only [step, finish]
      cases held : db.held id with
      | none => exact reached.2
      | some memory =>
        dsimp only
        cases written : (txn id).write memory db.shared with
        | none => exact reached.2
        | some after =>
          exact enough id memory db.shared after reached.1.1 reached.2
            (reached.1.2 id memory held) written (meets memory after held written)
  have nothing : InFlight ready sound (idle start : Database Id Shared Memory) :=
    ⟨initially, fun _ _ held => by simp [idle] at held⟩
  exact (run_preserves kept permitted ⟨nothing, startSafe⟩).2

end NewApi.StagedReads
