import Mathlib.Logic.Function.Basic
import NewApi.GuardedRun

/-! Database transactions that read a row first and write at the end, under
read-committed isolation. Between the two statements any other transaction may
commit, so the row written back can be computed from a stale one. A run in
which every write still sees the row it read has the effect of the transactions
executed one after another, and a read that takes the row lock makes every run
such a run. Where some stale writes are harmless, a condition on the commits
decides exactly which runs stay safe. Nothing here depends on what the rows
are. -/
namespace NewApi.ReadCommitted
open NewApi.GuardedRun

/-- What one transaction reads, and what it commits from the row it read and
the state its other statements see. `none` rolls back. -/
structure Transaction (Shared : Type*) (Row : Type*) where
  read : Shared → Row
  write : Row → Shared → Option Shared

/-- Whether the read statement takes the row lock until the transaction ends. -/
inductive ReadLock where
  | plain
  | forUpdate
  deriving DecidableEq

/-- The committed state, the rows held in memory by transactions in flight,
the owner of the row lock, and the transactions finished so far in order. -/
structure Database (Id : Type*) (Shared : Type*) (Row : Type*) where
  shared : Shared
  held : Id → Option Row
  lockedBy : Option Id
  finished : List Id

/-- The two points at which another transaction can observe this one. -/
inductive Event (Id : Type*) where
  | read (id : Id)
  | finish (id : Id)
  deriving DecidableEq

variable {Id : Type*} {Shared : Type*} {Row : Type*}

def idle (shared : Shared) : Database Id Shared Row where
  shared := shared
  held := fun _ => none
  lockedBy := none
  finished := []

variable (txn : Id → Transaction Shared Row) (lock : ReadLock)

def Fresh (db : Database Id Shared Row) : Event Id → Prop
  | .read _ => True
  | .finish id => ∀ row, db.held id = some row → row = (txn id).read db.shared

def alone (shared : Shared) (id : Id) : Shared :=
  ((txn id).write ((txn id).read shared) shared).getD shared

variable [DecidableEq Id]

def startRead (db : Database Id Shared Row) (id : Id) : Database Id Shared Row :=
  if (db.held id).isSome then db
  else match lock with
    | .plain =>
      { db with held := Function.update db.held id (some ((txn id).read db.shared)) }
    | .forUpdate =>
      if db.lockedBy.isSome then db
      else { db with
        held := Function.update db.held id (some ((txn id).read db.shared))
        lockedBy := some id }

def finish (db : Database Id Shared Row) (id : Id) : Database Id Shared Row :=
  match db.held id with
  | none => db
  | some row =>
    { shared := ((txn id).write row db.shared).getD db.shared
      held := Function.update db.held id none
      lockedBy := if db.lockedBy = some id then none else db.lockedBy
      finished := db.finished ++ [id] }

def step (db : Database Id Shared Row) : Event Id → Database Id Shared Row
  | .read id => startRead txn lock db id
  | .finish id => finish txn db id

variable {txn} {lock}

@[simp] theorem start_read_shared (db : Database Id Shared Row) (id : Id) :
    (startRead txn lock db id).shared = db.shared := by
  unfold startRead
  split
  · rfl
  · cases lock with
    | plain => rfl
    | forUpdate => dsimp only; split <;> rfl

theorem start_read_held {id : Id}
    (held : (startRead txn lock db id).held other = some row) :
    db.held other = some row ∨ row = (txn other).read db.shared := by
  have updated : ∀ {owner : Option Id},
      ({ db with
        held := Function.update db.held id (some ((txn id).read db.shared))
        lockedBy := owner } : Database Id Shared Row).held other = some row →
      db.held other = some row ∨ row = (txn other).read db.shared := by
    intro owner new
    by_cases same : other = id
    · subst same
      simp only [Function.update_self, Option.some.injEq] at new
      exact .inr new.symm
    · simp only [Function.update_of_ne same] at new
      exact .inl new
  unfold startRead at held
  split at held
  · exact .inl held
  · cases lock with
    | plain => exact updated held
    | forUpdate =>
      dsimp only at held
      split at held
      · exact .inl held
      · exact updated held

theorem finish_held {id : Id}
    (held : (finish txn db id).held other = some row) : db.held other = some row := by
  unfold finish at held
  split at held
  · exact held
  · by_cases same : other = id
    · subst same
      simp at held
    · simpa [Function.update_of_ne same] using held

theorem finish_shared (txn : Id → Transaction Shared Row) (db : Database Id Shared Row) (id : Id) :
    (finish txn db id).shared = db.shared ∨ ∃ row, db.held id = some row ∧
      (txn id).write row db.shared = some (finish txn db id).shared := by
  unfold finish
  cases held : db.held id with
  | none => exact .inl rfl
  | some row =>
    cases written : (txn id).write row db.shared with
    | none => exact .inl (by simp [written])
    | some after => exact .inr ⟨row, rfl, by simp [written]⟩

theorem finish_fresh {id : Id} (fresh : Fresh txn db (.finish id)) :
    (finish txn db id = db) ∨
      (finish txn db id).shared = alone txn db.shared id ∧
        (finish txn db id).finished = db.finished ++ [id] := by
  cases held : db.held id with
  | none => exact .inl (by simp [finish, held])
  | some row =>
    have current := fresh row held
    subst current
    exact .inr ⟨by simp [finish, held, alone], by simp [finish, held]⟩

def LockHeld (txn : Id → Transaction Shared Row) (db : Database Id Shared Row) : Prop :=
  ∀ id row, db.held id = some row → db.lockedBy = some id ∧ row = (txn id).read db.shared

private theorem lock_held_read (id : Id)
    (ready : LockHeld txn db) : LockHeld txn (startRead txn .forUpdate db id) := by
  unfold startRead
  split
  · exact ready
  · dsimp only
    split
    · exact ready
    · rename_i unlocked
      intro other row held
      by_cases same : other = id
      · subst same
        simp only [Function.update_self, Option.some.injEq] at held
        exact ⟨rfl, held.symm⟩
      · simp only [Function.update_of_ne same] at held
        simp [(ready other row held).1] at unlocked

private theorem lock_held_finish (id : Id)
    (ready : LockHeld txn db) : LockHeld txn (finish txn db id) := by
  cases mine : db.held id with
  | none => simpa [finish, mine] using ready
  | some row =>
    intro other otherRow held
    have owner := (ready id row mine).1
    by_cases same : other = id
    · subst same
      simp [finish, mine] at held
    · simp only [finish, mine, Function.update_of_ne same] at held
      have := (ready other otherRow held).1
      rw [owner] at this
      exact absurd (Option.some.inj this).symm same

theorem lock_held_step (db : Database Id Shared Row) (event : Event Id)
    (ready : LockHeld txn db) : LockHeld txn (step txn .forUpdate db event) := by
  cases event with
  | read id => exact lock_held_read id ready
  | finish id => exact lock_held_finish id ready

theorem locked_step_alone {db : Database Id Shared Row} (event : Event Id)
    (ready : LockHeld txn db) : (step txn .forUpdate db event).shared = db.shared ∨
      ∃ id, (step txn .forUpdate db event).shared = alone txn db.shared id := by
  cases event with
  | read id => exact .inl (start_read_shared db id)
  | finish id =>
    have fresh : Fresh txn db (.finish id) := fun row held => (ready id row held).2
    rcases finish_fresh fresh with same | ⟨shared, -⟩
    · exact .inl (congrArg Database.shared same)
    · exact .inr ⟨id, shared⟩

theorem locked_run_relates {invariant : Shared → Prop} {related : Shared → Shared → Prop}
    (reflexive : ∀ shared, related shared shared)
    (transitive : ∀ {a b c}, related a b → related b c → related a c)
    (kept : ∀ shared id, invariant shared →
      invariant (alone txn shared id) ∧ related shared (alone txn shared id))
    {start : Shared} (initially : invariant start) (events later : List (Event Id)) :
    invariant (run (step txn .forUpdate) (idle start) events).shared ∧
      related (run (step txn .forUpdate) (idle start) events).shared
        (run (step txn .forUpdate) (idle start) (events ++ later)).shared := by
  let ready : Database Id Shared Row → Prop := fun db => LockHeld txn db ∧ invariant db.shared
  have moved : ∀ db event, ready db → ready (step txn .forUpdate db event) ∧
      related db.shared (step txn .forUpdate db event).shared := by
    intro db event reached
    have locked := lock_held_step db event reached.1
    rcases locked_step_alone event reached.1 with same | ⟨id, executed⟩
    · exact ⟨⟨locked, same ▸ reached.2⟩, same ▸ reflexive db.shared⟩
    · obtain ⟨next, later⟩ := kept db.shared id reached.2
      exact ⟨⟨locked, executed ▸ next⟩, executed ▸ later⟩
  have first : ready (run (step txn .forUpdate) (idle start) events) :=
    run_preserves_always (fun db event reached => (moved db event reached).1) events
      ⟨fun _ _ held => by simp [idle] at held, initially⟩
  refine ⟨first.2, ?_⟩
  rw [run_append]
  have always : Guarded (step txn .forUpdate) (fun _ _ => True)
      (run (step txn .forUpdate) (idle start) events) later :=
    guarded_of_forall (fun _ _ => trivial) _ later
  let onward : Database Id Shared Row → Database Id Shared Row → Prop :=
    fun before after => related before.shared after.shared
  have composed : ∀ {a b c : Database Id Shared Row}, onward a b → onward b c → onward a c :=
    fun one two => transitive one two
  have chain : ∀ db event, True → ready db → ready (step txn .forUpdate db event) ∧
      onward db (step txn .forUpdate db event) := fun db event _ reached => moved db event reached
  exact @run_relates _ _ _ _ ready onward (fun db => reflexive db.shared) composed chain _ _ always first

/-! ## Which stale writes do harm -/

/-- What the transactions keep, stale or not: of the committed state, and of a
row from the read on. -/
structure Keeps (txn : Id → Transaction Shared Row) (ready : Shared → Prop) (sound : Row → Prop) :
    Prop where
  reads : ∀ id shared, ready shared → sound ((txn id).read shared)
  writes : ∀ id row shared after, ready shared → sound row →
    (txn id).write row shared = some after → ready after

def Commits (txn : Id → Transaction Shared Row) (current : Row → Shared → Shared → Prop)
    (db : Database Id Shared Row) : Event Id → Prop
  | .read _ => True
  | .finish id => ∀ row after, db.held id = some row →
      (txn id).write row db.shared = some after → current row db.shared after

def InFlight (ready : Shared → Prop) (sound : Row → Prop) (db : Database Id Shared Row) : Prop :=
  ready db.shared ∧ ∀ id row, db.held id = some row → sound row

variable {ready safe : Shared → Prop} {sound : Row → Prop} {current : Row → Shared → Shared → Prop}

omit [DecidableEq Id] in
theorem idle_in_flight (initially : ready start) :
    InFlight ready sound (idle start : Database Id Shared Row) :=
  ⟨initially, fun _ _ held => by simp [idle] at held⟩

theorem step_in_flight (keeps : Keeps txn ready sound) (db : Database Id Shared Row)
    (event : Event Id) (inFlight : InFlight ready sound db) :
    InFlight ready sound (step txn lock db event) := by
  obtain ⟨committed, rows⟩ := inFlight
  cases event with
  | read id =>
    refine ⟨by simpa [step] using committed, fun other row held => ?_⟩
    rcases start_read_held held with before | rfl
    · exact rows other row before
    · exact keeps.reads other db.shared committed
  | finish id =>
    refine ⟨?_, fun other row held => rows other row (finish_held held)⟩
    rcases finish_shared txn db id with same | ⟨row, held, written⟩
    · simpa [step, same] using committed
    · exact keeps.writes id row db.shared _ committed (rows id row held) written

theorem safe_step_iff
    (sharp : ∀ id row shared after, ready shared → safe shared → sound row →
      (txn id).write row shared = some after → (safe after ↔ current row shared after))
    (db : Database Id Shared Row) (event : Event Id) (inFlight : InFlight ready sound db)
    (before : safe db.shared) :
    safe (step txn lock db event).shared ↔ Commits txn current db event := by
  cases event with
  | read id => simpa [step, Commits] using before
  | finish id =>
    have after : (finish txn db id).shared =
        ((db.held id).bind fun row => (txn id).write row db.shared).getD db.shared := by
      unfold finish
      cases db.held id <;> rfl
    simp only [step, Commits]
    rw [after]
    exact commit_safe_iff before fun row after held written =>
      sharp id row db.shared after inFlight.1 before (inFlight.2 id row held) written

theorem always_safe_iff_commits (lock : ReadLock) (keeps : Keeps txn ready sound)
    (sharp : ∀ id row shared after, ready shared → safe shared → sound row →
      (txn id).write row shared = some after → (safe after ↔ current row shared after))
    (initially : ready start) (startSafe : safe start) (events : List (Event Id)) :
    (∀ done, done <+: events → safe (run (step txn lock) (idle start) done).shared) ↔
      Guarded (step txn lock) (Commits txn current) (idle start) events := by
  let committedSafe : Database Id Shared Row → Prop := fun db => safe db.shared
  have decides : ∀ db event, (InFlight ready sound db ∧ committedSafe db) →
      (committedSafe (step txn lock db event) ↔ Commits txn current db event) :=
    fun db event reached => safe_step_iff sharp db event reached.1 reached.2
  have kept : ∀ db event, Commits txn current db event →
      (InFlight ready sound db ∧ committedSafe db) →
      InFlight ready sound (step txn lock db event) ∧ committedSafe (step txn lock db event) :=
    fun db event meets reached =>
      ⟨step_in_flight keeps db event reached.1, (decides db event reached).mpr meets⟩
  exact always_safe_iff_guarded kept decides events ⟨idle_in_flight initially, startSafe⟩ startSafe

end NewApi.ReadCommitted
