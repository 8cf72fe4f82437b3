import Mathlib.Logic.Function.Basic
import NewApi.GuardedRun
import NewApi.ReadCommitted

/-! Transactions that each read one row first, of a table with many, and commit
at the end. A database with row locks lets the reader of a row wait for the one
that has read it; a database without them takes the reads as they come and fails
a commit whose row has been written since. Either way every commit has the
effect of its transaction executed alone, as long as transactions leave the rows
of other keys as they are. Nothing here depends on what the rows are. -/
namespace NewApi.RowLocks
open NewApi.GuardedRun
open NewApi.ReadCommitted (Transaction alone)

/-- What becomes of two transactions on one row: the second waits for the first,
or the one that commits second fails. -/
inductive Conflict where
  | wait
  | fail
  deriving DecidableEq, Repr

/-- The committed state, the rows held in memory by transactions in flight, and
the owner of each row lock. -/
structure Database (Id : Type*) (Key : Type*) (Shared : Type*) (Row : Type*) where
  shared : Shared
  held : Id → Option Row
  lockedBy : Key → Option Id

/-- The points at which other transactions can come between. -/
inductive Event (Id : Type*) where
  | read (id : Id)
  | finish (id : Id)
  deriving DecidableEq

variable {Id : Type*} {Key : Type*} {Shared : Type*} {Row : Type*}

def idle (shared : Shared) : Database Id Key Shared Row where
  shared := shared
  held := fun _ => none
  lockedBy := fun _ => none

variable [DecidableEq Id] [DecidableEq Key] [DecidableEq Row]
variable (txn : Id → Transaction Shared Row) (key : Id → Key) (conflict : Conflict)

def startRead (db : Database Id Key Shared Row) (id : Id) : Database Id Key Shared Row :=
  if (db.held id).isSome then db
  else if conflict = .wait ∧ (db.lockedBy (key id)).isSome then db
  else { db with
    held := Function.update db.held id (some ((txn id).read db.shared))
    lockedBy := if conflict = .wait then Function.update db.lockedBy (key id) (some id) else db.lockedBy }

def finish (db : Database Id Key Shared Row) (id : Id) : Database Id Key Shared Row :=
  match db.held id with
  | none => db
  | some row =>
    { shared :=
        if conflict = .fail ∧ row ≠ (txn id).read db.shared then db.shared
        else ((txn id).write row db.shared).getD db.shared
      held := Function.update db.held id none
      lockedBy := if conflict = .wait then Function.update db.lockedBy (key id) none else db.lockedBy }

def step (db : Database Id Key Shared Row) : Event Id → Database Id Key Shared Row
  | .read id => startRead txn key conflict db id
  | .finish id => finish txn key conflict db id

def Locked (db : Database Id Key Shared Row) : Prop :=
  conflict = .wait → ∀ id row, db.held id = some row →
    db.lockedBy (key id) = some id ∧ row = (txn id).read db.shared

variable {txn key conflict}

omit [DecidableEq Row] in
theorem locked_read (id : Id) (locked : Locked txn key conflict db) :
    Locked txn key conflict (startRead txn key conflict db id) := by
  intro waits
  have locked := locked waits
  unfold startRead
  split
  · exact locked
  · split
    · exact locked
    · rename_i free
      have free : db.lockedBy (key id) = none := by simpa [waits] using free
      intro other row held
      dsimp only at held ⊢
      by_cases same : other = id
      · subst same
        simp only [Function.update_self, Option.some.injEq] at held ⊢
        exact ⟨trivial, held.symm⟩
      · simp only [Function.update_of_ne same] at held
        obtain ⟨owner, current⟩ := locked other row held
        have apart : key other ≠ key id := by
          intro shared_
          rw [shared_, free] at owner
          cases owner
        rw [Function.update_of_ne apart]
        exact ⟨owner, current⟩

theorem finish_alone (id : Id) (locked : Locked txn key conflict db) :
    (finish txn key conflict db id).shared = db.shared ∨
      (finish txn key conflict db id).shared = alone txn db.shared id := by
  unfold finish
  cases held : db.held id with
  | none => exact .inl rfl
  | some row =>
    dsimp only
    split
    · exact .inl rfl
    · rename_i made
      have current : row = (txn id).read db.shared := by
        cases mode : conflict with
        | wait => exact (locked mode id row held).2
        | fail =>
          by_contra stale
          exact made ⟨mode, stale⟩
      subst current
      exact .inr rfl

def KeepsOthers (txn : Id → Transaction Shared Row) (key : Id → Key) (invariant : Shared → Prop) : Prop :=
  ∀ id other shared, invariant shared → key other ≠ key id →
    (txn other).read (alone txn shared id) = (txn other).read shared

theorem locked_finish {invariant : Shared → Prop} (apart : KeepsOthers txn key invariant)
    (holds : invariant db.shared) (id : Id) (locked : Locked txn key conflict db) :
    Locked txn key conflict (finish txn key conflict db id) := by
  intro waits
  have locked := locked waits
  cases mine : db.held id with
  | none => simpa [finish, mine] using locked
  | some row =>
    intro other otherRow held
    simp only [finish, mine, waits] at held ⊢
    by_cases same : other = id
    · subst same
      simp at held
    · rw [Function.update_of_ne same] at held
      obtain ⟨owner, current⟩ := locked other otherRow held
      have different : key other ≠ key id := by
        intro shared_
        rw [shared_, (locked id row mine).1] at owner
        exact same (Option.some.inj owner).symm
      have unmoved : (txn other).read (((txn id).write row db.shared).getD db.shared) =
          (txn other).read db.shared := by
        rw [(locked id row mine).2]
        exact apart id other db.shared holds different
      simp only [if_true, Function.update_of_ne different, reduceCtorEq, false_and, if_false]
      exact ⟨owner, current.trans unmoved.symm⟩

theorem run_keeps {invariant : Shared → Prop} (apart : KeepsOthers txn key invariant)
    (kept : ∀ shared id, invariant shared → invariant (alone txn shared id))
    {start : Shared} (initially : invariant start) (events : List (Event Id)) :
    invariant (run (step txn key conflict) (idle start) events).shared := by
  let ready : Database Id Key Shared Row → Prop := fun db =>
    Locked txn key conflict db ∧ invariant db.shared
  have first : ready (idle start) := ⟨fun _ _ _ held => (nomatch held), initially⟩
  have last : ready (run (step txn key conflict) (idle start) events) := by
    refine run_preserves_always ?_ events first
    rintro db event ⟨locked, holds⟩
    cases event with
    | read id =>
      have unmoved : (startRead txn key conflict db id).shared = db.shared := by
        unfold startRead
        split
        · rfl
        · split <;> rfl
      exact ⟨locked_read id locked, by simpa only [step, unmoved] using holds⟩
    | finish id =>
      refine ⟨locked_finish apart holds id locked, ?_⟩
      rcases finish_alone id locked with same | executed
      · simpa only [step, same] using holds
      · simpa only [step, executed] using kept db.shared id holds
  exact last.2

end NewApi.RowLocks
