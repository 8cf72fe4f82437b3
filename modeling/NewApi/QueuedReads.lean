import Mathlib.Data.List.Infix
import Mathlib.Logic.Relation

/-! A producer that reads a list and a consumer behind a queue with limited room. The
producer may skip what it reads, hand it over, or end there; either of the two may also
be told to stop. Whatever the interleaving, the consumer gets a beginning of what the
reading yields, and when nobody was told to stop and no step is left, all of it. Nothing
here depends on what is read. -/
namespace NewApi.QueuedReads

variable {α β : Type*}

/-- What a producer makes of what it reads. -/
inductive Reading (β : Type*) where
  | skip
  | item (value : β)
  | last

structure Pipe (α β : Type*) where
  unread : List α
  reading : Bool
  queue : List β
  passed : List β
  listening : Bool

def yielded (read : α → Reading β) : List α → List β
  | [] => []
  | first :: rest =>
    match read first with
    | .skip => yielded read rest
    | .item value => value :: yielded read rest
    | .last => []

def Pipe.start (items : List α) : Pipe α β := ⟨items, true, [], [], true⟩

section Steps
variable (read : α → Reading β) (room : Nat)

/-- What the producer and the consumer do on their own. -/
inductive Step : Pipe α β → Pipe α β → Prop where
  | skips {pipe : Pipe α β} {first : α} {rest : List α} (running : pipe.reading = true)
      (next : pipe.unread = first :: rest) (skipped : read first = .skip) :
      Step pipe { pipe with unread := rest }
  | hands {pipe : Pipe α β} {first : α} {rest : List α} {value : β}
      (running : pipe.reading = true) (next : pipe.unread = first :: rest)
      (made : read first = .item value) (free : pipe.queue.length < room) :
      Step pipe { pipe with unread := rest, queue := pipe.queue ++ [value] }
  | finishes {pipe : Pipe α β} {first : α} {rest : List α} (running : pipe.reading = true)
      (next : pipe.unread = first :: rest) (ended : read first = .last) :
      Step pipe { pipe with unread := rest, reading := false }
  | closes {pipe : Pipe α β} (running : pipe.reading = true) (emptied : pipe.unread = []) :
      Step pipe { pipe with reading := false }
  | takes {pipe : Pipe α β} {value : β} {rest : List β} (awake : pipe.listening = true)
      (next : pipe.queue = value :: rest) :
      Step pipe { pipe with queue := rest, passed := pipe.passed ++ [value] }

/-- One of the two is told to stop; the producer may lose what it has just read. -/
inductive Stop : Pipe α β → Pipe α β → Prop where
  | producer {pipe : Pipe α β} (rest : List α) : Stop pipe { pipe with unread := rest, reading := false }
  | consumer {pipe : Pipe α β} : Stop pipe { pipe with listening := false }

def Quiet : Pipe α β → Pipe α β → Prop := Relation.ReflTransGen (Step read room)

def Run : Pipe α β → Pipe α β → Prop :=
  Relation.ReflTransGen fun before after => Step read room before after ∨ Stop before after

def Stuck (pipe : Pipe α β) : Prop := ∀ after, ¬ Step read room pipe after

end Steps

variable {read : α → Reading β} {items : List α} {pipe : Pipe α β}

def Pipe.Follows (read : α → Reading β) (items : List α) (pipe : Pipe α β) : Prop :=
  if pipe.reading then pipe.passed ++ pipe.queue ++ yielded read pipe.unread = yielded read items
  else pipe.passed ++ pipe.queue <+: yielded read items

def Pipe.Whole (read : α → Reading β) (items : List α) (pipe : Pipe α β) : Prop :=
  pipe.listening = true ∧
    pipe.passed ++ pipe.queue ++ (if pipe.reading then yielded read pipe.unread else []) =
      yielded read items

theorem step_whole (whole : pipe.Whole read items) (step : Step read room pipe after) :
    after.Whole read items := by
  obtain ⟨awake, same⟩ := whole
  cases step with
  | skips running next skipped =>
    refine ⟨awake, ?_⟩
    rw [← same, running, if_pos rfl, if_pos rfl, next, yielded, skipped]
  | hands running next made free =>
    refine ⟨awake, ?_⟩
    rw [← same, running, if_pos rfl, if_pos rfl, next, yielded, made]
    simp
  | finishes running next ended =>
    refine ⟨awake, ?_⟩
    rw [← same, running, if_pos rfl, next, yielded, ended]
    rfl
  | closes running emptied =>
    refine ⟨awake, ?_⟩
    rw [← same, running, if_pos rfl, emptied]
    rfl
  | takes awake next =>
    refine ⟨awake, ?_⟩
    rw [← same, next]
    simp

theorem step_follows (follows : pipe.Follows read items) (step : Step read room pipe after) :
    after.Follows read items := by
  unfold Pipe.Follows at follows ⊢
  cases step with
  | skips running next skipped =>
    rw [if_pos running] at follows ⊢
    rw [← follows, next, yielded, skipped]
  | hands running next made free =>
    rw [if_pos running] at follows ⊢
    rw [← follows, next, yielded, made]
    simp
  | finishes running next ended =>
    rw [if_pos running] at follows
    exact ⟨_, follows⟩
  | closes running emptied =>
    rw [if_pos running] at follows
    exact ⟨_, follows⟩
  | takes awake next =>
    rw [next] at follows
    simpa using follows

theorem stop_follows (follows : pipe.Follows read items) (stop : Stop pipe after) :
    after.Follows read items := by
  unfold Pipe.Follows at follows ⊢
  cases stop with
  | producer rest =>
    split at follows
    · exact ⟨_, follows⟩
    · exact follows
  | consumer => exact follows

theorem run_passes (ran : Run read room (.start items) pipe) : pipe.passed <+: yielded read items := by
  have follows : pipe.Follows read items := by
    induction ran with
    | refl => rfl
    | tail _ moved ih => exact moved.elim (step_follows ih) (stop_follows ih)
  unfold Pipe.Follows at follows
  split at follows
  · exact ⟨_, by rw [← List.append_assoc, follows]⟩
  · exact (List.prefix_append _ _).trans follows

theorem stuck_over (positive : 0 < room) (awake : pipe.listening = true)
    (stuck : Stuck read room pipe) : pipe.reading = false ∧ pipe.queue = [] := by
  have empty : pipe.queue = [] := by
    cases queued : pipe.queue with
    | nil => rfl
    | cons value rest => exact absurd (.takes awake queued) (stuck _)
  refine ⟨Bool.eq_false_iff.2 fun running => ?_, empty⟩
  cases left : pipe.unread with
  | nil => exact stuck _ (.closes running left)
  | cons first rest =>
    cases made : read first with
    | skip => exact stuck _ (.skips running left made)
    | item value => exact stuck _ (.hands running left made (by rwa [empty]))
    | last => exact stuck _ (.finishes running left made)

theorem quiet_passes (positive : 0 < room) (ran : Quiet read room (.start items) pipe)
    (stuck : Stuck read room pipe) : pipe.passed = yielded read items := by
  have whole : pipe.Whole read items := by
    clear stuck
    induction ran with
    | refl => exact ⟨rfl, rfl⟩
    | tail _ step ih => exact step_whole ih step
  obtain ⟨left, empty⟩ := stuck_over positive whole.1 stuck
  have same := whole.2
  rwa [left, empty, if_neg Bool.false_ne_true, List.append_nil, List.append_nil] at same

def Pipe.work (pipe : Pipe α β) : Nat :=
  2 * pipe.unread.length + pipe.queue.length + if pipe.reading then 1 else 0

theorem step_work (step : Step read room pipe after) : after.work < pipe.work := by
  unfold Pipe.work
  cases step with
  | skips running next skipped => rw [next, List.length_cons]; dsimp only; omega
  | hands running next made free =>
    rw [next, List.length_cons, List.length_append, List.length_singleton]
    dsimp only
    omega
  | finishes running next ended =>
    rw [next, List.length_cons, if_pos running]
    simp only [Bool.false_eq_true, if_false]
    omega
  | closes running emptied => simp [running]
  | takes awake next => rw [next, List.length_cons]; dsimp only; omega

theorem steps_end : WellFounded fun after before : Pipe α β => Step read room before after :=
  Subrelation.wf step_work (measure Pipe.work).wf

theorem quiet_ends (pipe : Pipe α β) : ∃ last, Quiet read room pipe last ∧ Stuck read room last := by
  have ends : WellFounded fun after before : Pipe α β => Step read room before after := steps_end
  induction pipe using ends.induction with
  | _ pipe ih =>
    by_cases left : ∃ after, Step read room pipe after
    · obtain ⟨after, step⟩ := left
      obtain ⟨last, ran, stuck⟩ := ih after step
      exact ⟨last, .head step ran, stuck⟩
    · exact ⟨pipe, .refl, fun after step => left ⟨after, step⟩⟩

end NewApi.QueuedReads
