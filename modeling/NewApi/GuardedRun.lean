import Mathlib.Data.List.Basic
import Mathlib.Logic.Relation

/-! Runs of a step function whose events are constrained by a guard on the
state they are taken from. A guard says which steps a run may take; the rules
below turn what one permitted step preserves into what a whole run preserves,
so that a model proves its invariant once, one event at a time. Nothing here
depends on what the states or events are. -/
namespace NewApi.GuardedRun

variable {State : Type*} {Event : Type*}
variable {step : State → Event → State} {guard : State → Event → Prop}

def run (step : State → Event → State) (start : State) (events : List Event) : State :=
  events.foldl step start

def Guarded (step : State → Event → State) (guard : State → Event → Prop) : State → List Event → Prop
  | _, [] => True
  | state, event :: rest => guard state event ∧ Guarded step guard (step state event) rest

instance decidableGuarded [∀ state event, Decidable (guard state event)] :
    (start : State) → (events : List Event) → Decidable (Guarded step guard start events)
  | _, [] => isTrue trivial
  | start, event :: rest =>
    have : Decidable (Guarded step guard (step start event) rest) := decidableGuarded _ rest
    inferInstanceAs (Decidable (guard start event ∧ Guarded step guard (step start event) rest))

@[simp] theorem run_nil (start : State) : run step start [] = start := rfl

@[simp] theorem run_cons (start : State) (event : Event) (rest : List Event) :
    run step start (event :: rest) = run step (step start event) rest := rfl

theorem run_append (start : State) (first second : List Event) :
    run step start (first ++ second) = run step (run step start first) second := by
  simp [run, List.foldl_append]

theorem guarded_append (start : State) (first second : List Event) :
    Guarded step guard start (first ++ second) ↔
      Guarded step guard start first ∧ Guarded step guard (run step start first) second := by
  induction first generalizing start with
  | nil => simp [Guarded]
  | cons event rest ih => simp [Guarded, ih, and_assoc]

theorem guarded_of_forall (holds : ∀ state event, guard state event) (start : State)
    (events : List Event) : Guarded step guard start events := by
  induction events generalizing start with
  | nil => trivial
  | cons event rest ih => exact ⟨holds start event, ih _⟩

theorem guarded_of_events {property : Event → Prop}
    (all : ∀ event ∈ events, property event) (start : State) :
    Guarded step (fun _ event => property event) start events := by
  induction events generalizing start with
  | nil => trivial
  | cons event rest ih =>
    refine ⟨all event (List.mem_cons_self ..), ih (fun later member => ?_) _⟩
    exact all later (List.mem_cons_of_mem _ member)

theorem guarded_and {other : State → Event → Prop} (start : State) (events : List Event) :
    Guarded step (fun state event => guard state event ∧ other state event) start events ↔
      Guarded step guard start events ∧ Guarded step other start events := by
  induction events generalizing start with
  | nil => simp [Guarded]
  | cons event rest ih =>
    simp only [Guarded, ih]
    exact and_and_and_comm

theorem run_preserves {invariant : State → Prop}
    (kept : ∀ state event, guard state event → invariant state → invariant (step state event))
    {start : State} {events : List Event} (permitted : Guarded step guard start events)
    (initially : invariant start) : invariant (run step start events) := by
  induction events generalizing start with
  | nil => exact initially
  | cons event rest ih => exact ih permitted.2 (kept _ _ permitted.1 initially)

theorem run_preserves_always {invariant : State → Prop}
    (kept : ∀ state event, invariant state → invariant (step state event))
    {start : State} (events : List Event) (initially : invariant start) :
    invariant (run step start events) := by
  have permitted : Guarded step (fun _ _ => True) start events :=
    guarded_of_forall (fun _ _ => trivial) start events
  exact run_preserves (fun state event _ => kept state event) permitted initially

theorem run_relates {invariant : State → Prop} {related : State → State → Prop}
    (reflexive : ∀ state, related state state)
    (transitive : ∀ {a b c}, related a b → related b c → related a c)
    (kept : ∀ state event, guard state event → invariant state →
      invariant (step state event) ∧ related state (step state event))
    {start : State} {events : List Event} (permitted : Guarded step guard start events)
    (initially : invariant start) : related start (run step start events) := by
  induction events generalizing start with
  | nil => exact reflexive start
  | cons event rest ih =>
    obtain ⟨next, moved⟩ := kept _ _ permitted.1 initially
    exact transitive moved (ih permitted.2 next)

theorem guarded_iff_always_safe {invariant safe : State → Prop}
    (kept : ∀ state event, guard state event → invariant state → invariant (step state event))
    (sharp : ∀ state event, invariant state → (safe (step state event) ↔ guard state event))
    (events : List Event) (initially : invariant start) :
    Guarded step guard start events ↔ ∀ done, done <+: events → done ≠ [] → safe (run step start done) := by
  induction events generalizing start with
  | nil =>
    refine ⟨fun _ done shorter nonempty => ?_, fun _ => trivial⟩
    exact absurd (List.prefix_nil.mp shorter) nonempty
  | cons event rest ih =>
    constructor
    · rintro ⟨permitted, later⟩ done shorter nonempty
      obtain ⟨first, tail, rfl⟩ := List.exists_cons_of_ne_nil nonempty
      obtain ⟨rfl, inside⟩ := List.cons_prefix_cons.mp shorter
      by_cases last : tail = []
      · subst last
        exact (sharp start first initially).mpr permitted
      · exact (ih (kept _ _ permitted initially)).mp later tail inside last
    · intro safe
      have permitted : guard start event :=
        (sharp start event initially).mp
          (safe [event] (List.cons_prefix_cons.mpr ⟨rfl, List.nil_prefix⟩) (by simp))
      refine ⟨permitted, (ih (kept _ _ permitted initially)).mpr ?_⟩
      intro done shorter _
      exact safe (event :: done) (List.cons_prefix_cons.mpr ⟨rfl, shorter⟩) (by simp)

theorem always_safe_iff_guarded {invariant safe : State → Prop}
    (kept : ∀ state event, guard state event → invariant state → invariant (step state event))
    (sharp : ∀ state event, invariant state → (safe (step state event) ↔ guard state event))
    {start : State} (events : List Event) (initially : invariant start) (startSafe : safe start) :
    (∀ done, done <+: events → safe (run step start done)) ↔ Guarded step guard start events := by
  rw [guarded_iff_always_safe kept sharp events initially]
  refine ⟨fun always done shorter _ => always done shorter, fun always done shorter => ?_⟩
  by_cases none_done : done = []
  · subst none_done
    exact startSafe
  · exact always done shorter none_done

theorem steps_safe_iff_guarded {invariant : State → Prop} {safe : State → Event → Prop}
    (kept : ∀ state event, guard state event → invariant state → invariant (step state event))
    (sharp : ∀ state event, invariant state → (safe state event ↔ guard state event))
    {start : State} (events : List Event) (initially : invariant start) :
    (∀ done event, done ++ [event] <+: events → safe (run step start done) event) ↔
      Guarded step guard start events := by
  induction events generalizing start with
  | nil =>
    refine ⟨fun _ => trivial, fun _ done event shorter => ?_⟩
    exact absurd (List.prefix_nil.mp shorter) (by simp)
  | cons first rest ih =>
    constructor
    · intro all
      have permitted : guard start first :=
        (sharp start first initially).mp (all [] first (List.cons_prefix_cons.mpr ⟨rfl, List.nil_prefix⟩))
      refine ⟨permitted, (ih (kept _ _ permitted initially)).mp ?_⟩
      intro done event shorter
      exact all (first :: done) event (List.cons_prefix_cons.mpr ⟨rfl, shorter⟩)
    · rintro ⟨permitted, later⟩ done event shorter
      cases done with
      | nil =>
        obtain ⟨rfl, -⟩ := List.cons_prefix_cons.mp shorter
        exact (sharp start event initially).mpr permitted
      | cons head tail =>
        obtain ⟨rfl, inside⟩ := List.cons_prefix_cons.mp shorter
        exact (ih (kept _ _ permitted initially)).mpr later tail event inside

/-! ## Commits -/

theorem commit_safe_iff {Memory : Type*} {safe : State → Prop} {before : State}
    {held : Option Memory} {write : Memory → Option State} {current : Memory → State → Prop}
    (safeBefore : safe before)
    (sharp : ∀ memory after, held = some memory → write memory = some after →
      (safe after ↔ current memory after)) :
    safe ((held.bind write).getD before) ↔
      ∀ memory after, held = some memory → write memory = some after → current memory after := by
  cases held with
  | none => exact iff_of_true safeBefore fun _ _ impossible => by cases impossible
  | some memory =>
    cases written : write memory with
    | none =>
      refine iff_of_true (by simpa [written] using safeBefore) fun other after same impossible => ?_
      rw [← Option.some.inj same, written] at impossible
      cases impossible
    | some after =>
      rw [Option.bind_some, written, Option.getD_some, sharp memory after rfl written]
      constructor
      · intro meets other final same again
        rw [← Option.some.inj same] at again ⊢
        rw [written] at again
        rw [← Option.some.inj again]
        exact meets
      · exact fun meets => meets memory after rfl written

/-! ## Two systems side by side -/

variable {Other : Type*} {other : Other → Event → Other}

def pair (step : State → Event → State) (other : Other → Event → Other) (both : State × Other)
    (event : Event) : State × Other :=
  (step both.1 event, other both.2 event)

theorem run_pair (start : State) (twin : Other) (events : List Event) :
    run (pair step other) (start, twin) events = (run step start events, run other twin events) := by
  induction events generalizing start twin with
  | nil => rfl
  | cons event rest ih => exact ih (step start event) (other twin event)

theorem guarded_pair (start : State) (twin : Other) (events : List Event) :
    Guarded (pair step other) (fun both event => guard both.1 event) (start, twin) events ↔
      Guarded step guard start events := by
  induction events generalizing start twin with
  | nil => exact Iff.rfl
  | cons event rest ih => exact and_congr_right fun _ => ih (step start event) (other twin event)

theorem always_related_iff_guarded {invariant related : State → Other → Prop}
    (kept : ∀ state twin event, guard state event → invariant state twin →
      related state twin → invariant (step state event) (other twin event))
    (sharp : ∀ state twin event, invariant state twin → related state twin →
      (related (step state event) (other twin event) ↔ guard state event))
    {start : State} {twin : Other} (events : List Event) (initially : invariant start twin)
    (together : related start twin) :
    (∀ done, done <+: events → related (run step start done) (run other twin done)) ↔
      Guarded step guard start events := by
  have both : ∀ state : State × Other, ∀ event, guard state.1 event →
      invariant state.1 state.2 ∧ related state.1 state.2 →
      invariant (pair step other state event).1 (pair step other state event).2 ∧
        related (pair step other state event).1 (pair step other state event).2 := by
    rintro ⟨state, twin⟩ event permitted ⟨holds, relates⟩
    exact ⟨kept state twin event permitted holds relates,
      (sharp state twin event holds relates).mpr permitted⟩
  have exact_ : ∀ state : State × Other, ∀ event,
      invariant state.1 state.2 ∧ related state.1 state.2 →
      (related (pair step other state event).1 (pair step other state event).2 ↔ guard state.1 event) := by
    rintro ⟨state, twin⟩ event ⟨holds, relates⟩
    exact sharp state twin event holds relates
  have rule := @always_safe_iff_guarded _ _ (pair step other) (fun both event => guard both.1 event)
    (fun both => invariant both.1 both.2 ∧ related both.1 both.2)
    (fun both => related both.1 both.2) both exact_ (start, twin) events ⟨initially, together⟩
    together
  simpa only [run_pair, guarded_pair] using rule

/-! ## Runs that copy their input -/

section Copying
variable {invariant : State → Prop} {output : State → String} {added : State → Event → String}
variable {piece : Event → String}

theorem copied_extends (writes : ∀ state event, output (step state event) =
      output state ++ added state event)
    (start : State) (events : List Event) :
    ∃ more, output (run step start events) = output start ++ more := by
  induction events generalizing start with
  | nil => exact ⟨"", by simp⟩
  | cons event rest ih =>
    obtain ⟨more, shape⟩ := ih (step start event)
    refine ⟨added start event ++ more, ?_⟩
    rw [run_cons, shape, writes, String.append_assoc]

theorem copied_le (writes : ∀ state event, output (step state event) = output state ++ added state event)
    (kept : ∀ state event, invariant state → invariant (step state event))
    (shorter : ∀ state event, invariant state → (added state event).length ≤ (piece event).length)
    (initially : invariant start) (events : List Event) :
    (output (run step start events)).length ≤
      (output start).length + (String.join (events.map piece)).length := by
  induction events generalizing start with
  | nil => simp
  | cons event rest ih =>
    have later := ih (kept start event initially)
    have bound := shorter start event initially
    rw [writes, String.length_append] at later
    rw [run_cons, List.map_cons, String.join_cons, String.length_append]
    omega

theorem copied_iff_guarded (writes : ∀ state event, output (step state event) =
      output state ++ added state event)
    (kept : ∀ state event, invariant state → invariant (step state event))
    (shorter : ∀ state event, invariant state → (added state event).length ≤ (piece event).length)
    (sharp : ∀ state event, invariant state → (added state event = piece event ↔ guard state event))
    (initially : invariant start) (events : List Event) :
    output (run step start events) = output start ++ String.join (events.map piece) ↔
      Guarded step guard start events := by
  induction events generalizing start with
  | nil => simp [Guarded]
  | cons event rest ih =>
    have later := ih (kept start event initially)
    rw [writes] at later
    rw [run_cons, List.map_cons, String.join_cons, Guarded, ← sharp start event initially, ← later]
    constructor
    · intro copied
      -- nothing later makes up for what this step leaves out
      have whole := copied_le writes kept shorter (kept start event initially) rest
      rw [copied, writes] at whole
      simp only [String.length_append] at whole
      have here := shorter start event initially
      obtain ⟨more, shape⟩ := copied_extends writes (step start event) rest
      have same : added start event ++ more = piece event ++ String.join (rest.map piece) := by
        rw [copied, writes, String.append_assoc] at shape
        exact ((String.append_right_inj _).mp shape).symm
      have letters := congrArg String.toList same
      rw [String.toList_append, String.toList_append] at letters
      have equal : added start event = piece event := by
        apply String.toList_inj.mp
        refine (List.append_inj letters ?_).1
        rw [String.length_toList, String.length_toList]
        omega
      refine ⟨equal, ?_⟩
      rw [copied, equal, String.append_assoc]
    · rintro ⟨here, rest_copied⟩
      rw [rest_copied, here, String.append_assoc]

end Copying

end NewApi.GuardedRun
