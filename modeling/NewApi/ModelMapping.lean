import NewApi.DeterministicChains
import NewApi.AttemptConfig

/-! The model mapping of a channel. The walk along the mapping tells chains that end
from those that enter a cycle. What is left behind at the end is the last name of
the chain, except where a self-mapping meets the name that was asked for. -/
namespace NewApi.ModelMapping
open Relation NewApi.GoText NewApi.AttemptConfig NewApi.DeterministicChains

abbrev Table := List (String × String)

/-! ## The helper -/

structure Info where
  originModelName : String
  upstreamModelName : String
  isModelMapped : Bool := false
  deriving DecidableEq, Repr

structure Outcome where
  info : Info
  request : Option String
  error : Option String := none
  deriving DecidableEq, Repr

/-- `SetModelName` of the requests that have a model. -/
def setModelName (modelName model : String) : String := if modelName ≠ "" then modelName else model

/-- `mappingModelName`. -/
def startOf (compact : Bool) (originModelName : String) : String :=
  if compact && hasSuffix originModelName compactModelSuffix then
    trimSuffix originModelName compactModelSuffix
  else originModelName

/-- The end of `ModelMappedHelper`. -/
def finish (compact : Bool) (mappingModelName : String) (info : Info) (request : Option String) :
    Outcome :=
  let info :=
    if compact then
      let finalUpstreamModelName :=
        if info.isModelMapped && info.upstreamModelName ≠ "" then info.upstreamModelName
        else mappingModelName
      { info with
        upstreamModelName := finalUpstreamModelName
        originModelName := withCompactModelSuffix finalUpstreamModelName }
    else info
  ⟨info, request.map (setModelName info.upstreamModelName), none⟩

/-- `relay/helper/model_mapped.go::ModelMappedHelper`; the mapping is the text of the
context, which `unmarshal` reads. -/
def modelMappedHelper (compact : Bool) (unmarshal : String → Option Table) (modelMapping : String)
    (info : Info) (request : Option String) : Outcome :=
  let mappingModelName := startOf compact info.originModelName
  if modelMapping ≠ "" ∧ modelMapping ≠ "{}" then
    match unmarshal modelMapping with
    | none => ⟨info, request, some "unmarshal_model_mapping_failed"⟩
    | some modelMap =>
      match walkMapping info.originModelName modelMap [mappingModelName] mappingModelName
          info.isModelMapped with
      | .originItself => ⟨{ info with isModelMapped := false }, request, none⟩
      | .cycle =>
        ⟨{ info with isModelMapped := true }, request, some "model_mapping_contains_cycle"⟩
      | .last currentModel mapped =>
        let upstreamModelName := if mapped then currentModel else info.upstreamModelName
        finish compact mappingModelName
          { info with isModelMapped := mapped, upstreamModelName := upstreamModelName } request
  else finish compact mappingModelName info request

def tableOf (unmarshal : String → Option Table) (modelMapping : String) : Option Table :=
  if modelMapping ≠ "" ∧ modelMapping ≠ "{}" then unmarshal modelMapping else some []

/-! ## What is asked of the helper -/

def Redirects (table : Table) (model next : String) : Prop :=
  redirection table model = some next ∧ next ≠ model

/-- A cycle is an error; without one the last name of the chain is the upstream model
and the model of the request, and it is marked as mapped unless it is the first. -/
structure Resolved (table : Table) (start : String) (outcome : Outcome) : Prop where
  cycles : outcome.error = some "model_mapping_contains_cycle" ↔ EntersCycle (Redirects table) start
  upstream : outcome.error = none → Ends (Redirects table) start outcome.info.upstreamModelName
  mapped : outcome.error = none →
    (outcome.info.isModelMapped = true ↔ outcome.info.upstreamModelName ≠ start)
  request : outcome.error = none → ∀ model ∈ outcome.request, model = outcome.info.upstreamModelName

/-- Where the helper leaves a wrong mark or the old model of the request: a name
without its suffix that is mapped to itself, a chain that ends at the name that was
asked for, and an empty name. -/
structure Regular (table : Table) (origin start : String) (request : Option String) : Prop where
  stripped : start ≠ origin → redirection table start ≠ some start
  returned : redirection table origin = some origin → ReflTransGen (Redirects table) start origin →
    start = origin ∧ ∀ model ∈ request, model = origin
  empty : start = "" → redirection table start = none → ∀ model ∈ request, model = ""

/-! ## The walk -/

section Walk
variable {table : Table} {origin start current : String}

theorem redirects_unique (table : Table) : Relator.RightUnique (Redirects table) :=
  fun _ _ _ first second => Option.some.inj (first.1.symm.trans second.1)

def Found (table : Table) (origin start : String) : MappingEnd → Prop
  | .originItself => Ends (Redirects table) start origin ∧ redirection table origin = some origin
  | .cycle => EntersCycle (Redirects table) start
  | .last model mapped => Ends (Redirects table) start model ∧
    (redirection table model = some model → model ≠ origin) ∧
    (mapped = true ↔ model ≠ start ∨ redirection table model = some model)

structure Visited (table : Table) (start : String) (visited : List String) (current : String)
    (mapped : Bool) : Prop where
  first : start ∈ visited
  here : current ∈ visited
  from_start : ∀ model ∈ visited, ReflTransGen (Redirects table) start model
  to_here : ∀ model ∈ visited, ReflTransGen (Redirects table) model current
  mark : mapped = true ↔ current ≠ start

theorem visited_first (table : Table) (start : String) : Visited table start [start] start false where
  first := List.mem_singleton_self start
  here := List.mem_singleton_self start
  from_start := fun model member => List.mem_singleton.mp member ▸ .refl
  to_here := fun model member => List.mem_singleton.mp member ▸ .refl
  mark := by simp

theorem visited_next
    (met : Visited table start visited current mapped)
    (redirected : redirection table current = some next) (fresh : next ∉ visited) :
    Visited table start (next :: visited) next true where
  first := .tail _ met.first
  here := .head _
  from_start := by
    have taken : Redirects table current next :=
      ⟨redirected, fun same => fresh (same ▸ met.here)⟩
    intro model member
    rcases List.mem_cons.mp member with rfl | earlier
    · exact (met.from_start current met.here).tail taken
    · exact met.from_start model earlier
  to_here := by
    have taken : Redirects table current next :=
      ⟨redirected, fun same => fresh (same ▸ met.here)⟩
    intro model member
    rcases List.mem_cons.mp member with rfl | earlier
    · exact .refl
    · exact (met.to_here model earlier).tail taken
  mark := by
    have apart : next ≠ start := fun same => fresh (same ▸ met.first)
    simp [apart]

theorem ends_here (met : Visited table start visited current mapped)
    (last : ∀ next, redirection table current = some next → next = current) :
    Ends (Redirects table) start current :=
  ⟨met.from_start current met.here, fun next taken => taken.2 (last next taken.1)⟩

theorem walk_found (origin : String)
    (met : Visited table start visited current mapped) :
    Found table origin start (walkMapping origin table visited current mapped) := by
  fun_induction walkMapping origin table visited current mapped with
  | case1 visited current mapped none_ =>
    refine ⟨ends_here met fun next some_ => ?_, fun self => ?_, ?_⟩
    · exact absurd (none_.symm.trans some_) (by simp)
    · exact absurd (none_.symm.trans self) (by simp)
    · simp [met.mark, none_]
  | case2 visited mapped seen self =>
    exact ⟨ends_here met fun next some_ => (Option.some.inj (self.symm.trans some_)).symm, self⟩
  | case3 visited mapped current seen self other =>
    refine ⟨ends_here met fun next some_ => (Option.some.inj (self.symm.trans some_)).symm,
      fun _ => other, ?_⟩
    simp [self]
  | case4 visited current mapped next redirected seen apart =>
    exact enters_cycle_of_return (met.from_start next seen) (met.to_here next seen) ⟨redirected, apart⟩
  | case5 visited current mapped next redirected fresh ih =>
    exact ih (visited_next met redirected fresh)

theorem walk_start (table : Table) (origin start : String) :
    Found table origin start (walkMapping origin table [start] start false) :=
  walk_found origin (visited_first table start)

end Walk

/-! ## What the helper leaves -/

section Helper

theorem redirection_nonempty
    (redirected : redirection table model = some next) : next ≠ "" :=
  of_decide_eq_true (Option.filter_eq_some_iff.mp redirected).2

theorem start_of_plain (origin : String) : startOf false origin = origin := rfl

theorem helper_eq {unmarshal : String → Option Table}
    (read : tableOf unmarshal modelMapping = some table) (compact : Bool) (origin : String)
    (request : Option String) :
    modelMappedHelper compact unmarshal modelMapping ⟨origin, origin, false⟩ request =
      match walkMapping origin table [startOf compact origin] (startOf compact origin) false with
      | .originItself => ⟨⟨origin, origin, false⟩, request, none⟩
      | .cycle => ⟨⟨origin, origin, true⟩, request, some "model_mapping_contains_cycle"⟩
      | .last currentModel mapped => finish compact (startOf compact origin)
        ⟨origin, if mapped then currentModel else origin, mapped⟩ request := by
  rw [modelMappedHelper]
  rw [tableOf] at read
  split at read
  · rename_i given
    rw [if_pos given, read]
  · rename_i missing
    obtain rfl := Option.some.inj read
    have stays : walkMapping origin [] [startOf compact origin] (startOf compact origin) false =
        .last (startOf compact origin) false := by
      rw [walkMapping]
      rfl
    rw [if_neg missing, stays]
    rfl

theorem finish_eq (origin : String) (request : Option String) (nonempty : mapped = true → last ≠ "")
    (unmapped : mapped = false → last = startOf compact origin) :
    let outcome := finish compact (startOf compact origin)
      ⟨origin, if mapped then last else origin, mapped⟩ request
    outcome.info.upstreamModelName = last ∧ outcome.info.isModelMapped = mapped ∧
      outcome.error = none ∧ outcome.request = request.map (setModelName last) := by
  cases mapped with
  | true =>
    have some_ := nonempty rfl
    cases compact <;> simp [finish, some_]
  | false =>
    rw [unmapped rfl]
    cases compact <;> simp [finish, start_of_plain]

theorem ends_empty_iff (ends : Ends (Redirects table) start last) :
    last = "" ↔ start = "" ∧ redirection table start = none := by
  constructor
  · rintro rfl
    rcases ends.1.cases_tail with same | ⟨model, -, taken⟩
    · subst same
      refine ⟨rfl, Option.eq_none_iff_forall_ne_some.mpr fun next redirected => ?_⟩
      exact ends.2 next ⟨redirected, redirection_nonempty redirected⟩
    · exact absurd rfl (redirection_nonempty taken.1)
  · rintro ⟨rfl, none_⟩
    refine ends_unique (redirects_unique table) ends ⟨.refl, fun next taken => ?_⟩
    exact absurd (none_.symm.trans taken.1) (by simp)

theorem ends_self (reached : ReflTransGen (Redirects table) start last)
    (self : redirection table last = some last) : Ends (Redirects table) start last :=
  ⟨reached, fun _ taken => taken.2 (Option.some.inj (self.symm.trans taken.1)).symm⟩

theorem set_model_iff (last : String) (request : Option String) :
    (∀ model ∈ request.map (setModelName last), model = last) ↔
      (last = "" → ∀ model ∈ request, model = "") := by
  by_cases empty : last = ""
  · simp [setModelName, empty]
  · simp [setModelName, empty]

theorem resolved_origin (ends : Ends (Redirects table) start origin)
    (self : redirection table origin = some origin) :
    Resolved table start ⟨⟨origin, origin, false⟩, request, none⟩ ↔ Regular table origin start request := by
  constructor
  · intro resolved
    have same : origin = start := by
      by_contra apart
      exact absurd ((resolved.mapped rfl).mpr apart) Bool.false_ne_true
    refine ⟨fun apart => absurd same.symm apart, fun _ _ => ⟨same.symm, resolved.request rfl⟩, ?_⟩
    rintro - none_
    exact absurd ((same ▸ none_).symm.trans self) (by simp)
  · intro regular
    obtain ⟨same, model⟩ := regular.returned self ends.1
    exact ⟨iff_of_false (by simp) (ends_not_cycle (redirects_unique table) ends),
      fun _ => ends, fun _ => iff_of_false Bool.false_ne_true (not_not.mpr same.symm), fun _ => model⟩

theorem resolved_cycle (enters : EntersCycle (Redirects table) start) (info : Info) :
    Resolved table start ⟨info, request, some "model_mapping_contains_cycle"⟩ ↔
      Regular table origin start request := by
  have endless : ∀ last, ¬ Ends (Redirects table) start last := fun last ends =>
    ends_not_cycle (redirects_unique table) ends enters
  refine iff_of_true ⟨iff_of_true rfl enters, ?_, ?_, ?_⟩ ⟨?_, ?_, ?_⟩
  · exact fun none_ => absurd none_ (by simp)
  · exact fun none_ => absurd none_ (by simp)
  · exact fun none_ => absurd none_ (by simp)
  · exact fun _ self => endless start (ends_self .refl self)
  · exact fun self reached => absurd (ends_self reached self) (endless origin)
  · rintro - none_
    exact absurd ⟨.refl, fun next taken => absurd (none_.symm.trans taken.1) (by simp)⟩ (endless start)

theorem resolved_last (ends : Ends (Redirects table) start last)
    (elsewhere : redirection table last = some last → last ≠ origin)
    (mark : mapped = true ↔ last ≠ start ∨ redirection table last = some last)
    (upstream : outcome.info.upstreamModelName = last) (isMapped : outcome.info.isModelMapped = mapped)
    (error : outcome.error = none) (set_ : outcome.request = request.map (setModelName last)) :
    Resolved table start outcome ↔ Regular table origin start request := by
  have unique := redirects_unique table
  have cycles : outcome.error = some "model_mapping_contains_cycle" ↔
      EntersCycle (Redirects table) start :=
    iff_of_false (by simp [error]) (ends_not_cycle unique ends)
  constructor
  · intro resolved
    refine ⟨fun apart self => ?_, fun self reached => ?_, fun empty none_ => ?_⟩
    · -- a self-mapping at the start makes it the last name, and sets the mark
      obtain rfl := ends_unique unique ends (ends_self .refl self)
      have marked := resolved.mapped error
      rw [upstream, isMapped, mark] at marked
      exact marked.mp (.inr self) rfl
    · obtain rfl := ends_unique unique ends (ends_self reached self)
      exact absurd rfl (elsewhere self)
    · have models := resolved.request error
      rw [upstream, set_, set_model_iff] at models
      exact models ((ends_empty_iff ends).mpr ⟨empty, none_⟩)
  · intro regular
    refine ⟨cycles, fun _ => upstream ▸ ends, fun _ => ?_, fun _ => ?_⟩
    · rw [isMapped, upstream, mark, or_iff_left_of_imp]
      rintro self rfl
      exact regular.stripped (elsewhere self) self
    · rw [upstream, set_, set_model_iff]
      intro empty
      obtain ⟨first, none_⟩ := (ends_empty_iff ends).mp empty
      exact regular.empty first none_

end Helper

/-- A cycle is an error, and without one the names and the mark are those of the chain,
exactly where the helper is regular. -/
theorem mapping_resolved_iff {table : Table} {unmarshal : String → Option Table}
    {modelMapping : String} (read : tableOf unmarshal modelMapping = some table) (compact : Bool)
    (origin : String) (request : Option String) :
    Resolved table (startOf compact origin)
        (modelMappedHelper compact unmarshal modelMapping ⟨origin, origin, false⟩ request) ↔
      Regular table origin (startOf compact origin) request := by
  have found := walk_start table origin (startOf compact origin)
  rw [helper_eq read]
  cases ended : walkMapping origin table [startOf compact origin] (startOf compact origin) false with
  | originItself =>
    rw [ended] at found
    exact resolved_origin found.1 found.2
  | cycle =>
    rw [ended] at found
    exact resolved_cycle found _
  | last model mapped =>
    rw [ended] at found
    obtain ⟨ends, elsewhere, mark⟩ := found
    have nonempty : mapped = true → model ≠ "" := by
      rintro isMapped rfl
      obtain ⟨first, none_⟩ := (ends_empty_iff ends).mp rfl
      rw [first] at mark
      rcases mark.mp isMapped with apart | self
      · exact apart rfl
      · exact redirection_nonempty self rfl
    have unmapped : mapped = false → model = startOf compact origin := by
      intro notMapped
      by_contra apart
      exact absurd (mark.mpr (.inl apart)) (by simp [notMapped])
    obtain ⟨upstream, isMapped, error, set_⟩ := finish_eq origin request nonempty unmapped
    exact resolved_last ends elsewhere mark upstream isMapped error set_

/-- A chain of two steps. -/
theorem two_steps_resolved :
    Resolved [("a", "b"), ("b", "c")] "a" (modelMappedHelper false
      (fun _ => some [("a", "b"), ("b", "c")]) "mapping" ⟨"a", "a", false⟩ (some "a")) := by
  have read : tableOf (fun _ => some [("a", "b"), ("b", "c")]) "mapping" =
      some [("a", "b"), ("b", "c")] := by simp [tableOf]
  refine (mapping_resolved_iff read false "a" (some "a")).mpr ⟨?_, ?_, ?_⟩
  · exact fun apart => absurd rfl apart
  · exact fun self => absurd self (by decide)
  · exact fun empty => absurd empty (by decide)

theorem walk_self (origin : String)
    (mapped : Bool) (seen : current ∈ visited) (self : redirection table current = some current) :
    walkMapping origin table visited current mapped =
      if current = origin then .originItself else .last current true := by
  rw [walkMapping]
  split
  · rename_i none_
    exact absurd (none_.symm.trans self) (by simp)
  · rename_i next redirected
    obtain rfl := Option.some.inj (self.symm.trans redirected)
    rw [dif_pos seen, if_pos rfl]

theorem walk_step (origin : String)
    (mapped : Bool) (redirected : redirection table current = some next) (fresh : next ∉ visited) :
    walkMapping origin table visited current mapped =
      walkMapping origin table (next :: visited) next true := by
  rw [walkMapping]
  split
  · rename_i none_
    exact absurd (none_.symm.trans redirected) (by simp)
  · rename_i other also
    obtain rfl := Option.some.inj (redirected.symm.trans also)
    rw [dif_neg fresh]

theorem compact_start : startOf true "gpt-openai-compact" = "gpt" := by decide

/-- A name without its suffix that is mapped to itself is marked as mapped; a chain that
ends at the name that was asked for is not, and the request keeps its model. -/
theorem self_mapping_unresolved :
    ¬ Resolved [("gpt", "gpt")] "gpt" (modelMappedHelper true (fun _ => some [("gpt", "gpt")])
        "mapping" ⟨"gpt-openai-compact", "gpt-openai-compact", false⟩ (some "gpt")) ∧
      ¬ Resolved [("gpt", "gpt-openai-compact"), ("gpt-openai-compact", "gpt-openai-compact")] "gpt"
        (modelMappedHelper true
          (fun _ => some [("gpt", "gpt-openai-compact"), ("gpt-openai-compact", "gpt-openai-compact")])
          "mapping" ⟨"gpt-openai-compact", "gpt-openai-compact", false⟩ (some "gpt")) := by
  constructor
  · intro resolved
    have walked : walkMapping "gpt-openai-compact" [("gpt", "gpt")] ["gpt"] "gpt" false =
        .last "gpt" true := by
      rw [walk_self _ _ (by decide) (by decide), if_neg (by decide)]
    have read : tableOf (fun _ => some [("gpt", "gpt")]) "mapping" = some [("gpt", "gpt")] := by
      simp [tableOf]
    rw [helper_eq read, compact_start, walked] at resolved
    exact absurd rfl ((resolved.mapped rfl).mp rfl)
  · intro resolved
    have walked : walkMapping "gpt-openai-compact"
        [("gpt", "gpt-openai-compact"), ("gpt-openai-compact", "gpt-openai-compact")] ["gpt"] "gpt"
        false = .originItself := by
      have taken : redirection [("gpt", "gpt-openai-compact"),
          ("gpt-openai-compact", "gpt-openai-compact")] "gpt" = some "gpt-openai-compact" := by decide
      rw [walk_step _ _ taken (by decide), walk_self _ _ (by decide) (by decide), if_pos rfl]
    have read : tableOf (fun _ => some [("gpt", "gpt-openai-compact"),
        ("gpt-openai-compact", "gpt-openai-compact")]) "mapping" = some [("gpt", "gpt-openai-compact"),
        ("gpt-openai-compact", "gpt-openai-compact")] := by
      simp [tableOf]
    rw [helper_eq read, compact_start, walked] at resolved
    exact absurd (resolved.request rfl "gpt" rfl) (by decide)

end NewApi.ModelMapping
