import NewApi.SeparatedText
import Mathlib.Data.List.TakeWhile

/-! Negative indices in the paths of a param override. Each is looked up at the text
before the first place where it occurs in the path as it was given, and written
where it occurs first in the path as it has become. -/
namespace NewApi.NegativeIndex
open NewApi.SeparatedText

abbrev Text := List Char

/-! ## The source -/

/-- `-\d+` at the beginning of a text. -/
def leadingIndex : Text → Option Text
  | '-' :: rest =>
    let digits := rest.takeWhile Char.isDigit
    if digits = [] then none else some ('-' :: digits)
  | _ => none

/-- The submatches of `\.(-\d+)`; matches do not overlap, as there is no dot in an
index. -/
def findAllIndices : Text → List Text
  | [] => []
  | char :: rest =>
    (if char = '.' then (leadingIndex rest).toList else []) ++ findAllIndices rest

/-- `strings.Split(text, sep)[0]`. -/
def splitFirst (sep : Text) : Text → Text
  | [] => []
  | char :: text => if sep.isPrefixOf (char :: text) then [] else char :: splitFirst sep text

/-- `strings.Replace(text, old, new, 1)`, of an `old` that is not empty. -/
def replaceFirst (old new : Text) : Text → Text
  | [] => []
  | char :: text =>
    if old.isPrefixOf (char :: text) then new ++ (char :: text).drop old.length
    else char :: replaceFirst old new text

def magnitude (digits : Text) : Nat := Nat.ofDigitChars 10 digits 0

/-- `strconv.Atoi`, of an index that the expression has matched. -/
def indexOf (negIndex : Text) : Int := -(magnitude negIndex.tail : Int)

def itoa (index : Nat) : Text := Nat.toDigits 10 index

def actualIndex (length : Option Nat) (index : Int) : Option Nat :=
  length.bind fun length =>
    let actual := length + index
    if actual ≥ 0 ∧ actual < length then some actual.toNat else none

/-- `arrayPath`: what is before the first place of the index. -/
def arrayPath (negIndex path : Text) : Text :=
  let before := splitFirst negIndex path
  if before.getLast? = some '.' then before.dropLast else before

/-- `relay/common/override.go::processNegativeIndex`, of a document in which `gjson.Get`
finds arrays of these lengths at paths. -/
def processNegativeIndex (arrayLength : Text → Option Nat) (path : Text) : Text :=
  (findAllIndices path).foldl (fun result negIndex =>
    match actualIndex (arrayLength (arrayPath negIndex path)) (indexOf negIndex) with
    | none => result
    | some actual => replaceFirst ('.' :: negIndex) ('.' :: itoa actual) result) path

/-! ## What is asked of it -/

def isNegativeIndex (segment : Text) : Bool := leadingIndex segment = some segment

def resolveSegment (length : Option Nat) (segment : Text) : Text :=
  if isNegativeIndex segment then
    match actualIndex length (indexOf segment) with
    | none => segment
    | some actual => itoa actual
  else segment

def resolveRest (arrayLength : Text → Option Nat) : Text → List Text → List Text
  | _, [] => []
  | resolved, segment :: rest =>
    let actual := resolveSegment (arrayLength resolved) segment
    actual :: resolveRest arrayLength (resolved ++ '.' :: actual) rest

def resolvePath (arrayLength : Text → Option Nat) (path : Text) : Text :=
  let (first, rest) := cut '.' path
  let first := resolveSegment (arrayLength []) first
  joined '.' first (resolveRest arrayLength first rest)

/-! ## Where it is met -/

def written (arrayLength : Text → Option Nat) (path negIndex : Text) : Option Nat :=
  actualIndex (arrayLength (arrayPath negIndex path)) (indexOf negIndex)

def Unclobbered (arrayLength : Text → Option Nat) (path : Text) : Prop :=
  (cut '.' path).2.Pairwise fun earlier later => ∀ kept negIndex,
    leadingIndex earlier = some kept → written arrayLength path kept = none →
    leadingIndex later = some negIndex → written arrayLength path negIndex ≠ none →
    ¬ negIndex <+: earlier

def LookedUp (arrayLength : Text → Option Nat) (path resolved segment : Text) : Prop :=
  ∀ negIndex, leadingIndex segment = some negIndex →
    written arrayLength path negIndex =
      if negIndex = segment then actualIndex (arrayLength resolved) (indexOf segment) else none

def AllLookedUp (arrayLength : Text → Option Nat) (path : Text) : Text → List Text → Prop
  | _, [] => True
  | resolved, segment :: rest => LookedUp arrayLength path resolved segment ∧
    AllLookedUp arrayLength path (resolved ++ '.' :: resolveSegment (arrayLength resolved) segment) rest

/-! ## Index texts -/

section Index
variable {negIndex segment text : Text}

theorem leading_index_shape (leads : leadingIndex segment = some negIndex) :
    ∃ digits, digits ≠ [] ∧ (∀ char ∈ digits, char.isDigit) ∧ negIndex = '-' :: digits ∧
      negIndex <+: segment := by
  unfold leadingIndex at leads
  split at leads
  · rename_i rest
    dsimp only at leads
    split at leads
    · exact absurd leads (by simp)
    · rename_i some_
      obtain rfl := Option.some.inj leads
      refine ⟨_, some_, fun char member => List.mem_takeWhile_imp member, rfl, ?_⟩
      exact List.cons_prefix_cons.mpr ⟨rfl, List.takeWhile_prefix _⟩
  · exact absurd leads (by simp)

theorem leading_index_of_prefix {digits : Text} (some_ : digits ≠ [])
    (isDigits : ∀ char ∈ digits, char.isDigit) (begins : '-' :: digits <+: segment) :
    leadingIndex segment ≠ none := by
  obtain ⟨rest, rfl⟩ := begins
  intro none_
  cases digits with
  | nil => exact some_ rfl
  | cons digit digits =>
    have first := isDigits digit List.mem_cons_self
    simp [leadingIndex, first] at none_

theorem index_plain (leads : leadingIndex segment = some negIndex) : '.' ∉ negIndex := by
  obtain ⟨digits, -, isDigits, rfl, -⟩ := leading_index_shape leads
  intro member
  rcases List.mem_cons.mp member with sign | digit
  · exact absurd sign (by decide)
  · exact absurd (isDigits '.' digit) (by decide)

theorem leading_index_joined (first : Text) (rest : List Text) :
    leadingIndex (joined '.' first rest) = leadingIndex first := by
  cases rest with
  | nil => rw [joined_nil]
  | cons next rest =>
    rw [joined_cons]
    cases first with
    | nil => rfl
    | cons char first =>
      by_cases sign : char = '-'
      · subst sign
        have cut_ : (first ++ '.' :: joined '.' next rest).takeWhile Char.isDigit =
            first.takeWhile Char.isDigit := by
          have dot : ('.' :: joined '.' next rest).takeWhile Char.isDigit = [] := rfl
          rw [List.takeWhile_append, dot]
          split
          · rename_i all
            rw [List.append_nil, (List.takeWhile_prefix _).eq_of_length all]
          · rfl
        simp only [List.cons_append, leadingIndex, cut_]
      · simp [leadingIndex, sign]

theorem itoa_digits (index : Nat) : ∀ char ∈ itoa index, char.isDigit := fun _ member =>
  Nat.isDigit_of_mem_toDigits (by decide) (by decide) member

theorem itoa_plain (index : Nat) : '.' ∉ itoa index := fun member =>
  absurd (itoa_digits index '.' member) (by decide)

theorem itoa_injective (same : itoa index = itoa other) : index = other := by
  have values := congrArg (fun digits => Nat.ofDigitChars 10 digits 0) same
  simpa [itoa] using values

theorem itoa_unsigned (index : Nat) (text more : Text) : itoa index ++ text ≠ '-' :: more := by
  intro same
  cases written_ : itoa index with
  | nil => exact absurd written_ Nat.toDigits_ne_nil
  | cons digit digits =>
    rw [written_, List.cons_append, List.cons.injEq] at same
    have digit_ := itoa_digits index digit (by simp [written_])
    rw [same.1] at digit_
    exact absurd digit_ (by decide)

end Index

/-! ## Segments for texts -/

def replaceSegment (negIndex actual : Text) : List Text → List Text
  | [] => []
  | segment :: rest =>
    if negIndex <+: segment then (actual ++ segment.drop negIndex.length) :: rest
    else segment :: replaceSegment negIndex actual rest

section Segments
variable {negIndex new first text : Text} {rest : List Text}

theorem find_after_plain (plain : '.' ∉ first) : findAllIndices (first ++ text) = findAllIndices text := by
  induction first with
  | nil => rfl
  | cons char first ih =>
    have apart : char ≠ '.' := Ne.symm (List.ne_of_not_mem_cons plain)
    rw [List.cons_append, findAllIndices, if_neg apart, List.nil_append,
      ih (List.not_mem_of_not_mem_cons plain)]

theorem find_joined (plain : '.' ∉ first) (plains : ∀ segment ∈ rest, '.' ∉ segment) :
    findAllIndices (joined '.' first rest) = rest.filterMap leadingIndex := by
  induction rest generalizing first with
  | nil =>
    have alone := @find_after_plain first [] plain
    rw [List.append_nil] at alone
    rw [joined_nil, alone]
    rfl
  | cons next rest ih =>
    rw [joined_cons, find_after_plain plain, findAllIndices, if_pos rfl, leading_index_joined,
      ih (plains next List.mem_cons_self) fun segment member =>
        plains segment (List.mem_cons_of_mem _ member), List.filterMap_cons]
    cases leadingIndex next <;> rfl

theorem replace_after_plain (plain : '.' ∉ first) :
    replaceFirst ('.' :: negIndex) new (first ++ text) =
      first ++ replaceFirst ('.' :: negIndex) new text := by
  induction first with
  | nil => rfl
  | cons char first ih =>
    have apart := List.ne_of_not_mem_cons plain
    have notHere : ('.' :: negIndex).isPrefixOf (char :: (first ++ text)) = false := by
      rw [Bool.eq_false_iff, ne_eq, List.isPrefixOf_iff_prefix, List.cons_prefix_cons]
      exact fun both => apart both.1
    rw [List.cons_append, replaceFirst, notHere, if_neg Bool.false_ne_true,
      ih (List.not_mem_of_not_mem_cons plain), List.cons_append]

theorem replace_joined (actual : Text) (indexPlain : '.' ∉ negIndex) (plain : '.' ∉ first)
    (plains : ∀ segment ∈ rest, '.' ∉ segment) :
    replaceFirst ('.' :: negIndex) ('.' :: actual) (joined '.' first rest) =
      joined '.' first (replaceSegment negIndex actual rest) := by
  induction rest generalizing first with
  | nil =>
    have alone := @replace_after_plain negIndex ('.' :: actual) first [] plain
    rw [List.append_nil] at alone
    rw [joined_nil, alone, replaceFirst, replaceSegment, joined_nil, List.append_nil]
  | cons next rest ih =>
    have here : ('.' :: negIndex).isPrefixOf ('.' :: joined '.' next rest) = true ↔
        negIndex <+: next := by
      rw [List.isPrefixOf_iff_prefix, List.cons_prefix_cons, and_iff_right rfl,
        plain_begins_joined indexPlain]
    rw [joined_cons, replace_after_plain plain, replaceFirst, replaceSegment]
    by_cases begins : negIndex <+: next
    · obtain ⟨more, rfl⟩ := begins
      rw [if_pos (here.mpr (List.prefix_append _ _)), if_pos (List.prefix_append _ _), joined_cons,
        List.drop_left]
      simp [joined]
    · rw [if_neg (mt here.mp begins), if_neg begins, joined_cons,
        ih (plains next List.mem_cons_self) fun segment member =>
          plains segment (List.mem_cons_of_mem _ member)]

theorem replace_plains (actualPlain : '.' ∉ actual)
    (plains : ∀ segment ∈ rest, '.' ∉ segment) :
    ∀ segment ∈ replaceSegment negIndex actual rest, '.' ∉ segment := by
  induction rest with
  | nil => exact plains
  | cons next rest ih =>
    obtain ⟨first, later⟩ := List.forall_mem_cons.mp plains
    rw [replaceSegment]
    split
    · refine List.forall_mem_cons.mpr ⟨?_, later⟩
      rw [List.mem_append, not_or]
      exact ⟨actualPlain, fun member => first (List.mem_of_mem_drop member)⟩
    · exact List.forall_mem_cons.mpr ⟨first, ih later⟩

end Segments

/-! ## What becomes of a path -/

section Path
variable {arrayLength : Text → Option Nat} {path first resolved segment : Text}
  {rest done todo : List Text}

def rewrite (arrayLength : Text → Option Nat) (path : Text) (segments : List Text)
    (negIndex : Text) : List Text :=
  match written arrayLength path negIndex with
  | none => segments
  | some actual => replaceSegment negIndex (itoa actual) segments

def applied (arrayLength : Text → Option Nat) (path segment : Text) : Text :=
  match leadingIndex segment with
  | none => segment
  | some negIndex =>
    match written arrayLength path negIndex with
    | none => segment
    | some actual => itoa actual ++ segment.drop negIndex.length

theorem loop_joined (plain : '.' ∉ first) (plains : ∀ segment ∈ rest, '.' ∉ segment)
    {indices : List Text} (indicesPlain : ∀ negIndex ∈ indices, '.' ∉ negIndex) :
    indices.foldl (fun result negIndex =>
        match actualIndex (arrayLength (arrayPath negIndex path)) (indexOf negIndex) with
        | none => result
        | some actual => replaceFirst ('.' :: negIndex) ('.' :: itoa actual) result)
        (joined '.' first rest) =
      joined '.' first (indices.foldl (rewrite arrayLength path) rest) := by
  induction indices generalizing rest with
  | nil => rfl
  | cons negIndex indices ih =>
    obtain ⟨indexPlain, later⟩ := List.forall_mem_cons.mp indicesPlain
    rw [List.foldl_cons, List.foldl_cons, rewrite, written]
    cases actualIndex (arrayLength (arrayPath negIndex path)) (indexOf negIndex) with
    | none => exact ih plains later
    | some actual =>
      dsimp only
      rw [replace_joined _ indexPlain plain plains]
      exact ih (replace_plains (itoa_plain actual) plains) later

theorem replace_past {negIndex actual : Text} (absent : ∀ segment ∈ done, ¬ negIndex <+: segment) :
    replaceSegment negIndex actual (done ++ todo) = done ++ replaceSegment negIndex actual todo := by
  induction done with
  | nil => rfl
  | cons segment done ih =>
    obtain ⟨here, later⟩ := List.forall_mem_cons.mp absent
    rw [List.cons_append, replaceSegment, if_neg here, ih later, List.cons_append]

def Behind (arrayLength : Text → Option Nat) (path : Text) (done todo : List Text) : Prop :=
  ∀ segment ∈ done, ∀ later ∈ todo, ∀ negIndex, leadingIndex later = some negIndex →
    written arrayLength path negIndex ≠ none → ¬ negIndex <+: segment

theorem applied_behind (clear : ∀ kept negIndex, leadingIndex segment = some kept →
      written arrayLength path kept = none → leadingIndex later = some negIndex →
      written arrayLength path negIndex ≠ none → ¬ negIndex <+: segment)
    (leads : leadingIndex later = some negIndex)
    (writes : written arrayLength path negIndex ≠ none) :
    ¬ negIndex <+: applied arrayLength path segment := by
  obtain ⟨digits, some_, isDigits, rfl, -⟩ := leading_index_shape leads
  rw [applied]
  cases own : leadingIndex segment with
  | none => exact fun begins => leading_index_of_prefix some_ isDigits begins own
  | some kept =>
    dsimp only
    cases value : written arrayLength path kept with
    | none => exact clear kept _ own value leads writes
    | some actual =>
      rintro ⟨more, same⟩
      exact itoa_unsigned actual _ _ same.symm

theorem loop_applied (behind : Behind arrayLength path done todo)
    (clear : todo.Pairwise fun earlier later => ∀ kept negIndex,
      leadingIndex earlier = some kept → written arrayLength path kept = none →
      leadingIndex later = some negIndex → written arrayLength path negIndex ≠ none →
      ¬ negIndex <+: earlier) :
    (todo.filterMap leadingIndex).foldl (rewrite arrayLength path) (done ++ todo) =
      done ++ todo.map (applied arrayLength path) := by
  induction todo generalizing done with
  | nil => rfl
  | cons segment todo ih =>
    obtain ⟨here, clear⟩ := List.pairwise_cons.mp clear
    have next : Behind arrayLength path (done ++ [applied arrayLength path segment]) todo := by
      intro earlier member later isLater negIndex leads writes
      rcases List.mem_append.mp member with before | this
      · exact behind earlier before later (.tail _ isLater) negIndex leads writes
      · rw [List.mem_singleton.mp this]
        exact applied_behind (here later isLater) leads writes
    have step := ih next clear
    rw [List.append_assoc, List.append_assoc, List.singleton_append, List.singleton_append] at step
    rw [List.map_cons, ← step, List.filterMap_cons]
    cases leads : leadingIndex segment with
    | none =>
      have same : applied arrayLength path segment = segment := by rw [applied, leads]
      rw [same]
    | some negIndex =>
      rw [List.foldl_cons, rewrite]
      cases value : written arrayLength path negIndex with
      | none =>
        have same : applied arrayLength path segment = segment := by simp only [applied, leads, value]
        rw [same]
      | some actual =>
        have same : applied arrayLength path segment =
            itoa actual ++ segment.drop negIndex.length := by simp only [applied, leads, value]
        obtain ⟨-, -, -, -, begins⟩ := leading_index_shape leads
        dsimp only
        rw [replace_past fun earlier member => behind earlier member segment (.head _) negIndex leads
          (by simp [value]), replaceSegment, if_pos begins, same]

theorem processed_eq (path : Text) (clear : Unclobbered arrayLength path) :
    processNegativeIndex arrayLength path =
      joined '.' (cut '.' path).1 ((cut '.' path).2.map (applied arrayLength path)) := by
  obtain ⟨plain, plains⟩ := cut_plain '.' path
  have indices : findAllIndices path = (cut '.' path).2.filterMap leadingIndex := by
    rw [← find_joined plain plains, joined_cut]
  have loop := @loop_joined arrayLength path _ _ plain plains
    ((cut '.' path).2.filterMap leadingIndex) fun negIndex member => by
      obtain ⟨segment, -, leads⟩ := List.mem_filterMap.mp member
      exact index_plain leads
  rw [joined_cut] at loop
  rw [processNegativeIndex, indices, loop]
  congr 1
  exact loop_applied (fun segment member => absurd member List.not_mem_nil) clear

/-! ## The segments that are resolved -/

theorem resolve_plain (plain : '.' ∉ segment) :
    '.' ∉ resolveSegment length segment := by
  rw [resolveSegment]
  split
  · split
    · exact plain
    · exact itoa_plain _
  · exact plain

theorem resolve_plains (plains : ∀ segment ∈ rest, '.' ∉ segment) :
    ∀ segment ∈ resolveRest arrayLength resolved rest, '.' ∉ segment := by
  induction rest generalizing resolved with
  | nil => exact plains
  | cons segment rest ih =>
    obtain ⟨here, later⟩ := List.forall_mem_cons.mp plains
    exact List.forall_mem_cons.mpr ⟨resolve_plain here, ih later⟩

theorem applied_plains (plains : ∀ segment ∈ rest, '.' ∉ segment) :
    ∀ segment ∈ rest.map (applied arrayLength path), '.' ∉ segment := by
  intro segment member
  obtain ⟨origin, isOrigin, rfl⟩ := List.mem_map.mp member
  rw [applied]
  split
  · exact plains origin isOrigin
  · split
    · exact plains origin isOrigin
    · rw [List.mem_append, not_or]
      exact ⟨itoa_plain _, fun dropped => plains origin isOrigin (List.mem_of_mem_drop dropped)⟩

theorem applied_resolves_iff :
    applied arrayLength path segment = resolveSegment (arrayLength resolved) segment ↔
      LookedUp arrayLength path resolved segment := by
  rw [applied, resolveSegment, isNegativeIndex, LookedUp]
  cases leads : leadingIndex segment with
  | none => simp
  | some negIndex =>
    dsimp only
    obtain ⟨digits, -, -, sign, more, shape⟩ := leading_index_shape leads
    have signed : ∀ actual text, itoa actual ++ text ≠ segment := by
      intro actual text same
      rw [← shape, sign, List.cons_append] at same
      exact itoa_unsigned _ _ _ same
    have bare : ∀ actual, itoa actual ≠ segment := fun actual same =>
      signed actual [] ((List.append_nil _).trans same)
    have forall_ : (∀ other, some negIndex = some other → written arrayLength path other =
        if other = segment then actualIndex (arrayLength resolved) (indexOf segment) else none) ↔
        written arrayLength path negIndex =
          if negIndex = segment then actualIndex (arrayLength resolved) (indexOf segment) else none :=
      ⟨fun all => all negIndex rfl, fun one other same => Option.some.inj same ▸ one⟩
    rw [forall_]
    by_cases whole : negIndex = segment
    · subst whole
      have nothing : negIndex.drop negIndex.length = [] := List.drop_length
      rw [if_pos rfl, if_pos (decide_eq_true rfl)]
      cases written arrayLength path negIndex with
      | none =>
        cases actualIndex (arrayLength resolved) (indexOf negIndex) with
        | none => simp
        | some actual => simp [Ne.symm (bare actual)]
      | some actual =>
        cases actualIndex (arrayLength resolved) (indexOf negIndex) with
        | none => simp [nothing, bare]
        | some other =>
          simp only [nothing, List.append_nil, Option.some.injEq]
          exact ⟨itoa_injective, congrArg itoa⟩
    · have notWhole : ¬ decide (some negIndex = some segment) = true := by simp [whole]
      rw [if_neg whole, if_neg notWhole]
      cases written arrayLength path negIndex with
      | none => simp
      | some actual => simp [signed]

theorem all_applied_iff :
    rest.map (applied arrayLength path) = resolveRest arrayLength resolved rest ↔
      AllLookedUp arrayLength path resolved rest := by
  induction rest generalizing resolved with
  | nil => simp [resolveRest, AllLookedUp]
  | cons segment rest ih =>
    rw [List.map_cons, resolveRest, AllLookedUp, List.cons.injEq, applied_resolves_iff]
    exact and_congr_right fun _ => ih

/-! ## One index -/

theorem split_first_found {negIndex before more : Text} (leads : leadingIndex negIndex = some negIndex)
    (absent : ¬ negIndex <:+: before) :
    splitFirst negIndex (before ++ '.' :: (negIndex ++ more)) = before ++ ['.'] := by
  have plain := index_plain leads
  obtain ⟨digits, -, -, sign, -⟩ := leading_index_shape leads
  induction before with
  | nil =>
    have notDot : negIndex.isPrefixOf ('.' :: (negIndex ++ more)) = false := by
      rw [sign]
      rfl
    have here : splitFirst negIndex (negIndex ++ more) = [] := by
      have begins : negIndex.isPrefixOf (negIndex ++ more) = true := by simp
      rw [sign] at begins ⊢
      rw [List.cons_append, splitFirst]
      exact if_pos begins
    rw [List.nil_append, splitFirst, notDot, if_neg Bool.false_ne_true, here]
    rfl
  | cons char before ih =>
    have notHere : ¬ negIndex.isPrefixOf (char :: (before ++ '.' :: (negIndex ++ more))) = true := by
      rw [List.isPrefixOf_iff_prefix, ← List.cons_append, plain_begins plain]
      exact fun begins => absent begins.isInfix
    rw [List.cons_append, splitFirst, if_neg notHere,
      ih fun found => absent (found.trans (List.suffix_cons _ _).isInfix), List.cons_append]

theorem array_path_found {negIndex before more : Text} (leads : leadingIndex negIndex = some negIndex)
    (absent : ¬ negIndex <:+: before) :
    arrayPath negIndex (before ++ '.' :: (negIndex ++ more)) = before := by
  rw [arrayPath, split_first_found leads absent]
  simp

theorem unindexed_looked_up (unindexed : ∀ segment ∈ rest, leadingIndex segment = none) :
    AllLookedUp arrayLength path resolved rest := by
  induction rest generalizing resolved with
  | nil => exact trivial
  | cons segment rest ih =>
    obtain ⟨here, later⟩ := List.forall_mem_cons.mp unindexed
    exact ⟨fun negIndex leads => absurd (here.symm.trans leads) (by simp), ih later⟩

theorem looked_up_at (leads : leadingIndex negIndex = some negIndex)
    (unindexed : ∀ segment ∈ done, leadingIndex segment = none)
    (unindexedAfter : ∀ segment ∈ after, leadingIndex segment = none)
    (here : arrayPath negIndex path = joined '.' resolved done) :
    AllLookedUp arrayLength path resolved (done ++ negIndex :: after) := by
  induction done generalizing resolved with
  | nil =>
    rw [joined_nil] at here
    refine ⟨fun other also => ?_, unindexed_looked_up unindexedAfter⟩
    obtain rfl := Option.some.inj (leads.symm.trans also)
    rw [if_pos rfl, written, here]
  | cons segment done ih =>
    obtain ⟨first, later⟩ := List.forall_mem_cons.mp unindexed
    have kept : resolveSegment (arrayLength resolved) segment = segment := by
      rw [resolveSegment, isNegativeIndex, first]
      rfl
    refine ⟨fun negIndex leads => absurd (first.symm.trans leads) (by simp), ?_⟩
    rw [kept]
    exact ih later (here.trans (joined_onward '.' resolved segment done))

theorem single_index_clear {negIndex : Text} {before after : List Text}
    (plain : '.' ∉ first) (plains : ∀ segment ∈ before ++ negIndex :: after, '.' ∉ segment)
    (leads : leadingIndex negIndex = some negIndex)
    (unindexed : ∀ segment ∈ before, leadingIndex segment = none)
    (unindexedAfter : ∀ segment ∈ after, leadingIndex segment = none)
    (absent : ¬ negIndex <:+: joined '.' first before) :
    let path := joined '.' first (before ++ negIndex :: after)
    Unclobbered arrayLength path ∧ AllLookedUp arrayLength path (cut '.' path).1 (cut '.' path).2 := by
  dsimp only
  have only : ∀ segment ∈ before ++ negIndex :: after, ∀ other, leadingIndex segment = some other →
      other = negIndex := by
    intro segment member other also
    rcases List.mem_append.mp member with earlier | later
    · exact absurd ((unindexed segment earlier).symm.trans also) (by simp)
    · rcases List.mem_cons.mp later with rfl | later
      · exact Option.some.inj (also.symm.trans leads)
      · exact absurd ((unindexedAfter segment later).symm.trans also) (by simp)
  have shape : joined '.' first (before ++ negIndex :: after) =
      joined '.' first before ++ '.' :: (negIndex ++ after.flatMap ('.' :: ·)) := by
    simp [joined]
  rw [Unclobbered, cut_joined plain plains]
  constructor
  · refine List.pairwise_of_forall_mem_list fun earlier isEarlier later isLater kept other leadsKept
      notWritten leadsOther isWritten => ?_
    rw [only earlier isEarlier kept leadsKept] at notWritten
    rw [only later isLater other leadsOther] at isWritten
    exact absurd notWritten isWritten
  · refine looked_up_at leads unindexed unindexedAfter ?_
    rw [shape]
    exact array_path_found leads absent

end Path

/-- Where no index is clobbered, a path is resolved exactly if every negative index is
looked up as it should be. -/
theorem negative_index_resolved_iff {arrayLength : Text → Option Nat}
    (noRoot : arrayLength [] = none) (path : Text) (clear : Unclobbered arrayLength path) :
    processNegativeIndex arrayLength path = resolvePath arrayLength path ↔
      AllLookedUp arrayLength path (cut '.' path).1 (cut '.' path).2 := by
  obtain ⟨plain, plains⟩ := cut_plain '.' path
  have root : resolveSegment (arrayLength []) (cut '.' path).1 = (cut '.' path).1 := by
    rw [noRoot, resolveSegment]
    split <;> rfl
  rw [processed_eq path clear, resolvePath]
  dsimp only
  rw [root, joined_inj plain (applied_plains plains) (resolve_plains plains), all_applied_iff]

/-- The lengths of the arrays of `{"messages":[0,0,{"content":[0,0]}]}`. -/
def chatLengths (path : Text) : Option Nat :=
  if path = "messages".toList then some 3
  else if path = "messages.2.content".toList then some 2
  else none

/-- A path with one index. -/
theorem last_message_resolved :
    processNegativeIndex chatLengths "messages.-1.content".toList =
      resolvePath chatLengths "messages.-1.content".toList := by
  have noRoot : chatLengths [] = none := by decide
  have clear : Unclobbered chatLengths "messages.-1.content".toList ∧
      AllLookedUp chatLengths "messages.-1.content".toList
        (cut '.' "messages.-1.content".toList).1 (cut '.' "messages.-1.content".toList).2 :=
    @single_index_clear chatLengths "messages".toList "-1".toList [] ["content".toList] (by decide)
      (by decide) (by decide) (by decide) (by decide) (by decide)
  exact (negative_index_resolved_iff noRoot _ clear.1).mpr clear.2

/-- The second index is looked up in the array of the first, and one that differs from
the first is not resolved. -/
theorem second_index_unresolved :
    processNegativeIndex chatLengths "messages.-1.content.-1".toList ≠
        resolvePath chatLengths "messages.-1.content.-1".toList ∧
      processNegativeIndex chatLengths "messages.-1.content.-2".toList ≠
        resolvePath chatLengths "messages.-1.content.-2".toList := by
  constructor
  · decide
  · decide

end NewApi.NegativeIndex
