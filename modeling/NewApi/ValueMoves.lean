import Mathlib.Algebra.Group.Nat.Defs
import NewApi.ParamOverride
import NewApi.TreePlaces
import NewApi.TreePruning

/-! The operations `copy` and `move` of a parameter override. A value is read, decoded
and set at another path, where it is encoded again; a move then deletes the path that
it was read at. The body is a tree whose objects have no order and no two members of
one name. -/
namespace NewApi.ValueMoves
open NewApi.JsonTree NewApi.TreePlaces NewApi.TreePruning
open NewApi.ParamOverride (Library atoi metaCharacters indexedPath)

/-! ## Values -/

/-- What a value goes through. `gjson.Result.Value` parses the text of a number as a
float64. `sjson.Set` formats a number that is the value, and `json.Marshal` writes the
numbers in an array or an object, or refuses them. The library sets a value as it is
written. -/
structure Conversion (Number : Type) where
  library : Library
  parse : String → Number
  format : Number → String
  marshal : Number → Option String

section Code
variable {Number : Type} (conversion : Conversion Number)

/-- `json.Marshal` of the decoded value. -/
def marshalled (node : Json) : Except String Json :=
  match decoded (fun text => conversion.marshal (conversion.parse text)) node with
  | none => .error "json: unsupported value"
  | some made => .ok made

/-- What `sjson.Set` writes for the decoded value. -/
def written (node : Json) : Except String Json :=
  match node with
  | .number text => .ok (.number (conversion.format (conversion.parse text)))
  | node => marshalled conversion node

/-- `sjson.Set` of `gjson.Result.Value`. -/
def setDecoded (doc : Json) (path : String) (sourceValue : Json) : Except String Json :=
  match written conversion sourceValue with
  | .error message => .error message
  | .ok value => conversion.library.set doc path value

/-! ## The operations -/

/-- `relay/common/override.go::moveValue`. -/
def moveValue (doc : Json) (fromPath toPath : String) : Except String Json :=
  match conversion.library.get doc fromPath with
  | none => .error ("source path does not exist: " ++ fromPath)
  | some sourceValue =>
    match setDecoded conversion doc toPath sourceValue with
    | .error message => .error message
    | .ok result => conversion.library.delete result fromPath

/-- `relay/common/override.go::copyValue`. -/
def copyValue (doc : Json) (fromPath toPath : String) : Except String Json :=
  match conversion.library.get doc fromPath with
  | none => .error ("source path does not exist: " ++ fromPath)
  | some sourceValue => setDecoded conversion doc toPath sourceValue

/-- The case `move` of `applyOperations`. -/
def applyMove (doc : Json) (from_ to_ : String) : Except String Json :=
  let opFrom := indexedPath conversion.library doc from_
  let opTo := indexedPath conversion.library doc to_
  match moveValue conversion doc opFrom opTo with
  | .ok result => .ok result
  | .error message => .error ("operation move failed: " ++ message)

/-- The case `copy` of `applyOperations`. -/
def applyCopy (doc : Json) (from_ to_ : String) : Except String Json :=
  if from_ = "" || to_ = "" then .error "copy from/to is required"
  else
    let opFrom := indexedPath conversion.library doc from_
    let opTo := indexedPath conversion.library doc to_
    match copyValue conversion doc opFrom opTo with
    | .ok result => .ok result
    | .error message => .error ("operation copy failed: " ++ message)

end Code

/-! ## Paths -/

def pathNames (read : List Char) : List Char → Option (List String)
  | [] => some [String.ofList read]
  | '\\' :: char :: rest =>
    if char ∈ metaCharacters then pathNames (read ++ [char]) rest else none
  | char :: rest =>
    if char = '.' then (pathNames [] rest).map (String.ofList read :: ·)
    else if char ∈ metaCharacters then none
    else pathNames (read ++ [char]) rest

def isConcreteName (name : String) : Bool :=
  name ≠ "" && name.toList.head? ≠ some ':' && (atoi name).all fun index => name = index.toNat.repr

def concretePath (path : String) : Option (List String) :=
  (pathNames [] path.toList).filter (·.all isConcreteName)

/-- `gjson` reads what a concrete path leads to; `sjson` sets a value there, makes what
is missing on the way and refuses a name in an array, and deletes what is there. -/
structure Documented (library : Library) : Prop where
  get : ∀ {text : String} {path : List String} {doc : Json}, concretePath text = some path →
    Clear path doc → library.get doc text = getAt path doc
  set : ∀ {text : String} {path : List String} {doc : Json} (value : Json),
    concretePath text = some path → Clear path doc →
      (library.set doc text value).toOption = setAt path value doc
  delete : ∀ {text : String} {path : List String} {doc : Json}, concretePath text = some path →
    Clear path doc → library.delete doc text = .ok (editAt .delete path doc)

/-! ## What is asked of them -/

section Asked
variable {Number : Type} (conversion : Conversion Number)

def CopyPreserves (doc : Json) (fromPath toPath : String) (target : List String) (value : Json) :
    Prop :=
  match copyValue conversion doc fromPath toPath with
  | .error _ => ¬ Settable target doc
  | .ok result => Placed target value doc result

def MovePreserves (doc : Json) (fromPath toPath : String) (source target place : List String)
    (value : Json) : Prop :=
  match moveValue conversion doc fromPath toPath with
  | .error _ => ¬ Settable target doc
  | .ok result =>
    if source = target then result = doc
    else Placed place value (editAt .delete source doc) result

def Survives : Json → Prop
  | .number text => conversion.format (conversion.parse text) = text
  | node => ∀ text ∈ numbers node, conversion.marshal (conversion.parse text) = some text

def AlreadyThere (doc : Json) (source target : List String) (value : Json) : Prop :=
  getAt target (editAt .delete source doc) = some value ∧
    ∃ made, written conversion value = .ok made ∧
      getAt (follow source doc target) (editAt .delete source doc) = some made

end Asked

section Moves
variable {Number : Type} {conversion : Conversion Number} {doc value made : Json}
  {fromPath toPath : String} {source target : List String}

theorem marshalled_same_iff (node : Json) : marshalled conversion node = .ok node ↔
    ∀ text ∈ numbers node, conversion.marshal (conversion.parse text) = some text := by
  rw [← decoded_same_iff, marshalled]
  cases decoded (fun text => conversion.marshal (conversion.parse text)) node <;> simp

theorem written_same_iff (node : Json) : written conversion node = .ok node ↔ Survives conversion node := by
  cases node with
  | number text => simp [written, Survives]
  | null => exact marshalled_same_iff .null
  | bool value => exact marshalled_same_iff (.bool value)
  | string value => exact marshalled_same_iff (.string value)
  | array items => exact marshalled_same_iff (.array items)
  | object members => exact marshalled_same_iff (.object members)

theorem set_decoded_cases (documented : Documented conversion.library)
    (toNames : concretePath toPath = some target) (clear : Clear target doc) (value : Json) :
    (∃ message, setDecoded conversion doc toPath value = .error message ∧
        (Settable target doc → ∀ made, written conversion value ≠ .ok made)) ∨
      ∃ made result, written conversion value = .ok made ∧
        setDecoded conversion doc toPath value = .ok result ∧
        setAt target made doc = some result := by
  cases wrote : written conversion value with
  | error message =>
    refine .inl ⟨message, by rw [setDecoded, wrote], fun _ made same => ?_⟩
    cases same
  | ok made =>
    have stored := documented.set made toNames clear
    have called : setDecoded conversion doc toPath value = conversion.library.set doc toPath made := by
      rw [setDecoded, wrote]
    rw [called]
    cases outcome : conversion.library.set doc toPath made with
    | error message =>
      rw [outcome] at stored
      refine .inl ⟨message, rfl, fun settable => ?_⟩
      obtain ⟨result, set_⟩ := (settable_iff target made doc).mp settable
      rw [set_] at stored
      cases stored
    | ok result =>
      rw [outcome] at stored
      exact .inr ⟨made, result, rfl, rfl, stored.symm⟩

theorem placed_where_set_iff
    (wrote : written conversion value = .ok made) (stored : setAt place made base = some result) :
    Placed place value base result ↔ Survives conversion value := by
  rw [← written_same_iff, wrote]
  constructor
  · intro placed
    have same := placed.found
    rw [(set_placed stored).found] at same
    rw [Option.some.inj same]
  · intro same
    cases same
    exact set_placed stored

theorem copy_preserves_iff (documented : Documented conversion.library) (distinct : doc.Distinct)
    (fromNames : concretePath fromPath = some source)
    (toNames : concretePath toPath = some target) (held : getAt source doc = some value) :
    CopyPreserves conversion doc fromPath toPath target value ↔
      (Settable target doc → Survives conversion value) := by
  have read := (documented.get fromNames (distinct_clear distinct source)).trans held
  have called : copyValue conversion doc fromPath toPath =
      setDecoded conversion doc toPath value := by
    rw [copyValue, read]
  rw [CopyPreserves, called]
  rcases set_decoded_cases documented toNames (distinct_clear distinct target) value with
    ⟨message, failed, never⟩ | ⟨made, result, wrote, came, stored⟩
  · rw [failed]
    exact ⟨fun none_ settable => absurd settable none_, fun survives settable =>
      never settable value ((written_same_iff value).mpr (survives settable))⟩
  · have settable := (settable_iff target made doc).mpr ⟨result, stored⟩
    rw [came]
    exact (placed_where_set_iff wrote stored).trans ⟨fun survives _ => survives,
      fun survives => survives settable⟩

theorem move_cases (documented : Documented conversion.library) (distinct : doc.Distinct)
    (fromNames : concretePath fromPath = some source)
    (toNames : concretePath toPath = some target) (held : getAt source doc = some value)
    (apart : source <+: target ∨ target <+: source → source = target) :
    (∃ message, moveValue conversion doc fromPath toPath = .error message ∧
        (Settable target doc → ∀ made, written conversion value ≠ .ok made)) ∨
      ∃ made result, written conversion value = .ok made ∧
        moveValue conversion doc fromPath toPath = .ok (editAt .delete source result) ∧
        setAt target made doc = some result := by
  have read := (documented.get fromNames (distinct_clear distinct source)).trans held
  rw [moveValue, read]
  rcases set_decoded_cases documented toNames (distinct_clear distinct target) value with
    ⟨message, failed, never⟩ | ⟨made, result, wrote, came, stored⟩
  · exact .inl ⟨message, by simp only [failed], never⟩
  · have clear : Clear source result :=
      clear_set (fun above => (apart (.inr above)).symm) (distinct_clear distinct source) stored
    refine .inr ⟨made, result, wrote, ?_, stored⟩
    simp only [came, documented.delete fromNames clear]

theorem path_names_deep {read chars : List Char} {names : List String}
    (named : pathNames read chars = some names) : names ≠ [] := by
  fun_induction pathNames read chars generalizing names with
  | case1 read =>
    cases named
    exact List.cons_ne_nil _ _
  | case2 read char rest meaning ih => exact ih named
  | case3 => cases named
  | case4 read rest _ ih =>
    obtain ⟨behind, _, rfl⟩ := Option.map_eq_some_iff.mp named
    exact List.cons_ne_nil _ _
  | case5 => cases named
  | case6 read char rest _ _ _ ih => exact ih named

theorem concrete_path_deep
    (named : concretePath text = some path) : path ≠ [] :=
  path_names_deep (Option.filter_eq_some_iff.mp named).1

theorem moved_onto_itself (documented : Documented conversion.library) (distinct : doc.Distinct)
    (fromNames : concretePath fromPath = some source)
    (toNames : concretePath toPath = some source) (held : getAt source doc = some value)
    (place : List String) :
    ¬ MovePreserves conversion doc fromPath toPath source source place value := by
  have there : (getAt source doc).isSome := by rw [held]; rfl
  have deep := concrete_path_deep fromNames
  rw [MovePreserves]
  rcases move_cases documented distinct fromNames toNames held (fun _ => rfl) with
    ⟨message, failed, _⟩ | ⟨made, result, _, came, stored⟩
  · rw [failed]
    exact fun none_ => none_ (settable_there there)
  · rw [came]
    simp only [if_true, delete_set there deep stored]
    exact delete_changes there deep

theorem move_apart (documented : Documented conversion.library) (distinct : doc.Distinct)
    (fromNames : concretePath fromPath = some source)
    (toNames : concretePath toPath = some target) (held : getAt source doc = some value)
    (apart : source <+: target ∨ target <+: source → source = target) (differs : source ≠ target)
    (place : List String) :
    (∃ made result, written conversion value = .ok made ∧ Settable target doc ∧
        setAt (follow source doc target) made (editAt .delete source doc) = some result ∧
        (MovePreserves conversion doc fromPath toPath source target place value ↔
          Placed place value (editAt .delete source doc) result)) ∨
      (MovePreserves conversion doc fromPath toPath source target place value ↔
          ¬ Settable target doc) ∧
        (Settable target doc → ∀ made, written conversion value ≠ .ok made) := by
  have there : (getAt source doc).isSome := by rw [held]; rfl
  have above : ¬ source <+: target := fun above => differs (apart (.inl above))
  have away : ¬ target <+: source := fun above => differs (apart (.inr above))
  rw [MovePreserves]
  rcases move_cases documented distinct fromNames toNames held apart with
    ⟨message, failed, never⟩ | ⟨made, result, wrote, came, stored⟩
  · rw [failed]
    exact .inr ⟨Iff.rfl, never⟩
  · rw [came]
    simp only [if_neg differs]
    exact .inl ⟨made, _, wrote, (settable_iff target made doc).mpr ⟨result, stored⟩,
      set_deleted there above away stored, Iff.rfl⟩

theorem move_preserves_iff (documented : Documented conversion.library) (distinct : doc.Distinct)
    (fromNames : concretePath fromPath = some source)
    (toNames : concretePath toPath = some target) (held : getAt source doc = some value)
    (apart : source <+: target ∨ target <+: source → source = target) :
    MovePreserves conversion doc fromPath toPath source target (follow source doc target) value ↔
      (Settable target doc → source ≠ target ∧ Survives conversion value) := by
  by_cases differs : source = target
  · subst differs
    have settable : Settable source doc := settable_there (by rw [held]; rfl)
    exact iff_of_false (moved_onto_itself documented distinct fromNames toNames held _)
      fun asked => (asked settable).1 rfl
  · rcases move_apart documented distinct fromNames toNames held apart differs
      (follow source doc target) with ⟨made, result, wrote, settable, stored, same⟩ | ⟨same, never⟩
    · rw [same, placed_where_set_iff wrote stored]
      exact ⟨fun survives _ => ⟨differs, survives⟩, fun asked => (asked settable).2⟩
    · rw [same]
      exact ⟨fun none_ settable => absurd settable none_, fun asked settable =>
        never settable value ((written_same_iff value).mpr (asked settable).2)⟩

theorem move_preserves_at_target_iff (documented : Documented conversion.library)
    (distinct : doc.Distinct) (fromNames : concretePath fromPath = some source)
    (toNames : concretePath toPath = some target) (held : getAt source doc = some value)
    (apart : source <+: target ∨ target <+: source → source = target) :
    MovePreserves conversion doc fromPath toPath source target target value ↔
      (Settable target doc → source ≠ target ∧
        (follow source doc target = target ∧ Survives conversion value ∨
          AlreadyThere conversion doc source target value)) := by
  by_cases differs : source = target
  · subst differs
    have settable : Settable source doc := settable_there (by rw [held]; rfl)
    exact iff_of_false (moved_onto_itself documented distinct fromNames toNames held _)
      fun asked => (asked settable).1 rfl
  · rcases move_apart documented distinct fromNames toNames held apart differs target with
      ⟨made, result, wrote, settable, stored, same⟩ | ⟨same, never⟩
    · have there : (getAt source doc).isSome := by rw [held]; rfl
      have already : AlreadyThere conversion doc source target value ↔
          getAt target (editAt .delete source doc) = some value ∧
            getAt (follow source doc target) (editAt .delete source doc) = some made := by
        rw [AlreadyThere, wrote]
        simp
      have placed : Placed target value (editAt .delete source doc) result ↔
          follow source doc target = target ∧ Survives conversion value ∨
            AlreadyThere conversion doc source target value := by
        rw [already]
        rcases follow_cases there (concrete_path_deep fromNames) target with still | ahead
        · rw [still] at stored ⊢
          rw [placed_where_set_iff wrote stored, ← written_same_iff, wrote]
          refine ⟨fun survives => .inl ⟨rfl, survives⟩, ?_⟩
          rintro (⟨_, survives⟩ | ⟨first, second⟩)
          · exact survives
          · rw [Option.some.inj (second.symm.trans first)]
        · have moved : follow source doc target ≠ target := fun still =>
            ahead.apart.1 (List.prefix_iff_eq_append.mpr (by simp [still]))
          have clear : Clear (follow source doc target) (editAt .delete source doc) :=
            distinct_clear (delete_distinct distinct source) _
          exact (placed_ahead_iff ahead clear stored).trans (by simp only [moved, false_and, false_or])
      rw [same, placed]
      exact ⟨fun right _ => ⟨differs, right⟩, fun asked => (asked settable).2⟩
    · rw [same]
      refine ⟨fun none_ settable => absurd settable none_, fun asked settable => ?_⟩
      rcases (asked settable).2 with ⟨_, survives⟩ | ⟨_, made, wrote, _⟩
      · exact never settable value ((written_same_iff value).mpr survives)
      · exact never settable made wrote

/-- A copy preserves the value and the document when its numbers survive; so does a
move, if it is not onto itself, at the place that the target has become; and at the
target itself when that has not moved, unless nothing is left to be done there. -/
theorem copy_and_move_preserve_iff (documented : Documented conversion.library)
    (distinct : doc.Distinct) (fromNames : concretePath fromPath = some source)
    (toNames : concretePath toPath = some target) (held : getAt source doc = some value)
    (apart : source <+: target ∨ target <+: source → source = target) :
    (CopyPreserves conversion doc fromPath toPath target value ↔
        (Settable target doc → Survives conversion value)) ∧
      (MovePreserves conversion doc fromPath toPath source target (follow source doc target) value ↔
        (Settable target doc → source ≠ target ∧ Survives conversion value)) ∧
      (MovePreserves conversion doc fromPath toPath source target target value ↔
        (Settable target doc → source ≠ target ∧
          (follow source doc target = target ∧ Survives conversion value ∨
            AlreadyThere conversion doc source target value))) :=
  ⟨copy_preserves_iff documented distinct fromNames toNames held,
    move_preserves_iff documented distinct fromNames toNames held apart,
    move_preserves_at_target_iff documented distinct fromNames toNames held apart⟩

/-- The operations of an override are these functions at the paths as their indices
resolve, so what is said of the functions is said of the operations. -/
theorem operations_run (filled : from_ ≠ "" ∧ to_ ≠ "") :
    let opFrom := indexedPath conversion.library doc from_
    let opTo := indexedPath conversion.library doc to_
    (applyCopy conversion doc from_ to_).toOption = (copyValue conversion doc opFrom opTo).toOption ∧
      (applyMove conversion doc from_ to_).toOption = (moveValue conversion doc opFrom opTo).toOption := by
  intro opFrom opTo
  constructor
  · rw [applyCopy, if_neg (by simp [filled])]
    change Except.toOption (match copyValue conversion doc opFrom opTo with
      | .ok result => .ok result
      | .error message => .error ("operation copy failed: " ++ message)) = _
    cases copyValue conversion doc opFrom opTo <;> rfl
  · change Except.toOption (match moveValue conversion doc opFrom opTo with
      | .ok result => .ok result
      | .error message => .error ("operation move failed: " ++ message)) = _
    cases moveValue conversion doc opFrom opTo <;> rfl

end Moves

/-! ## A library of trees and of natural numbers -/

def pathLibrary : Library where
  get doc path := (concretePath path).bind (getAt · doc)
  set doc path value :=
    match (concretePath path).bind (setAt · value doc) with
    | none => .error "cannot set"
    | some result => .ok result
  delete doc path :=
    match concretePath path with
    | none => .error "cannot delete"
    | some names => .ok (editAt .delete names doc)
  sprint _ := ""
  encode value := value
  toLower text := text
  toUpper text := text
  compile pattern := .error pattern
  prune _ := .ok .ok

theorem path_library_documented : Documented pathLibrary where
  get named _ := by simp only [pathLibrary, named, Option.bind_some]
  set value named _ := by
    simp only [pathLibrary, named, Option.bind_some]
    split
    case h_1 refused => exact refused.symm
    case h_2 stored => exact stored.symm
  delete named _ := by simp only [pathLibrary, named]

def nearest (number : Nat) : Nat :=
  let unit := 2 ^ (number.log2 + 1 - 53)
  let above := number / unit
  let rest := number % unit
  if unit < 2 * rest || (unit = 2 * rest && above % 2 = 1) then (above + 1) * unit
  else above * unit

def naturalConversion : Conversion Nat where
  library := pathLibrary
  parse text := nearest (Nat.ofDigitChars 10 text.toList 0)
  format number := number.repr
  marshal number := some number.repr

def modelBody : Json :=
  .object [("model", .string "gpt-4"), ("meta", .object [("x", .number "1")])]

def seedBody : Json := .object [("seed", .number "9007199254740993")]

def listBody : Json := .object [("stop", .array [.string "a", .string "b", .string "c"])]

theorem model_body_distinct : modelBody.Distinct := by
  refine .node _ (by decide) fun entry member => ?_
  rcases List.mem_cons.mp member with rfl | member
  · exact .node _ List.nodup_nil fun _ none_ => by cases none_
  · rw [List.mem_singleton.mp member]
    refine .node _ (by decide) fun entry member => ?_
    rw [List.mem_singleton.mp member]
    exact .node _ List.nodup_nil fun _ none_ => by cases none_

theorem model_preserved :
    CopyPreserves naturalConversion modelBody "model" "meta.model" ["meta", "model"]
        (.string "gpt-4") ∧
      MovePreserves naturalConversion modelBody "model" "meta.model" ["model"] ["meta", "model"]
        ["meta", "model"] (.string "gpt-4") := by
  have survives : Survives naturalConversion (.string "gpt-4") := nofun
  have documented : Documented naturalConversion.library := path_library_documented
  have both := copy_and_move_preserve_iff documented model_body_distinct
    (show concretePath "model" = some ["model"] by decide)
    (show concretePath "meta.model" = some ["meta", "model"] by decide)
    (show getAt ["model"] modelBody = some (.string "gpt-4") from rfl) (by decide)
  exact ⟨both.1.mpr fun _ => survives, both.2.2.mpr fun _ => ⟨by decide, .inl ⟨by decide, survives⟩⟩⟩

/-- A copied seed becomes another number; a model that is moved onto itself is gone; and
the first item of a list that is moved to the second is the first one still, where the
second has been. -/
theorem values_lost :
    copyValue naturalConversion seedBody "seed" "sent" =
        .ok (.object [("seed", .number "9007199254740993"), ("sent", .number "9007199254740992")]) ∧
      ¬ CopyPreserves naturalConversion seedBody "seed" "sent" ["sent"] (.number "9007199254740993") ∧
      moveValue naturalConversion modelBody "model" "model" =
        .ok (.object [("meta", .object [("x", .number "1")])]) ∧
      ¬ MovePreserves naturalConversion modelBody "model" "model" ["model"] ["model"] ["model"]
        (.string "gpt-4") ∧
      moveValue naturalConversion listBody "stop.0" "stop.1" =
        .ok (.object [("stop", .array [.string "a", .string "c"])]) ∧
      ¬ MovePreserves naturalConversion listBody "stop.0" "stop.1" ["stop", "0"] ["stop", "1"]
        ["stop", "1"] (.string "a") := by
  have copied : copyValue naturalConversion seedBody "seed" "sent" =
      .ok (.object [("seed", .number "9007199254740993"), ("sent", .number "9007199254740992")]) :=
    rfl
  have deleted : moveValue naturalConversion modelBody "model" "model" =
      .ok (.object [("meta", .object [("x", .number "1")])]) := rfl
  have shifted : moveValue naturalConversion listBody "stop.0" "stop.1" =
      .ok (.object [("stop", .array [.string "a", .string "c"])]) := rfl
  refine ⟨copied, ?_, deleted, ?_, shifted, ?_⟩
  · intro preserves
    rw [CopyPreserves, copied] at preserves
    exact absurd (Json.number.inj (Option.some.inj preserves.found)) (by decide)
  · intro preserves
    rw [MovePreserves, deleted] at preserves
    have read : none = some (Json.string "gpt-4") := congrArg (getAt ["model"]) preserves
    cases read
  · intro preserves
    rw [MovePreserves, shifted] at preserves
    exact absurd (Json.string.inj (Option.some.inj preserves.found)) (by decide)

end NewApi.ValueMoves
