import NewApi.ParamOverride
import NewApi.TreePruning

/-! The operation `prune_objects`: what its value asks for, how an object of the
body is judged, and what it leaves of a body when it asks for the objects of one
type. The body is a tree whose objects have no order and no two members of one
name; a number is given by one text for all of its notations. -/
namespace NewApi.PruneObjects
open NewApi.JsonTree
open NewApi.TreePruning
open NewApi.ParamOverride (Library)

/-! ## Conditions -/

/-- `relay/common/override.go::ConditionOperation`. -/
structure ConditionOperation where
  path : String
  mode : String
  value : Json := .null
  invert : Bool := false
  passMissingKey : Bool := false

/-- What the evaluation of a condition calls besides the library of the operations:
a number that is decoded to a float64 and encoded again, or nothing when it is too
large; `gjson.Result.String`; and the order of the numbers. -/
structure Evaluation where
  library : Library
  float : String → Option String
  resultString : Json → String
  less : String → String → Bool

/-- The name of `gjson.Result.Type`. -/
def typeName : Json → String
  | .null => "Null"
  | .bool true => "True"
  | .bool false => "False"
  | .number _ => "Number"
  | .string _ => "String"
  | .array _ | .object _ => "JSON"

mutual

/-- Two values are equal. Of arrays and objects the code compares the texts that
`json.Marshal` has written, where the members of an object are sorted. -/
def sameJson : Json → Json → Bool
  | .null, .null => true
  | .bool first, .bool second => first == second
  | .number first, .number second => first == second
  | .string first, .string second => first == second
  | .array first, .array second => sameItems first second
  | .object first, .object second => first.length == second.length && sameMembers first second
  | _, _ => false

def sameItems : List Json → List Json → Bool
  | [], [] => true
  | item :: rest, other :: others => sameJson item other && sameItems rest others
  | _, _ => false

def sameMembers : Members → Members → Bool
  | [], _ => true
  | (key, child) :: rest, others =>
    (match others.lookup key with
    | some other => sameJson child other
    | none => false) && sameMembers rest others

end

def differentTypes (first second : Json) : String :=
  "compare for different types, got " ++ typeName first ++ " and " ++ typeName second

/-- `relay/common/override.go::compareEqual`. -/
def compareEqual (float : String → Option String) : Json → Json → Except String Bool
  | .null, .null => .ok true
  | .null, _ => .ok false
  | _, .null => .ok false
  | .bool first, .bool second => .ok (first == second)
  | .number first, .number second => .ok (float first == float second)
  | first, second =>
    if typeName first = typeName second then .ok (sameJson first second)
    else .error (differentTypes first second)

/-- `relay/common/override.go::compareNumeric`. -/
def compareNumeric (evaluation : Evaluation) (jsonValue targetValue : Json) (operator : String) :
    Except String Bool :=
  match jsonValue, targetValue with
  | .number jsonNum, .number targetNum =>
    if operator = "gt" then .ok (evaluation.less targetNum jsonNum)
    else if operator = "gte" then .ok (!evaluation.less jsonNum targetNum)
    else if operator = "lt" then .ok (evaluation.less jsonNum targetNum)
    else if operator = "lte" then .ok (!evaluation.less targetNum jsonNum)
    else .error ("unsupported numeric operator: " ++ operator)
  | _, _ => .error ("numeric comparison requires both values to be numbers, got " ++
      typeName jsonValue ++ " and " ++ typeName targetValue)

/-- `relay/common/override.go::compareGjsonValues`. -/
def compareGjsonValues (evaluation : Evaluation) (jsonValue targetValue : Json) (mode : String) :
    Except String Bool :=
  let jsonText := evaluation.resultString jsonValue
  let targetText := evaluation.resultString targetValue
  if mode = "full" then compareEqual evaluation.float jsonValue targetValue
  else if mode = "prefix" then .ok (GoText.hasPrefix jsonText targetText)
  else if mode = "suffix" then .ok (GoText.hasSuffix jsonText targetText)
  else if mode = "contains" then .ok (decide (targetText.toList <:+: jsonText.toList))
  else if mode = "gt" || mode = "gte" || mode = "lt" || mode = "lte" then
    compareNumeric evaluation jsonValue targetValue mode
  else .error ("unsupported comparison mode: " ++ mode)

/-- `relay/common/override.go::checkSingleCondition`; there may be no context. -/
def checkSingleCondition (evaluation : Evaluation) (doc : Json) (contextJSON : Option Json)
    (condition : ConditionOperation) : Except String Bool :=
  let path := ParamOverride.indexedPath evaluation.library doc condition.path
  let value := (evaluation.library.get doc path).or
    (contextJSON.bind fun context => evaluation.library.get context condition.path)
  match value with
  | none => .ok condition.passMissingKey
  | some value =>
    match compareGjsonValues evaluation value condition.value
        (evaluation.library.toLower condition.mode) with
    | .error message =>
      .error ("comparison failed for path " ++ condition.path ++ ": " ++ message)
    | .ok result => .ok (if condition.invert then !result else result)

/-- `relay/common/override.go::checkConditions`. -/
def checkConditions (evaluation : Evaluation) (doc : Json) (contextJSON : Option Json)
    (conditions : List ConditionOperation) (logic : String) : Except String Bool :=
  if conditions.isEmpty then .ok true
  else match conditions.mapM (checkSingleCondition evaluation doc contextJSON) with
  | .error message => .error message
  | .ok results =>
    if evaluation.library.toUpper logic = "AND" then .ok (results.all id)
    else .ok (results.any id)

/-! ## Options -/

/-- `relay/common/override.go::pruneObjectsOptions`. -/
structure PruneObjectsOptions where
  conditions : List ConditionOperation := []
  logic : String := "AND"
  recursive : Bool := true

def stringMember (members : Members) (key : String) : Option String :=
  match members.lookup key with
  | some (.string value) => some value
  | _ => none

def boolMember (members : Members) (key : String) : Option Bool :=
  match members.lookup key with
  | some (.bool value) => some value
  | _ => none

def equalities (members : Members) : List ConditionOperation :=
  members.filterMap fun entry =>
    let path := GoText.trimSpace entry.1
    if path = "" then none else some { path, mode := "full", value := entry.2 }

def parseCondition : Json → Except String ConditionOperation
  | .object item =>
    let path := (stringMember item "path").getD ""
    let mode := (stringMember item "mode").getD ""
    if GoText.trimSpace path = "" || GoText.trimSpace mode = "" then
      .error "condition path/mode is required"
    else .ok {
      path, mode
      value := (item.lookup "value").getD .null
      invert := (boolMember item "invert").getD false
      passMissingKey := (boolMember item "pass_missing_key").getD false }
  | _ => .error "condition must be object"

/-- `relay/common/override.go::parseConditionOperations`. -/
def parseConditionOperations : Json → Except String (List ConditionOperation)
  | .object members =>
    if (equalities members).isEmpty then
      .error "conditions object must contain at least one key"
    else .ok (equalities members)
  | .array items => items.mapM parseCondition
  | _ => .error "conditions must be an array or object"

def typeCondition (matchType : Json) : ConditionOperation where
  path := "type"
  mode := "full"
  value := matchType

/-- The conditions under `where`. -/
def parseWhere (members : Members) : Except String (List ConditionOperation) :=
  match members.lookup "where" with
  | none => .ok []
  | some (.object where_) => .ok (equalities where_)
  | some _ => .error "prune_objects where must be object"

/-- `relay/common/override.go::parsePruneObjectsOptions`. -/
def parsePruneObjectsOptions : Json → Except String PruneObjectsOptions
  | .null => .error "prune_objects value is required"
  | .string raw =>
    let v := GoText.trimSpace raw
    if v = "" then .error "prune_objects value is required"
    else .ok { conditions := [typeCondition (.string v)] }
  | .object raw =>
    let given := (stringMember raw "logic").getD ""
    let logic := if GoText.trimSpace given = "" then "AND" else given
    let recursive := (boolMember raw "recursive").getD true
    let listed := match raw.lookup "conditions" with
      | some conditions => parseConditionOperations conditions
      | none => .ok []
    match listed with
    | .error message => .error message
    | .ok listed =>
      match parseWhere raw with
      | .error message => .error message
      | .ok wheres =>
        let conditions := listed ++ wheres ++ ((raw.lookup "type").map typeCondition).toList
        if conditions.isEmpty then .error "prune_objects conditions are required"
        else .ok { conditions, logic, recursive }
  | _ => .error "prune_objects value must be string or object"

/-! ## Pruning -/

/-- `relay/common/override.go::shouldPruneObject`. -/
def shouldPruneObject (evaluation : Evaluation) (options : PruneObjectsOptions)
    (contextJSON : Option Json) (node : Members) : Except String Bool :=
  checkConditions evaluation (.object node) contextJSON options.conditions options.logic

/-- `relay/common/override.go::pruneObjectsNode`. -/
def pruneObjectsNode (evaluation : Evaluation) (options : PruneObjectsOptions)
    (contextJSON : Option Json) (isRoot : Bool) (node : Json) : Except String (Option Json) :=
  prune (shouldPruneObject evaluation options contextJSON) options.recursive isRoot node

def cleanNode (evaluation : Evaluation) (contextJSON : Option Json) (options : PruneObjectsOptions)
    (doc : Json) : Except String Json :=
  match decoded evaluation.float doc with
  | none => .error "json: cannot unmarshal number into Go value of type float64"
  | some root =>
    match pruneObjectsNode evaluation options contextJSON true root with
    | .error message => .error message
    | .ok cleaned => .ok (cleaned.getD .null)

def pruneLibrary (evaluation : Evaluation) (contextJSON : Option Json) : Library :=
  { evaluation.library with
    prune := fun value =>
      (parsePruneObjectsOptions value).map (cleanNode evaluation contextJSON) }

/-- `relay/common/override.go::pruneObjects`. -/
def pruneObjects (evaluation : Evaluation) (contextJSON : Option Json) (doc : Json) (path : String)
    (value : Json) : Except String Json :=
  ParamOverride.pruneObjects (pruneLibrary evaluation contextJSON) doc path value

/-! ## The objects of one type -/

/-- An object whose own `type` is `v`. -/
def hasType (v : Json) (node : Members) : Bool :=
  match node.lookup "type" with
  | some found => sameJson found v
  | none => false

/-- The value asks for the objects of type `v`: as a text, or as an object with the
member `type`, a condition or a member of `where` on it. -/
def AsksForType (value v : Json) : Prop :=
  ∃ options, parsePruneObjectsOptions value = .ok options ∧ options.recursive = true ∧
    options.conditions = [typeCondition v]

/-- The operation succeeds and takes out the objects of type `v` below the root and
nothing else; then none is left, and a second time nothing changes. -/
def PrunesTypes (evaluation : Evaluation) (contextJSON : Option Json) (value v doc : Json) : Prop :=
  ∃ result, pruneObjects evaluation contextJSON doc "" value = .ok result ∧
    result = without (hasType v) doc ∧
    (∀ members, Below (.object members) result → hasType v members = false) ∧
    pruneObjects evaluation contextJSON result "" value = .ok result

/-- How an object is judged: by its own `type`, or by what the context has for it,
compared with `v`. -/
def typeTest (float : String → Option String) (v : Json) (context : Option Json) (node : Members) :
    Except String Bool :=
  match (node.lookup "type").or context with
  | none => .ok false
  | some found =>
    match compareEqual float found v with
    | .error message => .error ("comparison failed for path type: " ++ message)
    | .ok result => .ok result

/-- The objects that are met in the body are judged by their own `type`, and so are
those of the body that should be left; and the numbers survive the decoding. -/
structure Settled (float : String → Option String) (v : Json) (context : Option Json)
    (doc : Json) : Prop where
  met : Met (typeTest float v context) float (hasType v) true doc
  left_ : Met (typeTest float v context) float (fun _ => false) true (without (hasType v) doc)

/-- `gjson.Get` reads the first member `type` of an object, and `strings.ToLower`
leaves small letters. -/
structure Evaluation.Documented (evaluation : Evaluation) : Prop where
  reads : ∀ members, evaluation.library.get (.object members) "type" = members.lookup "type"
  lower : evaluation.library.toLower "full" = "full"

section Types
variable {evaluation : Evaluation} {contextJSON context : Option Json} {v value doc : Json}
  {float : String → Option String}

theorem text_asks (raw : String) (filled : GoText.trimSpace raw ≠ "") :
    AsksForType (.string raw) (.string (GoText.trimSpace raw)) :=
  ⟨_, if_neg filled, rfl, rfl⟩

def contextType (evaluation : Evaluation) (contextJSON : Option Json) : Option Json :=
  contextJSON.bind fun context => evaluation.library.get context "type"

theorem should_prune_eq (documented : evaluation.Documented)
    (single : options.conditions = [typeCondition v]) :
    shouldPruneObject evaluation options contextJSON =
      typeTest evaluation.float v (contextType evaluation contextJSON) := by
  funext node
  have path : ParamOverride.indexedPath evaluation.library (.object node) "type" = "type" := rfl
  have checked : checkSingleCondition evaluation (.object node) contextJSON (typeCondition v) =
      typeTest evaluation.float v (contextType evaluation contextJSON) node := by
    rw [checkSingleCondition, typeTest]
    dsimp only [typeCondition]
    rw [path, documented.reads, documented.lower, contextType]
    generalize (node.lookup "type").or _ = value
    cases value with
    | none => rfl
    | some value =>
      dsimp only
      rw [compareGjsonValues, if_pos rfl]
      cases compareEqual evaluation.float value v <;> rfl
  have alone : shouldPruneObject evaluation options contextJSON node =
      match checkSingleCondition evaluation (.object node) contextJSON (typeCondition v) with
      | .error message => .error message
      | .ok result => .ok result := by
    rw [shouldPruneObject, single, checkConditions, if_neg (by exact Bool.noConfusion)]
    rw [List.mapM_cons, List.mapM_nil]
    cases checkSingleCondition evaluation (.object node) contextJSON (typeCondition v) with
    | error message => rfl
    | ok result =>
      dsimp only [bind, pure, Except.bind, Except.pure]
      simp
  rw [alone, checked]
  cases typeTest evaluation.float v (contextType evaluation contextJSON) node <;> rfl

theorem compare_same (same : sameJson first second = true) :
    compareEqual float first second = .ok true := by
  cases first <;> cases second <;> simp_all [sameJson, compareEqual, typeName]

theorem same_members_iff (members others : Members) :
    sameMembers members others = true ↔ ∀ entry ∈ members, ∃ other,
      others.lookup entry.1 = some other ∧ sameJson entry.2 other = true := by
  induction members with
  | nil => simp [sameMembers]
  | cons entry rest ih =>
    obtain ⟨key, child⟩ := entry
    rw [sameMembers, Bool.and_eq_true, ih, List.forall_mem_cons]
    refine and_congr_left fun _ => ?_
    cases others.lookup key <;> simp

theorem fixed_member (fixed : decodedMembers float others = some others)
    (found : others.lookup key = some other) :
    decoded float other = some other := by
  rw [decoded_members_eq, decode_each_iff, List.forall₂_same] at fixed
  obtain ⟨made, read, same⟩ := Option.map_eq_some_iff.1 (fixed _ (mem_of_lookup found))
  rw [read, (Prod.mk.inj same).2]

theorem same_items_decoded
    (each : ∀ item ∈ items, ∀ other node, sameJson item other = true →
      decoded float item = some node → decoded float other = some other →
      sameJson node other = true)
    (same : sameItems items others = true) (read : decodeEach (decoded float) items = some nodes)
    (fixed : ∀ other ∈ others, decoded float other = some other) :
    sameItems nodes others = true := by
  induction items generalizing others nodes with
  | nil =>
    cases read
    exact same
  | cons item rest ih =>
    obtain ⟨node, later, reads, behind, rfl⟩ := decode_each_cons.1 read
    cases others with
    | nil => cases same
    | cons other others =>
      rw [sameItems, Bool.and_eq_true] at same ⊢
      exact ⟨each item (.head _) other node same.1 reads (fixed other (.head _)),
        ih (fun item listed => each item (.tail _ listed)) same.2 behind
          fun other listed => fixed other (.tail _ listed)⟩

theorem decoded_same (same : sameJson found v = true)
    (read : decoded float found = some tree) (fixed : decoded float v = some v) :
    sameJson tree v = true := by
  induction found using json_induction generalizing v tree with
  | null | bool | string =>
    cases read
    exact same
  | number text =>
    cases v with
    | number other =>
      have texts : text = other := by simpa [sameJson] using same
      subst texts
      rw [read] at fixed
      cases fixed
      simp [sameJson]
    | null | bool | string | array | object => cases same
  | array items ih =>
    cases v with
    | array others =>
      obtain ⟨nodes, reads, rfl⟩ := Option.map_eq_some_iff.1 read
      obtain ⟨others', fixed, same'⟩ := Option.map_eq_some_iff.1 fixed
      cases same'
      rw [decoded_items_eq] at reads fixed
      rw [decode_each_iff, List.forall₂_same] at fixed
      rw [sameJson] at same ⊢
      exact same_items_decoded (fun item listed other node same read fixed =>
        ih item listed same read fixed) same reads fixed
    | null | bool | number | string | object => cases same
  | object members ih =>
    cases v with
    | object others =>
      obtain ⟨nodes, reads, rfl⟩ := Option.map_eq_some_iff.1 read
      obtain ⟨others', fixed, same'⟩ := Option.map_eq_some_iff.1 fixed
      cases same'
      rw [decoded_members_eq] at reads
      rw [sameJson, Bool.and_eq_true, same_members_iff] at same ⊢
      refine ⟨by rw [← (decode_each_iff.1 reads).length_eq]; exact same.1, fun node listed => ?_⟩
      obtain ⟨entry, present, made⟩ := decode_each_mem reads listed
      obtain ⟨tree, read, rfl⟩ := Option.map_eq_some_iff.1 made
      obtain ⟨other, found, equal⟩ := same.2 entry present
      exact ⟨other, found, ih entry present equal read (fixed_member fixed found)⟩
    | null | bool | number | string | array => cases same

theorem decoded_lookup (read : decodedMembers float members = some nodes)
    (present : members.lookup key = some found) :
    ∃ tree, decoded float found = some tree ∧ nodes.lookup key = some tree := by
  rw [decoded_members_eq] at read
  induction members generalizing nodes with
  | nil => cases present
  | cons entry rest ih =>
    obtain ⟨node, later, reads, behind, rfl⟩ := decode_each_cons.1 read
    obtain ⟨tree, made, rfl⟩ := Option.map_eq_some_iff.1 reads
    obtain ⟨name, child⟩ := entry
    rw [List.lookup_cons] at present ⊢
    by_cases here : key = name
    · subst here
      rw [beq_self_eq_true] at present ⊢
      cases present
      exact ⟨tree, made, rfl⟩
    · have apart : (key == name) = false := beq_false_of_ne here
      rw [apart] at present ⊢
      exact ih behind present

theorem type_named (fixed : decoded float v = some v) :
    Names (typeTest float v context) float (hasType v) := by
  intro members nodes named read
  rw [hasType] at named
  cases present : members.lookup "type" with
  | none => rw [present] at named; cases named
  | some found =>
    rw [present] at named
    obtain ⟨tree, reads, listed⟩ := decoded_lookup read present
    rw [typeTest, listed, Option.some_or]
    dsimp only
    rw [compare_same (decoded_same named reads fixed)]

theorem prune_body_iff (documented : evaluation.Documented)
    (accepted : parsePruneObjectsOptions value = .ok options) (recursive : options.recursive = true)
    (single : options.conditions = [typeCondition v]) (doc result : Json) :
    pruneObjects evaluation contextJSON doc "" value = .ok result ↔
      ∃ tree, decoded evaluation.float doc = some tree ∧
        prune (typeTest evaluation.float v (contextType evaluation contextJSON)) true true tree =
          .ok (some result) := by
  have clean : pruneObjects evaluation contextJSON doc "" value =
      cleanNode evaluation contextJSON options doc := by
    rw [pruneObjects, ParamOverride.pruneObjects, pruneLibrary]
    dsimp only
    rw [accepted]
    exact if_pos rfl
  rw [clean, cleanNode]
  cases decoded evaluation.float doc with
  | none => simp
  | some root =>
    dsimp only
    rw [pruneObjectsNode, recursive, should_prune_eq documented single]
    cases walked : prune (typeTest evaluation.float v (contextType evaluation contextJSON)) true
      true root with
    | error message => simp [walked]
    | ok cleaned =>
      obtain ⟨cleaned, rfl⟩ := Option.ne_none_iff_exists'.1 (prune_root walked)
      simp [walked]

/-- The operation does what it is for when the objects are judged by their own type
and the numbers survive. -/
theorem prunes_types_iff (documented : evaluation.Documented) (asks : AsksForType value v)
    (fixed : decoded evaluation.float v = some v) (contextJSON : Option Json) (doc : Json) :
    PrunesTypes evaluation contextJSON value v doc ↔
      Settled evaluation.float v (contextType evaluation contextJSON) doc := by
  obtain ⟨options, accepted, recursive, single⟩ := asks
  have names : Names (typeTest evaluation.float v (contextType evaluation contextJSON))
    evaluation.float (hasType v) := type_named fixed
  have given := fun doc result =>
    @prune_body_iff evaluation contextJSON v value options documented accepted recursive single doc result
  have whole : keptAs (hasType v) true doc = some (without (hasType v) doc) := rfl
  constructor
  · rintro ⟨_, pruned, rfl, -, again⟩
    refine ⟨(walk_iff names true doc).1 ?_, (walk_same_iff true _).1 ((given _ _).1 again)⟩
    rw [whole]
    exact (given _ _).1 pruned
  · intro ⟨met, left_⟩
    have pruned := (walk_iff names true doc).2 met
    rw [whole] at pruned
    refine ⟨_, (given _ _).2 pruned, rfl, fun members below => ?_,
      (given _ _).2 ((walk_same_iff true _).2 left_)⟩
    obtain ⟨nodes, read, spared⟩ := met_below left_ below
    by_contra named
    have judged := names members nodes (by simpa using named) read
    rw [spared] at judged
    cases judged

end Types

def treeEvaluation : Evaluation where
  library := ParamOverride.treeLibrary
  float := some
  resultString := ParamOverride.treeLibrary.sprint
  less first second := first < second

theorem tree_evaluation_documented : treeEvaluation.Documented where
  reads members := by
    have plain : GoText.split '.' "type" = ["type"] := by decide
    change getAt (GoText.split '.' "type") (.object members) = members.lookup "type"
    rw [plain, getAt, Json.child, Json.entries]
    cases List.lookup "type" members <;> rfl
  lower := rfl

def twoParts : Json :=
  .array [.object [("type", .string "thinking")], .object [("type", .string "text")]]

theorem thinking_part_pruned :
    PrunesTypes treeEvaluation none (.string "thinking") (.string "thinking") twoParts := by
  have asks : AsksForType (.string "thinking") (.string "thinking") :=
    text_asks "thinking" (by decide)
  refine (prunes_types_iff tree_evaluation_documented asks rfl none twoParts).2 ⟨?_, ?_⟩
  · refine .array true (List.forall_mem_cons.2 ⟨.goes rfl rfl, List.forall_mem_singleton.2 ?_⟩)
    exact .stays (.inr rfl) rfl rfl (.inr rfl) (List.forall_mem_singleton.2 (.string false "text"))
  · refine .array true (List.forall_mem_singleton.2 ?_)
    exact .stays (.inr rfl) rfl rfl (.inr rfl) (List.forall_mem_singleton.2 (.string false "text"))

/-- A JSON schema with a property that is called `type`. -/
def typeProperty : Json :=
  .object [("properties", .object [("type", .object [("type", .string "string")])])]

/-- The schema is refused. -/
theorem type_property_refused :
    ¬ PrunesTypes treeEvaluation none (.string "thinking") (.string "thinking") typeProperty := by
  rintro ⟨result, pruned, -⟩
  have refused : pruneObjects treeEvaluation none typeProperty "" (.string "thinking") =
      .error "comparison failed for path type: compare for different types, got JSON and String" :=
    rfl
  rw [refused] at pruned
  cases pruned

end NewApi.PruneObjects
