import Mathlib.Data.List.Sort
import NewApi.GoText
import NewApi.JsonTree
import NewApi.NegativeIndex

/-! The operations of a parameter override on the paths of a request body. A
path with wildcards is expanded to the paths that it matches, and the operation
is then applied to one after the other. -/
namespace NewApi.ParamOverride
open NewApi.GoText NewApi.JsonTree

/-! ## Operations -/

/-- The modes of `isPathBasedOperation`. -/
inductive Mode where
  | delete
  | set
  | prepend
  | append
  | trimPrefix
  | trimSuffix
  | ensurePrefix
  | ensureSuffix
  | trimSpace
  | toLower
  | toUpper
  | replace
  | regexReplace
  | pruneObjects
  deriving DecidableEq, Repr

def Mode.text : Mode → String
  | .delete => "delete"
  | .set => "set"
  | .prepend => "prepend"
  | .append => "append"
  | .trimPrefix => "trim_prefix"
  | .trimSuffix => "trim_suffix"
  | .ensurePrefix => "ensure_prefix"
  | .ensureSuffix => "ensure_suffix"
  | .trimSpace => "trim_space"
  | .toLower => "to_lower"
  | .toUpper => "to_upper"
  | .replace => "replace"
  | .regexReplace => "regex_replace"
  | .pruneObjects => "prune_objects"

/-- `relay/common/override.go::ParamOperation`; a value that is not given is
null. -/
structure ParamOperation where
  path : String
  mode : Mode
  value : Json := .null
  keepOrigin : Bool := false
  from_ : String := ""
  to_ : String := ""

/-- What the operations call: `gjson.Get`, `sjson.Set` and `sjson.SetRaw`,
`sjson.Delete`, the format `%v`, a value that is decoded and encoded again, the
case mappings, `regexp`, and what `prune_objects` makes of its options and of a
node. -/
structure Library where
  get : Json → String → Option Json
  set : Json → String → Json → Except String Json
  delete : Json → String → Except String Json
  sprint : Json → String
  encode : Json → Json
  toLower : String → String
  toUpper : String → String
  compile : String → Except String (String → String → String)
  prune : Json → Except String (Json → Except String Json)

section Code

variable (library : Library)

/-- `gjson.Type.String`. -/
def typeName : Option Json → String
  | none | some .null => "Null"
  | some (.bool false) => "False"
  | some (.bool true) => "True"
  | some (.number _) => "Number"
  | some (.string _) => "String"
  | some (.array _) | some (.object _) => "JSON"

def unsupported (current : Option Json) : String :=
  "operation not supported for type: " ++ typeName current

/-- `relay/common/override.go::deleteValue`. -/
def deleteValue (doc : Json) (path : String) : Except String Json :=
  if GoText.trimSpace path = "" then .ok doc else library.delete doc path

/-- The case `set` of `applyOperations`. -/
def setValue (doc : Json) (path : String) (value : Json) (keepOrigin : Bool) : Except String Json :=
  if keepOrigin && (library.get doc path).isSome then .ok doc else library.set doc path value

/-- A slice as it is written: one that nothing was appended to is still nil. -/
def sliceOf : List Json → Json
  | [] => .null
  | items => .array items

/-- `relay/common/override.go::modifyArray`, on the items that are there. -/
def modifyArray (doc : Json) (path : String) (items : List Json) (value : Json)
    (isPrepend : Bool) : Except String Json :=
  let added := match value with
    | .array values => values
    | value => [value]
  let original := items.map library.encode
  library.set doc path (sliceOf (if isPrepend then added ++ original else original ++ added))

/-- `relay/common/override.go::modifyString`. -/
def modifyString (doc : Json) (path current : String) (value : Json) (isPrepend : Bool) :
    Except String Json :=
  let valueStr := library.sprint value
  library.set doc path (.string (if isPrepend then valueStr ++ current else current ++ valueStr))

def decodeMembers : Json → Except String (List (String × Json))
  | .object members => .ok members
  | .null => .ok []
  | .bool _ => .error "json: cannot unmarshal bool into Go value of type map[string]interface \x7b\x7d"
  | .number _ => .error "json: cannot unmarshal number into Go value of type map[string]interface \x7b\x7d"
  | .string _ => .error "json: cannot unmarshal string into Go value of type map[string]interface \x7b\x7d"
  | .array _ => .error "json: cannot unmarshal array into Go value of type map[string]interface \x7b\x7d"

/-- The merged map of `mergeObjects`. -/
def mergeMembers (members added : List (String × Json)) (keepOrigin : Bool) : Json :=
  added.foldl (fun merged entry =>
    match keepOrigin, merged.child entry.1 with
    | false, _ | true, none | true, some .null => merged.put entry.1 (.set entry.2)
    | true, some _ => merged) (.object members)

/-- `relay/common/override.go::mergeObjects`. -/
def mergeObjects (doc : Json) (path : String) (members : List (String × Json)) (value : Json)
    (keepOrigin : Bool) : Except String Json :=
  match decodeMembers value with
  | .error message => .error message
  | .ok added => library.set doc path (library.encode (mergeMembers members added keepOrigin))

/-- `relay/common/override.go::modifyValue`. -/
def modifyValue (doc : Json) (path : String) (value : Json) (keepOrigin isPrepend : Bool) :
    Except String Json :=
  match library.get doc path with
  | some (.array items) => modifyArray library doc path items value isPrepend
  | some (.string current) => modifyString library doc path current value isPrepend
  | some (.object members) => mergeObjects library doc path members value keepOrigin
  | current => .error (unsupported current)

def requireText (value : Json) (missing : String) : Except String String :=
  match value with
  | .null => .error missing
  | value => .ok (library.sprint value)

/-- `relay/common/override.go::trimStringValue`. -/
def trimStringValue (doc : Json) (path : String) (value : Json) (isPrefix : Bool) : Except String Json :=
  match library.get doc path with
  | some (.string current) =>
    match requireText library value "trim value is required" with
    | .error message => .error message
    | .ok valueStr => library.set doc path
        (.string (if isPrefix then trimPrefix current valueStr else trimSuffix current valueStr))
  | current => .error (unsupported current)

/-- `relay/common/override.go::ensureStringAffix`. -/
def ensureStringAffix (doc : Json) (path : String) (value : Json) (isPrefix : Bool) : Except String Json :=
  match library.get doc path with
  | some (.string current) =>
    match requireText library value "ensure value is required" with
    | .error message => .error message
    | .ok valueStr =>
      if valueStr = "" then .error "ensure value is required"
      else if isPrefix then
        if hasPrefix current valueStr then .ok doc
        else library.set doc path (.string (valueStr ++ current))
      else if hasSuffix current valueStr then .ok doc
      else library.set doc path (.string (current ++ valueStr))
  | current => .error (unsupported current)

/-- `relay/common/override.go::transformStringValue`. -/
def transformStringValue (doc : Json) (path : String) (transform : String → String) : Except String Json :=
  match library.get doc path with
  | some (.string current) => library.set doc path (.string (transform current))
  | current => .error (unsupported current)

/-- `relay/common/override.go::replaceStringValue`. -/
def replaceStringValue (doc : Json) (path from_ to_ : String) : Except String Json :=
  match library.get doc path with
  | some (.string current) =>
    if from_ = "" then .error "replace from is required"
    else library.set doc path (.string (current.replace from_ to_))
  | current => .error (unsupported current)

/-- `relay/common/override.go::regexReplaceStringValue`. -/
def regexReplaceStringValue (doc : Json) (path pattern replacement : String) : Except String Json :=
  match library.get doc path with
  | some (.string current) =>
    if pattern = "" then .error "regex pattern is required"
    else match library.compile pattern with
    | .error message => .error message
    | .ok replaceAll => library.set doc path (.string (replaceAll current replacement))
  | current => .error (unsupported current)

/-- `relay/common/override.go::pruneObjects`. -/
def pruneObjects (doc : Json) (path : String) (value : Json) : Except String Json :=
  match library.prune value with
  | .error message => .error message
  | .ok clean =>
    if path = "" then clean doc
    else match library.get doc path with
    | none => .ok doc
    | some target =>
      match clean target with
      | .error message => .error message
      | .ok cleaned => library.set doc path cleaned

/-- The switch of `applyOperations`, at one path. -/
def applyAt (op : ParamOperation) (doc : Json) (path : String) : Except String Json :=
  match op.mode with
  | .delete => deleteValue library doc path
  | .set => setValue library doc path op.value op.keepOrigin
  | .prepend => modifyValue library doc path op.value op.keepOrigin true
  | .append => modifyValue library doc path op.value op.keepOrigin false
  | .trimPrefix => trimStringValue library doc path op.value true
  | .trimSuffix => trimStringValue library doc path op.value false
  | .ensurePrefix => ensureStringAffix library doc path op.value true
  | .ensureSuffix => ensureStringAffix library doc path op.value false
  | .trimSpace => transformStringValue library doc path GoText.trimSpace
  | .toLower => transformStringValue library doc path library.toLower
  | .toUpper => transformStringValue library doc path library.toUpper
  | .replace => replaceStringValue library doc path op.from_ op.to_
  | .regexReplace => regexReplaceStringValue library doc path op.from_ op.to_
  | .pruneObjects => pruneObjects library doc path op.value

end Code

/-! ## Paths -/

def decimal (digits : List Char) : Option Nat :=
  if digits ≠ [] ∧ digits.all Char.isDigit then some (Nat.ofDigitChars 10 digits 0) else none

/-- `strconv.Atoi`; a number that is too large is behind the end of every array. -/
def atoi (text : String) : Option Int :=
  match text.toList with
  | '-' :: digits => (decimal digits).map fun number => -(number : Int)
  | '+' :: digits => (decimal digits).map Int.ofNat
  | digits => (decimal digits).map Int.ofNat

/-- `strings.Join(path, ".")`. -/
def joinPath (path : List String) : String := ".".intercalate path

/-- The children in the order of `collectWildcardPaths`: the keys of a map are
sorted. -/
def childNames (node : Json) : List String :=
  if node.isObject then node.names.insertionSort (· ≤ ·) else node.names

/-- `relay/common/override.go::collectWildcardPaths`. -/
def collectWildcardPaths : Json → List String → List String → List String
  | _, [], path => [joinPath path]
  | node, first :: rest, path =>
    let segment := GoText.trimSpace first
    if segment = "" then []
    else if segment = "*" then
      (childNames node).flatMap fun name => (node.child name).elim [] fun child =>
        collectWildcardPaths child rest (path ++ [name])
    else match node with
    | .object _ =>
      if rest = [] then [joinPath (path ++ [segment])]
      else (node.child segment).elim [] fun next =>
        collectWildcardPaths next rest (path ++ [segment])
    | .array items =>
      match atoi segment with
      | none => []
      | some index =>
        if index < 0 ∨ items.length ≤ index then []
        else if rest = [] then [joinPath (path ++ [segment])]
        else (items[index.toNat]?).elim [] fun next =>
          collectWildcardPaths next rest (path ++ [segment])
    | _ => []

/-- `relay/common/override.go::expandWildcardPaths`. -/
def expandWildcardPaths (doc : Json) (path : String) : List String :=
  (collectWildcardPaths doc (split '.' path) []).eraseDups

def hasWildcard (path : String) : Bool := '*' ∈ path.toList

/-- `relay/common/override.go::resolveOperationPaths`. -/
def resolveOperationPaths (doc : Json) (path : String) : List String :=
  if hasWildcard path then expandWildcardPaths doc path else [path]

/-- The array that `gjson.Get` finds at a path, by its length. -/
def arrayLength (library : Library) (doc : Json) (path : List Char) : Option Nat :=
  match library.get doc (String.ofList path) with
  | some (.array items) => some items.length
  | _ => none

/-- What `processNegativeIndex` makes of a path. -/
def indexedPath (library : Library) (doc : Json) (path : String) : String :=
  String.ofList (NegativeIndex.processNegativeIndex (arrayLength library doc) path.toList)

def operationPath (library : Library) (doc : Json) (op : ParamOperation) : String :=
  indexedPath library doc op.path

/-- The body of the loop of `applyOperations`, for an operation on paths whose
conditions are met. -/
def applyOperation (library : Library) (doc : Json) (op : ParamOperation) : Except String Json :=
  match (resolveOperationPaths doc (operationPath library doc op)).foldlM (applyAt library op) doc with
  | .ok result => .ok result
  | .error message => .error ("operation " ++ op.mode.text ++ " failed: " ++ message)

/-! ## What an operation makes of a place -/

def editString (change : String → Except String Edit) : Option Json → Except String Edit
  | some (.string current) => change current
  | current => .error (unsupported current)

/-- `prepend` and `append`. -/
def editAdded (library : Library) (value : Json) (keepOrigin isPrepend : Bool) :
    Option Json → Except String Edit
  | some (.array items) =>
    let added := match value with
      | .array values => values
      | value => [value]
    let original := items.map library.encode
    .ok (.set (sliceOf (if isPrepend then added ++ original else original ++ added)))
  | some (.string current) =>
    let valueStr := library.sprint value
    .ok (.set (.string (if isPrepend then valueStr ++ current else current ++ valueStr)))
  | some (.object members) =>
    (decodeMembers value).map fun added =>
      .set (library.encode (mergeMembers members added keepOrigin))
  | current => .error (unsupported current)

/-- `trim_prefix` and `trim_suffix`. -/
def editTrimmed (library : Library) (value : Json) (isPrefix : Bool) : Option Json → Except String Edit :=
  editString fun current =>
    (requireText library value "trim value is required").map fun text =>
      .set (.string (if isPrefix then trimPrefix current text else trimSuffix current text))

/-- `ensure_prefix` and `ensure_suffix`. -/
def editEnsured (library : Library) (value : Json) (isPrefix : Bool) : Option Json → Except String Edit :=
  editString fun current =>
    (requireText library value "ensure value is required").bind fun text =>
      if text = "" then .error "ensure value is required"
      else if isPrefix then
        .ok (if hasPrefix current text then .keep else .set (.string (text ++ current)))
      else .ok (if hasSuffix current text then .keep else .set (.string (current ++ text)))

def ParamOperation.edit (library : Library) (op : ParamOperation) : Option Json → Except String Edit :=
  match op.mode with
  | .delete => fun _ => .ok .delete
  | .set => fun current =>
    .ok (if op.keepOrigin && current.isSome then .keep else .set op.value)
  | .prepend => editAdded library op.value op.keepOrigin true
  | .append => editAdded library op.value op.keepOrigin false
  | .trimPrefix => editTrimmed library op.value true
  | .trimSuffix => editTrimmed library op.value false
  | .ensurePrefix => editEnsured library op.value true
  | .ensureSuffix => editEnsured library op.value false
  | .trimSpace => editString fun current => .ok (.set (.string (GoText.trimSpace current)))
  | .toLower => editString fun current => .ok (.set (.string (library.toLower current)))
  | .toUpper => editString fun current => .ok (.set (.string (library.toUpper current)))
  | .replace => editString fun current =>
    if op.from_ = "" then .error "replace from is required"
    else .ok (.set (.string (current.replace op.from_ op.to_)))
  | .regexReplace => editString fun current =>
    if op.from_ = "" then .error "regex pattern is required"
    else (library.compile op.from_).map fun replaceAll =>
      .set (.string (replaceAll current op.to_))
  | .pruneObjects => fun current =>
    (library.prune op.value).bind fun clean =>
      match current with
      | none => .ok .keep
      | some target => (clean target).map .set

def segmentOf (text : String) : Segment :=
  let segment := GoText.trimSpace text
  if segment = "" then .nothing else if segment = "*" then .every else .named segment

def patternOf (path : String) : List Segment := (split '.' path).map segmentOf

def ActsOnMatches (library : Library) (doc : Json) (op : ParamOperation) : Prop :=
  (applyOperation library doc op).toOption =
    editMatched (fun current => (op.edit library current).toOption)
      (patternOf (operationPath library doc op)) doc

/-! ## Paths of plain names -/

def metaCharacters : List Char :=
  ['.', '*', '?', '|', '#', '@', '\\', '!', '\x7b', '\x7d', '[', ']', '(', ')']

/-- A name that stands for itself in a path: it has no character with a meaning,
is not blank, is not marked as a key by a colon, and if it is a number then it is
written as an index is. -/
structure PlainName (name : String) : Prop where
  letters : ∀ char ∈ name.toList, char ∉ metaCharacters
  filled : GoText.trimSpace name ≠ ""
  unmarked : name.toList.head? ≠ some ':'
  canonical : ∀ index, atoi name = some index → name = index.toNat.repr

/-- `gjson` and `sjson` read, set and delete at a path of plain names what it
leads to. Where there are two children of one name, or where a path leads past
the end of an array, nothing is said. -/
structure Library.Documented (library : Library) : Prop where
  get : ∀ {path : List String} {doc : Json}, (∀ name ∈ path, PlainName name) →
    Addressable false path doc → library.get doc (joinPath path) = getAt path doc
  set : ∀ {path : List String} {doc : Json} (value : Json), (∀ name ∈ path, PlainName name) →
    Addressable true path doc → library.set doc (joinPath path) value = .ok (editAt (.set value) path doc)
  delete : ∀ {path : List String} {doc : Json}, (∀ name ∈ path, PlainName name) →
    Addressable false path doc → library.delete doc (joinPath path) = .ok (editAt .delete path doc)

variable {library : Library} {doc node child : Json} {op : ParamOperation} {path : List String}

theorem to_list_join_path (path : List String) :
    (joinPath path).toList = ['.'].intercalate (path.map String.toList) :=
  String.toList_intercalate

theorem mem_join_path (member : name ∈ path)
    (inside : char ∈ name.toList) : char ∈ (joinPath path).toList := by
  rw [to_list_join_path]
  induction path with
  | nil => cases member
  | cons first rest ih =>
    cases rest with
    | nil =>
      rw [List.mem_singleton.mp member] at inside
      simpa using inside
    | cons second rest =>
      rw [List.map_cons, List.map_cons, List.intercalate_cons_cons, List.mem_append, List.mem_append]
      rcases List.mem_cons.mp member with rfl | behind
      · exact .inl (.inl inside)
      · exact .inr (ih behind)

theorem joined_filled (deep : path ≠ []) (plain : ∀ name ∈ path, PlainName name) :
    GoText.trimSpace (joinPath path) ≠ "" := by
  obtain ⟨name, member⟩ := List.exists_mem_of_ne_nil path deep
  intro blank
  refine (plain name member).filled ((trim_space_empty_iff name).mpr fun char inside => ?_)
  exact (trim_space_empty_iff _).mp blank char (mem_join_path member inside)

theorem split_join_path (deep : path ≠ []) (plain : ∀ name ∈ path, PlainName name) :
    split '.' (joinPath path) = path := by
  have pieces : ∀ piece ∈ path.map String.toList, '.' ∉ piece := by
    intro piece member inside
    obtain ⟨name, named, rfl⟩ := List.mem_map.mp member
    exact (plain name named).letters '.' inside (by decide)
  rw [split, to_list_join_path, List.splitOn_intercalate _ pieces (by simpa using deep), List.map_map]
  exact (List.map_congr_left fun name _ => String.ofList_toList).trans (List.map_id path)

/-! ## What a wildcard path expands to -/

/-- The names on the paths of `collectWildcardPaths`. -/
def wildcardPlaces : Json → List String → List (List String)
  | _, [] => [[]]
  | node, first :: rest =>
    let segment := GoText.trimSpace first
    if segment = "" then []
    else if segment = "*" then
      (childNames node).flatMap fun name =>
        ((node.child name).elim [] fun child => wildcardPlaces child rest).map (name :: ·)
    else match node with
    | .object _ =>
      if rest = [] then [[segment]]
      else ((node.child segment).elim [] fun next => wildcardPlaces next rest).map (segment :: ·)
    | .array items =>
      match atoi segment with
      | none => []
      | some index =>
        if index < 0 ∨ items.length ≤ index then []
        else if rest = [] then [[segment]]
        else ((items[index.toNat]?).elim [] fun next => wildcardPlaces next rest).map (segment :: ·)
    | _ => []

theorem collect_eq (segments : List String) (node : Json) (path : List String) :
    collectWildcardPaths node segments path =
      (wildcardPlaces node segments).map fun below => joinPath (path ++ below) := by
  induction segments generalizing node path with
  | nil => simp [collectWildcardPaths, wildcardPlaces]
  | cons first rest ih =>
    have inside : ∀ (name : String) (child : Option Json),
        (child.elim [] fun child => collectWildcardPaths child rest (path ++ [name])) =
          ((child.elim [] fun child => wildcardPlaces child rest).map (name :: ·)).map fun below =>
            joinPath (path ++ below) := by
      intro name child
      cases child with
      | none => rfl
      | some child => simp [ih, Function.comp_def]
    simp only [collectWildcardPaths, wildcardPlaces, inside]
    split
    · rfl
    · split
      · rw [List.map_flatMap]
      · cases node with
        | object members =>
          simp only
          split <;> rfl
        | array items =>
          simp only
          cases atoi (GoText.trimSpace first) with
          | none => rfl
          | some index =>
            simp only
            split
            · rfl
            · split <;> rfl
        | _ => rfl

theorem child_names_perm (node : Json) : (childNames node).Perm node.names := by
  unfold childNames
  split
  · exact List.perm_insertionSort _ _
  · exact .refl _

theorem atoi_index (index : Nat) : atoi index.repr = some (index : Int) := by
  have digits : ∀ char ∈ Nat.toDigits 10 index, char.isDigit = true := fun char member =>
    Nat.isDigit_of_mem_toDigits (by decide) (by decide) member
  have value : decimal (Nat.toDigits 10 index) = some index := by
    rw [decimal, if_pos ⟨Nat.toDigits_ne_nil, List.all_eq_true.mpr digits⟩, Nat.ofDigitChars_ten_toDigits]
  unfold atoi
  rw [Nat.toList_repr]
  split
  · rename_i rest shape
    exact absurd (digits '-' (shape ▸ List.mem_cons_self)) (by decide)
  · rename_i rest shape
    exact absurd (digits '+' (shape ▸ List.mem_cons_self)) (by decide)
  · rw [value]
    rfl

theorem array_named (items : List Json) (name : String) :
    (∃ index, atoi name = some index ∧ 0 ≤ index ∧ index < items.length ∧ name ≠ index.toNat.repr) ∨
    (Json.array items).child name =
      match atoi name with
      | none => none
      | some index =>
        if index < 0 ∨ items.length ≤ index then none else items[index.toNat]? := by
  cases read : atoi name with
  | none =>
    refine .inr ?_
    cases found : (Json.array items).child name with
    | none => rfl
    | some child =>
      obtain ⟨index, rfl, _⟩ := array_child_index found
      rw [atoi_index] at read
      cases read
  | some index =>
    by_cases outside : index < 0 ∨ items.length ≤ index
    · refine .inr ?_
      simp only [if_pos outside]
      cases found : (Json.array items).child name with
      | none => rfl
      | some child =>
        obtain ⟨position, rfl, inside⟩ := array_child_index found
        rw [atoi_index] at read
        cases read
        omega
    · by_cases written : name = index.toNat.repr
      · refine .inr ?_
        simp only [if_neg outside]
        rw [written, array_child]
      · exact .inl ⟨index, rfl, by omega, by omega, written⟩

theorem segment_named (filled : GoText.trimSpace text ≠ "")
    (literal : GoText.trimSpace text ≠ "*") : segmentOf text = .named (GoText.trimSpace text) := by
  simp only [segmentOf, if_neg filled, if_neg literal]

theorem array_places {inner : Json → List (List String)}
    (plain : ∀ index, atoi name = some index → 0 ≤ index → index < items.length →
      ∀ path ∈ ((items[index.toNat]?).elim [] inner).map (name :: ·), PlainName name) :
    (match atoi name with
      | none => []
      | some index =>
        if index < 0 ∨ items.length ≤ index then []
        else ((items[index.toNat]?).elim [] inner).map (name :: ·)) =
      (((Json.array items).child name).elim [] inner).map (name :: ·) := by
  rcases array_named items name with ⟨index, read, low, inside, differs⟩ | selects
  · -- a number that is written otherwise is on no path
    have child : (Json.array items).child name = none := by
      cases found : (Json.array items).child name with
      | none => rfl
      | some child =>
        obtain ⟨position, rfl, _⟩ := array_child_index found
        rw [atoi_index] at read
        cases read
        exact absurd rfl differs
    have none_ : ((items[index.toNat]?).elim [] inner).map (name :: ·) = [] :=
      List.eq_nil_iff_forall_not_mem.mpr fun path member =>
        differs ((plain index read low inside path member).canonical index read)
    rw [child, read]
    simp only [if_neg (show ¬ (index < 0 ∨ items.length ≤ index) by omega), none_]
    rfl
  · rw [selects]
    cases atoi name with
    | none => rfl
    | some index =>
      simp only
      split <;> rfl

theorem places_named
    (filled : GoText.trimSpace first ≠ "") (literal : GoText.trimSpace first ≠ "*")
    (deep : rest ≠ [] ∨ node.isObject = false)
    (plain : ∀ path ∈ wildcardPlaces node (first :: rest), ∀ name ∈ path, PlainName name) :
    wildcardPlaces node (first :: rest) =
      ((node.child (GoText.trimSpace first)).elim [] fun next => wildcardPlaces next rest).map
        (GoText.trimSpace first :: ·) := by
  simp only [wildcardPlaces, if_neg filled, if_neg literal] at plain ⊢
  cases node with
  | object members =>
    rcases deep with deep | deep
    · simp only [if_neg deep]
    · cases deep
  | array items =>
    have unified : ∀ index : Int, ¬ (index < 0 ∨ items.length ≤ index) →
        (if rest = [] then [[GoText.trimSpace first]]
          else ((items[index.toNat]?).elim [] fun next => wildcardPlaces next rest).map
            (GoText.trimSpace first :: ·)) =
          ((items[index.toNat]?).elim [] fun next => wildcardPlaces next rest).map
            (GoText.trimSpace first :: ·) := by
      intro index inside
      split
      · rename_i last
        subst last
        obtain ⟨item, found⟩ : ∃ item, items[index.toNat]? = some item :=
          ⟨_, List.getElem?_eq_getElem (by omega)⟩
        rw [found]
        rfl
      · rfl
    rw [← array_places fun index read low inside path member => ?_]
    · cases read : atoi (GoText.trimSpace first) with
      | none => rfl
      | some index =>
        simp only
        split
        · rfl
        · rename_i inside
          exact unified index inside
    · have within : ¬ (index < 0 ∨ items.length ≤ index) := by omega
      refine plain path ?_ _ ?_
      · simp only [read, if_neg within, unified index within]
        exact member
      · obtain ⟨below, _, rfl⟩ := List.mem_map.mp member
        exact List.mem_cons_self
  | _ => rfl

theorem places_nothing (empty : GoText.trimSpace first = "") (node : Json)
    (rest : List String) : wildcardPlaces node (first :: rest) = [] := by
  unfold wildcardPlaces
  exact if_pos empty

theorem places_every (every : GoText.trimSpace first = "*") (node : Json)
    (rest : List String) :
    wildcardPlaces node (first :: rest) = (childNames node).flatMap fun name =>
      ((node.child name).elim [] fun child => wildcardPlaces child rest).map (name :: ·) := by
  simp only [wildcardPlaces, every, if_neg (show ("*" : String) ≠ "" by decide), if_true]

theorem last_places_eq (first : String)
    (plain : ∀ path ∈ wildcardPlaces node [first], ∀ name ∈ path, PlainName name) :
    wildcardPlaces node [first] = locations childNames [segmentOf first] node := by
  by_cases filled : GoText.trimSpace first = ""
  · simp only [wildcardPlaces, locations, segmentOf, if_pos filled, lastNames, List.map_nil]
  · by_cases literal : GoText.trimSpace first = "*"
    · have every : segmentOf first = .every := by
        simp only [segmentOf, if_neg filled, if_pos literal]
      rw [places_every literal, every, locations, lastNames, List.map_eq_flatMap]
      refine List.flatMap_congr fun name member => ?_
      have present := child_some_iff.mpr ((child_names_perm node).mem_iff.mp member)
      obtain ⟨child, found⟩ := Option.isSome_iff_exists.mp present
      rw [found]
      rfl
    · rw [segment_named filled literal, locations, lastNames]
      by_cases object : node.isObject = true
      · have room : node.admits (GoText.trimSpace first) = true := by
          rw [Json.admits, object, Bool.or_true]
        simp only [wildcardPlaces, if_neg filled, if_neg literal, if_pos room]
        cases node with
        | object members => rfl
        | _ => cases object
      · have apart : node.isObject = false := by simpa using object
        rw [places_named filled literal (.inr apart) plain, Json.admits, apart, Bool.or_false]
        cases node.child (GoText.trimSpace first) <;> rfl

theorem places_eq (some_ : segments ≠ [])
    (plain : ∀ path ∈ wildcardPlaces node segments, ∀ name ∈ path, PlainName name) :
    wildcardPlaces node segments = locations childNames (segments.map segmentOf) node := by
  induction segments generalizing node with
  | nil => exact absurd rfl some_
  | cons first later ih =>
    cases later with
    | nil => exact last_places_eq first plain
    | cons second rest =>
      -- what is below a child is on paths through it
      have below : ∀ (name : String) (child : Json),
          (∀ path ∈ wildcardPlaces child (second :: rest),
            name :: path ∈ wildcardPlaces node (first :: second :: rest)) →
          wildcardPlaces child (second :: rest) =
            locations childNames ((second :: rest).map segmentOf) child := by
        intro name child through
        exact ih (List.cons_ne_nil second rest) fun path member other inside =>
          plain _ (through path member) other (List.mem_cons_of_mem name inside)
      by_cases filled : GoText.trimSpace first = ""
      · have blank : segmentOf first = .nothing := by
          simp only [segmentOf, if_pos filled]
        rw [places_nothing filled, List.map_cons, List.map_cons, blank, locations]
      · by_cases literal : GoText.trimSpace first = "*"
        · have every : segmentOf first = .every := by
            simp only [segmentOf, if_neg filled, if_pos literal]
          rw [List.map_cons, List.map_cons, every, locations, places_every literal]
          refine List.flatMap_congr fun name member => ?_
          cases found : node.child name with
          | none => rw [Option.elim_none, Option.elim_none]
          | some child =>
            have inside := below name child fun path inner => by
              rw [places_every literal]
              refine List.mem_flatMap.mpr ⟨name, member, ?_⟩
              rw [found, Option.elim_some]
              exact List.mem_map_of_mem inner
            rw [Option.elim_some, Option.elim_some, inside, List.map_cons]
        · have named := places_named filled literal (.inl (List.cons_ne_nil second rest)) plain
          rw [List.map_cons, List.map_cons, segment_named filled literal, locations, named]
          cases found : node.child (GoText.trimSpace first) with
          | none => rw [Option.elim_none, Option.elim_none]
          | some child =>
            have inside := below (GoText.trimSpace first) child fun path inner => by
              rw [named, found, Option.elim_some]
              exact List.mem_map_of_mem inner
            rw [Option.elim_some, Option.elim_some, inside, List.map_cons]

/-! ## One path -/

structure Accessible (library : Library) (doc : Json) (path : List String) : Prop where
  get : library.get doc (joinPath path) = getAt path doc
  set : ∀ value, library.set doc (joinPath path) value = .ok (editAt (.set value) path doc)
  keep : editAt .keep path doc = doc

theorem Library.Documented.accessible (documented : library.Documented)
    (plain : ∀ name ∈ path, PlainName name) (walks : Addressable true path doc) :
    Accessible library doc path where
  get := documented.get plain walks.read
  set value := documented.set value plain walks
  keep := edit_keeps walks

def edited (path : List String) (doc : Json) (made : Except String Edit) : Except String Json :=
  made.map fun made => editAt made path doc

theorem set_value_eq (accessible : Accessible library doc path) (value : Json) (keepOrigin : Bool) :
    setValue library doc (joinPath path) value keepOrigin =
      edited path doc (.ok (if keepOrigin && (getAt path doc).isSome then .keep else .set value)) := by
  rw [setValue, accessible.get, edited, Except.map]
  split
  · rw [accessible.keep]
  · rw [accessible.set]

theorem modify_value_eq (accessible : Accessible library doc path) (value : Json)
    (keepOrigin isPrepend : Bool) :
    modifyValue library doc (joinPath path) value keepOrigin isPrepend =
      edited path doc (editAdded library value keepOrigin isPrepend (getAt path doc)) := by
  rw [modifyValue, accessible.get]
  cases getAt path doc with
  | none => rfl
  | some current =>
    cases current with
    | array | string => exact accessible.set _
    | object members =>
      simp only [mergeObjects, editAdded]
      cases decodeMembers value with
      | error message => rfl
      | ok added => exact accessible.set _
    | _ => rfl

theorem trim_string_value_eq (accessible : Accessible library doc path) (value : Json) (isPrefix : Bool) :
    trimStringValue library doc (joinPath path) value isPrefix =
      edited path doc (editTrimmed library value isPrefix (getAt path doc)) := by
  rw [trimStringValue, accessible.get]
  cases getAt path doc with
  | none => rfl
  | some current =>
    cases current with
    | string current =>
      simp only [editTrimmed, editString]
      cases requireText library value "trim value is required" with
      | error message => rfl
      | ok text => exact accessible.set _
    | _ => rfl

theorem ensure_string_affix_eq (accessible : Accessible library doc path) (value : Json) (isPrefix : Bool) :
    ensureStringAffix library doc (joinPath path) value isPrefix =
      edited path doc (editEnsured library value isPrefix (getAt path doc)) := by
  -- what is left as it is, or set
  have placed : ∀ (has : Bool) (made : Json),
      (if has then (.ok doc : Except String Json) else library.set doc (joinPath path) made) =
        edited path doc (.ok (if has then .keep else .set made)) := by
    intro has made
    cases has with
    | true => exact congrArg Except.ok accessible.keep.symm
    | false => exact accessible.set made
  rw [ensureStringAffix, accessible.get]
  cases getAt path doc with
  | none => rfl
  | some current =>
    cases current with
    | string current =>
      simp only [editEnsured, editString]
      cases requireText library value "ensure value is required" with
      | error message => rfl
      | ok text =>
        simp only [Except.bind]
        split
        · rfl
        · split
          · exact placed _ _
          · exact placed _ _
    | _ => rfl

theorem transform_string_value_eq (accessible : Accessible library doc path) (transform : String → String) :
    transformStringValue library doc (joinPath path) transform =
      edited path doc (editString (fun current => .ok (.set (.string (transform current))))
        (getAt path doc)) := by
  rw [transformStringValue, accessible.get]
  cases getAt path doc with
  | none => rfl
  | some current =>
    cases current with
    | string current => exact accessible.set _
    | _ => rfl

theorem replace_string_value_eq (accessible : Accessible library doc path) (from_ to_ : String) :
    replaceStringValue library doc (joinPath path) from_ to_ =
      edited path doc (editString (fun current =>
        if from_ = "" then .error "replace from is required"
        else .ok (.set (.string (current.replace from_ to_)))) (getAt path doc)) := by
  rw [replaceStringValue, accessible.get]
  cases getAt path doc with
  | none => rfl
  | some current =>
    cases current with
    | string current =>
      simp only [editString]
      split
      · rfl
      · exact accessible.set _
    | _ => rfl

theorem regex_replace_string_value_eq (accessible : Accessible library doc path)
    (pattern replacement : String) :
    regexReplaceStringValue library doc (joinPath path) pattern replacement =
      edited path doc (editString (fun current =>
        if pattern = "" then .error "regex pattern is required"
        else (library.compile pattern).map fun replaceAll =>
          .set (.string (replaceAll current replacement))) (getAt path doc)) := by
  rw [regexReplaceStringValue, accessible.get]
  cases getAt path doc with
  | none => rfl
  | some current =>
    cases current with
    | string current =>
      simp only [editString]
      split
      · rfl
      · cases library.compile pattern with
        | error message => rfl
        | ok replaceAll => exact accessible.set _
    | _ => rfl

theorem prune_objects_eq (accessible : Accessible library doc path) (value : Json)
    (filled : joinPath path ≠ "") :
    pruneObjects library doc (joinPath path) value =
      edited path doc ((library.prune value).bind fun clean =>
        match getAt path doc with
        | none => .ok .keep
        | some target => (clean target).map .set) := by
  unfold pruneObjects
  cases library.prune value with
  | error message => rfl
  | ok clean =>
    simp only [if_neg filled, accessible.get]
    simp only [Except.bind]
    cases getAt path doc with
    | none => exact congrArg Except.ok accessible.keep.symm
    | some target =>
      simp only
      cases clean target with
      | error message => rfl
      | ok cleaned => exact accessible.set cleaned

theorem joined_not_empty (deep : path ≠ []) (plain : ∀ name ∈ path, PlainName name) :
    joinPath path ≠ "" := by
  intro empty
  refine joined_filled deep plain ?_
  rw [empty, trim_space_empty]

def Mode.sets (mode : Mode) : Bool := mode ≠ .delete

theorem apply_at_eq (documented : library.Documented) (plain : ∀ name ∈ path, PlainName name)
    (walks : Addressable op.mode.sets path doc) :
    applyAt library op doc (joinPath path) = edited path doc (op.edit library (getAt path doc)) := by
  have accessible : op.mode ≠ .delete → Accessible library doc path := fun sets =>
    documented.accessible plain (by simpa [Mode.sets, sets] using walks)
  unfold applyAt ParamOperation.edit
  cases mode : op.mode with
  | delete =>
    have read : Addressable false path doc := by simpa [Mode.sets, mode] using walks
    simp only [deleteValue, if_neg (joined_filled walks.deep plain)]
    exact documented.delete plain read
  | set => exact set_value_eq (accessible (by simp [mode])) _ _
  | prepend | append => exact modify_value_eq (accessible (by simp [mode])) _ _ _
  | trimPrefix | trimSuffix => exact trim_string_value_eq (accessible (by simp [mode])) _ _
  | ensurePrefix | ensureSuffix => exact ensure_string_affix_eq (accessible (by simp [mode])) _ _
  | trimSpace | toLower | toUpper => exact transform_string_value_eq (accessible (by simp [mode])) _
  | replace => exact replace_string_value_eq (accessible (by simp [mode])) _ _
  | regexReplace => exact regex_replace_string_value_eq (accessible (by simp [mode])) _ _
  | pruneObjects =>
    exact prune_objects_eq (accessible (by simp [mode])) _ (joined_not_empty walks.deep plain)

theorem map_not_delete {α : Type} {change : α → Edit} (never : ∀ value, change value ≠ .delete)
    (made : Except String α) : made.map change ≠ .ok .delete := by
  cases made with
  | error message => exact fun same => by cases same
  | ok value => exact fun same => never value (Except.ok.inj same)

theorem bind_not_delete {α : Type} {change : α → Except String Edit}
    (never : ∀ value, change value ≠ .ok .delete) (made : Except String α) :
    made.bind change ≠ .ok .delete := by
  cases made with
  | error message => exact fun same => by cases same
  | ok value => exact never value

theorem string_not_delete {change : String → Except String Edit}
    (never : ∀ text, change text ≠ .ok .delete) (current : Option Json) :
    editString change current ≠ .ok .delete := by
  cases current with
  | none => exact fun same => by cases same
  | some current =>
    cases current with
    | string text => exact never text
    | _ => exact fun same => by cases same

theorem added_not_delete (value : Json) (keepOrigin isPrepend : Bool) (current : Option Json) :
    editAdded library value keepOrigin isPrepend current ≠ .ok .delete := by
  cases current with
  | none => exact fun same => by cases same
  | some current =>
    cases current with
    | object members => exact map_not_delete (fun _ same => by cases same) _
    | _ => exact fun same => by cases same

theorem edit_not_delete (sets : op.mode.sets = true) (current : Option Json) :
    op.edit library current ≠ .ok .delete := by
  have placed : ∀ (has : Bool) (made : Json),
      (.ok (if has then .keep else .set made) : Except String Edit) ≠ .ok .delete := by
    intro has made same
    cases has <;> cases same
  have set_ : ∀ made : Json, (.ok (.set made) : Except String Edit) ≠ .ok .delete :=
    fun made same => by cases same
  unfold ParamOperation.edit
  cases mode : op.mode with
  | delete => simp [Mode.sets, mode] at sets
  | set => exact placed _ _
  | prepend | append => exact added_not_delete _ _ _ _
  | trimPrefix | trimSuffix =>
    exact string_not_delete (fun _ => map_not_delete (fun _ same => by cases same) _) _
  | ensurePrefix | ensureSuffix =>
    refine string_not_delete (fun _ => bind_not_delete (fun text => ?_) _) _
    split
    · exact fun same => by cases same
    · exact placed _ _
  | trimSpace | toLower | toUpper => exact string_not_delete (fun _ => set_ _) _
  | replace =>
    refine string_not_delete (fun text => ?_) _
    split
    · exact fun same => by cases same
    · exact set_ _
  | regexReplace =>
    refine string_not_delete (fun text => ?_) _
    split
    · exact fun same => by cases same
    · exact map_not_delete (fun _ same => by cases same) _
  | pruneObjects =>
    refine bind_not_delete (fun clean => ?_) _
    cases current with
    | none => exact fun same => by cases same
    | some target => exact map_not_delete (fun _ same => by cases same) _

/-! ## All paths -/

def made (library : Library) (op : ParamOperation) (current : Option Json) : Option Edit :=
  (op.edit library current).toOption

theorem fold_applied (documented : library.Documented) {paths : List (List String)} {length : Nat}
    (plain : ∀ path ∈ paths, ∀ name ∈ path, PlainName name)
    (walks : ∀ path ∈ paths, Addressable op.mode.sets path doc)
    (long : ∀ path ∈ paths, path.length = length) :
    ((paths.map joinPath).foldlM (applyAt library op) doc).toOption =
      paths.foldlM (stepAt (made library op)) doc := by
  induction paths generalizing doc with
  | nil => rfl
  | cons path rest ih =>
    rw [List.map_cons, List.foldlM_cons, List.foldlM_cons,
      apply_at_eq documented (plain path List.mem_cons_self) (walks path List.mem_cons_self),
      stepAt, made]
    cases edits : op.edit library (getAt path doc) with
    | error message => rfl
    | ok edit =>
      have stays : op.mode.sets = true → edit ≠ .delete := fun sets gone =>
        edit_not_delete sets (getAt path doc) (gone ▸ edits)
      refine ih (fun path member => plain path (List.mem_cons_of_mem _ member)) ?_
        fun path member => long path (List.mem_cons_of_mem _ member)
      intro other member
      have same : other.length = path.length :=
        (long other (List.mem_cons_of_mem _ member)).trans (long path List.mem_cons_self).symm
      exact edit_addressable stays same (walks other (List.mem_cons_of_mem _ member))

theorem erase_dups_nodup {texts : List String} (once : texts.Nodup) : texts.eraseDups = texts := by
  induction texts with
  | nil => rfl
  | cons first rest ih =>
    obtain ⟨fresh, once⟩ := List.nodup_cons.mp once
    have others : (rest.filter fun other => !other == first) = rest :=
      List.filter_eq_self.mpr fun other member => by
        have differs : other ≠ first := fun same => fresh (same ▸ member)
        simpa using differs
    rw [List.eraseDups_cons, others, ih once]

def PlainPaths (library : Library) (doc : Json) (op : ParamOperation) : Prop :=
  ∀ path ∈ wildcardPlaces doc (split '.' (operationPath library doc op)), ∀ name ∈ path, PlainName name

theorem applied_walks (documented : library.Documented) (distinct : doc.Distinct)
    (wildcard : hasWildcard (operationPath library doc op) = true)
    (plain : PlainPaths library doc op) :
    (applyOperation library doc op).toOption =
      (locations childNames (patternOf (operationPath library doc op)) doc).foldlM
        (stepAt (made library op)) doc := by
  have places : wildcardPlaces doc (split '.' (operationPath library doc op)) =
      locations childNames (patternOf (operationPath library doc op)) doc :=
    places_eq (split_ne_nil '.' _) plain
  unfold PlainPaths at plain
  rw [places] at plain
  have walks : ∀ path ∈ locations childNames (patternOf (operationPath library doc op)) doc,
      Addressable true path doc := fun path member =>
    location_addressable child_names_perm member distinct
  have able : ∀ path ∈ locations childNames (patternOf (operationPath library doc op)) doc,
      Addressable op.mode.sets path doc := by
    intro path member
    cases op.mode.sets with
    | true => exact walks path member
    | false => exact (walks path member).read
  have once : ((locations childNames (patternOf (operationPath library doc op)) doc).map
      joinPath).Nodup := by
    refine List.Nodup.map_on ?_ (locations_nodup child_names_perm distinct)
    intro path member other second same
    rw [← split_join_path (walks path member).deep (plain path member), same,
      split_join_path (walks other second).deep (plain other second)]
  have expanded : resolveOperationPaths doc (operationPath library doc op) =
      (locations childNames (patternOf (operationPath library doc op)) doc).map joinPath := by
    rw [resolveOperationPaths, if_pos wildcard, expandWildcardPaths, collect_eq, places]
    exact erase_dups_nodup once
  rw [← fold_applied documented plain able fun path member => location_length member,
    applyOperation, expanded]
  cases ((locations childNames (patternOf (operationPath library doc op)) doc).map
    joinPath).foldlM (applyAt library op) doc <;> rfl

/-- On a wildcard path of plain names an operation acts exactly on the matches,
unless it deletes the items of an array that has two or more. -/
theorem acts_on_matches_iff (documented : library.Documented) (distinct : doc.Distinct)
    (wildcard : hasWildcard (operationPath library doc op) = true)
    (plain : PlainPaths library doc op) :
    ActsOnMatches library doc op ↔
      (op.mode = .delete → (patternOf (operationPath library doc op)).getLast? = some .every →
        ∀ items, .array items ∈ reached (patternOf (operationPath library doc op)).dropLast doc →
          items.length ≤ 1) := by
  have walked := applied_walks documented distinct wildcard plain
  change (applyOperation library doc op).toOption =
    editMatched (made library op) (patternOf (operationPath library doc op)) doc ↔ _
  rw [walked]
  by_cases deletion : op.mode = .delete
  · have edits : made library op = deletes := by
      funext current
      rw [made, ParamOperation.edit, deletion]
      rfl
    rw [edits, deletion_walk_iff child_names_perm (fun _ => rfl) _ distinct]
    exact ⟨fun few _ => few, fun few => few deletion⟩
  · have sets : op.mode.sets = true := by simpa [Mode.sets] using deletion
    have stays : ∀ current, made library op current ≠ some .delete := by
      intro current gone
      cases edits : op.edit library current with
      | error message =>
        rw [made, edits] at gone
        cases gone
      | ok edit =>
        rw [made, edits] at gone
        cases gone
        exact edit_not_delete sets current edits
    exact ⟨fun _ same => absurd same deletion, fun _ =>
      walk_matched child_names_perm stays _ distinct⟩

/-! ## A library of trees -/

def treeLibrary : Library where
  get doc path := getAt (split '.' path) doc
  set doc path value := .ok (editAt (.set value) (split '.' path) doc)
  delete doc path := .ok (editAt .delete (split '.' path) doc)
  sprint
    | .string value => value
    | _ => ""
  encode value := value
  toLower text := text
  toUpper text := text
  compile pattern := .error pattern
  prune _ := .ok .ok

theorem tree_library_documented : treeLibrary.Documented where
  get plain walks := congrArg (getAt · _) (split_join_path walks.deep plain)
  set value plain walks :=
    congrArg (fun path => Except.ok (editAt (.set value) path _)) (split_join_path walks.deep plain)
  delete plain walks :=
    congrArg (fun path => Except.ok (editAt .delete path _)) (split_join_path walks.deep plain)

def twoTools : Json := .object [("tools", .array [.string "a", .string "b"])]

def dottedKey : Json := .object [("user.id", .string "a")]

def deleteTools : ParamOperation where
  path := "tools.*"
  mode := .delete

def deleteAll : ParamOperation where
  path := "*"
  mode := .delete

def setTools : ParamOperation where
  path := "tools.*"
  mode := .set
  value := .string "c"

theorem two_tools_distinct : twoTools.Distinct := by
  refine .node _ (by decide) fun entry member => ?_
  rw [List.mem_singleton.mp member]
  refine .node _ (by decide) fun entry member => ?_
  rcases List.mem_pair.mp member with rfl | rfl <;>
    exact .node _ List.nodup_nil fun _ none_ => by cases none_

theorem two_tools_plain : PlainPaths treeLibrary twoTools setTools := by
  intro path member name inside
  have places : wildcardPlaces twoTools (split '.' (operationPath treeLibrary twoTools setTools)) =
      [["tools", "0"], ["tools", "1"]] := rfl
  have named : name = "tools" ∨ name = "0" ∨ name = "1" := by
    rw [places] at member
    rcases List.mem_pair.mp member with rfl | rfl <;> simp at inside <;> tauto
  rcases named with rfl | rfl | rfl
  · exact ⟨by simp [metaCharacters], by decide, by decide, fun index read => by cases read⟩
  · refine ⟨by simp [metaCharacters], by decide, by decide, fun index read => ?_⟩
    cases read
    rfl
  · refine ⟨by simp [metaCharacters], by decide, by decide, fun index read => ?_⟩
    cases read
    rfl

theorem both_tools_set : ActsOnMatches treeLibrary twoTools setTools :=
  (acts_on_matches_iff tree_library_documented two_tools_distinct rfl two_tools_plain).mpr
    fun deletes => by cases deletes

/-- Of two tools the second one is left; a key with a dot is not found. -/
theorem second_tool_stays :
    applyOperation treeLibrary twoTools deleteTools =
        .ok (.object [("tools", .array [.string "b"])]) ∧
      ¬ ActsOnMatches treeLibrary twoTools deleteTools ∧
      applyOperation treeLibrary dottedKey deleteAll = .ok dottedKey ∧
      ¬ ActsOnMatches treeLibrary dottedKey deleteAll := by
  have left_ : applyOperation treeLibrary twoTools deleteTools =
      .ok (.object [("tools", .array [.string "b"])]) := rfl
  have cleared : editMatched (made treeLibrary deleteTools)
      (patternOf (operationPath treeLibrary twoTools deleteTools)) twoTools =
        some (.object [("tools", .array [])]) := rfl
  have unchanged : applyOperation treeLibrary dottedKey deleteAll = .ok dottedKey := rfl
  have emptied : editMatched (made treeLibrary deleteAll)
      (patternOf (operationPath treeLibrary dottedKey deleteAll)) dottedKey = some (.object []) := rfl
  refine ⟨left_, fun acts => ?_, unchanged, fun acts => ?_⟩
  · change (applyOperation treeLibrary twoTools deleteTools).toOption =
      editMatched (made treeLibrary deleteTools) _ twoTools at acts
    rw [left_, cleared] at acts
    cases acts
  · change (applyOperation treeLibrary dottedKey deleteAll).toOption =
      editMatched (made treeLibrary deleteAll) _ dottedKey at acts
    rw [unchanged, emptied] at acts
    cases acts

end NewApi.ParamOverride
