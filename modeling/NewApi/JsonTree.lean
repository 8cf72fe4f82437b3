import Mathlib.Data.List.Nodup
import Mathlib.Tactic.Common

/-! JSON documents as trees, read and changed along paths. A path names a child
at every step: a member of an object by its name, an item of an array by its
index. A pattern matches the children of a node all at once, and an edit of what
it matches is an edit of these nodes alone. Walking the matches one after the
other comes to the same, unless a deletion moves the items behind it. -/
namespace NewApi.JsonTree

inductive Json where
  | null
  | bool (value : Bool)
  | number (text : String)
  | string (value : String)
  | array (items : List Json)
  | object (members : List (String × Json))

/-! ## Children -/

def Json.entries : Json → List (String × Json)
  | .array items => items.mapIdx fun index item => (index.repr, item)
  | .object members => members
  | _ => []

def Json.names (node : Json) : List String := node.entries.map Prod.fst

def Json.withEntries : Json → List (String × Json) → Json
  | .array _, entries => .array (entries.map Prod.snd)
  | .object _, entries => .object entries
  | node, _ => node

def Json.child (node : Json) (name : String) : Option Json := node.entries.lookup name

def install (name : String) (made : Option Json) (entries : List (String × Json)) : List (String × Json) :=
  match made with
  | none => entries.filter fun entry => entry.1 ≠ name
  | some value => entries.map fun entry => if entry.1 = name then (name, value) else entry

def Json.install (node : Json) (name : String) (made : Option Json) : Json :=
  node.withEntries (JsonTree.install name made node.entries)

/-- No two children have one name, in the node and below it. -/
inductive Json.Distinct : Json → Prop where
  | node (node : Json) (names : node.names.Nodup)
    (children : ∀ entry ∈ node.entries, Json.Distinct entry.2) : Json.Distinct node

theorem Json.Distinct.names {node : Json} : node.Distinct → node.names.Nodup
  | .node _ names _ => names

theorem Json.Distinct.children {node : Json} : node.Distinct → ∀ entry ∈ node.entries, entry.2.Distinct
  | .node _ _ children => children

variable {node child value : Json} {name : String} {entries : List (String × Json)}

theorem index_name_injective {other : Nat} (same : index.repr = other.repr) : index = other := by
  have digits := congrArg (Nat.ofDigitChars 10 ·.toList 0) same
  simpa only [Nat.toList_repr, Nat.ofDigitChars_ten_toDigits] using digits

theorem array_names (items : List Json) :
    (Json.array items).names = (List.range items.length).map Nat.repr := by
  refine List.ext_getElem (by simp [Json.names, Json.entries]) fun index _ _ => ?_
  simp [Json.names, Json.entries]

theorem array_names_nodup (items : List Json) : (Json.array items).names.Nodup := by
  rw [array_names]
  exact List.Nodup.map (fun _ _ same => index_name_injective same) List.nodup_range

theorem entries_with_entries (same : entries.map Prod.fst = node.names) :
    (node.withEntries entries).entries = entries := by
  cases node with
  | object members => rfl
  | array items =>
    have length : entries.length = items.length := by
      simpa [Json.names, Json.entries] using congrArg List.length same
    refine List.ext_getElem (by simp [Json.withEntries, Json.entries]) fun index _ inside => ?_
    have named : (entries.map Prod.fst)[index]? = some index.repr := by
      rw [same, array_names]
      simp [← length, inside]
    have first : entries[index].1 = index.repr := by
      simpa [inside] using named
    simp only [Json.withEntries, Json.entries, List.getElem_mapIdx, List.getElem_map]
    exact Prod.ext first.symm rfl
  | _ => exact (List.map_eq_nil_iff.mp same).symm

theorem with_entries_twice (node : Json) (first second : List (String × Json)) :
    (node.withEntries first).withEntries second = node.withEntries second := by
  cases node <;> rfl

theorem with_entries_self (node : Json) : node.withEntries node.entries = node := by
  cases node with
  | array items =>
    refine congrArg Json.array (List.ext_getElem (by simp [Json.entries]) fun index _ _ => ?_)
    simp [Json.entries]
  | _ => rfl

theorem lookup_of_mem (distinct : (entries.map Prod.fst).Nodup) (member : (name, child) ∈ entries) :
    entries.lookup name = some child := by
  induction entries with
  | nil => cases member
  | cons first rest ih =>
    obtain ⟨apart, distinct⟩ := List.nodup_cons.mp distinct
    rcases List.mem_cons.mp member with rfl | behind
    · exact List.lookup_cons_self
    · have differs : (name == first.1) = false := by
        refine beq_false_of_ne fun same => apart ?_
        exact same ▸ List.mem_map_of_mem (f := Prod.fst) behind
      rw [List.lookup_cons, differs]
      exact ih distinct behind

theorem mem_of_lookup (found : entries.lookup name = some child) : (name, child) ∈ entries := by
  obtain ⟨before, behind, rfl, _⟩ := List.lookup_eq_some_iff.mp found
  exact List.mem_append_right before List.mem_cons_self

theorem child_mem (found : node.child name = some child) : (name, child) ∈ node.entries :=
  mem_of_lookup found

theorem child_of_mem (distinct : node.names.Nodup) (member : (name, child) ∈ node.entries) :
    node.child name = some child :=
  lookup_of_mem distinct member

theorem child_some_iff : (node.child name).isSome ↔ name ∈ node.names := by
  simp only [Json.child, List.lookup_isSome_iff, Json.names, List.mem_map, beq_iff_eq]
  exact ⟨fun ⟨entry, member, same⟩ => ⟨entry, member, same.symm⟩,
    fun ⟨entry, member, same⟩ => ⟨entry, member, same.symm⟩⟩

theorem array_child (items : List Json) (index : Nat) :
    (Json.array items).child index.repr = items[index]? := by
  cases found : items[index]? with
  | some item =>
    refine child_of_mem (array_names_nodup items) ?_
    obtain ⟨inside, rfl⟩ := List.getElem?_eq_some_iff.mp found
    rw [Json.entries, List.mem_mapIdx]
    exact ⟨index, inside, rfl⟩
  | none =>
    have absent : index.repr ∉ (Json.array items).names := by
      rw [array_names]
      intro member
      obtain ⟨other, inside, same⟩ := List.mem_map.mp member
      rw [List.getElem?_eq_none_iff] at found
      have equal := index_name_injective same
      have within := List.mem_range.mp inside
      omega
    rw [← child_some_iff] at absent
    simpa using absent

theorem array_child_index
    (found : (Json.array items).child name = some child) :
    ∃ index : Nat, name = index.repr ∧ index < items.length := by
  have present : name ∈ (Json.array items).names := child_some_iff.mp (by rw [found]; rfl)
  rw [array_names] at present
  obtain ⟨index, inside, rfl⟩ := List.mem_map.mp present
  exact ⟨index, rfl, List.mem_range.mp inside⟩

/-! ## Changing one child -/

theorem install_names (name : String) (value : Json) (entries : List (String × Json)) :
    (install name (some value) entries).map Prod.fst = entries.map Prod.fst := by
  simp only [install, List.map_map]
  refine List.map_congr_left fun entry _ => ?_
  by_cases same : entry.1 = name
  · simp [same]
  · simp [same]

theorem installed_names_sublist (name : String) (made : Option Json) (entries : List (String × Json)) :
    ((install name made entries).map Prod.fst).Sublist (entries.map Prod.fst) := by
  cases made with
  | none => exact (List.filter_sublist ..).map _
  | some value => rw [install_names]

theorem lookup_install_self (present : (entries.lookup name).isSome) :
    (install name (some value) entries).lookup name = some value := by
  induction entries with
  | nil => cases present
  | cons first rest ih =>
    by_cases same : first.1 = name
    · simp [install, same]
    · have differs : (name == first.1) = false := beq_false_of_ne (Ne.symm same)
      rw [List.lookup_cons, differs] at present
      simp only [install] at ih ⊢
      rw [List.map_cons, if_neg same, List.lookup_cons, differs]
      exact ih present

theorem lookup_install_ne (apart : other ≠ name) (made : Option Json) :
    (install name made entries).lookup other = entries.lookup other := by
  induction entries with
  | nil => cases made <;> rfl
  | cons first rest ih =>
    cases made with
    | none =>
      simp only [install] at ih ⊢
      by_cases same : first.1 = name
      · have differs : (other == first.1) = false := beq_false_of_ne fun equal =>
          apart (equal.trans same)
        rw [List.filter_cons, if_neg (by simpa using same), ih, List.lookup_cons, differs]
      · rw [List.filter_cons, if_pos (by simpa using same), List.lookup_cons, List.lookup_cons, ih]
    | some value =>
      simp only [install] at ih ⊢
      by_cases same : first.1 = name
      · have differs : (other == name) = false := beq_false_of_ne apart
        rw [List.map_cons, if_pos same, List.lookup_cons, List.lookup_cons, ih, same]
        simp only [differs]
      · rw [List.map_cons, if_neg same, List.lookup_cons, List.lookup_cons, ih]

theorem install_same (distinct : (entries.map Prod.fst).Nodup) (member : (name, child) ∈ entries) :
    install name (some child) entries = entries := by
  refine (List.map_congr_left fun entry inside => ?_).trans (List.map_id _)
  by_cases same : entry.1 = name
  · have found := lookup_of_mem distinct member
    have own := lookup_of_mem distinct (show (entry.1, entry.2) ∈ entries from inside)
    rw [same, found] at own
    simp only [same, if_true, id_eq]
    exact Prod.ext same.symm (Option.some.inj own)
  · simp [same]

theorem entries_install (stays : (∃ members, node = .object members) ∨ made ≠ none) :
    (node.install name made).entries = install name made node.entries := by
  rcases stays with ⟨members, rfl⟩ | stays
  · rfl
  · cases made with
    | none => exact absurd rfl stays
    | some value => exact entries_with_entries (install_names name value node.entries)

/-! ## Changing all children -/

def traverse (change : String → Json → Option (Option Json)) :
    List (String × Json) → Option (List (String × Json))
  | [] => some []
  | (name, child) :: rest =>
    (change name child).bind fun made => (traverse change rest).map fun others =>
      match made with
      | none => others
      | some value => (name, value) :: others

def among (names : List String) (change : Json → Option (Option Json)) (name : String)
    (child : Json) : Option (Option Json) :=
  if name ∈ names then change child else some (some child)

def visit (change : Json → Option (Option Json)) (node : Json) (name : String) : Option Json :=
  match node.child name with
  | none => some node
  | some child => (change child).map (node.install name)

variable {change : Json → Option (Option Json)} {names : List String}

theorem traverse_congr {first second : String → Json → Option (Option Json)}
    (same : ∀ entry ∈ entries, first entry.1 entry.2 = second entry.1 entry.2) :
    traverse first entries = traverse second entries := by
  induction entries with
  | nil => rfl
  | cons entry rest ih =>
    rw [traverse, traverse, same entry List.mem_cons_self,
      ih fun entry member => same entry (List.mem_cons_of_mem _ member)]

theorem traverse_keeps (entries : List (String × Json)) :
    traverse (fun _ child => some (some child)) entries = some entries := by
  induction entries with
  | nil => rfl
  | cons entry rest ih => rw [traverse, ih]; rfl

theorem traverse_refused {first : String → Json → Option (Option Json)}
    (member : (name, child) ∈ entries) (refused : first name child = none) :
    traverse first entries = none := by
  induction entries with
  | nil => cases member
  | cons entry rest ih =>
    rcases List.mem_cons.mp member with rfl | behind
    · rw [traverse, refused, Option.bind_none]
    · rw [traverse, ih behind]
      cases first entry.1 entry.2 <;> rfl

theorem traverse_install (distinct : (entries.map Prod.fst).Nodup)
    (member : (name, child) ∈ entries) (fresh : name ∉ names) (changed : change child = some made) :
    traverse (among names change) (install name made entries) =
      traverse (among (name :: names) change) entries := by
  induction entries with
  | nil => cases member
  | cons entry rest ih =>
    obtain ⟨apart, distinct⟩ := List.nodup_cons.mp distinct
    by_cases same : entry.1 = name
    · have own : entry = (name, child) := by
        rcases List.mem_cons.mp member with own | behind
        · exact own.symm
        · exact absurd (same ▸ List.mem_map_of_mem (f := Prod.fst) behind) apart
      subst own
      have elsewhere : ∀ entry ∈ rest, entry.1 ≠ name := by
        intro entry inside equal
        have named : entry.1 ∈ rest.map Prod.fst := List.mem_map_of_mem inside
        rw [equal] at named
        exact apart named
      have tail : install name made rest = rest := by
        cases made with
        | none => exact List.filter_eq_self.mpr fun entry inside => by simpa using elsewhere entry inside
        | some value =>
          refine (List.map_congr_left fun entry inside => ?_).trans (List.map_id _)
          rw [if_neg (elsewhere entry inside), id_eq]
      have others : traverse (among names change) rest =
          traverse (among (name :: names) change) rest :=
        traverse_congr fun entry inside => by simp [among, elsewhere entry inside]
      have here : among (name :: names) change name child = some made := by simp [among, changed]
      rw [traverse, here, ← others, Option.bind_some]
      cases made with
      | none =>
        have shape : install name none ((name, child) :: rest) = install name none rest := by
          simp [install]
        rw [shape, tail]
        exact Option.map_id'.symm
      | some value =>
        have shape : install name (some value) ((name, child) :: rest) =
            (name, value) :: install name (some value) rest := by
          simp [install]
        rw [shape, tail, traverse, among, if_neg fresh, Option.bind_some]
    · have behind : (name, child) ∈ rest := by
        rcases List.mem_cons.mp member with own | behind
        · exact absurd (congrArg Prod.fst own.symm) same
        · exact behind
      have shape : install name made (entry :: rest) = entry :: install name made rest := by
        cases made <;> simp [install, same]
      have apart : among (name :: names) change entry.1 entry.2 =
          among names change entry.1 entry.2 := by simp [among, same]
      rw [shape, traverse, ih distinct behind, traverse, apart]

theorem installed_names (after : (node.install name made).entries = install name made node.entries)
    (distinct : node.names.Nodup) (fresh : name ∉ rest) (present : ∀ other ∈ name :: rest, other ∈ node.names) :
    (node.install name made).names.Nodup ∧ ∀ other ∈ rest, other ∈ (node.install name made).names := by
  refine ⟨?_, fun other member => ?_⟩
  · rw [Json.names, after]
    exact (installed_names_sublist name made node.entries).nodup distinct
  · have apart : other ≠ name := fun equal => fresh (equal ▸ member)
    have before := child_some_iff.mpr (present other (List.mem_cons_of_mem _ member))
    rw [← child_some_iff, Json.child, after, lookup_install_ne apart]
    exact before

theorem visits_eq (distinct : node.names.Nodup) (once : names.Nodup)
    (present : ∀ name ∈ names, name ∈ node.names)
    (stays : (∃ members, node = .object members) ∨ ∀ child, change child ≠ some none) :
    names.foldlM (visit change) node =
      (traverse (among names change) node.entries).map node.withEntries := by
  induction names generalizing node with
  | nil =>
    have nothing : traverse (among [] change) node.entries = some node.entries := by
      rw [← traverse_keeps node.entries]
      exact traverse_congr fun entry _ => by simp [among]
    rw [nothing, Option.map_some, with_entries_self]
    rfl
  | cons name rest ih =>
    obtain ⟨fresh, once⟩ := List.nodup_cons.mp once
    obtain ⟨child, found⟩ := Option.isSome_iff_exists.mp
      (child_some_iff.mpr (present name List.mem_cons_self))
    rw [List.foldlM_cons, visit, found]
    simp only
    cases changed : change child with
    | none =>
      have refused : among (name :: rest) change name child = none := by simp [among, changed]
      rw [traverse_refused (child_mem found) refused]
      rfl
    | some made =>
      have here : (∃ members, node = .object members) ∨ made ≠ none :=
        stays.imp id fun stays none_ => stays child (none_ ▸ changed)
      have after : (node.install name made).entries = install name made node.entries :=
        entries_install here
      have same : (node.install name made).withEntries = node.withEntries :=
        funext fun others => with_entries_twice node _ others
      have still : (∃ members, node.install name made = .object members) ∨
          ∀ child, change child ≠ some none := by
        refine stays.imp (fun ⟨members, shape⟩ => ?_) id
        subst shape
        exact ⟨_, rfl⟩
      change (List.foldlM (visit change) (node.install name made) rest : Option Json) = _
      obtain ⟨distinct', present⟩ := installed_names after distinct fresh present
      rw [ih distinct' once present still, after, same,
        traverse_install distinct (child_mem found) fresh changed]

/-! ## Paths -/

def getAt : List String → Json → Option Json
  | [], node => some node
  | name :: rest, node => (node.child name).bind (getAt rest)

/-- What becomes of a place in a document. -/
inductive Edit where
  | keep
  | set (value : Json)
  | delete

def Edit.made : Edit → Json → Option Json
  | .keep, child => some child
  | .set value, _ => some value
  | .delete, _ => none

def Json.append : Json → String → Json → Json
  | .object members, name, value => .object (members ++ [(name, value)])
  | node, _, _ => node

def Json.put (node : Json) (name : String) : Edit → Json
  | .keep => node
  | .delete => node.install name none
  | .set value =>
    if (node.child name).isSome then node.install name (some value) else node.append name value

def editAt (made : Edit) : List String → Json → Json
  | [], node => node
  | [name], node => node.put name made
  | name :: next :: rest, node =>
    match node.child name with
    | none => node
    | some child => node.install name (some (editAt made (next :: rest) child))

def stepAt (edit : Option Json → Option Edit) (doc : Json) (path : List String) : Option Json :=
  (edit (getAt path doc)).map fun made => editAt made path doc

/-! ## Patterns -/

/-- One step of a pattern. -/
inductive Segment where
  | every
  | named (name : String)
  | nothing
  deriving DecidableEq

def Json.isObject : Json → Bool
  | .object _ => true
  | _ => false

def Json.admits (node : Json) (name : String) : Bool := (node.child name).isSome || node.isObject

def lastNames (order : Json → List String) : Segment → Json → List String
  | .nothing, _ => []
  | .every, node => order node
  | .named name, node => if node.admits name then [name] else []

def locations (order : Json → List String) : List Segment → Json → List (List String)
  | [], _ => []
  | [last], node => (lastNames order last node).map fun name => [name]
  | .nothing :: _ :: _, _ => []
  | .every :: next :: rest, node => (order node).flatMap fun name =>
    ((node.child name).elim [] (locations order (next :: rest))).map (name :: ·)
  | .named name :: next :: rest, node =>
    ((node.child name).elim [] (locations order (next :: rest))).map (name :: ·)

def reached : List Segment → Json → List Json
  | [], node => [node]
  | .nothing :: _, _ => []
  | .every :: rest, node => node.entries.flatMap fun entry => reached rest entry.2
  | .named name :: rest, node => (node.child name).elim [] (reached rest)

def descend (leaf : Segment → Json → Option Json) : List Segment → Json → Option Json
  | [], node => some node
  | [last], node => leaf last node
  | .nothing :: _ :: _, node => some node
  | .every :: next :: rest, node =>
    (traverse (fun _ child => (descend leaf (next :: rest) child).map some) node.entries).map
      node.withEntries
  | .named name :: next :: rest, node =>
    match node.child name with
    | none => some node
    | some child => (descend leaf (next :: rest) child).map fun made => node.install name (some made)

def editLast (edit : Option Json → Option Edit) (last : Segment) (node : Json) : Option Json :=
  match last with
  | .nothing => some node
  | .every =>
    (traverse (fun _ child => (edit (some child)).map (·.made child)) node.entries).map node.withEntries
  | .named name =>
    if node.admits name then (edit (node.child name)).map (node.put name) else some node

def editMatched (edit : Option Json → Option Edit) (pattern : List Segment) (doc : Json) : Option Json :=
  descend (editLast edit) pattern doc

def walkLast (order : Json → List String) (edit : Option Json → Option Edit) (last : Segment)
    (node : Json) : Option Json :=
  ((lastNames order last node).map fun name => [name]).foldlM (stepAt edit) node

/-! ## The walk goes down where the matches are -/

variable {edit : Option Json → Option Edit} {order : Json → List String}

theorem location_deep (member : path ∈ locations order pattern node) : path ≠ [] := by
  rintro rfl
  match pattern with
  | [] => cases member
  | [last] => simp [locations] at member
  | .nothing :: _ :: _ => cases member
  | .every :: next :: rest => simp [locations] at member
  | .named name :: next :: rest => simp [locations] at member

theorem child_install_self (found : node.child name = some child) :
    (node.install name (some value)).child name = some value := by
  rw [Json.child, entries_install (.inr (by simp))]
  exact lookup_install_self (by rw [show node.entries.lookup name = some child from found]; rfl)

theorem install_twice (node : Json) (name : String) (first second : Json) :
    (node.install name (some first)).install name (some second) = node.install name (some second) := by
  have entries : (node.install name (some first)).entries =
      install name (some first) node.entries := entries_install (.inr (by simp))
  rw [Json.install, entries, Json.install, with_entries_twice, Json.install]
  refine congrArg node.withEntries ?_
  simp only [install, List.map_map]
  refine List.map_congr_left fun entry _ => ?_
  by_cases same : entry.1 = name
  · simp [same]
  · simp [same]

theorem names_install (node : Json) (name : String) (value : Json) :
    (node.install name (some value)).names = node.names := by
  rw [Json.names, entries_install (.inr (by simp)), install_names, Json.names]

theorem edit_at_below (deep : path ≠ []) (made : Edit)
    (found : node.child name = some child) :
    editAt made (name :: path) node = node.install name (some (editAt made path child)) := by
  cases path with
  | nil => exact absurd rfl deep
  | cons next rest => rw [editAt, found]

theorem fold_below {paths : List (List String)} (distinct : node.names.Nodup)
    (deep : ∀ path ∈ paths, path ≠ []) (found : node.child name = some child) :
    (paths.map (name :: ·)).foldlM (stepAt edit) node =
      (paths.foldlM (stepAt edit) child).map fun made => node.install name (some made) := by
  induction paths generalizing node child with
  | nil =>
    have same : node.install name (some child) = node := by
      rw [Json.install, install_same distinct (child_mem found), with_entries_self]
    exact congrArg some same.symm
  | cons path rest ih =>
    have read : getAt (name :: path) node = getAt path child := by rw [getAt, found, Option.bind_some]
    rw [List.map_cons, List.foldlM_cons, List.foldlM_cons, stepAt, stepAt, read]
    cases edit (getAt path child) with
    | none => rfl
    | some made =>
      have below := edit_at_below (deep path List.mem_cons_self) made found
      have still : (node.install name (some (editAt made path child))).names.Nodup := by
        rw [names_install]
        exact distinct
      have after := ih still (fun path member => deep path (List.mem_cons_of_mem _ member))
        (child_install_self found)
      simp only [install_twice] at after
      simpa only [Option.map_some, Option.bind_eq_bind, Option.bind_some, below] using after

theorem fold_flat {names : List String} {inner : Json → List (List String)}
    (distinct : node.names.Nodup) (once : names.Nodup)
    (deep : ∀ child, ∀ path ∈ inner child, path ≠ []) :
    (names.flatMap fun name => ((node.child name).elim [] inner).map (name :: ·)).foldlM
        (stepAt edit) node =
      names.foldlM (visit fun child => ((inner child).foldlM (stepAt edit) child).map some)
        node := by
  induction names generalizing node with
  | nil => rfl
  | cons name rest ih =>
    obtain ⟨fresh, once⟩ := List.nodup_cons.mp once
    rw [List.flatMap_cons, List.foldlM_append, List.foldlM_cons, visit]
    cases found : node.child name with
    | none => exact ih distinct once
    | some child =>
      have below : ((inner child).map (name :: ·)).foldlM (stepAt edit) node =
          ((inner child).foldlM (stepAt edit) child).map fun made => node.install name (some made) :=
        fold_below distinct (deep child) found
      simp only [Option.elim_some]
      rw [below]
      cases (inner child).foldlM (stepAt edit) child with
      | none => rfl
      | some made =>
        have untouched : ∀ other ∈ rest,
            (node.install name (some made)).child other = node.child other := by
          intro other member
          have apart : other ≠ name := fun equal => fresh (equal ▸ member)
          rw [Json.child, entries_install (.inr (by simp)), lookup_install_ne apart]
          rfl
        have paths : (rest.flatMap fun other => ((node.child other).elim [] inner).map (other :: ·)) =
            rest.flatMap fun other =>
              (((node.install name (some made)).child other).elim [] inner).map (other :: ·) :=
          List.flatMap_congr fun other member => by rw [untouched other member]
        have still : (node.install name (some made)).names.Nodup := by
          rw [names_install]
          exact distinct
        rw [paths]
        exact ih still once

theorem fold_locations (ordered : ∀ node, (order node).Perm node.names) :
    ∀ (pattern : List Segment) {node : Json}, node.Distinct →
      (locations order pattern node).foldlM (stepAt edit) node = descend (walkLast order edit) pattern node
  | [], _, _ => rfl
  | [last], _, _ => rfl
  | .nothing :: _ :: _, _, _ => rfl
  | .named name :: next :: rest, node, distinct => by
    rw [locations, descend]
    cases found : node.child name with
    | none => rfl
    | some child =>
      have inside : child.Distinct := distinct.children _ (child_mem found)
      rw [Option.elim_some, fold_below distinct.names (fun _ => location_deep) found,
        fold_locations ordered (next :: rest) inside]
  | .every :: next :: rest, node, distinct => by
    have once : (order node).Nodup := (ordered node).nodup_iff.mpr distinct.names
    have present : ∀ name ∈ order node, name ∈ node.names := fun name member =>
      (ordered node).mem_iff.mp member
    rw [locations, descend, fold_flat distinct.names once fun _ _ => location_deep,
      visits_eq distinct.names once present (.inr fun child => by simp)]
    refine congrArg (Option.map node.withEntries) (traverse_congr fun entry member => ?_)
    have named : entry.1 ∈ order node :=
      (ordered node).mem_iff.mpr (List.mem_map_of_mem member)
    rw [among, if_pos named, fold_locations ordered (next :: rest) (distinct.children entry member)]

/-! ## The last step -/

theorem put_eq_install (distinct : node.names.Nodup) (found : node.child name = some child)
    (made : Edit) : node.put name made = node.install name (made.made child) := by
  cases made with
  | keep =>
    rw [Edit.made, Json.install, install_same distinct (child_mem found), with_entries_self]
    rfl
  | set value => rw [Json.put, found, Option.isSome_some, if_pos rfl, Edit.made]
  | delete => rfl

theorem step_last (node : Json) (name : String) :
    stepAt edit node [name] = (edit (node.child name)).map (node.put name) := by
  have read : getAt [name] node = node.child name := by
    rw [getAt]
    cases node.child name <;> rfl
  rw [stepAt, read]
  rfl

theorem fold_last (distinct : node.names.Nodup) (once : names.Nodup)
    (present : ∀ name ∈ names, name ∈ node.names)
    (stays : (∃ members, node = .object members) ∨ ∀ child, edit (some child) ≠ some .delete) :
    (names.map fun name => [name]).foldlM (stepAt edit) node =
      names.foldlM (visit fun child => (edit (some child)).map (·.made child)) node := by
  induction names generalizing node with
  | nil => rfl
  | cons name rest ih =>
    obtain ⟨fresh, once⟩ := List.nodup_cons.mp once
    obtain ⟨child, found⟩ := Option.isSome_iff_exists.mp
      (child_some_iff.mpr (present name List.mem_cons_self))
    rw [List.map_cons, List.foldlM_cons, List.foldlM_cons, step_last, visit, found]
    cases edited : edit (some child) with
    | none =>
      simp only [edited]
      rfl
    | some made =>
      have here : (∃ members, node = .object members) ∨ made.made child ≠ none := by
        refine stays.imp id fun stays => ?_
        cases made with
        | delete => exact absurd edited (stays child)
        | _ => simp [Edit.made]
      have after : (node.install name (made.made child)).entries =
          install name (made.made child) node.entries := entries_install here
      simp only [Option.map_some, put_eq_install distinct found, Option.bind_eq_bind,
        Option.bind_some, edited]
      obtain ⟨distinct, present⟩ := installed_names after distinct fresh present
      refine ih distinct once present ?_
      · refine stays.imp (fun ⟨members, shape⟩ => ?_) id
        subst shape
        exact ⟨_, rfl⟩

theorem walk_last_eq (ordered : ∀ node, (order node).Perm node.names) (distinct : node.names.Nodup)
    (last : Segment)
    (stays : last = .every → (∃ members, node = .object members) ∨
      ∀ child, edit (some child) ≠ some .delete) :
    walkLast order edit last node = editLast edit last node := by
  cases last with
  | nothing => rfl
  | named name =>
    rw [walkLast, lastNames, editLast]
    split
    · rw [List.map_cons, List.map_nil, List.foldlM_cons, step_last]
      cases (edit (node.child name)).map (node.put name) <;> rfl
    · rfl
  | every =>
    have once : (order node).Nodup := (ordered node).nodup_iff.mpr distinct
    have present : ∀ name ∈ order node, name ∈ node.names := fun name member =>
      (ordered node).mem_iff.mp member
    have never : (∃ members, node = .object members) ∨
        ∀ child, (edit (some child)).map (·.made child) ≠ some none := by
      refine (stays rfl).imp id fun stays child gone => ?_
      obtain ⟨made, edited, none_⟩ := Option.map_eq_some_iff.mp gone
      cases made with
      | delete => exact stays child edited
      | _ => cases none_
    rw [walkLast, lastNames, fold_last distinct once present (stays rfl),
      visits_eq distinct once present never, editLast]
    refine congrArg (Option.map node.withEntries) (traverse_congr fun entry member => ?_)
    have named : entry.1 ∈ order node :=
      (ordered node).mem_iff.mpr (List.mem_map_of_mem member)
    rw [among, if_pos named]

/-! ## Where the last step is taken -/

theorem reached_distinct : ∀ {pattern : List Segment} {node parent : Json},
    parent ∈ reached pattern node → node.Distinct → parent.Distinct
  | [], node, parent, member, distinct => by
    rw [List.mem_singleton.mp member]
    exact distinct
  | .nothing :: _, _, _, member, _ => by cases member
  | .every :: rest, node, parent, member, distinct => by
    obtain ⟨entry, inside, below⟩ := List.mem_flatMap.mp member
    exact reached_distinct below (distinct.children entry inside)
  | .named name :: rest, node, parent, member, distinct => by
    rw [reached] at member
    cases found : node.child name with
    | none =>
      rw [found] at member
      cases member
    | some child =>
      rw [found, Option.elim_some] at member
      exact reached_distinct member (distinct.children _ (child_mem found))

theorem descend_congr {first second : Segment → Json → Option Json} :
    ∀ {pattern : List Segment} {node : Json},
      (∀ last, pattern.getLast? = some last → ∀ parent ∈ reached pattern.dropLast node,
        first last parent = second last parent) →
      descend first pattern node = descend second pattern node
  | [], _, _ => rfl
  | [last], node, same => same last rfl node List.mem_cons_self
  | .nothing :: _ :: _, _, _ => rfl
  | .named name :: next :: rest, node, same => by
    rw [descend, descend]
    cases found : node.child name with
    | none => rfl
    | some child =>
      have below : descend first (next :: rest) child = descend second (next :: rest) child :=
        descend_congr fun last ends parent member => same last
          (by rw [List.getLast?_cons_cons, ends]) parent (by
            rw [List.dropLast_cons_cons, reached, found]
            exact member)
      simp only [below]
  | .every :: next :: rest, node, same => by
    refine congrArg (Option.map node.withEntries) (traverse_congr fun entry inside => ?_)
    have below : descend first (next :: rest) entry.2 = descend second (next :: rest) entry.2 :=
      descend_congr fun last ends parent member => same last
        (by rw [List.getLast?_cons_cons, ends]) parent (by
          exact List.mem_flatMap.mpr ⟨entry, inside, member⟩)
    rw [below]

def descendTotal (change : Segment → Json → Json) : List Segment → Json → Json
  | [], node => node
  | [last], node => change last node
  | .nothing :: _ :: _, node => node
  | .every :: next :: rest, node =>
    node.withEntries (node.entries.map fun entry =>
      (entry.1, descendTotal change (next :: rest) entry.2))
  | .named name :: next :: rest, node =>
    match node.child name with
    | none => node
    | some child => node.install name (some (descendTotal change (next :: rest) child))

theorem traverse_total (change : Json → Json) (entries : List (String × Json)) :
    traverse (fun _ child => some (some (change child))) entries =
      some (entries.map fun entry => (entry.1, change entry.2)) := by
  induction entries with
  | nil => rfl
  | cons entry rest ih => rw [traverse, ih]; rfl

theorem descend_total (change : Segment → Json → Json) :
    ∀ (pattern : List Segment) (node : Json),
      descend (fun last parent => some (change last parent)) pattern node =
        some (descendTotal change pattern node)
  | [], _ => rfl
  | [last], _ => rfl
  | .nothing :: _ :: _, _ => rfl
  | .named name :: next :: rest, node => by
    rw [descend, descendTotal]
    cases node.child name with
    | none => rfl
    | some child => simp only [descend_total change (next :: rest) child, Option.map_some]
  | .every :: next :: rest, node => by
    have below : ∀ child, (descend (fun last parent => some (change last parent))
        (next :: rest) child).map some = some (some (descendTotal change (next :: rest) child)) :=
      fun child => by rw [descend_total change (next :: rest) child, Option.map_some]
    simp only [descend, descendTotal, below, traverse_total, Option.map_some]

theorem descend_total_agrees {first second : Segment → Json → Json} :
    ∀ {pattern : List Segment} {node : Json},
      descendTotal first pattern node = descendTotal second pattern node →
      ∀ last, pattern.getLast? = some last → ∀ parent ∈ reached pattern.dropLast node,
        first last parent = second last parent
  | [], _, _, _, ends, _, _ => by cases ends
  | [last], node, same, other, ends, parent, member => by
    rw [List.mem_singleton.mp member, ← Option.some.inj ends]
    exact same
  | .nothing :: _ :: _, _, _, _, _, _, member => by
    cases member
  | .named name :: next :: rest, node, same, last, ends, parent, member => by
    rw [List.dropLast_cons_cons, reached] at member
    rw [descendTotal, descendTotal] at same
    cases found : node.child name with
    | none =>
      rw [found] at member
      cases member
    | some child =>
      rw [found, Option.elim_some] at member
      simp only [found] at same
      have read := congrArg (Json.child · name) same
      simp only [child_install_self found, Option.some.injEq] at read
      exact descend_total_agrees read last ends parent member
  | .every :: next :: rest, node, same, last, ends, parent, member => by
    rw [descendTotal, descendTotal] at same
    obtain ⟨entry, inside, below⟩ := List.mem_flatMap.mp member
    have names : ∀ change : Json → Json,
        (node.entries.map fun entry => (entry.1, change entry.2)).map Prod.fst = node.names := by
      simp [Json.names]
    have read := congrArg Json.entries same
    rw [entries_with_entries (names _), entries_with_entries (names _)] at read
    have child := congrArg Prod.snd (List.map_inj_left.mp read entry inside)
    exact descend_total_agrees child last ends parent below

theorem walk_matched (ordered : ∀ node, (order node).Perm node.names)
    (stays : ∀ current, edit current ≠ some .delete) (pattern : List Segment)
    (distinct : node.Distinct) :
    (locations order pattern node).foldlM (stepAt edit) node = editMatched edit pattern node := by
  rw [fold_locations ordered pattern distinct]
  refine descend_congr fun last _ parent member => ?_
  exact walk_last_eq ordered (reached_distinct member distinct).names last fun _ =>
    .inr fun child => stays (some child)

/-! ## Deletion -/

def deletes (_current : Option Json) : Option Edit := some .delete

def clearLast (last : Segment) (node : Json) : Json :=
  match last with
  | .nothing => node
  | .every => node.withEntries []
  | .named name => if node.admits name then node.install name none else node

def deleteNames (names : List String) (node : Json) : Json :=
  names.foldl (fun node name => node.install name none) node

theorem edit_last_deletes (last : Segment) (node : Json) :
    editLast deletes last node = some (clearLast last node) := by
  cases last with
  | nothing => rfl
  | every =>
    have emptied : ∀ entries : List (String × Json),
        traverse (fun _ child => (deletes (some child)).map (·.made child)) entries = some [] := by
      intro entries
      induction entries with
      | nil => rfl
      | cons entry rest ih => rw [traverse, ih]; rfl
    rw [editLast, emptied]
    rfl
  | named name =>
    rw [editLast, clearLast]
    split <;> rfl

theorem walk_last_deletes (order : Json → List String) (last : Segment) (node : Json) :
    walkLast order deletes last node = some (deleteNames (lastNames order last node) node) := by
  unfold walkLast deleteNames
  generalize lastNames order last node = names
  induction names generalizing node with
  | nil => rfl
  | cons name rest ih => exact ih (node.install name none)

theorem first_item_kept (item : Json) (rest : List Json) (apart : "0" ≠ name) :
    ∃ behind, (Json.array (item :: rest)).install name none = .array (item :: behind) := by
  have entries : (Json.array (item :: rest)).entries =
      ("0", item) :: rest.mapIdx fun index item => ((index + 1).repr, item) := by
    rw [Json.entries, List.mapIdx_cons]
    rfl
  rw [Json.install, entries, install, List.filter_cons, if_pos (by simpa using apart)]
  exact ⟨_, rfl⟩

theorem first_item_stays (item : Json) (rest : List Json) (others : "0" ∉ names) :
    ∃ behind, deleteNames names (.array (item :: rest)) = .array (item :: behind) := by
  induction names generalizing rest with
  | nil => exact ⟨rest, rfl⟩
  | cons name names ih =>
    have apart : "0" ≠ name := fun same => others (same ▸ List.mem_cons_self)
    obtain ⟨behind, kept⟩ := first_item_kept item rest apart
    rw [deleteNames, List.foldl_cons, kept]
    exact ih behind fun member => others (List.mem_cons_of_mem _ member)

theorem second_item_moves (item second : Json) (rest : List Json) :
    ∃ behind, (Json.array (item :: second :: rest)).install "0" none = .array (second :: behind) := by
  have entries : (Json.array (item :: second :: rest)).entries =
      ("0", item) :: ("1", second) :: rest.mapIdx fun index item => ((index + 2).repr, item) := by
    rw [Json.entries, List.mapIdx_cons, List.mapIdx_cons]
    rfl
  rw [Json.install, entries, install, List.filter_cons, if_neg (by simp), List.filter_cons,
    if_pos (by simp)]
  exact ⟨_, rfl⟩

theorem delete_items_iff (items : List Json) :
    deleteNames (Json.array items).names (.array items) = .array [] ↔ items.length ≤ 1 := by
  match items with
  | [] => exact ⟨fun _ => Nat.zero_le 1, fun _ => rfl⟩
  | [item] => exact ⟨fun _ => Nat.le_refl 1, fun _ => rfl⟩
  | item :: second :: rest =>
    refine ⟨fun emptied => ?_, fun few => ?_⟩
    · obtain ⟨behind, moved⟩ := second_item_moves item second rest
      have names : (Json.array (item :: second :: rest)).names =
          "0" :: ((List.range (rest.length + 1)).map Nat.succ).map Nat.repr := by
        rw [array_names, List.length_cons, List.length_cons, List.range_succ_eq_map, List.map_cons]
        rfl
      have others : "0" ∉ ((List.range (rest.length + 1)).map Nat.succ).map Nat.repr := by
        intro member
        obtain ⟨index, inside, same⟩ := List.mem_map.mp member
        obtain ⟨before, _, rfl⟩ := List.mem_map.mp inside
        have zero : before.succ = 0 := index_name_injective same
        omega
      obtain ⟨left_, stays⟩ := first_item_stays second behind others
      rw [names, deleteNames, List.foldl_cons, moved] at emptied
      rw [deleteNames] at stays
      rw [stays] at emptied
      cases emptied
    · simp at few

theorem delete_names_iff (ordered : ∀ node, (order node).Perm node.names)
    (indexed : ∀ items, order (.array items) = (Json.array items).names)
    (distinct : node.names.Nodup) (last : Segment) :
    deleteNames (lastNames order last node) node = clearLast last node ↔
      (last = .every → ∀ items, node = .array items → items.length ≤ 1) := by
  have cleared : (last = .every → ∃ members, node = .object members) →
      deleteNames (lastNames order last node) node = clearLast last node := by
    intro stays
    have walked : walkLast order deletes last node = editLast deletes last node :=
      walk_last_eq ordered distinct last fun every => .inl (stays every)
    rw [walk_last_deletes, edit_last_deletes] at walked
    exact Option.some.inj walked
  have unordered : node.names = [] → order node = [] := by
    intro empty
    have same := ordered node
    rw [empty] at same
    exact List.perm_nil.mp same
  by_cases every : last = .every
  · subst every
    cases node with
    | array items =>
      have items_ := delete_items_iff items
      rw [lastNames, indexed, clearLast]
      refine items_.trans ⟨fun few _ other same => ?_, fun few => few rfl items rfl⟩
      cases same
      exact few
    | object members =>
      exact ⟨fun _ _ items same => by (cases same), fun _ => cleared fun _ => ⟨members, rfl⟩⟩
    | _ =>
      rw [lastNames, unordered rfl]
      exact ⟨fun _ _ items same => by (cases same), fun _ => rfl⟩
  · exact ⟨fun _ same => absurd same every, fun _ => cleared fun same => absurd same every⟩

theorem deletion_walk_iff (ordered : ∀ node, (order node).Perm node.names)
    (indexed : ∀ items, order (.array items) = (Json.array items).names) (pattern : List Segment)
    (distinct : node.Distinct) :
    (locations order pattern node).foldlM (stepAt deletes) node =
        editMatched deletes pattern node ↔
      (pattern.getLast? = some .every → ∀ items, .array items ∈ reached pattern.dropLast node →
        items.length ≤ 1) := by
  have walked : walkLast order deletes = fun last parent =>
      some (deleteNames (lastNames order last parent) parent) := by
    funext last parent
    exact walk_last_deletes order last parent
  have cleared : editLast deletes = fun last parent => some (clearLast last parent) := by
    funext last parent
    exact edit_last_deletes last parent
  rw [fold_locations ordered pattern distinct, editMatched, walked, cleared]
  constructor
  · intro same ends items member
    rw [descend_total, descend_total] at same
    have agrees := descend_total_agrees (Option.some.inj same) .every ends _ member
    exact (delete_names_iff ordered indexed (array_names_nodup items) .every).mp agrees rfl items rfl
  · intro few
    refine descend_congr fun last ends parent member => congrArg some ?_
    refine (delete_names_iff ordered indexed (reached_distinct member distinct).names last).mpr ?_
    rintro rfl items rfl
    exact few ends items member

/-! ## Paths that can be walked -/

def Addressable (setting : Bool) : List String → Json → Prop
  | [], _ => False
  | [name], node => node.names.Nodup ∧ (setting = true → node.admits name = true)
  | name :: next :: rest, node =>
    node.names.Nodup ∧ ∃ child, node.child name = some child ∧ Addressable setting (next :: rest) child

theorem Addressable.deep (walks : Addressable setting path node) :
    path ≠ [] := by
  rintro rfl
  exact walks

theorem Addressable.read : ∀ {path : List String} {node : Json},
    Addressable true path node → Addressable false path node
  | [_], _, walks => ⟨walks.1, fun set => by cases set⟩
  | _ :: _ :: _, _, ⟨names, child, found, walks⟩ => ⟨names, child, found, walks.read⟩

theorem below_addressable (distinct : node.Distinct)
    (member : path ∈ ((node.child name).elim [] (locations order (next :: rest))).map (name :: ·))
    (walks : ∀ child, node.child name = some child → ∀ below, below ∈ locations order (next :: rest) child →
      Addressable true below child) : Addressable true path node := by
  obtain ⟨below, inside, rfl⟩ := List.mem_map.mp member
  cases found : node.child name with
  | none =>
    rw [found] at inside
    cases inside
  | some child =>
    rw [found, Option.elim_some] at inside
    have walked := walks child found below inside
    cases below with
    | nil => exact walked.elim
    | cons second below => exact ⟨distinct.names, child, found, walked⟩

theorem location_addressable (ordered : ∀ node, (order node).Perm node.names) :
    ∀ {pattern : List Segment} {node : Json} {path : List String},
      path ∈ locations order pattern node → node.Distinct → Addressable true path node
  | [last], node, path, member, distinct => by
    obtain ⟨name, inside, rfl⟩ := List.mem_map.mp member
    refine ⟨distinct.names, fun _ => ?_⟩
    cases last with
    | nothing => cases inside
    | named name =>
      rw [lastNames] at inside
      split at inside
      · rename_i admitted
        rw [List.mem_singleton.mp inside]
        exact admitted
      · cases inside
    | every =>
      rw [Json.admits, Bool.or_eq_true]
      exact .inl (child_some_iff.mpr ((ordered node).mem_iff.mp inside))
  | .named name :: next :: rest, node, path, member, distinct => by
    rw [locations] at member
    exact below_addressable distinct member fun child found below inside =>
      location_addressable ordered inside (distinct.children _ (child_mem found))
  | .every :: next :: rest, node, path, member, distinct => by
    obtain ⟨name, _, member⟩ := List.mem_flatMap.mp member
    exact below_addressable distinct member fun child found below inside =>
      location_addressable ordered inside (distinct.children _ (child_mem found))

theorem location_length : ∀ {pattern : List Segment} {node : Json} {path : List String},
    path ∈ locations order pattern node → path.length = pattern.length
  | [last], _, _, member => by
    obtain ⟨name, _, rfl⟩ := List.mem_map.mp member
    rfl
  | .named name :: next :: rest, node, path, member => by
    obtain ⟨below, inside, rfl⟩ := List.mem_map.mp member
    cases found : node.child name with
    | none =>
      rw [found] at inside
      cases inside
    | some child =>
      rw [found, Option.elim_some] at inside
      exact congrArg (· + 1) (location_length inside)
  | .every :: next :: rest, node, path, member => by
    obtain ⟨name, _, member⟩ := List.mem_flatMap.mp member
    obtain ⟨below, inside, rfl⟩ := List.mem_map.mp member
    cases found : node.child name with
    | none =>
      rw [found] at inside
      cases inside
    | some child =>
      rw [found, Option.elim_some] at inside
      exact congrArg (· + 1) (location_length inside)

theorem locations_nodup (ordered : ∀ node, (order node).Perm node.names) :
    ∀ {pattern : List Segment} {node : Json}, node.Distinct → (locations order pattern node).Nodup
  | [], _, _ => List.nodup_nil
  | [last], node, distinct => by
    refine List.Nodup.map (fun _ _ same => List.head_eq_of_cons_eq same) ?_
    cases last with
    | nothing => exact List.nodup_nil
    | every => exact (ordered node).nodup_iff.mpr distinct.names
    | named name =>
      rw [lastNames]
      split
      · exact List.nodup_singleton name
      · exact List.nodup_nil
  | .nothing :: _ :: _, _, _ => List.nodup_nil
  | .named name :: next :: rest, node, distinct => by
    rw [locations]
    cases found : node.child name with
    | none => exact List.nodup_nil
    | some child =>
      exact List.Nodup.map (fun _ _ same => List.tail_eq_of_cons_eq same)
        (locations_nodup ordered (distinct.children _ (child_mem found)))
  | .every :: next :: rest, node, distinct => by
    rw [locations, List.nodup_flatMap]
    constructor
    · intro name _
      cases found : node.child name with
      | none => exact List.nodup_nil
      | some child =>
        exact List.Nodup.map (fun _ _ same => List.tail_eq_of_cons_eq same)
          (locations_nodup ordered (distinct.children _ (child_mem found)))
    · refine List.Pairwise.imp ?_ ((ordered node).nodup_iff.mpr distinct.names)
      intro name other apart path first second
      obtain ⟨_, _, rfl⟩ := List.mem_map.mp first
      obtain ⟨_, _, same⟩ := List.mem_map.mp second
      exact apart (List.head_eq_of_cons_eq same).symm

theorem put_names_nodup (distinct : node.names.Nodup) (name : String) (made : Edit) :
    (node.put name made).names.Nodup := by
  have gone : (node.install name none).names.Nodup := by
    cases node with
    | array items => exact array_names_nodup _
    | object members => exact (installed_names_sublist name none members).nodup distinct
    | _ => exact distinct
  cases made with
  | keep => exact distinct
  | delete => exact gone
  | set value =>
    rw [Json.put]
    split
    · rw [names_install]
      exact distinct
    · rename_i absent
      cases node with
      | object members =>
        have fresh : name ∉ members.map Prod.fst := fun member =>
          absent (child_some_iff.mpr member)
        have names : ((Json.object members).append name value).names =
            members.map Prod.fst ++ [name] := by
          simp [Json.append, Json.names, Json.entries]
        rw [names]
        refine List.nodup_append.mpr ⟨distinct, List.nodup_singleton name, ?_⟩
        rintro other member _ last rfl
        exact fresh (List.mem_singleton.mp last ▸ member)
      | _ => exact distinct

theorem put_admits (stays : made ≠ .delete)
    (admitted : node.admits name = true) : (node.put other made).admits name = true := by
  rw [Json.admits, Bool.or_eq_true] at admitted ⊢
  cases made with
  | keep => exact admitted
  | delete => exact absurd rfl stays
  | set value =>
    rw [Json.put]
    split
    · rw [child_some_iff, names_install, ← child_some_iff]
      refine admitted.imp id fun object => ?_
      cases node <;> exact object
    · cases node with
      | object members => exact .inr rfl
      | _ => exact admitted

theorem edit_addressable (stays : setting = true → made ≠ .delete) :
    ∀ {path other : List String} {node : Json}, path.length = other.length →
      Addressable setting path node → Addressable setting path (editAt made other node)
  | [name], [other], node, _, walks =>
    ⟨put_names_nodup walks.1 other made, fun set => put_admits (stays set) (walks.2 set)⟩
  | name :: next :: rest, other :: second :: below, node, length, walks => by
    obtain ⟨names, child, found, inside⟩ := walks
    rw [editAt]
    cases held : node.child other with
    | none => exact ⟨names, child, found, inside⟩
    | some sibling =>
      refine ⟨by rw [names_install]; exact names, ?_⟩
      by_cases same : name = other
      · subst same
        cases Option.some.inj (found.symm.trans held)
        refine ⟨_, child_install_self held, edit_addressable stays ?_ inside⟩
        exact Nat.succ.inj length
      · refine ⟨child, ?_, inside⟩
        rw [Json.child, entries_install (.inr (by simp)), lookup_install_ne same]
        exact found

theorem edit_keeps : ∀ {path : List String} {node : Json},
    Addressable setting path node → editAt .keep path node = node
  | [_], _, _ => rfl
  | name :: next :: rest, node, ⟨names, child, found, inside⟩ => by
    rw [editAt, found]
    simp only [edit_keeps inside]
    rw [Json.install, install_same names (child_mem found), with_entries_self]

end NewApi.JsonTree
