import NewApi.JsonTree

/-! Places in JSON trees. A value is set at a path, and the containers that are not
there yet are made on the way; what stands beside the path stays. Deleting an item
moves the items behind it, and with them the places that lead through them: a value
that is set before the deletion is found at the place that its own has become. -/
namespace NewApi.TreePlaces
open NewApi.JsonTree

/-! ## Setting -/

def indexOf (name : String) : Option Nat :=
  let index := Nat.ofDigitChars 10 name.toList 0
  if index.repr = name then some index else none

def container (name : String) (child : Json) : Json :=
  match indexOf name with
  | some index => .array (List.replicate index .null ++ [child])
  | none => .object [(name, child)]

def build : List String → Json → Json
  | [], value => value
  | name :: rest, value => container name (build rest value)

def grow (node : Json) (name : String) (child : Json) : Option Json :=
  match node with
  | .object members => some (.object (members ++ [(name, child)]))
  | .array items => (indexOf name).map fun index =>
    .array (items ++ List.replicate (index - items.length) .null ++ [child])
  | _ => some (container name child)

def setAt : List String → Json → Json → Option Json
  | [], value, _ => some value
  | name :: rest, value, node =>
    match node.child name with
    | some child => (setAt rest value child).map fun made => node.install name (some made)
    | none => grow node name (build rest value)

def Settable (place : List String) (base : Json) : Prop := (setAt place .null base).isSome

/-- The path of an item in front of the one that a path leads to or through, in the
same array. -/
inductive InFront : List String → List String → Prop
  | here {index behind : Nat} (rest : List String) (less : index < behind) :
      InFront [index.repr] (behind.repr :: rest)
  | inside {path place : List String} (name : String) (front : InFront path place) :
      InFront (name :: path) (name :: place)

def kind : Json → Option Bool
  | .object _ => some true
  | .array _ => some false
  | _ => none

/-- A tree that has the value at the place and is the base elsewhere: what is read on
any other path is what the base has there, and a container on the way is still one of
its kind. Where the base has nothing in front of a new item, there is null. -/
structure Placed (place : List String) (value base result : Json) : Prop where
  found : getAt place result = some value
  others : ∀ path, ¬ path <+: place → ¬ place <+: path →
    getAt path result = getAt path base ∨
      getAt path base = none ∧ getAt path result = some .null ∧ InFront path place
  containers : ∀ path node, path <+: place → path ≠ place → getAt path base = some node →
    kind node ≠ none → ∃ made, getAt path result = some made ∧ kind made = kind node

variable {node base child made : Json} {name other : String} {items : List Json}
  {rest place : List String}

theorem index_of_repr (index : Nat) : indexOf index.repr = some index := by
  have read : Nat.ofDigitChars 10 index.repr.toList 0 = index := by
    rw [Nat.toList_repr, Nat.ofDigitChars_ten_toDigits]
  rw [indexOf, read]
  exact if_pos rfl

theorem index_of_some (named : indexOf name = some index) : name = index.repr := by
  unfold indexOf at named
  dsimp only at named
  split at named
  case isTrue same =>
    rw [← Option.some.inj named]
    exact same.symm
  case isFalse => cases named

theorem no_item (named : indexOf name = none) (items : List Json) :
    (Json.array items).child name = none := by
  cases found : (Json.array items).child name with
  | none => rfl
  | some child =>
    obtain ⟨index, rfl, -⟩ := array_child_index found
    rw [index_of_repr] at named
    cases named

theorem get_cons (name : String) (path : List String) (node : Json) :
    getAt (name :: path) node = (node.child name).bind (getAt path) := rfl

theorem get_null (deep : path ≠ []) : getAt path .null = none := by
  cases path with
  | nil => exact absurd rfl deep
  | cons name rest => rfl

def Holds (name : String) (child base made : Json) : Prop :=
  ∀ other, made.child other = (if other = name then some child else base.child other) ∨
    base.child other = none ∧ made.child other = some .null ∧ InFront [other] [name]

theorem in_front_cons : InFront (name :: path) (other :: place) ↔
    (∃ index behind : Nat, name = index.repr ∧ other = behind.repr ∧ index < behind ∧ path = []) ∨
      name = other ∧ InFront path place := by
  constructor
  · intro front
    generalize first : name :: path = near at front
    generalize second : other :: place = far at front
    cases front with
    | here rest less =>
      obtain ⟨rfl, rfl⟩ := List.cons.inj first
      exact .inl ⟨_, _, rfl, (List.cons.inj second).1, less, rfl⟩
    | inside step front =>
      obtain ⟨rfl, rfl⟩ := List.cons.inj first
      obtain ⟨rfl, rfl⟩ := List.cons.inj second
      exact .inr ⟨rfl, front⟩
  · rintro (⟨index, behind, rfl, rfl, less, rfl⟩ | ⟨rfl, front⟩)
    · exact .here place less
    · exact .inside name front

theorem InFront.not_above (front : InFront path place) : ¬ path <+: place := by
  induction front with
  | here rest less =>
    intro above
    have same := index_name_injective (List.cons_prefix_cons.mp above).1
    omega
  | inside name front ih => exact fun above => ih (List.cons_prefix_cons.mp above).2

theorem Holds.self (holds : Holds name child base made) : made.child name = some child := by
  rcases holds name with here | ⟨_, _, front⟩
  · rwa [if_pos rfl] at here
  · exact absurd (List.prefix_refl [name]) front.not_above

theorem Holds.beside (holds : Holds name child base made) (apart : other ≠ name) :
    made.child other = base.child other ∨
      base.child other = none ∧ made.child other = some .null ∧ InFront [other] [name] :=
  (holds other).imp_left fun here => by rwa [if_neg apart] at here

theorem install_holds (present : (node.child name).isSome) (child : Json) :
    Holds name child node (node.install name (some child)) := by
  intro other
  left
  by_cases same : other = name
  · obtain ⟨old, found⟩ := Option.isSome_iff_exists.mp present
    rw [if_pos same, same, child_install_self found]
  · rw [if_neg same, Json.child, entries_install (.inr (by simp)), lookup_install_ne same]
    rfl

theorem filled_holds (behind : items.length ≤ index) :
    Holds index.repr child (.array items)
      (.array (items ++ List.replicate (index - items.length) .null ++ [child])) := by
  intro other
  cases named : indexOf other with
  | none =>
    left
    have apart : other ≠ index.repr := by
      rintro rfl
      rw [index_of_repr] at named
      cases named
    rw [no_item named, no_item named, if_neg apart]
  | some position =>
    obtain rfl := index_of_some named
    rw [array_child, array_child]
    by_cases inside : position < items.length
    · left
      have apart : position.repr ≠ index.repr := fun same => by
        have := index_name_injective same
        omega
      rw [if_neg apart, List.append_assoc, List.getElem?_append_left inside]
    · by_cases before : position < index
      · right
        refine ⟨List.getElem?_eq_none (by omega), ?_, .here [] before⟩
        rw [List.append_assoc, List.getElem?_append_right (by omega),
          List.getElem?_append_left (by simp; omega), List.getElem?_replicate, if_pos (by omega)]
      · left
        by_cases last : position = index
        · subst last
          rw [if_pos rfl, List.getElem?_append_right (by simp; omega)]
          simp [Nat.add_sub_cancel' behind]
        · have apart : position.repr ≠ index.repr := fun same => last (index_name_injective same)
          rw [if_neg apart, List.getElem?_eq_none (by simp; omega), List.getElem?_eq_none (by omega)]

theorem container_holds (childless : ∀ other, base.child other = none) (name : String)
    (child : Json) : Holds name child base (container name child) := by
  intro other
  unfold container
  cases named : indexOf name with
  | none =>
    left
    rw [childless other, Json.child, Json.entries]
    by_cases same : other = name
    · simp [same]
    · have differs : (other == name) = false := beq_false_of_ne same
      simp [List.lookup_cons, differs, same]
  | some index =>
    obtain rfl := index_of_some named
    have filled : Holds index.repr child (.array [])
        (.array ([] ++ List.replicate (index - 0) .null ++ [child])) :=
      filled_holds (Nat.zero_le index)
    have empty : (Json.array []).child other = none := rfl
    rw [childless, ← empty]
    exact filled other

theorem grow_holds (absent : node.child name = none) (grown : grow node name child = some made) :
    Holds name child node made := by
  cases node with
  | object members =>
    cases grown
    intro other
    left
    have shape : (Json.object (members ++ [(name, child)])).child other =
        (members.lookup other).or (List.lookup other [(name, child)]) := List.lookup_append
    by_cases same : other = name
    · rw [if_pos same, shape, same, show members.lookup name = none from absent]
      simp
    · have differs : (other == name) = false := beq_false_of_ne same
      rw [if_neg same, shape, List.lookup_cons, differs]
      exact Option.or_none
  | array items =>
    obtain ⟨index, named, rfl⟩ := Option.map_eq_some_iff.mp grown
    obtain rfl := index_of_some named
    rw [array_child, List.getElem?_eq_none_iff] at absent
    exact filled_holds absent
  | null | bool | number | string =>
    cases grown
    exact container_holds (fun _ => rfl) name child

theorem grow_kind (grown : grow node name child = some made) (inner : kind node ≠ none) :
    kind made = kind node := by
  cases node with
  | object members =>
    cases grown
    rfl
  | array items =>
    obtain ⟨index, -, rfl⟩ := Option.map_eq_some_iff.mp grown
    rfl
  | null | bool | number | string => exact absurd rfl inner

theorem install_kind (node : Json) (name : String) (made : Option Json) :
    kind (node.install name made) = kind node := by
  cases node <;> rfl

theorem grow_names (absent : node.child name = none) (grown : grow node name child = some made)
    (distinct : node.names.Nodup) : made.names.Nodup := by
  cases node with
  | object members =>
    cases grown
    have fresh : name ∉ members.map Prod.fst := fun member => by
      have present : ((Json.object members).child name).isSome := child_some_iff.mpr member
      rw [absent] at present
      cases present
    have names : (Json.object (members ++ [(name, child)])).names = members.map Prod.fst ++ [name] := by
      simp [Json.names, Json.entries]
    rw [names]
    refine List.nodup_append.mpr ⟨distinct, List.nodup_singleton name, ?_⟩
    rintro other member _ last rfl
    exact fresh (List.mem_singleton.mp last ▸ member)
  | array items =>
    obtain ⟨index, -, rfl⟩ := Option.map_eq_some_iff.mp grown
    exact array_names_nodup _
  | null | bool | number | string =>
    cases grown
    unfold container
    split
    · exact array_names_nodup _
    · exact List.nodup_singleton name

theorem set_null (path : List String) (value : Json) : setAt path value .null = some (build path value) := by
  cases path <;> rfl

theorem set_step (stored : setAt (name :: rest) value base = some result) :
    ∃ inner, setAt rest value ((base.child name).getD .null) = some inner ∧
      Holds name inner base result ∧ (kind base ≠ none → kind result = kind base) ∧
      (base.names.Nodup → result.names.Nodup) := by
  rw [setAt] at stored
  cases found : base.child name with
  | none =>
    rw [found] at stored
    exact ⟨build rest value, set_null rest value, grow_holds found stored, grow_kind stored,
      grow_names found stored⟩
  | some child =>
    rw [found] at stored
    obtain ⟨inner, below, rfl⟩ := Option.map_eq_some_iff.mp stored
    refine ⟨inner, below, install_holds (by rw [found]; rfl) inner, fun _ => install_kind .., ?_⟩
    rw [names_install]
    exact id

theorem set_placed (stored : setAt place value base = some result) : Placed place value base result := by
  induction place generalizing base result with
  | nil =>
    cases stored
    exact ⟨rfl, fun path _ apart => absurd List.nil_prefix apart,
      fun path node above proper => absurd (List.prefix_nil.mp above) proper⟩
  | cons name rest ih =>
    obtain ⟨inner, below, holds, sameKind, -⟩ := set_step stored
    have placed := ih below
    refine ⟨?_, ?_, ?_⟩
    · rw [get_cons, holds.self]
      exact placed.found
    · intro path apart away
      cases path with
      | nil => exact absurd List.nil_prefix apart
      | cons other more =>
        rw [get_cons, get_cons]
        by_cases same : other = name
        · subst same
          have deep : more ≠ [] := by
            rintro rfl
            exact apart (List.cons_prefix_cons.mpr ⟨rfl, List.nil_prefix⟩)
          have read : getAt more ((base.child other).getD .null) =
              (base.child other).bind (getAt more) := by
            cases base.child other with
            | none => exact get_null deep
            | some child => rfl
          rw [holds.self, ← read]
          refine (placed.others more ?_ ?_).imp_right fun ⟨none_, padded, front⟩ =>
            ⟨none_, padded, .inside other front⟩
          · exact fun above => apart (List.cons_prefix_cons.mpr ⟨rfl, above⟩)
          · exact fun above => away (List.cons_prefix_cons.mpr ⟨rfl, above⟩)
        · rcases holds.beside same with kept | ⟨none_, padded, front⟩
          · exact .inl (by rw [kept])
          · rw [none_, padded]
            cases more with
            | cons next more => exact .inl rfl
            | nil =>
              cases front with
              | here _ less => exact .inr ⟨rfl, rfl, .here rest less⟩
              | inside _ front => cases front
    · intro path node above proper read inner_
      cases path with
      | nil =>
        cases read
        exact ⟨result, rfl, sameKind inner_⟩
      | cons other more =>
        obtain ⟨rfl, aboveRest⟩ := List.cons_prefix_cons.mp above
        rw [get_cons] at read
        obtain ⟨child, found, read⟩ := Option.bind_eq_some_iff.mp read
        rw [get_cons, holds.self]
        refine placed.containers more node aboveRest (fun same => proper (by rw [same])) ?_ inner_
        rwa [found]

/-! ## Where a value can be set -/

theorem grow_some (node : Json) (name : String) (first second : Json) :
    (grow node name first).isSome = (grow node name second).isSome := by
  cases node with
  | array items => simp [grow]
  | _ => rfl

theorem set_some (place : List String) (first second base : Json) :
    (setAt place first base).isSome = (setAt place second base).isSome := by
  induction place generalizing base with
  | nil => rfl
  | cons name rest ih =>
    rw [setAt, setAt]
    cases base.child name with
    | none => exact grow_some base name _ _
    | some child => simp [ih child]

theorem settable_iff (place : List String) (value base : Json) :
    Settable place base ↔ ∃ result, setAt place value base = some result := by
  rw [Settable, set_some place .null value, Option.isSome_iff_exists]

theorem settable_there (there : (getAt place base).isSome) : Settable place base := by
  rw [Settable]
  induction place generalizing base with
  | nil => rfl
  | cons name rest ih =>
    rw [get_cons] at there
    rw [setAt]
    cases found : base.child name with
    | none =>
      rw [found] at there
      cases there
    | some child =>
      rw [found] at there
      simp [ih there]

/-! ## Deleting -/

def lowered (gone index : Nat) : Nat := if gone < index then index - 1 else index

def follow : List String → Json → List String → List String
  | [name], .array _, other :: rest =>
    match indexOf name, indexOf other with
    | some gone, some index => (lowered gone index).repr :: rest
    | _, _ => other :: rest
  | name :: next :: more, node, other :: rest =>
    if name = other then
      other :: (node.child name).elim rest fun child => follow (next :: more) child rest
    else other :: rest
  | _, _, place => place

theorem install_item (items : List Json) (index : Nat) (value : Json) :
    (Json.array items).install index.repr (some value) = .array (items.set index value) := by
  refine congrArg Json.array (List.ext_getElem (by simp [install, Json.entries]) fun at_ _ _ => ?_)
  by_cases same : at_ = index
  · subst same
    simp [install, Json.entries]
  · have apart : at_.repr ≠ index.repr := fun equal => same (index_name_injective equal)
    simp [install, Json.entries, apart, Ne.symm same]

theorem erase_counted (items : List Json) (index first : Nat) :
    ((items.mapIdx fun at_ item => ((at_ + first).repr, item)).filter fun entry =>
      entry.1 ≠ (index + first).repr).map Prod.snd = items.eraseIdx index := by
  induction items generalizing index first with
  | nil => rfl
  | cons item items ih =>
    have behind : (items.mapIdx fun at_ item => ((at_ + 1 + first).repr, item)) =
        items.mapIdx fun at_ item => ((at_ + (first + 1)).repr, item) := by
      simp only [Nat.add_assoc, Nat.add_comm 1]
    rw [List.mapIdx_cons, behind]
    cases index with
    | zero =>
      have others : (items.mapIdx fun at_ item => ((at_ + (first + 1)).repr, item)).filter
          (fun entry => entry.1 ≠ (0 + first).repr) =
          items.mapIdx fun at_ item => ((at_ + (first + 1)).repr, item) := by
        refine List.filter_eq_self.mpr fun entry member => decide_eq_true fun same => ?_
        obtain ⟨at_, _, rfl⟩ := List.mem_mapIdx.mp member
        have := index_name_injective same
        omega
      rw [List.filter_cons, if_neg (by simp), others]
      exact List.ext_getElem (by simp) fun at_ _ _ => by simp
    | succ index =>
      have apart : (0 + first).repr ≠ (index + 1 + first).repr := fun same => by
        have := index_name_injective same
        omega
      have rest := ih index (first + 1)
      rw [show index + (first + 1) = index + 1 + first by omega] at rest
      rw [List.filter_cons, if_pos (decide_eq_true apart), List.map_cons, rest]
      rfl

theorem delete_item (items : List Json) (index : Nat) :
    (Json.array items).install index.repr none = .array (items.eraseIdx index) :=
  congrArg Json.array (erase_counted items index 0)

theorem install_comm (apart : name ≠ other) (made : Option Json)
    (value : Json) : install name made (install other (some value) entries) =
      install other (some value) (install name made entries) := by
  have kept : ∀ entry : String × Json,
      (if entry.1 = other then (other, value) else entry).1 = entry.1 := by
    intro entry
    split
    case isTrue same => exact same.symm
    case isFalse => rfl
  cases made with
  | none =>
    simp only [install, List.filter_map]
    refine congrArg _ (List.filter_congr fun entry _ => ?_)
    simp only [Function.comp_apply, kept]
  | some made =>
    simp only [install, List.map_map]
    refine List.map_congr_left fun entry _ => ?_
    by_cases first : entry.1 = name
    · simp [first, apart]
    · by_cases second : entry.1 = other
      · simp [second, Ne.symm apart]
      · simp [first, second]

theorem node_install_comm {made : Option Json} (apart : name ≠ other)
    (stays : (∃ members, node = .object members) ∨ made ≠ none) (value : Json) :
    (node.install other (some value)).install name made =
      (node.install name made).install other (some value) := by
  have first : (node.install other (some value)).entries =
      install other (some value) node.entries := entries_install (.inr (by simp))
  have second : (node.install name made).entries = install name made node.entries :=
    entries_install stays
  rw [Json.install, first, Json.install, with_entries_twice, install_comm apart, Json.install,
    second, Json.install, with_entries_twice]

theorem child_install_ne {made : Option Json} (apart : other ≠ name)
    (stays : (∃ members, node = .object members) ∨ made ≠ none) :
    (node.install name made).child other = node.child other := by
  rw [Json.child, entries_install stays, lookup_install_ne apart]
  rfl

theorem grow_installed {made : Option Json} (present : (node.child name).isSome)
    (stays : (∃ members, node = .object members) ∨ made ≠ none) (apart : other ≠ name)
    (grown : grow node other value = some result) :
    grow (node.install name made) other value = some (result.install name made) := by
  cases node with
  | object members =>
    cases grown
    have shape : install name made (members ++ [(other, value)]) =
        install name made members ++ [(other, value)] := by
      cases made <;> simp [install, apart]
    exact congrArg (some ∘ Json.object) shape.symm
  | array items =>
    obtain ⟨child, found⟩ := Option.isSome_iff_exists.mp present
    obtain ⟨index, rfl, inside⟩ := array_child_index found
    obtain ⟨position, named, rfl⟩ := Option.map_eq_some_iff.mp grown
    cases made with
    | none => simp at stays
    | some made =>
      rw [install_item, install_item, grow, named, Option.map_some, List.length_set,
        List.append_assoc items, List.set_append_left _ _ inside, List.append_assoc]
  | null | bool | number | string => cases present

theorem set_installed {made : Option Json} (present : (node.child name).isSome)
    (stays : (∃ members, node = .object members) ∨ made ≠ none) (apart : other ≠ name)
    (stored : setAt (other :: rest) value node = some result) :
    setAt (other :: rest) value (node.install name made) = some (result.install name made) := by
  rw [setAt] at stored ⊢
  rw [child_install_ne apart stays]
  cases found : node.child other with
  | none =>
    rw [found] at stored
    exact grow_installed present stays apart stored
  | some child =>
    rw [found] at stored
    obtain ⟨inner, below, rfl⟩ := Option.map_eq_some_iff.mp stored
    simp only [below, Option.map_some, node_install_comm (Ne.symm apart) stays inner]

theorem set_deleted_item (inside : index < items.length) (apart : other ≠ index.repr)
    (stored : setAt (other :: rest) value (.array items) = some result) :
    setAt (follow [index.repr] (.array items) (other :: rest)) value
        ((Json.array items).install index.repr none) =
      some (result.install index.repr none) := by
  rw [setAt] at stored
  obtain ⟨position, rfl⟩ : ∃ position : Nat, other = position.repr := by
    cases found : (Json.array items).child other with
    | some child =>
      obtain ⟨position, same, -⟩ := array_child_index found
      exact ⟨position, same⟩
    | none =>
      rw [found] at stored
      obtain ⟨position, named, -⟩ := Option.map_eq_some_iff.mp stored
      exact ⟨position, index_of_some named⟩
  have differs : position ≠ index := fun same => apart (by rw [same])
  have followed : follow [index.repr] (.array items) (position.repr :: rest) =
      (lowered index position).repr :: rest := by
    rw [follow, index_of_repr, index_of_repr]
  have length : (items.eraseIdx index).length = items.length - 1 :=
    List.length_eraseIdx_of_lt inside
  have read : (items.eraseIdx index)[lowered index position]? = items[position]? := by
    rw [List.getElem?_eraseIdx, lowered]
    by_cases behind : index < position
    · rw [if_pos behind, if_neg (by omega), Nat.sub_add_cancel (by omega)]
    · rw [if_neg behind, if_pos (by omega)]
  rw [followed, delete_item, setAt, array_child, read]
  rw [array_child] at stored
  cases found : items[position]? with
  | some child =>
    rw [found] at stored
    obtain ⟨inner, below, rfl⟩ := Option.map_eq_some_iff.mp stored
    simp only [below, Option.map_some, install_item, delete_item, lowered]
    by_cases behind : index < position
    · rw [if_pos behind, List.eraseIdx_set_lt behind]
    · rw [if_neg behind, List.eraseIdx_set_gt (by omega)]
  | none =>
    rw [found] at stored
    rw [List.getElem?_eq_none_iff] at found
    simp only [grow, index_of_repr, Option.map_some, Option.some.injEq] at stored ⊢
    rw [← stored, delete_item, List.append_assoc items, List.eraseIdx_append_of_lt_length inside,
      List.append_assoc, lowered, if_pos (by omega), length]
    rw [show position - 1 - (items.length - 1) = position - items.length by omega]

theorem set_deleted {gone : List String} (there : (getAt gone base).isSome)
    (apart : ¬ gone <+: place) (away : ¬ place <+: gone)
    (stored : setAt place value base = some result) :
    setAt (follow gone base place) value (editAt .delete gone base) =
      some (editAt .delete gone result) := by
  induction gone generalizing base place result with
  | nil => exact absurd List.nil_prefix apart
  | cons name more ih =>
    cases place with
    | nil => exact absurd List.nil_prefix away
    | cons other rest =>
      rw [get_cons] at there
      cases found : base.child name with
      | none =>
        rw [found] at there
        cases there
      | some child =>
        rw [found, Option.bind_some] at there
        have present : (base.child name).isSome := by rw [found]; rfl
        cases more with
        | nil =>
          have differs : other ≠ name := by
            rintro rfl
            exact apart (List.cons_prefix_cons.mpr ⟨rfl, List.nil_prefix⟩)
          change setAt _ value (base.install name none) = some (result.install name none)
          cases base with
          | object members => exact set_installed present (.inl ⟨members, rfl⟩) differs stored
          | array items =>
            obtain ⟨index, rfl, inside⟩ := array_child_index found
            exact set_deleted_item inside differs stored
          | null | bool | number | string => cases found
        | cons next more =>
          rw [edit_at_below (List.cons_ne_nil _ _) .delete found]
          by_cases same : name = other
          · subst same
            rw [setAt, found] at stored
            obtain ⟨inner, below, rfl⟩ := Option.map_eq_some_iff.mp stored
            have deleted := ih there (fun above => apart (List.cons_prefix_cons.mpr ⟨rfl, above⟩))
              (fun above => away (List.cons_prefix_cons.mpr ⟨rfl, above⟩)) below
            rw [edit_at_below (List.cons_ne_nil _ _) .delete (child_install_self found), install_twice]
            rw [follow, if_pos rfl, found, Option.elim_some, setAt, child_install_self found]
            simp only [deleted, Option.map_some, install_twice]
          · have followed : follow (name :: next :: more) base (other :: rest) = other :: rest := by
              rw [follow, if_neg same]
            obtain ⟨inner, -, holds, -⟩ := set_step stored
            have still : result.child name = some child := by
              rcases holds.beside same with kept | ⟨none_, _⟩
              · rw [kept, found]
              · rw [none_] at found
                cases found
            rw [followed, edit_at_below (List.cons_ne_nil _ _) .delete still]
            exact set_installed present (.inr (by simp)) (Ne.symm same) stored

theorem delete_installed (node : Json) (name : String) (value : Json) :
    (node.install name (some value)).install name none = node.install name none := by
  have entries : (node.install name (some value)).entries =
      install name (some value) node.entries := entries_install (.inr (by simp))
  have again : install name none (install name (some value) node.entries) =
      install name none node.entries := by
    simp only [install, List.filter_map]
    refine (List.map_congr_left fun entry member => ?_).trans
      ((List.map_id _).trans (List.filter_congr fun entry _ => ?_))
    · have kept := (List.mem_filter.mp member).2
      by_cases same : entry.1 = name
      · simp [same] at kept
      · simp [same]
    · by_cases same : entry.1 = name
      · simp [same]
      · simp [same]
  rw [Json.install, entries, again]
  exact with_entries_twice node _ _

theorem delete_set (there : (getAt place base).isSome) (deep : place ≠ [])
    (stored : setAt place value base = some result) :
    editAt .delete place result = editAt .delete place base := by
  induction place generalizing base result with
  | nil => exact absurd rfl deep
  | cons name rest ih =>
    rw [get_cons] at there
    rw [setAt] at stored
    cases found : base.child name with
    | none =>
      rw [found] at there
      cases there
    | some child =>
      rw [found] at there stored
      obtain ⟨inner, below, rfl⟩ := Option.map_eq_some_iff.mp stored
      cases rest with
      | nil => exact delete_installed base name inner
      | cons next rest =>
        have deleted := ih there (List.cons_ne_nil _ _) below
        rw [edit_at_below (List.cons_ne_nil _ _) .delete (child_install_self found),
          edit_at_below (List.cons_ne_nil _ _) .delete found, deleted, install_twice]

theorem delete_changes (there : (getAt place base).isSome) (deep : place ≠ []) :
    editAt .delete place base ≠ base := by
  induction place generalizing base with
  | nil => exact absurd rfl deep
  | cons name rest ih =>
    intro same
    rw [get_cons] at there
    cases found : base.child name with
    | none =>
      rw [found] at there
      cases there
    | some child =>
      rw [found] at there
      cases rest with
      | nil =>
        change base.install name none = base at same
        cases base with
        | object members =>
          have kept := List.filter_eq_self.mp (Json.object.inj same) _ (child_mem found)
          simp at kept
        | array items =>
          obtain ⟨index, rfl, inside⟩ := array_child_index found
          rw [delete_item] at same
          have := List.eraseIdx_eq_self.mp (Json.array.inj same)
          omega
        | null | bool | number | string => cases found
      | cons next rest =>
        rw [edit_at_below (List.cons_ne_nil _ _) .delete found] at same
        have read := congrArg (Json.child · name) same
        simp only [child_install_self found, found, Option.some.injEq] at read
        exact ih there (List.cons_ne_nil _ _) read

/-! ## Names along a path -/

def Clear : List String → Json → Prop
  | [], _ => True
  | name :: rest, node =>
    node.names.Nodup ∧ ∀ child, node.child name = some child → Clear rest child

theorem clear_null (path : List String) : Clear path .null := by
  cases path with
  | nil => exact trivial
  | cons name rest => exact ⟨List.nodup_nil, fun child found => by cases found⟩

theorem distinct_clear (distinct : node.Distinct) (path : List String) : Clear path node := by
  induction path generalizing node with
  | nil => exact trivial
  | cons name rest ih =>
    exact ⟨distinct.names, fun child found => ih (distinct.children _ (child_mem found))⟩

theorem clear_set (apart : place <+: path → place = path) (clear : Clear path base)
    (stored : setAt place value base = some result) : Clear path result := by
  induction path generalizing place base result with
  | nil => exact trivial
  | cons name more ih =>
    cases place with
    | nil => cases apart List.nil_prefix
    | cons other rest =>
      obtain ⟨inner, below, holds, -, names⟩ := set_step stored
      refine ⟨names clear.1, fun child found => ?_⟩
      by_cases same : name = other
      · subst same
        rw [holds.self] at found
        cases found
        refine ih (fun above => ?_) ?_ below
        · exact List.tail_eq_of_cons_eq (apart (List.cons_prefix_cons.mpr ⟨rfl, above⟩))
        · cases held : base.child name with
          | none => exact clear_null more
          | some child => exact clear.2 child held
      · rcases holds.beside same with kept | ⟨_, padded, _⟩
        · exact clear.2 child (kept ▸ found)
        · rw [padded] at found
          cases found
          exact clear_null more

theorem set_same (clear : Clear place base) (read : getAt place base = some value) :
    setAt place value base = some base := by
  induction place generalizing base with
  | nil => exact congrArg some (Option.some.inj read).symm
  | cons name rest ih =>
    rw [get_cons] at read
    obtain ⟨child, found, read⟩ := Option.bind_eq_some_iff.mp read
    rw [setAt, found]
    simp only [ih (clear.2 child found) read, Option.map_some]
    rw [Json.install, install_same clear.1 (child_mem found), with_entries_self]

theorem install_distinct {made : Option Json} (distinct : node.Distinct)
    (inner : ∀ value, made = some value → value.Distinct) : (node.install name made).Distinct := by
  have below : ∀ entry ∈ install name made node.entries, entry.2.Distinct := by
    intro entry member
    cases made with
    | none => exact distinct.children entry (List.mem_of_mem_filter member)
    | some value =>
      obtain ⟨old, listed, rfl⟩ := List.mem_map.mp member
      by_cases same : old.1 = name
      · rw [if_pos same]
        exact inner value rfl
      · rw [if_neg same]
        exact distinct.children old listed
  cases node with
  | object members =>
    exact .node _ ((installed_names_sublist name made members).nodup distinct.names) below
  | array items =>
    refine .node _ (array_names_nodup _) fun entry member => ?_
    obtain ⟨index, inside, rfl⟩ := List.mem_mapIdx.mp member
    obtain ⟨old, listed, same⟩ := List.mem_map.mp (List.getElem_mem inside)
    exact same ▸ below old listed
  | null | bool | number | string => exact distinct

theorem delete_distinct (distinct : base.Distinct) (path : List String) :
    (editAt .delete path base).Distinct := by
  induction path generalizing base with
  | nil => exact distinct
  | cons name rest ih =>
    cases rest with
    | nil => exact install_distinct distinct nofun
    | cons next rest =>
      rw [editAt]
      cases found : base.child name with
      | none => exact distinct
      | some child =>
        refine install_distinct distinct fun value made => ?_
        cases made
        exact ih (distinct.children _ (child_mem found))

/-! ## The place before -/

/-- The first path leads through the item before the one through which the second
leads. -/
inductive Ahead : Json → List String → List String → Prop
  | here (items : List Json) (index : Nat) (rest : List String) :
      Ahead (.array items) (index.repr :: rest) ((index + 1).repr :: rest)
  | inside {base child : Json} {name : String} {near far : List String}
      (found : base.child name = some child) (ahead : Ahead child near far) :
      Ahead base (name :: near) (name :: far)

section Ahead

theorem Ahead.apart (ahead : Ahead base near far) : ¬ near <+: far ∧ ¬ far <+: near := by
  induction ahead with
  | here items index rest =>
    constructor
    · intro above
      have := index_name_injective (List.cons_prefix_cons.mp above).1
      omega
    · intro above
      have := index_name_injective (List.cons_prefix_cons.mp above).1
      omega
  | inside found ahead ih =>
    exact ⟨fun above => ih.1 (List.cons_prefix_cons.mp above).2,
      fun above => ih.2 (List.cons_prefix_cons.mp above).2⟩

theorem Ahead.not_in_front (ahead : Ahead base near far) : ¬ InFront far near := by
  induction ahead with
  | here items index rest =>
    intro front
    rcases in_front_cons.mp front with ⟨first, second, far_, near_, less, -⟩ | ⟨same, -⟩
    · have := index_name_injective far_
      have := index_name_injective near_
      omega
    · have := index_name_injective same
      omega
  | inside found ahead ih =>
    intro front
    rcases in_front_cons.mp front with ⟨_, _, _, _, _, rfl⟩ | ⟨_, front⟩
    · cases ahead
    · exact ih front

theorem Ahead.there (ahead : Ahead base near far) (front : InFront near far)
    (there : (getAt far base).isSome) : (getAt near base).isSome := by
  induction ahead with
  | here items index rest =>
    rcases in_front_cons.mp front with ⟨_, _, _, _, _, rfl⟩ | ⟨same, -⟩
    · rw [get_cons, array_child] at there
      have inside : index < items.length := by
        by_contra beyond
        rw [List.getElem?_eq_none (by omega)] at there
        cases there
      rw [get_cons, array_child, List.getElem?_eq_getElem inside]
      rfl
    · have := index_name_injective same
      omega
  | inside found ahead ih =>
    rcases in_front_cons.mp front with ⟨_, _, _, _, _, rfl⟩ | ⟨_, front⟩
    · cases ahead
    · rw [get_cons, found] at there ⊢
      exact ih front there

theorem placed_ahead_iff (ahead : Ahead base near far) (clear : Clear near base)
    (stored : setAt near made base = some result) :
    Placed far value base result ↔ getAt far base = some value ∧ getAt near base = some made := by
  obtain ⟨nearApart, farApart⟩ := ahead.apart
  have set_ := set_placed stored
  constructor
  · intro placed
    have farRead : getAt far base = some value := by
      rcases set_.others far farApart nearApart with kept | ⟨_, _, front⟩
      · rw [← kept]
        exact placed.found
      · exact absurd front ahead.not_in_front
    refine ⟨farRead, ?_⟩
    rcases placed.others near nearApart farApart with kept | ⟨none_, _, front⟩
    · rw [← kept]
      exact set_.found
    · have present := ahead.there front (by rw [farRead]; rfl)
      rw [none_] at present
      cases present
  · rintro ⟨farRead, nearRead⟩
    rw [set_same clear nearRead] at stored
    cases stored
    exact ⟨farRead, fun _ _ _ => .inl rfl, fun _ node _ _ read _ => ⟨node, read, rfl⟩⟩

end Ahead

theorem follow_cases (there : (getAt gone base).isSome) (deep : gone ≠ [])
    (place : List String) :
    follow gone base place = place ∨ Ahead (editAt .delete gone base) (follow gone base place) place := by
  induction gone generalizing base place with
  | nil => exact absurd rfl deep
  | cons name more ih =>
    rw [get_cons] at there
    cases found : base.child name with
    | none =>
      rw [found] at there
      cases there
    | some child =>
      rw [found] at there
      cases place with
      | nil =>
        left
        cases more <;> simp [follow]
      | cons other rest =>
        cases more with
        | nil =>
          cases base with
          | object members => exact .inl rfl
          | array items =>
            obtain ⟨gone, rfl, inside⟩ := array_child_index found
            rw [follow, index_of_repr]
            cases named : indexOf other with
            | none => exact .inl rfl
            | some index =>
              obtain rfl := index_of_some named
              by_cases behind : gone < index
              · right
                change Ahead ((Json.array items).install gone.repr none) _ _
                obtain ⟨before, rfl⟩ : ∃ before, index = before + 1 := ⟨index - 1, by omega⟩
                simp only [lowered, if_pos behind, delete_item, Nat.add_sub_cancel]
                exact .here _ before rest
              · left
                simp only [lowered, if_neg behind]
          | null | bool | number | string => cases found
        | cons next more =>
          rw [follow]
          by_cases same : name = other
          · subst same
            rw [if_pos rfl, found, Option.elim_some, edit_at_below (List.cons_ne_nil _ _) .delete found]
            rcases ih there (List.cons_ne_nil _ _) rest with kept | ahead
            · exact .inl (by rw [kept])
            · exact .inr (.inside (child_install_self found) ahead)
          · exact .inl (if_neg same)

end NewApi.TreePlaces
