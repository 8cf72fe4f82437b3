import NewApi.JsonTree

/-! Pruning of JSON trees. A walk goes through a tree whose numbers have been
decoded and takes out the objects below its root that a test names; the test may
fail, and then the walk fails. What the tree should be without the objects of a
kind is stated apart from the walk, and when the walk comes to it is told object by
object. -/
namespace NewApi.TreePruning
open NewApi.JsonTree

/-! ## The walk -/

abbrev Members := List (String × Json)

mutual

def prune {ε : Type} (test : Members → Except ε Bool) (recursive : Bool) :
    Bool → Json → Except ε (Option Json)
  | _, .array items =>
    match pruneItems test recursive items with
    | .error failure => .error failure
    | .ok result => .ok (some (.array result))
  | isRoot, .object members =>
    match test members with
    | .error failure => .error failure
    | .ok shouldDrop =>
      if shouldDrop && !isRoot then .ok none
      else if !recursive then .ok (some (.object members))
      else match pruneMembers test recursive members with
      | .error failure => .error failure
      | .ok result => .ok (some (.object result))
  | _, node => .ok (some node)

def pruneItems {ε : Type} (test : Members → Except ε Bool) (recursive : Bool) :
    List Json → Except ε (List Json)
  | [] => .ok []
  | item :: rest =>
    match prune test recursive false item with
    | .error failure => .error failure
    | .ok none => pruneItems test recursive rest
    | .ok (some next) =>
      match pruneItems test recursive rest with
      | .error failure => .error failure
      | .ok result => .ok (next :: result)

def pruneMembers {ε : Type} (test : Members → Except ε Bool) (recursive : Bool) : Members → Except ε Members
  | [] => .ok []
  | (key, child) :: rest =>
    match prune test recursive false child with
    | .error failure => .error failure
    | .ok none => pruneMembers test recursive rest
    | .ok (some next) =>
      match pruneMembers test recursive rest with
      | .error failure => .error failure
      | .ok result => .ok ((key, next) :: result)

end

mutual

def decoded (float : String → Option String) : Json → Option Json
  | .number text => (float text).map .number
  | .array items => (decodedItems float items).map .array
  | .object members => (decodedMembers float members).map .object
  | node => some node

def decodedItems (float : String → Option String) : List Json → Option (List Json)
  | [] => some []
  | item :: rest =>
    match decoded float item, decodedItems float rest with
    | some item, some rest => some (item :: rest)
    | _, _ => none

def decodedMembers (float : String → Option String) : Members → Option Members
  | [] => some []
  | (key, child) :: rest =>
    match decoded float child, decodedMembers float rest with
    | some child, some rest => some ((key, child) :: rest)
    | _, _ => none

end

/-! ## What should be left -/

def isGone (gone : Members → Bool) : Json → Bool
  | .object members => gone members
  | _ => false

mutual

def without (gone : Members → Bool) : Json → Json
  | .array items => .array (withoutItems gone items)
  | .object members => .object (withoutMembers gone members)
  | node => node

def withoutItems (gone : Members → Bool) : List Json → List Json
  | [] => []
  | item :: rest =>
    if isGone gone item then withoutItems gone rest
    else without gone item :: withoutItems gone rest

def withoutMembers (gone : Members → Bool) : Members → Members
  | [] => []
  | (key, child) :: rest =>
    if isGone gone child then withoutMembers gone rest
    else (key, without gone child) :: withoutMembers gone rest

end

/-- The nodes below a node. -/
inductive Below : Json → Json → Prop
  | item {item : Json} {items : List Json} (listed : item ∈ items) : Below item (.array items)
  | member {entry : String × Json} {members : Members} (listed : entry ∈ members) :
      Below entry.2 (.object members)
  | inItem {node item : Json} {items : List Json} (listed : item ∈ items)
      (below : Below node item) : Below node (.array items)
  | inMember {node : Json} {entry : String × Json} {members : Members} (listed : entry ∈ members)
      (below : Below node entry.2) : Below node (.object members)

/-- A statement on trees that holds of a container when it holds of the nodes in it. -/
@[elab_as_elim] theorem json_induction {motive : Json → Prop} (null : motive .null)
    (bool : ∀ value, motive (.bool value)) (number : ∀ text, motive (.number text))
    (string : ∀ value, motive (.string value))
    (array : ∀ items, (∀ item ∈ items, motive item) → motive (.array items))
    (object : ∀ members : Members, (∀ entry ∈ members, motive entry.2) → motive (.object members))
    (node : Json) : motive node :=
  @Json.rec motive (fun items => ∀ item ∈ items, motive item)
    (fun members => ∀ entry ∈ members, motive entry.2) (fun entry => motive entry.2)
    null bool number string array object
    (fun _ member => absurd member List.not_mem_nil)
    (fun _ _ first rest item member => (List.mem_cons.1 member).elim (· ▸ first) (rest item))
    (fun _ member => absurd member List.not_mem_nil)
    (fun _ _ first rest entry member => (List.mem_cons.1 member).elim (· ▸ first) (rest entry))
    (fun _ _ child => child) node

/-! ## Lists of nodes -/

section Lists
variable {ε α β γ : Type}

def keepEach (step : β → Except ε (Option γ)) : List β → Except ε (List γ)
  | [] => .ok []
  | item :: rest =>
    match step item with
    | .error failure => .error failure
    | .ok none => keepEach step rest
    | .ok (some next) =>
      match keepEach step rest with
      | .error failure => .error failure
      | .ok result => .ok (next :: result)

def decodeEach (decode : α → Option β) : List α → Option (List β)
  | [] => some []
  | item :: rest =>
    match decode item, decodeEach decode rest with
    | some item, some rest => some (item :: rest)
    | _, _ => none

variable {decode : α → Option β} {step : β → Except ε (Option γ)} {kept : α → Option γ}

theorem decode_each_cons :
    decodeEach decode (item :: rest) = some made ↔
      ∃ first later, decode item = some first ∧ decodeEach decode rest = some later ∧
        made = first :: later := by
  rw [decodeEach]
  cases decode item with
  | none => simp
  | some first =>
    cases decodeEach decode rest with
    | none => simp
    | some later => simp [eq_comm]

theorem decode_each_iff :
    decodeEach decode items = some made ↔
      List.Forall₂ (fun item node => decode item = some node) items made := by
  induction items generalizing made with
  | nil => simp [decodeEach, eq_comm]
  | cons item rest ih =>
    rw [decode_each_cons, List.forall₂_cons_left_iff]
    constructor
    · rintro ⟨first, later, read, reads, rfl⟩
      exact ⟨first, later, read, ih.1 reads, rfl⟩
    · rintro ⟨first, later, read, reads, rfl⟩
      exact ⟨first, later, read, ih.2 reads, rfl⟩

theorem decode_each_same {decode : α → Option α} :
    decodeEach decode items = some items ↔ ∀ item ∈ items, decode item = some item :=
  decode_each_iff.trans List.forall₂_same

theorem decode_each_mem
    (read : decodeEach decode items = some made) (listed : node ∈ made) :
    ∃ item ∈ items, decode item = some node := by
  induction items generalizing made with
  | nil =>
    cases read
    cases listed
  | cons item rest ih =>
    obtain ⟨first, later, reads, behind, rfl⟩ := decode_each_cons.1 read
    rcases List.mem_cons.1 listed with rfl | listed
    · exact ⟨item, .head _, reads⟩
    · obtain ⟨item, present, reads⟩ := ih behind listed
      exact ⟨item, .tail _ present, reads⟩

theorem keep_each_cons :
    keepEach step (item :: rest) = .ok made ↔
      ∃ first later, step item = .ok first ∧ keepEach step rest = .ok later ∧
        made = first.toList ++ later := by
  rw [keepEach]
  cases step item with
  | error failure => simp
  | ok first =>
    cases first with
    | none => simp [eq_comm]
    | some next =>
      cases keepEach step rest with
      | error failure => simp
      | ok later => simp [eq_comm]

theorem filter_map_cons (kept : α → Option γ) (item : α) (rest : List α) :
    (item :: rest).filterMap kept = (kept item).toList ++ rest.filterMap kept := by
  rw [List.filterMap_cons]
  cases kept item <;> rfl

theorem keep_each_length (sure : ∀ item node result, decode item = some node →
      step node = .ok result → kept item = none → result = none)
    (read : decodeEach decode items = some nodes)
    (walked : keepEach step nodes = .ok made) : made.length ≤ (items.filterMap kept).length := by
  induction items generalizing nodes made with
  | nil =>
    cases read
    cases walked
    exact Nat.le_refl 0
  | cons item rest ih =>
    obtain ⟨node, nodes, reads, behind, rfl⟩ := decode_each_cons.1 read
    obtain ⟨first, later, stepped, walks, rfl⟩ := keep_each_cons.1 walked
    rw [filter_map_cons, List.length_append, List.length_append]
    refine Nat.add_le_add ?_ (ih behind walks)
    cases left_ : kept item with
    | none =>
      obtain rfl := sure item node first reads stepped left_
      exact Nat.le_refl 0
    | some node => cases first <;> simp

theorem keep_each_iff (sure : ∀ item node result, decode item = some node →
      step node = .ok result → kept item = none → result = none) (items : List α) :
    (∃ nodes, decodeEach decode items = some nodes ∧
        keepEach step nodes = .ok (items.filterMap kept)) ↔
      ∀ item ∈ items, ∃ node, decode item = some node ∧ step node = .ok (kept item) := by
  induction items with
  | nil => exact ⟨fun _ _ none_ => absurd none_ List.not_mem_nil, fun _ => ⟨[], rfl, rfl⟩⟩
  | cons item rest ih =>
    rw [List.forall_mem_cons, ← ih]
    constructor
    · rintro ⟨_, read, walked⟩
      obtain ⟨node, nodes, reads, behind, rfl⟩ := decode_each_cons.1 read
      obtain ⟨first, later, stepped, walks, same⟩ := keep_each_cons.1 walked
      rw [filter_map_cons] at same
      have bounded := keep_each_length sure behind walks
      have first_ : first = kept item := by
        cases left_ : kept item with
        | none => exact sure item node first reads stepped left_
        | some next =>
          rw [left_] at same
          cases first with
          | none =>
            rw [← show _ = later from same] at bounded
            exact absurd bounded (by simp)
          | some made =>
            rw [List.cons.inj same |>.1]
      rw [first_] at same stepped
      exact ⟨⟨node, reads, stepped⟩, nodes, behind, List.append_cancel_left same ▸ walks⟩
    · rintro ⟨⟨node, read, stepped⟩, nodes, reads, walked⟩
      exact ⟨node :: nodes, decode_each_cons.2 ⟨node, nodes, read, reads, rfl⟩,
        keep_each_cons.2 ⟨_, _, stepped, walked, filter_map_cons kept item rest⟩⟩

end Lists

section Equations
variable {ε : Type} {test : Members → Except ε Bool} {float : String → Option String}
  {gone : Members → Bool}

def kept (gone : Members → Bool) (node : Json) : Option Json :=
  if isGone gone node then none else some (without gone node)

theorem prune_items_eq (items : List Json) :
    pruneItems test recursive items = keepEach (prune test recursive false) items := by
  induction items with
  | nil => rfl
  | cons item rest ih =>
    rw [pruneItems, keepEach, ih]
    cases prune test recursive false item with
    | error failure => rfl
    | ok made =>
      cases made with
      | none => rfl
      | some next => cases keepEach (prune test recursive false) rest <;> rfl

theorem prune_members_eq (members : Members) :
    pruneMembers test recursive members = keepEach (fun entry =>
      (prune test recursive false entry.2).map (Option.map (entry.1, ·))) members := by
  induction members with
  | nil => rfl
  | cons entry rest ih =>
    obtain ⟨key, child⟩ := entry
    rw [pruneMembers, keepEach, ih]
    generalize keepEach _ rest = later
    dsimp only
    cases prune test recursive false child with
    | error failure => rfl
    | ok made =>
      cases made with
      | none => rfl
      | some next => cases later <;> rfl

theorem decoded_items_eq (items : List Json) :
    decodedItems float items = decodeEach (decoded float) items := by
  induction items with
  | nil => rfl
  | cons item rest ih =>
    rw [decodedItems, decodeEach, ih]
    cases decoded float item with
    | none => rfl
    | some item => cases decodeEach (decoded float) rest <;> rfl

theorem decoded_members_eq (members : Members) :
    decodedMembers float members =
      decodeEach (fun entry => (decoded float entry.2).map (entry.1, ·)) members := by
  induction members with
  | nil => rfl
  | cons entry rest ih =>
    obtain ⟨key, child⟩ := entry
    rw [decodedMembers, decodeEach, ih]
    generalize decodeEach _ rest = later
    dsimp only
    cases decoded float child with
    | none => rfl
    | some child => cases later <;> rfl

theorem without_items_eq (items : List Json) : withoutItems gone items = items.filterMap (kept gone) := by
  induction items with
  | nil => rfl
  | cons item rest ih =>
    rw [withoutItems, ih, List.filterMap_cons, kept]
    split <;> rfl

theorem without_members_eq (members : Members) :
    withoutMembers gone members = members.filterMap fun entry => (kept gone entry.2).map (entry.1, ·) := by
  induction members with
  | nil => rfl
  | cons entry rest ih =>
    obtain ⟨key, child⟩ := entry
    rw [withoutMembers, ih, List.filterMap_cons, kept]
    split <;> rfl

end Equations

/-! ## When the walk comes to what should be left -/

/-- Every object that is met below the root is judged by the test as its kind says,
where the numbers of the object are decoded. What is below an object of the kind is
not met, but its numbers are decoded; a number that stays is kept by the decoding. -/
inductive Met {ε : Type} (test : Members → Except ε Bool) (float : String → Option String)
    (gone : Members → Bool) : Bool → Json → Prop
  | null (isRoot : Bool) : Met test float gone isRoot .null
  | bool (isRoot value : Bool) : Met test float gone isRoot (.bool value)
  | string (isRoot : Bool) (value : String) : Met test float gone isRoot (.string value)
  | number (isRoot : Bool) {text : String} (faithful : float text = some text) :
      Met test float gone isRoot (.number text)
  | array (isRoot : Bool) {items : List Json}
      (each : ∀ item ∈ items, Met test float gone false item) :
      Met test float gone isRoot (.array items)
  | goes {members nodes : Members} (named : gone members = true)
      (readable : decodedMembers float members = some nodes) :
      Met test float gone false (.object members)
  | stays {isRoot judged : Bool} {members nodes : Members}
      (other : isRoot = true ∨ gone members = false)
      (readable : decodedMembers float members = some nodes) (passes : test nodes = .ok judged)
      (spared : isRoot = true ∨ judged = false)
      (each : ∀ entry ∈ members, Met test float gone false entry.2) :
      Met test float gone isRoot (.object members)

def keptAs (gone : Members → Bool) (isRoot : Bool) (node : Json) : Option Json :=
  if !isRoot && isGone gone node then none else some (without gone node)

section Walks
variable {ε : Type} {test : Members → Except ε Bool} {float : String → Option String}
  {gone : Members → Bool}

def Names (test : Members → Except ε Bool) (float : String → Option String)
    (gone : Members → Bool) : Prop :=
  ∀ members nodes, gone members = true → decodedMembers float members = some nodes → test nodes = .ok true

theorem prune_gone (names : Names test float gone)
    (read : decoded float node = some tree) (walked : prune test true false tree = .ok result)
    (goes : kept gone node = none) : result = none := by
  cases node with
  | object members =>
    have named : gone members = true := by
      by_contra other
      rw [kept, if_neg (by exact other)] at goes
      cases goes
    rw [decoded, Option.map_eq_some_iff] at read
    obtain ⟨nodes, read, rfl⟩ := read
    rw [prune, names members nodes named read] at walked
    cases walked
    rfl
  | null | bool | number | string | array => cases goes

theorem array_walk_iff (names : Names test float gone) (isRoot : Bool) (items : List Json) :
    (∃ tree, decoded float (.array items) = some tree ∧
        prune test true isRoot tree = .ok (keptAs gone isRoot (.array items))) ↔
      ∀ item ∈ items, ∃ tree, decoded float item = some tree ∧
        prune test true false tree = .ok (kept gone item) := by
  have sure : ∀ item node result, decoded float item = some node →
      prune test true false node = .ok result → kept gone item = none → result = none :=
    fun _ _ _ read walked goes => prune_gone names read walked goes
  rw [← keep_each_iff sure items, ← without_items_eq]
  have left_ : keptAs gone isRoot (.array items) = some (.array (withoutItems gone items)) := by
    simp [keptAs, isGone, without]
  rw [left_, decoded, decoded_items_eq]
  constructor
  · rintro ⟨tree, read, walked⟩
    obtain ⟨nodes, reads, rfl⟩ := Option.map_eq_some_iff.1 read
    rw [prune, prune_items_eq] at walked
    refine ⟨nodes, reads, ?_⟩
    cases kept_ : keepEach (prune test true false) nodes with
    | error failure => rw [kept_] at walked; cases walked
    | ok result => rw [kept_] at walked; cases walked; rfl
  · rintro ⟨nodes, read, walked⟩
    refine ⟨.array nodes, by rw [read]; rfl, ?_⟩
    rw [prune, prune_items_eq, walked]

theorem members_walk_iff (names : Names test float gone) (members : Members) :
    (∃ nodes, decodedMembers float members = some nodes ∧
        pruneMembers test true nodes = .ok (withoutMembers gone members)) ↔
      ∀ entry ∈ members, ∃ tree, decoded float entry.2 = some tree ∧
        prune test true false tree = .ok (kept gone entry.2) := by
  have sure : ∀ (entry node : String × Json) result,
      (decoded float entry.2).map (entry.1, ·) = some node →
      (prune test true false node.2).map (Option.map (node.1, ·)) = .ok result →
      (kept gone entry.2).map (entry.1, ·) = none → result = none := by
    intro entry node result read walked goes
    obtain ⟨tree, reads, rfl⟩ := Option.map_eq_some_iff.1 read
    cases walks : prune test true false tree with
    | error failure => rw [walks] at walked; cases walked
    | ok made =>
      rw [walks, prune_gone names reads walks (Option.map_eq_none_iff.1 goes)] at walked
      cases walked
      rfl
  simp only [prune_members_eq, decoded_members_eq, without_members_eq]
  rw [keep_each_iff sure members]
  refine forall₂_congr fun entry _ => ⟨?_, ?_⟩
  · rintro ⟨node, read, walked⟩
    obtain ⟨tree, reads, rfl⟩ := Option.map_eq_some_iff.1 read
    refine ⟨tree, reads, ?_⟩
    cases walks : prune test true false tree with
    | error failure => rw [walks] at walked; cases walked
    | ok made =>
      rw [walks] at walked
      have same : made.map (entry.1, ·) = (kept gone entry.2).map (entry.1, ·) :=
        Except.ok.inj walked
      rw [Option.map_injective (fun _ _ paired => (Prod.mk.inj paired).2) same]
  · rintro ⟨tree, read, walked⟩
    refine ⟨(entry.1, tree), by rw [read]; rfl, ?_⟩
    rw [walked]
    rfl

theorem walk_iff (names : Names test float gone) (isRoot : Bool) (node : Json) :
    (∃ tree, decoded float node = some tree ∧
        prune test true isRoot tree = .ok (keptAs gone isRoot node)) ↔
      Met test float gone isRoot node := by
  induction node using json_induction generalizing isRoot with
  | null =>
    refine iff_of_true ⟨.null, rfl, ?_⟩ (.null isRoot)
    simp [prune, keptAs, isGone, without]
  | bool value =>
    refine iff_of_true ⟨.bool value, rfl, ?_⟩ (.bool isRoot value)
    simp [prune, keptAs, isGone, without]
  | string value =>
    refine iff_of_true ⟨.string value, rfl, ?_⟩ (.string isRoot value)
    simp [prune, keptAs, isGone, without]
  | number text =>
    have left_ : keptAs gone isRoot (.number text) = some (.number text) := by
      simp [keptAs, isGone, without]
    rw [left_, decoded]
    constructor
    · rintro ⟨tree, read, walked⟩
      obtain ⟨made, reads, rfl⟩ := Option.map_eq_some_iff.1 read
      cases walked
      exact .number isRoot reads
    · intro met
      cases met with
      | number _ faithful => exact ⟨.number text, by rw [faithful]; rfl, rfl⟩
  | array items ih =>
    rw [array_walk_iff names isRoot items]
    have each : (∀ item ∈ items, ∃ tree, decoded float item = some tree ∧
        prune test true false tree = .ok (kept gone item)) ↔
        ∀ item ∈ items, Met test float gone false item :=
      forall₂_congr fun item listed => ih item listed false
    rw [each]
    refine ⟨.array isRoot, fun met => ?_⟩
    cases met with
    | array _ each => exact each
  | object members ih =>
    have each : (∀ entry ∈ members, ∃ tree, decoded float entry.2 = some tree ∧
        prune test true false tree = .ok (kept gone entry.2)) ↔
        ∀ entry ∈ members, Met test float gone false entry.2 :=
      forall₂_congr fun entry listed => ih entry listed false
    have walks := members_walk_iff names members
    rw [each] at walks
    by_cases goes : isRoot = false ∧ gone members = true
    · obtain ⟨rfl, named⟩ := goes
      have left_ : keptAs gone false (.object members) = none := by simp [keptAs, isGone, named]
      rw [left_, decoded]
      constructor
      · rintro ⟨tree, read, -⟩
        obtain ⟨nodes, reads, rfl⟩ := Option.map_eq_some_iff.1 read
        exact .goes named reads
      · intro met
        obtain ⟨nodes, reads⟩ : ∃ nodes, decodedMembers float members = some nodes := by
          cases met with
          | goes _ reads | stays _ reads => exact ⟨_, reads⟩
        refine ⟨.object nodes, by rw [reads]; rfl, ?_⟩
        rw [prune, names members nodes named reads]
        rfl
    · have other : isRoot = true ∨ gone members = false := by
        cases isRoot with
        | true => exact .inl rfl
        | false => exact .inr (by simpa using goes)
      have left_ : keptAs gone isRoot (.object members) =
          some (.object (withoutMembers gone members)) := by
        rcases other with rfl | other
        · simp [keptAs, without]
        · simp [keptAs, isGone, without, other]
      rw [left_, decoded]
      constructor
      · rintro ⟨tree, read, walked⟩
        obtain ⟨nodes, reads, rfl⟩ := Option.map_eq_some_iff.1 read
        rw [prune] at walked
        cases judged : test nodes with
        | error failure => rw [judged] at walked; cases walked
        | ok shouldDrop =>
          rw [judged] at walked
          dsimp only at walked
          by_cases dropped : (shouldDrop && !isRoot) = true
          · rw [if_pos dropped] at walked
            cases walked
          · rw [if_neg dropped, if_neg (by decide)] at walked
            have spared : isRoot = true ∨ shouldDrop = false := by
              cases isRoot <;> cases shouldDrop <;> simp at dropped ⊢
            refine .stays other reads judged spared (walks.1 ⟨nodes, reads, ?_⟩)
            cases kept_ : pruneMembers test true nodes with
            | error failure => rw [kept_] at walked; cases walked
            | ok result => rw [kept_] at walked; cases walked; rfl
      · intro met
        cases met with
        | goes named => exact absurd ⟨rfl, named⟩ goes
        | stays _ reads judged spared each =>
          obtain ⟨nodes, reads', walked⟩ := walks.2 each
          rw [reads] at reads'
          cases reads'
          refine ⟨.object _, congrArg (Option.map Json.object) reads, ?_⟩
          rw [prune, judged]
          dsimp only
          rw [if_neg (by rcases spared with rfl | rfl <;> simp), if_neg (by decide), walked]

theorem without_nothing (node : Json) : without (fun _ => false) node = node := by
  have stays : ∀ node : Json, without (fun _ => false) node = node →
      kept (fun _ => false) node = some node := by
    intro node same
    cases node <;> simp_all [kept, isGone]
  induction node using json_induction with
  | null | bool | number | string => rfl
  | array items ih =>
    have all : items.filterMap (kept fun _ => false) = items.filterMap some :=
      List.filterMap_congr fun item listed => stays item (ih item listed)
    rw [without, without_items_eq, all, List.filterMap_some]
  | object members ih =>
    have all : (members.filterMap fun entry => (kept (fun _ => false) entry.2).map (entry.1, ·)) =
        members.filterMap some :=
      List.filterMap_congr fun entry listed => by rw [stays entry.2 (ih entry listed)]; rfl
    rw [without, without_members_eq, all, List.filterMap_some]

theorem walk_same_iff (isRoot : Bool) (node : Json) :
    (∃ tree, decoded float node = some tree ∧ prune test true isRoot tree = .ok (some node)) ↔
      Met test float (fun _ => false) isRoot node := by
  have names : Names test float fun _ => false := fun _ _ named => by cases named
  have same : keptAs (fun _ => false) isRoot node = some node := by
    rw [keptAs, without_nothing, if_neg]
    cases node <;> simp [isGone]
  rw [← walk_iff names, same]

theorem met_object {members : Members} (met : Met test float (fun _ => false) false (.object members)) :
    ∃ nodes, decodedMembers float members = some nodes ∧ test nodes = .ok false := by
  cases met with
  | goes named => cases named
  | stays _ readable passes spared =>
    rw [spared.resolve_left Bool.noConfusion] at passes
    exact ⟨_, readable, passes⟩

theorem prune_root
    (walked : prune test recursive true node = .ok result) : result ≠ none := by
  cases node with
  | array items =>
    rw [prune] at walked
    split at walked <;> cases walked
    exact nofun
  | object members =>
    rw [prune] at walked
    split at walked
    next => cases walked
    next =>
      rw [Bool.not_true, Bool.and_false, if_neg Bool.noConfusion] at walked
      split at walked
      next => cases walked; exact nofun
      next => split at walked <;> cases walked; exact nofun
  | null | bool | number | string =>
    cases walked
    exact nofun

theorem met_below {isRoot : Bool} {node : Json} {members : Members}
    (met : Met test float (fun _ => false) isRoot node) (below : Below (.object members) node) :
    ∃ nodes, decodedMembers float members = some nodes ∧ test nodes = .ok false := by
  generalize target : Json.object members = found at below
  induction below generalizing isRoot with
  | item listed =>
    cases met with
    | array _ each => exact met_object (target ▸ each _ listed)
  | member listed =>
    cases met with
    | goes named => cases named
    | stays _ _ _ _ each => exact met_object (target ▸ each _ listed)
  | inItem listed _ ih =>
    cases met with
    | array _ each => exact ih (each _ listed) target
  | inMember listed _ ih =>
    cases met with
    | goes named => cases named
    | stays _ _ _ _ each => exact ih (each _ listed) target

end Walks

/-! ## Numbers -/

mutual

def numbers : Json → List String
  | .number text => [text]
  | .array items => numbersOfItems items
  | .object members => numbersOfMembers members
  | _ => []

def numbersOfItems : List Json → List String
  | [] => []
  | item :: rest => numbers item ++ numbersOfItems rest

def numbersOfMembers : Members → List String
  | [] => []
  | (_, child) :: rest => numbers child ++ numbersOfMembers rest

end

section Numbers
variable {float : String → Option String}

theorem numbers_items_eq (items : List Json) : numbersOfItems items = items.flatMap numbers := by
  induction items with
  | nil => rfl
  | cons item rest ih => rw [numbersOfItems, List.flatMap_cons, ih]

theorem numbers_members_eq (members : Members) :
    numbersOfMembers members = members.flatMap fun entry => numbers entry.2 := by
  induction members with
  | nil => rfl
  | cons entry rest ih => rw [numbersOfMembers, List.flatMap_cons, ih]

theorem decoded_same_iff (node : Json) :
    decoded float node = some node ↔ ∀ text ∈ numbers node, float text = some text := by
  induction node using json_induction with
  | null | bool | string => exact iff_of_true rfl nofun
  | number text => simp [decoded, numbers]
  | array items ih =>
    have each : decoded float (.array items) = some (.array items) ↔
        ∀ item ∈ items, decoded float item = some item := by
      rw [decoded, decoded_items_eq, Option.map_eq_some_iff, ← decode_each_same]
      exact ⟨fun ⟨_, read, same⟩ => Json.array.inj same ▸ read, fun read => ⟨items, read, rfl⟩⟩
    rw [each, numbers, numbers_items_eq]
    simp only [List.mem_flatMap, forall_exists_index, and_imp]
    exact ⟨fun same text item listed => (ih item listed).mp (same item listed) text,
      fun same item listed => (ih item listed).mpr fun text => same text item listed⟩
  | object members ih =>
    have each : decoded float (.object members) = some (.object members) ↔
        ∀ entry ∈ members, decoded float entry.2 = some entry.2 := by
      have kept : ∀ entry : String × Json, (decoded float entry.2).map (entry.1, ·) = some entry ↔
          decoded float entry.2 = some entry.2 := by
        intro entry
        rw [Option.map_eq_some_iff]
        exact ⟨fun ⟨_, read, same⟩ => by rw [read, ← same], fun read => ⟨entry.2, read, rfl⟩⟩
      simp only [← kept]
      rw [decoded, decoded_members_eq, Option.map_eq_some_iff, ← decode_each_same]
      exact ⟨fun ⟨_, read, same⟩ => Json.object.inj same ▸ read, fun read => ⟨members, read, rfl⟩⟩
    rw [each, numbers, numbers_members_eq]
    simp only [List.mem_flatMap, forall_exists_index, and_imp]
    exact ⟨fun same text entry listed => (ih entry listed).mp (same entry listed) text,
      fun same entry listed => (ih entry listed).mpr fun text => same text entry listed⟩

end Numbers

end NewApi.TreePruning
