import Mathlib.Data.List.Perm.Basic
import Mathlib.Logic.Function.Basic

/-! Items that are sorted into groups by one key and looked up again by
another. Walking the groups meets every item once; the lookup leads back to
each of them only as far as no later item has its key. Groups in the order of their
first items are the items themselves as far as no two items share one. Nothing
here depends on what the items are. -/
namespace NewApi.Regrouping

variable {Item Group Key : Type*} [DecidableEq Group] [DecidableEq Key]

def lastWith (key : Item → Key) (items : List Item) (wanted : Key) : Option Item :=
  (items.filter (key · = wanted)).getLast?

section Lookup
variable {key : Item → Key} {items : List Item} {item : Item}

theorem last_with_spec (found : lastWith key items wanted = some last) :
    last ∈ items ∧ key last = wanted := by
  have member := List.mem_of_getLast? found
  rw [List.mem_filter, decide_eq_true_eq] at member
  exact member

theorem last_with_own (found : lastWith key items wanted = some last) :
    lastWith key items (key last) = some last := by
  rw [(last_with_spec found).2, found]

theorem last_with_cons (key : Item → Key) (item : Item) (rest : List Item) (wanted : Key) :
    lastWith key (item :: rest) wanted =
      (lastWith key rest wanted).or (if key item = wanted then some item else none) := by
  unfold lastWith
  by_cases same : key item = wanted
  · rw [List.filter_cons_of_pos (by simpa using same), List.getLast?_cons, if_pos same]
    cases (rest.filter (key · = wanted)).getLast? <;> rfl
  · rw [List.filter_cons_of_neg (by simpa using same), if_neg same, Option.or_none]

theorem last_with_fold (key : Item → Key) (items : List Item) (map : Key → Option Item) (wanted : Key) :
    items.foldl (fun map item => Function.update map (key item) (some item)) map wanted =
      (lastWith key items wanted).or (map wanted) := by
  induction items generalizing map with
  | nil => rfl
  | cons item rest ih =>
    rw [List.foldl_cons, ih, last_with_cons, Option.or_assoc]
    congr 1
    by_cases same : key item = wanted
    · rw [← same, Function.update_self, if_pos rfl, Option.some_or]
    · rw [Function.update_of_ne (Ne.symm same), if_neg same, Option.none_or]

end Lookup

section Groups
variable {group : Item → Group} {order : List Group} {items : List Item}

theorem regrouped_filter (group : Item → Group) (nodup : order.Nodup) (items : List Item) :
    (order.flatMap fun name => items.filter (group · = name)).Perm (items.filter (group · ∈ order)) := by
  induction order generalizing items with
  | nil => simp
  | cons name rest ih =>
    obtain ⟨fresh, others⟩ := List.nodup_cons.mp nodup
    rw [List.flatMap_cons]
    have own : items.filter (group · = name) =
        (items.filter (group · ∈ name :: rest)).filter (group · = name) := by
      rw [List.filter_filter]
      apply List.filter_congr
      intro item _
      by_cases same : group item = name <;> simp [same]
    have other : items.filter (group · ∈ rest) =
        (items.filter (group · ∈ name :: rest)).filter (fun item => !decide (group item = name)) := by
      rw [List.filter_filter]
      apply List.filter_congr
      intro item _
      by_cases same : group item = name
      · simp [same, fresh]
      · simp [same]
    refine ((ih others items).append_left _).trans ?_
    rw [own, other]
    exact List.filter_append_perm _ _

theorem regrouped_perm (nodup : order.Nodup) (covered : ∀ item ∈ items, group item ∈ order) :
    (order.flatMap fun name => items.filter (group · = name)).Perm items := by
  have all : items.filter (group · ∈ order) = items :=
    List.filter_eq_self.mpr fun item member => decide_eq_true (covered item member)
  have filtered := regrouped_filter group nodup items
  rw [all] at filtered
  exact filtered

theorem regrouped_filter_map {Made : Type*} (make : Item → Option Made) (nodup : order.Nodup)
    (covered : ∀ item ∈ items, group item ∈ order) :
    (order.flatMap fun name => (items.filter (group · = name)).filterMap make).Perm
      (items.filterMap make) := by
  rw [← List.filterMap_flatMap]
  exact (regrouped_perm nodup covered).filterMap make

end Groups

section FirstSeen
variable {group : Item → Group} {items : List Item}

theorem erase_dups_length_le : (names : List Group) → names.eraseDups.length ≤ names.length
  | [] => Nat.le_refl _
  | name :: rest => by
    have shorter := List.length_filter_le (fun other => !other == name) rest
    rw [List.eraseDups_cons, List.length_cons, List.length_cons]
    exact Nat.succ_le_succ (Nat.le_trans (erase_dups_length_le _) shorter)
termination_by names => names.length
decreasing_by exact Nat.lt_succ_of_le shorter

theorem nodup_erase_dups {Name : Type*} [BEq Name] [LawfulBEq Name] :
    (names : List Name) → names.eraseDups.Nodup
  | [] => List.nodup_nil
  | name :: rest => by
    rw [List.eraseDups_cons, List.nodup_cons]
    exact ⟨by simp, nodup_erase_dups _⟩
termination_by names => names.length
decreasing_by exact Nat.lt_succ_of_le (List.length_filter_le ..)

theorem others_of_fresh {name : Group} {rest : List Group} (fresh : name ∉ rest) :
    (rest.filter fun other => !other == name) = rest := by
  refine List.filter_eq_self.2 fun other member => ?_
  have apart : other ≠ name := fun same => fresh (same ▸ member)
  simpa using apart

theorem erase_dups_of_nodup {names : List Group} (nodup : names.Nodup) : names.eraseDups = names := by
  induction names with
  | nil => rfl
  | cons name rest ih =>
    obtain ⟨fresh, others⟩ := List.nodup_cons.1 nodup
    rw [List.eraseDups_cons, others_of_fresh fresh, ih others]

theorem erase_dups_length_iff (names : List Group) :
    names.eraseDups.length = names.length ↔ names.Nodup := by
  refine ⟨fun same => ?_, fun nodup => congrArg _ (erase_dups_of_nodup nodup)⟩
  induction names with
  | nil => exact List.nodup_nil
  | cons name rest ih =>
    rw [List.eraseDups_cons, List.length_cons, List.length_cons] at same
    have erased := erase_dups_length_le (rest.filter fun other => !other == name)
    have fresh : name ∉ rest := by
      intro member
      have less : (rest.filter fun other => !other == name).length < rest.length :=
        List.length_filter_lt_length_iff_exists.2 ⟨name, member, by simp⟩
      omega
    rw [others_of_fresh fresh] at same
    exact List.nodup_cons.2 ⟨fresh, ih (Nat.succ.inj same)⟩

def groups (group : Item → Group) (items : List Item) : List (List Item) :=
  (items.map group).eraseDups.map fun name => items.filter (group · = name)

theorem own_group (nodup : (items.map group).Nodup) (member : item ∈ items) :
    items.filter (group · = group item) = [item] := by
  induction items with
  | nil => cases member
  | cons head rest ih =>
    obtain ⟨fresh, others⟩ := List.nodup_cons.1 nodup
    rcases List.mem_cons.1 member with rfl | later
    · rw [List.filter_cons_of_pos (by simp)]
      refine congrArg _ (List.filter_eq_nil_iff.2 fun other inside same => fresh ?_)
      exact List.mem_map.2 ⟨other, inside, by simpa using same⟩
    · have apart : group head ≠ group item := fun same =>
        fresh (same ▸ List.mem_map_of_mem later)
      rw [List.filter_cons_of_neg (by simpa using apart), ih others later]

theorem groups_of_nodup (nodup : (items.map group).Nodup) :
    groups group items = items.map fun item => [item] := by
  rw [groups, erase_dups_of_nodup nodup, List.map_map]
  exact List.map_congr_left fun item member => own_group nodup member

theorem groups_length_iff : (groups group items).length = items.length ↔ (items.map group).Nodup := by
  rw [groups, List.length_map, ← erase_dups_length_iff, List.length_map]

end FirstSeen

end NewApi.Regrouping
