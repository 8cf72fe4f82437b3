import NewApi.GoText
import NewApi.ShuffledTurns
import Mathlib.Data.List.AList
import Mathlib.Data.Finset.Insert
import Mathlib.Data.Finset.Erase

/-! Which groups a user can choose: the groups that are usable by the settings of
the user's group and of the active subscription groups, filtered by how a group is
billed. A map is ranged over in any order. -/
namespace NewApi.GroupVisibility
open NewApi.GoText
open NewApi.ShuffledTurns

/-! ## The model -/

abbrev GroupMap := AList fun _ : String => String

abbrev Entry := Sigma fun _ : String => String

abbrev SpecialSettings := AList fun _ : String => GroupMap

structure GroupSettings where
  userUsableGroups : GroupMap
  groupSpecialUsableGroup : SpecialSettings
  enableGroupBillingFilter : Bool
  subscriptionGroups : List String
  quotaGroups : List String

/-- The orders in which the maps are ranged over in one call; a round of a loop
over group names has its own. -/
structure Orders where
  merge : Nat → VisitOrder Entry
  cover : Nat → VisitOrder Entry
  filter : VisitOrder Entry

def Orders.stored : Orders := ⟨fun _ => .stored, fun _ => .stored, .stored⟩

/-- One special setting, as `mergeUsableGroups` applies it. -/
def mergeSpecial (groups : GroupMap) (special : Entry) : GroupMap :=
  if hasPrefix special.1 "-:" then groups.erase (trimPrefix special.1 "-:")
  else if hasPrefix special.1 "+:" then groups.insert (trimPrefix special.1 "+:") special.2
  else groups.insert special.1 special.2

/-- One special setting, as `getSubscriptionCoveredGroups` applies it. -/
def coverSpecial (covered : Finset String) (special : Entry) : Finset String :=
  if hasPrefix special.1 "-:" then covered.erase (trimPrefix special.1 "-:")
  else if hasPrefix special.1 "+:" then insert (trimPrefix special.1 "+:") covered
  else insert special.1 covered

/-- One round of `mergeUsableGroups`. -/
def mergeGroup (special : SpecialSettings) (order : VisitOrder Entry) (name : String)
    (groups : GroupMap) : GroupMap :=
  let groupName := trimSpace name
  if groupName = "" then groups
  else
    let merged := match special.lookup groupName with
      | some specialSettings => (order.visit specialSettings.entries).foldl mergeSpecial groups
      | none => groups
    if groupName ∈ merged then merged else merged.insert groupName "用户分组"

def mergeGroups (special : SpecialSettings) : (Nat → VisitOrder Entry) → List String → GroupMap → GroupMap
  | _, [], groups => groups
  | orders, name :: names, groups =>
    mergeGroups special (fun round => orders (round + 1)) names (mergeGroup special (orders 0) name groups)

/-- `service/group.go::mergeUsableGroups`. -/
def mergeUsableGroups (settings : GroupSettings) (orders : Nat → VisitOrder Entry)
    (groupNames : List String) : GroupMap :=
  mergeGroups settings.groupSpecialUsableGroup orders groupNames settings.userUsableGroups

/-- One round of `getSubscriptionCoveredGroups`. -/
def coverGroup (special : SpecialSettings) (order : VisitOrder Entry) (name : String)
    (covered : Finset String) : Finset String :=
  let groupName := trimSpace name
  if groupName = "" then covered
  else match special.lookup groupName with
    | some specialSettings =>
      (order.visit specialSettings.entries).foldl coverSpecial (insert groupName covered)
    | none => insert groupName covered

def coverGroups (special : SpecialSettings) :
    (Nat → VisitOrder Entry) → List String → Finset String → Finset String
  | _, [], covered => covered
  | orders, name :: names, covered =>
    coverGroups special (fun round => orders (round + 1)) names (coverGroup special (orders 0) name covered)

/-- `service/group.go::getSubscriptionCoveredGroups`. -/
def getSubscriptionCoveredGroups (special : SpecialSettings) (orders : Nat → VisitOrder Entry)
    (subscriptionGroups : List String) : Finset String :=
  coverGroups special orders subscriptionGroups ∅

def keepsGroup (settings : GroupSettings) (isSubscriptionUser canUseQuota covered : Bool)
    (name : String) : Bool :=
  let inSub := decide (name ∈ settings.subscriptionGroups)
  let inQuota := decide (name ∈ settings.quotaGroups)
  if !inSub && !inQuota then true
  else if isSubscriptionUser && inSub then covered
  else canUseQuota && inQuota

def filterGroups (keeps : String → Bool) (order : VisitOrder Entry) (groups : GroupMap) :
    GroupMap :=
  (order.visit groups.entries).foldl
    (fun filtered entry => if keeps entry.1 then filtered.insert entry.1 entry.2 else filtered) ∅

/-- `setting/user_usable_group.go::GetUsableGroupDescription`. -/
def getUsableGroupDescription (settings : GroupSettings) (groupName : String) : String :=
  (settings.userUsableGroups.lookup groupName).getD groupName

def addOwnGroups (settings : GroupSettings) (subscriptionGroups : List String)
    (filtered : GroupMap) : GroupMap :=
  subscriptionGroups.foldl (fun filtered group =>
    if group ∉ settings.subscriptionGroups then filtered
    else if group ∈ filtered then filtered
    else filtered.insert group (getUsableGroupDescription settings group)) filtered

/-- `service/group.go::GetUserUsableGroupsWithBillingFilter`. -/
def getUserUsableGroupsWithBillingFilter (settings : GroupSettings) (orders : Orders)
    (userGroup : String) (subscriptionGroups : List String) (hasQuotaBalance : List Bool) :
    GroupMap :=
  let groups := mergeUsableGroups settings orders.merge (userGroup :: subscriptionGroups)
  if settings.enableGroupBillingFilter = false then groups
  else if settings.subscriptionGroups = [] ∧ settings.quotaGroups = [] then groups
  else
    let isSubscriptionUser := decide (0 < subscriptionGroups.length)
    let canUseQuota := hasQuotaBalance.headD !isSubscriptionUser
    let covered :=
      getSubscriptionCoveredGroups settings.groupSpecialUsableGroup orders.cover subscriptionGroups
    let filtered := filterGroups (fun name =>
        keepsGroup settings isSubscriptionUser canUseQuota (decide (name ∈ covered)) name)
      orders.filter groups
    if isSubscriptionUser then addOwnGroups settings subscriptionGroups filtered else filtered

/-! ## One group name -/

def change (name : String) (special : Entry) : Option (Option String) :=
  if hasPrefix special.1 "-:" then
    if name = trimPrefix special.1 "-:" then some none else none
  else if hasPrefix special.1 "+:" then
    if name = trimPrefix special.1 "+:" then some (some special.2) else none
  else if name = special.1 then some (some special.2) else none

def specialEntries (specials : SpecialSettings) (groupName : String) : List Entry :=
  match specials.lookup groupName with
  | some settings => settings.entries
  | none => []

/-- What the special settings of a group say on `name`. -/
def told (specials : SpecialSettings) (name groupName : String) : List (Option String) :=
  (specialEntries specials groupName).filterMap (change name)

/-- The description of a group in `merged`, and whether it is in `covered`. -/
abbrev Cell := Option String × Bool

def ownDescription (usable : Option String) : Option String := some (usable.getD "用户分组")

def completed (cell : Cell) : Cell := (ownDescription cell.1, true)

/-- What the round of a group does to `name`. -/
def turn (specials : SpecialSettings) (name group : String) : Turn Cell :=
  let groupName := trimSpace group
  if groupName = "" then .keeps
  else if told specials name groupName = [] then (if groupName = name then .completes else .keeps)
  else .sets {cell | ∃ usable ∈ told specials name groupName,
    ∃ covers ∈ told specials name groupName,
    cell = (if groupName = name then ownDescription usable else usable, covers.isSome)}

theorem completed_idem (cell : Cell) : completed (completed cell) = completed cell := rfl

section Rounds
variable {specials : SpecialSettings} {name group groupName : String} {groups : GroupMap}
  {covered : Finset String} {order : VisitOrder Entry}

theorem merge_special_lookup (name : String) (groups : GroupMap) (special : Entry) :
    (mergeSpecial groups special).lookup name = (change name special).getD (groups.lookup name) := by
  rw [mergeSpecial, change]
  by_cases removes : hasPrefix special.1 "-:" = true
  · rw [if_pos removes, if_pos removes]
    by_cases here : name = trimPrefix special.1 "-:"
    · rw [if_pos here, here, AList.lookup_erase, Option.getD_some]
    · rw [if_neg here, AList.lookup_erase_ne here, Option.getD_none]
  · rw [if_neg removes, if_neg removes]
    by_cases adds : hasPrefix special.1 "+:" = true
    · rw [if_pos adds, if_pos adds]
      by_cases here : name = trimPrefix special.1 "+:"
      · rw [if_pos here, here, AList.lookup_insert, Option.getD_some]
      · rw [if_neg here, AList.lookup_insert_ne here, Option.getD_none]
    · rw [if_neg adds, if_neg adds]
      by_cases here : name = special.1
      · rw [if_pos here, here, AList.lookup_insert, Option.getD_some]
      · rw [if_neg here, AList.lookup_insert_ne here, Option.getD_none]

theorem cover_special_mem (name : String) (covered : Finset String) (special : Entry) :
    decide (name ∈ coverSpecial covered special) =
      ((change name special).map Option.isSome).getD (decide (name ∈ covered)) := by
  rw [coverSpecial, change]
  by_cases removes : hasPrefix special.1 "-:" = true
  · rw [if_pos removes, if_pos removes]
    by_cases here : name = trimPrefix special.1 "-:"
    · simp [here]
    · simp [here]
  · rw [if_neg removes, if_neg removes]
    by_cases adds : hasPrefix special.1 "+:" = true
    · rw [if_pos adds, if_pos adds]
      by_cases here : name = trimPrefix special.1 "+:"
      · simp [here]
      · simp [here]
    · rw [if_neg adds, if_neg adds]
      by_cases here : name = special.1
      · simp [here]
      · simp [here]

theorem visit_nil (order : VisitOrder Entry) : order.visit [] = [] :=
  (order.visits_all []).eq_nil

theorem merge_group_lookup (named : trimSpace group ≠ "") :
    (mergeGroup specials order group groups).lookup name =
      let usable := ((order.visit (specialEntries specials (trimSpace group))).foldl mergeSpecial
        groups).lookup name
      if trimSpace group = name then ownDescription usable else usable := by
  have merged : (match specials.lookup (trimSpace group) with
      | some settings => (order.visit settings.entries).foldl mergeSpecial groups
      | none => groups) =
      (order.visit (specialEntries specials (trimSpace group))).foldl mergeSpecial groups := by
    rw [specialEntries]
    cases specials.lookup (trimSpace group) with
    | some settings => rfl
    | none => rw [visit_nil, List.foldl_nil]
  dsimp only [mergeGroup]
  rw [if_neg named, merged]
  generalize (order.visit (specialEntries specials (trimSpace group))).foldl mergeSpecial groups = after
  by_cases present : trimSpace group ∈ after
  · obtain ⟨description, found⟩ := Option.isSome_iff_exists.1 (AList.lookup_isSome.2 present)
    rw [if_pos present]
    split
    next same => rw [← same, found, ownDescription, Option.getD_some]
    next => rfl
  · rw [if_neg present]
    split
    next same => rw [← same, AList.lookup_insert, AList.lookup_eq_none.2 present, ownDescription,
      Option.getD_none]
    next other => rw [AList.lookup_insert_ne (Ne.symm other)]

theorem cover_group_mem (named : trimSpace group ≠ "") :
    coverGroup specials order group covered =
      (order.visit (specialEntries specials (trimSpace group))).foldl coverSpecial
        (insert (trimSpace group) covered) := by
  dsimp only [coverGroup]
  rw [if_neg named, specialEntries]
  cases specials.lookup (trimSpace group) with
  | some settings => rfl
  | none => rw [visit_nil, List.foldl_nil]

theorem told_covers (specials : SpecialSettings) (name groupName : String) :
    (specialEntries specials groupName).filterMap (fun special =>
      (change name special).map Option.isSome) =
      (told specials name groupName).map Option.isSome := by
  rw [told, List.map_filterMap]

theorem usable_pass (specials : SpecialSettings) (name groupName : String) (groups : GroupMap)
    (order : VisitOrder Entry) :
    let usable := ((order.visit (specialEntries specials groupName)).foldl mergeSpecial
      groups).lookup name
    if told specials name groupName = [] then usable = groups.lookup name
    else usable ∈ told specials name groupName :=
  pass_offers (merge_special_lookup name) order _ groups

theorem covers_pass (specials : SpecialSettings) (name groupName : String)
    (covered : Finset String) (order : VisitOrder Entry) :
    let covers := decide (name ∈ (order.visit (specialEntries specials groupName)).foldl
      coverSpecial covered)
    if told specials name groupName = [] then covers = decide (name ∈ covered)
    else ∃ last ∈ told specials name groupName, covers = last.isSome := by
  have stepped : ∀ covered special, decide (name ∈ coverSpecial covered special) =
      ((change name special).map Option.isSome).getD (decide (name ∈ covered)) :=
    cover_special_mem name
  have offers := @pass_offers _ _ _ (fun covered : Finset String => decide (name ∈ covered))
    coverSpecial _ stepped order (specialEntries specials groupName) covered
  rw [told_covers] at offers
  split
  next none_ => rwa [if_pos (List.map_eq_nil_iff.2 none_)] at offers
  next some_ =>
    rw [if_neg (mt List.map_eq_nil_iff.1 some_)] at offers
    obtain ⟨last, present, same⟩ := List.mem_map.1 offers
    exact ⟨last, present, same.symm⟩

theorem usable_reached (present : usable ∈ told specials name groupName) :
    ∃ order : VisitOrder Entry, ∀ groups : GroupMap,
      ((order.visit (specialEntries specials groupName)).foldl mergeSpecial groups).lookup name =
        usable :=
  pass_reaches (merge_special_lookup name) present

theorem covers_reached {last : Option String} (present : last ∈ told specials name groupName) :
    ∃ order : VisitOrder Entry, ∀ covered : Finset String,
      decide (name ∈ (order.visit (specialEntries specials groupName)).foldl coverSpecial covered) =
        last.isSome :=
  @pass_reaches _ _ _ (fun covered : Finset String => decide (name ∈ covered)) coverSpecial _ _
    (cover_special_mem name) _ _ (told_covers specials name groupName ▸ List.mem_map_of_mem present)

def cellOf (name : String) (groups : GroupMap) (covered : Finset String) : Cell :=
  (groups.lookup name, decide (name ∈ covered))

theorem round_takes (specials : SpecialSettings) (name group : String) (groups : GroupMap)
    (covered : Finset String) (merge cover : VisitOrder Entry) :
    Takes completed (turn specials name group) (cellOf name groups covered)
      (cellOf name (mergeGroup specials merge group groups) (coverGroup specials cover group covered)) := by
  by_cases named : trimSpace group = ""
  · have still : turn specials name group = .keeps := if_pos named
    rw [still, mergeGroup, coverGroup, if_pos named, if_pos named]
    exact .keeps _
  have usable := usable_pass specials name (trimSpace group) groups merge
  have covers := covers_pass specials name (trimSpace group) (insert (trimSpace group) covered) cover
  rw [cellOf, cellOf, merge_group_lookup named, cover_group_mem named]
  dsimp only [turn]
  rw [if_neg named]
  by_cases silent : told specials name (trimSpace group) = []
  · rw [if_pos silent] at usable covers ⊢
    rw [usable, covers]
    by_cases here : trimSpace group = name
    · rw [if_pos here, if_pos here, here, decide_eq_true (Finset.mem_insert_self name covered)]
      exact .completes (groups.lookup name, decide (name ∈ covered))
    · have apart : name ∈ insert (trimSpace group) covered ↔ name ∈ covered := by
        rw [Finset.mem_insert, or_iff_right (Ne.symm here)]
      rw [if_neg here, if_neg here, decide_eq_decide.2 apart]
      exact .keeps _
  · rw [if_neg silent] at usable covers ⊢
    obtain ⟨last, present, covers⟩ := covers
    rw [covers]
    exact .sets _ ⟨_, usable, last, present, rfl⟩

theorem turn_sets (shape : turn specials name group = .sets values) :
    trimSpace group ≠ "" ∧ told specials name (trimSpace group) ≠ [] ∧
      values = {cell | ∃ usable ∈ told specials name (trimSpace group),
        ∃ covers ∈ told specials name (trimSpace group), cell =
          (if trimSpace group = name then ownDescription usable else usable, covers.isSome)} := by
  dsimp only [turn] at shape
  split at shape
  next => cases shape
  next named =>
    split at shape
    next => split at shape <;> cases shape
    next some_ =>
      cases shape
      exact ⟨named, some_, rfl⟩

theorem round_reaches
    (takes : Takes completed (turn specials name group) (cellOf name groups covered) cell) :
    ∃ merge cover : VisitOrder Entry, cellOf name (mergeGroup specials merge group groups)
      (coverGroup specials cover group covered) = cell := by
  by_cases sets : trimSpace group ≠ "" ∧ told specials name (trimSpace group) ≠ []
  · obtain ⟨named, some_⟩ := sets
    have shape : turn specials name group = _ := (if_neg named).trans (if_neg some_)
    rw [shape] at takes
    cases takes with | sets _ offered
    obtain ⟨usable, present, last, present', rfl⟩ := offered
    obtain ⟨merge, merged⟩ := usable_reached present
    obtain ⟨cover, covers⟩ := covers_reached present'
    refine ⟨merge, cover, ?_⟩
    rw [cellOf, merge_group_lookup named, cover_group_mem named, merged, covers]
  · have unset : ∀ values, turn specials name group ≠ .sets values := fun values shape =>
      sets ⟨(turn_sets shape).1, (turn_sets shape).2.1⟩
    exact ⟨.stored, .stored, takes_unique unset
      (round_takes specials name group groups covered .stored .stored) takes⟩

theorem rounds_run (specials : SpecialSettings) (name : String) (names : List String)
    (merge cover : Nat → VisitOrder Entry) (groups : GroupMap) (covered : Finset String) :
    Runs completed (names.map (turn specials name)) (cellOf name groups covered)
      (cellOf name (mergeGroups specials merge names groups)
        (coverGroups specials cover names covered)) := by
  induction names generalizing merge cover groups covered with
  | nil => rfl
  | cons group names ih => exact ⟨_, round_takes specials name group groups covered _ _, ih _ _ _ _⟩

theorem rounds_reach
    (runs : Runs completed (names.map (turn specials name)) (cellOf name groups covered) cell) :
    ∃ merge cover, cellOf name (mergeGroups specials merge names groups)
      (coverGroups specials cover names covered) = cell := by
  induction names generalizing groups covered with
  | nil => exact ⟨fun _ => .stored, fun _ => .stored, runs.symm⟩
  | cons group names ih =>
    obtain ⟨mid, takes, rest⟩ := runs
    obtain ⟨merge, cover, rfl⟩ := round_reaches takes
    obtain ⟨merges, covers, reached⟩ := ih rest
    exact ⟨fun | 0 => merge | round + 1 => merges round,
      fun | 0 => cover | round + 1 => covers round, reached⟩

end Rounds

/-! ## What a group can come to -/

/-- The description and the cover of `name` in a call. -/
def finalCell (settings : GroupSettings) (orders : Orders) (userGroup : String)
    (subscriptionGroups : List String) (name : String) : Cell :=
  cellOf name (mergeUsableGroups settings orders.merge (userGroup :: subscriptionGroups))
    (getSubscriptionCoveredGroups settings.groupSpecialUsableGroup orders.cover subscriptionGroups)

/-- What the settings can make of `name`: the user's group has its turn, and the
active subscription groups have theirs in some order. -/
def CanEnd (settings : GroupSettings) (userGroup : String) (subscriptionGroups : List String)
    (name : String) (cell : Cell) : Prop :=
  ∃ usable covers, Takes completed (turn settings.groupSpecialUsableGroup name userGroup)
      (settings.userUsableGroups.lookup name, false) (usable, covers) ∧
    Ends completed (subscriptionGroups.map (turn settings.groupSpecialUsableGroup name))
      (usable, false) cell

theorem turns_filled (specials : SpecialSettings) (name : String) (subscriptionGroups : List String) :
    ∀ values, .sets values ∈ subscriptionGroups.map (turn specials name) → values.Nonempty := by
  intro values present
  obtain ⟨group, -, shape⟩ := List.mem_map.1 present
  obtain ⟨-, some_, rfl⟩ := turn_sets shape
  obtain ⟨last, present⟩ := List.exists_mem_of_ne_nil _ some_
  exact ⟨_, last, present, last, present, rfl⟩

theorem final_cell_iff (settings : GroupSettings) (userGroup : String)
    (subscriptionGroups : List String) (name : String) (cell : Cell) :
    (∃ order : List String, order.Perm subscriptionGroups ∧
      ∃ orders, finalCell settings orders userGroup order name = cell) ↔
      CanEnd settings userGroup subscriptionGroups name cell := by
  obtain ⟨base, specials, enabled, subscriptionList, quotaList⟩ := settings
  have shuffled := fun usable => shuffled_iff completed_idem
    (turns_filled specials name subscriptionGroups) (usable, false) cell
  have none_ : decide (name ∈ (∅ : Finset String)) = false := by simp
  constructor
  · rintro ⟨order, same, orders, rfl⟩
    have first := round_takes specials name userGroup base ∅ (orders.merge 0) (orders.merge 0)
    have rest := rounds_run specials name order (fun round => orders.merge (round + 1))
      orders.cover (mergeGroup specials (orders.merge 0) userGroup base) ∅
    exact ⟨_, _, first, (shuffled _).1 ⟨_, same.map _, rest⟩⟩
  · rintro ⟨usable, covers, first, ends⟩
    obtain ⟨turns, same, runs⟩ := (shuffled usable).2 ends
    have arranged : Relation.Comp (· = List.map (turn specials name) ·) List.Perm turns
      subscriptionGroups := by rwa [List.eq_map_comp_perm]
    obtain ⟨order, rfl, reordered⟩ := arranged
    have began : Takes completed (turn specials name userGroup) (cellOf name base ∅)
      (usable, covers) := by rwa [cellOf, none_]
    obtain ⟨merge, cover, begun⟩ := round_reaches began
    have met : cellOf name (mergeGroup specials merge userGroup base) ∅ = (usable, false) := by
      rw [cellOf, none_, ← show _ = usable from congrArg Prod.fst begun, cellOf]
    obtain ⟨merges, covers, reached⟩ := rounds_reach (met ▸ runs)
    exact ⟨order, reordered, ⟨fun | 0 => merge | round + 1 => merges round, covers, .stored⟩, reached⟩

/-! ## The filter -/

section Filter
variable {settings : GroupSettings} {groups filtered : GroupMap} {name : String}

theorem filter_loop_lookup (keeps : String → Bool) {entries : List Entry}
    (distinct : entries.NodupKeys) (filtered : GroupMap) (name : String) :
    (entries.foldl (fun filtered entry =>
      if keeps entry.1 then filtered.insert entry.1 entry.2 else filtered) filtered).lookup name =
      if keeps name then (entries.dlookup name).or (filtered.lookup name)
      else filtered.lookup name := by
  induction entries generalizing filtered with
  | nil => simp
  | cons entry entries ih =>
    obtain ⟨absent, distinct⟩ := List.nodupKeys_cons.1 distinct
    rw [List.foldl_cons, ih distinct]
    obtain ⟨key, description⟩ := entry
    by_cases here : name = key
    · subst here
      rw [List.dlookup_eq_none.2 absent, List.dlookup_cons_eq]
      by_cases kept : keeps name = true
      · simp [kept]
      · simp [kept]
    · rw [List.dlookup_cons_ne entries ⟨key, description⟩ here]
      by_cases kept : keeps key = true
      · rw [if_pos kept, AList.lookup_insert_ne here]
      · rw [if_neg kept]

theorem filter_groups_lookup (keeps : String → Bool) (order : VisitOrder Entry)
    (groups : GroupMap) (name : String) :
    (filterGroups keeps order groups).lookup name = if keeps name then groups.lookup name else none := by
  have distinct := (List.perm_nodupKeys (order.visits_all groups.entries)).2 groups.nodupKeys
  rw [filterGroups, filter_loop_lookup keeps distinct,
    List.perm_dlookup name distinct (order.visits_all groups.entries), AList.lookup_empty,
    Option.or_none]
  rfl

theorem add_own_groups_lookup (settings : GroupSettings) (subscriptionGroups : List String)
    (filtered : GroupMap) (name : String) :
    (addOwnGroups settings subscriptionGroups filtered).lookup name =
      if name ∈ subscriptionGroups ∧ name ∈ settings.subscriptionGroups then
        some ((filtered.lookup name).getD (getUsableGroupDescription settings name))
      else filtered.lookup name := by
  induction subscriptionGroups generalizing filtered with
  | nil => simp [addOwnGroups]
  | cons group rest ih =>
    rw [addOwnGroups, List.foldl_cons, ← addOwnGroups, ih]
    by_cases here : name = group
    · subst here
      by_cases listed : name ∈ settings.subscriptionGroups
      · by_cases present : name ∈ filtered
        · obtain ⟨description, found⟩ := Option.isSome_iff_exists.1 (AList.lookup_isSome.2 present)
          simp [listed, present, found]
        · simp [listed, present, AList.lookup_eq_none.2 present]
      · simp [listed]
    · have kept : (if group ∉ settings.subscriptionGroups then filtered
          else if group ∈ filtered then filtered
          else filtered.insert group (getUsableGroupDescription settings group)).lookup name =
          filtered.lookup name := by
        split
        next => rfl
        next =>
          split
          next => rfl
          next => exact AList.lookup_insert_ne here
      rw [kept]
      simp [here]

end Filter

def shown (settings : GroupSettings) (isSubscriptionUser own balance : Bool) (name : String)
    (cell : Cell) : Option String :=
  let kept := if keepsGroup settings isSubscriptionUser balance cell.2 name then cell.1 else none
  if own && decide (name ∈ settings.subscriptionGroups) then
    some (kept.getD (getUsableGroupDescription settings name))
  else kept

theorem usable_groups_lookup
    (on : settings.enableGroupBillingFilter = true) (orders : Orders) (userGroup : String)
    (subscriptionGroups : List String) (balance : Bool) (name : String) :
    (getUserUsableGroupsWithBillingFilter settings orders userGroup subscriptionGroups
      [balance]).lookup name =
      shown settings (decide (0 < subscriptionGroups.length)) (decide (name ∈ subscriptionGroups))
        balance name (finalCell settings orders userGroup subscriptionGroups name) := by
  dsimp only [getUserUsableGroupsWithBillingFilter]
  rw [if_neg (by rw [on]; exact Bool.noConfusion), List.headD_cons]
  by_cases unlisted : settings.subscriptionGroups = [] ∧ settings.quotaGroups = []
  · simp [shown, keepsGroup, unlisted, finalCell, cellOf]
  rw [if_neg unlisted]
  have kept := filter_groups_lookup (fun name => keepsGroup settings
      (decide (0 < subscriptionGroups.length)) balance
      (decide (name ∈ getSubscriptionCoveredGroups settings.groupSpecialUsableGroup orders.cover
        subscriptionGroups)) name)
    orders.filter (mergeUsableGroups settings orders.merge (userGroup :: subscriptionGroups)) name
  by_cases subscribed : 0 < subscriptionGroups.length
  · rw [if_pos (decide_eq_true subscribed), add_own_groups_lookup, kept]
    dsimp only [shown, finalCell, cellOf]
    simp only [Bool.and_eq_true, decide_eq_true_eq]
  · rw [if_neg (by simpa using subscribed), kept]
    have none_ : subscriptionGroups = [] := by simpa using subscribed
    simp [shown, finalCell, cellOf, none_]

/-! ## The documented rule -/

section Rule
variable (settings : GroupSettings) (userGroup : String) (subscriptionGroups : List String)
  (balance : Bool)

/-- The groups of a user with the billing filter on and the balance given. -/
def usableGroups (orders : Orders) : GroupMap :=
  getUserUsableGroupsWithBillingFilter settings orders userGroup subscriptionGroups [balance]

/-- A merged group is usable if it is in neither list, or in the list of subscriptions and
covered, or in that of quota with balance; and so is a listed subscription of the user. -/
def RuleAt (orders : Orders) (name : String) : Prop :=
  name ∈ usableGroups settings userGroup subscriptionGroups balance orders ↔
    (name ∈ mergeUsableGroups settings orders.merge (userGroup :: subscriptionGroups) ∧
      ((name ∉ settings.subscriptionGroups ∧ name ∉ settings.quotaGroups) ∨
        (name ∈ settings.subscriptionGroups ∧ name ∈ getSubscriptionCoveredGroups
          settings.groupSpecialUsableGroup orders.cover subscriptionGroups) ∨
        (name ∈ settings.quotaGroups ∧ balance = true))) ∨
    (name ∈ subscriptionGroups ∧ name ∈ settings.subscriptionGroups)

/-- The rule, for every order of the subscriptions and of the maps. -/
def RuleHolds : Prop :=
  ∀ order : List String, order.Perm subscriptionGroups →
    ∀ orders name, RuleAt settings userGroup order balance orders name

/-- No order of the subscriptions, the lists or the maps changes what is shown. -/
def OrderFree : Prop :=
  ∀ (order subscriptionList quotaList : List String), order.Perm subscriptionGroups →
    subscriptionList.Perm settings.subscriptionGroups → quotaList.Perm settings.quotaGroups →
    ∀ orders orders' name,
      (usableGroups
        { settings with subscriptionGroups := subscriptionList, quotaGroups := quotaList }
        userGroup order balance orders').lookup name =
        (usableGroups settings userGroup subscriptionGroups balance orders).lookup name

/-- No special setting takes a group away. -/
def NoRemovals : Prop :=
  ∀ groupName, ∀ special ∈ specialEntries settings.groupSpecialUsableGroup groupName,
    hasPrefix special.1 "-:" = false

/-- One more subscription hides no group, and neither does balance. -/
def Monotone : Prop :=
  (∀ (added : String) (order : List String), order.Perm (added :: subscriptionGroups) →
    ∀ orders orders' name,
      name ∈ usableGroups settings userGroup subscriptionGroups balance orders →
      name ∈ usableGroups settings userGroup order balance orders') ∧
  ∀ orders orders' name, name ∈ usableGroups settings userGroup subscriptionGroups false orders →
    name ∈ usableGroups settings userGroup subscriptionGroups true orders'

/-- The groups of a user follow the rule in every order, and grow with what the user has
where nothing is taken away. -/
structure Visibility : Prop where
  rule : RuleHolds settings userGroup subscriptionGroups balance
  orderFree : OrderFree settings userGroup subscriptionGroups balance
  monotone : NoRemovals settings → Monotone settings userGroup subscriptionGroups balance

/-- The special settings that can have the last word on a group agree on what is
shown of it; and with balance, a usable group in both lists is covered or an active
subscription group itself, when there are such groups or nothing is taken away. -/
structure Settled : Prop where
  agree : ∀ name cell cell', CanEnd settings userGroup subscriptionGroups name cell →
    CanEnd settings userGroup subscriptionGroups name cell' →
    shown settings (decide (0 < subscriptionGroups.length)) (decide (name ∈ subscriptionGroups))
        balance name cell =
      shown settings (decide (0 < subscriptionGroups.length)) (decide (name ∈ subscriptionGroups))
        balance name cell'
  hybrid : balance = true → subscriptionGroups ≠ [] ∨ NoRemovals settings →
    ∀ name ∈ settings.subscriptionGroups, name ∈ settings.quotaGroups → name ∉ subscriptionGroups →
    ∀ cell, CanEnd settings userGroup subscriptionGroups name cell → cell.1 ≠ none → cell.2 = true

end Rule

section Results
variable {settings : GroupSettings} {userGroup name : String} {subscriptionGroups : List String}
  {isSubscriptionUser own balance : Bool} {cell : Cell} {orders : Orders}

theorem shown_isSome : (shown settings isSubscriptionUser own balance name cell).isSome = true ↔
    (own = true ∧ name ∈ settings.subscriptionGroups) ∨
      (cell.1.isSome = true ∧ keepsGroup settings isSubscriptionUser balance cell.2 name = true) := by
  dsimp only [shown]
  by_cases added : own = true ∧ name ∈ settings.subscriptionGroups
  · simp [added]
  · by_cases kept : keepsGroup settings isSubscriptionUser balance cell.2 name = true
    · simp [added, kept]
    · simp [added, kept]

theorem keeps_group_iff :
    keepsGroup settings isSubscriptionUser canUseQuota covered name = true ↔
      (name ∉ settings.subscriptionGroups ∧ name ∉ settings.quotaGroups) ∨
      (isSubscriptionUser = true ∧ name ∈ settings.subscriptionGroups ∧ covered = true) ∨
      (¬(isSubscriptionUser = true ∧ name ∈ settings.subscriptionGroups) ∧
        name ∈ settings.quotaGroups ∧ canUseQuota = true) := by
  dsimp only [keepsGroup]
  by_cases inSub : name ∈ settings.subscriptionGroups
  · by_cases inQuota : name ∈ settings.quotaGroups
    · cases isSubscriptionUser <;> simp [inSub, inQuota]
    · cases isSubscriptionUser <;> simp [inSub, inQuota]
  · by_cases inQuota : name ∈ settings.quotaGroups
    · simp [inSub, inQuota]
    · simp [inSub, inQuota]

theorem shown_rule (uncovered : isSubscriptionUser = false → cell.2 = false)
    (subscribed : own = true → isSubscriptionUser = true) :
    ((shown settings isSubscriptionUser own balance name cell).isSome = true ↔
      (cell.1.isSome = true ∧
        ((name ∉ settings.subscriptionGroups ∧ name ∉ settings.quotaGroups) ∨
          (name ∈ settings.subscriptionGroups ∧ cell.2 = true) ∨
          (name ∈ settings.quotaGroups ∧ balance = true))) ∨
      (own = true ∧ name ∈ settings.subscriptionGroups)) ↔
    (balance = true → isSubscriptionUser = true → name ∈ settings.subscriptionGroups →
      name ∈ settings.quotaGroups → own = false → cell.1.isSome = true → cell.2 = true) := by
  rw [shown_isSome, keeps_group_iff]
  cases isSubscriptionUser with
  | false =>
    grind
  | true => grind

theorem final_can_end (settings : GroupSettings) (orders : Orders) (userGroup name : String)
    (same : order.Perm subscriptionGroups) :
    CanEnd settings userGroup subscriptionGroups name (finalCell settings orders userGroup order name) :=
  (final_cell_iff settings userGroup subscriptionGroups name _).1 ⟨order, same, orders, rfl⟩

theorem can_end_uncovered (none_ : decide (0 < subscriptionGroups.length) = false)
    (ends : CanEnd settings userGroup subscriptionGroups name cell) : cell.2 = false := by
  have empty : subscriptionGroups = [] := by simpa using none_
  subst empty
  obtain ⟨usable, covers, -, ends⟩ := ends
  cases ends with
  | set turn | completed turn => exact absurd turn List.not_mem_nil
  | unset _ later => exact absurd later List.not_mem_nil
  | untouched => rfl

theorem rule_at_iff (on : settings.enableGroupBillingFilter = true) (userGroup : String)
    (subscriptionGroups : List String) (balance : Bool) (orders : Orders) (name : String) :
    RuleAt settings userGroup subscriptionGroups balance orders name ↔
      (balance = true → subscriptionGroups ≠ [] → name ∈ settings.subscriptionGroups →
        name ∈ settings.quotaGroups → name ∉ subscriptionGroups →
        (finalCell settings orders userGroup subscriptionGroups name).1 ≠ none →
        (finalCell settings orders userGroup subscriptionGroups name).2 = true) := by
  have rule := @shown_rule settings name (decide (0 < subscriptionGroups.length))
    (decide (name ∈ subscriptionGroups)) balance
    (finalCell settings orders userGroup subscriptionGroups name)
    (fun none_ => can_end_uncovered none_ (final_can_end settings orders userGroup name (.refl _)))
    (fun own => decide_eq_true (List.length_pos_of_mem (of_decide_eq_true own)))
  rw [← usable_groups_lookup on orders userGroup subscriptionGroups balance name,
    AList.lookup_isSome] at rule
  have usable : (finalCell settings orders userGroup subscriptionGroups name).1.isSome = true ↔
      name ∈ mergeUsableGroups settings orders.merge (userGroup :: subscriptionGroups) :=
    AList.lookup_isSome
  have covered : (finalCell settings orders userGroup subscriptionGroups name).2 = true ↔
      name ∈ getSubscriptionCoveredGroups settings.groupSpecialUsableGroup orders.cover
        subscriptionGroups := decide_eq_true_iff
  rw [RuleAt, usableGroups]
  rw [Option.ne_none_iff_isSome, ← List.length_pos_iff]
  rw [covered, usable] at rule ⊢
  simpa only [decide_eq_true_eq, decide_eq_false_iff_not] using rule

theorem rule_holds_iff (on : settings.enableGroupBillingFilter = true) :
    RuleHolds settings userGroup subscriptionGroups balance ↔
      (balance = true → subscriptionGroups ≠ [] → ∀ name ∈ settings.subscriptionGroups,
        name ∈ settings.quotaGroups → name ∉ subscriptionGroups →
        ∀ cell, CanEnd settings userGroup subscriptionGroups name cell → cell.1 ≠ none →
          cell.2 = true) := by
  constructor
  · intro holds paid subscribed name inSub inQuota other cell ends
    obtain ⟨order, same, orders, rfl⟩ := (final_cell_iff settings userGroup _ name cell).2 ends
    exact (rule_at_iff on userGroup order balance orders name).1 (holds order same orders name)
      paid (fun none_ => subscribed (none_ ▸ same).symm.eq_nil) inSub inQuota
      (mt same.mem_iff.1 other)
  · intro covers order same orders name
    refine (rule_at_iff on userGroup order balance orders name).2 ?_
    intro paid subscribed inSub inQuota other
    exact covers paid (fun none_ => subscribed (none_ ▸ same).eq_nil) name inSub inQuota
      (mt same.mem_iff.2 other) _ (final_can_end settings orders userGroup name same)

theorem shown_perm
    (same : subscriptionList.Perm settings.subscriptionGroups)
    (same' : quotaList.Perm settings.quotaGroups) (cell : Cell) :
    shown { settings with subscriptionGroups := subscriptionList, quotaGroups := quotaList }
      isSubscriptionUser own balance name cell =
      shown settings isSubscriptionUser own balance name cell := by
  have keeps : keepsGroup
      { settings with subscriptionGroups := subscriptionList, quotaGroups := quotaList }
      isSubscriptionUser balance cell.2 name =
      keepsGroup settings isSubscriptionUser balance cell.2 name := by
    simp only [keepsGroup, same.mem_iff, same'.mem_iff]
  have listed : decide (name ∈ subscriptionList) = decide (name ∈ settings.subscriptionGroups) :=
    decide_eq_decide.2 same.mem_iff
  dsimp only [shown]
  rw [keeps, listed]
  rfl

theorem order_free_iff (on : settings.enableGroupBillingFilter = true) :
    OrderFree settings userGroup subscriptionGroups balance ↔
      ∀ name cell cell', CanEnd settings userGroup subscriptionGroups name cell →
        CanEnd settings userGroup subscriptionGroups name cell' →
        shown settings (decide (0 < subscriptionGroups.length))
            (decide (name ∈ subscriptionGroups)) balance name cell =
          shown settings (decide (0 < subscriptionGroups.length))
            (decide (name ∈ subscriptionGroups)) balance name cell' := by
  have answers : ∀ (order subscriptionList quotaList : List String),
      order.Perm subscriptionGroups → subscriptionList.Perm settings.subscriptionGroups →
      quotaList.Perm settings.quotaGroups → ∀ orders name,
      (usableGroups
        { settings with subscriptionGroups := subscriptionList, quotaGroups := quotaList }
        userGroup order balance orders).lookup name =
        shown settings (decide (0 < subscriptionGroups.length))
          (decide (name ∈ subscriptionGroups)) balance name
          (finalCell settings orders userGroup order name) := by
    intro order subscriptionList quotaList same same' same'' orders name
    have shows := @usable_groups_lookup
      { settings with subscriptionGroups := subscriptionList, quotaGroups := quotaList } on orders
      userGroup order balance name
    rw [usableGroups, shows, shown_perm same' same'', same.length_eq, decide_eq_decide.2 same.mem_iff]
    rfl
  constructor
  · intro free name cell cell' ends ends'
    obtain ⟨order, same, orders, rfl⟩ := (final_cell_iff settings userGroup _ name cell).2 ends
    obtain ⟨order', same', orders', rfl⟩ := (final_cell_iff settings userGroup _ name cell').2 ends'
    have first := free order _ _ same (.refl _) (.refl _) orders orders name
    have second := free order' _ _ same' (.refl _) (.refl _) orders orders' name
    rw [answers order _ _ same (.refl _) (.refl _)] at first
    rw [answers order' _ _ same' (.refl _) (.refl _)] at second
    exact first.trans second.symm
  · intro agree order subscriptionList quotaList same same' same'' orders orders' name
    rw [answers order _ _ same same' same'', usableGroups, usable_groups_lookup on]
    exact agree name _ _ (final_can_end settings orders' userGroup name same)
      (final_can_end settings orders userGroup name (.refl _))

theorem told_adds (kept : NoRemovals settings) (groupName : String)
    (present : last ∈ told settings.groupSpecialUsableGroup name groupName) :
    last.isSome = true := by
  obtain ⟨special, listed, spoken⟩ := List.mem_filterMap.1 present
  rw [change, if_neg (by rw [kept groupName special listed]; exact Bool.noConfusion)] at spoken
  split at spoken
  next =>
    split at spoken
    next => cases spoken; rfl
    next => cases spoken
  next =>
    split at spoken
    next => cases spoken; rfl
    next => cases spoken

theorem turn_raises (kept : NoRemovals settings) {groups : List String} :
    ∀ values, .sets values ∈ groups.map (turn settings.groupSpecialUsableGroup name) →
      ∀ cell ∈ values, cell.1.isSome = true ∧ cell.2 = true := by
  intro values present
  obtain ⟨group, -, shape⟩ := List.mem_map.1 present
  obtain ⟨-, -, rfl⟩ := turn_sets shape
  rintro _ ⟨usable, spoken, covers, spoken', rfl⟩
  refine ⟨?_, told_adds kept _ spoken'⟩
  split
  next => rfl
  next => exact told_adds kept _ spoken

theorem can_end_raised (kept : NoRemovals settings)
    (ends : CanEnd settings userGroup subscriptionGroups name cell) :
    (cell.1.isSome = true ↔ (settings.userUsableGroups.lookup name).isSome = true ∨
      ∃ group ∈ userGroup :: subscriptionGroups,
        turn settings.groupSpecialUsableGroup name group ≠ .keeps) ∧
    (cell.2 = true ↔ ∃ group ∈ subscriptionGroups,
      turn settings.groupSpecialUsableGroup name group ≠ .keeps) := by
  have completing : ∀ cell, (completed cell).1.isSome = true ∧ (completed cell).2 = true :=
    fun _ => ⟨rfl, rfl⟩
  obtain ⟨usable, covers, takes, ends⟩ := ends
  have user : ∀ values, .sets values ∈ [turn settings.groupSpecialUsableGroup name userGroup] →
      ∀ cell ∈ values, cell.1.isSome = true ∧ cell.2 = true :=
    @turn_raises settings name kept [userGroup]
  have first := ends_raised completing user (ends_of_takes completed_idem takes)
  rw [List.exists_mem_cons_iff]
  rcases ends_raised completing (turn_raises kept) ends with ⟨raised, some_⟩ | ⟨rfl, still⟩
  · have some_ : ∃ group ∈ subscriptionGroups,
        turn settings.groupSpecialUsableGroup name group ≠ .keeps := by
      obtain ⟨_, present, moves⟩ := some_
      obtain ⟨group, listed, rfl⟩ := List.mem_map.1 present
      exact ⟨group, listed, moves⟩
    exact ⟨iff_of_true raised.1 (.inr (.inr some_)), iff_of_true raised.2 some_⟩
  · have none_ : ¬ ∃ group ∈ subscriptionGroups,
        turn settings.groupSpecialUsableGroup name group ≠ .keeps :=
      fun ⟨_, listed, moves⟩ => moves (still _ (List.mem_map_of_mem listed))
    refine ⟨?_, iff_of_false Bool.noConfusion none_⟩
    rcases first with ⟨raised, moves⟩ | ⟨same, stays⟩
    · exact iff_of_true raised.1 (.inr (.inl (by simpa using moves)))
    · have stays : turn settings.groupSpecialUsableGroup name userGroup = .keeps := by
        simpa using stays
      rw [Prod.mk.injEq] at same
      rw [same.1, stays]
      simp [none_]

theorem can_end_grows (kept : NoRemovals settings)
    (grown : subscriptionGroups ⊆ more)
    (ends : CanEnd settings userGroup subscriptionGroups name cell)
    (ends' : CanEnd settings userGroup more name cell') :
    (cell.1.isSome = true → cell'.1.isSome = true) ∧ (cell.2 = true → cell'.2 = true) := by
  obtain ⟨usable, covers⟩ := can_end_raised kept ends
  obtain ⟨usable', covers'⟩ := can_end_raised kept ends'
  rw [usable, usable', covers, covers']
  refine ⟨Or.imp_right ?_, ?_⟩
  · rintro ⟨group, listed, moves⟩
    exact ⟨group, List.cons_subset_cons _ grown listed, moves⟩
  · rintro ⟨group, listed, moves⟩
    exact ⟨group, grown listed, moves⟩

theorem blank_covers_nothing (specials : SpecialSettings) (orders : Nat → VisitOrder Entry)
    (blank : trimSpace added = "") :
    getSubscriptionCoveredGroups specials orders [added] = ∅ := if_pos blank

theorem mem_usable_iff (on : settings.enableGroupBillingFilter = true) :
    name ∈ usableGroups settings userGroup subscriptionGroups balance orders ↔
      (name ∈ subscriptionGroups ∧ name ∈ settings.subscriptionGroups) ∨
      ((finalCell settings orders userGroup subscriptionGroups name).1.isSome = true ∧
        keepsGroup settings (decide (0 < subscriptionGroups.length)) balance
          (finalCell settings orders userGroup subscriptionGroups name).2 name = true) := by
  rw [← AList.lookup_isSome, usableGroups, usable_groups_lookup on, shown_isSome, decide_eq_true_iff]

theorem exists_blank (name : String) : ∃ added, trimSpace added = "" ∧ name ≠ added := by
  by_cases empty : name = ""
  · exact ⟨" ", by decide, by rw [empty]; decide⟩
  · exact ⟨"", trim_space_empty, empty⟩

theorem blank_hides (on : settings.enableGroupBillingFilter = true)
    (blank : trimSpace added = "") (other : name ≠ added)
    (inSub : name ∈ settings.subscriptionGroups) :
    name ∉ usableGroups settings userGroup [added] balance orders := by
  rw [mem_usable_iff on]
  rintro (own | ⟨-, keeps⟩)
  · exact other (List.mem_singleton.1 own.1)
  · have uncovered : (finalCell settings orders userGroup [added] name).2 = false := by
      rw [finalCell, blank_covers_nothing _ _ blank]
      exact decide_eq_false (Finset.notMem_empty name)
    rw [uncovered] at keeps
    rcases keeps_group_iff.1 keeps with neither | covers | quota
    · exact neither.1 inSub
    · exact Bool.noConfusion covers.2.2
    · exact quota.1 ⟨rfl, inSub⟩

theorem added_shows (on : settings.enableGroupBillingFilter = true) (kept : NoRemovals settings)
    (grown : subscriptionGroups ⊆ order)
    (filled : 0 < order.length)
    (sure : balance = true → subscriptionGroups = [] → name ∈ settings.subscriptionGroups →
      name ∈ settings.quotaGroups →
      (finalCell settings orders userGroup subscriptionGroups name).1 = none)
    (before : name ∈ usableGroups settings userGroup subscriptionGroups balance orders) :
    name ∈ usableGroups settings userGroup order balance orders' := by
  rw [mem_usable_iff on] at before ⊢
  obtain ⟨usable', covers'⟩ := can_end_grows kept grown
    (final_can_end settings orders userGroup name (.refl _))
    (final_can_end settings orders' userGroup name (.refl _))
  rcases before with ⟨own, listed⟩ | ⟨usable, keeps⟩
  · exact .inl ⟨grown own, listed⟩
  · refine .inr ⟨usable' usable, keeps_group_iff.2 ?_⟩
    rcases keeps_group_iff.1 keeps with neither | ⟨-, inSub, covers⟩ | ⟨free, inQuota, paid⟩
    · exact .inl neither
    · exact .inr (.inl ⟨decide_eq_true filled, inSub, covers' covers⟩)
    · by_cases inSub : name ∈ settings.subscriptionGroups
      · have empty : subscriptionGroups = [] := by simpa [inSub] using free
        rw [sure paid empty inSub inQuota] at usable
        exact absurd usable Bool.noConfusion
      · exact .inr (.inr ⟨fun subscribed => inSub subscribed.2, inQuota, paid⟩)

theorem balance_shows (on : settings.enableGroupBillingFilter = true)
    (kept : NoRemovals settings)
    (before : name ∈ usableGroups settings userGroup subscriptionGroups false orders) :
    name ∈ usableGroups settings userGroup subscriptionGroups true orders' := by
  rw [mem_usable_iff on] at before ⊢
  obtain ⟨usable', covers'⟩ := can_end_grows kept (List.Subset.refl subscriptionGroups)
    (final_can_end settings orders userGroup name (.refl _))
    (final_can_end settings orders' userGroup name (.refl _))
  rcases before with own | ⟨usable, keeps⟩
  · exact .inl own
  · refine .inr ⟨usable' usable, keeps_group_iff.2 ?_⟩
    rcases keeps_group_iff.1 keeps with neither | ⟨subscribed, inSub, covers⟩ | ⟨-, -, paid⟩
    · exact .inl neither
    · exact .inr (.inl ⟨subscribed, inSub, covers' covers⟩)
    · exact absurd paid Bool.noConfusion

theorem monotone_iff (on : settings.enableGroupBillingFilter = true) (kept : NoRemovals settings) :
    Monotone settings userGroup subscriptionGroups balance ↔
      (balance = true → subscriptionGroups = [] → ∀ name ∈ settings.subscriptionGroups,
        name ∈ settings.quotaGroups →
        ∀ cell, CanEnd settings userGroup subscriptionGroups name cell → cell.1 = none) := by
  constructor
  · intro monotone paid none_ name inSub inQuota cell ends
    subst none_
    by_contra usable
    obtain ⟨order, same, orders, rfl⟩ := (final_cell_iff settings userGroup [] name cell).2 ends
    cases same.eq_nil
    obtain ⟨added, blank, other⟩ := exists_blank name
    have quota : keepsGroup settings false balance
        (finalCell settings orders userGroup [] name).2 name = true :=
      keeps_group_iff.2 (.inr (.inr ⟨nofun, inQuota, paid⟩))
    have before : name ∈ usableGroups settings userGroup [] balance orders :=
      (mem_usable_iff on).2 (.inr ⟨Option.ne_none_iff_isSome.1 usable, quota⟩)
    exact blank_hides on blank other inSub (monotone.1 added [added] (.refl _) orders .stored name before)
  · intro none_
    refine ⟨fun added order same orders orders' name before => ?_,
      fun orders orders' name before => balance_shows on kept before⟩
    have grown : subscriptionGroups ⊆ order := fun group listed =>
      same.mem_iff.2 (.tail _ listed)
    have filled : 0 < order.length := by
      rw [same.length_eq]
      exact Nat.succ_pos _
    exact added_shows on kept grown filled (fun paid empty inSub inQuota =>
      none_ paid empty name inSub inQuota _ (final_can_end settings orders userGroup name (.refl _)))
      before

theorem silent_can_end
    (silent : ∀ group ∈ userGroup :: subscriptionGroups,
      specialEntries settings.groupSpecialUsableGroup (trimSpace group) = [])
    (ends : CanEnd settings userGroup subscriptionGroups name cell)
    (ends' : CanEnd settings userGroup subscriptionGroups name cell') : cell = cell' := by
  have unset : ∀ group ∈ userGroup :: subscriptionGroups, ∀ values,
      turn settings.groupSpecialUsableGroup name group ≠ .sets values := by
    intro group listed values shape
    refine (turn_sets shape).2.1 ?_
    rw [told, silent group listed, List.filterMap_nil]
  obtain ⟨usable, covers, takes, ends⟩ := ends
  obtain ⟨usable', covers', takes', ends'⟩ := ends'
  have same := takes_unique (unset userGroup (.head _)) takes takes'
  rw [Prod.mk.injEq] at same
  rw [← same.1] at ends'
  refine ends_unique (fun values present => ?_) ends ends'
  obtain ⟨group, listed, shape⟩ := List.mem_map.1 present
  exact unset group (.tail _ listed) values shape

/-- The visibility of groups is as documented when the special settings agree and no
usable group in both lists is lost. -/
theorem visibility_iff_settled (on : settings.enableGroupBillingFilter = true)
    (userGroup : String) (subscriptionGroups : List String) (balance : Bool) :
    Visibility settings userGroup subscriptionGroups balance ↔
      Settled settings userGroup subscriptionGroups balance := by
  constructor
  · intro ⟨rule, free, monotone⟩
    refine ⟨(order_free_iff on).1 free, ?_⟩
    intro paid known name inSub inQuota other cell ends usable
    by_cases none_ : subscriptionGroups = []
    · have kept := known.resolve_left (not_not_intro none_)
      have lost := (monotone_iff on kept).1 (monotone kept)
      exact absurd (lost paid none_ name inSub inQuota cell ends) usable
    · exact (rule_holds_iff on).1 rule paid none_ name inSub inQuota other cell ends usable
  · intro ⟨agree, hybrid⟩
    refine ⟨(rule_holds_iff on).2 ?_, (order_free_iff on).2 agree, fun kept =>
      (monotone_iff on kept).2 ?_⟩
    · intro paid some_ name inSub inQuota other
      exact hybrid paid (.inl some_) name inSub inQuota other
    · intro paid none_ name inSub inQuota cell ends
      by_contra usable
      have covers := hybrid paid (.inr kept) name inSub inQuota (none_ ▸ List.not_mem_nil) cell ends usable
      have uncovered := can_end_uncovered (by rw [none_]; rfl) ends
      exact Bool.noConfusion (covers.symm.trans uncovered)

end Results

def mixedSettings : GroupSettings where
  userUsableGroups := List.toAList [⟨"default", "默认分组"⟩, ⟨"mixed", "通用分组"⟩]
  groupSpecialUsableGroup := ∅
  enableGroupBillingFilter := true
  subscriptionGroups := ["plan", "mixed"]
  quotaGroups := ["mixed"]

theorem mixed_group_visible : Visibility mixedSettings "default" ["plan"] false :=
  (visibility_iff_settled rfl "default" ["plan"] false).2
    ⟨fun _ _ _ ends ends' => congrArg _ (silent_can_end (fun _ _ => rfl) ends ends'),
      fun paid => absurd paid Bool.noConfusion⟩

/-- The group that is both is not shown to a subscriber with balance. -/
theorem mixed_group_hidden : ¬ Visibility mixedSettings "default" ["plan"] true := by
  intro documented
  have rule := documented.rule ["plan"] (.refl _) .stored "mixed"
  have hidden : (finalCell mixedSettings .stored "default" ["plan"] "mixed").2 = false := by decide
  have covered := (rule_at_iff rfl "default" ["plan"] true .stored "mixed").1 rule rfl (by decide)
    (by decide) (by decide) (by decide) (by decide)
  exact Bool.noConfusion (hidden.symm.trans covered)

end NewApi.GroupVisibility
