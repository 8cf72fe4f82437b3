import NewApi.Channels
import NewApi.GuardedRun

/-! The routing lists in memory: for each group and model the enabled channels
that serve it, by priority. The lists are rebuilt from the tables, and a channel
that is disabled in between is pruned from them. -/
namespace NewApi.ChannelCache
open NewApi.GuardedRun NewApi.KeyedTable NewApi.Channels

/-! ## Rebuilding -/

/-- `map[string]map[string][]int`: an inner map may be missing. -/
abbrev Routes := String → Option (String → Option (List Int))

/-- What `group2model2channels[group][model]` reads. -/
def Routes.get (routes : Routes) (group model : String) : List Int :=
  ((routes group).bind fun inner => inner model).getD []

/-- `routes[group][model] = ids`: an assignment into a missing map panics. -/
def Routes.set (routes : Routes) (group model : String) (ids : List Int) : Option Routes :=
  (routes group).map fun inner =>
    Function.update routes group (some (Function.update inner model (some ids)))

def emptyRoutes (abilities : List Ability) : Routes := fun group =>
  if abilities.any fun ability => ability.group = group then some fun _ => none else none

def addPairs (id : Int) : List (String × String) → Routes → Option Routes
  | [], routes => some routes
  | (group, model) :: rest, routes =>
    (routes.set group model (routes.get group model ++ [id])).bind (addPairs id rest)

def listedPairs (channel : Channel) : List (String × String) :=
  channel.groupNames.flatMap fun group => channel.modelNames.map fun model => (group, model)

def addChannels : List Channel → Routes → Option Routes
  | [], routes => some routes
  | channel :: rest, routes =>
    if channel.status ≠ .enabled then addChannels rest routes
    else (addPairs channel.id (listedPairs channel) routes).bind (addChannels rest)

/-- `sort.Slice` by descending priority, which says nothing of equal ones. -/
structure PrioritySort where
  sort : (Int → Int) → List Int → List Int
  perm : ∀ priority ids, (sort priority ids).Perm ids
  sorted : ∀ priority ids, (sort priority ids).Pairwise fun one other =>
    priority other ≤ priority one

def stableSort : PrioritySort where
  sort priority ids := ids.insertionSort fun one other => priority other ≤ priority one
  perm priority ids := List.perm_insertionSort _ _
  sorted priority ids := by
    apply List.pairwise_insertionSort

structure Cache where
  group2model2channels : Routes := fun _ => none
  channelsIDM : Int → Option Channel := fun _ => none

def priorityIn (channels : List Channel) (id : Int) : Int :=
  ((lookup Channel.id channels id).map Channel.getPriority).getD 0

def sortRoutes (sorter : PrioritySort) (channels : List Channel) (routes : Routes) : Routes :=
  fun group => (routes group).map fun inner model =>
    (inner model).map (sorter.sort (priorityIn channels))

def keepCursor (old : Int → Option Channel) (channel : Channel) : Channel :=
  if channel.channelInfo.isMultiKey ∧ channel.channelInfo.multiKeyMode = .polling then
    match old channel.id with
    | none => channel
    | some oldChannel =>
      if oldChannel.channelInfo.isMultiKey ∧ oldChannel.channelInfo.multiKeyMode = .polling then
        { channel with channelInfo := { channel.channelInfo with
            multiKeyPollingIndex := oldChannel.channelInfo.multiKeyPollingIndex } }
      else channel
  else channel

/-- `model/channel_cache.go::InitChannelCache`, from the rows that it reads;
`none` is a panic. -/
def initChannelCache (sorter : PrioritySort) (channels : List Channel) (abilities : List Ability)
    (cache : Cache) : Option Cache :=
  (addChannels channels (emptyRoutes abilities)).map fun routes =>
    { group2model2channels := sortRoutes sorter channels routes
      channelsIDM := fun id =>
        (lookup Channel.id channels id).map (keepCursor cache.channelsIDM) }

/-! ## Selecting -/

inductive SelectError where
  | inconsistent (channelId : Int)
  | noChannelFound (group model : String) (priority : Int)
  | notFound
  deriving DecidableEq, Repr

def usableChannels (cache : Cache) : List Int → Except SelectError (List Channel)
  | [] => .ok []
  | channelId :: rest =>
    match cache.channelsIDM channelId with
    | none => .error (.inconsistent channelId)
    | some channel => (usableChannels cache rest).map fun others =>
      if channel.reachedUsageLimit then others else channel :: others

def pickByWeight (factor adjustment : Int) : List Channel → Int → Option Channel
  | [], _ => none
  | channel :: rest, left =>
    let left := left - (channel.getWeight * factor + adjustment)
    if left < 0 then some channel else pickByWeight factor adjustment rest left

def targetChannels (retry : Nat) (usable : List Channel) : List Channel × Int :=
  let priorities := (usable.map Channel.getPriority).dedup.insertionSort fun one other =>
    other ≤ one
  let target := (priorities[min retry (priorities.length - 1)]?).getD 0
  (usable.filter fun channel => channel.getPriority = target, target)

/-- The draw among the channels of one priority; `random` gives the draw. -/
def drawChannel (targets : List Channel) (random : Nat) : Option Channel :=
  let sumWeight : Int := (targets.map fun channel => (channel.getWeight : Int)).sum
  let (sumWeight, factor, adjustment) :=
    if sumWeight = 0 then ((targets.length * 100 : Int), (1 : Int), (100 : Int))
    else if sumWeight / targets.length < 10 then (sumWeight, 100, 0)
    else (sumWeight, 1, 0)
  pickByWeight factor adjustment targets (random % (sumWeight * factor).toNat : Nat)

def routedChannels (formatMatchingModelName : String → String) (cache : Cache)
    (group model : String) : List Int :=
  if cache.group2model2channels.get group model = [] then
    cache.group2model2channels.get group (formatMatchingModelName model)
  else cache.group2model2channels.get group model

/-- `model/channel_cache.go::GetRandomSatisfiedChannel` with the cache on. -/
def getRandomSatisfiedChannel (formatMatchingModelName : String → String) (cache : Cache)
    (group model : String) (retry random : Nat) : Except SelectError (Option Channel) :=
  match usableChannels cache (routedChannels formatMatchingModelName cache group model) with
  | .error error => .error error
  | .ok [] => .ok none
  | .ok usable =>
    let (targets, priority) := targetChannels retry usable
    if targets = [] then .error (.noChannelFound group model priority)
    else match drawChannel targets random with
    | none => .error .notFound
    | some channel => .ok (some channel)

/-! ## Disabling -/

def pruneRoutes (id : Int) (routes : Routes) : Routes := fun group =>
  (routes group).map fun inner model => (inner model).map fun ids => ids.erase id

/-- `model/channel_cache.go::CacheUpdateChannelStatus`. -/
def cacheUpdateChannelStatus (id : Int) (status : ChannelStatus) (cache : Cache) : Cache where
  channelsIDM := match cache.channelsIDM id with
    | none => cache.channelsIDM
    | some channel =>
      Function.update cache.channelsIDM id (some { channel with status := status })
  group2model2channels :=
    if status ≠ .enabled then pruneRoutes id cache.group2model2channels
    else cache.group2model2channels

/-! ## What a rebuild publishes -/

section Rebuild
variable {routes after : Routes} {id : Int} {group model : String} {channels : List Channel}
variable {sorter : PrioritySort}

theorem set_known (model : String) (ids : List Int) (known : (routes group).isSome) :
    ∃ after, routes.set group model ids = some after ∧
      (∀ other, (after other).isSome = (routes other).isSome) ∧
      ∀ otherGroup otherModel, after.get otherGroup otherModel =
        if (otherGroup, otherModel) = (group, model) then ids
        else routes.get otherGroup otherModel := by
  obtain ⟨inner, found⟩ := Option.isSome_iff_exists.mp known
  refine ⟨_, by rw [Routes.set, found, Option.map_some], ?_, ?_⟩
  · intro other
    by_cases same : other = group
    · rw [same, Function.update_self, found]
      rfl
    · rw [Function.update_of_ne same]
  · intro otherGroup otherModel
    unfold Routes.get
    by_cases sameGroup : otherGroup = group
    · subst sameGroup
      by_cases sameModel : otherModel = model
      · simp [sameModel]
      · simp [sameModel, found]
    · simp [sameGroup]

theorem set_unknown (unknown : routes group = none) :
    routes.set group model ids = none := by
  rw [Routes.set, unknown, Option.map_none]

theorem add_pairs_known (id : Int) (pairs : List (String × String))
    (known : ∀ pair ∈ pairs, (routes pair.1).isSome) :
    ∃ after, addPairs id pairs routes = some after ∧
      (∀ group, (after group).isSome = (routes group).isSome) ∧
      ∀ group model, after.get group model =
        routes.get group model ++ List.replicate (pairs.count (group, model)) id := by
  induction pairs generalizing routes with
  | nil => exact ⟨routes, rfl, fun _ => rfl, fun _ _ => by simp⟩
  | cons pair rest ih =>
    obtain ⟨mine, others⟩ := List.forall_mem_cons.mp known
    obtain ⟨next, set, domain, lists⟩ :=
      set_known pair.2 (routes.get pair.1 pair.2 ++ [id]) mine
    have later : ∀ other ∈ rest, (next other.1).isSome := by
      intro other member
      rw [domain]
      exact others other member
    obtain ⟨after, added, sameDomain, more⟩ := ih later
    refine ⟨after, ?_, fun group => (sameDomain group).trans (domain group), ?_⟩
    · rw [addPairs, set]
      exact added
    · intro group model
      rw [more, lists]
      by_cases here : (group, model) = pair
      · subst here
        simp [List.replicate_succ]
      · have other : (pair == (group, model)) = false := by simpa using Ne.symm here
        rw [if_neg here, List.count_cons, other]
        simp

theorem add_pairs_needs (pairs : List (String × String)) (added : addPairs id pairs routes = some after) :
    ∀ pair ∈ pairs, (routes pair.1).isSome := by
  induction pairs generalizing routes with
  | nil => exact fun _ member => nomatch member
  | cons pair rest ih =>
    cases found : routes pair.1 with
    | none =>
      rw [addPairs, set_unknown found] at added
      cases added
    | some inner =>
      obtain ⟨next, set, domain, -⟩ :=
        set_known pair.2 (routes.get pair.1 pair.2 ++ [id]) (Option.isSome_iff_exists.mpr ⟨inner, found⟩)
      rw [addPairs, set] at added
      intro other member
      rcases List.mem_cons.mp member with rfl | later
      · rw [found]
        rfl
      · rw [← domain]
        exact ih added other later

def listedIds (channels : List Channel) (group model : String) : List Int :=
  channels.flatMap fun channel =>
    if channel.status ≠ .enabled then []
    else List.replicate ((listedPairs channel).count (group, model)) channel.id

theorem add_channels_known (routes : Routes) (channels : List Channel)
    (known : ∀ channel ∈ channels, channel.status = .enabled →
      ∀ group ∈ channel.groupNames, (routes group).isSome) :
    ∃ after, addChannels channels routes = some after ∧
      ∀ group model, after.get group model = routes.get group model ++ listedIds channels group model := by
  induction channels generalizing routes with
  | nil => exact ⟨routes, rfl, fun _ _ => by simp [listedIds]⟩
  | cons channel rest ih =>
    obtain ⟨mine, others⟩ := List.forall_mem_cons.mp known
    rw [addChannels]
    by_cases disabled : channel.status ≠ .enabled
    · obtain ⟨after, added, lists⟩ := ih routes others
      refine ⟨after, by rw [if_pos disabled, added], ?_⟩
      intro group model
      rw [lists, listedIds, listedIds, List.flatMap_cons, if_pos disabled, List.nil_append]
    · have enabled : channel.status = .enabled := not_not.mp disabled
      have pairs : ∀ pair ∈ listedPairs channel, (routes pair.1).isSome := by
        intro pair member
        obtain ⟨group, inside, held⟩ := List.mem_flatMap.mp member
        obtain ⟨model, -, rfl⟩ := List.mem_map.mp held
        exact mine enabled group inside
      obtain ⟨next, paired, domain, more⟩ := add_pairs_known channel.id _ pairs
      have later : ∀ other ∈ rest, other.status = .enabled →
          ∀ group ∈ other.groupNames, (next group).isSome := by
        intro other member serves group inside
        rw [domain]
        exact others other member serves group inside
      obtain ⟨after, added, lists⟩ := ih next later
      refine ⟨after, by rw [if_neg disabled, paired, Option.bind_some, added], ?_⟩
      intro group model
      rw [lists, more, listedIds, listedIds, List.flatMap_cons, if_neg disabled, List.append_assoc]

theorem add_channels_needs (channels : List Channel) (added : addChannels channels routes = some after) :
    ∀ channel ∈ channels, channel.status = .enabled →
      ∀ group ∈ channel.groupNames, (routes group).isSome := by
  induction channels generalizing routes with
  | nil => exact fun _ member => nomatch member
  | cons channel rest ih =>
    rw [addChannels] at added
    by_cases disabled : channel.status ≠ .enabled
    · rw [if_pos disabled] at added
      intro other member enabled
      rcases List.mem_cons.mp member with rfl | later
      · exact absurd enabled disabled
      · exact ih added other later enabled
    · rw [if_neg disabled] at added
      obtain ⟨next, paired, more⟩ := Option.bind_eq_some_iff.mp added
      have pairs := add_pairs_needs _ paired
      obtain ⟨same, paired', domain, -⟩ := add_pairs_known channel.id _ pairs
      rw [paired] at paired'
      cases paired'
      intro other member enabled group inside
      rcases List.mem_cons.mp member with rfl | later
      · obtain ⟨model, rest, models⟩ :=
          List.exists_cons_of_ne_nil (GoText.split_ne_nil ',' other.models)
        apply pairs (group, model)
        apply List.mem_flatMap.mpr
        refine ⟨group, inside, List.mem_map.mpr ⟨model, ?_, rfl⟩⟩
        rw [Channel.modelNames, models]
        exact List.mem_cons_self ..
      · rw [← domain]
        exact ih more other later enabled group inside

theorem empty_routes_some : (emptyRoutes abilities group).isSome ↔
    ∃ ability ∈ abilities, ability.group = group := by
  unfold emptyRoutes
  split
  · rename_i known
    simpa using known
  · rename_i unknown
    simpa using unknown

theorem empty_routes_get (abilities : List Ability) (group model : String) :
    (emptyRoutes abilities).get group model = [] := by
  unfold Routes.get emptyRoutes
  split <;> rfl

theorem sort_routes_get (sorter : PrioritySort) (channels : List Channel) (routes : Routes)
    (group model : String) :
    ((sortRoutes sorter channels routes).get group model).Perm (routes.get group model) := by
  unfold Routes.get sortRoutes
  cases routes group with
  | none => exact .refl []
  | some inner =>
    simp only [Option.map_some, Option.bind_some]
    cases inner model with
    | none => exact .refl []
    | some ids => exact sorter.perm _ ids

theorem init_some_iff (sorter : PrioritySort) (cache : Cache) :
    (∃ published, initChannelCache sorter channels abilities cache = some published) ↔
    ∀ channel ∈ channels, channel.status = .enabled →
      ∀ group ∈ channel.groupNames, ∃ ability ∈ abilities, ability.group = group := by
  constructor
  · rintro ⟨published, rebuilt⟩ channel member enabled group inside
    obtain ⟨routes, added, -⟩ := Option.map_eq_some_iff.mp rebuilt
    exact empty_routes_some.mp (add_channels_needs channels added channel member enabled group inside)
  · intro known
    obtain ⟨routes, added, -⟩ := add_channels_known (emptyRoutes abilities) channels
      fun channel member enabled group inside =>
        empty_routes_some.mpr (known channel member enabled group inside)
    exact ⟨_, by rw [initChannelCache, added, Option.map_some]⟩

theorem init_lists (rebuilt : initChannelCache sorter channels abilities cache = some published)
    (group model : String) :
    (published.group2model2channels.get group model).Perm (listedIds channels group model) := by
  obtain ⟨routes, added, rfl⟩ := Option.map_eq_some_iff.mp rebuilt
  obtain ⟨same, again, lists⟩ :=
    add_channels_known _ channels (add_channels_needs channels added)
  rw [added] at again
  cases again
  have sorted := sort_routes_get sorter channels routes group model
  rw [lists, empty_routes_get, List.nil_append] at sorted
  exact sorted

theorem mem_listed_ids : id ∈ listedIds channels group model ↔
    ∃ channel ∈ channels, channel.status = .enabled ∧ channel.id = id ∧
      group ∈ channel.groupNames ∧ model ∈ channel.modelNames := by
  unfold listedIds
  rw [List.mem_flatMap]
  apply exists_congr
  intro channel
  apply and_congr_right
  intro _
  by_cases enabled : channel.status = .enabled
  · simp only [enabled, ne_eq, not_true_eq_false, if_false, List.mem_replicate, true_and,
      List.count_eq_zero, not_not, listedPairs, List.mem_flatMap, List.mem_map]
    grind
  · simp [enabled]

end Rebuild

/-- A rebuild ends, and lists every enabled channel under each of its groups
and models, exactly where the group of every enabled channel has an ability. -/
theorem rebuild_lists_all_iff (sorter : PrioritySort) (channels : List Channel)
    (abilities : List Ability) (cache : Cache) :
    (∃ published, initChannelCache sorter channels abilities cache = some published ∧
        ∀ channel ∈ channels, channel.status = .enabled → ∀ group ∈ channel.groupNames,
          ∀ model ∈ channel.modelNames, channel.id ∈ published.group2model2channels.get group model) ↔
      ∀ channel ∈ channels, channel.status = .enabled →
        ∀ group ∈ channel.groupNames, ∃ ability ∈ abilities, ability.group = group := by
  rw [← init_some_iff sorter cache]
  constructor
  · rintro ⟨published, rebuilt, -⟩
    exact ⟨published, rebuilt⟩
  · rintro ⟨published, rebuilt⟩
    refine ⟨published, rebuilt, ?_⟩
    intro channel member enabled group inside model served
    apply (init_lists rebuilt group model).mem_iff.mpr
    exact mem_listed_ids.mpr ⟨channel, member, enabled, rfl, inside, served⟩

def insertedChannel : Channel where
  id := 1
  keys := ["sk-a"]
  models := "m"
  group := "vip"

theorem rebuild_panics_between_writes :
    ¬ ∀ (sorter : PrioritySort) (channels : List Channel) (abilities : List Ability) (cache : Cache),
      ∃ published, initChannelCache sorter channels abilities cache = some published ∧
        ∀ channel ∈ channels, channel.status = .enabled → ∀ group ∈ channel.groupNames,
          ∀ model ∈ channel.modelNames, channel.id ∈ published.group2model2channels.get group model := by
  intro always
  obtain ⟨published, rebuilt, -⟩ := always stableSort [insertedChannel] [] {}
  have panics : initChannelCache stableSort [insertedChannel] [] {} = none := by
    rw [initChannelCache, Option.map_eq_none_iff]
    decide +kernel
  rw [panics] at rebuilt
  cases rebuilt

/-! ## Runs of rebuilds and status changes -/

inductive Event where
  | rebuild (channels : List Channel) (abilities : List Ability)
  | setStatus (id : Int) (status : ChannelStatus)

def step (sorter : PrioritySort) (cache : Cache) : Event → Cache
  | .rebuild channels abilities =>
    (initChannelCache sorter channels abilities cache).getD cache
  | .setStatus id status => cacheUpdateChannelStatus id status cache

def ReadsEnabled (id : Int) : Event → Prop
  | .rebuild channels _ => ∃ channel ∈ channels, channel.id = id ∧ channel.status = .enabled
  | .setStatus _ _ => False

def Unlisted (id : Int) (cache : Cache) : Prop :=
  ∀ group model, id ∉ cache.group2model2channels.get group model

def ListedOnce (cache : Cache) : Event → Prop
  | .rebuild _ _ => True
  | .setStatus id status => status ≠ .enabled →
    ∀ group model, (cache.group2model2channels.get group model).count id ≤ 1

def Keyed (cache : Cache) : Prop :=
  ∀ id channel, cache.channelsIDM id = some channel → channel.id = id

section Selection
variable {id : Int} {sorter : PrioritySort}
variable {format : String → String}

theorem usable_listed (keyed : Keyed cache)
    (read : usableChannels cache ids = .ok usable) (member : channel ∈ usable) :
    channel.id ∈ ids := by
  induction ids generalizing usable with
  | nil =>
    cases read
    cases member
  | cons first rest ih =>
    unfold usableChannels at read
    cases found : cache.channelsIDM first with
    | none => simp [found] at read
    | some held =>
      cases others : usableChannels cache rest with
      | error error => simp [found, others, Except.map] at read
      | ok more =>
        simp only [found, others, Except.map, Except.ok.injEq] at read
        rw [← read] at member
        split at member
        · exact List.mem_cons_of_mem _ (ih others member)
        · rcases List.mem_cons.mp member with rfl | later
          · rw [keyed first _ found]
            exact List.mem_cons_self ..
          · exact List.mem_cons_of_mem _ (ih others later)

theorem pick_mem
    (picked : pickByWeight factor adjustment targets left = some channel) : channel ∈ targets := by
  induction targets generalizing left with
  | nil => cases picked
  | cons first rest ih =>
    unfold pickByWeight at picked
    dsimp only at picked
    split at picked
    · cases picked
      exact List.mem_cons_self ..
    · exact List.mem_cons_of_mem _ (ih picked)

theorem draw_mem
    (drawn : drawChannel targets random = some channel) : channel ∈ targets := by
  unfold drawChannel at drawn
  exact pick_mem drawn

theorem selected_listed (keyed : Keyed cache)
    (selected : getRandomSatisfiedChannel format cache group model retry random = .ok (some channel)) :
    ∃ served, channel.id ∈ cache.group2model2channels.get group served := by
  unfold getRandomSatisfiedChannel at selected
  split at selected
  · cases selected
  · cases selected
  · rename_i usable _ read
    dsimp only at selected
    split at selected
    · cases selected
    · split at selected
      · cases selected
      · rename_i drawn
        cases selected
        have target := draw_mem drawn
        have listed := usable_listed keyed read (List.mem_filter.mp target).1
        unfold routedChannels at listed
        split at listed
        · exact ⟨_, listed⟩
        · exact ⟨_, listed⟩

theorem unlisted_unselected (keyed : Keyed cache) (unlisted : Unlisted id cache)
    (selected : getRandomSatisfiedChannel format cache group model retry random =
      .ok (some channel)) : channel.id ≠ id := by
  rintro rfl
  obtain ⟨served, listed⟩ := selected_listed keyed selected
  exact unlisted group served listed

theorem prune_routes_get (routes : Routes) (group model : String) :
    (pruneRoutes id routes).get group model = (routes.get group model).erase id := by
  unfold Routes.get pruneRoutes
  cases routes group with
  | none => rfl
  | some inner =>
    simp only [Option.map_some, Option.bind_some]
    cases inner model <;> rfl

theorem disabled_unlisted_iff (disables : status ≠ .enabled) :
    Unlisted id (cacheUpdateChannelStatus id status cache) ↔ ListedOnce cache (.setStatus id status) := by
  unfold Unlisted ListedOnce cacheUpdateChannelStatus
  simp only [ne_eq, disables, not_false_eq_true, if_true, prune_routes_get, forall_const]
  apply forall_congr'
  intro group
  apply forall_congr'
  intro model
  rw [← List.count_eq_zero, List.count_erase_self]
  omega

theorem set_status_others (cache : Cache) (id : Int) (status : ChannelStatus) (group model : String) :
    ((cacheUpdateChannelStatus id status cache).group2model2channels.get group model).filter
        (fun other => other ≠ id) =
      (cache.group2model2channels.get group model).filter fun other => other ≠ id := by
  unfold cacheUpdateChannelStatus
  dsimp only
  split
  · rw [prune_routes_get]
    generalize cache.group2model2channels.get group model = ids
    induction ids with
    | nil => rfl
    | cons first rest ih =>
      by_cases mine : first = id
      · simp [mine]
      · rw [List.erase_cons_tail (by simpa using mine), List.filter_cons_of_pos (by simpa using mine),
          List.filter_cons_of_pos (by simpa using mine), ih]
  · rfl

theorem step_keyed (event : Event) (keyed : Keyed cache) : Keyed (step sorter cache event) := by
  cases event with
  | rebuild channels abilities =>
    cases rebuilt : initChannelCache sorter channels abilities cache with
    | none => simpa [step, rebuilt] using keyed
    | some published =>
      obtain ⟨routes, -, rfl⟩ := Option.map_eq_some_iff.mp rebuilt
      simp only [step, rebuilt, Option.getD_some]
      intro id channel found
      obtain ⟨row, stored, rfl⟩ := Option.map_eq_some_iff.mp found
      have kept : (keepCursor cache.channelsIDM row).id = row.id := by
        unfold keepCursor
        split
        · split
          · rfl
          · split <;> rfl
        · rfl
      rw [kept]
      exact lookup_key stored
  | setStatus other status =>
    intro id channel found
    simp only [step, cacheUpdateChannelStatus] at found
    cases before : cache.channelsIDM other with
    | none =>
      simp only [before] at found
      exact keyed id channel found
    | some held =>
      simp only [before] at found
      by_cases same : id = other
      · rw [same, Function.update_self] at found
        cases found
        rw [same]
        exact keyed other held before
      · rw [Function.update_of_ne same] at found
        exact keyed id channel found

theorem step_unlisted (unread : ¬ ReadsEnabled id event)
    (unlisted : Unlisted id cache) : Unlisted id (step sorter cache event) := by
  cases event with
  | rebuild channels abilities =>
    cases rebuilt : initChannelCache sorter channels abilities cache with
    | none => simpa [step, rebuilt] using unlisted
    | some published =>
      simp only [step, rebuilt, Option.getD_some]
      intro group model listed
      obtain ⟨channel, read, enabled, same, -⟩ :=
        mem_listed_ids.mp ((init_lists rebuilt group model).mem_iff.mp listed)
      exact unread ⟨channel, read, same, enabled⟩
  | setStatus other status =>
    intro group model listed
    simp only [step, cacheUpdateChannelStatus] at listed
    split at listed
    · rw [prune_routes_get] at listed
      exact unlisted group model (List.mem_of_mem_erase listed)
    · exact unlisted group model listed

theorem listed_ids_once (unique : (channels.map Channel.id).Nodup)
    (distinct : ∀ channel ∈ channels, channel.status = .enabled → (listedPairs channel).Nodup)
    (group model : String) (id : Int) : (listedIds channels group model).count id ≤ 1 := by
  induction channels with
  | nil => simp [listedIds]
  | cons channel rest ih =>
    obtain ⟨absent, later⟩ := List.nodup_cons.mp unique
    obtain ⟨mine, others⟩ := List.forall_mem_cons.mp distinct
    have tail := ih later others
    rw [listedIds, List.flatMap_cons, List.count_append]
    by_cases same : channel.id = id
    · have elsewhere : (listedIds rest group model).count id = 0 := by
        apply List.count_eq_zero.mpr
        intro listed
        obtain ⟨other, member, -, again, -⟩ := mem_listed_ids.mp listed
        apply absent
        rw [same, ← again]
        exact List.mem_map_of_mem member
      rw [listedIds] at elsewhere
      rw [elsewhere]
      by_cases disabled : channel.status ≠ .enabled
      · simp [disabled]
      · rw [if_neg disabled, List.count_replicate]
        have once := List.nodup_iff_count_le_one.mp (mine (not_not.mp disabled)) (group, model)
        split <;> omega
    · have other : (if channel.status ≠ .enabled then [] else
          List.replicate ((listedPairs channel).count (group, model)) channel.id).count id = 0 := by
        split
        · rfl
        · rw [List.count_replicate, if_neg (by simpa using same)]
      rw [other, Nat.zero_add]
      exact tail

theorem rebuilt_listed_once
    (rebuilt : initChannelCache sorter channels abilities cache = some published)
    (unique : (channels.map Channel.id).Nodup)
    (distinct : ∀ channel ∈ channels, channel.status = .enabled → (listedPairs channel).Nodup) :
    ListedOnce published (.setStatus id status) := by
  intro _ group model
  rw [(init_lists rebuilt group model).count_eq]
  exact listed_ids_once unique distinct group model id

end Selection

def DisabledStaysOut (sorter : PrioritySort) (format : String → String) (start : Cache)
    (events : List Event) : Prop :=
  ∀ before id status after, events = before ++ .setStatus id status :: after →
    (status ≠ .enabled → (∀ event ∈ after, ¬ ReadsEnabled id event) →
      ∀ group model retry random channel,
        getRandomSatisfiedChannel format (run (step sorter) start events) group model retry random =
          .ok (some channel) → channel.id ≠ id) ∧
    ∀ group model,
      ((run (step sorter) start (before ++ [.setStatus id status])).group2model2channels.get
          group model).filter (fun other => other ≠ id) =
        ((run (step sorter) start before).group2model2channels.get group model).filter
          fun other => other ≠ id

/-- Over every run in which a disabled channel is on each list once at most,
a disabled channel stays out. -/
theorem disabled_channel_stays_out (sorter : PrioritySort) (format : String → String)
    (start : Cache) (keyed : Keyed start) (events : List Event)
    (once : Guarded (step sorter) ListedOnce start events) :
    DisabledStaysOut sorter format start events := by
  rintro before id status after rfl
  constructor
  · intro disables unread group model retry random channel
    rw [guarded_append] at once
    have reached : Keyed (run (step sorter) start (before ++ .setStatus id status :: after)) :=
      run_preserves_always (fun _ event => step_keyed event) _ keyed
    refine unlisted_unselected reached ?_
    rw [run_append, run_cons]
    have removed : Unlisted id (step sorter (run (step sorter) start before) (.setStatus id status)) :=
      (disabled_unlisted_iff disables).mpr once.2.1
    have permitted : Guarded (step sorter) (fun _ event => ¬ ReadsEnabled id event)
        (step sorter (run (step sorter) start before) (.setStatus id status)) after :=
      guarded_of_events unread _
    exact run_preserves (fun _ _ silent => step_unlisted silent) permitted removed
  · intro group model
    rw [run_append]
    exact set_status_others _ id status group model

def vipAbility : Ability where
  group := "vip"
  model := "m"
  channelId := 1
  enabled := true

def disabledOnce (channel : Channel) : List Event :=
  [.rebuild [channel] [vipAbility], .setStatus 1 .autoDisabled]

theorem distinct_channel_stays_out : DisabledStaysOut stableSort id {} (disabledOnce insertedChannel) := by
  apply disabled_channel_stays_out stableSort id {} (fun _ _ missing => nomatch missing)
  refine ⟨trivial, ?_, trivial⟩
  have ready : ∃ published, initChannelCache stableSort [insertedChannel] [vipAbility] {} =
      some published := by
    apply (init_some_iff stableSort {}).mpr
    decide +kernel
  obtain ⟨published, rebuilt⟩ := ready
  rw [step, rebuilt, Option.getD_some]
  exact rebuilt_listed_once rebuilt (by decide) (by decide +kernel)

def repeatedModels : Channel := { insertedChannel with models := "m,m" }

theorem repeated_model_survives_disable :
    ¬ ∀ (sorter : PrioritySort) (format : String → String) (start : Cache), Keyed start →
      ∀ events, DisabledStaysOut sorter format start events := by
  intro always
  have out := (always stableSort id {} (fun _ _ missing => nomatch missing)
    (disabledOnce repeatedModels) [.rebuild [repeatedModels] [vipAbility]] 1 .autoDisabled []
    rfl).1 (by decide) (fun _ none_left => nomatch none_left)
  have chosen : ((getRandomSatisfiedChannel id
      (run (step stableSort) {} (disabledOnce repeatedModels)) "vip" "m" 0 0).toOption.join.map
        Channel.id) = some 1 := by
    decide +kernel
  cases selected : getRandomSatisfiedChannel id
      (run (step stableSort) {} (disabledOnce repeatedModels)) "vip" "m" 0 0 with
  | error error =>
    rw [selected] at chosen
    cases chosen
  | ok found =>
    cases found with
    | none =>
      rw [selected] at chosen
      cases chosen
    | some channel =>
      rw [selected] at chosen
      exact out "vip" "m" 0 0 channel selected (Option.some.inj chosen)

end NewApi.ChannelCache
