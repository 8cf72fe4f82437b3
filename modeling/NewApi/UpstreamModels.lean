import NewApi.GoText
import NewApi.GuardedRun
import NewApi.Regrouping

/-! The models of a channel beside those that its upstream lists. A check compares the two
and notes what could be added and what could be removed; an administrator applies a part
of that and may have models ignored, and with auto-sync a check adds at once. The models
of the channel are one text, parted by commas. A check and an application run alone. -/
namespace NewApi.UpstreamModels
open NewApi.GoText NewApi.GuardedRun

/-! ## Lists of names -/

/-- `controller/channel_upstream_update.go::normalizeModelNames`. -/
def normalizeModelNames (models : List String) : List String :=
  ((models.map trimSpace).filter (· ≠ "")).eraseDups

def mergeModelNames (base appended : List String) : List String :=
  (normalizeModelNames appended).foldl
    (fun merged model => if model ∈ merged then merged else merged ++ [model]) (normalizeModelNames base)

def subtractModelNames (base removed : List String) : List String :=
  (normalizeModelNames base).filter (· ∉ normalizeModelNames removed)

def intersectModelNames (base allowed : List String) : List String :=
  (normalizeModelNames base).filter (· ∈ normalizeModelNames allowed)

/-- `applySelectedModelChanges`. A model in both selections is added. -/
def applySelectedModelChanges (originModels addModels removeModels : List String) : List String :=
  let normalizedAdd := normalizeModelNames addModels
  let normalizedRemove := subtractModelNames (normalizeModelNames removeModels) normalizedAdd
  subtractModelNames (mergeModelNames originModels normalizedAdd) normalizedRemove

/-! ## What is pending -/

/-- What does not change over a run: `regexp.MatchString`, which may refuse a pattern, the
normalized mapping of the channel from sources to targets, and the least time between checks. -/
structure Env where
  matchString : String → String → Option Bool
  modelMapping : List (String × String) := []
  minCheckInterval : Int := 300

def Env.ignores (env : Env) (ignoredModel modelName : String) : Bool :=
  if hasPrefix ignoredModel "regex:" then
    env.matchString (trimSpace (trimPrefix ignoredModel "regex:")) modelName = some true
  else ignoredModel = modelName

/-- `collectPendingUpstreamModelChangesFromModels`. The task and the checks of all channels
read the rows without the mapping, and then it is not `mapped`. -/
def Env.collectPending (env : Env) (mapped : Bool) (localModels upstreamModels ignoredModels : List String) :
    List String × List String :=
  let mapping := if mapped then env.modelMapping else []
  let localModels := normalizeModelNames localModels
  let upstreamModels := normalizeModelNames upstreamModels
  let ignoredModels := normalizeModelNames ignoredModels
  let pendingAdd := upstreamModels.filter fun modelName =>
    modelName ∉ localModels ∧ modelName ∉ mapping.map Prod.snd ∧
      ¬ ignoredModels.any (env.ignores · modelName)
  let pendingRemove := localModels.filter fun modelName =>
    modelName ∉ mapping.map Prod.fst ∧ modelName ∉ upstreamModels
  (normalizeModelNames pendingAdd, normalizeModelNames pendingRemove)

/-- The fields of `dto/channel_settings.go::ChannelOtherSettings` that are about upstream
models. A channel that is not to be checked is passed over. -/
structure ChannelOtherSettings where
  autoSyncEnabled : Bool := false
  lastCheckTime : Int := 0
  lastDetectedModels : List String := []
  lastRemovedModels : List String := []
  ignoredModels : List String := []

/-- `collectPendingApplyUpstreamModelChanges`, its first list. -/
def ChannelOtherSettings.detected (settings : ChannelOtherSettings) : List String :=
  normalizeModelNames settings.lastDetectedModels

/-- `collectPendingApplyUpstreamModelChanges`, its second list. -/
def ChannelOtherSettings.removed (settings : ChannelOtherSettings) : List String :=
  normalizeModelNames settings.lastRemovedModels

structure Channel where
  models : String := ""
  settings : ChannelOtherSettings := {}

/-- `model/channel.go::GetModels`. -/
def Channel.getModels (channel : Channel) : List String :=
  if channel.models = "" then [] else split ',' (trim ',' channel.models)

def Env.collectPendingUpstreamModelChanges (env : Env) (mapped : Bool) (channel : Channel)
    (upstreamModels : List String) : List String × List String :=
  env.collectPending mapped channel.getModels upstreamModels channel.settings.ignoredModels

def Env.tooSoon (env : Env) (force : Bool) (now : Int) (settings : ChannelOtherSettings) : Bool :=
  !force && settings.lastCheckTime > 0 && now - settings.lastCheckTime < env.minCheckInterval

/-- `checkAndPersistChannelUpstreamModelUpdates`, with what the upstream answers. -/
def Env.check (env : Env) (force allowAutoApply mapped : Bool) (answer : Option (List String)) (now : Int)
    (channel : Channel) : Channel :=
  if env.tooSoon force now channel.settings then channel
  else
    let settings := { channel.settings with lastCheckTime := now }
    match answer with
    | none => { channel with settings }
    | some upstreamModels =>
      let pending := env.collectPendingUpstreamModelChanges mapped channel upstreamModels
      let settings := { settings with lastRemovedModels := pending.2 }
      if allowAutoApply ∧ settings.autoSyncEnabled ∧ pending.1.length > 0 then
        let originModels := normalizeModelNames channel.getModels
        let mergedModels := mergeModelNames originModels pending.1
        { models := if mergedModels.length > originModels.length then join ',' mergedModels else channel.models
          settings := { settings with lastDetectedModels := [] } }
      else { channel with settings := { settings with lastDetectedModels := pending.1 } }

/-- `applyChannelUpstreamModelUpdates`. -/
def apply (addModelsInput ignoreModelsInput removeModelsInput : List String) (now : Int)
    (channel : Channel) : Channel :=
  let settings := channel.settings
  let pendingAddModels := settings.detected
  let pendingRemoveModels := settings.removed
  let addModels := intersectModelNames addModelsInput pendingAddModels
  let ignoreModels := intersectModelNames ignoreModelsInput pendingAddModels
  let removeModels := subtractModelNames (intersectModelNames removeModelsInput pendingRemoveModels) addModels
  let originModels := normalizeModelNames channel.getModels
  let nextModels := applySelectedModelChanges originModels addModels removeModels
  let ignoredModels := mergeModelNames settings.ignoredModels ignoreModels
  { models := if originModels ≠ nextModels then join ',' nextModels else channel.models
    settings := { settings with
      ignoredModels := if addModels.length > 0 then subtractModelNames ignoredModels addModels else ignoredModels
      lastDetectedModels := subtractModelNames pendingAddModels (addModels ++ ignoreModels)
      lastRemovedModels := subtractModelNames pendingRemoveModels removeModels
      lastCheckTime := now } }

/-! ## Membership -/

theorem mem_normalize : model ∈ normalizeModelNames models ↔
    model ≠ "" ∧ ∃ written ∈ models, trimSpace written = model := by
  simp only [normalizeModelNames, List.mem_eraseDups, List.mem_filter, List.mem_map, decide_eq_true_eq]
  exact and_comm

/-- Names as the lists hold them. -/
def Names (models : List String) : Prop := ∀ model ∈ models, trimSpace model = model ∧ model ≠ ""

theorem names_normalize (models : List String) : Names (normalizeModelNames models) := by
  intro model member
  obtain ⟨filled, written, -, rfl⟩ := mem_normalize.mp member
  exact ⟨trim_space_idem written, filled⟩

theorem normalize_names (names : Names models) : model ∈ normalizeModelNames models ↔ model ∈ models := by
  rw [mem_normalize]
  constructor
  · rintro ⟨-, written, member, rfl⟩
    rwa [(names written member).1]
  · intro member
    exact ⟨(names model member).2, model, member, (names model member).1⟩

@[simp] theorem normalize_twice :
    model ∈ normalizeModelNames (normalizeModelNames models) ↔ model ∈ normalizeModelNames models :=
  normalize_names (names_normalize models)

theorem mem_subtract : model ∈ subtractModelNames base others ↔
    model ∈ normalizeModelNames base ∧ model ∉ normalizeModelNames others := by
  simp [subtractModelNames]

theorem mem_intersect : model ∈ intersectModelNames base others ↔
    model ∈ normalizeModelNames base ∧ model ∈ normalizeModelNames others := by
  simp [intersectModelNames]

theorem mem_merge : model ∈ mergeModelNames base others ↔
    model ∈ normalizeModelNames base ∨ model ∈ normalizeModelNames others := by
  have folded : ∀ (rest merged : List String), model ∈ rest.foldl
      (fun merged model => if model ∈ merged then merged else merged ++ [model]) merged ↔
      model ∈ merged ∨ model ∈ rest := by
    intro rest
    induction rest with
    | nil => simp
    | cons first rest ih =>
      intro merged
      rw [List.foldl_cons, ih, List.mem_cons]
      split
      · rename_i known
        refine ⟨Or.imp_right .inr, ?_⟩
        rintro (old | rfl | later)
        exacts [.inl old, .inl known, .inr later]
      · rw [List.mem_append, List.mem_singleton, or_assoc]
  exact folded _ _

@[simp] theorem normalize_subtract : model ∈ normalizeModelNames (subtractModelNames base others) ↔
    model ∈ normalizeModelNames base ∧ model ∉ normalizeModelNames others :=
  (normalize_names fun model member => names_normalize _ model (mem_subtract.mp member).1).trans mem_subtract

@[simp] theorem normalize_intersect : model ∈ normalizeModelNames (intersectModelNames base others) ↔
    model ∈ normalizeModelNames base ∧ model ∈ normalizeModelNames others :=
  (normalize_names fun model member => names_normalize _ model (mem_intersect.mp member).1).trans
    mem_intersect

@[simp] theorem normalize_merge : model ∈ normalizeModelNames (mergeModelNames base others) ↔
    model ∈ normalizeModelNames base ∨ model ∈ normalizeModelNames others :=
  (normalize_names fun model member =>
    (mem_merge.mp member).elim (names_normalize _ model) (names_normalize _ model)).trans mem_merge

@[simp] theorem normalize_append : model ∈ normalizeModelNames (base ++ others) ↔
    model ∈ normalizeModelNames base ∨ model ∈ normalizeModelNames others := by
  simp only [mem_normalize, List.mem_append, or_and_right, exists_or, and_or_left]

theorem mem_selected : model ∈ applySelectedModelChanges base add remove ↔
    (model ∈ normalizeModelNames base ∨ model ∈ normalizeModelNames add) ∧
      ¬ (model ∈ normalizeModelNames remove ∧ model ∉ normalizeModelNames add) := by
  simp [applySelectedModelChanges, mem_subtract]

/-! ## The text of the models -/

/-- The models that the text of the channel names. -/
def Channel.names (channel : Channel) : List String := normalizeModelNames channel.getModels

theorem trimmed_plain (plain : ',' ∉ text.toList) : ',' ∉ (trimSpace text).toList := by
  rw [trimSpace, String.toList_ofList]
  exact fun inside => plain ((List.dropWhile_suffix _).mem ((List.rdropWhile_prefix _ _).mem inside))

theorem channel_names_plain {channel : Channel} (member : model ∈ channel.names) : ',' ∉ model.toList := by
  obtain ⟨-, written, listed, rfl⟩ := mem_normalize.mp member
  unfold Channel.getModels at listed
  split at listed
  · cases listed
  · exact trimmed_plain (split_plain listed)

/-- Names that are written without commas are read again. -/
theorem names_joined (names : Names models) (plain : ∀ model ∈ models, ',' ∉ model.toList)
    (settings : ChannelOtherSettings) : model ∈ Channel.names ⟨join ',' models, settings⟩ ↔ model ∈ models := by
  refine Iff.trans ?_ (normalize_names names)
  rw [Channel.names, Channel.getModels]
  by_cases none_ : models = []
  · subst none_
    rfl
  have same : split ',' (join ',' models) = models := split_join none_ plain
  split
  · rename_i empty
    change join ',' models = "" at empty
    rw [empty] at same
    have blank : "" ∈ models := same ▸ List.mem_singleton_self ""
    exact absurd rfl (names "" blank).2
  · rename_i filled
    have ends : models.head? ≠ some "" ∧ models.getLast? ≠ some "" :=
      ⟨fun first => (names "" (List.mem_of_mem_head? first)).2 rfl,
        fun last => (names "" (List.mem_of_getLast? last)).2 rfl⟩
    dsimp only
    rw [(trim_join_iff plain filled).mpr ends, same]

/-! ## One check -/

/-- Model names as upstreams list them: without commas, and none that reads as a pattern. -/
def Plain (upstream : List String) : Prop :=
  ∀ model ∈ normalizeModelNames upstream, ',' ∉ model.toList ∧ hasPrefix model "regex:" = false

def Env.Adds (env : Env) (mapped : Bool) (channel : Channel) (upstream : List String) (model : String) : Prop :=
  model ∈ (env.collectPendingUpstreamModelChanges mapped channel upstream).1

def Env.Removes (env : Env) (mapped : Bool) (channel : Channel) (upstream : List String) (model : String) : Prop :=
  model ∈ (env.collectPendingUpstreamModelChanges mapped channel upstream).2

theorem adds_iff {env : Env} : env.Adds mapped channel upstream model ↔
    model ∈ normalizeModelNames upstream ∧ model ∉ channel.names ∧
      model ∉ (if mapped then env.modelMapping else []).map Prod.snd ∧
      ∀ entry ∈ normalizeModelNames channel.settings.ignoredModels, env.ignores entry model = false := by
  refine (normalize_names fun model member => names_normalize _ model (List.mem_filter.mp member).1).trans ?_
  simp [Channel.names]

theorem removes_iff {env : Env} : env.Removes mapped channel upstream model ↔ model ∈ channel.names ∧
    model ∉ (if mapped then env.modelMapping else []).map Prod.fst ∧ model ∉ normalizeModelNames upstream := by
  refine (normalize_names fun model member => names_normalize _ model (List.mem_filter.mp member).1).trans ?_
  simp [Channel.names]

theorem adds_not_ignored {env : Env} (plain : Plain upstream) (adds : env.Adds mapped channel upstream model) :
    model ∉ normalizeModelNames channel.settings.ignoredModels := by
  obtain ⟨offered, -, -, unmatched⟩ := adds_iff.mp adds
  intro ignored
  have matched := unmatched model ignored
  rw [Env.ignores, (plain model offered).2] at matched
  exact absurd matched (by simp)

/-- A merge that is no longer than what it started with has added nothing. -/
theorem merge_not_longer
    (short : ¬ (mergeModelNames (normalizeModelNames base) others).length > (normalizeModelNames base).length)
    (member : model ∈ normalizeModelNames others) : model ∈ normalizeModelNames base := by
  have sub : normalizeModelNames base ⊆ mergeModelNames (normalizeModelNames base) others :=
    fun model member => mem_merge.mpr (.inl (normalize_twice.mpr member))
  have same := (List.subperm_of_subset (Regrouping.nodup_erase_dups _) sub).perm_of_length_le (not_lt.mp short)
  exact same.mem_iff.mpr (mem_merge.mpr (.inr member))

/-- What a check that reads an answer makes of a channel: what could be added is served or
noted, and what could be removed is noted. -/
structure Checked (env : Env) (mapped : Bool) (upstream : List String) (channel after : Channel) : Prop where
  ignored : after.settings.ignoredModels = channel.settings.ignoredModels
  removed : ∀ model, model ∈ after.settings.removed ↔ env.Removes mapped channel upstream model
  grown : ∀ model ∈ channel.names, model ∈ after.names
  detected : ∀ model ∈ after.settings.detected, model ∉ after.names
  all : ∀ model, model ∈ after.names ∨ model ∈ after.settings.detected ↔
    model ∈ channel.names ∨ env.Adds mapped channel upstream model

theorem checked_detected (checked : Checked env mapped upstream channel after)
    (member : model ∈ after.settings.detected) : env.Adds mapped channel upstream model :=
  ((checked.all model).mp (.inr member)).resolve_left fun held =>
    checked.detected model member (checked.grown model held)

theorem pending_names (env : Env) (mapped : Bool) (channel : Channel) (upstream : List String) (model : String) :
    model ∈ normalizeModelNames (env.collectPendingUpstreamModelChanges mapped channel upstream).1 ↔
      env.Adds mapped channel upstream model :=
  normalize_names (names_normalize _)

theorem synced_names {env : Env} (plain : Plain upstream) (settings : ChannelOtherSettings) :
    let originModels := normalizeModelNames channel.getModels
    let mergedModels := mergeModelNames originModels
      (env.collectPendingUpstreamModelChanges mapped channel upstream).1
    model ∈ Channel.names ⟨if mergedModels.length > originModels.length then join ',' mergedModels
        else channel.models, settings⟩ ↔ model ∈ channel.names ∨ env.Adds mapped channel upstream model := by
  intro originModels mergedModels
  have merged : ∀ model, model ∈ mergedModels ↔ model ∈ channel.names ∨ env.Adds mapped channel upstream model :=
    fun model => mem_merge.trans (or_congr normalize_twice (pending_names ..))
  split
  · rw [names_joined (fun model member => ?_) fun model member => ?_]
    · exact merged model
    · exact (mem_merge.mp member).elim (names_normalize _ model) (names_normalize _ model)
    · exact ((merged model).mp member).elim channel_names_plain fun added =>
        (plain model (adds_iff.mp added).1).1
  · rename_i short
    exact ⟨.inl, fun found => found.elim id fun added =>
      merge_not_longer short ((pending_names ..).mpr added)⟩

theorem check_reads (env : Env) (channel : Channel) (mapped allowAutoApply : Bool) (plain : Plain upstream)
    (due : env.tooSoon force now channel.settings = false) :
    Checked env mapped upstream channel
      (env.check force allowAutoApply mapped (some upstream) now channel) := by
  unfold Env.check
  rw [due, if_neg Bool.false_ne_true]
  dsimp only
  split
  · exact ⟨rfl, fun model => normalize_names (names_normalize _),
      fun model held => (synced_names plain _).mpr (.inl held), nofun,
      fun model => (or_iff_left List.not_mem_nil).trans (synced_names plain _)⟩
  · exact ⟨rfl, fun model => normalize_names (names_normalize _), fun _ held => held,
      fun model member => (adds_iff.mp ((pending_names ..).mp member)).2.1,
      fun model => or_congr_right (pending_names ..)⟩

/-! ## One application -/

/-- What is pending and selected to be added. -/
def Channel.Added (channel : Channel) (add : List String) (model : String) : Prop :=
  model ∈ normalizeModelNames add ∧ model ∈ channel.settings.detected

def Channel.Removed (channel : Channel) (add remove : List String) (model : String) : Prop :=
  model ∈ normalizeModelNames remove ∧ model ∈ channel.settings.removed ∧ ¬ channel.Added add model

@[simp] theorem normalize_detected {settings : ChannelOtherSettings} :
    model ∈ normalizeModelNames settings.detected ↔ model ∈ settings.detected := normalize_twice

@[simp] theorem normalize_removed {settings : ChannelOtherSettings} :
    model ∈ normalizeModelNames settings.removed ↔ model ∈ settings.removed := normalize_twice

theorem names_applied (plain : ∀ model ∈ channel.settings.detected, ',' ∉ model.toList) :
    model ∈ (apply add ignore remove now channel).names ↔
      (model ∈ channel.names ∨ channel.Added add model) ∧ ¬ channel.Removed add remove model := by
  have next : ∀ model, model ∈ applySelectedModelChanges (normalizeModelNames channel.getModels)
        (intersectModelNames add channel.settings.detected)
        (subtractModelNames (intersectModelNames remove channel.settings.removed)
          (intersectModelNames add channel.settings.detected)) ↔
      (model ∈ channel.names ∨ channel.Added add model) ∧ ¬ channel.Removed add remove model := by
    intro model
    rw [mem_selected]
    simp only [normalize_twice, normalize_intersect, normalize_subtract, normalize_detected,
      normalize_removed, Channel.Added, Channel.Removed, Channel.names]
    tauto
  unfold apply
  dsimp only
  split
  · rw [names_joined (fun model member => ?_) fun model member => ?_]
    · exact next model
    · exact names_normalize _ model (mem_subtract.mp member).1
    · exact ((next model).mp member).1.elim channel_names_plain fun added => plain model added.2
  · rename_i same
    rw [← next, ← not_not.mp same]
    rfl

theorem detected_applied : model ∈ (apply add ignore remove now channel).settings.detected ↔
    model ∈ channel.settings.detected ∧ model ∉ normalizeModelNames add ∧ model ∉ normalizeModelNames ignore := by
  refine normalize_subtract.trans ?_
  simp only [normalize_append, normalize_intersect, normalize_detected]
  tauto

theorem removed_applied : model ∈ (apply add ignore remove now channel).settings.removed ↔
    model ∈ channel.settings.removed ∧ ¬ channel.Removed add remove model := by
  refine normalize_subtract.trans ?_
  simp only [normalize_subtract, normalize_intersect, normalize_detected, normalize_removed, Channel.Removed,
    Channel.Added]
  tauto

theorem ignored_applied :
    model ∈ normalizeModelNames (apply add ignore remove now channel).settings.ignoredModels ↔
      (model ∈ normalizeModelNames channel.settings.ignoredModels ∨ channel.Added ignore model) ∧
        ¬ channel.Added add model := by
  simp only [apply]
  split
  · simp only [normalize_subtract, normalize_merge, normalize_intersect, normalize_detected, Channel.Added]
  · rename_i none_
    have unadded : ¬ channel.Added add model := fun added => none_ (List.length_pos_of_mem
      (mem_intersect.mpr (added.imp_right normalize_detected.mpr)))
    simp only [normalize_merge, normalize_intersect, normalize_detected, Channel.Added] at unadded ⊢
    exact (and_iff_left unadded).symm

/-- What a channel serves when all that a check has noted is applied. -/
theorem names_all_applied {checked : Channel} (plain : Plain upstream)
    (read : Checked env mapped upstream channel checked) : model ∈
      (apply checked.settings.detected [] checked.settings.removed now checked).names ↔
    (model ∈ channel.names ∨ env.Adds mapped channel upstream model) ∧
      ¬ env.Removes mapped channel upstream model := by
  have added : ∀ model, checked.Added checked.settings.detected model ↔ model ∈ checked.settings.detected :=
    fun model => (and_congr_left' normalize_detected).trans and_self_iff
  have offered : ∀ model ∈ checked.settings.detected, model ∈ normalizeModelNames upstream :=
    fun model member => (adds_iff.mp (checked_detected read member)).1
  rw [names_applied fun model member => (plain model (offered model member)).1, Channel.Removed, added,
    read.all, normalize_removed, read.removed]
  refine and_congr_right fun _ => not_congr ⟨And.left, fun removes => ⟨removes, removes, fun detected => ?_⟩⟩
  exact (removes_iff.mp removes).2.2 (offered model detected)

/-- Where all that a check has noted is applied, the next check that reads the same answer
has nothing to note and adds nothing, as long as it does not see less of the mapping. -/
theorem applied_leaves_nothing (env : Env) (plain : Plain upstream) (seen : mapped = true → again = true)
    (channel : Channel) (auto later : Bool) (first second third : Int) :
    let checked := env.check true auto mapped (some upstream) first channel
    let applied := apply checked.settings.detected [] checked.settings.removed second checked
    let after := env.check true later again (some upstream) third applied
    after.settings.detected = [] ∧ after.settings.removed = [] ∧
      ∀ model, model ∈ after.names ↔ model ∈ applied.names := by
  intro checked applied after
  have read : Checked env mapped upstream channel checked := check_reads env channel mapped auto plain rfl
  have reread : Checked env again upstream applied after := check_reads env applied again later plain rfl
  have unignored : ∀ model ∈ normalizeModelNames channel.settings.ignoredModels,
      model ∈ normalizeModelNames applied.settings.ignoredModels := fun model member =>
    ignored_applied.mpr ⟨.inl (read.ignored ▸ member), fun chosen =>
      adds_not_ignored plain (checked_detected read chosen.2) member⟩
  -- whatever the second check could note, the first has noted
  have noAdd : ∀ model, ¬ env.Adds again applied upstream model := by
    intro model adds
    obtain ⟨listed, missing, untargeted, unmatched⟩ := adds_iff.mp adds
    obtain ⟨fresh, notAdded⟩ := not_or.mp fun held => missing ((names_all_applied plain read).mpr
      ⟨held, fun removes => (removes_iff.mp removes).2.2 listed⟩)
    refine notAdded (adds_iff.mpr ⟨listed, fresh, fun target => untargeted ?_, fun entry member =>
      unmatched entry (unignored entry member)⟩)
    cases mapped with
    | true => rwa [seen rfl]
    | false => cases target
  have noRemove : ∀ model, ¬ env.Removes again applied upstream model := by
    intro model removes
    obtain ⟨held, unsourced, missing⟩ := removes_iff.mp removes
    obtain ⟨served | adds, kept⟩ := (names_all_applied plain read).mp held
    · refine kept (removes_iff.mpr ⟨served, fun source => unsourced ?_, missing⟩)
      cases mapped with
      | true => rwa [seen rfl]
      | false => cases source
    · exact missing (adds_iff.mp adds).1
  have none_ : ∀ model, model ∉ after.settings.detected := fun model member =>
    noAdd model (checked_detected reread member)
  refine ⟨List.eq_nil_iff_forall_not_mem.mpr none_, List.eq_nil_iff_forall_not_mem.mpr fun model member =>
    noRemove model ((reread.removed model).mp member), fun model => ?_⟩
  exact ((or_iff_left (none_ model)).symm.trans (reread.all model)).trans (or_iff_left (noAdd model))

theorem plain_offer : Plain ["gpt-4o", " o3 "] := by
  have named : normalizeModelNames ["gpt-4o", " o3 "] = ["gpt-4o", "o3"] := by decide
  rw [Plain, named]
  decide

def aliased : Env := { matchString := fun _ _ => none, modelMapping := [("fast", "o3")] }

/-- A channel with an alias and a retired model comes to what its upstream lists. -/
theorem retired_model_removed :
    let checked := aliased.check true false true (some ["gpt-4o", " o3 "]) 10 { models := "fast,gpt-3.5" }
    let applied := apply checked.settings.detected [] checked.settings.removed 20 checked
    let after := aliased.check true false true (some ["gpt-4o", " o3 "]) 30 applied
    applied.models = "fast,gpt-4o" ∧ after.settings.detected = [] :=
  ⟨by decide, (applied_leaves_nothing aliased plain_offer (fun seen => seen) _ false false 10 20 30).1⟩

/-! ## Every run -/

inductive Event where
  | check (force allowAutoApply mapped : Bool) (answer : Option (List String)) (now : Int)
  | apply (add ignore remove : List String) (now : Int)

/-- A channel, with the answers that its checks have read. -/
structure Server where
  channel : Channel
  answers : List (List String) := []

def step (env : Env) (server : Server) : Event → Server
  | .check force allowAutoApply mapped answer now =>
    { channel := env.check force allowAutoApply mapped answer now server.channel
      answers := if env.tooSoon force now server.channel.settings then server.answers
        else answer.toList ++ server.answers }
  | .apply add ignore remove now => { server with channel := apply add ignore remove now server.channel }

def Event.Plain : Event → Prop
  | .check _ _ _ answer _ => ∀ upstream, answer = some upstream → UpstreamModels.Plain upstream
  | .apply .. => True

/-- What holds of a channel that served `start` when it had nothing pending. -/
structure Sound (start : List String) (server : Server) : Prop where
  plain : ∀ answer ∈ server.answers, Plain answer
  entered : ∀ model ∈ server.channel.names, model ∈ start ∨
    ∃ answer ∈ server.answers, model ∈ normalizeModelNames answer
  stays : ∀ model ∈ start, (∀ answer ∈ server.answers, model ∈ normalizeModelNames answer) →
    model ∈ server.channel.names
  adds : ∀ model ∈ server.channel.settings.detected, model ∉ server.channel.names ∧
    model ∉ normalizeModelNames server.channel.settings.ignoredModels ∧
      ∃ answer ∈ server.answers, model ∈ normalizeModelNames answer
  removes : ∀ model ∈ server.channel.settings.removed, model ∈ server.channel.names ∧
    ∃ answer ∈ server.answers, model ∉ normalizeModelNames answer

theorem sound_checked (sound : Sound start server) (env : Env)
    (plain : ∀ upstream, answer = some upstream → Plain upstream) :
    Sound start (step env server (.check force auto mapped answer now)) := by
  by_cases early : env.tooSoon force now server.channel.settings = true
  · have same : step env server (.check force auto mapped answer now) = server := by
      simp only [step, Env.check, if_pos early]
    rwa [same]
  have due := eq_false_of_ne_true early
  cases answer with
  | none =>
    have same : step env server (.check force auto mapped none now) =
        ⟨{ server.channel with settings := { server.channel.settings with lastCheckTime := now } },
          server.answers⟩ := by
      simp only [step, Env.check, due, Bool.false_eq_true, if_false, Option.toList_none, List.nil_append]
    rw [same]
    exact ⟨sound.plain, sound.entered, sound.stays, sound.adds, sound.removes⟩
  | some upstream =>
    have read := check_reads env server.channel mapped auto (plain upstream rfl) due
    have answers : (step env server (.check force auto mapped (some upstream) now)).answers =
        upstream :: server.answers := by
      simp only [step, due, Bool.false_eq_true, if_false, Option.toList_some, List.singleton_append]
    refine ⟨?_, fun model member => ?_, fun model member all => ?_, fun model member => ?_,
      fun model member => ?_⟩
    all_goals rw [answers] at *
    · exact List.forall_mem_cons.mpr ⟨plain upstream rfl, sound.plain⟩
    · rcases (read.all model).mp (.inl member) with held | adds
      · exact (sound.entered model held).imp_right fun ⟨answer, seen, named⟩ => ⟨answer, .tail _ seen, named⟩
      · exact .inr ⟨upstream, .head _, (adds_iff.mp adds).1⟩
    · exact read.grown model (sound.stays model member fun answer held => all answer (.tail _ held))
    · have adds := checked_detected read member
      refine ⟨read.detected model member, ?_, upstream, .head _, (adds_iff.mp adds).1⟩
      exact read.ignored.symm ▸ adds_not_ignored (plain upstream rfl) adds
    · obtain ⟨held, -, missing⟩ := removes_iff.mp ((read.removed model).mp member)
      exact ⟨read.grown model held, upstream, .head _, missing⟩

theorem sound_applied (sound : Sound start server) (env : Env) (add ignore remove : List String) (now : Int) :
    Sound start (step env server (.apply add ignore remove now)) := by
  have plain : ∀ model ∈ server.channel.settings.detected, ',' ∉ model.toList := by
    intro model member
    obtain ⟨-, -, answer, read, listed⟩ := sound.adds model member
    exact (sound.plain answer read model listed).1
  refine ⟨sound.plain, fun model member => ?_, fun model member all => ?_, fun model member => ?_,
    fun model member => ?_⟩
  · exact ((names_applied plain).mp member).1.elim (sound.entered model) fun added =>
      .inr (sound.adds model added.2).2.2
  · refine (names_applied plain).mpr ⟨.inl (sound.stays model member all), fun removed => ?_⟩
    obtain ⟨-, answer, read, missing⟩ := sound.removes model removed.2.1
    exact missing (all answer read)
  · obtain ⟨pending, notAdded, notIgnored⟩ := detected_applied.mp member
    obtain ⟨missing, open_, offered⟩ := sound.adds model pending
    refine ⟨fun held => ?_, fun ignored => ?_, offered⟩
    · exact ((names_applied plain).mp held).1.elim missing fun added => notAdded added.1
    · exact (ignored_applied.mp ignored).1.elim open_ fun chosen => notIgnored chosen.1
  · obtain ⟨pending, kept⟩ := removed_applied.mp member
    exact (sound.removes model pending).imp_left fun held => (names_applied plain).mpr ⟨.inl held, kept⟩

/-- Over every run of checks and applications of a channel that has nothing pending: what it
serves it served before or was offered, what every answer offers it does not lose, and what
is pending is offered and missing and not ignored, or served and once missing. -/
theorem upstream_runs_sound (env : Env) (channel : Channel) (quiet : channel.settings.detected = [])
    (still : channel.settings.removed = []) (events : List Event) (plain : ∀ event ∈ events, event.Plain) :
    Sound channel.names (run (step env) ⟨channel, []⟩ events) := by
  refine run_preserves (fun server event plain sound => ?_) (guarded_of_events plain _) ?_
  · cases event with
    | check force auto mapped answer now => exact sound_checked sound env plain
    | apply add ignore remove now => exact sound_applied sound env add ignore remove now
  · refine ⟨nofun, fun _ => .inl, fun _ held _ => held, fun model member => ?_, fun model member => ?_⟩
    · exact absurd (quiet ▸ member) List.not_mem_nil
    · exact absurd (still ▸ member) List.not_mem_nil

theorem run_of_retired_model :
    Sound ["fast", "gpt-3.5"] (run (step aliased) ⟨{ models := "fast,gpt-3.5" }, []⟩
      [.check true false false (some ["gpt-4o", " o3 "]) 10, .apply ["gpt-4o"] [] ["gpt-3.5"] 20]) := by
  have names : Channel.names { models := "fast,gpt-3.5" } = ["fast", "gpt-3.5"] := by decide
  rw [← names]
  refine upstream_runs_sound aliased { models := "fast,gpt-3.5" } rfl rfl _ (List.forall_mem_cons.mpr ⟨?_, ?_⟩)
  · rintro upstream ⟨⟩
    exact plain_offer
  · exact List.forall_mem_singleton.mpr trivial

end NewApi.UpstreamModels
