import NewApi.ChannelRouting

/-! The attempts of a request whose token has the group `auto`. The distributor
selects the first channel, and the relay loop selects one for every retry. The
selection goes through the auto groups by an index that the request's context
keeps, and may reset the retry number that the loop counts by. -/
namespace NewApi.AutoGroupRetry
open NewApi.GoText NewApi.Channels NewApi.ChannelCache NewApi.AbilityRows NewApi.PriorityLevels
open NewApi.ChannelRouting

/-! ## The code -/

/-- `types.NewAPIError`, as far as a retry depends on it. -/
structure ApiError where
  isChannelError : Bool := false
  skipRetry : Bool := false
  statusCode : Int
  errorCode : String := ""
  deriving DecidableEq, Repr

/-- What stays as it is while a request runs. `memoryCache` is there when the
cache is enabled. -/
structure Settings where
  retryTimes : Nat
  autoGroups : List String
  usableGroups : List String
  memoryCache : Option Cache
  tables : AbilityTables
  formatMatchingModelName : String → String
  order : AbilityOrder
  shouldRetryByStatusCode : Int → Bool
  isAlwaysSkipRetryCode : String → Bool

/-- The keys of `gin.Context`. -/
structure Context where
  userGroup : String
  usingGroup : String
  tokenGroup : String
  tokenGroups : List String
  crossGroupRetry : Bool
  autoGroup : Option String := none
  autoGroupIndex : Option Nat := none
  autoGroupRetryIndex : Option Nat := none
  deriving DecidableEq, Repr

/-- `service/channel_select.go::RetryParam`. -/
structure RetryParam where
  tokenGroup : String
  modelName : String
  retry : Nat := 0
  resetNextTry : Bool := false
  deriving DecidableEq, Repr

def RetryParam.increaseRetry (param : RetryParam) : RetryParam :=
  if param.resetNextTry then { param with resetNextTry := false }
  else { param with retry := param.retry + 1 }

/-- `service/token_group.go::NormalizeTokenGroups`; `none` is its error. -/
def normalizeTokenGroups (group : String) : Option (List String) :=
  let groups := (((split ',' group).map trimSpace).filter fun name => name ≠ "").eraseDups
  if groups.length > 1 ∧ "auto" ∈ groups then none else some groups

/-- `service/channel_select.go::tokenGroupsFromContextOrParam`. -/
def tokenGroupsFromContextOrParam (context : Context) (tokenGroup : String) : List String :=
  if context.tokenGroups ≠ [] then context.tokenGroups
  else (normalizeTokenGroups tokenGroup).getD []

/-- What `GetRandomSatisfiedChannel` considers; it draws one of the channels. -/
def Settings.satisfied (settings : Settings) (group model : String) (retry : Nat) :
    Except SelectError (Option Choice) :=
  match settings.memoryCache with
  | some cache => cachedChoice settings.formatMatchingModelName cache group model retry
  | none => .ok
    (storedChoice settings.formatMatchingModelName settings.order settings.tables group model retry)

/-- `service/group.go::GetUserAutoGroupForUser`. -/
def Settings.userAutoGroups (settings : Settings) : List String :=
  settings.autoGroups.filter fun group => group ∈ settings.usableGroups

inductive SelectionError where
  | autoGroupsNotEnabled
  | select (error : SelectError)
  deriving DecidableEq, Repr

structure Selection where
  result : Except SelectionError (Option Choice)
  selectGroup : String
  context : Context
  param : RetryParam

/-- The loop over the auto groups, from the group with the index `i`. -/
def searchAutoGroups (settings : Settings) (startGroupIndex : Nat) :
    List String → Nat → Context → RetryParam → Selection
  | [], _, context, param =>
    { result := .ok none, selectGroup := param.tokenGroup, context := context, param := param }
  | autoGroup :: rest, i, context, param =>
    let priorityRetry := if i > startGroupIndex then 0 else param.retry
    match settings.satisfied autoGroup param.modelName priorityRetry with
    | .ok (some choice) =>
      let exhausted := context.crossGroupRetry && settings.retryTimes ≤ priorityRetry
      { result := .ok (some choice)
        selectGroup := autoGroup
        context := { context with
          autoGroup := some autoGroup
          autoGroupIndex := some (if exhausted then i + 1 else i) }
        param := if exhausted then { param with retry := 0, resetNextTry := true } else param }
    | _ => searchAutoGroups settings startGroupIndex rest (i + 1)
      { context with autoGroupIndex := some (i + 1), autoGroupRetryIndex := some 0 }
      { param with retry := 0 }

def searchTokenGroups (settings : Settings) (context : Context) (param : RetryParam) :
    List String → Selection
  | [] => { result := .ok none, selectGroup := param.tokenGroup, context := context, param := param }
  | group :: rest =>
    match settings.satisfied group param.modelName param.retry with
    | .error error =>
      { result := .error (.select error), selectGroup := group, context := context, param := param }
    | .ok (some choice) =>
      { result := .ok (some choice), selectGroup := group, context := context, param := param }
    | .ok none => searchTokenGroups settings context param rest

/-- `service/channel_select.go::CacheGetRandomSatisfiedChannel`. -/
def cacheGetRandomSatisfiedChannel (settings : Settings) (context : Context) (param : RetryParam) :
    Selection :=
  let tokenGroups := tokenGroupsFromContextOrParam context param.tokenGroup
  if param.tokenGroup = "auto" then
    if settings.autoGroups = [] then
      { result := .error .autoGroupsNotEnabled
        selectGroup := param.tokenGroup, context := context, param := param }
    else
      let startGroupIndex := context.autoGroupIndex.getD 0
      searchAutoGroups settings startGroupIndex (settings.userAutoGroups.drop startGroupIndex)
        startGroupIndex context param
  else if tokenGroups.length > 1 ∧ ',' ∈ param.tokenGroup.toList then
    searchTokenGroups settings context param tokenGroups
  else
    { result := (settings.satisfied param.tokenGroup param.modelName param.retry).mapError .select
      selectGroup := param.tokenGroup, context := context, param := param }

/-- `middleware/distributor.go::getChannelSelectionTokenGroup`. -/
def getChannelSelectionTokenGroup (context : Context) : String :=
  let tokenGroup := trimSpace context.tokenGroup
  if tokenGroup = "" ∨ tokenGroup = context.usingGroup then context.usingGroup
  else match normalizeTokenGroups tokenGroup with
  | none => context.usingGroup
  | some groups =>
    if groups.length < 2 then context.usingGroup
    else if context.usingGroup ∈ groups then String.intercalate "," groups
    else context.usingGroup

abbrev Attempt := String × Int

def Context.useGroup (context : Context) (selectGroup : String) : Context :=
  if selectGroup ≠ "" then { context with usingGroup := selectGroup, tokenGroup := selectGroup }
  else context

/-- The selection of `middleware/distributor.go::Distribute`, where no channel
affinity and no specific channel names the channel. `none` ends the request. -/
def distribute (settings : Settings) (context : Context) (modelName : String) :
    Option (Attempt × Context) :=
  let selection := cacheGetRandomSatisfiedChannel settings context
    { tokenGroup := getChannelSelectionTokenGroup context, modelName := modelName }
  match selection.result with
  | .ok (some choice) => some ((selection.selectGroup, choice.priority),
    selection.context.useGroup selection.selectGroup)
  | _ => none

/-- The token group of `relay/common/relay_info.go::genBaseRelayInfo`. -/
def relayTokenGroup (context : Context) : String :=
  if context.tokenGroup = "" then context.userGroup else context.tokenGroup

/-- `controller/relay.go::shouldRetry`, where the request names no channel. -/
def shouldRetry (settings : Settings) (error : ApiError) (retryTimes : Int) : Bool :=
  if error.isChannelError then true
  else if error.skipRetry then false
  else if retryTimes ≤ 0 then false
  else if 200 ≤ error.statusCode ∧ error.statusCode < 300 then false
  else if error.statusCode < 100 ∨ error.statusCode > 599 then true
  else if settings.isAlwaysSkipRetryCode error.errorCode then false
  else settings.shouldRetryByStatusCode error.statusCode

/-- The variables of the retry loop. `pending` is the attempt of the channel
that the distributor selected, as long as it has not been made: there is no
channel meta then. -/
structure Loop where
  context : Context
  param : RetryParam
  pending : Option Attempt

/-- `controller/relay.go::getChannel`: the attempt of an iteration. -/
def getChannel (settings : Settings) (loop : Loop) : Option (Attempt × Loop) :=
  match loop.pending with
  | some attempt => some (attempt, { loop with pending := none })
  | none =>
    let selection := cacheGetRandomSatisfiedChannel settings loop.context loop.param
    match selection.result with
    | .ok (some choice) => some ((selection.selectGroup, choice.priority),
      { loop with context := selection.context, param := selection.param })
    | _ => none

/-- The loop of `controller/relay.go::Relay` when every attempt fails, the one
with the number `made` by `errors made`: the attempts that it makes in at most
`fuel` iterations. -/
def relayLoop (settings : Settings) (errors : Nat → ApiError) : Nat → Nat → Loop → Option (List Attempt)
  | 0, _, _ => none
  | fuel + 1, made, loop =>
    if settings.retryTimes < loop.param.retry then some []
    else match getChannel settings loop with
    | none => some []
    | some (attempt, next) =>
      if shouldRetry settings (errors made) (settings.retryTimes - next.param.retry) then
        (relayLoop settings errors fuel (made + 1)
          { next with param := next.param.increaseRetry }).map (attempt :: ·)
      else some [attempt]

def requestAttempts (settings : Settings) (errors : Nat → ApiError) (context : Context)
    (modelName : String) (fuel : Nat) : Option (List Attempt) :=
  match distribute settings context modelName with
  | none => some []
  | some (first, context) => relayLoop settings errors fuel 0
    { context := context
      param := { tokenGroup := relayTokenGroup context, modelName := modelName }
      pending := some first }

/-! ## The documented schedule -/

def Settings.offers (settings : Settings) (group model : String) : List (Int × Int) :=
  match settings.memoryCache with
  | some cache =>
    match usableChannels cache (routedChannels settings.formatMatchingModelName cache group model) with
    | .ok usable => usable.map offerOf
    | .error _ => []
  | none =>
    ((matchedAbilities settings.formatMatchingModelName settings.order settings.tables.abilities
      group model).filter (servable settings.tables.channels)).map abilityOffer

def Settings.priorities (settings : Settings) (model group : String) : List Int :=
  levels ((settings.offers group model).map Prod.snd)

def Settings.servingGroups (settings : Settings) (model : String) : List String :=
  settings.userAutoGroups.filter fun group => settings.priorities model group ≠ []

def Settings.schedule (settings : Settings) (model : String) : List Attempt :=
  (settings.servingGroups model).eraseDups.flatMap fun group =>
    (settings.priorities model group).map fun priority => (group, priority)

/-- The context of a request whose token has the group `auto`, with cross-group
retry on. -/
def autoContext (userGroup : String) : Context where
  userGroup := userGroup
  usingGroup := "auto"
  tokenGroup := "auto"
  tokenGroups := (normalizeTokenGroups "auto").getD []
  crossGroupRetry := true

def Retryable (settings : Settings) (error : ApiError) : Prop :=
  ∀ left : Int, 0 < left → shouldRetry settings error left = true

def FollowsSchedule (settings : Settings) (errors : Nat → ApiError) (context : Context)
    (model : String) : Prop :=
  ∃ fuel attempts, requestAttempts settings errors context model fuel = some attempts ∧
    settings.schedule model <+: attempts

/-! ## What a selection finds -/

section Selecting
variable {settings : Settings} {model group : String} {retry : Nat} {context : Context}
variable {param : RetryParam}

theorem satisfied_eq (settings : Settings) (group model : String) (retry : Nat) :
    settings.satisfied group model retry = .ok (considered retry (settings.offers group model)) ∨
      settings.offers group model = [] ∧ ∃ error, settings.satisfied group model retry = .error error := by
  unfold Settings.satisfied Settings.offers
  cases settings.memoryCache with
  | none => exact .inl (congrArg _ (stored_choice_eq ..))
  | some cache =>
    dsimp only
    cases read : usableChannels cache
        (routedChannels settings.formatMatchingModelName cache group model) with
    | ok usable => exact .inl (cached_choice_eq read)
    | error error =>
      refine .inr ⟨rfl, error, ?_⟩
      rw [cachedChoice, read]

theorem satisfied_serves (retry : Nat) (serves : settings.priorities model group ≠ []) :
    ∃ choice, settings.satisfied group model retry = .ok (some choice) ∧
      levelAt retry ((settings.offers group model).map Prod.snd) = some choice.priority := by
  have nonempty : settings.offers group model ≠ [] := by
    intro none_
    apply serves
    rw [Settings.priorities, none_]
    rfl
  obtain ⟨target, -, level, considers⟩ := considered_some retry _ nonempty
  rcases satisfied_eq settings group model retry with found | ⟨none_, -⟩
  · exact ⟨_, found.trans (congrArg _ considers), level⟩
  · exact absurd none_ nonempty

theorem satisfied_idle (idle : settings.priorities model group = []) (choice : Choice) :
    settings.satisfied group model retry ≠ .ok (some choice) := by
  have none_ : settings.offers group model = [] := List.map_eq_nil_iff.mp (levels_eq_nil.mp idle)
  intro found
  rcases satisfied_eq settings group model retry with same | ⟨-, error, failed⟩
  · rw [same, none_] at found
    cases found
  · rw [failed] at found
    cases found

theorem search_moves
    (found : (searchAutoGroups settings start groups i context param).result = .ok (some choice)) :
    ∃ j, i ≤ j ∧ j < i + groups.length ∧
      ((searchAutoGroups settings start groups i context param).context.autoGroupIndex = some j ∧
          (searchAutoGroups settings start groups i context param).param =
            { param with retry := if i < j then 0 else param.retry } ∨
        (searchAutoGroups settings start groups i context param).context.autoGroupIndex =
            some (j + 1) ∧
          (searchAutoGroups settings start groups i context param).param =
            { param with retry := 0, resetNextTry := true }) := by
  induction groups generalizing i context param with
  | nil => cases found
  | cons first rest ih =>
    unfold searchAutoGroups at found ⊢
    dsimp only at found ⊢
    split
    · refine ⟨i, Nat.le_refl i, by simp, ?_⟩
      simp only [Nat.lt_irrefl, if_false]
      generalize (context.crossGroupRetry &&
        decide (settings.retryTimes ≤ if i > start then 0 else param.retry)) = exhausted
      cases exhausted with
      | true => exact .inr ⟨rfl, rfl⟩
      | false => exact .inl ⟨rfl, rfl⟩
    · rename_i idle
      have found : (searchAutoGroups settings start rest (i + 1)
          { context with autoGroupIndex := some (i + 1), autoGroupRetryIndex := some 0 }
          { param with retry := 0 }).result = .ok (some choice) := by
        split at found
        · rename_i selected
          exact absurd selected (idle _)
        · exact found
      obtain ⟨j, after, before, moved⟩ := ih found
      refine ⟨j, Nat.le_of_succ_le after, by rw [List.length_cons]; omega, ?_⟩
      rw [if_pos (Nat.lt_of_succ_le after)]
      simpa only [ite_self] using moved

def Context.skip (context : Context) (i : Nat) : Context :=
  { context with autoGroupIndex := some i, autoGroupRetryIndex := some 0 }

theorem search_skips (some_ : skipped ≠ [])
    (idle : ∀ other ∈ skipped, settings.priorities param.modelName other = []) :
    searchAutoGroups settings start (skipped ++ rest) i context param =
      searchAutoGroups settings start rest (i + skipped.length)
        (context.skip (i + skipped.length)) { param with retry := 0 } := by
  induction skipped generalizing i context param with
  | nil => exact absurd rfl some_
  | cons first others ih =>
    obtain ⟨mine, later⟩ := List.forall_mem_cons.mp idle
    rw [List.cons_append, searchAutoGroups]
    dsimp only
    split
    · rename_i choice found
      exact absurd found (satisfied_idle mine choice)
    · by_cases last : others = []
      · subst last
        rfl
      · refine (ih last ?_).trans ?_
        · exact later
        · rw [List.length_cons]
          unfold Context.skip
          simp only [Nat.add_assoc, Nat.add_comm 1]

def foundIn (settings : Settings) (group : String) (i retry : Nat) (choice : Choice)
    (context : Context) (param : RetryParam) : Selection :=
  let exhausted := context.crossGroupRetry && settings.retryTimes ≤ retry
  { result := .ok (some choice)
    selectGroup := group
    context := { context with
      autoGroup := some group
      autoGroupIndex := some (if exhausted then i + 1 else i) }
    param := if exhausted then { param with retry := 0, resetNextTry := true } else param }

theorem search_serves (start i : Nat) (rest : List String) (context : Context) (param : RetryParam)
    (serves : settings.priorities param.modelName group ≠ []) :
    ∃ choice, levelAt (if start < i then 0 else param.retry)
        ((settings.offers group param.modelName).map Prod.snd) = some choice.priority ∧
      searchAutoGroups settings start (group :: rest) i context param =
        foundIn settings group i (if start < i then 0 else param.retry) choice context param := by
  obtain ⟨choice, found, level⟩ :=
    satisfied_serves (if start < i then 0 else param.retry) serves
  refine ⟨choice, level, ?_⟩
  rw [searchAutoGroups]
  simp only [gt_iff_lt, found]
  rfl

end Selecting

/-! ## The loop ends -/

section Ending
variable {settings : Settings} {errors : Nat → ApiError} {loop after : Loop} {attempt : Attempt}
variable {context : Context} {param : RetryParam} {choice : Choice} {made : Nat}

theorem search_token_groups_keeps (groups : List String) :
    (searchTokenGroups settings context param groups).context = context ∧
      (searchTokenGroups settings context param groups).param = param := by
  induction groups with
  | nil => exact ⟨rfl, rfl⟩
  | cons first rest ih =>
    unfold searchTokenGroups
    split
    · exact ⟨rfl, rfl⟩
    · exact ⟨rfl, rfl⟩
    · exact ih

theorem selection_moves
    (found : (cacheGetRandomSatisfiedChannel settings context param).result = .ok (some choice)) :
    (cacheGetRandomSatisfiedChannel settings context param).context = context ∧
        (cacheGetRandomSatisfiedChannel settings context param).param = param ∨
      ∃ j, context.autoGroupIndex.getD 0 ≤ j ∧ j < settings.userAutoGroups.length ∧
        ((cacheGetRandomSatisfiedChannel settings context param).context.autoGroupIndex = some j ∧
            (cacheGetRandomSatisfiedChannel settings context param).param =
              { param with retry := if context.autoGroupIndex.getD 0 < j then 0 else param.retry } ∨
          (cacheGetRandomSatisfiedChannel settings context param).context.autoGroupIndex =
              some (j + 1) ∧
            (cacheGetRandomSatisfiedChannel settings context param).param =
              { param with retry := 0, resetNextTry := true }) := by
  unfold cacheGetRandomSatisfiedChannel at found ⊢
  dsimp only at found ⊢
  by_cases auto : param.tokenGroup = "auto"
  · by_cases off : settings.autoGroups = []
    · rw [if_pos auto, if_pos off] at found
      cases found
    · simp only [if_pos auto, if_neg off] at found ⊢
      obtain ⟨j, later, inside, moved⟩ := search_moves found
      refine .inr ⟨j, later, ?_, moved⟩
      rw [List.length_drop] at inside
      omega
  · simp only [auto, if_false]
    refine .inl ?_
    split
    · exact search_token_groups_keeps _
    · exact ⟨rfl, rfl⟩

theorem get_channel_cases (next : getChannel settings loop = some (attempt, after)) :
    (∃ first, loop.pending = some first ∧ attempt = first ∧ after = { loop with pending := none }) ∨
      loop.pending = none ∧ ∃ choice,
        (cacheGetRandomSatisfiedChannel settings loop.context loop.param).result = .ok (some choice) ∧
        attempt = ((cacheGetRandomSatisfiedChannel settings loop.context loop.param).selectGroup,
          choice.priority) ∧
        after = { loop with
          context := (cacheGetRandomSatisfiedChannel settings loop.context loop.param).context
          param := (cacheGetRandomSatisfiedChannel settings loop.context loop.param).param } := by
  unfold getChannel at next
  split at next
  · rename_i first pending
    cases next
    exact .inl ⟨_, pending, rfl, rfl⟩
  · rename_i pending
    dsimp only at next
    split at next
    · rename_i choice found
      cases next
      exact .inr ⟨pending, choice, found, rfl, rfl⟩
    · cases next

def remaining (settings : Settings) (loop : Loop) : Nat :=
  (settings.userAutoGroups.length - loop.context.autoGroupIndex.getD 0) * (settings.retryTimes + 2) +
    (settings.retryTimes + 1 - loop.param.retry)

@[simp] theorem increase_retry_flag (param : RetryParam) : param.increaseRetry.resetNextTry = false := by
  unfold RetryParam.increaseRetry
  split
  · rfl
  · rename_i unflagged
    simpa using unflagged

theorem iteration_shrinks (unflagged : loop.param.resetNextTry = false)
    (within : loop.param.retry ≤ settings.retryTimes)
    (next : getChannel settings loop = some (attempt, after)) :
    remaining settings { after with param := after.param.increaseRetry } < remaining settings loop := by
  have counts : ∀ param : RetryParam, param.resetNextTry = false →
      param.increaseRetry.retry = param.retry + 1 := by
    intro param plain
    simp [RetryParam.increaseRetry, plain]
  unfold remaining
  rcases get_channel_cases next with ⟨first, -, -, rfl⟩ | ⟨-, choice, found, -, rfl⟩
  · rw [counts _ unflagged]
    dsimp only
    omega
  · dsimp only
    rcases selection_moves found with ⟨sameContext, sameParam⟩ | ⟨j, later, inside, moved⟩
    · rw [sameContext, sameParam, counts _ unflagged]
      omega
    · generalize loop.context.autoGroupIndex.getD 0 = start at later moved ⊢
      generalize settings.userAutoGroups.length = size at inside ⊢
      rcases moved with ⟨index, changed⟩ | ⟨index, changed⟩
      · rw [index, changed, counts { loop.param with retry := if start < j then 0 else _ } unflagged,
          Option.getD_some]
        dsimp only
        by_cases further : start < j
        · have fewer := Nat.mul_le_mul_right (settings.retryTimes + 2)
            (show size - j + 1 ≤ size - start by omega)
          rw [Nat.add_mul] at fewer
          omega
        · have same : j = start := by omega
          rw [if_neg further, same]
          omega
      · have restarted : (({ loop.param with retry := 0, resetNextTry := true } :
            RetryParam).increaseRetry).retry = 0 := rfl
        have fewer := Nat.mul_le_mul_right (settings.retryTimes + 2)
          (show size - (j + 1) + 1 ≤ size - start by omega)
        rw [Nat.add_mul] at fewer
        rw [index, changed, restarted, Option.getD_some]
        omega

theorem loop_head (within : loop.param.retry ≤ settings.retryTimes)
    (next : getChannel settings loop = some (attempt, after))
    (ended : relayLoop settings errors fuel made loop = some attempts) :
    ∃ tail, attempts = attempt :: tail := by
  cases fuel with
  | zero => cases ended
  | succ fuel =>
    simp only [relayLoop, if_neg (Nat.not_lt.mpr within), next] at ended
    split at ended
    · obtain ⟨tail, -, rfl⟩ := Option.map_eq_some_iff.mp ended
      exact ⟨tail, rfl⟩
    · cases ended
      exact ⟨[], rfl⟩

theorem loop_continues
    (retryable : Retryable settings (errors made)) (within : loop.param.retry ≤ settings.retryTimes)
    (next : getChannel settings loop = some (attempt, after))
    (left_ : after.param.retry < settings.retryTimes)
    (ended : relayLoop settings errors fuel made loop = some attempts) :
    ∃ fuel tail, relayLoop settings errors fuel (made + 1)
        { after with param := after.param.increaseRetry } = some tail ∧ attempts = attempt :: tail := by
  cases fuel with
  | zero => cases ended
  | succ fuel =>
    have retried := retryable (settings.retryTimes - after.param.retry) (by omega)
    simp only [relayLoop, if_neg (Nat.not_lt.mpr within), next, retried, if_true] at ended
    obtain ⟨tail, later, rfl⟩ := Option.map_eq_some_iff.mp ended
    exact ⟨fuel, tail, later, rfl⟩

theorem loop_ends (settings : Settings) (errors : Nat → ApiError) (made : Nat) (loop : Loop)
    (unflagged : loop.param.resetNextTry = false) :
    ∃ fuel attempts, relayLoop settings errors fuel made loop = some attempts := by
  induction size : remaining settings loop using Nat.strong_induction_on generalizing loop made with
  | _ size ih =>
    by_cases exhausted : settings.retryTimes < loop.param.retry
    · exact ⟨1, [], by rw [relayLoop, if_pos exhausted]⟩
    cases next : getChannel settings loop with
    | none => exact ⟨1, [], by rw [relayLoop, if_neg exhausted, next]⟩
    | some found =>
      obtain ⟨attempt, after⟩ := found
      have shrinks := iteration_shrinks unflagged (Nat.le_of_not_lt exhausted) next
      by_cases retried : shouldRetry settings (errors made) (settings.retryTimes - after.param.retry) = true
      · obtain ⟨fuel, attempts, ended⟩ := ih _ (size ▸ shrinks) (made + 1)
          { after with param := after.param.increaseRetry } (increase_retry_flag _) rfl
        refine ⟨fuel + 1, attempt :: attempts, ?_⟩
        simp only [relayLoop, if_neg exhausted, next, retried, if_true, ended, Option.map_some]
      · refine ⟨1, [attempt], ?_⟩
        simp only [relayLoop, if_neg exhausted, next, retried, Bool.false_eq_true, if_false]

theorem loop_settled
    (ended : relayLoop settings errors fuel made loop = some attempts) (enough : fuel ≤ more) :
    relayLoop settings errors more made loop = some attempts := by
  induction fuel generalizing more made loop attempts with
  | zero => cases ended
  | succ fuel ih =>
    obtain ⟨more, rfl⟩ : ∃ less, more = less + 1 := ⟨more - 1, by omega⟩
    have within : fuel ≤ more := Nat.le_of_succ_le_succ enough
    unfold relayLoop at ended ⊢
    split
    · rename_i exhausted
      rwa [if_pos exhausted] at ended
    · rename_i exhausted
      rw [if_neg exhausted] at ended
      cases next : getChannel settings loop with
      | none => rwa [next] at ended
      | some found =>
        rw [next] at ended
        dsimp only at ended ⊢
        split
        · rename_i retried
          rw [if_pos retried] at ended
          obtain ⟨rest, later, rfl⟩ := Option.map_eq_some_iff.mp ended
          rw [ih later within, Option.map_some]
        · rename_i last
          rwa [if_neg last] at ended

end Ending

/-! ## The attempts in a group -/

def Settings.priorityAt (settings : Settings) (model group : String) (retry : Nat) : Int :=
  (levelAt retry ((settings.offers group model).map Prod.snd)).getD 0

def Settings.attemptsIn (settings : Settings) (model group : String) (from_ count : Nat) : List Attempt :=
  (List.range' from_ count).map fun retry => (group, settings.priorityAt model group retry)

/-- The loop selects from a group: by its name, or by the index of the group
`auto`. -/
structure AtGroup (settings : Settings) (model group : String) (loop : Loop) : Prop where
  started : loop.pending = none
  unflagged : loop.param.resetNextTry = false
  modelName : loop.param.modelName = model
  tokenGroups : loop.context.tokenGroups = ["auto"]
  selects : loop.param.tokenGroup = group ∧ group ≠ "auto" ∨
    loop.param.tokenGroup = "auto" ∧ ∃ i rest, loop.context.autoGroupIndex = some i ∧
      settings.userAutoGroups.drop i = group :: rest

section Attempts
variable {settings : Settings} {errors : Nat → ApiError} {loop : Loop} {model group : String}
variable {made : Nat}

theorem auto_groups_enabled
    (held : settings.userAutoGroups.drop i = group :: rest) : settings.autoGroups ≠ [] := by
  intro off
  rw [Settings.userAutoGroups, off, List.filter_nil, List.drop_nil] at held
  cases held

theorem at_group_step (at_ : AtGroup settings model group loop)
    (serves : settings.priorities model group ≠ []) :
    ∃ after, getChannel settings loop =
        some ((group, settings.priorityAt model group loop.param.retry), after) ∧
      (loop.param.retry < settings.retryTimes → after.param = loop.param ∧
        AtGroup settings model group { after with param := after.param.increaseRetry }) := by
  obtain ⟨context, param, pending⟩ := loop
  obtain ⟨started, unflagged, modelName, tokenGroups, selects⟩ := at_
  dsimp only at started unflagged modelName tokenGroups selects
  subst started modelName
  have increased : param.increaseRetry = { param with retry := param.retry + 1 } := by
    simp [RetryParam.increaseRetry, unflagged]
  rcases selects with ⟨rfl, named⟩ | ⟨auto, i, rest, index, held⟩
  · obtain ⟨choice, found, level⟩ := satisfied_serves param.retry serves
    have selection : cacheGetRandomSatisfiedChannel settings context param =
        { result := .ok (some choice), selectGroup := param.tokenGroup
          context := context, param := param } := by
      unfold cacheGetRandomSatisfiedChannel
      dsimp only
      rw [if_neg named, if_neg (by simp [tokenGroupsFromContextOrParam, tokenGroups]), found]
      rfl
    refine ⟨{ context := context, param := param, pending := none }, ?_, fun _ => ⟨rfl, ?_⟩⟩
    · simp only [getChannel, selection, Settings.priorityAt, level, Option.getD_some]
    · rw [increased]
      exact ⟨rfl, unflagged, rfl, tokenGroups, .inl ⟨rfl, named⟩⟩
  · obtain ⟨choice, level, found⟩ := search_serves i i rest context param serves
    have selection : cacheGetRandomSatisfiedChannel settings context param =
        foundIn settings group i param.retry choice context param := by
      unfold cacheGetRandomSatisfiedChannel
      dsimp only
      rw [if_pos auto, if_neg (auto_groups_enabled held), index, Option.getD_some, held, found,
        if_neg (Nat.lt_irrefl i)]
    rw [if_neg (Nat.lt_irrefl i)] at level
    refine ⟨{ context := (foundIn settings group i param.retry choice context param).context
              param := (foundIn settings group i param.retry choice context param).param
              pending := none }, ?_, ?_⟩
    · simp only [getChannel, selection, Settings.priorityAt, level, Option.getD_some]
      rfl
    · intro left_
      have open_ : (context.crossGroupRetry && decide (settings.retryTimes ≤ param.retry)) = false := by
        simp [left_]
      simp only [foundIn, open_, Bool.false_eq_true, if_false, true_and]
      rw [increased]
      exact ⟨rfl, unflagged, rfl, tokenGroups, .inr ⟨auto, i, rest, rfl, held⟩⟩

theorem attempts_in_group
    (retryable : ∀ made, Retryable settings (errors made))
    (serves : settings.priorities model group ≠ []) (at_ : AtGroup settings model group loop)
    (within : loop.param.retry ≤ settings.retryTimes)
    (ended : relayLoop settings errors fuel made loop = some attempts) :
    settings.attemptsIn model group loop.param.retry (settings.retryTimes + 1 - loop.param.retry) <+:
      attempts := by
  induction left_ : settings.retryTimes - loop.param.retry
      generalizing loop fuel made attempts with
  | zero =>
    obtain ⟨after, next, -⟩ := at_group_step at_ serves
    obtain ⟨tail, rfl⟩ := loop_head within next ended
    have last : settings.retryTimes + 1 - loop.param.retry = 1 := by omega
    rw [last]
    exact List.cons_prefix_cons.mpr ⟨rfl, List.nil_prefix⟩
  | succ more ih =>
    have below : loop.param.retry < settings.retryTimes := by omega
    obtain ⟨after, next, stays⟩ := at_group_step at_ serves
    obtain ⟨same, atNext⟩ := stays below
    obtain ⟨fuel, tail, later, rfl⟩ := loop_continues (retryable made) within next
      (by rw [same]; exact below) ended
    have increased : after.param.increaseRetry.retry = loop.param.retry + 1 := by
      simp [RetryParam.increaseRetry, same, at_.unflagged]
    have more_ := ih atNext (by rw [increased]; exact below) later (by rw [increased]; omega)
    have count : settings.retryTimes + 1 - loop.param.retry =
        settings.retryTimes + 1 - after.param.increaseRetry.retry + 1 := by
      rw [increased]
      omega
    rw [count, Settings.attemptsIn, List.range'_succ, List.map_cons]
    rw [increased] at more_ ⊢
    exact List.cons_prefix_cons.mpr ⟨rfl, more_⟩

/-! ## The first selection -/

theorem auto_token_groups (userGroup : String) : (autoContext userGroup).tokenGroups = ["auto"] := by
  have normalized : (normalizeTokenGroups "auto").getD [] = ["auto"] := by decide
  exact normalized

theorem auto_selection_group (userGroup : String) :
    getChannelSelectionTokenGroup (autoContext userGroup) = "auto" := by
  have trimmed : trimSpace "auto" = "auto" := by decide
  simp [getChannelSelectionTokenGroup, autoContext, trimmed]

theorem auto_selection (userGroup model : String) (enabled : settings.autoGroups ≠ []) :
    cacheGetRandomSatisfiedChannel settings (autoContext userGroup)
        { tokenGroup := "auto", modelName := model } =
      searchAutoGroups settings 0 settings.userAutoGroups 0 (autoContext userGroup)
        { tokenGroup := "auto", modelName := model } := by
  unfold cacheGetRandomSatisfiedChannel
  simp only [if_true, if_neg enabled]
  rfl

theorem distribute_first (userGroup : String)
    (serving : settings.servingGroups model = group :: others) :
    ∃ context, distribute settings (autoContext userGroup) model =
        some ((group, settings.priorityAt model group 0), context) ∧
      (0 < settings.retryTimes → AtGroup settings model group
        { context := context
          param := { tokenGroup := relayTokenGroup context, modelName := model, retry := 1 }
          pending := none }) := by
  obtain ⟨skipped, rest, shape, idle, serves, -⟩ := List.filter_eq_cons_iff.mp serving
  have serves : settings.priorities model group ≠ [] := by simpa using serves
  have idle : ∀ other ∈ skipped, settings.priorities model other = [] := by simpa using idle
  have enabled : settings.autoGroups ≠ [] := by
    intro off
    rw [Settings.userAutoGroups, off, List.filter_nil] at shape
    cases skipped <;> cases shape
  have passed : ∃ context choice, context.tokenGroups = ["auto"] ∧ context.tokenGroup = "auto" ∧
      context.userGroup = userGroup ∧
      levelAt 0 ((settings.offers group model).map Prod.snd) = some choice.priority ∧
      searchAutoGroups settings 0 settings.userAutoGroups 0 (autoContext userGroup)
          { tokenGroup := "auto", modelName := model } =
        foundIn settings group skipped.length 0 choice context
          { tokenGroup := "auto", modelName := model } := by
    rw [shape]
    by_cases first : skipped = []
    · subst first
      obtain ⟨choice, level, found⟩ := search_serves 0 0 rest (autoContext userGroup)
        { tokenGroup := "auto", modelName := model } serves
      exact ⟨autoContext userGroup, choice, auto_token_groups userGroup, rfl, rfl, level, found⟩
    · obtain ⟨choice, level, found⟩ := search_serves 0 (0 + skipped.length) rest
        ((autoContext userGroup).skip (0 + skipped.length))
        { tokenGroup := "auto", modelName := model } serves
      rw [ite_self] at level found
      rw [Nat.zero_add] at found
      refine ⟨(autoContext userGroup).skip skipped.length, choice, auto_token_groups userGroup, rfl,
        rfl, level, ?_⟩
      rw [search_skips first idle, Nat.zero_add]
      exact found
  obtain ⟨context, choice, tokenGroups, auto, user, level, found⟩ := passed
  have selection := (auto_selection userGroup model enabled).trans found
  have top : settings.priorityAt model group 0 = choice.priority := by
    rw [Settings.priorityAt, level, Option.getD_some]
  have held : settings.userAutoGroups.drop skipped.length = group :: rest := by
    rw [shape, List.drop_left]
  refine ⟨(foundIn settings group skipped.length 0 choice context
    { tokenGroup := "auto", modelName := model }).context.useGroup group, ?_, ?_⟩
  · simp only [distribute, auto_selection_group, selection, top]
    rfl
  · intro retries
    have open_ : (context.crossGroupRetry && decide (settings.retryTimes ≤ 0)) = false := by
      rw [decide_eq_false (Nat.not_le.mpr retries), Bool.and_false]
    simp only [foundIn, open_, Bool.false_eq_true, if_false]
    by_cases unnamed : group = ""
    · subst unnamed
      refine ⟨rfl, rfl, rfl, tokenGroups, .inr ⟨?_, skipped.length, rest, rfl, held⟩⟩
      simp [relayTokenGroup, Context.useGroup, auto]
    · have named : relayTokenGroup (Context.useGroup { context with
          autoGroup := some group
          autoGroupIndex := some skipped.length } group) = group := by
        rw [relayTokenGroup, Context.useGroup, if_pos unnamed]
        exact if_neg unnamed
      have kept : (Context.useGroup { context with
          autoGroup := some group
          autoGroupIndex := some skipped.length } group).tokenGroups = ["auto"] := by
        simp [Context.useGroup, unnamed, tokenGroups]
      refine ⟨rfl, rfl, rfl, kept, ?_⟩
      by_cases same : group = "auto"
      · refine .inr ⟨named.trans same, skipped.length, rest, ?_, held⟩
        simp [Context.useGroup, unnamed]
      · exact .inl ⟨named, same⟩

theorem request_begins (userGroup : String)
    (retryable : ∀ made, Retryable settings (errors made))
    (serving : settings.servingGroups model = group :: others)
    (ended : requestAttempts settings errors (autoContext userGroup) model fuel = some attempts) :
    settings.attemptsIn model group 0 (settings.retryTimes + 1) <+: attempts := by
  have serves : settings.priorities model group ≠ [] := by
    have member : group ∈ settings.servingGroups model := by
      rw [serving]
      exact List.mem_cons_self ..
    simpa using (List.mem_filter.mp member).2
  obtain ⟨context, first, at_⟩ := distribute_first userGroup serving
  rw [requestAttempts, first] at ended
  rw [Settings.attemptsIn, List.range'_succ, List.map_cons]
  by_cases retries : 0 < settings.retryTimes
  · obtain ⟨fuel, tail, later, rfl⟩ := loop_continues (retryable 0) (Nat.zero_le _) rfl retries ended
    have more := attempts_in_group retryable serves (at_ retries) retries later
    exact List.cons_prefix_cons.mpr ⟨rfl, more⟩
  · obtain ⟨tail, rfl⟩ := loop_head (Nat.zero_le _) rfl ended
    have none_ : settings.retryTimes = 0 := by omega
    rw [none_]
    exact List.cons_prefix_cons.mpr ⟨rfl, List.nil_prefix⟩

theorem request_ends (settings : Settings) (errors : Nat → ApiError) (userGroup model : String) :
    ∃ fuel attempts,
      requestAttempts settings errors (autoContext userGroup) model fuel = some attempts := by
  unfold requestAttempts
  cases distribute settings (autoContext userGroup) model with
  | none => exact ⟨0, [], rfl⟩
  | some selected =>
    obtain ⟨first, context⟩ := selected
    exact loop_ends settings errors 0 _ rfl

theorem request_settled
    (ended : requestAttempts settings errors (autoContext userGroup) model fuel = some attempts)
    (otherEnded : requestAttempts settings errors (autoContext userGroup) model otherFuel = some others) :
    attempts = others := by
  unfold requestAttempts at ended otherEnded
  cases selected : distribute settings (autoContext userGroup) model with
  | none =>
    rw [selected] at ended otherEnded
    exact Option.some.inj (ended.symm.trans otherEnded)
  | some first =>
    rw [selected] at ended otherEnded
    have one := loop_settled ended (Nat.le_max_left fuel otherFuel)
    have other := loop_settled otherEnded (Nat.le_max_right fuel otherFuel)
    exact Option.some.inj (one.symm.trans other)

/-! ## The schedule -/

theorem priorities_attempted (settings : Settings) (model group : String)
    (enough : (settings.priorities model group).length ≤ count) :
    (settings.priorities model group).map (fun priority => (group, priority)) <+:
      settings.attemptsIn model group 0 count := by
  rw [Settings.attemptsIn, ← List.range_eq_range', List.prefix_iff_eq_take, List.length_map,
    ← List.map_take, List.take_range, Nat.min_eq_left enough]
  apply List.ext_getElem
  · simp
  · intro retry inside _
    rw [List.length_map] at inside
    have clamped : min retry ((settings.priorities model group).length - 1) = retry := by omega
    rw [List.getElem_map, List.getElem_map, List.getElem_range, Settings.priorityAt, levelAt,
      ← Settings.priorities, clamped, List.getElem?_eq_getElem inside, Option.getD_some]

theorem schedule_serves :
    attempt ∈ settings.schedule model ↔
      attempt.1 ∈ settings.servingGroups model ∧ attempt.2 ∈ settings.priorities model attempt.1 := by
  simp only [Settings.schedule, List.mem_flatMap, List.mem_eraseDups, List.mem_map]
  constructor
  · rintro ⟨group, serving, priority, listed, rfl⟩
    exact ⟨serving, listed⟩
  · rintro ⟨serving, listed⟩
    exact ⟨attempt.1, serving, attempt.2, listed, rfl⟩

theorem mem_serving : group ∈ settings.servingGroups model ↔
    group ∈ settings.userAutoGroups ∧ settings.priorities model group ≠ [] := by
  rw [Settings.servingGroups, List.mem_filter]
  simp

theorem schedule_of_one (serving : settings.servingGroups model = group :: others)
    (same : ∀ other ∈ others, other = group) :
    settings.schedule model = (settings.priorities model group).map fun priority => (group, priority) := by
  have none_ : (others.filter fun other => !other == group) = [] := by
    apply List.filter_eq_nil_iff.mpr
    intro other member
    simp [same other member]
  rw [Settings.schedule, serving, List.eraseDups_cons, none_]
  exact List.append_nil _

end Attempts

/-- When every attempt fails with an error that is retried, and the retries are
enough for the documented schedule, a request follows it exactly where the auto
groups that serve its model are one and the same. -/
theorem auto_schedule_followed_iff (settings : Settings) (errors : Nat → ApiError)
    (userGroup model : String) (retryable : ∀ made, Retryable settings (errors made))
    (enough : (settings.schedule model).length ≤ settings.retryTimes + 1) :
    FollowsSchedule settings errors (autoContext userGroup) model ↔
      ∀ group ∈ settings.userAutoGroups, ∀ other ∈ settings.userAutoGroups,
        settings.priorities model group ≠ [] → settings.priorities model other ≠ [] → group = other := by
  obtain ⟨fuel, attempts, ended⟩ := request_ends settings errors userGroup model
  have follows_iff : FollowsSchedule settings errors (autoContext userGroup) model ↔
      settings.schedule model <+: attempts := by
    refine ⟨?_, fun begins => ⟨fuel, attempts, ended, begins⟩⟩
    rintro ⟨otherFuel, others, otherEnded, begins⟩
    rwa [request_settled ended otherEnded]
  rw [follows_iff]
  cases serving : settings.servingGroups model with
  | nil =>
    have idle : ∀ group ∈ settings.userAutoGroups, settings.priorities model group = [] := by
      simpa [Settings.servingGroups, List.filter_eq_nil_iff] using serving
    constructor
    · intro _ group member _ _ serves
      exact absurd (idle group member) serves
    · intro _
      rw [Settings.schedule, serving]
      exact List.nil_prefix
  | cons first others =>
    have begins := request_begins userGroup retryable serving ended
    constructor
    · intro follows group member other otherMember serves otherServes
      -- All that is scheduled is tried in the first group.
      have inside : settings.schedule model <+:
          settings.attemptsIn model first 0 (settings.retryTimes + 1) := by
        apply List.prefix_of_prefix_length_le follows begins
        simpa [Settings.attemptsIn] using enough
      have only : ∀ served ∈ settings.servingGroups model, served = first := by
        intro served listed
        obtain ⟨priority, level⟩ := List.exists_mem_of_ne_nil _ (mem_serving.mp listed).2
        have scheduled : (served, priority) ∈ settings.schedule model :=
          schedule_serves.mpr ⟨listed, level⟩
        obtain ⟨retry, -, same⟩ := List.mem_map.mp (inside.subset scheduled)
        exact (congrArg Prod.fst same).symm
      exact (only group (mem_serving.mpr ⟨member, serves⟩)).trans
        (only other (mem_serving.mpr ⟨otherMember, otherServes⟩)).symm
    · intro one
      have listed : ∀ group ∈ first :: others, group ∈ settings.userAutoGroups ∧
          settings.priorities model group ≠ [] := by
        intro group member
        rw [← serving] at member
        exact mem_serving.mp member
      have same : ∀ other ∈ others, other = first := by
        intro other member
        obtain ⟨here, serves⟩ := listed other (List.mem_cons_of_mem _ member)
        obtain ⟨firstHere, firstServes⟩ := listed first (List.mem_cons_self ..)
        exact one other here first firstHere serves firstServes
      have scheduled := schedule_of_one serving same
      rw [scheduled, List.length_map] at enough
      rw [scheduled]
      exact (priorities_attempted settings model first enough).trans begins

def servingRow (id : Int) (group : String) (priority : Int) : Channel where
  id := id
  keys := ["sk-a"]
  models := "gpt-4"
  group := group
  priority := some priority

def settingsOf (rows : List Channel) (retryTimes : Nat) : Settings where
  retryTimes := retryTimes
  autoGroups := ["a", "b"]
  usableGroups := ["a", "b", "auto"]
  memoryCache := none
  tables := { channels := rows, abilities := rows.flatMap channelAbilities }
  formatMatchingModelName := id
  order := insertionOrder
  shouldRetryByStatusCode := fun code => 500 ≤ code
  isAlwaysSkipRetryCode := fun _ => false

theorem server_error_retryable (rows : List Channel) (retryTimes : Nat) :
    Retryable (settingsOf rows retryTimes) { statusCode := 500 } := by
  intro left some_
  simp [shouldRetry, settingsOf, Int.not_le.mpr some_]

theorem one_group_followed :
    FollowsSchedule (settingsOf [servingRow 1 "b" 1, servingRow 2 "b" 0] 3)
      (fun _ => { statusCode := 500 }) (autoContext "default") "gpt-4" := by
  apply (auto_schedule_followed_iff _ _ "default" "gpt-4" (fun _ => server_error_retryable _ _)
    (by decide +kernel)).mpr
  decide +kernel

def documentedExample : Settings :=
  settingsOf [servingRow 1 "a" 1, servingRow 2 "a" 0, servingRow 3 "b" 1, servingRow 4 "b" 0] 3

theorem second_group_never_tried :
    ¬ ∀ (settings : Settings) (errors : Nat → ApiError) (userGroup model : String),
      (∀ made, Retryable settings (errors made)) →
      (settings.schedule model).length ≤ settings.retryTimes + 1 →
        FollowsSchedule settings errors (autoContext userGroup) model := by
  intro always
  obtain ⟨fuel, attempts, ended, begins⟩ := always documentedExample
    (fun _ => { statusCode := 500 }) "default" "gpt-4" (fun _ => server_error_retryable _ _)
    (by decide +kernel)
  have made : requestAttempts documentedExample (fun _ => { statusCode := 500 })
      (autoContext "default") "gpt-4" 5 = some [("a", 1), ("a", 0), ("a", 0), ("a", 0)] := by
    decide +kernel
  cases request_settled ended made
  exact absurd begins (by decide +kernel)

end NewApi.AutoGroupRetry
