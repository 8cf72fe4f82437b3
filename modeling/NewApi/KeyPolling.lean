import NewApi.ChannelCache
import NewApi.CyclicScan

/-! The key of a request to a channel that has many. A polling channel takes its
available keys in turn. Where the next turn begins is read from the cache or from
the row, and what comes after it is noted in the object that the caller holds. -/
namespace NewApi.KeyPolling
open NewApi.Channels NewApi.CyclicScan
open NewApi.ChannelCache (keepCursor)

/-! ## A call -/

inductive KeyError where
  | noKeysAvailable
  | noEnabledKeys
  | getChannelFailed
  deriving DecidableEq, Repr

/-- The objects of one channel by their addresses, the one that the cache holds,
and the row. -/
structure Server where
  memoryCacheEnabled : Bool
  objects : Nat → Channel
  cached : Option Nat
  row : Option Channel

/-- A call on an object, with what `rand.Intn` draws and whether the row is
saved. -/
structure Call where
  pointer : Nat
  draw : Nat := 0
  saved : Bool := true

abbrev Answer := Except KeyError (String × Nat)

def enabledIdx (channel : Channel) : List Nat :=
  (List.range channel.keys.length).filter fun index => channel.isSpecificKeyAvailable index

/-- `model/channel_cache.go::CacheGetChannelInfo`. -/
def cacheGetChannelInfo (server : Server) : Option ChannelInfo :=
  if !server.memoryCacheEnabled then server.row.map Channel.channelInfo
  else server.cached.map fun pointer => (server.objects pointer).channelInfo

def setPollingIndex (channel : Channel) (index : Int) : Channel :=
  { channel with channelInfo := { channel.channelInfo with multiKeyPollingIndex := index } }

def setChannelInfo (info : ChannelInfo) (row : Channel) : Channel := { row with channelInfo := info }

/-- `model/channel.go::SaveChannelInfo`. An error is dropped. -/
def saveChannelInfo (server : Server) (call : Call) : Server :=
  if server.memoryCacheEnabled || !call.saved then server
  else
    { server with
      row := server.row.map (setChannelInfo (server.objects call.pointer).channelInfo) }

def advance (server : Server) (call : Call) (next : Nat) : Server :=
  let moved := setPollingIndex (server.objects call.pointer) next
  saveChannelInfo { server with objects := Function.update server.objects call.pointer moved } call

def answer (channel : Channel) (index : Nat) : Answer :=
  .ok (channel.keys.getD index "", index)

def startFrom (size : Nat) (cursor : Int) : Nat :=
  if cursor < 0 ∨ cursor ≥ size then 0 else cursor.toNat

/-- `model/channel.go::GetNextEnabledKey`, of a channel with many keys. -/
def getNextEnabledKey (server : Server) (call : Call) : Answer × Server :=
  let channel := server.objects call.pointer
  let keys := channel.keys
  if keys = [] then (.error .noKeysAvailable, server)
  else
    let enabled := enabledIdx channel
    if enabled = [] then (.error .noEnabledKeys, server)
    else
      match channel.channelInfo.multiKeyMode with
      | .random => (answer channel (enabled.getD (call.draw % enabled.length) 0), server)
      | .polling =>
        match cacheGetChannelInfo server with
        | none => (.error .getChannelFailed, server)
        | some channelInfo =>
          let start := startFrom keys.length channelInfo.multiKeyPollingIndex
          match scan (fun index => channel.isSpecificKeyAvailable index) keys.length start with
          | some idx => (answer channel idx, advance server call ((idx + 1) % keys.length))
          | none => (answer channel (enabled.getD 0 0), saveChannelInfo server call)
      | .other => (answer channel (enabled.getD 0 0), server)

/-! ## What a call answers -/

def AnswersAvailable (channel : Channel) : Answer → Prop
  | .ok (key, index) =>
    channel.isSpecificKeyAvailable index = true ∧ channel.keys[index]? = some key
  | .error _ => ∀ index, channel.isSpecificKeyAvailable index = false

theorem available_within {channel : Channel}
    (available : channel.isSpecificKeyAvailable index = true) :
    0 ≤ index ∧ index < channel.keys.length := by
  unfold Channel.isSpecificKeyAvailable at available
  split at available
  · contradiction
  · omega

theorem mem_enabled {channel : Channel} :
    index ∈ enabledIdx channel ↔ channel.isSpecificKeyAvailable index = true := by
  refine ⟨fun member => (List.mem_filter.mp member).2, fun available => ?_⟩
  have within := available_within available
  exact List.mem_filter.mpr ⟨List.mem_range.mpr (by omega), available⟩

theorem none_enabled_iff {channel : Channel} :
    enabledIdx channel = [] ↔ ∀ index, channel.isSpecificKeyAvailable index = false := by
  refine ⟨fun none_ index => ?_, fun none_ => ?_⟩
  · by_contra available
    rw [Bool.not_eq_false] at available
    have within := available_within available
    have member : index.toNat ∈ enabledIdx channel := by
      rw [mem_enabled, Int.toNat_of_nonneg within.1]
      exact available
    rw [none_] at member
    exact absurd member List.not_mem_nil
  · exact List.eq_nil_iff_forall_not_mem.mpr fun index member => by
      rw [mem_enabled, none_] at member
      contradiction

theorem answers_enabled {channel : Channel} (enabled : index ∈ enabledIdx channel) :
    AnswersAvailable channel (answer channel index) := by
  have available := mem_enabled.mp enabled
  have within := available_within available
  refine ⟨available, ?_⟩
  rw [List.getD_eq_getElem?_getD, List.getElem?_eq_getElem (by omega), Option.getD_some]

theorem getD_mem {enabled : List Nat} (within : place < enabled.length) :
    enabled.getD place 0 ∈ enabled := by
  rw [List.getD_eq_getElem?_getD, List.getElem?_eq_getElem within, Option.getD_some]
  exact List.getElem_mem within

theorem answers_available_iff (server : Server) (call : Call) :
    AnswersAvailable (server.objects call.pointer) (getNextEnabledKey server call).1 ↔
      ((server.objects call.pointer).channelInfo.multiKeyMode = .polling →
        enabledIdx (server.objects call.pointer) ≠ [] → cacheGetChannelInfo server ≠ none) := by
  unfold getNextEnabledKey
  generalize server.objects call.pointer = channel
  dsimp only
  by_cases empty : channel.keys = []
  · have none_ : enabledIdx channel = [] := by simp [enabledIdx, empty]
    simp only [empty, if_true, none_, ne_eq, not_true_eq_false, false_implies, implies_true, iff_true]
    exact none_enabled_iff.mp none_
  rw [if_neg empty]
  by_cases none_ : enabledIdx channel = []
  · simp only [none_, if_true, ne_eq, not_true_eq_false, false_implies, implies_true, iff_true]
    exact none_enabled_iff.mp none_
  rw [if_neg none_]
  have first : 0 < (enabledIdx channel).length := List.length_pos_of_ne_nil none_
  cases mode : channel.channelInfo.multiKeyMode with
  | random =>
    simp only [reduceCtorEq, false_implies, iff_true]
    exact answers_enabled (getD_mem (Nat.mod_lt _ first))
  | other =>
    simp only [reduceCtorEq, false_implies, iff_true]
    exact answers_enabled (getD_mem first)
  | polling =>
    cases found : cacheGetChannelInfo server with
    | none =>
      simp only [AnswersAvailable, ← none_enabled_iff, none_, ne_eq, not_false_eq_true,
        not_true_eq_false, true_implies]
    | some info =>
      simp only [ne_eq, reduceCtorEq, not_false_eq_true, implies_true, iff_true]
      split
      · rename_i idx found
        refine answers_enabled (mem_enabled.mpr ?_)
        exact List.find?_some (p := fun index : Nat => channel.isSpecificKeyAvailable index) found
      · exact answers_enabled (getD_mem first)

/-! ## Turns -/

/-- What happens to the channel: a call, or the cache is filled again with an
object at an address. -/
inductive Event where
  | call (call : Call)
  | refresh (pointer : Nat)

/-- `model/channel_cache.go::InitChannelCache`, of this channel. -/
def refresh (server : Server) (pointer : Nat) : Server :=
  if !server.memoryCacheEnabled then server
  else
    match server.row with
    | none => { server with cached := none }
    | some row =>
      { server with
        objects := Function.update server.objects pointer
          (keepCursor (fun _ => server.cached.map server.objects) row)
        cached := some pointer }

def after (server : Server) : List Event → Server
  | [] => server
  | .call call :: events => after (getNextEnabledKey server call).2 events
  | .refresh pointer :: events => after (refresh server pointer) events

def answers (server : Server) : List Event → List Answer
  | [] => []
  | .call call :: events =>
    (getNextEnabledKey server call).1 :: answers (getNextEnabledKey server call).2 events
  | .refresh pointer :: events => answers (refresh server pointer) events

def Event.isCall : Event → Bool
  | .call _ => true
  | .refresh _ => false

def Current (server : Server) : Event → Prop
  | .call call =>
    if server.memoryCacheEnabled then server.cached = some call.pointer
    else server.row.isSome = true ∧ call.saved = true
  | .refresh _ =>
    server.memoryCacheEnabled = true → server.row.isSome = true ∧ server.cached.isSome = true

def AllCurrent (server : Server) : List Event → Prop
  | [] => True
  | .call call :: events =>
    Current server (.call call) ∧ AllCurrent (getNextEnabledKey server call).2 events
  | .refresh pointer :: events =>
    Current server (.refresh pointer) ∧ AllCurrent (refresh server pointer) events

structure Polling (keys : List String) (enabled : List Nat) (channel : Channel) : Prop where
  multi : channel.channelInfo.isMultiKey = true
  mode : channel.channelInfo.multiKeyMode = .polling
  keys : channel.keys = keys
  enabled : enabledIdx channel = enabled

structure Steady (server : Server) (keys : List String) (enabled : List Nat) : Prop where
  objects : ∀ pointer, Polling keys enabled (server.objects pointer)
  row : ∀ row, server.row = some row → Polling keys enabled row

def order (server : Server) (keys : List String) (enabled : List Nat) : List Nat :=
  let cursor := ((cacheGetChannelInfo server).map ChannelInfo.multiKeyPollingIndex).getD 0
  turns (fun index => index ∈ enabled) keys.length (startFrom keys.length cursor)

variable {server : Server} {keys : List String} {enabled : List Nat} {channel : Channel}

theorem polling_set_index (polling : Polling keys enabled channel) (next : Int) :
    Polling keys enabled (setPollingIndex channel next) :=
  ⟨polling.multi, polling.mode, polling.keys, polling.enabled⟩

theorem enabled_congr (keys : one.keys = other.keys)
    (info : one.channelInfo = other.channelInfo) : enabledIdx one = enabledIdx other := by
  have same : ∀ index : Nat,
      one.isSpecificKeyAvailable index = other.isSpecificKeyAvailable index := by
    intro index
    unfold Channel.isSpecificKeyAvailable Channel.getMultiKeyStatus
    rw [keys, info]
  rw [enabledIdx, enabledIdx, keys]
  exact List.filter_congr fun index _ => same index

theorem polling_set_info {row : Channel} (polling : Polling keys enabled channel)
    (stored : Polling keys enabled row) :
    Polling keys enabled (setChannelInfo channel.channelInfo row) := by
  refine ⟨polling.multi, polling.mode, stored.keys, ?_⟩
  rw [← polling.enabled]
  exact enabled_congr (stored.keys.trans polling.keys.symm) rfl

theorem start_from_next (within : next < size) : startFrom size next = next := by
  unfold startFrom
  rw [if_neg (by omega)]
  rfl

theorem order_perm (steady : Steady server keys enabled) : (order server keys enabled).Perm enabled := by
  have polling := steady.objects 0
  refine (turns_perm _ _ _).trans (.of_eq ?_)
  calc (List.range keys.length).filter (fun index => decide (index ∈ enabled))
      = enabledIdx (server.objects 0) := by
        rw [enabledIdx, polling.keys]
        refine List.filter_congr fun index _ => ?_
        rw [← polling.enabled, Bool.eq_iff_iff, decide_eq_true_eq, mem_enabled]
    _ = enabled := polling.enabled

theorem scan_order (polling : Polling keys enabled channel) (start : Nat) :
    scan (fun index => channel.isSpecificKeyAvailable index) keys.length start =
      (turns (fun index => decide (index ∈ enabled)) keys.length start).head? := by
  rw [scan_eq_head]
  congr 1
  refine turns_congr fun index _ => ?_
  rw [← polling.enabled, Bool.eq_iff_iff, decide_eq_true_eq, mem_enabled]

theorem current_cases (current : Current server (.call call)) :
    (server.memoryCacheEnabled = true ∧ server.cached = some call.pointer) ∨
      (server.memoryCacheEnabled = false ∧ (∃ row, server.row = some row) ∧ call.saved = true) := by
  cases memory : server.memoryCacheEnabled with
  | true => exact .inl ⟨rfl, by simpa [Current, memory] using current⟩
  | false => exact .inr ⟨rfl, by simpa [Current, memory, Option.isSome_iff_exists] using current⟩

theorem current_call_taken
    (steady : Steady server keys enabled) (current : Current server (.call call))
    (turn : order server keys enabled = index :: rest) :
    getNextEnabledKey server call =
      (.ok (keys.getD index "", index), advance server call ((index + 1) % keys.length)) := by
  have polling := steady.objects call.pointer
  have member : index ∈ enabled := by
    rw [← (order_perm steady).mem_iff, turn]
    exact List.mem_cons_self
  have some_ : enabledIdx (server.objects call.pointer) ≠ [] := by
    rw [polling.enabled]
    exact List.ne_nil_of_mem member
  have filled : keys ≠ [] := by
    intro empty
    exact some_ (by simp [enabledIdx, polling.keys, empty])
  obtain ⟨info, found⟩ : ∃ info, cacheGetChannelInfo server = some info := by
    rcases current_cases current with ⟨memory, cached⟩ | ⟨memory, ⟨row, isRow⟩, -⟩
    · exact ⟨(server.objects call.pointer).channelInfo, by simp [cacheGetChannelInfo, memory, cached]⟩
    · exact ⟨row.channelInfo, by simp [cacheGetChannelInfo, memory, isRow]⟩
  have first : scan (fun index => (server.objects call.pointer).isSpecificKeyAvailable index)
      keys.length (startFrom keys.length info.multiKeyPollingIndex) = some index := by
    rw [scan_order polling]
    unfold order at turn
    rw [found] at turn
    exact congrArg List.head? turn
  unfold getNextEnabledKey
  simp only [filled, some_, polling.mode, found, polling.keys, first, answer, if_false]

theorem polling_updated {objects : Nat → Channel} {pointer : Nat}
    (polling : ∀ pointer, Polling keys enabled (objects pointer))
    (moved : Polling keys enabled channel) (other : Nat) :
    Polling keys enabled (Function.update objects pointer channel other) := by
  by_cases same : other = pointer
  · rw [same, Function.update_self]
    exact moved
  · rw [Function.update_of_ne same]
    exact polling other

theorem advance_steady {call : Call} (steady : Steady server keys enabled) (next : Nat) :
    Steady (advance server call next) keys enabled := by
  have objects := @polling_updated _ _ _ _ call.pointer steady.objects
    (polling_set_index (steady.objects call.pointer) next)
  unfold advance saveChannelInfo
  dsimp only
  split
  · exact ⟨objects, steady.row⟩
  · refine ⟨objects, fun row stored => ?_⟩
    obtain ⟨before, found, rfl⟩ := Option.map_eq_some_iff.mp stored
    exact polling_set_info (objects _) (steady.row before found)

theorem advance_cursor (current : Current server (.call call)) (next : Nat) :
    (cacheGetChannelInfo (advance server call next)).map ChannelInfo.multiKeyPollingIndex =
      some (next : Int) := by
  unfold advance saveChannelInfo cacheGetChannelInfo
  rcases current_cases current with ⟨memory, cached⟩ | ⟨memory, ⟨row, isRow⟩, saved⟩
  · simp [memory, cached, setPollingIndex]
  · simp [memory, saved, isRow, setChannelInfo, setPollingIndex]

theorem call_takes_turn
    (steady : Steady server keys enabled) (current : Current server (.call call))
    (turn : order server keys enabled = index :: rest) :
    (getNextEnabledKey server call).1 = .ok (keys.getD index "", index) ∧
      Steady (getNextEnabledKey server call).2 keys enabled ∧
      order (getNextEnabledKey server call).2 keys enabled = rest ++ [index] := by
  rw [current_call_taken steady current turn]
  refine ⟨rfl, advance_steady steady _, ?_⟩
  have filled : 0 < keys.length := by
    by_contra empty
    unfold order turns ring at turn
    rw [Nat.eq_zero_of_not_pos empty] at turn
    exact List.cons_ne_nil _ _ turn.symm
  rw [order, advance_cursor current, Option.getD_some, start_from_next (Nat.mod_lt _ filled)]
  exact turns_next turn

theorem refresh_keeps_order (steady : Steady server keys enabled)
    (current : Current server (.refresh pointer)) :
    Steady (refresh server pointer) keys enabled ∧
      order (refresh server pointer) keys enabled = order server keys enabled := by
  unfold refresh
  cases memory : server.memoryCacheEnabled with
  | false => exact ⟨steady, rfl⟩
  | true =>
    obtain ⟨hasRow, hasCached⟩ := current memory
    obtain ⟨row, isRow⟩ := Option.isSome_iff_exists.mp hasRow
    obtain ⟨old, isCached⟩ := Option.isSome_iff_exists.mp hasCached
    have stored := steady.row row isRow
    have kept : keepCursor (fun _ => server.cached.map server.objects) row =
        setPollingIndex row (server.objects old).channelInfo.multiKeyPollingIndex := by
      simp only [keepCursor, stored.multi, stored.mode, isCached, Option.map_some,
        (steady.objects old).multi, (steady.objects old).mode, and_self, if_true, setPollingIndex]
    simp only [isRow, Bool.not_true, Bool.false_eq_true, if_false, kept]
    refine ⟨⟨polling_updated steady.objects (polling_set_index stored _), fun row' same => ?_⟩, ?_⟩
    · rw [← Option.some.inj same]
      exact stored
    · simp [order, cacheGetChannelInfo, memory, isCached, setPollingIndex]

theorem run_takes_turns
    (steady : Steady server keys enabled) (current : AllCurrent server events)
    (due : order server keys enabled = taken ++ rest)
    (calls : (events.filter Event.isCall).length = taken.length) :
    answers server events = taken.map (fun index => .ok (keys.getD index "", index)) ∧
      order (after server events) keys enabled = rest ++ taken := by
  induction events generalizing server taken rest with
  | nil =>
    obtain rfl := List.eq_nil_of_length_eq_zero calls.symm
    exact ⟨rfl, by rw [after, due, List.append_nil, List.nil_append]⟩
  | cons event events ih =>
    cases event with
    | refresh pointer =>
      obtain ⟨kept, same⟩ := refresh_keeps_order steady current.1
      exact ih kept current.2 (same.trans due) calls
    | call call =>
      cases taken with
      | nil => simp [Event.isCall] at calls
      | cons index taken =>
        rw [List.cons_append] at due
        obtain ⟨answered, kept, next⟩ := call_takes_turn steady current.1 due
        have due' : order (getNextEnabledKey server call).2 keys enabled =
            taken ++ (rest ++ [index]) := by
          rw [next, List.append_assoc]
        have calls' : (events.filter Event.isCall).length = taken.length := by
          rw [List.filter_cons_of_pos rfl] at calls
          exact Nat.succ_injective calls
        obtain ⟨answers', order'⟩ := ih kept current.2 due' calls'
        refine ⟨?_, ?_⟩
        · rw [answers, answered, answers', List.map_cons]
        · rw [after, order', List.append_assoc, List.singleton_append]

/-- A call answers an available key or that there is none, where a polling channel
is found again; and while the available keys stay the same, as many current calls
as there are take each of them once. -/
theorem keys_take_turns (server : Server) (keys : List String) (enabled : List Nat) (events : List Event) :
    (∀ call, AnswersAvailable (server.objects call.pointer) (getNextEnabledKey server call).1 ↔
      ((server.objects call.pointer).channelInfo.multiKeyMode = .polling →
        enabledIdx (server.objects call.pointer) ≠ [] → cacheGetChannelInfo server ≠ none)) ∧
    (Steady server keys enabled → AllCurrent server events →
      (events.filter Event.isCall).length = enabled.length →
      (answers server events).Perm (enabled.map fun index => .ok (keys.getD index "", index))) := by
  refine ⟨fun call => answers_available_iff server call, fun steady current calls => ?_⟩
  have turns_ := order_perm steady
  have taken := run_takes_turns steady current (List.append_nil _).symm (calls.trans turns_.length_eq.symm)
  rw [taken.1]
  exact turns_.map _

section Twins
def twoKeys : Channel where
  id := 1
  keys := ["a", "b"]
  channelInfo := { isMultiKey := true, multiKeySize := 2, multiKeyMode := .polling }

def twins : Server where
  memoryCacheEnabled := true
  objects _ := twoKeys
  cached := some 0
  row := some twoKeys

theorem two_keys_polling : Polling ["a", "b"] [0, 1] twoKeys := ⟨rfl, rfl, rfl, by decide⟩

theorem twins_steady : Steady twins ["a", "b"] [0, 1] :=
  ⟨fun _ => two_keys_polling, fun _ same => Option.some.inj same ▸ two_keys_polling⟩

theorem cached_twin_takes_turns :
    (answers twins [.call { pointer := 0 }, .refresh 2, .call { pointer := 2 }]).Perm
      [.ok ("a", 0), .ok ("b", 1)] :=
  (keys_take_turns twins ["a", "b"] [0, 1]
    [.call { pointer := 0 }, .refresh 2, .call { pointer := 2 }]).2 twins_steady
    ⟨rfl, fun _ => ⟨rfl, rfl⟩, rfl, trivial⟩ rfl

/-- The object that was read from the row takes the first key for ever. Where the
channel is not in the cache, a caller with two keys is told that it failed. -/
theorem read_twin_repeats :
    answers twins [.call { pointer := 1 }, .call { pointer := 1 }] = [.ok ("a", 0), .ok ("a", 0)] ∧
      answers { twins with cached := none } [.call { pointer := 1 }] = [.error .getChannelFailed] ∧
      ¬ ∀ server keys enabled events, Steady server keys enabled →
        (events.filter Event.isCall).length = enabled.length →
        (answers server events).Perm (enabled.map fun index => .ok (keys.getD index "", index)) := by
  have repeats : answers twins [.call { pointer := 1 }, .call { pointer := 1 }] =
      [.ok ("a", 0), .ok ("a", 0)] := by rfl
  refine ⟨repeats, by rfl, fun always => ?_⟩
  have perm := always twins ["a", "b"] [0, 1] [.call { pointer := 1 }, .call { pointer := 1 }]
    twins_steady rfl
  rw [repeats] at perm
  exact absurd perm (by decide)

end Twins

end NewApi.KeyPolling
