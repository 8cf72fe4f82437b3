import NewApi.BatchUpdater

/-! The usage of a channel is counted in the database and in the memory cache.
With batches on, a call adds to the cache and records the amounts, and the flush
that writes them adds to the cache once more. Without that second addition the
cache would be what is stored and what is still pending. -/
namespace NewApi.ChannelUsage
open NewApi.GuardedRun NewApi.KeyedTable NewApi.BatchUpdater

/-! ## The server -/

structure Server where
  updater : Updater
  cached : List Channel

/-- `model/channel_cache.go::CacheAddChannelUsage`. -/
def cacheAddChannelUsage (id quota count : Int) (cached : List Channel) : List Channel :=
  update Channel.id cached id fun channel =>
    { channel with
      usedQuota := channel.usedQuota + quota
      usedCount := channel.usedCount + count }

/-- `model/channel.go::updateChannelUsage`; `failed` says that the write failed. -/
def updateChannelUsage (id quota count : Int) (failed : Bool) (server : Server) : Server :=
  if failed then server
  else
    { updater := server.updater.write (BatchUpdater.updateChannelUsage id quota count)
      cached := cacheAddChannelUsage id quota count server.cached }

/-- `model/channel.go::UpdateChannelUsage`; `failed` is about a write that is
made at once. -/
def updateUsage (batchUpdateEnabled : Bool) (id quota count : Int) (failed : Bool)
    (server : Server) : Server :=
  if batchUpdateEnabled then
    let recorded :=
      if quota ≠ 0 then addNewRecord .channelUsedQuota id quota server.updater else server.updater
    { updater := if count ≠ 0 then addNewRecord .channelRequestCount id count recorded else recorded
      cached := cacheAddChannelUsage id quota count server.cached }
  else updateChannelUsage id quota count failed server

/-- A step of the flusher. The channel entries that it writes pass through
`updateChannelUsage`, and so through the cache. -/
def flushTick (clock : Clock) (key : Int) (failed : Bool) (now : Int) (server : Server) : Server where
  updater := batchUpdate clock key failed now server.updater
  cached :=
    if failed then server.cached
    else match server.updater.entry key with
    | some (.channelUsedQuota, value) => cacheAddChannelUsage key value 0 server.cached
    | some (.channelRequestCount, value) => cacheAddChannelUsage key 0 value server.cached
    | _ => server.cached

inductive Event where
  | usage (id quota count : Int) (failed : Bool)
  | tick (key : Int) (failed : Bool) (now : Int)
  deriving DecidableEq, Repr

def step (clock : Clock) (batchUpdateEnabled : Bool) (server : Server) : Event → Server
  | .usage id quota count failed => updateUsage batchUpdateEnabled id quota count failed server
  | .tick key failed now => flushTick clock key failed now server

/-- `model/channel.go::IsRequestCountLimited`, with the limit of the channel. -/
def isRequestCountLimited (maxRequestCount : Int) (channel : Channel) : Bool :=
  maxRequestCount > 0 && channel.usedCount ≥ maxRequestCount

/-- `model/channel.go::IsRequestQuotaLimited`. -/
def isRequestQuotaLimited (maxRequestQuota : Int) (channel : Channel) : Bool :=
  maxRequestQuota > 0 && channel.usedQuota ≥ maxRequestQuota

/-! ## Counting once -/

def countOnce (batchUpdateEnabled : Bool) (counted : List Channel) : Event → List Channel
  | .usage id quota count failed =>
    if !batchUpdateEnabled && failed then counted else cacheAddChannelUsage id quota count counted
  | .tick .. => counted

/-- The cache is what is stored and what is pending, and what counting each
request once makes of it; so the limits are reached where that count does. -/
structure Counted (server : Server) (counted : List Channel) : Prop where
  accounted : server.cached = server.updater.tables.channels.map (settleChannel server.updater.pending)
  once : server.cached = counted
  limits : ∀ id maxRequestCount maxRequestQuota,
    (lookup Channel.id server.cached id).map (isRequestCountLimited maxRequestCount) =
        (lookup Channel.id counted id).map (isRequestCountLimited maxRequestCount) ∧
      (lookup Channel.id server.cached id).map (isRequestQuotaLimited maxRequestQuota) =
        (lookup Channel.id counted id).map (isRequestQuotaLimited maxRequestQuota)

def OfChannel (type : BatchUpdateType) : Prop :=
  type = .channelUsedQuota ∨ type = .channelRequestCount

instance (type : BatchUpdateType) : Decidable (OfChannel type) :=
  inferInstanceAs (Decidable (_ ∨ _))

def FlushesNoUsage (server : Server) : Event → Prop
  | .usage .. => True
  | .tick key _ _ => ∀ entry ∈ server.updater.entry key, OfChannel entry.1 →
      entry.2 = 0 ∨ ¬ ∃ channel ∈ server.updater.tables.channels, channel.id = key

instance (server : Server) : (event : Event) → Decidable (FlushesNoUsage server event)
  | .usage .. => isTrue trivial
  | .tick .. => inferInstanceAs (Decidable (∀ entry ∈ _, _))

/-! ## One step -/

section Steps
variable {server : Server} {counted cached : List Channel}
variable {type : BatchUpdateType}
variable {id quota count : Int} {failed : Bool}

theorem counted_iff : Counted server counted ↔
    server.cached = (settle server.updater.pending server.updater.tables).channels ∧
      server.cached = counted := by
  constructor
  · intro counts
    exact ⟨counts.accounted, counts.once⟩
  · rintro ⟨accounted, once⟩
    refine ⟨accounted, once, fun id maxCount maxQuota => ?_⟩
    rw [once]
    exact ⟨rfl, rfl⟩

theorem cache_add_eq :
    cacheAddChannelUsage id quota count tables.channels =
      (BatchUpdater.updateChannelUsage id quota count tables).channels := by
  unfold cacheAddChannelUsage BatchUpdater.updateChannelUsage update
  apply List.map_congr_left
  intro channel _
  by_cases uncounted : count = 0
  · subst uncounted
    simp
  · simp [uncounted]

theorem cache_add_entry (mine : OfChannel type) :
    (match some (type, value) with
      | some (.channelUsedQuota, value) => cacheAddChannelUsage key value 0 cached
      | some (.channelRequestCount, value) => cacheAddChannelUsage key 0 value cached
      | _ => cached) = update Channel.id cached key (addToChannel type value) := by
  rcases mine with rfl | rfl
  · simp only [cacheAddChannelUsage, add_zero]
    rfl
  · simp only [cacheAddChannelUsage, add_zero]
    rfl

theorem settle_recorded (updater : Updater) :
    let recorded := if value ≠ 0 then addNewRecord type id value updater else updater
    recorded.tables = updater.tables ∧
      settle recorded.pending updater.tables =
        addValue type id value (settle updater.pending updater.tables) := by
  by_cases zero : value = 0
  · subst zero
    exact ⟨rfl, add_value_zero.symm⟩
  · simp only [ne_eq, zero, not_false_eq_true, if_true]
    refine ⟨rfl, ?_⟩
    rw [record_pending]
    exact settle_bump

theorem usage_settled (updater : Updater) (batchUpdateEnabled : Bool) :
    let changed := (updateUsage batchUpdateEnabled id quota count failed
      { updater := updater, cached := cached }).updater
    settle changed.pending changed.tables =
      if !batchUpdateEnabled && failed then settle updater.pending updater.tables
      else BatchUpdater.updateChannelUsage id quota count
        (settle updater.pending updater.tables) := by
  cases batchUpdateEnabled with
  | false =>
    cases failed with
    | true => rfl
    | false =>
      simp only [updateUsage, updateChannelUsage, Bool.false_eq_true, if_false, Bool.not_false,
        Bool.true_and]
      rw [update_channel_usage_value]
      have written : settle updater.pending
          (BatchUpdater.updateChannelUsage id quota count updater.tables) =
          addValue .channelRequestCount id count
            (addValue .channelUsedQuota id quota (settle updater.pending updater.tables)) := by
        rw [update_channel_usage_value, settle_add_value, settle_add_value]
      exact written
  | true =>
    simp only [updateUsage, if_true, Bool.not_true, Bool.false_and, Bool.false_eq_true, if_false]
    have first := @settle_recorded .channelUsedQuota id quota updater
    rw [update_channel_usage_value]
    generalize recordedIs :
      (if quota ≠ 0 then addNewRecord .channelUsedQuota id quota updater else updater) = recorded
      at first ⊢
    have second := @settle_recorded .channelRequestCount id count recorded
    generalize countedIs :
      (if count ≠ 0 then addNewRecord .channelRequestCount id count recorded else recorded) = counted
      at second ⊢
    rw [second.1, second.2, first.1, first.2]

theorem usage_counted (batchUpdateEnabled : Bool) (counts : Counted server counted) :
    Counted (updateUsage batchUpdateEnabled id quota count failed server)
      (countOnce batchUpdateEnabled counted (.usage id quota count failed)) := by
  obtain ⟨updater, cached⟩ := server
  obtain ⟨accounted, once⟩ := counted_iff.mp counts
  dsimp only at accounted once
  subst once
  rw [counted_iff]
  have settled := @usage_settled cached id quota count failed updater batchUpdateEnabled
  dsimp only at settled
  rw [settled, countOnce]
  by_cases dropped : (!batchUpdateEnabled && failed) = true
  · rw [if_pos dropped, if_pos dropped]
    obtain ⟨direct, failing⟩ := Bool.and_eq_true_iff.mp dropped
    have direct : batchUpdateEnabled = false := by simpa using direct
    subst direct failing
    exact ⟨accounted, rfl⟩
  · rw [if_neg dropped, if_neg dropped, ← cache_add_eq, ← accounted]
    cases batchUpdateEnabled with
    | true => exact ⟨rfl, rfl⟩
    | false =>
      have made : failed = false := by simpa using dropped
      subst made
      exact ⟨rfl, rfl⟩

theorem apply_entry_channels (other : ¬ OfChannel type) :
    (applyEntry clock type key value now tables).channels = tables.channels := by
  cases type with
  | userQuota | usedQuota | requestCount => rfl
  | tokenQuota =>
    simp only [applyEntry, adjustTokenQuota]
    split
    · rfl
    · split <;> rfl
  | channelUsedQuota => exact absurd (.inl rfl) other
  | channelRequestCount => exact absurd (.inr rfl) other

theorem bump_channels (other : ¬ OfChannel type) :
    (settle (bump amounts type id value) tables).channels = (settle amounts tables).channels := by
  rw [settle_bump]
  have same : ∀ channel, addToChannel type value channel = channel := by
    intro channel
    cases type with
    | userQuota | usedQuota | requestCount | tokenQuota => rfl
    | channelUsedQuota => exact absurd (.inl rfl) other
    | channelRequestCount => exact absurd (.inr rfl) other
  exact update_same _ same

theorem apply_channel_entry (mine : OfChannel type) :
    applyEntry clock type key value now tables = addValue type key value tables := by
  apply apply_entry_value
  rintro rfl
  rcases mine with wrong | wrong <;> cases wrong

theorem add_value_channels_iff (mine : OfChannel type) (channels : List Channel) :
    update Channel.id channels key (addToChannel type value) = channels ↔
      value = 0 ∨ ¬ ∃ channel ∈ channels, channel.id = key :=
  rows_unchanged_iff (add_to_channel_eq_iff mine)

theorem tick_counted_iff (counts : Counted server counted) :
    Counted (flushTick clock key failed now server) counted ↔
      FlushesNoUsage server (.tick key failed now) := by
  obtain ⟨accounted, once⟩ := counted_iff.mp counts
  rw [counted_iff]
  obtain ⟨-, ⟨nothing, pending, tables⟩ | ⟨type, value, next, -, pending, tables⟩⟩ :=
    @tick_cases clock key failed now server.updater
  · have cached : (flushTick clock key failed now server).cached = server.cached := by
      simp only [flushTick, nothing, ite_self]
    rw [cached]
    simp only [flushTick, pending, tables]
    refine iff_of_true ⟨accounted, once⟩ fun entry next => ?_
    rw [nothing] at next
    cases next
  · have guard : FlushesNoUsage server (.tick key failed now) ↔
        (OfChannel type → value = 0 ∨ ¬ ∃ channel ∈ server.updater.tables.channels, channel.id = key) := by
      simp only [FlushesNoUsage, next, Option.mem_some_iff]
      constructor
      · exact fun silent => silent (type, value) rfl
      · rintro silent _ rfl
        exact silent
    have ids : (∃ channel ∈ server.updater.tables.channels, channel.id = key) ↔
        ∃ channel ∈ server.cached, channel.id = key := by
      rw [accounted]
      simp [settle, settleChannel]
    rw [guard, ids]
    simp only [flushTick, next, pending, tables]
    by_cases mine : OfChannel type
    · rw [imp_iff_right mine, cache_add_entry mine]
      cases failed with
      | true =>
        simp only [if_true]
        rw [settle_bump, ← neg_eq_zero, ← add_value_channels_iff mine server.cached]
        constructor
        · rintro ⟨lost, -⟩
          refine Eq.trans ?_ lost.symm
          rw [accounted]
          rfl
        · intro kept
          refine ⟨?_, once⟩
          refine Eq.trans kept.symm ?_
          rw [accounted]
          rfl
      | false =>
        simp only [Bool.false_eq_true, if_false]
        rw [apply_channel_entry mine, settle_bump, settle_add_value, add_value_back,
          ← accounted, ← once, and_self]
        exact add_value_channels_iff mine server.cached
    · have cached : (match some (type, value) with
          | some (.channelUsedQuota, value) => cacheAddChannelUsage key value 0 server.cached
          | some (.channelRequestCount, value) => cacheAddChannelUsage key 0 value server.cached
          | _ => server.cached) = server.cached := by
        cases type with
        | userQuota | usedQuota | requestCount | tokenQuota => rfl
        | channelUsedQuota => exact absurd (.inl rfl) mine
        | channelRequestCount => exact absurd (.inr rfl) mine
      rw [cached, ite_self, bump_channels mine]
      refine iff_of_true ⟨?_, once⟩ fun again => absurd again mine
      split
      · exact accounted
      · rw [accounted, settle, settle, apply_entry_channels mine]

end Steps

/-! ## Every run -/

/-- Over every run of calls and flushes from a cache that agrees with what is
stored and pending, the count is kept after every step exactly where no flush
takes an amount of a channel. -/
theorem usage_counted_iff (clock : Clock) (batchUpdateEnabled : Bool) (start : Server)
    (loaded : start.cached = start.updater.tables.channels.map (settleChannel start.updater.pending))
    (events : List Event) :
    (∀ done, done <+: events → Counted (run (step clock batchUpdateEnabled) start done)
        (run (countOnce batchUpdateEnabled) start.cached done)) ↔
      Guarded (step clock batchUpdateEnabled) FlushesNoUsage start events := by
  have sharp : ∀ server counted event, True → Counted server counted →
      (Counted (step clock batchUpdateEnabled server event)
        (countOnce batchUpdateEnabled counted event) ↔ FlushesNoUsage server event) := by
    intro server counted event _ counts
    cases event with
    | usage id quota count failed =>
      exact iff_of_true (usage_counted batchUpdateEnabled counts) trivial
    | tick key failed now => exact tick_counted_iff counts
  have initially : Counted start start.cached := counted_iff.mpr ⟨loaded, rfl⟩
  exact @always_related_iff_guarded _ _ (step clock batchUpdateEnabled) FlushesNoUsage _
    (countOnce batchUpdateEnabled) (fun _ _ => True) Counted (fun _ _ _ _ _ _ => trivial)
    sharp start start.cached events trivial initially

def loadedServer (tables : Tables) : Server where
  updater := started tables
  cached := tables.channels

def oneChannel : Tables where
  channels := [{ id := 1 }]

def countThenFlush (ticks : Nat) : List Event :=
  .usage 1 120 1 false :: List.replicate ticks (.tick 1 false 0)

theorem flushed_usage_counted_twice :
    ¬ ∀ (clock : Clock) (batchUpdateEnabled : Bool) (tables : Tables) (events done : List Event),
      done <+: events →
        Counted (run (step clock batchUpdateEnabled) (loadedServer tables) done)
          (run (countOnce batchUpdateEnabled) tables.channels done) := by
  intro always
  have counts := always noClock true oneChannel (countThenFlush 13) _ (List.prefix_refl _)
  have twice : (run (step noClock true) (loadedServer oneChannel) (countThenFlush 13)).cached ≠
      run (countOnce true) oneChannel.channels (countThenFlush 13) := by
    decide +kernel
  exact twice counts.once

theorem pending_usage_counted :
    Guarded (step noClock true) FlushesNoUsage (loadedServer oneChannel) (countThenFlush 12) ∧
      ∀ done, done <+: countThenFlush 12 →
        Counted (run (step noClock true) (loadedServer oneChannel) done)
          (run (countOnce true) (loadedServer oneChannel).cached done) := by
  have permitted : Guarded (step noClock true) FlushesNoUsage (loadedServer oneChannel)
      (countThenFlush 12) := by
    decide +kernel
  have exactly := usage_counted_iff noClock true (loadedServer oneChannel) (by decide +kernel)
    (countThenFlush 12)
  exact ⟨permitted, exactly.mpr permitted⟩

end NewApi.ChannelUsage
