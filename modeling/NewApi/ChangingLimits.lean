import NewApi.ModelRateLimit

/-! One key of the limiter in memory, asked with a limit and a duration that may
be others at each call. A full queue gives up its oldest time, whatever the limit
is by then, and what the queue has given up or the sweep has cleared is not
counted any more. -/
namespace NewApi.ChangingLimits
open NewApi.SlidingWindow
open NewApi.ModelRateLimit (inMemoryRequest clearExpiredItems)

/-! ## The key -/

/-- The queue of a key. `forgotten` are the accepted times that the queue does not
hold any more, the oldest first. -/
structure Key where
  queue : Option (List Int) := none
  forgotten : List Int := []
  deriving DecidableEq, Repr

def Key.held (key : Key) : List Int := key.queue.getD []

def Key.accepted (key : Key) : List Int := key.forgotten ++ key.held

def Key.holding (accepted : List Int) (queue : Option (List Int)) : Key where
  queue := queue
  forgotten := accepted.take (accepted.length - (queue.getD []).length)

inductive Event where
  | request (maxRequestNum duration now : Int)
  | sweep (now : Int)
  deriving DecidableEq, Repr

def Event.time : Event → Int
  | .request _ _ now => now
  | .sweep now => now

/-- `common/rate-limit.go::InMemoryRateLimiter.Request`, and whether it accepts. A
new queue of a negative size is refused by the runtime. -/
def request (maxRequestNum duration now : Int) (key : Key) : Key × Bool :=
  if key.queue = none ∧ maxRequestNum < 0 then (key, false)
  else
    let answer := inMemoryRequest key.queue maxRequestNum.toNat duration now
    (Key.holding (if answer.2 then key.accepted ++ [now] else key.accepted) answer.1, answer.2)

/-- The key after an event; `expiration` is the one the limiter was initialised
with. -/
def step (expiration : Int) (key : Key) : Event → Key
  | .request maxRequestNum duration now => (request maxRequestNum duration now key).1
  | .sweep now => Key.holding key.accepted (clearExpiredItems expiration now key.queue)

def met (expiration : Int) : Key → List Event → List (Key × Event)
  | _, [] => []
  | key, event :: events => (key, event) :: met expiration (step expiration key event) events

/-! ## The limit -/

/-- The accepted calls of the last `duration` seconds. -/
def acceptedWithin (duration now : Int) (accepted : List Int) : Nat :=
  accepted.countP fun time => now - duration < time ∧ time ≤ now

def Bounded (key : Key) : Event → Prop
  | .request maxRequestNum duration now => (request maxRequestNum duration now key).2 = true →
    acceptedWithin duration now (request maxRequestNum duration now key).1.accepted ≤ maxRequestNum
  | .sweep _ => True

instance (key : Key) : (event : Event) → Decidable (Bounded key event)
  | .request _ _ _ => inferInstanceAs (Decidable (_ → _))
  | .sweep _ => inferInstanceAs (Decidable True)

def overruns (expiration : Int) (events : List Event) : List Event :=
  ((met expiration {} events).filter fun pair => ¬ Bounded pair.1 pair.2).map Prod.snd

/-- What the limiter does not look at. A limit is none without room for the call
itself; a queue that is shorter than the limit has forgotten no time that still
counts; a queue that is not shorter has its last times, as many as the limit, for
the duration at least. -/
structure Fits (key : Key) (maxRequestNum duration now : Int) : Prop where
  room : if 0 < duration then 1 ≤ maxRequestNum else 0 ≤ maxRequestNum
  forgotten : key.held.length < maxRequestNum.toNat → ∀ time,
    newest (maxRequestNum.toNat - 1 - key.held.length) key.forgotten = some time → duration ≤ now - time
  held : maxRequestNum.toNat ≤ key.held.length → ∀ time,
    newest (maxRequestNum.toNat - 1) key.held = some time → duration ≤ now - time

def AcceptedFits (key : Key) : Event → Prop
  | .request maxRequestNum duration now => (request maxRequestNum duration now key).2 = true →
    Fits key maxRequestNum duration now
  | .sweep _ => True

/-! ## What a key keeps -/

/-- The accepted times are in order and not later than now; a queue in the store
has a time. -/
structure Tracked (now : Int) (key : Key) : Prop where
  sorted : key.accepted.Pairwise (· ≤ ·)
  reached : ∀ time ∈ key.accepted, time ≤ now
  filled : key.queue ≠ some []

section Keys
variable {now : Int}

theorem holding_accepted (suffix : held.getD [] <:+ accepted) :
    (Key.holding accepted held).accepted = accepted := by
  obtain ⟨dropped, rfl⟩ := suffix
  simp [Key.holding, Key.accepted, Key.held]

theorem held_suffix (key : Key) : key.held <:+ key.accepted := List.suffix_append _ _

theorem request_suffix (maxRequestNum : Nat) (duration now : Int) (key : Key)
    (filled : key.queue ≠ some []) :
    let answer := inMemoryRequest key.queue maxRequestNum duration now
    (answer.1.getD [] <:+ if answer.2 then key.accepted ++ [now] else key.accepted) ∧
      answer.1 ≠ some [] := by
  have suffix := held_suffix key
  unfold Key.held at suffix
  cases queue : key.queue with
  | none => exact ⟨List.suffix_append _ _, by simp [inMemoryRequest]⟩
  | some held =>
    rw [queue, Option.getD_some] at suffix
    obtain ⟨dropped, whole⟩ := suffix
    unfold inMemoryRequest
    dsimp only
    split
    · exact ⟨⟨dropped, by rw [← whole]; simp⟩, by simp⟩
    · cases held with
      | nil => exact absurd queue filled
      | cons oldest rest =>
        dsimp only
        split
        · exact ⟨⟨dropped ++ [oldest], by rw [← whole]; simp⟩, by simp⟩
        · exact ⟨⟨dropped, whole⟩, by simp⟩

theorem request_accepted (maxRequestNum duration now : Int) (key : Key) (filled : key.queue ≠ some []) :
    (request maxRequestNum duration now key).1.accepted =
      if (request maxRequestNum duration now key).2 then key.accepted ++ [now]
      else key.accepted := by
  unfold request
  split
  · rfl
  · exact holding_accepted (request_suffix _ duration now key filled).1

theorem sweep_accepted (expiration now : Int) (key : Key) :
    (step expiration key (.sweep now)).accepted = key.accepted := by
  refine holding_accepted ?_
  have suffix := held_suffix key
  unfold Key.held at suffix
  unfold clearExpiredItems
  cases queue : key.queue with
  | none => exact List.nil_suffix
  | some held =>
    rw [queue] at suffix
    rw [Option.bind_some]
    split
    · exact List.nil_suffix
    · split
      · exact List.nil_suffix
      · exact suffix

theorem tracked_later (tracked : Tracked now key) (passed : now ≤ later) : Tracked later key :=
  ⟨tracked.sorted, fun time member => Int.le_trans (tracked.reached time member) passed, tracked.filled⟩

theorem tracked_accepts (tracked : Tracked now key) :
    (key.accepted ++ [now]).Pairwise (· ≤ ·) ∧ ∀ time ∈ key.accepted ++ [now], time ≤ now := by
  refine ⟨List.pairwise_append.mpr ⟨tracked.sorted, List.pairwise_singleton .., ?_⟩, fun time member => ?_⟩
  · intro time member last isLast
    rw [List.mem_singleton.mp isLast]
    exact tracked.reached time member
  · rcases List.mem_append.mp member with earlier | last
    · exact tracked.reached time earlier
    · exact Int.le_of_eq (List.mem_singleton.mp last)

theorem step_tracked (expiration : Int) (event : Event) (tracked : Tracked event.time key) :
    Tracked event.time (step expiration key event) := by
  cases event with
  | request maxRequestNum duration now =>
    have accepted := request_accepted maxRequestNum duration now key tracked.filled
    have filled : (step expiration key (.request maxRequestNum duration now)).queue ≠ some [] := by
      unfold step request
      dsimp only
      split
      · exact tracked.filled
      · exact (request_suffix _ duration now key tracked.filled).2
    change (step expiration key (.request maxRequestNum duration now)).accepted = _ at accepted
    split at accepted
    · obtain ⟨sorted, reached⟩ := tracked_accepts tracked
      exact ⟨accepted ▸ sorted, accepted ▸ reached, filled⟩
    · exact ⟨accepted ▸ tracked.sorted, accepted ▸ tracked.reached, filled⟩
  | sweep now =>
    have accepted := sweep_accepted expiration now key
    refine ⟨accepted ▸ tracked.sorted, accepted ▸ tracked.reached, ?_⟩
    unfold step clearExpiredItems
    dsimp only [Key.holding]
    cases queue : key.queue with
    | none => simp
    | some held =>
      rw [Option.bind_some]
      split
      · simp
      · split
        · simp
        · exact queue ▸ tracked.filled

/-! ## The calls of a window -/

def callLive (duration now time : Int) : Bool := now - time < duration

theorem call_window (duration : Int) : Window (callLive duration) := by
  constructor
  · intro now later time passed alive
    simp only [callLive, decide_eq_true_eq] at alive ⊢
    omega
  · intro now time other newer alive
    simp only [callLive, decide_eq_true_eq] at alive ⊢
    omega

theorem dead_iff (duration now time : Int) :
    callLive duration now time = false ↔ duration ≤ now - time := by
  simp [callLive]

theorem within_eq (duration : Int) (reached : ∀ time ∈ accepted, time ≤ now) :
    acceptedWithin duration now accepted = count (callLive duration) now accepted := by
  refine List.countP_congr fun time member => ?_
  have passed := reached time member
  simp only [callLive, decide_eq_true_eq]
  omega

theorem within_le_iff (long : 0 < duration) (tracked : Tracked now key) :
    (acceptedWithin duration now (key.accepted ++ [now]) : Int) ≤ maxRequestNum ↔
      1 ≤ maxRequestNum ∧ ∀ time,
        newest (maxRequestNum.toNat - 1) key.accepted = some time → duration ≤ now - time := by
  have whole : acceptedWithin duration now (key.accepted ++ [now]) =
      count (callLive duration) now key.accepted + 1 := by
    rw [within_eq duration (tracked_accepts tracked).2, count, List.countP_append, count]
    simp [callLive, long]
  have few : count (callLive duration) now key.accepted ≤ maxRequestNum.toNat - 1 ↔ _ :=
    count_le_iff (call_window duration) tracked.sorted (maxRequestNum.toNat - 1)
  simp only [dead_iff] at few
  rw [whole, ← few]
  omega

theorem within_empty (short : duration ≤ 0) (tracked : Tracked now key) :
    acceptedWithin duration now (key.accepted ++ [now]) = 0 := by
  refine List.countP_eq_zero.mpr fun time member => ?_
  have passed := (tracked_accepts tracked).2 time member
  simp only [decide_eq_true_eq, not_and]
  omega

theorem fits_iff (tracked : Tracked now key) :
    Fits key maxRequestNum duration now ↔
      (acceptedWithin duration now (key.accepted ++ [now]) : Int) ≤ maxRequestNum := by
  by_cases long : 0 < duration
  · rw [within_le_iff long tracked, Key.accepted, newest_append]
    constructor
    · rintro ⟨room, forgotten, held⟩
      rw [if_pos long] at room
      refine ⟨room, fun time found => ?_⟩
      split at found
      · exact held (by omega) time found
      · exact forgotten (by omega) time found
    · rintro ⟨room, old⟩
      refine ⟨by rwa [if_pos long], fun short time found => ?_, fun full time found => ?_⟩
      · refine old time ?_
        rw [if_neg (by omega)]
        exact found
      · refine old time ?_
        rw [if_pos (by omega)]
        exact found
  · have old : ∀ time ∈ key.accepted, duration ≤ now - time := by
      intro time member
      have passed := tracked.reached time member
      omega
    rw [within_empty (by omega) tracked]
    constructor
    · rintro ⟨room, -, -⟩
      rw [if_neg long] at room
      exact room
    · intro room
      refine ⟨by rw [if_neg long]; exact room, fun _ time found => ?_, fun _ time found => ?_⟩
      · exact old time (List.mem_append_left _ (newest_mem found))
      · exact old time (List.mem_append_right _ (newest_mem found))

theorem step_bounded_iff (event : Event) (tracked : Tracked event.time key) :
    Bounded key event ↔ AcceptedFits key event := by
  cases event with
  | request maxRequestNum duration now =>
    refine forall_congr' fun accepts => ?_
    rw [request_accepted _ _ _ _ tracked.filled, if_pos accepts]
    exact (fits_iff tracked).symm
  | sweep now => exact Iff.rfl

end Keys

/-! ## Runs -/

theorem met_tracked
    (timely : (events.map Event.time).Pairwise (· ≤ ·))
    (tracked : ∀ event ∈ events, Tracked event.time key) :
    ∀ pair ∈ met expiration key events, Tracked pair.2.time pair.1 := by
  induction events generalizing key with
  | nil => simp [met]
  | cons event events ih =>
    obtain ⟨later, timely⟩ := List.pairwise_cons.mp timely
    have first := tracked event List.mem_cons_self
    intro pair member
    rcases List.mem_cons.mp member with rfl | inside
    · exact first
    · refine ih timely (fun next isNext => ?_) pair inside
      exact tracked_later (step_tracked expiration event first)
        (later next.time (List.mem_map_of_mem isNext))

theorem empty_tracked (now : Int) : Tracked now {} :=
  ⟨.nil, by simp [Key.accepted, Key.held], by simp⟩

/-- In a run whose times do not go back, with any limits and durations and with the
sweep at any moment, an accepted call is one of at most as many as its limit if and
only if the limit has room for it, what the queue has forgotten does not count for
it, and of a queue that is not shorter than the limit the last times do not all
count. -/
theorem accepted_bounded_iff (expiration : Int) {events : List Event}
    (timely : (events.map Event.time).Pairwise (· ≤ ·)) :
    ∀ pair ∈ met expiration {} events, Bounded pair.1 pair.2 ↔ AcceptedFits pair.1 pair.2 := by
  intro pair member
  exact step_bounded_iff pair.2 (met_tracked timely (fun event _ => empty_tracked event.time) pair member)

theorem same_limit_bounded :
    [Event.request 2 60 0, .request 2 60 0, .request 2 60 61].Pairwise
        (fun earlier later => earlier.time ≤ later.time) ∧
      ∀ pair ∈ met 600 {} [.request 2 60 0, .request 2 60 0, .request 2 60 61],
        Bounded pair.1 pair.2 ↔ AcceptedFits pair.1 pair.2 :=
  ⟨by decide, accepted_bounded_iff 600 (by decide)⟩

/-- A limit that falls from 3 to 1 takes a call although two of half a minute ago
count; a duration that grows misses a time that was given up; the sweep clears what a
longer duration still counts; and a limit of 0 takes the first call. -/
theorem lower_limit_overrun :
    overruns 600 [.request 3 60 0, .request 3 60 30, .request 3 60 30, .request 1 60 60] =
        [.request 1 60 60] ∧
      overruns 600 [.request 1 10 0, .request 1 10 10, .request 2 60 20] = [.request 2 60 20] ∧
      overruns 10 [.request 1 60 0, .sweep 11, .request 1 60 20] = [.request 1 60 20] ∧
      overruns 600 [.request 0 60 0] = [.request 0 60 0] ∧
      ¬ ∀ expiration events, (events.map Event.time).Pairwise (· ≤ ·) →
        ∀ pair ∈ met expiration {} events, Bounded pair.1 pair.2 := by
  refine ⟨by decide, by decide, by decide, by decide, fun always => ?_⟩
  have bounded := always 600
    [.request 3 60 0, .request 3 60 30, .request 3 60 30, .request 1 60 60] (by decide)
    (⟨some [0, 30, 30], []⟩, .request 1 60 60) (by decide)
  exact absurd (bounded rfl) (by decide)

end NewApi.ChangingLimits
