import NewApi.SlidingWindow
import Mathlib

/-! The limit on the successful requests of a user, in the memory of one process
and in Redis. Redis looks at the successes of the window and records one more
when a request has succeeded. The memory limiter checks a request by recording
it under a key of its own, before its outcome is known, and never looks at the
successes that it records. -/
namespace NewApi.ModelRateLimit
open NewApi.SlidingWindow

/-! ## Requests -/

structure Limits where
  durationMinutes : Int
  successMaxCount : Nat

/-- `duration` of `ModelRequestRateLimit`, in seconds. -/
def Limits.duration (limits : Limits) : Int := limits.durationMinutes * 60

/-- A request of the user: when it arrives and when it is finished, in
milliseconds, and the status it is answered with if it is admitted. -/
structure Request where
  arrived : Int
  finished : Int
  status : Int
  deriving DecidableEq

def Request.succeeded (request : Request) : Bool := request.status < 400

/-- `time.Now().Unix()`. -/
def unix (now : Int) : Int := now / 1000

/-! ## In memory -/

/-- `common/rate-limit.go::InMemoryRateLimiter.Request`, on the queue of the key,
the oldest time first. A queue in the store has a time. -/
def inMemoryRequest (queue : Option (List Int)) (maxRequestNum : Nat) (duration now : Int) :
    Option (List Int) × Bool :=
  match queue with
  | none => (some [now], true)
  | some queue =>
    if queue.length < maxRequestNum then (some (queue ++ [now]), true)
    else match queue with
    | [] => (some [], false)
    | oldest :: rest =>
      if now - oldest ≥ duration then (some (rest ++ [now]), true) else (some (oldest :: rest), false)

/-- `common/rate-limit.go::clearExpiredItems`, on the queue of one key. -/
def clearExpiredItems (expiration now : Int) (queue : Option (List Int)) : Option (List Int) :=
  queue.bind fun queue =>
    match queue.getLast? with
    | none => none
    | some last => if now - last > expiration then none else some queue

structure MemoryLimiter where
  check : Option (List Int) := none
  success : Option (List Int) := none

/-- `middleware/model-rate-limit.go::memoryRateLimitHandler`, and whether the
request is admitted. -/
def memoryRateLimitHandler (limits : Limits) (limiter : MemoryLimiter) (request : Request) :
    MemoryLimiter × Bool :=
  let checked := inMemoryRequest limiter.check limits.successMaxCount limits.duration
    (unix request.arrived)
  if !checked.2 then ({ limiter with check := checked.1 }, false)
  else if request.succeeded then
    ({ check := checked.1
       success := (inMemoryRequest limiter.success limits.successMaxCount limits.duration
        (unix request.finished)).1 }, true)
  else ({ limiter with check := checked.1 }, true)

/-! ## In Redis -/

structure RedisList where
  times : List Int := []
  expiresAt : Int := 0

def RedisList.at_ (list : RedisList) (now : Int) : List Int :=
  if now < list.expiresAt then list.times else []

/-- `setting.ModelRequestRateLimitDurationMinutes`, as the time to live of a key. -/
def Limits.timeToLive (limits : Limits) : Int := limits.durationMinutes * 60 * 1000

/-- `middleware/model-rate-limit.go::checkRedisRateLimit`: the list after it, and
whether the request is allowed. -/
def checkRedisRateLimit (limits : Limits) (now : Int) (list : RedisList) : RedisList × Bool :=
  if limits.successMaxCount = 0 then (list, true)
  else if (list.at_ now).length < limits.successMaxCount then (list, true)
  else match (list.at_ now).getLast? with
  | none => (list, false)
  | some oldTime =>
    if (now - oldTime).tdiv 1000 < limits.duration then
      ({ list with expiresAt := now + limits.timeToLive }, false)
    else (list, true)

/-- `middleware/model-rate-limit.go::recordRedisRequest`. -/
def recordRedisRequest (limits : Limits) (now : Int) (list : RedisList) : RedisList :=
  if limits.successMaxCount = 0 then list
  else
    { times := (now :: list.at_ now).take limits.successMaxCount
      expiresAt := now + limits.timeToLive }

/-- `middleware/model-rate-limit.go::redisRateLimitHandler`, and whether the
request is admitted. -/
def redisRateLimitHandler (limits : Limits) (list : RedisList) (request : Request) : RedisList × Bool :=
  let checked := checkRedisRateLimit limits request.arrived list
  if !checked.2 then (checked.1, false)
  else if request.succeeded then (recordRedisRequest limits request.finished checked.1, true)
  else (checked.1, true)

/-! ## Runs -/

/-- A request, or a round of the routine that clears the memory limiter. -/
inductive Event where
  | request (request : Request)
  | clear (now : Int)

def Timely (seen finished : Int) : List Event → Prop
  | [] => True
  | .request request :: rest => seen ≤ request.arrived ∧ finished ≤ request.arrived ∧
    request.arrived ≤ request.finished ∧ Timely request.arrived request.finished rest
  | .clear now :: rest => seen ≤ now ∧ Timely now finished rest

def memoryAdmits (limits : Limits) (expiration : Int) : MemoryLimiter → List Event → List (Request × Bool)
  | _, [] => []
  | limiter, .request request :: rest =>
    let handled := memoryRateLimitHandler limits limiter request
    (request, handled.2) :: memoryAdmits limits expiration handled.1 rest
  | limiter, .clear now :: rest =>
    memoryAdmits limits expiration
      { check := clearExpiredItems expiration (unix now) limiter.check
        success := clearExpiredItems expiration (unix now) limiter.success } rest

def redisAdmits (limits : Limits) : RedisList → List Event → List (Request × Bool)
  | _, [] => []
  | list, .request request :: rest =>
    let handled := redisRateLimitHandler limits list request
    (request, handled.2) :: redisAdmits limits handled.1 rest
  | list, .clear _ :: rest => redisAdmits limits list rest

def withoutFailures (events : List Event) : List Event :=
  events.filter fun
    | .request request => request.succeeded
    | .clear _ => true

def ofSuccesses (answers : List (Request × Bool)) : List (Request × Bool) :=
  answers.filter fun answer => answer.1.succeeded

/-- The two limiters enforce one limit: they admit the same requests, what fails
makes no difference to the other requests, and a limit of 0 is none. -/
structure SameLimit (limits : Limits) (expiration : Int) (events : List Event) : Prop where
  same : memoryAdmits limits expiration {} events = redisAdmits limits {} events
  memoryFailures : ofSuccesses (memoryAdmits limits expiration {} events) =
    memoryAdmits limits expiration {} (withoutFailures events)
  redisFailures : ofSuccesses (redisAdmits limits {} events) =
    redisAdmits limits {} (withoutFailures events)
  unlimited : limits.successMaxCount = 0 →
    (∀ answer ∈ memoryAdmits limits expiration {} events, answer.2 = true) ∧
      ∀ answer ∈ redisAdmits limits {} events, answer.2 = true

/-! ## What the limiters count -/

def attemptLive (limits : Limits) (now time : Int) : Bool := now - time < limits.duration

def successLive (limits : Limits) (now time : Int) : Bool := now - time < limits.duration * 1000

def memoryFull (limits : Limits) (attempts : List Int) (request : Request) : Bool :=
  max 1 limits.successMaxCount ≤ count (attemptLive limits) (unix request.arrived) attempts

def redisFull (limits : Limits) (successes : List Int) (request : Request) : Bool :=
  0 < limits.successMaxCount &&
    limits.successMaxCount ≤ count (successLive limits) request.arrived successes

def forgetStale (expiration now : Int) (attempts : List Int) : List Int :=
  match attempts.getLast? with
  | none => []
  | some last => if now - last > expiration then [] else attempts

def afterSuccess (successes : List Int) (request : Request) : List Int :=
  if request.succeeded then successes ++ [request.finished] else successes

def memoryWindow (limits : Limits) (expiration : Int) : List Int → List Event → List (Request × Bool)
  | _, [] => []
  | attempts, .request request :: rest =>
    if memoryFull limits attempts request then
      (request, false) :: memoryWindow limits expiration attempts rest
    else (request, true) :: memoryWindow limits expiration (attempts ++ [unix request.arrived]) rest
  | attempts, .clear now :: rest =>
    memoryWindow limits expiration (forgetStale expiration (unix now) attempts) rest

def redisWindow (limits : Limits) : List Int → List Event → List (Request × Bool)
  | _, [] => []
  | successes, .request request :: rest =>
    if redisFull limits successes request then (request, false) :: redisWindow limits successes rest
    else (request, true) :: redisWindow limits (afterSuccess successes request) rest
  | successes, .clear _ :: rest => redisWindow limits successes rest

def WindowsAgree (limits : Limits) (expiration : Int) : List Int → List Int → List Event → Prop
  | _, _, [] => True
  | attempts, successes, .request request :: rest =>
    memoryFull limits attempts request = redisFull limits successes request ∧
      if memoryFull limits attempts request then
        WindowsAgree limits expiration attempts successes rest
      else WindowsAgree limits expiration (attempts ++ [unix request.arrived])
        (afterSuccess successes request) rest
  | attempts, successes, .clear now :: rest =>
    WindowsAgree limits expiration (forgetStale expiration (unix now) attempts) successes rest

/-! ## The limiters are windows -/

section Windows
variable {limits : Limits}

theorem attempt_window (limits : Limits) : Window (attemptLive limits) := by
  constructor
  · intro now later time passed alive
    simp only [attemptLive, decide_eq_true_eq] at alive ⊢
    omega
  · intro now time other newer alive
    simp only [attemptLive, decide_eq_true_eq] at alive ⊢
    omega

theorem success_window (limits : Limits) : Window (successLive limits) := by
  constructor
  · intro now later time passed alive
    simp only [successLive, decide_eq_true_eq] at alive ⊢
    omega
  · intro now time other newer alive
    simp only [successLive, decide_eq_true_eq] at alive ⊢
    omega

def MemoryTracks (limits : Limits) (seen : Int) (attempts : List Int) : Option (List Int) → Prop
  | none => attempts = []
  | some queue => queue ≠ [] ∧
    Keeps (attemptLive limits) (max 1 limits.successMaxCount) (unix seen) attempts queue

theorem unix_mono (passed : seen ≤ now) : unix seen ≤ unix now := by
  unfold unix
  omega

theorem memory_tracks_later
    (passed : seen ≤ now) (tracks : MemoryTracks limits seen attempts queue) :
    MemoryTracks limits now attempts queue := by
  cases queue with
  | none => exact tracks
  | some queue =>
    exact ⟨tracks.1, keeps_later (attempt_window limits) (unix_mono passed) tracks.2⟩

theorem memory_request
    (tracks : MemoryTracks limits now attempts queue) (request : Request)
    (arrives : request.arrived = now) :
    let checked := inMemoryRequest queue limits.successMaxCount limits.duration (unix now)
    checked.2 = !memoryFull limits attempts request ∧
      MemoryTracks limits now
        (if memoryFull limits attempts request then attempts else attempts ++ [unix now])
        checked.1 := by
  intro checked
  have window := attempt_window limits
  have full : memoryFull limits attempts request =
      decide (max 1 limits.successMaxCount ≤ count (attemptLive limits) (unix now) attempts) := by
    rw [memoryFull, arrives]
  rw [full]
  cases queue with
  | none =>
    have none_yet : attempts = [] := tracks
    subst none_yet
    have room : ¬ max 1 limits.successMaxCount ≤ count (attemptLive limits) (unix now) [] := by
      simp [count]
    simp only [room, decide_false, Bool.false_eq_true, if_false]
    exact ⟨rfl, by simp, keeps_push window (Int.le_refl _) (keeps_nil _ _ _)
      (by rw [List.length_nil]; omega)⟩
  | some queue =>
    obtain ⟨held, keeps⟩ := tracks
    obtain ⟨oldest, rest, rfl⟩ := List.exists_cons_of_ne_nil held
    have filled := full_iff window keeps rfl
    have some_held : 0 < (oldest :: rest).length := List.length_pos_iff.mpr held
    by_cases room : (oldest :: rest).length < limits.successMaxCount
    · have open_ : ¬ max 1 limits.successMaxCount ≤ count (attemptLive limits) (unix now) attempts := by
        rw [filled]
        omega
      have result : checked = (some (oldest :: rest ++ [unix now]), true) := if_pos room
      simp only [open_, decide_false, Bool.false_eq_true, if_false, result]
      exact ⟨rfl, by simp, keeps_push window (Int.le_refl _) keeps (by omega)⟩
    · have long : max 1 limits.successMaxCount ≤ (oldest :: rest).length := by omega
      have result : checked = if unix now - oldest ≥ limits.duration then
          (some (rest ++ [unix now]), true) else (some (oldest :: rest), false) := if_neg room
      by_cases alive : attemptLive limits (unix now) oldest = true
      · have young : ¬ unix now - oldest ≥ limits.duration := by
          simp only [attemptLive, decide_eq_true_eq] at alive
          omega
        simp only [filled.mpr ⟨long, alive⟩, decide_true, if_true, result, if_neg young]
        exact ⟨rfl, held, keeps⟩
      · have old : unix now - oldest ≥ limits.duration := by
          simp only [attemptLive, decide_eq_true_eq] at alive
          omega
        have open_ : ¬ max 1 limits.successMaxCount ≤
            count (attemptLive limits) (unix now) attempts := fun full => alive (filled.mp full).2
        simp only [open_, decide_false, Bool.false_eq_true, if_false, result, if_pos old]
        exact ⟨rfl, by simp, keeps_shift window (Int.le_refl _) keeps (by simpa using alive)⟩

theorem memory_clear
    (tracks : MemoryTracks limits now attempts queue) :
    MemoryTracks limits now (forgetStale expiration (unix now) attempts)
      (clearExpiredItems expiration (unix now) queue) := by
  cases queue with
  | none =>
    rw [tracks]
    rfl
  | some queue =>
    obtain ⟨held, keeps⟩ := tracks
    obtain ⟨dropped, shape, -⟩ := keeps.split
    have ends : queue.getLast? = some (queue.getLast held) := List.getLast?_eq_some_getLast held
    have same : attempts.getLast? = some (queue.getLast held) := by
      rw [shape, List.getLast?_append_of_ne_nil _ held, ends]
    simp only [forgetStale, clearExpiredItems, same, ends, Option.bind_some]
    split
    · rfl
    · exact ⟨held, keeps⟩

theorem memory_follows (expiration : Int) (events : List Event)
    (timely : Timely seen finished events)
    (tracks : MemoryTracks limits seen attempts limiter.check) :
    memoryAdmits limits expiration limiter events = memoryWindow limits expiration attempts events := by
  induction events generalizing limiter seen finished attempts with
  | nil => rfl
  | cons event rest ih =>
    cases event with
    | clear now =>
      obtain ⟨passed, timely⟩ := timely
      exact ih timely (memory_clear (memory_tracks_later passed tracks))
    | request request =>
      obtain ⟨passed, -, -, timely⟩ := timely
      obtain ⟨answer, tracked⟩ := memory_request (memory_tracks_later passed tracks) request rfl
      simp only [memoryAdmits, memoryWindow]
      cases full : memoryFull limits attempts request with
      | true =>
        have handled : memoryRateLimitHandler limits limiter request =
            ({ limiter with check := (inMemoryRequest limiter.check limits.successMaxCount
              limits.duration (unix request.arrived)).1 }, false) := by
          simp only [memoryRateLimitHandler, answer, full, Bool.not_true, Bool.not_false, if_true]
        simp only [full, if_true] at tracked
        simp only [handled, if_true]
        exact congrArg _ (ih timely tracked)
      | false =>
        have admitted : (memoryRateLimitHandler limits limiter request).2 = true ∧
            (memoryRateLimitHandler limits limiter request).1.check = (inMemoryRequest limiter.check
              limits.successMaxCount limits.duration (unix request.arrived)).1 := by
          simp only [memoryRateLimitHandler, answer, full, Bool.not_false, Bool.not_true,
            Bool.false_eq_true, if_false]
          split <;> exact ⟨rfl, rfl⟩
        simp only [full, Bool.false_eq_true, if_false] at tracked
        rw [← admitted.2] at tracked
        simp only [admitted.1, Bool.false_eq_true, if_false]
        exact congrArg _ (ih timely tracked)

structure RedisTracks (limits : Limits) (seen : Int) (successes : List Int) (list : RedisList) :
    Prop where
  keeps : Keeps (successLive limits) limits.successMaxCount seen successes list.times.reverse
  expires : ∀ time ∈ list.times, time + limits.timeToLive ≤ list.expiresAt

theorem redis_at (passed : seen ≤ now)
    (tracks : RedisTracks limits seen successes list) :
    Keeps (successLive limits) limits.successMaxCount now successes (list.at_ now).reverse := by
  have keeps := keeps_later (success_window limits) passed tracks.keeps
  unfold RedisList.at_
  split
  · exact keeps
  · rename_i expired
    refine keeps_forget keeps fun time member => ?_
    have gone := tracks.expires time (List.mem_reverse.mp member)
    simp only [Limits.timeToLive] at gone
    refine decide_eq_false ?_
    simp only [Limits.duration]
    omega

theorem redis_full_iff (limited : 0 < limits.successMaxCount) (successes : List Int)
    (request : Request) : redisFull limits successes request = decide (limits.successMaxCount ≤
      count (successLive limits) request.arrived successes) := by
  simp [redisFull, limited]

theorem redis_check (request : Request)
    (passed : seen ≤ request.arrived) (limited : 0 < limits.successMaxCount)
    (tracks : RedisTracks limits seen successes list) :
    (checkRedisRateLimit limits request.arrived list).2 = !redisFull limits successes request ∧
      RedisTracks limits request.arrived successes (checkRedisRateLimit limits request.arrived list).1 := by
  have window := success_window limits
  have keeps := redis_at passed tracks
  have same : RedisTracks limits request.arrived successes list :=
    ⟨keeps_later window passed tracks.keeps, tracks.expires⟩
  rw [redis_full_iff limited]
  unfold checkRedisRateLimit
  rw [if_neg (by omega)]
  by_cases room : (list.at_ request.arrived).length < limits.successMaxCount
  · have few := List.countP_le_length (p := successLive limits request.arrived)
      (l := (list.at_ request.arrived).reverse)
    have open_ : ¬ limits.successMaxCount ≤ count (successLive limits) request.arrived successes := by
      rw [keeps_count keeps, count]
      rw [List.length_reverse] at few
      omega
    simp only [if_pos room, open_, decide_false]
    exact ⟨rfl, same⟩
  · rw [if_neg room]
    have held : (list.at_ request.arrived).reverse ≠ [] := by
      intro empty
      rw [List.reverse_eq_nil_iff.mp empty] at room
      exact room limited
    obtain ⟨oldest, rest, shape⟩ := List.exists_cons_of_ne_nil held
    have last : (list.at_ request.arrived).getLast? = some oldest := by
      rw [← List.head?_reverse, shape, List.head?_cons]
    have long : limits.successMaxCount ≤ (list.at_ request.arrived).reverse.length := by
      rw [List.length_reverse]
      omega
    have filled := full_iff window keeps shape
    have reached := keeps.reached oldest (by simp [shape])
    have seconds : (request.arrived - oldest).tdiv 1000 < limits.duration ↔
        successLive limits request.arrived oldest = true := by
      rw [Int.tdiv_eq_ediv_of_nonneg (by omega), successLive, decide_eq_true_eq]
      omega
    rw [last]
    by_cases alive : successLive limits request.arrived oldest = true
    · simp only [seconds.mpr alive, if_true, filled.mpr ⟨long, alive⟩, decide_true]
      have alive_list : request.arrived < list.expiresAt := by
        by_contra expired
        simp [RedisList.at_, expired] at held
      refine ⟨rfl, same.keeps, fun time member => ?_⟩
      have before := same.keeps.reached time (List.mem_reverse.mpr member)
      dsimp only
      omega
    · have open_ : ¬ limits.successMaxCount ≤ count (successLive limits) request.arrived successes :=
        fun full => alive (filled.mp full).2
      simp only [seconds, alive, Bool.false_eq_true, if_false, open_, decide_false]
      exact ⟨rfl, same⟩

theorem redis_record (request : Request)
    (passed : seen ≤ request.arrived) (handled : request.arrived ≤ request.finished)
    (limited : 0 < limits.successMaxCount) (tracks : RedisTracks limits seen successes list)
    (open_ : redisFull limits successes request = false) :
    RedisTracks limits request.finished (successes ++ [request.finished])
      (recordRedisRequest limits request.finished list) := by
  have window := success_window limits
  have keeps := redis_at (by omega : seen ≤ request.finished) tracks
  have here := Int.le_refl request.finished
  have later := count_later window handled successes
  rw [redis_full_iff limited, decide_eq_false_iff_not] at open_
  rw [recordRedisRequest, if_neg (by omega)]
  have pushed : Keeps (successLive limits) limits.successMaxCount request.finished
      (successes ++ [request.finished])
      ((request.finished :: list.at_ request.finished).take limits.successMaxCount).reverse := by
    by_cases room : (list.at_ request.finished).length < limits.successMaxCount
    · rw [List.take_of_length_le (by rw [List.length_cons]; omega), List.reverse_cons]
      exact keeps_push window here keeps (by simpa using room)
    · have held : (list.at_ request.finished).reverse ≠ [] := by
        intro empty
        rw [List.reverse_eq_nil_iff.mp empty] at room
        exact room limited
      obtain ⟨oldest, rest, shape⟩ := List.exists_cons_of_ne_nil held
      have back : list.at_ request.finished = rest.reverse ++ [oldest] := by
        rw [← List.reverse_cons, ← shape, List.reverse_reverse]
      have bounded := keeps.bounded
      rw [shape] at keeps bounded
      rw [back] at room ⊢
      rw [List.length_append, List.length_reverse, List.length_singleton] at room
      rw [List.length_cons] at bounded
      have cut : (request.finished :: (rest.reverse ++ [oldest])).take limits.successMaxCount =
          request.finished :: rest.reverse := by
        have exact_ : limits.successMaxCount = (request.finished :: rest.reverse).length := by
          rw [List.length_cons, List.length_reverse]
          omega
        rw [← List.cons_append, exact_, List.take_left']
        rfl
      rw [cut, List.reverse_cons, List.reverse_reverse]
      refine keeps_shift window here keeps ?_
      have filled := full_iff window keeps rfl
      by_contra alive
      have full := filled.mpr ⟨by rw [List.length_cons]; omega, by simpa using alive⟩
      omega
  refine ⟨pushed, fun time member => ?_⟩
  have before := pushed.reached time (List.mem_reverse.mpr member)
  dsimp only
  omega

theorem redis_follows (limited : 0 < limits.successMaxCount) (events : List Event)
    (timely : Timely seen finished events) (tracks : RedisTracks limits finished successes list) :
    redisAdmits limits list events = redisWindow limits successes events := by
  induction events generalizing list seen finished successes with
  | nil => rfl
  | cons event rest ih =>
    cases event with
    | clear now => exact ih timely.2 tracks
    | request request =>
      obtain ⟨-, passed, handled, timely⟩ := timely
      obtain ⟨answer, tracked⟩ := redis_check request passed limited tracks
      simp only [redisAdmits, redisWindow, redisRateLimitHandler, answer]
      cases full : redisFull limits successes request with
      | true =>
        simp only [Bool.not_true, Bool.not_false, if_true]
        have kept : RedisTracks limits request.finished successes
            (checkRedisRateLimit limits request.arrived list).1 :=
          ⟨keeps_later (success_window limits) handled tracked.keeps, tracked.expires⟩
        exact congrArg _ (ih timely kept)
      | false =>
        simp only [Bool.not_true, Bool.not_false, Bool.false_eq_true, if_false, afterSuccess]
        cases request.succeeded with
        | true =>
          simp only [if_true]
          exact congrArg _ (ih timely (redis_record request (Int.le_refl _) handled limited tracked full))
        | false =>
          simp only [Bool.false_eq_true, if_false]
          have kept : RedisTracks limits request.finished successes
              (checkRedisRateLimit limits request.arrived list).1 :=
            ⟨keeps_later (success_window limits) handled tracked.keeps, tracked.expires⟩
          exact congrArg _ (ih timely kept)

theorem redis_unlimited (unlimited : limits.successMaxCount = 0) (events : List Event)
    (list : RedisList) (successes : List Int) :
    redisAdmits limits list events = redisWindow limits successes events ∧
      ∀ answer ∈ redisAdmits limits list events, answer.2 = true := by
  induction events generalizing list successes with
  | nil => exact ⟨rfl, by simp [redisAdmits]⟩
  | cons event rest ih =>
    cases event with
    | clear now => exact ih list successes
    | request request =>
      have admitted : redisRateLimitHandler limits list request = (list, true) := by
        simp [redisRateLimitHandler, checkRedisRateLimit, recordRedisRequest, unlimited]
      have open_ : redisFull limits successes request = false := by simp [redisFull, unlimited]
      obtain ⟨same, all⟩ := ih list (afterSuccess successes request)
      simp only [redisAdmits, redisWindow, admitted, open_, Bool.false_eq_true, if_false, same]
      refine ⟨trivial, fun answer member => ?_⟩
      rcases List.mem_cons.mp member with rfl | later
      · rfl
      · exact all answer (same ▸ later)

theorem redis_answers (limits : Limits) (events : List Event) (timely : Timely start start events) :
    redisAdmits limits {} events = redisWindow limits [] events := by
  rcases Nat.eq_zero_or_pos limits.successMaxCount with unlimited | limited
  · exact (redis_unlimited unlimited events {} []).1
  · exact redis_follows limited events timely ⟨keeps_nil _ _ _, by simp⟩

theorem memory_answers (limits : Limits) (expiration : Int) (events : List Event)
    (timely : Timely start start events) :
    memoryAdmits limits expiration {} events = memoryWindow limits expiration [] events :=
  memory_follows expiration events timely rfl

end Windows

/-! ## One limit -/

section Agreement

theorem windows_agree_iff (events : List Event) (attempts successes : List Int) :
    memoryWindow limits expiration attempts events = redisWindow limits successes events ↔
      WindowsAgree limits expiration attempts successes events := by
  induction events generalizing attempts successes with
  | nil => simp [memoryWindow, redisWindow, WindowsAgree]
  | cons event rest ih =>
    cases event with
    | clear now => exact ih _ _
    | request request =>
      simp only [memoryWindow, redisWindow, WindowsAgree]
      cases memoryFull limits attempts request <;> cases redisFull limits successes request <;> simp [ih]

theorem redis_window_failures (events : List Event) (successes : List Int) :
    ofSuccesses (redisWindow limits successes events) =
      redisWindow limits successes (withoutFailures events) := by
  induction events generalizing successes with
  | nil => rfl
  | cons event rest ih =>
    cases event with
    | clear now => exact ih successes
    | request request =>
      cases succeeded : request.succeeded with
      | true =>
        have kept : withoutFailures (.request request :: rest) =
            .request request :: withoutFailures rest := by simp [withoutFailures, succeeded]
        rw [kept]
        simp only [redisWindow]
        split
        · rw [← ih]
          simp [ofSuccesses, succeeded]
        · rw [← ih]
          simp [ofSuccesses, succeeded]
      | false =>
        have dropped : withoutFailures (.request request :: rest) = withoutFailures rest := by
          simp [withoutFailures, succeeded]
        rw [dropped, ← ih]
        simp only [redisWindow, afterSuccess, succeeded, Bool.false_eq_true, if_false]
        split <;> simp [ofSuccesses, succeeded]

theorem timely_mono
    (sooner : earlier ≤ seen) (first : before ≤ finished) (timely : Timely seen finished events) :
    Timely earlier before events := by
  induction events generalizing seen finished earlier before with
  | nil => trivial
  | cons event rest ih =>
    cases event with
    | clear now =>
      exact ⟨by have := timely.1; omega, ih (Int.le_refl _) first timely.2⟩
    | request request =>
      obtain ⟨arrives, waits, handled, timely⟩ := timely
      exact ⟨by omega, by omega, handled, timely⟩

theorem timely_without_failures
    (timely : Timely seen finished events) : Timely seen finished (withoutFailures events) := by
  induction events generalizing seen finished with
  | nil => trivial
  | cons event rest ih =>
    cases event with
    | clear now => exact ⟨timely.1, ih timely.2⟩
    | request request =>
      obtain ⟨arrives, waits, handled, timely⟩ := timely
      cases succeeded : request.succeeded with
      | true =>
        simp only [withoutFailures, List.filter_cons, succeeded, if_true]
        exact ⟨arrives, waits, handled, ih timely⟩
      | false =>
        simp only [withoutFailures, List.filter_cons, succeeded, Bool.false_eq_true, if_false]
        exact timely_mono arrives (by omega) (ih timely)

end Agreement

/-- For every sequence of requests, one at a time, with any outcomes, and any
rounds of the routine that clears the memory limiter: the two enforce one limit
exactly when, at every request of the sequence and of the sequence without its
failures, the attempts in the memory window reach the limit exactly when the
successes in the window of Redis do. -/
theorem same_limit_iff (limits : Limits) (expiration start : Int) (events : List Event)
    (timely : Timely start start events) :
    SameLimit limits expiration events ↔
      WindowsAgree limits expiration [] [] events ∧
        WindowsAgree limits expiration [] [] (withoutFailures events) := by
  have others := timely_without_failures timely
  have memory := memory_answers limits expiration events timely
  have redis := redis_answers limits events timely
  have memoryRest := memory_answers limits expiration (withoutFailures events) others
  have redisRest := redis_answers limits (withoutFailures events) others
  have failures : ofSuccesses (redisAdmits limits {} events) =
      redisAdmits limits {} (withoutFailures events) := by
    rw [redis, redisRest, redis_window_failures]
  rw [← windows_agree_iff, ← windows_agree_iff, ← memory, ← redis, ← memoryRest, ← redisRest]
  constructor
  · intro same
    exact ⟨same.same, by rw [← same.memoryFailures, same.same, failures]⟩
  · rintro ⟨same, rest⟩
    refine ⟨same, by rw [same, failures, rest], failures, fun unlimited => ?_⟩
    have all := (redis_unlimited unlimited events {} []).2
    exact ⟨same ▸ all, all⟩

/-! ### A request that fails -/

def oneAMinute : Limits where
  durationMinutes := 1
  successMaxCount := 1

def failing : Request where
  arrived := 0
  finished := 500
  status := 500

def succeeding : Request where
  arrived := 1000
  finished := 1500
  status := 200

/-- The memory limiter refuses the second request, which Redis admits: the first
has failed. -/
theorem failure_counts_in_memory :
    ¬ ∀ (limits : Limits) (expiration start : Int) (events : List Event),
      Timely start start events → SameLimit limits expiration events := by
  intro always
  have same := (always oneAMinute 1200 0 [.request failing, .request succeeding]
    ⟨by decide, by decide, by decide, by decide, by decide, by decide, trivial⟩).same
  revert same
  decide

theorem one_success_admitted : SameLimit oneAMinute 1200 [.request succeeding, .clear 61000] := by
  refine (same_limit_iff oneAMinute 1200 0 [.request succeeding, .clear 61000]
    ⟨by decide, by decide, by decide, by decide, trivial⟩).mpr ⟨⟨rfl, trivial⟩, ⟨rfl, trivial⟩⟩

end NewApi.ModelRateLimit
