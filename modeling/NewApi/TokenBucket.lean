import Mathlib.Data.Int.Order.Basic
import Mathlib.Tactic.Linarith
import Mathlib.Tactic.Ring

/-! The bucket of tokens that limits all requests of a user in Redis. A call adds
what the time since the last call is worth, up to the capacity, and takes its
tokens if there are enough. What is taken in an interval was in the bucket at its
beginning, or was added in it. -/
namespace NewApi.TokenBucket

/-! ## The script -/

structure Settings where
  requested : Int
  rate : Int
  capacity : Int

structure Bucket where
  tokens : Int
  lastTime : Int
  deriving DecidableEq, Repr

def refill (settings : Settings) (nowInSeconds : Int) : Option Bucket → Int
  | none => settings.capacity
  | some bucket =>
    let elapsed := nowInSeconds - bucket.lastTime
    let addTokens := elapsed * settings.rate
    min settings.capacity (bucket.tokens + addTokens)

/-- `common/limiter/lua/rate_limit.lua`: the hash that is stored, and whether the
request is allowed. -/
def rateLimit (settings : Settings) (nowInSeconds : Int) (bucket : Option Bucket) : Bucket × Bool :=
  let tokens := refill settings nowInSeconds bucket
  if tokens ≥ settings.requested then (⟨tokens - settings.requested, nowInSeconds⟩, true)
  else (⟨tokens, nowInSeconds⟩, false)

/-- The arguments that `middleware/model-rate-limit.go::redisRateLimitHandler`
gives for the limit on all requests. -/
def totalLimit (totalMaxCount duration : Nat) : Settings where
  requested := duration
  rate := totalMaxCount
  capacity := totalMaxCount * duration

/-! ## Runs -/

structure Call where
  time : Int
  found : Int
  bucket : Bucket
  allowed : Bool
  deriving DecidableEq, Repr

def call (settings : Settings) (now : Int) (bucket : Option Bucket) : Call where
  time := now
  found := refill settings now bucket
  bucket := (rateLimit settings now bucket).1
  allowed := (rateLimit settings now bucket).2

def calls (settings : Settings) : Option Bucket → List Int → List Call
  | _, [] => []
  | bucket, now :: times =>
    call settings now bucket :: calls settings (some (call settings now bucket).bucket) times

/-- The calls that are allowed from `start` for `length` seconds. -/
def allowedIn (start length : Int) (run : List Call) : Nat :=
  run.countP fun call => call.allowed && decide (start ≤ call.time ∧ call.time ≤ start + length)

/-! ## One call -/

section Calls
variable {settings : Settings} {bucket : Option Bucket} {now : Int}

theorem call_takes (settings : Settings) (now : Int) (bucket : Option Bucket) :
    (call settings now bucket).bucket.tokens = (call settings now bucket).found -
      if (call settings now bucket).allowed then settings.requested else 0 := by
  unfold call rateLimit
  dsimp only
  split
  · rfl
  · rw [if_neg (by simp), Int.sub_zero]

theorem call_last (settings : Settings) (now : Int) (bucket : Option Bucket) :
    (call settings now bucket).bucket.lastTime = now := by
  unfold call rateLimit
  dsimp only
  split <;> rfl

theorem refused_takes_nothing (refused : (call settings now bucket).allowed = false) :
    (call settings now bucket).bucket.tokens = (call settings now bucket).found := by
  rw [call_takes, refused, if_neg (by simp), Int.sub_zero]

theorem allowed_found (allowed : (call settings now bucket).allowed = true) :
    settings.requested ≤ (call settings now bucket).found := by
  unfold call rateLimit at allowed
  dsimp only at allowed
  split at allowed
  · assumption
  · cases allowed

structure Settings.Fills (settings : Settings) : Prop where
  requested : 0 ≤ settings.requested
  rate : 0 ≤ settings.rate
  capacity : 0 ≤ settings.capacity

def Within (settings : Settings) (tokens : Int) : Prop := 0 ≤ tokens ∧ tokens ≤ settings.capacity

def Filled (settings : Settings) (now : Int) (bucket : Option Bucket) : Prop :=
  ∀ held, bucket = some held → Within settings held.tokens ∧ held.lastTime ≤ now

theorem found_within (fills : settings.Fills) (filled : Filled settings now bucket) :
    Within settings (call settings now bucket).found := by
  cases bucket with
  | none => exact ⟨fills.capacity, Int.le_refl _⟩
  | some held =>
    obtain ⟨⟨low, _⟩, passed⟩ := filled held rfl
    have added : 0 ≤ (now - held.lastTime) * settings.rate :=
      Int.mul_nonneg (by omega) fills.rate
    have capacity := fills.capacity
    simp only [call, refill, Within]
    omega

theorem stored_within (fills : settings.Fills) (filled : Filled settings now bucket) :
    Within settings (call settings now bucket).bucket.tokens := by
  obtain ⟨low, high⟩ := found_within fills filled
  have requested := fills.requested
  rw [call_takes]
  cases allowed : (call settings now bucket).allowed with
  | false => exact ⟨by simpa using low, by simpa using high⟩
  | true =>
    have enough := allowed_found allowed
    simp only [if_true, Within]
    omega

theorem filled_later (fills : settings.Fills) (filled : Filled settings now bucket) {later : Int}
    (passed : now ≤ later) : Filled settings later (some (call settings now bucket).bucket) := by
  intro held same
  obtain rfl := Option.some.inj same
  refine ⟨stored_within fills filled, ?_⟩
  rw [call_last]
  exact passed

theorem found_le_added (held : Bucket) :
    (call settings now (some held)).found ≤ held.tokens + (now - held.lastTime) * settings.rate :=
  Int.min_le_right _ _

end Calls

/-! ## Whole runs -/

section Runs
variable {settings : Settings} {start length : Int} {times : List Int}

theorem call_times (settings : Settings) (bucket : Option Bucket) (times : List Int) :
    (calls settings bucket times).map Call.time = times := by
  induction times generalizing bucket with
  | nil => rfl
  | cons now times ih => exact congrArg (now :: ·) (ih _)

theorem tokens_within (fills : settings.Fills) (bucket : Option Bucket)
    (sorted : times.Pairwise (· ≤ ·)) (filled : ∀ now ∈ times, Filled settings now bucket) :
    ∀ call ∈ calls settings bucket times, Within settings call.bucket.tokens := by
  induction times generalizing bucket with
  | nil => simp [calls]
  | cons now times ih =>
    obtain ⟨later, sorted⟩ := List.pairwise_cons.mp sorted
    have first := filled now List.mem_cons_self
    intro one member
    rcases List.mem_cons.mp member with rfl | inside
    · exact stored_within fills first
    · exact ih _ sorted (fun next isNext => filled_later fills first (later next isNext)) one inside

theorem run_refusals (settings : Settings) (bucket : Option Bucket) (times : List Int) :
    ∀ call ∈ calls settings bucket times, call.allowed = false → call.bucket.tokens = call.found := by
  induction times generalizing bucket with
  | nil => simp [calls]
  | cons now times ih =>
    intro one member
    rcases List.mem_cons.mp member with rfl | inside
    · exact refused_takes_nothing
    · exact ih _ one inside

theorem none_after (bucket : Option Bucket) {now : Int} (after : start + length < now)
    (later : ∀ next ∈ times, now ≤ next) :
    allowedIn start length (calls settings bucket (now :: times)) = 0 := by
  refine List.countP_eq_zero.mpr fun call member => ?_
  have happened : call.time ∈ now :: times := by
    rw [← call_times settings bucket (now :: times)]
    exact List.mem_map_of_mem member
  have late : now ≤ call.time := by
    rcases List.mem_cons.mp happened with same | isLater
    · exact Int.le_of_eq same.symm
    · exact later call.time isLater
  simp only [Bool.and_eq_true, decide_eq_true_eq, not_and]
  omega

theorem allowed_cons (start length : Int) (first : Call) (run : List Call) :
    allowedIn start length (first :: run) = allowedIn start length run +
      if first.allowed && decide (start ≤ first.time ∧ first.time ≤ start + length) then 1
      else 0 :=
  List.countP_cons

theorem taken_cons (fills : settings.Fills) (first : Call) (run : List Call) :
    (allowedIn start length (first :: run) : Int) * settings.requested ≤
      allowedIn start length run * settings.requested +
        if first.allowed then settings.requested else 0 := by
  have requested := fills.requested
  rw [allowed_cons]
  cases first.allowed with
  | false => simp
  | true =>
    split
    · push_cast
      rw [Int.add_mul, Int.one_mul]
      exact Int.le_refl _
    · simp only [Nat.add_zero, if_true]
      omega

theorem taken_from (fills : settings.Fills) (held : Bucket) (sorted : times.Pairwise (· ≤ ·))
    (filled : ∀ now ∈ times, Filled settings now (some held)) (low : 0 ≤ held.tokens)
    (open_ : held.lastTime ≤ start + length) :
    allowedIn start length (calls settings (some held) times) * settings.requested ≤
      held.tokens + (start + length - held.lastTime) * settings.rate := by
  induction times generalizing held with
  | nil =>
    have added := Int.mul_nonneg (by omega : 0 ≤ start + length - held.lastTime) fills.rate
    simp only [calls, allowedIn, List.countP_nil, Nat.cast_zero, Int.zero_mul]
    omega
  | cons now times ih =>
    obtain ⟨later, sorted⟩ := List.pairwise_cons.mp sorted
    have first := filled now List.mem_cons_self
    by_cases inside : now ≤ start + length
    · have taken := call_takes settings now (some held)
      have left_ := stored_within fills first
      have rest := ih (call settings now (some held)).bucket sorted
        (fun next isNext => filled_later fills first (later next isNext)) left_.1
        (by rw [call_last]; exact inside)
      have added : (call settings now (some held)).found ≤
          held.tokens + (now - held.lastTime) * settings.rate := found_le_added held
      have one := @taken_cons settings start length fills (call settings now (some held))
        (calls settings (some (call settings now (some held)).bucket) times)
      rw [taken, call_last] at rest
      have whole : (now - held.lastTime) * settings.rate + (start + length - now) * settings.rate =
          (start + length - held.lastTime) * settings.rate := by ring
      rw [calls]
      omega
    · have none_ := @none_after settings start length times (some held) now (by omega) later
      have added := Int.mul_nonneg (by omega : 0 ≤ start + length - held.lastTime) fills.rate
      rw [none_]
      simp only [Nat.cast_zero, Int.zero_mul]
      omega

theorem taken_in (fills : settings.Fills) (bucket : Option Bucket) (sorted : times.Pairwise (· ≤ ·))
    (filled : ∀ now ∈ times, Filled settings now bucket) (long : 0 ≤ length) :
    allowedIn start length (calls settings bucket times) * settings.requested ≤
      settings.capacity + length * settings.rate := by
  induction times generalizing bucket with
  | nil =>
    have added := Int.mul_nonneg long fills.rate
    have capacity := fills.capacity
    simp only [calls, allowedIn, List.countP_nil, Nat.cast_zero, Int.zero_mul]
    omega
  | cons now times ih =>
    obtain ⟨later, sorted⟩ := List.pairwise_cons.mp sorted
    have first := filled now List.mem_cons_self
    have kept : ∀ next ∈ times, Filled settings next (some (call settings now bucket).bucket) :=
      fun next isNext => filled_later fills first (later next isNext)
    by_cases before : now < start
    · -- the interval has not begun
      have skipped : allowedIn start length (calls settings bucket (now :: times)) =
          allowedIn start length (calls settings (some (call settings now bucket).bucket) times) := by
        have outside : ¬ start ≤ (call settings now bucket).time := Int.not_le.mpr before
        rw [calls, allowed_cons, if_neg (by simp [outside]), Nat.add_zero]
      rw [skipped]
      exact ih _ sorted kept
    · by_cases inside : now ≤ start + length
      · -- the first call of the interval finds the capacity at most
        have taken := call_takes settings now bucket
        have left_ := stored_within fills first
        have rest := @taken_from settings start length times fills (call settings now bucket).bucket
          sorted kept left_.1 (by rw [call_last]; exact inside)
        have one := @taken_cons settings start length fills (call settings now bucket)
          (calls settings (some (call settings now bucket).bucket) times)
        have found := (found_within fills first).2
        have added := Int.mul_le_mul_of_nonneg_right (by omega : start + length - now ≤ length) fills.rate
        rw [taken, call_last] at rest
        rw [calls]
        omega
      · have none_ := @none_after settings start length times bucket now (by omega) later
        have added := Int.mul_nonneg long fills.rate
        have capacity := fills.capacity
        rw [none_]
        simp only [Nat.cast_zero, Int.zero_mul]
        omega

end Runs

/-! ## The limit on all requests -/

theorem total_limit_fills (totalMaxCount duration : Nat) : (totalLimit totalMaxCount duration).Fills :=
  ⟨Int.natCast_nonneg _, Int.natCast_nonneg _, Int.mul_nonneg (Int.natCast_nonneg _) (Int.natCast_nonneg _)⟩

/-- On a key whose server time does not go back, the stored tokens stay between
nothing and the capacity, an interval allows what the capacity and its length are
worth, and a call that is refused takes nothing. -/
theorem total_limit_holds (totalMaxCount duration : Nat) {times : List Int}
    (sorted : times.Pairwise (· ≤ ·)) :
    let run := calls (totalLimit totalMaxCount duration) none times
    (∀ call ∈ run, 0 ≤ call.bucket.tokens ∧ call.bucket.tokens ≤ totalMaxCount * duration) ∧
      (∀ start length : Int, 0 ≤ length → (allowedIn start length run : Int) * duration ≤
        totalMaxCount * duration + totalMaxCount * length) ∧
      ∀ call ∈ run, call.allowed = false → call.bucket.tokens = call.found := by
  have fills := total_limit_fills totalMaxCount duration
  have filled : ∀ now ∈ times, Filled (totalLimit totalMaxCount duration) now none :=
    fun _ _ _ none_ => by cases none_
  refine ⟨tokens_within fills none sorted filled, fun start length long => ?_, run_refusals _ none times⟩
  have taken := @taken_in _ start length times fills none sorted filled long
  rw [Int.mul_comm length] at taken
  exact taken

theorem two_requests_a_minute : let run := calls (totalLimit 2 60) none [0, 0, 0, 30]
    (∀ call ∈ run, 0 ≤ call.bucket.tokens ∧ call.bucket.tokens ≤ (2 : Nat) * (60 : Nat)) ∧
      (∀ start length : Int, 0 ≤ length → (allowedIn start length run : Int) * (60 : Nat) ≤
        (2 : Nat) * (60 : Nat) + (2 : Nat) * length) ∧
      ∀ call ∈ run, call.allowed = false → call.bucket.tokens = call.found :=
  total_limit_holds 2 60 (by decide)

example : (calls (totalLimit 2 60) none [0, 0, 0, 30]).map Call.allowed =
    [true, true, false, true] := by decide

end NewApi.TokenBucket
