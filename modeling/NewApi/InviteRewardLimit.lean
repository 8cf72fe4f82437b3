import NewApi.GoText
import NewApi.SeparatedText

/-! The limits on the rewards of invitations. A check counts the inviter, the
address and the two together, or none of them. A reset finds the counters of an
inviter by a piece of their keys, which is also a piece of the keys of inviters
whose number begins alike, and which an address may hold. -/
namespace NewApi.InviteRewardLimit
open NewApi.GoText NewApi.SeparatedText

/-! ## Counters -/

/-- The options; a limit that is not positive is none. `redisEnabled` says that
there is a client too. -/
structure Settings where
  windowMinutes : Int
  maxCountPerInviter : Int
  maxCountPerIP : Int
  maxCountPerInviterIP : Int
  redisEnabled : Bool

/-- `ttlSeconds` of a counter. -/
def Settings.timeToLive (settings : Settings) : Int := settings.windowMinutes * 60

def Settings.windowTag (settings : Settings) : String := "w:" ++ settings.windowMinutes.repr

inductive Counter where
  | inviter (inviterId : Int)
  | ip (address : String)
  | inviterIP (inviterId : Int) (address : String)
  deriving DecidableEq, Repr

def Counter.key (settings : Settings) : Counter → String
  | .inviter inviterId => "inviteReward:" ++ settings.windowTag ++ ":inviter:" ++ inviterId.repr
  | .ip address => "inviteReward:" ++ settings.windowTag ++ ":ip:" ++ address
  | .inviterIP inviterId address =>
    "inviteReward:" ++ settings.windowTag ++ ":inviter:" ++ inviterId.repr ++ ":ip:" ++ address

def Counter.limit (settings : Settings) : Counter → Int
  | .inviter _ => settings.maxCountPerInviter
  | .ip _ => settings.maxCountPerIP
  | .inviterIP _ _ => settings.maxCountPerInviterIP

def Counter.owner : Counter → Option Int
  | .inviter inviterId => some inviterId
  | .ip _ => none
  | .inviterIP inviterId _ => some inviterId

/-! ## Stores -/

/-- `common/invite_reward_limit.go::inviteRewardLimitEntry`; a key of Redis has a
count and an expiration too. -/
structure Entry where
  count : Int
  expiredAt : Int
  deriving DecidableEq, Repr

abbrev Store := String → Option Entry

def liveEntry (now : Int) (store : Store) (key : String) : Option Entry :=
  (store key).filter fun entry => now < entry.expiredAt

def increment (now timeToLive : Int) (store : Store) (key : String) : Store :=
  Function.update store key (some (match liveEntry now store key with
    | none => ⟨1, now + timeToLive⟩
    | some entry => ⟨entry.count + 1, entry.expiredAt⟩))

/-- The first loop of `allow`: expired entries are deleted on the way to the first
full counter. -/
def checkCounts (now : Int) : List (String × Int) → Store → Store × Bool
  | [], store => (store, true)
  | (key, limit) :: rest, store =>
    if limit ≤ 0 then checkCounts now rest store
    else
      let store := if (store key).any fun entry => entry.expiredAt ≤ now then
          Function.update store key none
        else store
      if (store key).any fun entry => entry.count ≥ limit then (store, false)
      else checkCounts now rest store

/-- The second loop of `allow`. -/
def countAll (now timeToLive : Int) (keys : List (String × Int)) (store : Store) : Store :=
  keys.foldl (fun store key => if key.2 ≤ 0 then store else increment now timeToLive store key.1) store

/-- `common/invite_reward_limit.go::inviteRewardMemoryLimiter.allow`. -/
def allow (now timeToLive : Int) (keys : List (String × Int)) (store : Store) : Store × Bool :=
  if keys = [] then (store, true)
  else
    let (store, room) := checkCounts now keys store
    if room then (countAll now timeToLive keys store, true) else (store, false)

def redisScript (now timeToLive : Int) (keys : List (String × Int)) (store : Store) : Store × Bool :=
  if keys.any fun key => (liveEntry now store key.1).any fun entry => entry.count ≥ key.2 then
    (store, false)
  else
    (keys.foldl (fun store key => increment now timeToLive store key.1) store, true)

/-- What becomes of a call of Redis; a call may fail after the script was run. -/
inductive RedisAnswer where
  | answered
  | failed (executed : Bool)
  deriving DecidableEq, Repr

structure Stores where
  memory : Store := fun _ => none
  redis : Store := fun _ => none

/-! ## Checks and resets -/

/-- A call of the check, the time of the store that answers it, and what becomes of
the call of Redis. -/
structure Check where
  inviterId : Int
  clientIP : String
  now : Int
  answer : RedisAnswer := .answered
  deriving DecidableEq, Repr

/-- `common/invite_reward_limit.go::checkInviteRewardLimits`. -/
def checkInviteRewardLimits (settings : Settings) (check : Check) (keys : List (String × Int))
    (stores : Stores) : Stores × Bool :=
  let filtered := keys.filter fun key => key.1 ≠ "" ∧ key.2 > 0
  if filtered = [] then (stores, true)
  else
    let inMemory := allow check.now settings.timeToLive filtered stores.memory
    let inRedis := redisScript check.now settings.timeToLive filtered stores.redis
    if settings.redisEnabled then
      match check.answer with
      | .answered => ({ stores with redis := inRedis.1 }, inRedis.2)
      | .failed executed =>
        ({ memory := inMemory.1, redis := if executed then inRedis.1 else stores.redis }, inMemory.2)
    else ({ stores with memory := inMemory.1 }, inMemory.2)

def counters (settings : Settings) (check : Check) : List Counter :=
  let normalizedIP := trimSpace check.clientIP
  let all := if normalizedIP = "" then [.inviter check.inviterId]
    else [.inviter check.inviterId, .ip normalizedIP, .inviterIP check.inviterId normalizedIP]
  all.filter fun counter => counter.limit settings > 0

/-- `common/invite_reward_limit.go::CheckInviteRewardEligibility`: the stores, whether
the reward is allowed, and the reason if not. -/
def checkInviteRewardEligibility (settings : Settings) (check : Check) (stores : Stores) :
    Stores × Bool × String :=
  if check.inviterId ≤ 0 ∨ settings.windowMinutes ≤ 0 then (stores, true, "")
  else
    let keys := (counters settings check).map fun counter =>
      (counter.key settings, counter.limit settings)
    let (stores, allowed) := checkInviteRewardLimits settings check keys stores
    (stores, allowed, if allowed then "" else "invite_reward_limit")

def inviterMarker (inviterId : Int) : String := ":inviter:" ++ inviterId.repr

def memoryHit (inviterId : Int) (key : String) : Bool :=
  hasPrefix key "inviteReward:" && decide ((inviterMarker inviterId).toList <:+: key.toList)

/-- The keys in Redis that meet the pattern `inviteReward:*:inviter:N*`. -/
def redisHit (inviterId : Int) (key : String) : Bool :=
  hasPrefix key "inviteReward:" &&
    decide ((inviterMarker inviterId).toList <:+: key.toList.drop "inviteReward:".toList.length)

/-- `common/invite_reward_limit.go::ResetInviteRewardLimiter`; `reached` are the keys
that the scan of Redis comes to before it is done or fails. -/
def resetInviteRewardLimiter (settings : Settings) (inviterId : Int) (reached : String → Bool)
    (stores : Stores) : Stores :=
  if inviterId ≤ 0 then stores
  else
    { memory := fun key => if memoryHit inviterId key then none else stores.memory key
      redis := fun key =>
        if settings.redisEnabled && reached key && redisHit inviterId key then none
        else stores.redis key }

/-! ## Runs -/

inductive Event where
  | check (check : Check)
  | reset (inviterId : Int) (reached : String → Bool)

def step (settings : Settings) (stores : Stores) : Event → Stores
  | .check check => (checkInviteRewardEligibility settings check stores).1
  | .reset inviterId reached => resetInviteRewardLimiter settings inviterId reached stores

def run (settings : Settings) (stores : Stores) (events : List Event) : Stores :=
  events.foldl (step settings) stores

def counts (settings : Settings) (counter : Counter) (stores : Stores) : Event → Bool
  | .check check => decide (0 < check.inviterId ∧ counter ∈ counters settings check) &&
    (checkInviteRewardEligibility settings check stores).2.1
  | .reset _ _ => false

def allowedFor (settings : Settings) (counter : Counter) : Stores → List Event → Nat
  | _, [] => 0
  | stores, event :: events =>
    (if counts settings counter stores event then 1 else 0) +
      allowedFor settings counter (step settings stores event) events

def Stores.answering (stores : Stores) (settings : Settings) : Store :=
  if settings.redisEnabled then stores.redis else stores.memory

def hit (settings : Settings) (inviterId : Int) (reached : String → Bool) (key : String) : Bool :=
  if settings.redisEnabled then reached key && redisHit inviterId key else memoryHit inviterId key

/-! ## What is asked of the limiter -/

def Answered (settings : Settings) (events : List Event) : Prop :=
  settings.redisEnabled = true → ∀ check, .check check ∈ events → check.answer = .answered

/-- The limits hold in every window, a refusal counts nothing, and a reset leaves the
counters of other inviters as they are. A window of a counter begins when it has no
live entry, lasts as long as an entry does, and ends with a reset that deletes it. -/
structure Sound (settings : Settings) (events : List Event) : Prop where
  windows : ∀ before window after, events = before ++ window ++ after →
    ∀ counter opens, 0 < counter.limit settings →
      liveEntry opens ((run settings {} before).answering settings) (counter.key settings) = none →
      (∀ check, .check check ∈ window → opens ≤ check.now ∧ check.now < opens + settings.timeToLive) →
      (∀ inviterId reached, .reset inviterId reached ∈ window → 0 < inviterId →
        hit settings inviterId reached (counter.key settings) = false) →
      allowedFor settings counter (run settings {} before) window ≤ counter.limit settings
  refusals : ∀ before check after, events = before ++ .check check :: after →
    let stores := run settings {} before
    let answer := checkInviteRewardEligibility settings check stores
    answer.2.1 = false → ∀ key,
      liveEntry check.now answer.1.memory key = liveEntry check.now stores.memory key ∧
        liveEntry check.now answer.1.redis key = liveEntry check.now stores.redis key
  resets : ∀ before inviterId reached after, events = before ++ .reset inviterId reached :: after →
    ∀ (counter : Counter) (other : Int), counter.owner = some other → other ≠ inviterId →
      let stores := run settings {} before
      let left_ := resetInviteRewardLimiter settings inviterId reached stores
      left_.memory (counter.key settings) = stores.memory (counter.key settings) ∧
        left_.redis (counter.key settings) = stores.redis (counter.key settings)

def Touches (inviterId : Int) : Counter → Prop
  | .inviter other => inviterId.repr.toList <+: other.repr.toList
  | .ip address => (inviterMarker inviterId).toList <:+: ':' :: address.toList
  | .inviterIP other address => inviterId.repr.toList <+: other.repr.toList ∨
    (inviterMarker inviterId).toList <:+: ':' :: address.toList

def Spares (settings : Settings) (events : List Event) : Prop :=
  ∀ before inviterId reached after, events = before ++ .reset inviterId reached :: after →
    0 < inviterId → ∀ (counter : Counter) (other : Int),
      counter.owner = some other → other ≠ inviterId →
      Touches inviterId counter →
      let stores := run settings {} before
      stores.memory (counter.key settings) = none ∧
        (settings.redisEnabled = true → reached (counter.key settings) = true →
          stores.redis (counter.key settings) = none)

/-! ## Which keys a reset deletes -/

theorem number_letter {number : Int} {char : Char} (member : char ∈ number.repr.toList) :
    char.isDigit ∨ char = '-' := by
  cases number with
  | ofNat value =>
    change char ∈ value.repr.toList at member
    rw [Nat.toList_repr] at member
    exact .inl (Nat.isDigit_of_mem_toDigits (by decide) (by decide) member)
  | negSucc value =>
    change char ∈ ("-" ++ (value + 1).repr).toList at member
    rw [String.toList_append, List.mem_append, Nat.toList_repr] at member
    rcases member with sign | digit
    · exact .inr (List.mem_singleton.mp sign)
    · exact .inl (Nat.isDigit_of_mem_toDigits (by decide) (by decide) digit)

theorem number_plain (number : Int) : ':' ∉ number.repr.toList := by
  intro member
  rcases number_letter member with digit | sign
  · exact absurd digit (by decide)
  · exact absurd sign (by decide)

theorem number_no_word (number : Int) : "inviter".toList ≠ number.repr.toList := by
  intro same
  have member : 'i' ∈ number.repr.toList := by
    rw [← same]
    decide
  rcases number_letter member with digit | sign
  · exact absurd digit (by decide)
  · exact absurd sign (by decide)

theorem marker_letters (inviterId : Int) :
    (inviterMarker inviterId).toList = ':' :: ("inviter".toList ++ ':' :: inviterId.repr.toList) := by
  simp [inviterMarker]

def tail (settings : Settings) : Counter → List Char
  | .inviter inviterId => "w".toList ++ ':' :: (settings.windowMinutes.repr.toList ++
      ':' :: ("inviter".toList ++ ':' :: inviterId.repr.toList))
  | .ip address => "w".toList ++ ':' :: (settings.windowMinutes.repr.toList ++
      ':' :: ("ip".toList ++ ':' :: address.toList))
  | .inviterIP inviterId address => "w".toList ++ ':' :: (settings.windowMinutes.repr.toList ++
      ':' :: ("inviter".toList ++ ':' :: (inviterId.repr.toList ++
        ':' :: ("ip".toList ++ ':' :: address.toList))))

theorem key_letters (settings : Settings) (counter : Counter) :
    (counter.key settings).toList = "inviteReward".toList ++ ':' :: tail settings counter := by
  have start : "inviteReward:".toList = "inviteReward".toList ++ [':'] := rfl
  have window : "w:".toList = "w".toList ++ [':'] := rfl
  have inviter : ":inviter:".toList = ':' :: ("inviter".toList ++ [':']) := rfl
  have ip : ":ip:".toList = ':' :: ("ip".toList ++ [':']) := rfl
  -- `change` and not the equations of `key`, which take Lean seconds to make
  cases counter with
  | inviter inviterId =>
    change ("inviteReward:" ++ ("w:" ++ settings.windowMinutes.repr) ++ ":inviter:" ++
      inviterId.repr).toList = _
    rw [tail, String.toList_append, String.toList_append, String.toList_append,
      String.toList_append, start, window, inviter]
    simp only [List.append_assoc, List.cons_append, List.nil_append]
  | ip address =>
    change ("inviteReward:" ++ ("w:" ++ settings.windowMinutes.repr) ++ ":ip:" ++ address).toList = _
    rw [tail, String.toList_append, String.toList_append, String.toList_append,
      String.toList_append, start, window, ip]
    simp only [List.append_assoc, List.cons_append, List.nil_append]
  | inviterIP inviterId address =>
    change ("inviteReward:" ++ ("w:" ++ settings.windowMinutes.repr) ++ ":inviter:" ++
      inviterId.repr ++ ":ip:" ++ address).toList = _
    rw [tail, String.toList_append, String.toList_append, String.toList_append,
      String.toList_append, String.toList_append, String.toList_append, start, window, inviter, ip]
    simp only [List.append_assoc, List.cons_append, List.nil_append]

theorem word_plain : ':' ∉ "inviter".toList := by decide

theorem marker_found_iff (inviterId : Int) (plain : ':' ∉ first)
    (alsoPlain : ':' ∉ second) :
    (inviterMarker inviterId).toList <:+: first ++ ':' :: (second ++ ':' :: text) ↔
      "inviter".toList = second ∧ inviterId.repr.toList <+: text ∨
        (inviterMarker inviterId).toList <:+: second ++ ':' :: text := by
  rw [marker_letters, infix_after_sep plain, prefix_to_sep word_plain alsoPlain]

theorem marker_not_last (inviterId : Int) (plain : ':' ∉ first)
    (last : ':' ∉ text) : ¬ (inviterMarker inviterId).toList <:+: first ++ ':' :: text := by
  rw [marker_letters, infix_after_sep plain]
  rintro (begins | later)
  · exact last (begins.subset (by simp))
  · exact infix_without_sep last later

theorem marker_in_address (inviterId : Int) (address : List Char) :
    (inviterMarker inviterId).toList <:+: "ip".toList ++ ':' :: address ↔
      (inviterMarker inviterId).toList <:+: ':' :: address := by
  rw [marker_letters, infix_after_sep (by decide), List.infix_cons_iff, List.cons_prefix_cons]
  simp

theorem tail_touched_iff (settings : Settings) (inviterId : Int) (counter : Counter) :
    (inviterMarker inviterId).toList <:+: tail settings counter ↔ Touches inviterId counter := by
  have window := number_plain settings.windowMinutes
  have elsewhere := number_no_word settings.windowMinutes
  have number := number_plain inviterId
  have word : ':' ∉ "w".toList := by decide
  have ip : ':' ∉ "ip".toList := by decide
  have notIp : "inviter".toList ≠ "ip".toList := by decide
  cases counter with
  | inviter other =>
    have last := marker_not_last inviterId word_plain (number_plain other)
    rw [tail, marker_found_iff inviterId word window, marker_found_iff inviterId window word_plain]
    simp only [elsewhere, last, false_and, false_or, true_and, or_false]
    exact Iff.rfl
  | ip address =>
    rw [tail, marker_found_iff inviterId word window, marker_found_iff inviterId window ip,
      marker_in_address]
    simp only [elsewhere, notIp, false_and, false_or]
    exact Iff.rfl
  | inviterIP other address =>
    have notNumber := number_no_word other
    rw [tail, marker_found_iff inviterId word window, marker_found_iff inviterId window word_plain,
      marker_found_iff inviterId word_plain (number_plain other),
      marker_found_iff inviterId (number_plain other) ip, marker_in_address]
    simp only [elsewhere, notNumber, notIp, false_and, false_or, true_and]
    rw [plain_begins number]
    exact Iff.rfl

theorem key_begins (settings : Settings) (counter : Counter) :
    hasPrefix (counter.key settings) "inviteReward:" = true := by
  rw [hasPrefix, List.isPrefixOf_iff_prefix, key_letters]
  exact ⟨tail settings counter, by simp⟩

theorem memory_hit_iff (settings : Settings) (inviterId : Int) (counter : Counter) :
    memoryHit inviterId (counter.key settings) = true ↔ Touches inviterId counter := by
  have notFirst : ¬ "inviter".toList ++ ':' :: inviterId.repr.toList <+: tail settings counter := by
    have word : ':' ∉ "w".toList := by decide
    cases counter <;> rw [tail, prefix_to_sep word_plain word] <;> exact fun both =>
      absurd both.1 (by decide)
  rw [memoryHit, key_begins, Bool.true_and, decide_eq_true_eq, key_letters, ← tail_touched_iff settings,
    marker_letters, infix_after_sep (by decide), or_iff_right notFirst]

theorem redis_hit_iff (settings : Settings) (inviterId : Int) (counter : Counter) :
    redisHit inviterId (counter.key settings) = true ↔ Touches inviterId counter := by
  rw [redisHit, key_begins, Bool.true_and, decide_eq_true_eq, key_letters, ← tail_touched_iff settings]
  exact Iff.rfl

/-! ## What a check does to a store -/

def Same (now : Int) (before after : Store) (key : String) : Prop :=
  after key = before key ∨ after key = none ∧ liveEntry now before key = none

def Charged (now timeToLive : Int) (before after : Store) (key : String) : Prop :=
  ∃ entry, after key = some entry ∧ match liveEntry now before key with
    | none => 0 < entry.count ∧ entry.expiredAt = now + timeToLive
    | some old => old.count < entry.count ∧ entry.expiredAt = old.expiredAt

structure Admits (now timeToLive : Int) (keys : List (String × Int)) (before : Store)
    (result : Store × Bool) : Prop where
  others : ∀ key, key ∉ keys.map Prod.fst → Same now before result.1 key
  refused : result.2 = false → ∀ key, Same now before result.1 key
  charged : result.2 = true → ∀ key ∈ keys, Charged now timeToLive before result.1 key.1
  room : result.2 = true → ∀ key ∈ keys, ∀ entry,
    liveEntry now before key.1 = some entry → entry.count < key.2

section Stores
variable {now timeToLive : Int} {before middle after : Store} {key : String}

theorem same_live (same : Same now before after key) :
    liveEntry now after key = liveEntry now before key := by
  rcases same with kept | ⟨gone, expired⟩
  · rw [liveEntry, kept, liveEntry]
  · rw [expired, liveEntry, gone]
    rfl

theorem same_trans (first : Same now before middle key) (second : Same now middle after key) :
    Same now before after key := by
  rcases second with kept | ⟨gone, expired⟩
  · rw [Same, kept]
    exact first
  · exact .inr ⟨gone, (same_live first).symm.trans expired⟩

theorem charged_after_same (first : Same now before middle key)
    (second : Charged now timeToLive middle after key) : Charged now timeToLive before after key := by
  rw [Charged, ← same_live first]
  exact second

theorem increment_other (apart : other ≠ key) (store : Store) :
    increment now timeToLive store key other = store other :=
  Function.update_of_ne apart _ _

theorem increment_charges (store : Store) :
    Charged now timeToLive store (increment now timeToLive store key) key := by
  refine ⟨_, Function.update_self key _ store, ?_⟩
  cases liveEntry now store key with
  | none => exact ⟨Int.one_pos, rfl⟩
  | some old => exact ⟨Int.lt_add_one_iff.mpr (Int.le_refl _), rfl⟩

theorem charged_twice (first : Charged now timeToLive before middle key)
    (second : Charged now timeToLive middle after key) : Charged now timeToLive before after key := by
  obtain ⟨once, stored, once_is⟩ := first
  obtain ⟨twice, found, twice_is⟩ := second
  refine ⟨twice, found, ?_⟩
  by_cases alive : now < once.expiredAt
  · have seen : liveEntry now middle key = some once := by simp [liveEntry, stored, alive]
    rw [seen] at twice_is
    cases live : liveEntry now before key with
    | none | some =>
      rw [live] at once_is
      exact ⟨Int.lt_trans once_is.1 twice_is.1, twice_is.2.trans once_is.2⟩
  · have seen : liveEntry now middle key = none := by
      simp [liveEntry, stored, Int.not_lt.mp alive]
    rw [seen] at twice_is
    cases live : liveEntry now before key with
    | none => exact twice_is
    | some old =>
      rw [live] at once_is
      have expires : now < old.expiredAt := by
        have kept := Option.filter_eq_some_iff.mp live
        exact of_decide_eq_true kept.2
      exact absurd (once_is.2 ▸ expires) alive

theorem increments_spec (keys : List String) (store : Store) :
    (∀ key, key ∉ keys → (keys.foldl (increment now timeToLive) store) key = store key) ∧
      ∀ key ∈ keys, Charged now timeToLive store (keys.foldl (increment now timeToLive) store) key := by
  induction keys generalizing store with
  | nil => exact ⟨fun _ _ => rfl, fun _ member => absurd member List.not_mem_nil⟩
  | cons head rest ih =>
    obtain ⟨others, charged⟩ := ih (increment now timeToLive store head)
    constructor
    · intro key absent
      rw [List.foldl_cons, others key (List.not_mem_of_not_mem_cons absent),
        increment_other (List.ne_of_not_mem_cons absent)]
    · intro key member
      by_cases again : key ∈ rest
      · by_cases here : key = head
        · subst here
          exact charged_twice (increment_charges store) (charged key again)
        · exact charged_after_same (.inl (increment_other here store)) (charged key again)
      · obtain rfl := (List.mem_cons.mp member).resolve_right again
        have first : Charged now timeToLive store _ key := increment_charges store
        obtain ⟨entry, stored, is⟩ := first
        exact ⟨entry, (others key again).trans stored, is⟩

theorem cleared_spec (store : Store) (name : String) :
    let cleared := if (store name).any fun entry => entry.expiredAt ≤ now then
        Function.update store name none
      else store
    (∀ key, key ≠ name → cleared key = store key) ∧ cleared name = liveEntry now store name := by
  split
  · rename_i expired
    refine ⟨fun key apart => Function.update_of_ne apart _ _, ?_⟩
    obtain ⟨entry, stored, dead⟩ := (Option.any_eq_true _ _).mp expired
    rw [Function.update_self, liveEntry, stored, Option.filter_some, if_neg]
    simpa using dead
  · rename_i alive
    refine ⟨fun _ _ => rfl, ?_⟩
    cases stored : store name with
    | none => rw [liveEntry, stored, Option.filter_none]
    | some entry =>
      rw [stored, Option.any_some, decide_eq_true_eq, Int.not_le] at alive
      rw [liveEntry, stored, Option.filter_some, if_pos (decide_eq_true alive)]

theorem same_of_live (live : after key = liveEntry now before key) : Same now before after key := by
  rw [Same, live, liveEntry]
  cases stored : before key with
  | none => exact .inl (Option.filter_none _)
  | some entry =>
    by_cases alive : now < entry.expiredAt
    · exact .inl (by simp [alive])
    · exact .inr (by simp [Int.not_lt.mp alive])

theorem checkCounts_spec (keys : List (String × Int)) (store : Store) :
    (∀ key, Same now store (checkCounts now keys store).1 key) ∧
      (∀ key, key ∉ keys.map Prod.fst → (checkCounts now keys store).1 key = store key) ∧
      ((checkCounts now keys store).2 = true → ∀ key ∈ keys, 0 < key.2 → ∀ entry,
        liveEntry now store key.1 = some entry → entry.count < key.2) := by
  induction keys generalizing store with
  | nil => exact ⟨fun _ => .inl rfl, fun _ _ => rfl, fun _ _ member => absurd member List.not_mem_nil⟩
  | cons head rest ih =>
    obtain ⟨name, limit⟩ := head
    rw [checkCounts]
    split
    · rename_i unlimited
      obtain ⟨same, others, room⟩ := ih store
      refine ⟨same, fun key absent => others key (List.not_mem_of_not_mem_cons absent), ?_⟩
      intro admitted key member positive
      rcases List.mem_cons.mp member with rfl | later
      · exact absurd positive (Int.not_lt.mpr unlimited)
      · exact room admitted key later positive
    · obtain ⟨elsewhere, here⟩ := @cleared_spec now store name
      dsimp only at elsewhere here ⊢
      generalize (if (store name).any fun entry => entry.expiredAt ≤ now then
        Function.update store name none else store) = kept at elsewhere here ⊢
      have same : ∀ key, Same now store kept key := by
        intro key
        by_cases isHere : key = name
        · exact isHere ▸ same_of_live here
        · exact .inl (elsewhere key isHere)
      split
      · refine ⟨same, fun key absent => elsewhere key (List.ne_of_not_mem_cons absent), ?_⟩
        exact fun refused => Bool.noConfusion refused
      · rename_i hasRoom
        obtain ⟨sameAfter, others, room⟩ := ih kept
        refine ⟨fun key => same_trans (same key) (sameAfter key), ?_, ?_⟩
        · intro key absent
          rw [others key (List.not_mem_of_not_mem_cons absent),
            elsewhere key (List.ne_of_not_mem_cons absent)]
        · intro admitted key member positive entry live
          rcases List.mem_cons.mp member with rfl | later
          · rw [here, live] at hasRoom
            simpa using hasRoom
          · exact room admitted key later positive entry ((same_live (same key.1)).trans live)

theorem countAll_keys (positive : ∀ key ∈ keys, 0 < key.2) (store : Store) :
    countAll now timeToLive keys store = (keys.map Prod.fst).foldl (increment now timeToLive) store := by
  rw [countAll, List.foldl_map]
  apply List.foldl_ext
  intro result key member
  rw [if_neg (Int.not_le.mpr (positive key member))]

theorem allow_admits (positive : ∀ key ∈ keys, 0 < key.2)
    (store : Store) : Admits now timeToLive keys store (allow now timeToLive keys store) := by
  rw [allow]
  split
  · rename_i empty
    subst empty
    exact ⟨fun _ _ => .inl rfl, fun _ _ => .inl rfl,
      fun _ _ member => absurd member List.not_mem_nil,
      fun _ _ member => absurd member List.not_mem_nil⟩
  · obtain ⟨same, others, room⟩ := @checkCounts_spec now keys store
    dsimp only
    split
    · rename_i admitted
      obtain ⟨kept, charged⟩ := @increments_spec now timeToLive
        (keys.map Prod.fst) (checkCounts now keys store).1
      rw [countAll_keys positive]
      refine ⟨?_, fun refused => Bool.noConfusion refused, ?_, ?_⟩
      · intro key absent
        exact .inl ((kept key absent).trans (others key absent))
      · intro _ key member
        exact charged_after_same (same key.1) (charged key.1 (List.mem_map_of_mem member))
      · intro _ key member
        exact room admitted key member (positive key member)
    · exact ⟨fun key _ => same key, fun _ => same, fun admitted => Bool.noConfusion admitted,
        fun admitted => Bool.noConfusion admitted⟩

theorem redis_admits (keys : List (String × Int)) (store : Store) :
    Admits now timeToLive keys store (redisScript now timeToLive keys store) := by
  rw [redisScript]
  split
  · exact ⟨fun _ _ => .inl rfl, fun _ _ => .inl rfl, fun admitted => Bool.noConfusion admitted,
      fun admitted => Bool.noConfusion admitted⟩
  · rename_i hasRoom
    obtain ⟨kept, charged⟩ := @increments_spec now timeToLive (keys.map Prod.fst) store
    rw [List.foldl_map] at kept charged
    refine ⟨fun key absent => .inl (kept key absent), fun refused => Bool.noConfusion refused,
      fun _ key member => charged key.1 (List.mem_map_of_mem member), ?_⟩
    intro _ key member entry live
    by_contra full
    apply hasRoom
    rw [List.any_eq_true]
    refine ⟨key, member, ?_⟩
    rw [live]
    simpa using full

end Stores

/-! ## What an event does to the counters -/

section Runs
variable {settings : Settings} {stores : Stores} {check : Check}

def keysOf (settings : Settings) (check : Check) : List (String × Int) :=
  (counters settings check).map fun counter => (counter.key settings, counter.limit settings)

theorem keysOf_positive (member : key ∈ keysOf settings check) :
    key.1 ≠ "" ∧ 0 < key.2 := by
  obtain ⟨counter, isCounter, rfl⟩ := List.mem_map.mp member
  refine ⟨fun empty => ?_, of_decide_eq_true (List.mem_filter.mp isCounter).2⟩
  have begins := key_begins settings counter
  rw [show counter.key settings = "" from empty] at begins
  exact absurd begins (by decide)

theorem keysOf_filtered :
    (keysOf settings check).filter (fun key => key.1 ≠ "" ∧ key.2 > 0) = keysOf settings check := by
  rw [List.filter_eq_self]
  exact fun key member => decide_eq_true (keysOf_positive member)

theorem eligibility_counted
    (counted : 0 < check.inviterId ∧ 0 < settings.windowMinutes)
    (answer : checkInviteRewardLimits settings check (keysOf settings check) stores = (after, allowed)) :
    checkInviteRewardEligibility settings check stores =
      (after, allowed, if allowed then "" else "invite_reward_limit") := by
  have skipped : ¬ (check.inviterId ≤ 0 ∨ settings.windowMinutes ≤ 0) := by omega
  rw [keysOf] at answer
  rw [checkInviteRewardEligibility, if_neg skipped]
  dsimp only
  rw [answer]

theorem eligibility_uncounted (free : ¬ (0 < check.inviterId ∧ 0 < settings.windowMinutes)) :
    checkInviteRewardEligibility settings check stores = (stores, true, "") := by
  have skipped : check.inviterId ≤ 0 ∨ settings.windowMinutes ≤ 0 := by omega
  rw [checkInviteRewardEligibility, if_pos skipped]

theorem nothing_admitted (now timeToLive : Int) (store : Store) :
    Admits now timeToLive [] store (store, true) :=
  ⟨fun _ _ => .inl rfl, fun _ _ => .inl rfl, fun _ _ member => absurd member List.not_mem_nil,
    fun _ _ member => absurd member List.not_mem_nil⟩

def Fair (settings : Settings) (now : Int) (keys : List (String × Int)) (before after : Stores)
    (allowed : Bool) : Prop :=
  Admits now settings.timeToLive keys (before.answering settings)
      (after.answering settings, allowed) ∧
    (settings.redisEnabled = true → after.memory = before.memory) ∧
    (settings.redisEnabled = false → after.redis = before.redis)

theorem limits_spec
    (answered : settings.redisEnabled = true → check.answer = .answered)
    (answer : checkInviteRewardLimits settings check (keysOf settings check) stores = (after, allowed)) :
    Fair settings check.now (keysOf settings check) stores after allowed := by
  rw [checkInviteRewardLimits, keysOf_filtered] at answer
  by_cases none_ : keysOf settings check = []
  · obtain ⟨rfl, rfl⟩ := Prod.mk.inj answer
    rw [none_]
    exact ⟨nothing_admitted _ _ _, fun _ => rfl, fun _ => rfl⟩
  rw [if_neg none_] at answer
  by_cases enabled : settings.redisEnabled = true
  · have admits := @redis_admits check.now settings.timeToLive (keysOf settings check) stores.redis
    rw [if_pos enabled, answered enabled] at answer
    generalize redisScript check.now settings.timeToLive (keysOf settings check) stores.redis =
      inRedis at answer admits
    obtain ⟨rfl, rfl⟩ := Prod.mk.inj answer
    refine ⟨?_, fun _ => rfl, fun disabled => absurd (enabled.symm.trans disabled) (by decide)⟩
    rw [Stores.answering, Stores.answering, if_pos enabled, if_pos enabled]
    exact admits
  · have admits := @allow_admits check.now settings.timeToLive _
      (fun key member => (@keysOf_positive settings check key member).2) stores.memory
    rw [if_neg enabled] at answer
    generalize allow check.now settings.timeToLive (keysOf settings check) stores.memory =
      inMemory at answer admits
    obtain ⟨rfl, rfl⟩ := Prod.mk.inj answer
    refine ⟨?_, fun isEnabled => absurd isEnabled enabled, fun _ => rfl⟩
    rw [Stores.answering, Stores.answering, if_neg enabled, if_neg enabled]
    exact admits

def charges (settings : Settings) (check : Check) : List (String × Int) :=
  if 0 < check.inviterId ∧ 0 < settings.windowMinutes then keysOf settings check else []

theorem eligibility_spec (stores : Stores)
    (answered : settings.redisEnabled = true → check.answer = .answered) :
    Fair settings check.now (charges settings check) stores
      (checkInviteRewardEligibility settings check stores).1
      (checkInviteRewardEligibility settings check stores).2.1 := by
  by_cases counted : 0 < check.inviterId ∧ 0 < settings.windowMinutes
  · rcases answer : checkInviteRewardLimits settings check (keysOf settings check) stores with
      ⟨after, allowed⟩
    rw [eligibility_counted counted answer, charges, if_pos counted]
    exact limits_spec answered answer
  · rw [eligibility_uncounted counted, charges, if_neg counted]
    exact ⟨nothing_admitted _ _ _, fun _ => rfl, fun _ => rfl⟩

theorem counts_charged (window : 0 < settings.windowMinutes)
    (counted : counts settings counter stores (.check check) = true) :
    (counter.key settings, counter.limit settings) ∈ charges settings check ∧
      (checkInviteRewardEligibility settings check stores).2.1 = true := by
  rw [counts, Bool.and_eq_true, decide_eq_true_eq] at counted
  obtain ⟨⟨known, member⟩, allowed⟩ := counted
  rw [charges, if_pos ⟨known, window⟩]
  exact ⟨List.mem_map_of_mem member, allowed⟩

/-! ## Windows -/

def Within (timeToLive opens limit : Int) (key : String) (allowed : Nat) (store : Store) : Prop :=
  allowed ≤ limit ∧ (allowed = 0 ∧ liveEntry opens store key = none ∨
    ∃ entry, store key = some entry ∧ allowed ≤ entry.count ∧ opens + timeToLive ≤ entry.expiredAt)

section Window
variable {now timeToLive opens limit : Int} {key : String} {number : Nat} {before after : Store}

theorem not_live_later (reached : opens ≤ now)
    (none_ : liveEntry opens store key = none) : liveEntry now store key = none := by
  rw [liveEntry, Option.filter_eq_none_iff] at none_ ⊢
  intro entry stored
  have dead := none_ entry stored
  rw [decide_eq_true_eq, Int.not_lt] at dead ⊢
  exact Int.le_trans dead reached

theorem within_same (inside : now < opens + timeToLive)
    (within : Within timeToLive opens limit key number before) (same : Same now before after key) :
    Within timeToLive opens limit key number after := by
  refine ⟨within.1, ?_⟩
  rcases same with kept | ⟨gone, expired⟩
  · rcases within.2 with ⟨zero, none_⟩ | ⟨entry, stored, counted, lasts⟩
    · exact .inl ⟨zero, by rw [liveEntry, kept]; exact none_⟩
    · exact .inr ⟨entry, kept.trans stored, counted, lasts⟩
  · rcases within.2 with ⟨zero, -⟩ | ⟨entry, stored, counted, lasts⟩
    · exact .inl ⟨zero, by rw [liveEntry, gone]; rfl⟩
    · have alive : now < entry.expiredAt := Int.lt_of_lt_of_le inside lasts
      simp [liveEntry, stored, Int.not_le.mpr alive] at expired

theorem within_charged (reached : opens ≤ now) (inside : now < opens + timeToLive)
    (positive : 0 < limit) (within : Within timeToLive opens limit key number before)
    (charged : Charged now timeToLive before after key) (one : more ≤ 1)
    (room : more = 1 → ∀ entry, liveEntry now before key = some entry → entry.count < limit) :
    Within timeToLive opens limit key (number + more) after := by
  obtain ⟨entry, stored, is⟩ := charged
  obtain ⟨bounded, ⟨zero, none_⟩ | ⟨old, was, counted, lasts⟩⟩ := within
  · rw [not_live_later reached none_] at is
    exact ⟨by omega, .inr ⟨entry, stored, by omega, by omega⟩⟩
  · have alive : now < old.expiredAt := Int.lt_of_lt_of_le inside lasts
    have live : liveEntry now before key = some old := by simp [liveEntry, was, alive]
    rw [live] at is room
    have fits : more = 1 → old.count < limit := fun isOne => room isOne old rfl
    exact ⟨by omega, .inr ⟨entry, stored, by omega, by omega⟩⟩

theorem within_admits
    (reached : opens ≤ now) (inside : now < opens + timeToLive) (positive : 0 < limit)
    (admits : Admits now timeToLive keys before (after, allowed))
    (within : Within timeToLive opens limit key number before)
    (charges : counted = true → (key, limit) ∈ keys ∧ allowed = true) :
    Within timeToLive opens limit key (number + if counted then 1 else 0) after := by
  by_cases moved : key ∈ keys.map Prod.fst ∧ allowed = true
  · obtain ⟨member, isAllowed⟩ := moved
    obtain ⟨entry, isKey, same⟩ := List.mem_map.mp member
    have charged := admits.charged isAllowed entry isKey
    rw [same] at charged
    refine within_charged reached inside positive within charged (by split <;> decide) ?_
    intro one old live
    have isCounted : counted = true := by
      by_contra other
      rw [if_neg other] at one
      exact absurd one (by decide)
    exact admits.room isAllowed (key, limit) (charges isCounted).1 old live
  · have uncounted : counted ≠ true := fun isCounted =>
      moved ⟨List.mem_map_of_mem (charges isCounted).1, (charges isCounted).2⟩
    rw [if_neg uncounted]
    have same : Same now before after key := by
      cases allowed with
      | false => exact admits.refused rfl key
      | true => exact admits.others key fun member => moved ⟨member, rfl⟩
    exact within_same inside within same

end Window

theorem reset_answering (settings : Settings) (inviterId : Int) (reached : String → Bool)
    (stores : Stores) (key : String)
    (spared : 0 < inviterId → hit settings inviterId reached key = false) :
    (resetInviteRewardLimiter settings inviterId reached stores).answering settings key =
      stores.answering settings key := by
  rw [resetInviteRewardLimiter]
  split
  · rfl
  · rename_i positive
    have notHit := spared (Int.not_le.mp positive)
    rw [hit] at notHit
    by_cases enabled : settings.redisEnabled = true
    · rw [if_pos enabled] at notHit
      rw [Stores.answering, Stores.answering, if_pos enabled, if_pos enabled]
      dsimp only
      rw [enabled, Bool.true_and, notHit, if_neg Bool.false_ne_true]
    · rw [if_neg enabled] at notHit
      rw [Stores.answering, Stores.answering, if_neg enabled, if_neg enabled]
      dsimp only
      rw [notHit, if_neg Bool.false_ne_true]

theorem within_run {counter : Counter} {opens : Int} (positive : 0 < counter.limit settings)
    (window : List Event) {number : Nat}
    (answered : Answered settings window)
    (inside : ∀ check, .check check ∈ window → opens ≤ check.now ∧ check.now < opens + settings.timeToLive)
    (spared : ∀ inviterId reached, .reset inviterId reached ∈ window → 0 < inviterId →
      hit settings inviterId reached (counter.key settings) = false)
    (within : Within settings.timeToLive opens (counter.limit settings) (counter.key settings) number
      (stores.answering settings)) :
    number + allowedFor settings counter stores window ≤ counter.limit settings := by
  induction window generalizing stores number with
  | nil => simpa [allowedFor] using within.1
  | cons event window ih =>
    have later := @ih (step settings stores event)
      (number + if counts settings counter stores event then 1 else 0)
      (fun enabled check member => answered enabled check (.tail _ member))
      (fun check member => inside check (.tail _ member))
      (fun inviterId reached member => spared inviterId reached (.tail _ member))
    rw [allowedFor, Int.natCast_add, ← Int.add_assoc, ← Int.natCast_add]
    apply later
    cases event with
    | check check =>
      obtain ⟨reached, before_⟩ := inside check (.head _)
      have lasts : 0 < settings.windowMinutes := by
        rw [Settings.timeToLive] at before_
        omega
      have spec := @eligibility_spec settings check stores fun enabled => answered enabled check (.head _)
      exact within_admits reached before_ positive spec.1 within fun counted =>
        counts_charged lasts counted
    | reset inviterId reached =>
      have kept := reset_answering settings inviterId reached stores (counter.key settings)
        (spared inviterId reached (.head _))
      obtain ⟨bounded, state⟩ := within
      refine ⟨bounded, ?_⟩
      rw [step, liveEntry, kept]
      exact state

/-! ## Resets -/

theorem reset_keeps_iff (inviterId : Int) (reached : String → Bool) (counter : Counter) :
    let left_ := resetInviteRewardLimiter settings inviterId reached stores
    let key := counter.key settings
    (left_.memory key = stores.memory key ∧ left_.redis key = stores.redis key) ↔
      (0 < inviterId → Touches inviterId counter → stores.memory key = none ∧
        (settings.redisEnabled = true → reached key = true → stores.redis key = none)) := by
  by_cases positive : 0 < inviterId
  · rw [resetInviteRewardLimiter, if_neg (Int.not_le.mpr positive)]
    dsimp only
    by_cases touches : Touches inviterId counter
    · rw [(memory_hit_iff settings inviterId counter).mpr touches,
        (redis_hit_iff settings inviterId counter).mpr touches, if_pos rfl, Bool.and_true]
      by_cases scanned : (settings.redisEnabled && reached (counter.key settings)) = true
      · rw [if_pos scanned]
        obtain ⟨enabled, isReached⟩ := Bool.and_eq_true_iff.mp scanned
        exact ⟨fun kept _ _ => ⟨kept.1.symm, fun _ _ => kept.2.symm⟩, fun empty =>
          ⟨(empty positive touches).1.symm, ((empty positive touches).2 enabled isReached).symm⟩⟩
      · rw [if_neg scanned]
        exact ⟨fun kept _ _ => ⟨kept.1.symm, fun enabled isReached =>
          absurd (Bool.and_eq_true_iff.mpr ⟨enabled, isReached⟩) scanned⟩,
          fun empty => ⟨(empty positive touches).1.symm, rfl⟩⟩
    · have notMemory := mt (memory_hit_iff settings inviterId counter).mp touches
      have notRedis := mt (redis_hit_iff settings inviterId counter).mp touches
      rw [if_neg notMemory, Bool.eq_false_iff.mpr notRedis, Bool.and_false, if_neg Bool.false_ne_true]
      exact ⟨fun _ _ isTouched => absurd isTouched touches, fun _ => ⟨rfl, rfl⟩⟩
  · rw [resetInviteRewardLimiter, if_pos (Int.not_lt.mp positive)]
    exact ⟨fun _ isPositive => absurd isPositive positive, fun _ => ⟨rfl, rfl⟩⟩

theorem refusal_keeps (answered : settings.redisEnabled = true → check.answer = .answered)
    (refused : (checkInviteRewardEligibility settings check stores).2.1 = false) (key : String) :
    let after := (checkInviteRewardEligibility settings check stores).1
    liveEntry check.now after.memory key = liveEntry check.now stores.memory key ∧
      liveEntry check.now after.redis key = liveEntry check.now stores.redis key := by
  obtain ⟨admits, memory, redis⟩ := @eligibility_spec settings check stores answered
  have same := same_live (admits.refused refused key)
  by_cases enabled : settings.redisEnabled = true
  · rw [Stores.answering, Stores.answering, if_pos enabled, if_pos enabled] at same
    exact ⟨by rw [memory enabled], same⟩
  · rw [Stores.answering, Stores.answering, if_neg enabled, if_neg enabled] at same
    exact ⟨same, by rw [redis (Bool.eq_false_iff.mpr enabled)]⟩

end Runs

/-- While Redis answers, the limits hold in every window and a refusal counts nothing;
the counters of other inviters stay as they are exactly where no reset meets one whose
number begins with the number of the inviter, or whose address names the inviter. -/
theorem reward_limits_hold_iff (settings : Settings) (events : List Event)
    (answered : Answered settings events) : Sound settings events ↔ Spares settings events := by
  constructor
  · intro sound before inviterId reached after isRun positive counter other owner apart touches
    have kept := sound.resets before inviterId reached after isRun counter other owner apart
    exact (reset_keeps_iff inviterId reached counter).mp kept positive touches
  · intro spares
    refine ⟨?_, ?_, ?_⟩
    · intro before window after isRun counter opens positive none_ inside spared
      have counted := @within_run settings (run settings {} before) counter opens positive window 0
        (fun enabled check member => answered enabled check (by
          rw [isRun]
          exact List.mem_append_left _ (List.mem_append_right _ member)))
        inside spared ⟨Int.le_of_lt positive, .inl ⟨rfl, none_⟩⟩
      omega
    · intro before check after isRun stores answer refused key
      exact refusal_keeps (fun enabled => answered enabled check (by simp [isRun])) refused key
    · intro before inviterId reached after isRun counter other owner apart
      exact (reset_keeps_iff inviterId reached counter).mpr fun positive =>
        spares before inviterId reached after isRun positive counter other owner apart

theorem empty_allows (settings : Settings) (check : Check) (inMemory : settings.redisEnabled = false) :
    (checkInviteRewardEligibility settings check {}).2.1 = true := by
  by_contra refused
  have empty : ∀ (keys : List (String × Int)) now,
      checkCounts now keys (fun _ => none) = (fun _ => none, true) := by
    intro keys now
    induction keys with
    | nil => rfl
    | cons key rest ih =>
      rw [checkCounts]
      split
      · exact ih
      · simpa using ih
  apply refused
  by_cases counted : 0 < check.inviterId ∧ 0 < settings.windowMinutes
  · rcases answer : checkInviteRewardLimits settings check (keysOf settings check) {} with
      ⟨after, allowed⟩
    rw [eligibility_counted counted answer]
    rw [checkInviteRewardLimits, keysOf_filtered, inMemory] at answer
    split at answer
    · exact (Prod.mk.inj answer).2.symm
    · rename_i some_
      simp only [allow, some_, if_false, empty, if_true, Bool.false_eq_true] at answer
      exact (Prod.mk.inj answer).2.symm
  · rw [eligibility_uncounted counted]

theorem first_stored
    (inMemory : settings.redisEnabled = false)
    (counted : 0 < check.inviterId ∧ 0 < settings.windowMinutes)
    (member : counter ∈ counters settings check) :
    (run settings {} [.check check]).memory (counter.key settings) ≠ none := by
  have spec := @eligibility_spec settings check {} fun enabled =>
    absurd (inMemory.symm.trans enabled) (by decide)
  have charged := spec.1.charged (empty_allows settings check inMemory)
    (counter.key settings, counter.limit settings) (by
      rw [charges, if_pos counted]
      exact List.mem_map_of_mem member)
  obtain ⟨entry, stored, -⟩ := charged
  rw [Stores.answering, inMemory, if_neg Bool.false_ne_true] at stored
  intro gone
  exact absurd (stored.symm.trans gone) (by simp)

theorem number_digits (value : Nat) : (Int.ofNat value).repr.toList = Nat.toDigits 10 value := by
  change value.repr.toList = _
  rw [Nat.toList_repr]

private theorem untouched_not_stored
    (apart : ∀ stored ∈ counters settings check, ¬ Touches inviterId stored)
    (inMemory : settings.redisEnabled = false) (touches : Touches inviterId counter) :
    (run settings {} [.check check]).memory (counter.key settings) = none := by
  have spec := @eligibility_spec settings check {} fun enabled =>
    absurd (inMemory.symm.trans enabled) (by decide)
  have absent : counter.key settings ∉ (charges settings check).map Prod.fst := by
    intro member
    obtain ⟨charge, charged, same⟩ := List.mem_map.mp member
    unfold charges at charged
    split at charged
    · obtain ⟨stored, inside, rfl⟩ := List.mem_map.mp charged
      have hit := (memory_hit_iff settings inviterId counter).mpr touches
      rw [← same] at hit
      exact apart stored inside ((memory_hit_iff settings inviterId stored).mp hit)
    · cases charged
  have kept := spec.1.others (counter.key settings) absent
  rw [Stores.answering, Stores.answering, inMemory, if_neg Bool.false_ne_true,
    if_neg Bool.false_ne_true] at kept
  exact kept.elim id And.left

/-- Inviter 12 has counters when inviter 2 is reset, and keeps them. -/
theorem other_reset_spares :
    let settings : Settings := ⟨60, 1, 2, 1, false⟩
    let check : Check := ⟨12, "10.0.0.1", 5, .answered⟩
    (run settings {} [.check check]).memory ((Counter.inviter 12).key settings) ≠ none ∧
      Sound settings [.check check, .reset 2 fun _ => true, .check check] := by
  intro settings check
  have plain : trimSpace "10.0.0.1" = "10.0.0.1" := by decide
  have other_start : ¬ (2 : Int).repr.toList <+: (12 : Int).repr.toList := by
    rw [show (2 : Int) = Int.ofNat 2 from rfl, show (12 : Int) = Int.ofNat 12 from rfl, number_digits,
      number_digits]
    decide
  have other_address : ¬ (inviterMarker 2).toList <:+: ':' :: "10.0.0.1".toList := by decide
  refine ⟨first_stored rfl (by decide) (by simp [settings, check, counters, Counter.limit, plain]),
    (reward_limits_hold_iff settings _ fun enabled => Bool.noConfusion enabled).mpr ?_⟩
  intro before inviterId reached after isRun _ counter _ _ _ touches
  rcases before with _ | ⟨first, _ | ⟨second, before⟩⟩
  · cases isRun
  · obtain ⟨rfl, later⟩ := List.cons.inj isRun
    obtain ⟨rfl, -⟩ := Event.reset.inj (List.cons.inj later).1
    refine ⟨untouched_not_stored (fun stored inside => ?_) rfl touches, Bool.noConfusion⟩
    have three : stored = .inviter 12 ∨ stored = .ip "10.0.0.1" ∨ stored = .inviterIP 12 "10.0.0.1" := by
      simpa [counters, check, plain, Counter.limit, settings] using inside
    rcases three with rfl | rfl | rfl
    · exact other_start
    · exact other_address
    · exact not_or.mpr ⟨other_start, other_address⟩
  · obtain ⟨rfl, later⟩ := List.cons.inj isRun
    obtain ⟨rfl, rest⟩ := List.cons.inj later
    have member : Event.reset inviterId reached ∈ before ++ .reset inviterId reached :: after := by
      simp
    change _ = before ++ Event.reset inviterId reached :: after at rest
    rw [← rest, List.mem_singleton] at member
    exact Event.noConfusion member

theorem touched_unsound
    (reached : String → Bool) (inMemory : settings.redisEnabled = false)
    (counted : 0 < check.inviterId ∧ 0 < settings.windowMinutes)
    (member : counter ∈ counters settings check) (owner : counter.owner = some other)
    (apart : other ≠ inviterId) (positive : 0 < inviterId) (touches : Touches inviterId counter) :
    ¬ Sound settings [.check check, .reset inviterId reached] := by
  intro sound
  have kept := sound.resets [.check check] inviterId reached [] rfl counter other owner apart
  exact first_stored inMemory counted member
    ((reset_keeps_iff inviterId reached counter).mp kept positive touches).1

theorem one_touches_twelve : Touches 1 (.inviter 12) := by
  rw [Touches, show (1 : Int) = Int.ofNat 1 from rfl, show (12 : Int) = Int.ofNat 12 from rfl,
    number_digits, number_digits]
  decide

theorem one_in_address : Touches 1 (.inviterIP 7 "fe80:inviter:1") := by
  have digit : Nat.toDigits 10 1 = ['1'] := by decide
  right
  exact ⟨':' :: "fe80".toList, [], by decide⟩

/-- A reset of inviter 1 deletes the counter of inviter 12, and that of inviter 7 at an
address that names inviter 1. -/
theorem reset_touches_others :
    ¬ Sound ⟨60, 1, 2, 1, false⟩ [.check ⟨12, "10.0.0.1", 5, .answered⟩, .reset 1 fun _ => true] ∧
      ¬ Sound ⟨60, 1, 2, 1, false⟩
        [.check ⟨7, "fe80:inviter:1", 5, .answered⟩, .reset 1 fun _ => true] := by
  have plain : trimSpace "10.0.0.1" = "10.0.0.1" := by decide
  have trimmed : trimSpace "fe80:inviter:1" = "fe80:inviter:1" := by decide
  constructor
  · exact touched_unsound _ rfl (by decide) (by simp [counters, Counter.limit, plain]) rfl
      (by decide) (by decide) one_touches_twelve
  · exact touched_unsound _ rfl (by decide) (by simp [counters, Counter.limit, trimmed]) rfl
      (by decide) (by decide) one_in_address

end NewApi.InviteRewardLimit
