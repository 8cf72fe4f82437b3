import Mathlib.Data.List.Basic
import NewApi.AtomicThreads

/-! The Redis hash of one user or one token beside its database row. A request
is a program of atomic commands: a fill writes a row that it read before, an
increment or a field write asks for the remaining lifetime of the key and then
writes, and the key may expire or be deleted in between. What is proved is
exactly when a hash is a complete record, and what keeps its quota the stored
one. The row exists throughout, and the commands themselves do not fail. -/
namespace NewApi.RedisCache
open NewApi.GuardedRun NewApi.AtomicThreads

/-! ## Objects and hashes -/

/-- The struct that a hash holds: the field that increments add to, the other
fields, and their zero values as they are formatted. -/
structure Schema where
  quotaField : String
  columns : List String
  zero : String → String
  others : columns ≠ []
  apart : quotaField ∉ columns

/-- `model/user_cache.go::UserBase`. -/
def userBase : Schema where
  quotaField := "Quota"
  columns := ["Id", "Group", "Email", "Status", "Role", "Username", "Setting", "PermissionsJSON"]
  zero := fun name => if name ∈ ["Id", "Status", "Role"] then "0" else ""
  others := by decide
  apart := by decide

/-- `model/token.go::Token`, apart from the key, which is cleaned before it is
written and known to who reads, and `DeletedAt`, which is skipped. -/
def token : Schema where
  quotaField := "RemainQuota"
  columns := ["Id", "UserId", "UserSubscriptionId", "Username", "Source", "SpecificChannelId",
    "SpecificChannelKeyIndex", "Status", "Name", "CreatedTime", "AccessedTime", "ExpiredTime",
    "UnlimitedQuota", "ModelLimitsEnabled", "ModelLimits", "AllowIps", "UsedQuota", "Group",
    "BusinessGroup", "PeriodDuration", "PeriodQuota", "PeriodUsedQuota", "PeriodStartAt",
    "PeriodResetAnchor", "CrossGroupRetry", "LastTestAt", "LastTestOK", "LastTestSummary"]
  zero := fun name =>
    if name ∈ ["Username", "Source", "Name", "ModelLimits", "AllowIps", "Group", "BusinessGroup",
        "LastTestSummary"] then ""
    else if name ∈ ["UnlimitedQuota", "ModelLimitsEnabled", "CrossGroupRetry", "LastTestOK"] then "false"
    else "0"
  others := by decide
  apart := by decide

structure Row where
  quota : Int
  columns : String → String

structure Hash where
  quota : Option Int := none
  columns : String → Option String := fun _ => none

structure Entry where
  hash : Hash
  deadline : Option Nat

def hashOf (cache : Option Entry) : Hash := (cache.map Entry.hash).getD {}

def deadlineOf (cache : Option Entry) : Option Nat := cache.bind Entry.deadline

def Row.withField (schema : Schema) (field : String) (value row : Row) : Row :=
  if field = schema.quotaField then { row with quota := value.quota }
  else { row with columns := fun name => if name = field then value.columns name else row.columns name }

/-- `HSET` of one field. -/
def Hash.withField (schema : Schema) (field : String) (value : Row) (hash : Hash) : Hash :=
  if field = schema.quotaField then { hash with quota := some value.quota }
  else { hash with
    columns := fun name => if name = field then some (value.columns name) else hash.columns name }

/-- `HSET` of every field of an object. -/
def Hash.withObject (schema : Schema) (object : Row) (hash : Hash) : Hash where
  quota := some object.quota
  columns := fun name =>
    if name ∈ schema.columns then some (object.columns name) else hash.columns name

/-- `HINCRBY` of the quota. -/
def Hash.incremented (delta : Int) (hash : Hash) : Hash :=
  { hash with quota := some (hash.quota.getD 0 + delta) }

/-- `common/redis.go::RedisHGetObj`: a missing key is an error, a missing field
keeps its zero value. -/
def redisHGetObj (schema : Schema) (cache : Option Entry) : Option Row :=
  cache.map fun entry =>
    { quota := entry.hash.quota.getD 0
      columns := fun name => (entry.hash.columns name).getD (schema.zero name) }

/-- The reply to `TTL`, in seconds to the nearest one. -/
def ttlReply (cache : Option Entry) (now : Nat) : Int :=
  match cache with
  | none => -2
  | some entry => match entry.deadline with
    | none => -1
    | some deadline => ((deadline - now + 500) / 1000 : Nat)

/-! ## Commands -/

/-- What a command is done to: the row of the database, the key of Redis, and,
for the statements alone, what the last fill wrote with the later changes. -/
structure Store where
  now : Nat := 0
  row : Row
  cache : Option Entry := none
  shadow : Option Row := none

/-- What a request remembers: the row or the columns it read, and the lifetime it
was told. -/
structure Memory where
  row : Row := { quota := 0, columns := fun _ => "" }
  ttl : Int := 0

inductive Action where
  /-- `HGETALL`: a hit ends the request. -/
  | hGetAll
  /-- `SELECT`: the row, or some of its columns. -/
  | first
  /-- `UPDATE quota = quota + ?`, whose increment of the cache is a command of the
  same request. -/
  | addQuota (delta : Int)
  /-- The same update, without an increment of the cache. -/
  | creditQuota (delta : Int)
  /-- The remembered row is changed, and some columns of it are written. -/
  | updates (change : Row → Row) (quota : Bool) (columns : List String)
  /-- `TTL`: without a positive reply the request ends. -/
  | ttl
  /-- `HINCRBY` and `EXPIRE` in one transaction. -/
  | hIncrBy (delta : Int)
  /-- `HSET` of one field and `EXPIRE` in one transaction. -/
  | hSetField (field : String)
  /-- `HSET` of every field, and `EXPIRE` where there is a lifetime. -/
  | hSetObj
  | del

def expiry (now : Nat) (seconds : Int) : Nat := now + seconds.toNat * 1000

variable (schema : Schema) (cacheSeconds : Int)

def perform (action : Action) (memory : Memory) (store : Store) : Outcome Store Memory :=
  match action with
  | .hGetAll => { shared := store, memory, goesOn := store.cache.isNone }
  | .first => { shared := store, memory := { memory with row := store.row } }
  | .addQuota delta | .creditQuota delta =>
    { shared := { store with row := { store.row with quota := store.row.quota + delta } }, memory }
  | .updates change quota columns =>
    let row := change memory.row
    { shared := { store with
        row :=
          { quota := if quota then row.quota else store.row.quota
            columns := fun name => if name ∈ columns then row.columns name else store.row.columns name } }
      memory := { memory with row } }
  | .ttl =>
    let ttl := ttlReply store.cache store.now
    { shared := store, memory := { memory with ttl }, goesOn := 0 < ttl }
  | .hIncrBy delta =>
    { shared := { store with
        cache := some
          { hash := (hashOf store.cache).incremented delta
            deadline := some (expiry store.now memory.ttl) }
        shadow := store.shadow.map fun row => { row with quota := row.quota + delta } }
      memory }
  | .hSetField field =>
    { shared := { store with
        cache := some
          { hash := (hashOf store.cache).withField schema field memory.row
            deadline := some (expiry store.now memory.ttl) }
        shadow := store.shadow.map (Row.withField schema field memory.row) }
      memory }
  | .hSetObj =>
    { shared := { store with
        cache := some
          { hash := (hashOf store.cache).withObject schema memory.row
            deadline := if 0 < cacheSeconds then some (expiry store.now cacheSeconds) else deadlineOf store.cache }
        shadow := some memory.row }
      memory }
  | .del => { shared := { store with cache := none }, memory }

def elapse (milliseconds : Nat) (store : Store) : Store :=
  { store with
    now := store.now + milliseconds
    cache := store.cache.filter fun entry =>
      entry.deadline.all fun deadline => decide (store.now + milliseconds < deadline) }

/-! ## Requests -/

/-- The requests on one user and on one token that touch the hash or the quota.
Amounts that are negative are refused where the source refuses them. -/
inductive Request where
  | getUserCache
  | getUserQuota (fromDB : Bool)
  | getUserField (field : String) (fromDB : Bool)
  | increaseUserQuota (quota : Int) (db : Bool)
  | decreaseUserQuota (quota : Int)
  | userCheckin (quota : Int)
  | recharge (quota : Int)
  | refundToBalance (quota : Int)
  | updateUserGroup (group : String)
  | updateUser (change : Row → Row) (columns : List String)
  | editUser (change : Row → Row) (columns : List String)
  | clearBinding
  | invalidateUserCache
  | getTokenById
  | getTokenByKey (fromDB : Bool)
  | increaseTokenQuota (quota : Int) (immediate : Bool)
  | decreaseTokenQuota (quota : Int) (immediate : Bool)
  | updateToken (change : Row → Row) (columns : List String)
  | selectUpdateToken (change : Row → Row)
  | deleteTokenCache
  | batchUpdate (delta : Int)

/-- `model/user_cache.go::GetUserCache` and `model/token.go::GetTokenByKey`. -/
def readThrough : List Action := [.hGetAll, .first, .hSetObj]

/-- `common/redis.go::RedisHIncrBy`. -/
def redisHIncrBy (delta : Int) : List Action := [.ttl, .hIncrBy delta]

/-- `common/redis.go::RedisHSetField`, of a field of the row that was read. -/
def redisHSetField (field : String) : List Action := [.ttl, .hSetField field]

/-- A change of the quota and its increment of the cache, which run beside each
other: `model/user.go::IncreaseUserQuota` and `DecreaseUserQuota`. With batched
updates the change is made later. -/
def changeUserQuota (delta : Int) (batched : Bool) : List (List Action) :=
  if batched then [redisHIncrBy delta] else [redisHIncrBy delta, [.addQuota delta]]

/-- `model/token.go::IncreaseTokenQuota` and `DecreaseTokenQuota`. -/
def changeTokenQuota (delta : Int) (batched : Bool) : List (List Action) :=
  if batched then [redisHIncrBy delta] else [[.creditQuota delta, .del]]

/-- The programs that a request starts; `batch` is `BatchUpdateEnabled`. -/
def programs (batch : Bool) : Request → List (List Action)
  | .getUserCache => [readThrough]
  | .getUserQuota fromDB =>
    if fromDB then [.first :: redisHSetField userBase.quotaField] else [readThrough]
  | .getUserField field fromDB =>
    if fromDB then [.first :: redisHSetField field] else [readThrough]
  | .increaseUserQuota quota db => if quota < 0 then [] else changeUserQuota quota (!db && batch)
  | .decreaseUserQuota quota => if quota < 0 then [] else changeUserQuota (-quota) batch
  | .userCheckin quota => [.addQuota quota :: redisHIncrBy quota]
  | .recharge quota => [[.creditQuota quota]]
  | .refundToBalance quota => [.creditQuota quota :: .first :: redisHSetField userBase.quotaField]
  | .updateUserGroup group =>
    [.updates (fun row => { row with columns := fun _ => group }) false ["Group"] :: redisHSetField "Group"]
  | .updateUser change columns => [[.first, .updates change false columns, .hSetObj]]
  | .editUser change columns => [[.first, .updates change true columns, .first, .hSetObj]]
  | .clearBinding =>
    [[.updates (fun row => { row with columns := fun _ => "" }) false ["Email"], .first, .hSetObj]]
  | .invalidateUserCache => [[.del]]
  | .getTokenById => [[.first, .hSetObj]]
  | .getTokenByKey fromDB => if fromDB then [[.first, .hSetObj]] else [readThrough]
  | .increaseTokenQuota quota immediate =>
    if quota < 0 then [] else changeTokenQuota quota (batch && !immediate)
  | .decreaseTokenQuota quota immediate =>
    if quota < 0 then [] else changeTokenQuota (-quota) (batch && !immediate)
  | .updateToken change columns => [[.first, .updates change true columns, .hSetObj]]
  | .selectUpdateToken change => [[.first, .updates change false ["AccessedTime", "Status"], .hSetObj]]
  | .deleteTokenCache => [[.del]]
  | .batchUpdate delta => [[.creditQuota delta]]

def machine (batch : Bool) : Machine Store Action Memory Request Nat where
  perform := perform schema cacheSeconds
  programs := programs batch
  fresh := {}
  surround := elapse

def initial (row : Row) (now : Nat) : System Store Action Memory where
  shared := { now, row }

/-! ## A cached hash is a complete record -/

def Holds (hash : Hash) (record : Row) : Prop :=
  hash.quota = some record.quota ∧ ∀ name ∈ schema.columns, hash.columns name = some (record.columns name)

def Recorded (store : Store) : Prop :=
  ∀ entry, store.cache = some entry → ∃ record, store.shadow = some record ∧ Holds schema entry.hash record

def Complete (store : Store) : Prop :=
  ∀ object, redisHGetObj schema store.cache = some object →
    ∃ record, store.shadow = some record ∧ Holds schema (hashOf store.cache) record ∧
      object.quota = record.quota ∧ ∀ name ∈ schema.columns, object.columns name = record.columns name

def FindsKey (action : Action) (_ : List Action) (_ : Memory) (system : System Store Action Memory)
    (_ : Nat) : Prop :=
  match action with
  | .hIncrBy _ | .hSetField _ => system.shared.cache.isSome
  | _ => True

variable {schema cacheSeconds}

theorem complete_iff_recorded (store : Store) : Complete schema store ↔ Recorded schema store := by
  constructor
  · intro complete entry cached
    obtain ⟨record, shadow, holds, -⟩ := complete _ (by rw [cached]; rfl)
    rw [cached] at holds
    exact ⟨record, shadow, holds⟩
  · intro recorded object read
    obtain ⟨entry, cached, rfl⟩ := Option.map_eq_some_iff.mp read
    obtain ⟨record, shadow, holds⟩ := recorded entry cached
    refine ⟨record, shadow, ?_, ?_, fun name listed => ?_⟩
    · rw [cached]
      exact holds
    · simp only [holds.1, Option.getD_some]
    · simp only [holds.2 name listed, Option.getD_some]

theorem holds_object (object : Row) (hash : Hash) :
    Holds schema (hash.withObject schema object) object := by
  refine ⟨rfl, fun name listed => ?_⟩
  simp only [Hash.withObject, if_pos listed]

theorem holds_incremented {hash : Hash} {record : Row} (holds : Holds schema hash record) (delta : Int) :
    Holds schema (hash.incremented delta) { record with quota := record.quota + delta } := by
  refine ⟨?_, holds.2⟩
  simp only [Hash.incremented, holds.1, Option.getD_some]

theorem holds_field {hash : Hash} {record : Row} (holds : Holds schema hash record) (field : String)
    (value : Row) :
    Holds schema (hash.withField schema field value) (Row.withField schema field value record) := by
  unfold Hash.withField Row.withField
  split
  · exact ⟨rfl, holds.2⟩
  · refine ⟨holds.1, fun name listed => ?_⟩
    dsimp only
    split
    · rfl
    · exact holds.2 name listed

theorem not_holds_incremented (delta : Int) (record : Row) :
    ¬ Holds schema (Hash.incremented delta {}) record := by
  rintro ⟨-, columns⟩
  obtain ⟨name, listed⟩ := List.exists_mem_of_ne_nil _ schema.others
  exact Option.some_ne_none _ (columns name listed).symm

theorem not_holds_field (field : String) (value record : Row) :
    ¬ Holds schema (Hash.withField schema field value {}) record := by
  rintro ⟨quota, columns⟩
  unfold Hash.withField at quota columns
  split at quota
  · obtain ⟨name, listed⟩ := List.exists_mem_of_ne_nil _ schema.others
    rw [if_pos ‹_›] at columns
    exact Option.some_ne_none _ (columns name listed).symm
  · exact Option.some_ne_none _ quota.symm

/-- A write into the hash keeps the record where it finds the hash. -/
theorem hash_write_recorded_iff {write : Hash → Hash} {change : Row → Row}
    (recorded : Recorded schema before) (cached : after.cache = some ⟨write (hashOf before.cache), deadline⟩)
    (shadow : after.shadow = before.shadow.map change) (unheld : ∀ record, ¬ Holds schema (write {}) record)
    (held : ∀ hash record, Holds schema hash record → Holds schema (write hash) (change record)) :
    Recorded schema after ↔ before.cache.isSome = true := by
  cases found : before.cache with
  | none =>
    refine iff_of_false (fun recorded => ?_) Bool.false_ne_true
    obtain ⟨record, -, holds⟩ := recorded _ cached
    rw [found] at holds
    exact unheld record holds
  | some entry =>
    refine iff_of_true (fun later written => ?_) rfl
    obtain ⟨record, same, holds⟩ := recorded entry found
    obtain rfl := Option.some.inj (cached.symm.trans written)
    rw [found]
    exact ⟨change record, by rw [shadow, same]; rfl, held _ record holds⟩

theorem perform_recorded_iff (action : Action) (rest : List Action) (memory : Memory)
    (system : System Store Action Memory) (index : Nat) (recorded : Recorded schema system.shared) :
    Recorded schema (perform schema cacheSeconds action memory system.shared).shared ↔
      FindsKey action rest memory system index := by
  cases action with
  | hGetAll | first | addQuota | creditQuota | updates | ttl => exact iff_of_true recorded trivial
  | del => exact iff_of_true (fun entry cached => absurd cached nofun) trivial
  | hSetObj =>
    refine iff_of_true (fun entry cached => ⟨memory.row, rfl, ?_⟩) trivial
    obtain rfl := Option.some.inj cached
    exact holds_object memory.row _
  | hIncrBy delta =>
    exact hash_write_recorded_iff recorded rfl rfl (not_holds_incremented delta) fun _ _ holds =>
      holds_incremented holds delta
  | hSetField field =>
    exact hash_write_recorded_iff recorded rfl rfl (not_holds_field field memory.row) fun _ _ holds =>
      holds_field holds field memory.row

theorem elapse_recorded (milliseconds : Nat) (store : Store) (recorded : Recorded schema store) :
    Recorded schema (elapse milliseconds store) := by
  intro entry cached
  obtain ⟨held, -⟩ := Option.filter_eq_some_iff.mp cached
  exact recorded entry held

/-! ## The cached quota is the stored one -/

def owed : List Action → Int
  | [] => 0
  | .hIncrBy delta :: rest => delta + owed rest
  | .addQuota delta :: rest => -delta + owed rest
  | _ :: rest => owed rest

def overwrites (schema : Schema) : List Action → Bool
  | [] => false
  | .hSetObj :: _ | .del :: _ => true
  | .hSetField field :: rest => field = schema.quotaField || overwrites schema rest
  | .hGetAll :: _ | .ttl :: _ => false
  | _ :: rest => overwrites schema rest

def Settling (schema : Schema) (threads : List (Thread Action Memory)) : Prop :=
  ∃ thread ∈ threads, overwrites schema thread.todo = true

def Formed (schema : Schema) : List Action → Prop
  | [] => True
  | .hGetAll :: rest => owed rest = 0 ∧ Formed schema rest
  | .updates _ quota _ :: rest => (quota = true → overwrites schema rest = true) ∧ Formed schema rest
  | _ :: rest => Formed schema rest

def Coherent (store : Store) : Prop :=
  ∀ entry, store.cache = some entry → entry.hash.quota = some store.row.quota

def Accounted (schema : Schema) (cacheSeconds : Int) (action : Action) (rest : List Action)
    (memory : Memory) (system : System Store Action Memory) (index : Nat) : Prop :=
  Settling schema (system.threads.set index
    ((perform schema cacheSeconds action memory system.shared).thread rest)) ∨
  match action with
  | .ttl => system.shared.cache.isSome → 0 < ttlReply system.shared.cache system.shared.now ∨ owed rest = 0
  | .creditQuota delta => system.shared.cache.isSome → delta = 0
  | .hSetObj => memory.row.quota + total owed system.threads = system.shared.row.quota
  | .hSetField field => field = schema.quotaField →
      memory.row.quota + total owed system.threads = system.shared.row.quota
  | _ => True

def Balanced (system : System Store Action Memory) (entry : Entry) : Prop :=
  entry.hash.quota = some (system.shared.row.quota - total owed system.threads)

structure Accounting (schema : Schema) (system : System Store Action Memory) : Prop where
  recorded : Recorded schema system.shared
  formed : ∀ thread ∈ system.threads, Formed schema thread.todo
  balance : ∀ entry, system.shared.cache = some entry →
    Settling schema system.threads ∨ Balanced system entry

theorem initial_accounting (row : Row) (now : Nat) : Accounting schema (initial row now) where
  recorded := fun _ cached => absurd cached nofun
  formed := fun _ member => absurd member List.not_mem_nil
  balance := fun _ cached => absurd cached nofun

theorem Accounting.coherent (accounting : Accounting schema system)
    (quiet : Quiet system) : Coherent system.shared := by
  intro entry cached
  rcases accounting.balance entry cached with ⟨thread, listed, overwrites⟩ | balanced
  · rw [quiet thread listed] at overwrites
    cases overwrites
  · rw [balanced, total_quiet rfl quiet, Int.sub_zero]

theorem formed_rest (action : Action) (rest : List Action) (formed : Formed schema (action :: rest)) :
    Formed schema rest := by
  cases action with
  | hGetAll | updates => exact formed.2
  | _ => exact formed

theorem changes_settle (delta : Int) :
    ((changeUserQuota delta false).map owed).sum = 0 ∧ ((changeTokenQuota delta false).map owed).sum = 0 := by
  simp [changeUserQuota, changeTokenQuota, redisHIncrBy, owed]

theorem programs_owe_nothing (request : Request) : ((programs false request).map owed).sum = 0 := by
  cases request with
  | increaseUserQuota quota db =>
    simp only [programs, Bool.and_false]
    split
    · rfl
    · exact (changes_settle quota).1
  | decreaseUserQuota quota =>
    simp only [programs]
    split
    · rfl
    · exact (changes_settle (-quota)).1
  | increaseTokenQuota quota immediate =>
    simp only [programs, Bool.false_and]
    split
    · rfl
    · exact (changes_settle quota).2
  | decreaseTokenQuota quota immediate =>
    simp only [programs, Bool.false_and]
    split
    · rfl
    · exact (changes_settle (-quota)).2
  | getUserQuota fromDB | getUserField field fromDB | getTokenByKey fromDB => cases fromDB <;> rfl
  | userCheckin quota => simp [programs, redisHIncrBy, owed]
  | _ => rfl

theorem changes_formed (delta : Int) (batched : Bool) :
    (∀ program ∈ changeUserQuota delta batched, Formed schema program) ∧
      ∀ program ∈ changeTokenQuota delta batched, Formed schema program := by
  cases batched <;> simp [changeUserQuota, changeTokenQuota, redisHIncrBy, Formed]

theorem programs_formed (batch : Bool) (request : Request) :
    ∀ program ∈ programs batch request, Formed schema program := by
  cases request with
  | increaseUserQuota | decreaseUserQuota =>
    simp only [programs]
    split
    · exact fun _ member => absurd member List.not_mem_nil
    · exact (changes_formed _ _).1
  | increaseTokenQuota quota immediate | decreaseTokenQuota quota immediate =>
    simp only [programs]
    split
    · exact fun _ member => absurd member List.not_mem_nil
    · exact (changes_formed _ _).2
  | getUserQuota fromDB | getUserField field fromDB | getTokenByKey fromDB =>
    cases fromDB <;> simp [programs, readThrough, redisHSetField, Formed, owed]
  | _ => simp [programs, readThrough, redisHSetField, redisHIncrBy, Formed, owed, overwrites]

section Acting

variable {action : Action} {rest : List Action} {memory : Memory} {system : System Store Action Memory}
variable {index : Nat}

theorem settling_stays
    (found : system.threads[index]? = some ⟨action :: rest, memory⟩)
    (keeps : overwrites schema (action :: rest) = true → overwrites schema new.todo = true)
    (settling : Settling schema system.threads) : Settling schema (system.threads.set index new) :=
  exists_set (fun todo => overwrites schema todo = true) found keeps settling

theorem total_after
    (found : system.threads[index]? = some ⟨action :: rest, memory⟩) :
    total owed (system.threads.set index new) =
      total owed system.threads - owed (action :: rest) + owed new.todo :=
  total_set found

theorem perform_balance (found : system.threads[index]? = some ⟨action :: rest, memory⟩)
    (accounting : Accounting schema system) (finds : FindsKey action rest memory system index)
    (accounted : Accounted schema cacheSeconds action rest memory system index)
    {machine : Machine Store Action Memory Request Nat}
    (performs : machine.perform = perform schema cacheSeconds) (entry : Entry)
    (cached : (machine.act system index).shared.cache = some entry) :
    Settling schema (machine.act system index).threads ∨ Balanced (machine.act system index) entry := by
  rw [act_eq found, performs] at cached ⊢
  refine accounted.elim Or.inl fun here => ?_
  have formed := accounting.formed _ (List.mem_of_getElem? found)
  cases action with
  | hGetAll =>
    refine (accounting.balance entry cached).imp (settling_stays found Bool.noConfusion) fun balanced => ?_
    have nothing : owed ((perform schema cacheSeconds .hGetAll memory system.shared).thread rest).todo = 0 := by
      simp only [Outcome.thread]
      split
      · exact formed.1
      · rfl
    rw [Balanced, total_after found, nothing, balanced]
    simp [perform, owed, formed.1]
  | first =>
    refine (accounting.balance entry cached).imp (settling_stays found id) fun balanced => ?_
    rw [Balanced, total_after found, balanced]
    simp [perform, Outcome.thread, owed]
  | addQuota delta =>
    refine (accounting.balance entry cached).imp (settling_stays found id) fun balanced => ?_
    rw [Balanced, total_after found, balanced]
    simp only [perform, Outcome.thread, owed, if_true, Option.some.injEq]
    omega
  | creditQuota delta =>
    refine (accounting.balance entry cached).imp (settling_stays found id) fun balanced => ?_
    obtain rfl := here (Option.isSome_iff_exists.mpr ⟨entry, cached⟩)
    rw [Balanced, total_after found, balanced]
    simp [perform, Outcome.thread, owed]
  | updates change quota columns =>
    cases quota with
    | true => exact .inl ⟨_, List.mem_set (List.getElem?_eq_some_iff.mp found).1 _, formed.1 rfl⟩
    | false =>
      refine (accounting.balance entry cached).imp (settling_stays found id) fun balanced => ?_
      rw [Balanced, total_after found, balanced]
      simp [perform, Outcome.thread, owed]
  | ttl =>
    refine (accounting.balance entry cached).imp (settling_stays found Bool.noConfusion) fun balanced => ?_
    have same : owed ((perform schema cacheSeconds .ttl memory system.shared).thread rest).todo = owed rest := by
      rcases here (Option.isSome_iff_exists.mpr ⟨entry, cached⟩) with alive | nothing
      · simp [perform, Outcome.thread, alive]
      · simp only [Outcome.thread]
        split
        · rfl
        · exact nothing.symm
    rw [Balanced, total_after found, same, balanced]
    simp [perform, owed]
  | hIncrBy delta =>
    obtain ⟨old, held⟩ := Option.isSome_iff_exists.mp finds
    refine (accounting.balance old held).imp (settling_stays found id) fun balanced => ?_
    obtain rfl := Option.some.inj cached
    rw [Balanced, total_after found]
    simp only [held, hashOf, Option.map_some, Option.getD_some, Hash.incremented, perform,
      Outcome.thread, owed, if_true]
    rw [balanced, Option.getD_some]
    congr 1
    omega
  | hSetField field =>
    obtain ⟨old, held⟩ := Option.isSome_iff_exists.mp finds
    obtain rfl := Option.some.inj cached
    by_cases isQuota : field = schema.quotaField
    · right
      rw [Balanced, total_after found]
      simp only [Hash.withField, if_pos isQuota, perform, Outcome.thread, owed, if_true]
      rw [← here isQuota]
      congr 1
      omega
    · refine (accounting.balance old held).imp (settling_stays found ?_) fun balanced => ?_
      · simp [overwrites, isQuota, perform, Outcome.thread]
      · rw [Balanced, total_after found]
        simp only [held, hashOf, Option.map_some, Option.getD_some, Hash.withField, if_neg isQuota,
          perform, Outcome.thread, owed, if_true, Int.sub_add_cancel]
        exact balanced
  | hSetObj =>
    right
    obtain rfl := Option.some.inj cached
    rw [Balanced, total_after found]
    simp only [Hash.withObject, perform, Outcome.thread, owed, if_true]
    rw [← here]
    congr 1
    omega
  | del => cases cached

end Acting

theorem step_recorded_iff (batch : Bool) (system : System Store Action Memory) (event : Event Request Nat)
    (recorded : Recorded schema system.shared) :
    Recorded schema ((machine schema cacheSeconds batch).step system event).shared ↔
      Performs FindsKey system event :=
  step_shared_iff perform_recorded_iff elapse_recorded system event recorded

theorem step_accounting (system : System Store Action Memory) (event : Event Request Nat)
    (permitted : Performs FindsKey system event ∧ Performs (Accounted schema cacheSeconds) system event)
    (accounting : Accounting schema system) :
    Accounting schema ((machine schema cacheSeconds false).step system event) where
  recorded := (step_recorded_iff false system event accounting.recorded).mpr permitted.1
  formed := step_programs trivial formed_rest (programs_formed false) system event accounting.formed
  balance := by
    intro entry cached
    cases event with
    | start request =>
      refine (accounting.balance entry cached).imp ?_ fun balanced => ?_
      · rintro ⟨thread, listed, overwrites⟩
        exact ⟨thread, List.mem_append_left _ listed, overwrites⟩
      · have nothing : total owed ((machine schema cacheSeconds false).begin_ request) = 0 := by
          rw [← programs_owe_nothing request]
          simp [total, Machine.begin_, machine, Function.comp_def]
        simp only [Balanced, Machine.step, total_append, nothing, Int.add_zero]
        exact balanced
    | outside milliseconds =>
      obtain ⟨held, -⟩ := Option.filter_eq_some_iff.mp cached
      exact accounting.balance entry held
    | act index =>
      by_cases idle : ∀ action rest memory, system.threads[index]? ≠ some ⟨action :: rest, memory⟩
      · simp only [Machine.step, act_idle idle] at cached ⊢
        exact accounting.balance entry cached
      · push Not at idle
        obtain ⟨action, rest, memory, found⟩ := idle
        exact perform_balance found accounting (permitted.1 action rest memory found)
          (permitted.2 action rest memory found) rfl entry cached

/-- In every run every object that the cache returns is complete exactly when
every increment and every field write finds its key; and without batched updates,
where every write is accounted for too, the cached quota is the stored one whenever
nothing is in flight. -/
theorem cache_complete_and_coherent (schema : Schema) (cacheSeconds : Int) (batch : Bool) (row : Row)
    (now : Nat) (events : List (Event Request Nat)) :
    ((∀ done, done <+: events →
        Complete schema (run (machine schema cacheSeconds batch).step (initial row now) done).shared) ↔
      Guarded (machine schema cacheSeconds batch).step (Performs FindsKey) (initial row now) events) ∧
    (batch = false →
      Guarded (machine schema cacheSeconds batch).step
        (fun system event => Performs FindsKey system event ∧
          Performs (Accounted schema cacheSeconds) system event) (initial row now) events →
      ∀ done, done <+: events → Quiet (run (machine schema cacheSeconds batch).step (initial row now) done) →
        Coherent (run (machine schema cacheSeconds batch).step (initial row now) done).shared) := by
  refine ⟨?_, ?_⟩
  · simp only [complete_iff_recorded]
    have start : Recorded schema (initial row now).shared := (initial_accounting row now).recorded
    have sharp : ∀ (system : System Store Action Memory) event, Recorded schema system.shared →
        (Recorded schema ((machine schema cacheSeconds batch).step system event).shared ↔
          Performs FindsKey system event) := step_recorded_iff batch
    have kept : ∀ (system : System Store Action Memory) event, Performs FindsKey system event →
        Recorded schema system.shared →
          Recorded schema ((machine schema cacheSeconds batch).step system event).shared :=
      fun system event permitted recorded => (sharp system event recorded).mpr permitted
    exact @always_safe_iff_guarded _ _ _ _
      (fun system : System Store Action Memory => Recorded schema system.shared)
      (fun system : System Store Action Memory => Recorded schema system.shared)
      kept sharp _ events start start
  · rintro rfl guarded done shorter quiet
    obtain ⟨rest, rfl⟩ := shorter
    rw [guarded_append] at guarded
    exact (run_preserves step_accounting guarded.1 (initial_accounting row now)).coherent quiet

def user : Row where
  quota := 100
  columns := fun name => if name = "Id" then "7" else if name = "Status" then "1" else ""

def filled : List (Event Request Nat) := [.start .getUserCache, .act 0, .act 0, .act 0]

def increased : List (Event Request Nat) :=
  filled ++ [.start (.increaseUserQuota 5 false), .act 1, .act 1, .act 2]

theorem increased_coherent :
    Coherent (run (machine userBase 60 false).step (initial user 0) increased).shared := by
  refine (cache_complete_and_coherent userBase 60 false user 0 increased).2 rfl
    ⟨⟨trivial, trivial⟩,
      ⟨performs_of rfl trivial, performs_of rfl (.inr trivial)⟩,
      ⟨performs_of rfl trivial, performs_of rfl (.inr trivial)⟩,
      ⟨performs_of rfl trivial, performs_of rfl (.inr rfl)⟩,
      ⟨trivial, trivial⟩,
      ⟨performs_of rfl trivial, performs_of rfl (.inr fun _ => .inl (by decide))⟩,
      ⟨performs_of rfl rfl, performs_of rfl (.inr trivial)⟩,
      ⟨performs_of rfl trivial, performs_of rfl (.inr trivial)⟩, trivial⟩
    increased List.prefix_rfl ?_
  intro thread member
  have ended : (run (machine userBase 60 false).step (initial user 0) increased).threads.all
      fun thread => thread.todo.isEmpty := by
    decide +kernel
  exact List.isEmpty_iff.mp (List.all_eq_true.mp ended thread member)

def expired : List (Event Request Nat) :=
  filled ++ [.start (.increaseUserQuota 5 false), .act 1, .outside 60000, .act 1]

/-- The increment makes a hash of its own field alone. -/
theorem expired_increment_incomplete :
    ¬ ∀ done, done <+: expired →
      Complete userBase (run (machine userBase 60 false).step (initial user 0) done).shared := by
  intro all
  obtain ⟨record, -, ⟨-, columns⟩, -⟩ := all expired List.prefix_rfl _ rfl
  exact Option.some_ne_none _ (columns "Id" (by decide)).symm

end NewApi.RedisCache
