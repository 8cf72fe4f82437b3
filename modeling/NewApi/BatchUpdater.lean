import Mathlib.Algebra.Group.Basic
import Mathlib.Algebra.Group.Int.Defs
import Mathlib.Data.List.AList
import NewApi.GuardedRun
import NewApi.KeyedTable

/-! Quota changes that are collected in memory and written in batches. A change
is either written at once or added to a store, and a flusher takes each store
away and writes its entries one by one. With what is still pending counted,
the tables are those of a server that writes every change at once, as long as
no write of a flush fails: a failed entry is logged and dropped. -/
namespace NewApi.BatchUpdater
open NewApi.GuardedRun NewApi.KeyedTable

/-! ## Rows -/

/-- The constants of `model/utils.go`. -/
inductive BatchUpdateType where
  | userQuota
  | tokenQuota
  | usedQuota
  | channelUsedQuota
  | requestCount
  | channelRequestCount
  deriving DecidableEq, Repr

/-- The next one in the loops of `batchUpdate`. -/
def BatchUpdateType.next : BatchUpdateType → Option BatchUpdateType
  | .userQuota => some .tokenQuota
  | .tokenQuota => some .usedQuota
  | .usedQuota => some .channelUsedQuota
  | .channelUsedQuota => some .requestCount
  | .requestCount => some .channelRequestCount
  | .channelRequestCount => none

structure User where
  id : Int
  quota : Int := 0
  usedQuota : Int := 0
  requestCount : Int := 0
  deriving DecidableEq, Repr

structure Token where
  id : Int
  remainQuota : Int := 0
  usedQuota : Int := 0
  periodQuota : Int := 0
  periodUsedQuota : Int := 0
  periodStartAt : Int := 0
  periodDuration : Int := 0
  periodResetAnchor : Int := 0
  deriving DecidableEq, Repr

structure Channel where
  id : Int
  usedQuota : Int := 0
  usedCount : Int := 0
  deriving DecidableEq, Repr

structure Tables where
  users : List User := []
  tokens : List Token := []
  channels : List Channel := []
  deriving DecidableEq, Repr

/-! ## Writing at once -/

/-- What the token periods ask of the time library: a time of day on the day of
a moment, and the day before. -/
structure Clock where
  atClock : Int → Int → Int
  dayBefore : Int → Int

def addUserQuota (id quota : Int) (tables : Tables) : Tables :=
  { tables with users := update User.id tables.users id fun user =>
    { user with quota := user.quota + quota } }

def addUserUsedQuota (id quota : Int) (tables : Tables) : Tables :=
  { tables with users := update User.id tables.users id fun user =>
    { user with usedQuota := user.usedQuota + quota } }

def addUserRequestCount (id count : Int) (tables : Tables) : Tables :=
  { tables with users := update User.id tables.users id fun user =>
    { user with requestCount := user.requestCount + count } }

/-- `model/channel.go::updateChannelUsage`. -/
def updateChannelUsage (id quota count : Int) (tables : Tables) : Tables :=
  { tables with channels := update Channel.id tables.channels id fun channel =>
    { channel with
      usedQuota := channel.usedQuota + quota
      usedCount := if count ≠ 0 then channel.usedCount + count else channel.usedCount } }

/-- `model/token.go::tokenPeriodExpired`. -/
def tokenPeriodExpired (now periodStartAt periodDuration : Int) : Bool :=
  periodStartAt ≤ 0 || now - periodStartAt ≥ if periodDuration ≤ 0 then 86400 else periodDuration

/-- `model/token.go::AlignToAnchor`. -/
def alignToAnchor (clock : Clock) (now anchor : Int) : Int :=
  let anchor := if anchor < 0 then 0 else if anchor ≥ 86400 then 86399 else anchor
  let candidate := clock.atClock anchor now
  if candidate > now then clock.dayBefore candidate else candidate

def consumedPeriod (clock : Clock) (now : Int) (token : Token) : Int × Int :=
  if tokenPeriodExpired now token.periodStartAt token.periodDuration then
    if token.periodResetAnchor > 0 ∧ token.periodDuration ≥ 86400 then
      (alignToAnchor clock now token.periodResetAnchor, 0)
    else (now, 0)
  else (token.periodStartAt, token.periodUsedQuota)

def adjustPeriod (clock : Clock) (delta now : Int) (token : Token) : Token :=
  if token.periodQuota ≤ 0 then token
  else if delta < 0 then { token with
    periodStartAt := (consumedPeriod clock now token).1
    periodUsedQuota := (consumedPeriod clock now token).2 - delta }
  else if delta > 0 ∧ !tokenPeriodExpired now token.periodStartAt token.periodDuration then
    { token with periodUsedQuota := max 0 (token.periodUsedQuota - delta) }
  else token

def adjusted (clock : Clock) (delta now : Int) (token : Token) : Token :=
  { adjustPeriod clock delta now token with
    remainQuota := token.remainQuota + delta
    usedQuota := token.usedQuota - delta }

/-- `model/token.go::adjustTokenQuota`; it fails without a token. -/
def adjustTokenQuota (clock : Clock) (id delta now : Int) (tables : Tables) : Tables :=
  if id ≤ 0 then tables
  else match lookup Token.id tables.tokens id with
  | none => tables
  | some _ => { tables with tokens := update Token.id tables.tokens id (adjusted clock delta now) }

/-- `model/token.go::tokenRequiresImmediateQuotaUpdate`; `readFails` says that
the query failed. -/
def tokenRequiresImmediateQuotaUpdate (id : Int) (readFails : Bool) (tables : Tables) : Bool :=
  if id ≤ 0 then true
  else match lookup Token.id tables.tokens id with
  | none => true
  | some token => readFails || token.periodQuota > 0

/-! ## The batch updater -/

abbrev Store := AList fun _ : Int => Int

def Store.amount (store : Store) (id : Int) : Int := (store.lookup id).getD 0

/-- Where `batchUpdate` is between two accesses to shared data. -/
inductive Flusher where
  | idle
  | checking (type : BatchUpdateType)
  | swapping (type : BatchUpdateType)
  | applying (type : BatchUpdateType) (rest : Store)

structure Updater where
  tables : Tables
  stores : BatchUpdateType → Store := fun _ => ∅
  flusher : Flusher := .idle

/-- `model/utils.go::addNewRecord`. -/
def addNewRecord (type : BatchUpdateType) (id value : Int) (updater : Updater) : Updater :=
  let store := updater.stores type
  let total := match store.lookup id with
    | none => value
    | some old => old + value
  { updater with stores := Function.update updater.stores type (store.insert id total) }

/-- The switch of `batchUpdate`. -/
def applyEntry (clock : Clock) (type : BatchUpdateType) (key value now : Int) (tables : Tables) :
    Tables :=
  match type with
  | .userQuota => addUserQuota key value tables
  | .tokenQuota => adjustTokenQuota clock key value now tables
  | .usedQuota => addUserUsedQuota key value tables
  | .requestCount => addUserRequestCount key value tables
  | .channelUsedQuota => updateChannelUsage key value 0 tables
  | .channelRequestCount => updateChannelUsage key 0 value tables

def afterType (type : BatchUpdateType) : Flusher :=
  match type.next with
  | some later => .swapping later
  | none => .idle

/-- `model/utils.go::batchUpdate` up to its next access to shared data. `key` is
the entry that the map yields next, and `failed` says that its write failed. -/
def batchUpdate (clock : Clock) (key : Int) (failed : Bool) (now : Int) (updater : Updater) :
    Updater :=
  match updater.flusher with
  | .idle => { updater with flusher := .checking .userQuota }
  | .checking type =>
    if (updater.stores type).entries ≠ [] then { updater with flusher := .swapping .userQuota }
    else match type.next with
    | some later => { updater with flusher := .checking later }
    | none => { updater with flusher := .idle }
  | .swapping type => { updater with
      stores := Function.update updater.stores type ∅
      flusher := .applying type (updater.stores type) }
  | .applying type rest =>
    if rest.entries = [] then { updater with flusher := afterType type }
    else match rest.lookup key with
    | none => updater
    | some value => { updater with
        tables := if failed then updater.tables else applyEntry clock type key value now updater.tables
        flusher := .applying type (rest.erase key) }

/-- The calls that change a quota. `readFails` is the answer to the query for
the period of a token. -/
inductive Change where
  | increaseUserQuota (id quota : Int) (db : Bool)
  | decreaseUserQuota (id quota : Int)
  | increaseTokenQuota (id quota : Int) (readFails : Bool) (now : Int)
  | decreaseTokenQuota (id quota : Int) (readFails : Bool) (now : Int)
  | updateUserUsedQuotaAndRequestCount (id quota : Int)
  | updateChannelUsage (id quota count : Int)
  deriving DecidableEq, Repr

def Updater.write (updater : Updater) (change : Tables → Tables) : Updater :=
  { updater with tables := change updater.tables }

def changeTokenQuota (clock : Clock) (batchUpdateEnabled : Bool) (id delta : Int)
    (readFails : Bool) (now : Int) (updater : Updater) : Updater :=
  if batchUpdateEnabled && !tokenRequiresImmediateQuotaUpdate id readFails updater.tables then
    addNewRecord .tokenQuota id delta updater
  else updater.write (adjustTokenQuota clock id delta now)

/-- `model/user.go` and `model/token.go`: a negative quota is refused. -/
def applyChange (clock : Clock) (batchUpdateEnabled : Bool) (change : Change) (updater : Updater) :
    Updater :=
  match change with
  | .increaseUserQuota id quota db =>
    if quota < 0 then updater
    else if !db && batchUpdateEnabled then addNewRecord .userQuota id quota updater
    else updater.write (addUserQuota id quota)
  | .decreaseUserQuota id quota =>
    if quota < 0 then updater
    else if batchUpdateEnabled then addNewRecord .userQuota id (-quota) updater
    else updater.write (addUserQuota id (-quota))
  | .increaseTokenQuota id quota readFails now =>
    if quota < 0 then updater
    else changeTokenQuota clock batchUpdateEnabled id quota readFails now updater
  | .decreaseTokenQuota id quota readFails now =>
    if quota < 0 then updater
    else changeTokenQuota clock batchUpdateEnabled id (-quota) readFails now updater
  | .updateUserUsedQuotaAndRequestCount id quota =>
    if batchUpdateEnabled then
      addNewRecord .requestCount id 1 (addNewRecord .usedQuota id quota updater)
    else updater.write fun tables => addUserRequestCount id 1 (addUserUsedQuota id quota tables)
  | .updateChannelUsage id quota count =>
    if batchUpdateEnabled then
      let recorded := if quota ≠ 0 then addNewRecord .channelUsedQuota id quota updater else updater
      if count ≠ 0 then addNewRecord .channelRequestCount id count recorded else recorded
    else updater.write (updateChannelUsage id quota count)

inductive Event where
  | change (change : Change)
  | tick (key : Int) (failed : Bool) (now : Int)
  deriving DecidableEq, Repr

def step (clock : Clock) (batchUpdateEnabled : Bool) (updater : Updater) : Event → Updater
  | .change change => applyChange clock batchUpdateEnabled change updater
  | .tick key failed now => batchUpdate clock key failed now updater

/-! ## What is still pending -/

def Flusher.rest : Flusher → BatchUpdateType → Store
  | .applying type rest, wanted => if wanted = type then rest else ∅
  | _, _ => ∅

def Updater.pending (updater : Updater) (type : BatchUpdateType) (id : Int) : Int :=
  (updater.stores type).amount id + (updater.flusher.rest type).amount id

abbrev Amounts := BatchUpdateType → Int → Int

def bump (amounts : Amounts) (type : BatchUpdateType) (id value : Int) : Amounts :=
  fun wanted other => amounts wanted other + if wanted = type ∧ other = id then value else 0

def settleUser (amounts : Amounts) (user : User) : User :=
  { user with
    quota := user.quota + amounts .userQuota user.id
    usedQuota := user.usedQuota + amounts .usedQuota user.id
    requestCount := user.requestCount + amounts .requestCount user.id }

def settleToken (amounts : Amounts) (token : Token) : Token :=
  { token with
    remainQuota := token.remainQuota + amounts .tokenQuota token.id
    usedQuota := token.usedQuota - amounts .tokenQuota token.id }

def settleChannel (amounts : Amounts) (channel : Channel) : Channel :=
  { channel with
    usedQuota := channel.usedQuota + amounts .channelUsedQuota channel.id
    usedCount := channel.usedCount + amounts .channelRequestCount channel.id }

def settle (amounts : Amounts) (tables : Tables) : Tables where
  users := tables.users.map (settleUser amounts)
  tokens := tables.tokens.map (settleToken amounts)
  channels := tables.channels.map (settleChannel amounts)

def Refines (batched immediate : Updater) : Prop :=
  settle batched.pending batched.tables = immediate.tables

/-! ## Adding a value -/

def addToUser (type : BatchUpdateType) (value : Int) (user : User) : User :=
  match type with
  | .userQuota => { user with quota := user.quota + value }
  | .usedQuota => { user with usedQuota := user.usedQuota + value }
  | .requestCount => { user with requestCount := user.requestCount + value }
  | _ => user

def addToToken (type : BatchUpdateType) (value : Int) (token : Token) : Token :=
  match type with
  | .tokenQuota => { token with
      remainQuota := token.remainQuota + value, usedQuota := token.usedQuota - value }
  | _ => token

def addToChannel (type : BatchUpdateType) (value : Int) (channel : Channel) : Channel :=
  match type with
  | .channelUsedQuota => { channel with usedQuota := channel.usedQuota + value }
  | .channelRequestCount => { channel with usedCount := channel.usedCount + value }
  | _ => channel

def addValue (type : BatchUpdateType) (id value : Int) (tables : Tables) : Tables where
  users := update User.id tables.users id (addToUser type value)
  tokens := update Token.id tables.tokens id (addToToken type value)
  channels := update Channel.id tables.channels id (addToChannel type value)

section Rows
variable {type : BatchUpdateType} {id value now : Int} {tables : Tables}
variable {clock : Clock}

@[simp] theorem add_to_user_id (user : User) : (addToUser type value user).id = user.id := by
  cases type <;> rfl

@[simp] theorem add_to_token_id (token : Token) : (addToToken type value token).id = token.id := by
  cases type <;> rfl

@[simp] theorem add_to_channel_id (channel : Channel) :
    (addToChannel type value channel).id = channel.id := by
  cases type <;> rfl

theorem map_update {Row : Type} {key : Row → Int} {rows : List Row} {settles settles' : Row → Row}
    {change : Row → Row}
    (row : ∀ row, settles' row = if key row = id then change (settles row) else settles row)
    (same : ∀ row, key (settles row) = key row) :
    rows.map settles' = update key (rows.map settles) id change := by
  unfold update
  rw [List.map_map]
  apply List.map_congr_left
  intro stored _
  simp only [Function.comp_apply, same, row]

theorem settle_bump :
    settle (bump amounts type id value) tables = addValue type id value (settle amounts tables) := by
  unfold settle addValue
  congr 1
  · refine map_update (fun user => ?_) (fun _ => rfl)
    by_cases same : user.id = id <;> cases type <;> simp [settleUser, bump, addToUser, same, add_assoc]
  · refine map_update (fun token => ?_) (fun _ => rfl)
    by_cases same : token.id = id <;> cases type <;>
      simp [settleToken, bump, addToToken, same, add_assoc, sub_sub]
  · refine map_update (fun channel => ?_) (fun _ => rfl)
    by_cases same : channel.id = id <;> cases type <;>
      simp [settleChannel, bump, addToChannel, same, add_assoc]

theorem update_map {Row : Type} {key : Row → Int} {rows : List Row} {settles change : Row → Row}
    (row : ∀ row, settles (change row) = change (settles row))
    (same : ∀ row, key (settles row) = key row) :
    (update key rows id change).map settles = update key (rows.map settles) id change := by
  unfold update
  rw [List.map_map, List.map_map]
  apply List.map_congr_left
  intro stored _
  simp only [Function.comp_apply, same]
  split
  · exact row stored
  · rfl

theorem settle_add_value :
    settle amounts (addValue type id value tables) = addValue type id value (settle amounts tables) := by
  unfold settle addValue
  congr 1
  · refine update_map (fun user => ?_) (fun _ => rfl)
    cases type <;> simp [settleUser, addToUser, add_right_comm]
  · refine update_map (fun token => ?_) (fun _ => rfl)
    cases type <;> simp [settleToken, addToToken, add_right_comm, sub_right_comm]
  · refine update_map (fun channel => ?_) (fun _ => rfl)
    cases type <;> simp [settleChannel, addToChannel, add_right_comm]

theorem update_update {Row : Type} {key : Row → Int} {rows : List Row} {first second : Row → Row}
    (undo : ∀ row, second (first row) = row) (same : ∀ row, key (first row) = key row) :
    update key (update key rows id first) id second = rows := by
  unfold update
  rw [List.map_map]
  conv_rhs => rw [← List.map_id rows]
  apply List.map_congr_left
  intro stored _
  by_cases here : key stored = id
  · simp [here, same, undo]
  · simp [here]

theorem add_value_back : addValue type id (-value) (addValue type id value tables) = tables := by
  unfold addValue
  rw [update_update (fun user => by cases type <;> simp [addToUser]) add_to_user_id,
    update_update (fun token => by cases type <;> simp [addToToken]) add_to_token_id,
    update_update (fun channel => by cases type <;> simp [addToChannel]) add_to_channel_id]

end Rows

/-! ## The writes as values added -/

def Unlimited (tables : Tables) (id : Int) : Prop :=
  0 < id ∧ ∀ token ∈ tables.tokens, token.id = id → token.periodQuota ≤ 0

section Writes
variable {type : BatchUpdateType} {id value now : Int} {tables : Tables}
variable {clock : Clock}

theorem update_same {Row : Type} {key : Row → Int} (rows : List Row) {change : Row → Row}
    (same : ∀ row, change row = row) : update key rows id change = rows := by
  conv_rhs => rw [← List.map_id rows]
  apply List.map_congr_left
  intro row _
  split
  · exact same row
  · rfl

theorem add_value_users (mine : type = .userQuota ∨ type = .usedQuota ∨ type = .requestCount) :
    addValue type id value tables =
      { tables with users := update User.id tables.users id (addToUser type value) } := by
  have tokens : ∀ token, addToToken type value token = token := by
    rcases mine with rfl | rfl | rfl <;> exact fun _ => rfl
  have channels : ∀ channel, addToChannel type value channel = channel := by
    rcases mine with rfl | rfl | rfl <;> exact fun _ => rfl
  unfold addValue
  rw [update_same tables.tokens tokens, update_same tables.channels channels]

theorem add_value_tokens : addValue .tokenQuota id value tables =
    { tables with tokens := update Token.id tables.tokens id (addToToken .tokenQuota value) } := by
  have users : ∀ user, addToUser .tokenQuota value user = user := fun _ => rfl
  have channels : ∀ channel, addToChannel .tokenQuota value channel = channel := fun _ => rfl
  unfold addValue
  rw [update_same tables.users users, update_same tables.channels channels]

theorem add_value_channels (mine : type = .channelUsedQuota ∨ type = .channelRequestCount) :
    addValue type id value tables =
      { tables with channels := update Channel.id tables.channels id (addToChannel type value) } := by
  have users : ∀ user, addToUser type value user = user := by
    rcases mine with rfl | rfl <;> exact fun _ => rfl
  have tokens : ∀ token, addToToken type value token = token := by
    rcases mine with rfl | rfl <;> exact fun _ => rfl
  unfold addValue
  rw [update_same tables.users users, update_same tables.tokens tokens]

theorem add_user_quota_value : addUserQuota id value tables = addValue .userQuota id value tables :=
  (add_value_users (.inl rfl)).symm

theorem add_used_quota_value : addUserUsedQuota id value tables = addValue .usedQuota id value tables :=
  (add_value_users (.inr (.inl rfl))).symm

theorem add_request_count_value :
    addUserRequestCount id value tables = addValue .requestCount id value tables :=
  (add_value_users (.inr (.inr rfl))).symm

theorem update_channel_usage_value (quota count : Int) :
    updateChannelUsage id quota count tables =
      addValue .channelRequestCount id count (addValue .channelUsedQuota id quota tables) := by
  rw [add_value_channels (.inr rfl), add_value_channels (.inl rfl)]
  unfold updateChannelUsage
  congr 1
  unfold update
  rw [List.map_map]
  apply List.map_congr_left
  intro channel _
  by_cases here : channel.id = id
  · by_cases none_counted : count = 0
    · simp [here, none_counted, addToChannel]
    · simp [here, none_counted, addToChannel]
  · simp [here]

theorem add_value_zero : addValue type id 0 tables = tables := by
  unfold addValue
  rw [update_same tables.users (fun user => by cases type <;> simp [addToUser]),
    update_same tables.tokens (fun token => by cases type <;> simp [addToToken]),
    update_same tables.channels (fun channel => by cases type <;> simp [addToChannel])]

theorem adjust_unlimited (unlimited : Unlimited tables id) :
    adjustTokenQuota clock id value now tables = addValue .tokenQuota id value tables := by
  rw [add_value_tokens]
  unfold adjustTokenQuota
  rw [if_neg (not_le.mpr unlimited.1)]
  split
  · rename_i missing
    have absent : ∀ token ∈ tables.tokens, token.id ≠ id := by
      simpa [lookup, List.find?_eq_none] using missing
    rw [update_absent absent]
  · congr 1
    apply List.map_congr_left
    intro token member
    split
    · rename_i here
      have unbounded := unlimited.2 token member here
      simp [adjusted, adjustPeriod, addToToken, unbounded]
    · rfl

theorem settle_adjust :
    settle amounts (adjustTokenQuota clock id value now tables) =
      adjustTokenQuota clock id value now (settle amounts tables) := by
  have keys : ∀ token, (settleToken amounts token).id = token.id := fun _ => rfl
  have found : lookup Token.id (tables.tokens.map (settleToken amounts)) id =
      (lookup Token.id tables.tokens id).map (settleToken amounts) :=
    lookup_map keys tables.tokens id
  have row : ∀ token, settleToken amounts (adjusted clock value now token) =
      adjusted clock value now (settleToken amounts token) := by
    intro token
    have period : ∀ token, (adjustPeriod clock value now token).id = token.id := by
      intro token
      unfold adjustPeriod
      split
      · rfl
      · split
        · rfl
        · split <;> rfl
    have settled : adjustPeriod clock value now (settleToken amounts token) =
        settleToken amounts (adjustPeriod clock value now token) := by
      by_cases unbounded : token.periodQuota ≤ 0
      · simp [adjustPeriod, settleToken, unbounded]
      · by_cases consumes : value < 0
        · simp [adjustPeriod, settleToken, consumedPeriod, unbounded, consumes]
        · by_cases returns : value > 0 ∧
            !tokenPeriodExpired now token.periodStartAt token.periodDuration
          · simp only [adjustPeriod, settleToken, unbounded, consumes, returns, and_self, if_true, if_false]
          · simp only [adjustPeriod, settleToken, unbounded, consumes, returns, if_false]
    unfold adjusted
    rw [settled]
    simp [settleToken, period, add_right_comm, sub_right_comm]
  unfold adjustTokenQuota settle
  split
  · rfl
  · rw [found]
    cases lookup Token.id tables.tokens id with
    | none => rfl
    | some token =>
      simp only [Option.map_some]
      rw [update_map row keys]

theorem apply_entry_value (unlimited : type = .tokenQuota → Unlimited tables id) :
    applyEntry clock type id value now tables = addValue type id value tables := by
  cases type with
  | userQuota => exact add_user_quota_value
  | tokenQuota => exact adjust_unlimited (unlimited rfl)
  | usedQuota => exact add_used_quota_value
  | requestCount => exact add_request_count_value
  | channelUsedQuota => exact (update_channel_usage_value value 0).trans add_value_zero
  | channelRequestCount =>
    refine (update_channel_usage_value 0 value).trans ?_
    rw [add_value_zero]

def periods (tables : Tables) : List (Int × Int) :=
  tables.tokens.map fun token => (token.id, token.periodQuota)

theorem unlimited_periods (same : periods other = periods tables) :
    Unlimited other id ↔ Unlimited tables id := by
  have by_periods : ∀ tables : Tables, (∀ token ∈ tables.tokens, token.id = id →
      token.periodQuota ≤ 0) ↔ ∀ period ∈ periods tables, period.1 = id → period.2 ≤ 0 := by
    simp [periods]
  unfold Unlimited
  rw [by_periods, by_periods, same]

theorem update_periods {change : Token → Token}
    (same : ∀ token, ((change token).id, (change token).periodQuota) = (token.id, token.periodQuota)) :
    (update Token.id rows id change).map (fun token => (token.id, token.periodQuota)) =
      rows.map fun token => (token.id, token.periodQuota) := by
  unfold update
  rw [List.map_map]
  apply List.map_congr_left
  intro token _
  simp only [Function.comp_apply]
  split
  · exact same token
  · rfl

theorem add_value_periods : periods (addValue type id value tables) = periods tables := by
  refine update_periods fun token => ?_
  cases type <;> rfl

theorem adjust_periods : periods (adjustTokenQuota clock id value now tables) = periods tables := by
  unfold adjustTokenQuota
  split
  · rfl
  · split
    · rfl
    · refine update_periods fun token => ?_
      unfold adjusted adjustPeriod
      split
      · rfl
      · split
        · rfl
        · split <;> rfl

theorem settle_periods : periods (settle amounts tables) = periods tables := by
  simp [periods, settle, settleToken, Function.comp_def]

theorem recorded_unlimited (distinct : (tables.tokens.map Token.id).Nodup)
    (recorded : tokenRequiresImmediateQuotaUpdate id readFails tables = false) :
    Unlimited tables id := by
  unfold tokenRequiresImmediateQuotaUpdate at recorded
  split at recorded
  · cases recorded
  · rename_i positive
    split at recorded
    · cases recorded
    · rename_i token found
      refine ⟨not_le.mp positive, fun other member same => ?_⟩
      have stored := lookup_of_mem distinct member
      rw [same, found, Option.some.injEq] at stored
      subst stored
      simp only [Bool.or_eq_false_iff, decide_eq_false_iff_not] at recorded
      exact not_lt.mp recorded.2

end Writes

/-! ## One step -/

def Updater.Holds (updater : Updater) (type : BatchUpdateType) (id : Int) : Prop :=
  id ∈ updater.stores type ∨ id ∈ updater.flusher.rest type

/-- The updater with batches on, and one that writes at once: only tokens
without a period are pending, and the other one has nothing pending. -/
structure Sound (batched immediate : Updater) : Prop where
  distinct : ((periods batched.tables).map Prod.fst).Nodup
  unlimited : ∀ id, batched.Holds .tokenQuota id → Unlimited batched.tables id
  nothing : ∀ type id, ¬ immediate.Holds type id

section Steps
variable {type : BatchUpdateType} {id value now : Int} {clock : Clock}
variable {updater batched immediate : Updater} {store : Store}

theorem amount_insert (total other : Int) :
    Store.amount (AList.insert id total store) other =
      if other = id then total else store.amount other := by
  unfold Store.amount
  by_cases same : other = id
  · subst same
    rw [AList.lookup_insert, if_pos rfl]
    rfl
  · rw [AList.lookup_insert_ne same, if_neg same]

theorem amount_erase (other : Int) :
    Store.amount (AList.erase id store) other = if other = id then 0 else store.amount other := by
  unfold Store.amount
  by_cases same : other = id
  · subst same
    rw [AList.lookup_erase, if_pos rfl]
    rfl
  · rw [AList.lookup_erase_ne same, if_neg same]

theorem amount_empty (other : Int) : Store.amount ∅ other = 0 := by
  simp [Store.amount]

theorem record_pending :
    (addNewRecord type id value updater).pending = bump updater.pending type id value := by
  funext wanted other
  unfold Updater.pending bump addNewRecord
  dsimp only
  by_cases mine : wanted = type
  · subst mine
    rw [Function.update_self, amount_insert]
    by_cases same : other = id
    · subst same
      simp only [if_true, and_self, Store.amount]
      cases (updater.stores wanted).lookup other with
      | none => simp only [Option.getD_none]; omega
      | some old => simp only [Option.getD_some]; omega
    · simp [same]
  · simp [mine]

theorem record_holds {wanted : BatchUpdateType}
    (holds : (addNewRecord type id value updater).Holds wanted other) :
    updater.Holds wanted other ∨ (wanted = type ∧ other = id) := by
  unfold Updater.Holds addNewRecord at holds
  dsimp only at holds
  by_cases mine : wanted = type
  · subst mine
    rw [Function.update_self, AList.mem_insert] at holds
    rcases holds with (same | stored) | taken
    · exact .inr ⟨rfl, same⟩
    · exact .inl (.inl stored)
    · exact .inl (.inr taken)
  · rw [Function.update_of_ne mine] at holds
    exact .inl holds

def Updater.entry (updater : Updater) (key : Int) : Option (BatchUpdateType × Int) :=
  match updater.flusher with
  | .applying type rest => (rest.lookup key).map fun value => (type, value)
  | _ => none

theorem moved_same
    (same : ∀ wanted, flusher.rest wanted = updater.flusher.rest wanted) :
    (∀ wanted other, { updater with flusher := flusher }.Holds wanted other →
      updater.Holds wanted other) ∧ { updater with flusher := flusher }.pending = updater.pending := by
  refine ⟨fun wanted other holds => ?_, ?_⟩
  · unfold Updater.Holds at holds ⊢
    rwa [same] at holds
  · funext wanted other
    unfold Updater.pending
    rw [same]

theorem after_type_rest (type wanted : BatchUpdateType) : (afterType type).rest wanted = ∅ := by
  cases type <;> rfl

theorem swap_same {type : BatchUpdateType} (swapping : updater.flusher = .swapping type) :
    let swapped : Updater := { updater with
      stores := Function.update updater.stores type ∅
      flusher := .applying type (updater.stores type) }
    (∀ wanted other, swapped.Holds wanted other → updater.Holds wanted other) ∧
      swapped.pending = updater.pending := by
  refine ⟨fun wanted other holds => ?_, ?_⟩
  · unfold Updater.Holds at holds ⊢
    by_cases mine : wanted = type
    · subst mine
      simp only [Function.update_self, Flusher.rest, if_true, AList.notMem_empty, false_or] at holds
      exact .inl holds
    · simp only [Function.update_of_ne mine, Flusher.rest, mine, if_false, AList.notMem_empty,
        or_false] at holds
      exact .inl holds
  · funext wanted other
    unfold Updater.pending
    rw [swapping]
    by_cases mine : wanted = type
    · subst mine
      simp [Function.update_self, Flusher.rest, amount_empty]
    · simp [Flusher.rest, mine]

theorem taken_entry (tables : Tables) {type : BatchUpdateType}
    (applying : updater.flusher = .applying type rest) (found : rest.lookup key = some value) :
    let taken : Updater := { updater with
      tables := tables
      flusher := .applying type (rest.erase key) }
    (∀ wanted other, taken.Holds wanted other → updater.Holds wanted other) ∧
      taken.pending = bump updater.pending type key (-value) := by
  refine ⟨fun wanted other holds => ?_, ?_⟩
  · unfold Updater.Holds at holds ⊢
    rw [applying]
    by_cases mine : wanted = type
    · subst mine
      simp only [Flusher.rest, if_true, AList.mem_erase] at holds ⊢
      exact holds.imp_right And.right
    · simp only [Flusher.rest, mine, if_false] at holds ⊢
      exact holds
  · funext wanted other
    unfold Updater.pending bump
    rw [applying]
    by_cases mine : wanted = type
    · subst mine
      simp only [Flusher.rest, if_true, amount_erase, true_and]
      by_cases same : other = key
      · subst same
        simp only [if_true, Store.amount, found, Option.getD_some]
        omega
      · simp [same]
    · simp [Flusher.rest, mine]

theorem tick_cases (key : Int) (failed : Bool) (now : Int) (updater : Updater) :
    (∀ wanted other, (batchUpdate clock key failed now updater).Holds wanted other →
      updater.Holds wanted other) ∧
    ((updater.entry key = none ∧
        (batchUpdate clock key failed now updater).pending = updater.pending ∧
        (batchUpdate clock key failed now updater).tables = updater.tables) ∨
      ∃ type value, updater.entry key = some (type, value) ∧ updater.Holds type key ∧
        (batchUpdate clock key failed now updater).pending = bump updater.pending type key (-value) ∧
        (batchUpdate clock key failed now updater).tables =
          if failed then updater.tables
          else applyEntry clock type key value now updater.tables) := by
  unfold batchUpdate
  split
  · rename_i idle
    have moved := @moved_same updater (.checking .userQuota) fun wanted => by rw [idle]; rfl
    exact ⟨moved.1, .inl ⟨by simp [Updater.entry, idle], moved.2, rfl⟩⟩
  · rename_i type checking
    have nothing : updater.entry key = none := by simp [Updater.entry, checking]
    have rest : ∀ wanted, updater.flusher.rest wanted = ∅ := by
      intro wanted
      rw [checking]
      rfl
    split
    · have moved := @moved_same updater (.swapping .userQuota) fun wanted => (rest wanted).symm
      exact ⟨moved.1, .inl ⟨nothing, moved.2, rfl⟩⟩
    · split
      · rename_i later _
        have moved := @moved_same updater (.checking later) fun wanted => (rest wanted).symm
        exact ⟨moved.1, .inl ⟨nothing, moved.2, rfl⟩⟩
      · have moved := @moved_same updater .idle fun wanted => (rest wanted).symm
        exact ⟨moved.1, .inl ⟨nothing, moved.2, rfl⟩⟩
  · rename_i type swapping
    have moved := swap_same swapping
    exact ⟨moved.1, .inl ⟨by simp [Updater.entry, swapping], moved.2, rfl⟩⟩
  · rename_i type rest applying
    split
    · rename_i done
      have none_left : rest = ∅ := AList.ext done
      have moved := @moved_same updater (afterType type) fun wanted => by
        rw [after_type_rest, applying, none_left]
        simp [Flusher.rest]
      exact ⟨moved.1, .inl ⟨by simp [Updater.entry, applying, none_left], moved.2, rfl⟩⟩
    · split
      · rename_i missing
        exact ⟨fun _ _ holds => holds, .inl ⟨by simp [Updater.entry, applying, missing], rfl, rfl⟩⟩
      · rename_i value found
        have held : updater.Holds type key := by
          refine .inr ?_
          rw [applying]
          simp only [Flusher.rest, if_true]
          exact AList.lookup_isSome.mp (by rw [found]; rfl)
        have taken := taken_entry (if failed then updater.tables
          else applyEntry clock type key value now updater.tables) applying found
        exact ⟨taken.1, .inr ⟨type, value, by simp [Updater.entry, applying, found], held, taken.2, rfl⟩⟩

theorem write_congr {first second : Tables → Tables} (same : first updater.tables = second updater.tables) :
    updater.write first = updater.write second := by
  unfold Updater.write
  rw [same]

theorem refines_periods (refines : Refines batched immediate) :
    periods immediate.tables = periods batched.tables := by
  rw [← refines, settle_periods]

theorem recorded_together (sound : Sound batched immediate) (refines : Refines batched immediate)
    (unlimited : type = .tokenQuota → Unlimited batched.tables id) :
    Sound (addNewRecord type id value batched) (immediate.write (addValue type id value)) ∧
      Refines (addNewRecord type id value batched) (immediate.write (addValue type id value)) := by
  refine ⟨⟨sound.distinct, fun other holds => ?_, sound.nothing⟩, ?_⟩
  · rcases record_holds holds with before | ⟨mine, rfl⟩
    · exact sound.unlimited other before
    · exact unlimited mine.symm
  · unfold Refines
    rw [record_pending]
    refine settle_bump.trans ?_
    exact congrArg (addValue type id value) refines

theorem written_together {change : Tables → Tables} (sound : Sound batched immediate)
    (refines : Refines batched immediate)
    (kept : periods (change batched.tables) = periods batched.tables)
    (commutes : ∀ amounts, settle amounts (change batched.tables) =
      change (settle amounts batched.tables)) :
    Sound (batched.write change) (immediate.write change) ∧
      Refines (batched.write change) (immediate.write change) := by
  refine ⟨⟨?_, fun other holds => ?_, sound.nothing⟩, ?_⟩
  · unfold Updater.write
    rw [kept]
    exact sound.distinct
  · exact (unlimited_periods kept).mpr (sound.unlimited other holds)
  · refine (commutes _).trans ?_
    exact congrArg change refines

theorem token_changed_together (sound : Sound batched immediate)
    (refines : Refines batched immediate) :
    Sound (changeTokenQuota clock true id value readFails now batched)
        (changeTokenQuota clock false id value readFails now immediate) ∧
      Refines (changeTokenQuota clock true id value readFails now batched)
        (changeTokenQuota clock false id value readFails now immediate) := by
  unfold changeTokenQuota
  cases direct : tokenRequiresImmediateQuotaUpdate id readFails batched.tables with
  | true => exact written_together sound refines adjust_periods fun amounts => settle_adjust
  | false =>
    have distinct : (batched.tables.tokens.map Token.id).Nodup := by
      simpa [periods, Function.comp_def] using sound.distinct
    have unlimited := recorded_unlimited distinct direct
    have there : Unlimited immediate.tables id :=
      (unlimited_periods (refines_periods refines)).mpr unlimited
    have same : immediate.write (adjustTokenQuota clock id value now) =
        immediate.write (addValue .tokenQuota id value) := write_congr (adjust_unlimited there)
    rw [same]
    exact recorded_together sound refines fun _ => unlimited

theorem recorded_unless_zero (other : type ≠ .tokenQuota) (sound : Sound batched immediate)
    (refines : Refines batched immediate) :
    let recorded := if value ≠ 0 then addNewRecord type id value batched else batched
    Sound recorded (immediate.write (addValue type id value)) ∧
      Refines recorded (immediate.write (addValue type id value)) := by
  by_cases zero : value = 0
  · subst zero
    have same : immediate.write (addValue type id 0) = immediate := by
      unfold Updater.write
      rw [add_value_zero]
    rw [same]
    exact ⟨sound, refines⟩
  · simp only [ne_eq, zero, not_false_eq_true, if_true]
    exact recorded_together sound refines fun token => absurd token other

theorem changed_together (change : Change) (sound : Sound batched immediate)
    (refines : Refines batched immediate) :
    Sound (applyChange clock true change batched) (applyChange clock false change immediate) ∧
      Refines (applyChange clock true change batched) (applyChange clock false change immediate) := by
  have quota : ∀ id value, immediate.write (addUserQuota id value) =
      immediate.write (addValue .userQuota id value) :=
    fun id value => write_congr add_user_quota_value
  cases change with
  | increaseUserQuota id added db =>
    simp only [applyChange]
    split
    · exact ⟨sound, refines⟩
    · cases db with
      | false =>
        rw [quota]
        exact recorded_together sound refines nofun
      | true =>
        refine written_together sound refines rfl fun amounts => ?_
        rw [add_user_quota_value, add_user_quota_value, settle_add_value]
  | decreaseUserQuota id taken =>
    simp only [applyChange, if_true, Bool.false_eq_true, if_false]
    split
    · exact ⟨sound, refines⟩
    · rw [quota]
      exact recorded_together sound refines nofun
  | increaseTokenQuota | decreaseTokenQuota =>
    simp only [applyChange]
    split
    · exact ⟨sound, refines⟩
    · exact token_changed_together sound refines
  | updateUserUsedQuotaAndRequestCount id used =>
    simp only [applyChange, if_true, Bool.false_eq_true, if_false]
    have apart : immediate.write (fun tables =>
          addUserRequestCount id 1 (addUserUsedQuota id used tables)) =
        (immediate.write (addValue .usedQuota id used)).write (addValue .requestCount id 1) := by
      simp only [Updater.write, add_request_count_value, add_used_quota_value]
    rw [apart]
    have first := @recorded_together .usedQuota id used batched immediate sound refines nofun
    exact recorded_together first.1 first.2 nofun
  | updateChannelUsage id used count =>
    simp only [applyChange, if_true, Bool.false_eq_true, if_false]
    have apart : immediate.write (updateChannelUsage id used count) =
        (immediate.write (addValue .channelUsedQuota id used)).write
          (addValue .channelRequestCount id count) := by
      simp only [Updater.write, update_channel_usage_value]
    rw [apart]
    have first := @recorded_unless_zero .channelUsedQuota id used batched immediate nofun sound refines
    exact recorded_unless_zero nofun first.1 first.2

end Steps

/-! ## Nothing lost -/

def HasRow (type : BatchUpdateType) (id : Int) (tables : Tables) : Prop :=
  match type with
  | .userQuota | .usedQuota | .requestCount => ∃ user ∈ tables.users, user.id = id
  | .tokenQuota => ∃ token ∈ tables.tokens, token.id = id
  | .channelUsedQuota | .channelRequestCount => ∃ channel ∈ tables.channels, channel.id = id

def LosesNothing (updater : Updater) : Event → Prop
  | .change _ => True
  | .tick key failed _ => failed → ∀ type value, updater.entry key = some (type, value) →
      value = 0 ∨ ¬ HasRow type key updater.tables

section Exactness
variable {type : BatchUpdateType} {id value : Int} {tables : Tables}
variable {clock : Clock} {batched immediate : Updater}

theorem update_eq_iff {Row : Type} {key : Row → Int} {rows : List Row} {change : Row → Row} :
    update key rows id change = rows ↔ ∀ row ∈ rows, key row = id → change row = row := by
  unfold update
  conv_lhs => rhs; rw [← List.map_id rows]
  rw [List.map_inj_left]
  refine forall₂_congr fun row _ => ?_
  by_cases here : key row = id
  · simp [here]
  · simp [here]

theorem rows_unchanged_iff {Row : Type} {key : Row → Int} {rows : List Row} {change : Row → Row}
    (moves : ∀ row, change row = row ↔ value = 0) :
    update key rows id change = rows ↔ value = 0 ∨ ¬ ∃ row ∈ rows, key row = id := by
  rw [update_eq_iff]
  constructor
  · intro same
    by_cases present : ∃ row ∈ rows, key row = id
    · obtain ⟨row, member, here⟩ := present
      exact .inl ((moves row).mp (same row member here))
    · exact .inr present
  · rintro (zero | absent) row member here
    · exact (moves row).mpr zero
    · exact absurd ⟨row, member, here⟩ absent

theorem add_to_user_eq_iff (mine : type = .userQuota ∨ type = .usedQuota ∨ type = .requestCount)
    (user : User) : addToUser type value user = user ↔ value = 0 := by
  obtain ⟨userId, quota, used, count⟩ := user
  rcases mine with rfl | rfl | rfl <;> simp [addToUser]

theorem add_to_token_eq_iff (token : Token) : addToToken .tokenQuota value token = token ↔ value = 0 := by
  obtain ⟨tokenId, remain, used, period, periodUsed, start, duration, anchor⟩ := token
  simp [addToToken]

theorem add_to_channel_eq_iff (mine : type = .channelUsedQuota ∨ type = .channelRequestCount)
    (channel : Channel) : addToChannel type value channel = channel ↔ value = 0 := by
  obtain ⟨channelId, used, count⟩ := channel
  rcases mine with rfl | rfl <;> simp [addToChannel]

theorem add_value_eq_iff :
    addValue type id value tables = tables ↔ value = 0 ∨ ¬ HasRow type id tables := by
  have users (mine : type = .userQuota ∨ type = .usedQuota ∨ type = .requestCount) :
      addValue type id value tables = tables ↔ value = 0 ∨ ¬ ∃ user ∈ tables.users, user.id = id := by
    rw [add_value_users mine, ← rows_unchanged_iff (add_to_user_eq_iff mine)]
    exact ⟨fun same => congrArg Tables.users same, fun same => by rw [same]⟩
  have channels (mine : type = .channelUsedQuota ∨ type = .channelRequestCount) :
      addValue type id value tables = tables ↔
        value = 0 ∨ ¬ ∃ channel ∈ tables.channels, channel.id = id := by
    rw [add_value_channels mine, ← rows_unchanged_iff (add_to_channel_eq_iff mine)]
    exact ⟨fun same => congrArg Tables.channels same, fun same => by rw [same]⟩
  cases type with
  | userQuota => exact users (.inl rfl)
  | usedQuota => exact users (.inr (.inl rfl))
  | requestCount => exact users (.inr (.inr rfl))
  | channelUsedQuota => exact channels (.inl rfl)
  | channelRequestCount => exact channels (.inr rfl)
  | tokenQuota =>
    unfold HasRow
    rw [add_value_tokens, ← rows_unchanged_iff add_to_token_eq_iff]
    exact ⟨fun same => congrArg Tables.tokens same, fun same => by rw [same]⟩

theorem has_row_settled : HasRow type id (settle amounts tables) ↔ HasRow type id tables := by
  cases type <;> simp [HasRow, settle, settleUser, settleToken, settleChannel]

theorem ticked_together (key : Int) (failed : Bool) (now : Int) (sound : Sound batched immediate)
    (refines : Refines batched immediate) :
    Sound (batchUpdate clock key failed now batched) (batchUpdate clock key failed now immediate) ∧
      (Refines (batchUpdate clock key failed now batched)
          (batchUpdate clock key failed now immediate) ↔
        LosesNothing batched (.tick key failed now)) := by
  obtain ⟨emptied, idle⟩ := @tick_cases clock key failed now immediate
  obtain ⟨holds, moves⟩ := @tick_cases clock key failed now batched
  have still : (batchUpdate clock key failed now immediate).tables = immediate.tables := by
    rcases idle with ⟨-, -, same⟩ | ⟨type, value, -, held, -⟩
    · exact same
    · exact absurd held (sound.nothing type key)
  have nothing : ∀ type id, ¬ (batchUpdate clock key failed now immediate).Holds type id :=
    fun type id held => sound.nothing type id (emptied type id held)
  unfold Refines
  rw [still]
  rcases moves with ⟨none_next, pending, tables⟩ | ⟨type, value, next, held, pending, tables⟩
  · refine ⟨⟨by rw [tables]; exact sound.distinct, fun id held => ?_, nothing⟩, ?_⟩
    · rw [tables]
      exact sound.unlimited id (holds _ _ held)
    · rw [pending, tables]
      refine ⟨fun _ _ type value next => ?_, fun _ => refines⟩
      rw [none_next] at next
      cases next
  · have unlimited : type = .tokenQuota → Unlimited batched.tables key := by
      rintro rfl
      exact sound.unlimited key held
    have same : periods (batchUpdate clock key failed now batched).tables =
        periods batched.tables := by
      rw [tables, apply_entry_value unlimited]
      split
      · rfl
      · exact add_value_periods
    refine ⟨⟨by rw [same]; exact sound.distinct, fun id held => ?_, nothing⟩, ?_⟩
    · exact (unlimited_periods same).mpr (sound.unlimited id (holds _ _ held))
    · rw [pending, tables, apply_entry_value unlimited, settle_bump]
      cases failed with
      | false =>
        rw [if_neg Bool.false_ne_true, settle_add_value, refines, add_value_back]
        refine ⟨fun _ failed => ?_, fun _ => rfl⟩
        cases failed
      | true =>
        rw [if_pos rfl, refines, add_value_eq_iff, ← refines, has_row_settled, neg_eq_zero]
        constructor
        · intro lost _ other amount again
          rw [next, Option.some.injEq, Prod.mk.injEq] at again
          rwa [← again.1, ← again.2]
        · exact fun loses => loses rfl type value next

end Exactness

def started (tables : Tables) : Updater := { tables := tables }

theorem started_together (distinct : (tables.tokens.map Token.id).Nodup) :
    Sound (started tables) (started tables) ∧ Refines (started tables) (started tables) := by
  have nothing : ∀ type id, ¬ (started tables).Holds type id := by
    simp [started, Updater.Holds, Flusher.rest]
  refine ⟨⟨?_, fun id held => absurd held (nothing _ _), nothing⟩, ?_⟩
  · simpa [started, periods, Function.comp_def] using distinct
  · have none_pending : (started tables).pending = fun _ _ => 0 := by
      funext type id
      simp [started, Updater.pending, Flusher.rest, amount_empty]
    unfold Refines
    have users : settleUser (fun _ _ => 0) = id := by
      funext user
      simp [settleUser]
    have tokens : settleToken (fun _ _ => 0) = id := by
      funext token
      simp [settleToken]
    have channels : settleChannel (fun _ _ => 0) = id := by
      funext channel
      simp [settleChannel]
    rw [none_pending]
    simp only [started, settle, users, tokens, channels, List.map_id]

/-- For any calls and any steps of flushes between them, what is stored and what
is pending make up what the server stores that writes at once, after every
step, exactly when no write of a flush fails on an entry that matters. -/
theorem refines_iff_loses_nothing (clock : Clock) {tables : Tables}
    (distinct : (tables.tokens.map Token.id).Nodup) (events : List Event) :
    (∀ done, done <+: events → Refines (run (step clock true) (started tables) done)
        (run (step clock false) (started tables) done)) ↔
      Guarded (step clock true) LosesNothing (started tables) events := by
  obtain ⟨sound, refines⟩ := started_together distinct
  have together : ∀ batched immediate event, Sound batched immediate → Refines batched immediate →
      Sound (step clock true batched event) (step clock false immediate event) ∧
        (Refines (step clock true batched event) (step clock false immediate event) ↔
          LosesNothing batched event) := by
    intro batched immediate event sound refines
    cases event with
    | change change =>
      have changed := @changed_together clock batched immediate change sound refines
      exact ⟨changed.1, fun _ => trivial, fun _ => changed.2⟩
    | tick key failed now => exact ticked_together key failed now sound refines
  exact @always_related_iff_guarded _ _ (step clock true) LosesNothing _ (step clock false) Sound
    Refines (fun batched immediate event _ sound refines => (together _ _ event sound refines).1)
    (fun batched immediate event sound refines => (together _ _ event sound refines).2)
    (started tables) (started tables) events sound refines

instance (batched immediate : Updater) : Decidable (Refines batched immediate) :=
  inferInstanceAs (Decidable (_ = _))

def oneUser : Tables where
  users := [{ id := 1, quota := 100 }]

def noClock : Clock := ⟨fun _ day => day, fun day => day - 86400⟩

def flushOnce (failed : Bool) : List Event :=
  [.change (.increaseUserQuota 1 10 false), .tick 1 false 0, .tick 1 false 0, .tick 1 false 0,
    .tick 1 failed 0]

/-- The failed write is dropped. -/
theorem failed_entry_dropped :
    ¬ ∀ (clock : Clock) (tables : Tables) (events : List Event),
      (tables.tokens.map Token.id).Nodup →
      Refines (run (step clock true) (started tables) events)
        (run (step clock false) (started tables) events) := by
  intro always
  have same := always noClock oneUser (flushOnce true) List.nodup_nil
  revert same
  decide +kernel

theorem flushed_entry_stored :
    Refines (run (step noClock true) (started oneUser) (flushOnce false))
      (run (step noClock false) (started oneUser) (flushOnce false)) := by
  have permitted : Guarded (step noClock true) LosesNothing (started oneUser) (flushOnce false) :=
    ⟨trivial, nofun, nofun, nofun, nofun, trivial⟩
  have distinct : (oneUser.tokens.map Token.id).Nodup := List.nodup_nil
  exact (refines_iff_loses_nothing noClock distinct (flushOnce false)).mpr permitted _ (List.prefix_refl _)

end NewApi.BatchUpdater
