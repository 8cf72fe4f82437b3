import NewApi.Strconv

/-! Objects in Redis hashes. The encoder and the decoder walk over the fields of a struct
by their kinds. Nil is written as the empty text, and so is a pointer to the empty text,
which is nil when it is read again; everything else is read as what it was. -/
namespace NewApi.RedisObjects
open NewApi.Strconv

/-! ## The model -/

/-- The kinds of values that the decoder sets; the integers of a struct have 64 bits. -/
inductive Kind where
  | string | int | bool

abbrev Kind.Value : Kind → Type
  | .string => String
  | .int => Int64
  | .bool => Bool

def Kind.zero : (kind : Kind) → kind.Value
  | .string => ""
  | .int => 0
  | .bool => false

/-- A field of a struct: its name, and what the walks ask of its type. -/
inductive Column where
  | plain (name : String) (kind : Kind)
  | pointer (name : String) (target : Kind)
  /-- `gorm.DeletedAt`. -/
  | deletedAt (name : String)
  /-- A kind that the decoder does not set. -/
  | unsupported (name kind : String)

def Column.name : Column → String
  | .plain name _ | .pointer name _ | .deletedAt name | .unsupported name _ => name

/-- Why an object is not read. -/
inductive Failure where
  | keyNotFound (key : String)
  | parseIntField (name : String) (reason : NumError)
  | parseBoolField (name : String) (reason : NumError)
  | parseDeletedAtField (name reason : String)
  | unsupportedField (kind name : String)

section Walks
variable (Time : Type) (parseTime : String → Except String Time)

abbrev Column.Value : Column → Type
  | .plain _ kind => kind.Value
  | .pointer _ target => Option target.Value
  | .deletedAt _ => Option Time
  | .unsupported _ _ => String

abbrev Record : List Column → Type
  | [] => Unit
  | column :: rest => column.Value Time × Record rest

variable {Time}

def Column.zero : (column : Column) → column.Value Time
  | .plain _ kind => kind.zero
  | .pointer _ _ => none
  | .deletedAt _ => none
  | .unsupported _ _ => ""

def zeroRecord : (columns : List Column) → Record Time columns
  | [] => ()
  | column :: rest => (column.zero, zeroRecord rest)

abbrev Hash := List (String × String)

/-- `fmt.Sprintf("%v", value)`, and `strconv.FormatBool`. -/
def formatValue : (kind : Kind) → kind.Value → String
  | .string, value => value
  | .int, value => formatInt value
  | .bool, value => formatBool value

/-- What the loop of `RedisHSetObj` writes of a field, if anything. -/
def encodeField : (column : Column) → column.Value Time → Option String
  | .deletedAt _, _ => none
  | .pointer _ _, none => some ""
  | .pointer _ target, some value => some (formatValue target value)
  | .plain _ kind, value => some (formatValue kind value)
  | .unsupported _ _, printed => some printed

/-- The loop over the fields of `RedisHSetObj`. -/
def encodeFields : (columns : List Column) → Record Time columns → Hash
  | [], _ => []
  | column :: rest, (value, others) =>
    match encodeField column value with
    | none => encodeFields rest others
    | some text => (column.name, text) :: encodeFields rest others

/-- `HSET` of several fields: the others stay as they are stored. -/
def hSet (data stored : Hash) : Hash :=
  data ++ stored.filter fun entry => (data.lookup entry.1).isNone

/-- `common/redis.go::RedisHSetObj`, of a transaction that is executed. -/
def redisHSetObj (columns : List Column) (object : Record Time columns) (stored : Hash) : Hash :=
  hSet (encodeFields columns object) stored

/-- What the switch of `RedisHGetObj` sets. -/
def decodeValue (name : String) : (kind : Kind) → String → Except Failure kind.Value
  | .string, text => .ok text
  | .int, text => (parseInt text).mapError (.parseIntField name)
  | .bool, text => (parseBool text).mapError (.parseBoolField name)

/-- The body of the loop of `RedisHGetObj`, of a field that the hash has. -/
def decodeField : (column : Column) → column.Value Time → String → Except Failure (column.Value Time)
  | .plain name kind, _, text => decodeValue name kind text
  | .pointer name target, current, text =>
    if text = "" then .ok current else (decodeValue name target text).map some
  | .deletedAt name, current, text =>
    if text = "" then .ok current
    else ((parseTime text).mapError (.parseDeletedAtField name)).map some
  | .unsupported name kind, _, _ => .error (.unsupportedField kind name)

/-- The loop over the fields of `RedisHGetObj`. -/
def decodeFields : (columns : List Column) → Record Time columns → Hash →
    Except Failure (Record Time columns)
  | [], _, _ => .ok ()
  | column :: rest, (current, others), result =>
    match result.lookup column.name with
    | none => (decodeFields rest others result).map fun decoded => (current, decoded)
    | some text =>
      (decodeField parseTime column current text).bind fun value =>
        (decodeFields rest others result).map fun decoded => (value, decoded)

/-- `common/redis.go::RedisHGetObj`, of a reply to `HGETALL`. -/
def redisHGetObj (columns : List Column) (key : String) (object : Record Time columns)
    (result : Hash) : Except Failure (Record Time columns) :=
  if result.isEmpty then .error (.keyNotFound key)
  else decodeFields parseTime columns object result

end Walks

/-! ## What is read of what was written -/

variable {Time : Type} {parseTime : String → Except String Time} {columns : List Column}

def Column.settled : (column : Column) → column.Value Time → column.Value Time
  | .pointer _ target, value => value.filter fun value => formatValue target value ≠ ""
  | .deletedAt _, _ => none
  | .plain _ _, value => value
  | .unsupported _ _, printed => printed

def settledRecord : (columns : List Column) → Record Time columns → Record Time columns
  | [], _ => ()
  | column :: rest, (value, others) => (column.settled value, settledRecord rest others)

def Column.isSupported : Column → Bool
  | .unsupported _ _ => false
  | _ => true

def Holds : (columns : List Column) → Record Time columns → Hash → Prop
  | [], _, _ => True
  | column :: rest, (value, others), result =>
    result.lookup column.name = encodeField column value ∧ Holds rest others result

theorem decode_format (name : String) (kind : Kind) (value : kind.Value) :
    decodeValue name kind (formatValue kind value) = .ok value := by
  cases kind with
  | string => rfl
  | int => rw [formatValue, decodeValue, parse_format_int]; rfl
  | bool => rw [formatValue, decodeValue, parse_format_bool]; rfl

theorem decode_encode_field (column : Column) (supported : column.isSupported = true)
    (value : column.Value Time) (written : encodeField column value = some text) :
    decodeField parseTime column column.zero text = .ok (column.settled value) := by
  cases column with
  | plain name kind =>
    obtain rfl := Option.some.inj written
    exact decode_format name kind value
  | pointer name target =>
    cases value with
    | none =>
      obtain rfl := Option.some.inj written
      rfl
    | some value =>
      obtain rfl := Option.some.inj written
      by_cases empty : formatValue target value = ""
      · simp [decodeField, Column.settled, Option.filter, empty, Column.zero]
      · rw [decodeField, if_neg empty, decode_format]
        simp [Column.settled, Option.filter, empty, Except.map]
  | deletedAt name => cases written
  | unsupported name kind => cases supported

theorem settled_unwritten (column : Column) (value : column.Value Time)
    (skipped : encodeField column value = none) : column.settled value = column.zero := by
  cases column with
  | plain | unsupported => cases skipped
  | pointer name target => cases value <;> cases skipped
  | deletedAt name => rfl

theorem decode_holds (supported : ∀ column ∈ columns, column.isSupported = true)
    (holds : Holds columns object result) :
    decodeFields parseTime columns (zeroRecord columns) result = .ok (settledRecord columns object) := by
  induction columns with
  | nil => rfl
  | cons column rest ih =>
    obtain ⟨value, others⟩ := object
    obtain ⟨here, later⟩ := holds
    obtain ⟨fine, others_⟩ := List.forall_mem_cons.1 supported
    have decoded := ih others_ later
    rw [zeroRecord, decodeFields, here, settledRecord]
    cases written : encodeField column value with
    | none =>
      dsimp only
      rw [decoded, settled_unwritten column value written]
      rfl
    | some text =>
      dsimp only
      rw [decode_encode_field column fine value written, decoded]
      rfl

theorem holds_behind
    (other : name ∉ columns.map Column.name) (holds : Holds columns object result) :
    Holds columns object ((name, text) :: result) := by
  induction columns with
  | nil => trivial
  | cons column rest ih =>
    obtain ⟨here, later⟩ := holds
    rw [List.map_cons, List.mem_cons, not_or] at other
    refine ⟨?_, ih other.2 later⟩
    rw [List.lookup_cons, beq_false_of_ne (Ne.symm other.1)]
    exact here

theorem encoded_names (object : Record Time columns) :
    ∀ entry ∈ encodeFields columns object, entry.1 ∈ columns.map Column.name := by
  induction columns with
  | nil => exact fun _ member => by cases member
  | cons column rest ih =>
    obtain ⟨value, others⟩ := object
    intro entry member
    rw [encodeFields] at member
    rw [List.map_cons, List.mem_cons]
    split at member
    next => exact .inr (ih others entry member)
    next =>
      rcases List.mem_cons.1 member with rfl | later
      · exact .inl rfl
      · exact .inr (ih others entry later)

def Clear (columns : List Column) (stored : Hash) : Prop :=
  ∀ name, .deletedAt name ∈ columns → stored.lookup name = none

theorem Clear.tail (clear : Clear (column :: columns) stored) :
    Clear columns stored :=
  fun name member => clear name (.tail _ member)

theorem written_holds (distinct : (columns.map Column.name).Nodup) (object : Record Time columns)
    (clear : Clear columns base) :
    Holds columns object (encodeFields columns object ++ base) := by
  induction columns with
  | nil => trivial
  | cons column rest ih =>
    obtain ⟨value, others⟩ := object
    rw [List.map_cons, List.nodup_cons] at distinct
    have later := ih distinct.2 others clear.tail
    rw [encodeFields]
    cases written : encodeField column value with
    | some text =>
      dsimp only
      rw [List.cons_append]
      refine ⟨?_, holds_behind distinct.1 later⟩
      rw [written, List.lookup_cons_self]
    | none =>
      dsimp only
      refine ⟨?_, later⟩
      have unwritten : (encodeFields rest others).lookup column.name = none := by
        rw [List.lookup_eq_none_iff]
        intro entry member
        refine bne_iff_ne.2 fun same => distinct.1 ?_
        exact same ▸ encoded_names others entry member
      have unstored : base.lookup column.name = none := by
        cases column with
        | deletedAt name => exact clear name List.mem_cons_self
        | plain | unsupported => cases written
        | pointer name target => cases value <;> cases written
      rw [List.lookup_append, unwritten, unstored, written]
      rfl

theorem clear_filter (clear : Clear columns stored) (keep : String × String → Bool) :
    Clear columns (stored.filter keep) := by
  intro name member
  have absent := List.lookup_eq_none_iff.1 (clear name member)
  exact List.lookup_eq_none_iff.2 fun entry listed => absent entry (List.mem_filter.1 listed).1

theorem read_back (distinct : (columns.map Column.name).Nodup)
    (supported : ∀ column ∈ columns, column.isSupported = true) (key : String)
    (object : Record Time columns) (filled : encodeFields columns object ≠ [])
    (clear : Clear columns stored) :
    redisHGetObj parseTime columns key (zeroRecord columns) (redisHSetObj columns object stored) =
      .ok (settledRecord columns object) := by
  have some_ : (redisHSetObj columns object stored).isEmpty = false := by
    rw [redisHSetObj, hSet, List.isEmpty_eq_false_iff]
    exact List.append_ne_nil_of_left_ne_nil filled _
  rw [redisHGetObj, some_, if_neg Bool.false_ne_true]
  exact decode_holds supported (written_holds distinct object (clear_filter clear _))

/-! ## Tokens and users -/

/-- `model/token.go::Token`. -/
structure Token (Time : Type) where
  id : Int64
  userId : Int64
  userSubscriptionId : Int64
  username : String
  key : String
  source : String
  specificChannelId : Int64
  specificChannelKeyIndex : Int64
  status : Int64
  name : String
  createdTime : Int64
  accessedTime : Int64
  expiredTime : Int64
  remainQuota : Int64
  unlimitedQuota : Bool
  modelLimitsEnabled : Bool
  modelLimits : String
  allowIps : Option String
  usedQuota : Int64
  group : String
  businessGroup : String
  periodDuration : Int64
  periodQuota : Int64
  periodUsedQuota : Int64
  periodStartAt : Int64
  periodResetAnchor : Int64
  crossGroupRetry : Bool
  lastTestAt : Int64
  lastTestOK : Bool
  lastTestSummary : String
  deletedAt : Option Time

def tokenColumns : List Column :=
  [.plain "Id" .int, .plain "UserId" .int, .plain "UserSubscriptionId" .int,
    .plain "Username" .string, .plain "Key" .string, .plain "Source" .string,
    .plain "SpecificChannelId" .int, .plain "SpecificChannelKeyIndex" .int,
    .plain "Status" .int, .plain "Name" .string, .plain "CreatedTime" .int,
    .plain "AccessedTime" .int, .plain "ExpiredTime" .int, .plain "RemainQuota" .int,
    .plain "UnlimitedQuota" .bool, .plain "ModelLimitsEnabled" .bool,
    .plain "ModelLimits" .string, .pointer "AllowIps" .string, .plain "UsedQuota" .int,
    .plain "Group" .string, .plain "BusinessGroup" .string, .plain "PeriodDuration" .int,
    .plain "PeriodQuota" .int, .plain "PeriodUsedQuota" .int, .plain "PeriodStartAt" .int,
    .plain "PeriodResetAnchor" .int, .plain "CrossGroupRetry" .bool,
    .plain "LastTestAt" .int, .plain "LastTestOK" .bool, .plain "LastTestSummary" .string,
    .deletedAt "DeletedAt"]

def Token.record (token : Token Time) : Record Time tokenColumns :=
  (token.id, token.userId, token.userSubscriptionId, token.username, token.key, token.source,
    token.specificChannelId, token.specificChannelKeyIndex, token.status, token.name,
    token.createdTime, token.accessedTime, token.expiredTime, token.remainQuota,
    token.unlimitedQuota, token.modelLimitsEnabled, token.modelLimits, token.allowIps,
    token.usedQuota, token.group, token.businessGroup, token.periodDuration, token.periodQuota,
    token.periodUsedQuota, token.periodStartAt, token.periodResetAnchor, token.crossGroupRetry,
    token.lastTestAt, token.lastTestOK, token.lastTestSummary, token.deletedAt, ())

def Token.ofRecord : Record Time tokenColumns → Token Time
  | (id, userId, userSubscriptionId, username, key, source, specificChannelId,
      specificChannelKeyIndex, status, name, createdTime, accessedTime, expiredTime, remainQuota,
      unlimitedQuota, modelLimitsEnabled, modelLimits, allowIps, usedQuota, group, businessGroup,
      periodDuration, periodQuota, periodUsedQuota, periodStartAt, periodResetAnchor,
      crossGroupRetry, lastTestAt, lastTestOK, lastTestSummary, deletedAt, ()) =>
    { id, userId, userSubscriptionId, username, key, source, specificChannelId,
      specificChannelKeyIndex, status, name, createdTime, accessedTime, expiredTime, remainQuota,
      unlimitedQuota, modelLimitsEnabled, modelLimits, allowIps, usedQuota, group, businessGroup,
      periodDuration, periodQuota, periodUsedQuota, periodStartAt, periodResetAnchor,
      crossGroupRetry, lastTestAt, lastTestOK, lastTestSummary, deletedAt }

/-- `model/user_cache.go::UserBase`. -/
structure UserBase where
  id : Int64
  group : String
  email : String
  quota : Int64
  status : Int64
  role : Int64
  username : String
  setting : String
  permissionsJSON : String

def userColumns : List Column :=
  [.plain "Id" .int, .plain "Group" .string, .plain "Email" .string, .plain "Quota" .int,
    .plain "Status" .int, .plain "Role" .int, .plain "Username" .string,
    .plain "Setting" .string, .plain "PermissionsJSON" .string]

def UserBase.record (user : UserBase) : Record Time userColumns :=
  (user.id, user.group, user.email, user.quota, user.status, user.role, user.username,
    user.setting, user.permissionsJSON, ())

def UserBase.ofRecord : Record Time userColumns → UserBase
  | (id, group, email, quota, status, role, username, setting, permissionsJSON, ()) =>
    { id, group, email, quota, status, role, username, setting, permissionsJSON }

section RoundTrip
variable (parseTime : String → Except String Time)

/-- `RedisHGetObj` into a zero token. -/
def getToken (key : String) (result : Hash) : Except Failure (Token Time) :=
  (redisHGetObj parseTime tokenColumns key (zeroRecord tokenColumns) result).map Token.ofRecord

def setToken (token : Token Time) (stored : Hash) : Hash :=
  redisHSetObj tokenColumns token.record stored

/-- `RedisHGetObj` into a zero user. -/
def getUser (key : String) (result : Hash) : Except Failure UserBase :=
  (redisHGetObj parseTime userColumns key (zeroRecord userColumns) result).map UserBase.ofRecord

def setUser (user : UserBase) (stored : Hash) : Hash :=
  @redisHSetObj Time userColumns user.record stored

/-- What was written over a hash without `DeletedAt` is read as the token, apart from
`DeletedAt`. -/
def TokenReadsBack (token : Token Time) : Prop :=
  ∀ key stored, stored.lookup "DeletedAt" = none →
    ∃ back, getToken parseTime key (setToken token stored) = .ok back ∧
      { back with deletedAt := token.deletedAt } = token

def UserReadsBack (user : UserBase) : Prop :=
  ∀ key stored, getUser parseTime key (@setUser Time user stored) = .ok user

end RoundTrip

theorem token_read_back (key : String) (token : Token Time)
    (clear : stored.lookup "DeletedAt" = none) :
    getToken parseTime key (setToken token stored) =
      .ok { token with allowIps := token.allowIps.filter (· ≠ ""), deletedAt := none } := by
  have skipped : Clear tokenColumns stored := by
    intro name member
    obtain rfl : name = "DeletedAt" := by simpa [tokenColumns] using member
    exact clear
  rw [getToken, setToken, read_back (by decide) (by decide) key token.record (List.cons_ne_nil _ _) skipped]
  rfl

theorem user_reads_back (user : UserBase) : UserReadsBack parseTime user := by
  intro key stored
  have skipped : Clear userColumns stored := by
    intro name member
    simp [userColumns] at member
  rw [getUser, setUser, read_back (by decide) (by decide) key user.record (List.cons_ne_nil _ _) skipped]
  rfl

theorem token_reads_back_iff (token : Token Time) :
    TokenReadsBack parseTime token ↔ token.allowIps ≠ some "" := by
  have kept : { token with allowIps := token.allowIps.filter (· ≠ "") } = token ↔
      token.allowIps ≠ some "" := by
    constructor
    · intro same empty
      have gone := congrArg Token.allowIps same
      rw [empty] at gone
      cases gone
    · intro filled
      have whole : token.allowIps.filter (· ≠ "") = token.allowIps := by
        cases listed : token.allowIps with
        | none => rfl
        | some text => simp_all [Option.filter]
      rw [whole]
  rw [← kept]
  constructor
  · intro reads
    obtain ⟨back, read, same⟩ := reads "" [] rfl
    rw [token_read_back "" token rfl] at read
    obtain rfl := Except.ok.inj read
    exact same
  · intro same key stored clear
    exact ⟨_, token_read_back key token clear, same⟩

/-- A token is read as it was written exactly when its addresses are no pointer to the
empty text, and a user always is. -/
theorem objects_read_back_iff (parseTime : String → Except String Time) :
    (∀ token : Token Time, TokenReadsBack parseTime token ↔ token.allowIps ≠ some "") ∧
      ∀ user, UserReadsBack parseTime user :=
  ⟨token_reads_back_iff, user_reads_back⟩

def zeroToken : Token Unit := Token.ofRecord (zeroRecord tokenColumns)

def emptiedToken : Token Unit := { zeroToken with key := "sk-1", allowIps := some "" }

/-- It is read without a list. -/
theorem emptied_list_lost :
    (getToken (fun _ => .ok ()) "token:1" (setToken emptiedToken [])).map Token.allowIps =
        .ok none ∧
      ¬ TokenReadsBack (fun _ => .ok ()) emptiedToken :=
  ⟨rfl, fun reads => (token_reads_back_iff emptiedToken).1 reads rfl⟩

end NewApi.RedisObjects
