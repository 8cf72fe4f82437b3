import Mathlib.Logic.Function.Basic
import NewApi.GuardedRun
import NewApi.KeyedTable

/-! Two-factor attempts of one user. An attempt reads the record, checks the lock
and judges its code on that copy, and saves the whole copy; a backup code is read
and marked by two statements. Any number of attempts interleave, and a condition
on the wrong codes, on the marks and on the saves keeps their number bounded. -/
namespace NewApi.TwoFactor
open NewApi.GuardedRun NewApi.KeyedTable

/-! ## Codes -/

/-- `common.MaxFailAttempts`. -/
def maxFailAttempts : Nat := 5

/-- `common.LockoutDuration`. -/
def lockoutDuration : Int := 300

/-- `unicode.ToUpper`, for the letters that become ASCII. -/
def toUpper (char : Char) : Char :=
  if char = 'ı' then 'I' else if char = 'ſ' then 'S' else char.toUpper

/-- `strings.ReplaceAll` of one character by nothing. -/
def remove (char : Char) (text : String) : List Char := text.toList.filter (· ≠ char)

/-- `strconv.Atoi` succeeds on six characters. -/
def isNumber : List Char → Bool
  | [] => false
  | first :: rest =>
    if first = '+' ∨ first = '-' then rest ≠ [] && rest.all Char.isDigit
    else (first :: rest).all Char.isDigit

/-- `common/totp.go::ValidateNumericCode`. -/
def validateNumericCode (code : String) : Option String :=
  let code := remove ' ' code
  if code.length = 6 && isNumber code then some (String.ofList code) else none

def isCodeChar (char : Char) : Bool := ('A' ≤ char && char ≤ 'Z') || ('0' ≤ char && char ≤ '9')

/-- The characters that `common/totp.go::ValidateBackupCode` looks at. -/
def cleanBackupCode (code : String) : List Char := (remove '-' code).map toUpper

/-- `common/totp.go::ValidateBackupCode`. -/
def validateBackupCode (code : String) : Bool :=
  (cleanBackupCode code).length = 8 && (cleanBackupCode code).all isCodeChar

/-- `common/totp.go::NormalizeBackupCode`. -/
def normalizeBackupCode (code : String) : String :=
  let clean := cleanBackupCode code
  if clean.length = 8 then String.ofList (clean.take 4 ++ '-' :: clean.drop 4) else code

/-! ## Rows -/

/-- `model/twofa.go::TwoFA`. -/
structure TwoFA where
  id : Int
  secret : String
  isEnabled : Bool := true
  failedAttempts : Nat := 0
  lockedUntil : Option Int := none
  lastUsedAt : Option Int := none
  deriving DecidableEq, Repr

/-- `model/twofa.go::TwoFABackupCode`, with the code that its hash is of. -/
structure TwoFABackupCode where
  id : Nat
  code : String
  isUsed : Bool := false
  usedAt : Option Int := none
  deleted : Bool := false
  deriving DecidableEq, Repr

/-- `model/twofa.go::TwoFA.IsLocked`. -/
def TwoFA.isLocked (record : TwoFA) (now : Int) : Bool :=
  record.lockedUntil.any fun until_ => now < until_

/-- `model/twofa.go::TwoFA.IncrementFailedAttempts` before its update. -/
def TwoFA.failed (record : TwoFA) (now : Int) : TwoFA :=
  { record with
    failedAttempts := record.failedAttempts + 1
    lockedUntil := if record.failedAttempts + 1 ≥ maxFailAttempts then some (now + lockoutDuration)
      else record.lockedUntil }

def TwoFA.passed (record : TwoFA) (now : Int) : TwoFA :=
  { record with failedAttempts := 0, lockedUntil := none, lastUsedAt := some now }

/-! ## Attempts -/

inductive Purpose where
  | login
  | disable
  | regenerate
  deriving DecidableEq, Repr

structure Request where
  purpose : Purpose
  code : String
  deriving DecidableEq, Repr

/-- How far an attempt is: it has read the record; it has found the backup code,
judged at that time; its code is judged; its code was valid. -/
inductive Stage where
  | idle
  | read (copy : TwoFA)
  | matched (copy : TwoFA) (row : TwoFABackupCode) (time : Int)
  | judged (copy : TwoFA) (valid : Bool) (time : Int)
  | accepted
  | ended
  deriving DecidableEq, Repr

/-- The tables of the user and the attempts. `wrong` counts the wrong codes that
were judged since the last success or lock, and `accepted` has the backup codes
that were. -/
structure Store where
  record : Option TwoFA
  codes : List TwoFABackupCode
  nextCode : Nat
  stages : Nat → Stage := fun _ => .idle
  wrong : Nat := 0
  accepted : List Nat := []

def Store.enter (store : Store) (id : Nat) (stage : Stage) : Store :=
  { store with stages := Function.update store.stages id stage }

/-- `GetTwoFAByUserId`, and the check that the record is enabled. -/
def readRecord (id : Nat) (store : Store) : Store :=
  match store.record with
  | none => store.enter id .ended
  | some record => store.enter id (if record.isEnabled then .read record else .ended)

def findBackupCode (code : String) (codes : List TwoFABackupCode) : Option TwoFABackupCode :=
  codes.find? fun row => !row.isUsed && !row.deleted && row.code = normalizeBackupCode code

/-- What the code is judged on the copy: `ValidateTOTPAndUpdateUsage` and
`ValidateBackupCodeAndUpdateUsage` up to their update. A regeneration takes no
backup code. -/
def judge (validate : String → String → Int → Bool) (request : Request) (copy : TwoFA) (now : Int)
    (codes : List TwoFABackupCode) : Stage :=
  if copy.isLocked now then .ended
  else match validateNumericCode request.code with
  | some clean => .judged copy (validate copy.secret clean now) now
  | none =>
    if request.purpose = .regenerate ∨ !validateBackupCode request.code then .ended
    else match findBackupCode request.code codes with
    | some row => .matched copy row now
    | none => .judged copy false now

def Stage.isWrong : Stage → Bool
  | .judged _ false _ => true
  | _ => false

def evaluate (validate : String → String → Int → Bool) (requests : Nat → Request) (id : Nat)
    (now : Int) (store : Store) : Store :=
  match store.stages id with
  | .read copy =>
    let stage := judge validate (requests id) copy now store.codes
    { store.enter id stage with wrong := store.wrong + if stage.isWrong then 1 else 0 }
  | _ => store

def usedCode (time : Int) (row : TwoFABackupCode) : TwoFABackupCode :=
  { row with isUsed := true, usedAt := some time }

/-- `DB.Save` of a backup code: the row is updated, or inserted where it is gone. -/
def saveCode (row : TwoFABackupCode) (codes : List TwoFABackupCode) : List TwoFABackupCode :=
  if (lookup TwoFABackupCode.id codes row.id).isSome then
    update TwoFABackupCode.id codes row.id fun _ => row
  else codes ++ [row]

def useCode (id : Nat) (store : Store) : Store :=
  match store.stages id with
  | .matched copy row time =>
    { store.enter id (.judged copy true time) with
      codes := saveCode (usedCode time row) store.codes
      accepted := store.accepted ++ [row.id] }
  | _ => store

/-- `model/twofa.go::TwoFA.Update`: the copy is saved, over the record or where
there is none. -/
def saveRecord (id : Nat) (store : Store) : Store :=
  match store.stages id with
  | .judged copy true time =>
    { store.enter id .accepted with record := some (copy.passed time), wrong := 0 }
  | .judged copy false time =>
    { store.enter id .ended with
      record := some (copy.failed time)
      wrong := if copy.failedAttempts + 1 ≥ maxFailAttempts then 0 else store.wrong }
  | _ => store

/-- The rows of `model/twofa.go::CreateBackupCodes`. -/
def newCodes : Nat → List String → List TwoFABackupCode
  | _, [] => []
  | next, code :: rest => { id := next, code := normalizeBackupCode code } :: newCodes (next + 1) rest

/-- What follows a valid code: `DisableTwoFA`, or `CreateBackupCodes`. -/
def finish (requests : Nat → Request) (id : Nat) (codes : List String) (store : Store) : Store :=
  match store.stages id with
  | .accepted =>
    match (requests id).purpose with
    | .login => store.enter id .ended
    | .disable => match store.record with
      | none => store.enter id .ended
      | some _ => { store.enter id .ended with record := none, codes := [] }
    | .regenerate => { store.enter id .ended with
        codes := (store.codes.map fun row => { row with deleted := true }) ++ newCodes store.nextCode codes
        nextCode := store.nextCode + codes.length }
  | _ => store

/-! ## Runs -/

inductive Event where
  | read (id : Nat)
  | evaluate (id : Nat) (now : Int)
  | useCode (id : Nat)
  | save (id : Nat)
  | finish (id : Nat) (codes : List String)
  deriving DecidableEq, Repr

section Runs
variable (validate : String → String → Int → Bool) (requests : Nat → Request)

def step (store : Store) : Event → Store
  | .read id => if store.stages id = .idle then readRecord id store else store
  | .evaluate id now => evaluate validate requests id now store
  | .useCode id => useCode id store
  | .save id => saveRecord id store
  | .finish id codes => finish requests id codes store

end Runs

/-! ## What is bounded -/

def TwoFA.sameCount (record copy : TwoFA) : Prop :=
  record.failedAttempts = copy.failedAttempts ∧ record.lockedUntil = copy.lockedUntil

/-- At most so many wrong codes since the last success or lock, and no backup
code twice. -/
structure Bounded (store : Store) : Prop where
  wrong : store.wrong ≤ maxFailAttempts
  once : store.accepted.Nodup

def KeepsLock (store next : Store) : Event → Prop
  | .save id => ∀ copy time, store.stages id = .judged copy false time →
    ∀ record now, store.record = some record → record.isLocked now = true →
      ∃ saved, next.record = some saved ∧ saved.isLocked now = true
  | _ => True

def StaysDeleted (store next : Store) : Prop := store.record = none → next.record = none

section Guards
variable (validate : String → String → Int → Bool) (requests : Nat → Request)

def Current (store : Store) : Event → Prop
  | .evaluate id now => ∀ copy, store.stages id = .read copy →
    (judge validate (requests id) copy now store.codes).isWrong = true →
      (∃ record, store.record = some record ∧ record.sameCount copy) ∧
        ∀ other, (store.stages other).isWrong = false
  | .useCode id => ∀ copy row time, store.stages id = .matched copy row time →
    ∃ stored ∈ store.codes, stored.id = row.id ∧ stored.isUsed = false
  | .save id => ∀ copy valid time, store.stages id = .judged copy valid time →
    ∃ record, store.record = some record ∧ (valid = false → record.sameCount copy)
  | _ => True

end Guards

/-! ## The count -/

section Counting
variable {validate : String → String → Int → Bool} {requests : Nat → Request} {store : Store}

theorem enter_stage (id other : Nat) (stage : Stage) :
    (store.enter id stage).stages other = if other = id then stage else store.stages other :=
  Function.update_apply store.stages id stage other

/-- The counter of the record stands for every wrong code that was judged, but
for the one that waits to be saved. -/
structure Counted (store : Store) : Prop where
  bound : store.wrong ≤ maxFailAttempts
  waiting : ∀ record, store.record = some record → store.wrong ≤ 1 ∨
    (store.wrong ≤ record.failedAttempts + 1 ∧ record.failedAttempts < maxFailAttempts)
  quiet : (∀ id, (store.stages id).isWrong = false) → ∀ record, store.record = some record →
    store.wrong = 0 ∨ (store.wrong ≤ record.failedAttempts ∧ record.failedAttempts < maxFailAttempts)
  single : ∀ one other, (store.stages one).isWrong = true → (store.stages other).isWrong = true →
    one = other
  matched : ∀ id copy row time, store.stages id = .matched copy row time → copy.isLocked time = false
  judged : ∀ id copy valid time, store.stages id = .judged copy valid time → copy.isLocked time = false

def Stage.Unlocked : Stage → Prop
  | .matched copy _ time => copy.isLocked time = false
  | .judged copy _ time => copy.isLocked time = false
  | _ => True

theorem Counted.enter {next : Store} (counted : Counted store) {id : Nat} {stage : Stage}
    (stages : next.stages = (store.enter id stage).stages) (before : (store.stages id).isWrong = false)
    (after : stage.isWrong = false) (unlocked : stage.Unlocked) (wrong : next.wrong = store.wrong)
    (record : ∀ row, next.record = some row → store.record = some row) : Counted next := by
  have same : ∀ other, (next.stages other).isWrong = (store.stages other).isWrong := by
    intro other
    rw [stages, enter_stage]
    split
    · rename_i here
      rw [here, after, before]
    · rfl
  refine ⟨wrong ▸ counted.bound, fun row found => ?_, fun none_ row found => ?_,
    fun one other first second => ?_, fun other copy row time found => ?_,
    fun other copy valid time found => ?_⟩
  · rw [wrong]
    exact counted.waiting row (record row found)
  · rw [wrong]
    exact counted.quiet (fun other => (same other).symm.trans (none_ other)) row (record row found)
  · exact counted.single one other ((same one).symm.trans first) ((same other).symm.trans second)
  · rw [stages, enter_stage] at found
    split at found
    · subst found
      exact unlocked
    · exact counted.matched other copy row time found
  · rw [stages, enter_stage] at found
    split at found
    · subst found
      exact unlocked
    · exact counted.judged other copy valid time found

theorem judge_unlocked (request : Request) (copy : TwoFA) (now : Int) (codes : List TwoFABackupCode) :
    (judge validate request copy now codes).Unlocked := by
  unfold judge
  split
  · trivial
  · rename_i unlocked
    have open_ : copy.isLocked now = false := by simpa using unlocked
    split
    · exact open_
    · split
      · trivial
      · split
        · exact open_
        · exact open_

theorem read_counted (counted : Counted store) {id : Nat} (idle : store.stages id = .idle) :
    Counted (readRecord id store) := by
  have before : (store.stages id).isWrong = false := by
    rw [idle]
    rfl
  unfold readRecord
  split
  · exact @Counted.enter store (store.enter id .ended) counted id .ended rfl before rfl trivial rfl fun _ found => found
  · rename_i record found
    by_cases enabled : record.isEnabled = true
    · rw [if_pos enabled]
      exact @Counted.enter store _ counted id (.read record) rfl before rfl trivial rfl fun _ found => found
    · rw [if_neg enabled]
      exact @Counted.enter store _ counted id .ended rfl before rfl trivial rfl fun _ found => found

theorem evaluate_counted (counted : Counted store) {id : Nat} {now : Int}
    (current : Current validate requests store (.evaluate id now)) :
    Counted (evaluate validate requests id now store) := by
  unfold evaluate
  split
  · rename_i copy reading
    have before : (store.stages id).isWrong = false := by
      rw [reading]
      rfl
    have unlocked := @judge_unlocked validate (requests id) copy now store.codes
    cases wrong : (judge validate (requests id) copy now store.codes).isWrong with
    | false =>
      exact @Counted.enter store _ counted id _ rfl before wrong unlocked (by simp [wrong]) fun _ found => found
    | true =>
      obtain ⟨⟨record, found, -⟩, alone⟩ := current copy reading wrong
      have held := counted.quiet alone record found
      have bound : store.wrong + 1 ≤ maxFailAttempts := by
        rcases held with none_ | ⟨low, high⟩
        · rw [none_]
          decide
        · omega
      refine ⟨by simpa [wrong] using bound, fun row same => ?_, fun none_ => ?_,
        fun one other first second => ?_, fun other held' row time same => ?_,
        fun other held' valid time same => ?_⟩
      · obtain rfl : record = row := Option.some.inj (found.symm.trans same)
        simp only [wrong, if_true]
        rcases held with none_ | ⟨low, high⟩
        · exact .inl (by omega)
        · exact .inr ⟨by omega, high⟩
      · have mine := none_ id
        simp only [enter_stage, if_true, wrong] at mine
        cases mine
      · have only_ : ∀ other, ((store.enter id (judge validate (requests id) copy now store.codes)).stages
            other).isWrong = true → other = id := by
          intro other standing
          rw [enter_stage] at standing
          by_contra apart
          rw [if_neg apart, alone other] at standing
          cases standing
        exact (only_ one first).trans (only_ other second).symm
      · simp only [enter_stage] at same
        split at same
        · rw [same] at unlocked
          exact unlocked
        · exact counted.matched other held' row time same
      · simp only [enter_stage] at same
        split at same
        · rw [same] at unlocked
          exact unlocked
        · exact counted.judged other held' valid time same
  · exact counted

theorem use_counted (counted : Counted store) (id : Nat) : Counted (useCode id store) := by
  unfold useCode
  split
  · rename_i copy row time found
    have before : (store.stages id).isWrong = false := by
      rw [found]
      rfl
    exact @Counted.enter store _ counted id (.judged copy true time) rfl before rfl
      (counted.matched id copy row time found) rfl fun _ same => same
  · exact counted

theorem finish_counted (counted : Counted store) (id : Nat) (codes : List String) :
    Counted (finish requests id codes store) := by
  unfold finish
  split
  · rename_i found
    have before : (store.stages id).isWrong = false := by
      rw [found]
      rfl
    split
    · exact @Counted.enter store _ counted id .ended rfl before rfl trivial rfl fun _ same => same
    · split
      · exact @Counted.enter store _ counted id .ended rfl before rfl trivial rfl fun _ same => same
      · exact @Counted.enter store _ counted id .ended rfl before rfl trivial rfl fun _ same => by cases same
    · exact @Counted.enter store _ counted id .ended rfl before rfl trivial rfl fun _ same => same
  · exact counted

theorem save_counted (counted : Counted store) {id : Nat}
    (current : Current validate requests store (.save id)) : Counted (saveRecord id store) := by
  have others : ∀ (stage : Stage), stage.isWrong = false → ∀ other,
      ((store.enter id stage).stages other).isWrong = true → (store.stages other).isWrong = true := by
    intro stage right_ other standing
    rw [enter_stage] at standing
    split at standing
    · rw [right_] at standing
      cases standing
    · exact standing
  have before : ∀ (stage : Stage) {kept other}, kept ≠ stage → (store.enter id stage).stages other = kept →
      store.stages other = kept := by
    intro stage kept other apart same
    rw [enter_stage] at same
    split at same
    · exact absurd same.symm apart
    · exact same
  unfold saveRecord
  split
  · rename_i copy time found
    refine ⟨Nat.zero_le _, fun _ _ => .inl (Nat.zero_le 1), fun _ _ _ => .inl rfl,
      fun one other first second => ?_, fun other held row time same => ?_, fun other held valid time same => ?_⟩
    · exact counted.single one other (others .accepted rfl one first) (others .accepted rfl other second)
    · exact counted.matched other held row time (before .accepted nofun same)
    · exact counted.judged other held valid time (before .accepted nofun same)
  · rename_i copy time found
    obtain ⟨record, stored, counts⟩ := current copy false time found
    obtain ⟨attempts, -⟩ := counts rfl
    have mine : (store.stages id).isWrong = true := by
      rw [found]
      rfl
    have held := counted.waiting record stored
    rw [attempts] at held
    have after : ∀ row, some (copy.failed time) = some row →
        (if copy.failedAttempts + 1 ≥ maxFailAttempts then 0 else store.wrong) = 0 ∨
          ((if copy.failedAttempts + 1 ≥ maxFailAttempts then 0 else store.wrong) ≤ row.failedAttempts ∧
            row.failedAttempts < maxFailAttempts) := by
      rintro row same
      obtain rfl := Option.some.inj same
      split
      · exact .inl rfl
      · rename_i below
        refine .inr ⟨?_, Nat.not_le.mp below⟩
        simp only [TwoFA.failed]
        omega
    refine ⟨?_, fun row same => ?_, fun _ => after, fun one other first second => ?_,
      fun other held row time same => ?_, fun other held valid time same => ?_⟩
    · have bound := counted.bound
      simp only
      split
      · exact Nat.zero_le _
      · exact bound
    · rcases after row same with none_ | ⟨low, high⟩
      · exact .inl (by simp only [none_]; omega)
      · exact .inr ⟨by simp only; omega, high⟩
    · exact counted.single one other (others .ended rfl one first) (others .ended rfl other second)
    · exact counted.matched other held row time (before .ended nofun same)
    · exact counted.judged other held valid time (before .ended nofun same)
  · exact counted

theorem step_counted (counted : Counted store) {event : Event}
    (current : Current validate requests store event) : Counted (step validate requests store event) := by
  cases event with
  | read id =>
    simp only [step]
    split
    · exact read_counted counted ‹_›
    · exact counted
  | evaluate id now => exact evaluate_counted counted current
  | useCode id => exact use_counted counted id
  | save id => exact save_counted counted current
  | finish id codes => exact finish_counted counted id codes

theorem step_keeps_lock (counted : Counted store) {event : Event}
    (current : Current validate requests store event) :
    KeepsLock store (step validate requests store event) event := by
  cases event with
  | save id =>
    intro copy time found record now stored locked
    obtain ⟨other, storedToo, counts⟩ := current copy false time found
    obtain rfl : other = record := Option.some.inj (storedToo.symm.trans stored)
    obtain ⟨-, lock⟩ := counts rfl
    refine ⟨copy.failed time, by simp only [step, saveRecord, found], ?_⟩
    have open_ := counted.judged id copy false time found
    rw [TwoFA.isLocked, lock] at locked
    unfold TwoFA.failed TwoFA.isLocked
    dsimp only
    split
    · -- the lock that is replaced had run out when the code was judged
      rw [TwoFA.isLocked] at open_
      cases until_ : copy.lockedUntil with
      | none =>
        rw [until_] at locked
        cases locked
      | some limit =>
        rw [until_] at locked open_
        simp only [Option.any_some, decide_eq_true_eq, decide_eq_false_iff_not, lockoutDuration] at *
        omega
    · exact locked
  | _ => trivial

theorem step_stays_deleted {event : Event} (current : Current validate requests store event) :
    StaysDeleted store (step validate requests store event) := by
  intro gone
  cases event with
  | read id =>
    simp only [step, readRecord, gone]
    split <;> exact gone
  | evaluate id now =>
    simp only [step, evaluate]
    split <;> exact gone
  | useCode id =>
    simp only [step, useCode]
    split <;> exact gone
  | save id =>
    simp only [step, saveRecord]
    split
    · obtain ⟨record, stored, -⟩ := current _ _ _ ‹_›
      rw [gone] at stored
      cases stored
    · obtain ⟨record, stored, -⟩ := current _ _ _ ‹_›
      rw [gone] at stored
      cases stored
    · exact gone
  | finish id codes =>
    simp only [step, finish]
    split
    · split
      · exact gone
      · split
        · exact gone
        · rfl
      · exact gone
    · exact gone

end Counting

/-! ## The marks -/

section Marking
variable {validate : String → String → Int → Bool} {requests : Nat → Request} {store : Store}

structure Marked (store : Store) : Prop where
  used : ∀ row ∈ store.codes, row.id ∈ store.accepted → row.isUsed = true
  once : store.accepted.Nodup
  accepted : ∀ id ∈ store.accepted, id < store.nextCode
  codes : ∀ row ∈ store.codes, row.id < store.nextCode

theorem Marked.of_tables (marked : Marked store) (codes : next.codes = store.codes)
    (accepted : next.accepted = store.accepted) (nextCode : next.nextCode = store.nextCode) :
    Marked next := by
  obtain ⟨used, once, below, rows⟩ := marked
  exact ⟨codes ▸ accepted ▸ used, accepted ▸ once, accepted ▸ nextCode ▸ below, codes ▸ nextCode ▸ rows⟩

theorem new_codes_spec (next : Nat) (codes : List String) :
    ∀ row ∈ newCodes next codes, next ≤ row.id ∧ row.id < next + codes.length := by
  induction codes generalizing next with
  | nil => exact fun row member => absurd member List.not_mem_nil
  | cons code rest ih =>
    intro row member
    rw [List.length_cons]
    rcases List.mem_cons.mp member with rfl | later
    · exact ⟨Nat.le_refl _, by simp only; omega⟩
    · have := ih (next + 1) row later
      omega

theorem save_code_mem
    (present : ∃ stored ∈ codes, stored.id = saved.id) (member : row ∈ saveCode saved codes) :
    row = saved ∨ (row ∈ codes ∧ row.id ≠ saved.id) := by
  have found : (lookup TwoFABackupCode.id codes saved.id).isSome = true := by
    obtain ⟨stored, inside, id⟩ := present
    exact List.find?_isSome.mpr ⟨stored, inside, decide_eq_true id⟩
  rw [saveCode, if_pos found] at member
  obtain ⟨old, inside, rfl⟩ := List.mem_map.mp member
  split
  · exact .inl rfl
  · exact .inr ⟨inside, ‹_›⟩

theorem use_marked (marked : Marked store) {id : Nat}
    (current : Current validate requests store (.useCode id)) : Marked (useCode id store) := by
  unfold useCode
  split
  · rename_i copy row time found
    obtain ⟨stored, inside, same, unused⟩ := current copy row time found
    have new : row.id ∉ store.accepted := by
      intro again
      rw [← same] at again
      rw [marked.used stored inside again] at unused
      cases unused
    have split_ : ∀ other ∈ saveCode (usedCode time row) store.codes,
        other = usedCode time row ∨ (other ∈ store.codes ∧ other.id ≠ row.id) :=
      fun other member => save_code_mem ⟨stored, inside, same⟩ member
    refine ⟨fun other member accepted => ?_, ?_, fun code member => ?_, fun other member => ?_⟩
    · rcases split_ other member with rfl | ⟨old, apart⟩
      · rfl
      · rcases List.mem_append.mp accepted with before | last
        · exact marked.used other old before
        · exact absurd (List.mem_singleton.mp last) apart
    · refine List.nodup_append.mpr ⟨marked.once, List.nodup_singleton _, ?_⟩
      rintro before old last member rfl
      exact new (List.mem_singleton.mp member ▸ old)
    · rcases List.mem_append.mp member with before | last
      · exact marked.accepted code before
      · rw [List.mem_singleton.mp last, ← same]
        exact marked.codes stored inside
    · rcases split_ other member with rfl | ⟨old, -⟩
      · exact same ▸ marked.codes stored inside
      · exact marked.codes other old
  · exact marked

theorem finish_marked (marked : Marked store) (id : Nat) (codes : List String) :
    Marked (finish requests id codes store) := by
  unfold finish
  split
  · split
    · exact marked.of_tables rfl rfl rfl
    · split
      · exact marked.of_tables rfl rfl rfl
      · exact ⟨fun _ member => absurd member List.not_mem_nil, marked.once, marked.accepted,
          fun _ member => absurd member List.not_mem_nil⟩
    · refine ⟨fun row member accepted => ?_, marked.once, fun code member => ?_, fun row member => ?_⟩
      · rcases List.mem_append.mp member with old | new
        · obtain ⟨before, inside, rfl⟩ := List.mem_map.mp old
          exact marked.used before inside accepted
        · have low := (new_codes_spec _ _ row new).1
          have high := marked.accepted row.id accepted
          omega
      · exact Nat.lt_of_lt_of_le (marked.accepted code member) (Nat.le_add_right _ _)
      · rcases List.mem_append.mp member with old | new
        · obtain ⟨before, inside, rfl⟩ := List.mem_map.mp old
          exact Nat.lt_of_lt_of_le (marked.codes before inside) (Nat.le_add_right _ _)
        · exact (new_codes_spec _ _ row new).2
  · exact marked

theorem step_marked (marked : Marked store) {event : Event}
    (current : Current validate requests store event) : Marked (step validate requests store event) := by
  cases event with
  | read id =>
    simp only [step, readRecord]
    split
    · split <;> exact marked.of_tables rfl rfl rfl
    · exact marked
  | evaluate id now =>
    simp only [step, evaluate]
    split
    · exact marked.of_tables rfl rfl rfl
    · exact marked
  | useCode id => exact use_marked marked current
  | save id =>
    simp only [step, saveRecord]
    split <;> exact marked.of_tables rfl rfl rfl
  | finish id codes => exact finish_marked marked id codes

end Marking

/-! ## Every run -/

def opening (record : Option TwoFA) (codes : List TwoFABackupCode) (nextCode : Nat) : Store :=
  { record := record, codes := codes, nextCode := nextCode }

theorem opening_counted (record : Option TwoFA) (codes : List TwoFABackupCode) (nextCode : Nat) :
    Counted (opening record codes nextCode) where
  bound := Nat.zero_le _
  waiting := fun _ _ => .inl (Nat.zero_le 1)
  quiet := fun _ _ _ => .inl rfl
  single := fun _ _ standing => by cases standing
  matched := fun _ _ _ _ found => by cases found
  judged := fun _ _ _ _ found => by cases found

/-- What the attempts of a run are to keep: the bounds in every state, and the
lock and the deletion at every step. -/
structure Protected (validate : String → String → Int → Bool) (requests : Nat → Request) (start : Store)
    (events : List Event) : Prop where
  bounded : ∀ done, done <+: events → Bounded (run (step validate requests) start done)
  locked : ∀ done event, done ++ [event] <+: events →
    KeepsLock (run (step validate requests) start done)
      (run (step validate requests) start (done ++ [event])) event
  deleted : ∀ done event, done ++ [event] <+: events →
    StaysDeleted (run (step validate requests) start done)
      (run (step validate requests) start (done ++ [event]))

theorem attempts_bounded (validate : String → String → Int → Bool) (requests : Nat → Request)
    (record : Option TwoFA) (codes : List TwoFABackupCode) (nextCode : Nat)
    (numbered : ∀ row ∈ codes, row.id < nextCode) (events : List Event)
    (current : Guarded (step validate requests) (Current validate requests)
      (opening record codes nextCode) events) :
    Protected validate requests (opening record codes nextCode) events := by
  have counted := opening_counted record codes nextCode
  have marked : Marked (opening record codes nextCode) :=
    ⟨fun _ _ member => absurd member List.not_mem_nil, List.nodup_nil,
      fun _ member => absurd member List.not_mem_nil, numbered⟩
  have held : ∀ done, done <+: events →
      Counted (run (step validate requests) (opening record codes nextCode) done) ∧
        Marked (run (step validate requests) (opening record codes nextCode) done) := by
    rintro done ⟨rest, rfl⟩
    have permitted := ((guarded_append _ done rest).mp current).1
    exact @run_preserves _ _ (step validate requests) (Current validate requests)
      (fun store => Counted store ∧ Marked store)
      (fun _ _ guard both => ⟨step_counted both.1 guard, step_marked both.2 guard⟩) _ _ permitted
      ⟨counted, marked⟩
  have guarded : ∀ done event, done ++ [event] <+: events →
      Current validate requests (run (step validate requests) (opening record codes nextCode) done) event := by
    rintro done event ⟨rest, rfl⟩
    have permitted := ((guarded_append _ (done ++ [event]) rest).mp current).1
    exact ((guarded_append _ done [event]).mp permitted).2.1
  refine ⟨fun done shorter => ⟨(held done shorter).1.bound, (held done shorter).2.once⟩,
    fun done event shorter => ?_, fun done event shorter => ?_⟩
  · rw [run_append]
    exact step_keeps_lock (held done ((List.prefix_append done [event]).trans shorter)).1
      (guarded done event shorter)
  · rw [run_append]
    exact step_stays_deleted (guarded done event shorter)

def freshRecord : TwoFA := { id := 1, secret := "JBSWY3DPEHPK3PXP" }

def loginRequest : Request := { purpose := .login, code := "000000" }

def backupCode : TwoFABackupCode := { id := 1, code := "AAAA-BBBB" }

def twoRequests (id : Nat) : Request :=
  if id = 0 then loginRequest else { purpose := .login, code := "aaaabbbb" }

/-- Both read the record. One is accepted with a backup code before the code of the
other is judged. -/
def twoLogins : List Event :=
  [.read 0, .read 1, .evaluate 1 100, .useCode 1, .save 1, .evaluate 0 110, .save 0]

theorem two_logins_protected :
    Protected (fun _ _ _ => false) twoRequests (opening (some freshRecord) [backupCode] 2) twoLogins := by
  refine attempts_bounded _ _ _ _ _ (fun row member => ?_) _ ⟨trivial, trivial, fun copy found wrong => ?_,
    fun copy row time found => ?_, fun copy valid time found => ?_, fun copy found _ => ?_,
    fun copy valid time found => ?_, trivial⟩
  · rw [List.mem_singleton.mp member]
    decide
  · have read : Stage.read freshRecord = .read copy := found
    cases read
    exact absurd wrong (by decide +kernel)
  · have matched : Stage.matched freshRecord backupCode 100 = .matched copy row time := found
    cases matched
    exact ⟨backupCode, List.mem_singleton.mpr rfl, rfl, rfl⟩
  · have judged : Stage.judged freshRecord true 100 = .judged copy valid time := found
    cases judged
    exact ⟨freshRecord, rfl, fun wrong => by cases wrong⟩
  · have read : Stage.read freshRecord = .read copy := found
    cases read
    refine ⟨⟨freshRecord.passed 100, rfl, rfl, rfl⟩, fun other => ?_⟩
    rcases other with _ | _ | other <;> rfl
  · have judged : Stage.judged freshRecord false 110 = .judged copy valid time := found
    cases judged
    exact ⟨freshRecord.passed 100, rfl, fun _ => ⟨rfl, rfl⟩⟩

def sixLogins : List Event :=
  [.read 0, .read 1, .read 2, .read 3, .read 4, .read 5, .evaluate 0 100, .evaluate 1 100,
    .evaluate 2 100, .evaluate 3 100, .evaluate 4 100, .evaluate 5 100]

/-- Six wrong codes are judged without a lock between them. -/
theorem six_wrong_codes_judged :
    ¬ Protected (fun _ _ _ => false) (fun _ => loginRequest) (opening (some freshRecord) [] 1) sixLogins := by
  intro held
  have six : (run (step (fun _ _ _ => false) fun _ => loginRequest) (opening (some freshRecord) [] 1)
      sixLogins).wrong = 6 := by
    decide +kernel
  have bound := (held.bounded sixLogins List.prefix_rfl).wrong
  rw [six] at bound
  exact absurd bound (by decide)

end NewApi.TwoFactor
