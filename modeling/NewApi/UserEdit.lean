import Mathlib.Algebra.Group.Basic
import Mathlib.Algebra.Group.Int.Defs
import NewApi.GuardedRun
import NewApi.KeyedTable

/-! An administrator edits a user from a row that was read some time ago, while
requests and payments move the quota of the same user. The moves are single
statements that add to what is stored; the edit writes the quota of its form.
What the edit should make of the quota is stated beside it: nothing, unless the
form changes it. -/
namespace NewApi.UserEdit
open NewApi.GuardedRun NewApi.KeyedTable

/-! ## Users -/

structure User where
  id : Int
  username : String := ""
  password : String := ""
  displayName : String := ""
  role : Int := 1
  status : Int := 1
  group : String := "default"
  quota : Int := 0
  usedQuota : Int := 0
  requestCount : Int := 0
  remark : String := ""
  permissionsJson : String := ""
  affiliateCommissionRate : Rat := -1
  deriving DecidableEq, Repr

/-- The columns that `Edit` writes; a password only if it is updated. -/
def editColumns (form : User) (password : Option String) (row : User) : User :=
  { row with
    username := form.username
    displayName := form.displayName
    group := form.group
    quota := form.quota
    remark := form.remark
    role := form.role
    status := form.status
    permissionsJson := form.permissionsJson
    affiliateCommissionRate := form.affiliateCommissionRate
    password := password.getD row.password }

/-- The columns that `Update` writes: those that are not zero in the form,
without `quota`, `used_quota` and `request_count`. -/
def updateColumns (form : User) (password : Option String) (row : User) : User :=
  let written := password.getD form.password
  { row with
    username := if form.username = "" then row.username else form.username
    password := if written = "" then row.password else written
    displayName := if form.displayName = "" then row.displayName else form.displayName
    role := if form.role = 0 then row.role else form.role
    status := if form.status = 0 then row.status else form.status
    group := if form.group = "" then row.group else form.group
    remark := if form.remark = "" then row.remark else form.remark
    permissionsJson := if form.permissionsJson = "" then row.permissionsJson else form.permissionsJson
    affiliateCommissionRate := if form.affiliateCommissionRate = 0 then row.affiliateCommissionRate
      else form.affiliateCommissionRate }

/-- What a call has besides its form: whether it updates the password, what
hashing the password answers, and whether the database fails its write. -/
structure Attempt where
  updatePassword : Bool := false
  hashed : Option String := none
  writeFails : Bool := false
  deriving DecidableEq, Repr

def Attempt.password (attempt : Attempt) : Option (Option String) :=
  if attempt.updatePassword then attempt.hashed.map some else some none

def writeUser (columns : Option String → User → User) (id : Int) (attempt : Attempt)
    (users : List User) : List User :=
  match attempt.password with
  | none => users
  | some password =>
    if attempt.writeFails then users else update User.id users id (columns password)

/-- `model/user.go::Edit`. -/
def edit (form : User) (attempt : Attempt) (users : List User) : List User :=
  writeUser (editColumns form) form.id attempt users

/-- `model/user.go::Update`. -/
def updateUser (form : User) (attempt : Attempt) (users : List User) : List User :=
  writeUser (updateColumns form) form.id attempt users

/-! ## The quota -/

def addQuota (id delta : Int) (users : List User) : List User :=
  update User.id users id fun user => { user with quota := user.quota + delta }

/-- `IncreaseUserQuota`, written at once. -/
def increaseUserQuota (id quota : Int) (users : List User) : Except String (List User) :=
  if quota < 0 then .error "quota 不能为负数！" else .ok (addQuota id quota users)

/-- `DecreaseUserQuota`, written at once. -/
def decreaseUserQuota (id quota : Int) (users : List User) : Except String (List User) :=
  if quota < 0 then .error "quota 不能为负数！" else .ok (addQuota id (-quota) users)

/-! ## Runs -/

structure Server where
  users : List User := []
  read : Nat → Option User := fun _ => none

/-- A flushed entry adds a sum of changes that were recorded. -/
inductive Event where
  | increase (id quota : Int)
  | decrease (id quota : Int)
  | flush (id value : Int)
  | read (admin : Nat) (id : Int)
  | edit (admin : Nat) (form : User) (attempt : Attempt)
  | update (form : User) (attempt : Attempt)
  deriving DecidableEq, Repr

/-- A step, with an edit of its own; `editAs` gets the row that was read and the
form, which is for that row. -/
def stepWith (editAs : User → User → Attempt → List User → List User) (server : Server) : Event → Server
  | .increase id quota =>
    { server with users := (increaseUserQuota id quota server.users).toOption.getD server.users }
  | .decrease id quota =>
    { server with users := (decreaseUserQuota id quota server.users).toOption.getD server.users }
  | .flush id value => { server with users := addQuota id value server.users }
  | .read admin id =>
    { server with read := fun other =>
        if other = admin then lookup User.id server.users id else server.read other }
  | .edit admin form attempt =>
    match server.read admin with
    | none => server
    | some row => { server with users := editAs row { form with id := row.id } attempt server.users }
  | .update form attempt => { server with users := updateUser form attempt server.users }

def step : Server → Event → Server :=
  stepWith fun _ form attempt users => edit form attempt users

/-! ## What an edit intends -/

def intendedQuota (read form : User) : Option Int :=
  if form.quota = read.quota then none else some form.quota

def intendedColumns (read form : User) (password : Option String) (row : User) : User :=
  { editColumns form password row with quota := (intendedQuota read form).getD row.quota }

def intendedEdit (read form : User) (attempt : Attempt) (users : List User) : List User :=
  writeUser (intendedColumns read form) form.id attempt users

def intended : Server → Event → Server := stepWith intendedEdit

def Attempt.Writes (attempt : Attempt) : Prop :=
  attempt.writeFails = false ∧ attempt.password ≠ none

instance (attempt : Attempt) : Decidable attempt.Writes :=
  inferInstanceAs (Decidable (_ ∧ _))

def EditsFreshQuota (server : Server) : Event → Prop
  | .edit admin form attempt => ∀ read ∈ server.read admin, attempt.Writes →
      form.quota = read.quota → ∀ row ∈ server.users, row.id = read.id → row.quota = read.quota
  | _ => True

instance (server : Server) : (event : Event) → Decidable (EditsFreshQuota server event)
  | .edit .. => inferInstanceAs (Decidable (∀ read ∈ _, _))
  | .increase .. | .decrease .. | .flush .. | .read .. | .update .. => isTrue trivial

/-! ## One step -/

section Steps
variable {users : List User} {read form : User} {attempt : Attempt} {server : Server}
variable {id : Int}

theorem write_user_of_writes (columns : Option String → User → User) (writes : attempt.Writes) :
    ∃ password, attempt.password = some password ∧
      writeUser columns id attempt users = update User.id users id (columns password) := by
  obtain ⟨made, hashed⟩ := writes
  obtain ⟨password, known⟩ := Option.ne_none_iff_exists'.mp hashed
  refine ⟨password, known, ?_⟩
  simp only [writeUser, known, made, Bool.false_eq_true, if_false]

theorem write_user_of_fails (columns : Option String → User → User) (fails : ¬ attempt.Writes) :
    writeUser columns id attempt users = users := by
  unfold writeUser
  split
  · rfl
  · rename_i password known
    have failing : attempt.writeFails = true := by
      by_contra made
      refine fails ⟨by simpa using made, ?_⟩
      rw [known]
      exact Option.some_ne_none _
    rw [if_pos failing]

theorem intended_columns_eq_iff (password : Option String) (row : User) :
    editColumns form password row = intendedColumns read form password row ↔
      (form.quota = read.quota → row.quota = read.quota) := by
  have reduced : editColumns form password row = intendedColumns read form password row ↔
      form.quota = (intendedQuota read form).getD row.quota := by
    constructor
    · exact fun same => congrArg User.quota same
    · intro same
      unfold intendedColumns
      rw [← same]
      rfl
  rw [reduced, intendedQuota]
  by_cases unchanged : form.quota = read.quota
  · simp only [unchanged, if_true, Option.getD_none, true_imp_iff]
    exact eq_comm
  · simp [unchanged]

theorem edit_intended_iff :
    edit form attempt users = intendedEdit read form attempt users ↔
      (attempt.Writes → form.quota = read.quota →
        ∀ row ∈ users, row.id = form.id → row.quota = read.quota) := by
  by_cases writes : attempt.Writes
  · obtain ⟨password, known, edited⟩ := @write_user_of_writes users attempt form.id
      (editColumns form) writes
    obtain ⟨again, same, meant⟩ := @write_user_of_writes users attempt form.id
      (intendedColumns read form) writes
    cases known.symm.trans same
    rw [edit, intendedEdit, edited, meant, update, update, List.map_inj_left, imp_iff_right writes]
    constructor
    · intro all unchanged row member here
      have equal := all row member
      rw [if_pos here, if_pos here] at equal
      exact (intended_columns_eq_iff password row).mp equal unchanged
    · intro fresh row member
      split
      · rename_i here
        exact (intended_columns_eq_iff password row).mpr fun unchanged =>
          fresh unchanged row member here
      · rfl
  · rw [edit, intendedEdit, write_user_of_fails _ writes, write_user_of_fails _ writes]
    exact iff_of_true rfl fun again => absurd again writes

theorem step_intended_iff (event : Event) :
    step server event = intended server event ↔ EditsFreshQuota server event := by
  cases event with
  | increase | decrease | flush | read | update => exact iff_of_true rfl trivial
  | edit admin form attempt =>
    simp only [step, intended, stepWith, EditsFreshQuota]
    cases known : server.read admin with
    | none => exact iff_of_true rfl fun read missing => nomatch missing
    | some row =>
      have users : ∀ edited meant : List User,
          ({ server with users := edited } : Server) = { server with users := meant } ↔ edited = meant := by
        intro edited meant
        exact ⟨fun same => congrArg Server.users same, fun same => by rw [same]⟩
      simp only [users, Option.mem_some_iff, forall_eq']
      exact edit_intended_iff

end Steps

/-! ## Every run -/

/-- Over every interleaving of reads, edits and changes of quotas, no change is
lost at any moment exactly when every edit that leaves the quota as it was read
finds it stored so. -/
theorem edits_lose_no_quota_iff (start : Server) (events : List Event) :
    (∀ done, done <+: events → run step start done = run intended start done) ↔
      Guarded step EditsFreshQuota start events := by
  have sharp : ∀ server twin event, True → server = twin →
      (step server event = intended twin event ↔ EditsFreshQuota server event) := by
    rintro server _ event - rfl
    exact step_intended_iff event
  exact @always_related_iff_guarded _ _ step EditsFreshQuota _ intended (fun _ _ => True) Eq
    (fun _ _ _ _ _ _ => trivial) sharp start start events trivial rfl

def oneUser : User := { id := 7, username := "ada", quota := 100 }

def renameAfterUse : List Event :=
  [.read 1 7, .decrease 7 30, .edit 1 { oneUser with displayName := "Ada" } {}]

theorem rename_restores_quota :
    ¬ ∀ (start : Server) (events done : List Event), done <+: events →
      run step start done = run intended start done := by
  intro always
  have same := always { users := [oneUser] } renameAfterUse _ (List.prefix_refl _)
  have stored : (run step { users := [oneUser] } renameAfterUse).users.map User.quota = [100] := by
    decide +kernel
  have meant : (run intended { users := [oneUser] } renameAfterUse).users.map User.quota = [70] := by
    decide +kernel
  rw [same, meant] at stored
  cases stored

end NewApi.UserEdit
