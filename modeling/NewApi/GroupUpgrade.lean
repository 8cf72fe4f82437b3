import NewApi.SubscriptionStore

/-! The group of a user while subscriptions that upgrade it come and go. Each
of them remembers the group that it replaced, and the user goes back when no
such subscription is active any more. What is remembered is one step, so the
way back is right as long as the subscriptions active at one time agree on
their group. -/
namespace NewApi.GroupUpgrade
open NewApi.GuardedRun NewApi.KeyedTable
open NewApi.GoText (trimSpace trim_space_idem)
open NewApi.ResetWindow NewApi.Subscription
open NewApi.SubscriptionStore hiding step Event

/-! ## The rows of one user -/

def userRows (db : Database) (userId : Int) : List UserSubscription :=
  db.subscriptions.filter fun sub => sub.userId = userId

def setUserGroup (db : Database) (userId : Int) (group : String) : Database :=
  { db with users := update User.id db.users userId fun user => { user with group := group } }

def moveUser (db : Database) (userId : Int) : Option String → Database
  | some group => setUserGroup db userId group
  | none => db

/-- `upgrade_group <> ''` and the status of the row. -/
def ActiveUpgrade (sub : UserSubscription) : Prop := sub.status = .active ∧ sub.upgradeGroup ≠ ""

def ExpiredUpgrade (sub : UserSubscription) : Prop := sub.status = .expired ∧ sub.upgradeGroup ≠ ""

instance (sub : UserSubscription) : Decidable (ActiveUpgrade sub) :=
  inferInstanceAs (Decidable (_ ∧ _))

instance (sub : UserSubscription) : Decidable (ExpiredUpgrade sub) :=
  inferInstanceAs (Decidable (_ ∧ _))

/-- `Order("end_time desc, id desc")`. -/
def endsAfter (first second : UserSubscription) : Prop := endsBefore second first

instance : DecidableRel endsAfter := fun first second =>
  inferInstanceAs (Decidable (endsBefore second first))

instance : Std.Total endsAfter := ⟨fun first second => by unfold endsAfter endsBefore; omega⟩

instance : IsTrans UserSubscription endsAfter :=
  ⟨fun first second third => by unfold endsAfter endsBefore; omega⟩

/-- `Order("updated_at desc, end_time desc, id desc")`. -/
def updatedAfter (first second : UserSubscription) : Prop :=
  second.updatedAt < first.updatedAt ∨ (second.updatedAt = first.updatedAt ∧ endsAfter first second)

instance : DecidableRel updatedAfter := fun _ _ => inferInstanceAs (Decidable (_ ∨ _))

/-- `model/subscription.go::resolveExpiredSubscriptionFallbackGroupTx`, from
the rows of the user. -/
def resolveExpiredSubscriptionFallbackGroup (userId : Int) (rows : List UserSubscription)
    (upgradeGroup : String) : String :=
  if userId ≤ 0 then ""
  else if trimSpace upgradeGroup = "" then ""
  else match first updatedAfter (rows.filter fun sub =>
      sub.prevUserGroup ≠ "" && sub.prevUserGroup ≠ trimSpace upgradeGroup) with
  | some previous => trimSpace previous.prevUserGroup
  | none => "default"

def previousGroup (userId : Int) (rows : List UserSubscription) (lastExpired : UserSubscription) :
    String :=
  if trimSpace lastExpired.prevUserGroup = "" then
    resolveExpiredSubscriptionFallbackGroup userId rows (trimSpace lastExpired.upgradeGroup)
  else trimSpace lastExpired.prevUserGroup

def groupAfterExpiry (userId now : Int) (rows : List UserSubscription) (currentGroup : String) :
    Option String :=
  if rows.any fun sub => decide (ActiveUpgrade sub) && sub.endTime > now then none
  else match first endsAfter (rows.filter fun sub => ExpiredUpgrade sub) with
  | none => none
  | some lastExpired =>
    let upgradeGroup := trimSpace lastExpired.upgradeGroup
    let prevGroup := previousGroup userId rows lastExpired
    if upgradeGroup = "" ∨ prevGroup = "" then none
    else if currentGroup ≠ upgradeGroup ∨ currentGroup = prevGroup then none
    else some prevGroup

/-- `model/subscription.go::downgradeUserGroupForSubscriptionTx`, from the rows
of the user of a subscription. -/
def downgradeUserGroupForSubscription (sub : UserSubscription) (now : Int)
    (rows : List UserSubscription) (currentGroup : String) : Option String :=
  let upgradeGroup := trimSpace sub.upgradeGroup
  if upgradeGroup = "" then none
  else if currentGroup ≠ upgradeGroup then none
  else if rows.any fun other => decide (ActiveUpgrade other) && other.endTime > now &&
      other.id ≠ sub.id then none
  else if trimSpace sub.prevUserGroup = "" ∨ trimSpace sub.prevUserGroup = currentGroup then none
  else some (trimSpace sub.prevUserGroup)

/-! ## The operations -/

def isDue (now : Int) (sub : UserSubscription) : Bool :=
  sub.status = .active && sub.endTime > 0 && sub.endTime ≤ now

def expireRow (now : Int) (sub : UserSubscription) : UserSubscription :=
  if isDue now sub then { sub with status := .expired, updatedAt := now } else sub

/-- The transaction of `ExpireDueSubscriptions` for one user. -/
def expireUser (now : Int) (db : Database) (userId : Int) : Database :=
  let db := { db with subscriptions := db.subscriptions.map fun sub =>
    if sub.userId = userId then expireRow now sub else sub }
  moveUser db userId (groupAfterExpiry userId now (userRows db userId) (db.userGroup userId))

/-- `model/subscription.go::ExpireDueSubscriptions`. The users are visited in
the order of a map. -/
def expireDueSubscriptions (limit : Nat) (visit : List Int → List Int) (now : Int)
    (db : Database) : Database :=
  let limit := if limit = 0 then 200 else limit
  let due := ((db.subscriptions.filter (isDue now)).insertionSort endsBefore).take limit
  let userIds := ((due.map UserSubscription.userId).filter fun userId => userId > 0).dedup
  (visit userIds).foldl (expireUser now) db

/-- The columns of a row that `AdminInvalidateUserSubscription` writes. -/
def cancelRow (now : Int) (sub : UserSubscription) : UserSubscription :=
  { sub with
    status := .cancelled
    endTime := now
    updatedAt := now
    specificChannelId := 0
    specificChannelKeyIndex := -1 }

/-- `model/subscription.go::AdminInvalidateUserSubscription`, the parts of its
transaction that concern groups. -/
def adminInvalidateUserSubscription (userSubscriptionId now : Int) (db : Database) : Database :=
  match db.subscription userSubscriptionId with
  | none => db
  | some sub =>
    let rows := update UserSubscription.id db.subscriptions userSubscriptionId (cancelRow now)
    let db := { db with subscriptions := rows }
    moveUser db sub.userId (downgradeUserGroupForSubscription (cancelRow now sub) now
      (userRows db sub.userId) (db.userGroup sub.userId))

/-- What changes the subscriptions of users. The rest of the transaction of an
invalidation, on channel slots and access tokens, may fail. -/
inductive Event where
  | purchase (userId planId : Int) (terms : PlanTerms) (source : Source) (now : Int)
  | expireDue (limit : Nat) (visit : List Int → List Int) (now : Int)
  | invalidate (userSubscriptionId : Int) (committed : Bool) (now : Int)

def Event.now : Event → Int
  | .purchase _ _ _ _ now | .expireDue _ _ now | .invalidate _ _ now => now

structure History where
  db : Database
  clock : Int

def apply (calendar : Calendar) (db : Database) : Event → Database
  | .purchase userId planId terms source now =>
    match createUserSubscriptionFromPlan calendar userId planId terms source now db with
    | .ok (db, _) => db
    | .error _ => db
  | .expireDue limit visit now => expireDueSubscriptions limit visit now db
  | .invalidate userSubscriptionId committed now =>
    if userSubscriptionId ≤ 0 ∨ !committed then db
    else adminInvalidateUserSubscription userSubscriptionId now db

def step (calendar : Calendar) (history : History) (event : Event) : History where
  db := apply calendar history.db event
  clock := event.now

/-! ## What one user's rows remember -/

/-- The rows of a user whose group was `origin` when there were none, up to a
time: subscriptions that are active at once agree on their group, every row
remembers the origin if anything, and what expired in an earlier group ended
before the active ones do. -/
structure Remembered (origin : String) (clock : Int) (rows : List UserSubscription) : Prop where
  started : 0 ≤ clock
  ends : ∀ sub ∈ rows, ActiveUpgrade sub → 0 < sub.endTime
  trimmed : ∀ sub ∈ rows, trimSpace sub.upgradeGroup = sub.upgradeGroup
  prev : ∀ sub ∈ rows, sub.prevUserGroup = "" ∨ sub.prevUserGroup = origin
  default : ∀ sub ∈ rows, sub.upgradeGroup = origin → origin = "default"
  same : ∀ first ∈ rows, ∀ second ∈ rows, ActiveUpgrade first → ActiveUpgrade second →
    first.upgradeGroup = second.upgradeGroup
  past : ∀ sub ∈ rows, ExpiredUpgrade sub → sub.endTime ≤ clock
  later : ∀ active ∈ rows, ∀ expired ∈ rows, ActiveUpgrade active → ExpiredUpgrade expired →
    expired.upgradeGroup = active.upgradeGroup ∨ expired.endTime < active.endTime

def Placed (origin group : String) (rows : List UserSubscription) : Prop :=
  group = origin ∨
    ((∃ sub ∈ rows, ActiveUpgrade sub ∧ sub.upgradeGroup = group) ∧
      ∃ sub ∈ rows, sub.prevUserGroup = origin)

structure NamedGroup (origin : String) : Prop where
  nonblank : origin ≠ ""
  trimmed : trimSpace origin = origin

theorem placed_nonblank
    (named : NamedGroup origin) (placed : Placed origin group rows) : group ≠ "" := by
  rcases placed with rfl | ⟨⟨sub, -, active, rfl⟩, -⟩
  · exact named.nonblank
  · exact active.2

section Rows
variable {origin group : String} {now : Int} {rows : List UserSubscription}

theorem remembered_later (remembered : Remembered origin clock rows) (onward : clock ≤ now) :
    Remembered origin now rows where
  started := remembered.started.trans onward
  ends := remembered.ends
  trimmed := remembered.trimmed
  prev := remembered.prev
  default := remembered.default
  same := remembered.same
  past sub member expired := (remembered.past sub member expired).trans onward
  later := remembered.later

theorem prev_group_trimmed (named : NamedGroup origin) (remembered : Remembered origin clock rows)
    (member : sub ∈ rows) :
    trimSpace sub.prevUserGroup = "" ∧ sub.prevUserGroup = "" ∨
      trimSpace sub.prevUserGroup = origin ∧ sub.prevUserGroup = origin := by
  rcases remembered.prev sub member with blank | known
  · exact .inl ⟨by rw [blank]; decide, blank⟩
  · exact .inr ⟨by rw [known]; exact named.trimmed, known⟩

theorem fallback_origin (named : NamedGroup origin) (positive : 0 < userId)
    (remembered : Remembered origin clock rows)
    (trimmed : trimSpace upgradeGroup = upgradeGroup) (nonblank : upgradeGroup ≠ "")
    (other : upgradeGroup ≠ origin) (known : ∃ sub ∈ rows, sub.prevUserGroup = origin) :
    resolveExpiredSubscriptionFallbackGroup userId rows upgradeGroup = origin := by
  obtain ⟨sub, member, remembers⟩ := known
  have listed : sub ∈ rows.filter fun sub =>
      sub.prevUserGroup ≠ "" && sub.prevUserGroup ≠ upgradeGroup := by
    refine List.mem_filter.mpr ⟨member, ?_⟩
    simp [remembers, named.nonblank, Ne.symm other]
  obtain ⟨previous, found⟩ : ∃ previous, first updatedAfter _ = some previous :=
    first_of_mem listed
  simp only [resolveExpiredSubscriptionFallbackGroup, not_le.mpr positive, trimmed, nonblank,
    if_false, found]
  obtain ⟨inside, marked⟩ := List.mem_filter.mp (first_mem found)
  simp only [Bool.and_eq_true, decide_eq_true_eq] at marked
  rcases prev_group_trimmed named remembered inside with ⟨-, blank⟩ | ⟨known, -⟩
  · exact absurd blank marked.1
  · exact known

theorem fallback_default (named : NamedGroup origin) (positive : 0 < userId)
    (remembered : Remembered origin clock rows) :
    resolveExpiredSubscriptionFallbackGroup userId rows origin = "default" := by
  have none_left : rows.filter (fun sub =>
      sub.prevUserGroup ≠ "" && sub.prevUserGroup ≠ origin) = [] := by
    refine List.filter_eq_nil_iff.mpr fun sub member => ?_
    rcases remembered.prev sub member with blank | known <;> simp [*]
  simp only [resolveExpiredSubscriptionFallbackGroup, not_le.mpr positive, named.trimmed,
    named.nonblank, if_false, none_left]
  rfl

theorem expired_row_origin (named : NamedGroup origin) (positive : 0 < userId)
    (remembered : Remembered origin clock rows) (member : sub ∈ rows)
    (upgrades : sub.upgradeGroup ≠ "")
    (known : sub.upgradeGroup = origin ∨ ∃ other ∈ rows, other.prevUserGroup = origin) :
    previousGroup userId rows sub = origin := by
  unfold previousGroup
  rcases prev_group_trimmed named remembered member with ⟨blank, -⟩ | ⟨same, -⟩
  · rw [if_pos blank, remembered.trimmed sub member]
    by_cases home : sub.upgradeGroup = origin
    · rw [home, fallback_default named positive remembered]
      exact (remembered.default sub member home).symm
    · exact fallback_origin named positive remembered (remembered.trimmed sub member) upgrades home
        (known.resolve_left home)
  · rw [same, if_neg named.nonblank]

theorem expiry_to_origin (named : NamedGroup origin) (positive : 0 < userId)
    (remembered : Remembered origin clock rows)
    (known : group = origin ∨ ∃ other ∈ rows, other.prevUserGroup = origin)
    (moved : groupAfterExpiry userId now rows group = some target) : target = origin := by
  unfold groupAfterExpiry at moved
  split at moved
  · cases moved
  · split at moved
    · cases moved
    · rename_i lastExpired found
      obtain ⟨inside, expired⟩ := List.mem_filter.mp (first_mem found)
      simp only [decide_eq_true_eq] at expired
      dsimp only at moved
      split at moved
      · cases moved
      · split at moved
        · cases moved
        · rename_i here
          have current : group = lastExpired.upgradeGroup := by
            rw [← remembered.trimmed lastExpired inside]
            by_contra other
            exact here (.inl other)
          rw [current] at known
          rw [← Option.some.inj moved]
          exact expired_row_origin named positive remembered inside expired.2 known

theorem expiry_restores (named : NamedGroup origin) (positive : 0 < userId)
    (remembered : Remembered origin clock rows) (idle : ∀ sub ∈ rows, ¬ ActiveUpgrade sub)
    (member : mine ∈ rows) (expired : ExpiredUpgrade mine)
    (foreign : group ≠ origin)
    (recent : ∀ sub ∈ rows, ExpiredUpgrade sub → sub.upgradeGroup = group ∨ sub.endTime < mine.endTime)
    (known : ∃ other ∈ rows, other.prevUserGroup = origin) :
    groupAfterExpiry userId now rows group = some origin := by
  have none_active :
      (rows.any fun sub => decide (ActiveUpgrade sub) && sub.endTime > now) = false := by
    refine List.any_eq_false.mpr fun sub inside => ?_
    simp [idle sub inside]
  have listed : mine ∈ rows.filter fun sub => ExpiredUpgrade sub :=
    List.mem_filter.mpr ⟨member, by simpa using expired⟩
  obtain ⟨lastExpired, found⟩ : ∃ last, first endsAfter _ = some last := first_of_mem listed
  obtain ⟨inside, over_⟩ := List.mem_filter.mp (first_mem found)
  simp only [decide_eq_true_eq] at over_
  have latest : endsAfter lastExpired mine := first_before found listed
  have mineGroup : lastExpired.upgradeGroup = group := by
    rcases recent lastExpired inside over_ with same | earlier
    · exact same
    · unfold endsAfter endsBefore at latest
      omega
  have back := expired_row_origin named positive remembered inside over_.2 (.inr known)
  have trimmed := remembered.trimmed lastExpired inside
  simp only [groupAfterExpiry, none_active, Bool.false_eq_true, if_false, found]
  rw [back, trimmed, mineGroup, if_neg, if_neg]
  · simp [foreign]
  · rw [← mineGroup]
    simp [over_.2, named.nonblank]

/-! ## What each operation keeps -/

/-- A change of rows that activates none, and expires them only when they are
due. -/
structure Retires (now : Int) (change : UserSubscription → UserSubscription) : Prop where
  group : ∀ sub, (change sub).upgradeGroup = sub.upgradeGroup
  prev : ∀ sub, (change sub).prevUserGroup = sub.prevUserGroup
  active : ∀ sub, ActiveUpgrade (change sub) → ActiveUpgrade sub ∧ (change sub).endTime = sub.endTime
  expired : ∀ sub, ExpiredUpgrade (change sub) → (change sub).endTime = sub.endTime ∧
    (ExpiredUpgrade sub ∨ (ActiveUpgrade sub ∧ sub.endTime ≤ now))

theorem expire_retires (now : Int) : Retires now (expireRow now) where
  group sub := by unfold expireRow; split <;> rfl
  prev sub := by unfold expireRow; split <;> rfl
  active sub active := by
    unfold expireRow at active ⊢
    split at active
    · cases active.1
    · rw [if_neg ‹_›]
      exact ⟨active, rfl⟩
  expired sub expired := by
    unfold expireRow at expired ⊢
    split at expired
    · rename_i due
      rw [if_pos due]
      simp only [isDue, Bool.and_eq_true, decide_eq_true_eq] at due
      exact ⟨rfl, .inr ⟨⟨due.1.1, expired.2⟩, due.2⟩⟩
    · rw [if_neg ‹_›]
      exact ⟨rfl, .inl expired⟩

theorem cancel_retires (id now : Int) :
    Retires now fun sub => if sub.id = id then cancelRow now sub else sub where
  group sub := by split <;> rfl
  prev sub := by split <;> rfl
  active sub active := by
    split at active
    · cases active.1
    · rw [if_neg ‹_›]
      exact ⟨active, rfl⟩
  expired sub expired := by
    split at expired
    · cases expired.1
    · rw [if_neg ‹_›]
      exact ⟨rfl, .inl expired⟩

theorem remembered_retired {change : UserSubscription → UserSubscription}
    (remembered : Remembered origin clock rows) (onward : clock ≤ now)
    (retires : Retires now change) : Remembered origin now (rows.map change) := by
  constructor
  case started => exact remembered.started.trans onward
  case ends =>
    rintro _ member active
    obtain ⟨sub, inside, rfl⟩ := List.mem_map.mp member
    obtain ⟨wasActive, ends⟩ := retires.active sub active
    rw [ends]
    exact remembered.ends sub inside wasActive
  case trimmed =>
    rintro _ member
    obtain ⟨sub, inside, rfl⟩ := List.mem_map.mp member
    rw [retires.group]
    exact remembered.trimmed sub inside
  case prev =>
    rintro _ member
    obtain ⟨sub, inside, rfl⟩ := List.mem_map.mp member
    rw [retires.prev]
    exact remembered.prev sub inside
  case default =>
    rintro _ member
    obtain ⟨sub, inside, rfl⟩ := List.mem_map.mp member
    rw [retires.group]
    exact remembered.default sub inside
  case same =>
    rintro _ memberOne _ memberTwo activeOne activeTwo
    obtain ⟨one, insideOne, rfl⟩ := List.mem_map.mp memberOne
    obtain ⟨two, insideTwo, rfl⟩ := List.mem_map.mp memberTwo
    rw [retires.group, retires.group]
    exact remembered.same one insideOne two insideTwo (retires.active one activeOne).1
      (retires.active two activeTwo).1
  case past =>
    rintro _ member expired
    obtain ⟨sub, inside, rfl⟩ := List.mem_map.mp member
    obtain ⟨ends, before | ⟨-, due⟩⟩ := retires.expired sub expired
    · rw [ends]
      exact (remembered.past sub inside before).trans onward
    · rw [ends]
      exact due
  case later =>
    rintro _ memberOne _ memberTwo active expired
    obtain ⟨one, insideOne, rfl⟩ := List.mem_map.mp memberOne
    obtain ⟨two, insideTwo, rfl⟩ := List.mem_map.mp memberTwo
    obtain ⟨wasActive, endsOne⟩ := retires.active one active
    obtain ⟨endsTwo, before | ⟨activeTwo, -⟩⟩ := retires.expired two expired
    · rw [retires.group, retires.group, endsOne, endsTwo]
      exact remembered.later one insideOne two insideTwo wasActive before
    · rw [retires.group, retires.group]
      exact .inl (remembered.same two insideTwo one insideOne activeTwo wasActive)

theorem remembers_retired {change : UserSubscription → UserSubscription}
    (retires : Retires now change) (known : ∃ sub ∈ rows, sub.prevUserGroup = origin) :
    ∃ sub ∈ rows.map change, sub.prevUserGroup = origin := by
  obtain ⟨sub, member, prev⟩ := known
  exact ⟨_, List.mem_map_of_mem member, (retires.prev sub).trans prev⟩

theorem placed_active {change : UserSubscription → UserSubscription}
    (remembered : Remembered origin clock rows) (retires : Retires now change)
    (member : sub ∈ rows) (active : ActiveUpgrade sub)
    (here : sub.upgradeGroup = group) (known : ∃ sub ∈ rows, sub.prevUserGroup = origin)
    (inside : left ∈ rows.map change) (stillActive : ActiveUpgrade left) :
    Placed origin group (rows.map change) := by
  obtain ⟨old, oldMember, rfl⟩ := List.mem_map.mp inside
  refine .inr ⟨⟨_, inside, stillActive, ?_⟩, remembers_retired retires known⟩
  rw [retires.group, ← here]
  exact remembered.same old oldMember sub member (retires.active old stillActive).1 active

theorem recent_expired (remembered : Remembered origin clock rows)
    (member : sub ∈ rows) (active : ActiveUpgrade sub) (here : sub.upgradeGroup = group) :
    ∀ new ∈ rows.map (expireRow now), ExpiredUpgrade new →
      new.upgradeGroup = group ∨ new.endTime < sub.endTime := by
  rintro _ inside expired
  obtain ⟨old, oldMember, rfl⟩ := List.mem_map.mp inside
  obtain ⟨ends, before | ⟨wasActive, -⟩⟩ := (expire_retires now).expired old expired
  · rw [(expire_retires now).group, ends, ← here]
    exact remembered.later sub member old oldMember active before
  · rw [(expire_retires now).group, ← here]
    exact .inl (remembered.same old oldMember sub member wasActive active)

theorem placed_expired (named : NamedGroup origin) (positive : 0 < userId)
    (remembered : Remembered origin clock rows) (onward : clock ≤ now)
    (placed : Placed origin group rows) :
    Placed origin ((groupAfterExpiry userId now (rows.map (expireRow now)) group).getD group)
      (rows.map (expireRow now)) := by
  have retires := expire_retires now
  have next := remembered_retired remembered onward retires
  have known : group = origin ∨ ∃ sub ∈ rows.map (expireRow now), sub.prevUserGroup = origin :=
    placed.imp id fun away => remembers_retired retires away.2
  cases moved : groupAfterExpiry userId now (rows.map (expireRow now)) group with
  | some target => exact .inl (expiry_to_origin named positive next known moved)
  | none =>
    by_cases foreign : group = origin
    · exact .inl foreign
    · obtain ⟨⟨sub, member, active, here⟩, prev⟩ := placed.resolve_left foreign
      by_cases idle : ∀ new ∈ rows.map (expireRow now), ¬ ActiveUpgrade new
      · -- the row of the group has expired, so the user would have moved
        have gone : isDue now sub = true := by
          by_contra running
          have kept : expireRow now sub = sub := by simp [expireRow, running]
          exact idle sub (kept ▸ List.mem_map_of_mem member) active
        have shape : expireRow now sub = { sub with status := .expired, updatedAt := now } := by
          simp [expireRow, gone]
        have expired : ExpiredUpgrade (expireRow now sub) := by
          rw [shape]
          exact ⟨rfl, active.2⟩
        have recent : ∀ new ∈ rows.map (expireRow now), ExpiredUpgrade new →
            new.upgradeGroup = group ∨ new.endTime < (expireRow now sub).endTime := by
          have ends : (expireRow now sub).endTime = sub.endTime := by rw [shape]
          rw [ends]
          exact recent_expired remembered member active here
        have back : groupAfterExpiry userId now _ group = some origin :=
          expiry_restores named positive next idle (List.mem_map_of_mem member) expired foreign
            recent (remembers_retired retires prev)
        rw [back] at moved
        cases moved
      · simp only [not_forall, not_not] at idle
        obtain ⟨left, inside, stillActive⟩ := idle
        exact placed_active remembered retires member active here prev inside stillActive

def LeavesBehind (origin group : String) (rows : List UserSubscription) (sub : UserSubscription) :
    Prop :=
  ActiveUpgrade sub ∧ sub.upgradeGroup = group ∧ group ≠ origin ∧ sub.prevUserGroup = "" ∧
    ∀ other ∈ rows, ActiveUpgrade other → other.id = sub.id

theorem downgrade_to_origin (named : NamedGroup origin) (remembered : Remembered origin clock rows)
    (member : sub ∈ rows)
    (moved : downgradeUserGroupForSubscription (cancelRow now sub) now others group =
      some target) : target = origin := by
  unfold downgradeUserGroupForSubscription at moved
  dsimp only at moved
  split at moved
  · cases moved
  · split at moved
    · cases moved
    · split at moved
      · cases moved
      · split at moved
        · cases moved
        · rename_i blank
          rw [← Option.some.inj moved]
          rcases prev_group_trimmed named remembered member with ⟨empty, -⟩ | ⟨known, -⟩
          · exact absurd (.inl empty) blank
          · exact known

theorem placed_cancelled (named : NamedGroup origin) (remembered : Remembered origin clock rows)
    (placed : Placed origin group rows)
    (member : sub ∈ rows) (unique : ∀ other ∈ rows, other.id = sub.id → other = sub)
    (safe : ¬ LeavesBehind origin group rows sub) :
    let cancelled := rows.map fun row => if row.id = sub.id then cancelRow now row else row
    Placed origin ((downgradeUserGroupForSubscription (cancelRow now sub) now cancelled group).getD
      group) cancelled := by
  intro cancelled
  have retires := cancel_retires sub.id now
  cases moved : downgradeUserGroupForSubscription (cancelRow now sub) now cancelled group with
  | some target =>
    exact .inl (downgrade_to_origin named remembered member moved)
  | none =>
    by_cases foreign : group = origin
    · exact .inl foreign
    · obtain ⟨⟨mine, inside, active, here⟩, prev⟩ := placed.resolve_left foreign
      by_cases left : ∃ other ∈ rows, ActiveUpgrade other ∧ other.id ≠ sub.id
      · obtain ⟨other, otherMember, otherActive, different⟩ := left
        have kept : other ∈ cancelled :=
          List.mem_map.mpr ⟨other, otherMember, if_neg different⟩
        exact placed_active remembered retires inside active here prev kept otherActive
      · have only : ∀ other ∈ rows, ActiveUpgrade other → other.id = sub.id := by
          intro other otherMember otherActive
          by_contra different
          exact left ⟨other, otherMember, otherActive, different⟩
        have this_ : mine = sub := unique mine inside (only mine inside active)
        subst this_
        -- the invalidated row was the last of its group, so the user would have moved
        have prevKnown : mine.prevUserGroup = origin := by
          rcases remembered.prev mine member with blank | known
          · exact absurd ⟨active, here, foreign, blank, only⟩ safe
          · exact known
        have none_left : (cancelled.any fun other => decide (ActiveUpgrade other) &&
            other.endTime > now && other.id ≠ (cancelRow now mine).id) = false := by
          refine List.any_eq_false.mpr ?_
          rintro _ listed
          obtain ⟨old, oldMember, rfl⟩ := List.mem_map.mp listed
          by_cases hit : old.id = mine.id
          · simp [hit, cancelRow, ActiveUpgrade]
          · have inactive : ¬ ActiveUpgrade old := fun up => hit (only old oldMember up)
            simp [hit, inactive]
        have trimmed : trimSpace (cancelRow now mine).upgradeGroup = group := by
          rw [← here]
          exact remembered.trimmed mine member
        have back : trimSpace (cancelRow now mine).prevUserGroup = origin := by
          show trimSpace mine.prevUserGroup = origin
          rw [prevKnown]
          exact named.trimmed
        have nonblank : group ≠ "" := here ▸ active.2
        unfold downgradeUserGroupForSubscription at moved
        rw [trimmed, back, none_left, if_neg nonblank, if_neg (by simp), if_neg (by simp),
          if_neg (by simp [named.nonblank, Ne.symm foreign])] at moved
        cases moved

/-- The group that a new row remembers, of a user whose group is `group`. -/
def Remembers (group : String) (sub : UserSubscription) : Prop :=
  sub.prevUserGroup = if sub.upgradeGroup = "" ∨ group = sub.upgradeGroup then "" else group

structure Agrees (origin : String) (rows : List UserSubscription) (upgradeGroup : String) :
    Prop where
  same : ∀ sub ∈ rows, ActiveUpgrade sub → sub.upgradeGroup = upgradeGroup
  home : upgradeGroup = origin → origin = "default"

theorem bought_prev (placed : Placed origin group rows)
    (memory : Remembers group sub)
    (agrees : sub.upgradeGroup ≠ "" → Agrees origin rows sub.upgradeGroup) :
    sub.prevUserGroup = "" ∨ sub.prevUserGroup = origin := by
  unfold Remembers at memory
  split at memory
  · exact .inl memory
  · rename_i moves
    rw [not_or] at moves
    rcases placed with home | ⟨⟨active, member, up, here⟩, -⟩
    · exact .inr (memory.trans home)
    · exact absurd (here.symm.trans ((agrees moves.1).same active member up)) moves.2

theorem remembered_bought (named : NamedGroup origin) (remembered : Remembered origin clock rows)
    (onward : clock ≤ now) (placed : Placed origin group rows)
    (active : sub.status = .active) (ends : now < sub.endTime)
    (trimmed : trimSpace sub.upgradeGroup = sub.upgradeGroup) (memory : Remembers group sub)
    (agrees : sub.upgradeGroup ≠ "" → Agrees origin rows sub.upgradeGroup) :
    Remembered origin now (rows ++ [sub]) := by
  have running : ¬ ExpiredUpgrade sub := fun expired => by
    have status := expired.1
    rw [active] at status
    cases status
  have started := remembered.started
  constructor
  case started => omega
  case ends =>
    intro old member up
    rcases List.mem_append.mp member with inside | new
    · exact remembered.ends old inside up
    · cases List.mem_singleton.mp new
      omega
  case trimmed =>
    intro old member
    rcases List.mem_append.mp member with inside | new
    · exact remembered.trimmed old inside
    · cases List.mem_singleton.mp new
      exact trimmed
  case prev =>
    intro old member
    rcases List.mem_append.mp member with inside | new
    · exact remembered.prev old inside
    · cases List.mem_singleton.mp new
      exact bought_prev placed memory agrees
  case default =>
    intro old member home
    rcases List.mem_append.mp member with inside | new
    · exact remembered.default old inside home
    · cases List.mem_singleton.mp new
      exact (agrees (home ▸ named.nonblank)).home home
  case same =>
    intro one memberOne two memberTwo upOne upTwo
    rcases List.mem_append.mp memberOne with insideOne | new
    · rcases List.mem_append.mp memberTwo with insideTwo | new
      · exact remembered.same one insideOne two insideTwo upOne upTwo
      · cases List.mem_singleton.mp new
        exact (agrees upTwo.2).same one insideOne upOne
    · cases List.mem_singleton.mp new
      rcases List.mem_append.mp memberTwo with insideTwo | new
      · exact ((agrees upOne.2).same two insideTwo upTwo).symm
      · cases List.mem_singleton.mp new
        rfl
  case past =>
    intro old member expired
    rcases List.mem_append.mp member with inside | new
    · exact (remembered.past old inside expired).trans onward
    · cases List.mem_singleton.mp new
      exact absurd expired running
  case later =>
    intro one memberOne two memberTwo up expired
    rcases List.mem_append.mp memberTwo with insideTwo | new
    · rcases List.mem_append.mp memberOne with insideOne | new
      · exact remembered.later one insideOne two insideTwo up expired
      · cases List.mem_singleton.mp new
        have before := remembered.past two insideTwo expired
        exact .inr (by omega)
    · cases List.mem_singleton.mp new
      exact absurd expired running

theorem placed_bought (named : NamedGroup origin) (placed : Placed origin group rows)
    (active : sub.status = .active) (memory : Remembers group sub)
    (agrees : sub.upgradeGroup ≠ "" → Agrees origin rows sub.upgradeGroup) :
    Placed origin (if sub.upgradeGroup = "" then group else sub.upgradeGroup) (rows ++ [sub]) := by
  have listed : sub ∈ rows ++ [sub] := List.mem_append_right _ (List.mem_singleton_self _)
  split
  · refine placed.imp id ?_
    rintro ⟨⟨old, member, up, here⟩, ⟨other, known, prev⟩⟩
    exact ⟨⟨old, List.mem_append_left _ member, up, here⟩, ⟨other, List.mem_append_left _ known, prev⟩⟩
  · rename_i upgrades
    by_cases home : sub.upgradeGroup = origin
    · exact .inl home
    · refine .inr ⟨⟨sub, listed, ⟨active, upgrades⟩, rfl⟩, ?_⟩
      by_cases already : group = sub.upgradeGroup
      · obtain ⟨-, other, known, prev⟩ := placed.resolve_left (already ▸ home)
        exact ⟨other, List.mem_append_left _ known, prev⟩
      · have prev : sub.prevUserGroup = group := by
          rw [memory, if_neg (not_or.mpr ⟨upgrades, already⟩)]
        have back : sub.prevUserGroup = "" ∨ sub.prevUserGroup = origin :=
          bought_prev placed memory agrees
        refine ⟨sub, listed, back.resolve_left ?_⟩
        rw [prev]
        exact placed_nonblank named placed

end Rows

/-! ## Histories -/

/-- A user of the tables: unique subscription ids below the counter, rows that
remember the original group, and a group that fits them. -/
structure Settled (origin : String) (userId : Int) (clock : Int) (db : Database) : Prop where
  unique : (db.subscriptions.map UserSubscription.id).Nodup
  below : ∀ sub ∈ db.subscriptions, sub.id < db.nextSubscriptionId
  remembered : Remembered origin clock (userRows db userId)
  placed : Placed origin (db.userGroup userId) (userRows db userId)

section Tables

theorem user_rows_map (db : Database) (userId : Int)
    {change : UserSubscription → UserSubscription} (keeps : ∀ sub, (change sub).userId = sub.userId) :
    userRows { db with subscriptions := db.subscriptions.map change } userId =
      (userRows db userId).map change := by
  simp only [userRows, List.filter_map]
  congr 1
  refine List.filter_congr fun sub _ => ?_
  simp [keeps]

theorem mem_user_rows :
    sub ∈ userRows db userId ↔ sub ∈ db.subscriptions ∧ sub.userId = userId := by
  simp [userRows]

theorem user_group_set (db : Database) (target userId : Int) (group : String)
    (registered : db.userGroup userId ≠ "") :
    (setUserGroup db target group).userGroup userId =
      if userId = target then group else db.userGroup userId := by
  have read : lookup User.id (setUserGroup db target group).users userId =
      if userId = target then
        (lookup User.id db.users userId).map fun user => { user with group := group }
      else lookup User.id db.users userId :=
    lookup_update db.users target userId _ fun _ => rfl
  unfold Database.userGroup at registered ⊢
  rw [read]
  split
  · cases found : lookup User.id db.users userId with
    | none => simp [found] at registered
    | some user => rfl
  · rfl

@[simp] theorem user_rows_set_group (db : Database) (target userId : Int) (group : String) :
    userRows (setUserGroup db target group) userId = userRows db userId := rfl

theorem user_group_upgraded (db : Database) (buyer userId : Int) (upgradeGroup : String)
    (registered : db.userGroup userId ≠ "") :
    Database.userGroup { db with users := (upgradeUserGroup db buyer upgradeGroup).1 } userId =
      if userId = buyer ∧ upgradeGroup ≠ "" then upgradeGroup else db.userGroup userId := by
  unfold upgradeUserGroup
  by_cases blank : upgradeGroup = ""
  · simp [blank]
  · by_cases already : db.userGroup buyer = upgradeGroup
    · by_cases here : userId = buyer
      · subst here
        simp [blank, already]
      · simp [blank, already, here]
    · simp only [blank, if_false, ne_eq, already, not_false_eq_true, if_true, and_true]
      exact user_group_set db buyer userId upgradeGroup registered

theorem expire_user_id (sub : UserSubscription) : (expireRow now sub).userId = sub.userId := by
  unfold expireRow
  split <;> rfl

theorem expire_id (sub : UserSubscription) : (expireRow now sub).id = sub.id := by
  unfold expireRow
  split <;> rfl

theorem ids_map {rows : List UserSubscription} {change : UserSubscription → UserSubscription}
    (keeps : ∀ sub, (change sub).id = sub.id) :
    (rows.map change).map UserSubscription.id = rows.map UserSubscription.id := by
  rw [List.map_map]
  exact List.map_congr_left fun sub _ => keeps sub

/-- Two tables of subscriptions, the second after a change of rows that keeps
whose they are. -/
structure Rewrites (change : UserSubscription → UserSubscription) : Prop where
  user : ∀ sub, (change sub).userId = sub.userId
  id : ∀ sub, (change sub).id = sub.id

theorem settled_moved {change : UserSubscription → UserSubscription} {target : Int}
    {move : Option String} (named : NamedGroup origin) (settled : Settled origin userId clock db)
    (rewrites : Rewrites change)
    (remembered : Remembered origin now ((userRows db userId).map change))
    (placed : Placed origin (if userId = target then move.getD (db.userGroup userId)
      else db.userGroup userId) ((userRows db userId).map change)) :
    Settled origin userId now
      (moveUser { db with subscriptions := db.subscriptions.map change } target move) := by
  have registered : db.userGroup userId ≠ "" := placed_nonblank named settled.placed
  have rows := user_rows_map db userId rewrites.user
  have unique : ((db.subscriptions.map change).map UserSubscription.id).Nodup := by
    rw [ids_map rewrites.id]
    exact settled.unique
  have below : ∀ sub ∈ db.subscriptions.map change, sub.id < db.nextSubscriptionId := by
    rintro _ member
    obtain ⟨sub, inside, rfl⟩ := List.mem_map.mp member
    rw [rewrites.id]
    exact settled.below sub inside
  rw [← rows] at remembered placed
  cases move with
  | none =>
    rw [Option.getD_none, ite_self] at placed
    exact ⟨unique, below, remembered, placed⟩
  | some group =>
    have read := user_group_set { db with subscriptions := db.subscriptions.map change } target
      userId group registered
    refine ⟨unique, below, remembered, ?_⟩
    rw [moveUser, read]
    exact placed

theorem settled_expire_user (named : NamedGroup origin) (positive : 0 < userId)
    (settled : Settled origin userId now db) :
    Settled origin userId now (expireUser now db target) := by
  let change : UserSubscription → UserSubscription := fun sub =>
    if sub.userId = target then expireRow now sub else sub
  have rewrites : Rewrites change := by
    constructor
    · intro sub
      by_cases own : sub.userId = target <;> simp [change, own, expire_user_id]
    · intro sub
      by_cases own : sub.userId = target <;> simp [change, own, expire_id]
  by_cases own : userId = target
  · subst own
    have mine : (userRows db userId).map change = (userRows db userId).map (expireRow now) := by
      refine List.map_congr_left fun sub member => ?_
      simp [change, (mem_user_rows.mp member).2]
    have remembered := remembered_retired settled.remembered (le_refl now) (expire_retires now)
    have placed := placed_expired named positive settled.remembered (le_refl now) settled.placed
    rw [← mine] at remembered placed
    refine settled_moved named settled rewrites remembered ?_
    rw [if_pos rfl, user_rows_map db userId rewrites.user]
    exact placed
  · have others : (userRows db userId).map change = userRows db userId := by
      refine (List.map_congr_left fun sub member => ?_).trans (List.map_id _)
      simp [change, (mem_user_rows.mp member).2, own]
    have remembered : Remembered origin now ((userRows db userId).map change) := by
      rw [others]
      exact settled.remembered
    refine settled_moved named settled rewrites remembered ?_
    rw [if_neg own, others]
    exact settled.placed

theorem settled_expire_due (limit : Nat) (visit : List Int → List Int) (named : NamedGroup origin)
    (positive : 0 < userId) (onward : clock ≤ now) (settled : Settled origin userId clock db) :
    Settled origin userId now (expireDueSubscriptions limit visit now db) := by
  have later : Settled origin userId now db :=
    { settled with remembered := remembered_later settled.remembered onward }
  exact run_preserves_always (fun _ _ => settled_expire_user named positive) _ later

theorem settled_invalidate {id : Int} (named : NamedGroup origin) (onward : clock ≤ now)
    (settled : Settled origin userId clock db)
    (safe : ∀ sub, db.subscription id = some sub → sub.userId = userId →
      ¬ LeavesBehind origin (db.userGroup userId) (userRows db userId) sub) :
    Settled origin userId now (adminInvalidateUserSubscription id now db) := by
  unfold adminInvalidateUserSubscription
  cases found : db.subscription id with
  | none => exact { settled with remembered := remembered_later settled.remembered onward }
  | some sub =>
    have here : sub.id = id := lookup_key found
    have stored : sub ∈ db.subscriptions := lookup_mem found
    subst here
    let change : UserSubscription → UserSubscription := fun row =>
      if row.id = sub.id then cancelRow now row else row
    have rewrites : Rewrites change := by
      constructor
      · intro row
        by_cases hit : row.id = sub.id <;> simp [change, hit, cancelRow]
      · intro row
        by_cases hit : row.id = sub.id <;> simp [change, hit, cancelRow]
    have single : ∀ other ∈ db.subscriptions, other.id = sub.id → other = sub := by
      intro other member same
      have first := lookup_of_mem settled.unique member
      have second := lookup_of_mem settled.unique stored
      rw [same, second] at first
      exact (Option.some.inj first).symm
    have remembered := remembered_retired settled.remembered onward (cancel_retires sub.id now)
    refine settled_moved named settled rewrites remembered ?_
    by_cases own : userId = sub.userId
    · subst own
      have rows : userRows { db with
          subscriptions := update UserSubscription.id db.subscriptions sub.id (cancelRow now) }
          sub.userId = (userRows db sub.userId).map change :=
        user_rows_map db sub.userId rewrites.user
      rw [if_pos rfl, rows]
      exact placed_cancelled named settled.remembered settled.placed
        (mem_user_rows.mpr ⟨stored, rfl⟩)
        (fun other member => single other (mem_user_rows.mp member).1) (safe sub found rfl)
    · have others : (userRows db userId).map change = userRows db userId := by
        refine (List.map_congr_left fun row member => ?_).trans (List.map_id _)
        obtain ⟨listed, owner⟩ := mem_user_rows.mp member
        have different : row.id ≠ sub.id := fun same =>
          own (by rw [← owner, single row listed same])
        simp [change, different]
      rw [if_neg own, others]
      exact settled.placed

theorem settled_purchase
    (named : NamedGroup origin)
    (onward : clock ≤ now) (settled : Settled origin userId clock db)
    (created : createUserSubscriptionFromPlan calendar buyer planId terms source now db = .ok result)
    (agrees : buyer = userId → result.2.upgradeGroup ≠ "" →
      Agrees origin (userRows db userId) result.2.upgradeGroup) :
    Settled origin userId now result.1 := by
  obtain ⟨plan, effective, endUnix, -, -, -, ends, bought, tables⟩ := create_cases created
  have id : result.2.id = db.nextSubscriptionId := by rw [bought]; rfl
  have owner : result.2.userId = buyer := by rw [bought]; rfl
  have active : result.2.status = .active := by rw [bought]; rfl
  have group : result.2.upgradeGroup = trimSpace effective.upgradeGroup := by rw [bought]; rfl
  have later : now < result.2.endTime := by rw [bought]; exact plan_end_later ends
  have prev : result.2.prevUserGroup =
      (upgradeUserGroup db buyer (trimSpace effective.upgradeGroup)).2 := by rw [bought]; rfl
  have registered : db.userGroup userId ≠ "" := placed_nonblank named settled.placed
  have read : result.1.userGroup userId = if userId = buyer ∧ result.2.upgradeGroup ≠ "" then
      result.2.upgradeGroup else db.userGroup userId := by
    rw [group, ← user_group_upgraded db buyer userId _ registered, tables]
    rfl
  have unique : (result.1.subscriptions.map UserSubscription.id).Nodup := by
    rw [tables]
    simp only [List.map_append, List.map_cons, List.map_nil]
    refine List.Nodup.append settled.unique (List.nodup_singleton _) ?_
    intro one old new
    obtain ⟨sub, member, rfl⟩ := List.mem_map.mp old
    have before := settled.below sub member
    rw [List.mem_singleton, id] at new
    omega
  have below : ∀ sub ∈ result.1.subscriptions, sub.id < result.1.nextSubscriptionId := by
    rw [tables]
    intro sub member
    show sub.id < db.nextSubscriptionId + 1
    rcases List.mem_append.mp member with inside | new
    · have before := settled.below sub inside
      omega
    · rw [List.mem_singleton.mp new, id]
      omega
  by_cases own : buyer = userId
  · subst own
    have rows : userRows result.1 buyer = userRows db buyer ++ [result.2] := by
      rw [tables]
      simp [userRows, owner]
    have memory : Remembers (db.userGroup buyer) result.2 := by
      rw [Remembers, prev, group]
      unfold upgradeUserGroup
      by_cases blank : trimSpace effective.upgradeGroup = ""
      · simp [blank]
      · by_cases already : db.userGroup buyer = trimSpace effective.upgradeGroup <;> simp [blank, already]
    refine ⟨unique, below, ?_, ?_⟩
    · rw [rows]
      exact remembered_bought named settled.remembered onward settled.placed active later
        (by rw [group, trim_space_idem]) memory (agrees rfl)
    · have placed := placed_bought named settled.placed active memory (agrees rfl)
      rw [rows, read]
      by_cases blank : result.2.upgradeGroup = ""
      · simpa [blank] using placed
      · simpa [blank] using placed
  · have rows : userRows result.1 userId = userRows db userId := by
      rw [tables]
      simp [userRows, owner, own]
    refine ⟨unique, below, ?_, ?_⟩
    · rw [rows]
      exact remembered_later settled.remembered onward
    · rw [rows, read, if_neg fun same => own same.1.symm]
      exact settled.placed

theorem admitted_terms
    (admitted : admitPurchase db userId plan terms source = .ok effective) :
    effective = (effectiveTerms terms plan source).1 := by
  unfold admitPurchase at admitted
  dsimp only at admitted
  split at admitted
  · cases admitted
  · split at admitted
    · cases admitted
    · exact (Except.ok.inj admitted).symm

end Tables

def Permitted (origin : String) (userId : Int) (history : History) (event : Event) : Prop :=
  history.clock ≤ event.now ∧
    match event with
    | .purchase buyer planId terms source _ => buyer = userId → ∀ plan,
        history.db.plan planId = some plan →
        trimSpace (effectiveTerms terms plan source).1.upgradeGroup ≠ "" →
        Agrees origin (userRows history.db userId)
          (trimSpace (effectiveTerms terms plan source).1.upgradeGroup)
    | .expireDue _ _ _ => True
    | .invalidate userSubscriptionId committed _ => 0 < userSubscriptionId → committed = true →
        ∀ sub, history.db.subscription userSubscriptionId = some sub → sub.userId = userId →
        ¬ LeavesBehind origin (history.db.userGroup userId) (userRows history.db userId) sub

/-- A user whose group was `origin` before any purchase is in no other group
without an active subscription of it, and in the original one when no
subscription that upgrades is active. -/
structure GroupRestored (origin : String) (userId : Int) (db : Database) : Prop where
  left : ∀ group, group ≠ origin →
    (∀ sub ∈ userRows db userId, ActiveUpgrade sub → sub.upgradeGroup ≠ group) →
    db.userGroup userId ≠ group
  back : (∀ sub ∈ userRows db userId, ¬ ActiveUpgrade sub) → db.userGroup userId = origin

theorem restored_of_settled
    (settled : Settled origin userId clock db) : GroupRestored origin userId db where
  left group foreign none_active here := by
    rcases settled.placed with home | ⟨⟨sub, member, active, same⟩, -⟩
    · exact foreign (here.symm.trans home)
    · exact none_active sub member active (same.trans here)
  back idle := by
    refine settled.placed.resolve_right ?_
    rintro ⟨⟨sub, member, active, -⟩, -⟩
    exact idle sub member active

def History.Settled (origin : String) (userId : Int) (history : History) : Prop :=
  GroupUpgrade.Settled origin userId history.clock history.db

theorem settled_step (history : History)
    (event : Event) (named : NamedGroup origin) (positive : 0 < userId)
    (permitted : Permitted origin userId history event)
    (settled : history.Settled origin userId) :
    (step calendar history event).Settled origin userId := by
  obtain ⟨onward, allowed⟩ := permitted
  have waited : Settled origin userId event.now history.db :=
    { settled with remembered := remembered_later settled.remembered onward }
  cases event with
  | purchase buyer planId terms source now =>
    simp only [step, apply]
    cases created : createUserSubscriptionFromPlan calendar buyer planId terms source now history.db with
    | error reason => exact waited
    | ok result =>
      refine settled_purchase named onward settled created fun own upgrades => ?_
      obtain ⟨plan, effective, endUnix, -, found, admitted, -, bought, -⟩ := create_cases created
      have group : result.2.upgradeGroup =
          trimSpace (effectiveTerms terms plan source).1.upgradeGroup := by
        rw [bought, ← admitted_terms admitted]
        rfl
      rw [group] at upgrades ⊢
      exact allowed own plan found upgrades
  | expireDue limit visit now =>
    exact settled_expire_due limit visit named positive onward settled
  | invalidate userSubscriptionId committed now =>
    simp only [step, apply]
    split
    · exact waited
    · rename_i goesThrough
      rw [not_or] at goesThrough
      exact settled_invalidate named onward settled (allowed (by omega) (by simpa using goesThrough.2))

/-- Group restoration: while the subscriptions of a user that are active at
once agree on their group, whatever is bought, expires or is invalidated, and
in whatever order, the user is in no group that he has no active subscription
of, other than his own, and in his own once none is active. -/
theorem group_restored_while_upgrades_agree (calendar : Calendar) {origin : String} {userId : Int}
    {start : History} (events : List Event) (named : NamedGroup origin) (positive : 0 < userId)
    (registered : start.db.userGroup userId = origin) (started : 0 ≤ start.clock)
    (unbought : userRows start.db userId = [])
    (unique : (start.db.subscriptions.map UserSubscription.id).Nodup)
    (below : ∀ sub ∈ start.db.subscriptions, sub.id < start.db.nextSubscriptionId)
    (permitted : Guarded (step calendar) (Permitted origin userId) start events) :
    ∀ done, done <+: events → GroupRestored origin userId (run (step calendar) start done).db := by
  have settled : Settled origin userId start.clock start.db := by
    refine ⟨unique, below, ?_, .inl registered⟩
    rw [unbought]
    constructor <;> simp [started]
  rintro done ⟨rest, rfl⟩
  have inside := ((guarded_append start done rest).mp permitted).1
  have kept : (run (step calendar) start done).Settled origin userId :=
    run_preserves (fun history event => settled_step history event named positive) inside settled
  exact restored_of_settled kept

def InOrder (history : History) (event : Event) : Prop := history.clock ≤ event.now

instance (history : History) (event : Event) : Decidable (InOrder history event) :=
  inferInstanceAs (Decidable (_ ≤ _))

def twoPlans : History where
  db := { users := [{ id := 1 }]
          plans := [
            { id := 1
              terms := { durationUnit := .custom, customSeconds := 100, upgradeGroup := "vip" } },
            { id := 2
              terms := { durationUnit := .custom, customSeconds := 50, upgradeGroup := "svip" } }] }
  clock := 0

def nestedUpgrades : List Event :=
  [.purchase 1 1 {} .admin 1, .purchase 1 2 {} .admin 2, .expireDue 0 id 60]

/-- The user keeps the group of a subscription that has expired. -/
theorem expired_upgrade_keeps_group :
    ¬ ∀ (calendar : Calendar) (origin : String) (userId : Int) (start : History)
      (events : List Event), NamedGroup origin → 0 < userId →
      start.db.userGroup userId = origin → start.db.subscriptions = [] →
      Guarded (step calendar) InOrder start events →
      GroupRestored origin userId (run (step calendar) start events).db := by
  intro always
  have restored := always dayCount "default" 1 twoPlans nestedUpgrades ⟨by decide, by decide⟩
    (by decide) rfl rfl ⟨by decide, by decide, by decide, trivial⟩
  exact restored.left "svip" (by decide) (by decide) (by decide)

def oneUpgrade : List Event := [.purchase 1 1 {} .admin 1, .expireDue 0 id 200]

theorem one_upgrade_restored : (run (step dayCount) twoPlans oneUpgrade).db.userGroup 1 = "default" := by
  have permitted : Guarded (step dayCount) (Permitted "default" 1) twoPlans oneUpgrade := by
    refine ⟨⟨by decide, fun _ plan found _ => ?_⟩, ⟨by decide, trivial⟩, trivial⟩
    cases found
    exact ⟨by decide, by decide⟩
  exact (group_restored_while_upgrades_agree dayCount oneUpgrade ⟨by decide, by decide⟩
    (by decide) rfl (by decide) rfl (by decide) (by decide) permitted oneUpgrade
    (List.prefix_refl _)).back (by decide)

end NewApi.GroupUpgrade
