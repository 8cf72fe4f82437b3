import NewApi.GoText
import NewApi.GuardedRun
import NewApi.RandomPick
import NewApi.RedemptionCodes
import Mathlib.Data.Finset.Card
import Mathlib.Tactic.Push

/-! The rounds of the activity lottery. Every operation guards the status of a
round for itself: an update refuses a round that is over, a draw of a drawn
round answers with the winners it has, only an open round expires. Opening
looks at nothing, so it brings a drawn round back to where a draw takes it, and
`Create` stores every new entry as qualified, whatever the round asks for.
The notices of the winners and their masked names are left out. -/
namespace NewApi.LotteryRounds
open NewApi.GoText NewApi.GuardedRun NewApi.KeyedTable NewApi.RandomPick
open NewApi.RedemptionCodes (Redemption)

/-! ## Rows -/

/-- The fields of `setting/operation_setting/activity_lottery_setting.go::ActivityLotterySetting`
that rounds read. -/
structure ActivityLotterySetting where
  enabled : Bool := false
  defaultMinParticipants : Int := 200
  defaultWinnerCount : Int := 3

/-- The statuses of a round. -/
inductive RoundStatus where
  | draft
  | open_
  | drawn
  | expired
  | closed
  deriving DecidableEq, Repr

/-- The modes of the prize of a round. -/
inductive PrizeMode where
  | shared
  | perWinnerCode
  deriving DecidableEq, Repr

/-- `model/activity_lottery.go::ActivityLotteryRound`. -/
structure Round where
  id : Int
  title : String
  prize : String := ""
  prizeContent : String := ""
  joinSources : String := "manual"
  joinTopupMinMoney : Rat := 0
  joinTopupScope : String := "today"
  joinTopupUnit : String := "money"
  joinDailyConsumeMinMoney : Rat := 0
  joinDailyConsumeScope : String := "today"
  joinDailyConsumeThresholdUnit : String := "money"
  published : Bool := false
  status : RoundStatus := .draft
  startAt : Int
  endAt : Int
  minParticipants : Int := 0
  winnerCount : Int := 0
  participantCount : Int := 0
  drawnAt : Int := 0
  lastError : String := ""
  prizeMode : PrizeMode := .shared
  autoJobId : Int := 0
  prizeQuota : Int := 0
  createdAt : Int := 0
  updatedAt : Int := 0

/-- `model/activity_lottery.go::ActivityLotteryEntry`; round and user are a
unique index. -/
structure Entry where
  roundId : Int
  userId : Int
  source : String
  qualified : Bool := true
  qualifiedSource : String := ""
  qualifiedAt : Int := 0
  createdAt : Int := 0

/-- A new entry as `Create` stores it: the column is true by default, which a
false does not change. -/
def Entry.created (entry : Entry) : Entry := { entry with qualified := true }

def Entry.place (entry : Entry) : Int × Int := (entry.roundId, entry.userId)

/-- `model/activity_lottery.go::ActivityLotteryWinner`; the prize is the key of
the winner's own code. -/
structure Winner where
  roundId : Int
  userId : Int
  prize : String := ""
  createdAt : Int := 0
  deriving DecidableEq, Repr

/-- The setting and the tables; `lastRound` is the counter of the round ids. -/
structure Store where
  setting : ActivityLotterySetting := {}
  lastRound : Int := 0
  rounds : List Round := []
  entries : List Entry := []
  winners : List Winner := []
  redemptions : List Redemption := []

/-! ## What a round asks for -/

/-- `setting/operation_setting/activity_lottery_setting.go::NormalizeActivityLotteryJoinSources`,
the sources before they are joined. -/
def joinSourceParts (raw : String) : List String :=
  let parts := (split ',' raw).map fun part => trimSpace (toLower part)
  let known := parts.filter fun part => part ∈ ["manual", "checkin", "topup", "consume"]
  if known = [] then ["manual"] else known.eraseDups

/-- `model/activity_lottery.go::normalizeActivityLotteryRoundJoinSources`. -/
def normalizeActivityLotteryRoundJoinSources (raw : String) : String :=
  String.intercalate "," (joinSourceParts raw)

/-- `model/activity_lottery.go::normalizeActivityLotteryThresholdScope`. -/
def normalizeActivityLotteryThresholdScope (raw : String) : String :=
  if trimSpace (toLower raw) = "total" then "total" else "today"

/-- `model/activity_lottery.go::normalizeActivityLotteryThresholdUnit`. -/
def normalizeActivityLotteryThresholdUnit (raw : String) : String :=
  if trimSpace (toLower raw) = "token" then "token" else "money"

/-- `model/activity_lottery.go::normalizeLotteryText`. -/
def normalizeLotteryText (value : String) (maxRunes : Nat) : String :=
  if maxRunes = 0 then trimSpace value else String.ofList ((trimSpace value).toList.take maxRunes)

/-- `model/activity_lottery.go::isActivityLotteryRoundJoinSourceEnabled`. -/
def isActivityLotteryRoundJoinSourceEnabled (round : Round) (source : String) : Bool :=
  trimSpace (toLower source) ≠ "" &&
    (split ',' (normalizeActivityLotteryRoundJoinSources round.joinSources)).any fun part =>
      trimSpace part = trimSpace (toLower source)

/-- `model/activity_lottery.go::activityLotteryRoundRequiresQualification`. -/
def activityLotteryRoundRequiresQualification (round : Round) : Bool :=
  (split ',' (normalizeActivityLotteryRoundJoinSources round.joinSources)).any fun part =>
    trimSpace (toLower part) ≠ "" && trimSpace (toLower part) ≠ "manual"

/-- `model/activity_lottery.go::getActivityLotteryRoundMinParticipants`. -/
def getActivityLotteryRoundMinParticipants (setting : ActivityLotterySetting) (round : Round) : Int :=
  if round.minParticipants > 0 then round.minParticipants else setting.defaultMinParticipants

/-- `model/activity_lottery.go::getActivityLotteryRoundWinnerCount`. -/
def getActivityLotteryRoundWinnerCount (setting : ActivityLotterySetting) (round : Round) : Int :=
  if round.winnerCount > 0 then round.winnerCount else setting.defaultWinnerCount

/-! ## Creating and editing -/

/-- `model/activity_lottery.go::ActivityLotteryRoundUpsertRequest`. -/
structure RoundUpsertRequest where
  title : String
  prize : String := ""
  prizeContent : String := ""
  joinSources : String := ""
  joinTopupMinMoney : Rat := 0
  joinTopupScope : String := ""
  joinTopupUnit : String := ""
  joinDailyConsumeMinMoney : Rat := 0
  joinDailyConsumeScope : String := ""
  joinDailyConsumeThresholdUnit : String := ""
  startAt : Int := 0
  endAt : Int := 0
  minParticipants : Int := 0
  winnerCount : Int := 0
  published : Option Bool := none
  prizeMode : String := ""
  autoJobId : Int := 0
  prizeQuota : Int := 0

def RoundUpsertRequest.start (req : RoundUpsertRequest) (now : Int) : Int :=
  if req.startAt ≤ 0 then now else req.startAt

def RoundUpsertRequest.refused (req : RoundUpsertRequest) (now : Int) : Option String :=
  let joinSources := (normalizeActivityLotteryRoundJoinSources req.joinSources).toList
  if trimSpace req.title = "" then some "标题不能为空"
  else if req.endAt ≤ 0 then some "结束时间不能为空"
  else if req.endAt ≤ req.start now then some "结束时间必须晚于开始时间"
  else if "topup".toList <:+: joinSources ∧ req.joinTopupMinMoney ≤ 0 then
    some "启用充值参与时，充值门槛必须大于 0"
  else if "consume".toList <:+: joinSources ∧ req.joinDailyConsumeMinMoney ≤ 0 then
    some "启用消耗参与时，今日消耗门槛必须大于 0"
  else none

def RoundUpsertRequest.write (req : RoundUpsertRequest) (setting : ActivityLotterySetting) (now : Int)
    (round : Round) : Round :=
  { round with
    title := normalizeLotteryText req.title 128
    prize := trimSpace req.prize
    prizeContent := trimSpace req.prizeContent
    joinSources := normalizeActivityLotteryRoundJoinSources req.joinSources
    joinTopupMinMoney := req.joinTopupMinMoney
    joinTopupScope := normalizeActivityLotteryThresholdScope req.joinTopupScope
    joinTopupUnit := normalizeActivityLotteryThresholdUnit req.joinTopupUnit
    joinDailyConsumeMinMoney := req.joinDailyConsumeMinMoney
    joinDailyConsumeScope := normalizeActivityLotteryThresholdScope req.joinDailyConsumeScope
    joinDailyConsumeThresholdUnit :=
      normalizeActivityLotteryThresholdUnit req.joinDailyConsumeThresholdUnit
    startAt := req.start now
    endAt := req.endAt
    minParticipants := max req.minParticipants 0
    winnerCount := if req.winnerCount ≤ 0 then setting.defaultWinnerCount else req.winnerCount
    updatedAt := now }

def newRound (id : Int) (req : RoundUpsertRequest) (setting : ActivityLotterySetting) (now : Int) :
    Round :=
  { req.write setting now { id := id, title := "", startAt := 0, endAt := 0 } with
    published := req.published.getD false
    prizeMode := if trimSpace req.prizeMode = "per_winner_code" then .perWinnerCode else .shared
    autoJobId := max req.autoJobId 0
    prizeQuota := max req.prizeQuota 0
    createdAt := now }

/-- `model/activity_lottery.go::CreateActivityLotteryRound`. -/
def createActivityLotteryRound (req : RoundUpsertRequest) (now : Int) (store : Store) :
    Except String Store :=
  match req.refused now with
  | some text => .error text
  | none => .ok { store with
      lastRound := store.lastRound + 1
      rounds := store.rounds ++ [newRound (store.lastRound + 1) req store.setting now] }

def Store.updateRound (store : Store) (roundId : Int) (change : Round → Round) : Store :=
  { store with rounds := update Round.id store.rounds roundId change }

/-- `gorm.ErrRecordNotFound`. -/
def recordNotFound : String := "record not found"

/-- `model/activity_lottery.go::UpdateActivityLotteryRound`. -/
def updateActivityLotteryRound (roundId : Int) (req : RoundUpsertRequest) (now : Int) (store : Store) :
    Except String Store :=
  if roundId ≤ 0 then .error recordNotFound
  else match req.refused now with
    | some text => .error text
    | none =>
      match lookup Round.id store.rounds roundId with
      | none => .error recordNotFound
      | some round =>
        if round.status = .drawn ∨ round.status = .closed ∨ round.status = .expired then
          .error "已开奖/已结束的期数不允许修改"
        else .ok (store.updateRound roundId fun old =>
          { req.write store.setting now old with published := req.published.getD old.published })

/-! ## Opening, closing and expiring -/

/-- `model/activity_lottery.go::OpenActivityLotteryRound`. Every other open
round is closed; the status of this one is not looked at. -/
def openActivityLotteryRound (roundId now : Int) (store : Store) : Except String Store :=
  if roundId ≤ 0 then .error recordNotFound
  else .ok { store with rounds := store.rounds.map fun round =>
    if round.id = roundId then { round with status := .open_, published := true, updatedAt := now }
    else if round.status = .open_ then { round with status := .closed, updatedAt := now }
    else round }

/-- `model/activity_lottery.go::CloseActivityLotteryRound`. -/
def closeActivityLotteryRound (roundId now : Int) (store : Store) : Except String Store :=
  if roundId ≤ 0 then .error recordNotFound
  else .ok (store.updateRound roundId fun round => { round with status := .closed, updatedAt := now })

/-- `model/activity_lottery.go::ExpireActivityLotteryRound`. -/
def expireActivityLotteryRound (roundId now : Int) (store : Store) : Except String Store :=
  if roundId ≤ 0 then .error recordNotFound
  else .ok (store.updateRound roundId fun round =>
    if round.status = .open_ then
      { round with status := .expired, lastError := "", updatedAt := now }
    else round)

/-! ## Taking part -/

/-- `model/activity_lottery.go::RefreshActivityLotteryRoundParticipantCount`. -/
def refreshParticipantCount (roundId : Int) (store : Store) : Store :=
  match lookup Round.id store.rounds roundId with
  | none => store
  | some round =>
    let counted := store.entries.filter fun entry =>
      entry.roundId = roundId && (!activityLotteryRoundRequiresQualification round || entry.qualified)
    store.updateRound roundId fun round => { round with participantCount := counted.length }

/-- `model/activity_lottery.go::GetCurrentActivityLotteryRound`. -/
def getCurrentActivityLotteryRound (now : Int) (store : Store) : Option Round :=
  if store.setting.enabled then
    first (fun one other : Round => other.id ≤ one.id) (store.rounds.filter fun round =>
      round.published && round.status = .open_ && round.startAt ≤ now && round.endAt > now &&
        round.endAt > 0)
  else none

/-- `model/activity_lottery.go::EnsureActivityLotteryEntry`. -/
def ensureActivityLotteryEntry (userId : Int) (source : String) (now : Int) (store : Store) :
    Except String Store :=
  let source := trimSpace (toLower source)
  match getCurrentActivityLotteryRound now store with
  | none => .ok store
  | some round =>
    if source ≠ "manual" ∧ !isActivityLotteryRoundJoinSourceEnabled round source then
      .error "当前期数未启用该参与方式"
    else
      let requiresQualification := activityLotteryRoundRequiresQualification round
      let found := if 0 < userId then lookup Entry.place store.entries (round.id, userId) else none
      if source ≠ "manual" then
        match found with
        | none => .ok store
        | some entry =>
          if entry.source ≠ "manual" ∨ entry.qualified ∨ !requiresQualification then .ok store
          else .ok (refreshParticipantCount round.id { store with
            entries := update Entry.place store.entries (round.id, userId) fun entry =>
              { entry with
                qualified := true
                qualifiedSource := normalizeLotteryText source 32
                qualifiedAt := now } })
      else match found with
        | some entry =>
          if entry.source = "manual" then .ok store
          else .ok { store with
            entries := update Entry.place store.entries (round.id, userId) fun entry =>
              if requiresQualification then { entry with source := "manual", createdAt := now }
              else { entry with
                source := "manual"
                createdAt := now
                qualified := true
                qualifiedSource := "manual"
                qualifiedAt := now } }
        | none =>
          -- the insertion gives way to a row that is there under the same index
          let entries :=
            if (lookup Entry.place store.entries (round.id, userId)).isSome then store.entries
            else store.entries ++ [Entry.created {
              roundId := round.id
              userId := userId
              source := normalizeLotteryText source 32
              qualified := !requiresQualification
              qualifiedSource := if requiresQualification then "" else "manual"
              qualifiedAt := if requiresQualification then 0 else now
              createdAt := now }]
          .ok (refreshParticipantCount round.id { store with entries := entries })

/-! ## Drawing -/

def distinctUserIDs : List Int → List Entry → List Int
  | _, [] => []
  | seen, entry :: rest =>
    if entry.userId ≤ 0 ∨ entry.userId ∈ seen then distinctUserIDs seen rest
    else entry.userId :: distinctUserIDs (entry.userId :: seen) rest

/-- `model/activity_lottery.go::pickRandomUserIDs`. -/
def pickRandomUserIDs (random : Nat → Nat) (ids : List Int) (count : Int) : List Int :=
  if count ≤ 0 ∨ ids = [] then [] else pick random ids count.toNat

/-- A call of the draw: the random numbers of the shuffle, the key that
`BuildRedemptionKey` gives for each winner in turn, and what the database says
when it refuses a key that is taken. -/
structure DrawCall where
  now : Int
  force : Bool := false
  random : Nat → Nat := fun _ => 0
  buildRedemptionKey : Nat → Except String String
  taken : String := "UNIQUE constraint failed: redemptions.key"

def prizeCode (round : Round) (call : DrawCall) (index : Nat) (codes : List Redemption) :
    Except String (List Redemption × String) :=
  match round.prizeMode with
  | .shared => .ok (codes, "")
  | .perWinnerCode =>
    match call.buildRedemptionKey index with
    | .error text => .error text
    | .ok key =>
      if key ∈ codes.map Redemption.key then .error call.taken
      else
        -- the default of the column takes the place of a quota of 0
        let quota := if round.prizeQuota = 0 then 100 else round.prizeQuota
        .ok (codes ++ [{ id := codes.length + 1, key := key, quota := quota }], key)

def award (round : Round) (call : DrawCall) :
    Nat → List Int → List Redemption → Except String (List Redemption × List Winner)
  | _, [], codes => .ok (codes, [])
  | index, userId :: rest, codes =>
    match prizeCode round call index codes with
    | .error text => .error text
    | .ok (codes, key) =>
      match award round call (index + 1) rest codes with
      | .error text => .error text
      | .ok (codes, winners) =>
        .ok (codes, { roundId := round.id, userId := userId, prize := key, createdAt := call.now } ::
          winners)

def drawUserIDs (roundId : Int) (store : Store) : List Int :=
  distinctUserIDs [] (store.entries.filter fun entry => entry.roundId = roundId && entry.qualified)

structure DrawResult where
  winners : List Winner
  round : Round
  isNewDraw : Bool

/-- The transaction of `DrawActivityLotteryRoundWithOptions`. -/
def drawTransaction (roundId : Int) (call : DrawCall) (store : Store) :
    Except String (Store × DrawResult) :=
  match lookup Round.id store.rounds roundId with
  | none => .error recordNotFound
  | some round =>
    if round.status = .drawn then
      .ok (store, ⟨store.winners.filter fun winner => winner.roundId = roundId, round, false⟩)
    else if round.status ≠ .open_ ∧ round.status ≠ .draft then .error "当前期数状态不允许开奖"
    else
      let userIDs := drawUserIDs roundId store
      let need := getActivityLotteryRoundMinParticipants store.setting round
      if !call.force ∧ need > 0 ∧ userIDs.length < need then
        .error s!"参与人数不足：{userIDs.length}/{need}"
      else if !call.force ∧ round.endAt > 0 ∧ call.now < round.endAt then .error "未到结束时间"
      else
        let selected := pickRandomUserIDs call.random userIDs
          (getActivityLotteryRoundWinnerCount store.setting round)
        if selected = [] then .error "无可开奖用户"
        else match award round call 0 selected store.redemptions with
          | .error text => .error text
          | .ok (codes, winners) =>
            let drawn := fun round : Round => { round with
              status := .drawn, drawnAt := call.now, updatedAt := call.now }
            .ok ({ store.updateRound roundId fun round => { drawn round with lastError := "" } with
                winners := store.winners ++ winners
                redemptions := codes },
              ⟨winners, drawn round, true⟩)

/-- `model/activity_lottery.go::DrawActivityLotteryRoundWithOptions`. An error
rolls the transaction back and is written to the round. -/
def drawActivityLotteryRoundWithOptions (roundId : Int) (call : DrawCall) (store : Store) :
    Store × Except String DrawResult :=
  if roundId ≤ 0 then (store, .error recordNotFound)
  else match drawTransaction roundId call store with
    | .error text =>
      (store.updateRound roundId fun round => { round with lastError := text, updatedAt := call.now },
        .error text)
    | .ok (store, result) => (store, .ok result)

/-! ## Runs -/

/-- What can happen to the rounds. Joining and qualifying are one call with
different sources; the scheduler and the auto jobs make the calls of an
administrator. -/
inductive Event where
  | configure (setting : ActivityLotterySetting)
  | create (req : RoundUpsertRequest) (now : Int)
  | update (roundId : Int) (req : RoundUpsertRequest) (now : Int)
  | open_ (roundId now : Int)
  | close (roundId now : Int)
  | expire (roundId now : Int)
  | draw (roundId : Int) (call : DrawCall)
  | refresh (roundId : Int)
  | join (userId : Int) (source : String) (now : Int)

def step (store : Store) : Event → Store
  | .configure setting => { store with setting := setting }
  | .create req now => (createActivityLotteryRound req now store).toOption.getD store
  | .update roundId req now => (updateActivityLotteryRound roundId req now store).toOption.getD store
  | .open_ roundId now => (openActivityLotteryRound roundId now store).toOption.getD store
  | .close roundId now => (closeActivityLotteryRound roundId now store).toOption.getD store
  | .expire roundId now => (expireActivityLotteryRound roundId now store).toOption.getD store
  | .draw roundId call => (drawActivityLotteryRoundWithOptions roundId call store).1
  | .refresh roundId => refreshParticipantCount roundId store
  | .join userId source now => (ensureActivityLotteryEntry userId source now store).toOption.getD store

/-- The round and the user of a call by which the user qualifies for the round:
joining it by hand while it asks for nothing more, or, once joined, doing what
it asks for. The column `qualified` is not looked at. -/
def qualifies (store : Store) : Event → Option (Int × Int)
  | .join userId source now =>
    match getCurrentActivityLotteryRound now store with
    | none => none
    | some round =>
      let joined := (lookup Entry.place store.entries (round.id, userId)).isSome
      let met :=
        if trimSpace (toLower source) = "manual" then
          !joined && !activityLotteryRoundRequiresQualification round
        else joined && isActivityLotteryRoundJoinSourceEnabled round source
      if met then some (round.id, userId) else none
  | _ => none

/-- The tables, with the rounds and users that have qualified so far. -/
structure History where
  store : Store
  qualified : List (Int × Int) := []

def record (history : History) (event : Event) : History where
  store := step history.store event
  qualified := history.qualified ++ (qualifies history.store event).toList

structure Draw where
  before : History
  result : DrawResult

def newDraw (roundId : Int) (store : Store) : Event → Option DrawResult
  | .draw drawn call =>
    if drawn = roundId then
      match (drawActivityLotteryRoundWithOptions roundId call store).2 with
      | .ok result => if result.isNewDraw then some result else none
      | .error _ => none
    else none
  | _ => none

def draws (roundId : Int) : History → List Event → List Draw
  | _, [] => []
  | history, event :: rest =>
    ((newDraw roundId history.store event).map (Draw.mk history)).toList ++
      draws roundId (record history event) rest

def participants (roundId : Int) (store : Store) : Finset Int :=
  ((store.entries.filter fun entry => entry.roundId = roundId && 0 < entry.userId).map
    Entry.userId).toFinset

def qualifiedParticipants (roundId : Int) (history : History) : Finset Int :=
  (participants roundId history.store).filter fun userId => (roundId, userId) ∈ history.qualified

def winnersOf (roundId : Int) (store : Store) : List Winner :=
  store.winners.filter fun winner => winner.roundId = roundId

/-- The codes made since `start` that are the prize of the user in the round. -/
def prizesOf (roundId userId : Int) (start store : Store) : List Redemption :=
  (store.redemptions.drop start.redemptions.length).filter fun code =>
    (winnersOf roundId store).any fun winner => winner.userId = userId && winner.prize = code.key

structure PaysOnce (roundId : Int) (start : History) (events : List Event) : Prop where
  drawnOnce : (draws roundId start events).length ≤ 1
  distinct : ∀ draw ∈ draws roundId start events, (draw.result.winners.map Winner.userId).Nodup
  qualified : ∀ draw ∈ draws roundId start events, ∀ winner ∈ draw.result.winners,
    winner.userId ∈ qualifiedParticipants roundId draw.before
  number : ∀ draw ∈ draws roundId start events, (draw.result.winners.length : Int) =
    min (getActivityLotteryRoundWinnerCount draw.before.store.setting draw.result.round)
      (qualifiedParticipants roundId draw.before).card
  wonOnce : ((winnersOf roundId (run record start events).store).map Winner.userId).Nodup
  onePrize : ∀ userId,
    (prizesOf roundId userId start.store (run record start events).store).length ≤ 1

/-! ## What a draw picks -/

theorem distinct_user_ids (seen : List Int) (entries : List Entry) :
    (distinctUserIDs seen entries).Nodup ∧ ∀ userId,
      userId ∈ distinctUserIDs seen entries ↔
        userId ∉ seen ∧ 0 < userId ∧ ∃ entry ∈ entries, entry.userId = userId := by
  induction entries generalizing seen with
  | nil => simp [distinctUserIDs]
  | cons entry rest ih =>
    unfold distinctUserIDs
    split
    · rename_i skipped
      obtain ⟨distinct, members⟩ := ih seen
      refine ⟨distinct, fun userId => ?_⟩
      rw [members userId]
      simp only [List.mem_cons, exists_eq_or_imp]
      constructor
      · rintro ⟨new, real, later⟩
        exact ⟨new, real, .inr later⟩
      · rintro ⟨new, real, rfl | later⟩
        · rcases skipped with unreal | old
          · omega
          · exact absurd old new
        · exact ⟨new, real, later⟩
    · rename_i taken
      push Not at taken
      obtain ⟨distinct, members⟩ := ih (entry.userId :: seen)
      refine ⟨List.nodup_cons.mpr ⟨fun again => ?_, distinct⟩, fun userId => ?_⟩
      · exact ((members _).mp again).1 (List.mem_cons_self ..)
      · rw [List.mem_cons, members userId]
        simp only [List.mem_cons, exists_eq_or_imp, not_or]
        constructor
        · rintro (rfl | ⟨⟨-, new⟩, real, later⟩)
          · exact ⟨taken.2, taken.1, .inl rfl⟩
          · exact ⟨new, real, .inr later⟩
        · rintro ⟨new, real, rfl | later⟩
          · exact .inl rfl
          · by_cases same : userId = entry.userId
            · exact .inl same
            · exact .inr ⟨⟨same, new⟩, real, later⟩

/-- Every entry counts as qualified, which is all that `Create` and the updates
ever leave. -/
def Marked (store : Store) : Prop := ∀ entry ∈ store.entries, entry.qualified = true

theorem draw_user_ids (roundId : Int) (marked : Marked store) :
    (drawUserIDs roundId store).Nodup ∧
      (drawUserIDs roundId store).toFinset = participants roundId store := by
  obtain ⟨distinct, members⟩ := distinct_user_ids []
    (store.entries.filter fun entry => entry.roundId = roundId && entry.qualified)
  refine ⟨distinct, Finset.ext fun userId => ?_⟩
  rw [List.mem_toFinset, drawUserIDs, members userId]
  simp only [participants, List.mem_toFinset, List.mem_map, List.mem_filter,
    Bool.and_eq_true, decide_eq_true_eq, List.not_mem_nil, not_false_eq_true, true_and]
  constructor
  · rintro ⟨real, entry, ⟨stored, here, -⟩, rfl⟩
    exact ⟨entry, ⟨stored, here, real⟩, rfl⟩
  · rintro ⟨entry, ⟨stored, here, real⟩, rfl⟩
    exact ⟨real, entry, ⟨stored, here, marked entry stored⟩, rfl⟩

theorem pick_user_ids_nodup (distinct : ids.Nodup) (random : Nat → Nat)
    (count : Int) : (pickRandomUserIDs random ids count).Nodup := by
  unfold pickRandomUserIDs
  split
  · exact List.nodup_nil
  · exact pick_nodup distinct random _

theorem mem_of_mem_pick_user_ids {random : Nat → Nat}
    (picked : userId ∈ pickRandomUserIDs random ids count) : userId ∈ ids := by
  unfold pickRandomUserIDs at picked
  split at picked
  · simp at picked
  · exact mem_of_mem_pick picked

theorem pick_user_ids_length {random : Nat → Nat}
    (some_ : pickRandomUserIDs random ids count ≠ []) :
    ((pickRandomUserIDs random ids count).length : Int) = min count ids.length := by
  unfold pickRandomUserIDs at some_ ⊢
  split at some_
  · exact absurd rfl some_
  · rename_i asked
    rw [if_neg asked, pick_length]
    omega

/-! ## What an award makes -/

structure Made (codes made : List Redemption) : Prop where
  distinct : (made.map Redemption.key).Nodup
  new : ∀ code ∈ made, code.key ∉ codes.map Redemption.key

theorem made_nil (codes : List Redemption) : Made codes [] :=
  ⟨List.nodup_nil, fun _ member => absurd member List.not_mem_nil⟩

theorem Made.append {first : List Redemption} (earlier : Made codes first)
    (later : Made (codes ++ first) second) : Made codes (first ++ second) where
  distinct := by
    rw [List.map_append, List.nodup_append]
    refine ⟨earlier.distinct, later.distinct, ?_⟩
    rintro key early _ late rfl
    obtain ⟨code, member, rfl⟩ := List.mem_map.mp late
    exact later.new code member (List.map_append ▸ List.mem_append_right _ early)
  new := by
    intro code member
    rcases List.mem_append.mp member with early | late
    · exact earlier.new code early
    · exact fun old => later.new code late (List.map_append ▸ List.mem_append_left _ old)

theorem prize_code_made {round : Round}
    (given : prizeCode round call index codes = .ok (after, key)) :
    ∃ made, after = codes ++ made ∧ Made codes made := by
  unfold prizeCode at given
  split at given
  · cases given
    exact ⟨[], (List.append_nil _).symm, made_nil codes⟩
  · split at given
    · cases given
    · split at given
      · cases given
      · rename_i fresh
        cases given
        exact ⟨_, rfl, List.nodup_singleton _, fun code member => by
          rw [List.mem_singleton.mp member]
          exact fresh⟩

theorem award_made {round : Round}
    (given : award round call index users codes = .ok (after, winners)) :
    winners.map Winner.userId = users ∧ (∀ winner ∈ winners, winner.roundId = round.id) ∧
      ∃ made, after = codes ++ made ∧ Made codes made := by
  induction users generalizing index codes after winners with
  | nil =>
    cases given
    exact ⟨rfl, by simp, [], (List.append_nil _).symm, made_nil codes⟩
  | cons userId rest ih =>
    unfold award at given
    split at given
    · cases given
    · rename_i between key first_
      split at given
      · cases given
      · rename_i later others next
        cases given
        obtain ⟨made, rfl, fresh⟩ := prize_code_made first_
        obtain ⟨users, rows, more, rfl, newer⟩ := ih next
        refine ⟨by rw [List.map_cons, users], ?_, made ++ more, List.append_assoc .., fresh.append newer⟩
        rintro winner (_ | ⟨_, member⟩)
        · rfl
        · exact rows winner member

/-! ## What a step does -/

def Drawable (round : Round) : Prop := round.status = .open_ ∨ round.status = .draft

/-- What every step but a new draw leaves: the winners and the codes, and the
rounds as far as a draw is concerned. Only an opening makes a round drawable. -/
structure Kept (opened : Int → Prop) (store next : Store) : Prop where
  winners : next.winners = store.winners
  redemptions : next.redemptions = store.redemptions
  lastRound : store.lastRound ≤ next.lastRound
  marked : Marked store → Marked next
  rounds : ∀ round ∈ next.rounds, (store.lastRound < round.id ∧ round.id ≤ next.lastRound) ∨
    ∃ old ∈ store.rounds, old.id = round.id ∧ (Drawable round → Drawable old ∨ opened round.id)

theorem Kept.refl (opened : Int → Prop) (store : Store) : Kept opened store store :=
  ⟨rfl, rfl, le_refl _, id, fun round stored => .inr ⟨round, stored, rfl, .inl⟩⟩

theorem kept_map {opened : Int → Prop} {change : Round → Round}
    (same : ∀ round, (change round).id = round.id)
    (shut : ∀ round ∈ store.rounds, Drawable (change round) → Drawable round ∨ opened round.id) :
    Kept opened store { store with rounds := store.rounds.map change } where
  winners := rfl
  redemptions := rfl
  lastRound := le_refl _
  marked := id
  rounds := by
    intro round stored
    obtain ⟨old, member, rfl⟩ := List.mem_map.mp stored
    refine .inr ⟨old, member, (same old).symm, fun drawable => ?_⟩
    rw [same]
    exact shut old member drawable

theorem kept_update {opened : Int → Prop} {change : Round → Round}
    (same : ∀ round, (change round).id = round.id)
    (shut : ∀ round, Drawable (change round) → Drawable round) :
    Kept opened store (store.updateRound roundId change) := by
  refine kept_map (fun round => ?_) fun round _ drawable => .inl ?_
  · split
    · exact same round
    · rfl
  · split at drawable
    · exact shut round drawable
    · exact drawable

theorem kept_refresh (opened : Int → Prop) (roundId : Int) (store : Store) :
    Kept opened store (refreshParticipantCount roundId store) := by
  unfold refreshParticipantCount
  split
  · exact Kept.refl opened store
  · exact kept_update (fun _ => rfl) fun _ => id

theorem kept_entries {opened : Int → Prop}
    (marked : Marked store → Marked { store with entries := entries })
    (kept : Kept opened { store with entries := entries } next) : Kept opened store next :=
  ⟨kept.winners, kept.redemptions, kept.lastRound, kept.marked ∘ marked, kept.rounds⟩

theorem kept_setting {opened : Int → Prop}
    (kept : Kept opened { store with setting := setting } next) : Kept opened store next :=
  ⟨kept.winners, kept.redemptions, kept.lastRound, kept.marked, kept.rounds⟩

theorem marked_update {change : Entry → Entry}
    (kept : ∀ entry, entry.qualified = true → (change entry).qualified = true)
    (marked : Marked store) :
    Marked { store with entries := update Entry.place store.entries place change } :=
  forall_update marked fun entry _ _ => kept entry

theorem kept_join {opened : Int → Prop}
    (joined : ensureActivityLotteryEntry userId source now store = .ok next) :
    Kept opened store next := by
  unfold ensureActivityLotteryEntry at joined
  dsimp only at joined
  split at joined
  · cases joined
    exact Kept.refl opened store
  rename_i round current
  split at joined
  · cases joined
  · split at joined
    · -- a source that qualifies
      split at joined
      · cases joined
        exact Kept.refl opened store
      · split at joined
        all_goals cases joined
        · exact Kept.refl opened store
        · exact kept_entries (marked_update fun _ _ => rfl) (kept_refresh opened _ _)
    · -- joining by hand
      split at joined
      · split at joined
        all_goals cases joined
        · exact Kept.refl opened store
        · refine kept_entries (marked_update fun entry qualified => ?_) (Kept.refl opened _)
          split
          · exact qualified
          · rfl
      · cases joined
        refine kept_entries (fun marked entry stored => ?_) (kept_refresh opened _ _)
        dsimp only at stored
        split at stored
        · exact marked entry stored
        · rcases List.mem_append.mp stored with old | new
          · exact marked entry old
          · rw [List.mem_singleton.mp new, Entry.created]

theorem write_id (req : RoundUpsertRequest) (setting : ActivityLotterySetting) (now : Int)
    (round : Round) : (req.write setting now round).id = round.id := by
  simp only [RoundUpsertRequest.write]

theorem write_status (req : RoundUpsertRequest) (setting : ActivityLotterySetting) (now : Int)
    (round : Round) : (req.write setting now round).status = round.status := by
  simp only [RoundUpsertRequest.write]

theorem new_round_id (id : Int) (req : RoundUpsertRequest) (setting : ActivityLotterySetting)
    (now : Int) : (newRound id req setting now).id = id := by
  simp only [newRound, write_id]

theorem kept_create {opened : Int → Prop}
    (created : createActivityLotteryRound req now store = .ok next) : Kept opened store next := by
  unfold createActivityLotteryRound at created
  split at created
  · cases created
  · cases created
    refine ⟨rfl, rfl, Int.le.intro 1 rfl, id, fun round stored => ?_⟩
    rcases List.mem_append.mp stored with old | new
    · exact .inr ⟨round, old, rfl, .inl⟩
    · rw [List.mem_singleton.mp new, new_round_id]
      exact .inl ⟨Int.lt_succ _, le_refl _⟩

theorem kept_edit {opened : Int → Prop}
    (edited : updateActivityLotteryRound roundId req now store = .ok next) :
    Kept opened store next := by
  unfold updateActivityLotteryRound at edited
  split at edited
  · cases edited
  · split at edited
    · cases edited
    · split at edited
      · cases edited
      · split at edited
        · cases edited
        · rw [Except.ok.injEq] at edited
          subst edited
          refine kept_update (fun round => ?_) fun round drawable => ?_
          · simp only [write_id]
          · simpa only [Drawable, write_status] using drawable

theorem kept_open
    (opened : openActivityLotteryRound roundId now store = .ok next) :
    Kept (· = roundId) store next := by
  unfold openActivityLotteryRound at opened
  split at opened
  · cases opened
  · cases opened
    refine kept_map (fun round => ?_) fun round _ drawable => ?_
    · repeat' split
      all_goals rfl
    · split at drawable
      · rename_i same
        exact .inr same
      · split at drawable
        · simp [Drawable] at drawable
        · exact .inl drawable

theorem kept_close {opened : Int → Prop}
    (closed : closeActivityLotteryRound roundId now store = .ok next) : Kept opened store next := by
  unfold closeActivityLotteryRound at closed
  split at closed
  · cases closed
  · cases closed
    exact kept_update (fun _ => rfl) fun _ drawable => by simp [Drawable] at drawable

theorem kept_expire {opened : Int → Prop}
    (expired : expireActivityLotteryRound roundId now store = .ok next) : Kept opened store next := by
  unfold expireActivityLotteryRound at expired
  split at expired
  · cases expired
  · cases expired
    refine kept_update (fun round => ?_) fun round drawable => ?_
    · split <;> rfl
    · split at drawable
      · simp [Drawable] at drawable
      · exact drawable

/-- A draw that takes place: a drawable round is marked as drawn, and there are
rows for the users that were picked, with new codes. -/
structure Drew (roundId : Int) (call : DrawCall) (store next : Store) (result : DrawResult) : Prop where
  drawable : ∃ round ∈ store.rounds, round.id = roundId ∧ Drawable round
  winners : next.winners = store.winners ++ result.winners
  rows : ∀ winner ∈ result.winners, winner.roundId = roundId
  users : result.winners.map Winner.userId = pickRandomUserIDs call.random (drawUserIDs roundId store)
    (getActivityLotteryRoundWinnerCount store.setting result.round)
  some_ : result.winners ≠ []
  codes : ∃ made, next.redemptions = store.redemptions ++ made ∧ Made store.redemptions made
  lastRound : next.lastRound = store.lastRound
  entries : next.entries = store.entries
  rounds : ∀ round ∈ next.rounds, ∃ old ∈ store.rounds, old.id = round.id ∧
    (Drawable round → Drawable old ∧ old.id ≠ roundId)

theorem draw_transaction_cases
    (drawn : drawTransaction roundId call store = .ok (next, result)) :
    (result.isNewDraw = false ∧ next = store) ∨
      (result.isNewDraw = true ∧ Drew roundId call store next result) := by
  unfold drawTransaction at drawn
  split at drawn
  · cases drawn
  · rename_i round found
    split at drawn
    · cases drawn
      exact .inl ⟨rfl, rfl⟩
    · split at drawn
      · cases drawn
      · dsimp only at drawn
        split at drawn
        · cases drawn
        · split at drawn
          · cases drawn
          · split at drawn
            · cases drawn
            · rename_i chosen
              split at drawn
              · cases drawn
              · rename_i codes winners awarded
                cases drawn
                obtain ⟨users, rows, made, grown, fresh⟩ := award_made awarded
                have here : round.id = roundId := lookup_key found
                refine .inr ⟨rfl, ⟨round, lookup_mem found, here, ?_⟩, rfl, ?_, users, ?_,
                  ⟨made, grown, fresh⟩, rfl, rfl, fun stored member => ?_⟩
                · tauto
                · exact fun winner member => here ▸ rows winner member
                · rintro rfl
                  exact chosen users.symm
                · obtain ⟨old, inside, rfl⟩ := List.mem_map.mp member
                  refine ⟨old, inside, ?_, fun drawable => ?_⟩
                  · split <;> rfl
                  · split at drawable
                    · simp [Drawable] at drawable
                    · rename_i other
                      exact ⟨drawable, other⟩

theorem draw_cases (roundId : Int) (call : DrawCall) (store : Store) :
    (newDraw roundId store (.draw roundId call) = none ∧
      ∀ opened, Kept opened store (step store (.draw roundId call))) ∨
    ∃ result, newDraw roundId store (.draw roundId call) = some result ∧
      Drew roundId call store (step store (.draw roundId call)) result := by
  simp only [newDraw, step, if_true]
  unfold drawActivityLotteryRoundWithOptions
  by_cases absent : roundId ≤ 0
  · simp only [if_pos absent]
    exact .inl ⟨trivial, fun opened => Kept.refl opened store⟩
  · simp only [if_neg absent]
    cases drawn : drawTransaction roundId call store with
    | error text => exact .inl ⟨rfl, fun opened => kept_update (fun _ => rfl) fun _ => id⟩
    | ok answer =>
      obtain ⟨next, result⟩ := answer
      rcases draw_transaction_cases drawn with ⟨old, rfl⟩ | ⟨new, drew⟩
      · exact .inl ⟨by simp [old], fun opened => Kept.refl opened next⟩
      · exact .inr ⟨result, by simp [new], drew⟩

def Opens (event : Event) (roundId : Int) : Prop := ∃ now, event = .open_ roundId now

theorem step_cases (store : Store) (event : Event) :
    ((∀ roundId, newDraw roundId store event = none) ∧ Kept (Opens event) store (step store event)) ∨
    ∃ roundId call result, event = .draw roundId call ∧
      (∀ other, newDraw other store event = if roundId = other then some result else none) ∧
      Drew roundId call store (step store event) result := by
  have answered {outcome : Except String Store}
      (kept : ∀ next, outcome = .ok next → Kept (Opens event) store next) :
      Kept (Opens event) store (outcome.toOption.getD store) := by
    cases outcome with
    | error text => exact Kept.refl _ store
    | ok next => exact kept next rfl
  cases event with
  | configure setting => exact .inl ⟨fun _ => rfl, kept_setting (Kept.refl _ _)⟩
  | create req now => exact .inl ⟨fun _ => rfl, answered fun _ => kept_create⟩
  | update roundId req now => exact .inl ⟨fun _ => rfl, answered fun _ => kept_edit⟩
  | open_ roundId now =>
    refine .inl ⟨fun _ => rfl, answered fun next opened => ?_⟩
    have kept := kept_open opened
    refine ⟨kept.winners, kept.redemptions, kept.lastRound, kept.marked, fun round stored => ?_⟩
    refine (kept.rounds round stored).imp id ?_
    rintro ⟨old, member, same, shut⟩
    exact ⟨old, member, same, fun drawable => (shut drawable).imp id fun here => ⟨now, congrArg (Event.open_ · now) here.symm⟩⟩
  | close roundId now => exact .inl ⟨fun _ => rfl, answered fun _ => kept_close⟩
  | expire roundId now => exact .inl ⟨fun _ => rfl, answered fun _ => kept_expire⟩
  | draw roundId call =>
    have elsewhere {other : Int} (other_ : roundId ≠ other) :
        newDraw other store (.draw roundId call) = none := by
      simp only [newDraw, if_neg other_]
    rcases draw_cases roundId call store with ⟨nothing, kept⟩ | ⟨result, new, drew⟩
    · refine .inl ⟨fun other => ?_, kept _⟩
      by_cases here : roundId = other
      · exact here ▸ nothing
      · exact elsewhere here
    · refine .inr ⟨roundId, call, result, rfl, fun other => ?_, drew⟩
      by_cases here : roundId = other
      · rw [if_pos here, ← here, new]
      · rw [if_neg here, elsewhere here]
  | refresh roundId => exact .inl ⟨fun _ => rfl, kept_refresh _ roundId store⟩
  | join userId source now => exact .inl ⟨fun _ => rfl, answered fun _ => kept_join⟩

/-! ## Orderly runs -/

/-- No opening brings back a round that was drawn, and everyone who takes part
in a draw has qualified before it. -/
def Orderly (roundId : Int) (history : History) : Event → Prop
  | .open_ opened _ => opened = roundId → winnersOf roundId history.store = []
  | .draw drawn _ => drawn = roundId →
      ∀ userId ∈ participants roundId history.store, (roundId, userId) ∈ history.qualified
  | _ => True

structure Settled (roundId : Int) (store : Store) : Prop where
  bounded : ∀ round ∈ store.rounds, round.id ≤ store.lastRound
  known : winnersOf roundId store ≠ [] → roundId ≤ store.lastRound
  shut : winnersOf roundId store ≠ [] → ∀ round ∈ store.rounds, round.id = roundId → ¬ Drawable round
  once : ((winnersOf roundId store).map Winner.userId).Nodup
  marked : Marked store

theorem Kept.settled {opened : Int → Prop}
    (kept : Kept opened store next) (settled : Settled roundId store)
    (untouched : winnersOf roundId store ≠ [] → ¬ opened roundId) : Settled roundId next := by
  have same : winnersOf roundId next = winnersOf roundId store := by rw [winnersOf, kept.winners]; rfl
  refine ⟨fun round stored => ?_, fun won => ?_, fun won round stored here drawable => ?_, ?_,
    kept.marked settled.marked⟩
  · rcases kept.rounds round stored with new | ⟨old, member, id_, -⟩
    · exact new.2
    · exact id_ ▸ (settled.bounded old member).trans kept.lastRound
  · exact (settled.known (same ▸ won)).trans kept.lastRound
  · rw [same] at won
    rcases kept.rounds round stored with new | ⟨old, member, id_, shut⟩
    · have := settled.known won
      omega
    · rcases shut drawable with before | reopened
      · exact settled.shut won old member (id_.trans here) before
      · exact untouched won (here ▸ reopened)
  · rw [same]
    exact settled.once

theorem Drew.winners_of_self
    (drew : Drew roundId call store next result) :
    winnersOf roundId next = winnersOf roundId store ++ result.winners := by
  rw [winnersOf, drew.winners, List.filter_append]
  refine congrArg₂ _ rfl (List.filter_eq_self.mpr fun winner member => ?_)
  exact decide_eq_true (drew.rows winner member)

theorem Drew.winners_of_other
    (drew : Drew roundId call store next result) (apart : roundId ≠ other) :
    winnersOf other next = winnersOf other store := by
  rw [winnersOf, drew.winners, List.filter_append, winnersOf]
  refine (congrArg₂ _ rfl (List.filter_eq_nil_iff.mpr fun winner member => ?_)).trans (List.append_nil _)
  simpa [drew.rows winner member] using apart

theorem Drew.distinct (drew : Drew roundId call store next result) (marked : Marked store) :
    (result.winners.map Winner.userId).Nodup :=
  drew.users ▸ pick_user_ids_nodup (draw_user_ids roundId marked).1 _ _

theorem Drew.fair {history : History}
    (drew : Drew roundId call history.store next result) (marked : Marked history.store)
    (everyone : ∀ userId ∈ participants roundId history.store, (roundId, userId) ∈ history.qualified) :
    (∀ winner ∈ result.winners, winner.userId ∈ qualifiedParticipants roundId history) ∧
      (result.winners.length : Int) =
        min (getActivityLotteryRoundWinnerCount history.store.setting result.round)
          (qualifiedParticipants roundId history).card := by
  obtain ⟨distinct, drawn⟩ := draw_user_ids roundId marked
  have agreed : (drawUserIDs roundId history.store).toFinset = qualifiedParticipants roundId history := by
    rw [drawn, qualifiedParticipants, Finset.filter_true_of_mem everyone]
  have users := drew.users
  refine ⟨fun winner member => ?_, ?_⟩
  · have picked := users ▸ List.mem_map_of_mem (f := Winner.userId) member
    rw [← agreed]
    exact List.mem_toFinset.mpr (mem_of_mem_pick_user_ids picked)
  · have some_ : result.winners.map Winner.userId ≠ [] := by simpa using drew.some_
    rw [← agreed, List.toFinset_card_of_nodup distinct, ← List.length_map Winner.userId, users]
    exact pick_user_ids_length (users ▸ some_)

theorem Drew.settled
    (drew : Drew roundId call store next result)
    (settled : Settled other store) : Settled other next := by
  have bounded : ∀ round ∈ next.rounds, round.id ≤ next.lastRound := by
    intro round stored
    obtain ⟨old, member, same, -⟩ := drew.rounds round stored
    rw [drew.lastRound, ← same]
    exact settled.bounded old member
  have marked : Marked next := fun entry stored => settled.marked entry (drew.entries ▸ stored)
  by_cases here : roundId = other
  · subst here
    obtain ⟨round, stored, is_, drawable⟩ := drew.drawable
    have nobody : winnersOf roundId store = [] := by
      by_contra won
      exact settled.shut won round stored is_ drawable
    refine ⟨bounded, fun _ => ?_, fun _ drawn member same again => ?_, ?_, marked⟩
    · rw [drew.lastRound, ← is_]
      exact settled.bounded round stored
    · obtain ⟨old, -, id_, shut⟩ := drew.rounds drawn member
      exact (shut again).2 (id_.trans same)
    · rw [drew.winners_of_self, nobody]
      exact drew.distinct settled.marked
  · have same := drew.winners_of_other here
    refine ⟨bounded, fun won => ?_, fun won round stored is_ drawable => ?_, same ▸ settled.once,
      marked⟩
    · exact drew.lastRound ▸ settled.known (same ▸ won)
    · obtain ⟨old, member, id_, shut⟩ := drew.rounds round stored
      exact settled.shut (same ▸ won) old member (id_.trans is_) (shut drawable).1

theorem record_settled (settled : Settled roundId history.store)
    (guard : Orderly roundId history event) : Settled roundId (record history event).store := by
  rcases step_cases history.store event with ⟨-, kept⟩ | ⟨_, _, _, -, -, drew⟩
  · refine kept.settled settled fun won => ?_
    rintro ⟨now, rfl⟩
    exact won (guard rfl)
  · exact drew.settled settled

theorem draws_of_winners
    (settled : Settled roundId history.store) (won : winnersOf roundId history.store ≠ [])
    (guarded : Guarded record (Orderly roundId) history events) : draws roundId history events = [] := by
  induction events generalizing history with
  | nil => rfl
  | cons event rest ih =>
    have later := record_settled settled guarded.1
    rcases step_cases history.store event with ⟨none_, kept⟩ | ⟨drawn, call, result, rfl, new, drew⟩
    · have same : winnersOf roundId (step history.store event) = winnersOf roundId history.store := by
        rw [winnersOf, kept.winners]; rfl
      rw [draws, none_, ih later (same ▸ won) guarded.2]
      rfl
    · have apart : drawn ≠ roundId := by
        rintro rfl
        obtain ⟨round, stored, is_, drawable⟩ := drew.drawable
        exact settled.shut won round stored is_ drawable
      rw [draws, new, if_neg apart, ih later (drew.winners_of_other apart ▸ won) guarded.2]
      rfl

theorem drawn_once
    (settled : Settled roundId history.store)
    (guarded : Guarded record (Orderly roundId) history events) :
    (draws roundId history events).length ≤ 1 := by
  induction events generalizing history with
  | nil => exact Nat.zero_le 1
  | cons event rest ih =>
    have later := record_settled settled guarded.1
    rcases step_cases history.store event with ⟨none_, kept⟩ | ⟨drawn, call, result, rfl, new, drew⟩
    · rw [draws, none_]
      exact ih later guarded.2
    · rw [draws, new]
      by_cases here : drawn = roundId
      · subst here
        have won : winnersOf drawn (record history (.draw drawn call)).store ≠ [] := by
          rw [record, drew.winners_of_self]
          exact fun empty => drew.some_ (List.append_eq_nil_iff.mp empty).2
        rw [if_pos rfl, draws_of_winners later won guarded.2]
        exact le_refl 1
      · rw [if_neg here]
        exact ih later guarded.2

/-! ## What every draw and every code is -/

theorem draws_fair
    (settled : Settled roundId history.store)
    (guarded : Guarded record (Orderly roundId) history events)
    (drawn : draw ∈ draws roundId history events) :
    (draw.result.winners.map Winner.userId).Nodup ∧
      (∀ winner ∈ draw.result.winners, winner.userId ∈ qualifiedParticipants roundId draw.before) ∧
      (draw.result.winners.length : Int) =
        min (getActivityLotteryRoundWinnerCount draw.before.store.setting draw.result.round)
          (qualifiedParticipants roundId draw.before).card := by
  induction events generalizing history with
  | nil => cases drawn
  | cons event rest ih =>
    rcases List.mem_append.mp drawn with now | later
    · rcases step_cases history.store event with ⟨none_, -⟩ | ⟨other, call, result, rfl, new, drew⟩
      · simp [none_] at now
      · rw [new] at now
        split at now
        · rename_i here
          subst here
          rw [Option.map_some, Option.toList_some, List.mem_singleton] at now
          subst now
          exact ⟨drew.distinct settled.marked, drew.fair settled.marked (guarded.1 rfl)⟩
        · simp at now
    · exact ih (record_settled settled guarded.1) guarded.2 later

theorem run_codes (start : History) (events : List Event) :
    ∃ made, (run record start events).store.redemptions = start.store.redemptions ++ made ∧
      Made start.store.redemptions made := by
  induction events generalizing start with
  | nil => exact ⟨[], (List.append_nil _).symm, made_nil _⟩
  | cons event rest ih =>
    obtain ⟨later, grown, fresh⟩ := ih (record start event)
    rw [run_cons, grown, record]
    rw [record] at fresh
    rcases step_cases start.store event with ⟨-, kept⟩ | ⟨_, _, _, -, -, drew⟩
    · rw [kept.redemptions] at fresh ⊢
      exact ⟨later, rfl, fresh⟩
    · obtain ⟨made, now, new⟩ := drew.codes
      rw [now] at fresh ⊢
      exact ⟨made ++ later, List.append_assoc .., new.append fresh⟩

theorem length_le_one_of_same_key {codes : List Redemption} (key : String)
    (distinct : (codes.map Redemption.key).Nodup) (same : ∀ code ∈ codes, code.key = key) :
    codes.length ≤ 1 := by
  have all : codes.map Redemption.key = List.replicate codes.length key :=
    List.eq_replicate_iff.mpr ⟨List.length_map .., fun text member => by
      obtain ⟨code, inside, rfl⟩ := List.mem_map.mp member
      exact same code inside⟩
  rw [all] at distinct
  exact List.nodup_replicate.mp distinct

theorem one_prize {roundId userId : Int} {start : History} {events : List Event}
    (once : ((winnersOf roundId (run record start events).store).map Winner.userId).Nodup) :
    (prizesOf roundId userId start.store (run record start events).store).length ≤ 1 := by
  obtain ⟨made, grown, fresh⟩ := run_codes start events
  have prizes : prizesOf roundId userId start.store (run record start events).store = made.filter fun code =>
      (winnersOf roundId (run record start events).store).any fun winner =>
        winner.userId = userId && winner.prize = code.key := by
    rw [prizesOf, grown, List.drop_left]
  rw [prizes]
  by_cases won : ∃ winner ∈ winnersOf roundId (run record start events).store, winner.userId = userId
  · obtain ⟨winner, member, rfl⟩ := won
    refine length_le_one_of_same_key winner.prize
      (fresh.distinct.sublist (List.filter_sublist.map _)) fun code held => ?_
    simp only [List.mem_filter, List.any_eq_true, Bool.and_eq_true, decide_eq_true_eq] at held
    obtain ⟨-, other, inside, user, prize⟩ := held
    rw [List.inj_on_of_nodup_map once inside member user] at prize
    exact prize.symm
  · refine (List.length_eq_zero_iff.mpr (List.filter_eq_nil_iff.mpr fun code _ => ?_)).trans_le
      (Nat.zero_le 1)
    simp only [List.any_eq_true, Bool.and_eq_true, decide_eq_true_eq, not_exists, not_and]
    exact fun winner member user => absurd ⟨winner, member, user⟩ won

/-! ## The round of a fresh table -/

def opening (setting : ActivityLotterySetting) (redemptions : List Redemption) : History where
  store := { setting := setting, redemptions := redemptions }

theorem opening_settled (roundId : Int) (setting : ActivityLotterySetting)
    (redemptions : List Redemption) : Settled roundId (opening setting redemptions).store :=
  ⟨fun _ member => absurd member List.not_mem_nil, fun won => absurd rfl won,
    fun won => absurd rfl won, List.nodup_nil, fun _ member => absurd member List.not_mem_nil⟩

/-- A round that no opening brings back after it was drawn, and that everyone
qualifies for before it is drawn, pays out at most once, whatever else happens
to it and to the other rounds. -/
theorem round_pays_once {roundId : Int} {setting : ActivityLotterySetting}
    {redemptions : List Redemption} {events : List Event}
    (guarded : Guarded record (Orderly roundId) (opening setting redemptions) events) :
    PaysOnce roundId (opening setting redemptions) events := by
  have settled := opening_settled roundId setting redemptions
  have kept : ∀ history event, Orderly roundId history event → Settled roundId history.store →
      Settled roundId (record history event).store :=
    fun _ _ guard settled => record_settled settled guard
  have ends : Settled roundId (run record (opening setting redemptions) events).store :=
    run_preserves kept guarded settled
  have fair := fun draw (drawn : draw ∈ draws roundId _ events) => draws_fair settled guarded drawn
  exact {
    drawnOnce := drawn_once settled guarded
    distinct := fun draw drawn => (fair draw drawn).1
    qualified := fun draw drawn => (fair draw drawn).2.1
    number := fun draw drawn => (fair draw drawn).2.2
    wonOnce := ends.once
    onePrize := fun _ => one_prize ends.once }

instance (roundId : Int) (history : History) :
    (event : Event) → Decidable (Orderly roundId history event)
  | .open_ opened _ =>
    inferInstanceAs (Decidable (opened = roundId → winnersOf roundId history.store = []))
  | .draw drawn _ => inferInstanceAs (Decidable (drawn = roundId →
      ∀ userId ∈ participants roundId history.store, (roundId, userId) ∈ history.qualified))
  | .configure _ | .create .. | .update .. | .close .. | .expire .. | .refresh _ | .join .. =>
    isTrue trivial

def weeklyRound (joinSources : String) : RoundUpsertRequest where
  title := "weekly"
  joinSources := joinSources
  startAt := 100
  endAt := 200
  winnerCount := 1
  prizeMode := "per_winner_code"
  prizeQuota := 500

def drawWith (key : String) : DrawCall where
  now := 200
  force := true
  buildRedemptionKey := fun _ => .ok key

def weeklyRun (joinSources : String) (joins : List Event) : List Event :=
  [.create (weeklyRound joinSources) 90, .open_ 1 95] ++ joins ++ [.draw 1 (drawWith "Q1")]

/-- A round that asks for a check-in is drawn when both users have checked in. -/
theorem weekly_round_pays_once :
    PaysOnce 1 (opening { enabled := true } []) (weeklyRun "checkin"
      [.join 7 "manual" 120, .join 8 "manual" 130, .join 8 "checkin" 140, .join 7 "checkin" 150]) :=
  round_pays_once (by decide +kernel)

/-- The drawn round is opened and drawn again: user 7 wins it again and has two codes. -/
theorem reopened_round_pays_twice :
    let events := weeklyRun "" [.join 7 "manual" 120] ++ [.open_ 1 210, .draw 1 (drawWith "Q2")]
    (draws 1 (opening { enabled := true } []) events).length = 2 ∧
      (prizesOf 1 7 (opening { enabled := true } []).store
        (run record (opening { enabled := true } []) events).store).map Redemption.quota = [500, 500] ∧
      ¬ PaysOnce 1 (opening { enabled := true } []) events := by
  intro events
  have twice : (draws 1 (opening { enabled := true } []) events).length = 2 := by decide +kernel
  refine ⟨twice, by decide +kernel, fun pays => ?_⟩
  have once := pays.drawnOnce
  omega

/-- User 7 wins a round that asks for a check-in without one: `Create` stored
the entry as qualified. -/
theorem unqualified_user_wins :
    let events := weeklyRun "checkin" [.join 7 "manual" 120]
    (draws 1 (opening { enabled := true } []) events).map (fun draw =>
        (draw.result.winners.map Winner.userId, (qualifiedParticipants 1 draw.before).card)) =
      [([7], 0)] ∧ ¬ PaysOnce 1 (opening { enabled := true } []) events := by
  intro events
  have wins : (draws 1 (opening { enabled := true } []) events).map (fun draw =>
      (draw.result.winners.map Winner.userId, (qualifiedParticipants 1 draw.before).card)) =
        [([7], 0)] := by decide +kernel
  refine ⟨wins, fun pays => ?_⟩
  obtain ⟨draw, drawn, one⟩ := List.mem_map.mp (wins ▸ List.mem_singleton_self _)
  rw [Prod.mk.injEq] at one
  obtain ⟨winner, member, -⟩ := List.mem_map.mp (one.1 ▸ List.mem_singleton_self (7 : Int))
  have qualified := pays.qualified draw drawn winner member
  rw [Finset.card_eq_zero.mp one.2] at qualified
  exact absurd qualified (Finset.notMem_empty _)

end NewApi.LotteryRounds
