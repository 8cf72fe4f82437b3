import NewApi.RequestCharge

/-! The billing of one request: a funding source, wallet or subscription, and
the token beside it. The session takes an estimate before the request goes out,
and then settles with what the request really cost, or gives the estimate
back. -/
namespace NewApi.RequestBilling
open NewApi.KeyedTable NewApi.RequestCharge
open NewApi.Subscription
open NewApi.SubscriptionStore hiding step Event

/-! ## The ledgers -/

structure Token where
  id : Int
  key : String
  remainQuota : Int := 0
  usedQuota : Int := 0
  deriving DecidableEq, Repr

structure Books where
  db : Database := {}
  tokens : List Token := []
  deriving DecidableEq, Repr

def Books.userQuota (books : Books) (userId : Int) : Int :=
  ((lookup User.id books.db.users userId).map User.quota).getD 0

def Books.token (books : Books) (id : Int) : Option Token := lookup Token.id books.tokens id

def Books.tokenBalance (books : Books) (id : Int) : Option (Int × Int) :=
  (books.token id).map fun token => (token.remainQuota, token.usedQuota)

inductive QuotaError where
  | negative
  | emptyId
  | recordNotFound
  | notEnough (remain need : Int)
  | periodExceeded (text : String)
  deriving DecidableEq, Repr

def QuotaError.text : QuotaError → String
  | .negative => "quota 不能为负数！"
  | .emptyId => "id 为空！"
  | .recordNotFound => "record not found"
  | .notEnough remain need =>
    s!"token quota is not enough, token remain quota: {remain}, need quota: {need}"
  | .periodExceeded text => text

/-- `Update("quota", gorm.Expr("quota + ?", delta))`; a missing user is no
error. -/
def addUserQuota (userId delta : Int) (books : Books) : Books :=
  { books with db := { books.db with
    users := update User.id books.db.users userId fun user =>
      { user with quota := user.quota + delta } } }

/-- `model/user.go::IncreaseUserQuota`. -/
def increaseUserQuota (userId quota : Int) (books : Books) : Except QuotaError Books :=
  if quota < 0 then .error .negative else .ok (addUserQuota userId quota books)

/-- `model/user.go::DecreaseUserQuota`. -/
def decreaseUserQuota (userId quota : Int) (books : Books) : Except QuotaError Books :=
  if quota < 0 then .error .negative else .ok (addUserQuota userId (-quota) books)

def moveToken (id delta : Int) (books : Books) : Books :=
  { books with tokens := update Token.id books.tokens id fun token =>
    { token with
      remainQuota := token.remainQuota + delta
      usedQuota := token.usedQuota - delta } }

/-- `model/token.go::adjustTokenQuota`, up to the period columns. -/
def adjustTokenQuota (id delta : Int) (books : Books) : Except QuotaError Books :=
  if id ≤ 0 then .error .emptyId
  else match books.token id with
  | none => .error .recordNotFound
  | some _ => .ok (moveToken id delta books)

/-- `model/token.go::IncreaseTokenQuota`. -/
def increaseTokenQuota (id quota : Int) (books : Books) : Except QuotaError Books :=
  if quota < 0 then .error .negative else adjustTokenQuota id quota books

/-- `model/token.go::DecreaseTokenQuota`. -/
def decreaseTokenQuota (id quota : Int) (books : Books) : Except QuotaError Books :=
  if quota < 0 then .error .negative else adjustTokenQuota id (-quota) books

/-! ### What a move changes -/

section Moves
variable {id : Int}

@[simp] theorem move_token_db (id delta : Int) (books : Books) :
    (moveToken id delta books).db = books.db := rfl

@[simp] theorem move_token_user (id delta userId : Int) (books : Books) :
    (moveToken id delta books).userQuota userId = books.userQuota userId := rfl

@[simp] theorem add_quota_balance (userId delta id : Int) (books : Books) :
    (addUserQuota userId delta books).tokenBalance id = books.tokenBalance id := rfl

@[simp] theorem add_quota_tokens (userId delta : Int) (books : Books) :
    (addUserQuota userId delta books).tokens = books.tokens := rfl

@[simp] theorem add_quota_subscription (userId delta id : Int) (books : Books) :
    (addUserQuota userId delta books).db.subscription id = books.db.subscription id := rfl

theorem move_token_token (id delta other : Int) (books : Books) :
    (moveToken id delta books).token other =
      if other = id then (books.token other).map fun token =>
        { token with
          remainQuota := token.remainQuota + delta
          usedQuota := token.usedQuota - delta }
      else books.token other :=
  lookup_update _ _ _ _ fun _ => rfl

theorem move_token_balance (id delta other : Int) (books : Books) :
    (moveToken id delta books).tokenBalance other =
      if other = id then (books.tokenBalance other).map fun held => (held.1 + delta, held.2 - delta)
      else books.tokenBalance other := by
  simp only [Books.tokenBalance, move_token_token]
  split <;> simp [Function.comp_def]

theorem add_quota_user (userId delta other : Int) (books : Books) :
    lookup User.id (addUserQuota userId delta books).db.users other =
      if other = userId then (lookup User.id books.db.users other).map fun user =>
        { user with quota := user.quota + delta }
      else lookup User.id books.db.users other :=
  lookup_update _ _ _ _ fun _ => rfl

theorem add_quota_self (known : (lookup User.id books.db.users userId).isSome) :
    (addUserQuota userId delta books).userQuota userId = books.userQuota userId + delta := by
  obtain ⟨user, found⟩ := Option.isSome_iff_exists.mp known
  simp [Books.userQuota, add_quota_user, found]

theorem adjust_token_ok (positive : 0 < id) (known : (books.token id).isSome) :
    adjustTokenQuota id delta books = .ok (moveToken id delta books) := by
  obtain ⟨token, found⟩ := Option.isSome_iff_exists.mp known
  simp [adjustTokenQuota, not_le.mpr positive, found]

theorem adjust_token_moves (adjusted : adjustTokenQuota id delta books = .ok result) :
    result = moveToken id delta books := by
  unfold adjustTokenQuota at adjusted
  split at adjusted
  · cases adjusted
  · split at adjusted
    · cases adjusted
    · cases adjusted
      rfl

end Moves

/-! ## Funding sources -/

inductive BillingSource where
  | wallet
  | subscription
  deriving DecidableEq, Repr

/-- `service/funding_source.go::WalletFunding`. -/
structure WalletFunding where
  userId : Int
  consumed : Int := 0

/-- `service/funding_source.go::SubscriptionFunding`. The request holds the
sum that is pre-consumed. -/
structure SubscriptionFunding where
  request : PreConsumeRequest
  subscriptionId : Int := 0
  preConsumed : Int := 0
  preConsumedCnt : Int := 0
  resourceType : ResourceType := .quota
  amountTotal : Int := 0
  resetWindowStart : Int := 0
  resetWindowEnd : Int := 0
  requestCountTotal : Int := 0

inductive FundingSource where
  | wallet (funding : WalletFunding)
  | subscription (funding : SubscriptionFunding)

def FundingSource.source : FundingSource → BillingSource
  | .wallet _ => .wallet
  | .subscription _ => .subscription

def FundingSource.useTokenQuota : FundingSource → Bool
  | .wallet _ => true
  | .subscription funding => funding.amountTotal > 0

def FundingSource.settleDelta (actualQuota preConsumedQuota : Int) : FundingSource → Int
  | .wallet _ => actualQuota - preConsumedQuota
  | .subscription funding =>
    if funding.amountTotal ≤ 0 then 0 else actualQuota - preConsumedQuota

inductive FundingError where
  | quota (error : QuotaError)
  | preConsume (error : PreConsumeError)
  | postConsume (error : PostConsumeError)
  | refund (error : RefundError)
  deriving DecidableEq, Repr

/-- `WalletFunding.PreConsume`. -/
def WalletFunding.preConsume (funding : WalletFunding) (amount : Int) (books : Books) :
    Except FundingError (Books × WalletFunding) :=
  if amount ≤ 0 then .ok (books, funding)
  else match decreaseUserQuota funding.userId amount books with
  | .error error => .error (.quota error)
  | .ok books => .ok (books, { funding with consumed := amount })

/-- `SubscriptionFunding.PreConsume`. The amount is the one of the request. -/
def SubscriptionFunding.preConsume (calendar : ResetWindow.Calendar)
    (funding : SubscriptionFunding) (now : Int) (books : Books) :
    Except FundingError (Books × SubscriptionFunding) :=
  match preConsumeUserSubscriptionWithPreference calendar funding.request now books.db with
  | .error error => .error (.preConsume error)
  | .ok (db, res) => .ok ({ books with db := db }, { funding with
      subscriptionId := res.userSubscriptionId
      preConsumed := res.preConsumed
      preConsumedCnt := res.preConsumedCount
      resourceType := res.resourceType
      amountTotal := res.amountTotal
      resetWindowStart := res.resetWindowStart
      resetWindowEnd := res.resetWindowEnd
      requestCountTotal := res.requestCountTotal })

def FundingSource.preConsume (calendar : ResetWindow.Calendar) (amount now : Int) (books : Books) :
    FundingSource → Except FundingError (Books × FundingSource)
  | .wallet funding => (funding.preConsume amount books).map fun (books, funding) =>
      (books, .wallet funding)
  | .subscription funding => (funding.preConsume calendar now books).map fun (books, funding) =>
      (books, .subscription funding)

/-- `Settle` of either source, for a delta that is not 0. -/
def FundingSource.settle (delta now : Int) (books : Books) : FundingSource → Except FundingError Books
  | .wallet funding =>
    if delta > 0 then (decreaseUserQuota funding.userId delta books).mapError .quota
    else (increaseUserQuota funding.userId (-delta) books).mapError .quota
  | .subscription funding =>
    match postConsumeUserSubscriptionDeltaForWindow funding.subscriptionId delta 0
        funding.resetWindowStart funding.resetWindowEnd now books.db with
    | .error error => .error (.postConsume error)
    | .ok db => .ok { books with db := db }

/-- `WalletFunding.Refund`. -/
def WalletFunding.refund (funding : WalletFunding) (books : Books) : Except FundingError Books :=
  if funding.consumed ≤ 0 then .ok books
  else (increaseUserQuota funding.userId funding.consumed books).mapError .quota

/-- `SubscriptionFunding.Refund`; the attempts after the first change nothing. -/
def SubscriptionFunding.refund (funding : SubscriptionFunding) (now : Int) (books : Books) :
    Except FundingError Books :=
  if funding.preConsumed ≤ 0 ∧ funding.preConsumedCnt ≤ 0 then .ok books
  else match refundSubscriptionPreConsume funding.request.requestId now books.db with
  | .error error => .error (.refund error)
  | .ok db => .ok { books with db := db }

def FundingSource.refund (now : Int) (books : Books) : FundingSource → Except FundingError Books
  | .wallet funding => funding.refund books
  | .subscription funding => funding.refund now books

/-! ## The session -/

/-- The fields of `relay/common/relay_info.go::RelayInfo` that a session is
opened with, and what it reads beside them: the error of
`CheckTokenPeriodQuota`, the trust quota of the settings, and the quota of the
token in the request's context. -/
structure RelayInfo where
  tokenId : Int := 0
  tokenKey : String := ""
  tokenUnlimited : Bool := false
  isPlayground : Bool := false
  forcePreConsume : Bool := false
  periodError : Token → Option String := fun _ => none
  trustQuota : Int := 0
  tokenQuota : Int := 0
  request : PreConsumeRequest

def RelayInfo.userId (info : RelayInfo) : Int := info.request.userId

/-- The fields of a relay that `syncRelayInfo` writes and a task keeps. -/
structure BillingInfo where
  billingSource : BillingSource
  subscriptionId : Int := 0
  subscriptionResourceType : ResourceType := .quota
  subscriptionPreConsumed : Int := 0
  subscriptionPreConsumedAmount : Int := 0
  subscriptionPreConsumedCount : Int := 0
  subscriptionAmountTotal : Int := 0
  subscriptionRequestCountTotal : Int := 0
  deriving DecidableEq, Repr

/-- `service/billing_session.go::BillingSession`. -/
structure BillingSession where
  relayInfo : RelayInfo
  funding : FundingSource
  preConsumedQuota : Int := 0
  tokenConsumed : Int := 0
  fundingSettled : Bool := false
  settled : Bool := false
  refunded : Bool := false
  billing : BillingInfo

inductive BillingError where
  | insufficientUserQuota
  | updateData
  | preConsumeTokenQuotaFailed
  deriving DecidableEq, Repr

def FundingError.code : FundingError → BillingError
  | .preConsume .noActiveSubscription => .insufficientUserQuota
  | .preConsume (.quotaInsufficient _ _) => .insufficientUserQuota
  | _ => .updateData

/-- `service/quota.go::PreConsumeTokenQuota`. -/
def preConsumeTokenQuota (info : RelayInfo) (quota : Int) (books : Books) : Except QuotaError Books :=
  if quota < 0 then .error .negative
  else if info.isPlayground then .ok books
  else match lookup Token.key books.tokens info.tokenKey with
  | none => .error .recordNotFound
  | some token =>
    match info.periodError token with
    | some text => .error (.periodExceeded text)
    | none =>
      if !info.tokenUnlimited && token.remainQuota < quota then
        .error (.notEnough token.remainQuota quota)
      else decreaseTokenQuota info.tokenId quota books

/-- `BillingSession.syncRelayInfo`. -/
def syncRelayInfo : FundingSource → BillingInfo
  | .wallet _ => { billingSource := .wallet }
  | .subscription sub =>
    { billingSource := .subscription
      subscriptionId := sub.subscriptionId
      subscriptionResourceType := sub.resourceType
      subscriptionPreConsumed :=
        if sub.preConsumed ≤ 0 ∧ sub.preConsumedCnt > 0 then sub.preConsumedCnt else sub.preConsumed
      subscriptionPreConsumedAmount := sub.preConsumed
      subscriptionPreConsumedCount := sub.preConsumedCnt
      subscriptionAmountTotal := sub.amountTotal
      subscriptionRequestCountTotal := sub.requestCountTotal }

def sessionPreConsumed (quota : Int) : FundingSource → Int
  | .wallet _ => quota
  | .subscription sub => if sub.preConsumed > 0 then sub.preConsumed else quota

/-- The token steps of `preConsume`: the period check and the token quota. -/
def preConsumeToken (info : RelayInfo) (useTokenQuota : Bool) (quota : Int) (books : Books) :
    Except BillingError (Books × Int) :=
  if !useTokenQuota then .ok (books, 0)
  else if ((lookup Token.key books.tokens info.tokenKey).bind info.periodError).isSome then
    .error .preConsumeTokenQuotaFailed
  else if quota > 0 then
    match preConsumeTokenQuota info quota books with
    | .error _ => .error .preConsumeTokenQuotaFailed
    | .ok books => .ok (books, quota)
  else .ok (books, 0)

/-- `BillingSession.shouldTrust`. A subscription is never trusted. -/
def shouldTrust (info : RelayInfo) (userQuota : Int) : FundingSource → Bool
  | .wallet _ => !info.forcePreConsume && info.trustQuota > 0 &&
      (info.tokenUnlimited || info.tokenQuota > info.trustQuota) && userQuota > info.trustQuota
  | .subscription _ => false

abbrev Outcome := Books × Except BillingError BillingSession

def rollBack (funding : FundingSource) (now : Int) (books : Books) : Books :=
  (funding.refund now books).toOption.getD books

/-- `BillingSession.preConsume`, after the trust check. -/
def openSession (calendar : ResetWindow.Calendar) (info : RelayInfo) (funding : FundingSource)
    (effectiveQuota now : Int) (books : Books) : Outcome :=
  match funding.preConsume calendar effectiveQuota now books with
  | .error error => (books, .error error.code)
  | .ok (charged, funding) =>
    match preConsumeToken info funding.useTokenQuota effectiveQuota charged with
    | .error error => (rollBack funding now charged, .error error)
    | .ok (charged, tokenConsumed) => (charged, .ok
        { relayInfo := info
          funding := funding
          preConsumedQuota := sessionPreConsumed effectiveQuota funding
          tokenConsumed := tokenConsumed
          billing := syncRelayInfo funding })

def effectiveQuota (info : RelayInfo) (preConsumedQuota : Int) (books : Books) : Int :=
  if shouldTrust info (books.userQuota info.userId) (.wallet { userId := info.userId }) then 0
  else preConsumedQuota

def tryWallet (calendar : ResetWindow.Calendar) (info : RelayInfo) (preConsumedQuota now : Int)
    (books : Books) : Outcome :=
  if books.userQuota info.userId ≤ 0 then (books, .error .insufficientUserQuota)
  else if books.userQuota info.userId - preConsumedQuota < 0 then
    (books, .error .insufficientUserQuota)
  else openSession calendar info (.wallet { userId := info.userId })
    (effectiveQuota info preConsumedQuota books) now books

def subConsume (preConsumedQuota : Int) : Int :=
  if preConsumedQuota ≤ 0 then 1 else preConsumedQuota

def trySubscription (calendar : ResetWindow.Calendar) (info : RelayInfo)
    (preConsumedQuota now : Int) (books : Books) : Outcome :=
  openSession calendar info
    (.subscription { request := { info.request with amount := subConsume preConsumedQuota } })
    (subConsume preConsumedQuota) now books

/-- `common.NormalizeBillingPreference`, after the billing type of the group. -/
inductive BillingPreference where
  | subscriptionFirst
  | walletFirst
  | subscriptionOnly
  | walletOnly
  deriving DecidableEq, Repr

def hasUserSubscriptionRemainingEntitlement (sub : UserSubscription) : Bool :=
  match sub.resourceType with
  | .requestCount =>
    !(hasLifetimeRequestCountLimit sub && sub.requestCountUsed ≥ sub.requestCountTotal) &&
      !(getSubscriptionRequestCountPeriodLimit sub > 0 &&
        getCurrentRequestCountUsed sub ≥ getSubscriptionRequestCountPeriodLimit sub)
  | .quota => sub.amountTotal ≤ 0 || sub.amountUsed < sub.amountTotal

/-- `model/subscription.go::HasUsableUserSubscription`. -/
def hasUsableUserSubscription (db : Database) (userId now : Int) : Bool :=
  db.subscriptions.any fun sub =>
    sub.userId = userId && sub.status = .active && (sub.endTime = 0 || sub.endTime > now) &&
      sub.aggregateEnabled && hasUserSubscriptionRemainingEntitlement sub

def orElseInsufficient (first : Outcome) (second : Books → Outcome) : Outcome :=
  match first with
  | (books, .error .insufficientUserQuota) => second books
  | other => other

/-- `service/billing_session.go::NewBillingSession`. -/
def newBillingSession (calendar : ResetWindow.Calendar) (preference : BillingPreference)
    (info : RelayInfo) (preConsumedQuota now : Int) (books : Books) : Outcome :=
  let wallet := tryWallet calendar info preConsumedQuota now
  let subscription := trySubscription calendar info preConsumedQuota now
  match preference with
  | .subscriptionOnly => subscription books
  | .walletOnly => wallet books
  | .walletFirst => orElseInsufficient (wallet books) subscription
  | .subscriptionFirst =>
    if hasUsableUserSubscription books.db info.userId now then
      orElseInsufficient (subscription books) wallet
    else wallet books

/-! ### What an opened session has taken -/

section Opens
variable {info : RelayInfo} {quota : Int}
variable {books : Books}

theorem insufficient_unchanged
    (refused : openSession calendar info funding quota now books =
      (after, .error .insufficientUserQuota)) : after = books := by
  unfold openSession at refused
  split at refused
  · simp only [Prod.mk.injEq] at refused
    exact refused.1.symm
  · split at refused
    · rename_i error failed
      simp only [Prod.mk.injEq, Except.error.injEq] at refused
      rw [refused.2] at failed
      unfold preConsumeToken at failed
      repeat' split at failed
      all_goals cases failed
    · simp at refused

def takeToken (info : RelayInfo) (quota : Int) (books : Books) : Books :=
  if 0 < quota ∧ info.isPlayground = false then moveToken info.tokenId (-quota) books else books

@[simp] theorem take_token_db (info : RelayInfo) (quota : Int) (books : Books) :
    (takeToken info quota books).db = books.db := by
  unfold takeToken
  split <;> rfl

theorem pre_consume_token_cases
    (taken : preConsumeToken info useTokenQuota quota books = .ok (after, consumed)) :
    consumed = (if useTokenQuota ∧ 0 < quota then quota else 0) ∧
      after = if useTokenQuota then takeToken info quota books else books := by
  unfold preConsumeToken at taken
  split at taken
  · rename_i unused
    cases taken
    simp_all
  · rename_i used
    have uses : useTokenQuota = true := by simpa using used
    split at taken
    · cases taken
    · split at taken
      · rename_i positive
        split at taken
        · cases taken
        · rename_i moved
          cases taken
          refine ⟨by simp [uses, positive], ?_⟩
          unfold preConsumeTokenQuota at moved
          repeat' split at moved
          all_goals first
            | cases moved
            | skip
          · rename_i played
            simp [uses, takeToken, played]
          · rename_i played _ _ _ _ _ _
            unfold decreaseTokenQuota at moved
            split at moved
            · cases moved
            · simp [uses, takeToken, played, positive, adjust_token_moves moved]
      · rename_i nothing
        cases taken
        simp [uses, takeToken, nothing]

def sessionOf (info : RelayInfo) (funding : FundingSource) (quota : Int) : BillingSession where
  relayInfo := info
  funding := funding
  preConsumedQuota := sessionPreConsumed quota funding
  tokenConsumed := if funding.useTokenQuota ∧ 0 < quota then quota else 0
  billing := syncRelayInfo funding

theorem open_session_cases
    (opened : openSession calendar info funding quota now books = (after, .ok session)) :
    ∃ charged source, funding.preConsume calendar quota now books = .ok (charged, source) ∧
      session = sessionOf info source quota ∧
      after = if source.useTokenQuota then takeToken info quota charged else charged := by
  unfold openSession at opened
  split at opened
  · simp at opened
  · rename_i charged source paid
    split at opened
    · simp at opened
    · rename_i taken
      simp only [Prod.mk.injEq, Except.ok.injEq] at opened
      obtain ⟨consumed, moved⟩ := pre_consume_token_cases taken
      refine ⟨charged, source, paid, ?_, ?_⟩
      · rw [← opened.2, sessionOf, consumed]
      · rw [← opened.1, moved]

def takeWallet (userId quota : Int) (books : Books) : Books :=
  if quota ≤ 0 then books else addUserQuota userId (-quota) books

theorem wallet_opens
    (opened : openSession calendar info (.wallet { userId := info.userId }) quota now books =
      (after, .ok session)) :
    session = sessionOf info
        (.wallet { userId := info.userId, consumed := if quota ≤ 0 then 0 else quota }) quota ∧
      after = takeToken info quota (takeWallet info.userId quota books) := by
  obtain ⟨charged, source, paid, shape, moved⟩ := open_session_cases opened
  simp only [FundingSource.preConsume, WalletFunding.preConsume, decreaseUserQuota] at paid
  by_cases nothing : quota ≤ 0
  · simp only [nothing, if_true, Except.map, Except.ok.injEq, Prod.mk.injEq] at paid
    obtain ⟨rfl, rfl⟩ := paid
    exact ⟨by simp [shape, nothing], by simp [moved, takeWallet, nothing, FundingSource.useTokenQuota]⟩
  · have positive : ¬ quota < 0 := by omega
    simp only [nothing, positive, if_false, Except.map, Except.ok.injEq, Prod.mk.injEq] at paid
    obtain ⟨rfl, rfl⟩ := paid
    exact ⟨by simp [shape, nothing], by simp [moved, takeWallet, nothing, FundingSource.useTokenQuota]⟩

def fundingOf (request : PreConsumeRequest) (res : PreConsumeResult) : SubscriptionFunding where
  request := request
  subscriptionId := res.userSubscriptionId
  preConsumed := res.preConsumed
  preConsumedCnt := res.preConsumedCount
  resourceType := res.resourceType
  amountTotal := res.amountTotal
  resetWindowStart := res.resetWindowStart
  resetWindowEnd := res.resetWindowEnd
  requestCountTotal := res.requestCountTotal

theorem subscription_opens
    (opened : openSession calendar info (.subscription { request := request }) quota now books =
      (after, .ok session)) :
    ∃ db res, preConsumeUserSubscriptionWithPreference calendar request now books.db =
        .ok (db, res) ∧
      session = sessionOf info (.subscription (fundingOf request res)) quota ∧
      after = if 0 < res.amountTotal then takeToken info quota { books with db := db }
        else { books with db := db } := by
  obtain ⟨charged, source, paid, shape, moved⟩ := open_session_cases opened
  simp only [FundingSource.preConsume, SubscriptionFunding.preConsume] at paid
  cases charge : preConsumeUserSubscriptionWithPreference calendar request now books.db with
  | error error => simp [charge, Except.map] at paid
  | ok result =>
    simp only [charge, Except.map, Except.ok.injEq, Prod.mk.injEq] at paid
    obtain ⟨rfl, rfl⟩ := paid
    refine ⟨result.1, result.2, rfl, shape, ?_⟩
    simpa [FundingSource.useTokenQuota] using moved

theorem try_wallet_ok (opened : tryWallet calendar info quota now books = (after, .ok session)) :
    openSession calendar info (.wallet { userId := info.userId })
      (effectiveQuota info quota books) now books = (after, .ok session) := by
  unfold tryWallet at opened
  split at opened
  · simp at opened
  · split at opened
    · simp at opened
    · exact opened

theorem try_wallet_insufficient
    (refused : tryWallet calendar info quota now books = (after, .error .insufficientUserQuota)) :
    after = books := by
  unfold tryWallet at refused
  split at refused
  · simp only [Prod.mk.injEq] at refused
    exact refused.1.symm
  · split at refused
    · simp only [Prod.mk.injEq] at refused
      exact refused.1.symm
    · exact insufficient_unchanged refused

theorem or_else_cases {first : Outcome} {second : Books → Outcome}
    (tried : orElseInsufficient first second = outcome) :
    (first = outcome ∧ ¬ ∃ charged, first = (charged, .error .insufficientUserQuota)) ∨
      ∃ charged, first = (charged, .error .insufficientUserQuota) ∧ second charged = outcome := by
  unfold orElseInsufficient at tried
  split at tried
  · exact .inr ⟨_, rfl, tried⟩
  · rename_i other
    exact .inl ⟨tried, fun ⟨charged, refused⟩ => other charged refused⟩

theorem new_session_tries
    (tried : newBillingSession calendar preference info quota now books = outcome) :
    tryWallet calendar info quota now books = outcome ∨
      trySubscription calendar info quota now books = outcome := by
  unfold newBillingSession at tried
  dsimp only at tried
  cases preference with
  | subscriptionOnly => exact .inr tried
  | walletOnly => exact .inl tried
  | walletFirst =>
    rcases or_else_cases tried with ⟨first, -⟩ | ⟨charged, refused, second⟩
    · exact .inl first
    · rw [try_wallet_insufficient refused] at second
      exact .inr second
  | subscriptionFirst =>
    dsimp only at tried
    split at tried
    · rcases or_else_cases tried with ⟨first, -⟩ | ⟨charged, refused, second⟩
      · exact .inr first
      · rw [insufficient_unchanged refused] at second
        exact .inl second
    · exact .inl tried

theorem new_session_cases
    (opened : newBillingSession calendar preference info quota now books = (after, .ok session)) :
    openSession calendar info (.wallet { userId := info.userId })
        (effectiveQuota info quota books) now books = (after, .ok session) ∨
      openSession calendar info
        (.subscription { request := { info.request with amount := subConsume quota } })
        (subConsume quota) now books = (after, .ok session) := by
  rcases new_session_tries opened with wallet | subscription
  · exact .inl (try_wallet_ok wallet)
  · exact .inr subscription

end Opens

/-! ## Settlement -/

def BillingSession.released (session : BillingSession) : BillingSession :=
  { session with
    preConsumedQuota := 0
    tokenConsumed := 0
    fundingSettled := true
    settled := true
    billing := { session.billing with
      subscriptionPreConsumed := 0
      subscriptionPreConsumedAmount := 0
      subscriptionPreConsumedCount := 0 } }

def BillingSession.settleUnused (session : BillingSession) (sub : SubscriptionFunding) (now : Int)
    (books : Books) : Books × BillingSession :=
  match sub.refund now books with
  | .error _ => (books, session)
  | .ok books =>
    if session.funding.useTokenQuota && !session.relayInfo.isPlayground &&
        session.tokenConsumed > 0 then
      match increaseTokenQuota session.relayInfo.tokenId session.tokenConsumed books with
      | .error _ => (books, session)
      | .ok books => (books, session.released)
    else (books, session.released)

def BillingSession.settleFunding (session : BillingSession) (actualQuota now : Int)
    (books : Books) : Except FundingError Books :=
  let fundingDelta := session.funding.settleDelta actualQuota session.preConsumedQuota
  if !session.fundingSettled && fundingDelta ≠ 0 then session.funding.settle fundingDelta now books
  else .ok books

def BillingSession.settleToken (session : BillingSession) (actualQuota : Int) (books : Books) :
    Books :=
  let tokenDelta := actualQuota - session.tokenConsumed
  if session.funding.useTokenQuota && !session.relayInfo.isPlayground then
    if tokenDelta > 0 then
      (decreaseTokenQuota session.relayInfo.tokenId tokenDelta books).toOption.getD books
    else if tokenDelta < 0 then
      (increaseTokenQuota session.relayInfo.tokenId (-tokenDelta) books).toOption.getD books
    else books
  else books

/-- `BillingSession.Settle`, up to the error, which the caller only logs. -/
def BillingSession.settle (session : BillingSession) (actualQuota now : Int) (books : Books) :
    Books × BillingSession :=
  if session.settled then (books, session)
  else match session.funding with
  | .subscription sub =>
    if sub.resourceType = .requestCount ∧ actualQuota ≤ 0 then session.settleUnused sub now books
    else match session.settleFunding actualQuota now books with
    | .error _ => (books, session)
    | .ok books => (session.settleToken actualQuota books,
        { session with fundingSettled := true, settled := true })
  | .wallet _ =>
    match session.settleFunding actualQuota now books with
    | .error _ => (books, session)
    | .ok books => (session.settleToken actualQuota books,
        { session with fundingSettled := true, settled := true })

/-! ## Refund -/

/-- `BillingSession.needsRefundLocked`. -/
def BillingSession.needsRefund (session : BillingSession) : Bool :=
  if session.settled || session.refunded || session.fundingSettled then false
  else if session.tokenConsumed > 0 then true
  else match session.funding with
  | .subscription sub => sub.preConsumed > 0 || sub.preConsumedCnt > 0
  | .wallet _ => false

def BillingSession.refundToken (session : BillingSession) (books : Books) : Books :=
  if session.tokenConsumed > 0 && !session.relayInfo.isPlayground then
    (increaseTokenQuota session.relayInfo.tokenId session.tokenConsumed books).toOption.getD books
  else books

theorem refund_token_db (session : BillingSession) (books : Books) :
    (session.refundToken books).db = books.db := by
  unfold BillingSession.refundToken increaseTokenQuota adjustTokenQuota
  repeat' split
  all_goals simp [Except.toOption]

/-- `BillingSession.Refund`, with the routine it starts. -/
def BillingSession.refund (session : BillingSession) (now : Int) (books : Books) : Books × BillingSession :=
  if session.settled || session.refunded || !session.needsRefund then (books, session)
  else (session.refundToken (rollBack session.funding now books),
    { session with refunded := true })

/-! ### What a refund gives back -/

section Refunds
variable {now : Int}
variable {tables : Database} {sub : UserSubscription}

/-- The tables after the refund of a session's subscription. A second refund
changes nothing. -/
structure Refunded (funding : SubscriptionFunding) (sub : UserSubscription)
    (charged final : Database) : Prop where
  users : final.users = charged.users
  row : ∃ row, final.subscription sub.id = some row ∧ SameUsage sub row ∧
    row.amountTotal = sub.amountTotal ∧ row.lastResetTime = sub.lastResetTime
  others : ∀ id, id ≠ sub.id → final.subscription id = charged.subscription id
  again : ∀ books now, books.db = final → funding.refund now books = .ok books

theorem subscription_refunds (books : Books)
    (charged : ChargedTo calendar request now db tables sub result) (counted : Counted sub)
    (restores : (chargeRecord request sub now).preConsumedCount = 0 ∨ ¬ Stray sub)
    (later : Int) (held : books.db = result.1) :
    ∃ final, (fundingOf request result.2).refund later books = .ok { books with db := final } ∧
      Refunded (fundingOf request result.2) sub result.1 final := by
  by_cases empty : result.2.preConsumed ≤ 0 ∧ result.2.preConsumedCount ≤ 0
  · have nothing : ∀ books now, (fundingOf request result.2).refund now books = .ok books :=
      fun _ _ => if_pos empty
    refine ⟨result.1, ?_, rfl, ⟨chargedRow request sub now, ?_, ?_, rfl, rfl⟩, fun _ _ => rfl,
      fun books now _ => nothing books now⟩
    · rw [nothing, ← held]
    · rw [charged_rows charged, if_pos rfl]
    · rw [charged.answer] at empty
      obtain ⟨noSum, noCount⟩ := empty
      have noAmount : (chargeRecord request sub now).preConsumedAmount ≤ 0 := by
        simp only [acceptedResult, acceptedRecord] at noSum
        simp only [chargeRecord, acceptedRecord]
        split at noSum <;> omega
      exact empty_charge_kept charged.positive noAmount noCount
  · obtain ⟨final, refunded, back⟩ := charge_refunded later charged counted restores
    obtain ⟨record, marked, status, key⟩ := back.record
    refine ⟨final, ?_, back.users, back.row, back.others, fun books now same => ?_⟩
    · simp only [SubscriptionFunding.refund, fundingOf, empty, if_false, held, refunded]
    · have settled : refundSubscriptionPreConsume request.requestId now books.db = .ok books.db := by
        rw [same, ← key]
        exact refund_again (key ▸ charged.given) (key ▸ marked) status
      simp only [SubscriptionFunding.refund, fundingOf, empty, if_false, settled]

end Refunds

end NewApi.RequestBilling
