import NewApi.RequestBilling

/-! The calls on an open session, settlements and refunds in any order. The
first one should decide: a settlement leaves its sources charged with what it
was told, a refund leaves them as before the session, and nothing later has an
effect. A settlement does not look at whether the session was refunded. -/
namespace NewApi.BillingCalls
open NewApi.GuardedRun NewApi.KeyedTable
open NewApi.GoText (trimSpace)
open NewApi.ResetWindow NewApi.Subscription
open NewApi.SubscriptionStore hiding step Event
open NewApi.RequestCharge NewApi.RequestBilling
open NewApi.RefundWindow (Charged accepted_charged SubtractsExactly)

/-! ## Calls -/

inductive Call where
  | settle (actualQuota now : Int)
  | refund (now : Int)

def call (state : Books × BillingSession) : Call → Books × BillingSession
  | .settle actualQuota now => state.2.settle actualQuota now state.1
  | .refund now => state.2.refund now state.1

/-! ## What the calls owe -/

def chargesToken (session : BillingSession) : Bool :=
  session.funding.useTokenQuota && !session.relayInfo.isPlayground

def FundingPaid (funding : FundingSource) (before opened books : Books) (paid : Int) : Prop :=
  match funding with
  | .wallet wallet => books.userQuota wallet.userId = before.userQuota wallet.userId - paid
  | .subscription sub => ∀ record row, opened.db.record sub.request.requestId = some record →
    opened.db.subscription sub.subscriptionId = some row →
    ∃ now, books.db.subscription sub.subscriptionId = some now ∧
      now.amountUsed = row.amountUsed - record.preConsumedAmount + paid

def TokenPaid (session : BillingSession) (before books : Books) (paid : Int) : Prop :=
  books.tokenBalance session.relayInfo.tokenId =
    (before.tokenBalance session.relayInfo.tokenId).map fun held => (held.1 - paid, held.2 + paid)

def ChargeBack (funding : FundingSource) (opened books : Books) : Prop :=
  match funding with
  | .wallet _ => True
  | .subscription sub => ∀ record row, opened.db.record sub.request.requestId = some record →
    opened.db.subscription sub.subscriptionId = some row →
    ∃ now, books.db.subscription sub.subscriptionId = some now ∧ SubtractsExactly record row now

/-- Nothing has moved: the wallet, the counters of the subscription, and the
token. -/
structure Unmoved (session : BillingSession) (before after : Books) : Prop where
  wallet : after.userQuota session.relayInfo.userId = before.userQuota session.relayInfo.userId
  rows : ∀ id row, before.db.subscription id = some row →
    ∃ same, after.db.subscription id = some same ∧ SameUsage row same
  token : after.tokenBalance session.relayInfo.tokenId = before.tokenBalance session.relayInfo.tokenId

def FirstDecides (session : BillingSession) (before opened after : Books) : Call → Prop
  | .settle actualQuota _ =>
    FundingPaid session.funding before opened after
        (if session.funding.useTokenQuota then actualQuota else 0) ∧
      TokenPaid session before after (if chargesToken session then actualQuota else 0)
  | .refund _ =>
    FundingPaid session.funding before opened after 0 ∧ ChargeBack session.funding opened after ∧
      TokenPaid session before after 0

/-- The call gives the whole charge back: a refund does, and a settlement of
nothing where requests are counted. -/
def GivesBack (session : BillingSession) : Call → Prop
  | .refund _ => True
  | .settle actualQuota _ =>
    match session.funding with
    | .wallet _ => False
    | .subscription sub => sub.resourceType = .requestCount ∧ actualQuota ≤ 0

def DecidedOnce (session : BillingSession) (before opened : Books) : List Call → Prop
  | [] => True
  | first :: rest =>
    FirstDecides session before opened (call (opened, session) first).1 first ∧
      (GivesBack session first → ChargeBack session.funding opened (call (opened, session) first).1) ∧
      ∀ done, done <+: rest → Unmoved session (call (opened, session) first).1
        (run call (call (opened, session) first) done).1

/-! ## When they do -/

/-- A refund takes back what was charged: no request was counted on the row of
the session, or the row holds no stray count. -/
def Restores (session : BillingSession) (opened : Books) : Prop :=
  match session.funding with
  | .wallet _ => True
  | .subscription sub => sub.preConsumedCnt = 0 ∨
    ∀ row, opened.db.subscription sub.subscriptionId = some row → ¬ Stray row

def RoomFor (sub : SubscriptionFunding) (opened : Books) (actualQuota : Int) : Prop :=
  ∀ row, opened.db.subscription sub.subscriptionId = some row →
    if leftWindow row sub.resetWindowStart sub.resetWindowEnd then actualQuota = sub.preConsumed
    else 0 ≤ row.amountUsed - sub.preConsumed + actualQuota ∧
      row.amountUsed - sub.preConsumed + actualQuota ≤ row.amountTotal

def SettlesFirst (session : BillingSession) (opened : Books) (actualQuota : Int) : Prop :=
  match session.funding with
  | .wallet _ => 0 ≤ session.preConsumedQuota
  | .subscription sub => sub.amountTotal ≤ 0 ∨
    if sub.resourceType = .requestCount ∧ actualQuota ≤ 0 then actualQuota = 0
    else RoomFor sub opened actualQuota

def RefusedAfterRefund (session : BillingSession) (opened : Books) (actualQuota : Int) : Prop :=
  match session.funding with
  | .wallet _ => False
  | .subscription sub => 0 < sub.amountTotal ∧
    ¬ (sub.resourceType = .requestCount ∧ actualQuota ≤ 0) ∧
    ∃ row, opened.db.subscription sub.subscriptionId = some row ∧
      leftWindow row sub.resetWindowStart sub.resetWindowEnd = false ∧
      row.amountTotal < row.amountUsed - 2 * sub.preConsumed + actualQuota

def IdleAfterRefund (session : BillingSession) (opened : Books) (actualQuota : Int) : Prop :=
  match session.funding with
  | .wallet _ => actualQuota = session.preConsumedQuota ∧
    (session.relayInfo.isPlayground = true ∨ actualQuota = session.tokenConsumed)
  | .subscription sub => sub.amountTotal ≤ 0 ∨ actualQuota = sub.preConsumed ∨
    (session.relayInfo.isPlayground = true ∧
      ((sub.resourceType = .requestCount ∧ actualQuota ≤ 0) ∨
        ∀ row, opened.db.subscription sub.subscriptionId = some row →
          leftWindow row sub.resetWindowStart sub.resetWindowEnd = true ∨
            (row.amountUsed = sub.preConsumed ∧ actualQuota ≤ sub.preConsumed)))

def NoneSettles (session : BillingSession) (opened : Books) : List Call → Prop
  | [] => True
  | .refund _ :: rest => NoneSettles session opened rest
  | .settle actualQuota _ :: rest =>
    (RefusedAfterRefund session opened actualQuota → NoneSettles session opened rest) ∧
      (¬ RefusedAfterRefund session opened actualQuota → IdleAfterRefund session opened actualQuota)

def Orderly (session : BillingSession) (opened : Books) : List Call → Prop
  | [] => True
  | .settle actualQuota _ :: _ => SettlesFirst session opened actualQuota
  | .refund _ :: rest => NoneSettles session opened rest

/-! ## The token -/

section Calls
variable {info : RelayInfo} {quota : Int}
variable {before opened books : Books} {session : BillingSession}

theorem settled_call (settled : session.settled = true) (next : Call) :
    call (books, session) next = (books, session) := by
  cases next with
  | settle actualQuota now => simp [call, BillingSession.settle, settled]
  | refund now => simp [call, BillingSession.refund, settled]

theorem settled_run (settled : session.settled = true) (calls : List Call) :
    run call (books, session) calls = (books, session) := by
  induction calls with
  | nil => rfl
  | cons next rest ih => rw [run_cons, settled_call settled, ih]

theorem unmoved_refl (session : BillingSession) (books : Books) : Unmoved session books books :=
  ⟨rfl, fun _ row found => ⟨row, found, same_usage_refl row⟩, rfl⟩

def TokenStored (info : RelayInfo) (books : Books) : Prop :=
  info.isPlayground = false → 0 < info.tokenId ∧ (books.token info.tokenId).isSome

theorem token_stored_move (id delta : Int) (stored : TokenStored info books) :
    TokenStored info (moveToken id delta books) := by
  intro charged
  obtain ⟨positive, held⟩ := stored charged
  refine ⟨positive, ?_⟩
  rw [move_token_token]
  split
  · simpa using held
  · exact held

theorem token_paid_trans {first : Books}
    (one : TokenPaid session first second paid) (two : TokenPaid session second third more) :
    TokenPaid session first third (paid + more) := by
  rw [TokenPaid, two, one, Option.map_map]
  congr 1
  funext held
  simp only [Function.comp_apply, Prod.mk.injEq]
  omega

theorem decided_settled
    (settles : call (opened, session) (.settle actualQuota now) = (after, ended))
    (settled : ended.settled = true) (rest : List Call) :
    DecidedOnce session before opened (.settle actualQuota now :: rest) ↔
      (FundingPaid session.funding before opened after
          (if session.funding.useTokenQuota then actualQuota else 0) ∧
        TokenPaid session before after (if chargesToken session then actualQuota else 0)) ∧
      (GivesBack session (.settle actualQuota now) → ChargeBack session.funding opened after) := by
  simp only [DecidedOnce, FirstDecides, settles, settled_run settled]
  exact ⟨fun decided => ⟨decided.1, decided.2.1⟩,
    fun paid => ⟨paid.1, paid.2, fun _ _ => unmoved_refl session after⟩⟩

theorem settle_token_moves (actualQuota : Int) (stored : TokenStored session.relayInfo books) :
    session.settleToken actualQuota books =
      if chargesToken session ∧ actualQuota ≠ session.tokenConsumed then
        moveToken session.relayInfo.tokenId (session.tokenConsumed - actualQuota) books
      else books := by
  unfold BillingSession.settleToken
  by_cases charged : chargesToken session = true
  · have played : session.relayInfo.isPlayground = false := by
      simp only [chargesToken, Bool.and_eq_true, Bool.not_eq_true'] at charged
      exact charged.2
    obtain ⟨positive, held⟩ := stored played
    have used : (session.funding.useTokenQuota && !session.relayInfo.isPlayground) = true := charged
    have moved : ∀ delta : Int, adjustTokenQuota session.relayInfo.tokenId delta books =
        .ok (moveToken session.relayInfo.tokenId delta books) :=
      fun delta => adjust_token_ok positive held
    have back : -(actualQuota - session.tokenConsumed) = session.tokenConsumed - actualQuota := by
      omega
    simp only [used, if_true, charged, true_and]
    by_cases up : actualQuota - session.tokenConsumed > 0
    · have positive : ¬ actualQuota - session.tokenConsumed < 0 := by omega
      have other : actualQuota ≠ session.tokenConsumed := by omega
      simp only [up, other, if_true, decreaseTokenQuota, positive, if_false, moved, back,
        Except.toOption, Option.getD_some, ne_eq, not_false_eq_true]
    · by_cases down : actualQuota - session.tokenConsumed < 0
      · have positive : ¬ session.tokenConsumed - actualQuota < 0 := by omega
        have other : actualQuota ≠ session.tokenConsumed := by omega
        simp only [up, down, other, if_true, increaseTokenQuota, back, positive, if_false, moved,
          Except.toOption, Option.getD_some, ne_eq, not_false_eq_true]
      · have same : actualQuota = session.tokenConsumed := by omega
        simp [same]
  · have unused : ¬ (session.funding.useTokenQuota && !session.relayInfo.isPlayground) = true :=
      charged
    simp [unused, charged]

theorem settle_token_paid (actualQuota : Int) (stored : TokenStored session.relayInfo books) :
    (session.settleToken actualQuota books).db = books.db ∧
      TokenPaid session books (session.settleToken actualQuota books)
        (if chargesToken session then actualQuota - session.tokenConsumed else 0) := by
  rw [settle_token_moves actualQuota stored]
  constructor
  · split <;> rfl
  · rw [TokenPaid]
    by_cases moves : chargesToken session = true ∧ actualQuota ≠ session.tokenConsumed
    · rw [if_pos moves, if_pos moves.1, move_token_balance, if_pos rfl]
      congr 1
      funext held
      simp only [Prod.mk.injEq]
      omega
    · have nothing : (if chargesToken session then actualQuota - session.tokenConsumed else 0) =
          0 := by
        split
        · have same : actualQuota = session.tokenConsumed := by
            by_contra other
            exact moves ⟨‹_›, other⟩
          omega
        · rfl
      rw [if_neg moves, nothing]
      cases books.tokenBalance session.relayInfo.tokenId <;> simp

theorem subscription_settle (books : Books) (session : BillingSession)
    (source : session.funding = .subscription funding) (open_ : session.settled = false)
    (used : ¬ (funding.resourceType = .requestCount ∧ actualQuota ≤ 0))
    (now : Int) :
    call (books, session) (.settle actualQuota now) =
      match session.settleFunding actualQuota now books with
      | .error _ => (books, session)
      | .ok paid => (session.settleToken actualQuota paid,
          { session with fundingSettled := true, settled := true }) := by
  cases paid : session.settleFunding actualQuota now books with
  | error | ok =>
    simp only [call, BillingSession.settle, open_, source, used, paid, if_false, Bool.false_eq_true]

theorem settle_unused (session : BillingSession)
    (refund : funding.refund now books = .ok after) (stored : TokenStored session.relayInfo after) :
    session.settleUnused funding now books =
      (if chargesToken session ∧ 0 < session.tokenConsumed then
        moveToken session.relayInfo.tokenId session.tokenConsumed after else after,
        session.released) := by
  unfold BillingSession.settleUnused
  simp only [refund]
  by_cases moves : chargesToken session = true ∧ 0 < session.tokenConsumed
  · have charges : (session.funding.useTokenQuota && !session.relayInfo.isPlayground) = true :=
      moves.1
    have played : session.relayInfo.isPlayground = false := by
      simp only [Bool.and_eq_true, Bool.not_eq_true'] at charges
      exact charges.2
    obtain ⟨positive, known⟩ := stored played
    have nonnegative : ¬ session.tokenConsumed < 0 := by omega
    have consumed : (session.tokenConsumed > 0) = True := eq_true moves.2
    rw [if_pos moves]
    simp only [charges, Bool.true_and, consumed, decide_true, if_true, increaseTokenQuota,
      nonnegative, if_false, adjust_token_ok positive known]
  · have unmoved : ¬ (session.funding.useTokenQuota && !session.relayInfo.isPlayground &&
        decide (session.tokenConsumed > 0)) = true := by
      simpa [chargesToken, and_assoc] using moves
    rw [if_neg moves, if_neg unmoved]

theorem token_given_back (same : after.tokens = books.tokens)
    (nonnegative : 0 ≤ session.tokenConsumed) :
    TokenPaid session books
      (if chargesToken session ∧ 0 < session.tokenConsumed then
        moveToken session.relayInfo.tokenId session.tokenConsumed after else after)
      (if chargesToken session then -session.tokenConsumed else 0) := by
  have balance : after.tokenBalance session.relayInfo.tokenId =
      books.tokenBalance session.relayInfo.tokenId := by
    simp only [Books.tokenBalance, Books.token, same]
  rw [TokenPaid]
  by_cases moves : chargesToken session = true ∧ 0 < session.tokenConsumed
  · rw [if_pos moves, if_pos moves.1, move_token_balance, if_pos rfl, balance]
    congr 1
    funext held
    simp only [Prod.mk.injEq]
    omega
  · have nothing : (if chargesToken session then -session.tokenConsumed else 0) = 0 := by
      split
      · have none_taken : ¬ 0 < session.tokenConsumed := fun taken => moves ⟨‹_›, taken⟩
        omega
      · rfl
    rw [if_neg moves, nothing, balance]
    cases books.tokenBalance session.relayInfo.tokenId <;> simp

theorem refund_token_moves (stored : TokenStored session.relayInfo books)
    (uses : 0 < session.tokenConsumed → session.funding.useTokenQuota = true) :
    session.refundToken books =
      if chargesToken session ∧ 0 < session.tokenConsumed then
        moveToken session.relayInfo.tokenId session.tokenConsumed books
      else books := by
  unfold BillingSession.refundToken
  by_cases consumed : 0 < session.tokenConsumed
  · have used := uses consumed
    by_cases played : session.relayInfo.isPlayground = true
    · simp [chargesToken, played]
    · have charged : session.relayInfo.isPlayground = false := by simpa using played
      obtain ⟨positive, held⟩ := stored charged
      have nonnegative : ¬ session.tokenConsumed < 0 := by omega
      simp [chargesToken, consumed, charged, used, increaseTokenQuota, nonnegative,
        adjust_token_ok positive held, Except.toOption]
  · simp [consumed]

/-! ## A wallet -/

structure WalletSession (info : RelayInfo) (quota : Int) (before opened : Books)
    (session : BillingSession) : Prop where
  shape : session = sessionOf info
    (.wallet { userId := info.userId, consumed := if quota ≤ 0 then 0 else quota }) quota
  taken : opened = takeToken info quota (takeWallet info.userId quota before)
  user : (lookup User.id before.db.users info.userId).isSome
  token : TokenStored info before

structure Balances (info : RelayInfo) (before after : Books) (paid tokenPaid : Int) : Prop where
  wallet : after.userQuota info.userId = before.userQuota info.userId - paid
  token : after.tokenBalance info.tokenId =
    (before.tokenBalance info.tokenId).map fun held => (held.1 - tokenPaid, held.2 + tokenPaid)
  rows : after.db.subscriptions = before.db.subscriptions
  user : (lookup User.id after.db.users info.userId).isSome
  stored : TokenStored info after

theorem balances_refl (user : (lookup User.id books.db.users info.userId).isSome)
    (stored : TokenStored info books) : Balances info books books 0 0 := by
  refine ⟨by simp, ?_, rfl, user, stored⟩
  cases books.tokenBalance info.tokenId <;> simp

theorem balances_trans {first : Books}
    (one : Balances info first second paid tokenPaid)
    (two : Balances info second third more tokenMore) :
    Balances info first third (paid + more) (tokenPaid + tokenMore) := by
  refine ⟨?_, ?_, two.rows.trans one.rows, two.user, two.stored⟩
  · rw [two.wallet, one.wallet]
    omega
  · rw [two.token, one.token, Option.map_map]
    congr 1
    funext held
    simp only [Function.comp_apply, Prod.mk.injEq]
    omega

theorem balances_add_quota (delta : Int) (user : (lookup User.id books.db.users info.userId).isSome)
    (stored : TokenStored info books) :
    Balances info books (addUserQuota info.userId delta books) (-delta) 0 := by
  refine ⟨?_, ?_, rfl, ?_, stored⟩
  · rw [add_quota_self user]
    omega
  · rw [add_quota_balance]
    cases books.tokenBalance info.tokenId <;> simp
  · rw [add_quota_user, if_pos rfl]
    simpa using user

theorem balances_move_token (delta : Int)
    (user : (lookup User.id books.db.users info.userId).isSome) (stored : TokenStored info books) :
    Balances info books (moveToken info.tokenId delta books) 0 (-delta) := by
  refine ⟨by simp, ?_, rfl, user, token_stored_move _ _ stored⟩
  rw [move_token_balance, if_pos rfl]
  congr 1
  funext held
  simp only [Prod.mk.injEq]
  omega

theorem settle_balances (session : BillingSession) (actualQuota : Int)
    (user : (lookup User.id books.db.users info.userId).isSome) (stored : TokenStored info books) :
    Balances info books
      (if chargesToken session ∧ actualQuota ≠ session.tokenConsumed then
        moveToken info.tokenId (session.tokenConsumed - actualQuota) books else books)
      0 (if chargesToken session then actualQuota - session.tokenConsumed else 0) := by
  by_cases charged : chargesToken session = true
  · by_cases same : actualQuota = session.tokenConsumed
    · simpa [same] using balances_refl user stored
    · have moved := balances_move_token (session.tokenConsumed - actualQuota) user stored
      rw [Int.neg_sub] at moved
      simpa [charged, same] using moved
  · simpa [charged] using balances_refl user stored

theorem wallet_settles (session : BillingSession) (funding : session.funding = .wallet wallet)
    (mine : wallet.userId = info.userId) (relay : session.relayInfo = info)
    (open_ : session.settled = false) (unsettled : session.fundingSettled = false)
    (user : (lookup User.id books.db.users info.userId).isSome) (stored : TokenStored info books)
    (actualQuota now : Int) :
    ∃ after, call (books, session) (.settle actualQuota now) =
        (after, { session with fundingSettled := true, settled := true }) ∧
      Balances info books after (actualQuota - session.preConsumedQuota)
        (if chargesToken session then actualQuota - session.tokenConsumed else 0) := by
  have paid : ∃ middle, session.settleFunding actualQuota now books = .ok middle ∧
      Balances info books middle (actualQuota - session.preConsumedQuota) 0 := by
    unfold BillingSession.settleFunding
    simp only [unsettled, funding, FundingSource.settleDelta, Bool.not_false, Bool.true_and,
      decide_eq_true_eq, ne_eq]
    by_cases same : actualQuota - session.preConsumedQuota = 0
    · refine ⟨books, by simp [same], ?_⟩
      rw [same]
      exact balances_refl user stored
    · have moved := balances_add_quota (-(actualQuota - session.preConsumedQuota)) user stored
      rw [Int.neg_neg] at moved
      refine ⟨_, ?_, moved⟩
      by_cases up : actualQuota - session.preConsumedQuota > 0
      · have positive : ¬ actualQuota - session.preConsumedQuota < 0 := by omega
        simp only [same, not_false_eq_true, if_true, FundingSource.settle, up, decreaseUserQuota,
          positive, if_false, Except.mapError, mine]
      · have positive : ¬ -(actualQuota - session.preConsumedQuota) < 0 := by omega
        simp only [same, not_false_eq_true, if_true, FundingSource.settle, up, increaseUserQuota,
          positive, if_false, Except.mapError, mine]
  obtain ⟨middle, settled, wallet_⟩ := paid
  refine ⟨session.settleToken actualQuota middle, ?_, ?_⟩
  · simp [call, BillingSession.settle, open_, funding, settled]
  · rw [settle_token_moves actualQuota (relay ▸ wallet_.stored), relay]
    have token := settle_balances session actualQuota wallet_.user wallet_.stored
    simpa using balances_trans wallet_ token

theorem wallet_refunds (funding : session.funding = .wallet wallet)
    (mine : wallet.userId = info.userId) (relay : session.relayInfo = info)
    (open_ : session.settled = false) (unsettled : session.fundingSettled = false)
    (pending : session.refunded = false) (consumed : wallet.consumed = session.tokenConsumed)
    (nonnegative : 0 ≤ session.tokenConsumed)
    (user : (lookup User.id books.db.users info.userId).isSome) (stored : TokenStored info books)
    (now : Int) :
    ∃ after, call (books, session) (.refund now) =
        (after, { session with refunded := decide (0 < session.tokenConsumed) }) ∧
      Balances info books after (-session.tokenConsumed)
        (if chargesToken session then -session.tokenConsumed else 0) := by
  by_cases taken : 0 < session.tokenConsumed
  · have back := balances_add_quota session.tokenConsumed user stored
    have rolled : rollBack session.funding now books =
        addUserQuota info.userId session.tokenConsumed books := by
      have positive : ¬ session.tokenConsumed ≤ 0 := by omega
      have given : ¬ session.tokenConsumed < 0 := by omega
      simp only [rollBack, funding, FundingSource.refund, WalletFunding.refund, consumed, positive,
        if_false, increaseUserQuota, given, Except.mapError, Except.toOption, Option.getD_some, mine]
    have uses : 0 < session.tokenConsumed → session.funding.useTokenQuota = true :=
      fun _ => by rw [funding]; rfl
    refine ⟨session.refundToken (rollBack session.funding now books), ?_, ?_⟩
    · simp [call, BillingSession.refund, BillingSession.needsRefund, open_, pending, unsettled, taken]
    · rw [rolled, refund_token_moves (relay ▸ back.stored) uses, relay]
      by_cases charged : chargesToken session = true
      · have moved := balances_trans back (balances_move_token session.tokenConsumed back.user
          back.stored)
        simpa [charged, taken] using moved
      · simpa [charged] using back
  · have nothing : session.tokenConsumed = 0 := by omega
    have same : { session with refunded := decide (0 < session.tokenConsumed) } = session := by
      cases session
      simp_all
    refine ⟨books, ?_, ?_⟩
    · rw [same]
      simp [call, BillingSession.refund, BillingSession.needsRefund, open_, pending, unsettled,
        nothing, funding]
    · simpa [nothing] using balances_refl user stored

theorem token_same_iff (relay : session.relayInfo = info)
    (moved : TokenPaid session books after paid) (stored : TokenStored info books)
    (played : info.isPlayground = true → paid = 0) :
    after.tokenBalance session.relayInfo.tokenId = books.tokenBalance session.relayInfo.tokenId ↔
      paid = 0 := by
  rw [TokenPaid] at moved
  rw [moved, relay]
  constructor
  · intro token
    by_cases free : info.isPlayground = true
    · exact played free
    · obtain ⟨-, held⟩ := stored (by simpa using free)
      obtain ⟨row, found⟩ := Option.isSome_iff_exists.mp held
      rw [Books.tokenBalance, found] at token
      simp only [Option.map_some, Option.some.injEq, Prod.mk.injEq] at token
      omega
  · rintro rfl
    cases books.tokenBalance info.tokenId <;> simp

theorem unmoved_iff (relay : session.relayInfo = info)
    (moved : Balances info books before paid tokenPaid) (stored : TokenStored info books)
    (played : info.isPlayground = true → tokenPaid = 0) :
    Unmoved session books before ↔ paid = 0 ∧ tokenPaid = 0 := by
  have token : TokenPaid session books before tokenPaid := by
    rw [TokenPaid, relay]
    exact moved.token
  have kept := moved.wallet
  rw [← token_same_iff relay token stored played]
  constructor
  · rintro ⟨wallet, -, same⟩
    rw [relay] at wallet
    exact ⟨by omega, same⟩
  · rintro ⟨rfl, same⟩
    refine ⟨?_, fun id row found => ⟨row, ?_, same_usage_refl row⟩, same⟩
    · rw [relay, kept]
      omega
    · simpa [Database.subscription, moved.rows] using found

theorem every_prefix_cons {property : List Call → Prop} :
    (∀ done, done <+: next :: rest → property done) ↔
      property [] ∧ ∀ done, done <+: rest → property (next :: done) := by
  constructor
  · intro all
    refine ⟨all [] List.nil_prefix, fun done shorter => all _ ?_⟩
    exact List.cons_prefix_cons.mpr ⟨rfl, shorter⟩
  · rintro ⟨none_done, later⟩ done shorter
    rcases List.prefix_cons_iff.mp shorter with rfl | ⟨tail, rfl, inside⟩
    · exact none_done
    · exact later tail inside

theorem wallet_idle_iff (opened : Books) (funding : session.funding = .wallet wallet)
    (mine : wallet.userId = info.userId) (relay : session.relayInfo = info)
    (open_ : session.settled = false) (unsettled : session.fundingSettled = false)
    (user : (lookup User.id books.db.users info.userId).isSome) (stored : TokenStored info books)
    (given : refunded = true ∨ session.tokenConsumed = 0) (calls : List Call) :
    (∀ done, done <+: calls → Unmoved session books
      (run call (books, { session with refunded := refunded }) done).1) ↔
        NoneSettles session opened calls := by
  induction calls with
  | nil => simpa [NoneSettles] using unmoved_refl session books
  | cons next rest ih =>
    rw [every_prefix_cons]
    cases next with
    | refund now =>
      have same : call (books, { session with refunded := refunded }) (.refund now) =
          (books, { session with refunded := refunded }) := by
        rcases given with again | nothing
        · simp [call, BillingSession.refund, again]
        · simp [call, BillingSession.refund, BillingSession.needsRefund, nothing, funding]
      simp only [run_cons, same, NoneSettles, ← ih, run_nil]
      exact ⟨fun all => all.2, fun all => ⟨unmoved_refl session books, all⟩⟩
    | settle actualQuota now =>
      obtain ⟨after, taken, moved⟩ := wallet_settles { session with refunded := refunded } funding
        mine relay open_ unsettled user stored actualQuota now
      have moved : Balances info books after (actualQuota - session.preConsumedQuota)
        (if chargesToken session then actualQuota - session.tokenConsumed else 0) := moved
      have played : info.isPlayground = true → (if chargesToken session then
          actualQuota - session.tokenConsumed else 0) = 0 := by
        intro free
        simp [chargesToken, relay, free]
      have token : (if chargesToken session then actualQuota - session.tokenConsumed else 0) = 0 ↔
          session.relayInfo.isPlayground = true ∨ actualQuota = session.tokenConsumed := by
        by_cases free : session.relayInfo.isPlayground = true
        · simp [chargesToken, free]
        · have charged : chargesToken session = true := by
            simpa [chargesToken, funding, FundingSource.useTokenQuota] using free
          rw [if_pos charged]
          refine ⟨fun nothing => .inr (by omega), fun either => ?_⟩
          rcases either with played | same
          · exact absurd played free
          · omega
      have idle : Unmoved session books after ↔ IdleAfterRefund session opened actualQuota := by
        rw [unmoved_iff relay moved stored played]
        simp only [IdleAfterRefund, funding]
        exact and_congr (by omega) token
      have refused : ¬ RefusedAfterRefund session opened actualQuota := by
        simp [RefusedAfterRefund, funding]
      have later : ∀ done, (run call (books, { session with refunded := refunded })
          (.settle actualQuota now :: done)).1 = after :=
        fun done => by rw [run_cons, taken, settled_run rfl]
      simp only [later, run_nil, NoneSettles, refused, false_implies, true_and,
        not_false_eq_true, true_implies, ← idle]
      exact ⟨fun all => all.2 [] List.nil_prefix, fun still => ⟨unmoved_refl session books,
        fun _ _ => still⟩⟩

theorem wallet_opening (opening : WalletSession info quota before opened session) :
    Balances info before opened session.tokenConsumed
      (if chargesToken session then session.tokenConsumed else 0) := by
  obtain ⟨rfl, rfl, user, stored⟩ := opening
  by_cases nothing : quota ≤ 0
  · have none_taken : ¬ 0 < quota := by omega
    simpa [takeToken, takeWallet, nothing, none_taken, sessionOf] using balances_refl user stored
  · have positive : 0 < quota := by omega
    have paid := balances_add_quota (-quota) user stored
    rw [Int.neg_neg] at paid
    by_cases played : info.isPlayground = true
    · simpa [takeToken, takeWallet, nothing, positive, sessionOf, chargesToken, played,
        FundingSource.useTokenQuota] using paid
    · have moved := balances_trans paid (balances_move_token (-quota) paid.user paid.stored)
      simpa [takeToken, takeWallet, nothing, positive, sessionOf, chargesToken, played,
        FundingSource.useTokenQuota] using moved

theorem wallet_session_open (opening : WalletSession info quota before opened session) :
    ∃ wallet, session.funding = .wallet wallet ∧ wallet.userId = info.userId ∧
      wallet.consumed = session.tokenConsumed ∧ session.relayInfo = info ∧ session.settled = false ∧
      session.fundingSettled = false ∧ session.refunded = false ∧ session.preConsumedQuota = quota ∧
      session.tokenConsumed = max 0 quota := by
  obtain ⟨rfl, -, -, -⟩ := opening
  refine ⟨_, rfl, rfl, ?_, rfl, rfl, rfl, rfl, rfl, ?_⟩
  all_goals simp only [sessionOf, FundingSource.useTokenQuota, true_and]
  · split <;> split <;> omega
  · split <;> omega

theorem wallet_decided_iff (opening : WalletSession info quota before opened session)
    (calls : List Call) : DecidedOnce session before opened calls ↔ Orderly session opened calls := by
  have took := wallet_opening opening
  obtain ⟨wallet, funding, mine, consumed, relay, open_, unsettled, pending, estimate, taken⟩ :=
    wallet_session_open opening
  cases calls with
  | nil => exact Iff.rfl
  | cons first rest =>
    cases first with
    | settle actualQuota now =>
      obtain ⟨after, settles, moved⟩ := wallet_settles session funding mine relay open_ unsettled
        took.user took.stored actualQuota now
      have total := balances_trans took moved
      have paid : FundingPaid session.funding before opened after actualQuota ↔
          0 ≤ session.preConsumedQuota := by
        have kept := total.wallet
        simp only [FundingPaid, funding, mine]
        omega
      have token : TokenPaid session before after
          (if chargesToken session then actualQuota else 0) := by
        have kept := total.token
        rw [TokenPaid, relay, kept]
        congr 1
        funext held
        split <;> simp only [Prod.mk.injEq] <;> omega
      have uses : session.funding.useTokenQuota = true := by rw [funding]; rfl
      have orderly : Orderly session opened (.settle actualQuota now :: rest) ↔
          0 ≤ session.preConsumedQuota := by simp [Orderly, SettlesFirst, funding]
      rw [orderly, decided_settled settles rfl, uses, if_pos rfl]
      have keeps : ¬ GivesBack session (.settle actualQuota now) := by simp [GivesBack, funding]
      exact ⟨fun decided => paid.mp decided.1.1,
        fun fits => ⟨⟨paid.mpr fits, token⟩, fun gives => absurd gives keeps⟩⟩
    | refund now =>
      obtain ⟨after, refunds, moved⟩ := wallet_refunds funding mine relay open_ unsettled pending
        consumed (by omega) took.user took.stored now
      have total := balances_trans took moved
      have paid : FundingPaid session.funding before opened after 0 := by
        have kept := total.wallet
        simp only [FundingPaid, funding, mine]
        omega
      have token : TokenPaid session before after 0 := by
        have kept := total.token
        rw [TokenPaid, relay, kept]
        congr 1
        funext held
        split <;> simp only [Prod.mk.injEq] <;> omega
      have back : ChargeBack session.funding opened after := by
        rw [funding]
        trivial
      have given : decide (0 < session.tokenConsumed) = true ∨ session.tokenConsumed = 0 := by
        simp only [decide_eq_true_eq]
        omega
      have idle := wallet_idle_iff opened funding mine relay open_ unsettled moved.user moved.stored
        given rest
      simp only [DecidedOnce, FirstDecides, Orderly, refunds, ← idle]
      exact ⟨fun decided => decided.2.2, fun still => ⟨⟨paid, back, token⟩, fun _ => back, still⟩⟩

end Calls

end NewApi.BillingCalls
