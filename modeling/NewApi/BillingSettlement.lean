import NewApi.BillingCalls

/-! The calls on a session that a subscription pays for, and the sessions of
every kind: where a refund takes back what was charged, the first call decides
exactly when the first settlement can be carried out and no settlement that
moves anything comes after a refund. -/
namespace NewApi.BillingSettlement
open NewApi.GuardedRun NewApi.KeyedTable
open NewApi.GoText (trimSpace)
open NewApi.ResetWindow NewApi.Subscription
open NewApi.SubscriptionStore hiding step Event
open NewApi.RequestCharge NewApi.RequestBilling NewApi.BillingCalls
open NewApi.RefundWindow (Charged accepted_charged SubtractsExactly)

variable {calendar : Calendar} {info : RelayInfo} {quota now : Int}
variable {before opened books : Books} {session : BillingSession}
variable {request : PreConsumeRequest} {tables : Database} {sub : UserSubscription}
variable {result : Database × PreConsumeResult}

/-! ## What the session holds -/

theorem charged_amount (charged : ChargedTo calendar request now before.db tables sub result)
    (capped : 0 < sub.amountTotal) :
    (fundingOf request result.2).preConsumed = request.amount ∧
      (chargeRecord request sub now).preConsumedAmount = request.amount := by
  obtain ⟨shape, -⟩ := eligible_room charged.eligible
  have positive := charged.positive
  rw [charged.answer]
  simp [fundingOf, acceptedResult, acceptedRecord, chargeRecord, shape, capped]
  omega

theorem charged_count (charged : ChargedTo calendar request now before.db tables sub result)
    (free : sub.amountTotal ≤ 0) : (chargeRecord request sub now).preConsumedAmount = 0 := by
  obtain ⟨shape, -⟩ := eligible_room charged.eligible
  have none_capped : ¬ 0 < sub.amountTotal := by omega
  simp [acceptedRecord, chargeRecord, shape, none_capped]

theorem funding_row (charged : ChargedTo calendar request now before.db tables sub result) :
    (fundingOf request result.2).subscriptionId = sub.id ∧
      (fundingOf request result.2).amountTotal = sub.amountTotal ∧
      (fundingOf request result.2).resourceType = sub.resourceType := by
  obtain ⟨shape, -⟩ := eligible_room charged.eligible
  rw [charged.answer]
  exact ⟨rfl, rfl, by simp [fundingOf, acceptedResult, shape]⟩

structure SubscriptionSession (calendar : Calendar) (info : RelayInfo) (now : Int)
    (request : PreConsumeRequest) (before : Books) (tables : Database) (sub : UserSubscription)
    (result : Database × PreConsumeResult) (session : BillingSession) (opened : Books) : Prop where
  charged : ChargedTo calendar request now before.db tables sub result
  counted : Counted sub
  stored : TokenStored info before
  funding : session.funding = .subscription (fundingOf request result.2)
  relay : session.relayInfo = info
  settled : session.settled = false
  fundingSettled : session.fundingSettled = false
  refunded : session.refunded = false
  estimate : 0 < sub.amountTotal → session.preConsumedQuota = request.amount
  taken : session.tokenConsumed = if 0 < sub.amountTotal then request.amount else 0
  tables : opened.db = result.1
  paid : TokenPaid session before opened (if chargesToken session then session.tokenConsumed else 0)
  held : TokenStored info opened

theorem session_charges (opening : SubscriptionSession calendar info now request before tables sub
    result session opened) :
    chargesToken session = (decide (0 < sub.amountTotal) && !info.isPlayground) := by
  obtain ⟨-, total, -⟩ := funding_row opening.charged
  simp [chargesToken, opening.funding, FundingSource.useTokenQuota, opening.relay, total]

theorem subscription_opening (unique : (before.db.subscriptions.map UserSubscription.id).Nodup)
    (counted : ∀ sub ∈ before.db.subscriptions, Counted sub)
    (fresh : before.db.record request.requestId = none) (stored : TokenStored info before)
    (opens : openSession calendar info (.subscription { request := request }) request.amount now
      before = (opened, .ok session)) :
    ∃ tables sub result, SubscriptionSession calendar info now request before tables sub result
      session opened := by
  obtain ⟨db, res, accepted, shape, taken⟩ := subscription_opens opens
  obtain ⟨tables, sub, charged⟩ := request_charges unique fresh accepted
  obtain ⟨row, found, prepared⟩ := charged.from_
  have sane : Counted sub := counted_prepared prepared (counted row (lookup_mem found))
  obtain ⟨-, total, -⟩ := funding_row charged
  have capped : res.amountTotal = sub.amountTotal := total
  have positive := charged.positive
  subst shape
  refine ⟨tables, sub, (db, res), charged, sane, stored, rfl, rfl, rfl, rfl, rfl, ?_, ?_, ?_, ?_, ?_⟩
  case refine_1 =>
    intro limited
    obtain ⟨preConsumed, -⟩ := charged_amount charged limited
    simp [sessionOf, sessionPreConsumed, preConsumed, positive]
  case refine_2 =>
    simp [sessionOf, FundingSource.useTokenQuota, total, positive]
  case refine_3 =>
    rw [taken]
    split
    · exact take_token_db ..
    · rfl
  case refine_4 =>
    rw [TokenPaid, taken, capped]
    have same : ({ before with db := db } : Books).tokenBalance info.tokenId =
        before.tokenBalance info.tokenId := rfl
    by_cases limited : 0 < sub.amountTotal
    · by_cases played : info.isPlayground = true
      · simp only [limited, if_true, takeToken, played, Bool.true_eq_false, and_false, if_false,
          chargesToken, sessionOf, Bool.not_true, Bool.and_false, Bool.false_eq_true]
        rw [same]
        cases before.tokenBalance info.tokenId <;> simp
      · have charges : info.isPlayground = false := by simpa using played
        simp only [limited, if_true, takeToken, charges, positive, and_self, sessionOf,
          FundingSource.useTokenQuota, total, decide_true, chargesToken, Bool.not_false,
          Bool.and_self]
        rw [move_token_balance, if_pos rfl, same]
        congr 1
        funext held
        simp only [Prod.mk.injEq]
        omega
    · simp only [limited, if_false, chargesToken, sessionOf, FundingSource.useTokenQuota, total,
        decide_false, Bool.false_and, Bool.false_eq_true]
      rw [same]
      cases before.tokenBalance info.tokenId <;> simp
  case refine_5 =>
    have kept : TokenStored info { before with db := db } := stored
    rw [taken]
    unfold takeToken
    split
    · split
      · exact token_stored_move _ _ kept
      · exact kept
    · exact kept

/-! ## A settlement -/

def Exceeds (request : PreConsumeRequest) (funding : SubscriptionFunding) (row : UserSubscription)
    (actualQuota : Int) : Prop :=
  leftWindow row funding.resetWindowStart funding.resetWindowEnd = false ∧
    row.amountTotal < row.amountUsed - request.amount + actualQuota

structure RowSettled (request : PreConsumeRequest) (funding : SubscriptionFunding)
    (row : UserSubscription) (actualQuota : Int) (before after : Database) : Prop where
  users : after.users = before.users
  written : ∃ settled, after.subscription row.id = some settled ∧
    settled.amountUsed = (if leftWindow row funding.resetWindowStart funding.resetWindowEnd then
        row.amountUsed else max 0 (row.amountUsed - request.amount + actualQuota)) ∧
    settled.requestCountUsed = row.requestCountUsed ∧
    settled.requestCountPeriodUsed = row.requestCountPeriodUsed
  others : ∀ id, id ≠ row.id → after.subscription id = before.subscription id

theorem amount_fits_iff (capped : 0 < row.amountTotal)
    (moved : delta ≠ 0) :
    SettlementFits row delta 0 ↔ row.amountUsed + delta ≤ row.amountTotal := by
  constructor
  · intro fits
    have bound := fits.amount moved capped
    simp only [applyDelta] at bound
    omega
  · intro bound
    refine ⟨fun none_moved => absurd rfl none_moved, fun none_moved => absurd rfl none_moved, fun _ _ => ?_⟩
    simp only [applyDelta]
    omega

theorem row_settled_write
    (held : db.subscription row.id = some row)
    (current : leftWindow row funding.resetWindowStart funding.resetWindowEnd = false)
    (moved : actualQuota - request.amount ≠ 0) :
    RowSettled request funding row actualQuota db
      (db.saveSubscription ((settledRow row (actualQuota - request.amount) 0).touch now)) := by
  have saved : ∀ id, (db.saveSubscription
      ((settledRow row (actualQuota - request.amount) 0).touch now)).subscription id =
        if id = row.id then (db.subscription id).map fun _ =>
          (settledRow row (actualQuota - request.amount) 0).touch now
        else db.subscription id := fun id => lookup_save db.subscriptions _ id
  refine ⟨rfl, ⟨_, by rw [saved, if_pos rfl, held]; rfl, ?_, ?_, ?_⟩, fun id other => ?_⟩
  · have same : row.amountUsed + (actualQuota - request.amount) =
        row.amountUsed - request.amount + actualQuota := by omega
    simp only [settledRow, moved, current, UserSubscription.touch_amountUsed,
      UserSubscription.setUsage_amountUsed, applyDelta, ne_eq, not_false_eq_true, if_true, same,
      Bool.false_eq_true, if_false]
  · simp [settledRow]
  · simp [settledRow]
  · rw [saved, if_neg other]

theorem amount_funding
    (source : session.funding = .subscription funding) (unsettled : session.fundingSettled = false)
    (estimate : session.preConsumedQuota = request.amount) (capped : 0 < funding.amountTotal)
    (mine : funding.subscriptionId = row.id) (positive : 0 < row.id)
    (held : books.db.subscription row.id = some row) (total : row.amountTotal = funding.amountTotal)
    (nonnegative : 0 ≤ row.amountUsed) (within : row.amountUsed ≤ row.amountTotal) (now : Int) :
    (Exceeds request funding row actualQuota ∧
        ∃ error, session.settleFunding actualQuota now books = .error error) ∨
      (¬ Exceeds request funding row actualQuota ∧
        ∃ db, session.settleFunding actualQuota now books = .ok { books with db := db } ∧
          RowSettled request funding row actualQuota books.db db) := by
  have limited : ¬ funding.amountTotal ≤ 0 := by omega
  unfold BillingSession.settleFunding
  simp only [unsettled, source, FundingSource.settleDelta, limited, if_false, estimate,
    Bool.not_false, Bool.true_and, decide_eq_true_eq, ne_eq]
  by_cases same : actualQuota - request.amount = 0
  · refine .inr ⟨fun exceeds => ?_, books.db, by simp [same], rfl,
      ⟨row, held, ?_, rfl, rfl⟩, fun _ _ => rfl⟩
    · have bound := exceeds.2
      omega
    · split <;> omega
  · have known : ¬ row.id ≤ 0 := by omega
    simp only [same, not_false_eq_true, if_true, FundingSource.settle, mine,
      postConsumeUserSubscriptionDeltaForWindow, known, if_false, held]
    cases current : leftWindow row funding.resetWindowStart funding.resetWindowEnd with
    | true =>
      refine .inr ⟨fun exceeds => ?_, books.db, by simp, rfl, ⟨row, held, by simp [current], rfl,
        rfl⟩, fun _ _ => rfl⟩
      rw [Exceeds, current] at exceeds
      exact absurd exceeds.1 (by simp)
    | false =>
      by_cases fits : SettlementFits row (actualQuota - request.amount) 0
      · have settled : settleRow row _ _ = .ok _ := settle_row_ok_iff.mpr ⟨rfl, fits⟩
        refine .inr ⟨fun exceeds => ?_, books.db.saveSubscription
          ((settledRow row (actualQuota - request.amount) 0).touch now), ?_,
          row_settled_write held current same⟩
        case refine_2 => simp [settled, Except.map]
        have bound := (amount_fits_iff (by omega) same).mp fits
        have more := exceeds.2
        omega
      · have bound : ¬ row.amountUsed + (actualQuota - request.amount) ≤ row.amountTotal :=
          fun bound => fits ((amount_fits_iff (by omega) same).mpr bound)
        refine .inl ⟨⟨current, by omega⟩, ?_⟩
        cases refused : settleRow row (actualQuota - request.amount) 0 with
        | error error => exact ⟨.postConsume error, by simp [Except.map]⟩
        | ok after => exact absurd (settle_row_ok_iff.mp refused).2 fits

theorem amount_call (opening : SubscriptionSession calendar info now request before tables sub
      result session opened) (capped : 0 < sub.amountTotal) (refunded : Bool)
    (used : ¬ (sub.resourceType = .requestCount ∧ actualQuota ≤ 0))
    (mine : row.id = sub.id) (held : books.db.subscription sub.id = some row)
    (total : row.amountTotal = sub.amountTotal) (nonnegative : 0 ≤ row.amountUsed)
    (within : row.amountUsed ≤ row.amountTotal) (stored : TokenStored info books) (later : Int) :
    let funding := fundingOf request result.2
    let state := { session with refunded := refunded }
    (Exceeds request funding row actualQuota ∧
        call (books, state) (.settle actualQuota later) = (books, state)) ∨
      (¬ Exceeds request funding row actualQuota ∧ ∃ after,
        call (books, state) (.settle actualQuota later) =
          (after, { state with fundingSettled := true, settled := true }) ∧
        RowSettled request funding row actualQuota books.db after.db ∧
        TokenPaid session books after
          (if chargesToken session then actualQuota - request.amount else 0)) := by
  intro funding state
  obtain ⟨id, amountTotal, kind⟩ := funding_row opening.charged
  have consumed : state.tokenConsumed = request.amount := by
    rw [opening.taken, if_pos capped]
  have unused : ¬ ((fundingOf request result.2).resourceType = .requestCount ∧ actualQuota ≤ 0) := by
    rw [kind]
    exact used
  have source : state.funding = .subscription (fundingOf request result.2) := opening.funding
  have limited : 0 < (fundingOf request result.2).amountTotal := by omega
  have settles := subscription_settle books state source opening.settled unused later
  rcases amount_funding source opening.fundingSettled (opening.estimate capped) limited
    (id.trans mine.symm) (mine ▸ opening.counted.id) (mine ▸ held) (total.trans amountTotal.symm)
    nonnegative within later with ⟨exceeds, error, refused⟩ | ⟨fits, db, settled, rows⟩
  · refine .inl ⟨exceeds, ?_⟩
    rw [settles, refused]
  · have kept : TokenStored state.relayInfo { books with db := db } := by
      rw [show state.relayInfo = info from opening.relay]
      exact stored
    obtain ⟨same, paid⟩ := settle_token_paid actualQuota kept
    refine .inr ⟨fits, state.settleToken actualQuota { books with db := db }, ?_, ?_, ?_⟩
    · rw [settles, settled]
    · rw [same]
      exact rows
    · rw [consumed] at paid
      exact paid

theorem unused_settles (opening : SubscriptionSession calendar info now request before tables sub
      result session opened) (refunded : Bool)
    (unused : sub.resourceType = .requestCount ∧ actualQuota ≤ 0) (later : Int) (books : Books) :
    call (books, { session with refunded := refunded }) (.settle actualQuota later) =
      { session with refunded := refunded }.settleUnused (fundingOf request result.2) later books := by
  obtain ⟨-, -, kind⟩ := funding_row opening.charged
  have free : (fundingOf request result.2).resourceType = .requestCount ∧ actualQuota ≤ 0 := by
    rw [kind]
    exact unused
  simp only [call, BillingSession.settle, opening.settled, opening.funding, free, and_self, if_true,
    Bool.false_eq_true, if_false]

theorem unused_call (opening : SubscriptionSession calendar info now request before tables sub
      result session opened) (refunded : Bool)
    (unused : sub.resourceType = .requestCount ∧ actualQuota ≤ 0)
    (refund : (fundingOf request result.2).refund later books = .ok { books with db := final })
    (stored : TokenStored info books) :
    ∃ after, call (books, { session with refunded := refunded }) (.settle actualQuota later) =
        (after, { session with refunded := refunded }.released) ∧ after.db = final ∧
      TokenPaid session books after (if chargesToken session then -session.tokenConsumed else 0) := by
  have kept : TokenStored session.relayInfo { books with db := final } := by
    rw [opening.relay]
    exact stored
  have taken : 0 ≤ session.tokenConsumed := by
    have positive := opening.charged.positive
    rw [opening.taken]
    split <;> omega
  rw [unused_settles opening refunded unused,
    settle_unused { session with refunded := refunded } refund kept]
  refine ⟨_, rfl, ?_, token_given_back rfl taken⟩
  split <;> rfl

theorem free_call (opening : SubscriptionSession calendar info now request before tables sub
      result session opened) (free : sub.amountTotal ≤ 0) (refunded : Bool)
    (used : ¬ (sub.resourceType = .requestCount ∧ actualQuota ≤ 0)) (stored : TokenStored info books)
    (later : Int) :
    ∃ after, call (books, { session with refunded := refunded }) (.settle actualQuota later) =
        (after, { session with refunded := refunded, fundingSettled := true, settled := true }) ∧
      after.db = books.db ∧ TokenPaid session books after 0 := by
  obtain ⟨-, total, kind⟩ := funding_row opening.charged
  have unused : ¬ ((fundingOf request result.2).resourceType = .requestCount ∧ actualQuota ≤ 0) := by
    rw [kind]
    exact used
  have kept : TokenStored session.relayInfo books := by
    rw [opening.relay]
    exact stored
  have uncharged : chargesToken session = false := by
    have none_capped : ¬ 0 < sub.amountTotal := by omega
    rw [session_charges opening]
    simp [none_capped]
  have paid : BillingSession.settleFunding { session with refunded := refunded } actualQuota later
      books = .ok books := by
    have none_capped : (fundingOf request result.2).amountTotal ≤ 0 := by omega
    simp [BillingSession.settleFunding, opening.funding, FundingSource.settleDelta, none_capped]
  obtain ⟨same, token⟩ := settle_token_paid actualQuota kept
  rw [if_neg (by simp [uncharged])] at token
  have settles := subscription_settle books { session with refunded := refunded } opening.funding
    opening.settled unused later
  rw [paid] at settles
  exact ⟨_, settles, same, token⟩

/-! ## The first call -/

section First
variable (opening : SubscriptionSession calendar info now request before tables sub result session
  opened)
include opening

theorem opened_row : opened.db.subscription sub.id = some (chargedRow request sub now) := by
  rw [opening.tables, charged_rows opening.charged, if_pos rfl]

theorem opened_record : opened.db.record request.requestId = some (chargeRecord request sub now) := by
  rw [opening.tables]
  exact charged_record opening.charged

theorem restores_iff :
    Restores session opened ↔ (chargeRecord request sub now).preConsumedCount = 0 ∨ ¬ Stray sub := by
  have mine : (fundingOf request result.2).subscriptionId = sub.id := (funding_row opening.charged).1
  have count : (fundingOf request result.2).preConsumedCnt =
      (chargeRecord request sub now).preConsumedCount := by
    rw [opening.charged.answer]
    rfl
  have stray : Stray (chargedRow request sub now) ↔ Stray sub := by
    refine and_congr_right fun shared => ?_
    have same : (chargedRow request sub now).requestCountPeriodUsed = sub.requestCountPeriodUsed := by
      have shared : hasSeparatePeriodRequestCounter sub = false := shared
      simp [chargedRow, addPreConsumed, shared]
    rw [same]
  simp only [Restores, opening.funding, mine, count, opened_row opening, Option.some.injEq,
    forall_eq', stray]

theorem gives_back_iff (actualQuota later : Int) :
    GivesBack session (.settle actualQuota later) ↔
      sub.resourceType = .requestCount ∧ actualQuota ≤ 0 := by
  obtain ⟨-, -, kind⟩ := funding_row opening.charged
  simp only [GivesBack, opening.funding, kind]

theorem funding_paid_iff (paid : Int) :
    FundingPaid session.funding before opened books paid ↔
      ∃ row, books.db.subscription sub.id = some row ∧ row.amountUsed = sub.amountUsed + paid := by
  obtain ⟨id, -⟩ := funding_row opening.charged
  obtain ⟨amount, -⟩ := charged_usage sub now opening.charged.positive
  have key : (fundingOf request result.2).request.requestId = request.requestId := rfl
  rw [opening.funding]
  simp only [FundingPaid, key, id]
  constructor
  · intro holds
    obtain ⟨row, held, used⟩ := holds _ _ (opened_record opening) (opened_row opening)
    exact ⟨row, held, by omega⟩
  · rintro ⟨row, held, used⟩ record charged recorded found
    rw [opened_record opening] at recorded
    rw [opened_row opening] at found
    cases recorded
    cases found
    exact ⟨row, held, by omega⟩

theorem charge_back (held : books.db.subscription sub.id = some row)
    (same : SameUsage sub row) : ChargeBack session.funding opened books := by
  obtain ⟨id, -⟩ := funding_row opening.charged
  obtain ⟨amount, count, period⟩ := charged_usage sub now opening.charged.positive
  have key : (fundingOf request result.2).request.requestId = request.requestId := rfl
  rw [opening.funding]
  simp only [ChargeBack, key, id]
  intro record charged recorded found
  rw [opened_record opening] at recorded
  rw [opened_row opening] at found
  cases recorded
  cases found
  have counts : countsLifetime (chargedRow request sub now) = countsLifetime sub := rfl
  have separate : hasSeparatePeriodRequestCounter (chargedRow request sub now) =
      hasSeparatePeriodRequestCounter sub := rfl
  refine ⟨row, held, ?_, ?_, ?_⟩
  · rw [same.amount, amount]
    omega
  · rw [same.count, count, counts]
    omega
  · rw [same.period, period, separate]
    omega

theorem opened_within (capped : 0 < sub.amountTotal) :
    (chargedRow request sub now).amountUsed = sub.amountUsed + request.amount ∧
      0 ≤ sub.amountUsed ∧ sub.amountUsed + request.amount ≤ sub.amountTotal := by
  obtain ⟨-, room, -⟩ := eligible_room opening.charged.eligible
  obtain ⟨amount, -⟩ := charged_usage sub now opening.charged.positive
  obtain ⟨-, recorded⟩ := charged_amount opening.charged capped
  rw [recorded] at amount
  exact ⟨amount, opening.counted.amountUsed, room capped⟩

theorem settles_first_iff (actualQuota : Int) :
    SettlesFirst session opened actualQuota ↔
      sub.amountTotal ≤ 0 ∨
        if sub.resourceType = .requestCount ∧ actualQuota ≤ 0 then actualQuota = 0
        else if leftWindow (chargedRow request sub now) (fundingOf request result.2).resetWindowStart
          (fundingOf request result.2).resetWindowEnd then
          actualQuota = (fundingOf request result.2).preConsumed
        else 0 ≤ (chargedRow request sub now).amountUsed -
              (fundingOf request result.2).preConsumed + actualQuota ∧
            (chargedRow request sub now).amountUsed -
              (fundingOf request result.2).preConsumed + actualQuota ≤ sub.amountTotal := by
  obtain ⟨id, total, kind⟩ := funding_row opening.charged
  have room : RoomFor (fundingOf request result.2) opened actualQuota ↔
      if leftWindow (chargedRow request sub now) (fundingOf request result.2).resetWindowStart
          (fundingOf request result.2).resetWindowEnd then
          actualQuota = (fundingOf request result.2).preConsumed
        else 0 ≤ (chargedRow request sub now).amountUsed -
              (fundingOf request result.2).preConsumed + actualQuota ∧
            (chargedRow request sub now).amountUsed -
              (fundingOf request result.2).preConsumed + actualQuota ≤ sub.amountTotal := by
    simp only [RoomFor, id, opened_row opening, Option.some.injEq, forall_eq']
    rfl
  simp only [SettlesFirst, opening.funding, total, kind, room]

theorem first_free (free : sub.amountTotal ≤ 0) (actualQuota later : Int)
    (restores : GivesBack session (.settle actualQuota later) → Restores session opened)
    (rest : List Call) :
    DecidedOnce session before opened (.settle actualQuota later :: rest) := by
  have self : { session with refunded := false } = session := by rw [← opening.refunded]
  have uncharged : chargesToken session = false := by
    have none_capped : ¬ 0 < sub.amountTotal := by omega
    rw [session_charges opening]
    simp [none_capped]
  have uses : session.funding.useTokenQuota = false := by
    obtain ⟨-, total, -⟩ := funding_row opening.charged
    simp [opening.funding, FundingSource.useTokenQuota, total, free]
  have paid := opening.paid
  rw [uncharged] at paid
  by_cases unused : sub.resourceType = .requestCount ∧ actualQuota ≤ 0
  · obtain ⟨final, refund, back⟩ := subscription_refunds opened opening.charged opening.counted
      ((restores_iff opening).mp (restores ((gives_back_iff opening ..).mpr unused))) later
      opening.tables
    obtain ⟨after, settles, same, token⟩ := unused_call opening false unused refund opening.held
    obtain ⟨row, held, usage, -⟩ := back.row
    rw [self] at settles
    rw [uncharged] at token
    rw [decided_settled settles rfl, uses, uncharged]
    refine ⟨⟨(funding_paid_iff opening 0).mpr ⟨row, same ▸ held, ?_⟩, token_paid_trans paid token⟩,
      fun _ => charge_back opening (same ▸ held) usage⟩
    rw [usage.amount]
    omega
  · obtain ⟨after, settles, same, token⟩ := free_call opening free false unused opening.held later
    rw [self] at settles
    rw [decided_settled settles rfl, uses, uncharged]
    refine ⟨⟨(funding_paid_iff opening 0).mpr ⟨_, same ▸ opened_row opening, ?_⟩,
      token_paid_trans paid token⟩, fun gives => absurd ((gives_back_iff opening ..).mp gives) unused⟩
    obtain ⟨amount, -⟩ := charged_usage sub now opening.charged.positive
    rw [amount, charged_count opening.charged free]

theorem capped_uses (capped : 0 < sub.amountTotal) : session.funding.useTokenQuota = true := by
  obtain ⟨-, total, -⟩ := funding_row opening.charged
  simp [opening.funding, FundingSource.useTokenQuota, total, capped]

theorem token_settled (capped : 0 < sub.amountTotal)
    (paid : TokenPaid session opened after
      (if chargesToken session then actualQuota - request.amount else 0)) :
    TokenPaid session before after (if chargesToken session then actualQuota else 0) := by
  have total := token_paid_trans opening.paid paid
  rw [opening.taken, if_pos capped] at total
  by_cases charges : chargesToken session = true
  · simp only [charges, if_true] at total ⊢
    rwa [show request.amount + (actualQuota - request.amount) = actualQuota by omega] at total
  · simpa [charges] using total

theorem token_released
    (paid : TokenPaid session opened after (if chargesToken session then -session.tokenConsumed else 0)) :
    TokenPaid session before after 0 := by
  have total := token_paid_trans opening.paid paid
  by_cases charges : chargesToken session = true
  · simp only [charges, if_true] at total
    rwa [show session.tokenConsumed + -session.tokenConsumed = 0 by omega] at total
  · simpa [charges] using total

theorem first_unused (restores : Restores session opened) (capped : 0 < sub.amountTotal)
    (unused : sub.resourceType = .requestCount ∧ actualQuota ≤ 0) (later : Int) (rest : List Call) :
    DecidedOnce session before opened (.settle actualQuota later :: rest) ↔ actualQuota = 0 := by
  have self : { session with refunded := false } = session := by rw [← opening.refunded]
  obtain ⟨final, refund, back⟩ := subscription_refunds opened opening.charged opening.counted
    ((restores_iff opening).mp restores) later opening.tables
  obtain ⟨after, settles, same, token⟩ := unused_call opening false unused refund opening.held
  obtain ⟨row, held, usage, -⟩ := back.row
  rw [self] at settles
  rw [decided_settled settles rfl, capped_uses opening capped, if_pos rfl, funding_paid_iff opening, same]
  constructor
  · rintro ⟨⟨⟨found, there, paid⟩, -⟩, -⟩
    rw [held] at there
    cases there
    have kept := usage.amount
    omega
  · rintro rfl
    refine ⟨⟨⟨row, held, ?_⟩, ?_⟩, fun _ => charge_back opening (same ▸ held) usage⟩
    · rw [usage.amount]
      omega
    · rw [ite_self]
      exact token_released opening token

theorem first_amount (capped : 0 < sub.amountTotal)
    (used : ¬ (sub.resourceType = .requestCount ∧ actualQuota ≤ 0)) (later : Int)
    (rest : List Call) :
    DecidedOnce session before opened (.settle actualQuota later :: rest) ↔
      if leftWindow (chargedRow request sub now) (fundingOf request result.2).resetWindowStart
        (fundingOf request result.2).resetWindowEnd then actualQuota = request.amount
      else 0 ≤ sub.amountUsed + actualQuota ∧ sub.amountUsed + actualQuota ≤ sub.amountTotal := by
  have self : { session with refunded := false } = session := by rw [← opening.refunded]
  obtain ⟨charged, nonnegative, room⟩ := opened_within opening capped
  have total : (chargedRow request sub now).amountTotal = sub.amountTotal := rfl
  have positive := opening.charged.positive
  have uses := capped_uses opening capped
  have mine : (chargedRow request sub now).id = sub.id := rfl
  have calls := amount_call opening capped false used mine
    (opened_row opening) total (by omega) (by omega) opening.held later
  rw [self] at calls
  rcases calls with ⟨⟨current, exceeds⟩, refused⟩ | ⟨fits, after, settles, rows, token⟩
  · rw [current]
    constructor
    · rintro ⟨⟨paid, -⟩, -⟩
      rw [refused, uses, if_pos rfl, funding_paid_iff opening] at paid
      obtain ⟨row, held, amount⟩ := paid
      rw [opened_row opening] at held
      cases held
      omega
    · rintro ⟨-, bound⟩
      omega
  · obtain ⟨row, held, amount, -⟩ := rows.written
    rw [decided_settled settles rfl, uses, if_pos rfl, funding_paid_iff opening]
    have paid : (∃ row, after.db.subscription sub.id = some row ∧
        row.amountUsed = sub.amountUsed + actualQuota) ↔ row.amountUsed = sub.amountUsed + actualQuota := by
      constructor
      · rintro ⟨found, there, holds⟩
        have same : after.db.subscription sub.id = some row := held
        rw [same] at there
        cases there
        exact holds
      · exact fun holds => ⟨row, held, holds⟩
    rw [paid, amount, charged]
    have settled := token_settled opening capped token
    have keeps : GivesBack session (.settle actualQuota later) →
        ChargeBack session.funding opened after :=
      fun gives => absurd ((gives_back_iff opening ..).mp gives) used
    cases current : leftWindow (chargedRow request sub now)
        (fundingOf request result.2).resetWindowStart
        (fundingOf request result.2).resetWindowEnd with
    | true =>
      simp only [if_true]
      exact ⟨fun decided => by omega, fun same => ⟨⟨by omega, settled⟩, keeps⟩⟩
    | false =>
      have bound : sub.amountUsed + actualQuota ≤ sub.amountTotal := by
        by_contra more
        exact fits ⟨current, by omega⟩
      simp only [Bool.false_eq_true, if_false]
      exact ⟨fun decided => ⟨by omega, bound⟩, fun inside => ⟨⟨by omega, settled⟩, keeps⟩⟩

theorem first_settle_iff (actualQuota later : Int)
    (restores : GivesBack session (.settle actualQuota later) → Restores session opened)
    (rest : List Call) :
    DecidedOnce session before opened (.settle actualQuota later :: rest) ↔
      SettlesFirst session opened actualQuota := by
  rw [settles_first_iff opening]
  by_cases capped : 0 < sub.amountTotal
  · have limited : ¬ sub.amountTotal ≤ 0 := by omega
    obtain ⟨charged, -, -⟩ := opened_within opening capped
    obtain ⟨estimate, -⟩ := charged_amount opening.charged capped
    rw [charged, estimate, or_iff_right limited]
    by_cases unused : sub.resourceType = .requestCount ∧ actualQuota ≤ 0
    · rw [if_pos unused]
      exact first_unused opening (restores ((gives_back_iff opening ..).mpr unused)) capped unused
        later rest
    · have same : sub.amountUsed + request.amount - request.amount + actualQuota =
          sub.amountUsed + actualQuota := by omega
      rw [if_neg unused, same]
      exact first_amount opening capped unused later rest
  · have free : sub.amountTotal ≤ 0 := by omega
    exact ⟨fun _ => .inl free, fun _ => first_free opening free actualQuota later restores rest⟩

/-! ## The calls after a refund -/

structure RefundedSession (info : RelayInfo) (request : PreConsumeRequest) (sub : UserSubscription)
    (result : Database × PreConsumeResult) (session : BillingSession) (opened after : Books)
    (flag : Bool) : Prop where
  back : Refunded (fundingOf request result.2) sub result.1 after.db
  token : TokenPaid session opened after (if chargesToken session then -session.tokenConsumed else 0)
  held : TokenStored info after
  again : ∀ later, call (after, { session with refunded := flag }) (.refund later) =
    (after, { session with refunded := flag })

theorem first_refund (restores : Restores session opened) (later : Int) :
    ∃ after flag, call (opened, session) (.refund later) =
        (after, { session with refunded := flag }) ∧
      RefundedSession info request sub result session opened after flag := by
  obtain ⟨final, refund, back⟩ := subscription_refunds opened opening.charged opening.counted
    ((restores_iff opening).mp restores) later opening.tables
  have source := opening.funding
  by_cases needed : session.needsRefund = true
  · have rolled : rollBack session.funding later opened = { opened with db := final } := by
      simp only [rollBack, source, FundingSource.refund, refund, Except.toOption, Option.getD_some]
    have kept : TokenStored session.relayInfo { opened with db := final } := by
      rw [opening.relay]
      exact opening.held
    have uses : 0 < session.tokenConsumed → session.funding.useTokenQuota = true := by
      intro taken
      refine capped_uses opening ?_
      by_contra free
      rw [opening.taken, if_neg free] at taken
      omega
    have taken : 0 ≤ session.tokenConsumed := by
      have positive := opening.charged.positive
      rw [opening.taken]
      split <;> omega
    refine ⟨session.refundToken (rollBack session.funding later opened), true, ?_, ?_⟩
    · simp [call, BillingSession.refund, opening.settled, opening.refunded, needed]
    · rw [rolled, refund_token_moves kept uses]
      refine ⟨?_, token_given_back rfl taken, ?_, fun _ => ?_⟩
      · split
        · exact back
        · exact back
      · split
        · exact token_stored_move _ _ (opening.relay ▸ kept)
        · exact opening.relay ▸ kept
      · simp [call, BillingSession.refund]
  · have idle : session.needsRefund = false := by simpa using needed
    have same : { session with refunded := false } = session := by rw [← opening.refunded]
    have nothing : ¬ 0 < session.tokenConsumed ∧ (fundingOf request result.2).preConsumed ≤ 0 ∧
        (fundingOf request result.2).preConsumedCnt ≤ 0 := by
      simp only [BillingSession.needsRefund, opening.settled, opening.refunded,
        opening.fundingSettled, source, Bool.or_self, Bool.false_eq_true, if_false] at idle
      split at idle
      · cases idle
      · rename_i none_taken
        simp only [Bool.or_eq_false_iff, decide_eq_false_iff_not] at idle
        exact ⟨none_taken, by omega, by omega⟩
    have still : ∀ later, call (opened, session) (.refund later) = (opened, session) := by
      simp [call, BillingSession.refund, idle]
    have unchanged : final = opened.db := by
      rw [SubscriptionFunding.refund, if_pos nothing.2, Except.ok.injEq] at refund
      rw [refund]
    refine ⟨opened, false, by rw [still, same], unchanged ▸ back, ?_, opening.held, ?_⟩
    · have zero : session.tokenConsumed = 0 := by
        have positive := opening.charged.positive
        have taken := opening.taken
        split at taken <;> omega
      rw [zero, Int.neg_zero, ite_self, TokenPaid]
      cases opened.tokenBalance session.relayInfo.tokenId <;> simp
    · intro later
      rw [same]
      exact still later

end First

theorem unmoved_row_iff
    (users : after.db.users = books.db.users) (held : books.db.subscription row.id = some row)
    (written : after.db.subscription row.id = some saved)
    (others : ∀ id, id ≠ row.id → after.db.subscription id = books.db.subscription id) :
    Unmoved session books after ↔ SameUsage row saved ∧
      after.tokenBalance session.relayInfo.tokenId = books.tokenBalance session.relayInfo.tokenId := by
  constructor
  · intro still
    obtain ⟨same, there, usage⟩ := still.rows row.id row held
    rw [written] at there
    cases there
    exact ⟨usage, still.token⟩
  · rintro ⟨usage, token⟩
    refine ⟨by simp only [Books.userQuota, users], fun id kept found => ?_, token⟩
    by_cases mine : id = row.id
    · subst mine
      rw [held] at found
      cases found
      exact ⟨saved, written, usage⟩
    · exact ⟨kept, by rw [others id mine, found], same_usage_refl kept⟩

theorem unmoved_tables_iff (same : after.db = books.db) :
    Unmoved session books after ↔ after.tokenBalance session.relayInfo.tokenId =
      books.tokenBalance session.relayInfo.tokenId := by
  constructor
  · exact fun still => still.token
  · intro token
    exact ⟨by simp only [Books.userQuota, same],
      fun id row found => ⟨row, by rw [same, found], same_usage_refl row⟩, token⟩

theorem settles_idle_iff
    (settles : call (books, { session with refunded := flag }) (.settle actualQuota later) =
      (after, ended)) (settled : ended.settled = true) (rest : List Call) :
    (∀ done, done <+: .settle actualQuota later :: rest → Unmoved session books
      (run call (books, { session with refunded := flag }) done).1) ↔ Unmoved session books after := by
  have last : ∀ done, (run call (books, { session with refunded := flag })
      (.settle actualQuota later :: done)).1 = after :=
    fun done => by rw [run_cons, settles, settled_run settled]
  rw [every_prefix_cons]
  simp only [last]
  exact ⟨fun all => all.2 [] List.nil_prefix, fun still => ⟨unmoved_refl session books, fun _ _ => still⟩⟩

section Idle
variable {flag : Bool}
variable (opening : SubscriptionSession calendar info now request before tables sub result session
  opened)
variable (gone : RefundedSession info request sub result session opened books flag)
include opening gone

theorem free_idle (free : sub.amountTotal ≤ 0) (actualQuota later : Int) (rest : List Call) :
    ∀ done, done <+: .settle actualQuota later :: rest → Unmoved session books
      (run call (books, { session with refunded := flag }) done).1 := by
  have uncharged : chargesToken session = false := by
    have none_capped : ¬ 0 < sub.amountTotal := by omega
    rw [session_charges opening]
    simp [none_capped]
  by_cases unused : sub.resourceType = .requestCount ∧ actualQuota ≤ 0
  · have again := gone.back.again books later rfl
    obtain ⟨after, settles, same, token⟩ := unused_call opening flag unused again gone.held
    rw [uncharged] at token
    rw [settles_idle_iff settles rfl, unmoved_tables_iff same,
      token_same_iff opening.relay token gone.held (fun _ => rfl)]
    rfl
  · obtain ⟨after, settles, same, token⟩ := free_call opening free flag unused gone.held later
    rw [settles_idle_iff settles rfl, unmoved_tables_iff same,
      token_same_iff opening.relay token gone.held (fun _ => rfl)]

theorem unused_idle_iff (capped : 0 < sub.amountTotal)
    (unused : sub.resourceType = .requestCount ∧ actualQuota ≤ 0) (later : Int) (rest : List Call) :
    (∀ done, done <+: .settle actualQuota later :: rest → Unmoved session books
      (run call (books, { session with refunded := flag }) done).1) ↔ info.isPlayground = true := by
  have again := gone.back.again books later rfl
  have positive := opening.charged.positive
  obtain ⟨after, settles, same, token⟩ := unused_call opening flag unused again gone.held
  rw [opening.taken, if_pos capped, session_charges opening] at token
  rw [settles_idle_iff settles rfl, unmoved_tables_iff same,
    token_same_iff opening.relay token gone.held (fun played => by simp [played])]
  cases info.isPlayground
  · simp [capped]
    omega
  · simp

theorem amount_idle (capped : 0 < sub.amountTotal)
    (used : ¬ (sub.resourceType = .requestCount ∧ actualQuota ≤ 0)) (later : Int)
    (rest : List Call) :
    (RefusedAfterRefund session opened actualQuota ∧
        call (books, { session with refunded := flag }) (.settle actualQuota later) =
          (books, { session with refunded := flag })) ∨
      (¬ RefusedAfterRefund session opened actualQuota ∧
        ((∀ done, done <+: .settle actualQuota later :: rest → Unmoved session books
          (run call (books, { session with refunded := flag }) done).1) ↔
            IdleAfterRefund session opened actualQuota)) := by
  obtain ⟨id, amountTotal, kind⟩ := funding_row opening.charged
  obtain ⟨charged, nonnegative, room⟩ := opened_within opening capped
  obtain ⟨estimate, -⟩ := charged_amount opening.charged capped
  have positive := opening.charged.positive
  obtain ⟨row, held, usage, total, reset⟩ := gone.back.row
  have key : row.id = sub.id := lookup_key held
  have amount := usage.amount
  have window : leftWindow row (fundingOf request result.2).resetWindowStart
      (fundingOf request result.2).resetWindowEnd = leftWindow (chargedRow request sub now)
        (fundingOf request result.2).resetWindowStart
        (fundingOf request result.2).resetWindowEnd := by
    have same : (chargedRow request sub now).lastResetTime = sub.lastResetTime := rfl
    simp only [leftWindow, reset, same]
  have refuses : RefusedAfterRefund session opened actualQuota ↔
      Exceeds request (fundingOf request result.2) row actualQuota := by
    have sum : (chargedRow request sub now).amountTotal = sub.amountTotal := rfl
    simp only [RefusedAfterRefund, opening.funding, amountTotal, kind, id, opened_row opening,
      Option.some.injEq, exists_eq_left', estimate, Exceeds, window, capped, used,
      not_false_eq_true, true_and, charged, total, sum, amount]
    refine and_congr_right fun _ => ?_
    constructor <;> intro bound <;> omega
  rw [refuses]
  rcases amount_call opening capped flag used key held total (by omega) (by omega) gone.held later
    with ⟨exceeds, refused⟩ | ⟨fits, after, settles, rows, token⟩
  · exact .inl ⟨exceeds, refused⟩
  · refine .inr ⟨fits, ?_⟩
    obtain ⟨saved, written, sum, count, period⟩ := rows.written
    have same : SameUsage row saved ↔ saved.amountUsed = row.amountUsed :=
      ⟨fun kept => kept.amount, fun kept => ⟨kept, count, period⟩⟩
    rw [settles_idle_iff settles rfl, unmoved_row_iff rows.users (key ▸ held) written
      rows.others, token_same_iff opening.relay token gone.held
        (fun played => by simp [session_charges opening, played]), same, sum, window,
      session_charges opening]
    simp only [IdleAfterRefund, opening.funding, amountTotal, kind, id, opened_row opening,
      Option.some.injEq, forall_eq', estimate, opening.relay, charged, capped, decide_true,
      Bool.true_and, used, false_or]
    have limited : ¬ sub.amountTotal ≤ 0 := by omega
    cases info.isPlayground <;> cases leftWindow (chargedRow request sub now)
      (fundingOf request result.2).resetWindowStart (fundingOf request result.2).resetWindowEnd <;>
      simp [limited] <;> omega

end Idle

theorem subscription_idle_iff
    (opening : SubscriptionSession calendar info now request before tables sub result session opened)
    (gone : RefundedSession info request sub result session opened books flag)
    (calls : List Call) :
    (∀ done, done <+: calls → Unmoved session books
      (run call (books, { session with refunded := flag }) done).1) ↔ NoneSettles session opened calls := by
  induction calls with
  | nil => simpa [NoneSettles] using unmoved_refl session books
  | cons next rest ih =>
    have skipped : call (books, { session with refunded := flag }) next =
        (books, { session with refunded := flag }) →
          ((∀ done, done <+: next :: rest → Unmoved session books
            (run call (books, { session with refunded := flag }) done).1) ↔
              NoneSettles session opened rest) := by
      intro same
      rw [every_prefix_cons]
      simp only [run_cons, same, ← ih, run_nil]
      exact ⟨fun all => all.2, fun all => ⟨unmoved_refl session books, all⟩⟩
    cases next with
    | refund later => exact skipped (gone.again later)
    | settle actualQuota later =>
      obtain ⟨-, total, kind⟩ := funding_row opening.charged
      have playground := opening.relay
      by_cases capped : 0 < sub.amountTotal
      · by_cases unused : sub.resourceType = .requestCount ∧ actualQuota ≤ 0
        · have positive := opening.charged.positive
          obtain ⟨estimate, -⟩ := charged_amount opening.charged capped
          have refused : ¬ RefusedAfterRefund session opened actualQuota := by
            simp [RefusedAfterRefund, opening.funding, kind, unused]
          have idle : IdleAfterRefund session opened actualQuota ↔ info.isPlayground = true := by
            have limited : ¬ sub.amountTotal ≤ 0 := by omega
            have other : ¬ actualQuota = request.amount := by omega
            simp [IdleAfterRefund, opening.funding, kind, total, unused, limited, other, estimate,
              playground]
          rw [unused_idle_iff opening gone capped unused later rest]
          simp [NoneSettles, refused, idle]
        · rcases amount_idle opening gone capped unused later rest with
            ⟨refused, same⟩ | ⟨accepted, idle⟩
          · rw [skipped same]
            simp [NoneSettles, refused]
          · rw [idle]
            simp [NoneSettles, accepted]
      · have free : sub.amountTotal ≤ 0 := by omega
        have refused : ¬ RefusedAfterRefund session opened actualQuota := by
          simp [RefusedAfterRefund, opening.funding, total, capped]
        have idle : IdleAfterRefund session opened actualQuota := by
          simp [IdleAfterRefund, opening.funding, total, free]
        refine iff_of_true (free_idle opening gone free actualQuota later rest) ?_
        exact ⟨fun refuses => absurd refuses refused, fun _ => idle⟩

theorem restored_decided_iff
    (opening : SubscriptionSession calendar info now request before tables sub result session
      opened) (calls : List Call)
    (restores : ∀ first ∈ calls.head?, GivesBack session first → Restores session opened) :
    DecidedOnce session before opened calls ↔ Orderly session opened calls := by
  cases calls with
  | nil => exact Iff.rfl
  | cons first rest =>
    cases first with
    | settle actualQuota later => exact first_settle_iff opening actualQuota later (restores _ rfl) rest
    | refund later =>
      obtain ⟨after, flag, refunds, gone⟩ := first_refund opening (restores _ rfl trivial) later
      obtain ⟨row, held, usage, -⟩ := gone.back.row
      have paid : FundingPaid session.funding before opened after 0 := by
        rw [funding_paid_iff opening]
        refine ⟨row, held, ?_⟩
        rw [usage.amount]
        omega
      have back := charge_back opening held usage
      have token := token_released opening gone.token
      simp only [DecidedOnce, FirstDecides, Orderly, refunds, ← subscription_idle_iff opening gone rest]
      exact ⟨fun decided => decided.2.2, fun still => ⟨⟨paid, back, token⟩, fun _ => back, still⟩⟩

section Counts
variable (opening : SubscriptionSession calendar info now request before tables sub result session
  opened)
include opening

theorem gives_back_posts (some_ : 0 < (chargeRecord request sub now).preConsumedCount)
    (gives : GivesBack session next) : ∃ later, (call (opened, session) next).1.db =
      SubscriptionStore.step calendar opened.db (.refund request.requestId later) := by
  have count : (fundingOf request result.2).preConsumedCnt =
      (chargeRecord request sub now).preConsumedCount := by
    rw [opening.charged.answer]
    rfl
  have given : ¬ ((fundingOf request result.2).preConsumed ≤ 0 ∧
      (fundingOf request result.2).preConsumedCnt ≤ 0) := by omega
  have key : (fundingOf request result.2).request.requestId = request.requestId := rfl
  cases next with
  | refund later =>
    have needed : session.needsRefund = true := by
      simp [BillingSession.needsRefund, opening.settled, opening.refunded, opening.fundingSettled,
        opening.funding, count, some_]
    refine ⟨later, ?_⟩
    simp only [call, BillingSession.refund, opening.settled, opening.refunded, needed, Bool.or_self,
      Bool.not_true, Bool.false_eq_true, if_false, refund_token_db, rollBack, opening.funding,
      FundingSource.refund, SubscriptionFunding.refund, given, key, SubscriptionStore.step]
    cases refundSubscriptionPreConsume request.requestId later opened.db <;> rfl
  | settle actualQuota later =>
    have unused := (gives_back_iff opening actualQuota later).mp gives
    have self : { session with refunded := false } = session := by rw [← opening.refunded]
    have settles := unused_settles opening false unused later opened
    rw [self] at settles
    refine ⟨later, ?_⟩
    simp only [SubscriptionStore.step]
    cases refunded : refundSubscriptionPreConsume request.requestId later opened.db with
    | error error =>
      rw [settles]
      simp only [BillingSession.settleUnused, SubscriptionFunding.refund, given, if_false, key, refunded]
    | ok final =>
      have refund : (fundingOf request result.2).refund later opened = .ok { opened with db := final } := by
        simp only [SubscriptionFunding.refund, given, if_false, key, refunded]
      obtain ⟨after, taken, same, -⟩ := unused_call opening false unused refund opening.held
      rw [self] at taken
      rw [taken]
      exact same

theorem charged_row_counted : RefundWindow.Counted (chargedRow request sub now) := by
  obtain ⟨-, room, -⟩ := eligible_room opening.charged.eligible
  have positive := opening.charged.positive
  have ready : RefundWindow.Counted sub :=
    ⟨opening.counted.id, opening.counted.amountUsed, opening.counted.requestCountUsed,
      opening.counted.requestCountPeriodUsed, fun capped => by have := room capped; omega⟩
  exact RefundWindow.counted_touch now
    (RefundWindow.counted_pre_consumed positive ready opening.charged.eligible)

/-- The refund of a counted request lowers the stray count of its row, or is
refused and leaves the request counted. -/
theorem given_back_restores (gives : GivesBack session next)
    (back : ChargeBack session.funding opened (call (opened, session) next).1) :
    Restores session opened := by
  by_contra stray
  rw [restores_iff opening, not_or, not_not] at stray
  obtain ⟨some_, shared, left_⟩ := stray
  have positive := opening.charged.positive
  have sums : Charged (chargeRecord request sub now) := accepted_charged positive sub now
  have used : 0 < (chargedRow request sub now).requestCountPeriodUsed := by
    obtain ⟨-, -, period⟩ := charged_usage sub now positive
    rw [period, shared]
    simpa using left_
  have mine : (fundingOf request result.2).subscriptionId = sub.id := (funding_row opening.charged).1
  have key : (fundingOf request result.2).request.requestId = request.requestId := rfl
  simp only [ChargeBack, opening.funding, key, mine] at back
  obtain ⟨row, held, exact_⟩ := back _ _ (opened_record opening) (opened_row opening)
  obtain ⟨later, posts⟩ := gives_back_posts opening (by have := sums.count; omega) gives
  rw [posts] at held
  exact RefundWindow.stray_refund_inexact opening.charged.given (opened_record opening) rfl
    (opened_row opening) (charged_row_counted opening) sums some_ shared used held exact_

theorem subscription_decided_iff (calls : List Call) :
    DecidedOnce session before opened calls ↔
      (∀ first ∈ calls.head?, GivesBack session first → Restores session opened) ∧
        Orderly session opened calls := by
  constructor
  · intro decided
    have restores : ∀ first ∈ calls.head?, GivesBack session first → Restores session opened := by
      intro first member gives
      cases calls with
      | nil => cases member
      | cons head rest =>
        cases member
        exact given_back_restores opening gives (decided.2.1 gives)
    exact ⟨restores, (restored_decided_iff opening calls restores).mp decided⟩
  · exact fun both => (restored_decided_iff opening calls both.1).mpr both.2

end Counts

/-! ## Every session -/

theorem session_opened
    (unique : (before.db.subscriptions.map UserSubscription.id).Nodup)
    (counted : ∀ sub ∈ before.db.subscriptions, Counted sub)
    (fresh : before.db.record info.request.requestId = none)
    (user : (lookup User.id before.db.users info.userId).isSome) (token : TokenStored info before)
    (opens : newBillingSession calendar preference info quota now before = (opened, .ok session)) :
    WalletSession info (effectiveQuota info quota before) before opened session ∨
      ∃ tables sub result, SubscriptionSession calendar info now
        { info.request with amount := subConsume quota } before tables sub result session opened := by
  rcases new_session_cases opens with wallet | subscription
  · obtain ⟨shape, taken⟩ := wallet_opens wallet
    exact .inl ⟨shape, taken, user, token⟩
  · have unknown : before.db.record
        ({ info.request with amount := subConsume quota } : PreConsumeRequest).requestId = none :=
      fresh
    exact .inr (subscription_opening unique counted unknown token subscription)

/-- For every session that was opened, whoever pays for it, and for every
sequence of calls on it: the first call decides and nothing later has an effect
exactly when a call that gives the charge back finds a row that it restores, and
the calls are orderly. -/
theorem decided_once_iff_orderly (calendar : Calendar) (preference : BillingPreference)
    (info : RelayInfo) (quota now : Int) (before opened : Books) (session : BillingSession)
    (unique : (before.db.subscriptions.map UserSubscription.id).Nodup)
    (counted : ∀ sub ∈ before.db.subscriptions, Counted sub)
    (fresh : before.db.record info.request.requestId = none)
    (user : (lookup User.id before.db.users info.userId).isSome) (token : TokenStored info before)
    (opens : newBillingSession calendar preference info quota now before = (opened, .ok session))
    (calls : List Call) :
    DecidedOnce session before opened calls ↔
      (∀ first ∈ calls.head?, GivesBack session first → Restores session opened) ∧
        Orderly session opened calls := by
  rcases session_opened unique counted fresh user token opens with opening | ⟨_, _, _, opening⟩
  · have restores : Restores session opened := by simp [Restores, opening.shape, sessionOf]
    rw [wallet_decided_iff opening calls]
    exact (and_iff_right fun _ _ _ => restores).symm
  · exact subscription_decided_iff opening calls

def walletBooks : Books where
  db := { users := [{ id := 7, quota := 100 }] }
  tokens := [{ id := 3, key := "key", remainQuota := 100 }]

def walletInfo : RelayInfo where
  tokenId := 3
  tokenKey := "key"
  tokenQuota := 100
  request := { requestId := "first", userId := 7, amount := 0 }

def walletSession : BillingSession :=
  sessionOf walletInfo (.wallet { userId := 7, consumed := 10 }) 10

def walletOpened : Books where
  db := { users := [{ id := 7, quota := 90 }] }
  tokens := [{ id := 3, key := "key", remainQuota := 90, usedQuota := 10 }]

/-- The relay refunds, and the settlement that follows takes the wallet and the
token by the difference to an estimate that was given back. -/
theorem settled_after_refund :
    ¬ ∀ (calendar : Calendar) (preference : BillingPreference) (info : RelayInfo) (quota now : Int)
      (before opened : Books) (session : BillingSession),
      (before.db.subscriptions.map UserSubscription.id).Nodup →
      (∀ sub ∈ before.db.subscriptions, Counted sub) →
      before.db.record info.request.requestId = none →
      (lookup User.id before.db.users info.userId).isSome → TokenStored info before →
      newBillingSession calendar preference info quota now before = (opened, .ok session) →
      ∀ calls, DecidedOnce session before opened calls := by
  intro always
  have decided := always dayCount .walletOnly walletInfo 10 0 walletBooks walletOpened walletSession
    (by decide) (fun _ member => absurd member List.not_mem_nil) rfl rfl
    (fun _ => ⟨by decide, rfl⟩) rfl
    [.refund 1, .settle 30 2]
  have still := decided.2.2 [.settle 30 2] List.prefix_rfl
  have moved : (100 - 20 : Int) = 100 := still.wallet
  omega

theorem settled_before_refund :
    DecidedOnce walletSession walletBooks walletOpened [.settle 30 1, .refund 2] := by
  refine (decided_once_iff_orderly dayCount .walletOnly walletInfo 10 0 walletBooks walletOpened
    walletSession (by decide) ?_ rfl rfl ?_ rfl _).mpr ⟨fun _ _ _ => trivial, ?_⟩
  · exact fun _ member => absurd member List.not_mem_nil
  · exact fun _ => ⟨by decide, rfl⟩
  · show (0 : Int) ≤ 10
    decide

end NewApi.BillingSettlement
