import NewApi.RequestBilling

/-! A session that cannot be opened gives back what its first steps took. The
wallet and the tokens are as before, and so are the counters of every
subscription, apart from a reset that was due anyway and is saved on the way. -/
namespace NewApi.BillingRollback
open NewApi.KeyedTable
open NewApi.GoText (trimSpace)
open NewApi.ResetWindow NewApi.Subscription
open NewApi.SubscriptionStore hiding step Event
open NewApi.RequestCharge NewApi.RequestBilling
open NewApi.RefundWindow (Charged accepted_charged)

variable {calendar : Calendar} {info : RelayInfo} {quota now : Int} {books after : Books}
variable {request : PreConsumeRequest} {db : Database} {sub before kept : UserSubscription}

/-! ## What preparing a row does to its counters -/

def KeptOrReset (now : Int) (before after : UserSubscription) : Prop :=
  SameUsage before after ∨ (¬ WindowOpen before now ∧ SameUsage (clearWindowUsage before) after)

theorem kept_refl (now : Int) (sub : UserSubscription) : KeptOrReset now sub sub :=
  .inl (same_usage_refl sub)

theorem kept_then_same (moved : KeptOrReset now before middle)
    (same : SameUsage middle kept) : KeptOrReset now before kept := by
  rcases moved with unmoved | ⟨due, cleared⟩
  · exact .inl (same_usage_trans unmoved same)
  · exact .inr ⟨due, same_usage_trans cleared same⟩

theorem clear_same_usage {first : UserSubscription}
    (separate : hasSeparatePeriodRequestCounter second = hasSeparatePeriodRequestCounter first)
    (same : SameUsage first second) :
    SameUsage (clearWindowUsage first) (clearWindowUsage second) := by
  unfold clearWindowUsage
  rw [separate]
  split
  · exact ⟨rfl, same.count, rfl⟩
  · exact ⟨rfl, rfl, same.period⟩

theorem clear_twice (sub : UserSubscription) :
    clearWindowUsage (clearWindowUsage sub) = clearWindowUsage sub := by
  unfold clearWindowUsage
  split
  · rename_i separate
    simp [separate]
  · rename_i shared
    simp [shared]

structure StillDue (now : Int) (before after : UserSubscription) : Prop where
  separate : hasSeparatePeriodRequestCounter after = hasSeparatePeriodRequestCounter before
  kept : KeptOrReset now before after
  running : WindowOpen before now → WindowOpen after now ∧ SameUsage before after

theorem still_due_reset (due : StillDue now before middle) :
    StillDue now before (maybeResetUserSubscriptionWithPlan calendar middle now).sub := by
  by_cases isOpen : WindowOpen before now
  · rw [reset_window_open calendar (due.running isOpen).1]
    exact due
  · have vacuous : ∀ row, WindowOpen before now → WindowOpen row now ∧ SameUsage before row :=
      fun _ running => absurd running isOpen
    obtain ⟨last, next, reset | reset | reset⟩ := reset_cases calendar middle now <;> rw [reset]
    · exact ⟨due.separate, kept_then_same due.kept ⟨rfl, rfl, rfl⟩, vacuous _⟩
    · exact ⟨due.separate, kept_then_same due.kept ⟨rfl, rfl, rfl⟩, vacuous _⟩
    · have separate : hasSeparatePeriodRequestCounter
          ((clearWindowUsage (middle.moveWindow last next)).touch now) =
            hasSeparatePeriodRequestCounter before := by
        rw [← due.separate]
        unfold clearWindowUsage
        split <;> rfl
      refine ⟨separate, .inr ⟨isOpen, ?_⟩, vacuous _⟩
      have cleared : SameUsage (clearWindowUsage before) (clearWindowUsage middle) := by
        rcases due.kept with same | ⟨-, same⟩
        · exact clear_same_usage due.separate same
        · have twice := clear_same_usage (by rw [due.separate]; unfold clearWindowUsage; split <;> rfl) same
          rwa [clear_twice] at twice
      have moved : SameUsage (clearWindowUsage middle)
          (clearWindowUsage (middle.moveWindow last next)) :=
        clear_same_usage rfl ⟨rfl, rfl, rfl⟩
      exact same_usage_trans cleared (same_usage_trans moved ⟨rfl, rfl, rfl⟩)

theorem prepared_kept (prepared : Prepares calendar now before kept) : KeptOrReset now before kept := by
  have initially : StillDue now before before :=
    ⟨rfl, kept_refl now before, fun running => ⟨running, same_usage_refl before⟩⟩
  exact (prepares_keep (fun _ due => still_due_reset due)
    (fun _ _ _ _ due => ⟨due.separate, kept_then_same due.kept ⟨rfl, rfl, rfl⟩, fun running =>
      ⟨(due.running running).1, same_usage_trans (due.running running).2 ⟨rfl, rfl, rfl⟩⟩⟩)
    prepared initially).kept

/-! ## What a refused session leaves -/

/-- The ledgers are as before: the quota of every user, every token, and the
counters of every subscription, apart from a reset that was due. -/
structure Untouched (now : Int) (before after : Books) : Prop where
  users : ∀ userId, after.userQuota userId = before.userQuota userId
  tokens : after.tokens = before.tokens
  rows : ∀ id row, before.db.subscription id = some row →
    ∃ kept, after.db.subscription id = some kept ∧ KeptOrReset now row kept

theorem untouched_refl (now : Int) (books : Books) : Untouched now books books :=
  ⟨fun _ => rfl, rfl, fun _ row found => ⟨row, found, kept_refl now row⟩⟩

theorem taken_and_given_back (userId quota other : Int) (books : Books) :
    (addUserQuota userId quota (addUserQuota userId (-quota) books)).userQuota other =
      books.userQuota other := by
  simp only [Books.userQuota, add_quota_user]
  split
  · cases lookup User.id books.db.users other with
    | none => rfl
    | some user =>
      show user.quota + -quota + quota = user.quota
      omega
  · rfl

theorem failed_wallet
    (failed : openSession calendar info (.wallet { userId := info.userId }) quota now books =
      (after, .error error)) : Untouched now books after := by
  unfold openSession at failed
  simp only [FundingSource.preConsume, WalletFunding.preConsume, decreaseUserQuota] at failed
  by_cases nothing : quota ≤ 0
  · simp only [nothing, if_true, Except.map] at failed
    split at failed
    · cases failed
      exact untouched_refl now books
    · simp at failed
  · have positive : ¬ quota < 0 := by omega
    simp only [nothing, positive, if_false, Except.map] at failed
    split at failed
    · cases failed
      simp only [rollBack, FundingSource.refund, WalletFunding.refund, increaseUserQuota, nothing,
        positive, if_false, Except.mapError, Except.toOption, Option.getD_some]
      exact ⟨fun other => taken_and_given_back _ _ other books, rfl,
        fun _ row found => ⟨row, found, kept_refl now row⟩⟩
    · simp at failed

theorem failed_subscription
    (unique : (books.db.subscriptions.map UserSubscription.id).Nodup)
    (counted : ∀ sub ∈ books.db.subscriptions, Counted sub ∧ ¬ Stray sub)
    (fresh : books.db.record request.requestId = none)
    (failed : openSession calendar info (.subscription { request := request }) quota now books =
      (after, .error error)) : Untouched now books after := by
  unfold openSession at failed
  simp only [FundingSource.preConsume, SubscriptionFunding.preConsume] at failed
  cases charge : preConsumeUserSubscriptionWithPreference calendar request now books.db with
  | error refused =>
    simp only [charge, Except.map, Prod.mk.injEq] at failed
    rw [← failed.1]
    exact untouched_refl now books
  | ok result =>
    simp only [charge, Except.map] at failed
    split at failed
    case h_2 => simp at failed
    case h_1 =>
    cases failed
    obtain ⟨opened, sub, charged⟩ := request_charges unique fresh charge
    obtain ⟨stored, found, prepared⟩ := charged.from_
    obtain ⟨ready, none_⟩ := counted stored (lookup_mem found)
    have sane : Counted sub := counted_prepared prepared ready
    obtain ⟨final, refunded, back⟩ := subscription_refunds { books with db := result.1 } charged sane
      (.inr (stray_prepared prepared none_)) now rfl
    obtain ⟨row, held, same, -⟩ := back.row
    have rolled : rollBack (.subscription (fundingOf request result.2)) now
        { books with db := result.1 } = { books with db := final } := by
      simp only [rollBack, FundingSource.refund, refunded, Except.toOption, Option.getD_some]
    show Untouched now books (rollBack (.subscription (fundingOf request result.2)) now
      { books with db := result.1 })
    rw [rolled]
    refine ⟨fun other => ?_, rfl, fun id before known => ?_⟩
    · simp only [Books.userQuota, back.users, charged_users charged]
    · by_cases mine : id = sub.id
      · subst mine
        rw [found] at known
        cases known
        exact ⟨row, held, kept_then_same (prepared_kept prepared) same⟩
      · obtain ⟨kept, there, moved⟩ := charged.prepared.rows id before known
        have still := charged_rows charged id
        rw [if_neg mine] at still
        exact ⟨kept, (back.others id mine).trans (still.trans there), prepared_kept moved⟩

/-- A session that is refused leaves the ledgers as they were, whatever its
billing preference and wherever it failed, where no row holds a stray count. -/
theorem failed_session_keeps_ledgers (calendar : Calendar) (preference : BillingPreference)
    (info : RelayInfo) (quota now : Int) (books after : Books) (error : BillingError)
    (unique : (books.db.subscriptions.map UserSubscription.id).Nodup)
    (counted : ∀ sub ∈ books.db.subscriptions, Counted sub ∧ ¬ Stray sub)
    (fresh : books.db.record info.request.requestId = none)
    (failed : newBillingSession calendar preference info quota now books = (after, .error error)) :
    Untouched now books after := by
  rcases new_session_tries failed with wallet | subscription
  · unfold tryWallet at wallet
    split at wallet
    · cases wallet
      exact untouched_refl now books
    · split at wallet
      · cases wallet
        exact untouched_refl now books
      · exact failed_wallet wallet
  · apply failed_subscription unique counted ?_ subscription
    exact fresh

def dueBooks : Books where
  db := {
    users := [{ id := 7 }]
    plans := [{ id := 1, terms := { totalAmount := 100, reset := ⟨.daily, 0, false, 0⟩ } }]
    subscriptions := [{
      id := 1
      userId := 7
      planId := 1
      amountTotal := 100
      amountUsed := 50
      resetPeriod := .daily
      startTime := 1000
      endTime := 2593000
      lastResetTime := 1000
      nextResetTime := 87400 }] }
  tokens := [{ id := 3, key := "spent" }]

def spentToken : RelayInfo where
  tokenId := 3
  tokenKey := "spent"
  request := { requestId := "first", userId := 7, amount := 0 }

/-- The request fails at the token, and the reset of the subscription stays. -/
theorem failed_session_saves_reset :
    ¬ ∀ (calendar : Calendar) (preference : BillingPreference) (info : RelayInfo) (quota now : Int)
      (books after : Books) (error : BillingError),
      (books.db.subscriptions.map UserSubscription.id).Nodup →
      (∀ sub ∈ books.db.subscriptions, Counted sub ∧ ¬ Stray sub) →
      books.db.record info.request.requestId = none →
      newBillingSession calendar preference info quota now books = (after, .error error) →
      ∀ id row, books.db.subscription id = some row →
        ∃ kept, after.db.subscription id = some kept ∧ SameUsage row kept := by
  intro always
  have due : ∀ sub ∈ dueBooks.db.subscriptions, Counted sub ∧ ¬ Stray sub := by
    intro sub member
    rw [List.mem_singleton.mp member]
    exact ⟨⟨by decide, by decide, by decide, by decide⟩, by decide⟩
  obtain ⟨kept, found, same⟩ := always dayCount .subscriptionOnly spentToken 10 90000 dueBooks _ _
    (by decide) due rfl rfl 1 _ rfl
  have cleared : kept.amountUsed = 0 := by
    cases found
    rfl
  have used : kept.amountUsed = 50 := same.amount
  omega

/-- The same request before the day is over. -/
theorem failed_session_on_first_day :
    Untouched 2000 dueBooks
      (newBillingSession dayCount .subscriptionOnly spentToken 10 2000 dueBooks).1 := by
  refine failed_session_keeps_ledgers dayCount .subscriptionOnly spentToken 10 2000 dueBooks _
    .preConsumeTokenQuotaFailed (by decide) ?_ rfl rfl
  intro sub member
  rw [List.mem_singleton.mp member]
  exact ⟨⟨by decide, by decide, by decide, by decide⟩, by decide⟩

end NewApi.BillingRollback
