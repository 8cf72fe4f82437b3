import NewApi.PreConsumeReplay
import NewApi.SubscriptionBounds

/-! Usage that is given back. A settlement compares the counters that it leaves
with the limits, also when it only lowers them, and the sync of an edited plan may
have put a limit on requests below what is used by then. The limit on amounts is
never synced, so the amount alone can always be given back. -/
namespace NewApi.UsageReturn
open NewApi.GuardedRun NewApi.KeyedTable
open NewApi.ResetWindow NewApi.Subscription
open NewApi.SubscriptionStore hiding step Event
open NewApi.SubscriptionRows NewApi.PlanSync NewApi.PreConsumeReplay
open NewApi.RefundWindow

def GivesBack (db : Database) (sub : UserSubscription)
    (amountDelta countDelta windowStart windowEnd now : Int) : Prop :=
  ∃ after, postConsumeUserSubscriptionDeltaForWindow sub.id amountDelta countDelta windowStart windowEnd
      now db = .ok after ∧
    ∃ row, after.subscription sub.id = some row ∧
      (leftWindow sub windowStart windowEnd = true → row = sub) ∧
      (leftWindow sub windowStart windowEnd = false → Lowered sub row amountDelta countDelta)

/-! ## What syncs leave true -/

section Rows
variable {calendar : Calendar} {sub : UserSubscription} {now : Int}

theorem counted_synced (plan : SubscriptionPlan) (now : Int) (counted : Counted sub) :
    Counted (syncRow calendar plan now sub) := by
  rcases sync_row_cases calendar plan now sub with same | ⟨-, synced⟩
  · rw [same]
    exact counted
  · obtain ⟨last, next, moved⟩ := recalculate_moves_window calendar (copyPlanFields sub plan.terms) now
    rw [synced, syncSubscriptionPlanSnapshotFields, moved]
    exact ⟨counted.id, counted.amountUsed, counted.requestCountUsed, counted.requestCountPeriodUsed,
      counted.amount⟩

theorem counted_reset_usage (now : Int) (counted : Counted sub) :
    Counted (resetUsageRow calendar sub now) := by
  unfold resetUsageRow
  split
  · exact counted_move_window _ _ (counted_clear counted)
  · exact counted_move_window _ _ (counted_clear counted)

end Rows

/-! ## Every run -/

section Runs
variable {calendar : Calendar} {db after : Database} {now : Int}

theorem counted_outcome {Error : Type} {result : Except Error Database} (all : AllRows Counted db)
    (kept : ∀ after, result = .ok after → AllRows Counted after) : AllRows Counted (outcome db result) := by
  cases result with
  | ok after => exact kept after rfl
  | error error => exact all

theorem counted_sync (all : AllRows Counted db) (plan : SubscriptionPlan) (plans : List SubscriptionPlan) :
    AllRows Counted { db with
      plans := plans
      subscriptions := db.subscriptions.map (syncRow calendar plan now) } := by
  refine ⟨all.nextId, ?_, all.records⟩
  intro row member
  obtain ⟨sub, held, rfl⟩ := List.mem_map.mp member
  exact counted_synced plan now (all.subscriptions sub held)

theorem counted_operate (all : AllRows Counted db) (operation : Operation) :
    AllRows Counted (operate calendar now db operation) := by
  have billing : ∀ event, operation.billing now = some event →
      AllRows Counted (operate calendar now db operation) := by
    intro event billed
    rw [operate_billing billed]
    exact step_all_rows (counted_rule calendar) db event
      (settlements_free (fun _ _ _ => trivial) db event) all
  cases operation with
  | create | preConsume | settle | refund | resetDue => exact billing _ rfl
  | updatePlan nextPlan =>
    refine counted_outcome all fun after updated => ?_
    obtain ⟨currentPlan, -, ⟨-, unsynced⟩ | ⟨-, synced⟩⟩ := update_plan_cases updated
    · rw [unsynced]
      exact ⟨all.nextId, all.subscriptions, all.records⟩
    · rw [synced]
      exact counted_sync all nextPlan _
  | syncPlan planId =>
    refine counted_outcome all fun after synced => ?_
    obtain ⟨plan, -, tables⟩ := sync_cases synced
    rw [tables]
    exact counted_sync all plan db.plans
  | resetUsage id =>
    refine counted_outcome all fun after reset => ?_
    obtain ⟨sub, held, -, -, tables⟩ := reset_usage_cases reset
    have counted := @counted_reset_usage calendar _ now (all.subscriptions sub (lookup_mem held))
    rw [tables]
    exact all_rows_save all (counted_touch now counted)

theorem run_counted (calendar : Calendar) (unissued : Unissued start.db)
    (events : List Event) : AllRows Counted (run (step calendar) start events).db :=
  have kept : ∀ timed event, AllRows Counted timed.db → AllRows Counted (step calendar timed event).db :=
    fun _ event all => counted_operate all event.operation
  run_preserves_always kept events (unissued_all_rows unissued)

end Runs

/-! ## When a return is accepted -/

section Returns
variable {sub : UserSubscription} {db : Database}
variable {amountDelta countDelta windowStart windowEnd now : Int}

theorem gives_back_iff (found : db.subscription sub.id = some sub) (counted : Counted sub)
    (lessCount : countDelta ≤ 0) :
    GivesBack db sub amountDelta countDelta windowStart windowEnd now ↔
      leftWindow sub windowStart windowEnd = true ∨ SettlementFits sub amountDelta countDelta := by
  have known : ¬ sub.id ≤ 0 := Int.not_le.mpr counted.id
  unfold GivesBack postConsumeUserSubscriptionDeltaForWindow
  rw [if_neg known]
  by_cases nothing : amountDelta = 0 ∧ countDelta = 0
  · rw [if_pos nothing]
    obtain ⟨rfl, rfl⟩ := nothing
    have fits : SettlementFits sub 0 0 := by constructor <;> simp
    refine ⟨fun _ => .inr fits, fun _ => ⟨db, rfl, sub, found, fun _ => rfl, fun _ => ?_⟩⟩
    have lowered := @settled_lowered sub 0 0 0 counted le_rfl
    exact ⟨lowered.amount, lowered.period, lowered.lifetime⟩
  · rw [if_neg nothing, found]
    dsimp only
    by_cases over_ : leftWindow sub windowStart windowEnd = true
    · rw [if_pos over_]
      exact ⟨fun _ => .inl over_, fun _ => ⟨db, rfl, sub, found, fun _ => rfl,
        fun current => absurd over_ (by simp [current])⟩⟩
    · rw [if_neg over_]
      constructor
      · rintro ⟨after, accepted, -⟩
        cases row : settleRow sub amountDelta countDelta with
        | error error => simp [row, Except.map] at accepted
        | ok settled => exact .inr (settle_row_ok_iff.mp row).2
      · intro fits
        have row := settle_row_ok_iff.mpr ⟨rfl, fits.resolve_left over_⟩
        rw [row]
        exact ⟨_, rfl, (settledRow sub amountDelta countDelta).touch now, lookup_save_self found,
          fun past => absurd past over_, fun _ => settled_lowered counted lessCount⟩

end Returns

/-- In every state that purchases, requests, settlements, refunds, due resets, edits
and syncs of plans and usage resets by hand lead to, usage can be given back exactly
where no requests are, where the window of the return is over, or where what stays
counted is within the limits on requests. -/
theorem usage_given_back_iff (calendar : Calendar) (start : Timed) (unissued : Unissued start.db)
    (events : List Event) (sub : UserSubscription)
    (held : (run (step calendar) start events).db.subscription sub.id = some sub)
    (amountDelta countDelta windowStart windowEnd now : Int) (lessAmount : amountDelta ≤ 0)
    (lessCount : countDelta ≤ 0) :
    GivesBack (run (step calendar) start events).db sub amountDelta countDelta windowStart windowEnd now ↔
      leftWindow sub windowStart windowEnd = true ∨ countDelta = 0 ∨ WithinAfter sub countDelta := by
  have counted := (run_counted calendar unissued events).subscriptions sub (lookup_mem held)
  rw [gives_back_iff held counted lessCount, return_fits_iff counted lessAmount lessCount]

def threeRequests : SubscriptionPlan where
  id := 1
  terms :=
    { resourceType := .requestCount
      requestCountTotal := 3 }

def requestShop : Timed where
  db := { users := [{ id := 7 }], plans := [threeRequests] }
  clock := 1000

def request (requestId : String) : PreConsumeRequest where
  requestId := requestId
  userId := 7
  amount := 5

def allUsed : List Event :=
  [⟨0, .create 7 1 threeRequests.terms .order⟩, ⟨10, .preConsume (request "a")⟩,
    ⟨10, .preConsume (request "b")⟩, ⟨10, .preConsume (request "c")⟩]

def cutToOne : Event :=
  ⟨10, .updatePlan { threeRequests with
    soldCount := 1
    terms := { threeRequests.terms with requestCountTotal := 1 } }⟩

/-- Of three requests used, one cannot be given back once the plan is cut to one. -/
theorem cut_plan_refuses_return :
    ¬ ∀ (calendar : Calendar) (start : Timed), Unissued start.db → ∀ (events : List Event) (sub : UserSubscription),
      (run (step calendar) start events).db.subscription sub.id = some sub →
      ∀ amountDelta countDelta windowStart windowEnd now : Int, amountDelta ≤ 0 → countDelta ≤ 0 →
        GivesBack (run (step calendar) start events).db sub amountDelta countDelta windowStart windowEnd now := by
  intro always
  have issued : ∃ sub, (run (step dayCount) requestShop (allUsed ++ [cutToOne])).db.subscription 1 = some sub ∧
      sub.id = 1 := ⟨_, rfl, rfl⟩
  obtain ⟨sub, held, first⟩ := issued
  have refused : postConsumeUserSubscriptionDeltaForWindow 1 0 (-1) 0 0 1050
      (run (step dayCount) requestShop (allUsed ++ [cutToOne])).db =
        .error (.requestCountExceedsTotal 2 1) := rfl
  obtain ⟨after, accepted, -⟩ := always dayCount requestShop ⟨by decide, rfl, rfl⟩ (allUsed ++ [cutToOne]) sub
    (by rw [first, held]) 0 (-1) 0 0 1050 (by decide) (by decide)
  rw [first, refused] at accepted
  cases accepted

theorem whole_plan_takes_return : ∃ sub,
    GivesBack (run (step dayCount) requestShop allUsed).db sub 0 (-1) 0 0 1050 ∧ sub.requestCountUsed = 3 := by
  have issued : ∃ sub, (run (step dayCount) requestShop allUsed).db.subscription 1 = some sub ∧ sub.id = 1 ∧
      sub.requestCountUsed = 3 ∧ sub.requestCountTotal = 3 ∧ getSubscriptionRequestCountPeriodLimit sub = 0 :=
    ⟨_, rfl, rfl, rfl, rfl, rfl⟩
  obtain ⟨sub, held, first, used, total, unlimited⟩ := issued
  refine ⟨sub, ?_, used⟩
  refine (usage_given_back_iff dayCount requestShop ⟨by decide, rfl, rfl⟩ allUsed sub (by rw [first, held])
    0 (-1) 0 0 1050 (by decide) (by decide)).mpr (.inr (.inr ⟨fun _ => by omega, fun limited => ?_⟩))
  rw [unlimited] at limited
  cases limited

end NewApi.UsageReturn
