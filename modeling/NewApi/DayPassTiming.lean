import NewApi.DayPassPlan

/-! The times of day passes: a pass lasts until the day after the one it is
made on, and its plan goes on the day after the one it was due on. A plan is not
stopped by its own pass where these two days are one. -/
namespace NewApi.DayPassTiming
open NewApi.GuardedRun NewApi.KeyedTable
open NewApi.ResetWindow NewApi.Subscription
open NewApi.SubscriptionStore hiding step Event
open NewApi.SubscriptionRows NewApi.SubscriptionBounds
open NewApi.UsageReconcile hiding Tables
open NewApi.DayPassPlan

/-! ## Days -/

structure ClockCalendar extends DayCalendar where
  clock_same_day : ∀ seconds {first second}, day first = day second →
    atClock seconds first = atClock seconds second

def equalClock : ClockCalendar where
  toDayCalendar := equalDays
  clock_same_day := by
    intro seconds first second same
    simp only [equalDays, dayCount] at same ⊢
    omega

section Days
variable (calendar : ClockCalendar) (parent : UserSubscription) {now : Int}

theorem pass_ends_tomorrow : calcDerivedDayPassEndTime calendar.toCalendar now parent =
    calendar.atClock (getDerivedDayPassFixedSeconds parent) (calendar.addDateReset 0 0 1 now) := by
  obtain ⟨low, high⟩ := fixed_seconds_within parent
  refine if_pos ?_
  show now < calendar.atClock (getDerivedDayPassFixedSeconds parent) (calendar.addDateReset 0 0 1 now)
  by_contra back
  have order := calendar.day_mono (Int.not_lt.mp back)
  rw [calendar.day_clock _ _ low high, calendar.day_tomorrow] at order
  omega

theorem pass_ends_by_next_day_iff (positive : 0 < slot) (due : slot ≤ now) :
    calcDerivedDayPassEndTime calendar.toCalendar now parent ≤
        calcNextDerivedDayPassPlanGenerateAt calendar.toCalendar slot parent ↔
      calendar.day now = calendar.day slot := by
  have next := next_plan_day calendar.toDayCalendar parent positive
  have reached := calendar.day_mono due
  obtain ⟨low, high⟩ := fixed_seconds_within parent
  constructor
  · intro ends
    have order := calendar.day_mono ends
    rw [next, pass_ends_tomorrow, calendar.day_clock _ _ low high, calendar.day_tomorrow] at order
    omega
  · intro sameDay
    rw [pass_ends_tomorrow, calcNextDerivedDayPassPlanGenerateAt, if_neg (by omega)]
    apply le_of_eq
    apply calendar.clock_same_day
    rw [calendar.day_tomorrow, calendar.day_tomorrow, sameDay]

theorem first_plan_day_ahead : now < calcDerivedDayPassPlanGenerateAt calendar.toCalendar now parent := by
  unfold calcDerivedDayPassPlanGenerateAt
  dsimp only
  split
  · assumption
  · obtain ⟨low, high⟩ := fixed_seconds_within parent
    by_contra back
    have order := calendar.day_mono (Int.not_lt.mp back)
    rw [calendar.day_tomorrow, calendar.day_clock _ _ low high] at order
    omega

end Days

/-! ## What the scheduler does with a due plan -/

structure Due (tables : PlanTables) (planId now : Int) (plan : SubscriptionDayPassPlan) : Prop where
  stored : tables.dayPassPlan planId = some plan
  active : plan.status = .active
  positive : 0 < plan.nextGenerateAt
  reached : plan.nextGenerateAt ≤ now
  more : plan.generatedDays < plan.totalDays

def Blocked (calendar : Calendar) (tables : PlanTables) (planId now : Int) : Prop :=
  ∃ plan base parent, Due tables planId now plan ∧
    readParent calendar plan.parentUserSubscriptionId plan.userId now tables.base = .ok (base, parent) ∧
    canGenerateDerivedDayPassFromSubscription tables.durations parent now = none ∧
    createDerivedDayPassFromParent calendar parent plan.requestCountPerDay now false base =
      .error .passInForce

structure Passes (calendar : Calendar) (tables : PlanTables) (planId now : Int)
    (fault : Option Fault) (plan : SubscriptionDayPassPlan) (pass : UserSubscription)
    (next : SubscriptionDayPassPlan) : Prop where
  before : tables.dayPassPlan planId = some plan
  made : ∃ generation, generation.child = pass ∧
    (step calendar tables (.processPlan planId now fault)).generations = tables.generations ++ [generation]
  after : (step calendar tables (.processPlan planId now fault)).dayPassPlan planId = some next
  active : next.status = .active

/-- What the transaction of a plan leaves: the tables as they were, an end of
the plan with a charge or a pass or without, or a pass and the next day. -/
inductive Processed (calendar : Calendar) (tables : PlanTables) (planId now : Int) :
    PlanTables → Prop
  | nothing : Processed calendar tables planId now tables
  | ended {status : PlanStatus} (text : String) (ends : status ≠ .active) :
    Processed calendar tables planId now (markDerivedDayPassPlanStatus tables planId status 0 text)
  | refused {plan : SubscriptionDayPassPlan} {base : Database} {parent : UserSubscription}
      (text : String) (due : Due tables planId now plan)
      (read : readParent calendar plan.parentUserSubscriptionId plan.userId now tables.base =
        .ok (base, parent)) :
    Processed calendar tables planId now
      (markDerivedDayPassPlanStatus { tables with base := base } planId .cancelled 0 text)
  | charged {plan : SubscriptionDayPassPlan} {base made : Database}
      {parent child : UserSubscription} {remain : Int} (text : String)
      (due : Due tables planId now plan)
      (read : readParent calendar plan.parentUserSubscriptionId plan.userId now tables.base =
        .ok (base, parent))
      (created : createDerivedDayPassFromParent calendar parent plan.requestCountPerDay now false
        base = .ok (made, child, remain)) :
    Processed calendar tables planId now (markDerivedDayPassPlanStatus
      { tables with base := base.saveSubscription ((made.subscription parent.id).getD parent) }
      planId .cancelled 0 text)
  | stopped {plan : SubscriptionDayPassPlan} {base made : Database}
      {parent child : UserSubscription} {remain : Int} (text : String)
      (due : Due tables planId now plan)
      (read : readParent calendar plan.parentUserSubscriptionId plan.userId now tables.base =
        .ok (base, parent))
      (created : createDerivedDayPassFromParent calendar parent plan.requestCountPerDay now false
        base = .ok (made, child, remain)) :
    Processed calendar tables planId now (markDerivedDayPassPlanStatus
      ({ tables with base := base }.addPass (some planId) plan.nextGenerateAt made child)
      planId .cancelled 0 text)
  | passed {plan : SubscriptionDayPassPlan} {base made : Database}
      {parent child : UserSubscription} {remain : Int} (due : Due tables planId now plan)
      (read : readParent calendar plan.parentUserSubscriptionId plan.userId now tables.base =
        .ok (base, parent))
      (created : createDerivedDayPassFromParent calendar parent plan.requestCountPerDay now false
        base = .ok (made, child, remain)) :
    Processed calendar tables planId now
      (({ tables with base := base }.addPass (some planId) plan.nextGenerateAt made child).writePlan
        planId (progressPlan calendar plan ((made.subscription parent.id).getD parent) remain now))

section Processing
variable {calendar : Calendar} {tables : PlanTables} {now : Int}

theorem process_cases
    (processed : processDueDerivedDayPassPlan calendar planId now fault tables = .ok after) :
    Processed calendar tables planId now after := by
  unfold processDueDerivedDayPassPlan at processed
  split at processed
  · cases processed
  · rename_i plan found
    have mine : plan.id = planId := lookup_key found
    split at processed
    · cases processed
      exact .nothing
    · rename_i due
      rw [mine] at processed
      split at processed
      · cases processed
        exact .ended _ (by decide)
      · rename_i more
        split at processed
        · cases processed
          exact .ended _ (by decide)
        · cases processed
        · rename_i base parent read
          have pending : Due tables planId now plan := by
            constructor
            case stored => exact found
            case active => exact not_not.mp fun ended => due (.inl ended)
            case positive => exact Int.not_le.mp fun undated => due (.inr (.inl undated))
            case reached => exact Int.not_lt.mp fun ahead => due (.inr (.inr ahead))
            case more => omega
          dsimp only at processed
          split at processed
          · cases processed
            exact .refused _ pending read
          · unfold generateForPlan at processed
            rw [mine] at processed
            split at processed
            · cases processed
              exact .refused _ pending read
            · rename_i made
              dsimp only at processed
              split at processed
              · cases processed
              · cases processed
                exact .charged _ pending read made
              · cases processed
                exact .stopped _ pending read made
              · cases processed
                exact .passed pending read made

theorem not_grown {α : Type} {history : List α} {entry : α} : history ≠ history ++ [entry] := by
  simp

theorem written_plan {before : PlanTables}
    {change : SubscriptionDayPassPlan → SubscriptionDayPassPlan}
    (keeps : ∀ plan, (change plan).id = plan.id)
    (found : (before.writePlan planId change).dayPassPlan planId = some next) :
    ∃ old, before.dayPassPlan planId = some old ∧ change old = next := by
  have written : (before.writePlan planId change).dayPassPlan planId =
      (before.dayPassPlan planId).map change := by
    refine (lookup_update before.dayPassPlans planId planId change keeps).trans ?_
    exact if_pos rfl
  exact Option.map_eq_some_iff.mp (written.symm.trans found)

theorem passed_times {plan : SubscriptionDayPassPlan}
    (read : readParent calendar plan.parentUserSubscriptionId plan.userId now tables.base =
      .ok (base, parent))
    (created : createDerivedDayPassFromParent calendar parent plan.requestCountPerDay now false
      base = .ok (made, child, remain)) :
    child.endTime =
      calcDerivedDayPassEndTime calendar now ((made.subscription parent.id).getD parent) := by
  obtain ⟨-, -, row, -, -, stored, -⟩ := parent_stored read
  have charged := @pass_charged { tables with base := base } _ _ _ _ _ _ _ _ _ stored created
  obtain ⟨-, -, -, passed, -⟩ := day_pass_written stored created
  rw [charged, passed]
  rfl

theorem passes_cases {plan next : SubscriptionDayPassPlan} {pass : UserSubscription}
    (passes : Passes calendar tables planId now fault plan pass next) :
    Due tables planId now plan ∧ ∃ parent,
      pass.endTime = calcDerivedDayPassEndTime calendar now parent ∧
      next.nextGenerateAt =
        calcNextDerivedDayPassPlanGenerateAt calendar plan.nextGenerateAt parent := by
  obtain ⟨found, ⟨generation, rfl, grown⟩, after, active⟩ := passes
  dsimp only [step] at grown after
  cases processed : processDueDerivedDayPassPlan calendar planId now fault tables with
  | error error =>
    rw [processed] at grown
    exact absurd grown not_grown
  | ok result =>
    rw [processed] at grown after
    dsimp only [outcome] at grown after
    cases process_cases processed with
    | nothing | ended | refused | charged => exact absurd grown not_grown
    | stopped text due read created =>
      unfold markDerivedDayPassPlanStatus at after
      obtain ⟨old, -, rfl⟩ := written_plan (by exact fun _ => rfl) after
      cases active
    | passed due read created =>
      rename_i held base made parent child remain
      have same : held = plan := Option.some.inj (due.stored.symm.trans found)
      subst same
      obtain ⟨old, -, rfl⟩ := written_plan (by exact fun _ => rfl) after
      have mine : generation.child = child := by
        have last := List.append_cancel_left grown
        rw [← List.singleton_inj.mp last]
      refine ⟨due, _, ?_, after_pass_active active⟩
      rw [mine]
      exact passed_times read created

end Processing

/-! ## Plans that keep their pace -/

def OverBefore (plans : List SubscriptionDayPassPlan) (sub : UserSubscription) : Prop :=
  sub.parentUserSubscriptionId ≠ 0 → sub.status = .active →
    ∀ plan ∈ plans, plan.status = .active →
      plan.parentUserSubscriptionId = sub.parentUserSubscriptionId → sub.endTime ≤ plan.nextGenerateAt

/-- What every transaction keeps: a parent has one plan in force, and its passes
are over before the plan goes on. -/
structure Paced (tables : PlanTables) : Prop where
  rows : AllRows (OverBefore tables.dayPassPlans) tables.base
  planIds : (tables.dayPassPlans.map SubscriptionDayPassPlan.id).Nodup
  below : ∀ plan ∈ tables.dayPassPlans, plan.id < tables.nextPlanId
  single : ∀ one ∈ tables.dayPassPlans, ∀ other ∈ tables.dayPassPlans,
    one.status = .active → other.status = .active →
      one.parentUserSubscriptionId = other.parentUserSubscriptionId → one.id = other.id

def NoEarlier (plans later : List SubscriptionDayPassPlan) : Prop :=
  ∀ next ∈ later, next.status = .active → ∃ plan ∈ plans, plan.id = next.id ∧
    plan.status = .active ∧ plan.parentUserSubscriptionId = next.parentUserSubscriptionId ∧
    plan.nextGenerateAt ≤ next.nextGenerateAt

theorem no_earlier_refl (plans : List SubscriptionDayPassPlan) : NoEarlier plans plans :=
  fun next member active => ⟨next, member, rfl, active, rfl, le_rfl⟩

section Pace
variable {calendar : ClockCalendar} {tables : PlanTables} {planId now : Int}

theorem over_before_later (noEarlier : NoEarlier plans later) (ended : OverBefore plans sub) :
    OverBefore later sub := by
  intro pass active next member inForce mine
  obtain ⟨plan, held, -, was, same, order⟩ := noEarlier next member inForce
  have ends := ended pass active plan held was (same.trans mine)
  omega

theorem over_before_rule (calendar : Calendar) (plans : List SubscriptionDayPassPlan) :
    RowRule calendar (fun _ _ _ => True) (OverBefore plans) where
  issued _ _ _ _ _ _ _ _ _ := fun child => absurd rfl child
  rebound _ _ _ _ ended := ended
  reset sub now ended := by
    obtain ⟨last, next, reset | reset | reset⟩ := reset_cases calendar sub now <;> rw [reset]
    · exact ended
    · exact ended
    · unfold clearWindowUsage
      split <;> exact ended
  preConsumed _ _ _ _ ended _ := ended
  settled _ _ _ _ _ _ ended := ended
  givesBack _ _ _ _ _ := trivial

theorem Paced.follow (paced : Paced tables)
    (keys : after.dayPassPlans.map SubscriptionDayPassPlan.id =
      tables.dayPassPlans.map SubscriptionDayPassPlan.id)
    (nextId : after.nextPlanId = tables.nextPlanId)
    (noEarlier : NoEarlier tables.dayPassPlans after.dayPassPlans)
    (rows : AllRows (OverBefore after.dayPassPlans) after.base) : Paced after where
  rows := rows
  planIds := by
    rw [keys]
    exact paced.planIds
  below plan member := by
    have held : plan.id ∈ tables.dayPassPlans.map SubscriptionDayPassPlan.id := by
      rw [← keys]
      exact List.mem_map_of_mem member
    obtain ⟨old, inside, same⟩ := List.mem_map.mp held
    rw [← same, nextId]
    exact paced.below old inside
  single one member other member_ active active_ same := by
    obtain ⟨first, held, named, was, mine, -⟩ := noEarlier one member active
    obtain ⟨second, held_, named_, was_, mine_, -⟩ := noEarlier other member_ active_
    rw [← named, ← named_]
    apply paced.single first held second held_ was was_
    rw [mine, mine_, same]

theorem marked_no_earlier (ends : status ≠ .active) :
    NoEarlier tables.dayPassPlans
      (markDerivedDayPassPlanStatus tables planId status next text).dayPassPlans := by
  intro plan member active
  obtain ⟨old, held, rfl⟩ := List.mem_map.mp member
  by_cases mine : old.id = planId
  · rw [if_pos mine] at active
    exact absurd active ends
  · rw [if_neg mine] at active ⊢
    exact ⟨old, held, rfl, active, rfl, le_rfl⟩

theorem Paced.mark (paced : Paced tables)
    (samePlans : before.dayPassPlans = tables.dayPassPlans)
    (sameId : before.nextPlanId = tables.nextPlanId)
    (ends : status ≠ .active)
    (rows : AllRows (OverBefore
      (markDerivedDayPassPlanStatus before planId status 0 text).dayPassPlans) before.base) :
    Paced (markDerivedDayPassPlanStatus before planId status 0 text) := by
  refine paced.follow ?_ sameId ?_ rows
  · rw [← samePlans]
    exact map_key_update _ _ fun _ => rfl
  · rw [← samePlans]
    exact marked_no_earlier ends

theorem Paced.end_ (paced : Paced tables)
    (ends : status ≠ .active) (rows : AllRows (OverBefore tables.dayPassPlans) base) :
    Paced (markDerivedDayPassPlanStatus { tables with base := base } planId status 0 text) := by
  refine paced.mark (by rfl) (by rfl) ends ?_
  apply rows.imp
  intro sub
  exact over_before_later (marked_no_earlier ends)

theorem progressed_no_earlier
    (paced : Paced tables) (due : Due tables planId now plan) :
    NoEarlier tables.dayPassPlans (tables.writePlan planId
      (progressPlan calendar.toCalendar plan parent remain now)).dayPassPlans := by
  intro next member active
  obtain ⟨old, held, rfl⟩ := List.mem_map.mp member
  by_cases mine : old.id = planId
  · have same : old = plan := by
      have stored := lookup_of_mem paced.planIds held
      rw [mine] at stored
      exact Option.some.inj (stored.symm.trans due.stored)
    rw [if_pos mine] at active ⊢
    subst same
    refine ⟨old, held, rfl, due.active, rfl, ?_⟩
    have tomorrow : (progressPlan calendar.toCalendar old parent remain now old).nextGenerateAt =
        calcNextDerivedDayPassPlanGenerateAt calendar.toCalendar old.nextGenerateAt parent :=
      after_pass_active active
    have later := next_plan_day_later calendar.toDayCalendar parent due.positive
    omega
  · rw [if_neg mine] at active ⊢
    exact ⟨old, held, rfl, active, rfl, le_rfl⟩

theorem Paced.pass
    {id : Int}
    (paced : Paced tables)
    (read : readParent calendar.toCalendar id userId now tables.base = .ok (base, parent))
    (created : createDerivedDayPassFromParent calendar.toCalendar parent count now inForce base =
      .ok (made, child, remain))
    (noEarlier : NoEarlier tables.dayPassPlans later) (mine : OverBefore later child) :
    AllRows (OverBefore later) made := by
  obtain ⟨rows, -, row, last, next, stored, -⟩ :=
    parent_read (over_before_rule calendar.toCalendar tables.dayPassPlans) paced.rows read
  have held := rows.subscriptions row (lookup_mem stored)
  exact @pass_tables { tables with base := base } _ _ _ _ _ _ _ _ _ stored created _ _ rows
    (fun sub => over_before_later noEarlier) held mine

theorem pass_parent
    {id : Int}
    (read : readParent calendar.toCalendar id userId now tables.base = .ok (base, parent))
    (created : createDerivedDayPassFromParent calendar.toCalendar parent count now inForce base =
      .ok (made, child, remain)) : child.parentUserSubscriptionId = id := by
  obtain ⟨-, mine, row, -, -, stored, -⟩ := parent_stored read
  obtain ⟨-, -, -, passed, -⟩ := day_pass_written stored created
  have here : row.id = parent.id := lookup_key stored
  rw [passed, ← mine, ← here]
  rfl

theorem charged_over
    {id : Int} (paced : Paced tables)
    (read : readParent calendar.toCalendar id userId now tables.base = .ok (base, parent))
    (created : createDerivedDayPassFromParent calendar.toCalendar parent count now inForce base =
      .ok (made, child, remain)) :
    AllRows (OverBefore tables.dayPassPlans)
      (base.saveSubscription ((made.subscription parent.id).getD parent)) := by
  obtain ⟨rows, -, row, last, next, stored, -⟩ :=
    parent_read (over_before_rule calendar.toCalendar tables.dayPassPlans) paced.rows read
  have charged := @pass_charged { tables with base := base } _ _ _ _ _ _ _ _ _ stored created
  have held := rows.subscriptions row (lookup_mem stored)
  rw [charged]
  exact all_rows_save rows held

def OnItsDay (calendar : ClockCalendar) (tables : PlanTables) : Event → Prop
  | .processPlan planId now _ => ∀ plan, tables.dayPassPlan planId = some plan →
      plan.status = .active → 0 < plan.nextGenerateAt → plan.nextGenerateAt ≤ now →
      plan.generatedDays + 1 < plan.totalDays → calendar.day now = calendar.day plan.nextGenerateAt
  | _ => True

theorem after_pass_more
    (goesOn : (afterPass days plan parent remain).1 = .active) :
    plan.generatedDays + 1 < plan.totalDays := by
  unfold afterPass at goesOn
  split at goesOn
  · cases goesOn
  · rename_i more
    exact Int.not_le.mp fun last => more (.inl last)

theorem paced_process (paced : Paced tables)
    (onItsDay : OnItsDay calendar tables (.processPlan planId now fault))
    (processed : processDueDerivedDayPassPlan calendar.toCalendar planId now fault tables =
      .ok after) : Paced after := by
  cases process_cases processed with
  | nothing => exact paced
  | ended text ends => exact paced.end_ ends paced.rows
  | refused text due read =>
    have rows := parent_read (over_before_rule calendar.toCalendar tables.dayPassPlans) paced.rows read
    exact paced.end_ (by decide) rows.1
  | charged text due read created => exact paced.end_ (by decide) (charged_over paced read created)
  | stopped text due read created =>
    rename_i plan base made parent child remain
    have ends : PlanStatus.cancelled ≠ .active := by decide
    refine paced.mark (by rfl) (by rfl) ends ?_
    refine paced.pass read created (marked_no_earlier ends) ?_
    intro pass active other member inForce mine
    obtain ⟨old, held, rfl⟩ := List.mem_map.mp member
    rw [pass_parent read created] at mine
    by_cases same : old.id = planId
    · rw [if_pos same] at inForce
      cases inForce
    · rw [if_neg same] at inForce mine
      have stored := lookup_mem due.stored
      have only := paced.single old held plan stored inForce due.active mine
      exact absurd (only.trans (lookup_key due.stored)) same
  | passed due read created =>
    rename_i plan base made parent child remain
    have noEarlier : NoEarlier tables.dayPassPlans (tables.writePlan planId
        (progressPlan calendar.toCalendar plan ((made.subscription parent.id).getD parent) remain
          now)).dayPassPlans :=
      progressed_no_earlier paced due
    refine paced.follow ?_ rfl noEarlier ?_
    · exact map_key_update _ _ fun _ => rfl
    refine paced.pass read created noEarlier ?_
    intro pass active other member inForce mine
    obtain ⟨old, held, rfl⟩ := List.mem_map.mp member
    rw [pass_parent read created] at mine
    by_cases same : old.id = planId
    · rw [if_pos same] at inForce ⊢
      have more : plan.generatedDays + 1 < plan.totalDays := after_pass_more inForce
      have today := onItsDay plan due.stored due.active due.positive due.reached more
      have next := after_pass_active inForce
      have ends := (pass_ends_by_next_day_iff calendar ((made.subscription parent.id).getD parent)
        due.positive due.reached).mpr today
      rw [passed_times read created]
      exact ends.trans_eq next.symm
    · rw [if_neg same] at inForce mine
      have stored := lookup_mem due.stored
      have only := paced.single old held plan stored inForce due.active mine
      exact absurd (only.trans (lookup_key due.stored)) same

theorem no_plan_in_force (positive : 0 < parentId)
    (absent : (getActiveDerivedDayPassPlanByParent tables parentId).isSome ≠ true) :
    ∀ plan ∈ tables.dayPassPlans, plan.status = .active → plan.parentUserSubscriptionId ≠ parentId := by
  intro plan member active mine
  unfold getActiveDerivedDayPassPlanByParent at absent
  rw [if_neg (by omega)] at absent
  have sought : plan ∈ tables.dayPassPlans.filter fun plan =>
      plan.parentUserSubscriptionId = parentId && plan.status = .active :=
    List.mem_filter.mpr ⟨member, by simp [mine, active]⟩
  obtain ⟨head, found⟩ : ∃ head, first
      (fun one other : SubscriptionDayPassPlan => other.id ≤ one.id) _ = some head :=
    first_of_mem sought
  rw [found] at absent
  exact absent rfl

theorem passed_without_plan
    (created : createDerivedDayPassFromParent days parent count now inForce db =
      .ok (made, child, remain)) : inForce ≠ true := by
  intro forced
  unfold createDerivedDayPassFromParent at created
  split at created
  · cases created
  · split at created
    · cases created
    · subst forced
      cases created

theorem refused_for_active
    (refused : createDerivedDayPassFromParent days parent count now inForce db =
      .error .passInForce) : 0 < parent.id ∧ hasActiveChild db parent.id now = true := by
  unfold createDerivedDayPassFromParent at refused
  split at refused
  · cases refused
  · rename_i positive
    split at refused
    · cases refused
    · split at refused
      · cases refused
      · split at refused
        · rename_i blocking
          exact ⟨Int.not_le.mp positive, blocking⟩
        · split at refused
          · cases refused
          · split at refused
            · cases refused
            · split at refused
              · cases refused
              · split at refused <;> cases refused

theorem admitted_cases
    (admitted : admitPlan calendar.toCalendar tables parent totalDays perDay now = none) :
    0 < parent.id ∧ (getActiveDerivedDayPassPlanByParent tables parent.id).isSome ≠ true ∧
      hasActiveChild tables.base parent.id now ≠ true := by
  unfold admitPlan at admitted
  dsimp only at admitted
  split at admitted
  · cases admitted
  · rename_i allowed
    split at admitted
    · cases admitted
    · rename_i single
      split at admitted
      · cases admitted
      · rename_i ended
        refine ⟨?_, single, ended⟩
        unfold canGenerateDerivedDayPassFromSubscription at allowed
        dsimp only at allowed
        split at allowed
        · cases allowed
        · omega

theorem Paced.insert
    (paced : Paced tables) (rows : AllRows (OverBefore tables.dayPassPlans) base)
    (fresh : plan.id = tables.nextPlanId) (ahead : now < plan.nextGenerateAt)
    (alone : ∀ other ∈ tables.dayPassPlans, other.status = .active →
      other.parentUserSubscriptionId ≠ plan.parentUserSubscriptionId)
    (idle : hasActiveChild base plan.parentUserSubscriptionId now ≠ true) :
    Paced { tables with
      base := base
      dayPassPlans := tables.dayPassPlans ++ [plan]
      nextPlanId := tables.nextPlanId + 1 } := by
  constructor
  case rows =>
    refine ⟨rows.nextId, ?_, rows.records⟩
    intro sub member pass active held planMember inForce mine
    rcases List.mem_append.mp planMember with old | new
    · exact rows.subscriptions sub member pass active held old inForce mine
    · rw [List.mem_singleton.mp new] at mine ⊢
      have ended : sub.endTime ≤ now := by
        by_contra lasts
        apply idle
        refine List.any_eq_true.mpr ⟨sub, member, ?_⟩
        have mine : sub.parentUserSubscriptionId = plan.parentUserSubscriptionId := mine.symm
        simp [mine, active, Int.not_le.mp lasts]
      omega
  case planIds =>
    show ((tables.dayPassPlans ++ [_]).map SubscriptionDayPassPlan.id).Nodup
    rw [List.map_append, List.map_singleton]
    apply List.nodup_append.mpr
    refine ⟨paced.planIds, List.nodup_singleton _, ?_⟩
    intro id member other new same
    obtain ⟨old, held, rfl⟩ := List.mem_map.mp member
    have below := paced.below old held
    rw [List.mem_singleton.mp new, fresh] at same
    exact absurd same below.ne
  case below =>
    intro other member
    show other.id < tables.nextPlanId + 1
    rcases List.mem_append.mp member with old | new
    · have below := paced.below other old
      omega
    · rw [List.mem_singleton.mp new, fresh]
      exact Int.lt_succ _
  case single =>
    intro one member other member_ active active_ same
    rcases List.mem_append.mp member with old | new
    · rcases List.mem_append.mp member_ with old_ | new_
      · exact paced.single one old other old_ active active_ same
      · rw [List.mem_singleton.mp new_] at same
        exact absurd same (alone one old active)
    · rcases List.mem_append.mp member_ with old_ | new_
      · rw [List.mem_singleton.mp new] at same
        exact absurd same.symm (alone other old_ active_)
      · rw [List.mem_singleton.mp new, List.mem_singleton.mp new_]

theorem paced_create_plan (paced : Paced tables)
    (created : createDerivedDayPassPlan calendar.toCalendar userId parentId totalDays perDay now
      tables = .ok after) : Paced after := by
  obtain ⟨-, -, base, parent, read, admitted, rfl⟩ := create_plan_cases created
  obtain ⟨rows, -⟩ := parent_read (over_before_rule calendar.toCalendar tables.dayPassPlans) paced.rows read
  obtain ⟨positive, single, idle⟩ := admitted_cases admitted
  have ahead : now < (newPlan calendar.toCalendar tables.nextPlanId userId parent
      totalDays perDay now).nextGenerateAt := first_plan_day_ahead calendar parent
  exact paced.insert rows rfl ahead (no_plan_in_force positive single) idle

theorem paced_create_pass (paced : Paced tables)
    (created : createDerivedDayPassFromSubscription calendar.toCalendar userId parentId count now
      tables = .ok after) : Paced after := by
  obtain ⟨positive, base, parent, made, child, remain, read, passed, rfl⟩ := create_pass_cases created
  have noEarlier := no_earlier_refl tables.dayPassPlans
  refine paced.follow rfl rfl noEarlier ?_
  refine paced.pass read passed noEarlier ?_
  obtain ⟨-, mine, -⟩ := parent_stored read
  have absent : (getActiveDerivedDayPassPlanByParent tables parent.id).isSome ≠ true :=
    passed_without_plan passed
  rw [mine] at absent
  have others := no_plan_in_force positive absent
  intro pass active plan member inForce same
  rw [pass_parent read passed] at same
  exact absurd same (others plan member inForce)

theorem paced_cancel {readable : SubscriptionDayPassPlan → Bool} (paced : Paced tables)
    (cancelled : cancelPlan planId readable tables = .ok after) : Paced after := by
  unfold cancelPlan at cancelled
  split at cancelled
  · cases cancelled
  · split at cancelled
    · cases cancelled
    · cases cancelled
      exact paced.end_ (by decide) paced.rows

theorem paced_outcome {Error : Type} {result : Except Error PlanTables} (paced : Paced tables)
    (kept : ∀ after, result = .ok after → Paced after) : Paced (outcome tables result) := by
  cases result with
  | ok after => exact kept after rfl
  | error error => exact paced

theorem step_paced (tables : PlanTables) (event : Event) (onItsDay : OnItsDay calendar tables event)
    (paced : Paced tables) : Paced (step calendar.toCalendar tables event) := by
  cases event with
  | base event =>
    refine paced.follow rfl rfl (no_earlier_refl _) ?_
    exact step_all_rows (over_before_rule calendar.toCalendar tables.dayPassPlans) _ event
      (settlements_free (fun _ _ _ => trivial) _ event) paced.rows
  | createPlan => exact paced_outcome paced fun after => paced_create_plan paced
  | createPass => exact paced_outcome paced fun after => paced_create_pass paced
  | processPlan => exact paced_outcome paced fun after => paced_process paced onItsDay
  | cancel userId planId =>
    refine paced_outcome paced fun after cancelled => ?_
    unfold cancelDerivedDayPassPlan at cancelled
    split at cancelled
    · cases cancelled
    · exact paced_cancel paced cancelled
  | adminCancel planId =>
    refine paced_outcome paced fun after cancelled => ?_
    unfold adminCancelDerivedDayPassPlan at cancelled
    split at cancelled
    · cases cancelled
    · exact paced_cancel paced cancelled

theorem paced_unblocked (paced : Paced tables) (planId now : Int) :
    ¬ Blocked calendar.toCalendar tables planId now := by
  rintro ⟨plan, base, parent, due, read, -, refused⟩
  obtain ⟨rows, -⟩ :=
    parent_read (over_before_rule calendar.toCalendar tables.dayPassPlans) paced.rows read
  obtain ⟨-, mine, -⟩ := parent_stored read
  obtain ⟨positive, blocking⟩ := refused_for_active refused
  obtain ⟨child, member, held⟩ := List.any_eq_true.mp blocking
  simp only [Bool.and_eq_true, decide_eq_true_eq] at held
  obtain ⟨⟨same, active⟩, lasts⟩ := held
  have ends := rows.subscriptions child member (by omega) active plan (lookup_mem due.stored)
    due.active (mine.symm.trans same.symm)
  have reached := due.reached
  omega

end Pace

/-! ## Every run -/

theorem unplanned_paced (unplanned : Unplanned start) : Paced start where
  rows := unissued_all_rows unplanned.unissued
  planIds := by simp [unplanned.plans]
  below := by simp [unplanned.plans]
  single := by simp [unplanned.plans]

/-- In every run of purchases, requests, conversions, scheduled passes at any
delay, passes by hand and cancellations, a pass of a plan that goes on ends by
the next time of the plan exactly when it is made on the day that it was due on;
and where every plan with a next day to come is processed on its day, no pass
is ever in the way of a plan. -/
theorem pass_ends_in_time_iff (calendar : ClockCalendar) (start : PlanTables)
    (unplanned : Unplanned start) (events : List Event) :
    (∀ planId now fault plan pass next,
      Passes calendar.toCalendar (run (step calendar.toCalendar) start events) planId now fault plan
          pass next →
        (pass.endTime ≤ next.nextGenerateAt ↔ calendar.day now = calendar.day plan.nextGenerateAt)) ∧
      (Guarded (step calendar.toCalendar) (OnItsDay calendar) start events →
        ∀ planId now, ¬ Blocked calendar.toCalendar (run (step calendar.toCalendar) start events)
          planId now) := by
  constructor
  · intro planId now fault plan pass next passes
    obtain ⟨due, parent, ends, goesOn⟩ := passes_cases passes
    rw [ends, goesOn]
    exact pass_ends_by_next_day_iff calendar parent due.positive due.reached
  · intro onItsDay planId now
    exact paced_unblocked (run_preserves step_paced onItsDay (unplanned_paced unplanned)) planId now

def planned : List Event :=
  [.base (.create 7 2 cappedMonth.terms .order 1000), .createPlan 7 1 2 3 2000]

def twoDays : SubscriptionDayPassPlan where
  id := 1
  userId := 7
  parentUserSubscriptionId := 1
  totalDays := 2
  requestCountPerDay := 3
  totalRequestCount := 6
  nextGenerateAt := 28800

def oneDayLeft (now : Int) : SubscriptionDayPassPlan :=
  { twoDays with
    generatedDays := 1
    generatedRequestCount := 3
    nextGenerateAt := 115200
    lastGenerateAt := now }

def firstPass (now : Int) : Generation :=
  (run (step equalClock.toCalendar) monthShop (planned ++ [.processPlan 1 now none])).generations.headD
    ⟨none, 0, {}, {}, {}⟩

theorem first_pass_on_its_day :
    Passes equalClock.toCalendar (run (step equalClock.toCalendar) monthShop planned) 1 30000 none
      twoDays (firstPass 30000).child (oneDayLeft 30000) :=
  ⟨by decide +kernel, ⟨firstPass 30000, rfl, by decide +kernel⟩, by decide +kernel, rfl⟩

theorem first_pass_a_day_late :
    Passes equalClock.toCalendar (run (step equalClock.toCalendar) monthShop planned) 1 100000 none
      twoDays (firstPass 100000).child (oneDayLeft 100000) :=
  ⟨by decide +kernel, ⟨firstPass 100000, rfl, by decide +kernel⟩, by decide +kernel, rfl⟩

/-- A pass that is made on the morning after its day is in force when its plan
is due again, which cancels the plan. -/
theorem late_pass_cancels_its_plan :
    (run (step equalClock.toCalendar) monthShop (planned ++
        [.processPlan 1 100000 none, .processPlan 1 115200 none])).dayPassPlans.map
      (fun plan => (plan.status, plan.generatedDays, plan.lastError)) =
        [(.cancelled, 1, DayPassError.passInForce.text)] ∧
    ¬ ∀ (calendar : ClockCalendar) (start : PlanTables) (events : List Event), Unplanned start →
      ∀ planId now fault plan pass next,
        Passes calendar.toCalendar (run (step calendar.toCalendar) start events) planId now fault
          plan pass next → pass.endTime ≤ next.nextGenerateAt := by
  refine ⟨by decide +kernel, ?_⟩
  intro always
  have ends := always equalClock monthShop planned unplanned_shop _ _ _ _ _ _ first_pass_a_day_late
  have late : ¬ (firstPass 100000).child.endTime ≤ (oneDayLeft 100000).nextGenerateAt := by
    decide +kernel
  exact late ends

theorem first_pass_ends_in_time :
    (firstPass 30000).child.endTime ≤ (oneDayLeft 30000).nextGenerateAt ∧
      ¬ Blocked equalClock.toCalendar (run (step equalClock.toCalendar) monthShop planned) 1 30000 := by
  obtain ⟨ends, free⟩ := pass_ends_in_time_iff equalClock monthShop unplanned_shop planned
  refine ⟨(ends _ _ _ _ _ _ first_pass_on_its_day).mpr (by decide), ?_⟩
  exact free ⟨trivial, trivial, trivial⟩ 1 30000

end NewApi.DayPassTiming
