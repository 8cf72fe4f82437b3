import NewApi.TruncatedScaling

/-! The quota of a submitted task: the base quota is multiplied with every
ratio in turn and truncated each time, and a ratio set that the upstream
adjusts is applied to the base that is divided out again. Both loops range
over a map, in any order. -/
namespace NewApi.TaskRatios
open NewApi.TruncatedScaling

/-! ## Prices -/

/-- `types/price_data.go::PriceData.OtherRatios`, a map that is only written by
`AddOtherRatio`. -/
structure OtherRatios where
  entries : List (String × Rat) := []
  distinct : (entries.map Prod.fst).Nodup := by simp
  positive : ∀ entry ∈ entries, 0 < entry.2 := by simp

def OtherRatios.set (ratios : OtherRatios) (key : String) (ratio : Rat) (positive : 0 < ratio) :
    OtherRatios where
  entries := ratios.entries.filter (fun entry => entry.1 ≠ key) ++ [(key, ratio)]
  distinct := by
    rw [List.map_append]
    apply List.nodup_append.mpr
    refine ⟨ratios.distinct.sublist (List.filter_sublist.map _), List.nodup_singleton _, ?_⟩
    rintro name member other new rfl
    obtain ⟨entry, held, rfl⟩ := List.mem_map.mp member
    have different := (List.mem_filter.mp held).2
    simp only [List.map_cons, List.map_nil, List.mem_singleton] at new
    simp [new] at different
  positive := by
    intro entry member
    rcases List.mem_append.mp member with old | new
    · exact ratios.positive entry (List.mem_filter.mp old).1
    · rw [List.mem_singleton.mp new]
      exact positive

/-- What `types/price_data.go::PriceData` holds of a task's price. -/
structure PriceData where
  quota : Int
  otherRatios : OtherRatios := {}

/-- `types/price_data.go::PriceData.AddOtherRatio`. -/
def PriceData.addOtherRatio (price : PriceData) (key : String) (ratio : Rat) : PriceData :=
  if positive : 0 < ratio then
    { price with otherRatios := price.otherRatios.set key ratio positive }
  else price

/-! ## The loops -/

/-- The loop of `relay/relay_task.go::RelayTaskSubmit` over the ratios. -/
def applyOtherRatios (order : List (String × Rat)) (quota : Int) : Int :=
  order.foldl (fun quota entry => if entry.2 ≠ 1 then truncate (quota * entry.2) else quota) quota

def submittedQuota (taskPricePatches : List String) (modelName : String)
    (order : List (String × Rat)) (baseQuota : Int) : Int :=
  if taskPricePatches.contains modelName then baseQuota else applyOtherRatios order baseQuota

/-- The first loop of `recalcQuotaFromRatios`. -/
def divideOtherRatios (order : List (String × Rat)) (quota : Int) : Int :=
  order.foldl (fun quota entry =>
    if entry.2 ≠ 1 ∧ 0 < entry.2 then truncate (quota / entry.2) else quota) quota

/-- `relay/relay_task.go::recalcQuotaFromRatios`, with the orders in which its
two loops range over the old ratios and the new ones. -/
def recalcQuotaFromRatios (oldOrder newOrder : List (String × Rat)) (quota : Int) : Int :=
  truncate (newOrder.foldl (fun result entry => if entry.2 ≠ 1 then result * entry.2 else result)
    (divideOtherRatios oldOrder quota : Rat))

structure Orders where
  applied : List (String × Rat)
  divided : List (String × Rat)
  adjusted : List (String × Rat)

def estimatedPrice (baseQuota : Int) (estimatedRatios : List (String × Rat)) : PriceData :=
  estimatedRatios.foldl (fun price entry => PriceData.addOtherRatio price entry.1 entry.2) ⟨baseQuota, {}⟩

/-- The price of `relay/relay_task.go::RelayTaskSubmit`: the estimated ratios
are added and applied, and a nonempty adjustment recalculates the quota and
replaces them. -/
def relayTaskSubmit (taskPricePatches : List String) (modelName : String) (baseQuota : Int)
    (estimatedRatios : List (String × Rat)) (adjustedRatios : OtherRatios) (orders : Orders) :
    PriceData :=
  let price := estimatedPrice baseQuota estimatedRatios
  let quota := submittedQuota taskPricePatches modelName orders.applied price.quota
  if adjustedRatios.entries = [] then { price with quota := quota }
  else
    { quota := recalcQuotaFromRatios orders.divided orders.adjusted quota
      otherRatios := adjustedRatios }

/-! ## What a submission is to be -/

def Ranges (ratios : OtherRatios) (order : List (String × Rat)) : Prop :=
  order.Perm ratios.entries

structure Orders.Range (orders : Orders) (ratios : OtherRatios) : Prop where
  applied : Ranges ratios orders.applied
  divided : Ranges ratios orders.divided
  adjusted : Ranges ratios orders.adjusted

/-- The quota of a submission depends on no order, and an adjustment to the
same ratios leaves it as it is. -/
structure Reproducible (taskPricePatches : List String) (modelName : String) (baseQuota : Int)
    (estimatedRatios : List (String × Rat)) : Prop where
  orderFree : ∀ orders others : Orders,
    orders.Range (estimatedPrice baseQuota estimatedRatios).otherRatios →
    others.Range (estimatedPrice baseQuota estimatedRatios).otherRatios →
      (relayTaskSubmit taskPricePatches modelName baseQuota estimatedRatios {} orders).quota =
        (relayTaskSubmit taskPricePatches modelName baseQuota estimatedRatios {} others).quota
  recalculated : ∀ orders : Orders,
    orders.Range (estimatedPrice baseQuota estimatedRatios).otherRatios →
      (relayTaskSubmit taskPricePatches modelName baseQuota estimatedRatios
          (estimatedPrice baseQuota estimatedRatios).otherRatios orders).quota =
        (relayTaskSubmit taskPricePatches modelName baseQuota estimatedRatios {} orders).quota

/-! ## The loops as truncated products -/

def values (order : List (String × Rat)) : List Rat := order.map Prod.snd

@[simp] theorem values_cons (entry : String × Rat) (rest : List (String × Rat)) :
    values (entry :: rest) = entry.2 :: values rest := rfl

theorem applied_scaled (order : List (String × Rat)) (quota : Int) :
    applyOtherRatios order quota = scaled (values order) quota := by
  unfold applyOtherRatios
  induction order generalizing quota with
  | nil => rfl
  | cons entry rest ih =>
    rw [List.foldl_cons, ih, values_cons, scaled_cons]
    by_cases one : entry.2 = 1
    · rw [if_neg (not_not.mpr one), one, mul_one, truncate_int]
    · rw [if_pos one]

theorem divided_scaled (positive : ∀ entry ∈ order, 0 < entry.2)
    (quota : Int) : divideOtherRatios order quota = scaled (inverses (values order)) quota := by
  unfold divideOtherRatios
  induction order generalizing quota with
  | nil => rfl
  | cons entry rest ih =>
    obtain ⟨first, others⟩ := List.forall_mem_cons.mp positive
    rw [List.foldl_cons, ih others, values_cons, inverses_cons, scaled_cons]
    by_cases one : entry.2 = 1
    · rw [if_neg (fun both => both.1 one), one, inv_one, mul_one, truncate_int]
    · rw [if_pos ⟨one, first⟩, div_eq_mul_inv]

theorem multiplied_prod (order : List (String × Rat)) (start : Rat) :
    order.foldl (fun result entry => if entry.2 ≠ 1 then result * entry.2 else result) start =
      start * (values order).prod := by
  induction order generalizing start with
  | nil => simp [values]
  | cons entry rest ih =>
    rw [List.foldl_cons, ih, values_cons, List.prod_cons, ← mul_assoc]
    by_cases one : entry.2 = 1
    · rw [if_neg (not_not.mpr one), one, mul_one]
    · rw [if_pos one]

section Ratios

theorem values_positive (ratios : OtherRatios) : Positive (values ratios.entries) := by
  intro value member
  obtain ⟨entry, held, rfl⟩ := List.mem_map.mp member
  exact ratios.positive entry held

theorem values_ordered {sequence : List Rat} (same : sequence.Perm (values ratios.entries)) :
    ∃ order, Ranges ratios order ∧ values order = sequence := by
  have paired : List.Forall₂ (fun value entry => value = entry.2) (values ratios.entries)
      ratios.entries := by
    rw [values, List.forall₂_map_left_iff]
    exact List.forall₂_same.mpr fun _ _ => rfl
  obtain ⟨order, pairs, ranges⟩ := List.perm_comp_forall₂ same paired
  refine ⟨order, ranges, ?_⟩
  exact (List.forall₂_eq_eq_eq ▸ (List.forall₂_map_right_iff.mpr pairs)).symm

theorem recalculated_eq {orders : Orders} (divided : Ranges ratios orders.divided)
    (adjusted : Ranges ratios orders.adjusted) (quota : Int) :
    recalcQuotaFromRatios orders.divided orders.adjusted quota =
      truncate (scaled (inverses (values orders.divided)) quota * (values ratios.entries).prod) := by
  have positive : ∀ entry ∈ orders.divided, 0 < entry.2 := fun entry member =>
    ratios.positive entry (divided.mem_iff.mp member)
  have same : (values orders.adjusted).Perm (values ratios.entries) := adjusted.map _
  rw [recalcQuotaFromRatios, multiplied_prod, divided_scaled positive, same.prod_eq]

end Ratios

/-! ## When it is -/

section Submission
variable {taskPricePatches : List String} {modelName : String} {baseQuota : Int}
variable {estimatedRatios : List (String × Rat)}

theorem estimated_quota (baseQuota : Int) (estimatedRatios : List (String × Rat)) :
    (estimatedPrice baseQuota estimatedRatios).quota = baseQuota := by
  unfold estimatedPrice
  have kept : ∀ price : PriceData, (estimatedRatios.foldl
      (fun price entry => PriceData.addOtherRatio price entry.1 entry.2) price).quota =
        price.quota := by
    induction estimatedRatios with
    | nil => exact fun _ => rfl
    | cons entry rest ih =>
      intro price
      rw [List.foldl_cons, ih]
      unfold PriceData.addOtherRatio
      split <;> rfl
  exact kept _

theorem unadjusted_quota (orders : Orders) :
    (relayTaskSubmit taskPricePatches modelName baseQuota estimatedRatios {} orders).quota =
      submittedQuota taskPricePatches modelName orders.applied baseQuota := by
  rw [relayTaskSubmit, estimated_quota]
  rfl

theorem submitted_patched (patched : taskPricePatches.contains modelName = true)
    (order : List (String × Rat)) :
    submittedQuota taskPricePatches modelName order baseQuota = baseQuota :=
  if_pos patched

theorem submitted_scaled (unpatched : taskPricePatches.contains modelName ≠ true)
    (order : List (String × Rat)) :
    submittedQuota taskPricePatches modelName order baseQuota = scaled (values order) baseQuota := by
  rw [submittedQuota, if_neg unpatched, applied_scaled]

theorem adjusted_quota
    (range : orders.Range (estimatedPrice baseQuota estimatedRatios).otherRatios) :
    (relayTaskSubmit taskPricePatches modelName baseQuota estimatedRatios
        (estimatedPrice baseQuota estimatedRatios).otherRatios orders).quota =
      truncate (scaled (inverses (values orders.divided))
          (submittedQuota taskPricePatches modelName orders.applied baseQuota) *
        (values (estimatedPrice baseQuota estimatedRatios).otherRatios.entries).prod) := by
  have divided := range.divided
  have adjusted := range.adjusted
  unfold relayTaskSubmit
  dsimp only
  rw [estimated_quota]
  by_cases none_ : (estimatedPrice baseQuota estimatedRatios).otherRatios.entries = []
  · rw [if_pos none_]
    unfold Ranges at divided
    rw [none_] at divided ⊢
    rw [divided.eq_nil]
    simp [values, inverses]
  · rw [if_neg none_]
    exact recalculated_eq divided adjusted _

theorem reproducible_values :
    Reproducible taskPricePatches modelName baseQuota estimatedRatios ↔
      let factors := values (estimatedPrice baseQuota estimatedRatios).otherRatios.entries
      if taskPricePatches.contains modelName then Restorable factors baseQuota
      else OrderFree factors baseQuota ∧
        ∀ order, order.Perm factors → Restorable factors (scaled order baseQuota) := by
  dsimp only
  constructor
  · rintro ⟨orderFree, recalculated⟩
    split
    · rename_i patched
      intro sequence same
      obtain ⟨order, ranges, rfl⟩ := values_ordered same
      have range : (⟨order, order, order⟩ : Orders).Range _ := ⟨ranges, ranges, ranges⟩
      have again := recalculated _ range
      rw [adjusted_quota range, unadjusted_quota, submitted_patched patched] at again
      exact again
    · rename_i unpatched
      constructor
      · intro sequence sequence_ same same_
        obtain ⟨order, ranges, rfl⟩ := values_ordered same
        obtain ⟨other, ranges_, rfl⟩ := values_ordered same_
        have free := orderFree ⟨order, order, order⟩ ⟨other, other, other⟩
          ⟨ranges, ranges, ranges⟩ ⟨ranges_, ranges_, ranges_⟩
        rw [unadjusted_quota, unadjusted_quota, submitted_scaled unpatched,
          submitted_scaled unpatched] at free
        exact free
      · intro sequence same sequence_ same_
        obtain ⟨order, ranges, rfl⟩ := values_ordered same
        obtain ⟨divided, ranges_, rfl⟩ := values_ordered same_
        have range : (⟨order, divided, divided⟩ : Orders).Range _ := ⟨ranges, ranges_, ranges_⟩
        have again := recalculated _ range
        rw [adjusted_quota range, unadjusted_quota, submitted_scaled unpatched] at again
        exact again
  · intro steady
    split at steady
    · rename_i patched
      constructor
      · intro orders others _ _
        rw [unadjusted_quota, unadjusted_quota, submitted_patched patched, submitted_patched patched]
      · intro orders range
        rw [adjusted_quota range, unadjusted_quota, submitted_patched patched]
        exact steady _ (range.divided.map _)
    · rename_i unpatched
      constructor
      · intro orders others range range_
        rw [unadjusted_quota, unadjusted_quota, submitted_scaled unpatched, submitted_scaled unpatched]
        exact steady.1 _ _ (range.applied.map _) (range_.applied.map _)
      · intro orders range
        rw [adjusted_quota range, unadjusted_quota, submitted_scaled unpatched]
        exact steady.2 _ (range.applied.map _) _ (range.divided.map _)

/-- A submission is reproducible exactly where what it truncates is less than
what all products of its ratios leave whole; one whose base is not scaled,
where all quotients of it are whole. -/
theorem submission_reproducible_iff (taskPricePatches : List String) (modelName : String)
    (baseQuota : Int) (estimatedRatios : List (String × Rat)) :
    Reproducible taskPricePatches modelName baseQuota estimatedRatios ↔
      let factors := values (estimatedPrice baseQuota estimatedRatios).otherRatios.entries
      if taskPricePatches.contains modelName then
        (wholeUnit (inverses factors) : Int) ∣ baseQuota
      else RestLost factors baseQuota := by
  rw [reproducible_values]
  have positive := values_positive (estimatedPrice baseQuota estimatedRatios).otherRatios
  dsimp only
  split
  · exact restorable_all_iff positive
  · exact steady_iff positive

end Submission

def fourSeconds : List (String × Rat) := [("seconds", 4), ("size", 1666667 / 1000000)]

theorem truncated_orders_differ :
    ¬ ∀ (taskPricePatches : List String) (modelName : String) (baseQuota : Int)
      (estimatedRatios : List (String × Rat)),
        Reproducible taskPricePatches modelName baseQuota estimatedRatios := by
  intro always
  have free := (always [] "sora-2" 1 fourSeconds).orderFree
    ⟨fourSeconds, fourSeconds, fourSeconds⟩
    ⟨fourSeconds.reverse, fourSeconds.reverse, fourSeconds.reverse⟩
  have entries : (estimatedPrice 1 fourSeconds).otherRatios.entries = fourSeconds := by
    decide +kernel
  have here : Ranges (estimatedPrice 1 fourSeconds).otherRatios fourSeconds := by
    rw [Ranges, entries]
  have there : Ranges (estimatedPrice 1 fourSeconds).otherRatios fourSeconds.reverse := by
    rw [Ranges, entries]
    exact List.reverse_perm _
  have same := free ⟨here, here, here⟩ ⟨there, there, there⟩
  have different : ¬ (relayTaskSubmit [] "sora-2" 1 fourSeconds {}
        ⟨fourSeconds, fourSeconds, fourSeconds⟩).quota =
      (relayTaskSubmit [] "sora-2" 1 fourSeconds {}
        ⟨fourSeconds.reverse, fourSeconds.reverse, fourSeconds.reverse⟩).quota := by
    decide +kernel
  exact different same

example : (relayTaskSubmit [] "sora-2" 1 fourSeconds (estimatedPrice 1 fourSeconds).otherRatios
    ⟨fourSeconds, fourSeconds, fourSeconds⟩).quota = 0 := by
  decide +kernel

end NewApi.TaskRatios
