import Mathlib.Algebra.BigOperators.Group.List.Lemmas
import Mathlib.Algebra.Order.BigOperators.GroupWithZero.List
import Mathlib.Data.Int.GCD
import Mathlib.Data.List.Perm.Subperm
import Mathlib.Data.List.Sublists
import Mathlib.Data.Rat.Floor
import Mathlib.Tactic.Linarith
import Mathlib.Tactic.Ring

/-! Products that are truncated to an integer after every factor. Such a
product depends on the order of its factors and loses what is cut off, except
where every stage is whole. Nothing here depends on what is scaled. -/
namespace NewApi.TruncatedScaling

/-! ## Truncation -/

def truncate (value : Rat) : Int := value.num.tdiv value.den

@[simp] theorem truncate_int (whole : Int) : truncate whole = whole := by
  simp [truncate]

theorem truncate_neg (value : Rat) : truncate (-value) = -truncate value := by
  simp [truncate, Int.neg_tdiv]

section Nonnegative
variable {value : Rat} (nonnegative : 0 ≤ value)
include nonnegative

theorem truncate_floor : truncate value = ⌊value⌋ := by
  rw [truncate, Int.tdiv_eq_ediv_of_nonneg (Rat.num_nonneg.mpr nonnegative)]
  exact (Rat.floor_def value).symm

theorem truncate_le : (truncate value : Rat) ≤ value := by
  rw [truncate_floor nonnegative]
  exact Int.floor_le value

theorem truncate_nonneg : 0 ≤ truncate value := by
  rw [truncate_floor nonnegative]
  exact Int.floor_nonneg.mpr nonnegative

theorem truncate_whole_add {whole : Int} (positive : 0 ≤ whole) :
    truncate (whole + value) = whole + truncate value := by
  have sum : (0 : Rat) ≤ whole + value := add_nonneg (Int.cast_nonneg positive) nonnegative
  rw [truncate_floor sum, truncate_floor nonnegative, Int.floor_intCast_add]

end Nonnegative

def scaled (factors : List Rat) (start : Int) : Int :=
  factors.foldl (fun value factor => truncate (value * factor)) start

@[simp] theorem scaled_nil (start : Int) : scaled [] start = start := rfl

@[simp] theorem scaled_cons (factor : Rat) (rest : List Rat) (start : Int) :
    scaled (factor :: rest) start = scaled rest (truncate (start * factor)) := rfl

theorem scaled_neg (factors : List Rat) (start : Int) :
    scaled factors (-start) = -scaled factors start := by
  induction factors generalizing start with
  | nil => rfl
  | cons factor rest ih =>
    rw [scaled_cons, scaled_cons, Int.cast_neg, neg_mul, truncate_neg, ih]

def Positive (factors : List Rat) : Prop := ∀ factor ∈ factors, 0 < factor

def Exact : List Rat → Int → Prop
  | [], _ => True
  | factor :: rest, start => ∃ next : Int, (next : Rat) = start * factor ∧ Exact rest next

theorem positive_prod (positive : Positive factors) : 0 < factors.prod :=
  List.prod_pos positive

theorem positive_perm (positive : Positive factors)
    (same : order.Perm factors) : Positive order :=
  fun factor member => positive factor (same.mem_iff.mp member)

section Scaling
variable {factors : List Rat} (positive : Positive factors)

theorem exact_scaled (exact_ : Exact factors start) :
    (scaled factors start : Rat) = start * factors.prod := by
  induction factors generalizing start with
  | nil => simp
  | cons factor rest ih =>
    obtain ⟨next, whole, later⟩ := exact_
    rw [scaled_cons, ← whole, truncate_int, ih later, whole, List.prod_cons, mul_assoc]

include positive

theorem scaled_nonneg (nonnegative : 0 ≤ start) : 0 ≤ scaled factors start := by
  induction factors generalizing start with
  | nil => exact nonnegative
  | cons factor rest ih =>
    obtain ⟨first, others⟩ := List.forall_mem_cons.mp positive
    exact ih others (truncate_nonneg (mul_nonneg (Int.cast_nonneg nonnegative) first.le))

theorem scaled_le (nonnegative : 0 ≤ start) : (scaled factors start : Rat) ≤ start * factors.prod := by
  induction factors generalizing start with
  | nil => simp
  | cons factor rest ih =>
    obtain ⟨first, others⟩ := List.forall_mem_cons.mp positive
    have product : (0 : Rat) ≤ start * factor :=
      mul_nonneg (Int.cast_nonneg nonnegative) first.le
    calc (scaled (factor :: rest) start : Rat)
        ≤ truncate (start * factor) * rest.prod := ih others (truncate_nonneg product)
      _ ≤ start * factor * rest.prod :=
          mul_le_mul_of_nonneg_right (truncate_le product) (positive_prod others).le
      _ = start * (factor :: rest).prod := by rw [List.prod_cons, mul_assoc]

theorem exact_of_attained (nonnegative : 0 ≤ start)
    (attained : (scaled factors start : Rat) = start * factors.prod) : Exact factors start := by
  induction factors generalizing start with
  | nil => trivial
  | cons factor rest ih =>
    obtain ⟨first, others⟩ := List.forall_mem_cons.mp positive
    have product : (0 : Rat) ≤ start * factor :=
      mul_nonneg (Int.cast_nonneg nonnegative) first.le
    have rest_positive := positive_prod others
    have next_nonneg := truncate_nonneg product
    have below := truncate_le product
    have later := scaled_le others next_nonneg
    rw [scaled_cons, List.prod_cons, ← mul_assoc] at attained
    have above : start * factor * rest.prod ≤ truncate (start * factor) * rest.prod := by
      rw [← attained]
      exact later
    have whole : (truncate (start * factor) : Rat) = start * factor :=
      le_antisymm below (le_of_mul_le_mul_right above rest_positive)
    refine ⟨truncate (start * factor), whole, ih others next_nonneg ?_⟩
    rw [attained, whole]

theorem scaled_exact_add (nonnegative : 0 ≤ start) (exact_ : Exact factors start) {rest : Int}
    (more : 0 ≤ rest) :
    scaled factors (start + rest) = scaled factors start + scaled factors rest := by
  induction factors generalizing start rest with
  | nil => rfl
  | cons factor later ih =>
    obtain ⟨first, others⟩ := List.forall_mem_cons.mp positive
    obtain ⟨next, whole, goesOn⟩ := exact_
    have next_nonneg : 0 ≤ next := by
      have product : (0 : Rat) ≤ start * factor :=
        mul_nonneg (Int.cast_nonneg nonnegative) first.le
      rw [← whole] at product
      exact Int.cast_nonneg_iff.mp product
    have restProduct : (0 : Rat) ≤ rest * factor := mul_nonneg (Int.cast_nonneg more) first.le
    rw [scaled_cons, scaled_cons, scaled_cons, Int.cast_add, add_mul, ← whole,
      truncate_whole_add restProduct next_nonneg, truncate_int,
      ih others next_nonneg goesOn (truncate_nonneg restProduct)]

end Scaling

/-! ## What every order leaves whole -/

def products (factors : List Rat) : List Rat := factors.sublists.map List.prod

def wholeUnit (factors : List Rat) : Nat :=
  (products factors).foldr (fun product unit => Nat.lcm product.den unit) 1

theorem whole_iff_den_dvd (factor : Rat) (start : Int) :
    (∃ whole : Int, (whole : Rat) = start * factor) ↔ (factor.den : Int) ∣ start := by
  constructor
  · rintro ⟨whole, same⟩
    have cleared : whole * factor.den = start * factor.num := by
      have scaled_ : (whole : Rat) * factor.den = start * factor.num := by
        rw [same, mul_assoc, Rat.mul_den_eq_num]
      exact_mod_cast scaled_
    have divides : (factor.den : Int) ∣ start * factor.num := Dvd.intro_left whole cleared
    have coprime : Int.gcd factor.den factor.num = 1 := by
      rw [Int.gcd_comm]
      exact factor.reduced
    exact Int.dvd_of_dvd_mul_left_of_gcd_one divides coprime
  · rintro ⟨rest, rfl⟩
    refine ⟨rest * factor.num, ?_⟩
    push_cast
    rw [mul_comm (factor.den : Rat), mul_assoc, Rat.den_mul_eq_num]

theorem unit_dvd_iff (factors : List Rat) (start : Int) :
    (wholeUnit factors : Int) ∣ start ↔ ∀ product ∈ products factors,
      ∃ whole : Int, (whole : Rat) = start * product := by
  unfold wholeUnit
  induction products factors with
  | nil => simp
  | cons product rest ih =>
    rw [List.foldr_cons, List.forall_mem_cons, ← ih, whole_iff_den_dvd, Int.natCast_dvd,
      Int.natCast_dvd, Int.natCast_dvd, Nat.lcm_dvd_iff]

theorem unit_pos (factors : List Rat) : 0 < wholeUnit factors := by
  unfold wholeUnit
  induction products factors with
  | nil => exact Nat.one_pos
  | cons product rest ih => exact Nat.lcm_pos product.den_pos ih

theorem exact_of_subperms {factors : List Rat} {start : Int}
    (whole : ∀ some_ : List Rat, some_.Subperm factors → ∃ whole : Int, (whole : Rat) = start * some_.prod) :
    Exact factors start := by
  induction factors generalizing start with
  | nil => trivial
  | cons factor rest ih =>
    obtain ⟨next, same⟩ := whole [factor] (by simp)
    rw [List.prod_singleton] at same
    refine ⟨next, same, ih ?_⟩
    intro some_ inside
    obtain ⟨total, same_⟩ := whole (factor :: some_) ((List.subperm_cons factor).mpr inside)
    exact ⟨total, by rw [same_, List.prod_cons, same, mul_assoc]⟩

theorem exact_append (exact_ : Exact (front ++ back) start) :
    Exact front start := by
  induction front generalizing start with
  | nil => trivial
  | cons factor rest ih =>
    obtain ⟨next, same, later⟩ := exact_
    exact ⟨next, same, ih later⟩

theorem exact_orders_iff (factors : List Rat) (start : Int) :
    (∀ order, order.Perm factors → Exact order start) ↔ (wholeUnit factors : Int) ∣ start := by
  rw [unit_dvd_iff]
  constructor
  · intro orders product member
    obtain ⟨some_, inside, rfl⟩ := List.mem_map.mp member
    obtain ⟨rest, same⟩ := (List.mem_sublists.mp inside).exists_perm_append
    have stages := exact_append (orders (some_ ++ rest) same.symm)
    exact ⟨_, exact_scaled stages⟩
  · intro whole order same
    apply exact_of_subperms
    intro some_ inside
    obtain ⟨sub, match_, sublist⟩ := inside.trans same.subperm
    obtain ⟨total, product⟩ := whole sub.prod (List.mem_map_of_mem (List.mem_sublists.mpr sublist))
    exact ⟨total, by rw [product, match_.prod_eq]⟩

/-! ## The way back -/

def inverses (factors : List Rat) : List Rat := factors.map fun factor => factor⁻¹

@[simp] theorem inverses_cons (factor : Rat) (rest : List Rat) :
    inverses (factor :: rest) = factor⁻¹ :: inverses rest := rfl

theorem inverses_inverses (factors : List Rat) : inverses (inverses factors) = factors := by
  simp [inverses]

theorem inverses_prod (factors : List Rat) : (inverses factors).prod = factors.prod⁻¹ :=
  (List.prod_inv factors).symm

theorem inverses_positive (positive : Positive factors) :
    Positive (inverses factors) := by
  intro inverse member
  obtain ⟨factor, held, rfl⟩ := List.mem_map.mp member
  exact inv_pos.mpr (positive factor held)

def Restorable (factors : List Rat) (value : Int) : Prop :=
  ∀ divided, divided.Perm factors → truncate (scaled (inverses divided) value * factors.prod) = value

def OrderFree (factors : List Rat) (start : Int) : Prop :=
  ∀ order other, order.Perm factors → other.Perm factors → scaled order start = scaled other start

def RestLost (factors : List Rat) (start : Int) : Prop :=
  ∀ order, order.Perm factors → scaled order (start.tmod (wholeUnit factors)) = 0

section Signs
variable (factors : List Rat) (start : Int)

theorem restorable_neg : Restorable factors (-start) ↔ Restorable factors start := by
  unfold Restorable
  simp only [scaled_neg, Int.cast_neg, neg_mul, truncate_neg, neg_inj]

theorem order_free_neg : OrderFree factors (-start) ↔ OrderFree factors start := by
  unfold OrderFree
  simp only [scaled_neg, neg_inj]

theorem rest_lost_neg : RestLost factors (-start) ↔ RestLost factors start := by
  unfold RestLost
  simp only [Int.neg_tmod, scaled_neg, neg_eq_zero]

end Signs

section Restoring
variable {factors : List Rat} (positive : Positive factors)
include positive

theorem restored_iff (same : divided.Perm factors) (nonnegative : 0 ≤ value) :
    truncate (scaled (inverses divided) value * factors.prod) = value ↔ Exact (inverses divided) value := by
  have total := positive_prod positive
  have inverse_positive := inverses_positive (positive_perm positive same)
  have inverse_prod : (inverses divided).prod = factors.prod⁻¹ := by
    rw [inverses_prod, same.prod_eq]
  constructor
  · intro restored
    apply exact_of_attained inverse_positive nonnegative
    rw [inverse_prod]
    have quotient_nonneg := scaled_nonneg inverse_positive nonnegative
    have below := scaled_le inverse_positive nonnegative
    rw [inverse_prod] at below
    refine le_antisymm below ?_
    have product : (0 : Rat) ≤ scaled (inverses divided) value * factors.prod :=
      mul_nonneg (Int.cast_nonneg quotient_nonneg) total.le
    have above := truncate_le product
    rw [restored] at above
    calc (value : Rat) * factors.prod⁻¹
        ≤ scaled (inverses divided) value * factors.prod * factors.prod⁻¹ :=
          mul_le_mul_of_nonneg_right above (inv_pos.mpr total).le
      _ = scaled (inverses divided) value := mul_inv_cancel_right₀ total.ne' _
  · intro exact_
    rw [exact_scaled exact_, inverse_prod, inv_mul_cancel_right₀ total.ne', truncate_int]

theorem restorable_iff (nonnegative : 0 ≤ value) :
    Restorable factors value ↔ (wholeUnit (inverses factors) : Int) ∣ value := by
  rw [← exact_orders_iff]
  constructor
  · intro restorable order same
    have divided : (inverses order).Perm factors := by
      rw [← inverses_inverses factors]
      exact same.map _
    have stages := (restored_iff positive divided nonnegative).mp (restorable _ divided)
    rw [inverses_inverses] at stages
    exact stages
  · intro exact_ divided same
    exact (restored_iff positive same nonnegative).mpr (exact_ _ (same.map _))

theorem exact_back {next : Int} (whole : (wholeUnit factors : Int) ∣ start)
    (total : (next : Rat) = start * factors.prod) {order : List Rat} (same : order.Perm factors) :
    Exact (inverses order) next := by
  apply exact_of_subperms
  intro some_ inside
  obtain ⟨sub, match_, sublist⟩ := inside
  have undone : (inverses sub).Sublist order := by
    rw [← inverses_inverses order]
    exact sublist.map _
  obtain ⟨rest, split_⟩ := undone.exists_perm_append
  have reordered : (rest ++ inverses sub).Perm factors :=
    List.perm_append_comm.trans (split_.symm.trans same)
  have stages := (exact_orders_iff factors start).mpr whole _ reordered
  have left_ := exact_scaled (exact_append stages)
  have undone_positive : 0 < (inverses sub).prod := by
    apply positive_prod
    intro factor held
    exact positive factor (same.mem_iff.mp (undone.subset held))
  refine ⟨scaled rest start, ?_⟩
  rw [left_, total, ← reordered.prod_eq, List.prod_append, ← match_.prod_eq,
    ← inverses_inverses sub, inverses_prod (inverses sub), inverses_inverses, mul_assoc, mul_assoc,
    mul_inv_cancel₀ undone_positive.ne', mul_one]

theorem restorable_origin (nonnegative : 0 ≤ value) (restorable : Restorable factors value) :
    ∃ origin : Int, 0 ≤ origin ∧ (value : Rat) = origin * factors.prod ∧
      (wholeUnit factors : Int) ∣ origin := by
  have total := positive_prod positive
  have back := inverses_positive positive
  have whole := (restorable_iff positive nonnegative).mp restorable
  have quotient := exact_scaled ((exact_orders_iff (inverses factors) value).mpr whole _ (List.Perm.refl _))
  refine ⟨scaled (inverses factors) value, scaled_nonneg back nonnegative, ?_, ?_⟩
  · rw [quotient, inverses_prod, inv_mul_cancel_right₀ total.ne']
  · rw [← exact_orders_iff]
    intro order same
    have turned : (inverses order).Perm (inverses factors) := same.map _
    have stages := exact_back back whole quotient turned
    rw [inverses_inverses] at stages
    exact stages

theorem scaled_origin (nonnegative : 0 ≤ origin) (more : 0 ≤ rest)
    (whole : (wholeUnit factors : Int) ∣ origin) (same : order.Perm factors) :
    (scaled order (origin + rest) : Rat) = origin * factors.prod + scaled order rest := by
  have exact_ := (exact_orders_iff factors origin).mpr whole order same
  rw [scaled_exact_add (positive_perm positive same) nonnegative exact_ more, Int.cast_add,
    exact_scaled exact_, same.prod_eq]

theorem lost_rest_lt (lost : scaled factors rest = 0) : rest < wholeUnit factors := by
  by_contra large
  have same : (wholeUnit factors : Int) + (rest - wholeUnit factors) = rest := by omega
  have beyond : 0 ≤ rest - wholeUnit factors := by omega
  have sum := scaled_origin positive (Int.natCast_nonneg _) beyond dvd_rfl (List.Perm.refl factors)
  rw [same, lost] at sum
  have unit : (0 : Rat) < (wholeUnit factors : Int) * factors.prod :=
    mul_pos (by exact_mod_cast unit_pos factors) (positive_prod positive)
  have others : (0 : Rat) ≤ scaled factors (rest - wholeUnit factors) :=
    Int.cast_nonneg (scaled_nonneg positive beyond)
  rw [Int.cast_zero] at sum
  linarith

theorem steady_rest_lost (nonnegative : 0 ≤ start) (orderFree : OrderFree factors start)
    (restorable : Restorable factors (scaled factors start)) : RestLost factors start := by
  have total := positive_prod positive
  have every := List.Perm.refl factors
  obtain ⟨origin, origin_nonneg, product, whole⟩ :=
    restorable_origin positive (scaled_nonneg positive nonnegative) restorable
  have below := scaled_le positive nonnegative
  rw [product] at below
  have within : origin ≤ start := by exact_mod_cast le_of_mul_le_mul_right below total
  have more : 0 ≤ start - origin := by omega
  have lost : ∀ order, order.Perm factors → scaled order (start - origin) = 0 := by
    intro order same
    have sum := scaled_origin positive origin_nonneg more whole same
    rw [show origin + (start - origin) = start by omega, orderFree order factors same every, product] at sum
    have nothing : (scaled order (start - origin) : Rat) = 0 := by linarith
    exact_mod_cast nothing
  have small := lost_rest_lt positive (lost factors every)
  have rest : start.tmod (wholeUnit factors) = start - origin := by
    obtain ⟨count, rfl⟩ := whole
    rw [Int.tmod_eq_emod_of_nonneg nonnegative]
    have shape : start = (start - wholeUnit factors * count) + wholeUnit factors * count := by omega
    conv_lhs => rw [shape]
    rw [Int.add_mul_emod_self_left, Int.emod_eq_of_lt more small]
  unfold RestLost
  rw [rest]
  exact lost

theorem rest_lost_origin (nonnegative : 0 ≤ start) (lost : RestLost factors start) :
    ∃ origin : Int, (wholeUnit factors : Int) ∣ origin ∧ ∀ order, order.Perm factors →
      (scaled order start : Rat) = origin * factors.prod := by
  have rest : start.tmod (wholeUnit factors) = start % wholeUnit factors :=
    Int.tmod_eq_emod_of_nonneg nonnegative
  unfold RestLost at lost
  rw [rest] at lost
  have unit : (0 : Int) < wholeUnit factors := by exact_mod_cast unit_pos factors
  refine ⟨wholeUnit factors * (start / wholeUnit factors), Int.dvd_mul_right _ _, ?_⟩
  intro order same
  have quotient := Int.ediv_nonneg nonnegative unit.le
  have sum := scaled_origin positive (Int.mul_nonneg unit.le quotient)
    (Int.emod_nonneg start unit.ne') (Int.dvd_mul_right _ _) same
  rw [Int.mul_ediv_add_emod, lost order same] at sum
  rw [sum]
  simp

theorem steady_nonneg_iff (nonnegative : 0 ≤ start) :
    (OrderFree factors start ∧
        ∀ order, order.Perm factors → Restorable factors (scaled order start)) ↔
      RestLost factors start := by
  constructor
  · rintro ⟨orderFree, restorable⟩
    exact steady_rest_lost positive nonnegative orderFree (restorable factors (List.Perm.refl factors))
  · intro lost
    obtain ⟨origin, whole, products⟩ := rest_lost_origin positive nonnegative lost
    constructor
    · intro order other same same_
      have agree : (scaled order start : Rat) = scaled other start := by
        rw [products order same, products other same_]
      exact_mod_cast agree
    · intro order same divided same_
      have value_nonneg := scaled_nonneg (positive_perm positive same) nonnegative
      exact (restored_iff positive same_ value_nonneg).mpr
        (exact_back positive whole (products order same) same_)

theorem steady_iff :
    (OrderFree factors start ∧
        ∀ order, order.Perm factors → Restorable factors (scaled order start)) ↔
      RestLost factors start := by
  rcases Int.le_total 0 start with nonnegative | negative
  · exact steady_nonneg_iff positive nonnegative
  · have opposite := steady_nonneg_iff positive (Int.neg_nonneg_of_nonpos negative)
    simp only [order_free_neg, rest_lost_neg, scaled_neg, restorable_neg] at opposite
    exact opposite

theorem restorable_all_iff : Restorable factors value ↔ (wholeUnit (inverses factors) : Int) ∣ value := by
  rcases Int.le_total 0 value with nonnegative | negative
  · exact restorable_iff positive nonnegative
  · rw [← restorable_neg, restorable_iff positive (Int.neg_nonneg_of_nonpos negative), Int.dvd_neg]

end Restoring

end NewApi.TruncatedScaling
