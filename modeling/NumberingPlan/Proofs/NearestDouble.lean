import Mathlib.Data.Int.Log
import Mathlib.Data.Rat.Floor
import Mathlib.Tactic.FieldSimp
import Mathlib.Tactic.Linarith
import Mathlib.Tactic.NormNum
import Mathlib.Tactic.Positivity
import Mathlib.Tactic.Ring
import NumberingPlan.Decimal.Binary64

/-! The double nearest to a rational number. Rounding is told here on the rationals: by the binade that a
number lies in, and the nearest whole multiple of the step of its binade, ties to even. It never reverses the
order of two numbers, and is off by half a step at most. What is computed on numerators and denominators is
this number, unless it is beyond the greatest double. -/
namespace NumberingPlan.Binary64

/-! ### The nearest whole number -/

/-- The whole number nearest to a rational, of two the even one. -/
def nearestWhole (x : ℚ) : ℤ :=
  if x - ⌊x⌋ < 1 / 2 ∨ x - ⌊x⌋ = 1 / 2 ∧ ⌊x⌋ % 2 = 0 then ⌊x⌋ else ⌊x⌋ + 1

private theorem nearestWhole_natCast (n : ℕ) : nearestWhole n = n := by
  simp [nearestWhole]

private theorem floor_le_nearestWhole (x : ℚ) : ⌊x⌋ ≤ nearestWhole x := by
  unfold nearestWhole
  split <;> omega

private theorem nearestWhole_le_floor_succ (x : ℚ) : nearestWhole x ≤ ⌊x⌋ + 1 := by
  unfold nearestWhole
  split <;> omega

/-- Rounding to whole numbers keeps the order. -/
theorem nearestWhole_mono {x y : ℚ} (le : x ≤ y) : nearestWhole x ≤ nearestWhole y := by
  obtain below | same := (Int.floor_mono le).lt_or_eq
  · calc nearestWhole x ≤ ⌊x⌋ + 1 := nearestWhole_le_floor_succ x
      _ ≤ ⌊y⌋ := below
      _ ≤ nearestWhole y := floor_le_nearestWhole y
  · -- Between the same whole numbers, the greater one goes up if the smaller does.
    unfold nearestWhole
    rw [same]
    by_cases down : y - ⌊y⌋ < 1 / 2 ∨ y - ⌊y⌋ = 1 / 2 ∧ ⌊y⌋ % 2 = 0
    · have down' : x - ⌊y⌋ < 1 / 2 ∨ x - ⌊y⌋ = 1 / 2 ∧ ⌊y⌋ % 2 = 0 := by
        obtain less | ⟨half, even⟩ := down
        · left
          linarith
        · obtain less | half' := (show x - ⌊y⌋ ≤ 1 / 2 by linarith).lt_or_eq
          · exact .inl less
          · exact .inr ⟨half', even⟩
      rw [if_pos down, if_pos down']
    · rw [if_neg down]
      split <;> omega

/-- The nearest whole number is off by a half at most. -/
theorem nearestWhole_le (x : ℚ) : nearestWhole x ≤ x + 1 / 2 := by
  have below := Int.floor_le x
  unfold nearestWhole
  split
  next down => linarith
  next up =>
    have half : 1 / 2 ≤ x - ⌊x⌋ := le_of_not_gt fun less => up (.inl less)
    push_cast
    linarith

/-! ### The nearest double -/

/-- The exponent of the step between doubles around a number. -/
def scale (x : ℚ) : ℤ := max minExponent (Int.log 2 x - 52)

/-- The double nearest to a number that is not negative, as if exponents had no upper bound. -/
def nearestDouble (x : ℚ) : ℚ := nearestWhole (x / 2 ^ scale x) * 2 ^ scale x

private theorem step_pos (e : ℤ) : (0 : ℚ) < 2 ^ e := zpow_pos two_pos e

/-- A number up to a whole number of its steps is rounded to that at most. -/
theorem nearestDouble_le_steps {x : ℚ} {n : ℕ} (le : x ≤ n * 2 ^ scale x) :
    nearestDouble x ≤ n * 2 ^ scale x := by
  have whole := nearestWhole_mono ((div_le_iff₀ (step_pos _)).mpr le)
  rw [nearestWhole_natCast] at whole
  exact mul_le_mul_of_nonneg_right (by exact_mod_cast whole) (step_pos _).le

private theorem steps_le_nearestDouble {x : ℚ} {n : ℕ} (le : n * 2 ^ scale x ≤ x) :
    n * 2 ^ scale x ≤ nearestDouble x := by
  have whole := nearestWhole_mono ((le_div_iff₀ (step_pos _)).mpr le)
  rw [nearestWhole_natCast] at whole
  exact mul_le_mul_of_nonneg_right (by exact_mod_cast whole) (step_pos _).le

private theorem nearestDouble_of_steps {x : ℚ} {n : ℕ} (steps : x = n * 2 ^ scale x) : nearestDouble x = x := by
  have above := nearestDouble_le_steps steps.le
  have below := steps_le_nearestDouble steps.ge
  rw [← steps] at above below
  exact le_antisymm above below

private theorem nearestDouble_zero : nearestDouble 0 = 0 := by
  apply nearestDouble_of_steps (n := 0)
  rw [Nat.cast_zero, zero_mul]

theorem nearestDouble_nonneg {x : ℚ} (nonneg : 0 ≤ x) : 0 ≤ nearestDouble x := by
  have steps : ((0 : ℕ) : ℚ) * 2 ^ scale x ≤ x := by rwa [Nat.cast_zero, zero_mul]
  have below := steps_le_nearestDouble steps
  rwa [Nat.cast_zero, zero_mul] at below

/-- No number has more than 53 bits of its steps. -/
theorem lt_steps (x : ℚ) : x < (2 ^ 53 : ℕ) * 2 ^ scale x := by
  have above : x < 2 ^ (Int.log 2 x + 1) := by
    simpa using Int.lt_zpow_succ_log_self (b := 2) one_lt_two x
  have exponents : Int.log 2 x + 1 ≤ 53 + scale x := by
    have := le_max_right minExponent (Int.log 2 x - 52)
    rw [scale]
    omega
  calc x < 2 ^ (Int.log 2 x + 1) := above
    _ ≤ 2 ^ (53 + scale x) := zpow_le_zpow_right₀ one_le_two exponents
    _ = (2 ^ 53 : ℕ) * 2 ^ scale x := by
      rw [zpow_add₀ two_ne_zero]
      norm_num

/-- Where the step is not the least one, a number has 53 bits of it. -/
theorem steps_le {x : ℚ} (positive : 0 < x) (normal : minExponent < scale x) :
    (2 ^ 52 : ℕ) * 2 ^ scale x ≤ x := by
  have below : (2 : ℚ) ^ Int.log 2 x ≤ x := by
    simpa using Int.zpow_log_le_self (b := 2) one_lt_two positive
  have exponents : 52 + scale x = Int.log 2 x := by
    rw [scale] at normal ⊢
    omega
  calc ((2 ^ 52 : ℕ) : ℚ) * 2 ^ scale x = 2 ^ (52 + scale x) := by
        rw [zpow_add₀ two_ne_zero]
        norm_num
    _ ≤ x := by rwa [exponents]

private theorem scale_mono {x y : ℚ} (positive : 0 < x) (le : x ≤ y) : scale x ≤ scale y :=
  max_le_max le_rfl (Int.sub_le_sub_right (Int.log_mono_right positive le) 52)

/-- Rounding to doubles keeps the order. -/
theorem nearestDouble_mono {x y : ℚ} (nonneg : 0 ≤ x) (le : x ≤ y) : nearestDouble x ≤ nearestDouble y := by
  obtain rfl | positive := nonneg.eq_or_lt
  · rw [nearestDouble_zero]
    exact nearestDouble_nonneg le
  obtain finer | same := (scale_mono positive le).lt_or_eq
  · -- The greater number lies in a higher binade, where all doubles are greater.
    have normal : minExponent < scale y := (le_max_left ..).trans_lt finer
    have doubled : (2 : ℚ) ^ (scale x + 1) ≤ 2 ^ scale y := zpow_le_zpow_right₀ one_le_two finer
    rw [zpow_add_one₀ two_ne_zero] at doubled
    calc nearestDouble x ≤ (2 ^ 53 : ℕ) * 2 ^ scale x := nearestDouble_le_steps (lt_steps x).le
      _ = (2 ^ 52 : ℕ) * (2 ^ scale x * 2) := by
        push_cast
        ring
      _ ≤ (2 ^ 52 : ℕ) * 2 ^ scale y := mul_le_mul_of_nonneg_left doubled (Nat.cast_nonneg _)
      _ ≤ nearestDouble y := steps_le_nearestDouble (steps_le (positive.trans_le le) normal)
  · have whole := nearestWhole_mono (div_le_div_of_nonneg_right le (step_pos (scale y)).le)
    rw [nearestDouble, nearestDouble, same]
    exact mul_le_mul_of_nonneg_right (by exact_mod_cast whole) (step_pos _).le

/-- The nearest double is above the number by half a step at most. -/
theorem nearestDouble_le (x : ℚ) : nearestDouble x ≤ x + 2 ^ scale x / 2 := by
  have above := mul_le_mul_of_nonneg_right (nearestWhole_le (x / 2 ^ scale x)) (step_pos (scale x)).le
  rw [add_mul, div_mul_cancel₀ x (step_pos _).ne'] at above
  rw [nearestDouble]
  linarith

/-- The step around a number below a power of two. -/
theorem scale_le {x : ℚ} {k : ℕ} (positive : 0 < x) (below : x < 2 ^ k) :
    scale x ≤ max minExponent (k - 53) := by
  have binade : Int.log 2 x < k := by
    refine (Int.lt_zpow_iff_log_lt (b := 2) one_lt_two positive).mp ?_
    rw [zpow_natCast]
    exact_mod_cast below
  exact max_le_max le_rfl (by omega)

/-- A whole number of at most 53 bits is a double. -/
theorem nearestDouble_natCast {n : ℕ} (small : n < 2 ^ 53) : nearestDouble n = n := by
  obtain rfl | positive := n.eq_zero_or_pos
  · rw [Nat.cast_zero]
    exact nearestDouble_zero
  have whole : scale n ≤ 0 := by
    refine (scale_le (k := 53) (by exact_mod_cast positive) (by exact_mod_cast small)).trans ?_
    decide
  apply nearestDouble_of_steps (n := n * 2 ^ (-scale n).toNat)
  have cancels : (2 : ℚ) ^ (-scale n).toNat * 2 ^ scale n = 1 := by
    rw [← zpow_natCast, ← zpow_add₀ two_ne_zero, Int.toNat_of_nonneg (by omega), neg_add_cancel, zpow_zero]
  push_cast
  rw [mul_assoc, cancels, mul_one]

/-! ### What is computed -/

private theorem roundDiv_eq (num : ℕ) {den : ℕ} (positive : 0 < den) :
    (roundDiv num den : ℤ) = nearestWhole (num / den) := by
  have floor : ⌊(num / den : ℚ)⌋ = (num / den : ℕ) := Rat.floor_natCast_div_natCast num den
  have positive' : (0 : ℚ) < den := by exact_mod_cast positive
  have fraction : (num / den : ℚ) - (num / den : ℕ) = (num % den : ℕ) / den := by
    have whole : (den : ℚ) * (num / den : ℕ) + (num % den : ℕ) = num := by exact_mod_cast Nat.div_add_mod num den
    rw [eq_div_iff positive'.ne', sub_mul, div_mul_cancel₀ _ positive'.ne']
    linarith
  have less : ((num % den : ℕ) / den : ℚ) < 1 / 2 ↔ 2 * (num % den) < den := by
    rw [div_lt_div_iff₀ positive' two_pos, mul_comm, one_mul]
    exact_mod_cast Iff.rfl
  have half : ((num % den : ℕ) / den : ℚ) = 1 / 2 ↔ 2 * (num % den) = den := by
    rw [div_eq_div_iff positive'.ne' two_ne_zero, mul_comm, one_mul]
    exact_mod_cast Iff.rfl
  simp only [roundDiv, nearestWhole, floor, Int.cast_natCast, fraction, less, half, Bool.or_eq_true,
    Bool.and_eq_true, decide_eq_true_eq, beq_iff_eq]
  split <;> split <;> omega

private theorem roundScaled_eq (num : ℕ) {den : ℕ} (positive : 0 < den) (e : ℤ) :
    (roundScaled num den e : ℤ) = nearestWhole (num / den / 2 ^ e) := by
  cases e with
  | ofNat k =>
    have divided : (num / den / 2 ^ Int.ofNat k : ℚ) = num / (den * Nat.pow 2 k : ℕ) := by
      rw [div_div, Int.ofNat_eq_natCast, zpow_natCast, Nat.pow_eq]
      push_cast
      rfl
    rw [divided]
    exact roundDiv_eq num (Nat.mul_pos positive (Nat.pow_pos two_pos))
  | negSucc k =>
    have divided : (num / den / 2 ^ Int.negSucc k : ℚ) = (num * Nat.pow 2 (k + 1) : ℕ) / den := by
      rw [zpow_negSucc, div_inv_eq_mul, div_mul_eq_mul_div, Nat.pow_eq]
      push_cast
      rfl
    rw [divided]
    exact roundDiv_eq _ positive

/-- A number from one power of two up to the next lies in the binade of the first. -/
theorem log_eq {x : ℚ} {k : ℤ} (above : 2 ^ k ≤ x) (below : x < 2 ^ (k + 1)) : Int.log 2 x = k := by
  have positive : 0 < x := (step_pos k).trans_le above
  have low := (Int.zpow_le_iff_le_log (b := 2) one_lt_two positive).mp (by exact_mod_cast above)
  have high := (Int.lt_zpow_iff_log_lt (b := 2) one_lt_two positive).mp (by exact_mod_cast below)
  omega

private theorem log2_bounds {n : ℕ} (positive : 0 < n) :
    (2 : ℚ) ^ (n.log2 : ℤ) ≤ n ∧ (n : ℚ) < 2 ^ ((n.log2 : ℤ) + 1) := by
  constructor
  · rw [zpow_natCast]
    exact_mod_cast Nat.log2_self_le positive.ne'
  · rw [← Nat.cast_succ, zpow_natCast]
    exact_mod_cast Nat.lt_log2_self

/-- The binades of numerator and denominator place their quotient up to one power of two. -/
theorem quotient_bounds {num den : ℕ} (positive : 0 < num) (positive' : 0 < den) :
    (2 : ℚ) ^ ((num.log2 : ℤ) - den.log2 - 1) ≤ num / den ∧
    (num / den : ℚ) < 2 ^ ((num.log2 : ℤ) - den.log2 + 1) := by
  obtain ⟨numAbove, numBelow⟩ := log2_bounds positive
  obtain ⟨denAbove, denBelow⟩ := log2_bounds positive'
  have den0 : (0 : ℚ) < den := by exact_mod_cast positive'
  constructor
  · rw [le_div_iff₀ den0]
    calc (2 : ℚ) ^ ((num.log2 : ℤ) - den.log2 - 1) * den
        ≤ 2 ^ ((num.log2 : ℤ) - den.log2 - 1) * 2 ^ ((den.log2 : ℤ) + 1) :=
          mul_le_mul_of_nonneg_left denBelow.le (step_pos _).le
      _ = 2 ^ (num.log2 : ℤ) := by
        rw [← zpow_add₀ two_ne_zero]
        congr 1
        ring
      _ ≤ num := numAbove
  · rw [div_lt_iff₀ den0]
    calc (num : ℚ) < 2 ^ ((num.log2 : ℤ) + 1) := numBelow
      _ = 2 ^ ((num.log2 : ℤ) - den.log2 + 1) * 2 ^ (den.log2 : ℤ) := by
        rw [← zpow_add₀ two_ne_zero]
        congr 1
        ring
      _ ≤ 2 ^ ((num.log2 : ℤ) - den.log2 + 1) * den := mul_le_mul_of_nonneg_left denAbove (step_pos _).le

private theorem scaleOf_eq {num den : ℕ} (positive : 0 < num) (positive' : 0 < den) :
    scaleOf num den = scale (num / den) := by
  obtain ⟨low, high⟩ := quotient_bounds positive positive'
  have den0 : (0 : ℚ) < den := by exact_mod_cast positive'
  unfold scaleOf scale
  generalize (num.log2 : ℤ) - den.log2 = k at low high
  have binade (reaches : Bool) (reaches_iff : reaches = true ↔ (2 : ℚ) ^ k ≤ num / den) :
      (if reaches then k - 52 else k - 53) = Int.log 2 (num / den : ℚ) - 52 := by
    split
    next reached =>
      rw [log_eq (reaches_iff.mp reached) high]
    next missed =>
      have below := lt_of_not_ge (mt reaches_iff.mpr missed)
      rw [log_eq low (by rwa [sub_add_cancel])]
      omega
  refine congrArg (max minExponent) (binade _ ?_)
  cases k with
  | ofNat n =>
    rw [decide_eq_true_iff, le_div_iff₀ den0, Int.ofNat_eq_natCast, zpow_natCast, Nat.pow_eq, mul_comm]
    exact_mod_cast Iff.rfl
  | negSucc n =>
    rw [decide_eq_true_iff, le_div_iff₀ den0, zpow_negSucc, inv_mul_le_iff₀ (pow_pos two_pos _), Nat.pow_eq,
      mul_comm]
    exact_mod_cast Iff.rfl

/-- A significand of at most 53 bits is beyond the greatest double exactly if its exponent is. -/
theorem beyond_iff {m : ℕ} {e : ℤ} (few : m < 2 ^ 53) (normal : minExponent < e → 2 ^ 52 ≤ m) :
    maxExponent < e ↔ (2 : ℚ) ^ (1024 : ℤ) ≤ m * 2 ^ e := by
  constructor
  · intro beyond
    have bits : ((2 : ℚ) ^ (52 : ℤ)) ≤ m := by exact_mod_cast normal (lt_trans (by decide) beyond)
    calc (2 : ℚ) ^ (1024 : ℤ) = 2 ^ (52 : ℤ) * 2 ^ (972 : ℤ) := zpow_add₀ two_ne_zero 52 972
      _ ≤ 2 ^ (52 : ℤ) * 2 ^ e :=
        mul_le_mul_of_nonneg_left (zpow_le_zpow_right₀ one_le_two beyond) (step_pos _).le
      _ ≤ m * 2 ^ e := mul_le_mul_of_nonneg_right bits (step_pos e).le
  · intro great
    refine lt_of_not_ge fun within => absurd great (not_le_of_gt ?_)
    have bits : (m : ℚ) < 2 ^ (53 : ℤ) := by exact_mod_cast few
    calc (m : ℚ) * 2 ^ e < 2 ^ (53 : ℤ) * 2 ^ e := mul_lt_mul_of_pos_right bits (step_pos e)
      _ ≤ 2 ^ (53 : ℤ) * 2 ^ (971 : ℤ) :=
        mul_le_mul_of_nonneg_left (zpow_le_zpow_right₀ one_le_two within) (step_pos _).le
      _ = 2 ^ (1024 : ℤ) := (zpow_add₀ two_ne_zero 53 971).symm

/-- What is computed for a quotient is the nearest double with a significand of at most 53 bits, unless its
exponent is too great. -/
theorem nearest?_eq {num den : ℕ} (positive : 0 < num) (positive' : 0 < den) :
    ∃ m e, nearest? num den = (if maxExponent < e then none else some (m, e)) ∧
      (m : ℚ) * 2 ^ e = nearestDouble (num / den) ∧ m < 2 ^ 53 ∧ (minExponent < e → 2 ^ 52 ≤ m) := by
  have value : (roundScaled num den (scaleOf num den) : ℚ) * 2 ^ scaleOf num den =
      nearestDouble (num / den) := by
    rw [nearestDouble, scaleOf_eq positive positive', ← roundScaled_eq num positive']
    rfl
  have few : roundScaled num den (scaleOf num den) ≤ 2 ^ 53 := by
    have above := nearestDouble_le_steps (lt_steps (num / den : ℚ)).le
    rw [← value, ← scaleOf_eq positive positive'] at above
    exact_mod_cast le_of_mul_le_mul_right above (step_pos _)
  have normal : minExponent < scaleOf num den → 2 ^ 52 ≤ roundScaled num den (scaleOf num den) := by
    intro higher
    rw [scaleOf_eq positive positive'] at higher
    have below := steps_le_nearestDouble (steps_le (by positivity) higher)
    rw [← value, ← scaleOf_eq positive positive'] at below
    exact_mod_cast le_of_mul_le_mul_right below (step_pos _)
  have start : (num == 0 || den == 0) = false := by simp [positive.ne', positive'.ne']
  by_cases full : roundScaled num den (scaleOf num den) = 2 * leastNormal
  · -- Rounding up to one bit more halves the significand.
    refine ⟨leastNormal, scaleOf num den + 1, ?_, ?_, by decide, fun _ => by decide⟩
    · simp only [nearest?, start, full, beq_self_eq_true, if_true, Bool.false_eq_true, if_false]
    · rw [← value, full, zpow_add_one₀ two_ne_zero]
      push_cast
      ring
  · refine ⟨roundScaled num den (scaleOf num den), scaleOf num den, ?_, value, lt_of_le_of_ne few full, normal⟩
    simp only [nearest?, start, beq_eq_false_iff_ne.mpr full, Bool.false_eq_true, if_false]

/-- What is computed for a quotient is the nearest double, and nothing exactly where that is beyond the
greatest one. -/
theorem nearest?_cases (num : ℕ) {den : ℕ} (positive : 0 < den) :
    (nearest? num den = none ∧ 2 ^ (1024 : ℤ) ≤ nearestDouble (num / den)) ∨
    ∃ m e, nearest? num den = some (m, e) ∧ (m : ℚ) * 2 ^ e = nearestDouble (num / den) ∧
      nearestDouble (num / den) < 2 ^ (1024 : ℤ) := by
  obtain rfl | nonzero := num.eq_zero_or_pos
  · refine .inr ⟨0, minExponent, rfl, ?_⟩
    rw [Nat.cast_zero, zero_div, nearestDouble_zero, zero_mul]
    exact ⟨rfl, step_pos _⟩
  · obtain ⟨m, e, found, value, few, normal⟩ := nearest?_eq nonzero positive
    rw [found, ← value]
    by_cases beyond : maxExponent < e
    · rw [if_pos beyond]
      exact .inl ⟨rfl, (beyond_iff few normal).mp beyond⟩
    · rw [if_neg beyond]
      exact .inr ⟨m, e, rfl, rfl, lt_of_not_ge (mt (beyond_iff few normal).mpr beyond)⟩

/-- Numerator and denominator of a double make up its value. -/
theorem ratio_eq (m : ℕ) (e : ℤ) : 0 < (ratio m e).2 ∧ ((ratio m e).1 : ℚ) / (ratio m e).2 = m * 2 ^ e := by
  cases e with
  | ofNat k =>
    refine ⟨one_pos, ?_⟩
    simp only [ratio, Nat.pow_eq, Int.ofNat_eq_natCast, zpow_natCast]
    push_cast
    exact div_one _
  | negSucc k =>
    refine ⟨Nat.pow_pos two_pos, ?_⟩
    simp only [ratio, Nat.pow_eq, zpow_negSucc]
    push_cast
    exact div_eq_mul_inv _ _

theorem whole_eq (m : ℕ) (e : ℤ) : (whole m e : ℤ) = ⌊(m * 2 ^ e : ℚ)⌋ := by
  cases e with
  | ofNat k =>
    have exact : (m * 2 ^ Int.ofNat k : ℚ) = (m * Nat.pow 2 k : ℕ) := by
      rw [Int.ofNat_eq_natCast, zpow_natCast, Nat.pow_eq]
      push_cast
      rfl
    rw [exact, Int.floor_natCast]
    rfl
  | negSucc k =>
    have divided : (m * 2 ^ Int.negSucc k : ℚ) = m / (Nat.pow 2 (k + 1) : ℕ) := by
      rw [zpow_negSucc, Nat.pow_eq, div_eq_mul_inv]
      push_cast
      rfl
    rw [divided, Rat.floor_natCast_div_natCast]
    rfl

end NumberingPlan.Binary64
