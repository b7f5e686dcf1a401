import NumberingPlan.Proofs.NearestDouble
import NumberingPlan.Shape

/-! The capacity of a container in closed form: the count as a double over three quarters, as doubles divide,
without its fraction. Main statement: up to a bound that cannot be raised this is four thirds of the count,
rounded down; and everywhere it keeps the order of the counts, overflow being the greatest capacity. -/
namespace NumberingPlan

open Binary64

/-- The magnitude of a count as a double. -/
def converted (count : ℤ) : ℚ := nearestDouble count.natAbs

/-- The magnitude of a count over three quarters, as doubles divide. -/
def divided (count : ℤ) : ℚ := nearestDouble (converted count / (3 / 4))

private theorem capacityFor_eq (count : ℤ) : capacityFor count =
    if 2 ^ (1024 : ℤ) ≤ converted count then .error .count
    else if 2 ^ (1024 : ℤ) ≤ divided count then .error .quotient
    else .ok (if count < 0 then -⌊divided count⌋ else ⌊divided count⌋) := by
  have first := nearest?_cases count.natAbs one_pos
  rw [Nat.cast_one, div_one, ← converted] at first
  obtain ⟨found, beyond⟩ | ⟨m, e, found, value, within⟩ := first
  · rw [if_pos beyond]
    simp only [capacityFor, found]
  · obtain ⟨positive, ratio⟩ := ratio_eq m e
    have second := nearest?_cases (4 * (Binary64.ratio m e).1) (Nat.mul_pos three_pos positive)
    have quotient : ((4 * (Binary64.ratio m e).1 : ℕ) : ℚ) / (3 * (Binary64.ratio m e).2 : ℕ) =
        converted count / (3 / 4) := by
      rw [← value, ← ratio]
      push_cast
      field_simp
    rw [quotient, ← divided] at second
    rw [if_neg (not_le_of_gt within)]
    obtain ⟨found', beyond⟩ | ⟨m', e', found', value', within'⟩ := second
    · rw [if_pos beyond]
      simp only [capacityFor, found, found']
    · rw [if_neg (not_le_of_gt within'), ← value', ← whole_eq]
      simp only [capacityFor, found, found']

/-! ### Order -/

private theorem converted_mono {count count' : ℤ} (le : count.natAbs ≤ count'.natAbs) :
    converted count ≤ converted count' :=
  nearestDouble_mono (Nat.cast_nonneg _) (Nat.cast_le.mpr le)

private theorem converted_nonneg (count : ℤ) : 0 ≤ converted count := nearestDouble_nonneg (Nat.cast_nonneg _)

private theorem divided_mono {count count' : ℤ} (le : count.natAbs ≤ count'.natAbs) :
    divided count ≤ divided count' :=
  nearestDouble_mono (div_nonneg (converted_nonneg count) (by norm_num))
    (div_le_div_of_nonneg_right (converted_mono le) (by norm_num))

private theorem divided_nonneg (count : ℤ) : 0 ≤ divided count :=
  nearestDouble_nonneg (div_nonneg (converted_nonneg count) (by norm_num))

private theorem size_of_ok {count size : ℤ} (found : capacityFor count = .ok size) :
    size = if count < 0 then -⌊divided count⌋ else ⌊divided count⌋ := by
  rw [capacityFor_eq] at found
  split at found
  · cases found
  · split at found
    · cases found
    · exact (Except.ok.inj found).symm

/-- Of two counts, the greater has no smaller capacity. -/
theorem capacityFor_mono {fewer more size size' : ℤ} (le : fewer ≤ more)
    (found : capacityFor fewer = .ok size) (found' : capacityFor more = .ok size') : size ≤ size' := by
  rw [size_of_ok found, size_of_ok found']
  by_cases negative : fewer < 0
  · rw [if_pos negative]
    by_cases negative' : more < 0
    · rw [if_pos negative']
      exact Int.neg_le_neg (Int.floor_mono (divided_mono (by omega)))
    · rw [if_neg negative']
      have below := Int.floor_nonneg.mpr (divided_nonneg fewer)
      have above := Int.floor_nonneg.mpr (divided_nonneg more)
      omega
  · rw [if_neg negative, if_neg (by omega)]
    exact Int.floor_mono (divided_mono (by omega))

/-- A count has no capacity exactly if it or its quotient is beyond the doubles. -/
theorem capacityFor_error_iff {count : ℤ} : (∃ fault, capacityFor count = .error fault) ↔
    2 ^ (1024 : ℤ) ≤ converted count ∨ 2 ^ (1024 : ℤ) ≤ divided count := by
  rw [capacityFor_eq]
  by_cases beyond : 2 ^ (1024 : ℤ) ≤ converted count
  · rw [if_pos beyond]
    exact iff_of_true ⟨_, rfl⟩ (.inl beyond)
  · rw [if_neg beyond]
    by_cases beyond' : 2 ^ (1024 : ℤ) ≤ divided count
    · rw [if_pos beyond']
      exact iff_of_true ⟨_, rfl⟩ (.inr beyond')
    · rw [if_neg beyond']
      exact iff_of_false nofun (not_or.mpr ⟨beyond, beyond'⟩)

/-! ### Four thirds of the count -/

/-- Between a double that is whole and the next whole number, the fraction alone is lost. -/
theorem floor_nearestDouble {x : ℚ} {n : ℕ} (small : n < 2 ^ 53) (below : n ≤ x)
    (above : x + 2 ^ scale x / 2 < n + 1) : ⌊nearestDouble x⌋ = n := by
  have lower := nearestDouble_mono (Nat.cast_nonneg n) below
  rw [nearestDouble_natCast small] at lower
  have upper := (nearestDouble_le x).trans_lt above
  exact Int.floor_eq_iff.mpr ⟨by exact_mod_cast lower, by exact_mod_cast upper⟩

/-- Below the bound, four thirds of a count are far enough below the next whole number: the step of doubles
around them is a half, or it is one and they are a third above a whole number at most. -/
theorem four_thirds_near {n : ℕ} (bounded : n ≤ 3 * 2 ^ 50 + 1) :
    (n / (3 / 4) : ℚ) + 2 ^ scale (n / (3 / 4)) / 2 < (4 * n / 3 : ℕ) + 1 := by
  obtain rfl | positive := n.eq_zero_or_pos
  · norm_num [scale, minExponent]
  have whole : (n / (3 / 4) : ℚ) = (4 * n / 3 : ℕ) + (4 * n % 3 : ℕ) / 3 := by
    have parts : (3 : ℚ) * (4 * n / 3 : ℕ) + (4 * n % 3 : ℕ) = 4 * n := by
      exact_mod_cast Nat.div_add_mod (4 * n) 3
    field_simp
    linarith
  have positive' : (0 : ℚ) < n / (3 / 4) := by positivity
  have step {e : ℤ} (fine : scale (n / (3 / 4)) ≤ e) : (2 : ℚ) ^ scale (n / (3 / 4)) ≤ 2 ^ e :=
    zpow_le_zpow_right₀ one_le_two fine
  by_cases fine : n < 3 * 2 ^ 50
  · have below : (n / (3 / 4) : ℚ) < 2 ^ 52 := by
      have cast : (n : ℚ) < 3 * 2 ^ 50 := by exact_mod_cast fine
      rw [div_lt_iff₀ (by norm_num)]
      linarith
    have half : (2 : ℚ) ^ scale (n / (3 / 4)) ≤ 1 / 2 :=
      (step (scale_le (k := 52) positive' below)).trans (by norm_num [minExponent])
    have rest : ((4 * n % 3 : ℕ) : ℚ) ≤ 2 := by exact_mod_cast (by omega : 4 * n % 3 ≤ 2)
    linarith
  · have below : (n / (3 / 4) : ℚ) < 2 ^ 53 := by
      have cast : (n : ℚ) ≤ 3 * 2 ^ 50 + 1 := by exact_mod_cast bounded
      rw [div_lt_iff₀ (by norm_num)]
      linarith
    have one : (2 : ℚ) ^ scale (n / (3 / 4)) ≤ 1 :=
      (step (scale_le (k := 53) positive' below)).trans (by norm_num [minExponent])
    have rest : ((4 * n % 3 : ℕ) : ℚ) ≤ 1 := by exact_mod_cast (by omega : 4 * n % 3 ≤ 1)
    linarith

private theorem capacityFor_natCast {n : ℕ} (bounded : n ≤ 3 * 2 ^ 50 + 1) :
    capacityFor n = .ok (4 * n / 3) := by
  have exact : converted n = n := nearestDouble_natCast (by omega)
  have below : ((4 * n / 3 : ℕ) : ℚ) ≤ n / (3 / 4) := by
    rw [le_div_iff₀ (by norm_num)]
    have parts : ((3 * (4 * n / 3) : ℕ) : ℚ) ≤ (4 * n : ℕ) := Nat.cast_le.mpr (Nat.mul_div_le (4 * n) 3)
    push_cast at parts ⊢
    linarith
  have small : 4 * n / 3 < 2 ^ 53 := by omega
  have size : ⌊divided n⌋ = (4 * n / 3 : ℕ) := by
    rw [divided, exact]
    exact floor_nearestDouble small below (four_thirds_near bounded)
  have within {x : ℚ} (few : x < 2 ^ (54 : ℤ)) : ¬2 ^ (1024 : ℤ) ≤ x :=
    not_le_of_gt (few.trans_le (zpow_le_zpow_right₀ one_le_two (by decide)))
  have few : converted n < 2 ^ (54 : ℤ) := by
    rw [exact]
    exact_mod_cast (by omega : n < 2 ^ 54)
  have few' : divided n < 2 ^ (54 : ℤ) := by
    have next := Int.lt_floor_add_one (divided n)
    rw [size] at next
    exact next.trans_le (by exact_mod_cast (by omega : 4 * n / 3 + 1 ≤ 2 ^ 54))
  rw [capacityFor_eq, if_neg (within few), if_neg (within few'), if_neg (by omega), size]
  rfl

/-- Up to three times two to the fiftieth and one, the capacity is four thirds of the count, rounded down,
and for the next count it is not. Of all counts, a greater one has no smaller capacity, and none where a
smaller one that is not negative has none. -/
theorem capacity_is_four_thirds_in_order :
    (∀ count : ℤ, 0 ≤ count → count ≤ 3 * 2 ^ 50 + 1 → capacityFor count = .ok (4 * count / 3)) ∧
    capacityFor (3 * 2 ^ 50 + 2) ≠ .ok (4 * (3 * 2 ^ 50 + 2) / 3) ∧
    (∀ fewer more size size', fewer ≤ more → capacityFor fewer = .ok size → capacityFor more = .ok size' →
      size ≤ size') ∧
    ∀ fewer more fault, 0 ≤ fewer → fewer ≤ more → capacityFor fewer = .error fault →
      ∃ fault', capacityFor more = .error fault' := by
  refine ⟨?_, ?_, fun _ _ _ _ => capacityFor_mono, ?_⟩
  · intro count nonneg bounded
    obtain ⟨n, rfl⟩ := Int.eq_ofNat_of_zero_le nonneg
    exact capacityFor_natCast (by omega)
  · have next : capacityFor 3377699720527874 = .ok 4503599627370499 := rfl
    norm_num [next]
  · intro fewer more fault nonneg le failed
    have grown : fewer.natAbs ≤ more.natAbs := by omega
    rw [capacityFor_error_iff]
    obtain beyond | beyond := capacityFor_error_iff.mp ⟨fault, failed⟩
    · exact .inl (beyond.trans (converted_mono grown))
    · exact .inr (beyond.trans (divided_mono grown))

/-- The greatest count of which four thirds are found, counts of both signs, and the two ways of overflow:
a double whose quotient is none, and a count that is none. -/
theorem capacities_at_the_bounds :
    capacityFor (3 * 2 ^ 50 + 1) = .ok (4 * (3 * 2 ^ 50 + 1) / 3) ∧
    (capacityFor (-5) = .ok (-6) ∧ capacityFor 5 = .ok 6 ∧ (-6 : ℤ) ≤ 6) ∧
    capacityFor (3 * 2 ^ 1022 : ℕ) = .error .quotient ∧
    ∃ fault, capacityFor (4 * 2 ^ 1022 : ℕ) = .error fault := by
  obtain ⟨exact, -, order, overflow⟩ := capacity_is_four_thirds_in_order
  have beyond : capacityFor (3 * 2 ^ 1022 : ℕ) = .error .quotient := by decide +kernel
  refine ⟨exact _ (by norm_num) (by norm_num), ⟨rfl, rfl, order (-5) 5 (-6) 6 (by norm_num) rfl rfl⟩, beyond, ?_⟩
  refine overflow (3 * 2 ^ 1022 : ℕ) (4 * 2 ^ 1022 : ℕ) .quotient (Int.natCast_nonneg _) ?_ beyond
  exact Int.ofNat_le.mpr (Nat.mul_le_mul_right _ (by decide))

end NumberingPlan
