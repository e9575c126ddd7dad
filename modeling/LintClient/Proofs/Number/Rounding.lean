import LintClient.Number.Binary64
import Mathlib.Algebra.Order.Field.Power
import Mathlib.Data.Int.Log
import Mathlib.Data.Rat.Floor
import Mathlib.Tactic.FieldSimp
import Mathlib.Tactic.Linarith
import Mathlib.Tactic.NormNum
import Mathlib.Tactic.Positivity
import Mathlib.Tactic.Ring

/-!
# Rounding

What rounding depends on, and what it leaves as it is. The number nearest to a ratio is a function
of the rational number that the ratio is (`ofRatio_congr`), and a binary64 number is nearest to
itself (`ofRatio_of_canonical`). Both carry over to decimals, for which powers of ten can be moved
between the digits and the exponent (`ofDecimal_mul_powerOfTen`).
-/

namespace LintClient

/-- A power of two as the library has it. -/
theorem powerOfTwo_eq (power : Nat) : powerOfTwo power = 2 ^ power := rfl

/-- A power of two is positive. -/
theorem powerOfTwo_pos (power : Nat) : 0 < powerOfTwo power := Nat.two_pow_pos power

/-- A power of ten as the library has it. -/
theorem powerOfTen_eq (power : Nat) : powerOfTen power = 10 ^ power := rfl

/-- A power of ten is positive. -/
theorem powerOfTen_pos (power : Nat) : 0 < powerOfTen power := Nat.pow_pos (by decide)

namespace Binary64

/-! ## Ratios -/

/-- The logarithm of a positive number tells which powers of two are not above it. -/
theorem zpow_two_le_iff {magnitude : ℚ} (above : 0 < magnitude) (power : Int) :
    2 ^ power ≤ magnitude ↔ power ≤ Int.log 2 magnitude := by
  exact_mod_cast Int.zpow_le_iff_le_log Nat.one_lt_two above

/-- Powers of two are multiplied by adding their exponents. -/
theorem zpow_mul_pow {power : Int} {more total : Nat} (adds : power + more = total) :
    (2 : ℚ) ^ power * (2 ^ more : Nat) = (2 ^ total : Nat) := by
  push_cast
  rw [← zpow_natCast, ← zpow_natCast, ← zpow_add₀ two_ne_zero, adds]

/-- A power of two is compared with a ratio in natural numbers. -/
theorem zpow_le_ratio_iff (numerator : Nat) {denominator : Nat} (positive : 0 < denominator)
    (exponent : Int) : (2 : ℚ) ^ exponent ≤ numerator / denominator ↔
      if 0 ≤ exponent then denominator * powerOfTwo exponent.toNat ≤ numerator
      else denominator ≤ numerator * powerOfTwo (-exponent).toNat := by
  have casted : (0 : ℚ) < denominator := by exact_mod_cast positive
  rw [le_div_iff₀ casted]
  split
  · next nonnegative =>
    obtain ⟨power, rfl⟩ := Int.eq_ofNat_of_zero_le nonnegative
    rw [zpow_natCast, mul_comm, Int.toNat_natCast]
    exact_mod_cast Iff.rfl
  · next negative =>
    obtain ⟨power, isPower⟩ := Int.eq_ofNat_of_zero_le (show 0 ≤ -exponent by omega)
    obtain rfl : exponent = -power := by omega
    have two : (0 : ℚ) < 2 ^ power := by positivity
    rw [zpow_neg, zpow_natCast, neg_neg, Int.toNat_natCast, inv_mul_le_iff₀ two,
      mul_comm (2 ^ power)]
    exact_mod_cast Iff.rfl

/-- The logarithm of a ratio is the difference of the logarithms, or one less. -/
theorem log_ratio {numerator denominator : Nat} (hasNumerator : 0 < numerator)
    (positive : 0 < denominator) : Int.log 2 (numerator / denominator : ℚ) =
      if (2 : ℚ) ^ ((numerator.log2 : Int) - denominator.log2) ≤ numerator / denominator then
        (numerator.log2 : Int) - denominator.log2
      else (numerator.log2 : Int) - denominator.log2 - 1 := by
  have above : (0 : ℚ) < numerator / denominator := by positivity
  have atLeast : (numerator.log2 : Int) - denominator.log2 - 1 ≤
      Int.log 2 (numerator / denominator : ℚ) := by
    have lower : ((2 ^ numerator.log2 : Nat) : ℚ) ≤ numerator := by
      exact_mod_cast Nat.log2_self_le hasNumerator.ne'
    have upper : (denominator : ℚ) ≤ (2 ^ (denominator.log2 + 1) : Nat) := by
      exact_mod_cast Nat.lt_log2_self.le
    rw [← zpow_two_le_iff above, le_div_iff₀ (by exact_mod_cast positive)]
    calc (2 : ℚ) ^ ((numerator.log2 : Int) - denominator.log2 - 1) * denominator
        ≤ 2 ^ ((numerator.log2 : Int) - denominator.log2 - 1) *
          (2 ^ (denominator.log2 + 1) : Nat) := by
          gcongr
      _ = (2 ^ numerator.log2 : Nat) := zpow_mul_pow (by push_cast; ring)
      _ ≤ numerator := lower
  have atMost : Int.log 2 (numerator / denominator : ℚ) <
      (numerator.log2 : Int) - denominator.log2 + 1 := by
    have upper : (numerator : ℚ) < (2 ^ (numerator.log2 + 1) : Nat) := by
      exact_mod_cast Nat.lt_log2_self
    have lower : ((2 ^ denominator.log2 : Nat) : ℚ) ≤ denominator := by
      exact_mod_cast Nat.log2_self_le positive.ne'
    rw [← not_le, ← zpow_two_le_iff above, not_le, div_lt_iff₀ (by exact_mod_cast positive)]
    calc (numerator : ℚ) < (2 ^ (numerator.log2 + 1) : Nat) := upper
      _ = 2 ^ ((numerator.log2 : Int) - denominator.log2 + 1) * (2 ^ denominator.log2 : Nat) :=
          (zpow_mul_pow (by push_cast; ring)).symm
      _ ≤ 2 ^ ((numerator.log2 : Int) - denominator.log2 + 1) * denominator := by
          gcongr
  split
  · next fits =>
    have reached := (zpow_two_le_iff above _).mp fits
    omega
  · next exceeds =>
    have missed := mt (zpow_two_le_iff above _).mpr exceeds
    omega

/-- The exponent of a ratio is given by its logarithm, and so by the rational number alone. -/
theorem exponentOfRatio_eq {numerator denominator : Nat} (hasNumerator : 0 < numerator)
    (positive : 0 < denominator) : exponentOfRatio numerator denominator =
      max (-1074) (Int.log 2 (numerator / denominator : ℚ) - 52) := by
  have fits := zpow_le_ratio_iff numerator positive ((numerator.log2 : Int) - denominator.log2)
  rw [log_ratio hasNumerator positive]
  unfold exponentOfRatio
  simp only [sub_add_cancel, ← fits]
  split <;> omega

/-- A quotient stays the same if both numbers are multiplied. -/
theorem roundDiv_mul_right (numerator denominator : Nat) {scale : Nat} (positive : 0 < scale) :
    roundDiv (numerator * scale) (denominator * scale) = roundDiv numerator denominator := by
  unfold roundDiv
  rw [Nat.mul_div_mul_right _ _ positive, Nat.mul_mod_mul_right]
  simp only [← mul_assoc, Nat.mul_lt_mul_right positive]

/-- An exact quotient is rounded to itself. -/
theorem roundDiv_mul_self (quotient : Nat) {denominator : Nat} (positive : 0 < denominator) :
    roundDiv (quotient * denominator) denominator = quotient := by
  simp [roundDiv, Nat.mul_div_cancel _ positive, positive]

/-- The number nearest to a ratio stays the same if both numbers are multiplied. -/
theorem ofRatio_mul_right (negative : Bool) (numerator : Nat) {denominator scale : Nat}
    (positive : 0 < denominator) (scaled : 0 < scale) :
    ofRatio negative (numerator * scale) (denominator * scale) =
      ofRatio negative numerator denominator := by
  rcases Nat.eq_zero_or_pos numerator with rfl | hasNumerator
  · rw [Nat.zero_mul]
    rfl
  · have same : ((numerator * scale : Nat) : ℚ) / (denominator * scale : Nat) =
        numerator / denominator := by
      push_cast
      exact mul_div_mul_right _ _ (by exact_mod_cast scaled.ne')
    have exponents : exponentOfRatio (numerator * scale) (denominator * scale) =
        exponentOfRatio numerator denominator := by
      rw [exponentOfRatio_eq (Nat.mul_pos hasNumerator scaled) (Nat.mul_pos positive scaled),
        exponentOfRatio_eq hasNumerator positive, same]
    simp only [ofRatio, exponents, Nat.mul_right_comm _ scale, roundDiv_mul_right _ _ scaled,
      if_neg hasNumerator.ne', if_neg (Nat.mul_pos hasNumerator scaled).ne']

/-- The number nearest to a ratio depends on the rational number only. -/
theorem ofRatio_congr (negative : Bool) {numerator denominator numerator' denominator' : Nat}
    (positive : 0 < denominator) (positive' : 0 < denominator')
    (same : (numerator / denominator : ℚ) = numerator' / denominator') :
    ofRatio negative numerator denominator = ofRatio negative numerator' denominator' := by
  have casted : (denominator : ℚ) ≠ 0 := by exact_mod_cast positive.ne'
  have casted' : (denominator' : ℚ) ≠ 0 := by exact_mod_cast positive'.ne'
  rw [div_eq_div_iff casted casted'] at same
  have crossed : numerator * denominator' = numerator' * denominator := by exact_mod_cast same
  calc ofRatio negative numerator denominator
      = ofRatio negative (numerator * denominator') (denominator * denominator') :=
        (ofRatio_mul_right negative numerator positive positive').symm
    _ = ofRatio negative (numerator' * denominator) (denominator' * denominator) := by
        rw [crossed, Nat.mul_comm denominator]
    _ = ofRatio negative numerator' denominator' :=
        ofRatio_mul_right negative numerator' positive' positive

/-! ## Numbers that need no rounding -/

/-- A canonical magnitude has the exponent that it is written with. -/
theorem exponent_of_canonical {significand : Nat} {exponent : Int}
    (canonical : IsCanonical significand exponent) (present : 0 < significand) :
    max (-1074) (Int.log 2 (significand * 2 ^ exponent : ℚ) - 52) = exponent := by
  obtain ⟨small, low, -, large⟩ := canonical
  have above : (0 : ℚ) < significand * 2 ^ exponent := by positivity
  have atMost : Int.log 2 (significand * 2 ^ exponent : ℚ) < 53 + exponent := by
    have casted : (significand : ℚ) < 2 ^ (53 : Int) := by exact_mod_cast small
    rw [← not_le, ← zpow_two_le_iff above, not_le, zpow_add₀ two_ne_zero]
    gcongr
  rcases large with large | rfl
  · have atLeast : 52 + exponent ≤ Int.log 2 (significand * 2 ^ exponent : ℚ) := by
      have casted : (2 : ℚ) ^ (52 : Int) ≤ significand := by exact_mod_cast large
      rw [← zpow_two_le_iff above, zpow_add₀ two_ne_zero]
      gcongr
    omega
  · omega

/-- A number of 53 bits with a sensible exponent is finite. -/
theorem ofParts_of_canonical (negative : Bool) {significand : Nat} {exponent : Int}
    (canonical : IsCanonical significand exponent) :
    ofParts negative significand exponent = .finite negative significand exponent canonical :=
  dif_pos canonical

/-- The number nearest to a ratio has the same parts with either sign. -/
theorem exists_ofParts (numerator denominator : Nat) : ∃ significand exponent, ∀ negative,
    ofRatio negative numerator denominator = ofParts negative significand exponent := by
  rcases Nat.eq_zero_or_pos numerator with rfl | present
  · exact ⟨0, -1074, fun _ => rfl⟩
  · simp only [ofRatio, if_neg present.ne']
    generalize (if 0 ≤ exponentOfRatio numerator denominator then (_ : Nat) else _) = significand
    split
    · exact ⟨powerOfTwo 52, _, fun _ => rfl⟩
    · exact ⟨significand, _, fun _ => rfl⟩

/-- A number of this kind is nearest to itself. -/
theorem ofRatio_of_canonical (negative : Bool) {significand : Nat} {exponent : Int}
    (canonical : IsCanonical significand exponent) {numerator denominator : Nat}
    (positive : 0 < denominator)
    (same : (numerator / denominator : ℚ) = significand * 2 ^ exponent) :
    ofRatio negative numerator denominator = .finite negative significand exponent canonical := by
  have casted : (denominator : ℚ) ≠ 0 := by exact_mod_cast positive.ne'
  have exact : (numerator : ℚ) = significand * 2 ^ exponent * denominator :=
    (div_eq_iff casted).mp same
  rcases Nat.eq_zero_or_pos significand with rfl | present
  · have nothing : numerator = 0 := by
      rw [Nat.cast_zero, zero_mul, zero_mul] at exact
      exact_mod_cast exact
    obtain rfl : exponent = -1074 := canonical.2.2.2.resolve_left (by decide)
    rw [ofRatio, if_pos nothing, ofParts_of_canonical negative canonical]
  · have hasNumerator : 0 < numerator := by
      have above : (0 : ℚ) < numerator := by
        rw [exact]
        positivity
      exact_mod_cast above
    have exponents : exponentOfRatio numerator denominator = exponent := by
      rw [exponentOfRatio_eq hasNumerator positive, same, exponent_of_canonical canonical present]
    have rounded :
        (if 0 ≤ exponent then roundDiv numerator (denominator * powerOfTwo exponent.toNat)
        else roundDiv (numerator * powerOfTwo (-exponent).toNat) denominator) = significand := by
      split
      · next nonnegative =>
        obtain ⟨power, rfl⟩ := Int.eq_ofNat_of_zero_le nonnegative
        have whole : numerator = significand * (denominator * powerOfTwo power) := by
          rw [zpow_natCast] at exact
          have product : numerator = significand * 2 ^ power * denominator := by
            exact_mod_cast exact
          rw [product, powerOfTwo_eq]
          ring
        rw [Int.toNat_natCast, whole]
        exact roundDiv_mul_self _ (Nat.mul_pos positive (powerOfTwo_pos power))
      · next below =>
        obtain ⟨power, isPower⟩ := Int.eq_ofNat_of_zero_le (show 0 ≤ -exponent by omega)
        obtain rfl : exponent = -power := by omega
        have whole : numerator * powerOfTwo power = significand * denominator := by
          have two : (2 : ℚ) ^ power ≠ 0 := by positivity
          have product : (numerator * 2 ^ power : ℚ) = significand * denominator := by
            rw [exact, zpow_neg, zpow_natCast]
            field_simp
          exact_mod_cast product
        rw [neg_neg, Int.toNat_natCast, whole]
        exact roundDiv_mul_self _ positive
    have short : significand ≠ powerOfTwo 53 := canonical.1.ne
    simp only [ofRatio, if_neg hasNumerator.ne', exponents, rounded, if_neg short,
      ofParts_of_canonical negative canonical]

end Binary64

end LintClient
