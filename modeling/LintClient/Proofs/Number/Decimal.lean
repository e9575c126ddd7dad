import LintClient.Number.Shortest
import LintClient.Proofs.Number.Rounding

/-!
# Decimals

A decimal denotes one rational number, however its powers of ten are shared between the digits and
the exponent, and is read as the number nearest to that (`ofDecimal_mul_powerOfTen`). The shortest
decimal of a number reads back as the number (`reads_shortest`): either it was found because it
does, or it is the exact expansion.
-/

namespace LintClient.Binary64

/-! ## Orders of magnitude -/

/-- A positive number has one more digit than its tenth. -/
theorem decimalLength_mul_ten {number : Nat} (positive : 0 < number) :
    decimalLength (number * 10) = decimalLength number + 1 := by
  have large : ¬ number * 10 < 10 := by omega
  have tenth : number * 10 / 10 = number := Nat.mul_div_cancel _ (by decide)
  rw [decimalLength, Nat.toDigits_eq_if (by decide), if_neg large, tenth, List.length_append]
  rfl

/-- A power of ten adds as many digits as its exponent says. -/
theorem decimalLength_mul_powerOfTen {number : Nat} (positive : 0 < number) (power : Nat) :
    decimalLength (number * powerOfTen power) = decimalLength number + power := by
  induction power with
  | zero => rw [powerOfTen_eq, pow_zero, Nat.mul_one, Nat.add_zero]
  | succ power inductionHypothesis =>
      have split : number * powerOfTen (power + 1) = number * powerOfTen power * 10 := by
        rw [powerOfTen_eq, powerOfTen_eq, pow_succ, Nat.mul_assoc]
      have above : 0 < number * powerOfTen power := Nat.mul_pos positive (powerOfTen_pos power)
      rw [split, decimalLength_mul_ten above, inductionHypothesis, Nat.add_assoc]

/-- Shorter numbers are below a power of ten. -/
theorem decimalLength_le_iff (number : Nat) {length : Nat} (long : 0 < length) :
    decimalLength number ≤ length ↔ number < 10 ^ length :=
  Nat.length_toDigits_le_iff (by decide) long

/-- A positive number lies between the powers of ten that its length gives. -/
theorem decimalLength_spec {number : Nat} (positive : 0 < number) :
    10 ^ (decimalLength number - 1) ≤ number ∧ number < 10 ^ decimalLength number := by
  have long : 0 < decimalLength number := Nat.length_toDigits_pos
  refine ⟨?_, (decimalLength_le_iff number long).mp le_rfl⟩
  rcases Nat.eq_zero_or_pos (decimalLength number - 1) with single | several
  · rw [single]
    exact positive
  · have shorter : ¬ decimalLength number ≤ decimalLength number - 1 := by omega
    rw [decimalLength_le_iff number several] at shorter
    exact Nat.le_of_not_lt shorter

/-- A decimal lies between the powers of ten that its order gives. -/
theorem order_spec {digits : Nat} (positive : 0 < digits) (exponent : Int) :
    (10 : ℚ) ^ (decimalLength digits + exponent - 1) ≤ digits * 10 ^ exponent ∧
      (digits * 10 ^ exponent : ℚ) < 10 ^ (decimalLength digits + exponent) := by
  obtain ⟨lower, upper⟩ := decimalLength_spec positive
  have long : 0 < decimalLength digits := Nat.length_toDigits_pos
  have ten : (10 : ℚ) ≠ 0 := by norm_num
  constructor
  · have same : (decimalLength digits + exponent - 1 : Int) =
        ((decimalLength digits - 1 : Nat) : Int) + exponent := by omega
    have casted : (10 : ℚ) ^ (decimalLength digits - 1) ≤ digits := by exact_mod_cast lower
    rw [same, zpow_add₀ ten, zpow_natCast]
    gcongr
  · have casted : (digits : ℚ) < 10 ^ decimalLength digits := by exact_mod_cast upper
    rw [zpow_add₀ ten, zpow_natCast]
    gcongr

/-! ## Reading decimals -/

/-- A decimal of an order that is not settled by itself is read as the number nearest to it. -/
theorem ofDecimal_eq_ofRatio (negative : Bool) {digits numerator denominator : Nat} {exponent : Int}
    (present : 0 < digits) (low : -330 ≤ decimalLength digits + exponent)
    (high : decimalLength digits + exponent ≤ 310) (positive : 0 < denominator)
    (same : (numerator / denominator : ℚ) = digits * 10 ^ exponent) :
    ofDecimal negative digits exponent = ofRatio negative numerator denominator := by
  have within : ¬ (digits = 0 ∨ (decimalLength digits : Int) + exponent < -330) := by omega
  simp only [ofDecimal, Bool.or_eq_true, decide_eq_true_eq, if_neg within, if_neg (not_lt.mpr high)]
  split
  · next nonnegative =>
    obtain ⟨power, rfl⟩ := Int.eq_ofNat_of_zero_le nonnegative
    apply ofRatio_congr negative one_pos positive
    rw [same, Int.toNat_natCast, zpow_natCast, Nat.cast_one, div_one, powerOfTen_eq]
    push_cast
    rfl
  · next below =>
    obtain ⟨power, isPower⟩ := Int.eq_ofNat_of_zero_le (show 0 ≤ -exponent by omega)
    obtain rfl : exponent = -power := by omega
    rw [neg_neg, Int.toNat_natCast]
    apply ofRatio_congr negative (powerOfTen_pos power) positive
    rw [same, zpow_neg, zpow_natCast, powerOfTen_eq, div_eq_mul_inv]
    push_cast
    rfl

/-- The value of a decimal as a ratio of natural numbers. -/
theorem exists_ratio (digits : Nat) (exponent : Int) : ∃ numerator denominator : Nat,
    0 < denominator ∧ (numerator / denominator : ℚ) = digits * 10 ^ exponent := by
  obtain ⟨power, rfl | rfl⟩ := Int.eq_nat_or_neg exponent
  · exact ⟨digits * 10 ^ power, 1, one_pos, by push_cast; rw [div_one, zpow_natCast]⟩
  · refine ⟨digits, 10 ^ power, by positivity, ?_⟩
    push_cast
    rw [zpow_neg, zpow_natCast, div_eq_mul_inv]

/-- Zeros at the end of the digits may be counted in the exponent. -/
theorem ofDecimal_mul_powerOfTen (negative : Bool) (digits power : Nat) (exponent : Int) :
    ofDecimal negative (digits * powerOfTen power) exponent =
      ofDecimal negative digits (exponent + power) := by
  rcases Nat.eq_zero_or_pos digits with rfl | present
  · rw [Nat.zero_mul]
    rfl
  · have above : 0 < digits * powerOfTen power := Nat.mul_pos present (powerOfTen_pos power)
    have order : (decimalLength (digits * powerOfTen power) : Int) + exponent =
        decimalLength digits + (exponent + power) := by
      rw [decimalLength_mul_powerOfTen present]
      omega
    by_cases low : (decimalLength digits : Int) + (exponent + power) < -330
    · simp only [ofDecimal, order, low, decide_true, Bool.or_true, ↓reduceIte]
    by_cases high : 310 < (decimalLength digits : Int) + (exponent + power)
    · simp only [ofDecimal, order, low, high, above.ne', present.ne', decide_false, Bool.or_self,
        Bool.false_eq_true, ↓reduceIte]
    obtain ⟨numerator, denominator, positive, same⟩ := exists_ratio digits (exponent + power)
    have shared : ((digits * powerOfTen power : Nat) : ℚ) * 10 ^ exponent =
        digits * 10 ^ (exponent + power) := by
      rw [zpow_add₀ (by norm_num), zpow_natCast, powerOfTen_eq]
      push_cast
      ring
    rw [ofDecimal_eq_ofRatio negative above (by omega) (by omega) positive (same.trans shared.symm),
      ofDecimal_eq_ofRatio negative present (by omega) (by omega) positive same]

/-- The least positive number is above a power of ten that is read as zero. -/
theorem least_magnitude : (10 : ℚ) ^ (-331 : Int) ≤ 2 ^ (-1074 : Int) := by
  have powers : 2 ^ 1074 ≤ 10 ^ 331 := by decide +kernel
  have casted : (2 : ℚ) ^ 1074 ≤ 10 ^ 331 := by exact_mod_cast powers
  rw [zpow_neg, zpow_neg, zpow_ofNat, zpow_ofNat]
  exact inv_anti₀ (by positivity) casted

/-- All finite numbers are below a power of ten that is not read as infinite. -/
theorem greatest_magnitude : (2 : ℚ) ^ (53 : Int) * 2 ^ (971 : Int) ≤ 10 ^ (310 : Int) := by
  have powers : 2 ^ 53 * 2 ^ 971 ≤ 10 ^ 310 := by decide +kernel
  exact_mod_cast powers

/-- A decimal that is exactly a binary64 number is read as this number. -/
theorem ofDecimal_of_canonical (negative : Bool) {significand digits : Nat} {exponent power : Int}
    (canonical : IsCanonical significand exponent) (present : 0 < significand)
    (same : (digits * 10 ^ power : ℚ) = significand * 2 ^ exponent) :
    ofDecimal negative digits power = .finite negative significand exponent canonical := by
  have above : (0 : ℚ) < digits * 10 ^ power := by
    rw [same]
    positivity
  have hasDigits : 0 < digits := by
    have casted : (digits : ℚ) ≠ 0 := fun nothing => by simp [nothing] at above
    exact Nat.pos_of_ne_zero (by exact_mod_cast casted)
  obtain ⟨lower, upper⟩ := order_spec hasDigits power
  rw [same] at lower upper
  obtain ⟨small, least, greatest, -⟩ := canonical
  have one : (1 : ℚ) ≤ significand := by exact_mod_cast present
  have low : -330 ≤ (decimalLength digits : Int) + power := by
    by_contra far
    have impossible : (2 : ℚ) ^ (-1074 : Int) < 2 ^ (-1074 : Int) := calc
      (2 : ℚ) ^ (-1074 : Int) ≤ 1 * 2 ^ exponent := by
        rw [one_mul]
        gcongr
        norm_num
      _ ≤ significand * 2 ^ exponent := by gcongr
      _ < 10 ^ (decimalLength digits + power) := upper
      _ ≤ 10 ^ (-331 : Int) := by
        gcongr
        · norm_num
        · omega
      _ ≤ 2 ^ (-1074 : Int) := least_magnitude
    exact lt_irrefl _ impossible
  have high : (decimalLength digits : Int) + power ≤ 310 := by
    by_contra far
    have casted : (significand : ℚ) < 2 ^ (53 : Int) := by exact_mod_cast small
    have impossible : (10 : ℚ) ^ (310 : Int) < 10 ^ (310 : Int) := calc
      (10 : ℚ) ^ (310 : Int) ≤ 10 ^ (decimalLength digits + power - 1) := by
        gcongr
        · norm_num
        · omega
      _ ≤ significand * 2 ^ exponent := lower
      _ < 2 ^ (53 : Int) * 2 ^ exponent := by gcongr
      _ ≤ 2 ^ (53 : Int) * 2 ^ (971 : Int) := by
        gcongr
        norm_num
      _ ≤ 10 ^ (310 : Int) := greatest_magnitude
    exact lt_irrefl _ impossible
  obtain ⟨numerator, denominator, positive, isRatio⟩ := exists_ratio digits power
  rw [ofDecimal_eq_ofRatio negative hasDigits low high positive isRatio]
  exact ofRatio_of_canonical negative _ positive (isRatio.trans same)

/-! ## Signs -/

/-- A number with its sign replaced. -/
def signed (negative : Bool) : Binary64 → Binary64
  | .finite _ significand exponent canonical => .finite negative significand exponent canonical
  | .infinite _ => .infinite negative
  | .nan => .nan

/-- The sign of a number from its parts goes to the number as it is. -/
theorem ofParts_eq_signed (negative : Bool) (significand : Nat) (exponent : Int) :
    ofParts negative significand exponent =
      (ofParts false significand exponent).signed negative := by
  unfold ofParts
  split <;> rfl

/-- The sign of a rounded ratio goes to the number as it is. -/
theorem ofRatio_eq_signed (negative : Bool) (numerator denominator : Nat) :
    ofRatio negative numerator denominator =
      (ofRatio false numerator denominator).signed negative := by
  obtain ⟨significand, exponent, same⟩ := exists_ofParts numerator denominator
  rw [same, same]
  exact ofParts_eq_signed ..

/-- The sign of a decimal is the sign of what it is read as. -/
theorem ofDecimal_eq_signed (negative : Bool) (digits : Nat) (exponent : Int) :
    ofDecimal negative digits exponent = (ofDecimal false digits exponent).signed negative := by
  simp only [ofDecimal]
  split_ifs
  · exact ofParts_eq_signed ..
  · rfl
  · exact ofRatio_eq_signed ..
  · exact ofRatio_eq_signed ..

/-! ## Shortest decimals -/

/-- A decimal has digits and is read as a number. -/
structure Decimal.Reads (decimal : Decimal) (number : Binary64) : Prop where
  present : 0 < decimal.digits
  reads : ofDecimal false decimal.digits (decimal.point - decimalLength decimal.digits) = number

/-- Without digits nothing but zero is read. -/
theorem digits_pos_of_reads {significand digits : Nat} {exponent power : Int}
    {canonical : IsCanonical significand exponent} (present : 0 < significand)
    (reads : ofDecimal false digits power = .finite false significand exponent canonical) :
    0 < digits := by
  apply Nat.pos_of_ne_zero
  rintro rfl
  have zero : ofDecimal false 0 power = .finite false 0 (-1074) (by decide) := rfl
  rw [zero] at reads
  cases reads
  exact absurd present (Nat.lt_irrefl 0)

/-- A decimal that the search finds is read as the number. -/
theorem reads_of_decimalOfLength {significand numerator denominator length : Nat}
    {exponent point : Int} {canonical : IsCanonical significand exponent}
    (present : 0 < significand)
    {decimal : Decimal} (found : decimalOfLength? (.finite false significand exponent canonical)
      numerator denominator point length = some decimal) :
    decimal.Reads (.finite false significand exponent canonical) := by
  obtain ⟨digits, isFound, rfl⟩ := Option.map_eq_some_iff.mp found
  have reads := List.find?_some isFound
  rw [decide_eq_true_eq] at reads
  refine ⟨digits_pos_of_reads present reads, ?_⟩
  rw [add_sub_cancel_right]
  exact reads

/-- The digits of the exact expansion of a number. -/
theorem reads_expansion {significand : Nat} {exponent : Int}
    (canonical : IsCanonical significand exponent) (present : 0 < significand) {digits : Nat}
    (exact : (digits * 10 ^ min exponent 0 : ℚ) = significand * 2 ^ exponent) :
    Decimal.Reads ⟨digits, decimalLength digits + min exponent 0⟩
      (.finite false significand exponent canonical) := by
  have reads := ofDecimal_of_canonical false canonical present exact
  refine ⟨digits_pos_of_reads present reads, ?_⟩
  rw [add_sub_cancel_left]
  exact reads

/-- The shortest decimal of a positive number reads back as the number. -/
theorem reads_shortest {significand : Nat} {exponent : Int}
    (canonical : IsCanonical significand exponent) (present : 0 < significand) :
    (shortest significand exponent).Reads (.finite false significand exponent canonical) := by
  unfold shortest
  simp only [ofParts_of_canonical false canonical]
  split
  · next decimal found =>
    obtain ⟨length, -, found⟩ := List.exists_of_findSome?_eq_some found
    exact reads_of_decimalOfLength present found
  · apply reads_expansion canonical present
    split
    · next nonnegative =>
      obtain ⟨power, rfl⟩ := Int.eq_ofNat_of_zero_le nonnegative
      simp [powerOfTwo_eq, powerOfTen_eq]
    · next below =>
      obtain ⟨power, isPower⟩ := Int.eq_ofNat_of_zero_le (show 0 ≤ -exponent by omega)
      obtain rfl : exponent = -power := by omega
      have divides :
          significand * powerOfTen power / powerOfTwo power = significand * 5 ^ power := by
        have tens : powerOfTen power = 5 ^ power * powerOfTwo power := mul_pow 5 2 power
        rw [tens, ← Nat.mul_assoc, Nat.mul_div_cancel _ (powerOfTwo_pos power)]
      have least : min (-(power : Int)) 0 = -power := by omega
      have tens : (10 : ℚ) ^ power = 5 ^ power * 2 ^ power := by
        rw [← mul_pow]
        norm_num
      rw [neg_neg, Int.toNat_natCast, divides, least, zpow_neg, zpow_neg, zpow_natCast,
        zpow_natCast, tens]
      push_cast
      field_simp

end LintClient.Binary64
