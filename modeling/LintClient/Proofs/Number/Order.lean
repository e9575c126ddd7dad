import LintClient.Proofs.Number.Rounding

/-!
# The order of numbers

Every number but the undefined one is in the order, which is total (`le_total`), and a sum that
starts at a finite number stays in it (`add_ne_nan`). Numbers that are equal as numbers are the same
number, the two zeros apart (`eq_of_equal`).
-/

namespace LintClient.Binary64

/-! ## Units -/

/-- The count of units and the size of a unit give the magnitude of a number. -/
theorem units_ratio (significand : Nat) {exponent : Int} {unit : Nat} (least : -unit ≤ exponent) :
    ((significand * powerOfTwo (exponent + unit).toNat : Nat) / (powerOfTwo unit : Nat) : ℚ) =
      significand * 2 ^ exponent := by
  have adds : exponent + unit = ((exponent + unit).toNat : Int) := by omega
  have whole : (powerOfTwo unit : ℚ) ≠ 0 := by exact_mod_cast (powerOfTwo_pos unit).ne'
  rw [div_eq_iff whole, powerOfTwo_eq, powerOfTwo_eq, Nat.cast_mul, ← zpow_mul_pow adds, mul_assoc]

/-- A finite number that is not zero is the one that its units count. -/
theorem ofUnits_of_units? {number : Binary64} {units : Int} (counted : number.units? = some units)
    (nonzero : units ≠ 0) : ofUnits units = number := by
  cases number with
  | nan => cases counted
  | infinite negative => cases counted
  | finite negative significand exponent canonical =>
      have reads : ofRatio negative (significand * powerOfTwo (exponent + 1074).toNat)
          (powerOfTwo 1074) = .finite negative significand exponent canonical :=
        ofRatio_of_canonical negative canonical (powerOfTwo_pos 1074)
          (units_ratio significand canonical.2.1)
      have same := Option.some.inj counted
      generalize significand * powerOfTwo (exponent + 1074).toNat = magnitude at same reads
      have sign : decide (units < 0) = negative := by
        cases negative <;> simp at same ⊢ <;> omega
      have size : units.natAbs = magnitude := by
        cases negative <;> simp at same <;> omega
      rw [ofUnits, sign, size]
      exact reads

/-! ## Equality -/

/-- A number that is equal to one other than zero is the same number. -/
theorem eq_of_equal {left right : Binary64} (isEqual : left.equal right = true)
    (nonzero : right.units? ≠ some 0) : left = right := by
  cases left with
  | nan => cases isEqual
  | infinite negative =>
      cases right with
      | nan => cases isEqual
      | infinite other => rw [eq_of_beq isEqual]
      | finite => cases isEqual
  | finite =>
      cases right with
      | nan => cases isEqual
      | infinite => cases isEqual
      | finite =>
          have counted := eq_of_beq isEqual
          have different := fun zero => nonzero (congrArg some zero)
          exact (ofUnits_of_units? counted different).symm.trans (ofUnits_of_units? rfl different)

/-! ## Order -/

/-- Of two numbers other than the undefined one, one is less or they are equal. -/
theorem less_or_equal_or_less {left right : Binary64} (isLeft : left ≠ .nan)
    (isRight : right ≠ .nan) :
    left.less right = true ∨ left.equal right = true ∨ right.less left = true := by
  cases left with
  | nan => exact absurd rfl isLeft
  | infinite negative =>
      cases right with
      | nan => exact absurd rfl isRight
      | infinite other => cases negative <;> cases other <;> decide
      | finite => cases negative <;> simp [less]
  | finite =>
      cases right with
      | nan => exact absurd rfl isRight
      | infinite other => cases other <;> simp [less]
      | finite =>
          simp only [less, equal, decide_eq_true_eq, beq_iff_eq]
          simp only [units?, Option.getD_some, Option.some.injEq]
          exact Int.lt_trichotomy _ _

/-- The order is total on the numbers other than the undefined one. -/
theorem le_total {left right : Binary64} (isLeft : left ≠ .nan) (isRight : right ≠ .nan) :
    left ≤ right ∨ right ≤ left := by
  rcases less_or_equal_or_less isLeft isRight with below | same | above
  · exact .inl (Bool.or_eq_true_iff.mpr (.inl below))
  · exact .inl (Bool.or_eq_true_iff.mpr (.inr same))
  · exact .inr (Bool.or_eq_true_iff.mpr (.inl above))

/-- Zero is defined. -/
theorem zero_ne_nan : (0 : Binary64) ≠ .nan := by decide

/-- A number that is not negative is at least zero, unless it is undefined. -/
theorem nonneg_or_nan {number : Binary64} (notBelow : number.less .zero = false) :
    0 ≤ number ∨ number = .nan := by
  by_cases undefined : number = .nan
  · exact .inr undefined
  · refine .inl ?_
    rcases less_or_equal_or_less zero_ne_nan undefined with below | same | above
    · exact Bool.or_eq_true_iff.mpr (.inl below)
    · exact Bool.or_eq_true_iff.mpr (.inr same)
    · exact absurd (above.symm.trans notBelow) Bool.true_eq_false.mp

/-- A number that is at least another one is not less. -/
theorem not_less_of_le {left right : Binary64} (atMost : left ≤ right) :
    right.less left = false := by
  have ordered := Bool.or_eq_true_iff.mp atMost
  cases left with
  | nan => rcases ordered with below | same <;> contradiction
  | infinite negative =>
      cases right with
      | nan => rfl
      | infinite other => cases negative <;> cases other <;> simp [less, equal] at ordered ⊢
      | finite => cases negative <;> simp [less, equal] at ordered ⊢
  | finite =>
      cases right with
      | nan => rfl
      | infinite other => cases other <;> simp [less, equal] at ordered ⊢
      | finite =>
          simp only [less, equal, decide_eq_true_eq, beq_iff_eq,
            decide_eq_false_iff_not] at ordered ⊢
          simp only [units?, Option.getD_some, Option.some.injEq] at ordered ⊢
          omega

/-- The undefined number is in no order. -/
theorem not_le_nan (number : Binary64) : ¬ number ≤ .nan ∧ ¬ (.nan : Binary64) ≤ number := by
  constructor
  · cases number <;> exact Bool.false_ne_true
  · exact Bool.false_ne_true

/-! ## Sums -/

/-- A number from parts is defined. -/
theorem ofParts_ne_nan (negative : Bool) (significand : Nat) (exponent : Int) :
    ofParts negative significand exponent ≠ .nan := by
  unfold ofParts
  split <;> intro same <;> cases same

/-- A rounded ratio is defined. -/
theorem ofRatio_ne_nan (negative : Bool) (numerator denominator : Nat) :
    ofRatio negative numerator denominator ≠ .nan := by
  obtain ⟨significand, exponent, same⟩ := exists_ofParts numerator denominator
  rw [same]
  exact ofParts_ne_nan negative significand exponent

/-- A sum that starts at a finite number is undefined only if what is added is. -/
theorem add_ne_nan {left right : Binary64} (finite : left.isFinite = true)
    (isRight : right ≠ .nan) : left + right ≠ .nan := by
  change add left right ≠ .nan
  cases left with
  | nan => cases finite
  | infinite => cases finite
  | finite =>
      cases right with
      | nan => exact absurd rfl isRight
      | infinite =>
          intro undefined
          cases undefined
      | finite =>
          simp only [add]
          split
          · exact ofParts_ne_nan _ _ _
          · exact ofRatio_ne_nan _ _ _

end LintClient.Binary64
