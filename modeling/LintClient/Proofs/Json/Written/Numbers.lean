import LintClient.Json.Printer
import LintClient.Proofs.Json.Line.Values
import LintClient.Proofs.Number.Decimal

/-!
# Written numbers

Integers and finite floating-point numbers are written as numbers of the grammar, and what is
written denotes the number. For an integer the digits denote it (`numberText_toString`). The text of
a floating-point number always has a fraction or an exponent, and it holds the significant digits of
the shortest decimal in one of four layouts, all of which denote the same decimal
(`magnitudeText_text`); that this is read as the number is what makes a decimal the shortest one
(`Binary64.reads_shortest`).
-/

namespace LintClient.Json

open Binary64 (Decimal decimalLength exponentText ofDecimal shortest significantDigits)
open Line (Digits WholeDigits FractionText ExponentText NumberText Limits)

/-! ## Digits -/

/-- The decimal digits of a number are digits. -/
theorem digits_toDigits (number : Nat) : Digits (Nat.toDigits 10 number) where
  nonempty := Nat.toDigits_ne_nil
  digits := by
    intro c there
    have digit := Nat.isDigit_of_mem_toDigits (show 0 < 10 by decide) (by decide) there
    rw [Char.isDigit, Bool.and_eq_true, decide_eq_true_eq, decide_eq_true_eq] at digit
    rw [Text.isAsciiDigit, Bool.and_eq_true, decide_eq_true_eq, decide_eq_true_eq]
    exact digit

/-- The digits of a number that is not zero do not start with a zero. -/
theorem toDigits_head_ne_zero {number : Nat} (positive : 0 < number) :
    (Nat.toDigits 10 number).head? ≠ some '0' := by
  induction number using Nat.strongRecOn with
  | ind number inductionHypothesis =>
      rw [Nat.toDigits_eq_if (by decide)]
      split
      · next small =>
        have all : ∀ digit < 10, 0 < digit → [Nat.digitChar digit].head? ≠ some '0' := by decide
        exact all number small positive
      · next large =>
        rw [List.head?_append_of_ne_nil _ Nat.toDigits_ne_nil]
        exact inductionHypothesis (number / 10) (by omega) (by omega)

/-- Only the number zero is written with a zero in front. -/
theorem toDigits_plain {number : Nat} {rest : List Char}
    (zero : Nat.toDigits 10 number = '0' :: rest) : rest = [] := by
  rcases Nat.eq_zero_or_pos number with rfl | positive
  · exact (List.cons.inj zero).2.symm
  · exact absurd (by rw [zero]; rfl) (toDigits_head_ne_zero positive)

/-- The number that digits denote, as the library has it. -/
theorem numberOfDigits_eq (digits : List Char) :
    Text.numberOfDigits digits = Nat.ofDigitChars 10 digits 0 := by
  simp only [Text.numberOfDigits, Nat.mul_comm _ 10]
  exact Nat.ofDigitChars_eq_foldl.symm

/-- The digits of a number denote it. -/
theorem numberOfDigits_toDigits (number : Nat) :
    Text.numberOfDigits (Nat.toDigits 10 number) = number :=
  (numberOfDigits_eq _).trans Nat.ofDigitChars_ten_toDigits

/-- An integer is written as its digits behind its sign. -/
theorem toList_toString (value : Int) : (toString value).toList =
    (if decide (value < 0) then ['-'] else []) ++ Nat.toDigits 10 value.natAbs := by
  cases value with
  | ofNat number =>
      have small : ¬ Int.ofNat number < 0 := by simp
      have same : toString (Int.ofNat number) = number.repr := rfl
      rw [same, Nat.repr_eq_ofList_toDigits, String.toList_ofList]
      simp
  | negSucc number =>
      have same : toString (Int.negSucc number) = "-" ++ (number + 1).repr := rfl
      rw [same, String.toList_append, Nat.repr_eq_ofList_toDigits, String.toList_ofList]
      simp [Int.negSucc_lt_zero]

/-- The written form of an integer is a number, and denotes it. -/
theorem numberText_toString {limits : Limits} (value : Int)
    (within : ∀ limit ∈ limits.room (decide (value < 0)),
      (Nat.toDigits 10 value.natAbs).length ≤ limit) :
    ∃ numeral, NumberText limits (toString value).toList numeral ∧
      ofNumeral numeral = .int value := by
  have whole : WholeDigits (limits.room (decide (value < 0))) (Nat.toDigits 10 value.natAbs) :=
    ⟨digits_toDigits _, fun _ => toDigits_plain, within⟩
  have isNumber := NumberText.parts (decide (value < 0)) whole .absent .absent
  rw [List.append_nil, List.append_nil, ← toList_toString] at isNumber
  refine ⟨_, isNumber, ?_⟩
  have same :
      (Numeral.mk (decide (value < 0)) (Nat.toDigits 10 value.natAbs) none none).toInt = value := by
    simp only [Numeral.toInt, numberOfDigits_toDigits, decide_eq_true_eq]
    split <;> omega
  rw [ofNumeral, same]
  rfl

/-! ## Zeros -/

/-- A zero is a digit. -/
theorem digits_zero : Digits ['0'] := ⟨by simp, by simp [Text.isAsciiDigit]⟩

/-- A zero may stand in front of the point by itself. -/
theorem wholeDigits_zero {room : Option Nat} (some : ∀ limit ∈ room, 1 ≤ limit) :
    WholeDigits room ['0'] :=
  ⟨digits_zero, fun _ zero => (List.cons.inj zero).2.symm, some⟩

section Zeros

variable {digits : List Char} (isDigits : Digits digits) (count : Nat)

include isDigits

/-- Digits with zeros in front are digits. -/
theorem digits_zeros_append : Digits (List.replicate count '0' ++ digits) where
  nonempty := List.append_ne_nil_of_right_ne_nil _ isDigits.nonempty
  digits := by
    intro c there
    rcases List.mem_append.mp there with zero | digit
    · rw [List.eq_of_mem_replicate zero]
      rfl
    · exact isDigits.digits c digit

/-- Digits with zeros behind are digits. -/
theorem digits_append_zeros : Digits (digits ++ List.replicate count '0') where
  nonempty := List.append_ne_nil_of_left_ne_nil isDigits.nonempty _
  digits := by
    intro c there
    rcases List.mem_append.mp there with digit | zero
    · exact isDigits.digits c digit
    · rw [List.eq_of_mem_replicate zero]
      rfl

end Zeros

/-- Zeros behind the digits multiply the number. -/
theorem numberOfDigits_append_zeros (digits : List Char) (count : Nat) :
    Text.numberOfDigits (digits ++ List.replicate count '0') =
      Text.numberOfDigits digits * powerOfTen count := by
  rw [numberOfDigits_eq, numberOfDigits_eq, Nat.ofDigitChars_append,
    Nat.ofDigitChars_replicate_zero, Nat.mul_comm]
  rfl

/-- Zeros in front of the digits do not count. -/
theorem numberOfDigits_zeros_append (count : Nat) (digits : List Char) :
    Text.numberOfDigits (List.replicate count '0' ++ digits) = Text.numberOfDigits digits := by
  rw [numberOfDigits_eq, numberOfDigits_eq, Nat.ofDigitChars_append,
    Nat.ofDigitChars_replicate_zero, Nat.mul_zero]

/-! ## Significant digits -/

/-- Only zeros stand behind the significant digits. -/
theorem toDigits_eq_significantDigits (number : Nat) : ∃ zeros,
    Nat.toDigits 10 number = significantDigits number ++ List.replicate zeros '0' := by
  have zeros : ∀ c ∈ (Nat.toDigits 10 number).reverse.takeWhile (· == '0'), c = '0' :=
    fun c there => by simpa using List.all_eq_true.mp List.all_takeWhile c there
  have same := List.eq_replicate_of_mem zeros
  refine ⟨((Nat.toDigits 10 number).reverse.takeWhile (· == '0')).length, ?_⟩
  rw [significantDigits, ← List.reverse_replicate, ← same, ← List.reverse_append,
    List.takeWhile_append_dropWhile, List.reverse_reverse]

section SignificantDigits

variable {number : Nat} (positive : 0 < number)

include positive

/-- A number has at least one significant digit. -/
theorem significantDigits_ne_nil : significantDigits number ≠ [] := by
  intro nothing
  obtain ⟨zeros, split⟩ := toDigits_eq_significantDigits number
  rw [nothing, List.nil_append] at split
  cases zeros with
  | zero => exact Nat.toDigits_ne_nil split
  | succ zeros => exact toDigits_head_ne_zero positive (by rw [split]; rfl)

/-- The first significant digit is no zero. -/
theorem head?_significantDigits_ne_zero : (significantDigits number).head? ≠ some '0' := by
  obtain ⟨zeros, split⟩ := toDigits_eq_significantDigits number
  have first := toDigits_head_ne_zero positive
  rwa [split, List.head?_append_of_ne_nil _ (significantDigits_ne_nil positive)] at first

/-- Significant digits are digits. -/
theorem digits_significantDigits : Digits (significantDigits number) where
  nonempty := significantDigits_ne_nil positive
  digits := by
    obtain ⟨zeros, split⟩ := toDigits_eq_significantDigits number
    have all := (digits_toDigits number).digits
    rw [split] at all
    exact fun c there => all c (List.mem_append_left _ there)

end SignificantDigits

/-- A decimal is determined by its significant digits and the place of its point. -/
theorem ofDecimal_significantDigits (negative : Bool) (number : Nat) (point : Int) :
    ofDecimal negative number (point - decimalLength number) =
      ofDecimal negative (Text.numberOfDigits (significantDigits number))
        (point - (significantDigits number).length) := by
  obtain ⟨zeros, split⟩ := toDigits_eq_significantDigits number
  have value := numberOfDigits_append_zeros (significantDigits number) zeros
  rw [← split, numberOfDigits_toDigits] at value
  have length : decimalLength number = (significantDigits number).length + zeros := by
    rw [decimalLength, split, List.length_append, List.length_replicate]
  have place : point - (decimalLength number : Int) + zeros =
      point - (significantDigits number).length := by
    omega
  rw [← place, ← Binary64.ofDecimal_mul_powerOfTen, ← value]

/-! ## Layouts -/

/-- An unsigned text of the grammar that denotes a decimal as a floating-point number, whatever its
sign is. -/
inductive MagnitudeText (room : Option Nat) (digits : Nat) (power : Int) : List Char → Prop where
  | parts {whole fractionText exponentText : List Char} {fraction : Option (List Char)}
      {exponent : Option Int} (isWhole : WholeDigits room whole)
      (isFraction : FractionText fractionText fraction)
      (isExponent : ExponentText exponentText exponent)
      (denotes : ∀ negative, ofNumeral ⟨negative, whole, fraction, exponent⟩ =
        .float (ofDecimal negative digits power)) :
      MagnitudeText room digits power (whole ++ (fractionText ++ exponentText))

/-- Zeros at the end of the digits may be counted in the power. -/
theorem MagnitudeText.of_mul_powerOfTen {room : Option Nat} {digits zeros : Nat} {power : Int}
    {text : List Char} (isMagnitude : MagnitudeText room (digits * powerOfTen zeros) power text) :
    MagnitudeText room digits (power + zeros) text := by
  obtain ⟨isWhole, isFraction, isExponent, denotes⟩ := isMagnitude
  refine .parts isWhole isFraction isExponent fun negative => ?_
  rw [denotes negative, Binary64.ofDecimal_mul_powerOfTen]

/-- A sign and two or more digits are an exponent. -/
theorem exponentText_exponentText (exponent : Int) :
    ExponentText ('e' :: exponentText exponent) (some exponent) := by
  have isDigits := digits_zeros_append (digits_toDigits exponent.natAbs)
    (2 - (Nat.toDigits 10 exponent.natAbs).length)
  have value := (numberOfDigits_zeros_append (2 - (Nat.toDigits 10 exponent.natAbs).length) _).trans
    (numberOfDigits_toDigits exponent.natAbs)
  unfold exponentText
  split
  · next below =>
    have isExponent := ExponentText.mark (.inl rfl) (.inr (.inr rfl)) isDigits
    simpa [exponentOf, value, abs_of_neg below] using isExponent
  · next notBelow =>
    have isExponent := ExponentText.mark (.inl rfl) (.inr (.inl rfl)) isDigits
    simpa [exponentOf, value, abs_of_nonneg (not_lt.mp notBelow)] using isExponent

section Layouts

variable {room : Option Nat} {whole : List Char} (isWhole : WholeDigits room whole)

include isWhole

/-- Digits with a point among them denote the number of all digits, without those behind the
point. -/
theorem magnitudeText_point {fraction : List Char} (isFraction : Digits fraction) :
    MagnitudeText room (Text.numberOfDigits (whole ++ fraction)) (-fraction.length)
      (whole ++ '.' :: fraction) := by
  have isMagnitude : MagnitudeText room (Text.numberOfDigits (whole ++ fraction)) (-fraction.length)
      (whole ++ ('.' :: fraction ++ [])) := by
    refine .parts isWhole (.point isFraction) .absent fun negative => ?_
    simp [ofNumeral, Numeral.isInteger, Numeral.toBinary64]
  rwa [List.append_nil] at isMagnitude

/-- An exponent moves the point. -/
theorem magnitudeText_mark {fractionText : List Char} {fraction : Option (List Char)}
    (isFraction : FractionText fractionText fraction) (exponent : Int) :
    MagnitudeText room (Text.numberOfDigits (whole ++ fraction.getD []))
      (exponent - (fraction.getD []).length)
      (whole ++ (fractionText ++ 'e' :: exponentText exponent)) := by
  refine .parts isWhole isFraction (exponentText_exponentText exponent) fun negative => ?_
  simp [ofNumeral, Numeral.isInteger, Numeral.toBinary64]

end Layouts

section Significant

variable {room : Option Nat} {digits : List Char} (isDigits : Digits digits)
  (first : digits.head? ≠ some '0')

include isDigits first

/-- Digits that do not start with a zero may stand in front of the point. -/
theorem wholeDigits_of_head (within : ∀ limit ∈ room, digits.length ≤ limit) :
    WholeDigits room digits :=
  ⟨isDigits, fun rest zero => absurd (by rw [zero]; rfl) first, within⟩

/-- The first digits may stand in front of the point. -/
theorem wholeDigits_take {count : Nat} (some : 0 < count)
    (within : ∀ limit ∈ room, count ≤ limit) : WholeDigits room (digits.take count) := by
  apply wholeDigits_of_head
  · refine ⟨?_, fun c there => isDigits.digits c (List.mem_of_mem_take there)⟩
    simpa [Nat.ne_of_gt some] using isDigits.nonempty
  · rwa [List.head?_take, if_neg (Nat.ne_of_gt some)]
  · exact fun limit known => Nat.le_trans (List.length_take_le ..) (within limit known)

omit first in
/-- The other digits may stand behind the point. -/
theorem digits_drop {count : Nat} (shorter : count < digits.length) :
    Digits (digits.drop count) where
  nonempty := by simpa using shorter
  digits := fun c there => isDigits.digits c (List.mem_of_mem_drop there)

/-- One digit in front of the point, if there is one, and an exponent. -/
theorem magnitudeText_scientific (fits : ∀ limit ∈ room, 1 ≤ limit) (point : Int) :
    MagnitudeText room (Text.numberOfDigits digits) (point - digits.length)
      (digits.take 1 ++ (if (digits.drop 1).isEmpty then [] else '.' :: digits.drop 1)
        ++ 'e' :: exponentText (point - 1)) := by
  have isWhole := wholeDigits_take isDigits first Nat.one_pos fits
  have some : 0 < digits.length := List.length_pos_of_ne_nil isDigits.nonempty
  rw [List.append_assoc]
  split
  · next nothing =>
    rw [List.isEmpty_iff, List.drop_eq_nil_iff] at nothing
    have isMagnitude := magnitudeText_mark isWhole .absent (point - 1)
    have power : point - 1 - ((0 : Nat) : Int) = point - digits.length := by omega
    rw [Option.getD_none, List.append_nil, List.length_nil, power] at isMagnitude
    rwa [List.take_of_length_le nothing] at isMagnitude ⊢
  · next several =>
    rw [List.isEmpty_iff, List.drop_eq_nil_iff] at several
    have isFraction := FractionText.point (digits_drop isDigits (not_le.mp several))
    have isMagnitude := magnitudeText_mark isWhole isFraction (point - 1)
    have power : point - 1 - ((digits.length - 1 : Nat) : Int) = point - digits.length := by omega
    rwa [Option.getD_some, List.take_append_drop, List.length_drop, power] at isMagnitude

omit first in
/-- Zeros between the point and the digits. -/
theorem magnitudeText_fractional (fits : ∀ limit ∈ room, 1 ≤ limit) {point : Int}
    (small : point ≤ 0) :
    MagnitudeText room (Text.numberOfDigits digits) (point - digits.length)
      ('0' :: '.' :: List.replicate (-point).toNat '0' ++ digits) := by
  have isMagnitude := magnitudeText_point (wholeDigits_zero fits)
    (digits_zeros_append isDigits (-point).toNat)
  have value : Text.numberOfDigits (['0'] ++ (List.replicate (-point).toNat '0' ++ digits)) =
      Text.numberOfDigits digits :=
    (numberOfDigits_zeros_append 1 _).trans (numberOfDigits_zeros_append _ digits)
  have power : -(((-point).toNat + digits.length : Nat) : Int) = point - digits.length := by omega
  rwa [value, List.length_append, List.length_replicate, power] at isMagnitude

/-- Zeros between the digits and the point, and one behind it. -/
theorem magnitudeText_integral {count : Nat} (few : digits.length ≤ count)
    (fits : ∀ limit ∈ room, count ≤ limit) :
    MagnitudeText room (Text.numberOfDigits digits) ((count : Int) - digits.length)
      (digits ++ List.replicate (count - digits.length) '0' ++ ['.', '0']) := by
  have isWhole : WholeDigits room (digits ++ List.replicate (count - digits.length) '0') := by
    apply wholeDigits_of_head (digits_append_zeros isDigits _)
    · rwa [List.head?_append_of_ne_nil _ isDigits.nonempty]
    · simpa [Nat.add_sub_cancel' few] using fits
  have isMagnitude := magnitudeText_point isWhole digits_zero
  have value : Text.numberOfDigits (digits ++ List.replicate (count - digits.length) '0' ++ ['0']) =
      Text.numberOfDigits digits * powerOfTen (count - digits.length + 1) := by
    rw [← numberOfDigits_append_zeros, List.replicate_succ', List.append_assoc]
  rw [value] at isMagnitude
  have power :
      -(1 : Nat) + ((count - digits.length + 1 : Nat) : Int) = (count : Int) - digits.length := by
    omega
  rw [← power]
  exact isMagnitude.of_mul_powerOfTen

/-- The point among the digits. -/
theorem magnitudeText_mixed {count : Nat} (some : 0 < count) (many : count < digits.length)
    (fits : ∀ limit ∈ room, count ≤ limit) :
    MagnitudeText room (Text.numberOfDigits digits) ((count : Int) - digits.length)
      (digits.take count ++ '.' :: digits.drop count) := by
  have isWhole := wholeDigits_take isDigits first some fits
  have isMagnitude := magnitudeText_point isWhole (digits_drop isDigits many)
  have power : -((digits.length - count : Nat) : Int) = (count : Int) - digits.length := by omega
  rwa [List.take_append_drop, List.length_drop, power] at isMagnitude

end Significant

/-- The greatest number of digits that stand in front of the point of a floating-point number. -/
def longestWhole : Nat := 16

/-- In each of its layouts the text of a decimal denotes the decimal. -/
theorem magnitudeText_text {room : Option Nat} {decimal : Decimal} (positive : 0 < decimal.digits)
    (fits : ∀ limit ∈ room, longestWhole ≤ limit) :
    MagnitudeText room (Text.numberOfDigits (significantDigits decimal.digits))
      (decimal.point - (significantDigits decimal.digits).length) decimal.text := by
  have isDigits := digits_significantDigits positive
  have first := head?_significantDigits_ne_zero positive
  have holds {count : Nat} (few : count ≤ longestWhole) : ∀ limit ∈ room, count ≤ limit :=
    fun limit known => Nat.le_trans few (fits limit known)
  simp only [Decimal.text, Bool.or_eq_true, decide_eq_true_eq]
  split
  · exact magnitudeText_scientific isDigits first (holds (by decide)) decimal.point
  split
  · next small => exact magnitudeText_fractional isDigits (holds (by decide)) small
  next large notSmall =>
  obtain ⟨count, isCount⟩ := Int.eq_ofNat_of_zero_le (show 0 ≤ decimal.point by omega)
  have few : count ≤ longestWhole := by
    unfold longestWhole
    omega
  rw [isCount, Int.toNat_natCast]
  split
  · next short => exact magnitudeText_integral isDigits first short (holds few)
  · next long =>
    exact magnitudeText_mixed isDigits first (by omega) (not_le.mp long) (holds few)

/-- The shortest decimal of a number denotes the number, with its sign. -/
theorem ofDecimal_shortest (negative : Bool) {significand : Nat} {exponent : Int}
    (canonical : IsCanonical significand exponent) (present : 0 < significand) :
    ofDecimal negative
        (Text.numberOfDigits (significantDigits (shortest significand exponent).digits))
        ((shortest significand exponent).point -
          (significantDigits (shortest significand exponent).digits).length) =
      .finite negative significand exponent canonical := by
  rw [← ofDecimal_significantDigits, Binary64.ofDecimal_eq_signed,
    (Binary64.reads_shortest canonical present).reads]
  rfl

/-- The text of a finite number is a number of the grammar, and denotes the number. -/
theorem numberText_text {limits : Limits} (negative : Bool) {significand : Nat} {exponent : Int}
    (canonical : IsCanonical significand exponent)
    (room : ∀ limit ∈ limits.room negative, longestWhole ≤ limit) :
    ∃ numeral, NumberText limits
        (Binary64.finite negative significand exponent canonical).text.toList numeral ∧
      ofNumeral numeral = .float (.finite negative significand exponent canonical) := by
  have written : ∃ digits power text, MagnitudeText (limits.room negative) digits power text ∧
      ofDecimal negative digits power = .finite negative significand exponent canonical ∧
      (Binary64.finite negative significand exponent canonical).text.toList =
        (if negative then ['-'] else []) ++ text := by
    rcases Nat.eq_zero_or_pos significand with rfl | present
    · have least : exponent = -1074 := canonical.2.2.2.resolve_left (by decide)
      subst least
      have isWhole :=
        wholeDigits_zero fun limit known => Nat.le_trans (by decide) (room limit known)
      refine ⟨_, _, _, magnitudeText_point isWhole digits_zero, rfl, ?_⟩
      rw [Binary64.text, String.toList_ofList, if_pos rfl]
      cases negative <;> rfl
    · refine ⟨_, _, _, magnitudeText_text (Binary64.reads_shortest canonical present).present room,
        ofDecimal_shortest negative canonical present, ?_⟩
      rw [Binary64.text, String.toList_ofList, if_neg (Nat.ne_of_gt present)]
      cases negative <;> rfl
  obtain ⟨digits, power, text, ⟨isWhole, isFraction, isExponent, denotes⟩, reads, same⟩ := written
  rw [same]
  exact ⟨_, .parts negative isWhole isFraction isExponent, (denotes negative).trans (by rw [reads])⟩

end LintClient.Json
