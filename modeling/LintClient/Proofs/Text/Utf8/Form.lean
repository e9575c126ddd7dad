import LintClient.Text.Utf8
import Mathlib.Tactic.SplitIfs

/-!
# The forms of characters

`Form` lists the well-formed byte sequences by the ranges of their bytes, with the characters that
the byte machine makes of them. `form_iff` says that these are the encodings of the standard
library, so that the ranges leave out overlong forms, surrogates and numbers without a character,
and nothing else.
-/

namespace LintClient.Text.Utf8

/-- What a byte carries of a character that it continues is what it has beyond `0x80`. -/
theorem payload_eq (byte : UInt8) : payload byte = byte.toNat - 0x80 := rfl

/-- The bytes that continue a character anywhere, as numbers. -/
theorem isTail_iff {byte : UInt8} : isTail byte = true ↔ 0x80 ≤ byte.toNat ∧ byte.toNat ≤ 0xBF := by
  simp [isTail, UInt8.le_iff_toNat_le]

/-- The second byte continues its character, and four leads restrict it further. -/
theorem isSecond_iff {lead byte : UInt8} :
    isSecond lead byte = true ↔
      (0x80 ≤ byte.toNat ∧ byte.toNat ≤ 0xBF) ∧
        (lead.toNat = 0xE0 → 0xA0 ≤ byte.toNat) ∧ (lead.toNat = 0xED → byte.toNat ≤ 0x9F) ∧
        (lead.toNat = 0xF0 → 0x90 ≤ byte.toNat) ∧ (lead.toNat = 0xF4 → byte.toNat ≤ 0x8F) := by
  unfold isSecond
  split_ifs with first second third fourth <;>
    simp_all [UInt8.le_iff_toNat_le, isTail, ← UInt8.toNat_inj] <;> omega

/-- The well-formed byte sequences and their characters. -/
inductive Form : List UInt8 → Char → Prop where
  | one {byte : UInt8} (single : byte < 0x80) : Form [byte] (Char.ofNat byte.toNat)
  | two {lead second : UInt8} (least : 0xC2 ≤ lead) (most : lead < 0xE0)
      (seconded : isSecond lead second = true) : Form [lead, second] (charOfTwo lead second)
  | three {lead second third : UInt8} (least : 0xE0 ≤ lead) (most : lead < 0xF0)
      (seconded : isSecond lead second = true) (tailed : isTail third = true) :
      Form [lead, second, third] (charOfThree lead second third)
  | four {lead second third fourth : UInt8} (least : 0xF0 ≤ lead) (most : lead ≤ 0xF4)
      (seconded : isSecond lead second = true) (tailed : isTail third = true)
      (ended : isTail fourth = true) :
      Form [lead, second, third, fourth] (charOfFour lead second third fourth)

/-- A number that is one of a character is the number of its character. -/
theorem toNat_ofNat_of_isValidChar (number : Nat) (valid : number.isValidChar) :
    (Char.ofNat number).val.toNat = number := by
  rw [Char.ofNat, dif_pos valid]
  rfl

/-- Every form is the encoding of its character. -/
theorem Form.eq_encoding {bytes : List UInt8} {c : Char} (form : Form bytes c) :
    bytes = String.utf8EncodeChar c := by
  cases form with
  | @one byte single =>
      simp only [UInt8.lt_iff_toNat_lt, UInt8.reduceToNat] at single
      have number := toNat_ofNat_of_isValidChar byte.toNat (.inl (by omega))
      simp only [String.utf8EncodeChar, number]
      rw [if_pos (by omega)]
      simp
  | @two lead second least most seconded =>
      simp only [UInt8.le_iff_toNat_le, UInt8.lt_iff_toNat_lt, UInt8.reduceToNat] at least most
      obtain ⟨⟨tailLower, tailUpper⟩, -⟩ := isSecond_iff.mp seconded
      generalize value : (lead.toNat - 0xC0) * 0x40 + payload second = number
      simp only [payload_eq] at value
      have number_eq := toNat_ofNat_of_isValidChar number (.inl (by omega))
      simp only [charOfTwo, payload_eq, value, String.utf8EncodeChar, number_eq]
      rw [if_neg (by omega), if_pos (by omega)]
      simp only [List.cons.injEq, and_true, ← UInt8.toNat_inj, UInt8.toNat_ofNat']
      omega
  | @three lead second third least most seconded tailed =>
      simp only [UInt8.le_iff_toNat_le, UInt8.lt_iff_toNat_lt, UInt8.reduceToNat] at least most
      obtain ⟨⟨secondLower, secondUpper⟩, overlong, surrogate, -⟩ := isSecond_iff.mp seconded
      obtain ⟨thirdLower, thirdUpper⟩ := isTail_iff.mp tailed
      generalize value : (lead.toNat - 0xE0) * 0x1000 + payload second * 0x40 + payload third
        = number
      simp only [payload_eq] at value
      have valid : number.isValidChar := by
        unfold Nat.isValidChar
        omega
      simp only [charOfThree, payload_eq, value, String.utf8EncodeChar,
        toNat_ofNat_of_isValidChar _ valid]
      rw [if_neg (by omega), if_neg (by omega), if_pos (by omega)]
      simp only [List.cons.injEq, and_true, ← UInt8.toNat_inj, UInt8.toNat_ofNat']
      omega
  | @four lead second third fourth least most seconded tailed ended =>
      simp only [UInt8.le_iff_toNat_le, UInt8.reduceToNat] at least most
      obtain ⟨⟨secondLower, secondUpper⟩, -, -, overlong, large⟩ := isSecond_iff.mp seconded
      obtain ⟨thirdLower, thirdUpper⟩ := isTail_iff.mp tailed
      obtain ⟨fourthLower, fourthUpper⟩ := isTail_iff.mp ended
      generalize value : (lead.toNat - 0xF0) * 0x40000 + payload second * 0x1000
        + payload third * 0x40 + payload fourth = number
      simp only [payload_eq] at value
      have valid : number.isValidChar := by
        unfold Nat.isValidChar
        omega
      simp only [charOfFour, payload_eq, value, String.utf8EncodeChar,
        toNat_ofNat_of_isValidChar _ valid]
      rw [if_neg (by omega), if_neg (by omega), if_neg (by omega)]
      simp only [List.cons.injEq, and_true, ← UInt8.toNat_inj, UInt8.toNat_ofNat']
      omega

/-- Every encoding is a form of its character. -/
theorem form_encoding (c : Char) : Form (String.utf8EncodeChar c) c := by
  have valid : c.val.toNat.isValidChar := c.valid
  have character : Char.ofNat c.val.toNat = c := Char.ofNat_toNat c
  unfold Nat.isValidChar at valid
  simp only [String.utf8EncodeChar]
  generalize c.val.toNat = number at valid character
  subst character
  split_ifs with short middle long
  · have form : Form [UInt8.ofNat number] (Char.ofNat (UInt8.ofNat number).toNat) := by
      apply Form.one
      simp only [UInt8.lt_iff_toNat_lt, UInt8.toNat_ofNat', UInt8.reduceToNat]
      omega
    rwa [UInt8.toNat_ofNat_of_lt' (by change number < 256; omega)] at form
  · generalize leadEq : UInt8.ofNat (number / 64 % 0x20 + 0xC0) = lead
    generalize secondEq : UInt8.ofNat (number % 0x40 + 0x80) = second
    have leadValue := congrArg UInt8.toNat leadEq
    have secondValue := congrArg UInt8.toNat secondEq
    simp only [UInt8.toNat_ofNat'] at leadValue secondValue
    have form : Form [lead, second] (charOfTwo lead second) := by
      apply Form.two
      · simp only [UInt8.le_iff_toNat_le, UInt8.reduceToNat]
        omega
      · simp only [UInt8.lt_iff_toNat_lt, UInt8.reduceToNat]
        omega
      · rw [isSecond_iff]
        omega
    have value : (lead.toNat - 0xC0) * 0x40 + payload second = number := by
      simp only [payload_eq]
      omega
    rwa [charOfTwo, value] at form
  · generalize leadEq : UInt8.ofNat (number / 4096 % 0x10 + 0xE0) = lead
    generalize secondEq : UInt8.ofNat (number / 64 % 0x40 + 0x80) = second
    generalize thirdEq : UInt8.ofNat (number % 0x40 + 0x80) = third
    have leadValue := congrArg UInt8.toNat leadEq
    have secondValue := congrArg UInt8.toNat secondEq
    have thirdValue := congrArg UInt8.toNat thirdEq
    simp only [UInt8.toNat_ofNat'] at leadValue secondValue thirdValue
    have form : Form [lead, second, third] (charOfThree lead second third) := by
      apply Form.three
      · simp only [UInt8.le_iff_toNat_le, UInt8.reduceToNat]
        omega
      · simp only [UInt8.lt_iff_toNat_lt, UInt8.reduceToNat]
        omega
      · rw [isSecond_iff]
        omega
      · rw [isTail_iff]
        omega
    have value : (lead.toNat - 0xE0) * 0x1000 + payload second * 0x40 + payload third
        = number := by
      simp only [payload_eq]
      omega
    rwa [charOfThree, value] at form
  · generalize leadEq : UInt8.ofNat (number / 262144 % 0x08 + 0xF0) = lead
    generalize secondEq : UInt8.ofNat (number / 4096 % 0x40 + 0x80) = second
    generalize thirdEq : UInt8.ofNat (number / 64 % 0x40 + 0x80) = third
    generalize fourthEq : UInt8.ofNat (number % 0x40 + 0x80) = fourth
    have leadValue := congrArg UInt8.toNat leadEq
    have secondValue := congrArg UInt8.toNat secondEq
    have thirdValue := congrArg UInt8.toNat thirdEq
    have fourthValue := congrArg UInt8.toNat fourthEq
    simp only [UInt8.toNat_ofNat'] at leadValue secondValue thirdValue fourthValue
    have form : Form [lead, second, third, fourth] (charOfFour lead second third fourth) := by
      apply Form.four
      · simp only [UInt8.le_iff_toNat_le, UInt8.reduceToNat]
        omega
      · simp only [UInt8.le_iff_toNat_le, UInt8.reduceToNat]
        omega
      · rw [isSecond_iff]
        omega
      · rw [isTail_iff]
        omega
      · rw [isTail_iff]
        omega
    have value : (lead.toNat - 0xF0) * 0x40000 + payload second * 0x1000
        + payload third * 0x40 + payload fourth = number := by
      simp only [payload_eq]
      omega
    rwa [charOfFour, value] at form

/-- The forms of a character are its encoding. -/
theorem form_iff {bytes : List UInt8} {c : Char} :
    Form bytes c ↔ bytes = String.utf8EncodeChar c := by
  constructor
  · exact Form.eq_encoding
  · rintro rfl
    exact form_encoding c

end LintClient.Text.Utf8
