import LintClient.Json.Document
import LintClient.Proofs.Json.Line.Values

/-!
# Tokens of whole files

The reader of whole files reads every string, number and name of the line protocol's grammar. It
wants a character behind the digits of an escape, which inside a string there always is, and it
counts the digits of integers only, so its limit is never stricter than that of the grammar.
-/

namespace LintClient.Json.Document

open Line (Spells StringText WholeDigits FractionText ExponentText NumberText NoDigit NoNumber)
open Text (Source SourceUnit isAsciiDigit)

/-! ## Strings -/

/-- A character that has the code of a unit is this unit. -/
theorem ofCode_toNat (c : Char) : SourceUnit.ofCode c.toNat = .char c := by
  have valid : c.toNat.isValidChar := c.valid
  have noSurrogate : ¬ (0xD800 ≤ c.toNat ∧ c.toNat ≤ 0xDFFF) := by
    unfold Nat.isValidChar at valid
    omega
  rw [SourceUnit.ofCode, dif_neg noSurrogate, Char.ofNat_toNat]

/-- Four digits that spell a unit are read if there is something behind them. -/
theorem codeUnit_append {first second third fourth : Char} {unit : Nat} (mark : List Char)
    {rest : List Char} (spelt : codeUnit? first second third fourth = some unit)
    (more : rest ≠ []) : ∃ shorter,
      codeUnit mark (first :: second :: third :: fourth :: rest) = .ok ⟨unit, rest, shorter⟩ := by
  obtain ⟨next, others, rfl⟩ := List.exists_cons_of_ne_nil more
  refine ⟨by simp, ?_⟩
  simp only [codeUnit, spelt]
  rfl

/-- The escape of a second half is read, and joined with the first half. -/
theorem secondHalf_append {first second third fourth : Char} {low : Nat} (high : Nat)
    {rest : List Char} (spelt : codeUnit? first second third fourth = some low)
    (isLow : 0xDC00 ≤ low ∧ low ≤ 0xDFFF) (more : rest ≠ []) : ∃ notLonger,
      secondHalf high ('\\' :: 'u' :: first :: second :: third :: fourth :: rest) =
        .ok ⟨.char (joinSurrogates high low), rest, notLonger⟩ := by
  obtain ⟨shorter, readLow⟩ :=
    codeUnit_append ('u' :: first :: second :: third :: fourth :: rest) spelt more
  have enough : ¬ ((first :: second :: third :: fourth :: rest).drop 4).isEmpty = true := by
    simpa using more
  refine ⟨by simp; omega, ?_⟩
  rw [secondHalf.eq_1, if_neg enough, readLow]
  simp only [bind, Except.bind]
  rw [if_pos (Line.isLowSurrogate_iff.mpr isLow)]
  simp only [Parsed.behind, Parsed.map, Parsed.taken]

/-- An escape that spells a character is read as this character. -/
theorem escape_append {piece : List Char} {c : Char} (spells : Spells ('\\' :: piece) c)
    (whole : List Char) {rest : List Char} (more : rest ≠ []) :
    ∃ shorter, escape whole (piece ++ rest) = .ok ⟨.char c, rest, shorter⟩ := by
  generalize split : '\\' :: piece = escaped at spells
  cases spells with
  | plain _ _ notBackslash =>
      obtain ⟨rfl, -⟩ := List.cons.inj split
      exact absurd rfl notBackslash
  | @short letter _ known =>
      obtain ⟨-, rfl⟩ := List.cons.inj split
      have notUnit : letter ≠ 'u' := by
        rintro rfl
        cases known
      refine ⟨Nat.lt_succ_self _, ?_⟩
      change escape whole (letter :: rest) = _
      rw [escape.eq_3 _ _ _ notUnit]
      simp only [known]
      rfl
  | @unit first second third fourth _ spelt =>
      obtain ⟨-, rfl⟩ := List.cons.inj split
      obtain ⟨shorter, readUnit⟩ :=
        codeUnit_append ('u' :: first :: second :: third :: fourth :: rest) spelt more
      obtain ⟨notHigh, -⟩ := Line.not_isSurrogate c
      refine ⟨by simp; omega, ?_⟩
      change escape whole ('u' :: first :: second :: third :: fourth :: rest) = _
      rw [escape.eq_2, readUnit]
      simp only [bind, Except.bind]
      rw [if_neg notHigh]
      simp only [Parsed.behind, Parsed.map, ofCode_toNat]
  | @pair first second third fourth fifth sixth seventh eighth _ high low highSpelt lowSpelt isHigh
      isLow joined =>
      obtain ⟨-, rfl⟩ := List.cons.inj split
      obtain ⟨shorter, readHigh⟩ := codeUnit_append
        ('u' :: first :: second :: third :: fourth :: '\\' :: 'u' :: fifth :: sixth :: seventh ::
          eighth :: rest) highSpelt (List.cons_ne_nil '\\' _)
      obtain ⟨notLonger, readLow⟩ := secondHalf_append high lowSpelt isLow more
      have same : joinSurrogates high low = c :=
        Line.char_eq_of_toNat_eq ((Line.toNat_joinSurrogates isHigh isLow).trans joined.symm)
      refine ⟨by simp; omega, ?_⟩
      change escape whole ('u' :: first :: second :: third :: fourth :: '\\' :: 'u' :: fifth ::
        sixth :: seventh :: eighth :: rest) = _
      rw [escape.eq_2, readHigh]
      simp only [bind, Except.bind]
      rw [if_pos (Line.isHighSurrogate_iff.mpr isHigh), readLow]
      simp only [Parsed.behind, Parsed.andTake, same]

/-- A piece of a string is read as the character that it spells. -/
theorem string_spells {piece whole input rest : List Char} {c : Char} (reversed : Source)
    (spells : Spells piece c) (same : input = piece ++ rest) (more : rest ≠ [])
    (within : input.length < whole.length) : ∃ restWithin,
      string whole reversed input within = string whole (.char c :: reversed) rest restWithin := by
  subst same
  have shorter : rest.length < whole.length := by
    simp at within
    omega
  refine ⟨shorter, ?_⟩
  have escaped {others : List Char} (same : piece = '\\' :: others) :
      string whole reversed (piece ++ rest) within =
        string whole (.char c :: reversed) rest shorter := by
    subst same
    obtain ⟨less, readEscape⟩ := escape_append spells whole more
    simp only [List.cons_append]
    rw [string.eq_def]
    simp only [Char.reduceEq, ↓reduceIte, readEscape]
    rfl
  cases spells with
  | plain printable notQuote notBackslash =>
      have plain : ¬ c.toNat < 0x20 := by omega
      simp only [List.cons_append, List.nil_append]
      rw [string.eq_def]
      simp only [notQuote, notBackslash, plain, ↓reduceIte]
  | short => exact escaped rfl
  | unit => exact escaped rfl
  | pair => exact escaped rfl

/-- The inside of a string is read up to its quote. -/
theorem string_append {text chars : List Char} (inside : StringText text chars)
    (whole : List Char) (reversed : Source) (rest : List Char)
    (within : (text ++ '"' :: rest).length < whole.length) : ∃ shorter,
      string whole reversed (text ++ '"' :: rest) within =
        .ok ⟨reversed.reverse ++ Source.ofText chars, rest, shorter⟩ := by
  induction inside generalizing reversed with
  | nil =>
      refine ⟨length_lt_of_cons within, ?_⟩
      change string whole reversed ('"' :: rest) within = _
      rw [string.eq_def]
      simp [Source.ofText]
  | @cons piece others c chars spells _ inductionHypothesis =>
      -- the quote stands behind every piece
      obtain ⟨othersWithin, step⟩ := string_spells reversed spells
        (List.append_assoc piece others ('"' :: rest)) (by simp) within
      obtain ⟨shorter, readOthers⟩ := inductionHypothesis (.char c :: reversed) othersWithin
      refine ⟨shorter, ?_⟩
      rw [step, readOthers]
      simp [Source.ofText]

/-! ## Numbers -/

/-- Digits before the point are read as far as they go. -/
theorem wholeDigits?_append {room : Option Nat} {text rest : List Char}
    (whole : WholeDigits room text) (stops : NoDigit rest) :
    ∃ shorter, wholeDigits? (text ++ rest) = some ⟨text, rest, shorter⟩ := by
  obtain ⟨first, others, rfl⟩ := List.exists_cons_of_ne_nil whole.nonempty
  obtain ⟨isDigit, areDigits⟩ := List.forall_mem_cons.mp whole.digits
  rw [List.cons_append]
  refine ⟨by simp only [List.length_cons, List.length_append]; omega, ?_⟩
  by_cases zero : first = '0'
  · subst zero
    rw [whole.plain others rfl]
    rfl
  · obtain ⟨notLonger, taken⟩ := Line.span_append areDigits stops
    rw [wholeDigits?.eq_3 _ _ zero, if_pos isDigit, taken]
    rfl

/-- A fraction is read as far as it goes. -/
theorem fraction_append {text rest : List Char} {value : Option (List Char)}
    (isFraction : FractionText text value) (stops : NoDigit rest)
    (noPoint : rest.head? ≠ some '.') :
    ∃ notLonger, fraction (text ++ rest) = ⟨value, rest, notLonger⟩ := by
  cases isFraction with
  | absent =>
      refine ⟨Nat.le_refl _, ?_⟩
      exact fraction.eq_2 rest (fun others same => noPoint (by simp [same]))
  | @point digits isDigits =>
      obtain ⟨notLonger, taken⟩ := Line.span_append isDigits.digits stops
      have nonempty : ¬ digits.isEmpty = true := by simpa using isDigits.nonempty
      refine ⟨by simp; omega, ?_⟩
      change fraction ('.' :: (digits ++ rest)) = _
      rw [fraction.eq_1, taken]
      simp only [nonempty]
      rfl

/-- An exponent is read as far as it goes. -/
theorem exponent_append {text rest : List Char} {value : Option Int}
    (isExponent : ExponentText text value) (stops : NoDigit rest)
    (noMark : ∀ c ∈ rest.head?, c ≠ 'e' ∧ c ≠ 'E') :
    ∃ notLonger, exponent (text ++ rest) = ⟨value, rest, notLonger⟩ := by
  cases isExponent with
  | absent =>
      refine ⟨Nat.le_refl _, ?_⟩
      cases rest with
      | nil => rfl
      | cons c rest =>
          obtain ⟨notSmall, notLarge⟩ := noMark c rfl
          simp [exponent, notSmall, notLarge, Taken.nothing]
  | @mark mark sign digits isMark isSign isDigits =>
      have starts : ∃ c ∈ (digits ++ rest).head?, isAsciiDigit c = true := by
        obtain ⟨first, others, rfl⟩ := List.exists_cons_of_ne_nil isDigits.nonempty
        exact ⟨first, rfl, isDigits.digits first List.mem_cons_self⟩
      obtain ⟨signLess, readSign⟩ := Line.sign_append isSign starts
      obtain ⟨digitsLess, taken⟩ := Line.span_append isDigits.digits stops
      have isMark' : (decide (mark = 'e') || decide (mark = 'E')) = true := by
        simpa using isMark
      have nonempty : ¬ digits.isEmpty = true := by simpa using isDigits.nonempty
      rw [List.cons_append, List.append_assoc]
      refine ⟨by simp; omega, ?_⟩
      rw [exponent.eq_2, if_pos isMark', readSign]
      simp only [taken, nonempty]
      rfl

/-- A number without its sign is read as far as it goes. -/
theorem unsignedNumber_append {limits : Line.Limits}
    {whole fractionText exponentText rest : List Char} {fraction : Option (List Char)}
    {exponent : Option Int} (mark : List Char) (negative : Bool)
    (isWhole : WholeDigits (limits.room negative) whole)
    (isFraction : FractionText fractionText fraction)
    (isExponent : ExponentText exponentText exponent) (stops : NoNumber rest) :
    ∃ shorter, unsignedNumber limits.digits mark negative
        (whole ++ (fractionText ++ (exponentText ++ rest))) =
      .ok ⟨ofNumeral ⟨negative, whole, fraction, exponent⟩, rest, shorter⟩ := by
  obtain ⟨noDigit, noPoint⟩ := Line.stops_behind_fraction isExponent stops
  obtain ⟨shorter, readWhole⟩ := wholeDigits?_append isWhole
    (Line.stops_behind_whole isFraction isExponent stops)
  obtain ⟨fractionLess, readFraction⟩ := fraction_append isFraction noDigit noPoint
  obtain ⟨exponentLess, readExponent⟩ := exponent_append isExponent
    (fun c first => (stops c first).1) (fun c first => (stops c first).2.2)
  have short : limits.digits.any (· < whole.length) = false := by
    rw [Option.any_eq_false_iff_get]
    intro known
    simpa using isWhole.length_le _ (Option.get_mem known)
  refine ⟨by omega, ?_⟩
  rw [unsignedNumber, readWhole]
  simp only
  rw [readFraction]
  simp only [readExponent, short, Bool.and_false, Bool.false_eq_true, ↓reduceIte]
  rfl

/-! ## Names -/

/-- Letters are read in front of whatever comes behind them. -/
theorem letters?_append (letters rest : List Char) :
    ∃ notLonger, letters? letters (letters ++ rest) = some ⟨(), rest, notLonger⟩ := by
  induction letters with
  | nil => exact ⟨Nat.le_refl _, by cases rest <;> rfl⟩
  | cons letter letters inductionHypothesis =>
      obtain ⟨notLonger, readOthers⟩ := inductionHypothesis
      refine ⟨Nat.le_succ_of_le notLonger, ?_⟩
      change letters? (letter :: letters) (letter :: (letters ++ rest)) = _
      rw [letters?.eq_3, if_pos rfl, readOthers]
      rfl

/-- A name is read at its first letter. -/
theorem named?_append (value : Json) (first : Char) (letters : String) (rest : List Char) :
    ∃ shorter, named? (first :: (letters.toList ++ rest)) value first letters =
      some ⟨value, rest, shorter⟩ := by
  obtain ⟨notLonger, readLetters⟩ := letters?_append letters.toList rest
  refine ⟨Nat.lt_succ_of_le notLonger, ?_⟩
  simp only [named?, ↓reduceIte, readLetters]
  rfl

/-- A text that starts with another letter is not the name. -/
theorem named?_of_ne {c first : Char} (other : c ≠ first) (value : Json) (letters : String)
    (rest : List Char) : named? (c :: rest) value first letters = none := by
  simp only [named?, other, ↓reduceIte]

/-- A name is read at its first letter, which opens no string and no container. -/
theorem scalar_name (digitLimit : Option Nat) {word : String} {value : Json}
    (known : (word, value) ∈ Line.names) (rest : List Char) :
    ∃ first others shorter, word.toList ++ rest = first :: others ∧
      (first ≠ '"' ∧ first ≠ '[' ∧ first ≠ '\x7b') ∧
      scalar digitLimit (first :: others) = .ok ⟨value, rest, shorter⟩ := by
  simp only [Line.names, List.mem_cons, Prod.mk.injEq, List.not_mem_nil, or_false] at known
  rcases known with ⟨rfl, rfl⟩ | ⟨rfl, rfl⟩ | ⟨rfl, rfl⟩ | ⟨rfl, rfl⟩ | ⟨rfl, rfl⟩ | ⟨rfl, rfl⟩
  · obtain ⟨shorter, read⟩ := named?_append .null 'n' "ull" rest
    refine ⟨'n', "ull".toList ++ rest, shorter, rfl, by decide, ?_⟩
    simp only [scalar, List.findSome?_cons, read]
  · obtain ⟨shorter, read⟩ := named?_append (.bool true) 't' "rue" rest
    refine ⟨'t', "rue".toList ++ rest, shorter, rfl, by decide, ?_⟩
    simp only [scalar, List.findSome?_cons, named?_of_ne, ne_eq, Char.reduceEq, not_false_eq_true,
      read]
  · obtain ⟨shorter, read⟩ := named?_append (.bool false) 'f' "alse" rest
    refine ⟨'f', "alse".toList ++ rest, shorter, rfl, by decide, ?_⟩
    simp only [scalar, List.findSome?_cons, named?_of_ne, ne_eq, Char.reduceEq, not_false_eq_true,
      read]
  · obtain ⟨shorter, read⟩ := named?_append (.float .nan) 'N' "aN" rest
    refine ⟨'N', "aN".toList ++ rest, shorter, rfl, by decide, ?_⟩
    simp only [scalar, List.findSome?_cons, named?_of_ne, ne_eq, Char.reduceEq, not_false_eq_true,
      read]
  · obtain ⟨shorter, read⟩ := named?_append (.float (.infinite false)) 'I' "nfinity" rest
    refine ⟨'I', "nfinity".toList ++ rest, shorter, rfl, by decide, ?_⟩
    simp only [scalar, List.findSome?_cons, named?_of_ne, ne_eq, Char.reduceEq, not_false_eq_true,
      read]
  · obtain ⟨shorter, read⟩ := named?_append (.float (.infinite true)) '-' "Infinity" rest
    refine ⟨'-', "Infinity".toList ++ rest, shorter, rfl, by decide, ?_⟩
    simp only [scalar, List.findSome?_cons, named?_of_ne, ne_eq, Char.reduceEq, not_false_eq_true,
      read]

/-- A text that starts with a digit is no name, with a minus sign or without. -/
theorem scalar_digit (digitLimit : Option Nat) {first : Char} (rest : List Char)
    (digit : isAsciiDigit first = true) :
    scalar digitLimit (first :: rest) =
        unsignedNumber digitLimit (first :: rest) false (first :: rest) ∧
      scalar digitLimit ('-' :: first :: rest) =
        (unsignedNumber digitLimit ('-' :: first :: rest) true (first :: rest)).map
          (Parsed.behind '-') := by
  have notNull : first ≠ 'n' := Line.ne_of_isAsciiDigit digit rfl
  have notTrue : first ≠ 't' := Line.ne_of_isAsciiDigit digit rfl
  have notFalse : first ≠ 'f' := Line.ne_of_isAsciiDigit digit rfl
  have notNan : first ≠ 'N' := Line.ne_of_isAsciiDigit digit rfl
  have notInfinity : first ≠ 'I' := Line.ne_of_isAsciiDigit digit rfl
  have notMinus : first ≠ '-' := Line.ne_of_isAsciiDigit digit rfl
  constructor
  · simp only [scalar, List.findSome?_cons, List.findSome?_nil, named?_of_ne, notNull, notTrue,
      notFalse, notNan, notInfinity, notMinus, ne_eq, not_false_eq_true]
    have positive (others : List Char) : first :: rest ≠ '-' :: others :=
      fun same => notMinus (List.cons.inj same).1
    generalize first :: rest = input at positive ⊢
    split
    · next others => exact absurd rfl (positive others)
    · rfl
  · have unspelt : letters? "Infinity".toList (first :: rest) = none := if_neg notInfinity.symm
    have noName :
        named? ('-' :: first :: rest) (.float (.infinite true)) '-' "Infinity" = none := by
      simp only [named?, ↓reduceIte, unspelt, Option.map_none]
    simp only [scalar, List.findSome?_cons, List.findSome?_nil, named?_of_ne, noName, ne_eq,
      Char.reduceEq, not_false_eq_true]
    rfl

/-- A number is read as far as it goes, and its first character opens no string and no container. -/
theorem scalar_number {limits : Line.Limits} {text rest : List Char} {numeral : Numeral}
    (isNumber : NumberText limits text numeral) (stops : NoNumber rest) :
    ∃ first others shorter, text ++ rest = first :: others ∧
      (first ≠ '"' ∧ first ≠ '[' ∧ first ≠ '\x7b') ∧
      scalar limits.digits (first :: others) = .ok ⟨ofNumeral numeral, rest, shorter⟩ := by
  obtain ⟨negative, isWhole, isFraction, isExponent⟩ := isNumber
  next whole fractionText exponentText fraction exponent =>
  obtain ⟨digit, digits, rfl⟩ := List.exists_cons_of_ne_nil isWhole.nonempty
  have isDigit := isWhole.digits digit List.mem_cons_self
  cases negative with
  | true =>
      obtain ⟨shorter, read⟩ := unsignedNumber_append
        ('-' :: (digit :: digits ++ (fractionText ++ (exponentText ++ rest)))) true isWhole
        isFraction isExponent stops
      refine ⟨'-', digit :: digits ++ (fractionText ++ (exponentText ++ rest)),
        Nat.lt_succ_of_lt shorter, by simp, by decide, ?_⟩
      refine (scalar_digit limits.digits _ isDigit).2.trans ?_
      exact congrArg (Except.map (Parsed.behind '-')) read
  | false =>
      obtain ⟨shorter, read⟩ := unsignedNumber_append
        (digit :: digits ++ (fractionText ++ (exponentText ++ rest))) false isWhole isFraction
        isExponent stops
      refine ⟨digit, digits ++ (fractionText ++ (exponentText ++ rest)), shorter, by simp,
        ⟨Line.ne_of_isAsciiDigit isDigit rfl, Line.ne_of_isAsciiDigit isDigit rfl,
          Line.ne_of_isAsciiDigit isDigit rfl⟩, ?_⟩
      exact (scalar_digit limits.digits _ isDigit).1.trans read

end LintClient.Json.Document
