import LintClient.Proofs.Json.Line.Tokens

/-!
# Numbers and names

What the readers of numbers and names accept is what the grammar says. A name ends where its letters
end; a number goes on as long as it can, so that it is read as a whole only in front of a text that
starts with none of its characters.
-/

namespace LintClient.Json.Line

open Text (isAsciiDigit)

/-- The text does not go on with a digit. -/
def NoDigit (text : List Char) : Prop :=
  ∀ c ∈ text.head?, isAsciiDigit c = false

/-- The text does not go on with a character of a number. -/
def NoNumber (text : List Char) : Prop :=
  ∀ c ∈ text.head?, isAsciiDigit c = false ∧ c ≠ '.' ∧ c ≠ 'e' ∧ c ≠ 'E'

/-- No digit is one of the other characters of a number. -/
theorem ne_of_isAsciiDigit {c other : Char} (digit : isAsciiDigit c = true)
    (otherwise : isAsciiDigit other = false) : c ≠ other := by
  rintro rfl
  cases digit.symm.trans otherwise

/-! ## Digits -/

/-- What is read as digits are digits. -/
theorem digits_eq_ok {input : List Char} {read : Parsed (List Char) input}
    (found : digits input = .ok read) : Digits read.value ∧ input = read.value ++ read.rest := by
  unfold digits at found
  split at found
  · cases found
  · next c rest =>
    split at found
    · next digit =>
      obtain rfl := Except.ok.inj found
      refine ⟨⟨List.cons_ne_nil _ _, ?_⟩, ?_⟩
      · intro other member
        rcases List.mem_cons.mp member with rfl | later
        · exact digit
        · exact List.all_eq_true.mp List.all_takeWhile other later
      · exact congrArg (c :: ·) List.takeWhile_append_dropWhile.symm
    · cases found

/-- Digits at the front of a text are taken as far as they go. -/
theorem span_append {text rest : List Char} (areDigits : ∀ c ∈ text, isAsciiDigit c = true)
    (stops : NoDigit rest) :
    ∃ notLonger, Taken.span isAsciiDigit (text ++ rest) = ⟨text, rest, notLonger⟩ := by
  have taken : (text ++ rest).takeWhile isAsciiDigit = text ∧
      (text ++ rest).dropWhile isAsciiDigit = rest := by
    rw [List.takeWhile_append_of_pos areDigits, List.dropWhile_append_of_pos areDigits]
    cases rest with
    | nil => simp
    | cons next rest => simp [stops next rfl]
  refine ⟨by simp, ?_⟩
  simp only [Taken.span, taken]

/-- Digits are read as far as they go. -/
theorem digits_append {text rest : List Char} (isDigits : Digits text) (stops : NoDigit rest) :
    ∃ shorter, digits (text ++ rest) = .ok ⟨text, rest, shorter⟩ := by
  obtain ⟨nonempty, allDigits⟩ := isDigits
  cases text with
  | nil => exact absurd rfl nonempty
  | cons c others =>
      obtain ⟨first, later⟩ := List.forall_mem_cons.mp allDigits
      obtain ⟨notLonger, taken⟩ := span_append later stops
      refine ⟨by simp only [List.length_append, List.length_cons]; omega, ?_⟩
      simp only [List.cons_append, digits, first, taken, ↓reduceIte]
      rfl

/-- What is read as the digits before the point starts with a zero only if it is zero. -/
theorem wholeDigits_eq_ok {input : List Char} {read : Parsed (List Char) input}
    (found : wholeDigits input = .ok read) :
    WholeDigits none read.value ∧ input = read.value ++ read.rest := by
  obtain ⟨whole, readWhole, ending⟩ := bind_eq_ok.mp found
  obtain ⟨isDigits, same⟩ := digits_eq_ok readWhole
  split at ending
  · cases ending
  · next _ _ otherwise =>
    obtain rfl := Except.ok.inj ending
    refine ⟨⟨isDigits, ?_, nofun⟩, same⟩
    intro others leading
    cases others with
    | nil => rfl
    | cons second others =>
        have split := same.trans (congrArg (· ++ whole.rest) leading)
        exact (otherwise _ _ _ _ split leading).elim

/-- Digits before the point are read as far as they go. -/
theorem wholeDigits_append {room : Option Nat} {text rest : List Char}
    (whole : WholeDigits room text) (stops : NoDigit rest) :
    ∃ shorter, wholeDigits (text ++ rest) = .ok ⟨text, rest, shorter⟩ := by
  obtain ⟨shorter, readDigits⟩ := digits_append whole.toDigits stops
  refine ⟨shorter, ?_⟩
  rw [wholeDigits, readDigits]
  simp only [bind, Except.bind]
  split
  · cases whole.plain _ rfl
  · rfl

/-- What is read as the digits before the point has no more digits than there is room for. -/
theorem boundedDigits_eq_ok {room : Option Nat} {input : List Char}
    {read : Parsed (List Char) input} (found : boundedDigits room input = .ok read) :
    WholeDigits room read.value ∧ input = read.value ++ read.rest := by
  obtain ⟨whole, readWhole, ending⟩ := bind_eq_ok.mp found
  obtain ⟨isWhole, same⟩ := wholeDigits_eq_ok readWhole
  split at ending
  · obtain rfl := Except.ok.inj ending
    exact ⟨isWhole, same⟩
  · next limit =>
    split at ending
    · cases ending
    · next within =>
      obtain rfl := Except.ok.inj ending
      refine ⟨⟨isWhole.toDigits, isWhole.plain, ?_⟩, same⟩
      intro other known
      cases known
      exact Nat.le_of_not_lt within

/-- Digits before the point for which there is room are read as far as they go. -/
theorem boundedDigits_append {room : Option Nat} {text rest : List Char}
    (whole : WholeDigits room text) (stops : NoDigit rest) :
    ∃ shorter, boundedDigits room (text ++ rest) = .ok ⟨text, rest, shorter⟩ := by
  obtain ⟨shorter, readWhole⟩ := wholeDigits_append whole stops
  refine ⟨shorter, ?_⟩
  rw [boundedDigits, readWhole]
  cases room with
  | none => rfl
  | some limit =>
      have within : ¬ limit < text.length := Nat.not_lt.mpr (whole.within _ rfl)
      simp only [bind, Except.bind, within, ↓reduceIte]

/-- Digits before the point for which there is no room are refused. -/
theorem boundedDigits_tooLong {room : Option Nat} {limit : Nat} {text rest : List Char}
    (whole : WholeDigits room text) (stops : NoDigit rest) (long : limit < text.length) :
    boundedDigits (some limit) (text ++ rest) =
      .error ⟨.numberTooLong, (text ++ rest).drop (limit + 1)⟩ := by
  obtain ⟨shorter, readWhole⟩ := wholeDigits_append whole stops
  rw [boundedDigits, readWhole]
  simp only [bind, Except.bind, long, ↓reduceIte]

/-! ## Fractions and exponents -/

/-- What is read as a fraction is one. -/
theorem fraction_eq_ok {input : List Char} {read : Taken (Option (List Char)) input}
    (found : fraction input = .ok read) :
    ∃ text, FractionText text read.value ∧ input = text ++ read.rest := by
  unfold fraction at found
  split at found
  · next rest =>
    obtain ⟨read, readDigits, ending⟩ := bind_eq_ok.mp found
    obtain ⟨isDigits, same⟩ := digits_eq_ok readDigits
    obtain rfl := Except.ok.inj ending
    exact ⟨'.' :: read.value, .point isDigits, congrArg ('.' :: ·) same⟩
  · obtain rfl := Except.ok.inj found
    exact ⟨[], .absent, rfl⟩

/-- A fraction is read as far as it goes. -/
theorem fraction_append {text rest : List Char} {value : Option (List Char)}
    (isFraction : FractionText text value) (stops : NoDigit rest)
    (noPoint : rest.head? ≠ some '.') :
    ∃ notLonger, fraction (text ++ rest) = .ok ⟨value, rest, notLonger⟩ := by
  cases isFraction with
  | absent =>
      refine ⟨Nat.le_refl _, ?_⟩
      exact fraction.eq_2 rest (fun others same => noPoint (by simp [same]))
  | @point digits isDigits =>
      obtain ⟨shorter, readDigits⟩ := digits_append isDigits stops
      refine ⟨by simp; omega, ?_⟩
      change fraction ('.' :: (digits ++ rest)) = _
      rw [fraction.eq_1, readDigits]
      rfl

/-- What is read as a sign is one or nothing. -/
theorem sign_eq (input : List Char) : ∃ text, (text = [] ∨ text = ['+'] ∨ text = ['-']) ∧
    input = text ++ (sign input).rest ∧ (sign input).value = decide (text = ['-']) := by
  unfold sign
  split
  · exact ⟨[], .inl rfl, rfl, rfl⟩
  · next c rest =>
    split
    · next isSign =>
      simp only [Bool.or_eq_true, decide_eq_true_eq] at isSign
      rcases isSign with rfl | rfl
      · exact ⟨['-'], .inr (.inr rfl), rfl, rfl⟩
      · exact ⟨['+'], .inr (.inl rfl), rfl, rfl⟩
    · exact ⟨[], .inl rfl, rfl, rfl⟩

/-- A sign in front of a digit is read. -/
theorem sign_append {text rest : List Char} (isSign : text = [] ∨ text = ['+'] ∨ text = ['-'])
    (digit : ∃ c ∈ rest.head?, isAsciiDigit c = true) :
    ∃ notLonger, sign (text ++ rest) = ⟨decide (text = ['-']), rest, notLonger⟩ := by
  refine ⟨by simp, ?_⟩
  rcases isSign with rfl | rfl | rfl
  · obtain ⟨c, first, isDigit⟩ := digit
    cases rest with
    | nil => cases first
    | cons other rest =>
        obtain rfl := Option.some.inj first
        have notMinus : other ≠ '-' := ne_of_isAsciiDigit isDigit rfl
        have notPlus : other ≠ '+' := ne_of_isAsciiDigit isDigit rfl
        simp [sign, notMinus, notPlus, Taken.nothing]
  · rfl
  · rfl

/-- What is read as an exponent is one. -/
theorem exponent_eq_ok {input : List Char} {read : Taken (Option Int) input}
    (found : exponent input = .ok read) :
    ∃ text, ExponentText text read.value ∧ input = text ++ read.rest := by
  unfold exponent at found
  split at found
  · obtain rfl := Except.ok.inj found
    exact ⟨[], .absent, rfl⟩
  · next mark rest =>
    split at found
    · next isMark =>
      obtain ⟨digits, readDigits, ending⟩ := bind_eq_ok.mp found
      obtain ⟨isDigits, same⟩ := digits_eq_ok readDigits
      obtain ⟨text, isSign, sameSign, value⟩ := sign_eq rest
      obtain rfl := Except.ok.inj ending
      simp only [Bool.or_eq_true, decide_eq_true_eq] at isMark
      refine ⟨mark :: (text ++ digits.value), ?_, ?_⟩
      · have exponent := ExponentText.mark isMark isSign isDigits
        rw [← value] at exponent
        exact exponent
      · rw [same, ← List.append_assoc] at sameSign
        exact congrArg (mark :: ·) sameSign
    · obtain rfl := Except.ok.inj found
      exact ⟨[], .absent, rfl⟩

/-- An exponent is read as far as it goes. -/
theorem exponent_append {text rest : List Char} {value : Option Int}
    (isExponent : ExponentText text value) (stops : NoDigit rest)
    (noMark : ∀ c ∈ rest.head?, c ≠ 'e' ∧ c ≠ 'E') :
    ∃ notLonger, exponent (text ++ rest) = .ok ⟨value, rest, notLonger⟩ := by
  cases isExponent with
  | absent =>
      refine ⟨Nat.le_refl _, ?_⟩
      cases rest with
      | nil => rfl
      | cons c rest =>
          obtain ⟨notSmall, notLarge⟩ := noMark c rfl
          simp [exponent, notSmall, notLarge, Taken.nothing]
  | @mark mark sign digits isMark isSign isDigits =>
      have starts : ∃ c ∈ (digits ++ rest).head?, isAsciiDigit c = true := by
        cases digits with
        | nil => exact absurd rfl isDigits.nonempty
        | cons c digits => exact ⟨c, rfl, isDigits.digits c List.mem_cons_self⟩
      obtain ⟨notLonger, readSign⟩ := sign_append isSign starts
      obtain ⟨shorter, readDigits⟩ := digits_append isDigits stops
      have isMark' : (decide (mark = 'e') || decide (mark = 'E')) = true := by
        simpa using isMark
      rw [List.cons_append, List.append_assoc]
      refine ⟨by simp; omega, ?_⟩
      rw [exponent.eq_2, if_pos isMark', readSign]
      simp only [readDigits]
      rfl

/-! ## Numbers -/

variable {limits : Limits}

/-- What is read as a number without its sign is one. -/
theorem unsignedNumber_eq_ok {negative : Bool} {input : List Char} {read : Parsed Json input}
    (found : unsignedNumber limits negative input = .ok read) :
    ∃ text numeral, input = text ++ read.rest ∧ read.value = ofNumeral numeral ∧
      NumberText limits ((if negative then ['-'] else []) ++ text) numeral := by
  obtain ⟨whole, readWhole, found⟩ := bind_eq_ok.mp found
  obtain ⟨fraction, readFraction, found⟩ := bind_eq_ok.mp found
  obtain ⟨exponent, readExponent, found⟩ := bind_eq_ok.mp found
  obtain ⟨isWhole, sameWhole⟩ := boundedDigits_eq_ok readWhole
  obtain ⟨fractionText, isFraction, sameFraction⟩ := fraction_eq_ok readFraction
  obtain ⟨exponentText, isExponent, sameExponent⟩ := exponent_eq_ok readExponent
  obtain rfl := Except.ok.inj found
  refine ⟨whole.value ++ (fractionText ++ exponentText), _, ?_, rfl,
    .parts negative isWhole isFraction isExponent⟩
  rw [sameExponent, ← List.append_assoc] at sameFraction
  rw [sameFraction, ← List.append_assoc] at sameWhole
  exact sameWhole

section Stops

variable {fractionText exponentText rest : List Char} {fraction : Option (List Char)}
  {exponent : Option Int}

/-- Nothing behind the fraction of a number goes on with it. -/
theorem stops_behind_fraction (isExponent : ExponentText exponentText exponent)
    (stops : NoNumber rest) :
    NoDigit (exponentText ++ rest) ∧ (exponentText ++ rest).head? ≠ some '.' := by
  cases isExponent with
  | absent =>
      refine ⟨fun c first => (stops c first).1, ?_⟩
      intro point
      exact (stops '.' point).2.1 rfl
  | mark isMark =>
      rcases isMark with rfl | rfl
      · exact ⟨by simp [NoDigit, isAsciiDigit], by simp⟩
      · exact ⟨by simp [NoDigit, isAsciiDigit], by simp⟩

/-- Nothing behind the digits before the point goes on with them. -/
theorem stops_behind_whole (isFraction : FractionText fractionText fraction)
    (isExponent : ExponentText exponentText exponent) (stops : NoNumber rest) :
    NoDigit (fractionText ++ (exponentText ++ rest)) := by
  cases isFraction with
  | absent => exact (stops_behind_fraction isExponent stops).1
  | point => simp [NoDigit, isAsciiDigit]

end Stops

/-- A number without its sign is read as far as it goes. -/
theorem unsignedNumber_append {whole fractionText exponentText rest : List Char}
    {fraction : Option (List Char)} {exponent : Option Int} (negative : Bool)
    (isWhole : WholeDigits (limits.room negative) whole)
    (isFraction : FractionText fractionText fraction)
    (isExponent : ExponentText exponentText exponent) (stops : NoNumber rest) :
    ∃ shorter, unsignedNumber limits negative (whole ++ (fractionText ++ (exponentText ++ rest))) =
      .ok ⟨ofNumeral ⟨negative, whole, fraction, exponent⟩, rest, shorter⟩ := by
  obtain ⟨noDigit, noPoint⟩ := stops_behind_fraction isExponent stops
  obtain ⟨shorter, readWhole⟩ := boundedDigits_append isWhole
    (stops_behind_whole isFraction isExponent stops)
  obtain ⟨fractionLess, readFraction⟩ := fraction_append isFraction noDigit noPoint
  obtain ⟨exponentLess, readExponent⟩ := exponent_append isExponent
    (fun c first => (stops c first).1) (fun c first => (stops c first).2.2)
  refine ⟨by omega, ?_⟩
  rw [unsignedNumber, readWhole]
  simp only [bind, Except.bind]
  rw [readFraction]
  simp only [readExponent]
  rfl

/-- A number with more digits before the point than there is room for is refused. -/
theorem unsignedNumber_tooLong {room : Option Nat} {limit : Nat} {whole rest : List Char}
    (negative : Bool) (isWhole : WholeDigits room whole) (stops : NoDigit rest)
    (limited : limits.room negative = some limit) (long : limit < whole.length) :
    unsignedNumber limits negative (whole ++ rest) =
      .error ⟨.numberTooLong, (whole ++ rest).drop (limit + 1)⟩ := by
  rw [unsignedNumber, limited, boundedDigits_tooLong isWhole stops long]
  rfl

/-! ## Names -/

/-- What is read as a name starts with its letters. -/
theorem name_eq_ok {letters input : List Char} {read : Taken Unit input}
    (found : name letters input = .ok read) : input = letters ++ read.rest := by
  induction letters generalizing input with
  | nil =>
      cases input <;> (obtain rfl := Except.ok.inj found; rfl)
  | cons letter letters inductionHypothesis =>
      cases input with
      | nil => cases found
      | cons c rest =>
          rw [name.eq_3] at found
          split at found
          · next same =>
            obtain ⟨others, readOthers, ending⟩ := bind_eq_ok.mp found
            obtain rfl := Except.ok.inj ending
            rw [same]
            exact congrArg (c :: ·) (inductionHypothesis readOthers)
          · cases found

/-- The letters of a name are read. -/
theorem name_append (letters rest : List Char) :
    ∃ notLonger, name letters (letters ++ rest) = .ok ⟨(), rest, notLonger⟩ := by
  induction letters with
  | nil => exact ⟨Nat.le_refl _, by cases rest <;> rfl⟩
  | cons letter letters inductionHypothesis =>
      obtain ⟨notLonger, readOthers⟩ := inductionHypothesis
      rw [List.cons_append]
      refine ⟨Nat.le_succ_of_le notLonger, ?_⟩
      rw [name.eq_3, if_pos rfl, readOthers]
      rfl

/-! ## Scalars -/

/-- The text is a name or a number and denotes the value. -/
def ScalarText (limits : Limits) (text : List Char) (value : Json) : Prop :=
  (∃ word, text = String.toList word ∧ (word, value) ∈ names) ∨
    ∃ numeral, NumberText limits text numeral ∧ value = ofNumeral numeral

/-- What is read as a name is one. -/
theorem named_eq_ok {value : Json} {letters : String} {first : Char} {rest : List Char}
    {read : Parsed Json (first :: rest)} (found : named value letters first rest = .ok read) :
    first :: rest = first :: letters.toList ++ read.rest ∧ read.value = value := by
  obtain ⟨letters', readLetters, ending⟩ := bind_eq_ok.mp found
  obtain rfl := Except.ok.inj ending
  exact ⟨congrArg (first :: ·) (name_eq_ok readLetters), rfl⟩

/-- A name is read at its first letter. -/
theorem named_append (value : Json) (letters : String) (first : Char) (rest : List Char) :
    ∃ shorter, named value letters first (letters.toList ++ rest) = .ok ⟨value, rest, shorter⟩ := by
  obtain ⟨notLonger, readLetters⟩ := name_append letters.toList rest
  refine ⟨Nat.lt_succ_of_le notLonger, ?_⟩
  rw [named, readLetters]
  rfl

/-- What is read behind a minus sign is a number or a name together with it. -/
theorem negativeNumber_eq_ok {input : List Char} {read : Parsed Json input}
    (found : negativeNumber limits input = .ok read) :
    ∃ text, input = text ++ read.rest ∧ ScalarText limits ('-' :: text) read.value := by
  unfold negativeNumber at found
  split at found
  · next rest =>
    obtain ⟨same, value⟩ := named_eq_ok found
    refine ⟨_, same, .inl ⟨"-Infinity", rfl, ?_⟩⟩
    rw [value]
    simp [names]
  · obtain ⟨text, numeral, same, value, isNumber⟩ := unsignedNumber_eq_ok found
    exact ⟨text, same, .inr ⟨numeral, isNumber, value⟩⟩

/-- What is read as a value that is not a string and not a container is a name or a number. -/
theorem scalar_eq_ok {first : Char} {rest : List Char} {read : Parsed Json (first :: rest)}
    (found : scalar limits first rest = .ok read) :
    ∃ text, first :: rest = text ++ read.rest ∧ ScalarText limits text read.value := by
  have ofName (word : String) {letters : String} {value : Json} (known : (word, value) ∈ names)
      (spelt : word.toList = first :: letters.toList)
      (found : named value letters first rest = .ok read) :
      ∃ text, first :: rest = text ++ read.rest ∧ ScalarText limits text read.value := by
    obtain ⟨same, rfl⟩ := named_eq_ok found
    exact ⟨_, same, .inl ⟨word, spelt.symm, known⟩⟩
  unfold scalar at found
  split at found
  · next same => exact ofName "true" (by simp [names]) (same ▸ rfl) found
  split at found
  · next same => exact ofName "false" (by simp [names]) (same ▸ rfl) found
  split at found
  · next same => exact ofName "null" (by simp [names]) (same ▸ rfl) found
  split at found
  · next same => exact ofName "NaN" (by simp [names]) (same ▸ rfl) found
  split at found
  · next same => exact ofName "Infinity" (by simp [names]) (same ▸ rfl) found
  split at found
  · next same =>
    obtain ⟨number, readNumber, ending⟩ := bind_eq_ok.mp found
    obtain ⟨text, split, isScalar⟩ := negativeNumber_eq_ok readNumber
    obtain rfl := Except.ok.inj ending
    rw [← same] at isScalar
    exact ⟨first :: text, congrArg (first :: ·) split, isScalar⟩
  split at found
  · obtain ⟨text, numeral, same, value, isNumber⟩ := unsignedNumber_eq_ok found
    exact ⟨text, same, .inr ⟨numeral, isNumber, value⟩⟩
  · cases found

/-- A digit starts a number. -/
theorem scalar_digit {first : Char} (rest : List Char) (digit : isAsciiDigit first = true) :
    scalar limits first rest = unsignedNumber limits false (first :: rest) := by
  have notT : first ≠ 't' := ne_of_isAsciiDigit digit rfl
  have notF : first ≠ 'f' := ne_of_isAsciiDigit digit rfl
  have notN : first ≠ 'n' := ne_of_isAsciiDigit digit rfl
  have notNan : first ≠ 'N' := ne_of_isAsciiDigit digit rfl
  have notInfinity : first ≠ 'I' := ne_of_isAsciiDigit digit rfl
  have notMinus : first ≠ '-' := ne_of_isAsciiDigit digit rfl
  simp only [scalar, notT, notF, notN, notNan, notInfinity, notMinus, digit, ↓reduceIte]

/-- A name is read at its first letter, which opens no string and no container. -/
theorem scalar_name {word : String} {value : Json} (known : (word, value) ∈ names)
    (rest : List Char) :
    ∃ first others shorter, word.toList ++ rest = first :: others ∧
      (first ≠ '"' ∧ first ≠ '[' ∧ first ≠ '\x7b') ∧
      scalar limits first others = .ok ⟨value, rest, shorter⟩ := by
  simp only [names, List.mem_cons, Prod.mk.injEq, List.not_mem_nil, or_false] at known
  rcases known with ⟨rfl, rfl⟩ | ⟨rfl, rfl⟩ | ⟨rfl, rfl⟩ | ⟨rfl, rfl⟩ | ⟨rfl, rfl⟩ | ⟨rfl, rfl⟩
  · obtain ⟨shorter, read⟩ := named_append .null "ull" 'n' rest
    exact ⟨'n', _, shorter, rfl, by decide, read⟩
  · obtain ⟨shorter, read⟩ := named_append (.bool true) "rue" 't' rest
    exact ⟨'t', _, shorter, rfl, by decide, read⟩
  · obtain ⟨shorter, read⟩ := named_append (.bool false) "alse" 'f' rest
    exact ⟨'f', _, shorter, rfl, by decide, read⟩
  · obtain ⟨shorter, read⟩ := named_append (.float .nan) "aN" 'N' rest
    exact ⟨'N', _, shorter, rfl, by decide, read⟩
  · obtain ⟨shorter, read⟩ := named_append (.float (.infinite false)) "nfinity" 'I' rest
    exact ⟨'I', _, shorter, rfl, by decide, read⟩
  · obtain ⟨shorter, read⟩ := named_append (.float (.infinite true)) "nfinity" 'I' rest
    refine ⟨'-', 'I' :: ("nfinity".toList ++ rest), Nat.lt_succ_of_lt shorter, rfl, by decide, ?_⟩
    change (do
      let number ← negativeNumber limits ('I' :: ("nfinity".toList ++ rest))
      .ok (number.behind '-')) = _
    rw [negativeNumber.eq_1, read]
    rfl

/-- A number is read as far as it goes, and its first character opens no string and no container. -/
theorem scalar_number {text rest : List Char} {numeral : Numeral}
    (isNumber : NumberText limits text numeral) (stops : NoNumber rest) :
    ∃ first others shorter, text ++ rest = first :: others ∧
      (first ≠ '"' ∧ first ≠ '[' ∧ first ≠ '\x7b') ∧
      scalar limits first others = .ok ⟨ofNumeral numeral, rest, shorter⟩ := by
  obtain ⟨negative, isWhole, isFraction, isExponent⟩ := isNumber
  next whole fractionText exponentText fraction exponent =>
  obtain ⟨shorter, read⟩ := unsignedNumber_append negative isWhole isFraction isExponent stops
  obtain ⟨digit, digits, rfl⟩ := List.exists_cons_of_ne_nil isWhole.nonempty
  have isDigit := isWhole.digits digit List.mem_cons_self
  cases negative with
  | true =>
      refine ⟨'-', digit :: digits ++ (fractionText ++ (exponentText ++ rest)),
        Nat.lt_succ_of_lt shorter, by simp, by decide, ?_⟩
      have noName (others : List Char) :
          digit :: digits ++ (fractionText ++ (exponentText ++ rest)) ≠ 'I' :: others := by
        intro same
        exact ne_of_isAsciiDigit isDigit rfl (List.cons.inj same).1
      change (do
        let number ← negativeNumber limits
          (digit :: digits ++ (fractionText ++ (exponentText ++ rest)))
        .ok (number.behind '-')) = _
      rw [negativeNumber.eq_2 _ _ noName, read]
      rfl
  | false =>
      refine ⟨digit, digits ++ (fractionText ++ (exponentText ++ rest)), shorter, by simp,
        ⟨ne_of_isAsciiDigit isDigit rfl, ne_of_isAsciiDigit isDigit rfl,
          ne_of_isAsciiDigit isDigit rfl⟩, ?_⟩
      rw [scalar_digit _ isDigit]
      exact read

/-- A name or a number is read as far as it goes. -/
theorem scalar_append {text rest : List Char} {value : Json}
    (isScalar : ScalarText limits text value) (stops : NoNumber rest) :
    ∃ first others shorter, text ++ rest = first :: others ∧
      (first ≠ '"' ∧ first ≠ '[' ∧ first ≠ '\x7b') ∧
      scalar limits first others = .ok ⟨value, rest, shorter⟩ := by
  rcases isScalar with ⟨word, rfl, known⟩ | ⟨numeral, isNumber, rfl⟩
  · exact scalar_name known rest
  · exact scalar_number isNumber stops

end LintClient.Json.Line
