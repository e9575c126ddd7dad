import LintClient.Proofs.Json.Line.Grammar
import LintClient.Proofs.Results
import LintClient.Proofs.Text.Utf8.Form

/-!
# Tokens

What the readers of gaps, strings, numbers and names accept is what the grammar says. Each reader
has two laws: what it has read is such a token, and in front of a text that does not go on with the
token it reads the whole of it.
-/

namespace LintClient.Json.Line

/-! ## Gaps -/

/-- Nothing is a gap. -/
theorem gap_nil : Gap [] := nofun

/-- What is skipped at the front of a text is a gap. -/
theorem exists_gap (input : List Char) : ∃ gap, Gap gap ∧ input = gap ++ skipGap input := by
  refine ⟨input.takeWhile isGap, ?_, List.takeWhile_append_dropWhile.symm⟩
  exact List.all_eq_true.mp List.all_takeWhile

/-- A gap in front of a text that starts with none is skipped. -/
theorem skipGap_append {gap rest : List Char} (gapped : Gap gap)
    (stops : ∀ c ∈ rest.head?, isGap c = false) : skipGap (gap ++ rest) = rest := by
  rw [skipGap, List.dropWhile_append_of_pos gapped]
  cases rest with
  | nil => rfl
  | cons c rest => exact List.dropWhile_cons_of_neg (by simp [stops c rfl])

/-- The next character stands behind a gap. -/
theorem gap_of_next? {input : List Char} {next : Parsed Char input}
    (found : next? input = some next) :
    ∃ gap, Gap gap ∧ input = gap ++ next.unread := by
  obtain ⟨gap, gapped, split⟩ := exists_gap input
  refine ⟨gap, gapped, ?_⟩
  have rest : skipGap input = next.unread := by
    unfold next? at found
    split at found
    · cases found
    · next read c rest shorter same =>
      cases found
      exact congrArg Taken.rest same
  rw [← rest]
  exact split

/-- The next character of a text behind a gap is the first one that does not belong to it. -/
theorem next?_eq_some {input gap rest : List Char} {c : Char} (split : input = gap ++ c :: rest)
    (gapped : Gap gap) (stops : isGap c = false) :
    ∃ shorter, next? input = some ⟨c, rest, shorter⟩ := by
  have skipped : skipGap input = c :: rest := by
    rw [split]
    exact skipGap_append gapped (by simpa using stops)
  unfold next?
  split
  · next read shorter same =>
    cases skipped.symm.trans (congrArg Taken.rest same)
  · next read other others shorter same =>
    obtain ⟨rfl, rfl⟩ := List.cons.inj (skipped.symm.trans (congrArg Taken.rest same))
    exact ⟨shorter, rfl⟩

/-- After a reading, the next character is the first one behind a gap. -/
theorem Parsed.gap_of_next? {α : Type} {input : List Char} {read : Parsed α input}
    {next : Parsed Char input} (found : read.next? = some next) :
    ∃ gap, Gap gap ∧ read.rest = gap ++ next.unread := by
  obtain ⟨later, there, rfl⟩ := Option.map_eq_some_iff.mp found
  exact Line.gap_of_next? there

/-- After a reading, the first character behind a gap is the next one. -/
theorem Parsed.next?_eq_some {α : Type} {input gap rest : List Char} {c : Char}
    {read : Parsed α input} (split : read.rest = gap ++ c :: rest) (gapped : Gap gap)
    (stops : isGap c = false) : ∃ shorter, read.next? = some ⟨c, rest, shorter⟩ := by
  obtain ⟨less, found⟩ := Line.next?_eq_some split gapped stops
  exact ⟨Nat.lt_trans less read.shorter, by rw [Parsed.next?, found]; rfl⟩

/-! ## Escapes -/

/-- A hexadecimal digit is less than sixteen. -/
theorem hexDigit?_lt {c : Char} {value : Nat} (found : hexDigit? c = some value) : value < 16 := by
  have bound {low high : Char} (within : (low ≤ c && c ≤ high) = true) :
      low.toNat ≤ c.toNat ∧ c.toNat ≤ high.toNat := by
    simpa [Char.le_def, UInt32.le_iff_toNat_le] using within
  unfold hexDigit? at found
  split at found
  · next within =>
    obtain ⟨-, upper⟩ := bound within
    cases found
    have nine : '9'.toNat = 57 := rfl
    have zero : '0'.toNat = 48 := rfl
    omega
  · split at found
    · next within =>
      obtain ⟨-, upper⟩ := bound within
      cases found
      have first : 'a'.toNat = 97 := rfl
      have last : 'f'.toNat = 102 := rfl
      omega
    · split at found
      · next within =>
        obtain ⟨-, upper⟩ := bound within
        cases found
        have first : 'A'.toNat = 65 := rfl
        have last : 'F'.toNat = 70 := rfl
        omega
      · cases found

/-- Four hexadecimal digits spell a sixteen-bit unit. -/
theorem codeUnit?_lt {first second third fourth : Char} {unit : Nat}
    (spelt : codeUnit? first second third fourth = some unit) : unit < 0x10000 := by
  simp only [codeUnit?, bind, Option.bind_eq_some_iff, pure, Option.some.injEq] at spelt
  obtain ⟨a, isA, b, isB, c, isC, d, isD, rfl⟩ := spelt
  have := hexDigit?_lt isA
  have := hexDigit?_lt isB
  have := hexDigit?_lt isC
  have := hexDigit?_lt isD
  omega

/-- Four hexadecimal digits are read as what they spell. -/
theorem codeUnit_eq_ok {input : List Char} {read : Parsed Nat input}
    (found : codeUnit input = .ok read) : ∃ first second third fourth,
      input = first :: second :: third :: fourth :: read.rest ∧
        codeUnit? first second third fourth = some read.value := by
  unfold codeUnit at found
  split at found
  · next first second third fourth rest =>
    split at found
    · next unit spelt =>
      cases found
      exact ⟨first, second, third, fourth, rfl, spelt⟩
    · cases found
  · cases found

/-- Four digits that spell a unit are read in front of whatever comes behind them. -/
theorem codeUnit_append {first second third fourth : Char} {unit : Nat} (rest : List Char)
    (spelt : codeUnit? first second third fourth = some unit) :
    ∃ shorter, codeUnit (first :: second :: third :: fourth :: rest) =
      .ok ⟨unit, rest, shorter⟩ := by
  refine ⟨by simp; omega, ?_⟩
  simp only [codeUnit, spelt]
  rfl

/-- The first half of a surrogate pair, read as a number. -/
theorem isHighSurrogate_iff {unit : Nat} :
    isHighSurrogate unit = true ↔ 0xD800 ≤ unit ∧ unit ≤ 0xDBFF := by
  simp [isHighSurrogate]

/-- The second half of a surrogate pair, read as a number. -/
theorem isLowSurrogate_iff {unit : Nat} :
    isLowSurrogate unit = true ↔ 0xDC00 ≤ unit ∧ unit ≤ 0xDFFF := by
  simp [isLowSurrogate]

/-- The number of a character that is no surrogate. -/
theorem toNat_ofNat {unit : Nat} (small : unit < 0x10000) (notHigh : ¬ isHighSurrogate unit = true)
    (notLow : ¬ isLowSurrogate unit = true) : (Char.ofNat unit).toNat = unit := by
  rw [isHighSurrogate_iff] at notHigh
  rw [isLowSurrogate_iff] at notLow
  refine Text.Utf8.toNat_ofNat_of_isValidChar unit ?_
  unfold Nat.isValidChar
  omega

/-- The number of a character that two surrogates spell. -/
theorem toNat_joinSurrogates {high low : Nat} (isHigh : 0xD800 ≤ high ∧ high ≤ 0xDBFF)
    (isLow : 0xDC00 ≤ low ∧ low ≤ 0xDFFF) :
    (joinSurrogates high low).toNat = 0x10000 + (high - 0xD800) * 0x400 + (low - 0xDC00) := by
  refine Text.Utf8.toNat_ofNat_of_isValidChar _ ?_
  unfold Nat.isValidChar
  omega

/-- The second half of a surrogate pair is an escape of its own. -/
theorem secondHalf_eq_ok {high : Nat} {input : List Char} {read : Parsed Char input}
    (found : secondHalf high input = .ok read) : ∃ first second third fourth low,
      input = '\\' :: 'u' :: first :: second :: third :: fourth :: read.rest ∧
        codeUnit? first second third fourth = some low ∧ (0xDC00 ≤ low ∧ low ≤ 0xDFFF) ∧
          read.value = joinSurrogates high low := by
  unfold secondHalf at found
  split at found
  · next digits =>
    obtain ⟨low, readLow, ending⟩ := bind_eq_ok.mp found
    obtain ⟨first, second, third, fourth, same, spelt⟩ := codeUnit_eq_ok readLow
    split at ending
    · next isLow =>
      obtain rfl := Except.ok.inj ending
      refine ⟨first, second, third, fourth, low.value,
        congrArg (fun rest => '\\' :: 'u' :: rest) same, spelt, isLowSurrogate_iff.mp isLow, ?_⟩
      simp only [Parsed.behind, Parsed.map]
    · cases ending
  all_goals cases found

/-- What is read behind a backslash spells a character together with it. -/
theorem escape_eq_ok {input : List Char} {read : Parsed Char input}
    (found : escape input = .ok read) :
    ∃ piece, input = piece ++ read.rest ∧ Spells ('\\' :: piece) read.value := by
  unfold escape at found
  split at found
  · cases found
  · next digits =>
    obtain ⟨unit, readUnit, ending⟩ := bind_eq_ok.mp found
    obtain ⟨first, second, third, fourth, same, spelt⟩ := codeUnit_eq_ok readUnit
    split at ending
    · cases ending
    · next notLow =>
      split at ending
      · next isHigh =>
        obtain ⟨low, readLow, ending⟩ := bind_eq_ok.mp ending
        obtain ⟨fifth, sixth, seventh, eighth, number, sameLow, lowSpelt, isLow, value⟩ :=
          secondHalf_eq_ok readLow
        cases ending
        rw [isHighSurrogate_iff] at isHigh
        refine ⟨['u', first, second, third, fourth, '\\', 'u', fifth, sixth, seventh, eighth],
          ?_, ?_⟩
        · rw [sameLow] at same
          exact congrArg ('u' :: ·) same
        · refine .pair spelt lowSpelt isHigh isLow ?_
          have joined := toNat_joinSurrogates isHigh isLow
          rw [← value] at joined
          exact joined
      · next notHigh =>
        cases ending
        refine ⟨['u', first, second, third, fourth], congrArg ('u' :: ·) same, .unit ?_⟩
        have number := toNat_ofNat (codeUnit?_lt spelt) notHigh notLow
        exact spelt.trans (congrArg some number.symm)
  · next c rest _ =>
    split at found
    · next escaped known =>
      cases found
      exact ⟨[c], rfl, .short known⟩
    · cases found

/-- The number of a character is no surrogate. -/
theorem not_isSurrogate (c : Char) :
    ¬ isHighSurrogate c.toNat = true ∧ ¬ isLowSurrogate c.toNat = true := by
  rw [isHighSurrogate_iff, isLowSurrogate_iff]
  have valid : c.toNat.isValidChar := c.valid
  unfold Nat.isValidChar at valid
  omega

/-- A character is known by its number. -/
theorem char_eq_of_toNat_eq {left right : Char} (same : left.toNat = right.toNat) :
    left = right := by
  rw [← Char.ofNat_toNat left, same, Char.ofNat_toNat]

/-- The escape of a second half is read, and joined with the first half. -/
theorem secondHalf_append {first second third fourth : Char} {low : Nat} (high : Nat)
    (rest : List Char) (spelt : codeUnit? first second third fourth = some low)
    (isLow : 0xDC00 ≤ low ∧ low ≤ 0xDFFF) : ∃ shorter,
      secondHalf high ('\\' :: 'u' :: first :: second :: third :: fourth :: rest) =
        .ok ⟨joinSurrogates high low, rest, shorter⟩ := by
  obtain ⟨shorter, readLow⟩ := codeUnit_append rest spelt
  refine ⟨by simp; omega, ?_⟩
  rw [secondHalf.eq_1, readLow]
  simp only [bind, Except.bind]
  rw [if_pos (isLowSurrogate_iff.mpr isLow)]
  simp only [Parsed.behind, Parsed.map]

/-- An escape that spells a character is read as this character. -/
theorem escape_append {piece : List Char} {c : Char} (spells : Spells ('\\' :: piece) c)
    (rest : List Char) : ∃ shorter, escape (piece ++ rest) = .ok ⟨c, rest, shorter⟩ := by
  generalize whole : '\\' :: piece = escaped at spells
  cases spells with
  | plain _ _ notBackslash =>
      obtain ⟨rfl, -⟩ := List.cons.inj whole
      exact absurd rfl notBackslash
  | @short letter _ known =>
      obtain ⟨-, rfl⟩ := List.cons.inj whole
      have notUnit : letter ≠ 'u' := by
        rintro rfl
        cases known
      refine ⟨Nat.lt_succ_self _, ?_⟩
      change escape (letter :: rest) = _
      rw [escape.eq_3 _ _ notUnit]
      simp only [known]
      rfl
  | @unit first second third fourth _ spelt =>
      obtain ⟨-, rfl⟩ := List.cons.inj whole
      obtain ⟨shorter, readUnit⟩ := codeUnit_append rest spelt
      obtain ⟨notHigh, notLow⟩ := not_isSurrogate c
      refine ⟨by simp; omega, ?_⟩
      change escape ('u' :: first :: second :: third :: fourth :: rest) = _
      rw [escape.eq_2, readUnit]
      simp only [bind, Except.bind]
      rw [if_neg notLow, if_neg notHigh]
      simp only [Parsed.behind, Parsed.map, Char.ofNat_toNat]
  | @pair first second third fourth fifth sixth seventh eighth _ high low highSpelt lowSpelt isHigh
      isLow joined =>
      obtain ⟨-, rfl⟩ := List.cons.inj whole
      obtain ⟨shorter, readHigh⟩ := codeUnit_append
        ('\\' :: 'u' :: fifth :: sixth :: seventh :: eighth :: rest) highSpelt
      obtain ⟨shorterLow, readLow⟩ := secondHalf_append high rest lowSpelt isLow
      have notLow : ¬ isLowSurrogate high = true := by
        rw [isLowSurrogate_iff]
        omega
      have same : joinSurrogates high low = c :=
        char_eq_of_toNat_eq ((toNat_joinSurrogates isHigh isLow).trans joined.symm)
      refine ⟨by simp; omega, ?_⟩
      change escape ('u' :: first :: second :: third :: fourth :: '\\' :: 'u' :: fifth :: sixth ::
        seventh :: eighth :: rest) = _
      rw [escape.eq_2, readHigh]
      simp only [bind, Except.bind]
      rw [if_neg notLow, if_pos (isHighSurrogate_iff.mpr isHigh), readLow]
      simp only [Parsed.behind, Parsed.andThen, same]

/-! ## Strings -/

/-- What is read as a string is the inside of a string and a quote. -/
theorem string_eq_ok {whole reversed input : List Char} {within : input.length < whole.length}
    {read : Parsed String whole} (found : string whole reversed input within = .ok read) :
    ∃ text chars, StringText text chars ∧ input = text ++ '"' :: read.rest ∧
      read.value = String.ofList (reversed.reverse ++ chars) := by
  fun_induction string whole reversed input within with
  | case1 reversed => cases found
  | case2 reversed rest within =>
      obtain rfl := Except.ok.inj found
      exact ⟨[], [], .nil, rfl, by simp⟩
  | case3 reversed rest within _ _ inductionHypothesis =>
      obtain ⟨escaped, readEscaped, readOthers⟩ := bind_eq_ok.mp found
      obtain ⟨piece, same, spells⟩ := escape_eq_ok readEscaped
      obtain ⟨text, chars, others, sameOthers, value⟩ := inductionHypothesis escaped readOthers
      refine ⟨'\\' :: piece ++ text, escaped.value :: chars, .cons spells others, ?_, ?_⟩
      · rw [same, sameOthers]
        simp
      · rw [value]
        simp
  | case4 => cases found
  | case5 reversed c rest within notQuote notBackslash printable _ inductionHypothesis =>
      obtain ⟨text, chars, others, same, value⟩ := inductionHypothesis found
      refine ⟨[c] ++ text, c :: chars, .cons (.plain ?_ notQuote notBackslash) others, ?_, ?_⟩
      · omega
      · rw [same]
        rfl
      · rw [value]
        simp

/-- A piece of a string is read as the character that it spells. -/
theorem string_spells {piece whole input rest : List Char} {c : Char} (reversed : List Char)
    (spells : Spells piece c) (same : input = piece ++ rest)
    (within : input.length < whole.length) : ∃ restWithin,
      string whole reversed input within = string whole (c :: reversed) rest restWithin := by
  subst same
  have shorter : rest.length < whole.length := by
    simp at within
    omega
  refine ⟨shorter, ?_⟩
  have escaped {others : List Char} (same : piece = '\\' :: others) :
      string whole reversed (piece ++ rest) within = string whole (c :: reversed) rest shorter := by
    subst same
    obtain ⟨less, readEscape⟩ := escape_append spells rest
    simp only [List.cons_append]
    rw [string.eq_def]
    simp only [Char.reduceEq, ↓reduceIte, readEscape]
    rfl
  cases spells with
  | plain printable notQuote notBackslash =>
      have plain : ¬ c.toNat < 0x20 := by omega
      simp only [List.cons_append, List.nil_append]
      rw [string.eq_def]
      simp only [notQuote, notBackslash, plain, ↓reduceIte]
  | short => exact escaped rfl
  | unit => exact escaped rfl
  | pair => exact escaped rfl

/-- The inside of a string is read up to its quote. -/
theorem string_append {text chars : List Char} (inside : StringText text chars)
    (whole reversed rest : List Char)
    (within : (text ++ '"' :: rest).length < whole.length) : ∃ shorter,
      string whole reversed (text ++ '"' :: rest) within =
        .ok ⟨String.ofList (reversed.reverse ++ chars), rest, shorter⟩ := by
  induction inside generalizing reversed with
  | nil =>
      refine ⟨length_lt_of_cons within, ?_⟩
      change string whole reversed ('"' :: rest) within = _
      rw [string.eq_def]
      simp
  | @cons piece others c chars spells _ inductionHypothesis =>
      obtain ⟨othersWithin, step⟩ := string_spells reversed spells
        (List.append_assoc piece others ('"' :: rest)) within
      obtain ⟨shorter, readOthers⟩ := inductionHypothesis (c :: reversed) othersWithin
      refine ⟨shorter, ?_⟩
      rw [step, readOthers]
      simp

end LintClient.Json.Line
