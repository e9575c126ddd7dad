import LintClient.Proofs.Json.Line.Grammar
import LintClient.Proofs.Json.Line.Numbers
import LintClient.Proofs.Text.Pieces
import LintClient.Protocol.Integer
import Mathlib.Data.List.TakeDrop

/-!
# Integers in texts

Which texts spell an integer, said without a reader (`integerOfText_eq_ok_iff`). Beyond blanks and a
sign these are leading zeros, which may be mixed with underscores, single underscores between the
digits and a fraction of zeros. A minus sign may also stand behind the leading zeros.
-/

namespace LintClient.Protocol

open Text
open Json.Line (Digits NoDigit WholeDigits ne_of_isAsciiDigit)

/-! ## The parts of a text -/

/-- Digits, with single underscores between them, and the digits alone. -/
inductive Grouped : List Char → List Char → Prop where
  | last {c : Char} (digit : isAsciiDigit c = true) : Grouped [c] [c]
  | next {c : Char} {text digits : List Char} (digit : isAsciiDigit c = true)
      (others : Grouped text digits) : Grouped (c :: text) (c :: digits)
  | apart {c : Char} {text digits : List Char} (digit : isAsciiDigit c = true)
      (others : Grouped text digits) : Grouped (c :: '_' :: text) (c :: digits)

/-- Leading zeros, which may be absent, with underscores among and behind them. -/
structure LeadingZeros (text : List Char) : Prop where
  starts : ∀ c ∈ text.head?, c = '0'
  zeros : ∀ c ∈ text, c = '0' ∨ c = '_'

/-- A fraction of zeros, which may be absent. -/
inductive ZeroFraction : List Char → Prop where
  | absent : ZeroFraction []
  | point {zeros : List Char} (nonempty : zeros ≠ []) (allZeros : ∀ c ∈ zeros, c = '0') :
      ZeroFraction ('.' :: zeros)

/-- What stands between a sign and a fraction: whether there is another minus sign in it, and its
digits without leading zeros. -/
inductive Magnitude : List Char → Bool → List Char → Prop where
  | zero {zeros : List Char} (leading : LeadingZeros zeros) : Magnitude (zeros ++ ['0']) false ['0']
  | number {zeros text digits : List Char} (leading : LeadingZeros zeros)
      (grouped : Grouped text digits) (plain : digits.head? ≠ some '0') :
      Magnitude (zeros ++ text) false digits
  | behindMinus {zeros gap text digits : List Char} (leading : LeadingZeros zeros)
      (present : zeros ≠ []) (isGap : gap = [] ∨ gap = ['_']) (grouped : Grouped text digits)
      (plain : digits = ['0'] ∨ digits.head? ≠ some '0') :
      Magnitude (zeros ++ '-' :: (gap ++ text)) true digits

/-- A text that spells an integer. -/
inductive IntegerText : List Char → Int → Prop where
  | spells {before sign text fraction after digits : List Char} {minus : Bool}
      (isBefore : ∀ c ∈ before, isWhiteSpace c = true)
      (isSign : sign = [] ∨ sign = ['+'] ∨ sign = ['-']) (magnitude : Magnitude text minus digits)
      (once : sign = ['-'] → minus = false) (isFraction : ZeroFraction fraction)
      (isAfter : ∀ c ∈ after, isWhiteSpace c = true) (short : digits.length ≤ Numeral.digitLimit) :
      IntegerText (before ++ (sign ++ (text ++ fraction) ++ after))
        (Numeral.toInt ⟨minus || decide (sign = ['-']), digits, none, none⟩)

/-! ## Plain integers -/

/-- Only the number zero starts with a zero. -/
theorem plain_iff {digits : List Char} : (∀ rest, digits = '0' :: rest → rest = []) ↔
    digits = ['0'] ∨ digits.head? ≠ some '0' := by
  cases digits with
  | nil => simp
  | cons c others =>
      by_cases zero : c = '0'
      · simp [zero]
      · simp [zero]

/-- A sign in front of digits. -/
def signed (negative : Bool) (digits : List Char) : List Char :=
  if negative then '-' :: digits else digits

/-- A minus sign is cut off, if there is one in front of a text without a second one. -/
theorem cutMinus_signed {text : List Char} (negative : Bool) (front : text.head? ≠ some '-') :
    cutMinus (signed negative text) = (negative, text) := by
  cases negative with
  | true => rfl
  | false =>
      rw [signed, if_neg Bool.false_ne_true]
      unfold cutMinus
      split
      · exact absurd rfl front
      · rfl

/-- A plain integer is written with its sign and its digits. -/
theorem plainInteger?_eq_some_iff {text : List Char} {number : Int} :
    plainInteger? text = some number ↔ ∃ negative digits, text = signed negative digits ∧
      WholeDigits (some Numeral.digitLimit) digits ∧
        number = Numeral.toInt ⟨negative, digits, none, none⟩ := by
  constructor
  · intro found
    unfold plainInteger? at found
    have joined : text = signed (cutMinus text).1 (cutMinus text).2 := by
      unfold cutMinus
      split <;> rfl
    generalize cutMinus text = parts at found joined
    obtain ⟨negative, digits⟩ := parts
    simp only [Option.ite_none_right_eq_some, Bool.and_eq_true, Option.some.injEq] at found
    obtain ⟨⟨⟨plain, allDigits⟩, short⟩, rfl⟩ := found
    refine ⟨negative, digits, joined,
      ⟨⟨?_, List.all_eq_true.mp allDigits⟩, plain_iff.mpr ?_, ?_⟩, rfl⟩
    · rintro rfl
      simp at plain
    · rcases Bool.or_eq_true_iff.mp plain with zero | other
      · exact .inl (of_decide_eq_true zero)
      · exact .inr (of_decide_eq_true (Bool.and_eq_true_iff.mp other).2)
    · rintro limit known
      obtain rfl := Option.some.inj known
      simpa using short
  · rintro ⟨negative, digits, rfl, isWhole, rfl⟩
    have front : digits.head? ≠ some '-' := by
      intro same
      cases isWhole.digits '-' (List.mem_of_head? same)
    have allDigits := List.all_eq_true.mpr isWhole.digits
    have short : digits.length ≤ Numeral.digitLimit := isWhole.within _ rfl
    have plain : (decide (digits = ['0']) ||
        (!digits.isEmpty && decide (digits.head? ≠ some '0'))) = true := by
      rcases plain_iff.mp isWhole.plain with zero | other
      · simp [zero]
      · simp [other, isWhole.nonempty]
    simp only [plainInteger?, cutMinus_signed negative front, allDigits, short, plain, decide_true,
      Bool.and_true, if_true]

/-! ## Underscores -/

/-- A group starts with a digit. -/
theorem Grouped.starts {text digits : List Char} (grouped : Grouped text digits) :
    ∃ c rest others, text = c :: rest ∧ digits = c :: others ∧ isAsciiDigit c = true := by
  cases grouped with
  | last digit => exact ⟨_, _, _, rfl, rfl, digit⟩
  | next digit => exact ⟨_, _, _, rfl, rfl, digit⟩
  | apart digit => exact ⟨_, _, _, rfl, rfl, digit⟩

/-- Without the underscores between them, grouped digits are digits. -/
theorem Grouped.digits {text digits : List Char} (grouped : Grouped text digits) :
    Digits digits := by
  refine ⟨?_, ?_⟩
  · cases grouped <;> exact List.cons_ne_nil _ _
  · induction grouped with
    | last digit => simpa using digit
    | next digit _ inductionHypothesis => simpa [digit] using inductionHypothesis
    | apart digit _ inductionHypothesis => simpa [digit] using inductionHypothesis

/-- Grouped digits are made of digits and underscores. -/
theorem Grouped.chars {text digits : List Char} (grouped : Grouped text digits) :
    ∀ c ∈ text, isAsciiDigit c = true ∨ c = '_' := by
  induction grouped with
  | last digit => simpa using .inl digit
  | next digit _ inductionHypothesis => simpa [digit] using inductionHypothesis
  | apart digit _ inductionHypothesis => simpa [digit] using inductionHypothesis

/-- A character that is no underscore does not matter for underscores that stand alone. -/
theorem underscoresStandAlone_cons {c : Char} (other : c ≠ '_') (text : List Char) :
    underscoresStandAlone (c :: text) = underscoresStandAlone text := by
  rw [underscoresStandAlone]
  intro rest same
  exact absurd same other

/-- Underscores in a group stand alone and not at its end, and the rest of it are its digits. -/
theorem Grouped.underscores {text digits : List Char} (grouped : Grouped text digits) :
    text.getLast? ≠ some '_' ∧ underscoresStandAlone text = true ∧
      text.filter (· ≠ '_') = digits := by
  have other {c : Char} (digit : isAsciiDigit c = true) : c ≠ '_' := ne_of_isAsciiDigit digit rfl
  induction grouped with
  | last digit => simp [other digit, underscoresStandAlone]
  | @next c text digits digit others inductionHypothesis =>
      obtain ⟨last, alone, rest⟩ := inductionHypothesis
      obtain ⟨d, later, _, rfl, -, -⟩ := others.starts
      refine ⟨?_, ?_, ?_⟩
      · rwa [List.getLast?_cons_cons]
      · rwa [underscoresStandAlone_cons (other digit)]
      · rw [List.filter_cons_of_pos (by simp [other digit]), rest]
  | @apart c text digits digit others inductionHypothesis =>
      obtain ⟨last, alone, rest⟩ := inductionHypothesis
      obtain ⟨d, later, _, rfl, -, isDigit⟩ := others.starts
      refine ⟨?_, ?_, ?_⟩
      · rwa [List.getLast?_cons_cons, List.getLast?_cons_cons]
      · rw [underscoresStandAlone_cons (other digit), underscoresStandAlone, alone]
        rintro next - same
        exact absurd (List.cons.inj same).1 (other isDigit)
      · rw [List.filter_cons_of_pos (by simp [other digit]),
          List.filter_cons_of_neg (by simp), rest]

/-- Underscores that stand alone and not at the end make a group of the digits between them, perhaps
behind another underscore. -/
theorem grouped_of_underscores {text : List Char} (nonempty : text ≠ [])
    (last : text.getLast? ≠ some '_') (alone : underscoresStandAlone text = true)
    (digits : ∀ c ∈ text.filter (· ≠ '_'), isAsciiDigit c = true) :
    ∃ gap body, text = gap ++ body ∧ (gap = [] ∨ gap = ['_']) ∧
      Grouped body (text.filter (· ≠ '_')) := by
  induction text with
  | nil => exact absurd rfl nonempty
  | cons c text inductionHypothesis =>
      by_cases underscore : c = '_'
      · subst underscore
        rw [List.filter_cons_of_neg (by simp)] at digits ⊢
        cases text with
        | nil => simp at last
        | cons d text =>
            have notUnderscore : d ≠ '_' := by
              rintro rfl
              simp [underscoresStandAlone] at alone
            rw [List.getLast?_cons_cons] at last
            rw [underscoresStandAlone] at alone
            · obtain ⟨gap, body, split, isGap, grouped⟩ :=
                inductionHypothesis (List.cons_ne_nil d text) last alone digits
              rcases isGap with rfl | rfl
              · exact ⟨['_'], body, by rw [split]; rfl, .inr rfl, grouped⟩
              · exact absurd (List.cons.inj split).1 notUnderscore
            · rintro rest - same
              exact absurd (List.cons.inj same).1 notUnderscore
      · rw [List.filter_cons_of_pos (by simp [underscore])] at digits ⊢
        obtain ⟨digit, others⟩ := List.forall_mem_cons.mp digits
        cases text with
        | nil => exact ⟨[], [c], rfl, .inl rfl, .last digit⟩
        | cons d text =>
            rw [List.getLast?_cons_cons] at last
            rw [underscoresStandAlone_cons underscore] at alone
            obtain ⟨gap, body, split, isGap, grouped⟩ :=
              inductionHypothesis (List.cons_ne_nil d text) last alone others
            rw [split]
            rcases isGap with rfl | rfl
            · exact ⟨[], c :: body, rfl, .inl rfl, .next digit (split ▸ grouped)⟩
            · exact ⟨[], c :: '_' :: body, rfl, .inl rfl, .apart digit (split ▸ grouped)⟩

/-- Grouped digits that may follow a minus sign, perhaps with an underscore behind it. -/
inductive SignedGroups : Bool → List Char → List Char → Prop where
  | plain {number digits : List Char} (grouped : Grouped number digits) :
      SignedGroups false number digits
  | minus {gap body digits : List Char} (isGap : gap = [] ∨ gap = ['_'])
      (grouped : Grouped body digits) : SignedGroups true ('-' :: (gap ++ body)) digits

/-- There is no point in grouped digits. -/
theorem SignedGroups.noPoint {negative : Bool} {number digits : List Char}
    (groups : SignedGroups negative number digits) : '.' ∉ number := by
  have noPoint {text : List Char} (grouped : Grouped text digits) : '.' ∉ text := by
    intro there
    rcases grouped.chars '.' there with digit | underscore
    · cases digit
    · cases underscore
  cases groups with
  | plain grouped => exact noPoint grouped
  | minus isGap grouped => rcases isGap with rfl | rfl <;> simpa using noPoint grouped

/-- Where there are no underscores, all of them stand alone. -/
theorem underscoresStandAlone_of_notMem {text : List Char} (absent : '_' ∉ text) :
    underscoresStandAlone text = true := by
  induction text with
  | nil => rfl
  | cons c text inductionHypothesis =>
      rw [List.mem_cons, not_or] at absent
      rw [underscoresStandAlone_cons (Ne.symm absent.1), inductionHypothesis absent.2]

/-- Underscores that stand alone inside a number are dropped. -/
theorem withoutUnderscores_eq_filter {number : List Char} (front : number.head? ≠ some '_')
    (last : number.getLast? ≠ some '_') (alone : underscoresStandAlone number = true) :
    withoutUnderscores number = number.filter (· ≠ '_') := by
  simp [withoutUnderscores, front, last, alone]

/-- Underscores are dropped, unless they stand side by side or at an end. -/
theorem withoutUnderscores_cases (number : List Char) :
    (number.head? ≠ some '_' ∧ number.getLast? ≠ some '_' ∧ underscoresStandAlone number = true ∧
      withoutUnderscores number = number.filter (· ≠ '_')) ∨
    ('_' ∈ number ∧ withoutUnderscores number = number) := by
  by_cases front : number.head? = some '_'
  · exact .inr ⟨List.mem_of_head? front, by simp [withoutUnderscores, front]⟩
  · by_cases last : number.getLast? = some '_'
    · exact .inr ⟨List.mem_of_getLast? last, by simp [withoutUnderscores, last]⟩
    · cases alone : underscoresStandAlone number with
      | true => exact .inl ⟨front, last, rfl, withoutUnderscores_eq_filter front last alone⟩
      | false =>
          refine .inr ⟨?_, by simp [withoutUnderscores, alone]⟩
          by_contra absent
          cases alone.symm.trans (underscoresStandAlone_of_notMem absent)

/-- What is left of a number without its underscores are a sign and digits if these are grouped. -/
theorem withoutUnderscores_eq_signed_iff {negative : Bool} {number digits : List Char}
    (isDigits : Digits digits) :
    withoutUnderscores number = signed negative digits ↔ SignedGroups negative number digits := by
  have noUnderscore : '_' ∉ signed negative digits := by
    have inDigits : '_' ∉ digits := fun there =>
      absurd rfl (ne_of_isAsciiDigit (isDigits.digits '_' there) (rfl : isAsciiDigit '_' = false))
    cases negative <;> simp [signed, inDigits]
  constructor
  · intro same
    rcases withoutUnderscores_cases number with ⟨front, last, alone, filtered⟩ | ⟨there, kept⟩
    · rw [same] at filtered
      cases negative with
      | false =>
          have rest : digits = number.filter (· ≠ '_') := filtered
          have nonempty : number ≠ [] := by
            rintro rfl
            exact isDigits.nonempty rest
          obtain ⟨gap, body, split, isGap, grouped⟩ :=
            grouped_of_underscores nonempty last alone (rest ▸ isDigits.digits)
          rw [← rest] at grouped
          rcases isGap with rfl | rfl
          · exact .plain (split ▸ grouped)
          · rw [split] at front
            exact absurd rfl front
      | true =>
          have rest : '-' :: digits = number.filter (· ≠ '_') := filtered
          cases number with
          | nil => cases rest
          | cons c text =>
              have notUnderscore : c ≠ '_' := fun same => front (congrArg some same)
              rw [List.filter_cons_of_pos (by simp [notUnderscore])] at rest
              obtain ⟨rfl, inner⟩ := List.cons.inj rest
              have nonempty : text ≠ [] := by
                rintro rfl
                exact isDigits.nonempty inner
              obtain ⟨d, others, rfl⟩ := List.exists_cons_of_ne_nil nonempty
              rw [List.getLast?_cons_cons] at last
              rw [underscoresStandAlone_cons notUnderscore] at alone
              obtain ⟨gap, body, split, isGap, grouped⟩ :=
                grouped_of_underscores nonempty last alone (inner ▸ isDigits.digits)
              rw [split]
              exact .minus isGap (inner ▸ split ▸ grouped)
    · rw [← same, kept] at noUnderscore
      exact absurd there noUnderscore
  · intro groups
    cases groups with
    | plain grouped =>
        obtain ⟨last, alone, rest⟩ := grouped.underscores
        obtain ⟨c, others, _, starts, -, digit⟩ := grouped.starts
        have front : number.head? ≠ some '_' := by
          rw [starts]
          exact fun same => ne_of_isAsciiDigit digit rfl (Option.some.inj same)
        exact (withoutUnderscores_eq_filter front last alone).trans rest
    | @minus gap body digits isGap grouped =>
        obtain ⟨last, alone, rest⟩ := grouped.underscores
        obtain ⟨c, others, _, rfl, -, digit⟩ := grouped.starts
        have notUnderscore : c ≠ '_' := ne_of_isAsciiDigit digit rfl
        have front : ('-' :: (gap ++ c :: others)).head? ≠ some '_' := by simp
        have lastToo : ('-' :: (gap ++ c :: others)).getLast? ≠ some '_' := by
          rcases isGap with rfl | rfl <;> simpa using last
        have aloneToo : underscoresStandAlone ('-' :: (gap ++ c :: others)) = true := by
          rw [underscoresStandAlone_cons (by decide)]
          rcases isGap with rfl | rfl
          · exact alone
          · rw [List.singleton_append, underscoresStandAlone, alone]
            rintro next - same
            exact notUnderscore (List.cons.inj same).1
        rw [withoutUnderscores_eq_filter front lastToo aloneToo, signed, if_pos rfl,
          List.filter_cons_of_pos (by decide), List.filter_append, rest]
        rcases isGap with rfl | rfl <;> rfl

/-! ## Fractions -/

/-- What is left of a number without its fraction is what stands before a fraction of zeros. -/
theorem withoutFraction_eq_iff {number whole : List Char} (noPoint : '.' ∉ whole) :
    withoutFraction number = whole ↔
      ∃ fraction, number = whole ++ fraction ∧ ZeroFraction fraction := by
  simp only [withoutFraction, List.span_eq_takeWhile_dropWhile]
  constructor
  · intro same
    split at same
    · next zeros =>
      subst same
      refine ⟨number.dropWhile (· ≠ '.'), List.takeWhile_append_dropWhile.symm, ?_⟩
      cases behind : number.dropWhile (· ≠ '.') with
      | nil =>
          rw [behind] at zeros
          simp at zeros
      | cons c others =>
          obtain rfl : c = '.' := by simpa using eq_false_of_dropWhile_eq_cons behind
          rw [behind] at zeros
          refine .point ?_ ?_
          · rintro rfl
            simp at zeros
          · simpa using (Bool.and_eq_true_iff.mp zeros).2
    · exact ⟨[], by rw [same, List.append_nil], .absent⟩
  · rintro ⟨fraction, rfl, isFraction⟩
    have passes : ∀ c ∈ whole, decide (c ≠ '.') = true := by
      intro c there
      simpa using fun same : c = '.' => noPoint (same ▸ there)
    rw [List.takeWhile_append_of_pos passes, List.dropWhile_append_of_pos passes]
    cases isFraction with
    | absent => simp
    | @point zeros nonempty allZeros =>
        have long : 1 ≤ zeros.length := List.length_pos_of_ne_nil nonempty
        simpa [long] using allZeros

/-- A fraction starts with its point, unless it is absent. -/
theorem ZeroFraction.starts {text : List Char} (isFraction : ZeroFraction text) :
    ∀ c ∈ text.head?, c = '.' := by
  cases isFraction with
  | absent => simp
  | point => simp

/-- What is left of a number without its fraction and its underscores are a sign and digits if these
are grouped in front of a fraction of zeros. -/
theorem withoutUnderscores_withoutFraction_eq_signed_iff {negative : Bool}
    {number digits : List Char} (isDigits : Digits digits) :
    withoutUnderscores (withoutFraction number) = signed negative digits ↔
      ∃ whole fraction, number = whole ++ fraction ∧ ZeroFraction fraction ∧
        SignedGroups negative whole digits := by
  rw [withoutUnderscores_eq_signed_iff isDigits]
  constructor
  · intro groups
    obtain ⟨fraction, split, isFraction⟩ := (withoutFraction_eq_iff groups.noPoint).mp rfl
    exact ⟨_, fraction, split, isFraction, groups⟩
  · rintro ⟨whole, fraction, split, isFraction, groups⟩
    rwa [(withoutFraction_eq_iff groups.noPoint).mpr ⟨fraction, split, isFraction⟩]

/-! ## Leading zeros -/

/-- Another zero may follow leading zeros. -/
theorem LeadingZeros.concat {text : List Char} (leading : LeadingZeros text) :
    LeadingZeros (text ++ ['0']) := by
  refine ⟨?_, ?_⟩
  · cases text with
    | nil => simp
    | cons c text => simpa using leading.starts
  · intro c there
    rcases List.mem_append.mp there with before | last
    · exact leading.zeros c before
    · exact .inl (List.mem_singleton.mp last)

/-- The last of leading zeros may be left out. -/
theorem LeadingZeros.of_concat {text : List Char} {last : Char}
    (leading : LeadingZeros (text ++ [last])) : LeadingZeros text := by
  refine ⟨?_, fun c there => leading.zeros c (List.mem_append_left _ there)⟩
  cases text with
  | nil => simp
  | cons c text => simpa using leading.starts

/-- Zeros and underscores are passed, and the last of them is kept in mind. -/
theorem behindZeros?_append (last : Char) {zeros : List Char}
    (allZeros : ∀ c ∈ zeros, c = '0' ∨ c = '_') (body : List Char) :
    behindZeros? last (zeros ++ body) = behindZeros? (zeros.getLastD last) body := by
  induction zeros generalizing last with
  | nil => rfl
  | cons c zeros inductionHypothesis =>
      obtain ⟨first, others⟩ := List.forall_mem_cons.mp allZeros
      rw [List.cons_append, behindZeros?, if_pos (by simpa using first),
        inductionHypothesis c others, List.getLastD_cons]

/-- The parts of a number that starts with a digit: leading zeros, a body and what remains of the
number without the zeros. -/
inductive Leading : List Char → List Char → List Char → Prop where
  /-- The body starts with another digit. -/
  | digit {zeros rest : List Char} {c : Char} (digit : isAsciiDigit c = true) (notZero : c ≠ '0') :
      Leading zeros (c :: rest) (c :: rest)
  /-- The body starts with a minus sign. -/
  | minus {zeros rest : List Char} (present : zeros ≠ []) :
    Leading zeros ('-' :: rest) ('-' :: rest)
  /-- The body is a fraction or empty, and the last of the zeros remains. -/
  | fraction {zeros body : List Char} {last : Char} (kept : zeros.getLast? = some last)
      (ends : ∀ c ∈ body.head?, c = '.') : Leading zeros body (last :: body)

/-- What remains does not depend on the zeros in front of the last. -/
theorem Leading.cons {zeros body number : List Char} {c : Char} (front : Char)
    (parts : Leading (c :: zeros) body number) : Leading (front :: c :: zeros) body number := by
  cases parts with
  | digit digit notZero => exact .digit digit notZero
  | minus => exact .minus (List.cons_ne_nil _ _)
  | fraction kept ends => exact .fraction (by rwa [List.getLast?_cons_cons]) ends

/-- Behind zeros stands one of the bodies of a number. -/
theorem behindZeros?_eq_some {last : Char} {input number : List Char}
    (found : behindZeros? last input = some number) : ∃ zeros body, input = zeros ++ body ∧
      (∀ c ∈ zeros, c = '0' ∨ c = '_') ∧ Leading (last :: zeros) body number := by
  induction input generalizing last with
  | nil =>
      obtain rfl := Option.some.inj found
      exact ⟨[], [], rfl, by simp, .fraction rfl (by simp)⟩
  | cons c rest inductionHypothesis =>
      rw [behindZeros?] at found
      split at found
      · next passed =>
        obtain ⟨zeros, body, rfl, allZeros, parts⟩ := inductionHypothesis found
        refine ⟨c :: zeros, body, rfl, ?_, parts.cons last⟩
        exact List.forall_mem_cons.mpr ⟨by simpa using passed, allZeros⟩
      · next other =>
        split at found
        · next point =>
          obtain rfl := Option.some.inj found
          exact ⟨[], c :: rest, rfl, by simp, .fraction rfl (by simpa using point)⟩
        · split at found
          · next begins =>
            obtain rfl := Option.some.inj found
            refine ⟨[], c :: rest, rfl, by simp, ?_⟩
            rcases Bool.or_eq_true_iff.mp begins with digit | minus
            · exact .digit digit fun zero => other (by simp [zero])
            · obtain rfl := of_decide_eq_true minus
              exact .minus (List.cons_ne_nil _ _)
          · cases found

/-- Leading zeros are dropped in front of a number. -/
theorem withoutZeros?_append {zeros body number : List Char} (leading : LeadingZeros zeros)
    (parts : Leading zeros body number) : withoutZeros? (zeros ++ body) = some number := by
  obtain ⟨front, allZeros⟩ := leading
  cases zeros with
  | nil =>
      cases parts with
      | digit digit notZero => rw [List.nil_append, withoutZeros?, if_pos digit]; exact notZero
      | minus present => exact absurd rfl present
      | fraction kept => cases kept
  | cons zero zeros =>
      obtain rfl := front zero rfl
      have others : ∀ c ∈ zeros, c = '0' ∨ c = '_' := fun c there =>
        allZeros c (List.mem_cons_of_mem _ there)
      rw [List.cons_append, withoutZeros?, behindZeros?_append _ others]
      cases parts with
      | digit digit notZero =>
          have notUnderscore := ne_of_isAsciiDigit digit (show isAsciiDigit '_' = false from rfl)
          have notPoint := ne_of_isAsciiDigit digit (show isAsciiDigit '.' = false from rfl)
          simp [behindZeros?, digit, notZero, notUnderscore, notPoint]
      | minus => rfl
      | fraction kept ends =>
          rw [List.getLast?_cons, Option.some.injEq, ← List.getLastD_eq_getLast?] at kept
          rw [kept]
          cases body with
          | nil => rfl
          | cons c body =>
              obtain rfl := ends c rfl
              rfl

/-- A number that starts with a digit is read up to what remains behind its leading zeros. -/
theorem withoutZeros?_eq_some_iff {text number : List Char} :
    withoutZeros? text = some number ↔
      ∃ zeros body, text = zeros ++ body ∧ LeadingZeros zeros ∧ Leading zeros body number := by
  constructor
  · intro found
    unfold withoutZeros? at found
    split at found
    · obtain ⟨zeros, body, rfl, allZeros, parts⟩ := behindZeros?_eq_some found
      exact ⟨'0' :: zeros, body, rfl, ⟨by simp, by simpa using allZeros⟩, parts⟩
    · next c rest notZero =>
      split at found
      · next digit =>
        obtain rfl := Option.some.inj found
        exact ⟨[], c :: rest, rfl, ⟨by simp, by simp⟩, .digit digit notZero⟩
      · cases found
    · cases found
  · rintro ⟨zeros, body, rfl, leading, parts⟩
    exact withoutZeros?_append leading parts

/-! ## Numbers without a sign -/

/-- The digits of a number that are not too many can be read. -/
theorem Magnitude.isWhole {text digits : List Char} {minus : Bool}
    (magnitude : Magnitude text minus digits) (short : digits.length ≤ Numeral.digitLimit) :
    WholeDigits (some Numeral.digitLimit) digits := by
  have within : ∀ limit ∈ some Numeral.digitLimit, digits.length ≤ limit := by
    rintro limit known
    obtain rfl := Option.some.inj known
    exact short
  cases magnitude with
  | zero => exact ⟨⟨by simp, by simp [isAsciiDigit]⟩, by simp, within⟩
  | number leading grouped plain =>
      exact ⟨grouped.digits, plain_iff.mpr (.inr plain), within⟩
  | behindMinus leading present isGap grouped plain =>
      exact ⟨grouped.digits, plain_iff.mpr plain, within⟩

/-- A number that starts with a digit has the plain form of its sign and its digits. -/
theorem map_withoutZeros?_eq_some_iff {minus : Bool} {text digits : List Char}
    (isWhole : WholeDigits (some Numeral.digitLimit) digits) :
    (withoutZeros? text).map (fun number => withoutUnderscores (withoutFraction number)) =
        some (signed minus digits) ↔
      ∃ spelled fraction, text = spelled ++ fraction ∧ Magnitude spelled minus digits ∧
        ZeroFraction fraction := by
  constructor
  · intro same
    obtain ⟨number, found, plain⟩ := Option.map_eq_some_iff.mp same
    obtain ⟨zeros, body, rfl, leading, parts⟩ := withoutZeros?_eq_some_iff.mp found
    obtain ⟨whole, fraction, split, isFraction, groups⟩ :=
      (withoutUnderscores_withoutFraction_eq_signed_iff isWhole.toDigits).mp plain
    cases parts with
    | digit digit notZero =>
        cases groups with
        | minus => exact absurd (List.cons.inj split).1 (ne_of_isAsciiDigit digit rfl)
        | plain grouped =>
            obtain ⟨d, rest, others, rfl, rfl, -⟩ := grouped.starts
            obtain ⟨rfl, -⟩ := List.cons.inj split
            refine ⟨zeros ++ _, fraction, by rw [split, List.append_assoc], ?_, isFraction⟩
            exact .number leading grouped fun zero => notZero (Option.some.inj zero)
    | minus present =>
        cases groups with
        | plain grouped =>
            obtain ⟨d, rest, others, rfl, rfl, digit⟩ := grouped.starts
            exact absurd (List.cons.inj split).1.symm (ne_of_isAsciiDigit digit rfl)
        | @minus gap body _ isGap grouped =>
            refine ⟨zeros ++ '-' :: (gap ++ body), fraction, by rw [split, List.append_assoc], ?_,
              isFraction⟩
            exact .behindMinus leading present isGap grouped (plain_iff.mp isWhole.plain)
    | @fraction _ last kept ends =>
        have isZero : last = '0' ∨ last = '_' := leading.zeros last (List.mem_of_getLast? kept)
        cases groups with
        | minus =>
            obtain ⟨rfl, -⟩ := List.cons.inj split
            rcases isZero with zero | underscore
            · cases zero
            · cases underscore
        | plain grouped =>
            -- What stands behind the last zero is no digit, so that the group is only that zero.
            cases grouped with
            | last digit =>
                obtain ⟨rfl, rfl⟩ := List.cons.inj split
                obtain rfl := isZero.resolve_right (ne_of_isAsciiDigit digit rfl)
                obtain ⟨before, rfl⟩ := List.getLast?_eq_some_iff.mp kept
                exact ⟨before ++ ['0'], _, rfl, .zero leading.of_concat, isFraction⟩
            | next _ others =>
                obtain ⟨d, rest, _, rfl, -, digit⟩ := others.starts
                obtain ⟨-, rfl⟩ := List.cons.inj split
                exact absurd (ends d rfl) (ne_of_isAsciiDigit digit rfl)
            | apart =>
                obtain ⟨-, rfl⟩ := List.cons.inj split
                cases ends '_' rfl
  · rintro ⟨spelled, fraction, rfl, magnitude, isFraction⟩
    have remains {zeros body whole : List Char} {negative : Bool} (leading : LeadingZeros zeros)
        (parts : Leading zeros body (whole ++ fraction))
        (groups : SignedGroups negative whole digits) :
        (withoutZeros? (zeros ++ body)).map (fun number =>
          withoutUnderscores (withoutFraction number)) = some (signed negative digits) := by
      rw [withoutZeros?_append leading parts, Option.map_some, Option.some.injEq]
      exact (withoutUnderscores_withoutFraction_eq_signed_iff isWhole.toDigits).mpr
        ⟨whole, fraction, rfl, isFraction, groups⟩
    cases magnitude with
    | zero leading =>
        exact remains leading.concat (.fraction List.getLast?_concat isFraction.starts)
          (.plain (.last rfl))
    | number leading grouped plain =>
        obtain ⟨c, rest, others, rfl, rfl, digit⟩ := grouped.starts
        rw [List.append_assoc]
        exact remains leading (.digit digit fun zero => plain (congrArg some zero)) (.plain grouped)
    | behindMinus leading present isGap grouped =>
        rw [List.append_assoc, List.cons_append]
        exact remains leading (.minus present) (.minus isGap grouped)

/-! ## Signs -/

/-- A number starts with a digit, which is a zero unless the number is grouped digits alone. -/
theorem Magnitude.starts {text digits : List Char} {minus : Bool}
    (magnitude : Magnitude text minus digits) : ∃ c rest, text = c :: rest ∧
      isAsciiDigit c = true ∧ (c = '0' ∨ Grouped text digits) := by
  have zeroFirst {c : Char} {zeros : List Char} (leading : LeadingZeros (c :: zeros)) : c = '0' :=
    leading.starts c rfl
  cases magnitude with
  | @zero zeros leading =>
      cases zeros with
      | nil => exact ⟨'0', [], rfl, rfl, .inl rfl⟩
      | cons c zeros =>
          obtain rfl := zeroFirst leading
          exact ⟨'0', _, rfl, rfl, .inl rfl⟩
  | @number zeros _ _ leading grouped =>
      cases zeros with
      | nil =>
          obtain ⟨c, rest, _, same, -, digit⟩ := grouped.starts
          exact ⟨c, rest, same, digit, .inr grouped⟩
      | cons c zeros =>
          obtain rfl := zeroFirst leading
          exact ⟨'0', _, rfl, rfl, .inl rfl⟩
  | @behindMinus zeros _ _ _ leading present =>
      obtain ⟨c, others, rfl⟩ := List.exists_cons_of_ne_nil present
      obtain rfl := zeroFirst leading
      exact ⟨'0', _, rfl, rfl, .inl rfl⟩

/-- The plain form of a text is that of its number, with its sign if that is a minus. -/
theorem plainForm?_eq_some_iff {negative : Bool} {text digits : List Char}
    (isWhole : WholeDigits (some Numeral.digitLimit) digits) :
    plainForm? text = some (signed negative digits) ↔ ∃ sign spelled fraction minus,
      strip isWhiteSpace text = sign ++ (spelled ++ fraction) ∧
        (sign = [] ∨ sign = ['+'] ∨ sign = ['-']) ∧ Magnitude spelled minus digits ∧
        (sign = ['-'] → minus = false) ∧ ZeroFraction fraction ∧
        negative = (minus || decide (sign = ['-'])) := by
  unfold plainForm?
  generalize strip isWhiteSpace text = core
  constructor
  · intro found
    split at found
    · next rest =>
      obtain ⟨plain, unsigned, same⟩ := Option.map_eq_some_iff.mp found
      cases negative with
      | false =>
          -- The minus sign would have to be a digit.
          have begins : '-' :: plain = digits := same
          cases isWhole.digits '-' (begins ▸ List.mem_cons_self)
      | true =>
          have same : plain = signed false digits := (List.cons.inj same).2
          rw [same] at unsigned
          obtain ⟨spelled, fraction, rfl, magnitude, isFraction⟩ :=
            (map_withoutZeros?_eq_some_iff isWhole).mp unsigned
          exact ⟨['-'], spelled, fraction, false, rfl, by simp, magnitude, by simp, isFraction, rfl⟩
    · next rest =>
      obtain ⟨spelled, fraction, rfl, magnitude, isFraction⟩ :=
        (map_withoutZeros?_eq_some_iff isWhole).mp found
      exact ⟨['+'], spelled, fraction, negative, rfl, by simp, magnitude, by simp, isFraction,
        by simp⟩
    · obtain ⟨spelled, fraction, rfl, magnitude, isFraction⟩ :=
        (map_withoutZeros?_eq_some_iff isWhole).mp found
      exact ⟨[], spelled, fraction, negative, rfl, by simp, magnitude, by simp, isFraction,
        by simp⟩
  · rintro ⟨sign, spelled, fraction, minus, rfl, isSign, magnitude, once, isFraction, rfl⟩
    have found := (map_withoutZeros?_eq_some_iff isWhole).mpr
      ⟨spelled, fraction, rfl, magnitude, isFraction⟩
    rcases isSign with rfl | rfl | rfl
    · obtain ⟨c, rest, rfl, digit, -⟩ := magnitude.starts
      have notMinus : c ≠ '-' := ne_of_isAsciiDigit digit rfl
      have notPlus : c ≠ '+' := ne_of_isAsciiDigit digit rfl
      rw [List.nil_append]
      split
      · next same => exact absurd (List.cons.inj same).1 notMinus
      · next same => exact absurd (List.cons.inj same).1 notPlus
      · simpa using found
    · simpa using found
    · obtain rfl := once rfl
      simp only [List.singleton_append, found]
      rfl

/-! ## Numbers that are too long -/

/-- The digits at the front of a group are some of its digits. -/
theorem Grouped.length_takeWhile_le {text digits rest : List Char} (grouped : Grouped text digits)
    (stops : NoDigit rest) : ((text ++ rest).takeWhile isAsciiDigit).length ≤ digits.length := by
  have front : rest.takeWhile isAsciiDigit = [] := by
    cases rest with
    | nil => rfl
    | cons c rest => exact List.takeWhile_cons_of_neg (by simp [stops c rfl])
  induction grouped with
  | last digit => simp [digit, front]
  | next digit _ inductionHypothesis =>
      rw [List.cons_append, List.takeWhile_cons_of_pos digit]
      exact Nat.succ_le_succ inductionHypothesis
  | apart digit =>
      rw [List.cons_append, List.cons_append, List.takeWhile_cons_of_pos digit,
        List.takeWhile_cons_of_neg (by decide)]
      exact Nat.succ_le_succ (Nat.zero_le _)

/-- A number is not too long if it has not too many digits without its leading zeros. -/
theorem Magnitude.startsTooLong_eq_false {text digits rest : List Char} {minus : Bool}
    (negative : Bool) (magnitude : Magnitude text minus digits)
    (short : digits.length ≤ Numeral.digitLimit) (stops : NoDigit rest) :
    startsTooLong (signed negative (text ++ rest)) = false := by
  obtain ⟨c, others, rfl, digit, zeroOrGrouped⟩ := magnitude.starts
  have notMinus : (c :: others ++ rest).head? ≠ some '-' := fun same =>
    ne_of_isAsciiDigit digit rfl (Option.some.inj same)
  simp only [startsTooLong, cutMinus_signed negative notMinus]
  rcases zeroOrGrouped with rfl | grouped
  · simp
  · have within := Nat.le_trans (grouped.length_takeWhile_le stops) short
    exact Bool.and_eq_false_iff.mpr (.inr (decide_eq_false (Nat.not_lt.mpr within)))

/-- A text that starts with something else does not start with a number that is too long. -/
theorem startsTooLong_eq_false {text : List Char}
    (front : ∀ c ∈ text.head?, isAsciiDigit c = false ∧ c ≠ '-') : startsTooLong text = false := by
  cases text with
  | nil => rfl
  | cons c text =>
      obtain ⟨noDigit, notMinus⟩ := front c rfl
      have cut := cutMinus_signed false (show (c :: text).head? ≠ some '-' by simpa using notMinus)
      rw [signed, if_neg Bool.false_ne_true] at cut
      simp [startsTooLong, cut, noDigit]

/-! ## The whole text -/

/-- No digit is white space. -/
theorem isWhiteSpace_of_isAsciiDigit {c : Char} (digit : isAsciiDigit c = true) :
    isWhiteSpace c = false := by
  obtain ⟨low, high⟩ := Bool.and_eq_true_iff.mp digit
  have low : 48 ≤ c.toNat := of_decide_eq_true low
  have high : c.toNat ≤ 57 := of_decide_eq_true high
  simp only [isWhiteSpace, Bool.or_eq_false_iff, Bool.and_eq_false_iff, decide_eq_false_iff_not,
    beq_eq_false_iff_ne]
  omega

/-- White space is no part of a number. -/
theorem notNumber_of_isWhiteSpace {c : Char} (blank : isWhiteSpace c = true) :
    isAsciiDigit c = false ∧ c ≠ '-' := by
  refine ⟨?_, ?_⟩
  · cases digit : isAsciiDigit c with
    | false => rfl
    | true => exact absurd blank (by simp [isWhiteSpace_of_isAsciiDigit digit])
  · rintro rfl
    cases blank

/-- A number ends where its fraction or the white space behind it starts. -/
theorem ZeroFraction.noDigit_append {text after : List Char} (isFraction : ZeroFraction text)
    (isAfter : ∀ c ∈ after, isWhiteSpace c = true) : NoDigit (text ++ after) := by
  intro c first
  cases isFraction with
  | absent => exact (notNumber_of_isWhiteSpace (isAfter c (List.mem_of_head? first))).1
  | point =>
      obtain rfl := Option.some.inj first
      rfl

/-- There is no white space inside a magnitude. -/
theorem Magnitude.noWhiteSpace {text digits : List Char} {minus : Bool}
    (magnitude : Magnitude text minus digits) : ∀ c ∈ text, isWhiteSpace c = false := by
  have inZeros {zeros : List Char} (leading : LeadingZeros zeros) :
      ∀ c ∈ zeros, isWhiteSpace c = false := by
    intro c there
    rcases leading.zeros c there with rfl | rfl <;> rfl
  have inGroup {text digits : List Char} (grouped : Grouped text digits) :
      ∀ c ∈ text, isWhiteSpace c = false := by
    intro c there
    rcases grouped.chars c there with digit | rfl
    · exact isWhiteSpace_of_isAsciiDigit digit
    · rfl
  cases magnitude with
  | zero leading => exact List.forall_mem_append.mpr ⟨inZeros leading, by simp [isWhiteSpace]⟩
  | number leading grouped => exact List.forall_mem_append.mpr ⟨inZeros leading, inGroup grouped⟩
  | behindMinus leading _ isGap grouped =>
      refine List.forall_mem_append.mpr ⟨inZeros leading, List.forall_mem_cons.mpr ⟨rfl, ?_⟩⟩
      refine List.forall_mem_append.mpr ⟨?_, inGroup grouped⟩
      rcases isGap with rfl | rfl
      · simp
      · simp [isWhiteSpace]

/-- There is no white space inside a number. -/
theorem noWhiteSpace_of_parts {sign text fraction digits : List Char} {minus : Bool}
    (isSign : sign = [] ∨ sign = ['+'] ∨ sign = ['-']) (magnitude : Magnitude text minus digits)
    (isFraction : ZeroFraction fraction) :
    ∀ c ∈ sign ++ (text ++ fraction), isWhiteSpace c = false := by
  have inSign : ∀ c ∈ sign, isWhiteSpace c = false := by
    rcases isSign with rfl | rfl | rfl
    · simp
    · simp [isWhiteSpace]
    · simp [isWhiteSpace]
  have inFraction : ∀ c ∈ fraction, isWhiteSpace c = false := by
    cases isFraction with
    | absent => simp
    | point nonempty allZeros =>
        refine List.forall_mem_cons.mpr ⟨rfl, fun c there => ?_⟩
        rw [allZeros c there]
        rfl
  exact List.forall_mem_append.mpr
    ⟨inSign, List.forall_mem_append.mpr ⟨magnitude.noWhiteSpace, inFraction⟩⟩

/-- A number that is not too long stays so behind white space and a sign. -/
theorem startsTooLong_of_parts {before sign text rest digits : List Char} {minus : Bool}
    (isBefore : ∀ c ∈ before, isWhiteSpace c = true)
    (isSign : sign = [] ∨ sign = ['+'] ∨ sign = ['-']) (magnitude : Magnitude text minus digits)
    (short : digits.length ≤ Numeral.digitLimit) (stops : NoDigit rest) :
    startsTooLong (before ++ (sign ++ (text ++ rest))) = false := by
  cases before with
  | cons c before =>
      have blank := isBefore c List.mem_cons_self
      refine startsTooLong_eq_false fun d first => ?_
      obtain rfl := Option.some.inj first
      exact notNumber_of_isWhiteSpace blank
  | nil =>
      rcases isSign with rfl | rfl | rfl
      · exact magnitude.startsTooLong_eq_false false short stops
      · exact startsTooLong_eq_false (by simp [isAsciiDigit])
      · exact magnitude.startsTooLong_eq_false true short stops

/-- A text spells an integer if it is read as that integer. -/
theorem integerOfText_eq_ok_iff {text : List Char} {number : Int} :
    integerOfText text = .ok number ↔ IntegerText text number := by
  constructor
  · intro found
    unfold integerOfText at found
    split at found
    · cases found
    · split at found
      · next value same =>
        obtain rfl := Except.ok.inj found
        obtain ⟨plain, isPlain, read⟩ := Option.bind_eq_some_iff.mp same
        obtain ⟨negative, digits, rfl, isWhole, rfl⟩ := plainInteger?_eq_some_iff.mp read
        obtain ⟨sign, spelled, fraction, minus, core, isSign, magnitude, once, isFraction, rfl⟩ :=
          (plainForm?_eq_some_iff isWhole).mp isPlain
        obtain ⟨before, after, split, isBefore, isAfter⟩ := exists_strip isWhiteSpace text
        rw [split, core]
        exact .spells isBefore isSign magnitude once isFraction isAfter (isWhole.within _ rfl)
      · cases found
  · intro spells
    cases spells with
    | @spells before sign spelled fraction after digits minus isBefore isSign magnitude once
        isFraction isAfter short =>
        have isWhole := magnitude.isWhole short
        have core :=
          strip_append isBefore (noWhiteSpace_of_parts isSign magnitude isFraction) isAfter
        have plain := (plainForm?_eq_some_iff isWhole).mpr
          ⟨sign, spelled, fraction, minus, core, isSign, magnitude, once, isFraction, rfl⟩
        have read := plainInteger?_eq_some_iff.mpr
          ⟨minus || decide (sign = ['-']), digits, rfl, isWhole, rfl⟩
        have inRange :=
          startsTooLong_of_parts isBefore isSign magnitude short (isFraction.noDigit_append isAfter)
        rw [← List.append_assoc spelled, ← List.append_assoc sign] at inRange
        simp only [integerOfText, inRange, plain, Option.bind_some, read]
        rfl

example : IntegerText " -0_1_200.00".toList (-1200) := integerOfText_eq_ok_iff.mp rfl

end LintClient.Protocol
