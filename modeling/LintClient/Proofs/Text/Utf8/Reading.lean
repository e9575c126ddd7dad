import LintClient.Proofs.Text.Utf8.Form
import LintClient.Proofs.Text.Utf8.Run
import Mathlib.Data.List.Induction

/-!
# Reading with replacement characters

`Reads` says what a tolerant reader makes of bytes without telling how: characters are taken by
their encodings, and where no encoding stands, the maximal invalid subpart gives one replacement
character. The byte machine reads every byte string so (`reads_decodeLossy`), and nothing else can
be read (`Reads.eq_decodeLossy`).
-/

namespace LintClient.Text.Utf8

/-- The bytes begin the encoding of a character, or are one. -/
def Opens (bytes : List UInt8) : Prop :=
  ∃ c, bytes <+: String.utf8EncodeChar c

/-- The invalid beginning of bytes that is replaced as a whole: the longest part that begins an
encoding, or a single byte if none does. -/
structure MaximalSubpart (part bytes : List UInt8) : Prop where
  nonempty : part ≠ []
  isPrefix : part <+: bytes
  unconvertible : ∀ c, ¬ String.utf8EncodeChar c <+: bytes
  opensOrSingle : Opens part ∨ part.length = 1
  longest : ∀ other, other <+: bytes → Opens other → other.length ≤ part.length

/-- The text that a tolerant reader takes from bytes. -/
inductive Reads : List UInt8 → List Char → Prop where
  | nil : Reads [] []
  | char {bytes : List UInt8} {text : List Char} (c : Char) (rest : Reads bytes text) :
      Reads (String.utf8EncodeChar c ++ bytes) (c :: text)
  | replaced {part bytes : List UInt8} {text : List Char}
      (maximal : MaximalSubpart part (part ++ bytes)) (rest : Reads bytes text) :
      Reads (part ++ bytes) ('\uFFFD' :: text)

/-! ## Beginnings of encodings -/

/-- Bytes begin an encoding when some bytes complete them to a form. -/
theorem opens_iff_form {bytes : List UInt8} :
    Opens bytes ↔ ∃ rest c, Form (bytes ++ rest) c := by
  constructor
  · rintro ⟨c, rest, encoded⟩
    exact ⟨rest, c, encoded ▸ form_encoding c⟩
  · rintro ⟨rest, c, form⟩
    exact ⟨c, rest, form.eq_encoding⟩

/-- A beginning of a beginning is one. -/
theorem Opens.of_beginning {bytes beginning : List UInt8} (opens : Opens bytes)
    (shorter : beginning <+: bytes) : Opens beginning := by
  obtain ⟨c, encoded⟩ := opens
  exact ⟨c, shorter.trans encoded⟩

/-- The byte `0x80` continues a character wherever an arbitrary byte may. -/
private theorem isTail_least : isTail 0x80 = true := by decide

/-- Four bytes begin an encoding when they are one of four bytes. -/
theorem opens_four_iff {lead second third fourth : UInt8} :
    Opens [lead, second, third, fourth] ↔
      (0xF0 ≤ lead ∧ lead ≤ 0xF4) ∧ isSecond lead second = true ∧ isTail third = true ∧
        isTail fourth = true := by
  rw [opens_iff_form]
  constructor
  · rintro ⟨rest, c, form⟩
    cases form with
    | four least most seconded tailed ended => exact ⟨⟨least, most⟩, seconded, tailed, ended⟩
  · rintro ⟨⟨least, most⟩, seconded, tailed, ended⟩
    exact ⟨[], _, .four least most seconded tailed ended⟩

/-- Three bytes begin an encoding when they are one of three bytes or the front of one of four. -/
theorem opens_three_iff {lead second third : UInt8} :
    Opens [lead, second, third] ↔
      (0xE0 ≤ lead ∧ lead ≤ 0xF4) ∧ isSecond lead second = true ∧ isTail third = true := by
  constructor
  · intro opens
    obtain ⟨rest, c, form⟩ := opens_iff_form.mp opens
    cases form with
    | three least most seconded tailed =>
        refine ⟨⟨least, ?_⟩, seconded, tailed⟩
        simp only [UInt8.le_iff_toNat_le, UInt8.lt_iff_toNat_lt, UInt8.reduceToNat] at most ⊢
        omega
    | four least most seconded tailed ended =>
        refine ⟨⟨?_, most⟩, seconded, tailed⟩
        simp only [UInt8.le_iff_toNat_le, UInt8.reduceToNat] at least ⊢
        omega
  · rintro ⟨⟨least, most⟩, seconded, tailed⟩
    by_cases short : lead < 0xF0
    · exact opens_iff_form.mpr ⟨[], _, .three least short seconded tailed⟩
    · have long : 0xF0 ≤ lead := UInt8.not_lt.mp short
      exact (opens_four_iff.mpr ⟨⟨long, most⟩, seconded, tailed, isTail_least⟩).of_beginning
        (List.prefix_append [lead, second, third] [0x80])

/-- Two bytes begin an encoding when the second one may follow the lead. -/
theorem opens_two_iff {lead second : UInt8} :
    Opens [lead, second] ↔ (0xC2 ≤ lead ∧ lead ≤ 0xF4) ∧ isSecond lead second = true := by
  constructor
  · intro opens
    obtain ⟨rest, c, form⟩ := opens_iff_form.mp opens
    cases form with
    | two least most seconded =>
        refine ⟨⟨least, ?_⟩, seconded⟩
        simp only [UInt8.le_iff_toNat_le, UInt8.lt_iff_toNat_lt, UInt8.reduceToNat] at most ⊢
        omega
    | three least most seconded tailed =>
        simp only [UInt8.le_iff_toNat_le, UInt8.lt_iff_toNat_lt, UInt8.reduceToNat] at least most ⊢
        exact ⟨⟨by omega, by omega⟩, seconded⟩
    | four least most seconded tailed ended =>
        simp only [UInt8.le_iff_toNat_le, UInt8.reduceToNat] at least most ⊢
        exact ⟨⟨by omega, by omega⟩, seconded⟩
  · rintro ⟨⟨least, most⟩, seconded⟩
    by_cases short : lead < 0xE0
    · exact opens_iff_form.mpr ⟨[], _, .two least short seconded⟩
    · have long : 0xE0 ≤ lead := UInt8.not_lt.mp short
      exact (opens_three_iff.mpr ⟨⟨long, most⟩, seconded, isTail_least⟩).of_beginning
        (List.prefix_append [lead, second] [0x80])

/-- Every lead admits some second byte. -/
private theorem exists_isSecond (lead : UInt8) : ∃ second, isSecond lead second = true := by
  by_cases overlongThree : lead.toNat = 0xE0
  · exact ⟨0xA0, isSecond_iff.mpr (by simp [overlongThree])⟩
  · by_cases overlongFour : lead.toNat = 0xF0
    · exact ⟨0x90, isSecond_iff.mpr (by simp [overlongFour])⟩
    · exact ⟨0x80, isSecond_iff.mpr (by simp [overlongThree, overlongFour])⟩

/-- The bytes that begin an encoding are the characters of one byte and the leads of longer ones. -/
theorem opens_one_iff {lead : UInt8} :
    Opens [lead] ↔ lead < 0x80 ∨ (0xC2 ≤ lead ∧ lead ≤ 0xF4) := by
  constructor
  · intro opens
    obtain ⟨rest, c, form⟩ := opens_iff_form.mp opens
    cases form with
    | one single => exact .inl single
    | two least most seconded =>
        exact .inr (opens_two_iff.mp (opens_iff_form.mpr ⟨[], _, .two least most seconded⟩)).1
    | three least most seconded tailed =>
        exact .inr (opens_two_iff.mp (opens_iff_form.mpr
          ⟨[_], _, .three least most seconded tailed⟩)).1
    | four least most seconded tailed ended =>
        exact .inr (opens_two_iff.mp (opens_iff_form.mpr
          ⟨[_, _], _, .four least most seconded tailed ended⟩)).1
  · rintro (single | range)
    · exact opens_iff_form.mpr ⟨[], _, .one single⟩
    · obtain ⟨second, seconded⟩ := exists_isSecond lead
      exact (opens_two_iff.mpr ⟨range, seconded⟩).of_beginning (List.prefix_append [lead] [second])

/-! ## Steps of the machine -/

/-- A byte with which the pending bytes still begin an encoding ends a character or is kept. -/
theorem step_of_opens {pending : Pending} {byte : UInt8} (opens : Opens (pending.bytes ++ [byte])) :
    (∃ c, Form (pending.bytes ++ [byte]) c ∧ step pending byte = (.none, [.char c])) ∨
      ∃ next, next.bytes = pending.bytes ++ [byte] ∧ step pending byte = (next, []) := by
  cases pending with
  | none =>
      by_cases single : byte < 0x80
      · exact .inl ⟨_, .one single, by simp [step, start, single]⟩
      · have range := (opens_one_iff.mp opens).resolve_left single
        exact .inr ⟨.one byte, rfl, by simp [step, start, single, range]⟩
  | one lead =>
      obtain ⟨⟨least, most⟩, seconded⟩ := opens_two_iff.mp opens
      by_cases short : lead < 0xE0
      · exact .inl ⟨_, .two least short seconded, by simp [step, seconded, short]⟩
      · exact .inr ⟨.two lead byte, rfl, by simp [step, seconded, short]⟩
  | two lead second =>
      obtain ⟨⟨least, most⟩, seconded, tailed⟩ := opens_three_iff.mp opens
      by_cases short : lead < 0xF0
      · exact .inl ⟨_, .three least short seconded tailed, by simp [step, tailed, short]⟩
      · exact .inr ⟨.three lead second byte, rfl, by simp [step, tailed, short]⟩
  | three lead second third =>
      obtain ⟨⟨least, most⟩, seconded, tailed, ended⟩ := opens_four_iff.mp opens
      exact .inl ⟨_, .four least most seconded tailed ended, by simp [step, ended]⟩

/-- A byte that begins no encoding is given up by itself. -/
theorem start_of_not_opens {byte : UInt8} (closed : ¬ Opens [byte]) :
    start byte = (.none, [.stray [byte] .invalidStart]) := by
  rw [opens_one_iff, not_or] at closed
  simp [start, closed.1, closed.2]

/-- A byte with which the pending bytes begin no encoding gives them up and is read afresh. -/
theorem step_of_not_opens {pending : Pending} {byte : UInt8} (present : pending ≠ .none)
    (opens : Opens pending.bytes) (incomplete : ∀ c, ¬ String.utf8EncodeChar c <+: pending.bytes)
    (closed : ¬ Opens (pending.bytes ++ [byte])) : step pending byte = restart pending byte := by
  have noForm : ∀ c, ¬ Form pending.bytes c := by
    intro c form
    exact incomplete c (form.eq_encoding ▸ List.prefix_refl _)
  cases pending with
  | none => exact absurd rfl present
  | one lead =>
      have range : 0xC2 ≤ lead ∧ lead ≤ 0xF4 := by
        refine (opens_one_iff.mp opens).resolve_left ?_
        intro single
        exact noForm _ (.one single)
      have unfit : ¬ isSecond lead byte = true := by
        intro seconded
        exact closed (opens_two_iff.mpr ⟨range, seconded⟩)
      simp [step, unfit]
  | two lead second =>
      obtain ⟨⟨least, most⟩, seconded⟩ := opens_two_iff.mp opens
      have long : 0xE0 ≤ lead := by
        refine UInt8.not_lt.mp ?_
        intro short
        exact noForm _ (.two least short seconded)
      have unfit : ¬ isTail byte = true := by
        intro tailed
        exact closed (opens_three_iff.mpr ⟨⟨long, most⟩, seconded, tailed⟩)
      simp [step, unfit]
  | three lead second third =>
      obtain ⟨⟨least, most⟩, seconded, tailed⟩ := opens_three_iff.mp opens
      have long : 0xF0 ≤ lead := by
        refine UInt8.not_lt.mp ?_
        intro short
        exact noForm _ (.three least short seconded tailed)
      have unfit : ¬ isTail byte = true := by
        intro ended
        exact closed (opens_four_iff.mpr ⟨⟨long, most⟩, seconded, tailed, ended⟩)
      simp [step, unfit]

/-- The machine keeps a beginning that is not yet an encoding. -/
theorem run_of_opens {part : List UInt8} (opens : Opens part)
    (incomplete : ∀ c, ¬ String.utf8EncodeChar c <+: part) :
    ∃ pending, pending.bytes = part ∧ run .none part = (pending, []) := by
  induction part using List.reverseRecOn with
  | nil => exact ⟨.none, rfl, rfl⟩
  | append_singleton earlier byte inductionHypothesis =>
      have shorter : earlier <+: earlier ++ [byte] := List.prefix_append earlier [byte]
      obtain ⟨pending, kept, reached⟩ := inductionHypothesis (opens.of_beginning shorter)
        (fun c complete => incomplete c (complete.trans shorter))
      subst kept
      rcases step_of_opens opens with ⟨c, form, -⟩ | ⟨next, kept, stepped⟩
      · exact absurd (form.eq_encoding ▸ List.prefix_refl _) (incomplete c)
      · exact ⟨next, kept, by simp [run_append, reached, run_cons, stepped]⟩

/-- The machine reads an encoding as its character and is between characters again. -/
theorem run_encoding (c : Char) :
    run .none (String.utf8EncodeChar c) = (.none, [.char c]) := by
  have form := form_encoding c
  have beginLead : ∀ {lead : UInt8}, 0xC2 ≤ lead → lead ≤ 0xF4 →
      start lead = (.one lead, []) := by
    intro lead least most
    have notSingle : ¬ lead < 0x80 := by
      simp only [UInt8.le_iff_toNat_le, UInt8.lt_iff_toNat_lt, UInt8.reduceToNat] at least ⊢
      omega
    simp [start, notSingle, least, most]
  generalize String.utf8EncodeChar c = bytes at form
  cases form with
  | one single => simp [run_cons, step, start, single]
  | two least most seconded =>
      have range := (opens_two_iff.mp (opens_iff_form.mpr ⟨[], _, .two least most seconded⟩)).1
      simp [run_cons, step, beginLead range.1 range.2, seconded, most]
  | three least most seconded tailed =>
      have range := (opens_two_iff.mp (opens_iff_form.mpr
        ⟨[_], _, .three least most seconded tailed⟩)).1
      simp [run_cons, step, beginLead range.1 range.2, seconded, tailed, most,
        UInt8.not_lt.mpr least]
  | @four lead _ _ _ least most seconded tailed ended =>
      have range := (opens_two_iff.mp (opens_iff_form.mpr
        ⟨[_, _], _, .four least most seconded tailed ended⟩)).1
      have long : ¬ lead < 0xE0 := by
        simp only [UInt8.le_iff_toNat_le, UInt8.lt_iff_toNat_lt, UInt8.reduceToNat] at least ⊢
        omega
      simp [run_cons, step, beginLead range.1 range.2, seconded, tailed, ended,
        UInt8.not_lt.mpr least, long]

/-! ## Segments of a whole text -/

/-- A character at the beginning is the first segment. -/
theorem segments_encoding (c : Char) (bytes : List UInt8) :
    segments (String.utf8EncodeChar c ++ bytes) = .char c :: segments bytes := by
  simp only [segments, run_append, run_encoding, List.cons_append, List.nil_append]

/-- A maximal invalid subpart at the beginning is the first segment. -/
theorem segments_maximalSubpart {part bytes : List UInt8}
    (maximal : MaximalSubpart part (part ++ bytes)) :
    ∃ defect, segments (part ++ bytes) = .stray part defect :: segments bytes := by
  by_cases opens : Opens part
  · have incomplete : ∀ c, ¬ String.utf8EncodeChar c <+: part := fun c complete =>
      maximal.unconvertible c (complete.trans maximal.isPrefix)
    obtain ⟨pending, rfl, reached⟩ := run_of_opens opens incomplete
    have present : pending ≠ .none := by
      rintro rfl
      exact maximal.nonempty rfl
    cases bytes with
    | nil =>
        refine ⟨.truncated, ?_⟩
        cases pending <;> simp_all [segments, finish]
    | cons byte rest =>
        have closed : ¬ Opens (pending.bytes ++ [byte]) := by
          intro further
          have bound := maximal.longest (pending.bytes ++ [byte]) ⟨rest, by simp⟩ further
          simp only [List.length_append, List.length_singleton] at bound
          omega
        have stepped := step_of_not_opens present opens incomplete closed
        have fresh : step .none byte = start byte := rfl
        refine ⟨.invalidContinuation, ?_⟩
        simp only [segments, run_append, reached, run_cons, stepped, restart, fresh,
          List.nil_append, List.cons_append]
  · have alone := maximal.opensOrSingle.resolve_left opens
    obtain ⟨byte, rfl⟩ := List.length_eq_one_iff.mp alone
    refine ⟨.invalidStart, ?_⟩
    simp [segments, run_cons, step, start_of_not_opens opens]

/-- Bytes that begin an encoding have a maximal part that does. -/
theorem exists_maximal_of_opens {part : List UInt8} (opens : Opens part) (nonempty : part ≠ [])
    (bytes : List UInt8) (unconvertible : ∀ c, ¬ String.utf8EncodeChar c <+: part ++ bytes) :
    ∃ longest rest, part ++ bytes = longest ++ rest ∧ MaximalSubpart longest (longest ++ rest) := by
  induction bytes generalizing part with
  | nil =>
      refine ⟨part, [], rfl, nonempty, List.prefix_append _ _, unconvertible, .inl opens, ?_⟩
      intro other shorter _
      simpa using shorter.length_le
  | cons byte rest inductionHypothesis =>
      by_cases further : Opens (part ++ [byte])
      · have step := inductionHypothesis further (by simp) (by simpa using unconvertible)
        simpa using step
      · refine ⟨part, byte :: rest, rfl, nonempty, List.prefix_append _ _, unconvertible,
          .inl opens, ?_⟩
        intro other shorter opened
        by_contra longer
        have beginning : part ++ [byte] <+: other := by
          have within : part ++ [byte] <+: part ++ byte :: rest := ⟨rest, by simp⟩
          refine List.prefix_of_prefix_length_le within shorter ?_
          simp only [List.length_append, List.length_singleton]
          omega
        exact further (opened.of_beginning beginning)

/-- Bytes that no encoding begins have a maximal invalid subpart. -/
theorem exists_maximalSubpart {byte : UInt8} {bytes : List UInt8}
    (unconvertible : ∀ c, ¬ String.utf8EncodeChar c <+: byte :: bytes) :
    ∃ part rest, byte :: bytes = part ++ rest ∧ MaximalSubpart part (part ++ rest) := by
  by_cases opens : Opens [byte]
  · exact exists_maximal_of_opens opens (by simp) bytes unconvertible
  · refine ⟨[byte], bytes, rfl, by simp, List.prefix_append _ _, unconvertible, .inr rfl, ?_⟩
    intro other shorter opened
    by_contra longer
    refine opens (opened.of_beginning (List.prefix_of_prefix_length_le ⟨bytes, rfl⟩ shorter ?_))
    simp only [List.length_singleton] at longer ⊢
    omega

/-! ## Reading and the machine -/

/-- What is read is what the machine decodes. -/
theorem Reads.eq_decodeLossy {bytes : List UInt8} {text : List Char} (reads : Reads bytes text) :
    text = decodeLossy bytes := by
  induction reads with
  | nil => rfl
  | char c _ inductionHypothesis =>
      rw [inductionHypothesis, decodeLossy, decodeLossy, segments_encoding, List.map_cons]
      rfl
  | replaced maximal _ inductionHypothesis =>
      obtain ⟨defect, separated⟩ := segments_maximalSubpart maximal
      rw [inductionHypothesis, decodeLossy, decodeLossy, separated, List.map_cons]
      rfl

/-- Every byte string can be read. -/
theorem exists_reads (bytes : List UInt8) : ∃ text, Reads bytes text := by
  generalize size : bytes.length = length
  induction length using Nat.strongRecOn generalizing bytes with
  | ind length inductionHypothesis =>
      cases bytes with
      | nil => exact ⟨[], .nil⟩
      | cons byte rest =>
          by_cases convertible : ∃ c, String.utf8EncodeChar c <+: byte :: rest
          · obtain ⟨c, remaining, encoded⟩ := convertible
            have positive := List.length_pos_of_ne_nil (String.utf8EncodeChar_ne_nil (c := c))
            have shorter : remaining.length < length := by
              rw [← size, ← encoded, List.length_append]
              omega
            obtain ⟨text, reads⟩ := inductionHypothesis _ shorter remaining rfl
            exact ⟨c :: text, encoded ▸ .char c reads⟩
          · rw [not_exists] at convertible
            obtain ⟨part, remaining, separated, maximal⟩ := exists_maximalSubpart convertible
            have positive := List.length_pos_of_ne_nil maximal.nonempty
            have shorter : remaining.length < length := by
              rw [← size, separated, List.length_append]
              omega
            obtain ⟨text, reads⟩ := inductionHypothesis _ shorter remaining rfl
            exact ⟨'\uFFFD' :: text, separated ▸ .replaced maximal reads⟩

/-- What the machine decodes is what a tolerant reader reads. -/
theorem reads_decodeLossy (bytes : List UInt8) : Reads bytes (decodeLossy bytes) := by
  obtain ⟨text, reads⟩ := exists_reads bytes
  exact reads.eq_decodeLossy ▸ reads

/-- The bytes of a text are read as the text. -/
theorem reads_encode (text : List Char) : Reads (encode text) text := by
  induction text with
  | nil => exact .nil
  | cons c text inductionHypothesis => exact .char c inductionHypothesis

/-- An encoded text is decoded without a loss. -/
theorem decodeLossy_encode (text : List Char) : decodeLossy (encode text) = text :=
  (reads_encode text).eq_decodeLossy.symm

/-- The segments of the bytes of a text are its characters. -/
theorem segments_encode (text : List Char) : segments (encode text) = text.map .char := by
  induction text with
  | nil => rfl
  | cons c text inductionHypothesis =>
      rw [encode, List.flatMap_cons, segments_encoding, ← encode, inductionHypothesis,
        List.map_cons]

/-- What keeps every character keeps a text in reverse. -/
theorem foldl_chars
    {step : Nat × Except Refusal (List Char) → Segment → Nat × Except Refusal (List Char)}
    (keeps : ∀ position reversed c, ∃ next,
      step (position, .ok reversed) (.char c) = (next, .ok (c :: reversed)))
    (text reversed : List Char) (position : Nat) :
    ((text.map Segment.char).foldl step (position, .ok reversed)).2 =
    .ok (text.reverse ++ reversed) := by
  induction text generalizing reversed position with
  | nil => rfl
  | cons c text inductionHypothesis =>
      obtain ⟨next, kept⟩ := keeps position reversed c
      rw [List.map_cons, List.foldl_cons, kept, inductionHypothesis, List.reverse_cons,
        List.append_assoc]
      rfl

/-- The bytes of a text are not refused. -/
theorem decodeStrict_encode (text : List Char) : decodeStrict (encode text) = .ok text := by
  rw [decodeStrict, segments_encode]
  refine (congrArg (Except.map List.reverse)
    (foldl_chars (fun _ _ _ => ⟨_, rfl⟩) text [] 0)).trans ?_
  rw [Except.map, List.append_nil, List.reverse_reverse]

/-! ## Newlines -/

/-- A newline is read from its own byte only. -/
theorem Reads.newline_notMem {bytes : List UInt8} {text : List Char} (reads : Reads bytes text)
    (absent : 0x0A ∉ bytes) : '\n' ∉ text := by
  induction reads with
  | nil => exact List.not_mem_nil
  | char c _ inductionHypothesis =>
      rw [List.mem_append, not_or] at absent
      have different : '\n' ≠ c := by
        rintro rfl
        exact absent.1 (by decide)
      simpa [different] using inductionHypothesis absent.2
  | replaced _ _ inductionHypothesis =>
      rw [List.mem_append, not_or] at absent
      simpa using inductionHypothesis absent.2

/-- The byte of a newline is read as a newline whatever stands before it, and what stands behind it
is read as if it stood alone. -/
theorem decodeLossy_append_newline (before after : List UInt8) :
    decodeLossy (before ++ 0x0A :: after) = decodeLossy before ++ '\n' :: decodeLossy after := by
  obtain ⟨ended, read⟩ := run_newline (run .none before).1
  have split : before ++ 0x0A :: after = before ++ ([0x0A] ++ after) := by simp
  rw [split]
  simp only [decodeLossy, segments, run_append, ended, List.map_append, read, List.append_assoc]
  simp

/-- The lines of the text are the texts of the lines. -/
theorem splitOn_decodeLossy (bytes : List UInt8) :
    (decodeLossy bytes).splitOn '\n' = (bytes.splitOn 0x0A).map decodeLossy := by
  generalize size : bytes.length = length
  induction length using Nat.strongRecOn generalizing bytes with
  | ind length inductionHypothesis =>
      by_cases present : 0x0A ∈ bytes
      · obtain ⟨line, rest, rfl, absent⟩ := List.eq_append_cons_of_mem present
        have shorter : rest.length < length := by
          rw [← size, List.length_append, List.length_cons]
          omega
        have noNewline := (reads_decodeLossy line).newline_notMem absent
        rw [decodeLossy_append_newline, List.splitOn_append_cons_self_of_not_mem noNewline,
          List.splitOn_append_cons_self_of_not_mem absent, List.map_cons,
          inductionHypothesis rest.length shorter rest rfl]
      · have noNewline := (reads_decodeLossy bytes).newline_notMem present
        rw [List.splitOn_eq_singleton noNewline, List.splitOn_eq_singleton present, List.map_cons,
          List.map_nil]

end LintClient.Text.Utf8
