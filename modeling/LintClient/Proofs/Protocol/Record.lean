import LintClient.Proofs.Json.Line.Plain
import LintClient.Proofs.Json.Line.Values
import LintClient.Proofs.Protocol.Fields

/-!
# What lines are records

A text is a record exactly if it is made of characters and is a JSON object whose fields make one
that is sensible (`decodeText_accepts_records`). The fault of any other line is of one of four
kinds, which come in this order: the line is no JSON, no object, a field fails, or the fields do not
make sense together. All this is said for any limits of the reader, since they differ between its
releases.
-/

namespace LintClient.Protocol

open Json.Line

/-- The span denotes a range: lines and columns count from one, except that an empty span at the
start of a line ends in column zero, and the start does not come after the end. -/
structure Span.Denotes (span : Span) : Prop where
  firstLine : 1 ≤ span.lines.1
  lastLine : 1 ≤ span.lines.2
  firstColumn : 1 ≤ span.columns.1
  lastColumn : 0 ≤ span.columns.2
  ordered : span.lines.1 < span.lines.2 ∨
    span.lines.1 = span.lines.2 ∧ span.columns.1 - 1 ≤ span.columns.2

/-- The fields of a record make sense together. -/
structure Record.Sensible (record : Record) : Prop where
  span : ∀ lines columns, record.lines = some lines → record.columns = some columns →
    Span.Denotes ⟨lines, columns⟩
  named : record.kind = "variable" → ∃ name, record.name = some name ∧ name ≠ ""

/-- The line is a JSON object that makes the record, within the limits of a reader. Of a key that is
repeated the last value counts. -/
def IsRecord (limits : Limits) (line : List Char) (record : Record) : Prop :=
  ∃ pairs, DocumentText limits line (.object (Json.membersOf pairs)) ∧
    FieldsMake (Json.lastMember? · pairs) record ∧ record.Sensible

/-- Why a line is no record, and how that is worded. -/
inductive Explains (limits : Limits) (line : List Char) : String → Prop where
  | notJson (detail : String) (never : ∀ value, ¬ DocumentText limits line value) :
      Explains limits line ("Invalid JSON: " ++ detail)
  | notObject (value : Json) (isJson : DocumentText limits line value)
      (other : ∀ members, value ≠ .object members) :
      Explains limits line "Input should be an object"
  | fields (pairs : List (String × Json))
      (isJson : DocumentText limits line (.object (Json.membersOf pairs)))
      (fails : ∀ record, ¬ FieldsMake (Json.lastMember? · pairs) record)
      (found : fieldFaults (Json.lastMember? · pairs) ≠ []) :
      Explains limits line
        (joinedMessages ((fieldFaults (Json.lastMember? · pairs)).map FieldFault.message))
  | senseless (pairs : List (String × Json)) (record : Record) (detail : String)
      (isJson : DocumentText limits line (.object (Json.membersOf pairs)))
      (makes : FieldsMake (Json.lastMember? · pairs) record) (fails : ¬ record.Sensible) :
      Explains limits line ("Value error, " ++ detail)

/-! ## What fields mean together -/

/-- Nothing is wrong with a span exactly if it denotes a range. -/
theorem Span.fault?_eq_none_iff {span : Span} : span.fault? = none ↔ span.Denotes := by
  unfold Span.fault?
  constructor
  · intro none
    split at none
    · cases none
    · next inRange =>
      split at none
      · cases none
      · next ordered =>
        simp only [Bool.or_eq_true, Bool.and_eq_true, decide_eq_true_eq] at inRange ordered
        constructor <;> omega
  · rintro ⟨firstLine, lastLine, firstColumn, lastColumn, ordered⟩
    simp only [Bool.or_eq_true, Bool.and_eq_true, decide_eq_true_eq]
    rw [if_neg (by omega), if_neg (by omega)]

/-- What is wrong with a record is its span or its missing name. -/
theorem Record.fault?_cases (record : Record) :
    (∃ lines columns fault, record.lines = some lines ∧ record.columns = some columns ∧
      Span.fault? ⟨lines, columns⟩ = some fault ∧
        record.fault? = some (.span fault ⟨lines, columns⟩)) ∨
    (∀ lines columns, record.lines = some lines → record.columns = some columns →
      Span.Denotes ⟨lines, columns⟩) ∧
      record.fault? =
        if record.kind = "variable" && (record.name.getD "").isEmpty then some .unnamedVariable
        else none := by
  obtain ⟨kind, error, message, name, comment, usage, definitions, lines, columns⟩ := record
  cases lines with
  | none => exact .inr ⟨nofun, rfl⟩
  | some lines =>
      cases columns with
      | none => exact .inr ⟨nofun, rfl⟩
      | some columns =>
          cases found : Span.fault? ⟨lines, columns⟩ with
          | some fault =>
              refine .inl ⟨lines, columns, fault, rfl, rfl, found, ?_⟩
              simp [Record.fault?, Record.span?, found]
          | none =>
              refine .inr ⟨?_, ?_⟩
              · rintro _ _ ⟨⟩ ⟨⟩
                exact Span.fault?_eq_none_iff.mp found
              · simp [Record.fault?, Record.span?, found]

/-- Nothing is wrong with a record exactly if its fields make sense together. -/
theorem Record.fault?_eq_none_iff {record : Record} : record.fault? = none ↔ record.Sensible := by
  rcases record.fault?_cases with
    ⟨lines, columns, fault, sameLines, sameColumns, found, same⟩ | ⟨denotes, same⟩
  · rw [same]
    refine ⟨nofun, fun sensible => ?_⟩
    have none := Span.fault?_eq_none_iff.mpr (sensible.span lines columns sameLines sameColumns)
    cases none.symm.trans found
  · rw [same]
    constructor
    · intro none
      refine ⟨denotes, fun isVariable => ?_⟩
      cases known : record.name with
      | none => simp [isVariable, known] at none
      | some name =>
          refine ⟨name, rfl, ?_⟩
          rintro rfl
          simp [isVariable, known] at none
    · intro sensible
      rw [if_neg]
      intro unnamed
      rw [Bool.and_eq_true, decide_eq_true_eq] at unnamed
      obtain ⟨name, known, nonempty⟩ := sensible.named unnamed.1
      simp [known, nonempty] at unnamed

/-- A fault of a record is worded as one of its values. -/
theorem Record.fault?_message {record : Record} {fault : LineFault} (line : List Char)
    (found : record.fault? = some fault) :
    ∃ detail, fault.message line = "Value error, " ++ detail := by
  rcases record.fault?_cases with ⟨_, _, _, _, _, _, same⟩ | ⟨-, same⟩
  · obtain rfl := Option.some.inj (found.symm.trans same)
    exact ⟨_, rfl⟩
  · rw [same] at found
    split at found
    · obtain rfl := Option.some.inj found
      exact ⟨_, rfl⟩
    · cases found

/-! ## Lines -/

/-- A text that is made of characters is decoded by reading the characters as a record. -/
theorem decodeText_ofText (limits : Limits) (line : List Char) :
    decodeText limits (.ofText line) = (readRecordWithin limits line).mapError fun fault =>
      ⟨.ofText line, fault.message line⟩ := by
  simp only [decodeText, Text.Source.characters?_ofText]

/-- What makes a line a record is the reading of it. -/
theorem decodeText_ofText_eq_ok_iff {limits : Limits} {line : List Char} {record : Record} :
    decodeText limits (.ofText line) = .ok record ↔ readRecordWithin limits line = .ok record := by
  rw [decodeText_ofText]
  cases readRecordWithin limits line <;> simp [Except.mapError]

/-- A line of output is decoded by reading it as a record. -/
theorem decodeLine_eq (line : List Char) : decodeLine line =
    (readRecord line).mapError fun fault => ⟨.ofText line, fault.message line⟩ :=
  decodeText_ofText .ofReader line

/-- What makes a line of output a record is the reading of it. -/
theorem decodeLine_eq_ok_iff_readRecord {line : List Char} {record : Record} :
    decodeLine line = .ok record ↔ readRecord line = .ok record :=
  decodeText_ofText_eq_ok_iff

/-- The object that a line denotes is made of the members that it gives. -/
theorem exists_pairs {limits : Limits} {line : List Char} {members : List (String × Json)}
    (isJson : DocumentText limits line (.object members)) :
    ∃ pairs, members = Json.membersOf pairs := by
  obtain ⟨-, inner, -, -, -, -, isValue⟩ := isJson
  obtain ⟨list, same, -⟩ := exists_members isValue
  exact ⟨_, same⟩

/-- Of a key that is repeated the last value makes the record. -/
theorem recordOfMembers_membersOf_eq_ok_iff {pairs : List (String × Json)} {record : Record} :
    recordOfMembers (Json.membersOf pairs) = .ok record ↔
      FieldsMake (Json.lastMember? · pairs) record := by
  rw [recordOfMembers_eq_ok_iff]
  simp only [Json.member?_membersOf]

/-- An object is the record that its fields make, if that is sensible. -/
theorem recordOf_object_eq_ok_iff {members : List (String × Json)} {record : Record} :
    recordOf (.object members) = .ok record ↔
      FieldsMake (Json.member? · members) record ∧ record.Sensible := by
  rw [← recordOfMembers_eq_ok_iff, ← Record.fault?_eq_none_iff]
  constructor
  · intro found
    simp only [recordOf] at found
    split at found
    · cases found
    · next made makes =>
      split at found
      · cases found
      · next sound =>
        obtain rfl := Except.ok.inj found
        exact ⟨makes, sound⟩
  · rintro ⟨makes, sound⟩
    simp only [recordOf, makes, sound]

/-- What is read of a line that is an object. -/
theorem readRecordWithin_of_object {limits : Limits} {line : List Char}
    {members : List (String × Json)}
    (isJson : DocumentText limits line (.object members)) :
    readRecordWithin limits line = recordOf (.object members) := by
  simp only [readRecordWithin, document_eq_ok_iff.mpr isJson]

/-- A line is a record exactly if it is a JSON object whose fields make a sensible one. -/
theorem readRecordWithin_eq_ok_iff {limits : Limits} {line : List Char} {record : Record} :
    readRecordWithin limits line = .ok record ↔ IsRecord limits line record := by
  constructor
  · intro found
    unfold readRecordWithin at found
    split at found
    · cases found
    · next value isJson =>
      rw [Json.Line.document_eq_ok_iff] at isJson
      unfold recordOf at found
      split at found
      · next members =>
        obtain ⟨pairs, rfl⟩ := exists_pairs isJson
        split at found
        · cases found
        · next made makes =>
          split at found
          · cases found
          · next sensible =>
            obtain rfl := Except.ok.inj found
            exact ⟨pairs, isJson, recordOfMembers_membersOf_eq_ok_iff.mp makes,
              Record.fault?_eq_none_iff.mp sensible⟩
      · cases found
  · rintro ⟨pairs, isJson, makes, sensible⟩
    have made := recordOfMembers_membersOf_eq_ok_iff.mpr makes
    simp only [readRecordWithin, Json.Line.document_eq_ok_iff.mpr isJson, recordOf, made,
      Record.fault?_eq_none_iff.mpr sensible]

/-- What is read of a line of output that is an object. -/
theorem readRecord_of_object {line : List Char} {members : List (String × Json)}
    (isJson : DocumentText .ofReader line (.object members)) :
    readRecord line = recordOf (.object members) :=
  readRecordWithin_of_object isJson

/-- A line of output is read as a record exactly if it is one. -/
theorem readRecord_eq_ok_iff {line : List Char} {record : Record} :
    readRecord line = .ok record ↔ IsRecord .ofReader line record :=
  readRecordWithin_eq_ok_iff

/-- A line that is a record holds something. -/
theorem ne_nil_of_readRecord {line : List Char} {record : Record}
    (isRecord : readRecord line = .ok record) : line ≠ [] := by
  rintro rfl
  obtain ⟨pairs, ⟨before, inner, after, split, -, -, isValue⟩, -⟩ :=
    readRecord_eq_ok_iff.mp isRecord
  obtain ⟨first, others, starts, -⟩ := isValue.starts
  rw [starts] at split
  exact absurd split.symm (by simp)

/-- A line that is no record is refused for a reason that explains it. -/
theorem explains_of_readRecordWithin {limits : Limits} {line : List Char} {fault : LineFault}
    (found : readRecordWithin limits line = .error fault) :
    Explains limits line (fault.message line) := by
  unfold readRecordWithin at found
  split at found
  · next failure isFailure =>
    obtain rfl := Except.error.inj found
    refine .notJson _ (fun value isJson => ?_)
    cases isFailure.symm.trans (Json.Line.document_eq_ok_iff.mpr isJson)
  · next value isJson =>
    rw [Json.Line.document_eq_ok_iff] at isJson
    unfold recordOf at found
    split at found
    · next members =>
      obtain ⟨pairs, rfl⟩ := exists_pairs isJson
      have faults := faultsOf_recordOfMembers (Json.membersOf pairs)
      simp only [Json.member?_membersOf] at faults
      split at found
      · next reported failed =>
        obtain rfl := Except.error.inj found
        rw [failed] at faults
        have founded := founded_recordOfMembers (Json.membersOf pairs)
        change reported = fieldFaults _ at faults
        subst faults
        refine .fields pairs isJson (fun record makes => ?_) (fun nothing => ?_)
        · cases (recordOfMembers_membersOf_eq_ok_iff.mpr makes).symm.trans failed
        · rw [nothing] at failed
          exact founded failed
      · next made makes =>
        rw [recordOfMembers_membersOf_eq_ok_iff] at makes
        split at found
        · next senseless =>
          obtain rfl := Except.error.inj found
          obtain ⟨detail, worded⟩ := Record.fault?_message line senseless
          rw [worded]
          refine .senseless pairs made detail isJson makes (fun sensible => ?_)
          cases senseless.symm.trans (Record.fault?_eq_none_iff.mpr sensible)
        · cases found
    · next other =>
      obtain rfl := Except.error.inj found
      exact .notObject value isJson other

/-! ## How reasons begin -/

/-- The wordings of faults of fields begin in four ways. -/
theorem FieldFault.message_opening (fault : FieldFault) :
    fault.message.toList.take 3 ∈
      ["Fie".toList, "Inp".toList, "Tup".toList, "Una".toList] := by
  cases fault with
  | missing => decide
  | notText => decide
  | notArray => decide
  | notPair => decide
  | tooManyElements count =>
      show ("Tuple should have at most 2 items after validation, not " ++
        toString count).toList.take 3 ∈ _
      rw [String.toList_append, List.take_append_of_le_length (by decide)]
      decide
  | integer fault => cases fault <;> decide

/-- The wording of several faults begins like that of the first one. -/
theorem joinedMessages_opening {faults : List FieldFault} (some : faults ≠ []) :
    (joinedMessages (faults.map FieldFault.message)).toList.take 3 ∈
      ["Fie".toList, "Inp".toList, "Tup".toList, "Una".toList] := by
  obtain ⟨fault, others, rfl⟩ := List.exists_cons_of_ne_nil some
  have opening := fault.message_opening
  have long : 3 ≤ fault.message.toList.length := by
    have three : (fault.message.toList.take 3).length = 3 := by
      simp only [List.mem_cons, List.not_mem_nil, or_false] at opening
      rcases opening with same | same | same | same <;> (rw [same]; rfl)
    rw [List.length_take] at three
    omega
  cases others with
  | nil => simpa [joinedMessages] using opening
  | cons next others =>
      rw [joinedMessages, List.map_cons, List.map_cons, String.intercalate_cons_cons,
        String.toList_append, String.toList_append, List.append_assoc,
        List.take_append_of_le_length long]
      exact opening

/-- A reason begins with the words for a line that is no JSON exactly if the line is none. -/
theorem Explains.invalid_iff {limits : Limits} {line : List Char} {reason : String}
    (explains : Explains limits line reason) :
    "Invalid JSON".toList <+: reason.toList ↔ ∀ value, ¬ DocumentText limits line value := by
  have opens (begins : "Invalid JSON".toList <+: reason.toList) :
      reason.toList.take 3 = "Inv".toList := by
    obtain ⟨rest, same⟩ := begins
    rw [← same]
    rfl
  cases explains with
  | notJson detail never =>
      refine ⟨fun _ => never, fun _ => ?_⟩
      have words : "Invalid JSON".toList <+: "Invalid JSON: ".toList := by decide
      rw [String.toList_append]
      exact words.trans (List.prefix_append _ _)
  | notObject value isJson =>
      refine ⟨fun begins => ?_, fun never => absurd isJson (never value)⟩
      exact absurd (opens begins) (by decide)
  | fields pairs isJson _ found =>
      refine ⟨fun begins => ?_, fun never => absurd isJson (never _)⟩
      have opening := joinedMessages_opening found
      rw [opens begins] at opening
      exact absurd opening (by decide)
  | senseless pairs record detail isJson =>
      refine ⟨fun begins => ?_, fun never => absurd isJson (never _)⟩
      have opening := opens begins
      rw [String.toList_append, List.take_append_of_le_length (by decide)] at opening
      exact absurd opening (by decide)

/-! ## The grammar of records -/

/-- A text is decoded as a record exactly if it is one: a text of characters that is JSON within the
limits of the reader and denotes an object whose fields make a sensible record. Any other text is
given back as it is. If it is made of characters, it comes with the reason for the first of these
conditions that it does not meet, and the reason says that the JSON is invalid exactly if there is
none; a text with halves of surrogate pairs has a reason of its own. -/
theorem decodeText_accepts_records (limits : Limits) (text : Text.Source) :
    (∀ record, decodeText limits text = .ok record ↔
      ∃ line, text = .ofText line ∧ IsRecord limits line record) ∧
    ∀ refusal, decodeText limits text = .error refusal → refusal.line = text ∧
      ((∃ line, text = .ofText line ∧ Explains limits line refusal.reason ∧
          ("Invalid JSON".toList <+: refusal.reason.toList ↔
            ∀ value, ¬ DocumentText limits line value)) ∨
        (∀ line, text ≠ .ofText line) ∧ refusal.reason = notCharacters) := by
  refine ⟨?accepts, ?refuses⟩
  case accepts =>
    intro record
    constructor
    · intro found
      unfold decodeText at found
      split at found
      · cases found
      · next line characters =>
        obtain rfl := Text.Source.characters?_eq_some_iff.mp characters
        rw [← decodeText_ofText, decodeText_ofText_eq_ok_iff] at found
        exact ⟨line, rfl, readRecordWithin_eq_ok_iff.mp found⟩
    · rintro ⟨line, rfl, isRecord⟩
      exact decodeText_ofText_eq_ok_iff.mpr (readRecordWithin_eq_ok_iff.mpr isRecord)
  case refuses =>
    intro refusal refused
    unfold decodeText at refused
    split at refused
    · next stray =>
      obtain rfl := Except.error.inj refused
      refine ⟨rfl, .inr ⟨fun line same => ?_, rfl⟩⟩
      cases stray.symm.trans (Text.Source.characters?_eq_some_iff.mpr same)
    · next line characters =>
      obtain rfl := Text.Source.characters?_eq_some_iff.mp characters
      cases found : readRecordWithin limits line with
      | ok record =>
          rw [found] at refused
          cases refused
      | error fault =>
          rw [found] at refused
          obtain rfl := Except.error.inj refused
          have explains := explains_of_readRecordWithin found
          exact ⟨rfl, .inl ⟨line, rfl, explains, explains.invalid_iff⟩⟩

/-! ### Long numbers -/

/-- The line of a record that has a number as one more member in front. -/
def lineWithNumber (digits : List Char) : List Char :=
  ['\x7b', '"', 'n', '"', ':'] ++ (digits ++
    [',', '"', 't', 'y', 'p', 'e', '"', ':', '"', 'a', '"', '\x7d'])

/-- The members of that record. -/
def membersWithNumber (digits : List Char) : List Member :=
  [⟨[], ['n'], [], ['n'], [], digits, [], Json.ofNumeral ⟨false, digits, none, none⟩⟩,
    ⟨[], ['t', 'y', 'p', 'e'], [], ['t', 'y', 'p', 'e'], [], ['"', 'a', '"'], [], .str "a"⟩]

/-- The line is an object of the grammar, but for its number. -/
theorem lineWithNumber_eq (digits : List Char) : lineWithNumber digits =
    '\x7b' :: (commaJoined ((membersWithNumber digits).map Member.written) ++ ['\x7d']) := by
  simp [lineWithNumber, membersWithNumber, commaJoined, Member.written, Item.written]

/-- A string of plain characters spells itself. -/
theorem stringText_self {chars : List Char}
    (plain : chars.all (fun c => 0x20 ≤ c.toNat && c != '"' && c != '\\') = true) :
    StringText chars chars := by
  induction chars with
  | nil => exact .nil
  | cons c chars inductionHypothesis =>
      simp only [List.all_cons, Bool.and_eq_true, decide_eq_true_eq, bne_iff_ne] at plain
      obtain ⟨⟨⟨printable, notQuote⟩, notBackslash⟩, others⟩ := plain
      exact .cons (.plain printable notQuote notBackslash) (inductionHypothesis others)

/-- A number for whose digits there is room makes the line a record. -/
theorem isRecord_lineWithNumber {limits : Limits} {digits : List Char} (nested : 1 ≤ limits.depth)
    (isWhole : WholeDigits (limits.room false) digits) :
    IsRecord limits (lineWithNumber digits)
      ⟨"a", none, none, none, none, [], [], none, none⟩ := by
  refine ⟨(membersWithNumber digits).map Member.pair, ⟨[], lineWithNumber digits, [], by simp,
    gap_nil, gap_nil, ?isObject⟩, ?makes, ⟨nofun, nofun⟩⟩
  case isObject =>
    rw [lineWithNumber_eq]
    refine .object (Nat.zero_le _) (by simp [membersWithNumber]) ?keys ?gaps ?values
    case keys =>
      simp only [membersWithNumber, List.forall_mem_cons, List.not_mem_nil, false_implies,
        implies_true, and_true]
      exact ⟨⟨gap_nil, stringText_self (by decide), gap_nil⟩, gap_nil, stringText_self (by decide),
        gap_nil⟩
    case gaps =>
      simp only [membersWithNumber, List.forall_mem_cons, List.not_mem_nil, false_implies,
        implies_true, and_true]
      exact ⟨⟨gap_nil, gap_nil⟩, gap_nil, gap_nil⟩
    case values =>
      simp only [membersWithNumber, List.forall_mem_cons, List.not_mem_nil, false_implies,
        implies_true, and_true]
      have isNumber := NumberText.parts false isWhole .absent .absent
      simp only [Bool.false_eq_true, ↓reduceIte, List.nil_append, List.append_nil] at isNumber
      have isText : StringText ['a'] ['a'] := stringText_self (by decide)
      exact ⟨.number nested isNumber, .string nested isText⟩
  case makes =>
    constructor <;> simp [membersWithNumber, Member.pair, Json.lastMember?, Json.lookup_cons] <;>
      constructor

/-- A number for whose digits there is no room makes it a line that is not decoded. -/
theorem decodeText_lineWithNumber {limits : Limits} {room : Option Nat} {limit : Nat}
    {digits : List Char} (isWhole : WholeDigits room digits)
    (limited : limits.room false = some limit) (long : limit < digits.length) (record : Record) :
    decodeText limits (.ofText (lineWithNumber digits)) ≠ .ok record := by
  have startsDigit :
      ∃ first rest, digits = first :: rest ∧ Json.isGap first = false ∧ first ≠ ']' := by
    obtain ⟨digit, others, rfl⟩ := List.exists_cons_of_ne_nil isWhole.nonempty
    have isDigit := isWhole.digits digit List.mem_cons_self
    exact ⟨digit, others, rfl, isGap_of_isAsciiDigit isDigit, ne_of_isAsciiDigit isDigit rfl⟩
  have isKey : StringText ['n'] ['n'] := stringText_self (by decide)
  have refused : IsRefused limits 0 (lineWithNumber digits) := by
    rw [lineWithNumber_eq, membersWithNumber]
    exact isRefused_object gap_nil isKey gap_nil gap_nil gap_nil startsDigit
      (isRefused_number isWhole limited long)
  have starts : ∃ first rest,
      lineWithNumber digits = first :: rest ∧ Json.isGap first = false ∧ first ≠ ']' :=
    ⟨_, _, lineWithNumber_eq digits, by decide, by decide⟩
  obtain ⟨failure, found⟩ := document_isRefused starts refused
  simp [decodeText_ofText, readRecordWithin, found, Except.mapError]

/-- Without its limit on digits, the grammar has a record that is not decoded. -/
theorem decodeLine_refuses_long_number :
    (∃ record, IsRecord ⟨200, none, false⟩ (lineWithNumber (List.replicate 4301 '1')) record) ∧
      ¬ ∃ record, decodeLine (lineWithNumber (List.replicate 4301 '1')) = .ok record := by
  have isWhole : WholeDigits none (List.replicate 4301 '1') := by
    refine ⟨⟨List.cons_ne_nil _ _, ?_⟩, fun rest starts => ?_, nofun⟩
    · intro c there
      rw [List.eq_of_mem_replicate there]
      rfl
    · cases List.eq_of_mem_replicate (starts ▸ List.mem_cons_self : '0' ∈ List.replicate 4301 '1')
  have nested : 1 ≤ (Limits.mk 200 none false).depth := by decide
  refine ⟨⟨_, isRecord_lineWithNumber nested isWhole⟩, ?_⟩
  rintro ⟨record, found⟩
  refine decodeText_lineWithNumber isWhole rfl ?_ record found
  rw [List.length_replicate]
  decide

end LintClient.Protocol
