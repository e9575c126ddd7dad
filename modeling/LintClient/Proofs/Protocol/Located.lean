import LintClient.Proofs.Json.Line.Plain
import LintClient.Proofs.Protocol.Places

/-!
# Located errors and places

Lines and columns are given at two places: in the record of a diagnostic, and in the items of the
lists of places of a variable. They are checked in different ways, and both ways accept the same
ones and make the same range of them (`error_accepted_iff_place_kept`).
-/

namespace LintClient.Protocol

open Json.Line

/-- An object is an error with these lines and columns and nothing else that counts. -/
structure LocatesError (lines columns : Json) (members : List (String × Json)) : Prop where
  kind : Json.member? "type" members = some (.str "error")
  lines : Json.member? "line" members = some lines
  columns : Json.member? "column" members = some columns
  others : ∀ name ∈ ["error", "message", "variable", "comment", "usage", "definitions"],
    Json.member? name members = none

/-- The record is a variable that gives the item between other ones. -/
structure GivesPlace (role : PlaceRole) (before : List Json) (item : Json) (after : List Json)
    (record : Record) : Prop where
  kind : record.kind = "variable"
  places : record.places role = before ++ item :: after

/-- A variable has been said that has the range at the place of an item between other ones. -/
def KeepsPlace (role : PlaceRole) (before after : List Json) (said : Findings) (range : Range) :
    Prop :=
  ∃ entry, said.entries = [.symbol entry] ∧
    entry.ranges role = before.filterMap rangeOf? ++ range :: after.filterMap rangeOf?

/-! ## Errors -/

/-- A pair that is given and not null is a pair. -/
theorem isOptionalPair_some_iff {value : Json} (notNull : value ≠ .null)
    {numbers : Option (Int × Int)} :
    IsOptionalPair (some value) numbers ↔ ∃ pair, numbers = some pair ∧ IsPair value pair := by
  constructor
  · intro isPair
    cases isPair with
    | null => exact absurd rfl notNull
    | pair isFirst isSecond => exact ⟨_, rfl, .pair isFirst isSecond⟩
  · rintro ⟨_, rfl, isFirst, isSecond⟩
    exact .pair isFirst isSecond

/-- The error record that a span is put into. -/
def errorRecord (span : Span) : Record :=
  ⟨"error", none, none, none, none, [], [], some span.lines, some span.columns⟩

/-- An error with a place is found with its range. -/
theorem entries_errorRecord (span : Span) :
    (errorRecord span).findings.entries = [.error ⟨"", some span.toRange⟩] := by
  have kind : (errorRecord span).kind = "error" := rfl
  rw [Record.findings, if_pos kind]
  rfl

section Errors

variable {lines columns : Json} {members : List (String × Json)}
  (isError : LocatesError lines columns members)

include isError

/-- An error whose lines and columns make a span that denotes a range is the record of the span. -/
theorem LocatesError.recordOf_eq {span : Span} (isLines : IsPair lines span.lines)
    (isColumns : IsPair columns span.columns) (denotes : span.Denotes) :
    recordOf (.object members) = .ok (errorRecord span) := by
  have absent (name : String)
      (other : name ∈ ["error", "message", "variable", "comment", "usage", "definitions"]) :
      IsOptionalText (Json.member? name members) none ∧
        IsOptionalList (Json.member? name members) [] := by
    rw [isError.others name other]
    exact ⟨.absent, .absent⟩
  have notNull {value : Json} {numbers : Int × Int} (isPair : IsPair value numbers) :
      value ≠ .null := by
    rintro rfl
    cases isPair
  have isLine : IsOptionalPair (Json.member? "line" members) (some span.lines) := by
    rw [isError.lines, isOptionalPair_some_iff (notNull isLines)]
    exact ⟨_, rfl, isLines⟩
  have isColumn : IsOptionalPair (Json.member? "column" members) (some span.columns) := by
    rw [isError.columns, isOptionalPair_some_iff (notNull isColumns)]
    exact ⟨_, rfl, isColumns⟩
  refine recordOf_object_eq_ok_iff.mpr ⟨?makes, ?span, ?named⟩
  case makes =>
    exact ⟨isError.kind, (absent "error" (by decide)).1, (absent "message" (by decide)).1,
      (absent "variable" (by decide)).1, (absent "comment" (by decide)).1,
      (absent "usage" (by decide)).2, (absent "definitions" (by decide)).2, isLine, isColumn⟩
  case span =>
    rintro _ _ ⟨⟩ ⟨⟩
    exact denotes
  case named =>
    intro isVariable
    have isError : (errorRecord span).kind = "error" := rfl
    rw [isError] at isVariable
    exact absurd isVariable (by decide)

/-- An error is a record exactly if its lines and columns locate a range. -/
theorem LocatesError.exists_recordOf_iff (someLines : lines ≠ .null)
    (someColumns : columns ≠ .null) :
    (∃ record, recordOf (.object members) = .ok record) ↔ ∃ range, Locates lines columns range := by
  constructor
  · rintro ⟨record, found⟩
    obtain ⟨makes, sensible⟩ := recordOf_object_eq_ok_iff.mp found
    have isLines := makes.lines
    have isColumns := makes.columns
    rw [isError.lines, isOptionalPair_some_iff someLines] at isLines
    rw [isError.columns, isOptionalPair_some_iff someColumns] at isColumns
    obtain ⟨linePair, givesLines, isLines⟩ := isLines
    obtain ⟨columnPair, givesColumns, isColumns⟩ := isColumns
    have denotes := sensible.span linePair columnPair givesLines givesColumns
    exact ⟨_, .span isLines isColumns denotes⟩
  · rintro ⟨_, isLines, isColumns, denotes⟩
    exact ⟨_, isError.recordOf_eq isLines isColumns denotes⟩

/-- An error says the diagnostic at the range that its lines and columns locate. -/
theorem LocatesError.entries_eq {record : Record} (found : recordOf (.object members) = .ok record)
    {range : Range} (locates : Locates lines columns range) :
    record.findings.entries = [.error ⟨"", some range⟩] := by
  obtain ⟨isLines, isColumns, denotes⟩ := locates
  obtain rfl := Except.ok.inj (found.symm.trans (isError.recordOf_eq isLines isColumns denotes))
  exact entries_errorRecord _

end Errors

/-! ## Places -/

/-- An item of a list of places is kept as a range exactly if its lines and columns locate it. -/
theorem GivesPlace.keepsPlace_iff {role : PlaceRole} {before after : List Json} {item : Json}
    {record : Record} (gives : GivesPlace role before item after record) {lines columns : Json}
    (isItem : Gives item lines columns) {range : Range} :
    KeepsPlace role before after record.findings range ↔ Locates lines columns range := by
  have entries : record.findings.entries = [.symbol record.symbol] := by
    rw [Record.findings_of_variable gives.kind]
  have ranges : record.symbol.ranges role = before.filterMap rangeOf? ++
      ((rangeOf? item).toList ++ after.filterMap rangeOf?) := by
    rw [Record.ranges_symbol, gives.places, List.filterMap_append, List.filterMap_cons]
    cases rangeOf? item <;> rfl
  have isPlace : IsPlace item range ↔ Locates lines columns range := by
    obtain ⟨givesLines, givesColumns⟩ := isItem
    constructor
    · rintro ⟨_, _, ⟨alsoLines, alsoColumns⟩, locates⟩
      obtain rfl := Option.some.inj (givesLines.symm.trans alsoLines)
      obtain rfl := Option.some.inj (givesColumns.symm.trans alsoColumns)
      exact locates
    · exact fun locates => ⟨_, _, .object givesLines givesColumns, locates⟩
  rw [← isPlace, ← rangeOf?_eq_some_iff]
  constructor
  · rintro ⟨entry, said, kept⟩
    rw [entries] at said
    cases said
    rw [ranges, List.append_cancel_left_eq] at kept
    cases found : rangeOf? item with
    | none =>
        rw [found] at kept
        exact absurd (congrArg List.length kept) (by simp)
    | some other =>
        rw [found] at kept
        obtain rfl := (List.cons.inj kept).1
        rfl
  · intro found
    refine ⟨record.symbol, entries, ?_⟩
    rw [ranges, found]
    rfl

/-! ### A place for lines and columns -/

section Making

variable {limits : Limits}

/-- A pair has a text wherever there is room for it. -/
theorem exists_pairText {enclosing place : Nat} {text : List Char} {value : Json}
    {numbers : Int × Int} (isValue : ValueText limits enclosing text value)
    (isPair : IsPair value numbers) (room : place + 1 ≤ limits.depth) :
    ∃ other, ValueText limits place other value := by
  have flat {part : Json} {number : Int} (counts : CountsAs part number) : part.Flat := by
    cases counts <;> trivial
  obtain ⟨isFirst, isSecond⟩ := isPair
  obtain ⟨items, made, texts⟩ := exists_items isValue
  match items, made, texts with
  | [first, second], made, texts =>
    cases made
    have firstText := (texts first (by simp)).value.moved (flat isFirst) room
    have secondText := (texts second (by simp)).value.moved (flat isSecond) room
    refine ⟨listText [plainItem first.text first.value, plainItem second.text second.value], ?_⟩
    refine valueText_listText (Nat.le_of_succ_le room) (List.cons_ne_nil _ _) ?_
    simp only [List.forall_mem_cons, List.not_mem_nil, false_implies, implies_true, and_true]
    exact ⟨itemText_plain firstText, itemText_plain secondText⟩

/-- The members that give lines and columns. -/
def placeMembers (lineText columnText : List Char) (lines columns : Json) : List Member :=
  [plainMember "line".toList lineText lines, plainMember "column".toList columnText columns]

/-- The members give the values of the place, and nothing else. -/
theorem gives_placeMembers (lineText columnText : List Char) (lines columns : Json) :
    Gives (.object (Json.membersOf
      ((placeMembers lineText columnText lines columns).map Member.pair))) lines columns := by
  constructor <;>
    simp [Json.member?_membersOf, Json.lastMember?, Json.lookup_cons, placeMembers]

/-- The members of a place are written as an object, if their values are written. -/
theorem valueText_placeMembers {enclosing : Nat} (room : enclosing ≤ limits.depth)
    {lineText columnText : List Char} {lines columns : Json}
    (isLine : ValueText limits (enclosing + 1) lineText lines)
    (isColumn : ValueText limits (enclosing + 1) columnText columns) :
    ValueText limits enclosing (objectText (placeMembers lineText columnText lines columns))
      (.object (Json.membersOf
        ((placeMembers lineText columnText lines columns).map Member.pair))) := by
  refine valueText_objectText room (List.cons_ne_nil _ _) ?_
  simp only [placeMembers, List.forall_mem_cons, List.not_mem_nil, false_implies, implies_true,
    and_true]
  exact ⟨memberText_plain (stringText_self (by decide)) isLine,
    memberText_plain (stringText_self (by decide)) isColumn⟩

/-- A variable can be given any item as its only place. -/
theorem exists_givesPlace (role : PlaceRole) {text : List Char} {item : Json}
    (isItem : ValueText .ofReader 2 text item) :
    ∃ line record, decodeLine line = .ok record ∧ GivesPlace role [] item [] record := by
  have isList : ValueText .ofReader 1 (listText [plainItem text item]) (.list [item]) :=
    valueText_listText (by decide) (List.cons_ne_nil _ _)
      (List.forall_mem_singleton.mpr (itemText_plain isItem))
  exact ⟨_, _, decodeLine_eq_ok_iff_readRecord.mpr (readRecord_variableMembers isList), rfl,
    places_variableWith role [item]⟩

end Making

/-- If lines and columns of an error locate a range there is a variable with this place. -/
theorem LocatesError.exists_givesPlace {lines columns : Json} {members : List (String × Json)}
    (isError : LocatesError lines columns members) {line : List Char}
    (isJson : DocumentText .ofReader line (.object members)) {range : Range}
    (locates : Locates lines columns range) (role : PlaceRole) : ∃ item other record,
      Gives item lines columns ∧ decodeLine other = .ok record ∧
        GivesPlace role [] item [] record := by
  obtain ⟨isLines, isColumns, -⟩ := locates
  obtain ⟨-, inner, -, -, -, -, isObject⟩ := isJson
  obtain ⟨_, isLineText⟩ := exists_valueText_of_member? isObject isError.lines
  obtain ⟨_, isColumnText⟩ := exists_valueText_of_member? isObject isError.columns
  obtain ⟨lineText, isLine⟩ :=
    exists_pairText isLineText isLines (show 3 + 1 ≤ Limits.ofReader.depth by decide)
  obtain ⟨columnText, isColumn⟩ :=
    exists_pairText isColumnText isColumns (show 3 + 1 ≤ Limits.ofReader.depth by decide)
  have isItem := valueText_placeMembers (show 2 ≤ Limits.ofReader.depth by decide) isLine isColumn
  obtain ⟨other, record, gives⟩ := Protocol.exists_givesPlace role isItem
  exact ⟨_, other, record, gives_placeMembers lineText columnText lines columns, gives⟩

/-! ## Both ways -/

/-- An error with lines and columns is accepted exactly if an item with the same lines and columns
is kept as a place of a variable, in either role and wherever among its places the item stands, and
then the range of the place is the range of the error. This goes for all values as lines and
columns. It goes for lines of output as well, within the limits of the reader: for every line with a
variable that is accepted with the item, and if the error is accepted there is such a line. -/
theorem error_accepted_iff_place_kept {lines columns : Json} (someLines : lines ≠ .null)
    (someColumns : columns ≠ .null) {members : List (String × Json)}
    (isError : LocatesError lines columns members) (role : PlaceRole) :
    (∀ record before item after, Gives item lines columns →
      GivesPlace role before item after record →
      ((∃ error, recordOf (.object members) = .ok error) ↔
        ∃ range, KeepsPlace role before after record.findings range) ∧
      ∀ error range, recordOf (.object members) = .ok error →
        KeepsPlace role before after record.findings range →
          error.findings.entries = [.error ⟨"", some range⟩]) ∧
    ∀ line, DocumentText ⟨200, some 4300, false⟩ line (.object members) →
      ((∃ error, decodeLine line = .ok error) ↔
        ∃ other record item range, decodeLine other = .ok record ∧ Gives item lines columns ∧
          GivesPlace role [] item [] record ∧ KeepsPlace role [] [] (readLine other) range) ∧
      ∀ other record before item after, decodeLine other = .ok record → Gives item lines columns →
        GivesPlace role before item after record →
          ((∃ error, decodeLine line = .ok error) ↔
            ∃ range, KeepsPlace role before after (readLine other) range) ∧
          ∀ range, KeepsPlace role before after (readLine other) range →
            (readLine line).entries = [.error ⟨"", some range⟩] := by
  have accepted := isError.exists_recordOf_iff someLines someColumns
  have values : ∀ record before item after, Gives item lines columns →
      GivesPlace role before item after record →
        ((∃ error, recordOf (.object members) = .ok error) ↔
          ∃ range, KeepsPlace role before after record.findings range) ∧
        ∀ error range, recordOf (.object members) = .ok error →
          KeepsPlace role before after record.findings range →
            error.findings.entries = [.error ⟨"", some range⟩] := by
    intro record before item after isItem gives
    refine ⟨accepted.trans (exists_congr fun range => (gives.keepsPlace_iff isItem).symm), ?_⟩
    intro error range found keeps
    exact isError.entries_eq found ((gives.keepsPlace_iff isItem).mp keeps)
  refine ⟨values, fun line isJson => ?_⟩
  have decoded (error : Record) :
      decodeLine line = .ok error ↔ recordOf (.object members) = .ok error := by
    rw [decodeLine_eq_ok_iff_readRecord, readRecord_of_object isJson]
  simp only [decoded]
  refine ⟨?some, ?every⟩
  case some =>
    rw [accepted]
    constructor
    · rintro ⟨range, locates⟩
      obtain ⟨item, other, record, isItem, isRecord, gives⟩ :=
        isError.exists_givesPlace isJson locates role
      refine ⟨other, record, item, range, isRecord, isItem, gives, ?_⟩
      rw [readLine_of_decodeLine isRecord]
      exact (gives.keepsPlace_iff isItem).mpr locates
    · rintro ⟨_, _, _, range, isRecord, isItem, gives, keeps⟩
      rw [readLine_of_decodeLine isRecord] at keeps
      exact ⟨range, (gives.keepsPlace_iff isItem).mp keeps⟩
  case every =>
    intro other record before item after isRecord isItem gives
    obtain ⟨both, same⟩ := values record before item after isItem gives
    rw [readLine_of_decodeLine isRecord]
    refine ⟨both, fun range keeps => ?_⟩
    obtain ⟨error, found⟩ := both.mpr ⟨range, keeps⟩
    rw [readLine_of_decodeLine ((decoded error).mpr found)]
    exact same error range found keeps

/-- The text of a list of two truths, which count as ones. -/
def truthsText : List Char :=
  listText [plainItem "true".toList (.bool true), plainItem "true".toList (.bool true)]

/-- A list of two truths. -/
def truths : Json :=
  .list [.bool true, .bool true]

/-- The members of an error that is located by truths. -/
def truthfulMembers : List Member :=
  textMember "type".toList "error".toList :: placeMembers truthsText truthsText truths truths

/-- Truth values locate an error, and they locate a place. -/
theorem error_accepted_iff_place_kept_truths :
    DocumentText ⟨200, some 4300, false⟩ (objectText truthfulMembers)
      (.object (Json.membersOf (truthfulMembers.map Member.pair))) ∧
    LocatesError truths truths (Json.membersOf (truthfulMembers.map Member.pair)) ∧
    (∃ record, decodeLine (objectText truthfulMembers) = .ok record) ∧
    ∃ other record item range, decodeLine other = .ok record ∧ Gives item truths truths ∧
      GivesPlace .usage [] item [] record ∧ KeepsPlace .usage [] [] (readLine other) range := by
  have isTruths : ValueText .ofReader 1 truthsText truths := by
    have isTrue : ValueText .ofReader 2 "true".toList (.bool true) :=
      .name (by decide) (by simp [names])
    refine valueText_listText (by decide) (List.cons_ne_nil _ _) ?_
    simpa using itemText_plain isTrue
  have isJson : DocumentText .ofReader (objectText truthfulMembers)
      (.object (Json.membersOf (truthfulMembers.map Member.pair))) := by
    refine documentText_objectText (List.cons_ne_nil _ _) ?_
    simp only [truthfulMembers, placeMembers, List.forall_mem_cons, List.not_mem_nil, false_implies,
      implies_true, and_true]
    exact ⟨memberText_text (stringText_self (by decide)) (by decide) (stringText_self (by decide)),
      memberText_plain (stringText_self (by decide)) isTruths,
      memberText_plain (stringText_self (by decide)) isTruths⟩
  have isError : LocatesError truths truths (Json.membersOf (truthfulMembers.map Member.pair)) := by
    constructor <;>
      simp [Json.member?_membersOf, Json.lastMember?, Json.lookup_cons, truthfulMembers,
        placeMembers]
  have some : truths ≠ .null := by simp [truths]
  have isOnes : IsPair truths (1, 1) := .pair (.bool true) (.bool true)
  have locates : Locates truths truths (Span.toRange ⟨(1, 1), (1, 1)⟩) :=
    .span isOnes isOnes (by constructor <;> decide)
  have decoded : ∃ record, decodeLine (objectText truthfulMembers) = .ok record := by
    simp only [decodeLine_eq_ok_iff_readRecord, readRecord_of_object isJson]
    exact (isError.exists_recordOf_iff some some).mpr ⟨_, locates⟩
  have onLines := (error_accepted_iff_place_kept some some isError .usage).2 _ isJson
  exact ⟨isJson, isError, decoded, onLines.1.mp decoded⟩

end LintClient.Protocol
