import LintClient.Log.Header
import LintClient.Proofs.Results
import LintClient.Proofs.Text.Pieces
import Mathlib.Data.List.Forall2

/-!
# The box of a header

The header of a session is a closed box around one row for each item of its metadata that has a
value (`header_isBox`). The box is as wide as its longest row asks for, and the values stand in one
column behind the longest key; both widths are greatest lengths, so every row is padded and none is
cut. An integer with too many digits has no text, so there is no header with it, and neither is
there one with halves of surrogate pairs.
-/

namespace LintClient.Log

open Text (Source)

/-! ## Widths -/

/-- The widest of some texts is as wide as all of them. -/
theorem widest_le_iff {texts : List (List Char)} {bound : Nat} :
    widest texts ≤ bound ↔ ∀ text ∈ texts, text.length ≤ bound := by
  have folded : ∀ (lengths : List Nat) (least : Nat),
      lengths.foldl max least ≤ bound ↔ least ≤ bound ∧ ∀ length ∈ lengths, length ≤ bound := by
    intro lengths
    induction lengths with
    | nil => simp
    | cons length lengths inductionHypothesis =>
        intro least
        rw [List.foldl_cons, inductionHypothesis, Nat.max_le, List.forall_mem_cons, and_assoc]
  rw [widest, folded]
  simp

/-- No text is wider than the widest. -/
theorem length_le_widest {texts : List (List Char)} {text : List Char} (there : text ∈ texts) :
    text.length ≤ widest texts :=
  widest_le_iff.mp (Nat.le_refl _) text there

/-- One of some texts is the widest. -/
theorem exists_length_eq_widest {texts : List (List Char)} (nonempty : texts ≠ []) :
    ∃ text ∈ texts, text.length = widest texts := by
  by_contra none
  have shorter : ∀ text ∈ texts, text.length ≤ widest texts - 1 := fun text there => by
    have different : text.length ≠ widest texts := fun same => none ⟨text, there, same⟩
    have atMost := length_le_widest there
    omega
  have bound := widest_le_iff.mpr shorter
  obtain ⟨text, others, rfl⟩ := List.exists_cons_of_ne_nil nonempty
  have different : text.length ≠ widest (text :: others) := fun same =>
    none ⟨text, List.mem_cons_self, same⟩
  have atMost := length_le_widest (List.mem_cons_self : text ∈ text :: others)
  omega

/-- A text that fits is padded to the width. -/
theorem length_padEnd {width : Nat} {text : List Char} (fits : text.length ≤ width) :
    (padEnd width text).length = width := by
  simp [padEnd, fits]

/-- A text that fits is padded to the width on both sides. -/
theorem length_padAround {width : Nat} {text : List Char} (fits : text.length ≤ width) :
    (padAround width text).length = width := by
  refine length_padEnd ?_
  rw [List.length_append, List.length_replicate]
  omega

/-- The frame adds one character on each side. -/
@[simp] theorem length_boxRow (content : List Char) :
    (boxRow content).length = content.length + 2 := by
  simp [boxRow]

/-- A horizontal line is as wide as the box, corners included. -/
@[simp] theorem length_ruler (width : Nat) (left right : Char) :
    (ruler width left right).length = width + 2 := by
  simp [ruler]

/-- Every content fits into the box. -/
theorem fits_boxWidth {contents : List (List Char)} {content : List Char}
    (there : content ∈ contents) :
    content.length ≤ boxWidth contents := by
  have atMost := length_le_widest there
  have margin : widest contents + 2 ≤ boxWidth contents := Nat.le_max_left _ _
  omega

/-- The title fits into every box. -/
theorem title_fits (contents : List (List Char)) : title.length ≤ boxWidth contents :=
  Nat.le_trans (by decide) (Nat.le_max_right _ _)

/-- All rows of a box have the same width. -/
theorem length_of_mem_boxRows {contents : List (List Char)} {row : List Char}
    (there : row ∈ boxRows contents) : row.length = boxWidth contents + 2 := by
  simp only [boxRows, List.mem_append, List.mem_cons, List.mem_map, List.not_mem_nil,
    or_false] at there
  rcases there with ((rfl | rfl | rfl) | ⟨content, among, rfl⟩) | rfl
  · exact length_ruler _ _ _
  · rw [length_boxRow, length_padAround (title_fits contents)]
  · exact length_ruler _ _ _
  · rw [length_boxRow, length_padEnd (fits_boxWidth among)]
  · exact length_ruler _ _ _

/-! ## The header -/

/-- A value has a text if its integers are short enough and it is made of characters. -/
theorem plainText_eq_ok_iff {value : Json} :
    (∃ text, value.plainText = .ok text) ↔ value.isWritable = true ∧ value.isStray = false := by
  rw [Json.plainText]
  cases value.isWritable <;> cases value.isStray <;> simp

/-- The texts in the rows of items. -/
def rowTexts (items : Metadata) : List (String × String) :=
  items.map fun item => (item.1, rowText item.2)

/-- There is a header if some item has a value, all integers are short enough, and there are no
halves of surrogate pairs in the values. -/
theorem header_eq (metadata : Metadata) : header metadata =
    if metadata.present = [] then .error .empty
    else if metadata.present.all (·.2.isWritable) then
      match strayRun? metadata.present (rowTexts metadata.present) with
      | some run => .error (.unwritable run)
      | none => .ok (String.ofList
          ((boxRows (contentRows (rowTexts metadata.present))).flatMap (· ++ ['\n'])))
    else .error (.misuse .tooManyDigits) := by
  have texts : metadata.present.mapM itemText =
      if metadata.present.all (·.2.isWritable) then .ok (rowTexts metadata.present)
      else .error .tooManyDigits := by
    have decided (item : String × Json) : itemText (id item) =
        if item.2.isWritable then .ok (item.1, rowText item.2) else .error .tooManyDigits := rfl
    simpa [rowTexts] using mapM_map_of_decided decided metadata.present
  rw [header]
  split
  · next nothing => rw [if_pos nothing]
  · next nonempty =>
    rw [if_neg (nonempty ·), texts]
    split <;> rfl

/-- The items of metadata with the texts of their values. -/
def itemTexts (items : Metadata) : List (String × String) :=
  items.map fun item => (item.1, item.2.plain)

/-- A value that is made of characters is shown in its row as it is. -/
theorem rowText_eq_plain {value : Json} (clean : value.isStray = false) :
    rowText value = value.plain := by
  cases value with
  | stray text => cases clean
  | _ => rfl

/-- Values that are made of characters are shown in their rows as they are. -/
theorem rowTexts_eq_itemTexts {items : Metadata} (clean : ∀ item ∈ items, item.2.isStray = false) :
    rowTexts items = itemTexts items :=
  List.map_congr_left fun item there => by rw [rowText_eq_plain (clean item there)]

/-- Halves of surrogate pairs in a header come from a value. -/
theorem exists_stray_of_strayRun? {items : Metadata} {texts : List (String × String)}
    {run : Source.StrayRun} (found : strayRun? items texts = some run) :
    ∃ item ∈ items, item.2.isStray = true := by
  obtain ⟨⟨item, index⟩, among, run⟩ := List.exists_of_findSome?_eq_some found
  refine ⟨item, List.fst_mem_of_mem_zipIdx among, ?_⟩
  cases value : item.2 with
  | stray text => rfl
  | _ => simp [value] at run

/-- The header for values that have texts. -/
theorem header_of_haveTexts {metadata : Metadata}
    (haveTexts : ∀ item ∈ metadata.present, ∃ text, item.2.plainText = .ok text) :
    header metadata = if metadata.present = [] then .error .empty else
      .ok (String.ofList
        ((boxRows (contentRows (itemTexts metadata.present))).flatMap (· ++ ['\n']))) := by
  have known : ∀ item ∈ metadata.present, item.2.isWritable = true ∧ item.2.isStray = false :=
    fun item there => plainText_eq_ok_iff.mp (haveTexts item there)
  have clean : ∀ item ∈ metadata.present, item.2.isStray = false := fun item there =>
    (known item there).2
  have noRun : strayRun? metadata.present (rowTexts metadata.present) = none := by
    rw [Option.eq_none_iff_forall_ne_some]
    intro run found
    obtain ⟨item, there, isStray⟩ := exists_stray_of_strayRun? found
    rw [clean item there] at isStray
    cases isStray
  rw [header_eq, if_pos (List.all_eq_true.mpr fun item there => (known item there).1), noRun,
    rowTexts_eq_itemTexts clean]

/-! ## The box -/

/-- A row tells about an item: behind two blanks stand the key with a colon, then blanks up to a
column and the complete value. -/
def LinesUp (column : Nat) (item : String × Json) (content : List Char) : Prop :=
  ∃ front blanks, content = front ++ item.2.plain.toList ∧ front.length = column ∧
    front = [' ', ' '] ++ item.1.toList ++ [':'] ++ List.replicate blanks ' '

/-- A row of a box holds a content, with blanks behind it. -/
def Holds (content row : List Char) : Prop :=
  ∃ blanks, row = '│' :: (content ++ List.replicate blanks ' ') ++ ['│']

/-- Rows are a closed box around the items of metadata, with an inner width for which the longest
content or the least width decides. -/
structure IsBox (items : Metadata) (rows contents : List (List Char)) (column longest : Nat) :
    Prop where
  /-- Every item has its content, in order, and all values start in one column. -/
  linesUp : List.Forall₂ (LinesUp column) items contents
  isLongest : (∃ content ∈ contents, content.length = longest) ∧
    ∀ content ∈ contents, content.length ≤ longest
  /-- The contents stand between two horizontal lines, below the title. -/
  framed : ∃ before after body, List.Forall₂ Holds contents body ∧
    rows = [ruler (max 60 (longest + 2)) '┌' '┐',
      '│' :: (List.replicate before ' ' ++ title ++ List.replicate after ' ') ++ ['│'],
      ruler (max 60 (longest + 2)) '├' '┤'] ++ body ++ [ruler (max 60 (longest + 2)) '└' '┘']
  length : ∀ row ∈ rows, row.length = max 60 (longest + 2) + 2

/-- A row is padded behind its key up to one column, whatever key it is. -/
theorem linesUp_contentRow {keyWidth : Nat} {item : String × Json}
    (fits : item.1.toList.length ≤ keyWidth) :
    LinesUp (keyWidth + 5) item (contentRow keyWidth (item.1, item.2.plain)) := by
  have behind :
      keyWidth + 2 - (item.1.toList ++ [':']).length = keyWidth + 1 - item.1.toList.length := by
    rw [List.length_append, List.length_singleton]
    omega
  refine ⟨[' ', ' '] ++ padEnd (keyWidth + 2) (item.1.toList ++ [':']) ++ [' '],
    keyWidth + 1 - item.1.toList.length + 1, ?whole, ?length, ?shape⟩
  case whole => simp [contentRow]
  case length =>
    have key : (item.1.toList ++ [':']).length ≤ keyWidth + 2 := by
      simpa using Nat.le_succ_of_le fits
    simp [length_padEnd key]
  case shape => rw [padEnd, behind, List.replicate_succ']; simp

/-- The rows of a box are one around the items that its contents tell about. -/
theorem isBox_boxRows {items : Metadata} (nonempty : items ≠ []) :
    ∃ column longest, IsBox items (boxRows (contentRows (itemTexts items)))
      (contentRows (itemTexts items)) column longest := by
  have contents : contentRows (itemTexts items) = items.map fun item =>
      contentRow (widest (items.map fun item => item.1.toList)) (item.1, item.2.plain) := by
    simp [contentRows, itemTexts, Function.comp_def]
  have width : boxWidth (contentRows (itemTexts items)) =
      max 60 (widest (contentRows (itemTexts items)) + 2) := Nat.max_comm _ _
  refine ⟨widest (items.map fun item => item.1.toList) + 5, widest (contentRows (itemTexts items)),
    ?linesUp, ?isLongest, ?framed, ?length⟩
  case linesUp =>
    rw [contents, List.forall₂_map_right_iff, List.forall₂_same]
    exact fun item there => linesUp_contentRow (length_le_widest (List.mem_map_of_mem there))
  case isLongest =>
    refine ⟨exists_length_eq_widest ?_, fun content there => length_le_widest there⟩
    simpa [contents] using nonempty
  case framed =>
    let inner := boxWidth (contentRows (itemTexts items))
    let before := (inner - title.length) / 2
    refine ⟨before, inner - (List.replicate before ' ' ++ title).length,
      (contentRows (itemTexts items)).map fun content => boxRow (padEnd inner content), ?_, ?_⟩
    · rw [List.forall₂_map_right_iff, List.forall₂_same]
      exact fun content there => ⟨_, rfl⟩
    · rw [← width]
      rfl
  case length =>
    intro row there
    rw [length_of_mem_boxRows there, width]

/-- Contents without newlines have rows without newlines. -/
theorem newline_notMem_boxRows {contents : List (List Char)}
    (inLine : ∀ content ∈ contents, '\n' ∉ content) : ∀ row ∈ boxRows contents, '\n' ∉ row := by
  have rulers (width : Nat) {left right : Char} (isLeft : '\n' ≠ left) (isRight : '\n' ≠ right) :
      '\n' ∉ ruler width left right := by
    simp [ruler, isLeft, isRight, List.mem_replicate]
  have padded {width : Nat} {content : List Char} (absent : '\n' ∉ content) :
      '\n' ∉ padEnd width content := by
    simp [padEnd, absent, List.mem_replicate]
  have framed {content : List Char} (absent : '\n' ∉ content) : '\n' ∉ boxRow content := by
    simp [boxRow, absent]
  have untitled : '\n' ∉ title := by decide
  intro row there
  simp only [boxRows, List.mem_append, List.mem_cons, List.mem_map, List.not_mem_nil,
    or_false] at there
  rcases there with ((rfl | rfl | rfl) | ⟨content, among, rfl⟩) | rfl
  · exact rulers _ (by decide) (by decide)
  · exact framed (padded (by simp [untitled, List.mem_replicate]))
  · exact rulers _ (by decide) (by decide)
  · exact framed (padded (inLine content among))
  · exact rulers _ (by decide) (by decide)

/-- Keys and values without newlines have contents without newlines. -/
theorem newline_notMem_contentRows {items : Metadata}
    (inLine : ∀ item ∈ items, '\n' ∉ item.1.toList ∧ '\n' ∉ item.2.plain.toList) :
    ∀ content ∈ contentRows (itemTexts items), '\n' ∉ content := by
  intro content there
  obtain ⟨_, among, rfl⟩ := List.mem_map.mp there
  obtain ⟨item, isItem, rfl⟩ := List.mem_map.mp among
  have ⟨key, value⟩ := inLine item isItem
  simp [contentRow, padEnd, key, value, List.mem_replicate]

/-- A box has four rows more than there are contents. -/
theorem length_boxRows (contents : List (List Char)) :
    (boxRows contents).length = contents.length + 4 := by
  simp [boxRows]

/-- No item is left exactly if none has a value. -/
theorem present_eq_nil_iff {metadata : Metadata} :
    metadata.present = [] ↔ ∀ item ∈ metadata, item.2.isNull = true := by
  simp [Metadata.present, List.filter_eq_nil_iff]

/-- Where all values have texts, the header of a session is a closed box. Items without a value
leave no trace in it, and there is none exactly if no item has a value. Otherwise its lines, unless
a newline is in a key or in the text of a value, are the rows of a box around the other items, four
rows more than there are items, with an empty line behind them. -/
theorem header_isBox {metadata : Metadata}
    (haveTexts : ∀ item ∈ metadata.present, ∃ text, item.2.plainText = .ok text) :
    header metadata.present = header metadata ∧
    (∀ fault, header metadata = .error fault ↔
      fault = .empty ∧ ∀ item ∈ metadata, item.2.isNull = true) ∧
    ((∃ item ∈ metadata, item.2.isNull = false) →
      (∀ item ∈ metadata.present, '\n' ∉ item.1.toList ∧ '\n' ∉ item.2.plain.toList) →
      ∃ text rows contents column longest, header metadata = .ok text ∧
        Text.splitAt '\n' text.toList = rows ++ [[]] ∧
        rows.length = metadata.present.length + 4 ∧
        IsBox metadata.present rows contents column longest) := by
  refine ⟨?noTrace, fun fault => ?fails, fun someValue inLine => ?box⟩
  case noTrace =>
    have again : Metadata.present metadata.present = metadata.present := by
      simp [Metadata.present, List.filter_filter]
    rw [header_of_haveTexts haveTexts, header_of_haveTexts (again.symm ▸ haveTexts), again]
  case fails =>
    rw [header_of_haveTexts haveTexts, ← present_eq_nil_iff]
    by_cases nothing : metadata.present = []
    · simp [nothing, eq_comm]
    · simp [nothing]
  case box =>
    have nonempty : metadata.present ≠ [] := fun nothing => by
      obtain ⟨item, there, hasValue⟩ := someValue
      exact absurd (present_eq_nil_iff.mp nothing item there) (by simp [hasValue])
    obtain ⟨column, longest, isBox⟩ := isBox_boxRows nonempty
    have absent := newline_notMem_boxRows (newline_notMem_contentRows inLine)
    rw [header_of_haveTexts haveTexts, if_neg nonempty]
    refine ⟨_, _, _, column, longest, rfl, ?_, ?_, isBox⟩
    · rw [String.toList_ofList, Text.splitAt_flatMap absent]
    · rw [length_boxRows, contentRows, List.length_map, itemTexts, List.length_map]

/-- The directory has no value, so there are rows for two of the three items. -/
theorem header_isBox_noDirectory :
    let metadata : Metadata := [("Start Time", .str "now"), ("Log Directory", .null),
      ("Files", .list [.str "a.sqf", .int 3])]
    (∀ item ∈ metadata.present, ∃ text, item.2.plainText = .ok text) ∧
    ∃ text rows contents column longest, header metadata = .ok text ∧
      Text.splitAt '\n' text.toList = rows ++ [[]] ∧ rows.length = 6 ∧
      IsBox [("Start Time", .str "now"), ("Files", .list [.str "a.sqf", .int 3])]
        rows contents column longest := by
  intro metadata
  have known :
      ∀ item ∈ metadata.present, item.2.isWritable = true ∧ item.2.isStray = false := by decide
  have haveTexts : ∀ item ∈ metadata.present, ∃ text, item.2.plainText = .ok text :=
    fun item there => plainText_eq_ok_iff.mpr (known item there)
  have ⟨_, _, hasBox⟩ := header_isBox haveTexts
  exact ⟨haveTexts, hasBox (by decide) (by decide)⟩

end LintClient.Log
