import LintClient.Json.Access
import LintClient.Proofs.Results

/-!
# Texts as values

A value is a text if it is made of characters or has halves of surrogate pairs among them: both are
the values of source texts (`isText_iff`). Every use of a value as a text succeeds exactly with
these. What a text is used for is not a subject of this module.
-/

namespace LintClient.Json

open Text (Source)

/-- A text that is made of characters is one that is given by them. -/
theorem ofSource_ofText (text : List Char) :
    ofSource (.ofText text) = .str (String.ofList text) := by
  unfold ofSource
  split
  · next characters made =>
    rw [Source.characters?_ofText] at made
    rw [Option.some.inj made]
  · next notMade =>
    rw [Source.characters?_ofText] at notMade
    cases notMade

/-- A string as a value. -/
@[simp] theorem ofSource_ofString (text : String) : ofSource (.ofString text) = .str text := by
  rw [Source.ofString, ofSource_ofText, String.ofList_toList]

/-- A text with halves of surrogate pairs as a value. -/
@[simp] theorem ofSource_source (text : Text.StrayText) : ofSource text.source = .stray text := by
  unfold ofSource
  split
  · next characters made => cases made.symm.trans text.isStray
  · rfl

/-- The value of a text has halves of surrogate pairs if the text is not made of characters. -/
theorem isStray_ofSource (source : Source) :
    (ofSource source).isStray = source.characters?.isNone := by
  unfold ofSource
  split
  · next characters made => simp [made, isStray]
  · next notMade => simp [notMade, isStray]

/-- The value of a text can be written, as far as integers go. -/
@[simp] theorem isWritable_ofSource (source : Source) : (ofSource source).isWritable = true := by
  unfold ofSource
  split <;> rfl

/-- A value is a text. -/
def IsText (value : Json) : Prop := ∃ source, value = ofSource source

/-- A value is a list of texts. -/
def AreTexts (value : Json) : Prop := ∃ texts : List Source, value = .list (texts.map ofSource)

/-- A value is a text that is made of characters. -/
def IsString (value : Json) : Prop := ∃ text, value = .str text

/-- A value is a list of texts that are made of characters. -/
def AreStrings (value : Json) : Prop := ∃ texts : List String, value = .list (texts.map .str)

/-- A string is a text. -/
theorem isText_str (text : String) : IsText (.str text) :=
  ⟨.ofString text, (ofSource_ofString text).symm⟩

/-- Strings are texts. -/
theorem areTexts_map_str (texts : List String) : AreTexts (.list (texts.map .str)) :=
  ⟨texts.map .ofString, by simp [Function.comp_def]⟩

/-- A text that is made of characters is a text. -/
theorem IsString.isText {value : Json} (isString : value.IsString) : value.IsText := by
  obtain ⟨text, rfl⟩ := isString
  exact isText_str text

/-- Texts that are made of characters are texts. -/
theorem AreStrings.areTexts {value : Json} (areStrings : value.AreStrings) : value.AreTexts := by
  obtain ⟨texts, rfl⟩ := areStrings
  exact areTexts_map_str texts

/-- There are two kinds of texts. -/
theorem isText_iff {value : Json} :
    value.IsText ↔ (∃ text, value = .str text) ∨ ∃ text, value = .stray text := by
  constructor
  · rintro ⟨source, rfl⟩
    unfold ofSource
    split
    · exact .inl ⟨_, rfl⟩
    · exact .inr ⟨_, rfl⟩
  · rintro (⟨text, rfl⟩ | ⟨text, rfl⟩)
    · exact isText_str text
    · exact ⟨text.source, (ofSource_source text).symm⟩

/-- A text without halves of surrogate pairs is a string. -/
theorem IsText.isString {value : Json} (isText : value.IsText) (clean : value.isStray = false) :
    value.IsString := by
  rcases isText_iff.mp isText with isString | ⟨text, rfl⟩
  · exact isString
  · cases clean

/-! ## Case -/

/-- The lower-case form of a text as a value. -/
@[simp] theorem lowered_ofSource (source : Source) :
    (ofSource source).lowered = .ok source.lower := by
  unfold ofSource
  split
  · next characters made =>
    rw [lowered, Source.ofString, String.toList_ofList, Source.characters?_eq_some_iff.mp made]
  · rfl

/-- Only texts have a lower-case form. -/
theorem isText_of_lowered {value : Json} {lower : Source} (succeeds : value.lowered = .ok lower) :
    value.IsText := by
  cases value with
  | str text => exact isText_iff.mpr (.inl ⟨text, rfl⟩)
  | stray text => exact isText_iff.mpr (.inr ⟨text, rfl⟩)
  | _ => cases succeeds

/-- A value is a text exactly if it has an upper-case form. -/
theorem isText_iff_uppered {value : Json} : value.IsText ↔ ∃ upper, value.uppered = .ok upper := by
  rw [isText_iff]
  constructor
  · rintro (⟨text, rfl⟩ | ⟨text, rfl⟩)
    · exact ⟨_, rfl⟩
    · exact ⟨_, rfl⟩
  · rintro ⟨upper, succeeds⟩
    cases value with
    | str text => exact .inl ⟨text, rfl⟩
    | stray text => exact .inr ⟨text, rfl⟩
    | _ => cases succeeds

end LintClient.Json
