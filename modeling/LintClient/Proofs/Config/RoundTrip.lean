import LintClient.Proofs.CommandLine.Gathering
import LintClient.Proofs.Json.Document.Values
import LintClient.Proofs.Json.Written
import LintClient.Proofs.Number.Order
import LintClient.Proofs.Text.Utf8.Reading

/-!
# Settings in a file

Settings of the right kinds, with texts that are made of characters, are found again in the file
that they are written to, and they stay as they are when they override the usual ones
(`ofFile_written`). Both halves are about the object of the settings: it is read back from its
written form as any value is, and every setting is read back from it, because the file names all of
them. A setting that is equal to the usual one does not override it, but then it is the usual one;
for the durations this is so because neither of the usual ones is zero.
-/

namespace LintClient

open Json (Readable)

/-! ## The object in the file -/

/-- A list of texts is read back. -/
theorem Json.AreStrings.readable {limits : Json.Line.Limits} {enclosing : Nat} {value : Json}
    (areTexts : value.AreStrings) (deep : enclosing < limits.depth) :
    Readable limits enclosing value := by
  obtain ⟨texts, rfl⟩ := areTexts
  refine .list (Nat.le_of_lt deep) fun item there => ?_
  obtain ⟨text, -, rfl⟩ := List.mem_map.mp there
  exact .str deep text

namespace Config

variable {config : Config}

/-- The object of settings is read back from its written form. -/
theorem Plain.readable (plain : config.Plain) :
    Readable ⟨2, some Numeral.digitLimit, false⟩ 0 config.toJson := by
  have room :
      ∀ negative, ∀ limit ∈ Json.Line.Limits.room ⟨2, some Numeral.digitLimit, false⟩ negative,
        Json.longestWhole ≤ limit := by decide
  have text : ∀ {value : Json}, value.IsString →
      Readable ⟨2, some Numeral.digitLimit, false⟩ 1 value := by
    rintro value ⟨text, rfl⟩
    exact .str (by decide) text
  have seconds : ∀ {value : Json}, value.IsSeconds →
      Readable ⟨2, some Numeral.digitLimit, false⟩ 1 value := by
    rintro value ⟨seconds, rfl⟩
    exact .float (by decide) room seconds
  have javaPath : Readable ⟨2, some Numeral.digitLimit, false⟩ 1 config.javaPath := by
    rcases plain.javaPath with isNull | isText
    · rw [isNull]
      exact .null (by decide)
    · exact text isText
  refine .object (by decide) (by simp) ?_
  simp only [List.forall_mem_cons]
  exact ⟨javaPath, text plain.jarPath, Json.AreStrings.readable plain.linterArgs (by decide),
    Json.AreStrings.readable plain.command (by decide), seconds plain.debounce,
    seconds plain.timeout, text plain.logLevel, nofun⟩

/-- All settings are read back from their object if the durations are numbers. -/
theorem ofJson_toJson (debounce : config.debounce.IsSeconds) (timeout : config.timeout.IsSeconds) :
    ofJson config.toJson = .ok config := by
  obtain ⟨debounce, isDebounce⟩ := debounce
  obtain ⟨timeout, isTimeout⟩ := timeout
  obtain ⟨javaPath, jarPath, linterArgs, command, _, _, logLevel⟩ := config
  subst isDebounce isTimeout
  rfl

/-! ## Overriding the usual settings -/

/-- A setting overrides the usual one if it is equal to it only when it is the same. -/
theorem override_usual {usual later : Json} (null : later.isNull = true → later = usual)
    (same : later.equal usual = true → later = usual) : override usual usual later = later := by
  unfold override
  split
  · next asUsual => exact ((Bool.or_eq_true_iff.mp asUsual).elim null same).symm
  · rfl

end Config

namespace Json

/-- Texts are equal if they are the same. -/
theorem IsString.eq_of_equal {left right : Json} (isLeft : left.IsString) (isRight : right.IsString)
    (isEqual : left.equal right = true) : left = right := by
  obtain ⟨left, rfl⟩ := isLeft
  obtain ⟨right, rfl⟩ := isRight
  rw [eq_of_beq isEqual]

/-- Lists of texts are equal if they are the same. -/
theorem AreStrings.eq_of_equal {left right : Json} (areLeft : left.AreStrings)
    (areRight : right.AreStrings)
    (isEqual : left.equal right = true) : left = right := by
  obtain ⟨lefts, rfl⟩ := areLeft
  obtain ⟨rights, rfl⟩ := areRight
  have same : equalLists (lefts.map .str) (rights.map .str) = true → lefts = rights := by
    clear isEqual
    induction lefts generalizing rights with
    | nil => cases rights <;> simp [equalLists]
    | cons left lefts inductionHypothesis =>
        cases rights with
        | nil => simp [equalLists]
        | cons right rights =>
            simp only [List.map_cons, equalLists, Bool.and_eq_true]
            rintro ⟨first, others⟩
            rw [eq_of_beq first, inductionHypothesis rights others]
  rw [same isEqual]

/-- A number is equal to one other than zero if it is the same. -/
theorem IsSeconds.eq_of_equal {left right : Json} {seconds : Binary64} (isLeft : left.IsSeconds)
    (isRight : right = .float seconds) (nonzero : seconds.units? ≠ some 0)
    (isEqual : left.equal right = true) : left = right := by
  obtain ⟨left, rfl⟩ := isLeft
  subst isRight
  rw [Binary64.eq_of_equal isEqual nonzero]

end Json

namespace Config

variable {config : Config}

/-- A text overrides a usual text. -/
theorem override_usual_text {usual later : Json} (isLater : later.IsString)
    (isUsual : usual.IsString) :
    override usual usual later = later := by
  refine override_usual (fun isNull => ?_) (isLater.eq_of_equal isUsual)
  obtain ⟨text, rfl⟩ := isLater
  cases isNull

/-- A list of texts overrides a usual list of texts. -/
theorem override_usual_texts {usual later : Json} (areLater : later.AreStrings)
    (areUsual : usual.AreStrings) : override usual usual later = later := by
  refine override_usual (fun isNull => ?_) (areLater.eq_of_equal areUsual)
  obtain ⟨texts, rfl⟩ := areLater
  cases isNull

/-- A number overrides a usual number other than zero. -/
theorem override_usual_seconds {usual later : Json} {seconds : Binary64} (isLater : later.IsSeconds)
    (isUsual : usual = .float seconds) (nonzero : seconds.units? ≠ some 0) :
    override usual usual later = later := by
  refine override_usual (fun isNull => ?_) (isLater.eq_of_equal isUsual nonzero)
  obtain ⟨seconds, rfl⟩ := isLater
  cases isNull

/-- A path that may be null overrides null, which no text is equal to. -/
theorem override_null {later : Json} (isLater : later = .null ∨ later.IsString) :
    override .null .null later = later := by
  rcases isLater with rfl | ⟨text, rfl⟩ <;> rfl

/-- Settings of the right kinds stay as they are when they override the usual ones. -/
theorem Plain.usual_merge (plain : config.Plain) : usual.merge config = config := by
  have javaPath := override_null plain.javaPath
  have jarPath := override_usual_text plain.jarPath ⟨installedJar, rfl⟩
  have linterArgs := override_usual_texts plain.linterArgs ⟨["-j", "-v"], rfl⟩
  have command := override_usual_texts plain.command ⟨[], rfl⟩
  have debounce := override_usual_seconds plain.debounce rfl
    (show (Binary64.ofDecimal false 2 (-1)).units? ≠ some 0 by decide +kernel)
  have timeout := override_usual_seconds plain.timeout rfl
    (show (Binary64.ofInt 30).units? ≠ some 0 by decide +kernel)
  have logLevel := override_usual_text plain.logLevel ⟨"WARNING", rfl⟩
  exact congr (congr (congr (congr (congr (congr (congrArg Config.mk javaPath) jarPath) linterArgs)
    command) debounce) timeout) logLevel

/-! ## The file -/

/-- A text without carriage returns has the line endings that it is read with. -/
theorem universalNewlines_of_notMem {text : List Char} (absent : '\r' ∉ text) :
    Text.universalNewlines text = text := by
  have kept : ∀ pair ∈ text.zip ('\n' :: text), (if pair.1 = '\n' ∧ pair.2 = '\r' then none
      else some (if pair.1 = '\r' then '\n' else pair.1)) = some pair.1 := by
    intro pair there
    obtain ⟨item, before⟩ := List.of_mem_zip there
    have notBefore : pair.2 ≠ '\r' := by
      rintro isReturn
      rw [isReturn] at before
      simp [absent] at before
    have notItem : pair.1 ≠ '\r' := fun isReturn => absent (isReturn ▸ item)
    simp [notBefore, notItem]
  rw [Text.universalNewlines, Text.readNewlines, List.filterMap_congr kept]
  simp [List.filterMap_eq_map', List.map_fst_zip]

/-- Settings of the right kinds, with texts that are made of characters, that are written to a file
are found in it again, all seven of them, and they stay as they are when they override the usual
ones. -/
theorem ofFile_written (plain : config.Plain) (asciiOnly : Bool) {host : Host} {path : String}
    (noNul : Host.holdsNul path = false)
    (stored : host.read path =
      .ok (Text.Utf8.encode (Json.print ⟨asciiOnly, none⟩ config.toJson).toList)) :
    ofFile host path = .ok config ∧ usual.merge config = config := by
  refine ⟨?_, plain.usual_merge⟩
  have onLine : Json.OnLine (Json.print ⟨asciiOnly, none⟩ config.toJson).toList := by
    rw [Json.print, String.toList_ofList]
    exact plain.readable.onLine_written asciiOnly 0
  have unchanged := universalNewlines_of_notMem fun there => absurd (onLine _ there) (by decide)
  have isDocument : Json.Line.DocumentText ⟨2, some Numeral.digitLimit, false⟩
      (Json.print ⟨asciiOnly, none⟩ config.toJson).toList config.toJson := by
    refine ⟨[], _, [], ?_, Json.Line.gap_nil, Json.Line.gap_nil,
      plain.readable.valueText_written ⟨asciiOnly, none⟩ 0⟩
    rw [Json.print, String.toList_ofList, List.append_nil, List.nil_append]
  have within := Json.Document.documentWithin_of_documentText (by decide) isDocument
  have parsed : Json.Document.document (Json.print ⟨asciiOnly, none⟩ config.toJson).toList =
      .ok config.toJson := within
  simp only [ofFile, noNul, stored, ofBytes, Text.Utf8.decodeStrict_encode, unchanged, parsed,
    Bool.false_eq_true, ↓reduceIte]
  exact ofJson_toJson plain.debounce plain.timeout

/-- Settings with texts that are hard to write, a negative zero and no limit. -/
def oddSettings : Config where
  javaPath := .str "C:\\java \"8\"😀"
  jarPath := .str ""
  linterArgs := .list [.str "-v", .str "", .str "\u0000\r\n\u2028"]
  command := .list []
  debounce := .float (.ofDecimal true 0 0)
  timeout := .float (.infinite false)
  logLevel := .str "null"

/-- The odd settings are found again in the file, and override the usual ones. -/
theorem ofFile_written_oddSettings : oddSettings.Plain ∧
    ofFile (CommandLine.hostWithSettings (Json.print .line oddSettings.toJson)) "c.json" =
      .ok oddSettings ∧ usual.merge oddSettings = oddSettings := by
  have plain : oddSettings.Plain :=
    ⟨.inr ⟨_, rfl⟩, ⟨_, rfl⟩, ⟨["-v", "", "\u0000\r\n\u2028"], rfl⟩, ⟨[], rfl⟩, ⟨_, rfl⟩, ⟨_, rfl⟩,
      ⟨_, rfl⟩⟩
  exact ⟨plain, ofFile_written plain true (by decide +kernel) rfl⟩

end Config

end LintClient
