import LintClient.Proofs.Json.Line.Numbers

/-!
# Values

The reader accepts a text exactly if the grammar does within the limits of the reader, and yields
the value that the text denotes (`document_eq_ok_iff`). What a reader has read is such a text, by
induction on the calls of the readers; a text of the grammar is read as a whole, by induction on the
text.
-/

namespace LintClient.Json.Line

variable (limits : Limits)

/-! ## What has been read -/

/-- What is read as a value is one. -/
def ReadsValue (enclosing : Nat) (input : List Char) : Prop :=
  ∀ read, value limits enclosing input = .ok read →
    ∃ text, input = text ++ read.rest ∧ ValueText limits enclosing text read.value

/-- What is read as the items of a list are items, and a bracket behind them. -/
def ReadsItems (whole : List Char) (enclosing : Nat) (reversed : List Json) (input : List Char)
    (within : input.length < whole.length) : Prop :=
  ∀ read, items limits whole enclosing reversed input within = .ok read → ∀ gap, Gap gap →
    ∃ list, list ≠ [] ∧ (∀ item ∈ list, ItemText limits enclosing item) ∧
      gap ++ input = commaJoined (list.map Item.written) ++ ']' :: read.rest ∧
        read.value = reversed.reverse ++ list.map Item.value

/-- What is read as a member of an object is one, together with the gaps around it. -/
def ReadsMember (enclosing : Nat) (input : List Char) : Prop :=
  ∀ read, member limits enclosing input = .ok read → ∀ gap behind rest, Gap gap → Gap behind →
    read.rest = behind ++ rest →
      ∃ member, MemberText limits enclosing member ∧ member.pair = read.value ∧
        gap ++ input = member.written ++ rest

/-- What is read as the members of an object are members, and a brace behind them. -/
def ReadsMembers (whole : List Char) (enclosing : Nat) (reversed : List (String × Json))
    (input : List Char) (within : input.length < whole.length) : Prop :=
  ∀ read, members limits whole enclosing reversed input within = .ok read → ∀ gap, Gap gap →
    ∃ list, list ≠ [] ∧ (∀ member ∈ list, MemberText limits enclosing member) ∧
      gap ++ input = commaJoined (list.map Member.written) ++ '\x7d' :: read.rest ∧
        read.value = reversed.reverse ++ list.map Member.pair

variable {limits}

/-- Texts with commas between them, from the first one on. -/
theorem commaJoined_cons (text : List Char) {texts : List (List Char)} (more : texts ≠ []) :
    commaJoined (text :: texts) = text ++ ',' :: commaJoined texts := by
  cases texts with
  | nil => exact absurd rfl more
  | cons next texts => rfl

/-- The first item, and the others if a comma follows, are items. -/
theorem readsItems {whole : List Char} {enclosing : Nat} {reversed : List Json} {input : List Char}
    {within : input.length < whole.length} (first : ReadsValue limits enclosing input)
    (others : ∀ (item : Parsed Json input) (next : Parsed Char input)
      (start : Parsed Char next.rest), ReadsItems limits whole enclosing (item.value :: reversed)
        start.unread (next.unread_lt_whole start within)) :
    ReadsItems limits whole enclosing reversed input within := by
  intro read found gap gapped
  rw [items.eq_def] at found
  obtain ⟨item, readItem, found⟩ := bind_eq_ok.mp found
  obtain ⟨text, split, isValue⟩ := first item readItem
  split at found
  · cases found
  · next next foundNext =>
    obtain ⟨behind, behindGapped, splitNext⟩ := Parsed.gap_of_next? foundNext
    have isItem : ItemText limits enclosing ⟨gap, text, behind, item.value⟩ :=
      ⟨gapped, behindGapped, isValue⟩
    rw [Parsed.unread] at splitNext
    rw [splitNext] at split
    split at found
    · next closes =>
      obtain rfl := Except.ok.inj found
      rw [closes] at split
      refine ⟨[⟨gap, text, behind, item.value⟩], List.cons_ne_nil _ _, ?_, ?_, ?_⟩
      · simpa using isItem
      · refine (congrArg (gap ++ ·) split).trans ?_
        simp [commaJoined, Item.written]
      · simp
    · split at found
      · next comma =>
        split at found
        · cases found
        · next start foundStart =>
          split at found
          · cases found
          · obtain ⟨ahead, aheadGapped, splitStart⟩ := gap_of_next? foundStart
            obtain ⟨list, nonempty, areItems, joined, values⟩ :=
              others item next start read found ahead aheadGapped
            rw [comma, splitStart, joined] at split
            refine ⟨⟨gap, text, behind, item.value⟩ :: list, List.cons_ne_nil _ _, ?_, ?_, ?_⟩
            · exact List.forall_mem_cons.mpr ⟨isItem, areItems⟩
            · refine (congrArg (gap ++ ·) split).trans ?_
              rw [List.map_cons, commaJoined_cons _ (by simpa using nonempty)]
              simp [Item.written]
            · simp [values]
      · cases found

/-- A key, a colon and a value are a member. -/
theorem readsMember {enclosing : Nat} {quote : Char} {rest : List Char}
    (value : ∀ colon : Parsed Char (quote :: rest),
      ReadsValue limits enclosing (skipGap colon.rest)) :
    ReadsMember limits enclosing (quote :: rest) := by
  intro read found gap behind after gapped behindGapped rests
  rw [member.eq_def] at found
  simp only at found
  split at found
  · cases found
  · next isQuote =>
    obtain ⟨key, readKey, found⟩ := bind_eq_ok.mp found
    obtain ⟨keyText, chars, isKey, splitKey, keyValue⟩ := string_eq_ok readKey
    split at found
    · cases found
    · next colon foundColon =>
      obtain ⟨keyGap, keyGapped, splitColon⟩ := Parsed.gap_of_next? foundColon
      split at found
      · cases found
      · next isColon =>
        obtain ⟨item, readItem, found⟩ := bind_eq_ok.mp found
        obtain ⟨text, splitItem, isValue⟩ := value colon item readItem
        obtain ⟨ahead, aheadGapped, splitAhead⟩ := exists_gap colon.rest
        obtain rfl := Except.ok.inj found
        refine ⟨⟨gap, keyText, keyGap, chars, ⟨ahead, text, behind, item.value⟩⟩,
          ⟨gapped, isKey, keyGapped, aheadGapped, behindGapped, isValue⟩, ?_, ?_⟩
        · simp [Member.pair, keyValue, Parsed.map, Parsed.andThenBehindGap]
        · change item.rest = behind ++ after at rests
          rw [rests] at splitItem
          rw [splitItem] at splitAhead
          rw [Parsed.unread, Decidable.of_not_not isColon, splitAhead] at splitColon
          rw [splitColon] at splitKey
          refine (congrArg (fun others => gap ++ quote :: others) splitKey).trans ?_
          simp [Member.written, Item.written, Decidable.of_not_not isQuote]

/-- The first member, and the others if a comma follows, are members. -/
theorem readsMembers {whole : List Char} {enclosing : Nat} {reversed : List (String × Json)}
    {input : List Char} {within : input.length < whole.length}
    (first : ReadsMember limits enclosing input)
    (others : ∀ (read : Parsed (String × Json) input) (next : Parsed Char input)
      (start : Parsed Char next.rest), ReadsMembers limits whole enclosing (read.value :: reversed)
        start.unread (next.unread_lt_whole start within)) :
    ReadsMembers limits whole enclosing reversed input within := by
  intro read found gap gapped
  rw [members.eq_def] at found
  obtain ⟨pair, readPair, found⟩ := bind_eq_ok.mp found
  split at found
  · cases found
  · next next foundNext =>
    obtain ⟨behind, behindGapped, splitNext⟩ := Parsed.gap_of_next? foundNext
    obtain ⟨member, isMember, same, split⟩ :=
      first pair readPair gap behind next.unread gapped behindGapped splitNext
    rw [Parsed.unread] at split
    split at found
    · next closes =>
      obtain rfl := Except.ok.inj found
      rw [closes] at split
      refine ⟨[member], List.cons_ne_nil _ _, by simpa using isMember, ?_, by simp [same]⟩
      exact split
    · split at found
      · next comma =>
        split at found
        · cases found
        · next start foundStart =>
          split at found
          · cases found
          · obtain ⟨ahead, aheadGapped, splitStart⟩ := gap_of_next? foundStart
            obtain ⟨list, nonempty, areMembers, joined, values⟩ :=
              others pair next start read found ahead aheadGapped
            rw [comma, splitStart, joined] at split
            refine ⟨member :: list, List.cons_ne_nil _ _, ?_, ?_, ?_⟩
            · exact List.forall_mem_cons.mpr ⟨isMember, areMembers⟩
            · refine split.trans ?_
              rw [List.map_cons, commaJoined_cons _ (by simpa using nonempty)]
              simp
            · simp [values, same]
      · cases found

section Containers

variable {enclosing : Nat} {rest : List Char} (shallow : ¬ limits.depth < enclosing)

include shallow

/-- A string is read as one. -/
theorem readsValue_string : ReadsValue limits enclosing ('"' :: rest) := by
  intro read found
  rw [value.eq_def] at found
  simp only [shallow, ↓reduceIte] at found
  obtain ⟨text, readText, ending⟩ := bind_eq_ok.mp found
  obtain ⟨inside, chars, isText, split, chars'⟩ := string_eq_ok readText
  obtain rfl := Except.ok.inj ending
  refine ⟨'"' :: (inside ++ ['"']), ?_, ?_⟩
  · refine (congrArg ('"' :: ·) split).trans ?_
    simp [Parsed.map]
  · have isString : ValueText limits enclosing _ _ :=
      .string (Nat.le_of_not_lt shallow) isText
    simp only [Parsed.map, chars', List.reverse_nil, List.nil_append]
    exact isString

/-- A list is read as one. -/
theorem readsValue_list {next : Parsed Char rest} (found : next? rest = some next)
    (items : next.value ≠ ']' →
      ReadsItems limits ('[' :: rest) (enclosing + 1) [] next.unread (next.unread_lt_cons '[')) :
    ReadsValue limits enclosing ('[' :: rest) := by
  obtain ⟨gap, gapped, split⟩ := gap_of_next? found
  intro read readList
  rw [value.eq_def] at readList
  simp only [shallow, found, ↓reduceIte, Char.reduceEq] at readList
  split at readList
  · next closes =>
    obtain rfl := Except.ok.inj readList
    refine ⟨'[' :: (gap ++ [']']), ?_, .emptyList (Nat.le_of_not_lt shallow) gapped⟩
    rw [Parsed.unread, closes] at split
    refine (congrArg ('[' :: ·) split).trans ?_
    simp [Parsed.behind, Parsed.map]
  · next goesOn =>
    obtain ⟨list, readItems, ending⟩ := bind_eq_ok.mp readList
    obtain ⟨itemList, nonempty, areItems, joined, values⟩ := items goesOn list readItems gap gapped
    obtain rfl := Except.ok.inj ending
    refine ⟨'[' :: (commaJoined (itemList.map Item.written) ++ [']']), ?_, ?_⟩
    · refine (congrArg ('[' :: ·) (split.trans joined)).trans ?_
      simp [Parsed.map]
    · have isList : ValueText limits enclosing _ _ :=
        .list (Nat.le_of_not_lt shallow) nonempty
        (fun item member => ⟨(areItems item member).before, (areItems item member).after⟩)
        (fun item member => (areItems item member).value)
      simp only [Parsed.map, values, List.reverse_nil, List.nil_append]
      exact isList

/-- An object is read as one. -/
theorem readsValue_object {next : Parsed Char rest} (found : next? rest = some next)
    (members : next.value ≠ '\x7d' →
      ReadsMembers limits ('\x7b' :: rest) (enclosing + 1) [] next.unread
        (next.unread_lt_cons '\x7b')) :
    ReadsValue limits enclosing ('\x7b' :: rest) := by
  obtain ⟨gap, gapped, split⟩ := gap_of_next? found
  intro read readObject
  rw [value.eq_def] at readObject
  simp only [shallow, found, ↓reduceIte, Char.reduceEq] at readObject
  split at readObject
  · next closes =>
    obtain rfl := Except.ok.inj readObject
    refine ⟨'\x7b' :: (gap ++ ['\x7d']), ?_, .emptyObject (Nat.le_of_not_lt shallow) gapped⟩
    rw [Parsed.unread, closes] at split
    refine (congrArg ('\x7b' :: ·) split).trans ?_
    simp [Parsed.behind, Parsed.map]
  · next goesOn =>
    obtain ⟨list, readMembers, ending⟩ := bind_eq_ok.mp readObject
    obtain ⟨memberList, nonempty, areMembers, joined, pairs⟩ :=
      members goesOn list readMembers gap gapped
    obtain rfl := Except.ok.inj ending
    refine ⟨'\x7b' :: (commaJoined (memberList.map Member.written) ++ ['\x7d']), ?_, ?_⟩
    · refine (congrArg ('\x7b' :: ·) (split.trans joined)).trans ?_
      simp [Parsed.map]
    · have isObject : ValueText limits enclosing _ _ :=
        .object (Nat.le_of_not_lt shallow) nonempty
        (fun member there => ⟨(areMembers member there).before, (areMembers member there).key,
          (areMembers member there).after⟩)
        (fun member there => ⟨(areMembers member there).item.before,
          (areMembers member there).item.after⟩)
        (fun member there => (areMembers member there).item.value)
      simp only [Parsed.map, pairs, List.reverse_nil, List.nil_append]
      exact isObject

/-- A name or a number is read as one. -/
theorem readsValue_scalar {first : Char} (notQuote : first ≠ '"') (notBracket : first ≠ '[')
    (notBrace : first ≠ '\x7b') : ReadsValue limits enclosing (first :: rest) := by
  intro read found
  rw [value.eq_def] at found
  simp only [shallow, notQuote, notBracket, notBrace, ↓reduceIte] at found
  obtain ⟨text, split, isScalar⟩ := scalar_eq_ok found
  refine ⟨text, split, ?_⟩
  rcases isScalar with ⟨word, rfl, known⟩ | ⟨numeral, isNumber, value⟩
  · exact .name (Nat.le_of_not_lt shallow) known
  · rw [value]
    exact .number (Nat.le_of_not_lt shallow) isNumber

end Containers

/-- What is read as a value is one. -/
theorem readsValue (enclosing : Nat) (input : List Char) : ReadsValue limits enclosing input := by
  -- one case for each way in which the readers call each other
  refine value.induct limits (ReadsValue limits) (ReadsMembers limits) (ReadsMember limits)
    (ReadsItems limits) ?nothing ?deep ?string ?openList ?emptyList ?list ?openObject ?emptyObject
    ?object ?scalar ?members ?noMember ?noKey ?member ?items enclosing input
  case nothing =>
    intro enclosing read found
    rw [value.eq_def] at found
    cases found
  case deep =>
    intro enclosing first rest deep read found
    rw [value.eq_def] at found
    simp only [deep, ↓reduceIte] at found
    cases found
  case string => exact fun enclosing rest shallow => readsValue_string shallow
  case openList =>
    intro enclosing rest shallow nothing _ read found
    rw [value.eq_def] at found
    simp only [shallow, nothing, ↓reduceIte, Char.reduceEq] at found
    cases found
  case emptyList => exact fun enclosing rest shallow next found closes _ =>
      readsValue_list shallow found (absurd closes)
  case list => exact fun enclosing rest shallow next found _ _ items =>
      readsValue_list shallow found (fun _ => items)
  case openObject =>
    intro enclosing rest shallow nothing _ _ read found
    rw [value.eq_def] at found
    simp only [shallow, nothing, ↓reduceIte, Char.reduceEq] at found
    cases found
  case emptyObject => exact fun enclosing rest shallow next found closes _ _ =>
      readsValue_object shallow found (absurd closes)
  case object => exact fun enclosing rest shallow next found _ _ _ members =>
      readsValue_object shallow found (fun _ => members)
  case scalar => exact fun enclosing first rest shallow notQuote notBracket notBrace =>
      readsValue_scalar shallow notQuote notBracket notBrace
  case members => exact fun whole enclosing reversed input within first others =>
      readsMembers first others
  case noMember =>
    intro enclosing read found
    rw [member.eq_def] at found
    cases found
  case noKey =>
    intro enclosing quote rest notQuote read found
    rw [member.eq_def] at found
    simp only at found
    rw [if_pos notQuote] at found
    cases found
  case member => exact fun enclosing quote rest _ value => readsMember value
  case items => exact fun whole enclosing reversed input within first others =>
      readsItems first others

/-! ## What is read -/

/-- The text is read as the value in front of anything that does not go on with a number. -/
def IsRead (limits : Limits) (enclosing : Nat) (text : List Char) (denoted : Json) : Prop :=
  ∀ input rest, input = text ++ rest → NoNumber rest →
    ∃ shorter, value limits enclosing input = .ok ⟨denoted, rest, shorter⟩

/-- What follows the first of some items or members, each given by the gap before it and the rest of
it: the others behind commas, and the bracket or brace. -/
def goesOn (closing : Char) (rest : List Char) : List (List Char × List Char) → List Char
  | [] => closing :: rest
  | (gap, body) :: others => ',' :: (gap ++ (body ++ goesOn closing rest others))

/-- The items or members of a container, from the first one on. -/
theorem commaJoined_eq_goesOn (closing : Char) (gap body rest : List Char)
    (others : List (List Char × List Char)) :
    commaJoined (((gap, body) :: others).map fun piece => piece.1 ++ piece.2) ++ closing :: rest =
      gap ++ (body ++ goesOn closing rest others) := by
  induction others generalizing gap body with
  | nil => simp [commaJoined, goesOn]
  | cons next others inductionHypothesis =>
      obtain ⟨nextGap, nextBody⟩ := next
      rw [List.map_cons, commaJoined_cons _ (by simp), goesOn, List.append_assoc,
        List.cons_append, inductionHypothesis]
      simp

/-- No character of a gap belongs to a number. -/
theorem Gap.noNumber {gap : List Char} (gapped : Gap gap) : NoNumber gap := by
  intro c first
  have spaced := gapped c (List.mem_of_mem_head? first)
  simp only [isGap, Bool.or_eq_true, beq_iff_eq] at spaced
  rcases spaced with ((rfl | rfl) | rfl) | rfl <;> decide

/-- A gap, a comma or a closing character does not go on with a number. -/
theorem noNumber_append {gap rest : List Char} {c : Char} (gapped : Gap gap)
    (ends : c = ',' ∨ c = ']' ∨ c = '\x7d') : NoNumber (gap ++ c :: rest) := by
  cases gap with
  | nil =>
      intro first same
      obtain rfl := Option.some.inj same
      rcases ends with rfl | rfl | rfl <;> decide
  | cons space gap => exact fun first same => gapped.noNumber first same

/-- Nothing behind an item goes on with a number. -/
theorem noNumber_goesOn {gap : List Char} (gapped : Gap gap) {closing : Char}
    (closes : closing = ']' ∨ closing = '\x7d') (rest : List Char)
    (others : List (List Char × List Char)) : NoNumber (gap ++ goesOn closing rest others) := by
  cases others with
  | nil => exact noNumber_append gapped (.inr closes)
  | cons next others => exact noNumber_append gapped (.inl rfl)

/-- No digit belongs to a gap. -/
theorem isGap_of_isAsciiDigit {c : Char} (digit : Text.isAsciiDigit c = true) :
    isGap c = false := by
  have notSpace : c ≠ ' ' := ne_of_isAsciiDigit digit rfl
  have notNewline : c ≠ '\n' := ne_of_isAsciiDigit digit rfl
  have notTab : c ≠ '\t' := ne_of_isAsciiDigit digit rfl
  have notReturn : c ≠ '\r' := ne_of_isAsciiDigit digit rfl
  simp [isGap, notSpace, notNewline, notTab, notReturn]

/-- The characters that a value may start with, apart from the digits. -/
def openings : List Char :=
  ['"', '[', '\x7b', '-', 'n', 't', 'f', 'N', 'I']

/-- A value starts with one of the openings or a digit. -/
theorem ValueText.starts_opening {enclosing : Nat} {text : List Char}
    {value : Json} (isValue : ValueText limits enclosing text value) : ∃ first others,
      text = first :: others ∧ (first ∈ openings ∨ Text.isAsciiDigit first = true) := by
  cases isValue with
  | name within known =>
      simp only [names, List.mem_cons, Prod.mk.injEq, List.not_mem_nil, or_false] at known
      rcases known with
        ⟨rfl, -⟩ | ⟨rfl, -⟩ | ⟨rfl, -⟩ | ⟨rfl, -⟩ | ⟨rfl, -⟩ | ⟨rfl, -⟩
      all_goals exact ⟨_, _, rfl, .inl (by decide)⟩
  | number within isNumber =>
      obtain ⟨negative, isWhole, -, -⟩ := isNumber
      obtain ⟨digit, digits, rfl⟩ := List.exists_cons_of_ne_nil isWhole.nonempty
      cases negative with
      | true => exact ⟨_, _, rfl, .inl (by decide)⟩
      | false => exact ⟨digit, _, rfl, .inr (isWhole.digits digit List.mem_cons_self)⟩
  | string => exact ⟨_, _, rfl, .inl (by decide)⟩
  | emptyList => exact ⟨_, _, rfl, .inl (by decide)⟩
  | list => exact ⟨_, _, rfl, .inl (by decide)⟩
  | emptyObject => exact ⟨_, _, rfl, .inl (by decide)⟩
  | object => exact ⟨_, _, rfl, .inl (by decide)⟩

/-- A value starts with none of the characters that may follow another one. -/
theorem ValueText.starts {enclosing : Nat} {text : List Char} {value : Json}
    (isValue : ValueText limits enclosing text value) : ∃ first others,
      text = first :: others ∧ isGap first = false ∧ first ≠ ']' := by
  obtain ⟨first, others, same, opening | digit⟩ := isValue.starts_opening
  · have different : ∀ c ∈ openings, isGap c = false ∧ c ≠ ']' := by simp [openings, isGap]
    exact ⟨first, others, same, different first opening⟩
  · exact ⟨first, others, same, isGap_of_isAsciiDigit digit, ne_of_isAsciiDigit digit rfl⟩

/-- The rest of an item behind the gap before it. -/
def Item.body (item : Item) : List Char :=
  item.text ++ item.after

/-- The rest of a member behind the gap before it. -/
def Member.body (member : Member) : List Char :=
  '"' :: (member.keyText ++ '"' :: (member.after ++ ':' :: member.item.written))

/-- The items of a list are read in front of its bracket, from the first character of the first one
on. -/
theorem items_eq_ok {enclosing : Nat} {item : Item} {others : List Item}
    (gaps : ∀ other ∈ item :: others, Gap other.before ∧ Gap other.after)
    (starts : ∀ other ∈ item :: others, ∃ first rest,
      other.text = first :: rest ∧ isGap first = false ∧ first ≠ ']')
    (areRead : ∀ other ∈ item :: others, IsRead limits enclosing other.text other.value)
    {whole : List Char} (reversed : List Json) {input : List Char} (rest : List Char)
    (within : input.length < whole.length)
    (split : input =
      item.body ++ goesOn ']' rest (others.map fun other => (other.before, other.body))) :
    ∃ shorter, items limits whole enclosing reversed input within =
      .ok ⟨reversed.reverse ++ (item :: others).map Item.value, rest, shorter⟩ := by
  induction others generalizing item reversed input with
  | nil =>
      obtain ⟨-, behindGapped⟩ := gaps item List.mem_cons_self
      rw [Item.body, List.append_assoc] at split
      obtain ⟨shorter, readItem⟩ := areRead item List.mem_cons_self input _ split
        (noNumber_goesOn behindGapped (.inl rfl) rest [])
      have nextRead : ∃ less, Parsed.next? ⟨item.value, _, shorter⟩ = some ⟨']', rest, less⟩ :=
        Parsed.next?_eq_some rfl behindGapped rfl
      obtain ⟨less, nextRead⟩ := nextRead
      refine ⟨Nat.lt_trans less within, ?_⟩
      rw [items.eq_def, readItem]
      simp only [bind, Except.bind]
      rw [nextRead]
      simp
  | cons next others inductionHypothesis =>
      obtain ⟨-, behindGapped⟩ := gaps item List.mem_cons_self
      obtain ⟨aheadGapped, -⟩ := gaps next (by simp)
      obtain ⟨first, letters, nextText, noGap, noBracket⟩ := starts next (by simp)
      rw [Item.body, List.append_assoc] at split
      obtain ⟨shorter, readItem⟩ := areRead item List.mem_cons_self input _ split
        (noNumber_goesOn behindGapped (.inl rfl) rest _)
      have nextRead : ∃ less, Parsed.next? ⟨item.value, _, shorter⟩ = some ⟨',', _, less⟩ :=
        Parsed.next?_eq_some rfl behindGapped rfl
      obtain ⟨less, nextRead⟩ := nextRead
      have startRead : ∃ less, next? (next.before ++ (next.body ++ goesOn ']' rest
          (others.map fun other => (other.before, other.body)))) =
            some ⟨first, letters ++ (next.after ++ goesOn ']' rest
              (others.map fun other => (other.before, other.body))), less⟩ :=
        Json.Line.next?_eq_some (by simp [Item.body, nextText]) aheadGapped noGap
      obtain ⟨startLess, startRead⟩ := startRead
      rw [items.eq_def, readItem]
      simp only [bind, Except.bind]
      rw [nextRead]
      simp only [Char.reduceEq, ↓reduceIte]
      rw [startRead]
      simp only [noBracket, ↓reduceIte]
      obtain ⟨restLess, readOthers⟩ := inductionHypothesis
        (fun other member => gaps other (List.mem_cons_of_mem _ member))
        (fun other member => starts other (List.mem_cons_of_mem _ member))
        (fun other member => areRead other (List.mem_cons_of_mem _ member))
        (item.value :: reversed)
        (Parsed.unread_lt_whole ⟨',', _, less⟩ ⟨first, _, startLess⟩ within)
        (by simp [Parsed.unread, Item.body, nextText])
      refine ⟨restLess, ?_⟩
      rw [readOthers]
      simp

/-- Reading a member of an object, from its key on, is reading the value behind its colon. -/
theorem member_eq_bind (enclosing : Nat) {member : Member}
    (isKey : StringText member.keyText member.key) (keyGapped : Gap member.after)
    (gapped : Gap member.item.before) (starts : ∃ first rest,
      member.item.text = first :: rest ∧ isGap first = false ∧ first ≠ ']') {input rest : List Char}
    (split : input = '"' :: (member.keyText ++ '"' :: (member.after ++ ':' ::
      (member.item.before ++ (member.item.text ++ rest))))) :
    ∃ colon : Parsed Char input, skipGap colon.rest = member.item.text ++ rest ∧
      Line.member limits enclosing input =
        (value limits enclosing (skipGap colon.rest)).bind fun read =>
          .ok ((colon.andThenBehindGap read).map (String.ofList member.key, ·)) := by
  subst split
  obtain ⟨first, letters, itemText, noGap, -⟩ := starts
  obtain ⟨keyLess, readKey⟩ := string_append isKey
    ('"' :: (member.keyText ++ '"' :: (member.after ++ ':' ::
      (member.item.before ++ (member.item.text ++ rest))))) []
    (member.after ++ ':' :: (member.item.before ++ (member.item.text ++ rest)))
    (length_lt_cons _ _)
  have colonRead : ∃ less, Parsed.next? ⟨String.ofList ([].reverse ++ member.key), _, keyLess⟩ =
      some ⟨':', _, less⟩ := Parsed.next?_eq_some rfl keyGapped rfl
  obtain ⟨colonLess, colonRead⟩ := colonRead
  refine ⟨⟨':', _, colonLess⟩, ?_, ?_⟩
  · refine skipGap_append gapped ?_
    simp [itemText, noGap]
  · rw [Line.member.eq_def]
    simp only [ne_eq, not_true_eq_false, ↓reduceIte]
    rw [readKey]
    simp only [bind, Except.bind]
    rw [colonRead]
    simp

/-- A member of an object is read, from its key on. -/
theorem member_eq_ok {enclosing : Nat} {member : Member}
    (isKey : StringText member.keyText member.key) (keyGapped : Gap member.after)
    (gapped : Gap member.item.before) (starts : ∃ first rest,
      member.item.text = first :: rest ∧ isGap first = false ∧ first ≠ ']')
    (isRead : IsRead limits enclosing member.item.text member.item.value) {input rest : List Char}
    (split : input = '"' :: (member.keyText ++ '"' :: (member.after ++ ':' ::
      (member.item.before ++ (member.item.text ++ rest))))) (stops : NoNumber rest) :
    ∃ shorter, Line.member limits enclosing input = .ok ⟨member.pair, rest, shorter⟩ := by
  obtain ⟨colon, skipped, same⟩ := member_eq_bind enclosing isKey keyGapped gapped starts split
  obtain ⟨itemLess, readItem⟩ := isRead _ rest skipped stops
  rw [same, readItem]
  exact ⟨_, rfl⟩

/-- A list in front of more text, from its first item on. -/
theorem list_append (item : Item) (others : List Item) (rest : List Char) :
    '[' :: (commaJoined ((item :: others).map Item.written) ++ [']']) ++ rest =
      '[' :: (item.before ++ (item.body ++
        goesOn ']' rest (others.map fun other => (other.before, other.body)))) := by
  rw [← commaJoined_eq_goesOn]
  simp only [List.map_cons, List.map_map, List.cons_append, List.append_assoc, List.nil_append]
  rfl

/-- The first character of an item comes next in front of it. -/
theorem next?_item {item : Item} (ahead : Gap item.before) {first : Char} {letters : List Char}
    (itemText : item.text = first :: letters) (noGap : isGap first = false) (rest : List Char) :
    ∃ less, next? (item.before ++ (item.body ++ rest)) =
      some ⟨first, letters ++ (item.after ++ rest), less⟩ :=
  next?_eq_some (by simp [Item.body, itemText]) ahead noGap

/-- An object in front of more text, from its first member on. -/
theorem object_append (member : Member) (others : List Member) (rest : List Char) :
    '\x7b' :: (commaJoined ((member :: others).map Member.written) ++ ['\x7d']) ++ rest =
      '\x7b' :: (member.before ++ (member.body ++
        goesOn '\x7d' rest (others.map fun other => (other.before, other.body)))) := by
  rw [← commaJoined_eq_goesOn]
  simp only [List.map_cons, List.map_map, List.cons_append, List.append_assoc, List.nil_append]
  rfl

/-- The members of an object are read in front of its brace, from the first quote on. -/
theorem members_eq_ok {enclosing : Nat} {member : Member} {others : List Member}
    (keys : ∀ other ∈ member :: others,
      Gap other.before ∧ StringText other.keyText other.key ∧ Gap other.after)
    (gaps : ∀ other ∈ member :: others, Gap other.item.before ∧ Gap other.item.after)
    (starts : ∀ other ∈ member :: others, ∃ first rest,
      other.item.text = first :: rest ∧ isGap first = false ∧ first ≠ ']')
    (areRead : ∀ other ∈ member :: others, IsRead limits enclosing other.item.text other.item.value)
    {whole : List Char} (reversed : List (String × Json)) {input : List Char}
    (rest : List Char) (within : input.length < whole.length)
    (split : input =
      member.body ++ goesOn '\x7d' rest (others.map fun other => (other.before, other.body))) :
    ∃ shorter, members limits whole enclosing reversed input within =
      .ok ⟨reversed.reverse ++ (member :: others).map Member.pair, rest, shorter⟩ := by
  induction others generalizing member reversed input with
  | nil =>
      obtain ⟨-, isKey, keyGapped⟩ := keys member List.mem_cons_self
      obtain ⟨aheadGapped, behindGapped⟩ := gaps member List.mem_cons_self
      obtain ⟨shorter, readMember⟩ := member_eq_ok isKey keyGapped aheadGapped
        (starts member List.mem_cons_self) (areRead member List.mem_cons_self)
        (split.trans (by simp [Member.body, Item.written]))
        (noNumber_goesOn behindGapped (.inr rfl) rest [])
      have nextRead : ∃ less, Parsed.next? ⟨member.pair, _, shorter⟩ = some ⟨'\x7d', rest, less⟩ :=
        Parsed.next?_eq_some rfl behindGapped rfl
      obtain ⟨less, nextRead⟩ := nextRead
      refine ⟨Nat.lt_trans less within, ?_⟩
      rw [members.eq_def, readMember]
      simp only [bind, Except.bind]
      rw [nextRead]
      simp
  | cons next others inductionHypothesis =>
      obtain ⟨-, isKey, keyGapped⟩ := keys member List.mem_cons_self
      obtain ⟨aheadGapped, behindGapped⟩ := gaps member List.mem_cons_self
      obtain ⟨nextGapped, -, -⟩ := keys next (by simp)
      obtain ⟨shorter, readMember⟩ := member_eq_ok isKey keyGapped aheadGapped
        (starts member List.mem_cons_self) (areRead member List.mem_cons_self)
        (split.trans (by simp [Member.body, Item.written]))
        (noNumber_goesOn behindGapped (.inr rfl) rest
          ((next :: others).map fun other => (other.before, other.body)))
      have nextRead : ∃ less, Parsed.next? ⟨member.pair, _, shorter⟩ = some ⟨',', _, less⟩ :=
        Parsed.next?_eq_some rfl behindGapped rfl
      obtain ⟨less, nextRead⟩ := nextRead
      have startRead : ∃ less, next? (next.before ++ (next.body ++ goesOn '\x7d' rest
          (others.map fun other => (other.before, other.body)))) = some ⟨'"', _, less⟩ :=
        Json.Line.next?_eq_some rfl nextGapped rfl
      obtain ⟨startLess, startRead⟩ := startRead
      rw [members.eq_def, readMember]
      simp only [bind, Except.bind]
      rw [nextRead]
      simp only [Char.reduceEq, ↓reduceIte]
      rw [startRead]
      simp only [Char.reduceEq, ↓reduceIte]
      obtain ⟨restLess, readOthers⟩ := inductionHypothesis
        (fun other there => keys other (List.mem_cons_of_mem _ there))
        (fun other there => gaps other (List.mem_cons_of_mem _ there))
        (fun other there => starts other (List.mem_cons_of_mem _ there))
        (fun other there => areRead other (List.mem_cons_of_mem _ there))
        (member.pair :: reversed)
        (Parsed.unread_lt_whole ⟨',', _, less⟩ ⟨'"', _, startLess⟩ within)
        (by simp [Parsed.unread, Member.body])
      refine ⟨restLess, ?_⟩
      rw [readOthers]
      simp

section Deep

variable {enclosing : Nat} (shallow : ¬ limits.depth < enclosing)

include shallow

/-- A name or a number is read as a value. -/
theorem isRead_scalar {text : List Char} {denoted : Json}
    (isScalar : ScalarText limits text denoted) : IsRead limits enclosing text denoted := by
  intro input rest split stops
  obtain ⟨first, others, shorter, same, ⟨notQuote, notBracket, notBrace⟩, read⟩ :=
    scalar_append isScalar stops
  rw [split, same]
  refine ⟨shorter, ?_⟩
  rw [value.eq_def]
  simp only [shallow, notQuote, notBracket, notBrace, ↓reduceIte]
  exact read

/-- A string is read as a value. -/
theorem isRead_string {text chars : List Char} (inside : StringText text chars) :
    IsRead limits enclosing ('"' :: (text ++ ['"'])) (.str (String.ofList chars)) := by
  intro input rest split _
  have same : input = '"' :: (text ++ '"' :: rest) := by
    simpa using split
  subst same
  obtain ⟨shorter, read⟩ := string_append inside ('"' :: (text ++ '"' :: rest)) [] rest
    (length_lt_cons _ _)
  refine ⟨shorter, ?_⟩
  rw [value.eq_def]
  simp only [shallow, ↓reduceIte]
  rw [read]
  rfl

/-- An empty list is read as a value. -/
theorem isRead_emptyList {gap : List Char} (gapped : Gap gap) :
    IsRead limits enclosing ('[' :: (gap ++ [']'])) (.list []) := by
  intro input rest split _
  have same : input = '[' :: (gap ++ ']' :: rest) := by
    simpa using split
  subst same
  have nextRead : ∃ less, next? (gap ++ ']' :: rest) = some ⟨']', rest, less⟩ :=
    Json.Line.next?_eq_some rfl gapped rfl
  obtain ⟨less, nextRead⟩ := nextRead
  refine ⟨Nat.lt_succ_of_lt less, ?_⟩
  rw [value.eq_def]
  simp only [shallow, nextRead, ↓reduceIte, Char.reduceEq]
  rfl

/-- An empty object is read as a value. -/
theorem isRead_emptyObject {gap : List Char} (gapped : Gap gap) :
    IsRead limits enclosing ('\x7b' :: (gap ++ ['\x7d'])) (.object []) := by
  intro input rest split _
  have same : input = '\x7b' :: (gap ++ '\x7d' :: rest) := by
    simpa using split
  subst same
  have nextRead : ∃ less, next? (gap ++ '\x7d' :: rest) = some ⟨'\x7d', rest, less⟩ :=
    Json.Line.next?_eq_some rfl gapped rfl
  obtain ⟨less, nextRead⟩ := nextRead
  refine ⟨Nat.lt_succ_of_lt less, ?_⟩
  rw [value.eq_def]
  simp only [shallow, nextRead, ↓reduceIte, Char.reduceEq]
  rfl

/-- A list is read as a value if its items are. -/
theorem isRead_list {items : List Item} (nonempty : items ≠ [])
    (gaps : ∀ item ∈ items, Gap item.before ∧ Gap item.after)
    (starts : ∀ item ∈ items, ∃ first rest,
      item.text = first :: rest ∧ isGap first = false ∧ first ≠ ']')
    (areRead : ∀ item ∈ items, IsRead limits (enclosing + 1) item.text item.value) :
    IsRead limits enclosing ('[' :: (commaJoined (items.map Item.written) ++ [']']))
      (.list (items.map Item.value)) := by
  obtain ⟨item, others, rfl⟩ := List.exists_cons_of_ne_nil nonempty
  obtain ⟨aheadGapped, -⟩ := gaps item List.mem_cons_self
  obtain ⟨first, letters, itemText, noGap, noBracket⟩ := starts item List.mem_cons_self
  intro input rest split _
  have same := split.trans (list_append item others rest)
  subst same
  obtain ⟨less, nextRead⟩ := next?_item aheadGapped itemText noGap (goesOn ']' rest
    (others.map fun other => (other.before, other.body)))
  obtain ⟨shorter, read⟩ := items_eq_ok gaps starts areRead [] rest
    (Parsed.unread_lt_cons '[' ⟨first, _, less⟩) (by simp [Parsed.unread, Item.body, itemText])
  refine ⟨shorter, ?_⟩
  rw [value.eq_def]
  simp only [shallow, nextRead, noBracket, ↓reduceIte, Char.reduceEq]
  rw [read]
  rfl

/-- An object is read as a value if the values of its members are. -/
theorem isRead_object {members : List Member} (nonempty : members ≠ [])
    (keys : ∀ member ∈ members,
      Gap member.before ∧ StringText member.keyText member.key ∧ Gap member.after)
    (gaps : ∀ member ∈ members, Gap member.item.before ∧ Gap member.item.after)
    (starts : ∀ member ∈ members, ∃ first rest,
      member.item.text = first :: rest ∧ isGap first = false ∧ first ≠ ']')
    (areRead : ∀ member ∈ members,
      IsRead limits (enclosing + 1) member.item.text member.item.value) :
    IsRead limits enclosing ('\x7b' :: (commaJoined (members.map Member.written) ++ ['\x7d']))
      (.object (membersOf (members.map Member.pair))) := by
  obtain ⟨member, others, rfl⟩ := List.exists_cons_of_ne_nil nonempty
  obtain ⟨aheadGapped, -, -⟩ := keys member List.mem_cons_self
  intro input rest split _
  have same := split.trans (object_append member others rest)
  subst same
  have nextRead : ∃ less, next? (member.before ++ (member.body ++ goesOn '\x7d' rest
      (others.map fun other => (other.before, other.body)))) = some ⟨'"', _, less⟩ :=
    Json.Line.next?_eq_some rfl aheadGapped rfl
  obtain ⟨less, nextRead⟩ := nextRead
  obtain ⟨shorter, read⟩ := members_eq_ok keys gaps starts areRead [] rest
    (Parsed.unread_lt_cons '\x7b' ⟨'"', _, less⟩) (by simp [Parsed.unread, Member.body])
  refine ⟨shorter, ?_⟩
  rw [value.eq_def]
  simp only [shallow, nextRead, ↓reduceIte, Char.reduceEq]
  rw [read]
  rfl

end Deep

/-- A text of the grammar is read as the value that it denotes. -/
theorem ValueText.isRead {enclosing : Nat} {text : List Char} {denoted : Json}
    (isValue : ValueText limits enclosing text denoted) : IsRead limits enclosing text denoted := by
  induction isValue with
  | name within known => exact isRead_scalar (Nat.not_lt.mpr within) (.inl ⟨_, rfl, known⟩)
  | number within isNumber =>
      exact isRead_scalar (Nat.not_lt.mpr within) (.inr ⟨_, isNumber, rfl⟩)
  | string within inside => exact isRead_string (Nat.not_lt.mpr within) inside
  | emptyList within gapped => exact isRead_emptyList (Nat.not_lt.mpr within) gapped
  | list within nonempty gaps values inductionHypothesis =>
      exact isRead_list (Nat.not_lt.mpr within) nonempty gaps
        (fun item member => (values item member).starts) inductionHypothesis
  | emptyObject within gapped => exact isRead_emptyObject (Nat.not_lt.mpr within) gapped
  | object within nonempty keys gaps values inductionHypothesis =>
      exact isRead_object (Nat.not_lt.mpr within) nonempty keys gaps
        (fun member there => (values member there).starts) inductionHypothesis

/-! ## Numbers with too many digits -/

/-- The text is refused as a value, whatever follows that is not more of a number. -/
def IsRefused (limits : Limits) (enclosing : Nat) (text : List Char) : Prop :=
  ∀ input rest, input = text ++ rest → NoNumber rest →
    ∃ failure, value limits enclosing input = .error failure

/-- A number with too many digits before its point is refused. -/
theorem isRefused_number {enclosing : Nat} {room : Option Nat} {limit : Nat} {whole : List Char}
    (isWhole : WholeDigits room whole) (limited : limits.room false = some limit)
    (long : limit < whole.length) :
    IsRefused limits enclosing whole := by
  intro input rest split stops
  have tooLong :=
    unsignedNumber_tooLong false isWhole (fun c first => (stops c first).1) limited long
  obtain ⟨digit, digits, rfl⟩ := List.exists_cons_of_ne_nil isWhole.nonempty
  have isDigit := isWhole.digits digit List.mem_cons_self
  have notQuote : digit ≠ '"' := ne_of_isAsciiDigit isDigit rfl
  have notBracket : digit ≠ '[' := ne_of_isAsciiDigit isDigit rfl
  have notBrace : digit ≠ '\x7b' := ne_of_isAsciiDigit isDigit rfl
  rw [split, List.cons_append, value.eq_def]
  simp only [notQuote, notBracket, notBrace, ↓reduceIte]
  split
  · exact ⟨_, rfl⟩
  · rw [scalar_digit _ isDigit]
    exact ⟨_, tooLong⟩

/-- An object is refused if the value of its first member is. -/
theorem isRefused_object {enclosing : Nat} {member : Member} {others : List Member}
    (ahead : Gap member.before) (isKey : StringText member.keyText member.key)
    (keyGapped : Gap member.after) (gapped : Gap member.item.before)
    (behind : Gap member.item.after) (starts : ∃ first rest,
      member.item.text = first :: rest ∧ isGap first = false ∧ first ≠ ']')
    (refused : IsRefused limits (enclosing + 1) member.item.text) :
    IsRefused limits enclosing
      ('\x7b' :: (commaJoined ((member :: others).map Member.written) ++ ['\x7d'])) := by
  intro input rest split _
  have same := split.trans (object_append member others rest)
  subst same
  have nextRead : ∃ less, next? (member.before ++ (member.body ++ goesOn '\x7d' rest
      (others.map fun other => (other.before, other.body)))) = some ⟨'"', _, less⟩ :=
    Json.Line.next?_eq_some rfl ahead rfl
  obtain ⟨less, nextRead⟩ := nextRead
  have unread : Parsed.unread ⟨'"', _, less⟩ = '"' :: (member.keyText ++ '"' :: (member.after ++
      ':' :: (member.item.before ++ (member.item.text ++ (member.item.after ++ goesOn '\x7d' rest
        (others.map fun other => (other.before, other.body))))))) := by
    simp [Parsed.unread, Item.written]
  obtain ⟨colon, skipped, readMember⟩ :=
    member_eq_bind (enclosing + 1) isKey keyGapped gapped starts unread
  obtain ⟨failure, readValue⟩ := refused _ _ skipped (noNumber_goesOn behind (.inr rfl) rest _)
  rw [value.eq_def]
  simp only [nextRead, ↓reduceIte, Char.reduceEq]
  split
  · exact ⟨_, rfl⟩
  · rw [members.eq_def, readMember, readValue]
    exact ⟨failure, rfl⟩

/-! ## Whole texts -/

/-- The reader accepts exactly the texts of the grammar, and yields what they denote. -/
theorem document_eq_ok_iff {text : List Char} {denoted : Json} :
    document limits text = .ok denoted ↔ DocumentText limits text denoted := by
  constructor
  · intro found
    obtain ⟨read, readValue, ending⟩ := bind_eq_ok.mp found
    obtain ⟨inner, split, isValue⟩ := readsValue 0 _ read readValue
    obtain ⟨before, beforeGapped, splitBefore⟩ := exists_gap text
    obtain ⟨after, afterGapped, splitAfter⟩ := exists_gap read.rest
    split at ending
    · next nothing =>
      obtain rfl := Except.ok.inj ending
      rw [nothing, List.append_nil] at splitAfter
      rw [split, splitAfter] at splitBefore
      exact ⟨before, inner, after, splitBefore, beforeGapped, afterGapped, isValue⟩
    · cases ending
  · rintro ⟨before, inner, after, rfl, beforeGapped, afterGapped, isValue⟩
    obtain ⟨first, others, innerText, noGap, -⟩ := isValue.starts
    have skipped : skipGap (before ++ (inner ++ after)) = inner ++ after :=
      skipGap_append beforeGapped (by simp [innerText, noGap])
    obtain ⟨shorter, read⟩ := isValue.isRead _ after skipped afterGapped.noNumber
    have nothing : skipGap after = [] := by
      rw [← List.append_nil after]
      exact skipGap_append afterGapped nofun
    rw [document, read]
    simp only [bind, Except.bind]
    rw [nothing]

/-- A text is refused if its value is. -/
theorem document_isRefused {text : List Char} (starts : ∃ first rest,
      text = first :: rest ∧ isGap first = false ∧ first ≠ ']')
        (refused : IsRefused limits 0 text) :
    ∃ failure, document limits text = .error failure := by
  obtain ⟨first, rest, rfl, noGap, -⟩ := starts
  have skipped : skipGap (first :: rest) = first :: rest ++ [] := by
    simp [skipGap, noGap]
  obtain ⟨failure, readValue⟩ := refused _ _ skipped gap_nil.noNumber
  rw [document, readValue]
  exact ⟨failure, rfl⟩

/-- A text denotes one value at most. -/
theorem DocumentText.unique {text : List Char} {left right : Json}
    (isLeft : DocumentText limits text left) (isRight : DocumentText limits text right) :
    left = right :=
  Except.ok.inj ((document_eq_ok_iff.mpr isLeft).symm.trans (document_eq_ok_iff.mpr isRight))

end LintClient.Json.Line
