import LintClient.Proofs.Json.Document.Tokens
import LintClient.Proofs.Json.Members

/-!
# Values of whole files

The reader of whole files reads every text of the line protocol's grammar as the value that it
denotes, by induction on the text (`documentWithin_of_documentText`). Containers have to leave one
level of nesting to spare. Nothing is said about what else the reader accepts: it also takes escapes
that spell no character.
-/

namespace LintClient.Json.Document

open Text (Source)
open Line (Gap StringText ValueText Item Member NoNumber ScalarText Limits commaJoined goesOn)

/-- The text is read as the value in front of anything that does not go on with a number. -/
def IsRead (digitLimit : Option Nat) (enclosing : Nat) (text : List Char) (denoted : Json) : Prop :=
  ∀ input rest, input = text ++ rest → NoNumber rest →
    ∃ shorter, value digitLimit enclosing input = .ok ⟨denoted, rest, shorter⟩

/-- An item of a list with gaps around it, whose text is read as its value. -/
structure ItemIsRead (digitLimit : Option Nat) (enclosing : Nat) (item : Item) : Prop where
  before : Gap item.before
  after : Gap item.after
  starts : ∃ first rest, item.text = first :: rest ∧ isGap first = false ∧ first ≠ ']'
  isRead : IsRead digitLimit enclosing item.text item.value

/-- The key and the value of a member as they are read. -/
def readPair (member : Member) : Source × Json :=
  (.ofText member.key, member.item.value)

/-- Members that are read make up the object that they denote. -/
theorem objectOf_readPair (members : List Member) :
    objectOf (members.map readPair) = .object (membersOf (members.map Member.pair)) := by
  have same : members.map readPair =
      (members.map Member.pair).map fun pair => (.ofString pair.1, pair.2) := by
    simp [readPair, Member.pair, Source.ofString]
  rw [same, objectOf_ofText]

/-- A member of an object with gaps around its key, whose item is read. -/
structure MemberIsRead (digitLimit : Option Nat) (enclosing : Nat) (member : Member) : Prop where
  before : Gap member.before
  key : StringText member.keyText member.key
  after : Gap member.after
  item : ItemIsRead digitLimit enclosing member.item

section

variable {digitLimit : Option Nat} {enclosing : Nat}

/-- A gap in front of a value is skipped, and nothing of the value with it. -/
theorem skipGap_text {gap text : List Char} (gapped : Gap gap) (rest : List Char)
    (starts : ∃ first others, text = first :: others ∧ isGap first = false ∧ first ≠ ']') :
    skipGap (gap ++ (text ++ rest)) = text ++ rest := by
  obtain ⟨first, others, rfl, noGap, -⟩ := starts
  exact Line.skipGap_append gapped (by simp [noGap])

/-- The gap in front of an item is skipped. -/
theorem ItemIsRead.skipGap {item : Item} (isItem : ItemIsRead digitLimit enclosing item)
    (rest : List Char) : skipGap (item.before ++ (item.body ++ rest)) = item.body ++ rest := by
  rw [Item.body, List.append_assoc]
  exact skipGap_text isItem.before (item.after ++ rest) isItem.starts

/-- An item is read up to the gap behind it. -/
theorem ItemIsRead.value_eq_ok {item : Item} (isItem : ItemIsRead digitLimit enclosing item)
    {input rest : List Char} (split : input = item.body ++ rest)
    (stops : NoNumber (item.after ++ rest)) :
    ∃ shorter, value digitLimit enclosing input =
      .ok ⟨item.value, item.after ++ rest, shorter⟩ := by
  rw [Item.body, List.append_assoc] at split
  exact isItem.isRead input _ split stops

/-- The items of a list are read in front of its bracket, from the first character of the first one
on. -/
theorem items_eq_ok {item : Item} {others : List Item}
    (areItems : ∀ other ∈ item :: others, ItemIsRead digitLimit enclosing other)
    {whole : List Char} (reversed : List Json) {input : List Char} (rest : List Char)
    (within : input.length < whole.length)
    (split : input =
      item.body ++ goesOn ']' rest (others.map fun other => (other.before, other.body))) :
    ∃ shorter, items digitLimit whole enclosing reversed input within =
      .ok ⟨reversed.reverse ++ (item :: others).map Item.value, rest, shorter⟩ := by
  have isItem := areItems item List.mem_cons_self
  induction others generalizing item reversed input with
  | nil =>
      obtain ⟨shorter, readItem⟩ := isItem.value_eq_ok split
        (Line.noNumber_goesOn isItem.after (.inl rfl) rest [])
      have nextRead : ∃ less, Parsed.next? ⟨item.value, _, shorter⟩ = some ⟨']', rest, less⟩ :=
        Line.Parsed.next?_eq_some rfl isItem.after rfl
      obtain ⟨less, nextRead⟩ := nextRead
      refine ⟨Nat.lt_trans less within, ?_⟩
      rw [items.eq_def, readItem]
      simp only [bind, Except.bind]
      rw [nextRead]
      simp
  | cons next others inductionHypothesis =>
      obtain ⟨shorter, readItem⟩ := isItem.value_eq_ok split
        (Line.noNumber_goesOn isItem.after (.inl rfl) rest
          ((next :: others).map fun other => (other.before, other.body)))
      have nextRead : ∃ less, Parsed.next? ⟨item.value, _, shorter⟩ = some ⟨',', _, less⟩ :=
        Line.Parsed.next?_eq_some rfl isItem.after rfl
      obtain ⟨less, nextRead⟩ := nextRead
      have areOthers := (List.forall_mem_cons.mp areItems).2
      have isNext := areOthers next List.mem_cons_self
      obtain ⟨restLess, readOthers⟩ := inductionHypothesis areOthers (item.value :: reversed)
        (Parsed.skipGap_lt_whole ⟨',', _, less⟩ within) (isNext.skipGap _) isNext
      refine ⟨restLess, ?_⟩
      rw [items.eq_def, readItem]
      simp only [bind, Except.bind]
      rw [nextRead]
      simp only [Char.reduceEq, ↓reduceIte]
      rw [readOthers]
      simp

/-- A member of an object is read from its key on, up to the gap behind its value. -/
theorem member_eq_ok {member : Member} (isMember : MemberIsRead digitLimit enclosing member)
    {input rest : List Char} (split : input = member.body ++ rest)
    (stops : NoNumber (member.item.after ++ rest)) :
    ∃ shorter, Document.member digitLimit enclosing input =
      .ok ⟨readPair member, member.item.after ++ rest, shorter⟩ := by
  have written : input = '"' :: (member.keyText ++ '"' :: (member.after ++ ':' ::
      (member.item.before ++ (member.item.body ++ rest)))) := by
    rw [split]
    simp [Member.body, Item.written, Item.body]
  subst written
  obtain ⟨keyLess, readKey⟩ := string_append isMember.key
    ('"' :: (member.keyText ++ '"' :: (member.after ++ ':' ::
      (member.item.before ++ (member.item.body ++ rest))))) []
    (member.after ++ ':' :: (member.item.before ++ (member.item.body ++ rest)))
    (length_lt_cons _ _)
  have colonRead : ∃ less, Parsed.next? ⟨[].reverse ++ Source.ofText member.key, _, keyLess⟩ =
      some ⟨':', _, less⟩ := Line.Parsed.next?_eq_some rfl isMember.after rfl
  obtain ⟨colonLess, colonRead⟩ := colonRead
  obtain ⟨itemLess, readItem⟩ := isMember.item.value_eq_ok (isMember.item.skipGap rest) stops
  have readMember : Document.member digitLimit enclosing _ = .ok ((Parsed.andThenBehindGap
      ⟨':', _, colonLess⟩ ⟨member.item.value, _, itemLess⟩).map (Source.ofText member.key, ·)) := by
    rw [Document.member.eq_def]
    simp only [ne_eq, not_true_eq_false, ↓reduceIte]
    rw [readKey]
    simp only [bind, Except.bind]
    rw [colonRead]
    simp only [not_true_eq_false, ↓reduceIte]
    rw [readItem]
    rfl
  exact ⟨_, readMember⟩

/-- The members of an object are read in front of its brace, from the first quote on. -/
theorem members_eq_ok {member : Member} {others : List Member}
    (areMembers : ∀ other ∈ member :: others, MemberIsRead digitLimit enclosing other)
    {whole : List Char} (reversed : List (Source × Json)) {input : List Char}
    (rest : List Char) (within : input.length < whole.length)
    (split : input =
      member.body ++ goesOn '\x7d' rest (others.map fun other => (other.before, other.body))) :
    ∃ shorter, members digitLimit whole enclosing reversed input within =
      .ok ⟨reversed.reverse ++ (member :: others).map readPair, rest, shorter⟩ := by
  have isMember := areMembers member List.mem_cons_self
  induction others generalizing member reversed input with
  | nil =>
      obtain ⟨shorter, readMember⟩ := member_eq_ok isMember split
        (Line.noNumber_goesOn isMember.item.after (.inr rfl) rest [])
      have nextRead :
          ∃ less, Parsed.next? ⟨readPair member, _, shorter⟩ = some ⟨'\x7d', rest, less⟩ :=
        Line.Parsed.next?_eq_some rfl isMember.item.after rfl
      obtain ⟨less, nextRead⟩ := nextRead
      refine ⟨Nat.lt_trans less within, ?_⟩
      rw [members.eq_def, readMember]
      simp only [bind, Except.bind]
      rw [nextRead]
      simp
  | cons next others inductionHypothesis =>
      obtain ⟨shorter, readMember⟩ := member_eq_ok isMember split
        (Line.noNumber_goesOn isMember.item.after (.inr rfl) rest
          ((next :: others).map fun other => (other.before, other.body)))
      have nextRead : ∃ less, Parsed.next? ⟨readPair member, _, shorter⟩ = some ⟨',', _, less⟩ :=
        Line.Parsed.next?_eq_some rfl isMember.item.after rfl
      obtain ⟨less, nextRead⟩ := nextRead
      have areOthers := (List.forall_mem_cons.mp areMembers).2
      have isNext := areOthers next List.mem_cons_self
      obtain ⟨restLess, readOthers⟩ := inductionHypothesis areOthers (readPair member :: reversed)
        (Parsed.skipGap_lt_whole ⟨',', _, less⟩ within)
        (Line.skipGap_append isNext.before (by simp [Member.body, isGap])) isNext
      refine ⟨restLess, ?_⟩
      rw [members.eq_def, readMember]
      simp only [bind, Except.bind]
      rw [nextRead]
      simp only [Char.reduceEq, ↓reduceIte]
      rw [readOthers]
      simp

/-! ## Values -/

/-- A name or a number is read as a value. -/
theorem isRead_scalar {limits : Limits} {text : List Char} {denoted : Json}
    (isScalar : ScalarText limits text denoted) :
    IsRead limits.digits enclosing text denoted := by
  intro input rest split stops
  have read : ∃ first others shorter, text ++ rest = first :: others ∧
      (first ≠ '"' ∧ first ≠ '[' ∧ first ≠ '\x7b') ∧
      scalar limits.digits (first :: others) = .ok ⟨denoted, rest, shorter⟩ := by
    rcases isScalar with ⟨word, rfl, known⟩ | ⟨numeral, isNumber, rfl⟩
    · exact scalar_name limits.digits known rest
    · exact scalar_number isNumber stops
  obtain ⟨first, others, shorter, same, ⟨notQuote, notBracket, notBrace⟩, read⟩ := read
  rw [split, same]
  refine ⟨shorter, ?_⟩
  rw [value.eq_def]
  simp only [notQuote, notBracket, notBrace, ↓reduceIte]
  exact read

/-- A string is read as a value. -/
theorem isRead_string {text chars : List Char} (inside : StringText text chars) :
    IsRead digitLimit enclosing ('"' :: (text ++ ['"'])) (.str (String.ofList chars)) := by
  intro input rest split _
  have same : input = '"' :: (text ++ '"' :: rest) := by
    simpa using split
  subst same
  obtain ⟨shorter, read⟩ := string_append inside ('"' :: (text ++ '"' :: rest)) [] rest
    (length_lt_cons _ _)
  refine ⟨shorter, ?_⟩
  rw [value.eq_def]
  simp only [↓reduceIte]
  rw [read]
  simp only [bind, Except.bind, Parsed.map, List.reverse_nil, List.nil_append, ofSource_ofText]

section Containers

variable (shallow : ¬ nestingLimit ≤ enclosing)

include shallow

/-- An empty list is read as a value. -/
theorem isRead_emptyList {gap : List Char} (gapped : Gap gap) :
    IsRead digitLimit enclosing ('[' :: (gap ++ [']'])) (.list []) := by
  intro input rest split _
  have same : input = '[' :: (gap ++ ']' :: rest) := by
    simpa using split
  subst same
  have nextRead : ∃ less, next? (gap ++ ']' :: rest) = some ⟨']', rest, less⟩ :=
    Line.next?_eq_some rfl gapped rfl
  obtain ⟨less, nextRead⟩ := nextRead
  refine ⟨Nat.lt_succ_of_lt less, ?_⟩
  rw [value.eq_def]
  simp only [shallow, nextRead, ↓reduceIte, Char.reduceEq]
  rfl

/-- An empty object is read as a value. -/
theorem isRead_emptyObject {gap : List Char} (gapped : Gap gap) :
    IsRead digitLimit enclosing ('\x7b' :: (gap ++ ['\x7d'])) (.object []) := by
  intro input rest split _
  have same : input = '\x7b' :: (gap ++ '\x7d' :: rest) := by
    simpa using split
  subst same
  have nextRead : ∃ less, next? (gap ++ '\x7d' :: rest) = some ⟨'\x7d', rest, less⟩ :=
    Line.next?_eq_some rfl gapped rfl
  obtain ⟨less, nextRead⟩ := nextRead
  refine ⟨Nat.lt_succ_of_lt less, ?_⟩
  rw [value.eq_def]
  simp only [shallow, nextRead, ↓reduceIte, Char.reduceEq]
  rfl

/-- A list is read as a value if its items are. -/
theorem isRead_list {items : List Item} (nonempty : items ≠ [])
    (areItems : ∀ item ∈ items, ItemIsRead digitLimit (enclosing + 1) item) :
    IsRead digitLimit enclosing ('[' :: (commaJoined (items.map Item.written) ++ [']']))
      (.list (items.map Item.value)) := by
  obtain ⟨item, others, rfl⟩ := List.exists_cons_of_ne_nil nonempty
  have isItem := areItems item List.mem_cons_self
  obtain ⟨first, letters, itemText, noGap, noBracket⟩ := isItem.starts
  intro input rest split _
  have same := split.trans (Line.list_append item others rest)
  subst same
  obtain ⟨less, nextRead⟩ := Line.next?_item isItem.before itemText noGap (goesOn ']' rest
    (others.map fun other => (other.before, other.body)))
  obtain ⟨shorter, read⟩ := items_eq_ok areItems [] rest
    (Parsed.unread_lt_cons '[' ⟨first, _, less⟩) (by simp [Parsed.unread, Item.body, itemText])
  refine ⟨shorter, ?_⟩
  rw [value.eq_def]
  simp only [shallow, nextRead, noBracket, ↓reduceIte, Char.reduceEq]
  rw [read]
  rfl

/-- An object is read as a value if its members are. -/
theorem isRead_object {members : List Member} (nonempty : members ≠ [])
    (areMembers : ∀ member ∈ members, MemberIsRead digitLimit (enclosing + 1) member) :
    IsRead digitLimit enclosing
      ('\x7b' :: (commaJoined (members.map Member.written) ++ ['\x7d']))
      (.object (membersOf (members.map Member.pair))) := by
  obtain ⟨member, others, rfl⟩ := List.exists_cons_of_ne_nil nonempty
  have isMember := areMembers member List.mem_cons_self
  intro input rest split _
  have same := split.trans (Line.object_append member others rest)
  subst same
  have nextRead : ∃ less, next? (member.before ++ (member.body ++ goesOn '\x7d' rest
      (others.map fun other => (other.before, other.body)))) = some ⟨'"', _, less⟩ :=
    Line.next?_eq_some rfl isMember.before rfl
  obtain ⟨less, nextRead⟩ := nextRead
  obtain ⟨shorter, read⟩ := members_eq_ok areMembers [] rest
    (Parsed.unread_lt_cons '\x7b' ⟨'"', _, less⟩) (by simp [Parsed.unread, Member.body])
  refine ⟨shorter, ?_⟩
  rw [value.eq_def]
  simp only [shallow, nextRead, ↓reduceIte, Char.reduceEq]
  rw [read]
  simp only [bind, Except.bind, Parsed.map, List.reverse_nil, List.nil_append, objectOf_readPair]

end Containers

end

/-- A text of the grammar is read as the value that it denotes. -/
theorem isRead_of_valueText {limits : Limits} {enclosing : Nat} {text : List Char} {denoted : Json}
    (spare : limits.depth < nestingLimit) (isValue : ValueText limits enclosing text denoted) :
    IsRead limits.digits enclosing text denoted := by
  have shallow {level : Nat} (within : level ≤ limits.depth) : ¬ nestingLimit ≤ level := by
    omega
  induction isValue with
  | name within known => exact isRead_scalar (.inl ⟨_, rfl, known⟩)
  | number within isNumber => exact isRead_scalar (.inr ⟨_, isNumber, rfl⟩)
  | string within inside => exact isRead_string inside
  | emptyList within gapped => exact isRead_emptyList (shallow within) gapped
  | list within nonempty gaps values inductionHypothesis =>
      apply isRead_list (shallow within) nonempty
      intro item there
      obtain ⟨before, after⟩ := gaps item there
      exact ⟨before, after, (values item there).starts, inductionHypothesis item there⟩
  | emptyObject within gapped => exact isRead_emptyObject (shallow within) gapped
  | object within nonempty keys gaps values inductionHypothesis =>
      apply isRead_object (shallow within) nonempty
      intro member there
      obtain ⟨inFront, key, behind⟩ := keys member there
      obtain ⟨before, after⟩ := gaps member there
      exact ⟨inFront, key, behind, before, after, (values member there).starts,
        inductionHypothesis member there⟩

/-- A text of the grammar has no byte order mark in front. -/
theorem head?_ne_mark {limits : Limits} {text : List Char} {denoted : Json}
    (isDocument : Line.DocumentText limits text denoted) : text.head? ≠ some '\uFEFF' := by
  obtain ⟨before, inner, after, rfl, beforeGapped, -, isValue⟩ := isDocument
  intro marked
  cases before with
  | nil =>
      obtain ⟨first, others, rfl, opening | digit⟩ := isValue.starts_opening
      · obtain rfl := Option.some.inj marked
        exact absurd opening (by decide)
      · exact Line.ne_of_isAsciiDigit digit rfl (Option.some.inj marked)
  | cons space before =>
      obtain rfl := Option.some.inj marked
      exact absurd (beforeGapped _ List.mem_cons_self) (by decide)

/-- A text of the grammar with gaps around it is read as the value that it denotes. -/
theorem documentWithin_of_documentText {limits : Limits} {text : List Char} {denoted : Json}
    (spare : limits.depth < nestingLimit) (isDocument : Line.DocumentText limits text denoted) :
    documentWithin limits.digits text = .ok denoted := by
  have unmarked := head?_ne_mark isDocument
  obtain ⟨before, inner, after, rfl, beforeGapped, afterGapped, isValue⟩ := isDocument
  have skipped := skipGap_text beforeGapped after isValue.starts
  obtain ⟨shorter, read⟩ :=
    isRead_of_valueText spare isValue _ after skipped afterGapped.noNumber
  have nothing : skipGap after = [] := by
    rw [← List.append_nil after]
    exact Line.skipGap_append afterGapped nofun
  rw [documentWithin, if_neg unmarked, read]
  simp only [bind, Except.bind]
  rw [nothing]

end LintClient.Json.Document
