import LintClient.Proofs.Json.Line.Tokens
import LintClient.Proofs.Json.Members

/-!
# Texts without gaps

A list or an object that is written without gaps, and with keys that are spelt as they are, denotes
what it is made of (`valueText_listText`, `valueText_objectText`). In the other direction, what a
text of a list or an object denotes is made of parts that have texts themselves (`exists_items`,
`exists_members`). A value without parts is denoted by its text wherever it stands
(`ValueText.moved`).
-/

namespace LintClient.Json

/-- A value without parts. -/
def Flat : Json → Prop
  | .list _ | .object _ => False
  | _ => True

/-- The value of a key is the value of one of the members. -/
theorem exists_of_lastMember? {key : String} {pairs : List (String × Json)} {value : Json}
    (found : lastMember? key pairs = some value) : (key, value) ∈ pairs := by
  obtain ⟨before, after, split, -⟩ := List.lookup_eq_some_iff.mp found
  rw [← List.mem_reverse, split]
  exact List.mem_append_right _ List.mem_cons_self

namespace Line

variable {limits : Limits} {enclosing : Nat} {text : List Char} {value : Json}

/-! ## Writing -/

/-- An item without gaps. -/
def plainItem (text : List Char) (value : Json) : Item :=
  ⟨[], text, [], value⟩

/-- A member without gaps, whose key is spelt as it is. -/
def plainMember (key text : List Char) (value : Json) : Member :=
  ⟨[], key, [], key, plainItem text value⟩

/-- A member that gives a text which is spelt as it is. -/
def textMember (key chars : List Char) : Member :=
  plainMember key ('"' :: (chars ++ ['"'])) (.str (String.ofList chars))

/-- The text of a list with the given items. -/
def listText (items : List Item) : List Char :=
  '[' :: (commaJoined (items.map Item.written) ++ [']'])

/-- The text of an object with the given members. -/
def objectText (members : List Member) : List Char :=
  '\x7b' :: (commaJoined (members.map Member.written) ++ ['\x7d'])

/-- The key and the value that a plain member stands for. -/
@[simp] theorem pair_plainMember (key text : List Char) (value : Json) :
    (plainMember key text value).pair = (String.ofList key, value) := rfl

/-- The key and the text that a plain member stands for. -/
@[simp] theorem pair_textMember (key chars : List Char) :
    (textMember key chars).pair = (String.ofList key, .str (String.ofList chars)) := rfl

/-- A value without gaps around it is an item. -/
theorem itemText_plain (isValue : ValueText limits enclosing text value) :
    ItemText limits enclosing (plainItem text value) :=
  ⟨gap_nil, gap_nil, isValue⟩

/-- A key without escapes and a value, without gaps, are a member. -/
theorem memberText_plain {key : List Char} (isKey : StringText key key)
    (isValue : ValueText limits enclosing text value) :
    MemberText limits enclosing (plainMember key text value) :=
  ⟨gap_nil, isKey, gap_nil, itemText_plain isValue⟩

/-- A key and a text without escapes are a member. -/
theorem memberText_text {key chars : List Char} (isKey : StringText key key)
    (room : enclosing ≤ limits.depth) (inside : StringText chars chars) :
    MemberText limits enclosing (textMember key chars) :=
  memberText_plain isKey (.string room inside)

/-- The text of a list denotes the list. -/
theorem valueText_listText {items : List Item} (room : enclosing ≤ limits.depth)
    (some : items ≠ []) (texts : ∀ item ∈ items, ItemText limits (enclosing + 1) item) :
    ValueText limits enclosing (listText items) (.list (items.map Item.value)) :=
  .list room some (fun item there => ⟨(texts item there).before, (texts item there).after⟩)
    (fun item there => (texts item there).value)

/-- The text of an object denotes the object. -/
theorem valueText_objectText {members : List Member} (room : enclosing ≤ limits.depth)
    (some : members ≠ []) (texts : ∀ member ∈ members, MemberText limits (enclosing + 1) member) :
    ValueText limits enclosing (objectText members)
      (.object (membersOf (members.map Member.pair))) :=
  .object room some
    (fun member there => ⟨(texts member there).before, (texts member there).key,
      (texts member there).after⟩)
    (fun member there => ⟨(texts member there).item.before, (texts member there).item.after⟩)
    (fun member there => (texts member there).item.value)

/-- The text of an object is a text that denotes it. -/
theorem documentText_objectText {members : List Member} (some : members ≠ [])
    (texts : ∀ member ∈ members, MemberText limits 1 member) :
    DocumentText limits (objectText members) (.object (membersOf (members.map Member.pair))) :=
  ⟨[], objectText members, [], (List.append_nil _).symm, gap_nil, gap_nil,
    valueText_objectText (Nat.zero_le _) some texts⟩

/-! ## Parts -/

/-- The values that are names have no parts. -/
theorem flat_of_mem_names {word : String} (known : (word, value) ∈ names) : value.Flat := by
  simp only [names, List.mem_cons, Prod.mk.injEq, List.not_mem_nil, or_false] at known
  rcases known with ⟨-, rfl⟩ | ⟨-, rfl⟩ | ⟨-, rfl⟩ | ⟨-, rfl⟩ | ⟨-, rfl⟩ | ⟨-, rfl⟩ <;> trivial

/-- Numbers have no parts. -/
theorem flat_ofNumeral (numeral : Numeral) : (ofNumeral numeral).Flat := by
  unfold ofNumeral
  split <;> trivial

/-- The items of a list have texts. -/
theorem exists_items {values : List Json}
    (isList : ValueText limits enclosing text (.list values)) :
    ∃ items : List Item, values = items.map Item.value ∧
      ∀ item ∈ items, ItemText limits (enclosing + 1) item := by
  generalize same : Json.list values = value at isList
  cases isList with
  | name within known =>
      have flat : Flat (.list values) := same ▸ flat_of_mem_names known
      exact flat.elim
  | @number _ _ numeral =>
      have flat : Flat (.list values) := same ▸ flat_ofNumeral numeral
      exact flat.elim
  | emptyList =>
      cases same
      exact ⟨[], rfl, nofun⟩
  | list within some gaps values =>
      cases same
      exact ⟨_, rfl, fun item there =>
        ⟨(gaps item there).1, (gaps item there).2, values item there⟩⟩
  | string => cases same
  | emptyObject => cases same
  | object => cases same

/-- The members of an object have texts. -/
theorem exists_members {pairs : List (String × Json)}
    (isObject : ValueText limits enclosing text (.object pairs)) :
    ∃ members : List Member, pairs = membersOf (members.map Member.pair) ∧
      ∀ member ∈ members, MemberText limits (enclosing + 1) member := by
  generalize same : Json.object pairs = value at isObject
  cases isObject with
  | name within known =>
      have flat : Flat (.object pairs) := same ▸ flat_of_mem_names known
      exact flat.elim
  | @number _ _ numeral =>
      have flat : Flat (.object pairs) := same ▸ flat_ofNumeral numeral
      exact flat.elim
  | emptyObject =>
      cases same
      exact ⟨[], rfl, nofun⟩
  | object within some keys gaps values =>
      cases same
      refine ⟨_, rfl, fun member there => ?_⟩
      obtain ⟨before, key, after⟩ := keys member there
      exact ⟨before, key, after, (gaps member there).1, (gaps member there).2, values member there⟩
  | string => cases same
  | emptyList => cases same
  | list => cases same

/-- The value of a member of an object has a text. -/
theorem exists_valueText_of_member? {pairs : List (String × Json)} {key : String}
    (isObject : ValueText limits enclosing text (.object pairs))
    (found : member? key pairs = some value) :
    ∃ part, ValueText limits (enclosing + 1) part value := by
  obtain ⟨members, rfl, texts⟩ := exists_members isObject
  rw [member?_membersOf] at found
  obtain ⟨member, there, same⟩ := List.mem_map.mp (exists_of_lastMember? found)
  have isValue := (texts member there).item.value
  rw [show member.item.value = value from congrArg Prod.snd same] at isValue
  exact ⟨_, isValue⟩

/-- The text of a value without parts denotes the value wherever it stands. -/
theorem ValueText.moved (isValue : ValueText limits enclosing text value) (flat : value.Flat)
    {place : Nat} (room : place ≤ limits.depth) : ValueText limits place text value := by
  cases isValue with
  | name _ known => exact .name room known
  | number _ isNumber => exact .number room isNumber
  | string _ inside => exact .string room inside
  | emptyList => exact flat.elim
  | list => exact flat.elim
  | emptyObject => exact flat.elim
  | object => exact flat.elim

end Line

end LintClient.Json
