import LintClient.Proofs.Json.Line.Plain
import LintClient.Proofs.Json.Line.Values

/-!
# Lists that are nested too deeply

A list in a list in a list is JSON however many there are, and it denotes what it shows
(`valueText_nested`). The reader refuses it as soon as the innermost list lies within more
containers than may be nested (`isRefused_nested`), and with it the whole object in which it stands
(`document_objectText_isRefused`).
-/

namespace LintClient.Json.Line

/-- An empty list within so many lists. -/
def nested : Nat → List Char
  | 0 => ['[', ']']
  | depth + 1 => '[' :: (nested depth ++ [']'])

/-- The value of an empty list within so many lists. -/
def nestedValue : Nat → Json
  | 0 => .list []
  | depth + 1 => .list [nestedValue depth]

/-- The items of the outermost of the lists. -/
def nestedItems : Nat → List Json
  | 0 => []
  | depth + 1 => [nestedValue depth]

/-- Nested lists are a list, of none or of one item. -/
theorem nestedValue_eq_list (depth : Nat) : nestedValue depth = .list (nestedItems depth) := by
  cases depth <;> rfl

/-- The text of deeper lists is that of a list with the others inside. -/
theorem nested_succ (depth : Nat) :
    nested (depth + 1) = listText [plainItem (nested depth) (nestedValue depth)] := by
  simp [nested, listText, plainItem, commaJoined, Item.written]

/-- The text of nested lists starts with neither a gap nor a closing bracket. -/
theorem nested_starts (depth : Nat) :
    ∃ first rest, nested depth = first :: rest ∧ isGap first = false ∧ first ≠ ']' := by
  cases depth with
  | zero => exact ⟨'[', [']'], rfl, rfl, by decide⟩
  | succ depth => exact ⟨'[', nested depth ++ [']'], rfl, rfl, by decide⟩

/-- Nested lists are JSON if the limits leave room for the innermost one. -/
theorem valueText_nested {limits : Limits} {enclosing depth : Nat}
    (room : enclosing + depth ≤ limits.depth) :
    ValueText limits enclosing (nested depth) (nestedValue depth) := by
  induction depth generalizing enclosing with
  | zero => exact .emptyList room gap_nil
  | succ depth inductionHypothesis =>
      have inside := @inductionHypothesis (enclosing + 1) (by omega)
      have room : enclosing ≤ limits.depth := by omega
      rw [nested_succ]
      exact valueText_listText room (List.cons_ne_nil _ _)
        (List.forall_mem_singleton.mpr (itemText_plain inside))

/-- No value is read inside more containers than may be nested. -/
theorem isRefused_tooDeep {limits : Limits} {enclosing : Nat} {text : List Char} (some : text ≠ [])
    (deep : limits.depth < enclosing) : IsRefused limits enclosing text := by
  intro input rest split _
  obtain ⟨first, others, rfl⟩ := List.exists_cons_of_ne_nil some
  rw [split, List.cons_append, value.eq_def]
  simp only [deep, ↓reduceIte]
  exact ⟨_, rfl⟩

/-- A list is refused if its first item is. -/
theorem isRefused_list {limits : Limits} {enclosing : Nat} {item : Item} {others : List Item}
    (ahead : Gap item.before) (behind : Gap item.after) (starts : ∃ first rest,
      item.text = first :: rest ∧ isGap first = false ∧ first ≠ ']')
    (refused : IsRefused limits (enclosing + 1) item.text) :
    IsRefused limits enclosing (listText (item :: others)) := by
  intro input rest split _
  have same := split.trans (list_append item others rest)
  subst same
  obtain ⟨first, letters, itemText, noGap, noBracket⟩ := starts
  obtain ⟨less, nextRead⟩ := next?_item ahead itemText noGap (goesOn ']' rest
    (others.map fun other => (other.before, other.body)))
  have unread : Parsed.unread ⟨first, _, less⟩ = item.text ++ (item.after ++ goesOn ']' rest
      (others.map fun other => (other.before, other.body))) := by
    simp [Parsed.unread, itemText]
  obtain ⟨failure, readItem⟩ := refused _ _ unread (noNumber_goesOn behind (.inl rfl) rest _)
  rw [value.eq_def]
  simp only [nextRead, noBracket, ↓reduceIte, Char.reduceEq]
  split
  · exact ⟨_, rfl⟩
  · rw [items.eq_def, readItem]
    exact ⟨failure, rfl⟩

/-- Nested lists are refused if the innermost one lies too deep. -/
theorem isRefused_nested {limits : Limits} {enclosing depth : Nat}
    (deep : limits.depth < enclosing + depth) : IsRefused limits enclosing (nested depth) := by
  induction depth generalizing enclosing with
  | zero => exact isRefused_tooDeep (List.cons_ne_nil _ _) deep
  | succ depth inductionHypothesis =>
      have inside := @inductionHypothesis (enclosing + 1) (by omega)
      rw [nested_succ]
      exact isRefused_list gap_nil gap_nil (nested_starts depth) inside

/-- An object is refused if nested lists under its first key lie too deep. -/
theorem document_objectText_isRefused {limits : Limits} {key : List Char}
    (isKey : StringText key key) {depth : Nat} (deep : limits.depth < 1 + depth)
    (others : List Member) : ∃ failure,
      document limits (objectText (plainMember key (nested depth) (nestedValue depth) :: others)) =
        .error failure :=
  document_isRefused ⟨'\x7b', _, rfl, by decide, by decide⟩
    (isRefused_object gap_nil isKey gap_nil gap_nil gap_nil (nested_starts depth)
      (isRefused_nested deep))

end LintClient.Json.Line
