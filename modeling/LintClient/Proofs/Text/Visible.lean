import LintClient.Proofs.Text.Pieces

/-!
# Visible characters

The characters of a text that are not blank. Trimming a text, splitting it into lines and joining
lines only move blanks, so the visible characters stay as they are and in their order.
-/

namespace LintClient.Text

/-- The characters of a text that are not blank. -/
def visible (text : List Char) : List Char :=
  text.filter (!isBlank ·)

/-- The visible characters of two texts are those of each, in order. -/
@[simp] theorem visible_append (first second : List Char) :
    visible (first ++ second) = visible first ++ visible second :=
  List.filter_append first second

/-- A blank is not visible. -/
@[simp] theorem visible_cons_of_blank {c : Char} (blank : isBlank c = true) (text : List Char) :
    visible (c :: text) = visible text :=
  List.filter_cons_of_neg (by simp [blank])

/-- Blanks alone show nothing. -/
theorem visible_eq_nil {text : List Char} (blank : ∀ c ∈ text, isBlank c = true) :
    visible text = [] :=
  List.filter_eq_nil_iff.mpr fun c there => by simp [blank c there]

/-- A part of a text has at most the visible characters of the text. -/
theorem length_visible_le {part text : List Char} (sublist : part.Sublist text) :
    (visible part).length ≤ (visible text).length :=
  (sublist.filter _).length_le

/-- Trimming takes away blanks only. -/
@[simp] theorem visible_trim (text : List Char) : visible (trim text) = visible text := by
  obtain ⟨before, after, whole, blankBefore, blankAfter⟩ := exists_strip isBlank text
  conv_rhs => rw [whole]
  simp [trim, visible_eq_nil blankBefore, visible_eq_nil blankAfter]

/-- The lines of a text have its visible characters. -/
theorem visible_splitAt (text : List Char) :
    (splitAt '\n' text).flatMap visible = visible text := by
  induction text with
  | nil => rfl
  | cons c rest inductionHypothesis =>
      by_cases same : c = '\n'
      · subst same
        have newline : isBlank '\n' = true := by decide
        rw [splitAt_cons_self, List.flatMap_cons, inductionHypothesis,
          visible_cons_of_blank newline]
        rfl
      · obtain ⟨head, tail, pieces⟩ := List.exists_cons_of_ne_nil (splitAt_ne_nil '\n' rest)
        rw [pieces, List.flatMap_cons] at inductionHypothesis
        rw [splitAt_cons_of_ne same, pieces, List.modifyHead_cons, List.flatMap_cons,
          ← List.singleton_append, visible_append, List.append_assoc, inductionHypothesis,
          ← visible_append, List.singleton_append]

/-- Lines that are joined keep their visible characters, and nothing visible is added. -/
theorem visible_join {separator : List Char} (blank : ∀ c ∈ separator, isBlank c = true)
    (pieces : List (List Char)) : visible (join separator pieces) = pieces.flatMap visible := by
  have between : ∀ others : List (List Char),
      visible (others.flatMap (separator ++ ·)) = others.flatMap visible := by
    intro others
    induction others with
    | nil => rfl
    | cons piece others inductionHypothesis =>
        rw [List.flatMap_cons, visible_append, visible_append, visible_eq_nil blank,
          List.nil_append, inductionHypothesis, List.flatMap_cons]
  cases pieces with
  | nil => rfl
  | cons piece others => rw [join_cons, visible_append, between, List.flatMap_cons]

end LintClient.Text
