import LintClient.Text.Blank
import Mathlib.Data.List.Basic

/-!
# Splitting and stripping

`Text.splitAt` is the splitting of lists from the standard library. A text may also be split part by
part: the last piece of the first part is only the beginning of a piece, which what follows
continues. A decoder that keeps an unfinished line relies on `splitAt_append`. What is stripped from
a text is what stands around the rest of it.
-/

namespace LintClient.Text

/-- Pieces are the sublists between the occurrences of the separator. -/
theorem splitAt_eq_splitOn (separator : Char) (text : List Char) :
    splitAt separator text = text.splitOn separator := by
  induction text with
  | nil => rfl
  | cons c rest inductionHypothesis =>
      rw [List.splitOn_cons_eq_if_modifyHead, ← inductionHypothesis]
      by_cases same : c = separator
      · simp [same, splitAt]
      · cases pieces : splitAt separator rest with
        | nil =>
            rw [inductionHypothesis] at pieces
            exact absurd pieces (List.splitOn_ne_nil separator rest)
        | cons piece others =>
            simp only [splitAt, List.foldr_cons] at pieces ⊢
            simp [same, pieces]

/-- There is always a piece. -/
theorem splitAt_ne_nil (separator : Char) (text : List Char) : splitAt separator text ≠ [] := by
  rw [splitAt_eq_splitOn]
  exact List.splitOn_ne_nil separator text

/-- A separator ends an empty piece. -/
theorem splitAt_cons_self (separator : Char) (text : List Char) :
    splitAt separator (separator :: text) = [] :: splitAt separator text := by
  simp [splitAt]

/-- Any other character belongs to the first piece. -/
theorem splitAt_cons_of_ne {separator c : Char} (different : c ≠ separator) (text : List Char) :
    splitAt separator (c :: text) = (splitAt separator text).modifyHead (c :: ·) := by
  simp only [splitAt_eq_splitOn, List.splitOn_cons_eq_if_modifyHead, beq_iff_eq, different,
    if_false]

/-- A text without the separator is one piece. -/
theorem splitAt_of_notMem {separator : Char} {text : List Char} (absent : separator ∉ text) :
    splitAt separator text = [text] := by
  rw [splitAt_eq_splitOn]
  exact List.splitOn_eq_singleton absent

/-- A text is split at each separator. -/
theorem splitAt_append_cons (separator : Char) (before after : List Char) :
    splitAt separator (before ++ separator :: after) =
      splitAt separator before ++ splitAt separator after := by
  simp only [splitAt_eq_splitOn]
  exact List.splitOn_append_cons_self before after

/-- Pieces that are ended by a separator are found again, with an empty piece behind them. -/
theorem splitAt_flatMap {separator : Char} {pieces : List (List Char)}
    (absent : ∀ piece ∈ pieces, separator ∉ piece) :
    splitAt separator (pieces.flatMap (· ++ [separator])) = pieces ++ [[]] := by
  induction pieces with
  | nil => rfl
  | cons piece pieces inductionHypothesis =>
      have ⟨first, others⟩ := List.forall_mem_cons.mp absent
      rw [List.flatMap_cons, List.append_assoc, List.singleton_append, splitAt_append_cons,
        splitAt_of_notMem first, inductionHypothesis others, List.singleton_append,
        List.cons_append]

/-- No piece contains the separator. -/
theorem notMem_of_mem_splitAt {separator : Char} {text piece : List Char}
    (member : piece ∈ splitAt separator text) : separator ∉ piece := by
  induction text generalizing piece with
  | nil =>
      have empty : piece = [] := by simpa [splitAt] using member
      simp [empty]
  | cons c rest inductionHypothesis =>
      by_cases same : c = separator
      · subst same
        rw [splitAt_cons_self, List.mem_cons] at member
        rcases member with rfl | member
        · exact List.not_mem_nil
        · exact inductionHypothesis member
      · rw [splitAt_cons_of_ne same] at member
        obtain ⟨head, tail, pieces⟩ := List.exists_cons_of_ne_nil (splitAt_ne_nil separator rest)
        rw [pieces] at member inductionHypothesis
        simp only [List.modifyHead_cons, List.mem_cons] at member
        rcases member with rfl | member
        · simp only [List.mem_cons, not_or]
          exact ⟨Ne.symm same, inductionHypothesis List.mem_cons_self⟩
        · exact inductionHypothesis (List.mem_cons_of_mem _ member)

/-- The last piece, which is unfinished as long as the text goes on. -/
def lastPiece (separator : Char) (text : List Char) : List Char :=
  (splitAt separator text).getLastD []

/-- The last piece of a text does not contain the separator. -/
theorem notMem_lastPiece (separator : Char) (text : List Char) :
    separator ∉ lastPiece separator text := by
  have last : lastPiece separator text ∈ splitAt separator text := by
    rw [lastPiece, List.getLastD_eq_getLast?, List.getLast?_eq_some_getLast
      (splitAt_ne_nil separator text), Option.getD_some]
    exact List.getLast_mem _
  exact notMem_of_mem_splitAt last

/-- Splitting may stop anywhere and go on with the unfinished piece. -/
theorem splitAt_append (separator : Char) (before after : List Char) :
    splitAt separator (before ++ after) =
      (splitAt separator before).dropLast
        ++ splitAt separator (lastPiece separator before ++ after) := by
  induction before with
  | nil => simp [splitAt, lastPiece]
  | cons c rest inductionHypothesis =>
      obtain ⟨head, tail, pieces⟩ := List.exists_cons_of_ne_nil (splitAt_ne_nil separator rest)
      by_cases same : c = separator
      · subst same
        have unfinished : lastPiece c (c :: rest) = lastPiece c rest := by
          simp [lastPiece, splitAt_cons_self, pieces]
        rw [List.cons_append, splitAt_cons_self, inductionHypothesis, splitAt_cons_self,
          List.dropLast_cons_of_ne_nil (splitAt_ne_nil c rest), unfinished, List.cons_append]
      · rw [List.cons_append, splitAt_cons_of_ne same, inductionHypothesis,
          splitAt_cons_of_ne same]
        cases tail with
        | nil =>
            -- The character belongs to the piece that is unfinished.
            have alone : lastPiece separator (c :: rest) = c :: lastPiece separator rest := by
              simp [lastPiece, splitAt_cons_of_ne same, pieces]
            rw [alone, pieces, List.cons_append, splitAt_cons_of_ne same]
            simp
        | cons next others =>
            have later : lastPiece separator (c :: rest) = lastPiece separator rest := by
              simp [lastPiece, splitAt_cons_of_ne same, pieces]
            rw [later, pieces]
            simp

/-! ## Stripping -/

variable {member : Char → Bool}

/-- A text without characters of a class at its front keeps its front. -/
theorem dropWhile_of_forall {text : List Char} (inside : ∀ c ∈ text, member c = false) :
    text.dropWhile member = text := by
  cases text with
  | nil => rfl
  | cons c text => exact List.dropWhile_cons_of_neg (by simp [inside c])

/-- What is left behind characters of a class starts with none of them. -/
theorem eq_false_of_dropWhile_eq_cons {text rest : List Char} {c : Char}
    (behind : text.dropWhile member = c :: rest) : member c = false := by
  have stops := List.head_dropWhile_not member (behind ▸ List.cons_ne_nil c rest)
  simpa only [behind, List.head_cons] using stops

/-- A class is stripped from both ends of a text that has nothing of it. -/
theorem strip_append {before text after : List Char} (isBefore : ∀ c ∈ before, member c = true)
    (inside : ∀ c ∈ text, member c = false) (isAfter : ∀ c ∈ after, member c = true) :
    strip member (before ++ (text ++ after)) = text := by
  have afterReversed : ∀ c ∈ after.reverse, member c = true := fun c there =>
    isAfter c (List.mem_reverse.mp there)
  have textReversed : ∀ c ∈ text.reverse, member c = false := fun c there =>
    inside c (List.mem_reverse.mp there)
  rw [strip, List.dropWhile_append_of_pos isBefore]
  cases text with
  | nil =>
      have nothing : (after ++ []).dropWhile member = [].dropWhile member :=
        List.dropWhile_append_of_pos isAfter
      rw [List.append_nil] at nothing
      rw [List.nil_append, nothing]
      rfl
  | cons c text =>
      have front : (c :: text ++ after).dropWhile member = c :: text ++ after :=
        List.dropWhile_cons_of_neg (by simp [inside c])
      rw [front, stripEnd, List.reverse_append, List.dropWhile_append_of_pos afterReversed,
        dropWhile_of_forall textReversed, List.reverse_reverse]

/-- What is stripped from a text stands around the rest of it. -/
theorem exists_strip (member : Char → Bool) (text : List Char) : ∃ before after,
    text = before ++ (strip member text ++ after) ∧ (∀ c ∈ before, member c = true) ∧
      ∀ c ∈ after, member c = true := by
  refine ⟨text.takeWhile member,
    ((text.dropWhile member).reverse.takeWhile member).reverse, ?_, ?_, ?_⟩
  · rw [strip, stripEnd, ← List.reverse_append, List.takeWhile_append_dropWhile,
      List.reverse_reverse, List.takeWhile_append_dropWhile]
  · exact List.all_eq_true.mp List.all_takeWhile
  · intro c there
    exact List.all_eq_true.mp List.all_takeWhile c (List.mem_reverse.mp there)

/-! ## Trimming -/

/-- A text without a blank at either end. -/
structure Trimmed (text : List Char) : Prop where
  front : ∀ c ∈ text.head?, isBlank c = false
  back : ∀ c ∈ text.getLast?, isBlank c = false

/-- What is left of a text without the characters of a class at its end is its front. -/
theorem stripEnd_isPrefix (member : Char → Bool) (text : List Char) :
    stripEnd member text <+: text :=
  ⟨(text.reverse.takeWhile member).reverse, by
    rw [stripEnd, ← List.reverse_append, List.takeWhile_append_dropWhile, List.reverse_reverse]⟩

/-- A text that has been trimmed has no blank at either end. -/
theorem trimmed_trim (text : List Char) : Trimmed (trim text) := by
  constructor
  · intro c first
    obtain ⟨rest, starts⟩ := List.head?_eq_some_iff.mp first
    obtain ⟨after, whole⟩ := stripEnd_isPrefix isBlank (text.dropWhile isBlank)
    rw [trim, strip] at starts
    rw [starts, List.cons_append] at whole
    exact eq_false_of_dropWhile_eq_cons whole.symm
  · intro c last
    rw [trim, strip, stripEnd, List.getLast?_reverse] at last
    obtain ⟨rest, starts⟩ := List.head?_eq_some_iff.mp last
    exact eq_false_of_dropWhile_eq_cons starts

/-- A text without a blank in front keeps its front. -/
theorem dropWhile_isBlank {text : List Char} (front : ∀ c ∈ text.head?, isBlank c = false) :
    text.dropWhile isBlank = text := by
  cases text with
  | nil => rfl
  | cons c rest => exact List.dropWhile_cons_of_neg (by simp [front c rfl])

/-- A text without a blank at either end is left as it is. -/
theorem Trimmed.trim_eq {text : List Char} (trimmed : Trimmed text) : trim text = text := by
  have back : text.reverse.dropWhile isBlank = text.reverse :=
    dropWhile_isBlank fun c last => trimmed.back c (List.head?_reverse ▸ last)
  rw [trim, strip, dropWhile_isBlank trimmed.front, stripEnd, back, List.reverse_reverse]

/-- A trimmed text stays as it is. -/
theorem trim_trim (text : List Char) : trim (trim text) = trim text :=
  (trimmed_trim text).trim_eq

/-- What is left of a trimmed text stands in it. -/
theorem trim_sublist (text : List Char) : (trim text).Sublist text :=
  (stripEnd_isPrefix isBlank _).sublist.trans (List.dropWhile_sublist isBlank)

/-- A blank in front of a text is trimmed away. -/
theorem trim_cons_of_blank {c : Char} (blank : isBlank c = true) (text : List Char) :
    trim (c :: text) = trim text := by
  rw [trim, strip, List.dropWhile_cons_of_pos blank]
  rfl

/-- A blank behind a text is trimmed away. -/
theorem trim_append_of_blank {c : Char} (blank : isBlank c = true) (text : List Char) :
    trim (text ++ [c]) = trim text := by
  have dropped (kept : List Char) : stripEnd isBlank (kept ++ [c]) = stripEnd isBlank kept := by
    simp [stripEnd, blank]
  rw [trim, trim, strip, strip, List.dropWhile_append]
  split
  · next nothing => simp [List.isEmpty_iff.mp nothing, blank, stripEnd]
  · exact dropped _

/-! ## Joining -/

/-- Pieces that are joined stand one behind the other, with a separator in front of each but the
first. -/
theorem join_cons (separator piece : List Char) (others : List (List Char)) :
    join separator (piece :: others) = piece ++ others.flatMap (separator ++ ·) := by
  induction others generalizing piece with
  | nil => simp [join]
  | cons next others inductionHypothesis =>
      have behind := inductionHypothesis next
      simp only [join, List.intersperse_cons_cons, List.flatten_cons] at behind ⊢
      rw [behind, List.flatMap_cons, List.append_assoc]

/-- Texts without a blank at either end are joined to such a text. -/
theorem trimmed_join (separator : List Char) {pieces : List (List Char)}
    (trimmed : ∀ piece ∈ pieces, piece ≠ [] ∧ Trimmed piece) : Trimmed (join separator pieces) := by
  induction pieces with
  | nil => exact ⟨nofun, nofun⟩
  | cons piece others inductionHypothesis =>
      have ⟨⟨nonempty, here⟩, there⟩ := List.forall_mem_cons.mp trimmed
      have front : (join separator (piece :: others)).head? = piece.head? := by
        rw [join_cons, List.head?_append_of_ne_nil _ nonempty]
      refine ⟨fun c first => here.front c (front ▸ first), ?_⟩
      cases others with
      | nil => simpa [join] using here.back
      | cons next others =>
          have kept : join separator (next :: others) ≠ [] := by
            simp [join_cons, (there next List.mem_cons_self).1]
          rw [join_cons, List.flatMap_cons, List.append_assoc, ← join_cons, ← List.append_assoc,
            List.getLast?_append_of_ne_nil _ kept]
          exact (inductionHypothesis there).back

end LintClient.Text
