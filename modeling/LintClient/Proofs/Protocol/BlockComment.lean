import LintClient.Proofs.Protocol.Comment

/-!
# Block comments

Normalization takes the marks off a block comment and loses nothing else. The body of the comment is
what stands between its marks, which do not overlap (`Encloses`). Its normal form has one line for
each line of the body that holds something, in the same order, and a line of the body is what stands
between two newlines: whatever else separates lines is part of a line or blank at its end. What is
visible of a line stays, one star in front of it apart (`normalComment_block`).
-/

namespace LintClient.Protocol

open Text

/-! ## The body of a block comment -/

/-- What stands inside a block comment without blanks around it: what is between the mark that opens
it and the one that closes it, or all that follows the opening mark if no closing one comes behind
it. -/
inductive Encloses : List Char → List Char → Prop where
  | closed (body : List Char) : Encloses ('/' :: '*' :: (body ++ ['*', '/'])) body
  | unclosed {body : List Char} (goesOn : ¬ ['*', '/'] <:+ body) :
    Encloses ('/' :: '*' :: body) body

/-- The inside of a block comment is its body. -/
theorem encloses_blockBody (rest : List Char) : Encloses ('/' :: '*' :: rest) (blockBody rest) := by
  unfold blockBody
  split
  · next reversed ends =>
    have whole : rest = reversed.reverse ++ ['*', '/'] := by
      rw [← List.reverse_reverse rest, ends]
      simp
    conv => arg 1; rw [whole]
    exact .closed reversed.reverse
  · next goesOn =>
    refine .unclosed ?_
    rintro ⟨front, rfl⟩
    exact goesOn front.reverse (by simp)

/-! ## The lines of the body -/

/-- A line without the blanks around it and without one star in front of it. -/
def withoutStar (line : List Char) : List Char :=
  match trim line with
  | '*' :: rest => rest
  | rest => rest

/-- A line of a block comment is kept without its star and the blanks around it. -/
theorem commentLine_eq (line : List Char) : commentLine line = trim (withoutStar line) := by
  by_cases starred : ∃ rest, trim line = '*' :: rest
  · obtain ⟨rest, starred⟩ := starred
    simp only [commentLine, withoutStar, starred]
  · have trimmed : commentLine line = trim line := by
      unfold commentLine
      split
      · next rest same => exact absurd ⟨rest, same⟩ starred
      · rfl
    have kept : withoutStar line = trim line := by
      unfold withoutStar
      split
      · next rest same => exact absurd ⟨rest, same⟩ starred
      · rfl
    rw [trimmed, kept, trim_trim]

/-- Only blanks and a star are taken away from a line. -/
theorem withoutStar_sublist (line : List Char) : (withoutStar line).Sublist line := by
  refine List.Sublist.trans ?_ (trim_sublist line)
  unfold withoutStar
  split
  · next starred => exact starred ▸ List.sublist_cons_self _ _
  · exact List.Sublist.refl _

/-- The lines of a text that hold something besides blanks and a star in front. -/
def heldLines (text : List Char) : List (List Char) :=
  ((splitAt '\n' text).map fun line => trim (withoutStar line)).filter (!·.isEmpty)

/-- The lines of a block comment are those that its body holds. -/
theorem blockLines_eq (body : List Char) : blockLines body = heldLines (trim body) := by
  rw [blockLines, heldLines, funext commentLine_eq]

/-- Newlines keep lines apart. -/
theorem heldLines_append_newline (before after : List Char) :
    heldLines (before ++ '\n' :: after) = heldLines before ++ heldLines after := by
  simp only [heldLines, splitAt_append_cons, List.map_append, List.filter_append]

/-- Nothing holds no lines. -/
theorem heldLines_nil : heldLines [] = [] := by decide

/-- A line that is trimmed to the same text holds the same. -/
theorem heldLines_congr {first second : List Char} (firstLine : '\n' ∉ first)
    (secondLine : '\n' ∉ second) (same : trim first = trim second) :
    heldLines first = heldLines second := by
  simp only [heldLines, splitAt_of_notMem firstLine, splitAt_of_notMem secondLine, List.map_cons,
    withoutStar, same]

/-- A blank in front of a text is in front of its first line. -/
theorem heldLines_cons_of_blank {c : Char} (blank : isBlank c = true) (text : List Char) :
    heldLines (c :: text) = heldLines text := by
  by_cases newline : c = '\n'
  · subst newline
    exact heldLines_append_newline [] text
  · by_cases oneLine : '\n' ∈ text
    · obtain ⟨first, others, rfl, notMem⟩ := List.eq_append_cons_of_mem oneLine
      have front : heldLines (c :: first) = heldLines first :=
        heldLines_congr (by simp [notMem, Ne.symm newline]) notMem (trim_cons_of_blank blank first)
      rw [← List.cons_append, heldLines_append_newline, front, heldLines_append_newline]
    · exact heldLines_congr (by simp [oneLine, Ne.symm newline]) oneLine
        (trim_cons_of_blank blank text)

/-- A blank behind a text is behind its last line. -/
theorem heldLines_append_of_blank {c : Char} (blank : isBlank c = true) (text : List Char) :
    heldLines (text ++ [c]) = heldLines text := by
  by_cases newline : c = '\n'
  · subst newline
    rw [heldLines_append_newline, heldLines_nil, List.append_nil]
  · by_cases oneLine : '\n' ∈ text
    · obtain ⟨first, others, rfl, -⟩ := List.eq_append_cons_of_mem oneLine
      have back := heldLines_append_of_blank blank others
      rw [List.append_assoc, List.cons_append, heldLines_append_newline, back,
        heldLines_append_newline]
    · exact heldLines_congr (by simp [oneLine, Ne.symm newline]) oneLine
        (trim_append_of_blank blank text)
termination_by text.length

/-- Trimming a text takes nothing away from its lines. -/
theorem heldLines_trim (text : List Char) : heldLines (trim text) = heldLines text := by
  obtain ⟨before, after, whole, blankBefore, blankAfter⟩ := exists_strip isBlank text
  have front : ∀ {before : List Char}, (∀ c ∈ before, isBlank c = true) → ∀ rest,
      heldLines (before ++ rest) = heldLines rest := by
    intro before blank rest
    induction before with
    | nil => rfl
    | cons c before inductionHypothesis =>
        have ⟨first, others⟩ := List.forall_mem_cons.mp blank
        rw [List.cons_append, heldLines_cons_of_blank first, inductionHypothesis others]
  have back : ∀ {after : List Char}, (∀ c ∈ after, isBlank c = true) → ∀ rest,
      heldLines (rest ++ after) = heldLines rest := by
    intro after blank rest
    induction after generalizing rest with
    | nil => rw [List.append_nil]
    | cons c after inductionHypothesis =>
        have ⟨first, others⟩ := List.forall_mem_cons.mp blank
        rw [← List.singleton_append, ← List.append_assoc, inductionHypothesis others,
          heldLines_append_of_blank first]
  conv_rhs => rw [whole]
  rw [front blankBefore, back blankAfter, trim]

/-- Lines that are held are not empty, trimmed, and without newlines. -/
theorem mem_heldLines {text line : List Char} (there : line ∈ heldLines text) :
    line ≠ [] ∧ Trimmed line ∧ '\n' ∉ line := by
  obtain ⟨among, nonempty⟩ := List.mem_filter.mp there
  obtain ⟨piece, isPiece, rfl⟩ := List.mem_map.mp among
  refine ⟨by simpa using nonempty, trimmed_trim _, fun newline => ?_⟩
  exact notMem_of_mem_splitAt isPiece
    (((trim_sublist _).trans (withoutStar_sublist piece)).subset newline)

/-- A text holds at most one line more than it has newlines. -/
theorem length_heldLines_le (text : List Char) :
    (heldLines text).length ≤ text.count '\n' + 1 := by
  have pieces : (splitAt '\n' text).length = text.count '\n' + 1 := by
    induction text with
    | nil => rfl
    | cons c text inductionHypothesis =>
        by_cases newline : c = '\n'
        · subst newline
          rw [splitAt_cons_self, List.length_cons, inductionHypothesis, List.count_cons_self]
        · rw [splitAt_cons_of_ne newline, List.length_modifyHead, inductionHypothesis,
            List.count_cons_of_ne newline]
  rw [← pieces, heldLines]
  exact (List.length_filter_le _ _).trans_eq (List.length_map _)

/-- What is visible of a text is visible of its lines, one star in front of each apart. -/
theorem visible_heldLines (text : List Char) : (heldLines text).flatMap visible =
    (splitAt '\n' text).flatMap fun line => visible (withoutStar line) := by
  rw [heldLines]
  induction splitAt '\n' text with
  | nil => rfl
  | cons line lines inductionHypothesis =>
      rw [List.map_cons, List.flatMap_cons, ← inductionHypothesis, ← visible_trim]
      by_cases nothing : trim (withoutStar line) = []
      · rw [List.filter_cons_of_neg (by simp [nothing]), nothing]
        rfl
      · rw [List.filter_cons_of_pos (by simp [nothing]), List.flatMap_cons]

/-- Lines that are joined by line endings are found again between the newlines. -/
theorem splitAt_join {lines : List (List Char)} (nonempty : lines ≠ [])
    (sound : ∀ line ∈ lines, Trimmed line ∧ '\n' ∉ line) :
    (splitAt '\n' (join ['\r', '\n'] lines)).map trim = lines := by
  induction lines with
  | nil => exact absurd rfl nonempty
  | cons line lines inductionHypothesis =>
      have ⟨⟨trimmed, noNewline⟩, others⟩ := List.forall_mem_cons.mp sound
      cases lines with
      | nil => simp [join, splitAt_of_notMem noNewline, trimmed.trim_eq]
      | cons next lines =>
          have ended : '\n' ∉ line ++ ['\r'] := by simp [noNewline]
          have joined : join ['\r', '\n'] (line :: next :: lines) =
              (line ++ ['\r']) ++ '\n' :: join ['\r', '\n'] (next :: lines) := by
            simp [join]
          have first : trim (line ++ ['\r']) = line :=
            (trim_append_of_blank (by decide) line).trans trimmed.trim_eq
          rw [joined, splitAt_append_cons, splitAt_of_notMem ended, List.singleton_append,
            List.map_cons, first, inductionHypothesis (List.cons_ne_nil _ _) others]

/-- The normal form of a block comment is made of the lines of its body. They are joined by line
endings, hold something, have no blank at either end and no newline in them, and they come in the
order in which they stand between the newlines of the body, of which nothing else makes a line. They
can be read off the normal form again. What is visible of the body is visible of the normal form,
but for one star in front of each line that has one. The marks of a comment have no character in
common. -/
theorem normalComment_block {comment : String} (opens : ['/', '*'] <+: trim comment.toList) :
    (∃ body lines, Encloses (trim comment.toList) body ∧
      normalComment comment = String.ofList (join ['\r', '\n'] lines) ∧
      (∀ line ∈ lines, line ≠ [] ∧ trim line = line ∧ '\n' ∉ line) ∧
      lines = ((splitAt '\n' body).map fun line => trim (withoutStar line)).filter (!·.isEmpty) ∧
      lines.length ≤ body.count '\n' + 1 ∧
      (lines ≠ [] → (splitAt '\n' (normalComment comment).toList).map trim = lines) ∧
      visible (normalComment comment).toList =
        (splitAt '\n' body).flatMap fun line => visible (withoutStar line)) ∧
    normalComment "/*/" = "/" := by
  refine ⟨?block, by decide⟩
  obtain ⟨rest, marksOpen⟩ := opens
  have marked : trim comment.toList = '/' :: '*' :: rest := marksOpen.symm
  have sound : ∀ line ∈ heldLines (blockBody rest), line ≠ [] ∧ Trimmed line ∧ '\n' ∉ line :=
    fun line there => mem_heldLines there
  have trimmed : Trimmed (join ['\r', '\n'] (heldLines (blockBody rest))) :=
    trimmed_join _ fun line there => ⟨(sound line there).1, (sound line there).2.1⟩
  have whole : normalComment comment =
      String.ofList (join ['\r', '\n'] (heldLines (blockBody rest))) := by
    rw [normalComment, commentText_block marked, blockLines_eq, heldLines_trim, trimmed.trim_eq]
  refine ⟨blockBody rest, heldLines (blockBody rest), marked ▸ encloses_blockBody rest, whole,
    fun line there => ?_, rfl, length_heldLines_le _, fun nonempty => ?_, ?_⟩
  · obtain ⟨nonempty, isTrimmed, noNewline⟩ := sound line there
    exact ⟨nonempty, isTrimmed.trim_eq, noNewline⟩
  · rw [whole, String.toList_ofList]
    exact splitAt_join nonempty fun line there => (sound line there).2
  · rw [whole, String.toList_ofList, visible_join lineEnding_isBlank, visible_heldLines]

/-- A block comment with two stars in front of a line, other separators than newlines, and a line
that holds a star only. -/
def starredComment : String := " /** a\r\u2028b\n\t** c\u0085\r\n *\n*/ "

/-- A comment with stars keeps the second of two stars in a line, and other breaks than newlines. -/
theorem normalComment_block_starred :
    ['/', '*'] <+: trim starredComment.toList ∧
    normalComment starredComment = "a\r\u2028b\r\n* c" ∧
    ∃ lines, lines ≠ [] ∧ normalComment starredComment = String.ofList (join ['\r', '\n'] lines) ∧
      (splitAt '\n' (normalComment starredComment).toList).map trim = lines := by
  have opens : ['/', '*'] <+: trim starredComment.toList := by decide
  have normal : normalComment starredComment = "a\r\u2028b\r\n* c" := by decide
  obtain ⟨⟨body, lines, -, joined, -, -, -, found, -⟩, -⟩ := normalComment_block opens
  have nonempty : lines ≠ [] := by
    rintro rfl
    exact absurd (normal.symm.trans joined) (by decide)
  exact ⟨opens, normal, lines, nonempty, joined, found nonempty⟩

end LintClient.Protocol
