import LintClient.Proofs.Protocol.Findings
import LintClient.Proofs.Text.Visible
import Mathlib.Logic.Function.Iterate

/-!
# Normal forms of comments

The normal form of a comment is trimmed, and a comment that begins with a mark loses at least the
two characters of that mark. So a comment is its own normal form exactly if it is trimmed and begins
with no mark (`commentText_eq_self_iff`). What stands inside a comment may begin with a mark again,
as it does in `// // x`; exactly then the normal form is not the final one
(`normalComment_normalComment_iff`). Since every pass over a mark takes two visible characters away,
repeated passes come to an end all the same, though not because comments get shorter: the line
endings of a block comment grow.
-/

namespace LintClient.Protocol

open Text

/-- A text that begins with one of the marks of a comment. -/
inductive Opens : List Char → Prop where
  | line (rest : List Char) : Opens ('/' :: '/' :: rest)
  | block (rest : List Char) : Opens ('/' :: '*' :: rest)

/-! ## The three forms of a comment -/

section Forms

variable {comment rest : List Char}

/-- The text of a line comment is what stands behind its marker. -/
theorem commentText_line (marked : trim comment = '/' :: '/' :: rest) :
    commentText comment = trim rest := by
  simp only [commentText, marked]

/-- The text of a block comment is made of the lines of its body. -/
theorem commentText_block (marked : trim comment = '/' :: '*' :: rest) :
    commentText comment = trim (join ['\r', '\n'] (blockLines (blockBody rest))) := by
  simp only [commentText, marked]

/-- The text of a comment without a marker is the comment itself. -/
theorem commentText_unmarked (unmarked : ¬ Opens (trim comment)) :
    commentText comment = trim comment := by
  unfold commentText
  split
  · next rest marked => exact absurd (marked ▸ .line rest) unmarked
  · next rest marked => exact absurd (marked ▸ .block rest) unmarked
  · rfl

end Forms

/-! ## What is visible of a comment -/

/-- A line of a block comment shows nothing that was not there. -/
theorem length_visible_commentLine_le (line : List Char) :
    (visible (commentLine line)).length ≤ (visible line).length := by
  rw [← visible_trim line]
  unfold commentLine
  split
  · next rest starts =>
    rw [starts, visible_trim]
    exact length_visible_le (List.sublist_cons_self '*' rest)
  · exact Nat.le_refl _

/-- The inside of a block comment is the front of what follows its mark. -/
theorem blockBody_isPrefix (text : List Char) : blockBody text <+: text := by
  unfold blockBody
  split
  · next reversed ends =>
    have whole : text = reversed.reverse ++ ['*', '/'] := by
      rw [← List.reverse_reverse text, ends]
      simp
    exact ⟨['*', '/'], whole.symm⟩
  · exact List.prefix_refl text

/-- The lines of a block comment show nothing that was not in it. -/
theorem length_visible_blockLines_le (body : List Char) :
    ((blockLines body).flatMap visible).length ≤ (visible body).length := by
  have bound : ∀ lines : List (List Char),
      (((lines.map commentLine).filter (!·.isEmpty)).flatMap visible).length ≤
        (lines.flatMap visible).length := by
    intro lines
    induction lines with
    | nil => exact Nat.le_refl 0
    | cons line lines inductionHypothesis =>
        have first := length_visible_commentLine_le line
        rw [List.map_cons, List.filter_cons]
        split <;> simp only [List.flatMap_cons, List.length_append] <;> omega
  have split := visible_splitAt (trim body)
  rw [visible_trim] at split
  rw [← split]
  exact bound _

/-- The line endings between the lines of a normal form are blank. -/
theorem lineEnding_isBlank : ∀ c ∈ ['\r', '\n'], isBlank c = true := by
  simp only [List.mem_cons, List.not_mem_nil, or_false]
  rintro c (rfl | rfl) <;> rfl

/-- A comment that begins with a mark loses at least the two characters of the mark. -/
theorem length_visible_commentText_add_two_le {comment : List Char} (opens : Opens (trim comment)) :
    (visible (commentText comment)).length + 2 ≤ (visible comment).length := by
  rw [← visible_trim comment]
  generalize marked : trim comment = text at opens
  cases opens with
  | line rest =>
      rw [commentText_line marked, visible_trim]
      exact Nat.le_refl _
  | block rest =>
      rw [commentText_block marked, visible_trim, visible_join lineEnding_isBlank]
      calc
        ((blockLines (blockBody rest)).flatMap visible).length + 2
        _ ≤ (visible (blockBody rest)).length + 2 :=
          Nat.add_le_add_right (length_visible_blockLines_le _) 2
        _ ≤ (visible rest).length + 2 :=
          Nat.add_le_add_right (length_visible_le (blockBody_isPrefix rest).sublist) 2
        _ = (visible ('/' :: '*' :: rest)).length := rfl

/-! ## Comments in their normal form -/

/-- A comment is its own normal form exactly if it is trimmed and begins with no mark. -/
theorem commentText_eq_self_iff {comment : List Char} :
    commentText comment = comment ↔ Trimmed comment ∧ ¬ Opens comment := by
  constructor
  · intro same
    have trimmed : Trimmed comment := same ▸ trimmed_commentText comment
    refine ⟨trimmed, fun opens => ?_⟩
    have lost := length_visible_commentText_add_two_le (trimmed.trim_eq.symm ▸ opens)
    rw [same] at lost
    omega
  · rintro ⟨trimmed, unmarked⟩
    rw [commentText_unmarked (trimmed.trim_eq.symm ▸ unmarked), trimmed.trim_eq]

/-- The lines of a block comment hold something and are trimmed. -/
theorem trimmed_of_mem_blockLines {body line : List Char} (there : line ∈ blockLines body) :
    line ≠ [] ∧ Trimmed line := by
  obtain ⟨among, nonempty⟩ := List.mem_filter.mp there
  refine ⟨by simpa using nonempty, ?_⟩
  obtain ⟨whole, -, rfl⟩ := List.mem_map.mp among
  unfold commentLine
  split
  · exact trimmed_trim _
  · exact trimmed_trim _

/-- What is joined with a line ending behind it begins with a mark only if it does so itself. -/
theorem opens_join_iff {first : List Char} (nonempty : first ≠ []) (others : List (List Char)) :
    Opens (join ['\r', '\n'] (first :: others)) ↔ Opens first := by
  rw [join_cons]
  constructor
  · intro opens
    match first, others with
    | c :: d :: rest, others => cases opens <;> constructor
    | [c], [] => simpa using opens
    | [c], next :: others => cases opens
  · intro opens
    cases opens <;> constructor

/-- A comment whose text begins with a mark again. -/
inductive Nested (comment : List Char) : Prop where
  | line {rest : List Char} (marked : trim comment = '/' :: '/' :: rest)
      (opens : Opens (trim rest)) : Nested comment
  | block {rest first : List Char} (marked : trim comment = '/' :: '*' :: rest)
      (isFirst : first ∈ (blockLines (blockBody rest)).head?) (opens : Opens first) : Nested comment

/-- The text of a block comment begins with a mark exactly if its first line does. -/
theorem opens_commentText_block_iff {comment rest : List Char}
    (marked : trim comment = '/' :: '*' :: rest) :
    Opens (commentText comment) ↔ ∃ first ∈ (blockLines (blockBody rest)).head?, Opens first := by
  rw [commentText_block marked]
  have sound : ∀ line ∈ blockLines (blockBody rest), line ≠ [] ∧ Trimmed line :=
    fun line there => trimmed_of_mem_blockLines there
  cases lines : blockLines (blockBody rest) with
  | nil =>
      constructor
      · intro opens
        cases opens
      · rintro ⟨first, none, -⟩
        cases none
  | cons first others =>
      rw [lines] at sound
      rw [(trimmed_join _ sound).trim_eq, opens_join_iff (sound first List.mem_cons_self).1]
      simp

/-- The text of a comment begins with a mark exactly if the comment is nested. -/
theorem opens_commentText_iff {comment : List Char} :
    Opens (commentText comment) ↔ Nested comment := by
  constructor
  · intro opens
    by_cases marked : Opens (trim comment)
    · generalize whole : trim comment = text at marked
      cases marked with
      | line rest => exact .line whole (commentText_line whole ▸ opens)
      | block rest =>
          obtain ⟨first, isFirst, opensFirst⟩ := (opens_commentText_block_iff whole).mp opens
          exact .block whole isFirst opensFirst
    · exact absurd (commentText_unmarked marked ▸ opens) marked
  · rintro (⟨marked, opens⟩ | ⟨marked, isFirst, opens⟩)
    · rw [commentText_line marked]
      exact opens
    · exact (opens_commentText_block_iff marked).mpr ⟨_, isFirst, opens⟩

/-- Normalization comes to its end with the first pass unless a comment is nested: the normal form
of a comment is its own normal form exactly if what stands inside the comment does not begin with a
mark again. -/
theorem normalComment_normalComment_iff (comment : String) :
    normalComment (normalComment comment) = normalComment comment ↔ ¬ Nested comment.toList := by
  have again : normalComment (normalComment comment) = normalComment comment ↔
      commentText (commentText comment.toList) = commentText comment.toList := by
    simp only [normalComment, String.toList_ofList, String.ofList_inj]
  rw [again, commentText_eq_self_iff, opens_commentText_iff]
  exact and_iff_right (trimmed_commentText comment.toList)

/-- So normalization is not idempotent: in a line comment there may be another one. -/
theorem normalComment_not_idempotent :
    ¬ ∀ comment : String, normalComment (normalComment comment) = normalComment comment := by
  intro idempotent
  have same : normalComment (normalComment "// // x") = normalComment "// // x" := idempotent _
  have first : normalComment "// // x" = "// x" := by decide
  have second : normalComment "// x" = "x" := by decide
  rw [first, second] at same
  exact absurd same (by decide)

/-! ## Repeated passes -/

/-- Normalization shows nothing that was not there. -/
theorem length_visible_commentText_le (comment : List Char) :
    (visible (commentText comment)).length ≤ (visible comment).length := by
  by_cases opens : Opens (trim comment)
  · have lost := length_visible_commentText_add_two_le opens
    omega
  · rw [commentText_unmarked opens, visible_trim]

/-- After some passes a comment is its own normal form, unless each of them has taken two visible
characters away. -/
theorem iterate_commentText_cases (comment : List Char) (passes : Nat) :
    commentText (commentText^[passes] comment) = commentText^[passes] comment ∨
      (visible (commentText^[passes] comment)).length + 2 * passes ≤ (visible comment).length := by
  induction passes with
  | zero => exact .inr (Nat.le_refl _)
  | succ passes inductionHypothesis =>
      rw [Function.iterate_succ_apply']
      rcases inductionHypothesis with settled | lost
      · exact .inl (congrArg commentText settled)
      · by_cases opens : Opens (trim (commentText^[passes] comment))
        · have alsoLost := length_visible_commentText_add_two_le opens
          right
          omega
        · -- A pass that meets no mark only trims, and what it leaves is final.
          left
          rw [commentText_unmarked opens]
          exact commentText_eq_self_iff.mpr ⟨trimmed_trim _, opens⟩

/-- More passes than there are pairs of visible characters lead to the final form. -/
theorem commentText_iterate_of_half_lt {comment : List Char} {passes : Nat}
    (enough : (visible comment).length / 2 < passes) :
    commentText (commentText^[passes] comment) = commentText^[passes] comment := by
  rcases iterate_commentText_cases comment passes with settled | lost
  · exact settled
  · omega

/-- Passes over a comment are passes over its characters. -/
theorem toList_iterate_normalComment (comment : String) (passes : Nat) :
    (normalComment^[passes] comment).toList = commentText^[passes] comment.toList := by
  have onePass : Function.Semiconj String.toList normalComment commentText :=
    fun text => String.toList_ofList
  exact onePass.iterate_right passes comment

/-- Normalization leads every comment to a final form. What it gives is trimmed, and the comments
that it leaves are those that are trimmed and begin with no mark. One pass more than half the number
of visible characters leads to such a comment: no pass adds a visible character, and one over a mark
takes at least two away. The length of the text would not show it, since a block comment may get
longer. -/
theorem normalComment_settles (comment : String) :
    Trimmed (normalComment comment).toList ∧
    (normalComment comment = comment ↔ Trimmed comment.toList ∧ ¬ Opens comment.toList) ∧
    (∀ passes, (visible comment.toList).length / 2 + 1 ≤ passes →
      normalComment (normalComment^[passes] comment) = normalComment^[passes] comment) ∧
    (visible (normalComment comment).toList).length ≤ (visible comment.toList).length ∧
    (Opens (trim comment.toList) →
      (visible (normalComment comment).toList).length + 2 ≤ (visible comment.toList).length) ∧
    ∃ block : String, Opens (trim block.toList) ∧ block.length < (normalComment block).length := by
  have toList_normalComment (text : String) :
      (normalComment text).toList = commentText text.toList := String.toList_ofList
  refine ⟨trimmed_normalComment comment, ?fixed, ?settles, ?shows, ?loses, ?grows⟩
  case fixed =>
    rw [← String.toList_inj, toList_normalComment]
    exact commentText_eq_self_iff
  case settles =>
    intro passes enough
    rw [← String.toList_inj, toList_normalComment, toList_iterate_normalComment]
    exact commentText_iterate_of_half_lt enough
  case shows =>
    rw [toList_normalComment]
    exact length_visible_commentText_le comment.toList
  case loses =>
    intro opens
    rw [toList_normalComment]
    exact length_visible_commentText_add_two_le opens
  case grows => exact ⟨"/*a\nb\nc\nd", .block _, by decide⟩

end LintClient.Protocol
