import LintClient.Command.Words
import Mathlib.Data.List.Basic

/-!
# Writing and splitting command lines

Words that are quoted and joined are found again by the reader of command lines, whatever they hold
(`splitWords_joinWords`). A word is read from between words into a word, so that a blank or the end
of the text finishes it, quoted or not.
-/

namespace LintClient.Command

namespace Reader

variable (finished : List (List Char)) (current : List Char)

/-- A plain character separates no words, and is neither a quote nor a backslash. -/
theorem unquoted_of_isPlain (reader : Reader) {c : Char} (plain : isPlain c = true) :
    isSeparator c = false ∧ reader.unquoted c = reader.keep c .inWord := by
  have never : ∀ special ∈ [' ', '\t', '\r', '\n', '\'', '"', '\\'], c ≠ special := by
    rintro special among rfl
    simp only [List.mem_cons, List.not_mem_nil, or_false] at among
    rcases among with rfl | rfl | rfl | rfl | rfl | rfl | rfl <;> exact absurd plain (by decide)
  simp only [List.forall_mem_cons, List.not_mem_nil, false_implies, implies_true, and_true] at never
  simp [isSeparator, unquoted, never]

/-- Plain characters are kept as they are, and a word begins with the first of them. -/
theorem foldl_plain {chars : List Char} (plain : ∀ c ∈ chars, isPlain c = true) :
    chars.foldl step ⟨.inWord, finished, current⟩ =
      ⟨.inWord, finished, chars.reverse ++ current⟩ := by
  induction chars generalizing current with
  | nil => rfl
  | cons c chars inductionHypothesis =>
      obtain ⟨isFirst, others⟩ := List.forall_mem_cons.mp plain
      obtain ⟨noSeparator, kept⟩ := unquoted_of_isPlain ⟨.inWord, finished, current⟩ isFirst
      have read : step ⟨.inWord, finished, current⟩ c = ⟨.inWord, finished, c :: current⟩ := by
        simp only [step, noSeparator, Bool.false_eq_true, ↓reduceIte]
        exact kept
      rw [List.foldl_cons, read, inductionHypothesis (c :: current) others]
      simp

/-- A character as it is written in single quotes: a single quote is put in double quotes between
two quoted pieces. -/
def quotedChar (c : Char) : List Char :=
  if c = '\'' then ['\'', '"', '\'', '"', '\''] else [c]

/-- A quoted character is kept, and the quotes stay open. -/
theorem foldl_quotedChar (c : Char) :
    (quotedChar c).foldl step ⟨.inSingle, finished, current⟩ =
      ⟨.inSingle, finished, c :: current⟩ := by
  unfold quotedChar
  split
  · next same =>
    subst same
    rfl
  · next other => simp [step, other, keep]

/-- So is everything in single quotes. -/
theorem foldl_quotedChars (chars : List Char) :
    (chars.flatMap quotedChar).foldl step ⟨.inSingle, finished, current⟩ =
      ⟨.inSingle, finished, chars.reverse ++ current⟩ := by
  induction chars generalizing current with
  | nil => rfl
  | cons c chars inductionHypothesis =>
      rw [List.flatMap_cons, List.foldl_append, foldl_quotedChar, inductionHypothesis]
      simp

/-- A word that begins with a plain character begins outside quotes. -/
theorem step_outside_of_isPlain {c : Char} (plain : isPlain c = true) :
    step ⟨.outside, finished, current⟩ c = step ⟨.inWord, finished, current⟩ c := by
  obtain ⟨noSeparator, kept⟩ := unquoted_of_isPlain ⟨.outside, finished, current⟩ plain
  obtain ⟨-, keptToo⟩ := unquoted_of_isPlain ⟨.inWord, finished, current⟩ plain
  simp only [step, noSeparator, Bool.false_eq_true, ↓reduceIte, kept, keptToo]
  rfl

/-- A word is written as it is if it has plain characters only, and in single quotes otherwise. -/
theorem toList_quoteWord (word : String) : (quoteWord word).toList =
    if !word.isEmpty && word.toList.all isPlain then word.toList
    else '\'' :: (word.toList.flatMap quotedChar ++ ['\'']) := by
  unfold quoteWord
  split
  · rfl
  · rw [String.toList_ofList, List.cons_append]
    rfl

/-- A written word is read as the word, which goes on until it is finished. -/
theorem foldl_quoteWord (word : String) :
    (quoteWord word).toList.foldl step ⟨.outside, finished, []⟩ =
      ⟨.inWord, finished, word.toList.reverse⟩ := by
  rw [toList_quoteWord]
  split
  · next asItIs =>
    simp only [Bool.and_eq_true, Bool.not_eq_true', List.all_eq_true] at asItIs
    obtain ⟨nonempty, plain⟩ := asItIs
    have read := foldl_plain finished [] plain
    cases chars : word.toList with
    | nil => simp [String.toList_eq_nil_iff.mp chars] at nonempty
    | cons c chars =>
        rw [chars] at plain read
        rw [List.foldl_cons, step_outside_of_isPlain finished [] (plain c List.mem_cons_self)]
        simpa using read
  · have opened : step ⟨.outside, finished, []⟩ '\'' = ⟨.inSingle, finished, []⟩ := rfl
    have closed : step ⟨.inSingle, finished, word.toList.reverse⟩ '\'' =
        ⟨.inWord, finished, word.toList.reverse⟩ := rfl
    have inside := foldl_quotedChars finished [] word.toList
    rw [List.append_nil] at inside
    rw [List.foldl_cons, opened, List.foldl_append, inside, List.foldl_cons, closed, List.foldl_nil]

end Reader

open Reader

/-- The characters of joined words are those of the quoted words with blanks between them. -/
theorem toList_joinWords (words : List String) :
    (joinWords words).toList =
    [' '].intercalate (words.map fun word => (quoteWord word).toList) := by
  rw [joinWords, String.toList_intercalate, List.map_map]
  rfl

/-- Joined words are read as the words: the last of them goes on, all others are finished. -/
theorem foldl_joinWords (finished : List (List Char)) (words : List String) (last : String) :
    (joinWords (words ++ [last])).toList.foldl step ⟨.outside, finished, []⟩ =
      ⟨.inWord, (words.map String.toList).reverse ++ finished, last.toList.reverse⟩ := by
  rw [toList_joinWords]
  induction words generalizing finished with
  | nil => simpa using foldl_quoteWord finished last
  | cons word words inductionHypothesis =>
      have blank : step ⟨.inWord, finished, word.toList.reverse⟩ ' ' =
          ⟨.outside, word.toList :: finished, []⟩ := by
        simp [step, isSeparator, endWord]
      have joined :
          [' '].intercalate ((word :: words ++ [last]).map fun word => (quoteWord word).toList) =
            (quoteWord word).toList ++ ' ' ::
              [' '].intercalate ((words ++ [last]).map fun word => (quoteWord word).toList) := by
        cases words <;> simp
      rw [joined, List.foldl_append, foldl_quoteWord, List.foldl_cons, blank, inductionHypothesis]
      simp

/-- Words that are written as a command line are the words of it. -/
theorem splitWords_joinWords (words : List String) : splitWords (joinWords words) = .ok words := by
  rcases List.eq_nil_or_concat words with rfl | ⟨words, last, rfl⟩
  · rfl
  · have read := foldl_joinWords [] words last
    rw [List.append_nil] at read
    rw [List.concat_eq_append, splitWords, start, read]
    simp [finish, endWord, Except.map]

end LintClient.Command
