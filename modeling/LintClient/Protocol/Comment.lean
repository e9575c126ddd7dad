import LintClient.Text.Blank

/-!
# Comments

A variable record carries the source comment beside its definition, with the marks that make it a
comment. The normal form of a comment is its text alone: trimmed, and with the lines of a block
comment on lines of their own.
-/

namespace LintClient.Protocol

open Text

/-- A line of a block comment without the blanks around it and the star that may lead it. -/
def commentLine (line : List Char) : List Char :=
  match trim line with
  | '*' :: rest => trim rest
  | rest => rest

/-- The inside of a block comment, given what follows its opening mark. -/
def blockBody (text : List Char) : List Char :=
  match text.reverse with
  | '/' :: '*' :: reversed => reversed.reverse
  | _ => text

/-- The lines of a block comment that hold something. Only a newline separates lines. -/
def blockLines (body : List Char) : List (List Char) :=
  ((splitAt '\n' (trim body)).map commentLine).filter (!·.isEmpty)

/-- The text of a comment without its marks. -/
def commentText (comment : List Char) : List Char :=
  match trim comment with
  | '/' :: '/' :: rest => trim rest
  | '/' :: '*' :: rest => trim (join ['\r', '\n'] (blockLines (blockBody rest)))
  | rest => rest

/-- The normal form of a comment. -/
def normalComment (comment : String) : String :=
  String.ofList (commentText comment.toList)

end LintClient.Protocol
