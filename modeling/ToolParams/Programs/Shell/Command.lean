/-!
# Commands of the shell

The words and commands of a small command language.  A word is made of pieces that are
replaced when the command runs.  Words and commands contain each other, because the
output of a command can be a piece of a word.
-/

namespace ToolParams.Shell

/-- Which file a redirection opens, and how. -/
inductive Opener where
  | reading
  | writing
  /-- like writing, even where files are kept from being overwritten -/
  | overwriting
  | appending
  | both
deriving DecidableEq, Repr

mutual

/-- How the value of a parameter is used.  A flag says whether an empty value counts as
missing. -/
inductive Edit where
  | asIs
  | length
  /-- without a beginning or an ending that looks like a pattern -/
  | trimmed (ending longest : Bool) (pattern : List Piece)
  | ifMissing (emptyToo : Bool) (replacement : List Piece)
  | setIfMissing (emptyToo : Bool) (replacement : List Piece)
  | ifPresent (emptyToo : Bool) (replacement : List Piece)
  /-- the script fails with a message if the value is missing -/
  | demanded (emptyToo : Bool) (message : List Piece)
  /-- what cannot be done, which counts only when it is reached -/
  | impossible

/-- A piece of a word. -/
inductive Piece where
  | text (content : List Char) (quoted : Bool)
  /-- a quotation mark, by which a word is there even if it is empty -/
  | mark
  | parameter (name : String) (edit : Edit) (quoted : Bool)
  | arithmetic (expression : List Piece) (quoted : Bool)
  /-- what a command writes -/
  | output (body : Option Command) (quoted : Bool)

/-- Where a stream of a command goes to or comes from. -/
inductive Redirection where
  | file (descriptor : Nat) (opener : Opener) (path : List Piece)
  /-- from a text -/
  | document (descriptor : Nat) (content : List Piece)
  /-- where another stream goes to, or nowhere -/
  | copy (descriptor : Nat) (source : Option Nat)
  /-- where a stream goes to whose number is a word -/
  | copyNamed (descriptor : Nat) (source : List Piece)

/-- A command. -/
inductive Command where
  | simple (line : Nat) (assignments : List (String × List Piece)) (words : List (List Piece))
      (redirections : List Redirection)
  | redirected (line : Nat) (body : Option Command) (redirections : List Redirection)
  | subshell (line : Nat) (body : Option Command) (redirections : List Redirection)
  | background (line : Nat) (body : Option Command) (redirections : List Redirection)
  | pipeline (background : Bool) (parts : List (Option Command))
  | sequence (first second : Option Command)
  | both (first second : Option Command)
  | either (first second : Option Command)
  | negation (body : Option Command)
  | choice (condition yes no : Option Command)
  /-- repeats its body as long as the condition holds, or as long as it does not -/
  | loop (holds : Bool) (condition body : Option Command)
  /-- runs its body for each field of some words -/
  | forEach (line : Nat) (name : String) (words : List (List Piece)) (body : Option Command)
  /-- runs the first body with a pattern that the subject looks like -/
  | selection (line : Nat) (subject : List Piece)
      (cases : List (List (List Piece) × Option Command))
  /-- gives a name to a command -/
  | define (name : String) (body : Option Command)

end

/-- A word before anything in it is replaced. -/
abbrev Word := List Piece

instance : Inhabited Command := ⟨.sequence none none⟩

namespace Word

/-- The text of a word, if it has no quotes and no replacements. -/
def literal? : Word → Option (List Char)
  | [] => some []
  | .text content false :: rest => (literal? rest).map (content ++ ·)
  | _ => none

/-- A piece in front of a word, joined with its first piece if that is of the same kind. -/
def cons : Piece → Word → Word
  | .text left false, .text right false :: rest => .text (left ++ right) false :: rest
  | .text left true, .text right true :: rest => .text (left ++ right) true :: rest
  | piece, rest => piece :: rest

/-- A word without borders between texts of one kind. -/
def normal (word : Word) : Word := word.foldr cons []

end Word

end ToolParams.Shell
