/-! The language of the programs under test: scripts of a small command
shell. A text of the shell has one character a byte. -/
namespace PartitionTest.Shell

/-- A piece of a word. What is quoted is neither cut at blanks nor a pattern. -/
inductive Piece where
  | text (s : String) (quoted : Bool)
  /-- The name between the braces, perhaps with an operator and a word. -/
  | parameter (source : String) (quoted : Bool)
  /-- What a script prints that starts in some line. -/
  | output (line : Nat) (source : String) (quoted : Bool)
  | arithmetic (source : String) (quoted : Bool)
deriving DecidableEq, Repr, Inhabited

abbrev Word := List Piece

inductive RedirectKind where
  | read
  | write
  /-- Also where files are not to be written over. -/
  | overwrite
  | append
  | readWrite
  /-- To where another descriptor goes. -/
  | copy
  /-- From a text that stands in the script. -/
  | text
deriving DecidableEq, Repr, Inhabited

structure Redirect where
  descriptor : Nat
  kind : RedirectKind
  target : Word
deriving DecidableEq, Repr, Inhabited

structure SimpleCommand where
  line : Nat
  assignments : List (String × Word) := []
  words : List Word := []
  redirects : List Redirect := []
deriving DecidableEq, Repr, Inhabited

inductive Script where
  | nothing
  | simple (c : SimpleCommand)
  | negated (s : Script)
  | pipe (first rest : Script)
  /-- The second only if the first succeeds. -/
  | both (first second : Script)
  /-- The second only if the first fails. -/
  | either (first second : Script)
  | sequence (first second : Script)
  | background (s : Script)
  | subshell (s : Script)
  | redirected (s : Script) (redirects : List Redirect)
  | choice (test yes no : Script)
  /-- While the test succeeds, or until it does. -/
  | loop (whileTrue : Bool) (test body : Script)
  /-- Without words, over the parameters of the script. -/
  | each (name : String) (words : Option (List Word)) (body : Script)
  | select (line : Nat) (subject : Word) (arms : List (List Word × Script))
  | define (name : String) (body : Script)
deriving Inhabited

end PartitionTest.Shell
