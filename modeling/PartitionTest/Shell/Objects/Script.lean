/-! A language of objects: statements in blocks that are set in, and expressions
whose values refer to each other. -/
namespace PartitionTest.Shell.Objects

inductive Literal where
  | nothing
  | bool (b : Bool)
  | int (n : Int)
  | float (x : Float)
  /-- Times the root of minus one. -/
  | imaginary (x : Float)
  | text (s : String)
  /-- One character a byte. -/
  | bytes (s : String)
  | ellipsis
deriving Inhabited

inductive Arithmetic where
  | add | subtract | multiply | matrix | divide | quotient | remainder | power
  | shiftLeft | shiftRight | bitAnd | bitOr | bitXor
deriving DecidableEq, Repr, Inhabited

inductive Relation where
  | equal | unequal | less | lessEqual | greater | greaterEqual
  | same | notSame | isIn | notIn
deriving DecidableEq, Repr, Inhabited

inductive Sign where
  | plus | minus | invert
deriving DecidableEq, Repr, Inhabited

inductive Gathering where
  | list
  | set
  /-- Nothing; they are made one by one when they are asked for. -/
  | stream
deriving DecidableEq, Repr, Inhabited

inductive Taking where
  | one
  /-- One argument, which cannot be given with a name. -/
  | front
  /-- All further arguments. -/
  | rest
  /-- An argument that is given with its name. -/
  | named
  /-- All further arguments with names. -/
  | restNamed
deriving DecidableEq, Repr, Inhabited

inductive Giving where
  | plain
  | named (name : String)
  /-- All its items are arguments. -/
  | spread
  | spreadNamed
deriving Inhabited

inductive Expr where
  | constant (v : Literal)
  | name (s : String)
  /-- A text put together from parts. -/
  | joined (parts : List Expr)
  /-- A value as a part of a text: how it is turned into one, and the layout. -/
  | shown (e : Expr) (conversion : Option Char) (layout : Option Expr)
  | tuple (items : List Expr)
  | list (items : List Expr)
  | set (items : List Expr)
  /-- Without a key, all entries of the value. -/
  | dict (entries : List (Option Expr × Expr))
  | gather (kind : Gathering) (item : Expr) (clauses : List (Expr × Expr × List Expr))
  | gatherDict (key value : Expr) (clauses : List (Expr × Expr × List Expr))
  | signed (s : Sign) (e : Expr)
  | not (e : Expr)
  | arith (op : Arithmetic) (a b : Expr)
  | both (a b : Expr)
  | either (a b : Expr)
  | compare (first : Expr) (rest : List (Relation × Expr))
  | choice (test yes no : Expr)
  | lambda (params : List (String × Taking × Option Expr)) (body : Expr)
  | call (f : Expr) (args : List (Giving × Expr))
  | member (e : Expr) (name : String)
  | item (e index : Expr)
  /-- Bounds of a part, as an index. -/
  | slice (start stop step : Option Expr)
  | spread (e : Expr)
  /-- Assigns a name on the way. -/
  | bind (name : String) (e : Expr)
  /-- Hands out a value in the middle of a function. -/
  | yield (e : Option Expr)
deriving Inhabited

inductive Shape where
  | anything
  /-- Anything, which gets a name. -/
  | capture (name : String)
  /-- What is equal to a value. -/
  | equal (e : Expr)
  /-- What is a constant itself. -/
  | same (v : Literal)
  | sequence (items : List Shape)
  /-- Any number of further items of a sequence, which may get a name. -/
  | further (name : Option String)
  /-- Entries of a dictionary, and a name for the others. -/
  | entries (all : List (Expr × Shape)) (others : Option String)
  /-- A value of a kind with members. -/
  | ofKind (kind : Expr) (items : List Shape) (members : List (String × Shape))
  | either (all : List Shape)
  | named (s : Shape) (name : String)
deriving Inhabited

inductive Statement where
  /-- A statement and its line. -/
  | at (line : Nat) (s : Statement)
  | nothing
  | expr (e : Expr)
  | assign (targets : List Expr) (value : Expr)
  | update (op : Arithmetic) (target value : Expr)
  /-- A target with a note on its values. -/
  | annotate (target note : Expr) (value : Option Expr)
  | choice (test : Expr) (yes no : List Statement)
  /-- With what is done when the loop is not left early. -/
  | loop (test : Expr) (body after : List Statement)
  | each (target items : Expr) (body after : List Statement)
  /-- A function, with the names that are its own. One that hands out values
  in its middle makes a stream of them. Notes on parameters mean nothing. -/
  | define (name : String) (params : List (String × Taking × Option Expr)) (notes : List (String × Expr))
      (body : List Statement) (own : List String) (isStream : Bool)
  | kind (name : String) (bases : List (Giving × Expr)) (body : List Statement)
  /-- What functions make of a definition, the last one first. -/
  | decorated (makers : List Expr) (definition : Statement)
  /-- The first case that fits, if its test holds. -/
  | select (subject : Expr) (cases : List (Shape × Option Expr × List Statement))
  | return (value : Option Expr)
  | leave
  | again
  | raise (e cause : Option Expr)
  | attempt (body : List Statement) (handlers : List (Option Expr × Option String × List Statement))
      (after last : List Statement)
  | using (items : List (Expr × Option Expr)) (body : List Statement)
  | assert (test : Expr) (message : Option Expr)
  | delete (targets : List Expr)
  /-- A module, and the name it gets. -/
  | use (path : String) (name : String)
  /-- Names of a module, and those they get. -/
  | take (path : String) (names : List (String × String))
  /-- Names of the whole script, or of the function around. -/
  | outer (isWhole : Bool) (names : List String)
deriving Inhabited

def Statement.made? : Statement → Option String
  | .at _ s => s.made?
  | .define s _ _ _ _ _ | .kind s _ _ => some s
  | .decorated _ s => s.made?
  | _ => none

end PartitionTest.Shell.Objects
