import PartitionTest.Shell.Regex

/-! The language of programs that work on records: rules of a pattern and an
action, and functions. A text has one character a byte. -/
namespace PartitionTest.Shell.Records

inductive Place where
  | outer (name : String)
  | inner (index : Nat)
deriving DecidableEq, Repr, Inhabited

inductive Builtin where
  | length | substr | index | split | sub | gsub | matches | sprintf | lower | upper
  | int | sqrt | exp | log | sin | cos | atan2 | rand | srand
  | system | close | flush | time | timeText | timeOf
deriving DecidableEq, Repr, Inhabited

inductive Arithmetic where
  | add | subtract | multiply | divide | remainder | power
deriving DecidableEq, Repr, Inhabited

inductive Comparison where
  | equal | unequal | less | lessEqual | greater | greaterEqual
deriving DecidableEq, Repr, Inhabited

inductive InputKind where
  | records
  | file
  | command
deriving DecidableEq, Repr, Inhabited

inductive Expr where
  | number (x : Float)
  | text (s : String)
  /-- A pattern by itself is looked for in the record. -/
  | pattern (source : String) (r : Regex)
  | scalar (p : Place)
  | field (e : Expr)
  | element (p : Place) (keys : List Expr)
  /-- In parentheses, which nothing can be assigned to. -/
  | plain (e : Expr)
  /-- A name that stands for an array, as an argument. -/
  | array (p : Place)
  | assign (target value : Expr)
  | update (op : Arithmetic) (target value : Expr)
  /-- Adds to a variable; the value is what it has before or after that. -/
  | step (before : Bool) (amount : Float) (target : Expr)
  | choice (test yes no : Expr)
  | either (a b : Expr)
  | both (a b : Expr)
  | isIn (keys : List Expr) (p : Place)
  | found (negated : Bool) (e pattern : Expr)
  | compare (op : Comparison) (a b : Expr)
  | concat (a b : Expr)
  | arith (op : Arithmetic) (a b : Expr)
  | not (e : Expr)
  | negate (e : Expr)
  | plus (e : Expr)
  | builtin (b : Builtin) (args : List Expr)
  | call (name : String) (args : List Expr)
  | getline (kind : InputKind) (source : Option Expr) (target : Option Expr)
deriving Inhabited

inductive OutputKind where
  | write
  | append
  | command
deriving DecidableEq, Repr, Inhabited

inductive Statement where
  | nothing
  | block (body : List Statement)
  | expr (e : Expr)
  /-- With a format or without. -/
  | print (formatted : Bool) (args : List Expr) (target : Option (OutputKind × Expr))
  | choice (test : Expr) (yes no : Statement)
  /-- With what is done at the end of each round. -/
  | loop (test : Option Expr) (step body : Statement)
  | loopAfter (body : Statement) (test : Expr)
  | each (name : Expr) (p : Place) (body : Statement)
  | leave
  | again
  | next (file : Bool)
  | exit (status : Option Expr)
  | return (value : Option Expr)
  | delete (p : Place) (keys : Option (List Expr))
deriving Inhabited

inductive Pattern where
  | begin
  | finish
  | always
  | when (e : Expr)
  /-- From a record that fits to the next one that fits the second. -/
  | range (first last : Expr)
deriving Inhabited

/-- A pattern and what is done; without an action, the record is printed. -/
structure Rule where
  pattern : Pattern
  action : Option Statement
deriving Inhabited

inductive Role where
  | unknown
  | scalar
  | array
deriving DecidableEq, Repr, Inhabited

structure Function where
  parameters : List String
  /-- What the parameters stand for. -/
  roles : List Role := []
  body : Statement
deriving Inhabited

structure Script where
  rules : List Rule := []
  functions : List (String × Function) := []
  /-- The names that stand for arrays. -/
  arrays : List String := []
deriving Inhabited

end PartitionTest.Shell.Records
