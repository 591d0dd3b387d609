import PartitionTest.Shell.Objects.Invocation
import PartitionTest.Shell.Objects.Streams

/-! The evaluation as a whole: each part of it asks for the others through what is
tied here. What is told about a script that cannot go on: where it was, and why. -/
namespace PartitionTest.Shell.Objects.Evaluation

open Memory Shown

/-- What the parts of the evaluation ask for, in so many steps into each other at most. -/
def running : Nat → Running
  | 0 => {
      own := fun _ _ => return "...", items := fun _ => return [], call := fun v _ _ => return v
      member := fun v _ => return v, equal := fun _ _ => return false, truth := fun _ => return false
      percent := fun s _ => return s, cursor? := fun _ => return none, cursor := fun _ => return 0
      next := fun _ => return none, resume := fun _ _ => return none }
  | n + 1 => {
      own := fun isPlain v => Invocation.own (running n) isPlain v
      items := fun v => Expressions.itemsOf (running n) v Streams.notIterable
      call := fun f args named => Invocation.call (running n) f args named
      member := fun v name => Members.member (running n) v name
      equal := fun a b => Operations.equal (running n) Operations.maxDepth a b
      truth := fun v => match v with
        | .bool b => return b
        | v => Operations.truth (running n) v
      percent := fun s v => Layouts.percent (running n) s v
      cursor? := fun v => Streams.cursor? (running n) v
      cursor := fun v => Streams.cursor (running n) v
      next := fun id => Streams.next (running n) id
      resume := fun id how => Suspension.resume (running n) id how }

/-- How many steps lead from one part of the evaluation into the next at most. -/
def maxDepth : Nat := 1000000000

def whole : Running := running maxDepth

def textOf (isPlain : Bool) (v : Value) : Eval String :=
  if isPlain then plain whole.own v else shown whole.own Shown.maxDepth v

def run (all : List Statement) : Eval Unit := Statements.runAll whole all

end PartitionTest.Shell.Objects.Evaluation

namespace PartitionTest.Shell.Objects.Report

open Memory

def bare (line : String) : String :=
  String.ofList (((line.toList.dropWhile Numbers.isSpace).reverse.dropWhile Numbers.isSpace).reverse)

/-- What is wrong with a script. Marks below the line show the place. -/
def flaw (file : String) (lines : List String) (isFile : Bool) (f : Flaw) : String :=
  let head := "  File \"" ++ file ++ "\", line " ++ toString f.line ++ "\n"
  let shown := match if f.isLate && !isFile then none else lines[f.line - 1]? with
    | some line =>
      let text := String.ofList (line.toList.dropWhile Numbers.isSpace)
      let before := line.length - text.length
      let marks := if f.finish = 0 then ""
        else String.ofList (List.replicate (4 + (f.column - before)) ' ' ++
          List.replicate (Nat.max 1 (f.finish - f.column)) '^') ++ "\n"
      "    " ++ text ++ "\n" ++ marks
    | none => ""
  head ++ shown ++ f.kind ++ ": " ++ f.message ++ "\n"

def maxListed : Nat := 3

def repeats (n : Nat) : String :=
  if n ≤ maxListed then ""
  else "  [Previous line repeated " ++ toString (n - maxListed) ++ " more time" ++
    (if n = maxListed + 1 then "" else "s") ++ "]\n"

/-- The open calls, the outermost first. The last one and how often it came are kept. -/
def calls (file : String) (lines : List String) : Option (Frame × Nat) → List Frame → String
  | last, [] => (last.map fun (_, n) => repeats n).getD ""
  | last, f :: rest =>
    let (ended, count) := match last with
      | some (g, n) => if g.name == f.name && g.line = f.line then ("", n + 1) else (repeats n, 1)
      | none => ("", 1)
    let shown := if maxListed < count then "" else
      "  File \"" ++ file ++ "\", line " ++ toString f.line ++ ", in " ++ f.name ++ "\n" ++
        (match lines[f.line - 1]? with
          | some line => "    " ++ bare line ++ "\n"
          | none => "")
    ended ++ shown ++ calls file lines (some (f, count)) rest

def summary (v : Value) : Eval String := do
  let message ← try Evaluation.textOf true v catch _ => pure "<exception str() failed>"
  let kind ← match v with
    | .object id => do
      let k ← kindAt (← objectAt id).kind
      pure ((if k.module == "__main__" || k.module == "builtins" then "" else k.module ++ ".") ++ k.path)
    | v => Shown.kindName v
  let hints := (← get).hints
  let isAboutName := ((← Kinds.errorKind? v).map fun kind =>
    isErrorOf kind "NameError" || isErrorOf kind "AttributeError").getD false
  let hint := if isAboutName then hints.lookup message else none
  let near := (hint.map fun s => ". Did you mean: '" ++ s ++ "'?").getD ""
  return kind ++ (if message.isEmpty then "" else ": " ++ message) ++ near ++ "\n"

def error : Raised → Eval String
  | .of v trace before isCause => do
    let m ← get
    let earlier ← match before with
      | some e => do
        let text ← error e
        pure (text ++ "\n" ++ (if isCause then
            "The above exception was the direct cause of the following exception:"
          else "During handling of the above exception, another exception occurred:") ++ "\n\n")
      | none => pure ""
    let trace := trace.filter fun f => !f.isInner
    let head := if trace.isEmpty then "" else "Traceback (most recent call last):\n"
    return earlier ++ head ++ calls m.file m.lines none trace ++ (← summary v)

end PartitionTest.Shell.Objects.Report
