import PartitionTest.Case
import PartitionTest.Failure

/-! Commands: external programs that are run once a case. -/
namespace PartitionTest

inductive InputMode where
  /-- A line for each value. -/
  | stdin
  /-- Further arguments. -/
  | args
deriving DecidableEq, Repr, Inhabited

namespace InputMode

def name : InputMode → String
  | .stdin => "stdin"
  | .args => "args"

def toJson (m : InputMode) : Json.Value := .string m.name

def decoder : Json.Decoder InputMode :=
  .choice [("stdin", .stdin), ("args", .args)]

end InputMode

structure CommandSettings where
  input : InputMode := .stdin
  /-- What is kept of the standard output. -/
  maxOutputBytes : Nat := 1048576
  /-- What is kept of the standard error for diagnostics. -/
  maxErrorBytes : Nat := 4096
deriving DecidableEq, Inhabited

namespace CommandSettings

open Json

def toJson (s : CommandSettings) : Value :=
  .object [("input", s.input.toJson), ("max_output_bytes", .nat s.maxOutputBytes),
    ("max_stderr_bytes", .nat s.maxErrorBytes)]

def decoder : Decoder CommandSettings :=
  Record.decoder "struct ExecConfig"
    (CommandSettings.mk <$> Record.required "input" InputMode.decoder <*>
      Record.required "max_output_bytes" Decoder.size <*>
      Record.required "max_stderr_bytes" Decoder.size)

end CommandSettings

structure Command where
  name : String
  program : String
  args : List String
  settings : CommandSettings := {}
deriving DecidableEq, Inhabited

/-- A program to be started, with what it can read. -/
structure Launch where
  program : String
  args : List String
  input : String
deriving DecidableEq, Inhabited

namespace Command

def ofWords (program : String) (args : List String) : Command where
  name := String.intercalate " " (program :: args)
  program := program
  args := args

/-- A command line cut at blanks, without quoting; the first word is the program. -/
def ofLine (line : String) : Except Failure Command :=
  match (Text.words line.toList).map String.ofList with
  | [] => .error .emptyCommand
  | program :: args => .ok (ofWords program args)

def payload (c : Case) : String :=
  String.join (c.texts.map fun text => text ++ "\n")

def launch (command : Command) (c : Case) : Launch :=
  match command.settings.input with
  | .stdin => ⟨command.program, command.args, payload c⟩
  | .args => ⟨command.program, command.args ++ c.texts, ""⟩

end Command

end PartitionTest
