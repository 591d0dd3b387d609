import PartitionTest.Command
import PartitionTest.Model.Basic

/-! Manifests: the suites to run, each with its partition document and its two
programs. Paths in a manifest are relative to its directory. -/
namespace PartitionTest

structure ProgramSpec where
  program : String
  args : List String
  input : InputMode
  /-- A source file whose fragment is shown in the report. -/
  source : Option String
deriving DecidableEq, Inhabited

structure SuiteEntry where
  name : String
  /-- The path of the partition document. -/
  document : String
  reference : ProgramSpec
  subject : ProgramSpec
  timeoutMs : Option Nat
  /-- How many samples are added to the cases. -/
  sample : Option Nat
  seed : Option Nat
deriving DecidableEq, Inhabited

structure Manifest where
  suites : List SuiteEntry
deriving DecidableEq, Inhabited

open Json

namespace ProgramSpec

def toJson (p : ProgramSpec) : Value :=
  .object [("program", .string p.program), ("args", .list .string p.args),
    ("input", p.input.toJson), ("source", .option .string p.source)]

def decoder : Decoder ProgramSpec :=
  Record.decoder "struct ImplSpec"
    (ProgramSpec.mk <$> Record.required "program" Decoder.string <*>
      Record.defaulted "args" (Decoder.list Decoder.string) [] <*>
      Record.defaulted "input" InputMode.decoder .stdin <*>
      Record.defaulted "source" (Decoder.option Decoder.path) none)

/-- A program named by a relative path is found from the directory of the
manifest; a name without a slash is looked up by the system. -/
def command (p : ProgramSpec) (base name : String) : Command where
  name := name
  program := if p.program.toList.contains '/' then Path.join base p.program else p.program
  args := p.args
  settings := { input := p.input }

end ProgramSpec

namespace SuiteEntry

def toJson (s : SuiteEntry) : Value :=
  .object [("name", .string s.name), ("partition", .string s.document),
    ("reference", s.reference.toJson), ("subject", s.subject.toJson),
    ("timeout_ms", .option .nat s.timeoutMs), ("sample", .option .nat s.sample),
    ("seed", .option .nat s.seed)]

def decoder : Decoder SuiteEntry :=
  Record.decoder "struct SuiteEntry"
    (SuiteEntry.mk <$> Record.required "name" Decoder.string <*>
      Record.required "partition" Decoder.path <*>
      Record.required "reference" ProgramSpec.decoder <*>
      Record.required "subject" ProgramSpec.decoder <*>
      Record.defaulted "timeout_ms" (Decoder.option Decoder.quantity) none <*>
      Record.defaulted "sample" (Decoder.option Decoder.size) none <*>
      Record.defaulted "seed" (Decoder.option Decoder.quantity) none)

end SuiteEntry

namespace Manifest

def toJson (m : Manifest) : Value :=
  .object [("suites", .list SuiteEntry.toJson m.suites)]

def decoder : Decoder Manifest :=
  Record.decoder "struct SuiteManifest"
    (Manifest.mk <$> Record.required "suites" (Decoder.list SuiteEntry.decoder))

def flaw? (m : Manifest) : Option String :=
  if m.suites.isEmpty then some "no suites listed"
  else (firstRepeated? (m.suites.map (·.name))).map fun name =>
    "duplicate suite name '" ++ name ++ "'"

def baseOf (path : String) : String := (Path.parent? path).getD "."

def load (files : FileView) (path : String) : Except Failure Manifest := do
  let text ← (files.text path).mapError (.file path)
  let m ← (decoder.ofText text).mapError fun e => .manifest path e.message
  match m.flaw? with
  | some reason => throw (.manifest path reason)
  | none => return m

end Manifest

end PartitionTest
