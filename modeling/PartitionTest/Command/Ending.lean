import PartitionTest.Command
import PartitionTest.Observation
import PartitionTest.Run
import PartitionTest.Text.Utf8

/-! How a program that was launched ends, and what is observed of it: the
beginning of what it prints, and how it exits. -/
namespace PartitionTest

structure Capture where
  kept : List UInt8 := []
  /-- Whether anything was dropped. -/
  truncated : Bool := false
deriving DecidableEq, Repr, Inhabited

namespace Capture

structure Reading where
  size : Nat := 0
  chunks : List (List UInt8) := []
  truncated : Bool := false

def Reading.push (cap : Nat) (r : Reading) (chunk : List UInt8) : Reading :=
  let room := cap - r.size
  let taken := chunk.take room
  { size := r.size + taken.length
    chunks := taken :: r.chunks
    truncated := r.truncated || room < chunk.length }

/-- At most `cap` bytes are kept, the rest is read and dropped. -/
def ofChunks (cap : Nat) (chunks : List (List UInt8)) : Capture :=
  let r := chunks.foldl (Reading.push cap) {}
  ⟨r.chunks.reverse.flatten, r.truncated⟩

end Capture

inductive StartError where
  | file (e : FileError)
  /-- The file is no program. -/
  | format
  /-- The character zero cannot be passed on. -/
  | zeroByte
deriving DecidableEq, Repr, Inhabited

def StartError.message : StartError → String
  | .file e => e.message
  | .format => "Exec format error (os error 8)"
  | .zeroByte => "nul byte found in provided data"

inductive Exit where
  | code (c : Int32)
  | signal (number : Nat)
deriving DecidableEq, Inhabited

abbrev Output := Option (List (List UInt8))

inductive Ending where
  | notStarted (e : StartError)
  /-- The program still runs when its time is over. -/
  | late
  | ended (exit : Exit) (output errors : Output)
deriving Inhabited

namespace Command

def notes (settings : CommandSettings) (output errors : Capture) : Option String :=
  let cut :=
    if output.truncated then
      ["stdout truncated at " ++ toString settings.maxOutputBytes ++ " bytes (" ++
        toString output.kept.length ++ " kept)"]
    else []
  let complaint := Text.trim (Text.Utf8.decode errors.kept)
  match cut ++ (if complaint.isEmpty then [] else ["stderr: " ++ String.ofList complaint]) with
  | [] => none
  | notes => some (String.intercalate "; " notes)

/-- A program whose output stays open is late like one that does not end; one
that a signal ends has crashed, and its output is lost. -/
def observe (command : Command) (timeout : Duration) : Ending → Observation
  | .notStarted e =>
    .crashed ("failed to spawn '" ++ command.program ++ "': " ++ e.message) ⟨0⟩
  | .late | .ended _ none _ => .timedOut timeout ⟨0⟩
  | .ended (.signal n) (some _) _ => .crashed ("terminated by signal " ++ toString n) ⟨0⟩
  | .ended (.code c) (some output) errors =>
    let output := Capture.ofChunks command.settings.maxOutputBytes output
    let errors := Capture.ofChunks command.settings.maxErrorBytes (errors.getD [])
    (Observation.completed (String.ofList (Text.Utf8.decode output.kept)) (some c) ⟨0⟩).withDetail
      (notes command.settings output errors)

end Command

def Launch.hasZero (l : Launch) : Bool :=
  (l.program :: l.args).any fun text => text.toList.contains (Char.ofNat 0)

abbrev Descriptor := Nat

def Descriptor.stdout : Descriptor := 1

def Descriptor.stderr : Descriptor := 2

/-- A system in which programs are run. -/
structure Host (World : Type) where
  /-- The files as they are now. -/
  files : World → FileView
  /-- Opens a file for writing, created or emptied. -/
  create : String → StateM World (Except FileError Descriptor)
  put : Descriptor → String → StateM World (Except FileError Unit)
  execute : Launch → Duration → StateM World Ending

namespace Host

variable {World : Type}

def write (host : Host World) (path text : String) : StateM World (Except FileError Unit) := do
  match ← host.create path with
  | .ok d => host.put d text
  | .error e => return .error e

def blocks (host : Host World) (d : Descriptor) : Channel World := ⟨host.put d, 8192⟩

def direct (host : Host World) (d : Descriptor) : Channel World := ⟨host.put d, 0⟩

def implementation (host : Host World) (command : Command) : Implementation World where
  name := command.name
  execute c timeout := do
    let launch := command.launch c
    let ending ← if launch.hasZero then pure (.notStarted .zeroByte)
      else host.execute launch timeout
    return command.observe timeout ending

end Host

end PartitionTest
