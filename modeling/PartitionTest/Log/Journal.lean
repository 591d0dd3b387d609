import PartitionTest.Files
import PartitionTest.Log

/-! Journals: logs that are written as they grow. Nothing stops when a line
cannot be written. -/
namespace PartitionTest

/-- A way for text to go. Up to `room` bytes of it are held back. -/
structure Channel (World : Type) where
  put : String → StateM World (Except FileError Unit)
  room : Nat

namespace Channel

variable {World : Type}

def drain (c : Channel World) (held : String) : StateM World (Bool × String) := do
  if held.isEmpty then return (true, held)
  match ← c.put held with
  | .ok () => return (true, "")
  | .error _ => return (false, held)

def makeRoom (c : Channel World) (held : String) (size : Nat) : StateM World (Bool × String) :=
  if held.utf8ByteSize + size ≤ c.room then return (true, held) else c.drain held

/-- Takes a piece of text. One as large as the room is never held back. -/
def write (c : Channel World) (held piece : String) : StateM World (Bool × String) := do
  let (clear, held) ← c.makeRoom held piece.utf8ByteSize
  if !clear then return (false, held)
  if piece.utf8ByteSize < c.room then return (true, held ++ piece)
  match ← c.put piece with
  | .ok () => return (true, held)
  | .error _ => return (false, held)

def writeLine (c : Channel World) (held line : String) : StateM World String := do
  let (taken, held) ← c.write held line
  if taken then return (← c.write held "\n").2 else return held

end Channel

structure Journal (World : Type) where
  log : Log
  channel : Channel World
  held : String := ""

namespace Journal

variable {World : Type}

def emit (j : Journal World) (e : LogEntry) : StateM World (Journal World) := do
  if !j.log.enabled e.level then return j
  let log := j.log.emit e
  let held ← j.channel.writeLine j.held (log.written.headD "")
  return { j with log := log, held := held }

def note (j : Journal World) (e : LogEntry) : StateM World (Journal World) :=
  j.emit { e with timestamp := j.log.clock }

def flush (j : Journal World) : StateM World (Journal World) := do
  let (_, held) ← j.channel.drain j.held
  return { j with held := held }

end Journal

end PartitionTest
