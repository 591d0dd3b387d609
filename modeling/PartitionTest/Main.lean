import PartitionTest.CommandLine
import PartitionTest.Shell.Installation
import PartitionTest.Timestamp
import Std.Time.DateTime.Timestamp

/-! The program. It reads the working directory and what the arguments name,
carries out one command over these files on a host in memory, and writes back those
that changed. -/
namespace PartitionTest.CommandLine

def usage : String := String.intercalate "\n" [
  "usage:",
  "  run --config FILE --reference COMMAND --subject COMMAND [--timeout MS] [--workers N]",
  "      [--input stdin|args] [--normalize exact|trim|collapse] [--sample N] [--seed N]",
  "      [--format table|json] [--output FILE] [--log FILE] [--log-level LEVEL]",
  "  cases --config FILE [--sample N] [--seed N]",
  "  suite --manifest FILE [--workers N]",
  "      [--format table|json] [--output FILE] [--log FILE] [--log-level LEVEL]",
  ""]

def depth : Nat := 8

def fileEntry (contents : ByteArray) : Entry :=
  .file contents (if contents.extract 0 2 == "#!".toUTF8 then Mode.usualRunnable else Mode.usual)

/-- Reads a file, or all that a directory holds. What cannot be read is left out. -/
def readEntry (above : Place) (e : IO.FS.DirEntry) : Nat → FileTree → IO FileTree
  | 0, files => return files
  | below + 1, files => do
    let place := above.child e.fileName
    if ← e.path.isDir then
      match ← e.path.readDir.toBaseIO with
      | .ok es => es.foldlM (fun t e => readEntry place e below t) (files.insert place .directory)
      | .error _ => return files
    else
      match ← (IO.FS.readBinFile e.path).toBaseIO with
      | .ok contents => return files.insert place (fileEntry contents)
      | .error _ => return files

def isSystem (p : Place) : Bool :=
  match p.getLast? with
  | some name => ["dev", "proc", "sys"].contains name
  | none => false

def readAround (files : FileTree) (path : String) : IO FileTree := do
  let directory := (Path.parent? path).getD ""
  let read : IO FileTree := do
    let place := Place.ofPath directory files.home
    if isSystem place then return files
    let found ← IO.FS.realPath (if directory.isEmpty then "." else directory)
    (← found.readDir).foldlM (fun t e => readEntry place e (if place.isEmpty then 1 else depth) t)
      (files.insert place .directory)
  match ← read.toBaseIO with
  | .ok files => return files
  | .error _ => return files

def readFiles (args : List String) : IO FileTree := do
  let here ← IO.FS.realPath "."
  let files := { Shell.Installation.files with home := Place.ofPath here.toString }
  let outside (path : String) := Path.isAbsolute path || path.startsWith ".."
  let paths := args.map fun arg => (inline? arg).elim arg (·.2)
  ("." :: paths.filter outside).foldlM readAround files

def writeFiles (old new : FileTree) : IO Unit :=
  new.entries.forM fun (place, entry) =>
    match entry, old.entry? place with
    | .file contents _, some (.file before _) =>
      unless contents == before do IO.FS.writeBinFile place.toPath contents
    | .file contents _, _ => IO.FS.writeBinFile place.toPath contents
    | _, _ => return

end PartitionTest.CommandLine

open PartitionTest CommandLine in
def main (args : List String) : IO UInt32 := do
  match parse args with
  | none =>
    IO.eprint usage
    return 2
  | some command =>
    let files ← readFiles args
    let now ← Std.Time.Timestamp.now
    let clock := Timestamp.render now.toMillisecondsSinceUnixEpoch.toInt.toNat
    let (code, after) := (execute Shell.Installation.host clock command).run { files := files }
    writeFiles files after.files
    match ← (do IO.print after.stdout; (← IO.getStdout).flush : IO Unit).toBaseIO with
    | .ok () =>
      IO.eprint after.stderr
      return code.toUInt32
    | .error e =>
      IO.eprint s!"{after.stderr}failed printing to stdout: {e}\n"
      return panicCode.toUInt32
