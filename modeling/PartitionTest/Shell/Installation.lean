import PartitionTest.Shell.Interpreter

/-! A host in memory: files, and stand-ins for the programs of a machine. What is
proved of runs holds of every host, and nothing is of this one; only the executable
takes it, in place of processes. -/
namespace PartitionTest.Shell.Installation

def programs : List String :=
  Utility.shells ++ Utility.starters ++ Utility.scripted ++ Utility.table.map (·.1)

def devices : List (String × Device) :=
  [("/dev/null", .null), ("/dev/zero", .zero), ("/dev/full", .full),
    ("/dev/stdin", .stream 0), ("/dev/stdout", .stream 1), ("/dev/stderr", .stream 2)] ++
  ["/dev/fd/", "/proc/self/fd/"].flatMap fun path =>
    (List.range 10).map fun n => (path ++ toString n, .stream n)

def home : Place := ["run", "tmp"]

def files : FileTree where
  home := home
  entries :=
    (Utility.directories.flatMap fun d =>
      programs.map fun name => ((Place.ofPath d).child name, Entry.program name)) ++
    (Utility.scripted.map fun name =>
      ((Place.ofPath Utility.localDirectory).child name, Entry.program name)) ++
    devices.map (fun (path, d) => (Place.ofPath path, Entry.device d)) ++
    [(Place.ofPath "/etc/passwd", .file "root:x:0:0:root:/root:/bin/sh\n".toUTF8 Mode.usual),
      (Place.ofPath "/root", .directory),
      (Place.ofPath "/tmp", .directory)]

/-- A system with further files, by their paths from the working directory. -/
def withFiles (own : List (String × Entry)) : FileTree :=
  own.foldl (fun t (path, entry) => t.insert (Place.ofPath path home) entry) files

structure Opened where
  path : String
  offset : Nat

def firstDescriptor : Descriptor := 3

/-- What a process works with: the files, those it has opened, and what it has
printed. -/
structure Session where
  files : FileTree
  opened : List Opened := []
  stdout : String := ""
  stderr : String := ""

/-- Bytes put in place of those at an offset; what lies before is filled up with
zeros. -/
def overwrite (contents : ByteArray) (offset : Nat) (bytes : ByteArray) : ByteArray :=
  let before := contents.extract 0 offset
  before ++ ⟨Array.replicate (offset - before.size) 0⟩ ++ bytes ++
    contents.extract (offset + bytes.size) contents.size

namespace Session

def keepOpen (s : Session) (path : String) : Descriptor × Session :=
  (firstDescriptor + s.opened.length, { s with opened := s.opened ++ [⟨path, 0⟩] })

def create (s : Session) (path : String) : Except FileError (Descriptor × Session) := do
  match ← s.files.write s.files.home path .empty with
  | .passed n => if n < firstDescriptor then return (n, s) else throw .notFound
  | .stored files => return ({ s with files := files }).keepOpen path
  | .lost => return s.keepOpen path

def put (s : Session) (d : Descriptor) (text : String) : Except FileError Session := do
  if d = .stdout then return { s with stdout := s.stdout ++ text }
  if d = .stderr then return { s with stderr := s.stderr ++ text }
  match s.opened[d - firstDescriptor]? with
  | none => throw .badDescriptor
  | some o =>
    let bytes := text.toUTF8
    match ← s.files.update s.files.home o.path (overwrite · o.offset bytes) with
    | .stored files =>
      let opened := s.opened.set (d - firstDescriptor) { o with offset := o.offset + bytes.size }
      return { s with files := files, opened := opened }
    | _ => return s

end Session

def host : Host Session where
  files s := s.files.view
  create path := fun s =>
    match s.create path with
    | .ok (d, s) => (.ok d, s)
    | .error e => (.error e, s)
  put d text := fun s =>
    match s.put d text with
    | .ok s => (.ok (), s)
    | .error e => (.error e, s)
  execute l timeout := fun s =>
    let (ending, files) := Interpreter.launch l timeout s.files
    (ending, { s with files := files })

end PartitionTest.Shell.Installation
