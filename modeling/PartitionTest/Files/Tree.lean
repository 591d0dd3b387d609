import PartitionTest.Files
import PartitionTest.Files.Mode

/-! File trees: what a run reads and writes. -/
namespace PartitionTest

inductive Device where
  /-- Empty, and takes everything. -/
  | null
  /-- Zeros without end. -/
  | zero
  /-- Zeros without end, and no room for anything. -/
  | full
  /-- A stream of the process that opens it, by its descriptor. -/
  | stream (descriptor : Nat)
deriving DecidableEq, Repr, Inhabited

inductive Entry where
  | file (contents : ByteArray) (mode : Mode)
  | directory
  | device (d : Device)
  /-- A program of the system, in no readable form. -/
  | program (name : String)
deriving Inhabited

abbrev Place := List String

namespace Place

def root : Place := []

def child (p : Place) (name : String) : Place :=
  if name = "" || name = "." then p
  else if name = ".." then p.drop 1
  else name :: p

def ofPath (path : String) (start : Place := root) : Place :=
  ((Path.parts path).map String.ofList).foldl child (if Path.isAbsolute path then root else start)

def toPath (p : Place) : String := "/" ++ String.intercalate "/" p.reverse

end Place

namespace Entry

def size : Entry → Nat
  | .file contents _ => contents.size
  | .device _ => 0
  | .directory | .program _ => 4096

def bytes : Entry → Except FileError ByteArray
  | .file contents _ => .ok contents
  | .device .null | .device (.stream _) => .ok .empty
  | .directory => .error .isDirectory
  | .device _ | .program _ => .error .notText

end Entry

/-- Files by their place. A directory is there if it is listed or holds something. -/
structure FileTree where
  /-- Where relative paths start. -/
  home : Place := Place.root
  entries : List (Place × Entry) := []
deriving Inhabited

namespace FileTree

def entry? (t : FileTree) (p : Place) : Option Entry :=
  match t.entries.find? (·.1 == p) with
  | some (_, e) => some e
  | none =>
    if p.isSuffixOf t.home || t.entries.any fun e => p.isSuffixOf e.1 then some .directory else none

def maxName : Nat := 255

def maxPath : Nat := 4095

def follow (t : FileTree) (p : Place) : List String → Except FileError Place
  | [] => .ok p
  | name :: names =>
    match t.entry? p with
    | some .directory =>
      if maxName < name.utf8ByteSize then .error .nameTooLong
      else t.follow (p.child name) names
    | some _ => .error .notDirectory
    | none => .error .notFound

/-- The place that a path from another one names, whether or not something is there. -/
def locateFrom (t : FileTree) (start : Place) (path : String) : Except FileError Place :=
  if path.toList.contains (Char.ofNat 0) then .error .zeroInPath
  else if path.isEmpty then .error .notFound
  else if maxPath < path.utf8ByteSize then .error .nameTooLong
  else
    t.follow (if Path.isAbsolute path then Place.root else start)
      ((Path.parts path).map String.ofList)

def lookupFrom (t : FileTree) (start : Place) (path : String) : Except FileError Entry := do
  match t.entry? (← t.locateFrom start path) with
  | some e => return e
  | none => throw .notFound

def lookup (t : FileTree) (path : String) : Except FileError Entry := t.lookupFrom t.home path

def names (t : FileTree) (p : Place) : List String :=
  let below := (t.home :: t.entries.map (·.1)).filterMap fun q =>
    if p.isSuffixOf q then q[q.length - p.length - 1]? else none
  (below.filter fun name => t.entry? (name :: p) |>.isSome).mergeSort.eraseDups

def view (t : FileTree) : FileView where
  size path := (t.lookup path).map Entry.size
  bytes path := t.lookup path >>= Entry.bytes

def insert (t : FileTree) (p : Place) (e : Entry) : FileTree :=
  { t with entries := (p, e) :: t.entries.filter (·.1 != p) }

def erase (t : FileTree) (p : Place) : FileTree :=
  let t := { t with entries := t.entries.filter fun e => !p.isSuffixOf e.1 }
  match t.entry? (p.drop 1) with
  | some _ => t
  | none => t.insert (p.drop 1) .directory

inductive Written where
  | stored (t : FileTree)
  | lost
  | passed (descriptor : Nat)
deriving Inhabited

/-- Changes the contents of a file, or creates it with a mode where there is
nothing. A path that ends in a slash names no file to be created. -/
def update (t : FileTree) (start : Place) (path : String) (f : ByteArray → ByteArray)
    (mode : Mode := Mode.usual) : Except FileError Written := do
  let names := (Path.parts path).map String.ofList
  let slash := names.getLast? == some "" && names.any (· != "")
  let bare := if slash then
      String.ofList ((path.toList.reverse.dropWhile (· == '/')).reverse) else path
  let p ← t.locateFrom start bare
  match t.entry? p with
  | some .directory => throw .isDirectory
  | none => if slash then throw .isDirectory else return .stored (t.insert p (.file (f .empty) mode))
  | some e =>
    if slash then throw .notDirectory
    match e with
    | .file contents mode => return .stored (t.insert p (.file (f contents) mode))
    | .device .full => if (f .empty).isEmpty then return .lost else throw .noSpace
    | .device (.stream n) => return if n = 0 then .lost else .passed n
    | .device _ => return .lost
    | _ => throw .permissionDenied

def write (t : FileTree) (start : Place) (path : String) (contents : ByteArray)
    (mode : Mode := Mode.usual) : Except FileError Written :=
  t.update start path (fun _ => contents) mode

end FileTree

end PartitionTest
