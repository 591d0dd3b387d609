import PartitionTest.Command.Ending
import PartitionTest.Shell.Machine

/-! Finding the program that a name starts: a file is searched for, and a
script names what runs it in its first line. -/
namespace PartitionTest.Shell.Start

structure Target where
  /-- The program by its own name. -/
  program : String
  /-- The name by which it is called. -/
  name : String
  args : List String
deriving Inhabited

structure Scope where
  files : FileTree
  directory : Place
  /-- The directories that are searched for a name without slashes. -/
  path : List String

def searchPath (path : String) : List String :=
  (Text.split (· == ':') path.toList).map String.ofList

def candidates (s : Scope) (name : String) : List String :=
  if name.toList.contains '/' then [name]
  else s.path.map fun d => if d.isEmpty then name else d ++ "/" ++ name

def isRunnable : Entry → Bool
  | .program _ => true
  | .file _ mode => mode.isRunnable
  | .directory | .device _ => false

/-- The entry that a name leads to: the first that can be run. If there is
none, it counts whether something else was found. -/
def locate (s : Scope) (name : String) : Except FileError (String × Entry) :=
  if name.isEmpty then .error .notFound
  else if !name.toList.contains '/' && FileTree.maxName < name.utf8ByteSize then .error .nameTooLong
  else
    let found := (candidates s name).map fun path =>
      (path, s.files.lookupFrom s.directory path)
    let good := found.findSome? fun (path, e) => match e with
      | .ok e => if isRunnable e then some (path, e) else none
      | .error _ => none
    match good with
    | some found => .ok found
    | none =>
      if found.any fun f => f.2.toOption.isSome then .error .permissionDenied
      else match found with
        | [(_, .error e)] => .error e
        | _ => .error .notFound

/-- What a script names in its first line to run it, and one argument for it. -/
def interpreterOf? (contents : ByteArray) : Option (String × List String) :=
  match (contents.toList.takeWhile (· != 10)).map fun b => Char.ofNat b.toNat with
  | '#' :: '!' :: line =>
    let blank (c : Char) := c = ' ' || c = '\t'
    let line := ((line.dropWhile blank).reverse.dropWhile blank).reverse
    let path := line.takeWhile fun c => !blank c
    let arg := (line.drop path.length).dropWhile blank
    if path.isEmpty then none
    else some (String.ofList path, if arg.isEmpty then [] else [String.ofList arg])
  | _ => none

def maxLevels : Nat := 5

def follow (s : Scope) : Nat → String → Entry → List String → Except StartError Target
  | 0, _, _, _ => .error (.file .permissionDenied)
  | _ + 1, name, .program p, args => .ok ⟨p, name, args⟩
  | n + 1, name, .file contents mode, args =>
    if !mode.isRunnable then .error (.file .permissionDenied)
    else match interpreterOf? contents with
    | none => .error .format
    | some (interpreter, arg) =>
      match s.files.lookupFrom s.directory (toUtf8 interpreter) with
      | .ok e => follow s n interpreter e (arg ++ name :: args)
      | .error e => .error (.file e)
  | _ + 1, _, _, _ => .error (.file .permissionDenied)

def resolve (s : Scope) (name : String) (args : List String) : Except StartError Target := do
  let (path, e) ← (locate s (toUtf8 name)).mapError .file
  match e with
  | .program p => return ⟨p, name, args⟩
  | e => follow s maxLevels (ofUtf8 path) e args

end PartitionTest.Shell.Start
