import PartitionTest.Shell.Objects.Methods

/-! Files and their paths. -/
namespace PartitionTest.Shell.Objects.Paths

open Memory Shown Methods

def kindOf : FileError → String
  | .notFound => "FileNotFoundError"
  | .permissionDenied => "PermissionError"
  | .exists => "FileExistsError"
  | .notDirectory => "NotADirectoryError"
  | .isDirectory => "IsADirectoryError"
  | _ => "OSError"

def refuse (e : FileError) (path : Value) : Eval α :=
  match e.number? with
  | some n => raise (.error (kindOf e) [.int n, .text e.reason, path])
  | none => valueError "embedded null byte"

def pathArgument (v : Value) : Eval String := do
  match v with
  | .text s => return ofUtf8 s
  | .bytes s => return s
  | v => typeError ("expected str, bytes or os.PathLike object, not " ++ (← kindName v))

def freeDescriptor : Nat → Nat → Run Nat
  | 0, n => return n
  | k + 1, n => do
    match ← Machine.channel? n with
    | none => return n
    | some _ => freeDescriptor k (n + 1)

def maxDescriptors : Nat := 1024

def openFile (path : Value) (mode : String) : Eval Value := do
  let letters := mode.toList
  let isBinary := letters.contains 'b'
  let ways := letters.filter "rwax".toList.contains
  if ways.length != 1 || letters.any fun c => !"rwaxbt+".toList.contains c then
    if letters.all "rwaxbt+".toList.contains then
      valueError "must have exactly one of create/read/write/append mode"
    else valueError ("invalid mode: " ++ quoted false mode)
  match path with
  | .int n => return .channel n.toNat isBinary
  | _ =>
    let name ← pathArgument path
    let entry ← (Machine.entry name : Run _)
    let isDirectory := match entry with
      | .ok .directory => true
      | _ => false
    if isDirectory then refuse .isDirectory path
    let way := ways.headD 'r'
    if way = 'x' && entry.toOption.isSome then refuse .exists path
    let opened ← if way = 'r' then (Machine.openSource name : Run _)
      else (Machine.openSink name (if way = 'a' then id else fun _ => .empty) : Run _)
    match opened with
    | .error e => refuse e path
    | .ok c =>
      let n ← (freeDescriptor maxDescriptors 3 : Run Nat)
      (Machine.direct n c : Run Unit)
      return .channel n isBinary

def split (path : String) : String × String :=
  let cs := path.toList
  let name := (cs.reverse.takeWhile (· != '/')).reverse
  (String.ofList (cs.take (cs.length - name.length)), String.ofList name)

def directoryOf (path : String) : String :=
  let (before, _) := split path
  let cs := (before.toList.reverse.dropWhile (· == '/')).reverse
  if cs.isEmpty then before else String.ofList cs

def joined (path next : String) : String :=
  if next.startsWith "/" then next
  else if path.isEmpty || path.endsWith "/" then path ++ next
  else path ++ "/" ++ next

/-- A path without what follows the last dot of its name, and that. -/
def withoutSuffix (path : String) : String × String :=
  let (before, name) := split path
  let cs := name.toList
  let suffix := (cs.reverse.takeWhile (· != '.')).reverse
  let stem := cs.take (cs.length - suffix.length - 1)
  if suffix.length < cs.length && stem.any (· != '.') then
    (before ++ String.ofList stem, "." ++ String.ofList suffix)
  else (path, "")

def wholePath (path : String) : Eval String := do
  let here := (← (Machine.current : Run Process)).directory
  return (Place.ofPath path here).toPath

def function (name : String) (args : List Value) : Eval Value := do
  let v := (args[0]?).getD .nothing
  let path := toUtf8 (← pathArgument v)
  let entry ← (Machine.entry (ofUtf8 path) : Run _)
  match name with
  | "exists" | "lexists" => return .bool entry.toOption.isSome
  | "isfile" => return .bool (match entry with
      | .ok (.file _ _) | .ok (.program _) => true
      | _ => false)
  | "isdir" => return .bool (match entry with
      | .ok .directory => true
      | _ => false)
  | "getsize" =>
    match entry with
    | .ok e => return .int e.size
    | .error e => refuse e v
  | "basename" => return .text (split path).2
  | "dirname" => return .text (directoryOf path)
  | "split" => return .tuple [.text (directoryOf path), .text (split path).2]
  | "join" =>
    let rest ← args.tail.mapM fun v => do return toUtf8 (← pathArgument v)
    return .text (rest.foldl joined path)
  | "splitext" => let (stem, suffix) := withoutSuffix path; return .tuple [.text stem, .text suffix]
  | "isabs" => return .bool (path.startsWith "/")
  | _ => return .text (← wholePath path)

def functionNames : List String := [
  "exists", "lexists", "isfile", "isdir", "getsize", "basename", "dirname", "split", "join", "splitext",
  "isabs", "abspath", "realpath", "normpath"]

def placeOf (v : Value) : Eval Place := do
  match ← (Machine.locate (← pathArgument v) : Run _) with
  | .ok p => return p
  | .error e => refuse e v

def removeFile (v : Value) : Eval Value := do
  let p ← placeOf v
  match ← (Machine.entry (← pathArgument v) : Run _) with
  | .ok .directory => refuse .isDirectory v
  | .ok _ =>
    (modify fun m => { m with files := m.files.erase p } : Run Unit)
    return .nothing
  | .error e => refuse e v

def makeDirectory (v : Value) : Eval Value := do
  let p ← placeOf v
  match ← (Machine.entry (← pathArgument v) : Run _) with
  | .ok _ => refuse .exists v
  | .error _ =>
    (modify fun m => { m with files := m.files.insert p .directory } : Run Unit)
    return .nothing

def namesIn (v : Value) : Eval Value := do
  let path ← match v with
    | .nothing => pure "."
    | v => pathArgument v
  match ← (Machine.entry path : Run _) with
  | .ok .directory =>
    match ← (Machine.locate path : Run _) with
    | .ok p =>
      let m ← (get : Run Machine)
      newList ((m.files.names p).map .text)
    | .error e => refuse e v
  | .ok _ => refuse .notDirectory v
  | .error e => refuse e v

end PartitionTest.Shell.Objects.Paths
