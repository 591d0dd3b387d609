import PartitionTest.Shell.Utility.Directory

/-! Programs that work on the names, the sizes and the properties of files. -/
namespace PartitionTest.Shell.Utility.Naming

open Machine Quotation

inductive Presence where
  /-- All but the last name. -/
  | above
  | all
  | nothing
deriving DecidableEq, Repr, Inhabited

def placeOf (presence : Presence) (path : String) : Run (Except FileError Place) := do
  match presence with
  | .nothing => return .ok (Place.ofPath (toUtf8 path) (← current).directory)
  | .above => locate (withoutSlashes path)
  | .all =>
    match ← entry path with
    | .ok _ => locate path
    | .error e => return .error e

def relative (base target : Place) : String :=
  let b := base.reverse
  let t := target.reverse
  let shared := ((b.zip t).takeWhile fun (x, y) => x == y).length
  let names := List.replicate (b.length - shared) ".." ++ t.drop shared
  if names.isEmpty then "." else String.intercalate "/" names

def readlink : Program :=
  withOptions { flags := "femnqsvz", long := [("canonicalize", 'f'), ("canonicalize-existing", 'e'),
    ("canonicalize-missing", 'm'), ("no-newline", 'n'), ("zero", 'z')] } 1 fun name o => do
    if o.operands.isEmpty then misused name "missing operand" 1
    else
      let presence : Option Presence := (o.last? ['f', 'e', 'm']).map fun c =>
        if c = 'f' then .above else if c = 'e' then .all else .nothing
      let mark := if o.has 'z' then String.singleton (Char.ofNat 0)
        else if o.has 'n' && o.operands.length = 1 then "" else "\n"
      o.operands.foldlM (fun status path => do
        match presence with
        | none =>
          if o.has 'v' then
            let reason := match ← entry path with
              | .ok _ => "Invalid argument"
              | .error e => e.reason
            say name (path ++ ": " ++ reason)
          return 1
        | some presence =>
          match ← placeOf presence path with
          | .ok p =>
            put name (ofUtf8 p.toPath ++ mark)
            return status
          | .error e =>
            if o.has 'v' then say name (path ++ ": " ++ e.reason)
            return 1) 0

def realpath : Program :=
  withOptions { flags := "emsqzLP", valued := "RB", long := [("canonicalize-existing", 'e'),
    ("canonicalize-missing", 'm'), ("strip", 's'), ("no-symlinks", 's'), ("quiet", 'q'), ("zero", 'z'),
    ("relative-to", 'R'), ("relative-base", 'B')] } 1 fun name o => do
    if o.operands.isEmpty then misused name "missing operand" 1
    else
      let presence := match o.last? ['e', 'm'] with
        | some 'e' => Presence.all
        | some _ => .nothing
        | none => .above
      let mark := if o.has 'z' then String.singleton (Char.ofNat 0) else "\n"
      let base ← (o.value? 'R').mapM (placeOf presence)
      o.operands.foldlM (fun status path => do
        match ← placeOf presence path with
        | .ok p =>
          let shown := match base with
            | some (.ok b) => relative b p
            | _ => p.toPath
          put name (ofUtf8 shown ++ mark)
          return status
        | .error e =>
          unless o.has 'q' do say name (path ++ ": " ++ e.reason)
          return 1) 0

def unlink : Program :=
  withOptions {} 1 fun name o => do
    match o.operands with
    | [] => misused name "missing operand" 1
    | _ :: extra :: _ => misused name ("extra operand " ++ quoted extra) 1
    | [path] =>
      let refused (e : FileError) := fail name ("cannot unlink " ++ shellQuoted path ++ ": " ++ e.reason) 1
      match ← entry path, ← locate path with
      | .ok .directory, _ => refused .isDirectory
      | .ok _, .ok p =>
        alter fun t => t.erase p
        return 0
      | .error e, _ | _, .error e => refused e

/-- Gives the contents of a file a second name; what is wrong, if it cannot be done. -/
def alsoNamed (source target : String) : Run (Option FileError) := do
  match ← entry source with
  | .error e => return some e
  | .ok .directory => return some .permissionDenied
  | .ok e =>
    match ← entry target, ← locate target with
    | .ok _, _ => return some .exists
    | .error _, .ok p =>
      alter fun t => t.insert p e
      return none
    | .error _, .error e => return some e

def link : Program :=
  withOptions {} 1 fun name o => do
    match o.operands with
    | [] => misused name "missing operand" 1
    | [path] => misused name ("missing operand after " ++ quoted path) 1
    | _ :: _ :: extra :: _ => misused name ("extra operand " ++ quoted extra) 1
    | [source, target] =>
      match ← alsoNamed source target with
      | none => return 0
      | some e =>
        fail name ("cannot create link " ++ shellQuoted target ++ " to " ++ shellQuoted source ++ ": " ++
          e.reason) 1

def unit? (suffix : String) : Option Nat :=
  let letters := "KMGTPEZYRQ".toList
  match suffix.toList with
  | [] => some 1
  | c :: rest =>
    (letters.findIdx? (· == if c = 'k' || c = 'm' then c.toUpper else c)).bind fun i =>
      match rest with
      | [] | ['i', 'B'] => some (Nat.pow 1024 (i + 1))
      | ['B'] => some (Nat.pow 1000 (i + 1))
      | _ => none

def newSize? (text : String) : Option (Nat → Nat) :=
  let (mark, cs) : Option Char × List Char := match text.toList with
    | c :: cs => if "+-<>/%".toList.contains c then (some c, cs) else (none, c :: cs)
    | [] => (none, [])
  let ds := cs.takeWhile Char.isDigit
  match if ds.isEmpty then none else unit? (String.ofList (cs.drop ds.length)) with
  | none => none
  | some factor =>
    let n := Format.naturalOf ds * factor
    match mark with
    | none => some fun _ => n
    | some '+' => some (· + n)
    | some '-' => some (· - n)
    | some '<' => some fun old => Nat.min old n
    | some '>' => some fun old => Nat.max old n
    | some '/' => if n = 0 then none else some fun old => old / n * n
    | _ => if n = 0 then none else some fun old => (old + n - 1) / n * n

def truncate : Program :=
  withOptions { flags := "co", valued := "sr", long := [("no-create", 'c'), ("io-blocks", 'o'), ("size", 's'),
    ("reference", 'r')] } 1 fun name o => do
    let resize : Except (Run Nat) (Nat → Nat) ← match o.value? 's', o.value? 'r' with
      | none, none => pure (.error (misused name "you must specify either '--size' or '--reference'" 1))
      | some text, _ => pure (match newSize? text with
          | some f => .ok f
          | none => .error (fail name ("Invalid number: " ++ quoted text) 1))
      | none, some path => do
        match ← bytes path with
        | .ok b => pure (.ok fun _ => b.size)
        | .error e => pure (.error (fail name ("cannot stat " ++ shellQuoted path ++ ": " ++ e.reason) 1))
    match resize with
    | .error told => told
    | .ok f =>
      if o.operands.isEmpty then misused name "missing file operand" 1
      else eachOperand name o.operands fun path => do
        let refused (e : FileError) := some ("cannot open " ++ shellQuoted path ++ " for writing: " ++ e.reason)
        match ← entry path with
        | .error .notFound => if o.has 'c' then return none
        | _ => pure ()
        let m ← get
        let cut (b : ByteArray) : ByteArray :=
          let size := f b.size
          if size ≤ b.size then b.extract 0 size
          else b ++ ⟨(List.replicate (size - b.size) 0).toArray⟩
        match m.files.update m.process.directory (toUtf8 path) cut m.process.newMode with
        | .ok (.stored t) =>
          alter fun _ => t
          return none
        | .ok _ => return none
        | .error e => return refused e

def modeLetters (e : Entry) : String :=
  let kind := match e with
    | .directory => "d"
    | .device _ => "c"
    | _ => "-"
  kind ++ Mode.letters (modeOf e)

def kindName : Entry → String
  | .directory => "directory"
  | .device _ => "character special file"
  | e => if e.size = 0 then "regular empty file" else "regular file"

def property (path : String) (e : Entry) : Char → Option String
  | 'n' => some path
  | 'N' => some (shellQuoted path)
  | 's' => some (toString e.size)
  | 'F' => some (kindName e)
  | 'a' => some (Mode.octal 1 (modeOf e))
  | 'A' => some (modeLetters e)
  | 'U' | 'G' => some "root"
  | 'u' | 'g' => some "0"
  | 'h' => some (match e with
      | .directory => "2"
      | _ => "1")
  | 'b' => some (toString ((e.size + 4095) / 4096 * 8))
  | 'B' => some "512"
  | 'o' => some "4096"
  | _ => none

def filled (path : String) (e : Entry) : List Char → List Char
  | '%' :: '%' :: rest => '%' :: filled path e rest
  | '%' :: c :: rest => ((property path e c).getD ("?")).toList ++ filled path e rest
  | c :: rest => c :: filled path e rest
  | [] => []

def stat : Program :=
  withOptions { flags := "Lft", valued := "cp", long := [("format", 'c'), ("printf", 'p'), ("dereference", 'L')] } 1
    fun name o => do
    if o.operands.isEmpty then misused name "missing operand" 1
    else eachOperand name o.operands fun path => do
      match ← entry path with
      | .error e => return some ("cannot statx " ++ shellQuoted path ++ ": " ++ e.reason)
      | .ok e =>
        let text := match o.value? 'p', o.value? 'c' with
          | some layout, _ => filled path e (Format.plainText .printf layout).1.toList
          | none, some layout => filled path e layout.toList ++ ['\n']
          | none, none => ("  File: " ++ path ++ "\n").toList
        put name (String.ofList text)
        return none

def ownership (what : String) : Program :=
  withOptions { flags := "Rcfvh" } 1 fun name o => do
    match o.operands with
    | [] => misused name "missing operand" 1
    | [owner] => misused name ("missing operand after " ++ quoted owner) 1
    | owner :: paths =>
      let names := (Text.split (fun c => c = ':' || c = '.') owner.toList).map String.ofList
      match names.find? fun s => !(["", "root", "0"].contains s) with
      | some bad => fail name ("invalid " ++ what ++ ": " ++ quoted bad) 1
      | none => eachOperand name paths fun path => do
        match ← entry path with
        | .ok _ => return none
        | .error e => return some ("cannot access " ++ shellQuoted path ++ ": " ++ e.reason)

end PartitionTest.Shell.Utility.Naming
