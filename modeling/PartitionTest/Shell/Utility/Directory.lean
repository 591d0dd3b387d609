import PartitionTest.Shell.Utility.Lines

/-! Programs that make, show and remove files and directories. -/
namespace PartitionTest.Shell.Utility

open Machine Quotation

def withoutSlashes (path : String) : String :=
  let cs := (path.toList.reverse.dropWhile (· == '/')).reverse
  if cs.isEmpty && !path.isEmpty then "/" else String.ofList cs

def lastName (path : String) : String :=
  let bare := withoutSlashes path
  if bare == "/" then bare
  else String.ofList (bare.toList.reverse.takeWhile (· != '/')).reverse

def basename : Program :=
  withOptions { flags := "az", valued := "s", strict := true } 1 fun name o => do
    let without (suffix text : String) : String :=
      if suffix != text && text.endsWith suffix then
        String.ofList (text.toList.take (text.length - suffix.length)) else text
    let all := o.has 'a' || o.has 's'
    match o.operands with
    | [] => misused name "missing operand" 1
    | path :: rest =>
      if all then
        (path :: rest).forM fun p => put name (without ((o.value? 's').getD "") (lastName p) ++ "\n")
        return 0
      else match rest with
      | _ :: extra :: _ => misused name ("extra operand " ++ quoted extra) 1
      | _ =>
        put name (without (rest.headD "") (lastName path) ++ "\n")
        return 0

def dirname : Program :=
  withOptions { flags := "z" } 1 fun name o => do
    if o.operands.isEmpty then misused name "missing operand" 1
    else
      o.operands.forM fun path => do
        let bare := (withoutSlashes path).toList
        let above := (bare.reverse.dropWhile (· != '/')).reverse
        let text := if above.isEmpty then (if path.startsWith "/" then "/" else ".")
          else withoutSlashes (String.ofList above)
        put name (text ++ "\n")
      return 0

def pwd : Program := fun name _ => do
  put name (ofUtf8 (← current).directory.toPath ++ "\n")
  return 0

/-- Does something with each operand; what cannot be done is told. -/
def eachOperand (name : String) (operands : List String)
    (act : String → Run (Option String)) : Run Nat := do
  if operands.isEmpty then misused name "missing operand" 1
  else operands.foldlM (fun status path => do
    match ← act path with
    | none => return status
    | some reason => fail name reason 1) 0

def alter (f : FileTree → FileTree) : Run Unit := modify fun m => { m with files := f m.files }

def ancestors (p : Place) : List Place :=
  (List.range (p.length + 1)).map fun i => p.drop (p.length - i)

def mkdir : Program :=
  withOptions { flags := "pv", valued := "m", long := [("parents", 'p')] } 1 fun name o =>
    eachOperand name o.operands fun path => do
      let refused (e : FileError) := some ("cannot create directory " ++ quoted path ++ ": " ++ e.reason)
      let m ← get
      if o.has 'p' then
        let p := Place.ofPath (toUtf8 path) m.process.directory
        match (ancestors p).find? fun q => match m.files.entry? q with
          | none | some .directory => false
          | _ => true with
        | some q => return refused (if q == p then .exists else .notDirectory)
        | none =>
          alter fun t => (ancestors p).foldl (fun t q =>
            if (t.entry? q).isSome then t else t.insert q .directory) t
          return none
      else
        match ← locate (withoutSlashes path) with
        | .error e => return refused e
        | .ok p =>
          if (m.files.entry? p).isSome then return refused .exists
          alter fun t => t.insert p .directory
          return none

def rmdir : Program :=
  withOptions { flags := "pv" } 1 fun name o =>
    eachOperand name o.operands fun path => do
      let refused (e : FileError) := some ("failed to remove " ++ shellQuoted path ++ ": " ++ e.reason)
      let m ← get
      match ← entry path, ← locate path with
      | .error e, _ | _, .error e => return refused e
      | .ok .directory, .ok p =>
        if !(m.files.names p).isEmpty then return refused .notEmpty
        alter fun t => t.erase p
        return none
      | .ok _, _ => return refused .notDirectory

def rm : Program :=
  withOptions { flags := "rRfdiv", long := [("recursive", 'r'), ("force", 'f')] } 1 fun name o =>
    if o.operands.isEmpty && o.has 'f' then return 0
    else eachOperand name o.operands fun path => do
      let refused (e : FileError) := some ("cannot remove " ++ shellQuoted path ++ ": " ++ e.reason)
      match ← entry path, ← locate path with
      | .error e, _ | _, .error e =>
        return if o.has 'f' && (e = .notFound || e = .notDirectory) then none else refused e
      | .ok .directory, .ok p =>
        if o.has 'r' || o.has 'R' then
          alter fun t => t.erase p
          return none
        else return refused .isDirectory
      | .ok _, .ok p =>
        alter fun t => t.erase p
        return none

def touch : Program :=
  withOptions { flags := "acmh", valued := "dtr" } 1 fun name o => do
    if o.operands.isEmpty then misused name "missing file operand" 1
    else eachOperand name o.operands fun path => do
      match ← entry path with
      | .ok _ => return none
      | .error .notFound =>
        if o.has 'c' then return none
        let m ← get
        match m.files.write m.process.directory (toUtf8 path) .empty m.process.newMode with
        | .ok (.stored t) =>
          alter fun _ => t
          return none
        | .ok _ => return none
        | .error e => return some ("cannot touch " ++ shellQuoted path ++ ": " ++ e.reason)
      | .error e => return some ("cannot touch " ++ shellQuoted path ++ ": " ++ e.reason)

def modeOf : Entry → Mode
  | .directory | .program _ => Mode.usualRunnable
  | .file _ mode => mode
  | .device _ => Mode.fresh

def shownMode (m : Mode) : String := Mode.octal 4 m ++ " (" ++ Mode.letters m ++ ")"

/-- Changes the modes of files, and tells of it if that is asked for. -/
def changeModes (name : String) (o : Options) (changes : List Mode.Change) (paths : List String) : Run Nat :=
  eachOperand name paths fun path => do
    let mask := (← current).mask
    match ← entry path, ← locate path with
    | .ok e, .ok p =>
      let before := modeOf e
      let after := Mode.changed mask (match e with
        | .directory => true
        | _ => false) changes before
      if let .file contents _ := e then
        alter fun t => t.insert p (.file contents after)
      if o.has 'v' || (o.has 'c' && before != after) then
        put name ("mode of " ++ shellQuoted path ++ (if before = after then " retained as " ++ shownMode before
          else " changed from " ++ shownMode before ++ " to " ++ shownMode after) ++ "\n")
      return none
    | .error e, _ | _, .error e =>
      return if o.has 'f' then none else some ("cannot access " ++ shellQuoted path ++ ": " ++ e.reason)

/-- Modes may begin with a dash, so such an argument is no option. -/
def chmod : Program := fun name args => do
  let isMode (arg : String) : Bool := match arg.toList with
    | '-' :: c :: _ => "rwxXstugo".toList.contains c
    | _ => false
  let (modes, args) := match args.find? isMode with
    | some mode => ([mode], args.erase mode)
    | none => ([], args)
  withOptions { flags := "Rvcf", long := [("recursive", 'R'), ("verbose", 'v'), ("changes", 'c'),
    ("silent", 'f'), ("quiet", 'f'), ("reference", 'Ā')], valued := "Ā" } 1 (fun name o => do
    match o.value? 'Ā', modes ++ o.operands with
    | some path, paths =>
      match ← entry path with
      | .ok e => changeModes name o [⟨0o7777, .set, .bits (modeOf e)⟩] paths
      | .error e => fail name ("failed to get attributes of " ++ shellQuoted path ++ ": " ++ e.reason) 1
    | none, [] => misused name "missing operand" 1
    | none, [mode] => misused name ("missing operand after " ++ quoted mode) 1
    | none, mode :: paths =>
      match Mode.changes? mode with
      | some changes => changeModes name o changes paths
      | none => misused name ("invalid mode: " ++ quoted mode) 1) name args

def copyTree (t : FileTree) (source target : Place) : FileTree :=
  let found := t.entries.filter fun e => source.isSuffixOf e.1
  let t := match t.entry? source with
    | some e => t.insert target e
    | none => t
  found.foldl (fun t (p, e) => t.insert (p.take (p.length - source.length) ++ target) e) t

/-- Where something goes: into a directory under its own name, or to the path itself. -/
def destination (path : String) (target : String) : Run (Except FileError (Place × String)) := do
  match ← entry target with
  | .ok .directory =>
    match ← locate target with
    | .ok p => return .ok (p.child (toUtf8 (lastName path)),
        withoutSlashes target ++ "/" ++ lastName path)
    | .error e => return .error e
  | _ =>
    match ← locate target with
    | .ok p =>
      match (← get).files.entry? (p.drop 1) with
      | some .directory => return .ok (p, target)
      | some _ => return .error .notDirectory
      | none => return .error .notFound
    | .error e => return .error e

def missingOperand (name : String) (operands : List String) : Run Nat := do
  match operands with
  | [path] =>
    say name ("missing destination file operand after " ++ quoted path)
    report ("Try '" ++ name ++ " --help' for more information.\n")
    return 1
  | _ => misused name "missing file operand" 1

def carry (name : String) (operands : List String)
    (act : String → Entry → Place → Place → Run (Option String)) : Run Nat := do
  match operands.reverse with
  | target :: rest@(_ :: _) =>
    let isDirectory := match ← entry target with
      | .ok .directory => true
      | _ => false
    if 1 < rest.length && !isDirectory then
      let e := match ← entry target with
        | .error e => e
        | .ok _ => .notDirectory
      fail name ("target " ++ shellQuoted target ++ ": " ++ e.reason) 1
    else eachOperand name rest.reverse fun path => do
      match ← entry path, ← locate path with
      | .error e, _ | _, .error e => return some ("cannot stat " ++ shellQuoted path ++ ": " ++ e.reason)
      | .ok e, .ok source =>
        match ← destination path target with
        | .error e => return some ("cannot create regular file " ++ shellQuoted target ++ ": " ++ e.reason)
        | .ok (p, shown) =>
          if p == source then
            return some (shellQuoted path ++ " and " ++ shellQuoted shown ++ " are the same file")
          else act path e source p
  | _ => missingOperand name operands

def cp : Program :=
  withOptions { flags := "rRapfv", long := [("recursive", 'r')] } 1 fun name o =>
    carry name o.operands fun path e source target => do
      let m ← get
      match e, e.bytes, m.files.entry? target with
      | .directory, _, _ =>
        if o.has 'r' || o.has 'R' || o.has 'a' then
          alter fun t => copyTree t source target
          return none
        else return some ("-r not specified; omitting directory " ++ shellQuoted path)
      | _, .ok bytes, some (.file _ mode) =>
        alter fun t => t.insert target (.file bytes mode)
        return none
      | _, .ok bytes, none =>
        alter fun t => t.insert target (.file bytes ((modeOf e).without m.process.mask))
        return none
      | _, .ok bytes, some (.device (.stream n)) =>
        let _ ← write n (ofBytes bytes.toList)
        return none
      | _, .ok _, some (.device .full) =>
        return some ("error writing " ++ shellQuoted (toUtf8 (ofUtf8 target.toPath)) ++ ": " ++ FileError.noSpace.reason)
      | _, _, _ => return none

def mv : Program :=
  withOptions { flags := "fnv", long := [("force", 'f')] } 1 fun name o =>
    carry name o.operands fun _ _ source target => do
      alter fun t => (copyTree (t.erase target) source target).erase source
      return none

def mktemp : Program :=
  withOptions { flags := "duq", valued := "p" } 1 fun name o => do
    let n ← newPid
    let path := "/tmp/tmp." ++ String.ofList ((List.range 10).map fun i =>
      Char.ofNat ('a'.toNat + (n * (i + 3) + i * i) % 26))
    let p := Place.ofPath path
    alter fun t => t.insert p (if o.has 'd' then .directory else .file .empty 0o600)
    put name (path ++ "\n")
    return 0

def ls : Program :=
  withOptions { flags := "1aAdrRlFhtSUC", valued := "", long := [("all", 'a'), ("almost-all", 'A'),
    ("reverse", 'r')] } 2 fun name o => do
    let paths := if o.operands.isEmpty then ["."] else o.operands
    let found ← paths.mapM fun path => do return (path, ← entry path)
    let ordered (names : List String) : List String :=
      let sorted := names.mergeSort
      if o.has 'r' then sorted.reverse else sorted
    let missing := found.filterMap fun (path, e) => match e with
      | .error e => some (path, e)
      | .ok _ => none
    missing.forM fun (path, e) => say name ("cannot access " ++ shellQuoted path ++ ": " ++ e.reason)
    let isDirectory (e : Except FileError Entry) : Bool := match e with
      | .ok .directory => !o.has 'd'
      | _ => false
    let files := found.filter fun (_, e) => e.toOption.isSome && !isDirectory e
    let directories := found.filter fun (_, e) => isDirectory e
    put name (String.join ((ordered (files.map (·.1))).map (· ++ "\n")))
    let titled := 1 < paths.length
    (ordered (directories.map (·.1))).foldlM (fun first path => do
      let m ← get
      let place := Place.ofPath (toUtf8 path) m.process.directory
      let names := (m.files.names place).map ofUtf8
      let names := if o.has 'a' then "." :: ".." :: names
        else if o.has 'A' then names else names.filter fun n => !n.startsWith "."
      if titled then put name ((if first then "" else "\n") ++ path ++ ":\n")
      put name (String.join ((ordered names).map (· ++ "\n")))
      return false) files.isEmpty >>= fun _ => pure ()
    return if missing.isEmpty then 0 else 2

end PartitionTest.Shell.Utility
