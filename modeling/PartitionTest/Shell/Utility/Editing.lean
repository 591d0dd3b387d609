import PartitionTest.Shell.Edits.Session
import PartitionTest.Shell.Utility.Lines

/-! The program that edits lines by a script. -/
namespace PartitionTest.Shell.Utility.Editing

open Machine Edits

def usage : Usage :=
  { flags := "nrEsuzbĀāĂă", valued := "efl", optional := "i",
    long := [("quiet", 'n'), ("silent", 'n'), ("expression", 'e'), ("file", 'f'), ("in-place", 'i'),
      ("line-length", 'l'), ("null-data", 'z'), ("zero-terminated", 'z'), ("regexp-extended", 'E'),
      ("separate", 's'), ("unbuffered", 'u'), ("binary", 'b'), ("posix", 'Ā'), ("debug", 'ā'),
      ("sandbox", 'Ă'), ("follow-symlinks", 'ă')] }

def misuse (name : String) (reason : Option String) : Run Nat := do
  if let some reason := reason then say name reason
  report ("Usage: " ++ name ++ " [OPTION]... \x7bscript-only-if-no-other-script\x7d [input-file]...\n")
  return 1

def brokenStatus : Nat := 4

/-- The parts of the script that options give, or what is wrong with one. -/
def partsOf (name : String) : Nat → List (Char × String) → Run (Except Nat (List (Origin × List Char)))
  | _, [] => return .ok []
  | k, (letter, value) :: rest => do
    if letter = 'e' then return (← partsOf name (k + 1) rest).map ((.expression k, value.toList) :: ·)
    else if letter = 'f' then
      match ← contents value with
      | .ok cs =>
        let cs := if cs.getLast? == some '\n' then cs.dropLast else cs
        return (← partsOf name k rest).map ((.file value, cs) :: ·)
      | .error e => return .error (← fail name ("couldn't open file " ++ value ++ ": " ++ e.reason) brokenStatus)
    else partsOf name k rest

/-- What is read: files with their texts, the status so far, and whether all of it has an end. -/
structure Read where
  files : List (String × List Char) := []
  status : Nat := 0
  hasEnd : Bool := true
  /-- Whether reading breaks off. -/
  isBroken : Bool := false

def readAll (name : String) (paths : List String) : Run Read :=
  paths.foldlM (fun (r : Read) path => do
    if r.isBroken then return r
    match ← contentsOrSample path with
    | .ok (cs, hasEnd) => return { r with files := r.files ++ [(path, cs)], hasEnd := r.hasEnd && hasEnd }
    | .error .isDirectory => do
      say name ("read error on " ++ path ++ ": Is a directory")
      return { r with status := brokenStatus, isBroken := true }
    | .error e => do
      say name ("can't read " ++ path ++ ": " ++ e.reason)
      return { r with status := 2 }) {}

def store (path : String) (cs : List Char) : Run Unit := do
  let m ← get
  let bytes : ByteArray := ⟨(bytesOf (String.ofList cs)).toArray⟩
  match m.files.update m.process.directory (toUtf8 path) fun _ => bytes with
  | .ok (.stored files) => modify fun m => { m with files := files }
  | .ok (.passed n) =>
    let _ ← write n (String.ofList cs)
  | _ => pure ()

/-- The name of the copy of a file that is kept, by what is to stand behind its name. -/
def backupName (path suffix : String) : String :=
  let name := (path.splitOn "/").getLast?.getD path
  if suffix.contains '*' then
    let copy := suffix.replace "*" name
    if copy.contains '/' then copy
    else String.ofList (path.toList.take (path.length - name.length)) ++ copy
  else path ++ suffix

structure Task where
  name : String
  script : Edits.Script
  silent : Bool
  /-- The part of the script that flaws on the way are told with. -/
  origin : Origin
  mark : Char
  width : Nat
  /-- Whether each file has its own numbers and its own last line. -/
  apart : Bool
  sources : List (String × List Char)

/-- Runs the script on files and writes to what else is written to; the text for
the lines, the status and whether the script has ended by itself. -/
def Task.run (t : Task) (files : List (String × List Char)) : Run (List Char × Nat × Bool) := do
  let (result, s) := t.script.run t.silent {
    coming := comingOf t.mark t.apart files, sources := t.sources
    lineSources := t.sources.map fun (path, cs) =>
      let (texts, isEnded) := linesWith t.mark cs
      let last := texts.length - 1
      (path, if cs.isEmpty then [] else texts.mapIdx fun i text => { text, ended := i < last || isEnded })
    mark := t.mark, width := t.width }
  let outlets := t.script.writtenPaths.eraseDups.filter (outletTarget · != mainOutlet)
  outlets.forM fun path =>
    if path == "/dev/stderr" then report (String.ofList (s.textOf path)) else store path (s.textOf path)
  let text := s.textOf mainOutlet
  match result with
  | .ok () => return (text, 0, false)
  | .error (.status n) => return (text, n, true)
  | .error .endless => throw .late
  | .error (.flaw f) =>
    put t.name (String.ofList text)
    say t.name (Flaw.message ⟨f, t.origin, 0⟩)
    throw (.exit 1)

def Task.edit (t : Task) (inPlace : Option String) (paths : List String) : Run Nat := do
  match inPlace with
  | some suffix =>
    paths.foldlM (fun status path => do
      let r ← readAll t.name [path]
      match r.files with
      | [(_, cs)] =>
        let (text, own, _) ← t.run [(path, cs)]
        unless suffix.isEmpty do store (backupName path suffix) cs
        store path text
        return if own != 0 then own else status
      | _ =>
        return r.status) 0
  | none =>
    let r ← readAll t.name paths
    let (text, status, isDone) ← t.run r.files
    if !r.hasEnd && !isDone then
      if text.isEmpty then throw .late
      putForever t.name (String.ofList text)
    put t.name (String.ofList text)
    return if isDone && status != 0 then status else r.status

def sed : Program := fun name args => do
  match usage.read (args.length + 1) args with
  | .error reason => misuse name (some reason)
  | .ok o =>
    let given := o.given.filter fun g => g.1 = 'e' || g.1 = 'f'
    let isOwn := !given.isEmpty
    if !isOwn && o.operands.isEmpty then misuse name none
    else match ← partsOf name 1 (if isOwn then given else [('e', o.operands.headD "")]) with
    | .error status => return status
    | .ok parts =>
      let zeroEnds := o.has 'z'
      match Edits.Script.read (o.has 'E' || o.has 'r') zeroEnds parts with
      | .error f => fail name f.message 1
      | .ok script =>
        match script.missingLabel? with
        | some label => fail name ("can't find label for jump to " ++ Fault.quoted label) brokenStatus
        | none =>
          let paths := if isOwn then o.operands else o.operands.drop 1
          let inPlace := o.value? 'i'
          if inPlace.isSome && paths.isEmpty then fail name "no input files" brokenStatus
          else
            let sources ← script.readPaths.eraseDups.mapM fun path => do
              return (path, ((← contents (if path == "/dev/stdin" then "-" else path)).toOption).getD [])
            let width := match o.value? 'l' with
              | some s => Format.naturalOf (s.toList.takeWhile Char.isDigit)
              | none => 70
            let task : Task := {
              name, script, silent := o.has 'n' || script.silent
              origin := (parts.getLast?.map (·.1)).getD (.expression 1)
              mark := if zeroEnds then Char.ofNat 0 else '\n'
              width, apart := o.has 's' || inPlace.isSome, sources }
            task.edit inPlace (if paths.isEmpty then ["-"] else paths)

end PartitionTest.Shell.Utility.Editing
