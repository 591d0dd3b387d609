import PartitionTest.Shell.Start
import PartitionTest.Shell.Utility.Basic

/-! Programs that tell of the system, the user and the variables. -/
namespace PartitionTest.Shell.Utility

open Machine Quotation

def surroundings : Run (List String) := do
  let p ← current
  return (p.bindings.filter fun v => p.exported.contains v.1).map fun (name, value) =>
    name ++ "=" ++ value

def printenv : Program := fun name args => do
  if args.isEmpty then
    put name (String.join ((← surroundings).map (· ++ "\n")))
    return 0
  else
    let p ← current
    args.foldlM (fun status arg => do
      match if p.exported.contains arg then p.bindings.lookup arg else none with
      | some value =>
        put name (value ++ "\n")
        return status
      | none => return 1) 0

def systemParts : List (Char × String) :=
  [('s', "Linux"), ('m', "x86_64"), ('p', "x86_64"), ('i', "x86_64"), ('o', "GNU/Linux")]

def alone (usage : Usage) (run : String → Options → Run Nat) : Program :=
  withOptions usage 1 fun name o =>
    match o.operands with
    | extra :: _ => misused name ("extra operand " ++ quoted extra) 1
    | [] => run name o

def uname : Program :=
  alone { flags := "smpio", long := [("kernel-name", 's'), ("machine", 'm'), ("processor", 'p'),
    ("hardware-platform", 'i'), ("operating-system", 'o')] } fun name o => do
    let asked := systemParts.filter fun (letter, _) => o.has letter || (letter = 's' && o.given.isEmpty)
    put name (String.intercalate " " (asked.map (·.2)) ++ "\n")
    return 0

def arch : Program :=
  alone {} fun name _ => do
    put name "x86_64\n"
    return 0

def user : String := "root"

def whoami : Program :=
  alone {} fun name _ => do
    put name (user ++ "\n")
    return 0

def logname : Program :=
  alone {} fun name _ => fail name "no login name" 1

def identity : Program :=
  withOptions { flags := "ugGnrz", long := [("user", 'u'), ("group", 'g'), ("groups", 'G'),
    ("name", 'n'), ("real", 'r')] } 1 fun name o => do
    let choice := o.given.filter fun g => "ugG".toList.contains g.1
    match o.operands.find? fun u => u != user && u != "0" with
    | some unknown => fail name (quoted unknown ++ ": no such user") 1
    | none =>
      if 1 < (choice.map (·.1)).eraseDups.length then
        fail name "cannot print \"only\" of more than one choice" 1
      else if choice.isEmpty && (o.has 'n' || o.has 'r') then
        fail name "cannot print only names or real IDs in default format" 1
      else
        put name ((if choice.isEmpty then "uid=0(root) gid=0(root) groups=0(root)"
          else if o.has 'n' then user else "0") ++ "\n")
        return 0

def tty : Program :=
  alone { flags := "s", long := [("silent", 's'), ("quiet", 's')] } fun name o => do
    unless o.has 's' do put name "not a tty\n"
    return 1

def which : Program := fun name args => do
  let u : Usage := { flags := "as", strict := true }
  match u.read (args.length + 1) args with
  | .error _ =>
    let bad := (args.headD "-").toList.drop 1
    report ("Illegal option -" ++ String.ofList (bad.take 1) ++ "\n")
    put name "Usage: /usr/bin/which [-as] args\n"
    return 2
  | .ok o =>
    let m ← get
    let path := (m.process.bindings.lookup "PATH").getD ""
    let s : Start.Scope := ⟨m.files, m.process.directory, Start.searchPath (toUtf8 path)⟩
    let found (program : String) : List String :=
      let all := (Start.candidates s (toUtf8 program)).filter fun path =>
        match s.files.lookupFrom s.directory path with
        | .ok e => Start.isRunnable e
        | .error _ => false
      if o.has 'a' then all else all.take 1
    let all := o.operands.map found
    unless o.has 's' do
      put name (String.join (all.flatten.map fun path => ofUtf8 path ++ "\n"))
    return if all.isEmpty || all.any List.isEmpty then 1 else 0

end PartitionTest.Shell.Utility
