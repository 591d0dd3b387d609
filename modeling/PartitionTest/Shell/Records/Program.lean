import PartitionTest.Shell.Records.Evaluation
import PartitionTest.Shell.Records.Grammar
import PartitionTest.Shell.Utility.Surroundings

/-! The program that runs rules for the records of its input. -/
namespace PartitionTest.Shell.Records.Program

open Machine

structure Invocation where
  separator : Option String := none
  assignments : List String := []
  /-- Files that hold the rules. -/
  files : List String := []
  wishes : List String := []
  /-- The rules, unless they stand in files, and the names of what is read. -/
  rest : List String := []
deriving Inhabited

def invocation : Nat → List String → Invocation → Except String Invocation
  | 0, rest, i => .ok { i with rest := rest }
  | n + 1, args, i =>
    match args with
    | [] | "-" :: _ => .ok i
    | "--" :: rest => .ok { i with rest := rest }
    | arg :: rest =>
      match arg.toList with
      | '-' :: letter :: attached =>
        let keep (value : String) : Option Invocation := match letter with
          | 'F' => some { i with separator := some value }
          | 'v' => some { i with assignments := i.assignments ++ [value] }
          | 'f' => some { i with files := i.files ++ [value] }
          | 'W' => some { i with wishes := i.wishes ++ [value] }
          | _ => none
        if ["--help", "--usage", "--version"].contains arg then
          invocation n rest { i with wishes := i.wishes ++ [String.ofList (arg.toList.drop 2)] }
        else match attached, rest with
        | [], value :: rest =>
          match keep value with
          | some i => invocation n rest i
          | none => .error ("not an option: " ++ arg)
        | [], [] =>
          match keep "" with
          | some _ => .error ("option " ++ arg ++ " lacks argument")
          | none => .error ("not an option: " ++ arg)
        | _, _ =>
          match keep (String.ofList attached) with
          | some i => invocation n rest i
          | none => .error ("not an option: " ++ arg)
      | _ => .ok { i with rest := args }

def usage : String := String.join ([
  "Usage: mawk [Options] [Program] [file ...]",
  "",
  "Program:",
  "    The -f option value is the name of a file containing program text.",
  "    If no -f option is given, a \"--\" ends option processing; the following",
  "    parameters are the program text.",
  "",
  "Options:",
  "    -f program-file  Program  text is read from file instead of from the",
  "                     command-line.  Multiple -f options are accepted.",
  "    -F value         sets the field separator, FS, to value.",
  "    -v var=value     assigns value to program variable var.",
  "    --               unambiguous end of options.",
  "",
  "    Implementation-specific options are prefixed with \"-W\".  They can be",
  "    abbreviated:",
  "",
  "    -W version       show version information and exit.",
  "    -W dump          show assembler-like listing of program and exit.",
  "    -W help          show this message and exit.",
  "    -W interactive   set unbuffered output, line-buffered input.",
  "    -W exec file     use file as program as well as last option.",
  "    -W posix_space   do not consider \"\\n\" a space.",
  "    -W random=number set initial random seed.",
  "    -W sprintf=number adjust size of sprintf buffer.",
  "    -W usage         show this message and exit."].map (· ++ "\n"))

def version : String :=
  "mawk 1.3.4 20200120\n\n" ++
  "random-funcs:       srandom/random\nregex-funcs:        internal\n" ++
  "compiled limits:\nsprintf buffer      8192\nmaximum-integer     2147483647\n"

def wishes : List String :=
  ["version", "dump", "help", "interactive", "exec", "posix_space", "random", "sprintf", "usage"]

def wish? (s : String) : Option String :=
  let word := String.ofList (s.toList.takeWhile (· != '='))
  wishes.find? fun w => !word.isEmpty && w.startsWith word

def array (entries : List ((String ⊕ Int) × Value)) : Table :=
  entries.foldl (fun t (key, v) => (t.touch key).set key v) {}

def scalars (count : Nat) : List (String × Value) := [
  ("NF", .number 0.0), ("NR", .number 0.0), ("FNR", .number 0.0), ("FS", .text " "), ("OFS", .text " "),
  ("ORS", .text "\n"), ("RS", .text "\n"), ("SUBSEP", .text "\x1c"), ("CONVFMT", .text "%.6g"),
  ("OFMT", .text "%.6g"), ("RSTART", .number 0.0), ("RLENGTH", .number (-1.0)), ("FILENAME", .text ""),
  ("ARGC", .number (Number.ofInt count))]

def memory (name : String) (args : List String) : Run Memory := do
  let p ← current
  let exported := (p.bindings.filter fun v => p.exported.contains v.1).map fun (name, value) =>
    ((Sum.inl name : String ⊕ Int), Value.input value)
  let given := (name :: args).mapIdx fun i arg => ((Sum.inr i : String ⊕ Int), Value.input arg)
  return {
    name := name
    scalars := (scalars given.length).foldl (fun all (key, v) => all.insert key v) {}
    tables := #[array exported, array given]
    arrays := [("ENVIRON", 0), ("ARGV", 1)] }

/-- Assigns what the options ask for, or finds what is no assignment. -/
def assignAll : List String → Eval (Option String)
  | [] => return none
  | given :: rest => do
    match Streams.assignment? given with
    | none => return some given
    | some (name, value) =>
      Memory.assign name (.input value)
      assignAll rest

def complain (name message : String) : Run Unit := Utility.say name message

def tell (m : Memory) : Leave → Run Unit
  | .fault "" _ => throw (.killed Signal.segmentation)
  | .fault message false => Utility.say m.name message
  | .fault message true => do
    let shown (name : String) : String := Printing.text "%.6g" ((m.scalars[name]?).getD .nothing)
    Utility.say m.name ("run time error: " ++ message ++ "\n\tFILENAME=\"" ++ shown "FILENAME" ++
      "\" FNR=" ++ shown "FNR" ++ " NR=" ++ shown "NR")
  | _ => pure ()

def faultStatus : Nat := 2

def run (start : Starter) (s : Script) (i : Invocation) (m : Memory) : Run Nat := do
  let body : Eval (Option Int) := do
    if let some sep := i.separator then
      Memory.setScalar "FS" (.text (String.ofList (Tokens.unescaped (sep.length + 1) sep.toList)))
    if let some bad ← assignAll i.assignments then
      Utility.say m.name ("improper assignment: -v " ++ bad)
      return none
    return some (← Evaluation.program s start)
  let (result, m) ← body.run.run m
  match result with
  | .ok none => return faultStatus
  | .ok (some status) =>
    let (closed, m) ← (Streams.closeAll start).run.run m
    match closed with
    | .ok _ => return (status % 256).toNat
    | .error l =>
      tell m l
      return faultStatus
  | .error l =>
    tell m l
    let _ ← (Streams.closeAll start).run.run m
    return faultStatus

def sourcesOf (name : String) : List String → Run (List (String × String))
  | [] => return []
  | path :: rest => do
    let cs ← match ← Utility.openInput path with
      | .ok c => readAll c
      | .error e => pure (.error e)
    match cs with
    | .ok cs =>
      return (path, String.ofList cs) :: (← sourcesOf name rest)
    | .error .isDirectory =>
      Utility.say name "read error (Is a directory)"
      throw (.exit faultStatus)
    | .error e =>
      Utility.say name ("cannot open \"" ++ path ++ "\" (" ++ e.reason ++ ")")
      throw (.exit faultStatus)

def runSources (start : Starter) (name : String) (i : Invocation) (sources : List (String × String))
    (args : List String) : Run Nat := do
  match Reader.script sources with
  | .error notes =>
    notes.forM fun n => Utility.say name n.shown
    return faultStatus
  | .ok s => run start s i (← memory name args)

def lastName (path : String) : String := ((path.splitOn "/").getLast?).getD path

def awk (start : Starter) : Utility.Program := fun path args => do
  let name := lastName path
  match invocation (args.length + 1) args {} with
  | .error reason =>
    Utility.say name reason
    return faultStatus
  | .ok i =>
    (i.wishes.filter fun w => (wish? w).isNone).forM fun w =>
      Utility.say name ("vacuous option: -W \"" ++ w ++ "\"")
    match i.wishes.filterMap wish? |>.find? fun w => ["help", "usage", "version"].contains w with
    | some w =>
      if w == "version" then Utility.put name version else report usage
      return 0
    | none =>
      if args.isEmpty then
        report usage
        return 0
      else if !i.files.isEmpty then
        runSources start name i (← sourcesOf name i.files) i.rest
      else match i.rest with
      | [] => return 0
      | source :: rest => runSources start name i [("", source)] rest

end PartitionTest.Shell.Records.Program
