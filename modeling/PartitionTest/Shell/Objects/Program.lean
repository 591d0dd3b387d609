import PartitionTest.Shell.Objects.Evaluation

/-! The program that runs scripts of the language of objects. -/
namespace PartitionTest.Shell.Objects.Program

open Machine

inductive Source where
  | text (s : String)
  | input
  | file (path : String)
deriving Inhabited

inductive Request where
  | run (source : Source) (args : List String)
  | version (long : Bool)
  | misuse (message : String)
deriving Inhabited

def idle : List Char := ['b', 'B', 'd', 'E', 'i', 'I', 'O', 'P', 'q', 's', 'S', 'u', 'v', 'x']

def lacking (letter : Char) : String := "Argument expected for the -" ++ String.singleton letter ++ " option"

mutual

def request : Nat → Nat → List String → Request
  | 0, _, _ => .misuse ""
  | n + 1, versions, args =>
    let done (r : Request) : Request := if versions = 0 then r else .version (1 < versions)
    match args with
    | [] => done (.run .input [""])
    | "-" :: _ => done (.run .input args)
    | "--" :: path :: rest => done (.run (.file path) (path :: rest))
    | "--" :: [] => done (.run .input [""])
    | "--version" :: rest => request n (versions + 1) rest
    | "--help" :: _ => .misuse ""
    | arg :: rest =>
      match arg.toList with
      | '-' :: '-' :: name => .misuse ("unknown option --" ++ String.ofList name)
      | '-' :: letters => cluster n versions letters rest
      | _ => done (.run (.file arg) args)

def cluster : Nat → Nat → List Char → List String → Request
  | 0, _, _, _ => .misuse ""
  | n + 1, versions, [], rest => request n versions rest
  | n + 1, versions, c :: cs, rest =>
    let done (r : Request) : Request := if versions = 0 then r else .version (1 < versions)
    if c = 'V' then cluster n (versions + 1) cs rest
    else if c = 'c' then
      match cs, rest with
      | [], [] => .misuse (lacking c)
      | [], s :: rest => done (.run (.text s) ("-c" :: rest))
      | cs, rest => done (.run (.text (String.ofList cs)) ("-c" :: rest))
    else if c = 'W' || c = 'X' then
      match cs, rest with
      | [], [] => .misuse (lacking c)
      | [], _ :: rest => request n versions rest
      | _, rest => request n versions rest
    else if c = 'm' && cs.isEmpty && rest.isEmpty then .misuse (lacking c)
    else if idle.contains c then cluster n versions cs rest
    else .misuse ("Unknown option: -" ++ String.singleton c)

end

def version : String := "Python 3.11.10"

def build : String := " (main, Oct 16 2024, 04:38:48) [Clang 18.1.8 ]"

def usage (path : String) : String :=
  "usage: " ++ path ++ " [option] ... [-c cmd | -m mod | file | -] [arg] ...\n" ++
  "Try " ++ "\x60python -h' for more information.\n"

def errorStatus : Nat := 1

/-- The status when what was printed cannot be written at the end. -/
def lostStatus : Nat := 120

def finish : Eval Bool := do
  try
    flush
    return true
  catch
    | .raised e => do
      let reason ← Report.summary e.value
      (report (ofUtf8 ("Exception ignored in: <_io.TextIOWrapper name='<stdout>' mode='w' encoding='utf-8'>\n" ++
        reason)) : Run Unit)
      return false
    | _ => return true
where
  flush : Eval Unit := Memory.flush

def exitStatus (args : List Value) : Eval Nat := do
  match args with
  | [] | [.nothing] => return 0
  | [.int n] => return (n % 256).toNat
  | [.bool b] => return if b then 1 else 0
  | args =>
    let v := match args with
      | [v] => v
      | vs => .tuple vs
    let text ← Evaluation.textOf true v
    (report (ofUtf8 (text ++ "\n")) : Run Unit)
    return errorStatus

def afterError (e : Raised) : Eval Nat := do
  let args : List Value ← match e.value with
    | .error _ args => pure args
    | .object id => do pure (← Memory.objectAt id).args
    | _ => pure []
  match ← Kinds.errorKind? e.value with
  | some "SystemExit" => exitStatus args
  | kind =>
    (report (ofUtf8 (← Report.error e)) : Run Unit)
    if kind == some "KeyboardInterrupt" then
      let _ ← finish
      (throw (Stop.killed Signal.interrupt) : Run Unit)
    return errorStatus

def run (all : List Statement) : Eval Nat := do
  modify fun m => { m with frames := [{ name := "<module>", line := 1 }], depth := 1 }
  Memory.assign "__name__" (.text "__main__")
  for s in ["__doc__", "__package__", "__loader__", "__spec__", "__builtins__"] do
    Memory.assign s .nothing
  let status ← try
      Evaluation.run all
      pure 0
    catch
      | .raised e => afterError e
      | _ => pure 0
  return if ← finish then status else lostStatus

/-- Reads and runs a script. Messages show its lines if it stands in a file. -/
def runSource (file source : String) (isFile : Bool) (args : List String) : Run Nat := do
  let source := toUtf8 source
  let lines := source.splitOn "\n"
  match Reader.script source with
  | .error f =>
    report (ofUtf8 (Report.flaw file lines isFile f))
    return errorStatus
  | .ok all =>
    let m : Memory := { file := file, lines := if isFile then lines else [], args := args.map toUtf8 }
    let (result, _) ← (run all).run.run m
    match result with
    | .ok status => return status
    | .error _ => return errorStatus

def misuseStatus : Nat := 2

def wholePath (path : String) : Run String := do
  if path.startsWith "/" then return path
  else return ofUtf8 (← current).directory.toPath ++ "/" ++ path

def python : Utility.Program := fun name args => do
  let words := args.foldl (fun n arg => n + arg.length + 1) 2
  match request words 0 args with
  | .version long =>
    Utility.put name (version ++ (if long then build else "") ++ "\n")
    return 0
  | .misuse message =>
    report (message ++ "\n" ++ usage name)
    return misuseStatus
  | .run (.text s) args => runSource "<string>" s false args
  | .run .input args =>
    let cs := ((← readAll (← channel 0)).toOption).getD []
    runSource "<stdin>" (String.ofList cs) false args
  | .run (.file path) args =>
    let whole ← wholePath path
    let cs ← match ← Utility.openInput path with
      | .ok c => readAll c
      | .error e => pure (.error e)
    match cs with
    | .ok cs => runSource whole (String.ofList cs) true args
    | .error .isDirectory =>
      report ("/usr/local/bin/python3: can't find '__main__' module in '" ++ whole ++ "'\n")
      return errorStatus
    | .error e =>
      let number := match e with
        | .permissionDenied => 13
        | .notDirectory => 20
        | _ => 2
      report (name ++ ": can't open file '" ++ whole ++ "': [Errno " ++ toString (number : Nat) ++ "] " ++ e.reason ++ "\n")
      return misuseStatus

end PartitionTest.Shell.Objects.Program
