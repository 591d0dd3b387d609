import PartitionTest.Shell.Objects.Texts

/-! Reading from descriptors and writing to them. -/
namespace PartitionTest.Shell.Objects.Channels

open Memory Shown

def names : List String := [
  "read", "readline", "readlines", "write", "writelines", "flush", "close", "fileno", "isatty", "readable",
  "writable", "reconfigure"]

def maxRounds : Nat := 1000000000

def readWrap (isBinary : Bool) (cs : List Char) : Value :=
  let s := String.ofList cs
  if isBinary then .bytes s else .text ((toUtf8 s).replace "\r\n" "\n")

/-- Whether a descriptor is one that can be read; nothing if it is closed. -/
def readable? (n : Nat) : Eval (Option Bool) := do
  match ← (Machine.channel? n : Run _) with
  | some (.source _) => return some true
  | some (.device _) => return some (n != 1 && n != 2)
  | some _ => return some false
  | none => return if n = 0 then some true else if n ≤ 2 then some false else none

def close (n : Nat) : Eval Unit := do
  if n = 1 then flush
  if 2 < n then (Machine.close n : Run Unit)

def call (r : Running) (n : Nat) (isBinary : Bool) (name : String) (args : List Value) : Eval Value := do
  let isReadable ← match ← readable? n with
    | some b => pure b
    | none => if name == "close" then pure false else valueError "I/O operation on closed file."
  let mustRead : Eval Unit := do
    unless isReadable do fail "io.UnsupportedOperation" "not readable"
  let mustWrite : Eval Unit := do
    if isReadable && n != 1 && n != 2 then fail "io.UnsupportedOperation" "not writable"
  match name with
  | "read" =>
    mustRead
    let count ← match args with
      | v :: _ => match v with
        | .nothing => pure none
        | v => do
          let k ← Operations.intArgument r v
          pure (if k < 0 then none else some k.toNat)
      | [] => pure none
    return readWrap isBinary (← readInput n count maxRounds)
  | "readline" =>
    mustRead
    return readWrap isBinary (← readLine n maxRounds)
  | "readlines" =>
    mustRead
    let cs ← readInput n none maxRounds
    match readWrap isBinary cs with
    | .text s => newList ((Texts.lines Texts.endsByteLine true (s.length + 1) s.toList).map fun l => .text (String.ofList l))
    | _ => newList ((Texts.lines Texts.endsByteLine true (cs.length + 1) cs).map fun l => .bytes (String.ofList l))
  | "write" =>
    mustWrite
    match args, isBinary with
    | .text s :: _, false =>
      writeText n s
      return .int s.length
    | .bytes s :: _, true =>
      writeBytes n s
      return .int s.length
    | v :: _, false => typeError ("write() argument must be str, not " ++ (← kindName v))
    | v :: _, true => typeError ("a bytes-like object is required, not '" ++ (← kindName v) ++ "'")
    | [], _ => typeError "write() takes exactly one argument (0 given)"
  | "writelines" =>
    mustWrite
    for v in ← r.items ((args[0]?).getD .nothing) do
      match v with
      | .text s => writeText n s
      | .bytes s => writeBytes n s
      | _ => pure ()
    return .nothing
  | "flush" =>
    if n = 1 then flush
    return .nothing
  | "close" =>
    close n
    return .nothing
  | "fileno" => return .int n
  | "isatty" => return .bool false
  | "readable" => return .bool isReadable
  | "writable" => return .bool !isReadable
  | _ => return .nothing

end PartitionTest.Shell.Objects.Channels
