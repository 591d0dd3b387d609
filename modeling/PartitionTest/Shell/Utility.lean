import PartitionTest.Shell.Builtin
import PartitionTest.Shell.Utility.Calendar
import PartitionTest.Shell.Utility.Characters
import PartitionTest.Shell.Utility.Columns
import PartitionTest.Shell.Utility.Comparison
import PartitionTest.Shell.Utility.Difference
import PartitionTest.Shell.Utility.Digest
import PartitionTest.Shell.Utility.Directory
import PartitionTest.Shell.Utility.Dump
import PartitionTest.Shell.Utility.Editing
import PartitionTest.Shell.Utility.Encoding
import PartitionTest.Shell.Utility.Help
import PartitionTest.Shell.Utility.Naming
import PartitionTest.Shell.Utility.Numbers
import PartitionTest.Shell.Utility.Scaling
import PartitionTest.Shell.Utility.Search
import PartitionTest.Shell.Utility.Sorting
import PartitionTest.Shell.Utility.Surroundings
import PartitionTest.Shell.Utility.Test

/-! Programs of the system. Each is started for itself and answers with its
status; it reads its input where a script leaves off. -/
namespace PartitionTest.Shell.Utility

open Machine Quotation

def echo : Program := fun name args => do
  let isOption (arg : String) := arg.startsWith "-" && arg.length > 1 &&
    (arg.toList.drop 1).all "neE".toList.contains
  let options := (args.takeWhile isOption).flatMap String.toList
  let text := String.intercalate " " (args.dropWhile isOption)
  let escapes := (options.filter fun c => c = 'e' || c = 'E').getLast? == some 'e'
  let (text, halt) := if escapes then Format.plainText .echo text else (text, none)
  put name (if options.contains 'n' || halt.isSome then text else text ++ "\n")
  return 0

def flawText : Format.Flaw → String
  | .notNumber arg => quoted arg ++ ": expected a numeric value"
  | .incomplete arg => quoted arg ++ ": value not completely converted"
  | .outOfRange arg => quoted arg ++ ": Numerical result out of range"
  | .invalid source => source ++ ": invalid conversion specification"
  | .unfinished => "missing hexadecimal number in escape"

def printf : Program := fun name args => do
  match if args.head? == some "--" then args.tail else args with
  | [] => misused name "missing operand" 1
  | format :: args =>
    let printed := Format.print .printf format args
    printed.flaws.forM fun flaw => say name (flawText flaw)
    put name printed.text
    let takesNone := (Format.parts .printf (format.length + 1) format.toList).all fun
      | .text _ => true
      | _ => false
    if takesNone && !args.isEmpty then
      say name ("warning: ignoring excess arguments, starting with " ++ quoted (args.headD ""))
    return if printed.flaws.isEmpty then 0 else 1

/-- A span of time in microseconds: a decimal number and perhaps a unit. -/
def span? (arg : String) : Option Nat :=
  let cs := arg.toList
  let whole := cs.takeWhile Char.isDigit
  let rest := cs.drop whole.length
  let (fraction, rest) := match rest with
    | '.' :: more =>
      let digits := more.takeWhile Char.isDigit
      (digits, more.drop digits.length)
    | _ => ([], rest)
  let unit := match rest with
    | [] | ['s'] => some 1
    | ['m'] => some 60
    | ['h'] => some 3600
    | ['d'] => some 86400
    | _ => none
  if whole.isEmpty && fraction.isEmpty then none
  else
    let micros := (fraction ++ List.replicate 6 '0').take 6
    unit.map fun u => (Format.naturalOf whole * 1000000 + Format.naturalOf micros) * u

def sleep : Program :=
  withOptions {} 1 fun name o => do
    match o.operands.mapM span? with
    | some [] => misused name "missing operand" 1
    | some spans =>
      pass (spans.foldl (· + ·) 0)
      return 0
    | none =>
      (o.operands.filter fun arg => (span? arg).isNone).forM fun bad =>
        say name ("invalid time interval " ++ quoted bad)
      report ("Try '" ++ name ++ " --help' for more information.\n")
      return 1

def assigned? (name : String) (args : List String) : Option String :=
  args.findSome? fun arg => if arg.startsWith (name ++ "=") then
    some (String.ofList (arg.toList.drop (name.length + 1))) else none

def dd : Program := fun name args => do
  let number (key : String) : Option Nat :=
    ((assigned? key args).bind (amount? false)).map (·.count)
  let block := ((number "bs").orElse fun _ => number "ibs").getD 512
  let source ← openInput ((assigned? "if" args).getD "-")
  match source with
  | .error e => fail name ("failed to open " ++ shellQuoted ((assigned? "if" args).getD "") ++ ": " ++ e.reason) 1
  | .ok c =>
    let _ ← readChars c (block * (number "skip").getD 0)
    let cs ← match number "count" with
      | some n => readChars c (block * n)
      | none => do pure (((← readAll c).toOption).getD [])
    let text := String.ofList cs
    match assigned? "of" args with
    | none => put name text
    | some path =>
      let m ← get
      match m.files.write m.process.directory (toUtf8 path) ⟨(bytesOf text).toArray⟩ m.process.newMode with
      | .ok (.stored files) => modify fun m => { m with files := files }
      | .ok _ => pure ()
      | .error e =>
        say name ("failed to open " ++ shellQuoted path ++ ": " ++ e.reason)
        throw (.exit 1)
    let full := cs.length / block
    let counts := toString full ++ "+" ++ (if cs.length % block = 0 then "0" else "1")
    unless assigned? "status" args == some "none" do
      report (counts ++ " records in\n" ++ counts ++ " records out\n")
    return 0

def always (status : Nat) : Program := fun _ _ => return status

def table : List (String × Program) := [
  ("[", Test.bracket), ("arch", arch), ("base32", Encoding.base32), ("base64", Encoding.base64),
  ("basename", basename), ("cat", cat), ("chgrp", Naming.ownership "group"), ("chmod", chmod), ("chown", Naming.ownership "user"), ("cksum", Digest.cksum),
  ("cmp", Comparison.cmp), ("comm", Comparison.comm), ("cp", cp), ("cut", cut),
  ("date", Calendar.date), ("dd", dd), ("diff", Difference.diff), ("dirname", dirname),
  ("echo", echo), ("egrep", egrep), ("expand", Columns.expand), ("expr", expr),
  ("factor", factor), ("false", always 1), ("fgrep", fgrep), ("fold", fold), ("grep", grep),
  ("head", head), ("id", identity), ("join", Comparison.join), ("link", Naming.link), ("logname", logname), ("ls", ls),
  ("md5sum", Digest.summer Digest.md5Algorithm), ("mkdir", mkdir), ("mktemp", mktemp), ("mv", mv), ("nl", nl), ("numfmt", numfmt),
  ("od", Dump.od), ("paste", paste), ("printenv", printenv), ("printf", printf), ("pwd", pwd), ("readlink", Naming.readlink), ("realpath", Naming.realpath),
  ("rev", rev), ("rm", rm), ("rmdir", rmdir), ("sed", Editing.sed), ("seq", seq),
  ("sha1sum", Digest.summer Digest.sha1Algorithm), ("sha224sum", Digest.summer Digest.sha224Algorithm),
  ("sha256sum", Digest.summer Digest.sha256Algorithm), ("sha384sum", Digest.summer Digest.sha384Algorithm),
  ("sha512sum", Digest.summer Digest.sha512Algorithm), ("sleep", sleep),
  ("sort", Sorting.sort), ("stat", Naming.stat), ("sum", Digest.sum), ("sync", always 0), ("tac", tac), ("tail", tail), ("tee", tee),
  ("test", Test.test), ("touch", touch), ("tr", tr), ("true", always 0), ("truncate", Naming.truncate), ("tty", tty),
  ("uname", uname), ("unexpand", Columns.unexpand),
  ("uniq", uniq), ("unlink", Naming.unlink), ("wc", wc), ("which", which), ("whoami", whoami), ("yes", yes)]

def shells : List String := ["sh", "dash", "bash"]

def starters : List String := ["awk", "env", "mawk", "nice", "nohup", "timeout", "xargs"]

def scripted : List String := ["python", "python3"]

/-- The directories that hold the programs, in the order in which they are searched. -/
def directories : List String := ["/usr/bin", "/bin"]

/-- The directory of programs that are not part of the system, which is searched first. -/
def localDirectory : String := "/usr/local/bin"

end PartitionTest.Shell.Utility
