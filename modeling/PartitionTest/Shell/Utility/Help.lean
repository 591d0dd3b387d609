import PartitionTest.Shell.Utility.Basic

/-! What programs tell of their use. -/
namespace PartitionTest.Shell.Utility.Help

open Machine

def forms : List (String × List String) := [
  ("base32", ["[OPTION]... [FILE]"]),
  ("base64", ["[OPTION]... [FILE]"]),
  ("basename", ["NAME [SUFFIX]", "OPTION... NAME..."]),
  ("cat", ["[OPTION]... [FILE]..."]),
  ("chmod", ["[OPTION]... MODE[,MODE]... FILE...", "[OPTION]... OCTAL-MODE FILE...",
    "[OPTION]... --reference=RFILE FILE..."]),
  ("cksum", ["[OPTION]... [FILE]..."]),
  ("comm", ["[OPTION]... FILE1 FILE2"]),
  ("cp", ["[OPTION]... [-T] SOURCE DEST", "[OPTION]... SOURCE... DIRECTORY",
    "[OPTION]... -t DIRECTORY SOURCE..."]),
  ("cut", ["OPTION... [FILE]..."]),
  ("date", ["[OPTION]... [+FORMAT]", "[-u|--utc|--universal] [MMDDhhmm[[CC]YY][.ss]]"]),
  ("dirname", ["[OPTION] NAME..."]),
  ("echo", ["[SHORT-OPTION]... [STRING]...", "LONG-OPTION"]),
  ("env", ["[OPTION]... [-] [NAME=VALUE]... [COMMAND [ARG]...]"]),
  ("expand", ["[OPTION]... [FILE]..."]),
  ("expr", ["EXPRESSION", "OPTION"]),
  ("factor", ["[OPTION] [NUMBER]..."]),
  ("false", ["[ignored command line arguments]", "OPTION"]),
  ("fold", ["[OPTION]... [FILE]..."]),
  ("head", ["[OPTION]... [FILE]..."]),
  ("id", ["[OPTION]... [USER]..."]),
  ("join", ["[OPTION]... FILE1 FILE2"]),
  ("ls", ["[OPTION]... [FILE]..."]),
  ("md5sum", ["[OPTION]... [FILE]..."]),
  ("mkdir", ["[OPTION]... DIRECTORY..."]),
  ("mktemp", ["[OPTION]... [TEMPLATE]"]),
  ("mv", ["[OPTION]... [-T] SOURCE DEST", "[OPTION]... SOURCE... DIRECTORY",
    "[OPTION]... -t DIRECTORY SOURCE..."]),
  ("nice", ["[OPTION] [COMMAND [ARG]...]"]),
  ("nl", ["[OPTION]... [FILE]..."]),
  ("nohup", ["COMMAND [ARG]...", "OPTION"]),
  ("numfmt", ["[OPTION]... [NUMBER]..."]),
  ("od", ["[OPTION]... [FILE]...", "[-abcdfilosx]... [FILE] [[+]OFFSET[.][b]]",
    "--traditional [OPTION]... [FILE] [[+]OFFSET[.][b] [+][LABEL][.][b]]"]),
  ("paste", ["[OPTION]... [FILE]..."]),
  ("printenv", ["[OPTION]... [VARIABLE]..."]),
  ("printf", ["FORMAT [ARGUMENT]...", "OPTION"]),
  ("pwd", ["[OPTION]..."]),
  ("readlink", ["[OPTION]... FILE..."]),
  ("realpath", ["[OPTION]... FILE..."]),
  ("rm", ["[OPTION]... [FILE]..."]),
  ("rmdir", ["[OPTION]... DIRECTORY..."]),
  ("seq", ["[OPTION]... LAST", "[OPTION]... FIRST LAST", "[OPTION]... FIRST INCREMENT LAST"]),
  ("sha1sum", ["[OPTION]... [FILE]..."]),
  ("sha224sum", ["[OPTION]... [FILE]..."]),
  ("sha256sum", ["[OPTION]... [FILE]..."]),
  ("sha384sum", ["[OPTION]... [FILE]..."]),
  ("sha512sum", ["[OPTION]... [FILE]..."]),
  ("sleep", ["NUMBER[SUFFIX]...", "OPTION"]),
  ("sort", ["[OPTION]... [FILE]...", "[OPTION]... --files0-from=F"]),
  ("sum", ["[OPTION]... [FILE]..."]),
  ("sync", ["[OPTION] [FILE]..."]),
  ("tac", ["[OPTION]... [FILE]..."]),
  ("tail", ["[OPTION]... [FILE]..."]),
  ("tee", ["[OPTION]... [FILE]..."]),
  ("timeout", ["[OPTION] DURATION COMMAND [ARG]...", "[OPTION]"]),
  ("touch", ["[OPTION]... FILE..."]),
  ("tr", ["[OPTION]... STRING1 [STRING2]"]),
  ("true", ["[ignored command line arguments]", "OPTION"]),
  ("truncate", ["OPTION... FILE..."]),
  ("tsort", ["[OPTION] [FILE]"]),
  ("tty", ["[OPTION]..."]),
  ("uname", ["[OPTION]..."]),
  ("unexpand", ["[OPTION]... [FILE]..."]),
  ("uniq", ["[OPTION]... [INPUT [OUTPUT]]"]),
  ("wc", ["[OPTION]... [FILE]...", "[OPTION]... --files0-from=F"]),
  ("whoami", ["[OPTION]..."]),
  ("yes", ["[STRING]...", "OPTION"])]

def text? (program name : String) : Option String :=
  (forms.lookup program).map fun lines =>
    "Usage: " ++ String.intercalate "\n  or:  " (lines.map fun line => name ++ " " ++ line) ++ "\n"

/-- Whether the arguments ask for help: one alone in some programs, any in front
of two dashes in others. -/
def isAsked (program : String) (args : List String) : Bool :=
  if ["echo", "expr", "false", "nohup", "printf", "true", "yes"].contains program then
    args == ["--help"]
  else if ["env", "nice", "timeout"].contains program then args.head? == some "--help"
  else (args.takeWhile (· != "--")).contains "--help"

def offer (program : String) (run : Program) : Program := fun name args => do
  match if isAsked program args then text? program name else none with
  | some text =>
    put name text
    return if program == "false" then 1 else 0
  | none => run name args

end PartitionTest.Shell.Utility.Help
