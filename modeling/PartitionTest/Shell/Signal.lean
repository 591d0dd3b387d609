/-! Signals: their names, what they do to a process, and how an end by one is told. -/
namespace PartitionTest.Shell.Signal

def names : List String := [
  "HUP", "INT", "QUIT", "ILL", "TRAP", "ABRT", "BUS", "FPE", "KILL", "USR1", "SEGV", "USR2",
  "PIPE", "ALRM", "TERM", "16", "CHLD", "CONT", "STOP", "TSTP", "TTIN", "TTOU", "URG", "XCPU",
  "XFSZ", "VTALRM", "PROF", "WINCH", "IO", "PWR", "SYS"]

/-- The event at the end of a process, which is told like a signal. -/
def exitName : String := "EXIT"

def interrupt : Nat := 2

def arithmetic : Nat := 8

def kill : Nat := 9

def segmentation : Nat := 11

def pipe : Nat := 13

def terminate : Nat := 15

def last : Nat := 64

def name (n : Nat) : String :=
  if n = 0 then exitName else (names[n - 1]?).getD (toString n)

/-- A signal by its name in any case, or by its number; the event at the end is zero. -/
def ofText? (text : String) : Option Nat :=
  match text.toNat? with
  | some n => if n ≤ last then some n else none
  | none => (exitName :: names).findIdx? (· == text.toUpper)

def isIdle (n : Nat) : Bool := [0, 17, 18, 23, 28].contains n

def suspends (n : Nat) : Bool := 19 ≤ n && n ≤ 22

def canBeCaught (n : Nat) : Bool := n != kill && n != 19

def note : Nat → String
  | 1 => "Hangup\n"
  | 2 | 13 => ""
  | 3 => "Quit\n"
  | 4 => "Illegal instruction\n"
  | 5 => "Trace/breakpoint trap\n"
  | 6 => "Aborted\n"
  | 7 => "Bus error\n"
  | 8 => "Floating point exception\n"
  | 9 => "Killed\n"
  | 10 => "User defined signal 1\n"
  | 11 => "Segmentation fault\n"
  | 12 => "User defined signal 2\n"
  | 14 => "Alarm clock\n"
  | 15 => "Terminated\n"
  | 16 => "Stack fault\n"
  | 24 => "CPU time limit exceeded\n"
  | 25 => "File size limit exceeded\n"
  | 26 => "Virtual timer expired\n"
  | 27 => "Profiling timer expired\n"
  | 29 => "I/O possible\n"
  | 30 => "Power failure\n"
  | 31 => "Bad system call\n"
  | n => if n < 34 then "Unknown signal " ++ toString n ++ "\n"
    else "Real-time signal " ++ toString (n - 34) ++ "\n"

end PartitionTest.Shell.Signal
