import PartitionTest.Shell.Objects.Builtins
import PartitionTest.Shell.Objects.Mathematics

/-! Modules that are always there. -/
namespace PartitionTest.Shell.Objects.Modules

open Memory Shown
open Operations (intArgument)

def names : List (String × List String) := [
  ("sys", ["exit", "setrecursionlimit", "getrecursionlimit", "set_int_max_str_digits", "get_int_max_str_digits",
    "intern", "getsizeof", "exc_info", "getrefcount", "getdefaultencoding", "getfilesystemencoding", "gettrace",
    "settrace"]),
  ("os", ["_exit", "getpid", "getppid", "kill", "abort", "getenv", "getcwd", "write", "read", "close",
    "listdir", "remove", "unlink", "mkdir", "makedirs", "cpu_count", "urandom", "getuid", "fspath"]),
  ("os.path", Paths.functionNames),
  ("json", ["dumps", "dump", "loads", "load"]),
  ("time", ["sleep", "time", "perf_counter", "monotonic", "time_ns", "process_time", "perf_counter_ns",
    "monotonic_ns"]),
  ("math", Mathematics.names),
  ("cmath", ["sqrt", "exp", "phase", "polar", "rect"]),
  ("signal", ["raise_signal", "signal"]),
  ("re", Matching.functionNames),
  ("decimal", ["getcontext", "setcontext"]),
  ("fractions", []),
  ("functools", ["reduce", "lru_cache", "cache"]),
  ("itertools", ["count"]),
  ("_random", ["random", "seed", "getrandbits"]),
  ("builtins", Builtins.functionNames),
  ("ctypes", ["string_at"]),
  ("gc", ["collect", "disable", "enable"]),
  ("atexit", ["register"]),
  ("faulthandler", ["enable"]),
  ("platform", ["system", "python_version", "machine"]),
  ("__future__", []),
  ("string", [])]

def signalNumber? (s : String) : Option Nat :=
  if s.startsWith "SIG" then Signal.ofText? (String.ofList (s.toList.drop 3)) else none

def member? (path name : String) : Eval (Option Value) := do
  match path, name with
  | "sys", "argv" => some <$> newList ((← get).args.map .text)
  | "sys", "stdin" => return some (.channel 0 false)
  | "sys", "stdout" => return some (.channel 1 false)
  | "sys", "stderr" => return some (.channel 2 false)
  | "sys", "maxsize" => return some (.int 9223372036854775807)
  | "sys", "byteorder" => return some (.text "little")
  | "sys", "platform" => return some (.text "linux")
  | "sys", "version_info" => return some (.tuple [.int 3, .int 11, .int 10, .text "final", .int 0])
  | "os", "environ" =>
    let p ← (Machine.current : Run Process)
    some <$> newNames ((p.bindings.filter fun v => p.exported.contains v.1).map fun (k, v) =>
      (toUtf8 k, .text (toUtf8 v)))
  | "os", "path" => return some (.module "os.path")
  | "json", "JSONDecodeError" => return some (.kind "json.decoder.JSONDecodeError")
  | "__future__", name => return some (.text name)
  | "sys", "modules" => return some (← newNames [])
  | "sys", "path" => return some (← newList [.text ""])
  | "sys", "executable" => return some (.text "/usr/local/bin/python3")
  | "sys", "version" => return some (.text "3.11.10 (main, Oct 16 2024, 04:38:48) [Clang 18.1.8 ]")
  | "sys", "hexversion" => return some (.int 51055344)
  | "sys", "getsizeof" => return some (.builtin "sys.getsizeof")
  | "re", name =>
    match Matching.flag? name with
    | some bit => return some (.int bit)
    | none =>
      return if name == "error" then some (.kind "re.error")
        else if name == "Pattern" then some (.kind "re.Pattern")
        else if name == "Match" then some (.kind "re.Match")
        else if Matching.functionNames.contains name then some (.builtin ("re." ++ name))
        else none
  | "fractions", "Fraction" => return some (.kind "fractions.Fraction")
  | "decimal", name =>
    return if name == "Decimal" then some (.kind "decimal.Decimal")
      else if isErrorKind ("decimal." ++ name) then some (.kind ("decimal." ++ name))
      else if (Decimal.Rounding.all.lookup name).isSome then some (.text name)
      else if name == "MAX_PREC" then some (.int 999999999999999999)
      else if name == "getcontext" || name == "setcontext" then some (.builtin ("decimal." ++ name))
      else none
  | "builtins", name => return Builtins.named? name
  | "os", "linesep" => return some (.text "\n")
  | "os", "sep" => return some (.text "/")
  | "os", "name" => return some (.text "posix")
  | "math", "pi" => return some (.float 3.141592653589793)
  | "math", "e" => return some (.float 2.718281828459045)
  | "math", "tau" => return some (.float 6.283185307179586)
  | "math", "inf" => return some (.float (1.0 / 0.0))
  | "math", "nan" => return some (.float (0.0 / 0.0))
  | "string", "ascii_lowercase" => return some (.text "abcdefghijklmnopqrstuvwxyz")
  | "string", "ascii_uppercase" => return some (.text "ABCDEFGHIJKLMNOPQRSTUVWXYZ")
  | "string", "ascii_letters" => return some (.text "abcdefghijklmnopqrstuvwxyzABCDEFGHIJKLMNOPQRSTUVWXYZ")
  | "string", "digits" => return some (.text "0123456789")
  | "string", "hexdigits" => return some (.text "0123456789abcdefABCDEF")
  | "string", "octdigits" => return some (.text "01234567")
  | "string", "punctuation" => return some (.text "!\"#$%&'()*+,-./:;<=>?@[\\]^_\x60\x7b|\x7d~")
  | "string", "whitespace" => return some (.text " \t\n\r\x0b\x0c")
  | "string", "printable" => return some (.text ("0123456789abcdefghijklmnopqrstuvwxyzABCDEFGHIJKLMNOPQRSTUVWXYZ" ++
      "!\"#$%&'()*+,-./:;<=>?@[\\]^_\x60\x7b|\x7d~ \t\n\r\x0b\x0c"))
  | "signal", s =>
    match signalNumber? s with
    | some n => return some (.int n)
    | none =>
      if s == "SIG_DFL" then return some (.int 0)
      else if s == "SIG_IGN" then return some (.int 1)
      else return if s == "raise_signal" || s == "signal" then some (.builtin ("signal." ++ s)) else none
  | path, name =>
    return if ((names.lookup path).getD []).contains name then some (.builtin (path ++ "." ++ name)) else none

/-- Keys of entries that tell how the results of a function are kept. -/
def hitsKey : String := "!hits"

def missesKey : String := "!misses"

def mostKey : String := "!most"

def kept (f most : Value) : Eval Value := do
  let d : Dict := (({} : Dict).set hitsKey .nothing (.int 0)).set missesKey .nothing (.int 0)
  return .kept f (← putDict (d.set mostKey .nothing most))

/-- How many words the generator has, and the distance of those it mixes. -/
def wordCount : Nat := 624

def wordStep : Nat := 397

def started (seed : UInt32) : Array UInt32 :=
  (List.range (wordCount - 1)).foldl (fun (ws : Array UInt32) i =>
    let last : UInt32 := ws.back?.getD 0
    ws.push ((1812433253 : UInt32) * (last ^^^ (last >>> 30)) + UInt32.ofNat (i + 1))) #[seed]

def startedBy (key : List UInt32) : Array UInt32 :=
  let size := key.length
  let keys := key.toArray
  let mix (ws : Array UInt32) (i : Nat) (factor : UInt32) : UInt32 :=
    let before := (ws[i - 1]?).getD 0
    (ws[i]?).getD 0 ^^^ ((before ^^^ (before >>> 30)) * factor)
  let wrapped (ws : Array UInt32) (i : Nat) : Array UInt32 × Nat :=
    if wordCount ≤ i then (ws.setIfInBounds 0 ((ws[wordCount - 1]?).getD 0), 1) else (ws, i)
  let (ws, i, _) := (List.range (Nat.max wordCount size)).foldl
    (fun (acc : Array UInt32 × Nat × Nat) _ =>
      let (ws, i, j) := acc
      let w := mix ws i 1664525 + (keys[j]?).getD 0 + UInt32.ofNat j
      let (ws, i) := wrapped (ws.setIfInBounds i w) (i + 1)
      (ws, i, if j + 1 = size then 0 else j + 1)) (started 19650218, 1, 0)
  let (ws, _) := (List.range (wordCount - 1)).foldl
    (fun (acc : Array UInt32 × Nat) _ =>
      let (ws, i) := acc
      wrapped (ws.setIfInBounds i (mix ws i 1566083941 - UInt32.ofNat i)) (i + 1)) (ws, i)
  ws.setIfInBounds 0 0x80000000

def renewed (ws : Array UInt32) : Array UInt32 :=
  (List.range wordCount).foldl (fun (ws : Array UInt32) i =>
    let w (k : Nat) : UInt32 := (ws[k % wordCount]?).getD 0
    let y := (w i &&& 0x80000000) ||| (w (i + 1) &&& 0x7fffffff)
    ws.setIfInBounds i (w (i + wordStep) ^^^ (y >>> 1) ^^^ (if y &&& 1 = 1 then 0x9908b0df else 0))) ws

def nextWord : Eval UInt32 := do
  let m ← get
  let (ws, i) := if m.chance.isEmpty then (renewed (startedBy [5489]), 0)
    else if wordCount ≤ m.chanceIndex then (renewed m.chance, 0) else (m.chance, m.chanceIndex)
  set { m with chance := ws, chanceIndex := i + 1 }
  let y := (ws[i]?).getD 0
  let y := y ^^^ (y >>> 11)
  let y := y ^^^ ((y <<< 7) &&& 0x9d2c5680)
  let y := y ^^^ ((y <<< 15) &&& 0xefc60000)
  return y ^^^ (y >>> 18)

/-- So many bits by chance; the last word gives only those that are still asked for. -/
def chanceBits (count : Nat) : Eval Nat :=
  (List.range ((count + 31) / 32)).foldlM (fun acc i => do
    let w := (← nextWord).toNat
    let bits := Nat.min 32 (count - 32 * i)
    return acc + w / Nat.pow 2 (32 - bits) * Nat.pow 2 (32 * i)) 0

def seedWith (n : Nat) : Eval Unit := do
  let words := n.log2 / 32 + 1
  let key := (List.range words).map fun i => UInt32.ofNat (n / Nat.pow 2 (32 * i) % Nat.pow 2 32)
  modify fun m => { m with chance := startedBy key, chanceIndex := wordCount }

def function (r : Running) (name : String) (args : List Value) (named : List (String × Value)) : Eval Value := do
  let arg (i : Nat) : Value := (args[i]?).getD .nothing
  let kill (n : Int) : Eval Value := do
    let isIgnored := ((← (Machine.current : Run Process)).traps.lookup (Signal.name n.toNat)).isSome
    if n == Signal.interrupt && !isIgnored then raise (.error "KeyboardInterrupt" [])
    if n != 0 then (Machine.receive n.toNat : Run Unit)
    return .nothing
  let clock : Eval Float := do
    return Number.ofFraction false (← (get : Run Machine)).clock 1000000
  match name with
  | "sys.exit" => raise (.error "SystemExit" args)
  | "sys.getrecursionlimit" => return .int (← get).maxDepth
  | "sys.setrecursionlimit" =>
    let n ← intArgument r (arg 0)
    if n < 1 then valueError "recursion limit must be greater or equal than 1"
    modify fun m => { m with maxDepth := n.toNat }
    return .nothing
  | "os._exit" => do
    let status ← intArgument r (arg 0)
    (throw (.exit (status % 256).toNat) : Run Value)
  | "os.getppid" => return .int (← (Machine.current : Run Process)).parentPid
  | "os.listdir" => Paths.namesIn (arg 0)
  | "os.remove" | "os.unlink" => Paths.removeFile (arg 0)
  | "os.mkdir" => Paths.makeDirectory (arg 0)
  | "os.read" =>
    let n := (← intArgument r (arg 0)).toNat
    let size := (← intArgument r (arg 1)).toNat
    if (← inputOf n).isEmpty then
      let _ ← fill n
    let cs ← inputOf n
    setInput n (cs.drop size)
    return .bytes (String.ofList (cs.take size))
  | "os.close" =>
    (Machine.close (← intArgument r (arg 0)).toNat : Run Unit)
    return .nothing
  | "os.getpid" => return .int (← (Machine.current : Run Process)).pid
  | "os.kill" =>
    if (← intArgument r (arg 0)) == (← (Machine.current : Run Process)).pid then kill (← intArgument r (arg 1))
    else raise (.error "ProcessLookupError" [.int 3, .text "No such process"])
  | "os.abort" => kill 6
  | "signal.raise_signal" => kill (← intArgument r (arg 0))
  | "signal.signal" =>
    let name := Signal.name (← intArgument r (arg 0)).toNat
    match arg 1 with
    | .int n =>
      (Machine.change fun p => { p with
        traps := (if n = 1 then [(name, "")] else []) ++ p.traps.filter (·.1 != name) } : Run Unit)
      return .int 0
    | _ => return .int 0
  | "ctypes.string_at" => do
    (throw (.killed Signal.segmentation) : Run Value)
  | "os.getenv" =>
    match ← member? "os" "environ", arg 0 with
    | some (.dict id), .text s => return ((← dictAt id).named? s).getD (arg 1)
    | _, _ => return .nothing
  | "os.makedirs" => Paths.makeDirectory (arg 0)
  | "os.cpu_count" => return .int 1
  | "os.getuid" => return .int 0
  | "os.fspath" => return arg 0
  | "os.urandom" => return .bytes (String.ofList (List.replicate (← intArgument r (arg 0)).toNat '\x00'))
  | "sys.getsizeof" => return .int 64
  | "sys.getrefcount" => return .int 2
  | "sys.get_int_max_str_digits" => return .int Numbers.maxDigits
  | "sys.intern" => return arg 0
  | "sys.getdefaultencoding" | "sys.getfilesystemencoding" => return .text "utf-8"
  | "sys.exc_info" =>
    match (← get).handled.head? with
    | some e => return .tuple [← Kinds.of e.value, e.value, .nothing]
    | none => return .tuple [.nothing, .nothing, .nothing]
  | "platform.system" => return .text "Linux"
  | "platform.python_version" => return .text "3.11.10"
  | "platform.machine" => return .text "x86_64"
  | "gc.collect" => return .int 0
  | "decimal.getcontext" | "decimal.setcontext" => return .builtin "decimal.context"
  | "_random.seed" =>
    seedWith ((arg 0).whole?.getD 0).natAbs
    return .nothing
  | "_random.getrandbits" =>
    let n ← chanceBits (← intArgument r (arg 0)).toNat
    return .int n
  | "_random.random" =>
    let a := (← nextWord).toNat / 32
    let b := (← nextWord).toNat / 64
    return .float (Number.ofFraction false (a * 67108864 + b) (Nat.pow 2 53))
  | "os.getcwd" => return .text (← (Machine.current : Run Process)).directory.toPath
  | "os.write" =>
    match arg 1 with
    | .bytes s =>
      writeNow (← intArgument r (arg 0)).toNat s
      return .int s.length
    | v => typeError ("a bytes-like object is required, not '" ++ (← kindName v) ++ "'")
  | "time.sleep" =>
    let x ← Mathematics.realArgument r (arg 0)
    if x < 0.0 then valueError "sleep length must be non-negative"
    (Machine.pass (x * 1000000.0).toUInt64.toNat : Run Unit)
    return .nothing
  | "time.time_ns" => return .int (1700000000000000000 + (← (get : Run Machine)).clock * 1000)
  | "time.time" => return .float (1700000000.0 + (← clock))
  | "time.perf_counter" | "time.monotonic" | "time.process_time" => return .float (← clock)
  | "time.perf_counter_ns" | "time.monotonic_ns" => return .int ((← (get : Run Machine)).clock * 1000)
  | "functools.reduce" =>
    let vs ← r.items (arg 1)
    match args[2]?, vs with
    | some v, vs => vs.foldlM (fun a b => r.call (arg 0) [a, b] []) v
    | none, v :: vs => vs.foldlM (fun a b => r.call (arg 0) [a, b] []) v
    | none, [] => typeError "reduce() of empty iterable with no initial value"
  | "functools.cache" => kept (arg 0) .nothing
  | "functools.lru_cache" =>
    match args, named.lookup "maxsize" with
    | [.function f], none => kept (.function f) (.int 128)
    | [n], none | _, some n => return .bound n "lru_cache"
    | _, none => return .bound (.int 128) "lru_cache"
  | "itertools.count" =>
    let start := ((arg 0).whole?).getD 0
    return .stream (← newStream (.counting start none (((arg 1).whole?).getD 1)))
  | _ =>
    let within (module : String) : Option String :=
      if name.startsWith module then some (String.ofList (name.toList.drop module.length)) else none
    match within "math.", within "json.", within "os.path.", within "re.", within "cmath." with
    | some f, _, _, _, _ => Mathematics.function r f args named
    | _, some f, _, _, _ => JsonText.function r f args named
    | _, _, some f, _, _ => Paths.function f args
    | _, _, _, some f, _ => Matching.function r f args named
    | _, _, _, _, some f => Mathematics.planeFunction f args
    | none, none, none, none, none => return .nothing

end PartitionTest.Shell.Objects.Modules
