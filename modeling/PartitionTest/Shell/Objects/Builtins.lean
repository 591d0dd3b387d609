import PartitionTest.Shell.Objects.JsonText
import PartitionTest.Shell.Objects.Making
import PartitionTest.Shell.Objects.Paths

/-! Functions and kinds that are always there. -/
namespace PartitionTest.Shell.Objects.Builtins

open Memory Shown
open Operations (intArgument)

def functionNames : List String := [
  "abs", "aiter", "all", "anext", "any", "ascii", "bin", "breakpoint", "callable", "chr", "compile", "delattr",
  "dir", "divmod", "eval", "exec", "exit", "format", "getattr", "globals", "hasattr", "hash", "help", "hex", "id",
  "input", "isinstance", "issubclass", "iter", "len", "locals", "max", "min", "next", "oct", "open", "ord", "pow",
  "print", "quit", "repr", "round", "setattr", "sorted", "sum", "vars", "__import__"]

/-- What a name stands for when the script has given it no meaning. -/
def named? (s : String) : Option Value :=
  if functionNames.contains s then some (.builtin s)
  else if Kinds.names.contains s then some (.kind s)
  else if isErrorKind s && !s.contains '.' then some (.kind s)
  else if s == "IOError" || s == "EnvironmentError" then some (.kind "OSError")
  else if s == "NotImplemented" then some .declined
  else if s == "Ellipsis" then some .ellipsis
  else if s == "__debug__" then some (.bool true)
  else none

def allNames : List String :=
  functionNames ++ Kinds.names ++ ["None", "True", "False", "Ellipsis", "NotImplemented"] ++
    (errorKinds.map (·.1)).filter fun s => !s.contains '.'

def changeCost (a b : Char) : Nat := if a = b then 0 else if a.toLower = b.toLower then 1 else 2

/-- The costs of the next row of a table, from those of the row before. -/
def nextRow (c : Char) : Nat → List Char → List Nat → List Nat
  | left, d :: ds, diagonal :: above :: rest =>
    let cost := min (min (left + 2) (above + 2)) (diagonal + changeCost c d)
    cost :: nextRow c cost ds (above :: rest)
  | _, _, _ => []

def distance (a b : List Char) : Nat :=
  let first := (List.range (b.length + 1)).map (2 * ·)
  let (row, _) := a.foldl (fun (row, i) c => ((2 * (i + 1)) :: nextRow c (2 * (i + 1)) b row, i + 1)) (first, 0)
  row.getLast?.getD 0

def maxNameSize : Nat := 40

/-- The first of the names that are most alike, if they are alike enough. -/
def alike? (name : String) (names : List String) : Option String :=
  (names.foldl (fun (best : Option (String × Nat)) s =>
    if s == name || maxNameSize < s.length || maxNameSize < name.length then best
    else
      let most := (name.length + s.length + 3) * 2 / 6
      let cost := distance name.toList s.toList
      let isBetter := match best with
        | some (_, d) => decide (cost < d)
        | none => true
      if cost ≤ most && isBetter then some (s, cost) else best) none).map (·.1)

def isKindOf (r : Running) (what : String) : Nat → Value → Value → Eval Bool
  | 0, _, _ => return false
  | n + 1, kind, ancestor => do
    match ancestor with
    | .tuple ks | .either ks => ks.anyM (isKindOf r what n kind)
    | .generic _ _ => typeError (String.ofList (what.toList.takeWhile (· != ' ')) ++
        " argument 2 cannot be a parameterized generic")
    | .nothing => return Kinds.isSame kind (.kind "NoneType")
    | .kind _ | .ownKind _ =>
      match ← r.special? ancestor "__subclasscheck__" [kind] with
      | some w => r.truth w
      | none => Kinds.isPartOf kind ancestor
    | _ => typeError (what ++ ", a tuple of " ++ (if what.startsWith "issub" then "classes" else "types") ++ ", or a union")

def isInstance (r : Running) (v kind : Value) : Eval Bool := do
  match kind with
  | .ownKind _ =>
    match ← r.special? kind "__instancecheck__" [v] with
    | some w => return ← r.truth w
    | none => pure ()
  | _ => pure ()
  isKindOf r "isinstance() arg 2 must be a type" Kinds.maxKinds (← Kinds.of v) kind

def singleNames : List String := [
  "len", "abs", "ord", "chr", "hex", "oct", "bin", "repr", "ascii", "callable", "any", "all", "id", "hash"]

def extreme (r : Running) (name : String) (args : List Value) (named : List (String × Value)) : Eval Value := do
  let vs ← match args with
    | [] => typeError (name ++ " expected at least 1 argument, got 0")
    | [v] => r.items v
    | vs => pure vs
  let keyed ← Containers.keyedBy r (named.lookup "key") vs
  let relation := if name == "min" then Relation.less else .greater
  match keyed with
  | [] =>
    match named.lookup "default" with
    | some v => return v
    | none => valueError (name ++ "() arg is an empty sequence")
  | v :: vs =>
    let best ← vs.foldlM (fun (best : Value × Value) (v : Value × Value) => do
      if ← Operations.related r relation v.1 best.1 then return v else return best) v
    return best.2

def printed (r : Running) (args : List Value) (named : List (String × Value)) : Eval Value := do
  let option (name missing : String) : Eval String := do
    match named.lookup name with
    | none | some .nothing => return missing
    | some (.text s) => return s
    | some v => typeError (name ++ " must be None or a string, not " ++ (← kindName v))
  if let some (k, _) := named.find? fun (k, _) => !(["sep", "end", "file", "flush"].contains k) then
    typeError ("'" ++ k ++ "' is an invalid keyword argument for print()")
  let sep ← option "sep" " "
  let ending ← option "end" "\n"
  let texts ← args.mapM (plain r.own)
  let text := String.intercalate sep texts ++ ending
  match named.lookup "file" with
  | none | some .nothing => writeText 1 text
  | some (.channel n false) => writeText n text
  | some f =>
    let _ ← r.call (← r.member f "write") [.text text] []
  if ← ((named.lookup "flush").map r.truth).getD (pure false) then flush
  return .nothing

def input (r : Running) (args : List Value) : Eval Value := do
  args.head?.forM fun v => do writeText 1 (← plain r.own v)
  flush
  let line ← readLine 0 Channels.maxRounds
  if line.isEmpty then fail "EOFError" "EOF when reading a line"
  let line := if line.getLast? == some '\n' then line.dropLast else line
  let line := if line.getLast? == some '\r' then line.dropLast else line
  return .text (toUtf8 (String.ofList line))

def length (r : Running) (v : Value) : Eval Value := do
  match ← r.special? v "__len__" [] with
  | some w =>
    match ← Operations.index? r w with
    | some n => if n < 0 then valueError "__len__() should return >= 0" else return .int n
    | none => typeError ("'" ++ (← kindName w) ++ "' object cannot be interpreted as an integer")
  | none =>
    match ← Operations.length? r v with
    | some n => return .int n
    | none => typeError ("object of type '" ++ (← kindName v) ++ "' has no len()")

def rounded (r : Running) (args : List Value) (named : List (String × Value)) : Eval Value := do
  let given : Option Value := ((args[1]?).orElse fun _ => named.lookup "ndigits").bind fun v => match v with
    | .nothing => none
    | v => some v
  let v ← match args.head? with
    | some v => pure v
    | none => typeError "round() missing required argument 'number' (pos 1)"
  if let some w ← r.special? v "__round__" given.toList then return w
  let digits : Option Int ← given.mapM (intArgument r)
  match ← Operations.num? v, digits with
  | some (.float x), none =>
    match Numbers.fraction? x with
    | some (num, den) => return .int (Numbers.nearest num den)
    | none => return .int (← checked (Numbers.truncated x))
  | some (.float x), some d => return .float (Numbers.roundedTo d x)
  | some (.int n), d => return .int (Numbers.intRoundedTo (d.getD 0) n)
  | some (.fraction n d), none => return .int (Numbers.nearest n d)
  | some (.fraction n d), some k =>
    let up := Nat.pow 10 k.toNat
    let down := Nat.pow 10 (-k).toNat
    return .ofNum (Numbers.reduced (Numbers.nearest (n * up) (d * down) * down) up)
  | some (.decimal d), none =>
    match d.integral .halfEven, d with
    | .infinite _, _ => fail "OverflowError" "cannot round an infinity"
    | .nan _, _ => valueError "cannot round a NaN"
    | e, _ => return .int (e.whole?.getD 0)
  | some (.decimal d), some k =>
    return .decimal (← checked (Numbers.ofDecimal (d.quantize (← get).decimals .halfEven (.finite false 1 (-k)))))
  | _, _ => typeError ("type " ++ (← kindName v) ++ " doesn't define __round__ method")

def powerModulo (modulus : Int) : Nat → Int → Nat → Int → Int
  | 0, _, _, acc => acc
  | n + 1, base, e, acc =>
    if e = 0 then acc
    else powerModulo modulus n (base * base % modulus) (e / 2) (if e % 2 = 1 then acc * base % modulus else acc)

/-- The number that multiplies with another one to one, up to multiples of a modulus. -/
def inverse? (a modulus : Int) : Option Int := go (modulus.natAbs.log2 * 2 + 4) modulus.natAbs (a % modulus) 0 1
where
  go : Nat → Int → Int → Int → Int → Option Int
    | 0, _, _, _, _ => none
    | n + 1, r, s, x, y =>
      if s = 0 then (if r = 1 then some (x % modulus) else none) else go n s (r % s) y (x - r / s * y)

def power (r : Running) (args : List Value) : Eval Value := do
  match args with
  | [a, b, m] =>
    if let .nothing := m then return ← Operations.arith r .power false a b
    let m ← intArgument r m
    if m = 0 then valueError "pow() 3rd argument cannot be 0"
    let e ← intArgument r b
    let base ← intArgument r a
    let size : Int := m.natAbs
    let base ← if 0 ≤ e then pure base
      else match inverse? base size with
      | some i => pure i
      | none => valueError "base is not invertible for the given modulus"
    let n := powerModulo size (e.natAbs.log2 + 1) (base % size) e.natAbs (1 % size)
    return .int (n.fmod m)
  | [a, b] =>
    match ← Operations.num? a, ← Operations.num? b, a, b with
    | some _, some _, _, _ => Operations.arith r .power false a b
    | _, _, .object _, _ | _, _, _, .object _ => Operations.arith r .power false a b
    | _, _, _, _ => typeError ("unsupported operand type(s) for ** or pow(): '" ++ (← kindName a) ++ "' and '" ++
        (← kindName b) ++ "'")
  | _ => typeError ("pow() missing required argument '" ++ (if args.isEmpty then "base' (pos 1)" else "exp' (pos 2)"))

def divided (r : Running) (a b : Value) : Eval Value := do
  match ← Operations.asked r a b "__divmod__" "__rdivmod__" with
  | some w => return w
  | none =>
    match ← Operations.num? a, ← Operations.num? b with
    | some _, some _ =>
      return .tuple [← Operations.arith r .quotient false a b, ← Operations.arith r .remainder false a b]
    | _, _ => typeError ("unsupported operand type(s) for divmod(): '" ++ (← kindName a) ++ "' and '" ++
        (← kindName b) ++ "'")

def absolute (r : Running) (v : Value) : Eval Value := do
  match ← r.special? v "__abs__" [] with
  | some w => return w
  | none =>
    match ← Operations.num? v with
    | some (.int n) => return .int n.natAbs
    | some (.float x) => return .float x.abs
    | some (.fraction n d) => return .fraction n.natAbs d
    | some (.decimal d) => return .decimal (← checked (Numbers.ofDecimal (d.absolute.plus (← get).decimals)))
    | some (.complex x y) => return .float (x * x + y * y).sqrt
    | none => typeError ("bad operand type for abs(): '" ++ (← kindName v) ++ "'")

def summed (r : Running) (args : List Value) (named : List (String × Value)) : Eval Value := do
  let start := ((args[1]?).orElse fun _ => named.lookup "start").getD (.int 0)
  match start with
  | .text _ => typeError "sum() can't sum strings [use ''.join(seq) instead]"
  | .bytes _ => typeError "sum() can't sum bytes [use b''.join(seq) instead]"
  | _ => pure ()
  match args.head? with
  | some v => (← r.items v).foldlM (Operations.arith r .add false) start
  | none => typeError "sum() takes at least 1 positional argument (0 given)"

def hashed (r : Running) (v : Value) : Eval Value := do
  match v with
  | .object _ =>
    match ← special? v "__hash__" with
    | some .nothing => unhashable (← kindName v)
    | some f => return ← r.call f [] []
    | none => pure ()
  | _ => pure ()
  let key ← keyOf r v
  let w ← core v
  match Sets.hash? w with
  | some h => return .int (if h < Nat.pow 2 63 then (h : Int) else (h : Int) - 18446744073709551616)
  | none =>
    /- Other hash values differ from run to run; equal values have the same. -/
    let h := key.toList.foldl (fun (h : Nat) c => (h * 1000003 + c.toNat) % Nat.pow 2 61) 5381
    return .int h

def decides (r : Running) (next : Eval (Option Value)) (wanted : Bool) : Nat → Eval Bool
  | 0 => return false
  | n + 1 => do
    match ← next with
    | none => return false
    | some v => if (← r.truth v) == wanted then return true else decides r next wanted n

def isCallable (v : Value) : Eval Bool := do
  match v with
  | .function _ | .builtin _ | .kind _ | .ownKind _ | .generic _ _ | .bound _ _ | .method _ _ | .kept _ _ => return true
  | .object _ => return (← special? v "__call__").isSome
  | _ => return false

def function (r : Running) (name : String) (args : List Value) (named : List (String × Value)) :
    Eval Value := do
  let arg (i : Nat) : Value := (args[i]?).getD .nothing
  let marked (mark : String) (base : Nat) : Eval Value := do
    let n ← intArgument r (arg 0)
    return .text ((if n < 0 then "-" else "") ++ mark ++ String.ofList (Nat.toDigits base n.natAbs))
  if singleNames.contains name && args.length != 1 then
    typeError (name ++ "() takes exactly one argument (" ++ toString args.length ++ " given)")
  match name with
  | "print" => printed r args named
  | "input" => input r args
  | "len" => length r (arg 0)
  | "abs" => absolute r (arg 0)
  | "min" | "max" => extreme r name args named
  | "sum" => summed r args named
  | "sorted" =>
    if args.isEmpty then typeError "sorted expected 1 argument, got 0"
    newList (← Containers.sorted r (← r.items (arg 0)) named)
  | "any" =>
    let id ← r.cursor (arg 0)
    return .bool (← decides r (r.next id) true Channels.maxRounds)
  | "all" =>
    let id ← r.cursor (arg 0)
    return .bool !(← decides r (r.next id) false Channels.maxRounds)
  | "ord" =>
    match ← core (arg 0) with
    | .text s | .bytes s =>
      match s.toList with
      | [c] => return .int c.toNat
      | cs => typeError ("ord() expected a character, but string of length " ++ toString cs.length ++ " found")
    | v => typeError ("ord() expected string of length 1, but " ++ (← kindName v) ++ " found")
  | "chr" =>
    let n ← intArgument r (arg 0)
    if n < 0 || 0x110000 ≤ n then valueError "chr() arg not in range(0x110000)"
    return .text (String.singleton (Char.ofNat n.toNat))
  | "hex" => marked "0x" 16
  | "oct" => marked "0o" 8
  | "bin" => marked "0b" 2
  | "round" => rounded r args named
  | "pow" => power r (args ++ (["base", "exp", "mod"].filterMap fun k => named.lookup k))
  | "divmod" => divided r (arg 0) (arg 1)
  | "repr" => return .text (← shown r.own Shown.maxDepth (arg 0))
  | "ascii" => return .text (Layouts.asciiText (← shown r.own Shown.maxDepth (arg 0)))
  | "isinstance" => return .bool (← isInstance r (arg 0) (arg 1))
  | "issubclass" =>
    match arg 0 with
    | .kind _ | .ownKind _ =>
      return .bool (← isKindOf r "issubclass() arg 2 must be a class" Kinds.maxKinds (arg 0) (arg 1))
    | _ => typeError "issubclass() arg 1 must be a class"
  | "callable" => return .bool (← isCallable (arg 0))
  | "iter" =>
    match args with
    | [f, last] => return .stream (← newStream (.calls f last))
    | _ =>
      match ← special? (arg 0) "__iter__" with
      | some f => r.call f [] []
      | none => return .stream (← r.cursor (arg 0))
  | "next" =>
    let ended : Eval Value := do
      match args[1]? with
      | some v => return v
      | none => raise (.error "StopIteration" [])
    match arg 0 with
    | .stream id =>
      match ← r.next id with
      | some v => return v
      | none =>
        match ((← get).streams[id]?), args[1]? with
        | some (.finished .nothing), _ => ended
        | some (.finished v), none => raise (.error "StopIteration" [v])
        | _, _ => ended
    | .channel _ _ =>
      match ← r.next (← r.cursor (arg 0)) with
      | some v => return v
      | none => ended
    | v =>
      match ← special? v "__next__" with
      | some f =>
        try r.call f [] []
        catch
          | .raised e => do
            match ← Kinds.errorKind? e.value, args[1]? with
            | some "StopIteration", some w => return w
            | _, _ => throw (.raised e)
          | l => throw l
      | none => typeError ("'" ++ (← kindName v) ++ "' object is not an iterator")
  | "id" => return .int ((arg 0).identity.toList.foldl (fun (h : Nat) (c : Char) => (h * 31 + c.toNat) % Nat.pow 2 32) 140000000000000 : Nat)
  | "hash" => hashed r (arg 0)
  | "open" =>
    let mode := match (args[1]?).orElse fun _ => named.lookup "mode" with
      | some (.text s) => s
      | _ => "r"
    Paths.openFile (((args[0]?).orElse fun _ => named.lookup "file").getD .nothing) mode
  | "format" =>
    match args.tail.head? with
    | some (.text layout) => return .text (← Layouts.formatted r (arg 0) layout)
    | _ => return .text (← Layouts.formatted r (arg 0) "")
  | _ => raise (.error "SystemExit" args)

end PartitionTest.Shell.Objects.Builtins
