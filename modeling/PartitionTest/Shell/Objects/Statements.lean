import PartitionTest.Shell.Objects.Fitting
import PartitionTest.Shell.Objects.Library

/-! Carrying out statements. -/
namespace PartitionTest.Shell.Objects.Statements

open Memory Shown Calls Names Expressions

def whileHandled (e : Raised) (body : Eval α) : Eval α := do
  let before := (← get).handled
  modify fun m => { m with handled := e :: before }
  let a ← try body
    catch l => do
      modify fun m => { m with handled := before }
      throw l
  modify fun m => { m with handled := before }
  return a

def caught (e : Raised) : Eval Raised := do
  let depth := (← get).depth
  return match e with
    | .of v trace before isCause => .of v (trace.drop (depth - 1)) before isCause

def isStop (e : Raised) : Eval Bool := do
  return ((← Kinds.errorKind? e.value).map fun k => isErrorOf k "StopIteration").getD false

def stop (v : Value) : Eval α :=
  raise (.error "StopIteration" (match v with
    | .nothing => []
    | v => [v]))

def noModule (path : String) : Eval α := fail "ModuleNotFoundError" ("No module named '" ++ path ++ "'")

def isModule (path : String) : Eval Bool := do
  return (Modules.names.lookup path).isSome || (Library.source? path).isSome || (← Members.loaded? path).isSome

def fileless : List String := ["sys", "time", "itertools", "builtins", "signal", "gc", "math", "cmath", "_random", "atexit"]

def packages : List String := ["json", "collections", "re", "ctypes", "concurrent", "importlib", "logging", "unittest"]

def placeOf (path : String) : String :=
  if fileless.contains path then "unknown location"
  else "/usr/local/lib/python3.11/" ++ path.replace "." "/" ++ (if packages.contains path then "/__init__.py" else ".py")

def errorOf (r : Running) (v : Value) : Eval Value := do
  let v ← match v with
    | .kind _ | .ownKind _ => r.call v [] []
    | v => pure v
  match ← Kinds.errorKind? v with
  | some _ => return v
  | none => typeError "exceptions must derive from BaseException"

def handles : Nat → Value → Value → Eval Bool
  | 0, _, _ => return false
  | n + 1, kind, error => do
    match kind with
    | .tuple ks => ks.anyM fun k => handles n k error
    | .kind k =>
      if !isErrorKind k && k != "object" then
        typeError "catching classes that do not inherit from BaseException is not allowed"
      Kinds.isPartOf (← Kinds.of error) kind
    | .ownKind k =>
      let isError := ((← Kinds.base? k).map isErrorKind).getD false
      if !isError then typeError "catching classes that do not inherit from BaseException is not allowed"
      Kinds.isPartOf (← Kinds.of error) kind
    | _ => typeError "catching classes that do not inherit from BaseException is not allowed"

def handler (r : Running) (e : Value) : Handlers → Eval (Option (Option String × List Statement))
  | [] => return none
  | (kind, name, body) :: rest => do
    let fits ← match kind with
      | some k => do handles Kinds.maxKinds (← evaluate r k) e
      | none => pure true
    if fits then return some (name, body) else handler r e rest

/-- Does what is to be done about an error; `run` carries out statements. -/
def handle (r : Running) (run : List Statement → Eval Unit) (e : Raised) (handlers : Handlers) : Eval Unit := do
  match ← whileHandled e (handler r e.value handlers) with
  | none => throw (.raised e)
  | some (name, body) =>
    whileHandled (← caught e) do
      name.forM fun s => assignName s e.value
      try run body
      catch l => do
        name.forM forget
        throw l
      name.forM forget

def enter (r : Running) (v : Value) : Eval Value := do
  match v with
  | .channel _ _ => return v
  | v =>
    match ← special? v "__enter__", ← special? v "__exit__" with
    | some f, some _ => r.call f [] []
    | none, _ => typeError ("'" ++ (← kindName v) ++ "' object does not support the context manager protocol")
    | some _, none =>
      typeError ("'" ++ (← kindName v) ++ "' object does not support the context manager protocol " ++
        "(missed __exit__ method)")

/-- Ends a block with a value; whether the error that ends it counts as dealt with. -/
def leave (r : Running) (v : Value) (e : Option Raised) : Eval Bool := do
  match v with
  | .channel k _ =>
    Channels.close k
    return false
  | v =>
    match ← special? v "__exit__", e with
    | none, _ => return false
    | some f, none =>
      let _ ← r.call f [.nothing, .nothing, .nothing] []
      return false
    | some f, some e =>
      whileHandled e do r.truth (← r.call f [← Kinds.of e.value, e.value, .nothing] [])

def newFunctionOf (r : Running) (name : String) (params : List (String × Taking × Option Expr))
    (notes : List (String × Expr)) (body : List Statement) (own : List String) (isStream : Bool) : Eval Value := do
  let params ← defaults r maxNesting params
  let notes ← notes.mapM fun (s, e) => do return (s, ← evaluate r e)
  let scope ← scopeAt (← get).scope
  newFunction {
    name, params, body := .statements body, scope := ← scopeAround, own, isStream
    path := scope.lead ++ name, home := if scope.isKind then scope.home else none
    isInner := ← isInner, doc := docOf body, notes }

/-- A kind as a definition makes it; `run` carries out its statements. -/
def newKindOf (r : Running) (run : List Statement → Eval Unit) (name : String) (bases : List (Giving × Expr))
    (body : List Statement) : Eval Value := do
  let (given, named) ← arguments r maxNesting .nothing bases
  let bases ← given.mapM fun b => do
    match ← special? b "__mro_entries__" with
    | some f =>
      match ← r.call f [.tuple given] [] with
      | .tuple vs => return vs
      | _ => return []
    | none => return [match b with
        | .generic k _ => k
        | b => b]
  let bases := bases.flatten
  let others := named.filter fun (s, _) => s != "metaclass"
  let outer := (← get).scope
  let path := (← scopeAt outer).lead ++ name
  let id ← Creation.reserve name path
  let above ← Creation.aboveOf (match named.lookup "metaclass" with
    | some (.ownKind a) => some a
    | _ => none) bases
  let ready ← match above with
    | none => pure none
    | some a => do
      match ← kindMember? a "__prepare__" with
      | some f => do
        match ← core (← r.call (boundTo (.ownKind a) (.ownKind a) f) [.text name, .tuple bases] others) with
        | .dict d => some <$> dictAt d
        | _ => pure none
      | none => pure none
  let empty : Scope := { parent := some outer, isKind := true, home := some id, lead := path ++ "." }
  let scope ← newScope (match ready with
    | some d => empty.withNames d
    | none => empty)
  inFrame name (← isInner) <| inScope scope do
    match docOf body with
    | .nothing => pure ()
    | doc => assign "__doc__" doc
    run body
  let names ← namesOf scope
  let members ← putDict (names.foldl (fun d (s, v) => d.setName s v) {})
  modify fun m => { m with kinds := m.kinds.modify id fun k => { k with members := members } }
  let args : List Value := [.text name, .tuple bases, .dict members]
  match named.lookup "metaclass" with
  | some (.ownKind a) =>
    let above := (← Creation.aboveOf (some a) bases).getD a
    r.call (.ownKind above) args others
  | none | some (.kind _) =>
    match ← Creation.aboveOf none bases with
    | some above => r.call (.ownKind above) args others
    | none => Creation.kind r none name bases members others
  | some f => r.call f args others

def maxPath : Nat := 100

/-- The module of a path, which is made ready if it is a script itself; `run` carries it out. -/
def moduleAt (run : List Statement → Eval Unit) : Nat → String → Eval Value
  | 0, path => return .module path
  | n + 1, path => do
    let parts := path.splitOn "."
    if 1 < parts.length then
      let outer := String.intercalate "." parts.dropLast
      if !(← isModule outer) then noModule (parts.headD path)
      if !(← isModule path) then
        fail "ModuleNotFoundError" ("No module named '" ++ path ++ "'" ++
          (if packages.contains outer then "" else "; '" ++ outer ++ "' is not a package"))
      let _ ← moduleAt run n outer
    if !(← isModule path) then noModule path
    match Library.source? path, ← Members.loaded? path with
    | some source, none =>
      match Reader.script source with
      | .error f => fail f.kind (f.message ++ " (" ++ path ++ ", line " ++ toString f.line ++ ")")
      | .ok all =>
        let id ← Members.moduleScope path
        let before := (← get).module
        let setModule (s : Option String) : Eval Unit := modify fun m => { m with module := s }
        setModule (some path)
        try
          inFrame "<module>" true <| inScope id do
            assign "__name__" (.text path)
            run all
        catch l => do
          setModule before
          throw l
        setModule before
    | _, _ => pure ()
    return .module path

def memberOfModule (run : List Statement → Eval Unit) (path s : String) : Eval Value := do
  match ← Members.moduleMember? path s with
  | some v => return v
  | none =>
    let inner := path ++ "." ++ s
    if ← isModule inner then moduleAt run maxPath inner
    else fail "ImportError" ("cannot import name '" ++ s ++ "' from '" ++ path ++ "' (" ++ placeOf path ++ ")")

mutual

def defined (r : Running) : Nat → Statement → Eval Value
  | 0, _ => return .nothing
  | n + 1, s => do
    match s with
    | .at line s =>
      setLine line
      defined r n s
    | .define name params notes body own isStream => newFunctionOf r name params notes body own isStream
    | .kind name bases body => newKindOf r (fun all => execAll r n all) name bases body
    | .decorated makers definition =>
      let fs ← makers.mapM (evaluate r)
      let v ← defined r n definition
      fs.reverse.foldlM (fun v f => r.call f [v] []) v
    | _ => return .nothing

def exec (r : Running) : Nat → Statement → Eval Unit
  | 0, _ => fail "RecursionError" "maximum recursion depth exceeded"
  | n + 1, st => do
    match st with
    | .at line s =>
      setLine line
      exec r n s
    | .nothing => pure ()
    | .expr e =>
      let _ ← evaluate r e
    | .assign targets e =>
      let v ← evaluate r e
      targets.forM fun t => put r t v
    | .update op target e =>
      match target with
      | .item place index =>
        let w ← evaluate r place
        let i ← evaluate r index
        let before ← Operations.item r w i
        let after ← Operations.arith r op true before (← evaluate r e)
        Operations.setItem r w i after
      | .member place name =>
        let name ← mangled name
        let w ← evaluate r place
        let before ← Members.member r w name
        let after ← Operations.arith r op true before (← evaluate r e)
        Members.set r w name after
      | target =>
        let before ← evaluate r target
        let after ← Operations.arith r op true before (← evaluate r e)
        put r target after
    | .annotate target note value =>
      match value with
      | some e => do put r target (← evaluate r e)
      | none => pure ()
      let scope ← scopeAt (← get).scope
      if scope.function.isNone then
        let note ← evaluate r note
        if let .name s := target then
          match scope.names["__annotations__"]? with
          | some (.dict id) => changeDict id (·.setName s note)
          | _ => do assign "__annotations__" (← newNames [(s, note)])
    | .choice test yes no =>
      if ← r.truth (← evaluate r test) then execAll r n yes else execAll r n no
    | .select subject cases =>
      match ← Fitting.selected r (← evaluate r subject) cases with
      | some body => execAll r n body
      | none => pure ()
    | .loop test body after =>
      let line ← currentLine
      let goes : Eval Bool := do
        setLine line
        r.truth (← evaluate r test)
      if ← repeatWhile goes (execAll r n body) maxRounds then execAll r n after
    | .each target items body after =>
      let line ← currentLine
      let id ← r.cursor (← evaluate r items)
      let take : Eval (Option Value) := do
        setLine line
        r.next id
      let round (v : Value) : Eval Unit := do
        put r target v
        execAll r n body
      if ← repeatFor take round maxRounds then execAll r n after
    | .define name _ _ _ _ _ | .kind name _ _ => do assignName name (← defined r n st)
    | .decorated _ _ =>
      let v ← defined r n st
      st.made?.forM fun name => assignName name v
    | .return none => throw (.return .nothing)
    | .return (some e) => throw (.return (← evaluate r e))
    | .leave => throw .leave
    | .again => throw .again
    | .raise none _ =>
      match (← get).handled with
      | .of v trace before isCause :: _ =>
        throw (.raised (.of v ((← get).frames.tail.reverse ++ trace) before isCause))
      | [] => fail "RuntimeError" "No active exception to reraise"
    | .raise (some e) none =>
      let v ← errorOf r (← evaluate r e)
      let m ← get
      match m.handled with
      | .of w trace before isCause :: _ =>
        if Kinds.isSame v w then throw (.raised (.of v (m.frames.reverse ++ trace) before isCause)) else raise v
      | [] => raise v
    | .raise (some e) (some cause) =>
      let v ← errorOf r (← evaluate r e)
      let c ← evaluate r cause
      let c ← match c with
        | .kind _ | .ownKind _ => r.call c [] []
        | c => pure c
      let m ← get
      let before : Option Raised ← match c with
        | .nothing => pure none
        | c => do
          if (← Kinds.errorKind? c).isNone then typeError "exception causes must derive from BaseException"
          match m.handled.find? fun e => Kinds.isSame e.value c with
          | some e => pure (some e)
          | none => pure (some (.of c [] none false))
      throw (.raised (.of v m.frames.reverse before true))
    | .attempt body handlers after last =>
      let all : Eval Unit := do
        let failed : Option Raised ← try
            execAll r n body
            pure none
          catch
            | .raised e => pure (some e)
            | l => throw l
        match failed with
        | none => execAll r n after
        | some e => handle r (fun all => execAll r n all) e handlers
      try all
      catch l => do
        match l with
        | .raised e => do whileHandled (← caught e) (execAll r n last)
        | _ => execAll r n last
        throw l
      execAll r n last
    | .using [] body => execAll r n body
    | .using ((e, target) :: rest) body =>
      let v ← evaluate r e
      let entered ← enter r v
      let failed ← try
          target.forM fun t => put r t entered
          exec r n (.using rest body)
          pure none
        catch l => pure (some l)
      match failed with
      | none =>
        let _ ← leave r v none
      | some (.raised e) =>
        if !(← leave r v (some e)) then throw (.raised e)
      | some l =>
        let _ ← leave r v none
        throw l
    | .assert test message =>
      unless ← r.truth (← evaluate r test) do
        let args ← message.toList.mapM (evaluate r)
        raise (.error "AssertionError" args)
    | .delete targets => targets.forM (deleteFrom r maxNesting)
    | .use path name =>
      let m ← moduleAt (fun all => execAll r n all) maxPath path
      match name.splitOn "." with
      | first :: _ :: _ => assign first (.module first)
      | _ => assignName name m
    | .take path names =>
      let _ ← moduleAt (fun all => execAll r n all) maxPath path
      let offered := (← Members.moduleNames path).filter fun s => !s.startsWith "_"
      let all := if names.map (·.1) == ["*"] then offered.map fun s => (s, s) else names
      all.forM fun (s, given) => do assignName given (← memberOfModule (fun all => execAll r n all) path s)
    | .outer isWhole names =>
      let id := (← get).scope
      changeScope id fun s =>
        if isWhole then { s with whole := names ++ s.whole } else { s with around := names ++ s.around }

def execAll (r : Running) : Nat → List Statement → Eval Unit
  | 0, _ | _, [] => pure ()
  | n + 1, s :: rest => do
    exec r n s
    execAll r n rest

end

/-- How deep statements are nested at most, counted with those in front of them. -/
def maxStatements : Nat := 1000000000

def runAll (r : Running) (all : List Statement) : Eval Unit := execAll r maxStatements all

end PartitionTest.Shell.Objects.Statements
