import PartitionTest.Shell.Records.Streams
import PartitionTest.Shell.Utility.Calendar

/-! Carrying out programs of the language. -/
namespace PartitionTest.Shell.Records.Evaluation

open Machine Memory

def wrapped (n : Int) : Int := (n + 2147483648) % 4294967296 - 2147483648

def halfWord (x : Float) : Int := wrapped (Value.toWord x)

def part (s : String) (start : Float) (length : Option Float) : String :=
  let cs := s.toList
  let first := halfWord start
  match length with
  | none => String.ofList (cs.drop (first - 1).toNat)
  | some length =>
    let count := halfWord length
    let count := if first < 1 then wrapped (count - first) else count
    String.ofList ((cs.drop (first - 1).toNat).take count.toNat)

def position (whole sought : List Char) : Nat :=
  ((List.range (whole.length + 1)).find? fun i => sought.isPrefixOf (whole.drop i)).elim 0 (· + 1)

/-- What a replacement stands for, given what was found: an ampersand stands
for it unless a backslash is in front. -/
def replacement (found : List Char) : List Char → List Char
  | '\\' :: '\\' :: '&' :: rest => '\\' :: found ++ replacement found rest
  | '\\' :: '&' :: rest => '&' :: replacement found rest
  | '&' :: rest => found ++ replacement found rest
  | c :: rest => c :: replacement found rest
  | [] => []

/-- A text with one match or all of them replaced, and how many there were. An
empty match right behind another one does not count. -/
def substituted (r : Regex) (all : Bool) (by' : List Char) :
    Nat → Bool → Regex.Spot → List Char × Nat
  | 0, _, s => (s.rest, 0)
  | n + 1, behindMatch, s =>
    match r.find? false s with
    | none => (s.rest, 0)
    | some m =>
      let before := s.between m.origin
      let isIdle := m.isEmpty && behindMatch && before.isEmpty
      let shown := before ++ if isIdle then [] else replacement m.text by'
      let counted := if isIdle then 0 else 1
      if !all then (shown ++ m.rest, counted)
      else if m.isEmpty then
        match m.ending.over? fun _ => true with
        | none => (shown, counted)
        | some next =>
          let (text, count) := substituted r all by' n false next
          (shown ++ m.rest.take 1 ++ text, count + counted)
      else
        let (text, count) := substituted r all by' n true m.ending
        (shown ++ text, count + counted)

def roundTime : Nat := 1

def tick : Eval Unit := (pass roundTime : Run Unit)

def withPending (count : Nat) (body : Eval α) : Eval α := do
  modify fun m => { m with stack := m.stack + count }
  let a ← body
  modify fun m => { m with stack := m.stack - count }
  return a

def maxStack : Nat := 1006

def maxCalls : Nat := 3000

def variableAt (p : Place) : Eval Value := do
  match p with
  | .outer name => scalar name
  | .inner i =>
    match ((← get).frame[i]?).getD (.value .nothing) with
    | .value v => return v
    | .table _ => return .nothing

def setVariable (p : Place) (v : Value) : Eval Unit := do
  match p with
  | .outer name => assign name v
  | .inner i => modify fun m => { m with frame := m.frame.setIfInBounds i (.value v) }

def joinedKey : List Value → Eval (String ⊕ Int)
  | [v] => keyOf v
  | vs => do
    let glue ← scalarText "SUBSEP"
    return .inl (String.intercalate glue (← vs.mapM words))

/-- A place to which a value can be assigned, with its parts known. -/
inductive Target where
  | variable (p : Place)
  | field (n : Nat)
  | element (table : Nat) (key : String ⊕ Int)

def Target.read : Target → Eval Value
  | .variable p => variableAt p
  | .field n => Memory.field n
  | .element id key => do
    changeTable id (·.touch key)
    return (← table id).get key

def Target.write (t : Target) (v : Value) : Eval Unit := do
  match t with
  | .variable p => setVariable p v
  | .field n => setField n v
  | .element id key => changeTable id fun t => (t.touch key).set key v

def assigned (t : Target) (v : Value) : Eval Value := do
  t.write v
  return v

def number (x : Float) : Value := .number x

def ofNat (n : Nat) : Value := .number (Number.ofInt n)

def now : Eval Nat := do
  return Utility.Calendar.start.seconds.toNat + (← (get : Run Machine)).clock / 1000000

def nextRandom : Eval Float := do
  let n := ((← get).random * 16807) % 2147483647
  modify fun m => { m with random := n }
  return Number.ofFraction false n 2147483647

def callBuiltin (start : Starter) (b : Builtin) (args : List Value) : Eval Value := do
  let first := args.headD .nothing
  let second := (args[1]?).getD .nothing
  let x := first.toNumber
  match b with
  | .length => return ofNat (← words first).length
  | .substr =>
    return .text (part (← words first) second.toNumber ((args[2]?).map Value.toNumber))
  | .index => return ofNat (position (← words first).toList (← words second).toList)
  | .lower => return .text (String.ofList ((← words first).toList.map Char.toLower))
  | .upper => return .text (String.ofList ((← words first).toList.map Char.toUpper))
  | .int => return number (match Number.toInt? x with
      | some n => Number.ofInt n
      | none => x)
  | .sqrt => return number x.sqrt
  | .exp => return number x.exp
  | .log => return number x.log
  | .sin => return number x.sin
  | .cos => return number x.cos
  | .atan2 => return number (Float.atan2 x second.toNumber)
  | .rand => return number (← nextRandom)
  | .srand =>
    let before := (← get).seed
    let seed ← if args.isEmpty then do pure (ofNat (← now)) else pure first
    let bits := seed.toNumber.toBits.toNat
    modify fun m => { m with seed := seed, random := bits % 2147483646 + 1 }
    return before
  | .sprintf =>
    let format ← words first
    let printed := Printing.print "sprintf" format args.tail (Printing.words (← textFormat))
    match printed.fault with
    | some reason => fault reason
    | none => return .text printed.text
  | .system =>
    let command ← words first
    flushAll
    let finished ← (inSubshell (Streams.command start command) : Run End)
    return number (Number.ofInt (Streams.statusOf finished))
  | .close => Streams.close start (← words first)
  | .flush =>
    flushAll
    let isOpen ← if args.isEmpty then pure true else do
      let name ← words first
      pure ((standard? name).isSome || ((← get).outputs.lookup name).isSome)
    return number (if isOpen then 0.0 else -1.0)
  | .time => return ofNat (← now)
  | .timeText =>
    let format ← if args.isEmpty then pure "%c" else words first
    let seconds ← if args.length < 2 then pure ((← now) : Int) else pure (Value.toWord second.toNumber)
    return .text (Utility.Calendar.format ⟨seconds, 0⟩ (format.length + 10) format.toList)
  | .timeOf =>
    let parts := ((Text.split isBlank (← words first).toList).filter (!·.isEmpty)).map fun cs =>
      (String.ofList cs).toInt?
    match parts with
    | [some year, some month, some day, some hour, some minute, some second] =>
      let days := Utility.Calendar.dayNumber year month day
      return number (Number.ofInt (days * 86400 + hour * 3600 + minute * 60 + second))
    | _ => return number (-1.0)
  | .split | .sub | .gsub | .matches => return .nothing

def once (body : Eval Unit) : Eval Bool := do
  tick
  try
    body
    return true
  catch
    | .leave => return false
    | .again => return true
    | l => throw l

def maxRounds : Nat := 1000000000

def repeatWhile (test : Eval Bool) (body step : Eval Unit) : Nat → Eval Unit
  | 0 => pure ()
  | n + 1 => do
    if ← test then
      if ← once body then
        step
        repeatWhile test body step n

def repeatUntil (test : Eval Bool) (body : Eval Unit) : Nat → Eval Unit
  | 0 => pure ()
  | n + 1 => do
    if ← once body then
      if ← test then repeatUntil test body n

def repeatFor (take : String → Eval Unit) (body : Eval Unit) : List String → Eval Unit
  | [] => pure ()
  | key :: keys => do
    take key
    if ← once body then repeatFor take body keys

def inFrame (frame : Array Slot) (body : Eval Unit) : Eval Value := do
  let before := (← get).frame
  let stack := (← get).stack + frame.size
  if maxStack < stack then throw (.fault "program limit exceeded: eval stack size=1024" false)
  if maxCalls < (← get).calls then throw (.fault "" false)
  modify fun m => { m with frame := frame, stack := stack, calls := m.calls + 1 }
  tick
  let v ← try
      body
      pure Value.nothing
    catch
      | .return v => pure v
      | l => throw l
  modify fun m => { m with frame := before, stack := stack - frame.size, calls := m.calls - 1 }
  return v

def regexFor (e : Expr) (v : Eval Value) : Eval Regex := do
  match e with
  | .pattern _ r => return r
  | _ => regexOf (← words (← v))

mutual

def eval (s : Script) (start : Starter) : Nat → Expr → Eval Value
  | 0, _ => fault "program limit exceeded"
  | n + 1, e => do
    match e with
    | .number x => return .number x
    | .text t => return .text t
    | .pattern _ r =>
      return .ofBool (r.occurs false (← get).record.toList)
    | .plain e => eval s start n e
    | .scalar p => variableAt p
    | .array _ => return .nothing
    | .field _ | .element _ _ => (← targetOf s start n e).read
    | .assign t e =>
      match t with
      | .scalar p =>
        let v ← eval s start n e
        assigned (.variable p) v
      | t =>
        let target ← targetOf s start n t
        let v ← withPending 1 (eval s start n e)
        assigned target v
    | .update op t e =>
      let target ← targetOf s start n t
      let v ← withPending 1 (eval s start n e)
      let before ← target.read
      assigned target (.number (Value.arith op before.toNumber v.toNumber))
    | .step isBefore amount t =>
      let target ← targetOf s start n t
      let before := (← target.read).toNumber
      let v ← assigned target (.number (before + amount))
      return if isBefore then v else .number before
    | .choice test yes no =>
      if (← eval s start n test).isTrue then eval s start n yes else eval s start n no
    | .either a b =>
      if (← eval s start n a).isTrue then return .ofBool true
      else return .ofBool (← eval s start n b).isTrue
    | .both a b =>
      if (← eval s start n a).isTrue then return .ofBool (← eval s start n b).isTrue
      else return .ofBool false
    | .isIn keys p =>
      let key ← joinedKey (← evalAll s start n keys)
      let id ← tableOf p
      let has := (← table id).contains key
      if has then changeTable id (·.touch key)
      return .ofBool has
    | .found negated e pattern =>
      let text ← words (← eval s start n e)
      let r ← regexFor pattern (withPending 1 (eval s start n pattern))
      return .ofBool (r.occurs false text.toList != negated)
    | .compare op a b =>
      let x ← eval s start n a
      let y ← withPending 1 (eval s start n b)
      return .ofBool (Value.compare op (Printing.words (← textFormat)) x y)
    | .concat a b =>
      let x ← words (← eval s start n a)
      let y ← words (← withPending 1 (eval s start n b))
      return .text (x ++ y)
    | .arith op a b =>
      let x := (← eval s start n a).toNumber
      let y := (← withPending 1 (eval s start n b)).toNumber
      return .number (Value.arith op x y)
    | .not e => return .ofBool !(← eval s start n e).isTrue
    | .negate e => return .number (-(← eval s start n e).toNumber)
    | .plus e => return .number (← eval s start n e).toNumber
    | .builtin b args => evalBuiltin s start n b args
    | .call name args =>
      match s.functions.lookup name with
      | none => fault ("function " ++ name ++ " never defined")
      | some f =>
        let given ← slots s start n f.roles args
        let frame := given ++ ((f.roles.drop given.length).map fun _ => Slot.value .nothing)
        inFrame frame.toArray (exec s start n f.body)
    | .getline kind source place =>
      let target ← match place with
        | some t => some <$> targetOf s start n t
        | none => pure none
      let keep (r : String) : Eval Unit :=
        match target with
        | some t => t.write (.input r)
        | none => setRecord r
      match source with
      | some e =>
        let name ← words (← eval s start n e)
        Streams.readFrom start kind name keep
      | none =>
        match ← Streams.mainRecord Streams.maxArguments with
        | some r =>
          Streams.count
          keep r
          return .number 1.0
        | none => return .number 0.0

def evalAll (s : Script) (start : Starter) : Nat → List Expr → Eval (List Value)
  | 0, _ | _, [] => return []
  | n + 1, e :: es => do
    let v ← eval s start n e
    return v :: (← withPending 1 (evalAll s start n es))

def slots (s : Script) (start : Starter) : Nat → List Role → List Expr → Eval (List Slot)
  | 0, _, _ | _, _, [] | _, [], _ => return []
  | n + 1, role :: roles, e :: es => do
    let slot ← match role, e with
      | .array, .scalar p => Slot.table <$> tableOf p
      | _, e => Slot.value <$> eval s start n e
    return slot :: (← withPending 1 (slots s start n roles es))

def targetOf (s : Script) (start : Starter) : Nat → Expr → Eval Target
  | 0, _ => return .field 0
  | n + 1, e => do
    match e with
    | .scalar p => return .variable p
    | .field e => return .field (← indexOf (← eval s start n e))
    | .element p keys =>
      let key ← joinedKey (← evalAll s start n keys)
      return .element (← tableOf p) key
    | .plain e => targetOf s start n e
    | _ => return .field 0

def evalBuiltin (s : Script) (start : Starter) : Nat → Builtin → List Expr → Eval Value
  | 0, _, _ => return .nothing
  | n + 1, b, args => do
    let substitute (all : Bool) (pattern by' : Expr) (place : Expr) : Eval Value := do
      let r ← regexFor pattern (eval s start n pattern)
      let by' ← words (← withPending 1 (eval s start n by'))
      let target ← targetOf s start n place
      let text := (← words (← target.read)).toList
      let (changed, count) := substituted r all by'.toList (text.length + 2) false
        (.ofText text)
      if 0 < count then target.write (.text (String.ofList changed))
      return ofNat count
    match b, args with
    | .length, [] => return ofNat (← get).record.length
    | .length, [.scalar p] =>
      let isTable ← match p with
        | .outer name => pure (s.arrays.contains name)
        | .inner i => do
          match (← get).frame[i]? with
          | some (.table _) => pure true
          | _ => pure false
      if isTable then return ofNat (← table (← tableOf p)).size
      else callBuiltin start b [← variableAt p]
    | .sub, [r, t] => substitute false r t (.field (.number 0.0))
    | .sub, [r, t, place] => substitute false r t place
    | .gsub, [r, t] => substitute true r t (.field (.number 0.0))
    | .gsub, [r, t, place] => substitute true r t place
    | .matches, [e, pattern] =>
      let text ← words (← eval s start n e)
      let r ← regexFor pattern (withPending 1 (eval s start n pattern))
      let (first, length) := match Regex.search? false r text.toList with
        | some m => (number (Number.ofInt (m.origin.place + 1)), number (Number.ofInt m.text.length))
        | none => (number 0.0, number (-1.0))
      setScalar "RSTART" first
      setScalar "RLENGTH" length
      return first
    | .split, e :: .array p :: rest =>
      let text ← words (← eval s start n e)
      let separator ← match rest with
        | [] => separatorOf (← scalarText "FS")
        | .pattern _ r :: _ => pure (Separator.regex r)
        | e :: _ => separatorOf (← words (← eval s start n e))
      let all := parts separator text
      let id ← tableOf p
      changeTable id fun _ => Table.ofList all
      return ofNat all.length
    | b, args => callBuiltin start b (← evalAll s start n args)

def exec (s : Script) (start : Starter) : Nat → Statement → Eval Unit
  | 0, _ => fault "program limit exceeded"
  | n + 1, st => do
    match st with
    | .nothing => pure ()
    | .block body => execAll s start n body
    | .expr e =>
      let _ ← eval s start n e
    | .print formatted args target =>
      let values ← evalAll s start n args
      let (text, problem) ← if formatted then do
          let printed := Printing.print "printf" (← words (values.headD .nothing)) values.tail
            (Printing.words (← textFormat))
          pure (printed.text, printed.fault)
        else do
          let format ← scalarText "OFMT"
          let record := (← get).record
          let shown := if args.isEmpty then [record] else values.map (Printing.text format)
          pure (String.intercalate (← scalarText "OFS") shown ++ (← scalarText "ORS"), none)
      match target with
      | none => emit text
      | some (kind, e) => Streams.writeTo kind (← words (← eval s start n e)) text
      if let some reason := problem then fault reason
    | .choice test yes no =>
      if (← eval s start n test).isTrue then exec s start n yes else exec s start n no
    | .loop test step body =>
      let goes : Eval Bool := match test with
        | some e => do return (← eval s start n e).isTrue
        | none => pure true
      repeatWhile goes (exec s start n body) (exec s start n step) maxRounds
    | .loopAfter body test =>
      repeatUntil (do return (← eval s start n test).isTrue) (exec s start n body) maxRounds
    | .each name p body =>
      let id ← tableOf p
      let (keys, t) := (← table id).keys
      changeTable id fun _ => t
      let target ← targetOf s start n name
      repeatFor (fun key => target.write (.text key)) (exec s start n body) keys
    | .leave => throw .leave
    | .again => throw .again
    | .next isFile => throw (if isFile then .nextFile else .next)
    | .exit none => throw (.exit none)
    | .exit (some e) => throw (.exit (some (Value.toWord (← eval s start n e).toNumber)))
    | .return none => throw (.return .nothing)
    | .return (some e) => throw (.return (← eval s start n e))
    | .delete p none =>
      let id ← tableOf p
      changeTable id fun _ => {}
    | .delete p (some keys) =>
      let key ← joinedKey (← evalAll s start n keys)
      let id ← tableOf p
      changeTable id (·.remove key)

def execAll (s : Script) (start : Starter) : Nat → List Statement → Eval Unit
  | 0, _ | _, [] => pure ()
  | n + 1, st :: rest => do
    exec s start n st
    execAll s start n rest

end

def maxDepth : Nat := 1000000000

def applies (s : Script) (start : Starter) (i : Nat) (p : Pattern) : Eval Bool := do
  let holds (e : Expr) : Eval Bool := do return (← eval s start maxDepth e).isTrue
  match p with
  | .begin | .finish => return false
  | .always => return true
  | .when e => holds e
  | .range first last =>
    if (← get).openRanges.contains i || (← holds first) then
      let isLast ← holds last
      modify fun m => { m with openRanges :=
        if isLast then m.openRanges.filter (· != i) else i :: m.openRanges.filter (· != i) }
      return true
    else return false

def act (s : Script) (start : Starter) (action : Option Statement) : Eval Unit := do
  match action with
  | some st => exec s start maxDepth st
  | none => emit ((← get).record ++ (← scalarText "ORS"))

def perRecord (s : Script) (start : Starter) : Eval Unit :=
  (s.rules.mapIdx fun i r => (i, r)).forM fun (i, r) => do
    if ← applies s start i r.pattern then act s start r.action

def allRecords (s : Script) (start : Starter) : Nat → Eval Unit
  | 0 => pure ()
  | n + 1 => do
    match ← Streams.mainRecord Streams.maxArguments with
    | none => pure ()
    | some r =>
      tick
      modify fun m => { m with stack := 0, calls := 0 }
      Streams.count
      setRecord r
      try perRecord s start
      catch
        | .next => pure ()
        | .nextFile => modify fun m => { m with main := none }
        | l => throw l
      allRecords s start n

def outside (s : Script) (start : Starter) (isKind : Pattern → Bool) : Eval Unit :=
  s.rules.forM fun r => do
    if isKind r.pattern then act s start r.action

def untilExit (body : Eval Unit) : Eval (Option (Option Int)) := do
  try
    body
    return none
  catch
    | .exit status => return some status
    | l => throw l

def program (s : Script) (start : Starter) : Eval Int := do
  let begins (p : Pattern) : Bool := match p with
    | .begin => true
    | _ => false
  let finishes (p : Pattern) : Bool := match p with
    | .finish => true
    | _ => false
  let hasFinish := s.rules.any fun r => finishes r.pattern
  let hasRules := s.rules.any fun r => !begins r.pattern && !finishes r.pattern
  let first ← untilExit do
    outside s start begins
    if hasFinish || hasRules then allRecords s start maxRounds
  let last ← untilExit (outside s start finishes)
  let status := (last.bind fun st => st).orElse fun _ => first.bind fun st => st
  return status.getD 0

end PartitionTest.Shell.Records.Evaluation
