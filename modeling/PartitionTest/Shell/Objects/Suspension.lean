import PartitionTest.Shell.Objects.Statements

/-! Functions that hand out values in their middle. -/
namespace PartitionTest.Shell.Objects.Suspension

open Memory Shown Calls Names Expressions Statements

inductive Handed where
  | value (v : Value) (rest : List Pending)
  | ended (v : Value)
deriving Inhabited

def isStarted : List Pending → Bool
  | .receive _ :: _ | .items _ _ :: _ => true
  | _ => false

/-- What is left of a function after something that does not go on. -/
def unwound (r : Running) : Leave → List Pending → Eval (List Pending)
  | .return v, [] => return [.ending (.return v)]
  | l, [] => throw l
  | l, p :: rest => do
    match p, l with
    | .loop _ _ _ _, .leave | .each _ _ _ _ _, .leave => return rest
    | .loop _ _ _ _, .again | .each _ _ _ _ _, .again => return p :: rest
    | .attempt handlers _ last, .raised e =>
      match ← handler r e.value handlers with
      | some (name, body) =>
        let before := (← get).handled
        let e ← caught e
        modify fun m => { m with handled := e :: before }
        name.forM fun s => assign s e.value
        return .statements body :: .handled name before :: .last last :: rest
      | none => return .statements last :: .ending l :: rest
    | .attempt _ _ last, l | .last last, l => return .statements last :: .ending l :: rest
    | .handled name before, l =>
      modify fun m => { m with handled := before }
      name.forM forget
      unwound r l rest
    | .using v, .raised e =>
      let swallows ← try Except.ok <$> leave r v (some e) catch l => pure (Except.error l)
      match swallows with
      | .ok true => return rest
      | .ok false => unwound r l rest
      | .error l => unwound r l rest
    | .using v, l =>
      try
        let _ ← leave r v none
        unwound r l rest
      catch l => unwound r l rest
    | _, l => unwound r l rest

def assignEnd (r : Running) (id : Nat) (targets : List Expr) : Eval Unit := do
  let v := match (← get).streams[id]? with
    | some (.finished v) => v
    | _ => .nothing
  targets.forM fun t => put r t v

def advance (r : Running) : Nat → Pending → List Pending → Eval (Option Value × List Pending)
  | 0, _, rest => return (none, rest)
  | n + 1, p, rest => do
    let given (e : Option Expr) : Eval Value := do
      match e with
      | some e => evaluate r e
      | none => return .nothing
    match p with
    | .statements [] => return (none, rest)
    | .statements (s :: more) =>
      let rest := if more.isEmpty then rest else .statements more :: rest
      match s with
      | .at line s =>
        setLine line
        advance r n (.statements [s]) rest
      | .expr (.yield (some (.spread e))) =>
        return (none, .items (← r.cursor (← evaluate r e)) [] :: rest)
      | .expr (.yield e) => return (some (← given e), .receive [] :: rest)
      | .assign targets (.yield (some (.spread e))) =>
        return (none, .items (← r.cursor (← evaluate r e)) targets :: rest)
      | .assign targets (.yield e) => return (some (← given e), .receive targets :: rest)
      | .update op target (.yield e) =>
        return (none, .statements [.assign [.name ".received"] (.yield e), .update op target (.name ".received")] :: rest)
      | .choice test yes no =>
        return (none, .statements (if ← r.truth (← evaluate r test) then yes else no) :: rest)
      | .loop test body after => return (none, .loop test body after (← currentLine) :: rest)
      | .each target items body after =>
        return (none, .each target (← r.cursor (← evaluate r items)) body after (← currentLine) :: rest)
      | .attempt body handlers after last =>
        return (none, .statements body :: .attempt handlers after last :: rest)
      | .select subject cases =>
        match ← Fitting.selected r (← evaluate r subject) cases with
        | some body => return (none, .statements body :: rest)
        | none => return (none, rest)
      | .using [] body => return (none, .statements body :: rest)
      | .using ((e, target) :: others) body =>
        let v ← evaluate r e
        let entered ← enter r v
        let first : List Statement := [.using others body]
        match target with
        | some t =>
          let state := Pending.using v
          try
            put r t entered
            return (none, .statements first :: state :: rest)
          catch l => return (none, ← unwound r l (state :: rest))
        | none => return (none, .statements first :: .using v :: rest)
      | s =>
        runAll r [s]
        return (none, rest)
    | .receive _ => return (none, rest)
    | .loop test body after line =>
      tick
      setLine line
      if ← r.truth (← evaluate r test) then return (none, .statements body :: p :: rest)
      else return (none, .statements after :: rest)
    | .each target id body after line =>
      tick
      setLine line
      match ← r.next id with
      | none => return (none, .statements after :: rest)
      | some v =>
        try
          put r target v
          return (none, .statements body :: p :: rest)
        catch l => return (none, ← unwound r l (p :: rest))
    | .items id targets =>
      match ← r.next id with
      | none =>
        assignEnd r id targets
        return (none, rest)
      | some v => return (some v, p :: rest)
    | .attempt _ after last => return (none, .statements after :: .last last :: rest)
    | .handled name before =>
      modify fun m => { m with handled := before }
      name.forM forget
      return (none, rest)
    | .last all => return (none, .statements all :: rest)
    | .using v =>
      let _ ← leave r v none
      return (none, rest)
    | .ending l => throw l

/-- Goes on with what is left of a function up to the next value that it hands out. -/
def proceed (r : Running) : Nat → List Pending → Eval Handed
  | 0, _ | _, [] => return .ended .nothing
  | _, [.ending (.return v)] => return .ended v
  | n + 1, p :: rest => do
    let (v, rest) ← try advance r maxStatements p rest
      catch l => do pure ((none : Option Value), ← unwound r l rest)
    match v with
    | some v => return .value v rest
    | none => proceed r n rest

def goOn (r : Running) (how : Resume) (rest : List Pending) : Eval Handed := do
  /- What streams inside do comes to the function around. -/
  let through (inner : Nat) (targets : List Expr) (after : List Pending) : Eval Handed := do
    let v ← try Except.ok <$> r.resume inner how
      catch l => pure (Except.error l)
    match v with
    | .ok (some v) => return .value v rest
    | .ok none =>
      assignEnd r inner targets
      proceed r maxRounds after
    | .error l => proceed r maxRounds (← unwound r l after)
  match how, rest with
  | .send v, .receive targets :: after =>
    targets.forM fun t => put r t v
    proceed r maxRounds after
  | .send .nothing, rest => proceed r maxRounds rest
  | _, .items inner targets :: after => through inner targets after
  | .send _, rest => proceed r maxRounds rest
  | .raise e, .receive _ :: after => proceed r maxRounds (← unwound r (.raised e) after)
  | .raise e, _ => throw (.raised e)

/-- Goes on with a function that was held up; the value that it hands out next. -/
def resume (r : Running) (id : Nat) (how : Resume) : Eval (Option Value) := do
  match ((← get).streams[id]?).getD (.items []), how with
  | .suspended name rest scope isInner, how =>
    if rest.isEmpty then valueError "generator already executing"
    match how, isStarted rest with
    | .send .nothing, _ | .send _, true | .raise _, _ => pure ()
    | .send _, false => typeError "can't send non-None value to a just-started generator"
    setStream id (.suspended name [] scope isInner)
    let before := (← get).handled
    let handed ← try inFrame name isInner (inScope scope (goOn r how rest))
      catch l => do
        setStream id (.finished .nothing)
        modify fun m => { m with handled := before }
        match l with
        | .raised e =>
          if ← isStop e then
            throw (.raised (.of (.error "RuntimeError" [.text "generator raised StopIteration"])
              (← get).frames.reverse (some e) true))
          else throw (.raised e)
        | l => throw l
    modify fun m => { m with handled := before }
    match handed with
    | .value v rest =>
      setStream id (.suspended name rest scope isInner)
      return some v
    | .ended v =>
      setStream id (.finished v)
      return none
  | _, .raise e => throw (.raised e)
  | _, .send _ => r.next id

end PartitionTest.Shell.Objects.Suspension
