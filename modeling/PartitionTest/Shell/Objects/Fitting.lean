import PartitionTest.Shell.Objects.Expressions

/-! Whether values fit shapes. -/
namespace PartitionTest.Shell.Objects.Fitting

open Memory Shown Names Expressions

/-- Kinds whose values stand for themselves in the shape of a kind. -/
def wholeKinds : List String := [
  "bool", "bytes", "dict", "float", "frozenset", "int", "list", "set", "str", "tuple"]

def sequenceItems? (v : Value) : Eval (Option (List Value)) := do
  match ← core v with
  | .tuple items => return some items
  | .list id => return some (← listAt id).toList
  | .range a b c => return some (Operations.rangeItems a b c)
  | _ => return none

mutual

def fits (r : Running) : Nat → Shape → Value → Eval (Option (List (String × Value)))
  | 0, _, _ => return none
  | n + 1, s, v => do
    match s with
    | .anything => return some []
    | .capture name => return some [(name, v)]
    | .equal e =>
      let w ← evaluate r e
      if ← r.truth (← Operations.relation r .equal v w) then return some [] else return none
    | .same l => return if Operations.same (literal l) v then some [] else none
    | .further _ => return none
    | .named s name => return (← fits r n s v).map fun all => all ++ [(name, v)]
    | .either all => all.findSomeM? fun s => fits r n s v
    | .sequence shapes =>
      match ← sequenceItems? v with
      | none => return none
      | some items =>
        let isFurther (s : Shape) : Bool := match s with
          | .further _ => true
          | _ => false
        let before := shapes.takeWhile fun s => !isFurther s
        match shapes.drop before.length with
        | .further name :: after =>
          let least := before.length + after.length
          if items.length < least then return none
          let count := items.length - least
          let first ← allFit r n before (items.take before.length)
          let last ← allFit r n after (items.drop (before.length + count))
          let rest ← newList ((items.drop before.length).take count)
          return first.bind fun a => last.map fun b => a ++ (name.toList.map fun s => (s, rest)) ++ b
        | _ => if items.length = shapes.length then allFit r n shapes items else return none
    | .entries all others =>
      match ← core v with
      | .dict id =>
        let d ← dictAt id
        let keyed ← all.mapM fun (e, s) => do
          let k ← evaluate r e
          return (← keyIn r d k, s)
        let found := keyed.map fun (key, s) => (d.get? key).map fun w => (s, w)
        if found.any Option.isNone then return none
        let pairs := found.filterMap fun p => p
        let names ← allFit r n (pairs.map (·.1)) (pairs.map (·.2))
        match names, others with
        | some names, some name =>
          let rest ← putDict (d.filter fun key => !(keyed.map (·.1)).contains key)
          return some (names ++ [(name, .dict rest)])
        | names, _ => return names
      | _ => return none
    | .ofKind e shapes members =>
      let kind ← evaluate r e
      match kind with
      | .kind _ | .ownKind _ => pure ()
      | _ => typeError "called match pattern must be a type"
      if !(← Builtins.isInstance r v kind) then return none
      let isWhole := match kind with
        | .kind k => wholeKinds.contains k
        | _ => false
      let isHeld ← match kind with
        | .ownKind id => do
          pure (((← Kinds.base? id).map wholeKinds.contains).getD false && (← kindMember? id "__match_args__").isNone)
        | _ => pure false
      let shownName ← match kind with
        | .ownKind id => do pure (← kindAt id).name
        | .kind k => pure (lastName k)
        | _ => pure ""
      let tooMany (most : Nat) : Eval Unit := do
        if most < shapes.length then
          typeError (shownName ++ "() accepts " ++ toString most ++ " positional sub-pattern" ++
            (if most = 1 then "" else "s") ++ " (" ++ toString shapes.length ++ " given)")
      let (direct, named) ← if isWhole || isHeld then do
          tooMany 1
          pure (shapes.map fun s => (s, v), members)
        else do
          let given ← match kind with
            | .ownKind id => kindMember? id "__match_args__"
            | _ => pure none
          let names : List String := match given with
            | some (.tuple vs) => vs.filterMap fun (v : Value) => match v with
              | .text s => some s
              | _ => none
            | _ => []
          tooMany names.length
          pure ([], names.zip shapes ++ members)
      let found ← named.mapM fun (name, s) => do
        let w ← try some <$> Members.member r v name
          catch
            | .raised e => do
              let isLack := ((← Kinds.errorKind? e.value).map fun k => isErrorOf k "AttributeError").getD false
              if isLack then pure none else throw (.raised e)
            | l => throw l
        return w.map fun w => (s, w)
      if found.any Option.isNone then return none
      let pairs := direct ++ found.filterMap fun p => p
      allFit r n (pairs.map (·.1)) (pairs.map (·.2))

def allFit (r : Running) : Nat → List Shape → List Value → Eval (Option (List (String × Value)))
  | 0, _, _ => return none
  | n + 1, s :: ss, v :: vs => do
    match ← fits r n s v with
    | none => return none
    | some names => return (← allFit r n ss vs).map (names ++ ·)
  | _, [], [] => return some []
  | _, _, _ => return none

end

def selected (r : Running) (v : Value) :
    List (Shape × Option Expr × List Statement) → Eval (Option (List Statement))
  | [] => return none
  | (s, test, body) :: rest => do
    match ← fits r maxNesting s v with
    | none => selected r v rest
    | some names =>
      names.forM fun (name, w) => assignName name w
      let passes ← match test with
        | some e => do r.truth (← evaluate r e)
        | none => pure true
      if passes then return some body else selected r v rest

end PartitionTest.Shell.Objects.Fitting
