import Workflow.Script.Operation

/-!
# Simplifying scripts

Before a script runs, terms with a value that is known beforehand are replaced by the value, and
statements that do nothing are dropped.  A script that is simplified takes fewer operations, and
operands that are never looked at are not checked, so that a script can have a result only because
it has been simplified.

Statements are simplified pass after pass until a pass changes nothing.  The names in scope are
those of bindings and definitions; a constant with a known value stands for that value wherever its
name is innermost among these.
-/

namespace Workflow.Script

namespace Simplification

/-- What simplifying has come to. -/
structure State where
  limits : Limits
  /-- The names in scope, the innermost first, and the values of those that are known. -/
  names : List (String × Option Value)
  /-- Whether anything has changed. -/
  changed : Bool := false

/-- A step of simplifying. -/
abbrev Step := StateM State

/-- Tell a change. -/
def changing {α : Type} (result : α) : Step α := do
  modify fun s => { s with changed := true }
  return result

/-- The value that a name is known to have. -/
def known? (name : String) : Step (Option Value) := do
  return ((← get).names.lookup name).join

/-- What a list of statements is for. -/
structure Purpose where
  /-- Whether the value of the last statement matters. -/
  forValue : Bool
  /-- Whether the variables of the statements are dropped after them. -/
  inner : Bool
  /-- Whether returning from the last statement is the same as having its value. -/
  outermost : Bool

/-- Whether a statement can be dropped where its value does not matter. -/
def Purpose.canDrop (purpose : Purpose) (statement : Stmt) : Bool :=
  if purpose.inner then statement.isPureWithin else statement.isPure

/-- Whether a statement is a block that brings nothing into scope. -/
def isOpen : Stmt → Bool
  | .block body => !body.any Stmt.defines
  | _ => false

/-- Statements without the blocks among them that bring nothing into scope. -/
def opened (statements : List Stmt) : Nat → List Stmt
  | 0 => statements
  | fuel + 1 => statements.flatMap fun
    | .block body => if isOpen (.block body) then opened body fuel else [.block body]
    | other => [other]

/-- The statements up to one after which nothing is carried out. -/
def reached : List Stmt → List Stmt
  | [] => []
  | first :: rest => if first.endsBlock then [first] else first :: reached rest

/-- Whether a statement does more than to have a value that is known. -/
def matters (purpose : Purpose) (statement : Stmt) : Bool :=
  !purpose.canDrop statement ||
    match statement with
    | .define _ _ value => value.isConstant
    | .expr value => !value.isConstant
    | _ => false

/-- How many statements come before the last one that matters. -/
def lastMattering (purpose : Purpose) (statements : List Stmt) : Nat :=
  statements.length - 1 - (statements.reverse.findIdx (matters purpose ·))

/-- The statements without those that do nothing; the last one stays if its value matters. -/
def withoutPure (purpose : Purpose) (statements : List Stmt) : List Stmt :=
  let last := lastMattering purpose statements
  (statements.zipIdx.filter fun (statement, i) =>
    (purpose.forValue && i + 1 = statements.length) ||
      !(statement.isPure || (i ≥ last && purpose.canDrop statement))).map (·.1)

/-- Shorten the end of statements whose value matters, and tell whether that changed anything.  The
statements come in reverse. -/
def withEnd (purpose : Purpose) (changed : Bool) : List Stmt → Bool × List Stmt
  | [] => (changed, [])
  | [last] =>
    match last with
    | .give none => if purpose.outermost then (true, []) else (changed, [last])
    | .give (some value) =>
      if purpose.outermost then (true, [.expr value]) else (changed, [last])
    | _ =>
      if !last.hasValue && purpose.canDrop last then (true, []) else (changed, [last])
  | last :: second :: rest =>
    let returned := match last with
      | .give value => if purpose.outermost then some value else none
      | _ => none
    match returned with
    | some none =>
      if second.hasValue then (true, .skip :: second :: rest)
      else withEnd purpose true (second :: rest)
    | some (some value) => (true, .expr value :: second :: rest)
    | none =>
      if last.hasValue || !purpose.canDrop last then (changed, last :: second :: rest)
      else if second.hasValue then
        match last with
        | .skip => (changed, last :: second :: rest)
        | _ => (true, .skip :: second :: rest)
      else withEnd purpose true (second :: rest)

/-- Shorten the end of statements, and tell whether that changed anything. -/
def shortened (purpose : Purpose) (statements : List Stmt) : Bool × List Stmt :=
  if purpose.forValue then
    let (changed, reversed) := withEnd purpose false statements.reverse
    (changed, reversed.reverse)
  else
    let kept := statements.reverse.dropWhile purpose.canDrop
    (kept.length < statements.length, kept.reverse)

/-- Pieces of a text with the known ones joined. -/
def joinedParts (first : Expr) : List Expr → Bool × List Expr
  | [] => (false, [first])
  | next :: rest =>
    match first, next with
    | .constant (.string a) p, .constant (.string b) _ =>
      (true, (joinedParts (.constant (.string (a ++ b)) p) rest).2)
    | first, .constant .unit _ | first, .constant (.string "") _ =>
      (true, (joinedParts first rest).2)
    | .constant .unit _, next | .constant (.string "") _, next =>
      (true, (joinedParts next rest).2)
    | first, next =>
      let (changed, parts) := joinedParts next rest
      (changed, first :: parts)

/-- The statements that a statement amounts to as a body. -/
def bodyOf : Stmt → List Stmt
  | .block body => body
  | .skip => []
  | other => [other]

/-- What a choice for a known value comes to. -/
inductive Choice where
  | arm (arm : Arm)
  /-- Some ranges that have to be tried. -/
  | ranges (arms : List Arm)
  | fallback

/-- What a choice for a known value comes to.  If several arms name the value, those with conditions
are passed over. -/
def chosen (subject : Value) (arms : List Arm) : Choice :=
  let named := arms.filter (Arm.names subject)
  match named, named.find? Arm.holds with
  | [arm], _ | _, some arm => .arm arm
  | _, none =>
    let ranges := Arm.ranges arms
    if ranges.length = 1 || ranges.all Arm.holds then
      match ranges.find? (Arm.covers subject) with
      | some arm => .arm arm
      | none => .fallback
    else .ranges (ranges.filter (Arm.covers subject))

mutual

/-- Simplify statements. -/
def statements (purpose : Purpose) (list : List Stmt) : Nat → Step (List Stmt)
  | 0 => return list
  | fuel + 1 => do
    if list.isEmpty then return []
    let before := (← get).changed
    let flat := opened list fuel
    let result ← passes purpose flat fuel
    if before || list.any isOpen then changing result else return result

/-- Simplify statements pass after pass. -/
def passes (purpose : Purpose) (list : List Stmt) : Nat → Step (List Stmt)
  | 0 => return list
  | fuel + 1 => do
    let names := (← get).names
    modify fun s => { s with changed := false }
    let live := reached list
    let simpler ← live.mapM fun step =>
      match step with
      | .define name constant value => do
        let value ← term false value fuel
        let known := if constant && value.isConstant then value.literal? else none
        modify fun s => { s with names := (name, known) :: s.names }
        return .define name constant value
      | other => statement purpose.forValue other fuel
    let needed := withoutPure purpose simpler
    let (cut, result) := shortened purpose needed
    let changed := (← get).changed || live.length < list.length || needed.length < simpler.length
      || cut
    modify fun s => { s with names, changed }
    if changed then changing (← passes purpose result fuel) else return result

/-- Simplify a statement. -/
def statement (forValue : Bool) (step : Stmt) : Nat → Step Stmt
  | 0 => return step
  | fuel + 1 => do
    let inside : Purpose := ⟨forValue, true, false⟩
    let apart : Purpose := ⟨false, true, false⟩
    match step with
    | .skip | .next | .leave none | .give none | .throw none _ => return step
    | .define name constant value => return .define name constant (← term false value fuel)
    | .assign none (.variable_ name defined p) (.binary op left right q) r =>
      if op.canAssign && left.name? = some name then
        changing (.assign (some op) (.variable_ name defined p) right q)
      else
        let value ← term false (.binary op left right q) fuel
        return .assign none (.variable_ name defined p) value r
    | .assign op (.variable_ name defined p) value q =>
      return .assign op (.variable_ name defined p) (← term false value fuel) q
    | .assign op target value p =>
      let target ← term false target fuel
      return .assign op target (← term false value fuel) p
    | .branch condition [] [] =>
      let condition ← term false condition fuel
      changing (if forValue then .block [.expr condition, .skip] else .expr condition)
    | .branch condition yes no =>
      if condition.isBool false && no.isEmpty then changing .skip
      else if condition.isBool false then changing (.block (← statements inside no fuel))
      else if condition.isBool true then changing (.block (← statements inside yes fuel))
      else
        let condition ← term false condition fuel
        let yes ← statements inside yes fuel
        return .branch condition yes (← statements inside no fuel)
    | .choose subject arms fallback =>
      match (if subject.isConstant then subject.literal? else none) with
      | some value =>
        let last : Step Stmt :=
          match fallback with
          | some body => statement true (.expr body) fuel
          | none => pure .skip
        match chosen value arms with
        | .arm (.mk _ condition body) =>
          if condition.isBool true then changing (← statement true (.expr body) fuel)
          else
            let condition ← term false condition fuel
            changing (.branch condition [.expr body] (bodyOf (← last)))
        | .ranges kept =>
          let result := Stmt.choose subject (← branches kept fuel) fallback
          if kept.length < (Arm.ranges arms).length || !arms.all Arm.hasRangesOnly then
            changing result
          else return result
        | .fallback => changing (← last)
      | none =>
        let subject ← term false subject fuel
        let simpler ← branches arms fuel
        let live := simpler.filter Arm.canHold
        let result := Stmt.choose subject live (← fallback.mapM fun body => term false body fuel)
        if live.length < simpler.length then changing result else return result
    | .repeat (some condition) body =>
      if condition.isBool false then changing .skip
      else
        let condition ← term false condition fuel
        let body ← statements apart body fuel
        return .repeat (if condition.isBool true then none else some condition) body
    | .repeat none body => return .repeat none (← statements apart body fuel)
    | .again body condition expected =>
      if condition.isBool !expected then changing (.block (← statements apart body fuel))
      else
        let condition ← term false condition fuel
        return .again (← statements apart body fuel) condition expected
    | .forEach name counter subject body =>
      let subject ← term false subject fuel
      return .forEach name counter subject (← statements apart body fuel)
    | .block body =>
      match ← statements inside body fuel with
      | [] => changing .skip
      | [only] => if only.defines then return .block [only] else changing only
      | body => return .block body
    | .attempt body name handler =>
      if Stmt.arePure body then changing (.block (← statements apart body fuel))
      else
        let body ← statements apart body fuel
        return .attempt body name (← statements apart handler fuel)
    | .expr (.block body _) =>
      if body.isEmpty then changing .skip
      else changing (.block (← statements ⟨true, true, false⟩ body fuel))
    | .expr value => return .expr (← term false value fuel)
    | .leave (some value) => return .leave (some (← term false value fuel))
    | .give (some value) => return .give (some (← term false value fuel))
    | .throw (some value) p => return .throw (some (← term false value fuel)) p
    | .share [] => changing .skip
    | .share names =>
      let unknown ← names.filterM fun (name, _) => do return (← known? name).isNone
      if unknown.length < names.length then changing (.share unknown) else return .share names

/-- Simplify what is inside the arms of a choice. -/
def branches (arms : List Arm) : Nat → Step (List Arm)
  | 0 => return arms
  | fuel + 1 => do
    match arms with
    | [] => return []
    | .mk labels condition body :: rest =>
      let condition ← term false condition fuel
      let body ← term false body fuel
      return .mk labels condition body :: (← branches rest fuel)

/-- Simplify a term.  The index that ends a chain is simplified as the part of the chain that it
is. -/
def term (inChain : Bool) (value : Expr) : Nat → Step Expr
  | 0 => return value
  | fuel + 1 => do
    match value with
    | .constant .. | .this _ => return value
    | .block [] p => changing (.unit p)
    | .block [.expr inner] _ => changing (← term false inner fuel)
    | .block body p =>
      match ← statements ⟨true, true, false⟩ body fuel with
      | [.expr inner] => changing inner
      | body => return .block body p
    | .chain root links p =>
      let all : Step Expr := do
        let root ← term false root fuel
        return .chain root (← chain links fuel) p
      let item := fun (entry : Option Expr) (q : Position) =>
        changing (((entry.map (Expr.moved q ·)).getD (.unit q)) : Expr)
      if inChain then all
      else
        match root, links with
        | .variable_ .., _ | .this _, _ => return .chain root (← chain links fuel) p
        | .map entries q, [.property key _ _]
        | .map entries q, [.item (.constant (.string key) _) _ _] =>
          if Expr.entriesArePure entries then item (entries.lookup key) q else all
        | .array items q, [.item (.constant (.int index) _) _ _] =>
          let i := if index < 0 then items.length + index else index
          if Expr.arePure items && 0 ≤ i && i < items.length then item items[i.toNat]? q
          else all
        | .constant (.int n) q, [.item (.constant (.int index) _) _ _] =>
          let i := if index < 0 then 64 + index else index
          if 0 ≤ i && i < 64 then
            item (some (.constant (.bool (Operation.bit n i.toNat)) q)) q
          else all
        | .constant (.string text) q, [.item (.constant (.int index) _) _ _] =>
          let i := if index < 0 then text.length + index else index
          match (if 0 ≤ i then text.toList[i.toNat]? else none) with
          | some c => changing (.constant (.char c) q)
          | none => all
        | _, [.method "type_of" [] _ q] =>
          match (if root.isConstant then root.literal? else none) with
          | some known => changing (.constant (.string known.typeName) q)
          | none => all
        | _, [.method "is_shared" [] _ q] =>
          if root.isConstant then changing (.constant (.bool false) q) else all
        | _, _ => all
    | .template parts p =>
      match parts, value.isConstant, value.literal? with
      | [], _, _ => changing (.constant (.string "") p)
      | _, true, some known => changing (.constant known p)
      | parts, _, _ =>
        match ← parts.mapM fun part => term false part fuel with
        | [] => return .template [] p
        | first :: rest =>
          let (changed, parts) := joinedParts first rest
          if changed then changing (.template parts p) else return .template parts p
    | .array items p =>
      match value.isConstant, value.literal? with
      | true, some known => changing (.constant known p)
      | _, _ => return .array (← items.mapM fun item => term false item fuel) p
    | .map entries p =>
      match value.isConstant, value.literal? with
      | true, some known => changing (.constant known p)
      | _, _ =>
        return .map (← entries.mapM fun (key, entry) => do
          return (key, ← term false entry fuel)) p
    | .both left right p =>
      if left.isBool true then changing (← term false right fuel)
      else if left.isBool false then changing left
      else if right.isBool true then changing (← term false left fuel)
      else
        let left ← term false left fuel
        return .both left (← term false right fuel) p
    | .either left right p =>
      if left.isBool false then changing (← term false right fuel)
      else if left.isBool true then changing left
      else if right.isBool false then changing (← term false left fuel)
      else
        let left ← term false left fuel
        return .either left (← term false right fuel) p
    | .otherwise left right _ =>
      match left with
      | .constant .unit _ => changing right
      | left => if left.isConstant then changing left else return value
    | .sign .not (.constant (.bool known) p) _ => changing (.constant (.bool !known) p)
    | .sign op operand p => return .sign op (← term false operand fuel) p
    | .binary op left right p =>
      let limits := (← get).limits
      match (if Expr.areConstant [left, right] then Expr.literals? [left, right] else none) with
      | some [a, b] =>
        match Operation.builtIn? limits op a b with
        | some (.ok result) => changing (.constant result p)
        | _ =>
          let left ← term false left fuel
          return .binary op left (← term false right fuel) p
      | _ =>
        let left ← term false left fuel
        return .binary op left (← term false right fuel) p
    | .call name arguments p =>
      let all : Step Expr := do
        return .call name (← arguments.mapM fun argument => term false argument fuel) p
      match name, (if Expr.areConstant arguments then Expr.literals? arguments else none) with
      | "Fn", some [.string text] =>
        match Function.name? text with
        | some function => changing (.constant (.function function []) p)
        | none => all
      | "curry", some (.function function bound :: first :: more) =>
        changing (.constant (.function function (bound ++ first :: more)) p)
      | "type_of", some [known] => changing (.constant (.string known.typeName) p)
      | "is_shared", some [_] => changing (.constant (.bool false) p)
      | _, _ => all
    | .variable_ name _ p =>
      match ← known? name with
      | some known => changing (.constant known p)
      | none => return value

/-- Simplify what is inside the steps of a chain. -/
def chain (links : List Link) : Nat → Step (List Link)
  | 0 => return links
  | fuel + 1 => do
    match links with
    | [] => return []
    | link :: rest =>
      let link ← match link with
        | .property .. => pure link
        | .method name arguments safe p => do
          pure (Link.method name (← arguments.mapM fun argument => term false argument fuel) safe p)
        | .item index safe p => do pure (Link.item (← term rest.isEmpty index fuel) safe p)
      return link :: (← chain rest fuel)

end

end Simplification

namespace Program

/-- A program that does the same in fewer steps, given the names that it is handed. -/
def simplified (limits : Limits) (given : List String) (fuel : Nat) (program : Program) :
    Program :=
  let start : Simplification.State :=
    { limits, names := (given.map fun name => (name, none)).reverse }
  let simpler := fun (body : List Stmt) =>
    ((Simplification.statements ⟨true, false, true⟩ body fuel).run start).1
  { body := simpler program.body
    functions := program.functions.map fun f => { f with body := simpler f.body } }

end Program

end Workflow.Script
