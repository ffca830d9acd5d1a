import Workflow.Script.Item
import Workflow.Script.Library
import Workflow.Script.Machine

/-!
# Carrying out scripts

Every statement and every term that is looked at counts as an operation, and so do looking up a
place, going through an item and calling a function.  Operators on simple values do not.

A chain leads from a value through properties, items and calls to a part of it.  The arguments in a
chain are known before the chain starts from its root.  `follow` tells what the chain comes to and,
apart from that, what has become of the value that it started from: a call that fails may have
changed it before.
-/

namespace Workflow.Script

/-- A step of a chain with its arguments known. -/
inductive Stage where
  | property (name : String) (safe : Bool) (position : Position)
  /-- A call, and where its first argument stands. -/
  | method (name : String) (arguments : List Value) (safe : Bool) (position first : Position)
  /-- An item, and where the index stands. -/
  | item (index : Value) (safe : Bool) (position start : Position)

/-- Whether a step of a chain leads from the unit to the unit. -/
def Stage.isSafe : Stage → Bool
  | property _ safe _ | method _ _ safe _ _ | item _ safe _ _ => safe

/-- What is assigned to the part that a chain leads to. -/
structure Assignment where
  op : Option Operator
  value : Value
  position : Position
  /-- The variable that the chain starts from, and where it stands. -/
  root : String
  start : Position

/-- The outcome of something, and what has become of the value that it was done to if that
changed. -/
abbrev Effect := Outcome × Option Value

namespace Effect

/-- A value that something comes to without changing anything. -/
def of (value : Value) : Effect :=
  (.ok value, none)

/-- The effect on a value of an effect on a part of it. -/
def around (effect : Effect) (outer : Value → Value) : Effect :=
  (effect.1, effect.2.map outer)

end Effect

namespace Step

/-- The effect of a step that changes nothing. -/
def effect (step : Step Value) : Step Effect := do
  return (← outcome step, none)

/-- More steps than a script can carry out. -/
def exhausted {α : Type} : Step α :=
  fail .tooManyOperations .nowhere

/-- Call a function that every script has. -/
def native (setting : Setting) (name : String) (arguments : List Value) (constant : Bool)
    (p : Position) : Step Effect := do
  match name, arguments with
  | "type_of", [value] => return .of (.string value.typeName)
  | _, _ =>
    tick setting
    let answer ← of p (Library.call name arguments)
    if answer.manner = .changes && constant then fail (.changesConstant name) p
    sized setting p answer.result
    match answer.manner, answer.changed, arguments with
    | .takes, _, _ | _, none, [] => pure ()
    | _, some new, _ | _, none, new :: _ => sized setting p new
    return (.ok (if Library.isSilent name then .unit else answer.result), answer.changed)

/-- Look up a property of a value that is not a map. -/
def property (setting : Setting) (name : String) (value : Value) (p : Position) : Step Value := do
  tick setting
  match Library.property? name value with
  | some answer =>
    if answer.manner ≠ .takes then sized setting p value
    return answer.result
  | none =>
    tick setting
    fail (.unknownProperty
      ("Unknown property '" ++ name ++ "' - a getter is not registered for type '" ++
        value.typeName ++ "'")) p

/-- Properties of values that are not maps cannot be assigned to. -/
def noProperty (setting : Setting) (name : String) (value new : Value) (p : Position) :
    Step Value := do
  ticks setting 2
  fail (.unknownProperty
    ("No writable property '" ++ name ++ "' - a setter is not registered for type '" ++
      value.typeName ++ "' to handle '" ++ new.typeName ++ "'")) p

/-- Look up an item of a value. -/
def item (setting : Setting) (value index : Value) (p start : Position) : Step Value := do
  tick setting
  if Item.hasItems value then of start (Item.get value index)
  else
    tick setting
    of p (Item.get value index)

/-- What an assignment to a part of a value leaves there; `fixed` tells whether the part is
constant. -/
def assigned (setting : Setting) (goal : Assignment) (fixed : Bool) (old : Value) : Step Value := do
  if fixed then fail (.assignsConstant goal.root) goal.start
  updated setting goal.op old goal.value goal.position

/-- Assign to a property of a value.  A map that lacks it gets it before. -/
def assignProperty (setting : Setting) (goal : Assignment) (target : Holding) (name : String)
    (p : Position) : Step Effect := do
  match target.value with
  | .map entries =>
    tick setting
    let has := Assoc.has entries name
    let old := (Assoc.get? entries name).getD .unit
    let result ← outcome do
      let new ← assigned setting goal (target.constant && has) old
      let map := Value.map (Assoc.insert entries name new)
      sized setting goal.position map
      return map
    match result with
    | .ok map => return (.ok .unit, some map)
    | .error exit => return (.error exit, some (.map (Assoc.insert entries name old)))
  | other =>
    effect do
      let new ← match goal.op with
        | none => pure goal.value
        | some _ => do assigned setting goal false (← property setting name other p)
      noProperty setting name other new p

/-- Assign to an item of a value.  A map that lacks it gets it before. -/
def assignItem (setting : Setting) (goal : Assignment) (target : Holding) (index : Value)
    (p start : Position) : Step Effect := do
  tick setting
  match target.value with
  | .list _ | .map _ =>
    let lacks := match target.value, index with
      | .map entries, .string key => !Assoc.has entries key
      | _, _ => false
    match ← outcome (of start (Item.get target.value index)) with
    | .error exit => return (.error exit, none)
    | .ok old =>
      let result ← outcome do
        let new ← assigned setting goal (target.constant && !lacks) old
        sized setting goal.position new
        of p (Item.set target.value index new)
      match result with
      | .ok value => return (.ok .unit, some value)
      | .error exit =>
        let kept := if lacks then (Item.set target.value index old).toOption else none
        return (.error exit, kept)
  | .int _ | .string _ =>
    match ← outcome do
      let old ← of start (Item.get target.value index)
      let new ← assigned setting goal false old
      of goal.position (Item.set target.value index new) with
    | .ok value => return (.ok .unit, some value)
    | .error exit => return (.error exit, none)
  | other =>
    effect do
      tick setting
      of p (Item.set other index goal.value)

end Step

/-- The names of functions that scripts cannot define. -/
def isKeptBack (name : String) : Bool :=
  name = "type_of" || Library.isSilent name

/-- The text of a value that has to be one. -/
def Step.text (p : Position) (value : Value) : Step String := do
  match value with
  | .string text => return text
  | other => fail (.mismatch "string" other.typeName) p

mutual

/-- The value of a term; that of a shared variable stays shared. -/
def evaluate (setting : Setting) (term : Expr) : Nat → Step Value
  | 0 => Step.exhausted
  | fuel + 1 => do
    Step.tick setting
    compute setting term fuel

/-- The value of a term that has been counted. -/
def compute (setting : Setting) (term : Expr) : Nat → Step Value
  | 0 => Step.exhausted
  | fuel + 1 => do
    match term with
    | .constant value _ => return value
    | .template parts _ => joined setting "" parts fuel
    | .array items _ => return .list (← listed setting {} items fuel)
    | .map entries _ => return .map (Assoc.ofList (← mapped setting {} entries fuel))
    | .variable_ name defined p => return (← Step.find setting name defined p).value
    | .this p =>
      match (← get).this with
      | some holding => return holding.value
      | none => Step.fail .unboundThis p
    | .sign op operand p =>
      let value ← settled setting operand fuel
      match op, value with
      | .not, .bool b => return .bool !b
      | op, value =>
        Step.tick setting
        Step.of p (Operation.applySign op value)
    | .binary op left right p =>
      let a ← settled setting left fuel
      let b ← settled setting right fuel
      match Operation.direct? op a b with
      | some result => Step.of p result
      | none =>
        Step.tick setting
        let value ← Step.of p (Operation.apply setting.limits op a b)
        Step.sized setting p value
        if Operation.inspects op a b then Step.sized setting p a
        return value
    | .both left right _ =>
      if ← Step.truth left.position (← result setting left fuel) then
        return .bool (← Step.truth right.position (← result setting right fuel))
      else return .bool false
    | .either left right _ =>
      if ← Step.truth left.position (← result setting left fuel) then return .bool true
      else return .bool (← Step.truth right.position (← result setting right fuel))
    | .otherwise left right _ =>
      match ← evaluate setting left fuel with
      | .unit => evaluate setting right fuel
      | value => return value
    | .call name arguments p => call setting name arguments p fuel
    | .chain root links p =>
      Step.placed p do
        let stages ← stages setting (links.length = 1) links fuel
        along setting root stages none fuel
    | .block body _ => performBlock setting body fuel

/-- The value of a term, also where it is shared. -/
def result (setting : Setting) (term : Expr) : Nat → Step Value
  | 0 => Step.exhausted
  | fuel + 1 => do Step.read (← evaluate setting term fuel)

/-- The value of an operand or argument; one that is written out counts once, however large. -/
def argument (setting : Setting) (term : Expr) : Nat → Step Value
  | 0 => Step.exhausted
  | fuel + 1 => do
    match term.literal? with
    | some value =>
      Step.tick setting
      return value
    | none => evaluate setting term fuel

/-- The value of an operand or argument, also where it is shared. -/
def settled (setting : Setting) (term : Expr) : Nat → Step Value
  | 0 => Step.exhausted
  | fuel + 1 => do Step.read (← argument setting term fuel)

/-- The values of arguments, from left to right. -/
def settledAll (setting : Setting) (terms : List Expr) : Nat → Step (List Value)
  | 0 => Step.exhausted
  | fuel + 1 => do
    match terms with
    | [] => return []
    | term :: rest =>
      let value ← settled setting term fuel
      return value :: (← settledAll setting rest fuel)

/-- The texts of terms one after the other. -/
def joined (setting : Setting) (text : String) (terms : List Expr) : Nat → Step Value
  | 0 => Step.exhausted
  | fuel + 1 => do
    match terms with
    | [] => return .string text
    | term :: rest =>
      let text := text ++ (← result setting term fuel).toText
      Step.within setting { bytes := text.utf8ByteSize } term.position
      joined setting text rest fuel

/-- The items of a list; each may make the list too large. -/
def listed (setting : Setting) (size : Size) (terms : List Expr) : Nat → Step (List Value)
  | 0 => Step.exhausted
  | fuel + 1 => do
    match terms with
    | [] => return []
    | term :: rest =>
      let value ← result setting term fuel
      let size := (size.add value.size).add { items := 1 }
      Step.within setting size term.position
      return value :: (← listed setting size rest fuel)

/-- The entries of a map; each may make the map too large. -/
def mapped (setting : Setting) (size : Size) (terms : List (String × Expr)) :
    Nat → Step (List (String × Value))
  | 0 => Step.exhausted
  | fuel + 1 => do
    match terms with
    | [] => return []
    | (key, term) :: rest =>
      let value ← result setting term fuel
      let size := (size.add value.size).add { entries := 1 }
      Step.within setting size term.position
      return (key, value) :: (← mapped setting size rest fuel)

/-- The steps of a chain with their arguments.  Of a chain with a single step only what has to be
computed counts. -/
def stages (setting : Setting) (single : Bool) (links : List Link) : Nat → Step (List Stage)
  | 0 => Step.exhausted
  | fuel + 1 => do
    match links with
    | [] => return []
    | .property name safe p :: rest =>
      unless single do Step.tick setting
      return .property name safe p :: (← stages setting single rest fuel)
    | .method name arguments safe p :: rest =>
      unless single && arguments.isEmpty do Step.tick setting
      let values ← settledAll setting arguments fuel
      let first := (arguments.head?.map Expr.position).getD .nowhere
      return .method name values safe p first :: (← stages setting single rest fuel)
    | .item index safe p :: rest =>
      let known := if single && index.isConstant then index.literal? else none
      let value ← match known with
        | some value => pure value
        | none => do
          Step.tick setting
          result setting index fuel
      return .item value safe p index.start :: (← stages setting single rest fuel)

/-- Go along a chain from its root, and keep what has become of the root. -/
def along (setting : Setting) (root : Expr) (stages : List Stage) (goal : Option Assignment) :
    Nat → Step Value
  | 0 => Step.exhausted
  | fuel + 1 => do
    match root with
    | .variable_ name defined p =>
      Step.tick setting
      let holding ← Step.find setting name defined p
      match holding.value, stages with
      | .cell _, [.method "is_shared" [] _ _ _] => return .bool true
      | .cell address, _ =>
        let (outcome, changed) ←
          follow setting stages ((← get).cells.getD address default) goal fuel
        match changed with
        | some new => Step.keep address new
        | none => pure ()
        Step.take outcome
      | _, _ =>
        let (outcome, changed) ← follow setting stages holding goal fuel
        match changed with
        | some new => Step.assign name new
        | none => pure ()
        Step.take outcome
    | .this p =>
      Step.tick setting
      match (← get).this with
      | none => Step.fail .unboundThis p
      | some holding =>
        let (outcome, changed) ← follow setting stages holding goal fuel
        match changed with
        | some new => Step.assignThis new
        | none => pure ()
        Step.take outcome
    | root =>
      let value ← result setting root fuel
      Step.take (← follow setting stages { value } goal fuel).1

/-- Go along a chain from a value. -/
def follow (setting : Setting) (stages : List Stage) (target : Holding)
    (goal : Option Assignment) : Nat → Step Effect
  | 0 => Step.exhausted
  | fuel + 1 => do
    match stages with
    | [] => return .of target.value
    | stage :: rest =>
      match stage.isSafe, target.value with
      | true, .unit => return .of .unit
      | _, _ =>
        match stage, rest, goal with
        | .property name _ p, [], some goal => Step.assignProperty setting goal target name p
        | .item index _ p start, [], some goal =>
          Step.assignItem setting goal target index p start
        | .property name _ p, rest, goal =>
          match target.value with
          | .map entries =>
            Step.tick setting
            match Assoc.get? entries name with
            | some inner =>
              let effect ← follow setting rest { target with value := inner } goal fuel
              return effect.around fun new => .map (Assoc.insert entries name new)
            | none =>
              let effect ← follow setting rest { value := .unit } goal fuel
              return (effect.1, none)
          | other =>
            match ← Step.outcome (Step.property setting name other p) with
            | .error exit => return (.error exit, none)
            | .ok inner =>
              let effect ← follow setting rest { value := inner } goal fuel
              return (effect.1, none)
        | .item index _ p start, rest, goal =>
          match ← Step.outcome (Step.item setting target.value index p start) with
          | .error exit => return (.error exit, none)
          | .ok inner =>
            let isPart := match target.value, index with
              | .list _, _ => true
              | .map entries, .string key => Assoc.has entries key
              | _, _ => false
            let effect ← follow setting rest
              { value := inner, constant := isPart && target.constant } goal fuel
            if isPart then
              return effect.around fun new =>
                ((Item.set target.value index new).toOption).getD target.value
            else return (effect.1, none)
        | .method name arguments _ p first, rest, goal =>
          let (outcome, changed) ← method setting name target arguments p first fuel
          match outcome with
          | .error exit => return (.error exit, changed)
          | .ok value =>
            let effect ← follow setting rest { value := ← Step.read value } goal fuel
            return (effect.1, changed)

/-- Call a function on a value. -/
def method (setting : Setting) (name : String) (target : Holding) (arguments : List Value)
    (p first : Position) : Nat → Step Effect
  | 0 => Step.exhausted
  | fuel + 1 => do
    match name, target.value, arguments with
    | "call", .function function bound, arguments =>
      Step.effect (point setting function (bound ++ arguments) p fuel)
    | "call", _, .function function bound :: rest =>
      invoke setting true function target (bound ++ rest) p fuel
    | "call", value, [] => Step.effect (Step.fail (.mismatch "Fn" value.typeName) p)
    | "call", _, other :: _ => Step.effect (Step.fail (.mismatch "Fn" other.typeName) first)
    | "curry", .function function bound, arguments =>
      return .of (.function function (bound ++ arguments))
    | "curry", value, _ => Step.effect (Step.fail (.mismatch "Fn" value.typeName) p)
    | "is_shared", _, [] => return .of (.bool false)
    | name, .map entries, arguments =>
      match Assoc.get? entries name with
      | some (.function function bound) =>
        invoke setting true function target (bound ++ arguments) p fuel
      | _ => invoke setting false name target arguments p fuel
    | name, _, arguments => invoke setting false name target arguments p fuel

/-- Call a function of the script on a value, or one that every script has with the value as its
first argument.  An empty function does not count, unless it is called by a value. -/
def invoke (setting : Setting) (byValue : Bool) (name : String) (target : Holding)
    (arguments : List Value) (p : Position) : Nat → Step Effect
  | 0 => Step.exhausted
  | fuel + 1 => do
    match if isKeptBack name then none else setting.function? name arguments.length with
    | some function =>
      if function.body.isEmpty && !byValue then return .of .unit
      else carryOut setting function arguments (some target) p fuel
    | none =>
      match ← Step.outcome
          (Step.native setting name (target.value :: (← arguments.mapM Step.read))
            target.constant p) with
      | .ok effect => return effect
      | .error exit => return (.error exit, none)

/-- Call what a function value stands for. -/
def point (setting : Setting) (name : String) (arguments : List Value) (p : Position) :
    Nat → Step Value
  | 0 => Step.exhausted
  | fuel + 1 => do
    match setting.function? name arguments.length with
    | some function => Step.take (← carryOut setting function arguments none p fuel).1
    | none =>
      Step.take (← Step.native setting name (← arguments.mapM Step.read) false p).1

/-- Carry out a function of the script, and tell what has become of what it was called on. -/
def carryOut (setting : Setting) (function : Function) (arguments : List Value)
    (this : Option Holding) (p : Position) : Nat → Step Effect
  | 0 => Step.exhausted
  | fuel + 1 => do
    let counted ← Step.outcome do
      Step.tick setting
      if setting.calls + 1 > setting.limits.callLevels then Step.fail .tooManyCalls p
    match counted with
    | .error exit => return (.error exit, none)
    | .ok () =>
      let before ← get
      set
        { before with
          scope := (List.zipWith (fun name value => Variable.mk name { value })
            function.parameters arguments).reverse
          this }
      let inner := { setting with calls := setting.calls + 1 }
      let outcome ← Step.outcome (performAll inner function.body fuel)
      let after ← get
      set { after with scope := before.scope, this := before.this }
      let outcome := match outcome with
        | .error (.give value) => .ok value
        | .error (.fault fault) => .error (.fault (fault.leaving function.name p))
        | other => other
      return (outcome, after.this.map (·.value))

/-- Call a function by its name.  Some names have a meaning of their own. -/
def call (setting : Setting) (name : String) (arguments : List Expr) (p : Position) :
    Nat → Step Value
  | 0 => Step.exhausted
  | fuel + 1 => do
    match name, arguments with
    | "call", pointer :: rest =>
      match ← settled setting pointer fuel with
      | .function function bound =>
        if (setting.function? function (bound.length + rest.length)).isSome then
          let values ← settledAll setting rest fuel
          point setting function (bound ++ values) p fuel
        else apply setting function bound rest p fuel
      | other => Step.fail (.mismatch "Fn" other.typeName) pointer.start
    | "Fn", [text] =>
      let function ← Step.text text.start (← settled setting text fuel)
      match Function.name? function with
      | some function => return .function function []
      | none => Step.fail (.unknownFunction function) text.start
    | "curry", pointer :: first :: rest =>
      match ← settled setting pointer fuel with
      | .function function bound =>
        return .function function (bound ++ (← argumentAll setting (first :: rest) fuel))
      | other => Step.fail (.mismatch "Fn" other.typeName) pointer.start
    | "is_shared", [value] =>
      match ← argument setting value fuel with
      | .cell _ => return .bool true
      | _ => return .bool false
    | "is_def_fn", [text, count] =>
      let function ← Step.text text.start (← settled setting text fuel)
      match ← settled setting count fuel with
      | .int n => return .bool (n ≥ 0 && (setting.function? function n.toNat).isSome)
      | other => Step.fail (.mismatch "i64" other.typeName) count.start
    | "is_def_var", [text] =>
      let variable_ ← Step.text text.start (← settled setting text fuel)
      return .bool (← Step.lookup variable_).isSome
    | name, arguments => apply setting name [] arguments p fuel

/-- The values that a function value takes up; shared variables stay shared. -/
def argumentAll (setting : Setting) (terms : List Expr) : Nat → Step (List Value)
  | 0 => Step.exhausted
  | fuel + 1 => do
    match terms with
    | [] => return []
    | term :: rest =>
      let value ← argument setting term fuel
      return value :: (← argumentAll setting rest fuel)

/-- Call a function with some arguments known.  A variable that is the first argument is looked up
after the other arguments, and a function that changes it changes the variable, unless that is
constant or shared. -/
def apply (setting : Setting) (name : String) (bound : List Value) (arguments : List Expr)
    (p : Position) : Nat → Step Value
  | 0 => Step.exhausted
  | fuel + 1 => do
    match bound, arguments with
    | [], .variable_ variable_ defined q :: rest =>
      let values ← settledAll setting rest fuel
      let holding ← Step.find setting variable_ defined q
      Step.tick setting
      let first ← Step.read holding.value
      let (outcome, changed) ← named setting name (first :: values) false p fuel
      match changed, holding.value with
      | some _, .cell _ | none, _ => pure ()
      | some new, _ => if !holding.constant then Step.assign variable_ new
      Step.take outcome
    | [], .this q :: rest =>
      let values ← settledAll setting rest fuel
      Step.tick setting
      match (← get).this with
      | none => Step.fail .unboundThis q
      | some holding =>
        let (outcome, changed) ←
          named setting name (holding.value :: values) holding.constant p fuel
        match changed with
        | some new => Step.assignThis new
        | none => pure ()
        Step.take outcome
    | bound, arguments =>
      let values ← settledAll setting arguments fuel
      Step.take (← named setting name (bound ++ values) false p fuel).1

/-- Call a function of a name with values.  What becomes of the first one is told of functions only
that every script has. -/
def named (setting : Setting) (name : String) (arguments : List Value) (constant : Bool)
    (p : Position) : Nat → Step Effect
  | 0 => Step.exhausted
  | fuel + 1 => do
    match if isKeptBack name then none else setting.function? name arguments.length with
    | some function =>
      if function.body.isEmpty then return .of .unit
      else return ((← carryOut setting function arguments none p fuel).1, none)
    | none => Step.native setting name (← arguments.mapM Step.read) constant p

/-- Carry out a statement. -/
def perform (setting : Setting) (statement : Stmt) : Nat → Step Value
  | 0 => Step.exhausted
  | fuel + 1 => do
    Step.tick setting
    match statement with
    | .skip => return .unit
    | .expr value =>
      Step.read (← if value.isCall then compute setting value fuel else evaluate setting value fuel)
    | .define name constant value =>
      Step.bring name ⟨← result setting value fuel, constant⟩
      return .unit
    | .assign op (.this p) value q =>
      if (← get).this.isNone then Step.fail .unboundThis p
      let value ← result setting value fuel
      Step.tick setting
      match (← get).this with
      | none => Step.fail .unboundThis p
      | some holding =>
        let goal : Assignment := ⟨op, value, q, "", p⟩
        Step.assignThis (← Step.assigned setting goal holding.constant holding.value)
        return .unit
    | .assign op (.variable_ name defined p) value q =>
      let value ← result setting value fuel
      Step.tick setting
      let goal : Assignment := ⟨op, value, q, name, p⟩
      if !defined && setting.functions.any (·.name = name) then
        Step.fail (.assignsConstant name) p
      let holding ← Step.find setting name defined p
      let current ← match holding.value with
        | .cell address => pure ((← get).cells.getD address default)
        | _ => pure holding
      Step.assign name (← Step.assigned setting goal current.constant current.value)
      return .unit
    | .assign op target value q =>
      let value ← result setting value fuel
      match target with
      | .chain root links p =>
        let goal : Assignment := ⟨op, value, q, root.name?.getD "", root.start⟩
        Step.placed p do
          let stages ← stages setting (links.length = 1) links fuel
          let _ ← along setting root stages (some goal) fuel
        return .unit
      | _ => return .unit
    | .block body => performBlock setting body fuel
    | .branch condition yes no =>
      if ← Step.truth condition.position (← result setting condition fuel) then
        performBlock setting yes fuel
      else performBlock setting no fuel
    | .choose subject arms fallback =>
      let value ← evaluate setting subject fuel
      let read ← Step.read value
      let named := arms.filter (Arm.names read)
      let taken := if named.isEmpty then (Arm.ranges arms).filter (Arm.covers value) else named
      match ← firstTrue setting taken fuel with
      | some body => evaluate setting body fuel
      | none =>
        match fallback with
        | some body => evaluate setting body fuel
        | none => return .unit
    | .repeat condition body => leaving (rounds setting condition body fuel)
    | .again body condition expected => leaving (roundsAgain setting body condition expected fuel)
    | .forEach name counter subject body =>
      match ← result setting subject fuel with
      | .list items =>
        Step.forgetting do
          introduce name counter
          leaving (eachItem setting name counter body 0 items fuel)
      | .range start stop closed =>
        Step.forgetting do
          introduce name counter
          leaving (eachInteger setting name counter body 0 start
            (if closed then stop + 1 else stop) fuel)
      | .string text =>
        Step.forgetting do
          introduce name counter
          leaving (eachItem setting name counter body 0 (text.toList.map .char) fuel)
      | _ => Step.fail .notIterable subject.start
    | .leave value =>
      match value with
      | some value => throw (.leave (← evaluate setting value fuel))
      | none => throw (.leave .unit)
    | .next => throw .next
    | .give value =>
      match value with
      | some value => throw (.give (← result setting value fuel))
      | none => throw (.give .unit)
    | .throw value p =>
      match value with
      | some value => Step.fail (.thrown (← result setting value fuel)) p
      | none => Step.fail (.thrown .unit) p
    | .attempt body name handler =>
      match ← Step.outcome (performBlock setting body fuel) with
      | .ok value => return value
      | .error (.fault fault) =>
        if !fault.cause.canBeHandled then throw (.fault fault)
        let handled ← Step.outcome do
          Step.forgetting do
            match name with
            | some name => Step.bring name { value := fault.toValue }
            | none => pure ()
            performBlock setting handler fuel
        match handled with
        | .ok _ => return .unit
        | .error (.fault ⟨.thrown .unit, p, []⟩) => throw (.fault (fault.again p))
        | .error exit => throw exit
      | .error exit => throw exit
    | .share names =>
      for (name, p) in names do
        Step.share name p
      return .unit
where
  /-- The value of a loop, which may be left. -/
  leaving (loop : Step Value) : Step Value := do
    match ← Step.outcome loop with
    | .error (.leave value) => return value
    | other => Step.take other
  /-- Bring the variables of a loop into scope. -/
  introduce (name : String) (counter : Option String) : Step Unit := do
    match counter with
    | some counter => Step.bring counter { value := .int 0 }
    | none => pure ()
    Step.bring name { value := .unit }

/-- Carry out statements one after the other; the value is that of the last one. -/
def performAll (setting : Setting) (statements : List Stmt) : Nat → Step Value
  | 0 => Step.exhausted
  | fuel + 1 => do
    match statements with
    | [] => return .unit
    | [last] => perform setting last fuel
    | statement :: rest =>
      let _ ← perform setting statement fuel
      performAll setting rest fuel

/-- Carry out statements and forget their variables. -/
def performBlock (setting : Setting) (statements : List Stmt) : Nat → Step Value
  | 0 => Step.exhausted
  | fuel + 1 =>
    match statements with
    | [] => pure .unit
    | _ => Step.forgetting (performAll setting statements fuel)

/-- Carry out one round of a loop, and tell whether it came to its end. -/
def round (setting : Setting) (body : List Stmt) : Nat → Step Bool
  | 0 => Step.exhausted
  | fuel + 1 => do
    match ← Step.outcome (performBlock setting body fuel) with
    | .ok _ => return true
    | .error .next => return false
    | .error exit => throw exit

/-- Carry out the rounds of a loop. -/
def rounds (setting : Setting) (condition : Option Expr) (body : List Stmt) : Nat → Step Value
  | 0 => Step.exhausted
  | fuel + 1 => do
    match condition with
    | none =>
      if body.isEmpty then Step.tick setting
      else
        let _ ← round setting body fuel
      rounds setting condition body fuel
    | some term =>
      if ← Step.truth term.position (← result setting term fuel) then
        let _ ← round setting body fuel
        rounds setting condition body fuel
      else return .unit

/-- Carry out the rounds of a loop that has its condition at the end.  A round that is cut short
skips the condition. -/
def roundsAgain (setting : Setting) (body : List Stmt) (condition : Expr) (expected : Bool) :
    Nat → Step Value
  | 0 => Step.exhausted
  | fuel + 1 => do
    if ← round setting body fuel then
      if (← Step.truth condition.position (← result setting condition fuel)) = expected then
        roundsAgain setting body condition expected fuel
      else return .unit
    else roundsAgain setting body condition expected fuel

/-- Carry out a round for an item. -/
def roundFor (setting : Setting) (name : String) (counter : Option String) (body : List Stmt)
    (count : Nat) (item : Value) : Nat → Step Unit
  | 0 => Step.exhausted
  | fuel + 1 => do
    match counter with
    | some counter => Step.assign counter (.int count)
    | none => pure ()
    Step.assign name item
    Step.tick setting
    let _ ← round setting body fuel

/-- Carry out a round for every item. -/
def eachItem (setting : Setting) (name : String) (counter : Option String) (body : List Stmt)
    (count : Nat) (items : List Value) : Nat → Step Value
  | 0 => Step.exhausted
  | fuel + 1 => do
    match items with
    | [] => return .unit
    | item :: rest =>
      roundFor setting name counter body count item fuel
      eachItem setting name counter body (count + 1) rest fuel

/-- Carry out a round for every integer before an end. -/
def eachInteger (setting : Setting) (name : String) (counter : Option String)
    (body : List Stmt) (count : Nat) (start stop : Int) : Nat → Step Value
  | 0 => Step.exhausted
  | fuel + 1 => do
    if start ≥ stop then return .unit
    else
      roundFor setting name counter body count (.int start) fuel
      eachInteger setting name counter body (count + 1) (start + 1) stop fuel

/-- The body of the first arm whose condition holds. -/
def firstTrue (setting : Setting) (arms : List Arm) : Nat → Step (Option Expr)
  | 0 => Step.exhausted
  | fuel + 1 => do
    match arms with
    | [] => return none
    | .mk _ condition body :: rest =>
      let holds ← match condition with
        | .constant (.bool known) _ => pure known
        | condition => do Step.truth condition.position (← result setting condition fuel)
      if holds then return some body else firstTrue setting rest fuel

end

end Workflow.Script
