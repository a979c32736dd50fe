import GraphScript.Elaboration.Header

/-!
# Assignments and bodies

Compounds, functions and loops have a header and a body of statements.  The body is elaborated in a
frame of its own that holds the parameters as variables and the results as names to assign to.
Empty statements are dropped, except at the end of a body.
-/

namespace GraphScript.Elaboration

open GraphScript.Language (Tree)
open Program (Term)

/-- A target with the tree that reports on it show. -/
structure Aim where
  spot : Tree
  target : Program.Target

def declaredTarget (spot typeSpot : Tree) (type name : String) : Elaborating Aim := do
  if (← typeOf? name).isSome then
    report .name spot s!"Redefinition: '{name}' already exists!"
  if Text.holds "<" type && (Catalogue.enumeration? (PortType.innerName type)).isSome then
    report .type typeSpot
      "Bifrost currently crashes if your have enum arrays of more than one dimension"
  let type ← PortType.make type (some [])
  return ⟨spot, .declared name type⟩

def namedTarget (spot : Tree) (name : String) : Elaborating Aim := do
  match ← typeOf? name with
  | none =>
    let lines := (← getThe Session).scopes.lines
    print ("\n".intercalate (lines ++ ["None"]))
    report .name spot s!"Unknown variable: '{name}'"
  | some type => return ⟨spot, .reference name type⟩

def partBase (nameSpot : Tree) (name : String) : Elaborating PortType := do
  match ← typeOf? name with
  | none => report .general nameSpot s!"Variable '{name}' referenced before assignment"
  | some type =>
    if ← isResult name then report .general nameSpot s!"Cant access result '{name}'"
    return type

def memberTarget (spot nameSpot : Tree) (name path : String) : Elaborating Aim := do
  let base ← partBase nameSpot name
  let variableTerm ← fresh (.reference name base)
  let type ← base.member path
  let id ← freshId
  return ⟨spot, .part id .member variableTerm (.member path) type⟩

/-- A target that is an element of an array or text, or the value under a key of an object. -/
def elementTarget (spot nameSpot indexSpot : Tree) (name : String) (index : Syntax.Expr) :
    Elaborating Aim := do
  let index ← expression index
  let access ← index.type
  let indexId ← freshId
  let base ← partBase nameSpot name
  let aim (kind : Program.PartKind) (type : PortType) : Elaborating Aim := do
    let variableTerm ← fresh (.reference name base)
    let id ← freshId
    return ⟨spot, .part id kind variableTerm (.index indexId index) type⟩
  if base.name == "string" || base.isArray then
    if access.isArray || !(← access.isInteger) then
      report .general indexSpot
        s!"Must assign to string and array via single integer, not '{access.name}'"
    if base.name == "string" then aim .string base
    else aim .array (← PortType.ofName (Program.withoutLevel base.name))
  else if base.name == "Object" then
    if access.isArray || !(← access.isString) then
      report .general indexSpot s!"Must assign to object via single string, not '{access.name}'"
    aim .object access
  else report .general spot s!"Cannot assign to '{base.name}' via '{access.name}'"

def target : Syntax.Target → Elaborating (Option Aim)
  | .ignored => return none
  | .declared spot typeSpot type name => return some (← declaredTarget spot typeSpot type name)
  | .named spot name => return some (← namedTarget spot name)
  | .member spot nameSpot name path => return some (← memberTarget spot nameSpot name path)
  | .element spot nameSpot indexSpot name index =>
    return some (← elementTarget spot nameSpot indexSpot name index)

def targets : List Syntax.Target → Elaborating (List (Option Aim))
  | [] => return []
  | written :: rest => do
    let first ← target written
    return first :: (← targets rest)

/-- The name that a report calls a node by; loops and values have none. -/
def nodeName? (term : Term) : Option String :=
  match term.form with
  | .associative name .. => some name
  | .native name .. => some name
  | .function name .. => some name
  | .construct name .. => some name
  | .scope name .. => some name
  | _ => none

def checkReturns (valueSpot : Tree) (value : Term) : Elaborating Unit := do
  if (← value.outputs).isEmpty then
    let name ← orFault .missingMember (nodeName? value)
    report .type valueSpot s!"'{name}' does not return anything."

def assignedTypes (operator : String) (count : Nat) (type : PortType) : List PortType :=
  if type.isNode then
    if count > 1 || operator == ":=" then (type.ports.getD []).map Prod.snd else [type]
  else List.replicate count type

/-- The type that a variable has after an assignment: an open type and the type of a node are taken
over from the value. -/
def settledType (type value : PortType) : PortType :=
  if type.name == PortType.autoName || (value.isNode && type.isNode) then value else type

def storeVariable (name : String) (type : PortType) (value : Term) : Elaborating Unit := do
  setName (← isResult name) name type (if type.isNode then some value else none)

def assign (valueSpot : Tree) (value : Term) (aim : Aim) (type : PortType) :
    Elaborating Program.Target := do
  match aim.target with
  | .ignored => return .ignored
  | .declared name own =>
    let settled := settledType own type
    storeVariable name settled value
    checkCast aim.spot type settled none
    return .declared name settled
  | .reference name own =>
    let settled := settledType own type
    storeVariable name settled value
    checkCast aim.spot type settled none
    return .reference name settled
  | .part id kind base accessor own =>
    if kind = .object then
      if type.isNode then report .type valueSpot "Cant assign NODE to object"
    else checkCast aim.spot type own none
    return .part id kind base accessor own

/-- Assigns to the targets one after the other; targets without a type of their own stay. -/
def assignAll (valueSpot : Tree) (value : Term) :
    List (Option Aim) → List PortType → Elaborating (List Program.Target)
  | [], _ => return []
  | none :: aims, types => return .ignored :: (← assignAll valueSpot value aims (types.drop 1))
  | some aim :: aims, [] => return aim.target :: (← assignAll valueSpot value aims [])
  | some aim :: aims, type :: types => do
    let first ← assign valueSpot value aim type
    return first :: (← assignAll valueSpot value aims types)

def assignment (valueSpot : Tree) (written : List Syntax.Target) (operator : String)
    (value : Term) : Elaborating Program.Statement := do
  let aims ← targets written
  let type ← value.type
  if aims.any Option.isSome && type.isNode then checkReturns valueSpot value
  let assigned ← assignAll valueSpot value aims (assignedTypes operator aims.length type)
  return .assignment (← freshId) assigned operator value

def takeOutputs (spot : Tree) : Program.Outputs → Elaborating Unit
  | [] => return ()
  | (name, type) :: rest => do
    match ← typeOf? name with
    | some current =>
      if current.name != type.name then
        report .name spot s!"A variable named '{name}' of a different type already exists!"
    | none => pure ()
    if !(← isResult name) then setName false name type none
    takeOutputs spot rest

def openScope (parameters : List Program.Parameter) (results : List Program.Result) :
    Elaborating Unit := do
  parameters.forM fun parameter => setName false parameter.name parameter.type none
  results.forM fun result => setName true result.name result.type none

/-- The type that an iteration target has inside of a loop, and any other type itself. -/
def insideType (isTarget : Bool) (type : PortType) : Except Fault PortType :=
  PortType.ofName (if isTarget then Program.withoutLevel type.name else type.name)

def openLoopParameters : List Program.LoopParameter → Elaborating Unit
  | [] => return ()
  | parameter :: rest => do
    setName false parameter.name (← insideType parameter.isTarget parameter.type) none
    openLoopParameters rest

def openLoopResults (kind : Syntax.LoopKind) : List Program.LoopResult → Elaborating Unit
  | [] => return ()
  | result :: rest => do
    let type ← if kind = .doWhile then pure result.type else
      (insideType result.isTarget result.type : Except Fault PortType)
    setName true result.name type none
    openLoopResults kind rest

/-- Stores all names that the body of a loop starts with. -/
def openLoop (kind : Syntax.LoopKind) (parameters : List Program.LoopParameter)
    (results : List Program.LoopResult) (limited : Bool) (index : String) : Elaborating Unit := do
  let long ← PortType.ofName "long"
  setName false "#" long none
  setName false index long none
  if limited then setName false "max_iterations" long none
  openLoopParameters parameters
  openLoopResults kind results

def checkLoop (kind : Syntax.LoopKind) (written : Syntax.Results) (firstSpot openSpot : Tree)
    (unlimited limited : Bool) (parameters : List Program.LoopParameter)
    (results : List Program.LoopResult) : Elaborating Unit := do
  let bounded := limited || parameters.any Program.LoopParameter.isTarget
  if kind = .doWhile && !unlimited && !bounded then
    report .form firstSpot "Missing max_iterations setting or 'nolimit' keyword"
  checkDisjoint written.spot (parameters.map Program.LoopParameter.name)
    (results.map Program.LoopResult.name)
  if kind ≠ .forEach then
    let inputs := parameters.map fun parameter => (parameter.name, parameter.type)
    checkFeedback "State" written inputs [] (stateFeedbacks results)
  if kind ≠ .doWhile && !bounded then
    report .general openSpot "Either max_iterations or an iteration target is required!"

def isEmptyStatement : Program.Statement → Bool
  | .empty => true
  | _ => false

/-- A body without empty statements, except for the last statement. -/
def withoutEmpty (code : List Program.Statement) : List Program.Statement :=
  (code.dropLast.filter fun statement => !isEmptyStatement statement) ++ code.getLast?.toList

mutual

/-- Checks a statement. -/
def statement : Syntax.Statement → Elaborating Program.Statement
  | .empty => return .empty
  | .block written => return .make (← block written)
  | .loop written => return .make (← loop written)
  | .takeOver spot written => do
    let node ← maker written
    takeOutputs spot (← node.outputs)
    return .takeOver (← freshId) node
  | .assignment valueSpot targets operator written => do
    let value ← maker written
    assignment valueSpot targets operator value
  | .call written => return .make (← call written)

/-- Elaborates statements from first to last. -/
def statements : List Syntax.Statement → Elaborating (List Program.Statement)
  | [] => return []
  | written :: rest => do
    let first ← statement written
    return first :: (← statements rest)

def maker : Syntax.Maker → Elaborating Term
  | .expr written => expression written
  | .block written => block written
  | .loop written => loop written

/-- Checks a block in a frame of its own. -/
def block : Syntax.Block → Elaborating Term
  | .mk name flags writtenParameters writtenResults code => do
    let flags ← terminals flags
    let parameters ← parameters [] writtenParameters
    let results ← results writtenResults
    checkDisjoint writtenResults.spot (parameters.map Program.Parameter.name)
      (results.map Program.Result.name)
    let inputs := parameters.map fun parameter => (parameter.name, parameter.type)
    checkFeedback "Feedback" writtenResults inputs [] (feedbacks results)
    let code ← inFrame do
      openScope parameters results
      statements code
    fresh (.scope (name.getD "unnamed") parameters results (withoutEmpty code) flags)

def loop : Syntax.Loop → Elaborating Term
  | .mk kind flags writtenParameters writtenResults settings firstSpot openSpot unlimited code
      condition => do
    let flags ← terminals flags
    let (limit, index) ← loopSettings settings
    let parameters ← loopParameters [] writtenParameters
    let results ← loopResults kind writtenResults
    checkLoop kind writtenResults firstSpot openSpot unlimited limit.isSome parameters results
    let (code, condition) ← inFrame do
      openLoop kind parameters results limit.isSome index.name
      let code ← inLoop (statements code)
      let condition ← optionalExpression condition
      return (code, condition)
    fresh (.loop kind parameters results (withoutEmpty code) limit index flags condition)

end

end GraphScript.Elaboration
