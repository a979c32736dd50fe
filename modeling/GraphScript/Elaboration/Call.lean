import GraphScript.Elaboration.Inspection
import GraphScript.Typing.Associative

/-!
# Calls

A call names a function of the script, an operator, or an inspection, in this order.  Its arguments
are bound to ports, and the types of its outputs are found.
-/

namespace GraphScript.Elaboration

open GraphScript.Language (Tree)
open Program (Term Terminals Outputs)

/-- The type that a term has as an operand: a node counts as its only port. -/
def operandType (term : Term) : Verdict PortType := do
  let type ← term.type
  if type.isNode then
    match term.outputs? with
    | none => return type
    | some [] => Verdict.reject "No output ports on node."
    | some [(_, port)] => return port
    | some outputs =>
      Verdict.reject s!"Too many ports on node: {Text.quotedList (outputs.map Prod.fst)}"
  else return type

/-- Output ports with types; of two ports with one name the later type counts. -/
def outputsOf (names : List String) (types : List PortType) : Outputs :=
  (Table.ofList (names.zip types)).entries

def argumentsOf (given : List Given) : List Program.Argument := given.map Given.argument

/-! ## Functions -/

def checkPorts (spot : Tree) : List String → List (Option PortType) → List PortType →
    Elaborating Unit
  | name :: names, some type :: types, target :: targets => do
    checkCast spot type.onlyPort target (some name)
    checkPorts spot names types targets
  | _ :: names, none :: types, _ :: targets => checkPorts spot names types targets
  | _, _, _ => return ()

/-- Why no overload has fitted so far. -/
inductive Misfit where
  | none
  | rejected (reason : Overload.Rejection)
  | stopped (fault : Fault)

/-- The misfit after one more rejection. -/
def Misfit.reject (reason : Overload.Rejection) : Misfit → Misfit
  | .stopped fault => .stopped fault
  | _ => .rejected reason

/-- The first overload that fits the arguments: its input types, the binding, and its output
types. -/
def fittingOverload (spot : Tree) (names : List String) (positional named : List Given)
    (misfit : Misfit) :
    List (List String × List PortType) → Elaborating (List PortType × Bound × List PortType)
  | [] =>
    match misfit with
    | .stopped fault => throw fault
    | .rejected reason => report reason.kind spot reason.message
    | .none => throw .badOperand
  | (inputs, outputs) :: rest => do
    let inputTypes ← (inputs.mapM PortType.ofName : Except Fault (List PortType))
    match ← (bindArguments names inputTypes positional named).run with
    | .error reason => fittingOverload spot names positional named (misfit.reject reason) rest
    | .ok bound =>
      match ← Act.attempt (checkPorts spot names bound.given inputTypes) with
      | .ok () => return (inputTypes, bound, outputs)
      | .error fault => fittingOverload spot names positional named (.stopped fault) rest

/-- A call of a function of the script.  Every call gets a copy of the body. -/
def callFunction (spot : Tree) (name full : String) (function : Function) (terminals : Terminals)
    (positional named : List Given) : Elaborating Term := do
  let body ← copyOf function.body
  let function := { function with body := body }
  modifyThe Session fun session =>
    { session with functions := session.functions.insert full function }
  let names := function.parameters.map Program.Parameter.name
  let (inputTypes, bound, outputs) ←
    fittingOverload spot names positional named .none function.overloads
  let named := inPortOrder names named
  let call ← fresh (.function name body (argumentsOf positional) (argumentsOf named) terminals
    inputTypes bound.argumentTypes (outputsOf (function.results.map Program.Result.name) outputs))
  checkBound (positional ++ named) bound.argumentTypes
  return call

/-! ## Operators -/

def addedPort (index : Nat) (given : Given) : String :=
  match given.argument.name with
  | some name => if name == "" then s!"item{index}" else s!"item{index}_{name}"
  | none => s!"item{index}"

def callAssociative (spot : Tree) (name : String) (terminals : Terminals)
    (positional named : List Given) : Elaborating Term := do
  let given := positional ++ named
  let type ← judged spot (Typing.associative name (given.map Given.type))
  let (_, outputs) ← (← registry).portNames name
  let output ← (Overload.itemAt outputs 0 : Except Fault String)
  let portNames := given.zipIdx.map fun entry => addedPort entry.2 entry.1
  fresh (.associative name portNames (argumentsOf positional) (argumentsOf named) terminals
    [(output, type)])

/-- The first overload of an operator that the arguments can be bound to. -/
def bindOperator (names : List String) (positional named : List Given)
    (reason : Option Overload.Rejection) :
    List (List String) → Except Fault (Except (Option Overload.Rejection) Bound)
  | [] => .ok (.error reason)
  | types :: rest => do
    let declared ← (types.filter (· != "")).mapM PortType.ofName
    match ← (bindArguments names declared positional named).run with
    | .ok bound => return .ok bound
    | .error reason => bindOperator names positional named (some reason) rest

def callNative (spot : Tree) (name : String) (terminals : Terminals)
    (positional named : List Given) : Elaborating Term := do
  let registry ← registry
  let (inputTypes, _) ← registry.allPortTypes name
  let (namesIn, namesOut) ← registry.portNames name
  match ← bindOperator namesIn positional named none inputTypes with
  | .error none => throw .badOperand
  | .error (some reason) => report reason.kind spot reason.message
  | .ok bound =>
    match ← registering (Overload.resolveNow name bound.types) with
    | .dismissed _ => throw .badValue
    | .failed reason => report reason.kind spot reason.message
    | .found inputs outputs =>
      let named := inPortOrder namesIn named
      let inputTypes ← (inputs.mapM PortType.ofName : Except Fault (List PortType))
      let outputTypes ← (outputs.mapM PortType.ofName : Except Fault (List PortType))
      let call ← fresh (.native name (argumentsOf positional) (argumentsOf named) terminals
        inputTypes bound.argumentTypes (outputsOf namesOut outputTypes))
      checkBound (positional ++ named) bound.argumentTypes
      return call

def callNamed (spot nameSpot : Tree) (name : String) (terminals : Terminals)
    (positional named : List Given) : Elaborating Term := do
  if Text.startsWith "__debug::" name then
    let text ← inspect spot (Text.after "::" name) positional named
    let type ← PortType.ofName "string"
    fresh (.value (.text text) type)
  else
    let functions := (← getThe Session).functions
    match functions.resolve? name, functions.lookup? name with
    | some full, some function => callFunction spot name full function terminals positional named
    | _, _ =>
      match (← registry).fullName? name with
      | none => report .name nameSpot s!"Unknown operator or compound: '{name}'"
      | some full =>
        if ← (← registry).isAssociative full then
          callAssociative spot full terminals positional named
        else callNative spot full terminals positional named

/-! ## Values of types -/

def ownMembers (members : List (String × String)) : List (String × String) :=
  members.filter fun entry => !Text.holds "." entry.1

/-- The arguments by member: those by position, then those by name. -/
def fillMembers (names : List String) (filled : List (Option Given)) :
    List Given → Except Fault (List (Option Given))
  | [] => .ok filled
  | given :: rest =>
    match names.findIdx? (· == given.name) with
    | none => .error .badValue
    | some index => fillMembers names (filled.set index (some given)) rest

def checkMembers (spot : Tree) : List (String × String) → List (Option Given) → Elaborating Unit
  | (_, type) :: members, some given :: rest => do
    checkCast spot given.type (← PortType.ofName type) none
    checkMembers spot members rest
  | _ :: members, none :: rest => checkMembers spot members rest
  | _, _ => return ()

def construct (spot : Tree) (type : String) (positional named : List Given) : Elaborating Term := do
  let members ← orFault .missingKey (Catalogue.members? type)
  if members.isEmpty then
    report .type spot "No members found for type. Use default assignment"
  let own := ownMembers members
  let names := own.map Prod.fst
  let start := names.zipIdx.map fun entry => positional[entry.2]?
  let filled ← fillMembers names start named
  checkMembers spot own filled
  fresh (.construct type (argumentsOf positional) (argumentsOf named))

end GraphScript.Elaboration
