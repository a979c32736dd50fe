import GraphScript.Graph.Slice
import GraphScript.Program.Constant

/-!
# Wiring values

Steps of the emission of a program that do not look inside terms: taking the only port of a node,
converting truth values to numbers, and giving results their values.
-/

namespace GraphScript.Emission

open GraphScript.Graph Program
open Syntax (OperatorKind LoopKind)

/-- The path that a term was built as, if it was built before. -/
def known? (id : Nat) : Building (Option NodePath) := do
  return (← getThe Construction).built[id]?

/-- Builds a term the first time, and remembers its path. -/
def once (id : Nat) (build : Building NodePath) : Building NodePath := do
  match ← known? id with
  | some path => return path
  | none =>
    let path ← build
    modifyThe Construction fun construction =>
      { construction with built := construction.built.insert id path }
    return path

/-- Carries out a statement the first time. -/
def onceOnly (id : Nat) (action : Building Unit) : Building Unit := do
  if (← getThe Construction).done.contains id then return
  action
  modifyThe Construction fun construction =>
    { construction with done := construction.done.insert id () }

def firstPort (type : PortType) : Except Fault (String × PortType) :=
  match type.ports with
  | none => .error .badOperand
  | some [] => .error .badIndex
  | some (port :: _) => .ok port

/-- The port that carries a value, and its type: for a node, that is its first output. -/
def expanded (path : NodePath) (type : PortType) : Except Fault (NodePath × PortType) := do
  if type.isNode then
    let (port, portType) ← firstPort type
    return (path.port port, portType)
  else return (path, type)

def valuePort (path : NodePath) (type : PortType) : Except Fault NodePath := do
  return (← expanded path type).1

/-- The port of the first output of a term that makes a node. -/
def outputPort (path : NodePath) (term : Term) : Except Fault NodePath := do
  if (← term.type).isNode then
    match ← term.outputs with
    | [] => throw .badIndex
    | (port, _) :: _ => return path.port port
  else return path

def isTruthType (type : PortType) : Except Fault Bool := do
  return (← (← type.baseType).baseType).name == "bool"

/-- Converts a truth value that goes to a port of another type to a number. -/
def castTruth (path : NodePath) (type : PortType) (wanted : Except Fault PortType) :
    Building NodePath := do
  if ← isTruthType type then
    if ← isTruthType (← wanted) then return path
    else charNode path
  else return path

def castName (type : String) : String :=
  if ["double", "float", "char", "short", "int", "long", "bool"].contains type then "to_" ++ type
  else "to_unsigned_" ++ Text.dropStart 1 type

/-- Converts a component that does not have the component type of its vector or matrix. -/
def castComponent (cast : String) (path : NodePath) (type base : PortType) : Building NodePath := do
  if type == base then return path
  else
    let conversion ← createNode ("Core::Type_Conversion::" ++ cast)
    connect path (conversion.port "from")
    return conversion.port (Text.dropStart 3 cast)

def numberOperand (path : NodePath) (type : PortType) : Building NodePath := do
  if ← isTruthType type then
    let conversion ← createNode "Core::Type_Conversion::to_char"
    connect path (conversion.port "from")
    return conversion.port "char"
  else return path

def operatorNode (operator : String) (left right : NodePath) : Building NodePath :=
  match operator with
  | "+" => collectingNode "add" [left, right]
  | "-" => collectingNode "subtract" [left, right]
  | "*" => collectingNode "multiply" [left, right]
  | "/" => collectingNode "divide" [left, right]
  | "%" => moduloNode left right
  | "**" => powerNode left right
  | "==" => logicNode "equal" left right
  | "!=" => logicNode "not_equal" left right
  | ">=" => logicNode "greater_or_equal" left right
  | "<=" => logicNode "less_or_equal" left right
  | ">" => logicNode "greater" left right
  | "<" => logicNode "less" left right
  | "&&" => logicNode "and" left right
  | "||" => logicNode "or" left right
  | "^" => logicNode "xor" left right
  | other => throw (.unsupported other)

def comparisonNode (operator : String) (left right : NodePath) : Building NodePath :=
  if ["==", "!=", ">=", "<=", ">", "<"].contains operator then operatorNode operator left right
  else throw (.unsupported "")

def allOf (first : NodePath) : List NodePath → Building NodePath
  | [] => return first
  | next :: rest => do allOf (← logicNode "and" first next) rest

/-- Whether the operands of a text operation are joined together with those around it. -/
def joinsWith : OperatorKind → OperatorKind → Bool
  | .math, _ => true
  | outer, inner => outer == inner

def flagData : Terminals → List Datum
  | none => [.nothing]
  | some flags => flags.map Datum.text

def literalDatum : Literal → Datum
  | .none => .nothing
  | .whole value => .whole value
  | .fraction value => .fraction value
  | .text value => .text value

/-- The places of positional and named values among the ports of a node. -/
def placed (names : List String) (positional : List NodePath) (named : List (Nat × NodePath)) :
    List (String × Option NodePath) :=
  let start := names.mapIdx fun place name => (name, positional[place]?)
  named.foldl (fun filled (place, path) => filled.modify place fun (name, _) => (name, some path))
    start

def connectPlaced (port : String → NodePath) : List (String × Option NodePath) → Building Unit
  | [] => return
  | (_, none) :: rest => connectPlaced port rest
  | (name, some path) :: rest => do
    connect path (port name)
    connectPlaced port rest

/-- Takes away that ports of some operators collect connections. -/
def stopCollecting (name : String) (node : NodePath) : Building Unit :=
  if name == "build_string" || Text.endsWith "::build_string" name then
    send (.stopCollecting (node.text ++ ".strings"))
  else if name == "terminal" || Text.endsWith "::terminal" name then do
    send (.stopCollecting (node.text ++ ".final"))
    send (.stopCollecting (node.text ++ ".proxy"))
    send (.stopCollecting (node.text ++ ".diagnostic"))
  else return

def assignTo (name : String) (value : NodePath) : Building Unit := do
  if (← currentMemory).isOpen name then
    connect value (← takeResult name).value
  else assign name value

def takeOver (node : NodePath) : Outputs → Building Unit
  | [] => return
  | (name, type) :: rest => do
    let memory ← currentMemory
    if memory.isDefined name then assign name (node.port name)
    else if memory.isOpen name then connect (node.port name) (← takeResult name).value
    else define name type.name (node.port name)
    takeOver node rest

def valuesFor (targetCount : Nat) (operator : String) (value : Term) (path : NodePath) :
    Except Fault (List NodePath) := do
  if (← value.type).isNode then
    if targetCount > 1 || operator == ":=" then
      return (← value.outputs).map fun (port, _) => path.port port
    else return [path]
  else return List.replicate targetCount path

def memberHolder (type : PortType) : Except Fault String := do
  if type.isArray then return (← type.baseType).name else return type.name

def variableName (term : Term) : Except Fault String :=
  match term.form with
  | .reference name _ => .ok name
  | _ => .error .missingMember

/-- Gives a bound of a slice: by a connection, or by saying that it is missing. -/
def setBound (node : NodePath) (name : String) : Option (Building NodePath) → Building Unit
  | some bound => do connect (← bound) (node.port name)
  | none => setDefault node (name ++ "_is_none") (.truth true)

def sliceNode (start stop step : Option (Building NodePath)) : Building NodePath := do
  let node ← Slice.create .nothing .nothing
  setBound node "start" start
  setBound node "stop" stop
  setBound node "step" step
  return node

def propertyNode (key : Building NodePath) (wanted : PortType)
    (default : Option (Building NodePath)) : Building NodePath := do
  let node ← createNode "Core::Object::get_property"
  connect (← key) (node.port "key")
  match default with
  | some value => connect (← value) (node.port "default_and_type")
  | none => setPortType node "default_and_type" wanted.name
  return node.port "value"

/-- Takes the elements of a text or an array at the indices that a slice lists. -/
def slicedNode (value : NodePath) (type : PortType) (slice : NodePath) : Building NodePath := do
  if type.name == "string" then
    let length ← createNode "Core::String::string_length"
    connect value (length.port "string")
    connect (length.port "length") (slice.port "size")
    let taking ← createNode "Core::String::get_from_string"
    connect value (taking.port "string")
    connect (slice.port "out_indices") (taking.port "index")
    let joining ← createNode "Core::String::build_string"
    send (.stopCollecting (joining.text ++ ".strings"))
    connect (taking.port "character") (joining.port "strings")
    return joining.port "joined"
  else
    let length ← createNode "Core::Array::array_size"
    connect value (length.port "array")
    connect (length.port "size") (slice.port "size")
    let taking ← createNode "Core::Array::get_from_array"
    connect value (taking.port "array")
    connect (slice.port "out_indices") (taking.port "index")
    return taking.port "value"

def indexedNode (value : NodePath) (type : PortType) (plain expanded : Building NodePath) :
    Building NodePath := do
  if type.name == "string" then
    let taking ← createNode "Core::String::get_from_string"
    connect value (taking.port "array")
    connect (← plain) (taking.port "index")
    return taking.port "character"
  else
    let taking ← createNode "Core::Array::get_from_array"
    connect value (taking.port "array")
    connect (← expanded) (taking.port "index")
    return taking.port "value"

def memberNode (value : NodePath) (type : PortType) (path : String) : Building NodePath := do
  let node ← createValueNode (← memberHolder type)
  connect value (node.port "value")
  return node.port ("output." ++ path)

/-- Sets a part of a variable: the new value of the whole variable. -/
def partNode (kind : PartKind) (value : NodePath) (baseType : PortType) (path : Option String)
    (base accessor : Building NodePath) : Building NodePath := do
  match kind with
  | .member =>
    let node ← createValueNode (← memberHolder baseType)
    let path ← orFault .missingMember path
    connect value (node.port ("value." ++ path))
    return node.port "output"
  | .string => setting "set_in_string" "string" "characters" "index" "out_string"
  | .array => setting "set_in_array" "array" "value" "index" "out_array"
  | .object => setting "set_property" "object" "value" "key" "out_object"
where
  setting (kind whole part place result : String) : Building NodePath := do
    let node ← createNode kind
    connect (← base) (node.port whole)
    connect value (node.port part)
    connect (← accessor) (node.port place)
    return node.port result

def parameterNames (body : Term) : List String :=
  match body.form with
  | .scope _ parameters _ _ _ => parameters.map Parameter.name
  | _ => []

def declareResults (compound : NodePath) : Memory → List Result → Building Memory
  | memory, [] => return memory
  | memory, result :: rest => do
    discard (addInput compound.output result.name result.type.name)
    let memory ← definingResult memory result.name result.type.name
      (compound.output.port result.name)
    match result.feedback with
    | none | some "" => pure ()
    | some port => send (.setPortNote compound result.name "feedbackPort" port)
    declareResults compound memory rest

def declareLoopResults (kind : LoopKind) (node : NodePath) :
    Memory → List LoopResult → Building Memory
  | memory, [] => return memory
  | memory, result :: rest => do
    discard (addInput node.output result.name result.type.name)
    let memory ← definingResult memory result.name result.type.name (node.output.port result.name)
    if result.isTarget && kind != .forEach then
      send (.setPortNote node result.name "iterationTarget" "true")
    else match result.state with
      | none | some "" => pure ()
      | some port => send (.setPortNote node result.name "statePort" port)
    declareLoopResults kind node memory rest

def iteratorName : LoopKind → String
  | .forEach => "foreach"
  | .iterate => "iterate"
  | .doWhile => "dowhile"

end GraphScript.Emission
