import GraphScript.Graph.Construction

/-!
# Nodes for constants

Actions that create nodes for values that are known: numbers, texts, enumerations, vectors and
matrices, arrays and objects.
-/

namespace GraphScript.Graph

/-! ## Single nodes -/

/-- Creates a node and connects sources to its input ports, in order. -/
def wiredNode (kind output : String) (wires : List (Datum × String)) : Building NodePath := do
  let node ← createNode kind
  wires.forM fun (source, port) => connect source (node.port port)
  return node.port output

def logicKind (name : String) : String := "BifrostGraph,Core::Logic," ++ name

def logicNode (name : String) (first second : Datum) : Building NodePath :=
  wiredNode (logicKind name) "output" [(first, "first"), (second, "second")]

def ifNode (condition whenTrue whenFalse : Datum) : Building NodePath :=
  wiredNode (logicKind "if") "output"
    [(condition, "condition"), (whenTrue, "true_case"), (whenFalse, "false_case")]

def negateNode (value : Datum) : Building NodePath :=
  wiredNode "negate" "negated" [(value, "value")]

def notNode (value : Datum) : Building NodePath := wiredNode "not" "output" [(value, "value")]

def moduloNode (value divisor : Datum) : Building NodePath :=
  wiredNode "modulo" "remainder" [(value, "value"), (divisor, "divisor")]

def powerNode (base exponent : Datum) : Building NodePath :=
  wiredNode "power" "power" [(base, "base"), (exponent, "exponent")]

def charNode (value : Datum) : Building NodePath := wiredNode "to_char" "char" [(value, "from")]

/-- Connects sources to new numbered ports of a node. -/
def collectInto (node : NodePath) : Nat → List Datum → Building Unit
  | _, [] => return
  | place, source :: rest => do
    connect source (← addInput node s!"value{place}" "auto")
    collectInto node (place + 1) rest

def collectingNode (kind : String) (sources : List Datum) : Building NodePath := do
  let node ← createNode kind
  collectInto node 0 sources
  return node.port "output"

/-- Passes sources through numbered ports of a compound to a node that joins texts. -/
def passTexts (compound joining : NodePath) : Nat → List Datum → Building Unit
  | _, [] => return
  | place, source :: rest => do
    let port := s!"string{place}"
    discard (addOutput compound.input port "string")
    connect source (compound.port port)
    connect (compound.input.port port) (← addInput joining s!"strings.{port}" "auto")
    passTexts compound joining (place + 1) rest

def joinTexts (sources : List Datum) : Building NodePath := do
  let compound ← createCompound "build_string2" .nothing
  let joining ← createNamedNode "build_string" .nothing compound
  passTexts compound joining 0 sources
  connect (joining.port "joined") (← addInput compound.output "output" "string")
  return compound.port "output"

def iteratorKind? : String → Option String
  | "for_each" | "foreach" => some "BifrostGraph,Core::Iterators,for_each"
  | "iterate" => some "BifrostGraph,Core::Iterators,iterate"
  | "do_while" | "dowhile" => some "BifrostGraph,Core::Iterators,do_while"
  | _ => none

def createIterator (name : String) : Building NodePath := do
  let kind ← orFault .missingKey (iteratorKind? name)
  createCompoundOf kind .nothing .nothing ["input"] ["output"]

/-! ## Constants -/

/-- Whether the character at a distance from the end of a type name is a size. -/
def hasSizeAt (distance : Nat) (type : String) : Except Fault Bool := do
  let letter ← orFault .badIndex (Text.fromEnd distance type)
  return letter == '2' || letter == '3' || letter == '4'

def sizeAt (distance : Nat) (type : String) : Nat :=
  ((Text.fromEnd distance type).map fun letter => letter.toNat - '0'.toNat).getD 0

def enumerationOf? (name : String) : Option Catalogue.Enumeration :=
  match Catalogue.enumeration? name with
  | some found => some found
  | none => Catalogue.enumerations.find? fun candidate => Table.endsInName name candidate.name

def enumerationNode (value : Datum) (type : String) (context : Datum) : Building NodePath := do
  let type ← portTypeName type
  let number ← match value.letters? with
    | none => pure value
    | some name => do
      let values ← orFault .missingKey (enumerationOf? type)
      pure (.whole (← orFault .missingKey (values.values.lookup name)))
  let node ← createNamedValueNode "float" .nothing context
  send (.setNote node "valuenode_type" type)
  setDefault node "value" number
  return node.port "output"

/-- An array of a size, given as a number or as the port that carries it. -/
def sizedArrayNode (size : Datum) (type : String) : Building NodePath := do
  let type ← portTypeName type
  let node ← createNode "Core::Array::resize_array"
  setPortType node "array" type
  match size.letters? with
  | some _ => connect size (node.port "new_size")
  | none => setDefault node "new_size" size
  return node.port "resized"

/-- The components of a vector or matrix as numbers; for truth values those are zero and one. -/
def components (type : String) (values : List Datum) : List Datum :=
  let ofTruth := Text.startsWith "bool" (Text.afterLast "::" type)
  values.map fun value => (if ofTruth then Datum.truth value.isGiven else value).numbered

/-- The number of components, and the default value that holds them. -/
def matrixDefault (type : String) (value : Datum) : Except Fault (Nat × Datum) :=
  match value with
  | .list values => .ok (values.length, .list (components type values))
  | value => do
    let letters ← value.items
    if !letters.isEmpty && Text.startsWith "bool" (Text.afterLast "::" type) then
      throw .badOperand
    return (letters.length, value)

/-- The components of a vector or matrix in one text; a text stays as it is. -/
def matrixText (value : Datum) : Datum :=
  match value with
  | .list values => .text ("\x7b" ++ ", ".intercalate (values.map Datum.shown) ++ "\x7d")
  | value => value

def matrixNode (value : Datum) (type : String) (context : Datum) : Building NodePath := do
  let type ← portTypeName type
  let (count, settled) ← matrixDefault type value
  if type == "Object" then throw (.refusal "Only supports numeric types!")
  if !(← hasSizeAt 1 type) then
    throw (.refusal "Use create_single_value() for anything that is not a vector or matrix!")
  let isMatrix ← hasSizeAt 3 type
  let expected := if isMatrix then sizeAt 3 type * sizeAt 1 type else sizeAt 1 type
  if count != expected then
    let given := settled.shown
    throw (.refusal s!"Incorrect value count: {type} <> {given}")
  let node ← createNamedValueNode type .nothing context
  setDefault node "value" (matrixText settled)
  return node.port "output"

def simpleNode (value : Datum) (type : String) (context : Datum) : Building NodePath := do
  let type ← portTypeName type
  if value.isNothing then
    return (← createNamedValueNode type .nothing context).port "output"
  if type == "Object" then throw (.refusal "Value for Object not yet supported")
  if ← hasSizeAt 1 type then
    throw (.refusal "Use create_matrix_value() for vectors and matrices!")
  let node ← createNamedNode (constantKind type) .nothing context
  setDefault node "value" value.numbered
  return node.port "output"

def elementName (type : String) : String := Text.dropEnd 1 (Text.dropStart 6 type)

def isArrayName (type : String) : Bool := Text.startsWith "array<" type

/-- Refuses a type name that is not that of an array. -/
def demandArray (type : String) : Except Fault Unit :=
  if isArrayName type then .ok ()
  else .error (.refusal s!"Expected array type, got '{type}'")

/-- A constant of a type that is not an array. -/
def elementNode (value : Datum) (type : String) (context : Datum) : Building NodePath := do
  if ← hasSizeAt 1 type then matrixNode value type context
  else if (Catalogue.enumeration? type).isSome then enumerationNode value type context
  else simpleNode value type context

def buildArrayKind : String := "BifrostGraph,Core::Array,build_array"

def setElementKind : String := "BifrostGraph,Core::Array,set_in_array"

def setPropertyKind : String := "BifrostGraph,Core::Object,set_property"

def literalCompound (type : String) (context : Datum) : Building NodePath := do
  let node ← createCompound "\x7b_\x7d" context
  discard (addOutput node.input "_" "string")
  setDefault node "_" type
  return node

def collectElements (node collecting : NodePath) (type : String) : Nat → List Datum → Building Unit
  | _, [] => return
  | place, value :: rest => do
    let port := s!"value{place}"
    send (.createInput collecting port type)
    connect (← elementNode value type node) (collecting.port port)
    collectElements node collecting type (place + 1) rest

mutual

/-- A constant array: a list of values, or a size. -/
def arrayNode (value : Datum) (type : String) (context : Datum) : Building NodePath := do
  let type ← portTypeName type
  demandArray type
  match value with
  | .list values => do
    let node ← createCompound "\x7b_\x7d" context
    enter node {}
    discard (addOutput node.input "_" "string")
    setDefault node "_" type
    discard (addInput node.output "output" type)
    let element := elementName type
    if isArrayName element then
      let empty ← sizedArrayNode (.whole values.length) type
      let last ← setElements node element empty 0 values
      connect last (node.output.port "output")
    else
      let collecting ← createNamedNode buildArrayKind .nothing node
      connect (collecting.port "array") (node.output.port "output")
      collectElements node collecting element 0 values
    discard leave
    return node.port "output"
  | size => sizedArrayNode size type

/-- Sets the elements of an array, which are arrays, one after the other. -/
def setElements (node : NodePath) (element : String) (latest : NodePath) :
    Nat → List Datum → Building NodePath
  | _, [] => return latest
  | place, value :: rest => do
    let setting ← createNamedNode setElementKind "[\x7bindex\x7d] = \x7bvalue\x7d" node
    connect latest (setting.port "array")
    setDefault setting "index" (.whole place)
    connect (← arrayNode value element node) (setting.port "value")
    setElements node element (setting.port "out_array") (place + 1) rest

end

def simpleTypes : List String :=
  ["bool", "float", "double", "uchar", "char", "ushort", "short", "uint", "int", "ulong", "long",
    "string"]

/-- A constant of any type, without a label. -/
def plainConstantNode (value : Datum) (type : String) (context : Datum) : Building NodePath := do
  if isArrayName type then arrayNode value type context
  else if (Catalogue.enumeration? type).isSome then enumerationNode value type context
  else if simpleTypes.contains type then simpleNode value type context
  else if ← hasSizeAt 1 type then matrixNode value type context
  else if type == "Object" || type == "object" then
    throw (.unsupported "Object is not yet implemented since I havent figured out how to do types")
  else throw (.unsupported type)

/-- A constant of any type; without a value it is the default of the type. -/
def constantNode (value : Datum) (type : String) (name context : Datum) : Building NodePath := do
  let type ← portTypeName type
  if value.isNothing then
    return (← createNamedValueNode type name context).port "output"
  let port ← plainConstantNode value type context
  if name.isGiven then setLabel port.parent name
  return port

def passElements (node : NodePath) (element : String) : Nat → List Datum → Building Unit
  | _, [] => return
  | place, source :: rest => do
    let port := s!"item_{place}"
    discard (addOutput node.input port element)
    connect source (node.port port)
    passElements node element (place + 1) rest

def placeElements (node latest : NodePath) : List Nat → Building NodePath
  | [] => return latest
  | place :: rest => do
    let setting ← createNamedNode setElementKind "[\x7bindex\x7d] = \x7bvalue\x7d" node
    connect latest (setting.port "array")
    setDefault setting "index" (.whole place)
    connect (node.input.port s!"item_{place}") (setting.port "value")
    placeElements node (setting.port "out_array") rest

def arrayOfPorts (values : Datum) (type : String) (context : Datum) : Building NodePath := do
  let type ← portTypeName type
  demandArray type
  match values with
  | .list sources => do
    let node ← literalCompound type context
    passElements node (elementName type) 0 sources
    enter node {}
    discard (addInput node.output "output" type)
    let resizing ← createNode "Core::Array::resize_array"
    setPortType resizing "array" type
    setDefault resizing "new_size" (.whole sources.length)
    let last ← placeElements node (resizing.port "resized") (List.range sources.length)
    connect last (node.output.port "output")
    discard leave
    return node.port "output"
  | size => sizedArrayNode size type

/-- Connects keys and values of an object to ports of its compound. -/
def passProperties (node : NodePath) : Nat → List (Datum × Datum) → Building Unit
  | _, [] => return
  | place, (key, value) :: rest => do
    let keyPort := s!"key_{place}"
    let valuePort := s!"value_{place}"
    discard (addOutput node.input keyPort "string")
    connect key (node.port keyPort)
    discard (addOutput node.input valuePort "auto")
    connect value (node.port valuePort)
    passProperties node (place + 1) rest

/-- Sets the properties that come through the ports of a compound. -/
def placeProperties (node : NodePath) : Option NodePath → List Nat → Building (Option NodePath)
  | latest, [] => return latest
  | latest, place :: rest => do
    let setting ← createNamedNode setPropertyKind "[\x7bkey\x7d] = \x7bvalue\x7d" node
    if let some object := latest then connect object (setting.port "object")
    connect (node.input.port s!"key_{place}") (setting.port "key")
    connect (node.input.port s!"value_{place}") (setting.port "value")
    placeProperties node (some (setting.port "out_object")) rest

def objectOfPorts (keys values : Datum) (context : Datum) : Building NodePath := do
  let node ← literalCompound "Object" context
  let keys ← keys.items
  let values ← values.items
  passProperties node 0 (keys.zip values)
  enter node {}
  discard (addInput node.output "output" "Object")
  if let some object ← placeProperties node none (List.range values.length) then
    connect object (node.output.port "output")
  discard leave
  return node.port "output"

end GraphScript.Graph
