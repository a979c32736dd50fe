import GraphScript.Graph.Slice

/-!
# Operations by name

The operations on a graph can be asked for by name, with arguments in order or by the name of their
parameter.  Arguments are checked where an operation uses them, so an operation may have sent
commands before it stops at an argument of the wrong kind.
-/

namespace GraphScript.Graph.Operation

/-- The parameters of an operation; those with a value may be left out. -/
abbrev Signature : Type := List (String × Option Datum)

/-- The arguments of an operation by their parameters. -/
structure Arguments where
  values : List (String × Datum)

namespace Arguments

variable (arguments : Arguments)

def get (name : String) : Datum := (arguments.values.lookup name).getD .nothing

/-- A type name; only texts can be one. -/
def typeName (name : String := "s_type") : Except Fault String :=
  orFault .missingMember (arguments.get name).letters?

end Arguments

def needed (name : String) : String × Option Datum := (name, none)

def optional (name : String) (default : Datum := .nothing) : String × Option Datum :=
  (name, some default)

/-- Gives every parameter its argument: the ones in order first, then those by name. -/
def fill (named : List (String × Datum)) : Signature → List Datum →
    Except Fault (List (String × Datum))
  | [], [] => .ok []
  | [], _ :: _ => .error .badOperand
  | (name, _) :: rest, value :: values => do
    if (named.lookup name).isSome then throw .badOperand
    return (name, value) :: (← fill named rest values)
  | (name, default) :: rest, [] => do
    let value ← orFault .badOperand ((named.lookup name).or default)
    return (name, value) :: (← fill named rest [])

def bind (signature : Signature) (values : List Datum) (named : List (String × Datum)) :
    Except Fault Arguments := do
  if named.any fun (name, _) => (signature.lookup name).isNone then throw .badOperand
  return ⟨← fill named signature values⟩

def collecting : List (String × (List Datum → Building NodePath)) :=
  [("n_add", collectingNode "add"), ("n_subtract", collectingNode "subtract"),
    ("n_divide", collectingNode "divide"), ("n_multiply", collectingNode "multiply"),
    ("n_build_string", joinTexts)]

/-- The node and the port that a port argument stands for: where no port is given, the path names
it. -/
def nodeAndPort (node port : Datum) : Except Fault (Datum × Datum) := do
  match port with
  | .nothing =>
    if !(← node.holds ".") then throw (.refusal "No port given!")
    let path ← node.named
    return (path.parent, path.name)
  | port => return (node, port)

def portsNodeNames (default : String) : Datum → Except Fault (List Datum)
  | .text name => .ok [.text name]
  | .path name => .ok [.path name]
  | .truth true => .ok [.text default]
  | .list names => .ok names
  | names => if names.isGiven then .error .badOperand else .ok []

/-- Creates a compound whose input and output nodes are given as they come. -/
def createCompoundAs (kind name context inputs outputs : Datum) : Building Datum := do
  let kind ← kindText context kind
  let compound ← createNamedNode kind name context
  createPortsNodes "_input" compound (← portsNodeNames "input" inputs)
  createPortsNodes "_output" compound (← portsNodeNames "output" outputs)
  return compound
where
  /-- The kind of a node; only texts can be one, once there is a place for the node. -/
  kindText (context kind : Datum) : Building String := do
    discard (placeFor context)
    orFault .badOperand kind.letters?

def setDefaultAs (node port value : Datum) : Building Unit := do
  if value.isNothing then throw (.refusal "Value cannot be 'None'!")
  let (node, port) ← nodeAndPort node port
  setDefault node port value

def setTypeAs (node port type : Datum) : Building Unit := do
  if type.isNothing then throw (.refusal "Type cannot be 'None'!")
  let (node, port) ← nodeAndPort node port
  setPortType node port (← orFault .missingMember type.letters?)

/-- Asks for the type of a port; `auto` can be looked up once more outside of the changes. -/
def typeOf (node port acceptAuto : Datum) : Building Datum := do
  let (node, port) ← nodeAndPort node port
  let type ← askPortType node port
  if type == "auto" && !acceptAuto.isGiven then
    send .closeBracket
    let settled ← askPortType node port
    send .openBracket
    return settled
  return type

/-- A name that can be looked up; lists cannot. -/
def keyText : Datum → Except Fault String
  | .list _ => .error .badOperand
  | name => .ok name.shown

def signature? : String → Option Signature
  | "resolve_node_type" | "resolve_port_type" | "get_base_port_type" => some [needed "s_type"]
  | "push_context" => some [needed "context"]
  | "push_context2" => some [needed "context", optional "memory"]
  | "pop_context" | "pop_context2" | "get_memory" => some []
  | "create_node" | "create_value_node" =>
    some [needed "s_type", optional "s_name", optional "context"]
  | "create_compound_node" =>
    some [optional "s_name", optional "inputs", optional "outputs", optional "context",
      optional "_type" compoundKind]
  | "n_if" => some [needed "s_condition", needed "s_true_case", needed "s_false_case"]
  | "n_equal" | "n_not_equal" | "n_less" | "n_greater" | "n_greater_or_equal" | "n_less_or_equal"
  | "n_or" | "n_xor" | "n_and" => some [needed "s_a", needed "s_b"]
  | "n_negate" | "n_not" => some [needed "s_value"]
  | "n_modulo" => some [needed "s_value", needed "s_divisor"]
  | "n_power" => some [needed "s_base", needed "s_exponent"]
  | "n_to_char" => some [needed "s_from"]
  | "create_slice_node" => some [optional "s_name", optional "context"]
  | "create_iterator_node" =>
    some [needed "s_type", optional "s_name", optional "inputs" (.list ["input"]),
      optional "outputs" (.list ["output"]), optional "context"]
  | "connect" => some [needed "src", needed "tgt"]
  | "rename" => some [needed "node", needed "s_name", optional "b_auto_rename" (.truth true)]
  | "set_node_value_display" => some [needed "node", needed "s_expr"]
  | "add_in_port" =>
    some [needed "node", needed "s_name", optional "s_type" "auto", optional "value"]
  | "add_out_port" => some [needed "node", needed "s_name", optional "s_type" "auto"]
  | "set_value" => some [needed "node", optional "s_port", optional "value"]
  | "set_type" => some [needed "node", optional "s_port", optional "s_type"]
  | "get_type" => some [needed "node", optional "s_port", optional "b_accept_auto" (.truth true)]
  | "set_terminal" | "_set_terminal" => some [needed "node", needed "flags"]
  | "set_meta_data" => some [needed "node", needed "key", needed "value"]
  | "create_const_enum_value" | "create_const_matrix_value" | "create_const_simple_value" =>
    some [needed "value", needed "s_type", optional "context"]
  | "create_const_default_array_value" => some [needed "size", needed "s_type", optional "context"]
  | "create_const_array_value" | "create_array_value" =>
    some [needed "values", needed "s_type", optional "context"]
  | "create_const_value" =>
    some [needed "value", needed "s_type", optional "s_name", optional "context"]
  | "create_object_value" => some [needed "sa_keys", needed "sa_values", optional "context"]
  | _ => none

/-- Whether an operation sets a node of the logic library with two inputs, and which. -/
def logicName? : String → Option String
  | "n_equal" => some "equal"
  | "n_not_equal" => some "not_equal"
  | "n_less" => some "less"
  | "n_greater" => some "greater"
  | "n_greater_or_equal" => some "greater_or_equal"
  | "n_less_or_equal" => some "less_or_equal"
  | "n_or" => some "or"
  | "n_xor" => some "xor"
  | "n_and" => some "and"
  | _ => none

def performNode (name : String) (given : Arguments) : Building (Option NodePath) := do
  match name with
  | "n_if" =>
    return some (← ifNode (given.get "s_condition") (given.get "s_true_case")
      (given.get "s_false_case"))
  | "n_negate" => return some (← negateNode (given.get "s_value"))
  | "n_not" => return some (← notNode (given.get "s_value"))
  | "n_modulo" => return some (← moduloNode (given.get "s_value") (given.get "s_divisor"))
  | "n_power" => return some (← powerNode (given.get "s_base") (given.get "s_exponent"))
  | "n_to_char" => return some (← charNode (given.get "s_from"))
  | other => match logicName? other with
    | some kind => return some (← logicNode kind (given.get "s_a") (given.get "s_b"))
    | none => return none

def performConstant (name : String) (given : Arguments) : Building (Option NodePath) := do
  let context := given.get "context"
  match name with
  | "create_const_enum_value" =>
    return some (← enumerationNode (given.get "value") (← given.typeName) context)
  | "create_const_matrix_value" =>
    return some (← matrixNode (given.get "value") (← given.typeName) context)
  | "create_const_simple_value" =>
    return some (← simpleNode (given.get "value") (← given.typeName) context)
  | "create_const_default_array_value" =>
    return some (← sizedArrayNode (given.get "size") (← given.typeName))
  | "create_const_array_value" =>
    return some (← arrayNode (given.get "values") (← given.typeName) context)
  | "create_array_value" =>
    return some (← arrayOfPorts (given.get "values") (← given.typeName) context)
  | "create_const_value" =>
    return some (← constantNode (given.get "value") (← given.typeName) (given.get "s_name") context)
  | "create_object_value" =>
    return some (← objectOfPorts (given.get "sa_keys") (given.get "sa_values") context)
  | _ => return none

def performChange (name : String) (given : Arguments) : Building Datum := do
  let node := given.get "node"
  match name with
  | "connect" => do
    connect (given.get "src") (given.get "tgt")
    return .nothing
  | "rename" => return ← rename (← node.named) (given.get "s_name")
  | "set_node_value_display" => do
    setLabel node (given.get "s_expr")
    return .nothing
  | "add_in_port" => do
    declareInput node (given.get "s_name") (← given.typeName)
    if (given.get "value").isGiven then setDefaultAs node (given.get "s_name") (given.get "value")
    return (← node.asPath).port (given.get "s_name").shown
  | "add_out_port" => do
    declareOutput node (given.get "s_name") (← given.typeName)
    return (← node.asPath).port (given.get "s_name").shown
  | "set_value" => do
    setDefaultAs node (given.get "s_port") (given.get "value")
    return .nothing
  | "set_type" => do
    setTypeAs node (given.get "s_port") (given.get "s_type")
    return .nothing
  | "get_type" => typeOf node (given.get "s_port") (given.get "b_accept_auto")
  | "set_terminal" => do
    match given.get "flags" with
    | .list flags => do
      if !flags.any Datum.isNothing then discard (keyText node : Except Fault String)
      setTerminal node flags
      return .nothing
    | _ => throw .badOperand
  | "_set_terminal" => do
    ["D", "P", "F"].forM fun flag => send (.setFlag node (.text flag) false)
    setFlags node (← (given.get "flags").items)
    return .nothing
  | "set_meta_data" => do
    send (.setNote node (given.get "key") (given.get "value"))
    return .nothing
  | _ => throw .missingMember

def performOther (name : String) (given : Arguments) : Building Datum := do
  let kind := given.get "s_type"
  let label := given.get "s_name"
  let context := given.get "context"
  match name with
  | "resolve_node_type" => return ← nodeKind (← orFault .badOperand kind.letters?)
  | "resolve_port_type" => return ← portTypeName (← given.typeName)
  | "get_base_port_type" => return basePortTypeName (← given.typeName)
  | "push_context" => do
    enter context {}
    return context
  | "push_context2" => do
    enter context {}
    return .list [context, .nothing]
  | "pop_context" => leave
  | "pop_context2" => return .list [← leave, .nothing]
  | "get_memory" => do
    discard currentMemory
    return .nothing
  | "create_node" => do
    discard (placeFor context)
    return ← createNamedNode (← orFault .badOperand kind.letters?) label context
  | "create_value_node" => return ← createNamedValueNode kind label context
  | "create_compound_node" =>
    createCompoundAs (given.get "_type") label context (given.get "inputs") (given.get "outputs")
  | "create_slice_node" => return ← Slice.create label context
  | "create_iterator_node" => do
    let name ← keyText kind
    let full ← orFault .missingKey ((kind.letters?.bind fun _ => iteratorKind? name))
    createCompoundAs full label context (given.get "inputs") (given.get "outputs")
  | other => performChange other given

def perform (name : String) (values : List Datum) (named : List (String × Datum)) :
    Building Datum := do
  match collecting.lookup name with
  | some action => if named.isEmpty then return ← action values else throw .badOperand
  | none =>
    let signature ← orFault .missingMember (signature? name)
    let given ← bind signature values named
    if let some port ← performNode name given then return port
    if let some port ← performConstant name given then return port
    performOther name given

/-- The parameters of the operations on the variables of the innermost compound. -/
def memorySignature? : String → Option Signature
  | "define_setonly" => some [needed "s_name", needed "s_type", needed "target"]
  | "define" => some [needed "s_name", needed "s_type", optional "value"]
  | "is_defined" | "is_setonly" | "get_setonly" | "get" | "get_type" => some [needed "s_name"]
  | "set" => some [needed "s_name", needed "value", optional "_type"]
  | "__getitem__" => some [needed "item"]
  | "__setitem__" => some [needed "key", needed "value"]
  | "__str__" => some []
  | _ => none

/-- Carries out an operation on the variables of the innermost compound. -/
def performOnMemory (name : String) (values : List Datum) (named : List (String × Datum)) :
    Building Datum := do
  let memory ← currentMemory
  let signature ← orFault .missingMember (memorySignature? name)
  let given ← bind signature values named
  let key := keyText (((signature.head?).map fun first => given.get first.1).getD .nothing)
  match name with
  | "define_setonly" => do
    setMemory (← definingResult memory (← key) (given.get "s_type") (given.get "target"))
    return .nothing
  | "define" => do
    setMemory (← defining memory (← key) (given.get "s_type") (given.get "value"))
    return .nothing
  | "is_defined" => return .truth (memory.isDefined (← key))
  | "is_setonly" => return .truth (memory.isOpen (← key))
  | "get_setonly" => do
    let cell ← takeResult (← key)
    return .list [cell.value, cell.type]
  | "get" | "__getitem__" => return ← memory.value (← key)
  | "get_type" => return ← memory.type (← key)
  | "set" | "__setitem__" => do
    setMemory (← memory.assign (← key) (given.get "value") (given.get "_type"))
    return .nothing
  | _ => return .text ("\n".intercalate memory.lines)

end GraphScript.Graph.Operation
