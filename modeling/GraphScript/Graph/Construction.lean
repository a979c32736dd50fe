import GraphScript.Overload.Registry
import GraphScript.Graph.Memory
import Std.Data.HashMap

/-!
# Building a graph

A construction is the state in which a graph is built: the compound that new nodes go to, the
variables of that compound, and the commands that were sent to the host so far.  The actions of this
module each send the commands for one change.
-/

namespace GraphScript.Graph

/-- How the host answers where its answers are not always the same. -/
structure Host where
  ports : List String := []
  /-- The types of ports that are not `float`. -/
  types : List (String × String) := []
  /-- Pieces of text in the target of a connection that it refuses. -/
  refusedTargets : List String := []
  refusedFlags : List String := []

/-- The state in which a graph is built. -/
structure Construction where
  registry : Overload.Registry
  host : Host := {}
  added : Nat := 0
  /-- The commands that were sent, in order. -/
  commands : Array Command := #[]
  /-- The compounds that are being built, innermost first. -/
  contexts : List Datum
  memories : List Memory := [{}]
  terminals : List (Datum × List Datum) := []
  isOpen : Bool := false
  built : Std.HashMap Nat NodePath := {}
  done : Std.HashMap Nat Unit := {}
  log : Log := #[]

namespace Construction

/-- The construction inside a compound, with nothing built. -/
def start (registry : Overload.Registry) (host : Host) (context : String) : Construction where
  registry := registry
  host := host
  contexts := [.path ⟨context⟩]

end Construction

/-- An action that builds. -/
abbrev Building (α : Type) : Type := Act Construction α

def printMemory (memory : Memory) : Building Unit :=
  modifyThe Construction fun construction =>
    { construction with log := construction.log ++ memory.lines.toArray }

def printLine (line : String) : Building Unit :=
  modifyThe Construction fun construction => { construction with log := construction.log.push line }

def send (command : Command) : Building Unit :=
  modifyThe Construction fun construction =>
    { construction with commands := construction.commands.push command }

/-! ## Contexts and variables -/

def currentContext : Building NodePath := do
  match (← getThe Construction).contexts with
  | context :: _ => return ⟨context.shown⟩
  | [] => throw .badIndex

def currentMemory : Building Memory := do
  orFault .badIndex (← getThe Construction).memories.head?

def setMemory (memory : Memory) : Building Unit :=
  modifyThe Construction fun construction =>
    { construction with memories := memory :: construction.memories.drop 1 }

/-- Goes into a compound, with a memory of its own. -/
def enter (context : Datum) (memory : Memory) : Building Unit :=
  modifyThe Construction fun construction =>
    { construction with
      contexts := context :: construction.contexts
      memories := memory :: construction.memories }

def leave : Building Datum := do
  match (← getThe Construction).contexts with
  | [] => throw .badIndex
  | context :: _ =>
    modifyThe Construction fun construction =>
      { construction with
        contexts := construction.contexts.drop 1
        memories := construction.memories.drop 1 }
    return context

/-- Adds a variable to a memory; one that is there already is printed and refused. -/
def defining (memory : Memory) (name : String) (type value : Datum) : Building Memory := do
  match memory.define? name type value with
  | some grown => return grown
  | none =>
    printMemory memory
    throw (.refusal s!"Variable already defined: '{name}'")

/-- Adds a result to a memory; one that is there already is printed and refused. -/
def definingResult (memory : Memory) (name : String) (type target : Datum) : Building Memory := do
  match memory.defineResult? name type target with
  | some grown => return grown
  | none =>
    printMemory memory
    throw (.refusal s!"Output variable already defined: '{name}'")

def define (name : String) (type value : Datum) : Building Unit := do
  setMemory (← defining (← currentMemory) name type value)

def assign (name : String) (value : Datum) : Building Unit := do
  setMemory (← (← currentMemory).assign name value .nothing)

def valueNamed (name : String) : Building Datum := do
  (← currentMemory).value name

/-- Takes an open result of the innermost compound: the port that waits for its value. -/
def takeResult (name : String) : Building Cell := do
  let (cell, rest) ← (← currentMemory).takeResult name
  setMemory rest
  return cell

/-! ## Names of nodes and types -/

/-- The full kind of a node: its library and its name. -/
def nodeKind (kind : String) : Building String := do
  if kind.toList.contains ',' then return kind
  match (← getThe Construction).registry.fullName? kind with
  | none | some "" => throw (.refusal s!"Unknown function or oeprator: '{kind}'")
  | some full =>
    let library := Text.beforeLast "::" full
    let name := Text.afterLast "::" full
    return s!"BifrostGraph,{library},{name}"

/-- A letter that marks an array in a short type name. -/
def isBracket (letter : Char) : Bool := letter == '[' || letter == ']'

def withoutBrackets (type : String) : String := String.ofList (Text.trimWhere isBracket type.toList)

/-- The full name of a port type that may be written short, with brackets for arrays. -/
def portTypeName (type : String) : Except Fault String :=
  let levels := Text.occurrences '[' type
  let base := withoutBrackets type
  let full := Text.repeated levels "array<" ++ (Catalogue.expand? base).getD base ++
    Text.repeated levels ">"
  if Text.occurrences '>' full > 3 then .error (.refusal s!"Invalid array type: '{full}'")
  else .ok full

/-- A type name without its array levels; the fuel bounds their number. -/
def withoutLevels : Nat → String → String
  | 0, type => type
  | fuel + 1, type =>
    if Text.startsWith "array<" type then
      withoutLevels fuel (Text.dropEnd 1 (Text.dropStart 6 type))
    else type

def basePortTypeName (type : String) : String :=
  withoutLevels (Text.width type) (withoutBrackets type)

/-! ## Nodes and ports -/

def setLabel (node label : Datum) : Building Unit :=
  let text := label.shown
  send (.setNotes node s!"NodeValueDisplay=\x7bshow=1;format=\"{text}\"\x7d;")

def rename (node : NodePath) (newName : Datum) : Building NodePath := do
  if newName.letters? == some node.name then return node
  if node.isPort then
    send (.listPorts node.parent)
    let ports := (← getThe Construction).host.ports
    if (newName.letters?.map ports.contains).getD false then
      throw (.refusal "Port exists! Auto rename only works for nodes")
    send (.renamePort node.parent node.name newName)
    return node.parent.port newName.shown
  setLabel node newName
  return node

/-- Gives a new node its name: a text with a brace is a label, any other one a new name. -/
def nameNode (node : NodePath) (name : Datum) : Building NodePath := do
  if name.isGiven && name.letters? != some node.name then
    if ← name.holds "\x7b" then
      setLabel node name
      return node
    else rename node name
  else return node

/-- Adds a node of a full kind; the host numbers all nodes. -/
def addNode (context : NodePath) (kind : String) : Building NodePath := do
  send (.addNode context kind)
  modifyThe Construction fun construction => { construction with added := construction.added + 1 }
  let number := (← getThe Construction).added
  let name := Text.afterLast "," kind
  return context.child s!"{name}{number}"

/-- Adds the node that holds the inputs or the outputs of a compound. -/
def addPortsNode (context : NodePath) (isInput : Bool) : Building NodePath := do
  send (.addPortsNode context isInput)
  return context.child (if isInput then "input" else "output")

def placeFor (context : Datum) : Building NodePath :=
  if context.isGiven then return ⟨context.shown⟩ else currentContext

def createNamedNode (kind : String) (name context : Datum) : Building NodePath := do
  let place ← placeFor context
  let node ←
    if kind == "_input" then addPortsNode place true
    else if kind == "_output" then addPortsNode place false
    else addNode place (← nodeKind kind)
  nameNode node name

/-- A node in the compound that is open. -/
def createNode (kind : String) : Building NodePath := createNamedNode kind .nothing .nothing

def constantKind (type : String) : String := "BifrostGraph,Core::Constants," ++ type

def createNamedValueNode (type name context : Datum) : Building NodePath := do
  let node ← createNamedNode (constantKind "float") name context
  send (.setNote node "valuenode_type" type)
  return node

/-- Creates a node that holds a value of a type, in the innermost compound. -/
def createValueNode (type : String) : Building NodePath :=
  createNamedValueNode type .nothing .nothing

def compoundKind : String := "BifrostGraph,Core::Graph,compound"

/-- Creates input or output nodes with the given names in a compound. -/
def createPortsNodes (kind : String) (compound : NodePath) : List Datum → Building Unit
  | [] => return
  | name :: rest => do
    discard (createNamedNode kind name compound)
    createPortsNodes kind compound rest

def createCompoundOf (kind : String) (name context : Datum) (inputs outputs : List Datum) :
    Building NodePath := do
  let compound ← createNamedNode kind name context
  createPortsNodes "_input" compound inputs
  createPortsNodes "_output" compound outputs
  return compound

def createCompound (name context : Datum) : Building NodePath :=
  createCompoundOf compoundKind name context ["input"] ["output"]

def declareInput (node name : Datum) (type : String) : Building Unit := do
  send (.createInput node name (← portTypeName type))

def declareOutput (node name : Datum) (type : String) : Building Unit := do
  send (.createOutput node name (← portTypeName type))

def addInput (node : NodePath) (name : String) (type : String) : Building NodePath := do
  declareInput node name type
  return node.port name

def addOutput (node : NodePath) (name : String) (type : String) : Building NodePath := do
  declareOutput node name type
  return node.port name

def setDefault (node port value : Datum) : Building Unit :=
  match value with
  | .nothing => throw (.refusal "Value cannot be 'None'!")
  | value => send (.setDefault node port value.numbered)

def setPortType (node port : Datum) (type : String) : Building Unit := do
  send (.setPortType node port (← portTypeName type))

def Host.refuses (host : Host) (target : Datum) : Bool :=
  match target.letters? with
  | some text => host.refusedTargets.any fun piece => Text.holds piece text
  | none => !host.refusedTargets.isEmpty

/-- Connects two ports, unless the host refuses. -/
def connect (source target : Datum) : Building Unit := do
  send (.holdSource source)
  send (.connect source target)
  if (← getThe Construction).host.refuses target then
    let first := source.shown
    let second := target.shown
    throw (.report .run s!"Cannot connect '{first}' -> '{second}'")
  send (.releaseSource source)

def askPortType (node port : Datum) : Building String := do
  send (.askPortType node port)
  let key := node.shown ++ "." ++ port.shown
  return ((← getThe Construction).host.types.lookup key).getD "float"

/-! ## Beginning and end -/

def begin : Building Unit := do
  send .openBracket
  modifyThe Construction fun construction => { construction with isOpen := true }

/-- Keeps the flags that a node gets at the end; a node without flags is left alone. -/
def setTerminal (node : Datum) (flags : List Datum) : Building Unit :=
  if flags.any Datum.isNothing then return
  else modifyThe Construction fun construction =>
    { construction with
      terminals := (construction.terminals.filter fun entry => entry.1.shown != node.shown) ++
        [(node, flags)] }

/-- Sets flags of a node; the host may refuse some. -/
def setFlags (node : Datum) : List Datum → Building Unit
  | [] => return
  | flag :: rest => do
    send (.setFlag node flag true)
    let refused := (← getThe Construction).host.refusedFlags
    if (flag.letters?.map refused.contains).getD false then printLine "meeeep"
    setFlags node rest

/-- Clears the flags of nodes and sets those that were kept for them. -/
def setAllFlags : List (Datum × List Datum) → Building Unit
  | [] => return
  | (node, flags) :: rest => do
    send (.setFlag node "D" false)
    send (.setFlag node "P" false)
    send (.setFlag node "F" false)
    setFlags node flags
    setAllFlags rest

/-- The flags that were kept, in the order of the paths of their nodes. -/
def sortedTerminals (terminals : List (Datum × List Datum)) :
    Except Fault (List (Datum × List Datum)) :=
  if terminals.length > 1 && terminals.any (fun entry => entry.1.letters?.isNone) then
    .error .badOperand
  else .ok (terminals.mergeSort fun left right => Text.notAfter left.1.shown right.1.shown)

/-- Ends the changes to the graph. -/
def finish : Building Unit := do
  send .closeBracket
  setAllFlags (← sortedTerminals (← getThe Construction).terminals)
  if (← getThe Construction).isOpen then printLine "Graph took: 0.00 seconds"
  else throw .missingMember

end GraphScript.Graph
