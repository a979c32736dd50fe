import GraphScript.Document.Access

/-!
# Collecting nodes

Asks the host for the nodes of its libraries and describes each of them: its ports, the types that
they suggest, and the types that they have before and after the host settles open ones.
-/

namespace GraphScript.Harvest

/-- A port as the host knows it. -/
structure HostPort where
  name : String
  type : String
  /-- The type once the host has settled it. -/
  settledType : String
  suggested : String
  /-- Flags of the port; the second bit says that it collects connections. -/
  flags : Int
  deriving Inhabited

/-- A node as the host knows it. -/
structure HostNode where
  name : String
  inputs : List HostPort
  outputs : List HostPort
  isCompound : Bool
  notes : List String
  layout : Option String

/-- The description of a node. -/
structure NodeRecord where
  name : String
  isCompound : Bool
  inputs : List String
  collecting : List String
  autoInput : Bool
  suggestions : List (List String)
  outputs : List String
  autoOutput : Bool
  overload : String × List String
  default : List String × List String

/-- The ports of a layout in order: a port comes before the ports of the group that it opens. -/
def layoutPorts (known : List String) : Nat → List Document → Except Fault (List String)
  | 0, _ => .ok []
  | _, [] => .ok []
  | fuel + 1, entry :: rest => do
    let named ← if ← entry.has "port" then
        match ← entry.demand "port" with
        | .text name => pure (if known.contains name then [name] else [])
        | .list _ | .record _ => throw .badOperand
        | _ => pure []
      else pure []
    let following ← if ← entry.has "items" then
        match ← entry.demand "items" with
        | .list items => pure (items ++ rest)
        | _ => throw .badOperand
      else pure rest
    return named ++ (← layoutPorts known fuel following)

def layoutEntries (layout : Option String) : Except Fault (List Document) := do
  let text ← orFault .badOperand layout
  let content ← orFault (.accident .badDocument) (Document.read? text)
  match ← (← content.demand "NodeLayout").demand "items" with
  | .list items => return items
  | .record fields => if fields.isEmpty then return [] else throw .missingKey
  | other => if other.isGiven then throw .missingMember else return []

/-- The names of the inputs in the order that the node shows them. -/
def inputNames (node : HostNode) : Except Fault (List String) := do
  let names := node.inputs.map HostPort.name
  if node.notes.contains "UILayout" then
    layoutPorts names 1000 (← layoutEntries node.layout)
  else return names

def portOf (node : HostNode) (name : String) : HostPort :=
  ((node.inputs ++ node.outputs).find? fun port => port.name == name).getD default

def suggestedTypes (text : String) : List String :=
  ((Text.parts ',' text).map fun part => String.ofList (Numeral.stripped part)).filter (· != "")

/-- The type of an input and the types that it suggests. -/
structure InputTypes where
  type : String
  suggestions : List String

/-- What an input takes; the suggestions of some ports are not meant. -/
def inputTypes (node : HostNode) (unmeant : List String) (port : HostPort) : Logged InputTypes := do
  let suggested := if unmeant.contains port.name then "" else port.suggested
  if suggested != "" then
    if port.type != "auto" then say s!"     {node.name} {port.name}"
    return ⟨"auto", suggestedTypes suggested⟩
  else if port.type == "auto" then return ⟨"auto", []⟩
  else return ⟨port.type, [port.type]⟩

def allInputTypes (node : HostNode) (unmeant : List String) :
    List HostPort → Logged (List InputTypes)
  | [] => return []
  | port :: rest => do
    let types ← inputTypes node unmeant port
    return types :: (← allInputTypes node unmeant rest)

def collects (port : HostPort) : Bool := port.type != "auto" && (port.flags / 2) % 2 == 1

def describe (unmeant : String → List String) (library : String) (node : HostNode) :
    Logged NodeRecord := do
  let name := library ++ "::" ++ node.name
  let inputs ← inputNames node
  let inputPorts := inputs.map (portOf node)
  let taken ← allInputTypes node (unmeant name) inputPorts
  let types := taken.map InputTypes.type
  let autoInput := types.contains "auto"
  let outputs := node.outputs.map HostPort.name
  let outputPorts := outputs.map (portOf node)
  let openOutputs := outputPorts.map HostPort.type
  let settledOutputs := outputPorts.map HostPort.settledType
  let outputTypes :=
    if openOutputs.contains "auto" && !autoInput then settledOutputs else openOutputs
  return {
    name, inputs, autoInput, outputs
    isCompound := node.isCompound
    collecting := (inputPorts.filter collects).map HostPort.name
    suggestions := taken.map InputTypes.suggestions
    autoOutput := outputTypes.contains "auto"
    overload := ("-".intercalate types, outputTypes)
    default := if autoInput then (inputPorts.map HostPort.settledType, settledOutputs)
      else (types, outputTypes) }

def describeAll (unmeant : String → List String) (library : String) :
    List HostNode → Logged (List NodeRecord)
  | [] => return []
  | node :: rest => do
    let entry ← describe unmeant library node
    return entry :: (← describeAll unmeant library rest)

def describeLibraries (unmeant : String → List String) :
    List (String × List HostNode) → Logged (List NodeRecord)
  | [] => return []
  | (library, nodes) :: rest => do
    if nodes.isEmpty then describeLibraries unmeant rest
    else
      let entries ← describeAll unmeant library nodes
      say s!"{library} ({nodes.length}): 0.00s"
      return entries ++ (← describeLibraries unmeant rest)

def nodes (unmeant : String → List String) (libraries : List (String × List HostNode)) :
    Logged (List NodeRecord) := do
  let result ← Act.attempt (describeLibraries unmeant libraries)
  say "-> 0.00s"
  Act.ofExcept result

/-- The ports whose suggestions are not meant, by the names of their nodes. -/
def unmeantSuggestions : List (String × List String) :=
  [("Geometry::Common,randomize_geo_property", ["default_value"]),
    ("Geometry::Strands::resample_strands", ["count_per_strand", "minimum_resample_distance"]),
    ("USD::Prim::define_usd_curves", ["basis", "type"])]

end GraphScript.Harvest
