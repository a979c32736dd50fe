import GraphScript.Overload.Resolver
import GraphScript.Table

/-!
# The registry of operators

Every operator has named input and output ports.  Its first overload declares the types of the
ports, where `auto` stands for a type that is still to be found.  Rules find such types from the
arguments of a call: by sets of types for the leading ports and derived types for those that follow,
or by computation.
-/

namespace GraphScript.Overload

/-- A type name computed from a type name. -/
inductive Reshaping where
  | element
  | arrayOver
  | flatArray
  | transpose
  | vector3
  | vector4
  | scalar
  | matrix3x3
  | fraction
  | base (component : String)
  | whole (type : String)
  | andThen (first second : Reshaping)
  deriving DecidableEq

def Reshaping.apply : Reshaping → String → Except Fault String
  | element, name => .ok (Reshape.element name)
  | arrayOver, name => .ok (Reshape.arrayOver name)
  | flatArray, name => .ok (Reshape.flatArray name)
  | transpose, name => Reshape.transpose name
  | vector3, name => Reshape.toVector3 name
  | vector4, name => Reshape.toVector4 name
  | scalar, name => Reshape.toScalar name
  | matrix3x3, name => Reshape.toMatrix3x3 name
  | fraction, name => Reshape.toFraction name
  | base component, name => .ok (Reshape.replaceBase component name)
  | whole type, name => .ok (Reshape.replaceWhole type name)
  | andThen first second, name => do second.apply (← first.apply name)

/-- How the type of a port follows from the type of the leading port of its group. -/
inductive Derivation where
  | same
  | fixed (type : String)
  | computed (reshaping : Reshaping)
  /-- Something that is none of these. -/
  | unusable
  deriving DecidableEq

def Derivation.apply : Derivation → String → Except Fault String
  | same, name => .ok name
  | fixed type, _ => .ok type
  | computed reshaping, name => reshaping.apply name
  | unusable, _ => .error (.unsupported "")

/-- A leading port that accepts a set of types, and the ports whose types follow from it. -/
structure Group where
  /-- The accepted types; none when what was given is no set. -/
  types : Option TypeSet
  derived : List Derivation

/-- A way to find the types that are declared `auto`. -/
inductive Rule where
  | sets (groups : List Group)
  | computed (resolver : Resolver)

/-- An operator: its ports and what is known of their types. -/
structure Operator where
  inputs : List String
  outputs : List String
  isCompound : Bool
  /-- The input ports that take any number of connections. -/
  fanIn : List String
  /-- Whether an input port is declared `auto`. -/
  autoInput : Bool
  /-- Whether an output port is declared `auto`. -/
  autoOutput : Bool
  suggestions : List (List String)
  /-- The overloads: input types joined by dashes, with the output types. -/
  overloads : Table (List String)
  /-- The input and output types used when nothing is connected. -/
  default : List String × List String
  deriving Inhabited

def keyParts (key : String) : List String := Text.parts '-' key

/-- The types in a key of the overloads, without empty ones. -/
def keyTypes (key : String) : List String := (keyParts key).filter (· != "")

def keyOf (types : List String) : String := "-".intercalate types

/-- An operator with given ports and types, further overloads, and settings for what is suggested
and used by default. -/
def Operator.ofPorts (inputs outputs : List (String × String))
    (overloads : List (String × List String)) (suggestions : Option (List (List String)))
    (default : Option (List String × List String)) : Operator :=
  let typesIn := inputs.map Prod.snd
  let typesOut := outputs.map Prod.snd
  { inputs := inputs.map Prod.fst
    outputs := outputs.map Prod.fst
    isCompound := false
    fanIn := []
    autoInput := typesIn.contains PortType.autoName
    autoOutput := typesOut.contains PortType.autoName
    suggestions := suggestions.getD (inputs.map fun _ => [])
    overloads := Table.ofList ((keyOf typesIn, typesOut) :: overloads)
    default := default.getD (typesIn, typesOut) }

/-- All operators, their rules, and the record of self tests. -/
structure Registry where
  operators : Table Operator
  rules : Table (List Rule)
  /-- The operators whose rules passed their self test, in order. -/
  tested : List String
  /-- The operators whose self test was left out, in order. -/
  skipped : List String
  /-- Whether rules for unknown operators are reported. -/
  mustExist : Bool
  deriving Inhabited

namespace Registry

variable (registry : Registry)

def operator (name : String) : Except Fault Operator :=
  orFault .missingKey (registry.operators.lookup? name)

def fullName? (name : String) : Option String := registry.operators.resolve? name

def portNames (name : String) : Except Fault (List String × List String) := do
  let operator ← registry.operator name
  return (operator.inputs, operator.outputs)

def portTypes (name : String) : Except Fault (List String × List String) := do
  let operator ← registry.operator name
  match operator.overloads.entries with
  | (key, outputs) :: _ => return (keyParts key, outputs)
  | [] => throw .badIndex

def allPortTypes (name : String) : Except Fault (List (List String) × List (List String)) := do
  let operator ← registry.operator name
  return (operator.overloads.keys.map keyTypes, operator.overloads.values)

/-- Whether an operator takes any number of arguments of one kind. -/
def isAssociative (name : String) : Except Fault Bool := do
  let operator ← registry.operator name
  return operator.autoOutput && operator.outputs.length == 1 && operator.inputs.isEmpty &&
    !operator.autoInput

/-- Whether an operator builds a text from any number of arguments. -/
def buildsText (name : String) : Bool :=
  match registry.fullName? name with
  | some full => full != "" && Text.endsWith "::build_string" full
  | none => false

def setOperator (name : String) (operator : Operator) : Registry :=
  { registry with operators := registry.operators.insert name operator }

/-- Adds a rule for an operator after the rules it has. -/
def addRule (name : String) (rule : Rule) : Registry :=
  { registry with
    rules := registry.rules.insert name ((registry.rules.get? name).getD [] ++ [rule]) }

end Registry

end GraphScript.Overload
