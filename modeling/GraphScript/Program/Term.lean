import GraphScript.PortType.Basic
import GraphScript.Syntax.Statement

/-!
# Typed terms

What a script means once its names and types are settled.  Every term that can be built into a graph
has a number of its own, so that a term reached along two ways is copied once and built once.
-/

namespace GraphScript.Program

open Syntax (OperatorKind LoopKind)

/-- A constant. -/
inductive Literal where
  /-- No value: only a type was given. -/
  | none
  | whole (value : Int)
  | fraction (value : Binary64)
  | text (value : String)
  deriving DecidableEq

/-- The flags of a terminal: the letters that were written, or nothing where none were. -/
abbrev Terminals : Type := Option (List String)

/-- The output ports of a node with their types. -/
abbrev Outputs : Type := List (String × PortType)

/-- A result of a compound or function. -/
structure Result where
  name : String
  type : PortType
  feedback : Option String

structure LoopResult where
  name : String
  type : PortType
  isTarget : Bool
  state : Option String

/-- The ways of assigning to a part of a variable. -/
inductive PartKind where
  | member
  | string
  | object
  | array
  deriving DecidableEq

mutual

/-- A term and its number. -/
inductive Term where
  | mk (id : Nat) (form : Form)

/-- What a term is made of. -/
inductive Form where
  | value (literal : Literal) (type : PortType)
  | reference (name : String) (type : PortType)
  | vector (component type : PortType) (values : List Term)
  | matrix (component type : PortType) (columns : List (List Term))
  /-- A copied matrix, which can be looked at but neither copied again nor built. -/
  | sheet (component type : PortType) (columns : List (List Term))
  | array (element : PortType) (values : List Term)
  | emptyArray (element : PortType) (count : Term)
  | object (entries : List Entry)
  | enumeration (name : String) (type : PortType)
  | not (type : PortType) (value : Term)
  | negate (type : PortType) (value : Term)
  | binary (kind : OperatorKind) (operator : String) (type : PortType) (left right : Term)
  /-- A chain of comparisons: one operand more than operators. -/
  | comparison (operators : List String) (type : PortType) (operands : List Term)
  | access (value : Term) (accessor : Accessor)
  | port (holder : Option String) (node : Term) (port : String)
  | associative (name : String) (portNames : List String) (arguments named : List Argument)
      (terminals : Terminals) (outputs : Outputs)
  | native (name : String) (arguments named : List Argument) (terminals : Terminals)
      (inputTypes argumentTypes : List PortType) (outputs : Outputs)
  | function (name : String) (body : Term) (arguments named : List Argument) (terminals : Terminals)
      (inputTypes argumentTypes : List PortType) (outputs : Outputs)
  | construct (type : String) (arguments named : List Argument)
  | scope (name : String) (parameters : List Parameter) (results : List Result)
      (code : List Statement) (terminals : Terminals)
  | loop (kind : LoopKind) (parameters : List LoopParameter) (results : List LoopResult)
      (code : List Statement) (limit : Option Term) (index : LoopIndex) (terminals : Terminals)
      (condition : Option Term)

/-- A key and a value of an object. -/
inductive Entry where
  | mk (key value : Term)

/-- How a part of a value is reached. -/
inductive Accessor where
  | index (id : Nat) (value : Term)
  | slice (start stop step : Option Term)
  /-- The value under a key, with a default or only a type for when there is none. -/
  | orDefault (id : Nat) (key : Term) (type : PortType) (default : Option Term)
  | member (path : String)

/-- An argument of a call. -/
inductive Argument where
  | mk (name : Option String) (value : Term)

/-- A parameter of a compound or function. -/
inductive Parameter where
  | mk (name : String) (type : PortType) (default : Option Term)

inductive LoopParameter where
  | mk (name : String) (type : PortType) (default : Option Term) (isTarget : Bool)

inductive LoopIndex where
  | mk (id : Nat) (name : String) (start : Term)

/-- Something on the left of an assignment. -/
inductive Target where
  | ignored
  | declared (name : String) (type : PortType)
  | reference (name : String) (type : PortType)
  /-- A part of the variable that the first term names. -/
  | part (id : Nat) (kind : PartKind) (base : Term) (accessor : Accessor) (type : PortType)

inductive Statement where
  | empty
  | make (term : Term)
  | assignment (id : Nat) (targets : List Target) (operator : String) (value : Term)
  | takeOver (id : Nat) (node : Term)

end

instance : Inhabited Term := ⟨.mk 0 (.object [])⟩

namespace Term

def id : Term → Nat
  | mk id _ => id

def form : Term → Form
  | mk _ form => form

end Term

namespace Argument

def name : Argument → Option String
  | mk name _ => name

def value : Argument → Term
  | mk _ value => value

end Argument

namespace Parameter

def name : Parameter → String
  | mk name _ _ => name

def type : Parameter → PortType
  | mk _ type _ => type

end Parameter

namespace LoopParameter

def name : LoopParameter → String
  | mk name _ _ _ => name

def type : LoopParameter → PortType
  | mk _ type _ _ => type

def isTarget : LoopParameter → Bool
  | mk _ _ _ isTarget => isTarget

end LoopParameter

namespace Accessor

def memberPath? : Accessor → Option String
  | member path => some path
  | _ => none

end Accessor

namespace LoopIndex

def name : LoopIndex → String
  | mk _ name _ => name

end LoopIndex

/-! ## Outputs and types -/

/-- The output ports of a form, where it makes a node or a value of a type. -/
def Form.outputs? : Form → Option Outputs
  | .associative _ _ _ _ _ outputs => some outputs
  | .native _ _ _ _ _ _ outputs => some outputs
  | .function _ _ _ _ _ _ _ outputs => some outputs
  | .construct _ _ _ => some []
  | .scope _ _ results _ _ => some (results.map fun result => (result.name, result.type))
  | .loop _ _ results _ _ _ _ _ => some (results.map fun result => (result.name, result.type))
  | _ => none

def Term.outputs? (term : Term) : Option Outputs := term.form.outputs?

/-- The output ports of a term; other terms have none to ask for. -/
def Term.outputs (term : Term) : Except Fault Outputs := orFault .missingMember term.outputs?

def nodeType (outputs : Outputs) : Except Fault PortType :=
  PortType.make PortType.nodeName (some outputs)

def arrayOf (element : PortType) : Except Fault PortType :=
  PortType.ofName ("array<" ++ element.name ++ ">")

def withoutLevel (name : String) : String := Text.dropEnd 1 (Text.dropStart 6 name)

def partType (value access : PortType) : Except Fault PortType :=
  if value.name == "string" then .ok value
  else if value.name == "Object" then .ok access
  else if value.isArray then
    if access.isArray then
      PortType.ofName (PortType.arrayName access.arrayDim (withoutLevel value.name))
    else PortType.ofName (withoutLevel value.name)
  else .error (.unsupported "This shouldn't have happened... o_O")

mutual

def Term.type : Term → Except Fault PortType
  | .mk _ form => form.type

def Form.type : Form → Except Fault PortType
  | .value _ type => .ok type
  | .reference _ type => .ok type
  | .vector _ type _ => .ok type
  | .matrix _ type _ => .ok type
  | .sheet _ type _ => .ok type
  | .array element _ => arrayOf element
  | .emptyArray element _ => arrayOf element
  | .object _ => PortType.ofName "Object"
  | .enumeration _ type => .ok type
  | .not type _ => .ok type
  | .negate type _ => .ok type
  | .binary _ _ type _ _ => .ok type
  | .comparison _ type _ => .ok type
  | .access value accessor => do
    let type := (← value.type).onlyPort
    match accessor with
    | .member path => type.member path
    | .index _ index => partType type (← index.type)
    | .slice _ _ _ => partType type (← PortType.ofName "array<long>")
    | .orDefault _ _ default _ => partType type default
  | .port _ node port => do
    let outputs ← node.outputs
    orFault .badValue (outputs.lookup port)
  | .associative _ _ _ _ _ outputs => nodeType outputs
  | .native _ _ _ _ _ _ outputs => nodeType outputs
  | .function _ _ _ _ _ _ _ outputs => nodeType outputs
  | .construct type _ _ => PortType.ofName type
  | .scope name parameters results code terminals =>
    nodeType ((Form.scope name parameters results code terminals).outputs?.getD [])
  | .loop kind parameters results code limit index terminals condition =>
    nodeType
      ((Form.loop kind parameters results code limit index terminals condition).outputs?.getD [])

end

def Argument.type (argument : Argument) : Except Fault PortType := argument.value.type

def Accessor.type : Accessor → Except Fault PortType
  | .index _ value => value.type
  | .slice _ _ _ => PortType.ofName "array<long>"
  | .orDefault _ _ type _ => .ok type
  | .member _ => .error .missingMember

end GraphScript.Program
