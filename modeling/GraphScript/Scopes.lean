import GraphScript.PortType.Basic
import GraphScript.Table

/-!
# Scopes

The variables and results that are known while a script is read, one frame for each body that is
open.  Names are looked up in the innermost frame only, so a body never sees the variables around
it.  A variable hides a result of the same name.
-/

namespace GraphScript

/-- The type of a name, and the node that it holds. -/
structure Binding (ν : Type) where
  type : PortType
  value : Option ν

/-- The names of one body. -/
structure Frame (ν : Type) where
  bindings : Table (Binding ν) := {}
  /-- The names that can only be assigned to. -/
  results : Table (Binding ν) := {}

namespace Frame

variable {ν : Type}

def type? (frame : Frame ν) (name : String) : Option PortType :=
  ((frame.bindings.get? name).or (frame.results.get? name)).map Binding.type

def value? (frame : Frame ν) (name : String) : Option ν :=
  (frame.bindings.get? name).bind Binding.value

/-- Whether a name can only be assigned to. -/
def isResult (frame : Frame ν) (name : String) : Bool :=
  !frame.bindings.contains name && frame.results.contains name

def insert (frame : Frame ν) (asResult : Bool) (name : String) (binding : Binding ν) : Frame ν :=
  if asResult then { frame with results := frame.results.insert name binding }
  else { frame with bindings := frame.bindings.insert name binding }

def lines (frame : Frame ν) (depth : Nat) : List String :=
  let indent := Text.repeated depth "    "
  (frame.bindings.entries.map fun entry =>
    let type := entry.2.type.name
    s!"| {indent}{entry.1}: {type}") ++
  (frame.results.entries.map fun entry =>
    let type := entry.2.type.name
    s!"| {indent} (RESULT) {entry.1}: {type}")

end Frame

/-- The open frames, the innermost first. -/
abbrev Scopes (ν : Type) : Type := List (Frame ν)

namespace Scopes

variable {ν : Type}

/-- The scopes before any body is open. -/
def start : Scopes ν := [{}]

def enter (scopes : Scopes ν) : Scopes ν := {} :: scopes

def leave : Scopes ν → Except Fault (Frame ν × Scopes ν)
  | [] => .error .badIndex
  | frame :: rest => .ok (frame, rest)

def innermost (scopes : Scopes ν) : Except Fault (Frame ν) := orFault .badIndex scopes.head?

def type? (scopes : Scopes ν) (name : String) : Except Fault (Option PortType) := do
  return (← scopes.innermost).type? name

def value? (scopes : Scopes ν) (name : String) : Except Fault (Option ν) := do
  return (← scopes.innermost).value? name

/-- Whether a name can only be assigned to. -/
def isResult (scopes : Scopes ν) (name : String) : Except Fault Bool := do
  return (← scopes.innermost).isResult name

/-- Stores a name in the innermost frame.  The name of a node needs the node. -/
def set (scopes : Scopes ν) (asResult : Bool) (name : String) (type : PortType)
    (value : Option ν) : Except Fault (Scopes ν) :=
  if type.isNode && value.isNone then .error (.refusal "NODE type values cannot be None")
  else
    match scopes with
    | [] => .error .badIndex
    | frame :: rest => .ok (frame.insert asResult name ⟨type, value⟩ :: rest)

def ruler : String := "+--------------------"

/-- The lines that show all frames, the outermost first. -/
def lines (scopes : Scopes ν) : List String :=
  (scopes.reverse.zipIdx.flatMap fun entry => ruler :: entry.1.lines entry.2) ++ [ruler]

end Scopes

end GraphScript
