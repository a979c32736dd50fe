import GraphScript.Typing.Operator
import GraphScript.PortType.Reshape

/-!
# Outcomes of overload rules

A rule looks at the argument types of a call and settles the types of all ports, or it turns the
call down.  Settled types are slots: a type that was already checked, or a bare name that still has
to be.
-/

namespace GraphScript.Overload

/-- A settled port type: checked, or only named. -/
inductive Slot where
  | typed (type : PortType)
  | named (name : String)

namespace Slot

def name : Slot → String
  | typed type => type.name
  | named name => name

def check : Slot → Except Fault PortType
  | typed type => .ok type
  | named name => PortType.ofName name

end Slot

/-- Why a call is turned down. -/
structure Rejection where
  kind : ReportKind
  message : String
  deriving DecidableEq

/-- What a rule makes of a call. -/
inductive Outcome where
  | accepted (inputs outputs : List Slot)
  | rejected (reason : Rejection)
  /-- A reason without a verdict, which callers read as settled types. -/
  | unjudged (reason : Rejection)
  /-- The call is turned down with a bare text. -/
  | dismissed (message : String)
  /-- The call is turned down without a reason. -/
  | refused

/-- The names and types of the ports that a rule is applied to. -/
structure Ports where
  namesIn : List String
  namesOut : List String
  typesIn : List String
  typesOut : List String

/-- A step of a rule: a value, a reason to turn the call down, or a fault. -/
abbrev Step (α : Type) : Type := ExceptT Rejection (Except Fault) α

def rejectType {α : Type} (message : String) : Step α := throw ⟨.type, message⟩

def ofVerdict {α : Type} (verdict : Verdict α) : Step α := do
  match ← verdict.run with
  | .ok value => return value
  | .error message => rejectType message

/-- Ends a rule whose steps turn calls down in the usual way. -/
def judge (step : Step (List Slot × List Slot)) : Except Fault Outcome := do
  match ← step.run with
  | .ok (inputs, outputs) => return .accepted inputs outputs
  | .error reason => return .rejected reason

/-- Ends a rule that hands on a reason without a verdict. -/
def judgeBare (step : Step (List Slot × List Slot)) : Except Fault Outcome := do
  match ← step.run with
  | .ok (inputs, outputs) => return .accepted inputs outputs
  | .error reason => return .unjudged reason

def itemAt {m : Type → Type} [Monad m] [MonadExceptOf Fault m] {α : Type} (items : List α)
    (index : Nat) : m α :=
  match items[index]? with
  | some item => pure item
  | none => throwThe Fault .badIndex

/-- The type of an argument promoted into a set of types; `wording` joins the type to the port. -/
def settleArgument (wording : String) (names : List String) (possible : TypeSet) (index : Nat)
    (type : PortType) : Step PortType := do
  if possible.mem type.name then return type
  if type.name == PortType.autoName then
    let name ← itemAt names index
    rejectType s!"'Missing required parameter '{name}'"
  match ← type.promotableToOneOf possible.mem with
  | some promoted => return promoted
  | none =>
    let name ← itemAt names index
    rejectType s!"'{name}' {wording} '{type.name}' unsupported"

def settleAll (wording : String) (names : List String) (possible : TypeSet) :
    Nat → List PortType → Step (List PortType)
  | _, [] => return []
  | index, type :: rest => do
    let settled ← settleArgument wording names possible index type
    return settled :: (← settleAll wording names possible (index + 1) rest)

def join (first second : PortType) : Step PortType :=
  ofVerdict (Typing.arithmeticOnTypes false "?" first second)

def joinAll (first : PortType) : List PortType → Step PortType
  | [] => return first
  | next :: rest => do joinAll (← join first next) rest

def joinTypes : List PortType → Step PortType
  | [] => throwThe Fault .badIndex
  | first :: rest => joinAll first rest

/-- The join of a type with `float`; a rejection here is a fault. -/
def joinFloat (type : PortType) : Except Fault PortType := do
  (Typing.arithmeticOnTypes false "?" type (← PortType.ofName "float")).orElseFault .missingMember

/-- Settles every argument in one set of types and joins them; the join becomes a fraction where
`toFraction` is set and it is no field. -/
def sameKind (names : List String) (possible : TypeSet) (toFraction : Bool)
    (types : List PortType) : Step (List PortType × String) := do
  let settled ← settleAll "with type" names possible 0 types
  let joined ← joinTypes settled
  if toFraction then
    if ← joined.isField then return (settled, joined.name)
    return (settled, (← joinFloat joined).name)
  return (settled, joined.name)

def arrayLevels (types : List PortType) : List Nat :=
  ((types.filter PortType.isArray).map PortType.arrayDim).eraseDups

def commonLevel (message : String) (types : List PortType) : Step Nat :=
  match arrayLevels types with
  | [] => return 0
  | [level] => return level
  | _ => rejectType message

def elementTypes (types : List PortType) : Except Fault (List PortType) :=
  types.mapM PortType.elementType

def checkNames (names : List String) : Except Fault (List PortType) := names.mapM PortType.ofName

def asGiven (types : List PortType) : List Slot := types.map .typed

end GraphScript.Overload
