/-!
# Faults and actions

Everything that can stop an operation.  A *report* is addressed to the author of a script and has a
kind and a message.  A *refusal* comes from an operation that does not accept its input.  An
*accident* is a step that the value at hand does not support, such as a missing key; it has no
message.

An action changes a state and gives a value or stops with a fault.  What was changed before a fault
stays changed.
-/

namespace GraphScript

/-- The kinds of report that the author of a script can get. -/
inductive ReportKind where
  | general
  | form
  | type
  | name
  | run
  deriving DecidableEq

/-- Steps that a value does not support. -/
inductive Accident where
  | missingKey
  | badIndex
  | missingMember
  | badValue
  | badOperand
  | missingFile
  | folderAsFile
  | badDocument
  | unboundLocal
  | divisionByZero
  | tooDeep
  | overflow
  | failedAssertion
  | notAFolder
  | badEncoding
  | blockedFile
  | longName
  deriving DecidableEq

/-- What scanners and parsers made from descriptions stop at. -/
inductive Trouble where
  /-- A text that no token rule allows. -/
  | scanning
  /-- A description from which no parser can be made. -/
  | building
  /-- A grammar rule that is not allowed. -/
  | grammar
  /-- A grammar without a parse table. -/
  | table
  /-- Steps in an order that is not allowed. -/
  | order
  /-- A scanner without a text. -/
  | noText
  /-- A state that a scanner does not have. -/
  | state
  deriving DecidableEq

/-- What stopped an operation. -/
inductive Fault where
  | report (kind : ReportKind) (message : String)
  /-- An operation does not accept its input. -/
  | refusal (message : String)
  /-- An operation is not available for its input. -/
  | unsupported (message : String)
  /-- A text does not have the form that its reader expects. -/
  | malformed (message : String)
  | hostRefusal (message : String)
  /-- A scanner or parser made from a description stopped. -/
  | trouble (kind : Trouble) (message : String)
  /-- A step that the value at hand does not support. -/
  | accident (kind : Accident)
  deriving DecidableEq, Inhabited

namespace Fault

/-- A lookup under a key that is not there. -/
def missingKey : Fault := .accident .missingKey

def badIndex : Fault := .accident .badIndex

/-- A request for a member that the value does not have. -/
def missingMember : Fault := .accident .missingMember

def badValue : Fault := .accident .badValue

/-- An operand of a kind that an operation does not take. -/
def badOperand : Fault := .accident .badOperand

end Fault

def orFault {α : Type} (fault : Fault) : Option α → Except Fault α
  | some value => .ok value
  | none => .error fault

@[simp] theorem orFault_some {α : Type} (fault : Fault) (value : α) :
    orFault fault (some value) = .ok value := rfl

@[simp] theorem orFault_none {α : Type} (fault : Fault) :
    orFault fault (none : Option α) = .error fault := rfl

theorem orFault_eq_ok {α : Type} {fault : Fault} {found : Option α} {value : α} :
    orFault fault found = .ok value ↔ found = some value := by
  cases found <;> simp

/-! ## Actions -/

/-- An action on a state. -/
abbrev Act (σ α : Type) : Type := ExceptT Fault (StateM σ) α

namespace Act

variable {σ τ α : Type}

/-- Runs an action: its result and the state afterwards, whatever the result. -/
def runOn (action : Act σ α) (state : σ) : Except Fault α × σ :=
  StateT.run (ExceptT.run action) state

def zoom (get : τ → σ) (set : σ → τ → τ) (action : Act σ α) : Act τ α := do
  let state ← getThe τ
  let (result, part) := action.runOn (get state)
  modifyThe τ (set part)
  match result with
  | .ok value => return value
  | .error fault => throw fault

/-- An action that only looks. -/
def ofExcept (result : Except Fault α) : Act σ α :=
  match result with
  | .ok value => return value
  | .error fault => throw fault

def attempt (action : Act σ α) : Act σ (Except Fault α) := do
  let state ← getThe σ
  let (result, after) := action.runOn state
  set after
  return result

end Act

instance {σ : Type} : MonadLift (Except Fault) (ExceptT Fault (StateM σ)) := ⟨Act.ofExcept⟩

/-- The lines that were printed, in order. -/
abbrev Log : Type := Array String

/-- An action that can print lines. -/
abbrev Logged (α : Type) : Type := Act Log α

def say (line : String) : Logged Unit := modifyThe Log (·.push line)

end GraphScript
