import GraphScript.Elaboration.Expression

/-!
# Headers of bodies

The parameters and results of compounds, functions and loops, and the settings of loops.  A header
is elaborated in the frame around the body.
-/

namespace GraphScript.Elaboration

open GraphScript.Language (Tree)
open Program (Term)

/-! ## Parameters -/

/-- Checks that a name is not among those before it. -/
def checkRepeated (spot : Tree) (before : List String) (name : String) : Elaborating Unit := do
  if before.contains name then report .name spot "Duplicate parameter names found"

def parameter (written : Syntax.Parameter) : Elaborating Program.Parameter := do
  let default ← optionalExpression written.value
  match default with
  | some value =>
    let type ← value.type
    checkCast written.spot type (← PortType.ofName written.type) none
  | none => pure ()
  let type ← PortType.ofName written.type
  return .mk written.name type default

/-- Elaborates parameters; `before` are the names of those before them. -/
def parameters (before : List String) : List Syntax.Parameter → Elaborating (List Program.Parameter)
  | [] => return []
  | written :: rest => do
    let first ← parameter written
    checkRepeated written.listSpot before written.name
    return first :: (← parameters (before ++ [written.name]) rest)

/-- The names that the parameters of a loop cannot have. -/
def reservedPorts : List String := ["max_iterations", "current_index", "looping_condition"]

/-- The message for an iteration target that is no array. -/
def targetMessage : String := "Iteration targets must be at least 1D arrays!"

def givenLoopParameter (written : Syntax.LoopParameter) (typeName : String) (value : Term) :
    Elaborating Program.LoopParameter := do
  let name ← if typeName == PortType.autoName then do pure (← value.type).name else pure typeName
  if written.isTarget && !Text.startsWith "array<" name then
    report .general written.spot targetMessage
  let valueType ← value.type
  checkCast written.spot valueType.onlyPort (← PortType.ofName name) (some written.name)
  let type ← PortType.ofName name
  return .mk written.name type (some value) written.isTarget

def namedLoopParameter (written : Syntax.LoopParameter) : Elaborating Program.LoopParameter := do
  match ← typeOf? written.name with
  | none => report .general written.spot s!"Variable '{written.name}' referenced before assignment!"
  | some type =>
    if type.isNode && (type.ports.getD []).length != 1 then
      report .general written.spot "Can't pass NODE type variables through scopes!"
    if written.isTarget && !type.isArray then report .general written.spot targetMessage
    if reservedPorts.contains written.name then
      report .general written.spot s!"Invalid port name: '{written.name}'!"
    let type ← PortType.ofName type.name
    return .mk written.name type none written.isTarget

def loopParameter (written : Syntax.LoopParameter) : Elaborating Program.LoopParameter := do
  match written.given with
  | none => namedLoopParameter written
  | some (type, value) =>
    let value ← expression value
    givenLoopParameter written type value

/-- Elaborates parameters of a loop; `before` are the names of those before them. -/
def loopParameters (before : List String) :
    List Syntax.LoopParameter → Elaborating (List Program.LoopParameter)
  | [] => return []
  | written :: rest => do
    let first ← loopParameter written
    checkRepeated written.listSpot before written.name
    return first :: (← loopParameters (before ++ [written.name]) rest)

/-! ## Results -/

def checkDistinct (results : Syntax.Results) : Elaborating Unit := do
  let names := results.items.map Syntax.Result.name
  if names.eraseDups.length != names.length then
    report .name (results.listSpot.getD results.spot) "Duplicate result names found"

def result (written : Syntax.Result) : Elaborating Program.Result := do
  if written.feedback.isSome && (← getThe Session).loops != 0 then
    report .general written.spot "Feedback ports in looping constructs are not allowed"
  let type ← PortType.ofName written.type
  return ⟨written.name, type, written.feedback⟩

/-- Elaborates results one after the other. -/
def resultItems : List Syntax.Result → Elaborating (List Program.Result)
  | [] => return []
  | written :: rest => do
    let first ← result written
    return first :: (← resultItems rest)

def results (written : Syntax.Results) : Elaborating (List Program.Result) := do
  let items ← resultItems written.items
  checkDistinct written
  return items

def loopResult (kind : Syntax.LoopKind) (written : Syntax.Result) :
    Except Fault Program.LoopResult := do
  let type ← PortType.ofName written.type
  match kind with
  | .forEach => return ⟨written.name, type, true, none⟩
  | .iterate => return ⟨written.name, type, written.isTarget, written.feedback⟩
  | .doWhile => return ⟨written.name, type, false, written.feedback⟩

def loopResults (kind : Syntax.LoopKind) (written : Syntax.Results) :
    Elaborating (List Program.LoopResult) := do
  let items ← (written.items.mapM (loopResult kind) : Except Fault (List Program.LoopResult))
  checkDistinct written
  return items

/-! ## Parameters and results together -/

/-- Checks that no result has the name of a parameter. -/
def checkDisjoint (spot : Tree) (parameters results : List String) : Elaborating Unit := do
  match commonName? parameters results with
  | some name => report .name spot s!"Results cannot have the same name as arguments: '{name}'"
  | none => return ()

/-- The tree that a report on a repeated feedback shows for the result at a position. -/
def feedbackSpot (results : Syntax.Results) (position : Nat) : Except Fault Tree :=
  orFault .badIndex ((results.listSpot.getD results.spot).children[2 * position]?)

/-- A result that is fed back: its position, name, type and parameter. -/
structure Feedback where
  position : Nat
  name : String
  type : PortType
  parameter : String

/-- Checks that results are fed back to parameters of their types, each to another one.  The word is
what reports call such a port. -/
def checkFeedback (word : String) (written : Syntax.Results) (inputs : List (String × PortType))
    (taken : List String) : List Feedback → Elaborating Unit
  | [] => return ()
  | feedback :: rest => do
    let parameter := feedback.parameter
    let type ← orFault .missingKey (inputs.lookup parameter)
    if taken.contains parameter then
      let spot ← feedbackSpot written feedback.position
      report .name spot s!"Duplicate {word.toLower} port: '{parameter}'"
    if type.name != feedback.type.name then
      report .name written.spot (s!"{word} port types dont match: '{parameter}[{type.name}]" ++
        s!"@{feedback.name}[{feedback.type.name}]")
    checkFeedback word written inputs (parameter :: taken) rest

def feedbacks (results : List Program.Result) : List Feedback :=
  results.zipIdx.filterMap fun entry =>
    entry.1.feedback.map fun parameter => ⟨entry.2, entry.1.name, entry.1.type, parameter⟩

def stateFeedbacks (results : List Program.LoopResult) : List Feedback :=
  results.zipIdx.filterMap fun entry =>
    entry.1.state.map fun parameter => ⟨entry.2, entry.1.name, entry.1.type, parameter⟩

/-! ## Settings of loops -/

def loopIndex (written : Option Syntax.IndexSetting) : Elaborating Program.LoopIndex := do
  match written with
  | some setting =>
    let start ← expression setting.value
    return .mk (← freshId) setting.name start
  | none =>
    let start ← literal (.whole 0) "long"
    return .mk (← freshId) "current_index" start

/-- Elaborates the settings of a loop: its index, and then the largest number of rounds. -/
def loopSettings (written : Syntax.LoopSettings) :
    Elaborating (Option Term × Program.LoopIndex) := do
  let index ← loopIndex written.index
  let limit ← optionalExpression written.limit
  return (limit, index)

end GraphScript.Elaboration
