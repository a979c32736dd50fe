import GraphScript.Overload.Definition
import GraphScript.Program.Copy
import GraphScript.Scopes

/-!
# Sessions

The state while a script is elaborated: the operators that are known, the functions that were
defined, and the names of the bodies that are open.
-/

namespace GraphScript.Elaboration

open GraphScript.Language (Location Tree)
open Program (Form Term)

/-- A function: its body, and its overloads as input types with output types. -/
structure Function where
  body : Term
  overloads : List (List String × List PortType)

namespace Function

def setOverload (function : Function) (inputs : List String) (outputs : List PortType) : Function :=
  if function.overloads.any fun entry => entry.1 == inputs then
    { function with
      overloads := function.overloads.map fun entry =>
        if entry.1 == inputs then (inputs, outputs) else entry }
  else { function with overloads := function.overloads ++ [(inputs, outputs)] }

def parameters (function : Function) : List Program.Parameter :=
  match function.body.form with
  | .scope _ parameters _ _ _ => parameters
  | _ => []

def results (function : Function) : List Program.Result :=
  match function.body.form with
  | .scope _ _ results _ _ => results
  | _ => []

end Function

/-- The state of an elaboration. -/
structure Session where
  desk : Overload.Desk
  nextId : Nat
  source : Source
  functions : Table Function
  scopes : Scopes Term
  loops : Nat
  deriving Inhabited

/-- An action on a session. -/
abbrev Elaborating (α : Type) : Type := Act Session α

def report {α : Type} (kind : ReportKind) (spot : Tree) (message : String) : Elaborating α := do
  let location := Location.ofTree (← getThe Session).source spot
  throw (.report kind (location.report message))

/-- Stops with a report when a verdict is a rejection. -/
def judged {α : Type} (spot : Tree) (verdict : Verdict α) : Elaborating α := do
  match ← verdict.run with
  | .ok value => return value
  | .error message => report .type spot message

def registering {α : Type} (action : Overload.Registering α) : Elaborating α :=
  action.zoom Session.desk fun desk session => { session with desk := desk }

def registry : Elaborating Overload.Registry := do
  return (← getThe Session).desk.registry

def print (text : String) : Elaborating Unit :=
  registering ((Text.parts '\n' text).forM Overload.note)

def printAt (spot : Tree) (text : String) : Elaborating Unit := do
  let location := Location.ofTree (← getThe Session).source spot
  print (location.logLine text)

/-! ## Numbers of terms -/

def freshId : Elaborating Nat := do
  let session ← getThe Session
  set { session with nextId := session.nextId + 1 }
  return session.nextId

def fresh (form : Form) : Elaborating Term := do
  return .mk (← freshId) form

def copyOf (term : Term) : Elaborating Term :=
  term.copy.zoom (fun session : Session => ⟨session.nextId, []⟩) fun copier session =>
    { session with nextId := copier.nextId }

/-! ## Names -/

def typeOf? (name : String) : Elaborating (Option PortType) := do
  (← getThe Session).scopes.type? name

def nodeOf? (name : String) : Elaborating (Option Term) := do
  (← getThe Session).scopes.value? name

/-- Whether a name can only be assigned to. -/
def isResult (name : String) : Elaborating Bool := do
  (← getThe Session).scopes.isResult name

def setName (asResult : Bool) (name : String) (type : PortType) (value : Option Term) :
    Elaborating Unit := do
  let session ← getThe Session
  let scopes ← session.scopes.set asResult name type value
  set { session with scopes := scopes }

def inFrame {α : Type} (body : Elaborating α) : Elaborating α := do
  modifyThe Session fun session => { session with scopes := session.scopes.enter }
  let result ← body
  let session ← getThe Session
  let (_, scopes) ← session.scopes.leave
  set { session with scopes := scopes }
  return result

def inLoop {α : Type} (body : Elaborating α) : Elaborating α := do
  modifyThe Session fun session => { session with loops := session.loops + 1 }
  let result ← body
  modifyThe Session fun session => { session with loops := session.loops - 1 }
  return result

/-! ## Conversions -/

def checkCast (spot : Tree) (value target : PortType) (port : Option String) :
    Elaborating Unit := do
  let findings ← PortType.compare target value
  let place := match port with
    | some name => s!" [{name}]"
    | none => ""
  if findings.arrayMismatch then
    report .type spot s!"Array dimension missmatch{place}: '{value.name}' <> '{target.name}'"
  if findings.incompatible then
    report .type spot s!"Incompatible type assignment{place}: '{value.name}' -> '{target.name}'"
  if findings.lossy then
    report .type spot
      s!"Use explicit cast for lossy conversion{place}: '{value.name}' -> '{target.name}'"
  if findings.shapeMismatch then
    report .type spot s!"Incompatible matrix dimensions{place}: '{value.name}' -> '{target.name}'"

/-- The first name that occurs in both lists, in the order of names. -/
def commonName? (left right : List String) : Option String :=
  Text.first? (left.filter right.contains)

/-! ## Binding arguments to ports -/

/-- An argument of a call, with its type and the tree that reports on it show. -/
structure Given where
  spot : Tree
  argument : Program.Argument
  type : PortType

namespace Given

/-- The name of an argument, where it is named. -/
def name (given : Given) : String := given.argument.name.getD ""

end Given

/-- The types of the ports, and for each port the type of the argument that it got. -/
structure Bound where
  /-- The declared types, replaced where there is an argument. -/
  types : List PortType
  given : List (Option PortType)

namespace Bound

def argumentTypes (bound : Bound) : List PortType := bound.given.filterMap id

def set (bound : Bound) (index : Nat) (type : PortType) : Except Fault Bound :=
  if index < bound.types.length then
    .ok ⟨bound.types.set index type, bound.given.set index (some type)⟩
  else .error .badIndex

end Bound

def bindPositions (bound : Bound) : Nat → List Given → List String → Except Fault Bound
  | index, given :: rest, _ :: names => do
    bindPositions (← bound.set index given.type) (index + 1) rest names
  | _, _, _ => .ok bound

/-- Binds arguments by name; `taken` are the ports that got an argument by position. -/
def bindNames (names taken : List String) (bound : Bound) : List Given → Overload.Step Bound
  | [] => return bound
  | given :: rest => do
    if taken.contains given.name then
      throw ⟨.name, s!"Multiple values found for argument: '{given.name}'"⟩
    match names.findIdx? (· == given.name) with
    | none =>
      throw ⟨.name, s!"Unknown port name: '{given.name}'. Use one of: {Text.quotedList names}"⟩
    | some index =>
      let bound ← liftM (bound.set index given.type)
      bindNames names taken bound rest

def bindArguments (names : List String) (declared : List PortType) (positional named : List Given) :
    Overload.Step Bound := do
  if declared.length < positional.length + named.length then
    throw ⟨.general, "Too many arguments"⟩
  let bound ← liftM (bindPositions ⟨declared, names.map fun _ => none⟩ 0 positional names)
  bindNames names (names.take positional.length) bound named

/-- Named arguments in the order of their ports. -/
def inPortOrder (names : List String) (named : List Given) : List Given :=
  named.mergeSort fun left right => names.idxOf left.name ≤ names.idxOf right.name

/-- Splits arguments into those by position and those by name; `none` if a position follows a
name. -/
def splitNamed : List Given → Option (List Given × List Given)
  | [] => some ([], [])
  | given :: rest =>
    if given.argument.name.isSome then
      if rest.all fun other => other.argument.name.isSome then some ([], given :: rest) else none
    else (splitNamed rest).map fun split => (given :: split.1, split.2)

def checkBound : List Given → List PortType → Elaborating Unit
  | given :: rest, target :: targets => do
    checkCast given.spot given.type target none
    checkBound rest targets
  | _, _ => return ()

end GraphScript.Elaboration
