import GraphScript.Overload.Resolution

/-!
# Defining overloads

Rules are added to the registry one at a time.  A rule by sets of types must account for exactly the
ports that are declared `auto`.  After a rule was added, the default overload of the operator and,
where a single port has a choice of suggested types, all suggested types are resolved as a test.
-/

namespace GraphScript.Overload

/-- A registry and the lines printed while working on it. -/
structure Desk where
  registry : Registry
  log : Log
  deriving Inhabited

/-- An action on a registry. -/
abbrev Registering (α : Type) : Type := Act Desk α

def note (line : String) : Registering Unit :=
  modifyThe Desk fun desk => { desk with log := desk.log.push line }

def currentRegistry : Registering Registry := do
  return (← getThe Desk).registry

def changeRegistry (change : Registry → Registry) : Registering Unit :=
  modifyThe Desk fun desk => { desk with registry := change desk.registry }

/-- Runs an action that only prints. -/
def withLog {α : Type} (action : Logged α) : Registering α :=
  action.zoom Desk.log fun log desk => { desk with log := log }

def resolveNow (name : String) (arguments : List PortType) : Registering Answer := do
  withLog (resolve (← currentRegistry) name arguments)

/-- What is given as the accepted types of a group. -/
inductive GivenTypes where
  | set (types : TypeSet) (isEmpty : Bool)
  | text (word : String)
  | other (isZero : Bool)

/-- What is given as the derived types of a group. -/
inductive GivenDerivations where
  | list (derivations : List Derivation)
  | text (word : String)
  | other

structure GivenGroup where
  types : GivenTypes
  derived : GivenDerivations

def group (types : TypeSet) (derived : List Derivation) : GivenGroup :=
  ⟨.set types false, .list derived⟩

def readGroup (name : String) (given : GivenGroup) : Except Fault Group := do
  let types ← match given.types with
    | .set _ true | .text "" | .other true => throw (.report .general "Valid types are empty!")
    | .text word => throw (.report .general s!"Should be a set: '{word}'")
    | .set types false => pure (some types)
    | .other false => pure none
  let unusable : Fault :=
    .report .general s!"Funcs must be list of None, string, or callables: '{name}'"
  match given.derived with
  | .other => throw .badOperand
  | .text _ => throw unusable
  | .list derivations =>
    if derivations.contains .unusable then throw unusable
    return ⟨types, derivations⟩

/-- Counts the ports that groups account for; every group must start at an input port. -/
def countPorts (name : String) (inputs : List String) : Nat → List Group → Registering Nat
  | count, [] => return count
  | count, group :: rest => do
    if count ≥ inputs.length then
      note (Text.quotedList inputs)
      note (toString count)
      throw (.report .general s!"Output types must be given through type func: '{name}'")
    countPorts name inputs (count + 1 + group.derived.length) rest

def Answer.fault? : Answer → Option Fault
  | found _ _ => none
  | failed reason => some (.report reason.kind reason.message)
  | dismissed _ => some .badOperand

/-- The names of the ports with a declared type of `auto`. -/
def autoNames (names types : List String) : List String :=
  ((names.zip types).filter fun entry => entry.2 == PortType.autoName).map Prod.fst

def mismatchLines (found expected : List String) : String :=
  "\n    ".intercalate ((found.zip expected).map fun entry => s!"{entry.1} <> {entry.2}")

/-- All ways to choose one item from each list, the last list changing fastest. -/
def choices {α : Type} : List (List α) → List (List α)
  | [] => [[]]
  | items :: rest => items.flatMap fun item => (choices rest).map (item :: ·)

/-- Resolves the default overload as a test; gives its outcome. -/
def testDefault (name : String) (default : List String × List String)
    (compare : String → List String → List String → String) : Registering Unit := do
  let arguments ← liftM (checkNames default.1)
  match ← resolveNow name arguments with
  | .found inputs outputs =>
    if inputs != default.1 then
      throw (.report .general (compare "inputs" inputs default.1))
    if outputs != default.2 then
      throw (.report .general (compare "outputs" outputs default.2))
  | answer => throw (answer.fault?.getD .badOperand)

def testChoice (name : String) (inputs : List String) (choice : List String) :
    Registering Unit := do
  let arguments ← liftM (checkNames choice)
  match ← resolveNow name arguments with
  | .found found _ =>
    if found != choice then
      let lines := (inputs.zip (found.zip choice)).map fun entry =>
        s!"{entry.1}: {entry.2.1} <> {entry.2.2}"
      let listing := "\n    ".intercalate lines
      throw (.report .general s!"'{name}' missmatch on suggested inputs:\n    {listing}")
  | answer => throw (answer.fault?.getD .badOperand)

/-- Resolves choices of suggested types one after the other. -/
def testChoices (name : String) (inputs : List String) : List (List String) → Registering Unit
  | [] => return ()
  | choice :: rest => do
    testChoice name inputs choice
    testChoices name inputs rest

/-- The operators whose suggested types are not tested. -/
def untestedSuggestions : List String := ["Geometry::Tags::tag_by_angle_between_vectors"]

/-- Whether the suggested types of an operator are tested: exactly one port has a choice, and every
port has a suggestion. -/
def testsSuggestions (name : String) (suggestions : List (List String)) : Bool :=
  !untestedSuggestions.contains name &&
    (suggestions.filter fun types => types.length > 1).length == 1 &&
    suggestions.all fun types => !types.isEmpty

/-- Reports an operator that must exist and does not. -/
def requireOperator (name : String) : Registering Unit := do
  let registry ← currentRegistry
  if registry.mustExist && !registry.operators.contains name then
    throw (.report .general s!"Operator or compound '{name}' does not exist!")

def listedMismatch (name side : String) (found expected : List String) : String :=
  s!"'{name}' missmatch in {side}:\n    {mismatchLines found expected}"

def shownMismatch (name side : String) (found expected : List String) : String :=
  s!"'{name}' missmatch in {side}: {Text.quotedList found} <> {Text.quotedList expected}"

def define (name : String) (given : List GivenGroup) : Registering Unit := do
  requireOperator name
  let registry ← currentRegistry
  let operator ← liftM (registry.operator name)
  let (typesIn, typesOut) ← liftM (registry.portTypes name)
  if !typesIn.contains PortType.autoName then
    throw (.report .general s!"Operator or compound '{name}' has no auto ports!")
  let autoCount := typesIn.count PortType.autoName + typesOut.count PortType.autoName
  let groups ← liftM (given.mapM (readGroup name))
  let count ← countPorts name operator.inputs 0 groups
  if autoCount != count then
    let namesIn := Text.quotedList (autoNames operator.inputs typesIn)
    let namesOut := Text.quotedList (autoNames operator.outputs typesOut)
    throw (.report .general
      s!"'{name}' has {autoCount} auto ports but got {count}.\n    {namesIn}\n    {namesOut}")
  changeRegistry (·.addRule name (.sets groups))
  if operator.default.1.contains PortType.autoName then
    changeRegistry fun registry => { registry with skipped := registry.skipped ++ [name] }
  else
    testDefault name operator.default (listedMismatch name)
    if testsSuggestions name operator.suggestions then
      testChoices name operator.inputs (choices operator.suggestions)
    changeRegistry fun registry => { registry with tested := registry.tested ++ [name] }

/-- Defines overloads of an operator by a computed rule; none when what was given is no rule. -/
def defineResolver (name : String) (resolver : Option Resolver) : Registering Unit := do
  requireOperator name
  match resolver with
  | none => throw (.report .general "Did you mean define_overload()?")
  | some resolver =>
    changeRegistry (·.addRule name (.computed resolver))
    let operator ← liftM ((← currentRegistry).operator name)
    if operator.default.1.contains PortType.autoName then
      changeRegistry fun registry => { registry with skipped := registry.skipped ++ [name] }
    else
      testDefault name operator.default (shownMismatch name)
      changeRegistry fun registry => { registry with tested := registry.tested ++ [name] }

/-- The types of ports with `auto` in the places of some names. -/
def withAuto (names : List String) (ports : List String) : List String → List String
  | [] => []
  | type :: types =>
    match names with
    | [] => type :: types
    | name :: rest =>
      (if ports.contains name then PortType.autoName else type) :: withAuto rest ports types

/-- Whether every port to be set has a type in the first overload. -/
def reachesPorts (names ports types : List String) : Bool :=
  (names.zipIdx.filter fun entry => ports.contains entry.1).all fun entry => entry.2 < types.length

/-- The overloads with the first one, its listed ports set to `auto`, put in front. -/
def forcedOverloads (operator : Operator) (ports : List String) :
    Except Fault (Table (List String)) :=
  match operator.overloads.entries with
  | [] => .error .badIndex
  | (key, outputs) :: _ =>
    if reachesPorts operator.inputs ports (keyParts key) &&
        reachesPorts operator.outputs ports outputs then
      let inputs := withAuto operator.inputs ports (keyParts key)
      let outputs := withAuto operator.outputs ports outputs
      let others := operator.overloads.entries.eraseP fun entry => keyParts entry.1 == inputs
      .ok (Table.ofList ((keyOf inputs, outputs) :: others))
    else .error .badIndex

/-- Declares ports of an operator as `auto`. -/
def forceAuto (name : String) (ports : List String) : Registering Unit := do
  let registry ← currentRegistry
  match registry.operators.get? name with
  | none => throw (.report .general s!"Operator or compound '{name}' does not exist!")
  | some operator =>
    let names := operator.inputs ++ operator.outputs
    match ports.find? fun port => !names.contains port with
    | some port =>
      throw (.report .general s!"Invalid port '{port}'. Chose from {Text.quotedList names}")
    | none =>
      let overloads ← liftM (forcedOverloads operator ports)
      changeRegistry (·.setOperator name { operator with overloads := overloads })

/-- Adds an overload for every choice of suggested types of an operator without rules. -/
def loadSuggested (name : String) (operator : Operator) : Registering Unit := do
  let registry ← currentRegistry
  match operator.overloads.entries with
  | [(key, outputs)] =>
    if Text.holds PortType.autoName key && !registry.rules.contains name &&
        !outputs.contains PortType.autoName &&
        operator.suggestions.any (fun types => types.length > 1) &&
        operator.suggestions.all (fun types => !types.isEmpty) then
      let count := (operator.suggestions.map List.length).foldl (· * ·) 1
      if count > 500 then
        note s!"[{name}] Too much memory required to compute {count} overloads"
      else
        let overloads := (choices operator.suggestions).foldl
          (fun table choice => table.insert (keyOf choice) outputs) operator.overloads
        changeRegistry (·.setOperator name { operator with overloads := overloads })
  | _ => return ()

/-- Adds overloads for the suggested types of all operators without rules. -/
def loadSuggestions : Registering Unit := do
  let registry ← currentRegistry
  registry.operators.entries.forM fun entry => loadSuggested entry.1 entry.2

/-- A step in building up a registry. -/
inductive Registration where
  | force (name : String) (ports : List String)
  | sets (name : String) (groups : List GivenGroup)
  | rule (name : String) (resolver : Resolver)

def Registration.perform : Registration → Registering Unit
  | force name ports => forceAuto name ports
  | sets name groups => define name groups
  | rule name resolver => defineResolver name (some resolver)

end GraphScript.Overload
