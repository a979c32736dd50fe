import GraphScript.Elaboration.Body
import GraphScript.Files
import GraphScript.Language.Parser
import GraphScript.Syntax.OfTree

/-!
# Scripts

A script is a list of compounds, functions, overloads and imports.  Only compounds are results of a
script.  An import runs another script and takes over its functions under a namespace; imports that
go deeper than the number of files cannot end.
-/

namespace GraphScript.Elaboration

open GraphScript.Language (Tree)
open Program (Term)
open Syntax (Exec OverloadPort)

/-- Where a script can find other scripts. -/
structure Surroundings where
  files : Files
  searchPath : List String
  asAddress : Bool
  deriving Inhabited

/-! ## Overloads -/

/-- The names and types of the ports of something that can be overloaded. -/
structure Overloadable where
  name : String
  isFunction : Bool
  namesIn : List String
  namesOut : List String
  typesIn : List String
  typesOut : List String

/-- What a name stands for: one of the functions of the script, or else an operator. -/
def overloadable (spot : Tree) (name : String) : Elaborating Overloadable := do
  let functions := (← getThe Session).functions
  match functions.resolve? name, functions.lookup? name with
  | some full, some function =>
    return {
      name := full
      isFunction := true
      namesIn := function.parameters.map Program.Parameter.name
      namesOut := function.results.map Program.Result.name
      typesIn := function.parameters.map fun parameter => parameter.type.name
      typesOut := function.results.map fun result => result.type.name }
  | _, _ =>
    let registry ← registry
    match registry.fullName? name with
    | none => report .name spot s!"No function '{name}' found"
    | some full =>
      let (namesIn, namesOut) ← registry.portNames full
      let (typesIn, typesOut) ← registry.portTypes full
      return ⟨full, false, namesIn, namesOut, typesIn, typesOut⟩

/-- The message for a position after a name. -/
def positionAfterName : String := "Python rules! Positional arguments cant follow keyword arguments"

/-- The place of a port that an overload gives a type to, by its name or by its position. -/
def portPosition (spot : Tree) (direction : String) (names : List String) (place : Nat)
    (afterName : Bool) (port : OverloadPort) : Elaborating Nat := do
  match port.name with
  | none => if afterName then report .form spot positionAfterName else return place
  | some name =>
    match names.findIdx? (· == name) with
    | some position => return position
    | none =>
      let shown := "\n    ".intercalate names
      report .general port.spot
        s!"Unrecognized {direction} port name '{name}'. Use one of: [\n    {shown}\n]"

def setType (types : List String) (position : Nat) (type : String) : Except Fault (List String) :=
  if position < types.length then .ok (types.set position type) else .error .badIndex

/-- The output types with those that an overload gives; each output can have only one. -/
def overloadOutputs (spot : Tree) (names : List String) :
    Nat → Bool → List String → List OverloadPort → Elaborating (List String)
  | _, _, types, [] => return types
  | place, afterName, types, port :: rest => do
    let position ← portPosition spot "out" names place afterName port
    match port.types with
    | [type] =>
      let types ← setType types position type
      overloadOutputs spot names (place + 1) (afterName || port.name.isSome) types rest
    | _ =>
      let shown := port.name.getD "None"
      report .general port.spot s!"Results must not be ambiguous for out port '{shown}'"

/-- The input types with those of a choice. -/
def overloadInputs (spot : Tree) (names : List String) :
    Nat → Bool → List String → List (OverloadPort × String) → Elaborating (List String)
  | _, _, types, [] => return types
  | place, afterName, types, (port, type) :: rest => do
    let position ← portPosition spot "in" names place afterName port
    let types ← setType types position type
    overloadInputs spot names (place + 1) (afterName || port.name.isSome) types rest

/-- All choices of one type for each port, the last port changing fastest. -/
def choices : List OverloadPort → List (List (OverloadPort × String))
  | [] => [[]]
  | port :: rest =>
    port.types.flatMap fun type => (choices rest).map fun choice => (port, type) :: choice

/-- Stores one overload with the function or the operator. -/
def storeOverload (overloaded : Overloadable) (typesIn typesOut : List String) :
    Elaborating Unit := do
  if overloaded.isFunction then
    let outputs ← (typesOut.mapM PortType.ofName : Except Fault (List PortType))
    modifyThe Session fun session =>
      match session.functions.get? overloaded.name with
      | some function =>
        { session with
          functions := session.functions.insert overloaded.name
            (function.setOverload typesIn outputs) }
      | none => session
  else
    registering (Overload.changeRegistry fun registry =>
      match registry.operators.get? overloaded.name with
      | some operator =>
        registry.setOperator overloaded.name
          { operator with
            overloads := operator.overloads.insert (Overload.keyOf typesIn) typesOut }
      | none => registry)

/-- Stores an overload for each choice.  A type that was set for one choice stays for those after
it. -/
def storeChoices (spot : Tree) (overloaded : Overloadable) (typesOut : List String) :
    List String → List (List (OverloadPort × String)) → Elaborating Unit
  | _, [] => return ()
  | typesIn, choice :: rest => do
    let typesIn ← overloadInputs spot overloaded.namesIn 0 false typesIn choice
    storeOverload overloaded typesIn typesOut
    storeChoices spot overloaded typesOut typesIn rest

/-- An overload: it can leave out the last ports, but cannot add any. -/
def overloadPorts (spot inputSpot resultSpot : Tree) (name : String)
    (inputs outputs : List OverloadPort) : Elaborating Unit := do
  let overloaded ← overloadable spot name
  match outputs with
  | first :: _ =>
    if overloaded.namesOut.isEmpty then
      report .general first.spot
        s!"Operator/compound '{overloaded.name}()' does not return anything"
  | [] => pure ()
  if inputs.length > overloaded.namesIn.length then
    report .general inputSpot (s!"Cant overload operator '{overloaded.name}()' with different " ++
      s!"in port count: {overloaded.namesIn.length}")
  if outputs.length > overloaded.namesOut.length then
    report .general resultSpot (s!"Cant overload operator '{overloaded.name}()' with different " ++
      s!"out port count: {overloaded.namesOut.length}")
  let typesOut ← overloadOutputs spot overloaded.namesOut 0 false overloaded.typesOut outputs
  storeChoices spot overloaded typesOut overloaded.typesIn (choices inputs)

/-! ## Functions -/

/-- A function, with the overload that its own header is. -/
def function (nameSpot : Tree) (name : String) (written : Syntax.Block) : Elaborating Unit := do
  if (← getThe Session).functions.contains name then
    report .name nameSpot s!"Function '{name} already defined!"
  let body ← block written
  let function : Function := ⟨body, []⟩
  let inputs := function.parameters.map fun parameter => parameter.type.name
  let outputs := function.results.map Program.Result.type
  modifyThe Session fun session =>
    { session with functions := session.functions.insert name ⟨body, [(inputs, outputs)]⟩ }

/-! ## Imports -/

def startsName (letter : Char) : Bool :=
  letter == '_' || ('a' ≤ letter && letter ≤ 'z') || ('A' ≤ letter && letter ≤ 'Z')

def continuesName (letter : Char) : Bool := startsName letter || ('0' ≤ letter && letter ≤ '9')

def isName (text : String) : Bool :=
  match text.toList with
  | first :: rest => startsName first && rest.all continuesName
  | [] => false

def betweenColons : Nat → List Char → List (List Char)
  | 0, text => [text]
  | fuel + 1, text =>
    match Text.splitFirst [':', ':'] text with
    | some (front, back) => front :: betweenColons fuel back
    | none => [text]

/-- Whether a text is a name, or names with double colons between them. -/
def isNamespace (text : String) : Bool :=
  (betweenColons text.length text.toList).all fun part => isName (String.ofList part)

/-- The folders that an import is searched in, as paths with the path to follow from them. -/
def importCandidates (around : Surroundings) (source : Source) (path : String) : List Path :=
  if Text.holds ":" path || Text.startsWith "/" path then
    [Path.follow [Files.workingFolder] path]
  else
    let start := if Text.startsWith around.files.root source.path then [] else [Files.workingFolder]
    Path.follow start (source.path ++ "/" ++ path) ::
      around.searchPath.map fun folder =>
        if folder == "" then Path.follow [] path else Path.follow [] (folder ++ "/" ++ path)

/-- The namespace of the functions of a file: the given one, or the name of the file. -/
def importNamespace (spot : Tree) (path : String) (given : Option (Tree × String × Bool)) :
    Elaborating String := do
  match given with
  | none => return Text.before "." (Path.lastName path)
  | some (nameSpot, raw, isText) =>
    let name ← if isText then unquoted nameSpot raw else pure raw
    if isNamespace name then return name
    else report .name spot s!"Invalid namespace name '{name}'"

def takeFunctions (space : String) (functions : Table Function) : Elaborating Unit :=
  modifyThe Session fun session =>
    { session with
      functions := session.functions.insertAll
        (functions.entries.map fun entry => (space ++ "::" ++ entry.1, entry.2)) }

/-- Runs the first file that an import leads to, and takes over its functions. -/
def importScript (around : Surroundings) (run : Path → Elaborating (Table Function))
    (spot pathSpot : Tree)
    (rawPath : String) (given : Option (Tree × String × Bool)) : Elaborating Unit := do
  let path ← unquoted pathSpot rawPath
  let source := (← getThe Session).source
  match (importCandidates around source path).find? fun candidate =>
      (around.files.find? candidate).isSome with
  | none => report .name spot s!"Could not find a '{path}' to import"
  | some found =>
    let space ← importNamespace spot path given
    takeFunctions space (← run found)

/-! ## The top level -/

def exec (around : Surroundings) (run : Path → Elaborating (Table Function)) :
    Exec → Elaborating (Option Term)
  | .block written => return some (← block written)
  | .function nameSpot name written => do
    function nameSpot name written
    return none
  | .overload spot inputSpot resultSpot name inputs outputs => do
    overloadPorts spot inputSpot resultSpot name inputs outputs
    return none
  | .importing spot pathSpot rawPath given => do
    importScript around run spot pathSpot rawPath given
    return none

def execs (around : Surroundings) (run : Path → Elaborating (Table Function)) :
    List Exec → Elaborating (List (Option Term))
  | [] => return []
  | written :: rest => do
    let first ← exec around run written
    return first :: (← execs around run rest)

/-- The results of a script: all compounds, or nothing in place of a single other entry. -/
def resultsOf : List (Option Term) → List (Option Term)
  | [only] => [only]
  | entries => entries.filter Option.isSome

/-- Runs a script.  Functions and variables of an earlier run are gone, but not the overloads of
operators. -/
def runSource (around : Surroundings) (run : Path → Elaborating (Table Function))
    (source : Source) : Elaborating (List (Option Term)) := do
  modifyThe Session fun session =>
    { session with source := source, functions := {}, scopes := Scopes.start, loops := 0 }
  let tree ← registering (Overload.withLog (Language.parse Language.table source))
  match Syntax.ofTree? tree with
  | none => throw (.unsupported "")
  | some written => return resultsOf (← execs around run written)

def sourceAt (around : Surroundings) (start path : Path) : Except Fault Source := do
  let text ← around.files.read start path
  return ⟨path.text, text.toList, around.asAddress⟩

/-- Runs the script at a path and gives its functions.  The depth bounds nested imports. -/
def runImport (around : Surroundings) : Nat → Path → Elaborating (Table Function)
  | 0, _ => throw (.accident .tooDeep)
  | depth + 1, path => do
    let before ← getThe Session
    let source ← sourceAt around path path
    let _ ← runSource around (runImport around depth) source
    let after ← getThe Session
    set { before with desk := after.desk, nextId := after.nextId }
    return after.functions

/-- The depth that nested imports cannot pass without a file importing itself. -/
def Surroundings.depth (around : Surroundings) : Nat := around.files.entries.length + 1

def runScript (around : Surroundings) (source : Source) : Elaborating (List (Option Term)) :=
  runSource around (runImport around around.depth) source

/-- Runs a script that is given as text, or, for a text of one line, as the path of a file. -/
def runText (around : Surroundings) (text : String) : Elaborating (List (Option Term)) := do
  if text.toList.contains '\n' then
    runScript around ⟨"<input>", text.toList, around.asAddress⟩
  else
    let start : Path := [Files.scriptFolder]
    let source ← sourceAt around start (Path.follow start text)
    runScript around source

/-- Runs the script at a path of the host. -/
def runFile (around : Surroundings) (path : String) : Elaborating (List (Option Term)) := do
  let start : Path := [around.files.root]
  let source ← sourceAt around start (Path.follow start path)
  runScript around source

/-- The session before any script is run. -/
def Session.start (registry : Overload.Registry) : Session where
  desk := ⟨registry, #[]⟩
  nextId := 0
  source := ⟨"", [], false⟩
  functions := {}
  scopes := Scopes.start
  loops := 0

end GraphScript.Elaboration
