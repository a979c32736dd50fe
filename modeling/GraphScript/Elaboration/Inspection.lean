import GraphScript.Elaboration.Session

/-!
# Inspecting a script from within

Calls of names that start with `__debug::` print what is known at their place: types of values,
ports of nodes, parameters of functions, and the contents of namespaces.  The printed text is also
the value of the call.
-/

namespace GraphScript.Elaboration

open GraphScript.Language (Tree)
open Program (Term Literal)

/-- What can be inspected. -/
inductive Inspection where
  | types
  | outputs
  | inputs
  | contents
  deriving DecidableEq

namespace Inspection

def words : List (String × Inspection) :=
  [("type", .types), ("outputs", .outputs), ("inputs", .inputs), ("dir", .contents)]

def ofWord? (word : String) : Option Inspection := words.lookup word

end Inspection

def signature (entries : List (String × String)) : String :=
  ", ".intercalate (entries.map fun entry => s!"{entry.1}: {entry.2}")

def inBraces (entries : List (String × String)) : String := "\x7b" ++ signature entries ++ "\x7d"

def typeNames (ports : List (String × PortType)) : List (String × String) :=
  ports.map fun port => (port.1, port.2.name)

def labelled (given : Given) (text : String) : String :=
  match given.argument.name with
  | some name => s!"{name}={text}"
  | none => text

def inspectTypes (positional named : List Given) : String :=
  ", ".intercalate ((positional ++ named).map fun given => labelled given given.type.name)

def shownPorts (given : Given) : String :=
  if given.type.isNode then inBraces (typeNames (given.type.ports.getD [])) else "<not a NODE>"

def shownOutputs (given : Given) : Except Fault String := do
  if given.type.isNode then
    return labelled given (inBraces (typeNames (← given.argument.value.outputs)))
  return labelled given "<not a NODE>"

def inspectOutputs (positional named : List Given) : Except Fault String := do
  let named ← named.mapM shownOutputs
  return ", ".intercalate (positional.map shownPorts ++ named)

def literal? (term : Term) : Option Literal :=
  match term.form with
  | .value literal _ => some literal
  | _ => none

/-- The text of a literal; anything else cannot be read as one. -/
def literalText : Literal → Except Fault String
  | .text text => .ok text
  | _ => .error .badOperand

/-- The parameters of a function of the session, by a possibly shortened name. -/
def functionInputs? (name : String) : Elaborating (Option (List (String × String))) := do
  return ((← getThe Session).functions.lookup? name).map fun function =>
    function.parameters.map fun parameter => (parameter.name, parameter.type.name)

/-- The input ports of an operator, by a possibly shortened name. -/
def operatorInputs? (name : String) : Elaborating (Option (List (String × String))) := do
  let registry ← registry
  match registry.fullName? name with
  | none => return none
  | some _ =>
    let (names, _) ← registry.portNames name
    let (types, _) ← registry.portTypes name
    return some (names.zip types)

def inspectInputs (spot : Tree) : List Given → Elaborating (List String)
  | [] => return []
  | given :: rest => do
    match literal? given.argument.value with
    | none => report .type spot "Function name must be passed directly as string"
    | some literal =>
      if !(← given.type.isString) then
        report .type spot "Function name must be passed directly as string"
      let name ← literalText literal
      let shown ← do
        match ← functionInputs? name with
        | some inputs => pure (inBraces inputs)
        | none =>
          match ← operatorInputs? name with
          | some inputs => pure (inBraces inputs)
          | none => pure "<not a known function>"
      return s!"{name}={shown}" :: (← inspectInputs spot rest)

/-- The settings for listing a namespace. -/
structure Listing where
  operators : Bool := true
  functions : Bool := true
  byLines : Bool := true
  nested : Bool := false

def Listing.isOn : Literal → Bool
  | .whole value => value != 0
  | .fraction value => !value.isZero
  | .text text => text != ""
  | .none => false

def readListing (spot : Tree) (listing : Listing) : List Given → Elaborating Listing
  | [] => return listing
  | given :: rest => do
    if !(["bifrost", "custom", "newline", "nested"].contains given.name) then
      report .type spot s!"Unknown kwarg: '{given.name}'"
    match literal? given.argument.value, given.type.name == "bool" with
    | some literal, true =>
      let on := Listing.isOn literal
      readListing spot
        (match given.name with
          | "bifrost" => { listing with operators := on }
          | "custom" => { listing with functions := on }
          | "newline" => { listing with byLines := on }
          | _ => { listing with nested := on }) rest
    | _, _ => report .type spot "Values must be passed directly as bool (true/false)"

def namespaceMarks (name : String) : Nat :=
  if Text.holds "::" name then 1 + namespaceMarksAfter (Text.after "::" name)
    (Text.width name) else 0
where
  /-- The number of marks, for a name of at most the given width. -/
  namespaceMarksAfter (name : String) : Nat → Nat
    | 0 => 0
    | width + 1 =>
      if Text.holds "::" name then 1 + namespaceMarksAfter (Text.after "::" name) width else 0

/-- A name with its signature, and where it comes from. -/
def signatureLine (name : String) (inputs outputs : List (String × String)) (origin : String) :
    String :=
  let results := signature outputs
  let results := if results == "" then "" else s!" => {results}"
  s!"{name}({signature inputs}{results}) ({origin})"

/-- The part of a name after its first namespace, or the fault of a name without namespace. -/
def secondPart (name : String) : Except Fault String :=
  if Text.holds "::" name then .ok (Text.before "::" (Text.after "::" name)) else .error .badIndex

/-- Whether a name is shown with its signature below a namespace. -/
def Listing.isShown (listing : Listing) (space name : String) : Bool :=
  listing.nested || namespaceMarks name == namespaceMarks space + 1

def operatorLine? (listing : Listing) (space name : String) : Elaborating (Option String) := do
  let everything := space == "*"
  if everything || Text.startsWith s!"{space}::" name || name == space then
    if listing.isShown space name then
      let registry ← registry
      let (namesIn, namesOut) ← registry.portNames name
      let (typesIn, typesOut) ← registry.portTypes name
      return some (signatureLine name (namesIn.zip typesIn) (namesOut.zip typesOut) "bifrost")
    else if everything then
      let front := Text.before "::" name
      return some s!"{front}::* (bifrost)"
    else
      let second ← secondPart name
      return some s!"{space}::{second}::* (bifrost)"
  else return none

def functionLine? (listing : Listing) (space name : String) (function : Function) :
    Except Fault (Option String) := do
  let everything := space == "*"
  if everything || Text.startsWith s!"{space}::" name then
    if listing.isShown space name then
      let inputs := function.parameters.map fun parameter => (parameter.name, parameter.type.name)
      let outputs := function.results.map fun result => (result.name, result.type.name)
      return some (signatureLine name inputs outputs "custom")
    else if everything then
      let front := Text.before "::" name
      return some s!"{front}::* (custom)"
    else
      let second ← secondPart name
      return some s!"{space}::{second}::*"
  else return none

def operatorLines (listing : Listing) (space : String) : List String → Elaborating (List String)
  | [] => return []
  | name :: rest => do
    let line ← operatorLine? listing space name
    return line.toList ++ (← operatorLines listing space rest)

def functionLines (listing : Listing) (space : String) :
    List (String × Function) → Except Fault (List String)
  | [] => .ok []
  | (name, function) :: rest => do
    let line ← functionLine? listing space name function
    return line.toList ++ (← functionLines listing space rest)

def listNamespace (listing : Listing) (space : String) : Elaborating String := do
  let registry ← registry
  let session ← getThe Session
  let names := if listing.operators then registry.operators.keys else []
  let operators ← operatorLines listing space names
  let known := if listing.functions then session.functions.entries else []
  let functions ← functionLines listing space known
  let separator := if listing.byLines then "\n    " else ", "
  let lines := Text.sorted (operators ++ functions).eraseDups
  return space ++ separator ++ separator.intercalate lines

/-- Lists the namespaces that the arguments name, and gives the text of the last. -/
def inspectContents (spot : Tree) (listing : Listing) (last : String) :
    List Given → Elaborating String
  | [] => return last
  | given :: rest => do
    match literal? given.argument.value, given.type.name == "string" with
    | some literal, true =>
      let text ← listNamespace listing (← literalText literal)
      printAt spot text
      inspectContents spot listing text rest
    | _, _ => report .type spot "Namespace name must be passed directly as string"

def inspect (spot : Tree) (word : String) (positional named : List Given) : Elaborating String := do
  let start := s!"__debug::{word}("
  let finish (shown : String) : Elaborating String := do
    let text := start ++ shown ++ ")"
    printAt spot text
    return text
  match Inspection.ofWord? word with
  | none =>
    let words := Text.quotedList (Inspection.words.map Prod.fst)
    report .name spot s!"Unknown debug function: '{word}'. Chose from {words}"
  | some .types => finish (inspectTypes positional named)
  | some .outputs => finish (← inspectOutputs positional named)
  | some .inputs => finish (", ".intercalate (← inspectInputs spot (positional ++ named)))
  | some .contents =>
    let listing ← readListing spot {} named
    if !listing.operators && !listing.functions then
      report .type spot "Must query at least one of: ['custom', 'bifrost']"
    inspectContents spot listing start positional

end GraphScript.Elaboration
