import GraphScript.Proofs.Graph.Constants
import GraphScript.Proofs.Graph.Variables
import GraphScript.Emission.Term

/-!
# Rehearsing the emission of a program

A rehearsal decides from a program, the names of the variables and the operators in the registry
whether the program can be built.  It creates no nodes, keeps no values and does not ask which terms
were built before.
-/

namespace GraphScript.Emission

open GraphScript.Graph Program
open Syntax (OperatorKind)

/-! ## Single steps -/

/-- Stops unless something holds. -/
def demand (holds : Bool) : Except Fault Unit := if holds then .ok () else .error .badValue

def carried (type : PortType) : Except Fault PortType :=
  if type.isNode then do return (← firstPort type).2 else .ok type

/-- The type of the port that carries the value of a form. -/
def carriedBy (form : Form) : Except Fault PortType := do carried (← form.type)

/-- A term that makes a node has an output port. -/
def hasOutput (term : Term) : Except Fault Unit := do
  if (← term.type).isNode then demand !(← term.outputs).isEmpty

/-- A truth value can go to a port of a wanted type. -/
def truthFits (type : PortType) (wanted : Except Fault PortType) : Except Fault Unit := do
  if ← isTruthType type then discard (isTruthType (← wanted))

/-- Whether a constant can be built. -/
def literalFits (type : PortType) : Literal → Bool
  | .none => namesPort type.name
  | .text _ => true
  | _ => constantFits type.name

/-- Whether an operator has a node. -/
def isOperator (operator : String) : Bool :=
  ["+", "-", "*", "/", "%", "**", "==", "!=", ">=", "<=", ">", "<", "&&", "||",
    "^"].contains operator

def isComparison (operator : String) : Bool := ["==", "!=", ">=", "<=", ">", "<"].contains operator

/-- How many values the targets of an assignment get. -/
def valueCount (targetCount : Nat) (operator : String) (value : Term) : Except Fault Nat := do
  if (← value.type).isNode then
    if targetCount > 1 || operator == ":=" then return (← value.outputs).length else return 1
  else return targetCount

/-- The place of an argument that is given by name. -/
def placeOf (portNames : List String) (name : Option String) : Except Fault Nat :=
  orFault .badValue (name.bind fun name => portNames.idxOf? name)

/-- Opens the results of a compound or a loop. -/
def rehearseResults : Names → List (String × PortType) → Except Fault Names
  | names, [] => .ok names
  | names, (name, type) :: rest => do
    demand (namesPort type.name)
    rehearseResults (← names.openResult name) rest

/-- Takes over the results of a node. -/
def rehearseTakeOver : Names → Outputs → Except Fault Names
  | names, [] => .ok names
  | names, (name, _) :: rest => do rehearseTakeOver (← names.takeOver name) rest

/-! ## Terms and statements -/

variable (registry : Overload.Registry)

mutual

def rehearse (names : Names) : Term → Except Fault Unit
  | .mk _ form => rehearseForm names form
termination_by structural term => term

def rehearseValue (names : Names) : Term → Except Fault Unit
  | .mk _ form => do
    rehearseForm names form
    discard (carriedBy form)
termination_by structural term => term

def rehearseTexts (names : Names) (kind : OperatorKind) : Term → Except Fault Unit
  | .mk _ form => do
    let alone := rehearseForm names form
    match form with
    | .binary inner _ type left right =>
      if joinsWith kind inner then
        if ← type.isString then
          rehearseTexts names kind left
          rehearseTexts names kind right
        else alone
      else alone
    | _ => alone
termination_by structural term => term

/-- Rehearses what a term is made of. -/
def rehearseForm (names : Names) : Form → Except Fault Unit
  | .value literal type => demand (literalFits type literal)
  | .reference name _ => demand (names.defined.contains name)
  | .vector _ type values => do
    let cast := castName (← (← type.baseType).baseType).name
    rehearseComponents names cast type 4 values
  | .matrix _ type columns => do
    let cast := castName (← (← type.baseType).baseType).name
    rehearseColumns names cast type 4 columns
  | .sheet _ type columns => do
    discard ((← type.baseType).baseType : Except Fault PortType)
    demand columns.isEmpty
  | .array element values => do
    rehearseValues names values
    demand (elementsFit values.length (← arrayOf element).name)
  | .emptyArray element count => do
    rehearseValue names count
    demand (namesSized (← arrayOf element).name)
  | .object entries => rehearseEntries names entries
  | .enumeration name type => demand (namesValue type.name name)
  | .not _ value => rehearseValue names value
  | .negate _ value => rehearseValue names value
  | .binary kind operator type left right => do
    if ← type.isString then
      rehearseTexts names kind left
      rehearseTexts names kind right
    else
      rehearse names left
      rehearse names right
      hasOutput left
      hasOutput right
      if ["&&", "||", "^"].contains operator then return
      discard (isTruthType (← left.type))
      discard (isTruthType (← right.type))
      demand (isOperator operator)
  | .comparison operators _ operands => do
    match operands with
    | [] => throw .badIndex
    | first :: rest =>
      demand (!operators.isEmpty && !rest.isEmpty)
      rehearse names first
      rehearseChain names first operators rest
  | .access value accessor => do
    rehearse names value
    let type ← value.type
    discard (carried type)
    rehearseAccess names type accessor
  | .port holder node _ => if holder.isSome then return else rehearse names node
  | .associative name portNames arguments named _ outputs => do
    demand (makesKind registry name)
    let wanted := orFault .badIndex (outputs.head?.map Prod.snd)
    rehearseCollected names wanted portNames.length arguments
    rehearseCollected names wanted (portNames.length - arguments.length) named
  | .native name arguments named _ inputTypes _ _ => do
    demand (makesKind registry name)
    let (portNames, _) ← registry.portNames name
    rehearsePositional names arguments portNames.length inputTypes
    rehearseNamed names portNames inputTypes named
  | .function _ body arguments named _ inputTypes _ _ => do
    rehearse names body
    rehearsePositional names arguments (parameterNames body).length inputTypes
    rehearseNamed names (parameterNames body) inputTypes named
  | .construct type arguments named => do
    let members := (Catalogue.members? type).getD []
    let types ← members.mapM (fun member => PortType.ofName member.2)
    rehearsePositional names arguments members.length types
    rehearseNamed names (members.map Prod.fst) types named
  | .scope _ parameters results code _ => do
    let inner ← rehearseParameters names {} parameters
    let inner ← rehearseResults inner (results.map fun result => (result.name, result.type))
    discard (rehearseStatements inner code)
  | .loop _ parameters results code limit index _ condition => do
    let inner ← rehearseLoopParameters names {} parameters
    let inner ← rehearseResults inner (results.map fun result => (result.name, result.type))
    let inner ← rehearseLimit names inner limit
    let inner ← inner.define "#"
    let inner ← rehearseIndex names inner index
    let after ← rehearseStatements inner code
    rehearseBound after condition
termination_by structural form => form

def rehearseValues (names : Names) : List Term → Except Fault Unit
  | [] => return
  | value :: rest => do
    rehearseValue names value
    rehearseValues names rest
termination_by structural terms => terms

def rehearseComponent (names : Names) (cast : String) (type : PortType) : Term → Except Fault Unit
  | .mk _ form => do
    rehearseForm names form
    let valueType ← carriedBy form
    let base ← type.baseType
    demand (valueType == base || makesKind registry ("Core::Type_Conversion::" ++ cast))
termination_by structural term => term

/-- Rehearses components, up to a number of them. -/
def rehearseComponents (names : Names) (cast : String) (type : PortType) :
    Nat → List Term → Except Fault Unit
  | count + 1, value :: rest => do
    rehearseComponent names cast type value
    rehearseComponents names cast type count rest
  | _, _ => return
termination_by structural _ terms => terms

/-- Rehearses the columns of a matrix, up to a number of them. -/
def rehearseColumns (names : Names) (cast : String) (type : PortType) :
    Nat → List (List Term) → Except Fault Unit
  | count + 1, values :: rest => do
    rehearseComponents names cast type 4 values
    rehearseColumns names cast type count rest
  | _, _ => return
termination_by structural _ columns => columns

/-- Rehearses the keys and values of an object. -/
def rehearseEntries (names : Names) : List Entry → Except Fault Unit
  | [] => return
  | .mk key value :: rest => do
    rehearseValue names key
    rehearseValue names value
    rehearseEntries names rest
termination_by structural entries => entries

/-- Rehearses the comparisons of a chain after its first operand. -/
def rehearseChain (names : Names) (operand : Term) : List String → List Term → Except Fault Unit
  | operator :: operators, next :: rest => do
    rehearse names next
    hasOutput operand
    hasOutput next
    demand (isComparison operator)
    rehearseChain names next operators rest
  | _, _ => return
termination_by structural _ terms => terms

/-- Rehearses the access to a part of a value. -/
def rehearseAccess (names : Names) (type : PortType) : Accessor → Except Fault Unit
  | .slice start stop step => do
    rehearseBound names start
    rehearseBound names stop
    rehearseBound names step
  | .index _ index =>
    if type.name == "string" then rehearse names index else rehearseValue names index
  | .orDefault _ key wanted default => do
    rehearse names key
    rehearseDefault names wanted default
  | .member _ => discard (memberHolder type)
termination_by structural accessor => accessor

def rehearseAccessor (names : Names) : Accessor → Except Fault Unit
  | .slice start stop step => do
    rehearseBound names start
    rehearseBound names stop
    rehearseBound names step
  | .index _ index => rehearseValue names index
  | .orDefault _ key wanted default => do
    rehearse names key
    rehearseDefault names wanted default
  | .member _ => throw .missingMember
termination_by structural accessor => accessor

/-- Rehearses a term that may be missing. -/
def rehearseBound (names : Names) : Option Term → Except Fault Unit
  | some term => rehearse names term
  | none => return
termination_by structural bound => bound

/-- Rehearses a default value, or the type that stands for it. -/
def rehearseDefault (names : Names) (wanted : PortType) : Option Term → Except Fault Unit
  | some term => rehearseValue names term
  | none => demand (namesPort wanted.name)
termination_by structural default => default

def rehearseArgument (names : Names) (wanted : Except Fault PortType) : Argument → Except Fault Unit
  | .mk _ value => do
    rehearse names value
    truthFits (← carriedBy value.form) wanted
termination_by structural argument => argument

/-- Rehearses arguments for ports of one type, up to a number of them. -/
def rehearseCollected (names : Names) (wanted : Except Fault PortType) :
    Nat → List Argument → Except Fault Unit
  | count + 1, argument :: rest => do
    rehearseArgument names wanted argument
    rehearseCollected names wanted count rest
  | _, _ => return
termination_by structural _ arguments => arguments

/-- Rehearses the arguments that are given in order, up to a number of them. -/
def rehearsePositional (names : Names) : List Argument → Nat → List PortType → Except Fault Unit
  | argument :: rest, count + 1, types => do
    rehearseArgument names (orFault .badIndex types.head?) argument
    rehearsePositional names rest count types.tail
  | _, _, _ => return
termination_by structural arguments => arguments

/-- Rehearses the arguments that are given by name. -/
def rehearseNamed (names : Names) (portNames : List String) (types : List PortType) :
    List Argument → Except Fault Unit
  | [] => return
  | .mk name value :: rest => do
    rehearse names value
    truthFits (← carriedBy value.form) (do orFault .badIndex types[← placeOf portNames name]?)
    discard (placeOf portNames name)
    rehearseNamed names portNames types rest
termination_by structural arguments => arguments

/-- Rehearses the parameters of a compound; their names come into `inner`. -/
def rehearseParameters (names : Names) : Names → List Parameter → Except Fault Names
  | inner, [] => return inner
  | inner, .mk name type default :: rest => do
    demand (namesPort type.name)
    let inner ← inner.define name
    rehearseBound names default
    rehearseParameters names inner rest
termination_by structural _ parameters => parameters

/-- Rehearses the parameters of a loop; without a default a variable of the same name is needed. -/
def rehearseLoopParameters (names : Names) : Names → List LoopParameter → Except Fault Names
  | inner, [] => return inner
  | inner, .mk name type default _ :: rest => do
    demand (namesPort type.name)
    let inner ← inner.define name
    match default with
    | some value => rehearse names value
    | none => demand (names.defined.contains name)
    rehearseLoopParameters names inner rest
termination_by structural _ parameters => parameters

/-- Rehearses the limit of a loop, which has a name in the loop. -/
def rehearseLimit (names inner : Names) : Option Term → Except Fault Names
  | some count => do
    let inner ← inner.define "max_iterations"
    rehearseValue names count
    return inner
  | none => return inner
termination_by structural limit => limit

def rehearseIndex (names inner : Names) : LoopIndex → Except Fault Names
  | .mk _ name start => do
    rehearse names start
    inner.define name
termination_by structural index => index

def rehearseStatements (names : Names) : List Statement → Except Fault Names
  | [] => return names
  | statement :: rest => do
    let names ← rehearseStatement names statement
    rehearseStatements names rest
termination_by structural statements => statements

def rehearseStatement (names : Names) : Statement → Except Fault Names
  | .empty => throw .missingMember
  | .make term => do
    rehearse names term
    return names
  | .assignment _ targets operator value => do
    rehearse names value
    rehearseTargets names targets (← valueCount targets.length operator value)
  | .takeOver _ node => do
    rehearse names node
    rehearseTakeOver names (← node.outputs)
termination_by structural statement => statement

/-- Rehearses the targets of an assignment, up to a number of them. -/
def rehearseTargets (names : Names) : List Target → Nat → Except Fault Names
  | target :: targets, count + 1 => do
    let names ← rehearseTarget names target
    rehearseTargets names targets count
  | _, _ => return names
termination_by structural targets => targets

def rehearseTarget (names : Names) : Target → Except Fault Names
  | .ignored => return names
  | .declared name _ => names.define name
  | .reference name _ => names.assign name
  | .part _ kind base accessor _ => do
    let type ← base.type
    match kind with
    | .member => do
      discard (memberHolder type)
      discard (orFault .missingMember accessor.memberPath?)
    | _ => do
      rehearseValue names base
      rehearseAccessor names accessor
    names.change (← variableName base)
termination_by structural target => target

end

/-- Rehearses the entries of a script; an entry without a term cannot be built. -/
def rehearseEach : List (Option Term) → Except Fault Unit
  | [] => .ok ()
  | none :: _ => .error .missingMember
  | some term :: rest => do
    rehearse registry {} term
    rehearseEach rest

end GraphScript.Emission
