import GraphScript.Elaboration.Call

/-!
# Expressions

Elaborating an expression settles its names and types.  The parts of an expression are elaborated
from left to right.  The front of a chain of accesses is elaborated once for every way in which the
chain can be split, so calls inside it can print several times; only the last round counts.
-/

namespace GraphScript.Elaboration

open GraphScript.Language (Tree)
open Program (Term Terminals)
open Syntax (Expr Flags OperatorKind)

/-! ## Leaves -/

def terminals (flags : Flags) : Elaborating Terminals := do
  match flags.written with
  | none => return none
  | some none => return some []
  | some (some word) =>
    let letters := (word.toList.map fun letter => String.ofList [letter.toUpper]).eraseDups
    if letters.all ["F", "P", "D"].contains then return some (Text.sorted letters)
    else report .type flags.spot "Invalid terminal flags. Use any combination of F, P, and D"

/-- The text between its quotes, which have to be the same. -/
def unquoted (spot : Tree) (raw : String) : Elaborating String := do
  match raw.toList.head?, raw.toList.getLast? with
  | some first, some last =>
    if first == last then return Text.dropEnd 1 (Text.dropStart 1 raw)
    else
      let quote := String.ofList [first]
      report .form spot s!"Missing end of string: {quote}"
  | _, _ => throw .badIndex

def literal (value : Program.Literal) (type : String) : Elaborating Term := do
  let type ← PortType.ofName type
  fresh (.value value type)

def number (type letters raw : String) : Elaborating Term := do
  let digits := String.ofList (Text.trimWhere letters.toList.contains raw.toList)
  if type == "float" || type == "double" then
    literal (.fraction (← orFault .badValue (Numeral.readBinary64? digits))) type
  else literal (.whole (← orFault .badValue (Numeral.readInt? digits))) type

def readVariable (spot : Tree) (name : String) : Elaborating Term := do
  match ← typeOf? name with
  | none =>
    if name == "max_iterations" then
      report .general spot
        "Variable 'max_iterations' only available in loops with max iterations setting"
    else report .general spot s!"Variable '{name}' referenced before assignment"
  | some type =>
    if ← isResult name then report .general spot s!"Cant read '{name}' output variable"
    fresh (.reference name type)

def readIndex (spot : Tree) : Elaborating Term := do
  match ← typeOf? "#" with
  | none => report .general spot "'Current index' (#) only available within loop scopes"
  | some type => fresh (.reference "#" type)

def enumerationValue (raw : String) : Elaborating Term := do
  let space := Text.beforeLast "." raw
  let type ← PortType.ofName ((Catalogue.expand? space).getD space)
  fresh (.enumeration (Text.afterLast "." raw) type)

/-! ## Operators -/

def typesOf : List Term → Except Fault (List PortType)
  | [] => .ok []
  | term :: rest => do
    let type ← term.type
    return type :: (← typesOf rest)

def binaryType (kind : OperatorKind) (operator : String) (left right : Term) :
    Verdict PortType := do
  let left ← operandType left
  let right ← operandType right
  match kind with
  | .logic => Typing.logic operator left right
  | .math | .power => Typing.arithmetic true operator left right

def chainTypes : List String → List Term → Verdict (List PortType)
  | operator :: operators, left :: right :: rest => do
    let leftType ← operandType left
    let rightType ← operandType right
    let type ← Typing.comparison operator leftType rightType
    return type :: (← chainTypes operators (right :: rest))
  | _, _ => return []

def conjunctionType (first : PortType) : List PortType → Verdict PortType
  | [] => return first
  | next :: rest => do conjunctionType (← Typing.logic "&&" first next) rest

def comparisonType (operators : List String) (operands : List Term) : Verdict PortType := do
  match ← chainTypes operators operands with
  | [] => throwThe Fault .badIndex
  | first :: rest => conjunctionType first rest

def invert (spot : Tree) (value : Term) : Elaborating Term := do
  let type ← value.type
  let counted := Typing.firstPortType type
  if !(← (← (← counted.baseType).baseType).isBool) then
    report .type spot s!"Cannot invert type '{type.name}'"
  fresh (.not type value)

def negateLiteral : Program.Literal → Except Fault Program.Literal
  | .whole value => .ok (.whole (-value))
  | .fraction value => .ok (.fraction value.neg)
  | _ => .error .badOperand

/-- The negative of a value; that of a literal is a literal. -/
def negate (spot : Tree) (value : Term) : Elaborating Term := do
  let type ← value.type
  let numeric ← (← (← type.baseType).baseType).isNumeric
  match numeric, value.form with
  | true, .value literal _ =>
    let negative ← negateLiteral literal
    fresh (.value negative type)
  | _, _ =>
    match ← Typing.negation type with
    | none => report .type spot s!"Cant negate value of type '{type.name}'"
    | some negative => fresh (.negate negative value)

def unary (spot : Tree) (operator : String) (value : Term) : Elaborating Term :=
  match operator with
  | "+" => return value
  | "!" => invert spot value
  | "-" => negate spot value
  | _ => throw (.unsupported s!"Unknown operator: '{operator}'")

/-! ## Aggregates -/

def checkKey (spot : Tree) (key : Term) : Elaborating Unit := do
  let type ← key.type
  let valid :=
    if type.isNode then
      match type.ports.getD [] with
      | [(_, port)] => port.name == "string"
      | _ => false
    else type.name == "string"
  if !valid then report .type spot s!"Key must be of type 'string', not '{type.name}'"

def checkEntryValue (spot : Tree) (value : Term) : Elaborating Unit := do
  let type ← value.type
  if type.isNode && (type.ports.getD []).length != 1 then
    report .type spot "Values of type 'NODE' cannot be used in OBJECTs"

/-- An array of a type with default values. -/
def emptyArray (spot : Tree) (type : String) (count : Option Term) : Elaborating Term := do
  if Text.occurrences '<' type > 2 then report .type spot "Max array dimension is 3"
  let element ← PortType.ofName type
  let count ← match count with
    | some count => pure count
    | none => literal (.whole 0) "long"
  fresh (.emptyArray element count)

/-- The letters after a closing bracket. -/
def hint (closing : String) : String := String.ofList ((closing.toList.drop 1).map Char.toLower)

/-! ## Parts of values -/

def checkBoundType (spot : Tree) (value : Term) : Elaborating Unit := do
  let type ← value.type
  if type.isArray then report .type spot "Slice value cannot be array"
  if ← type.isFraction <||> type.isVector <||> type.isMatrix then
    report .type spot "Slice value bust be integer scalar"

def checkBounds : List (Option (Tree × Term)) → Elaborating Unit
  | [] => return ()
  | none :: rest => checkBounds rest
  | some (spot, value) :: rest => do
    checkBoundType spot value
    checkBounds rest

def accessPart (spot : Tree) (value : Term) (accessor : Program.Accessor) : Elaborating Term := do
  let type := (← value.type).onlyPort
  match accessor with
  | .index _ _ | .slice _ _ _ =>
    let access := (← accessor.type).onlyPort
    if type.name == "Object" then
      report .run spot "Use object[key, type_or_value] to access an Object!"
    if !(type.isArray || type.name == "string") then
      report .run spot "Can only access 'array<?>' or 'string' via expression!"
    if !(← access.isInteger) then
      report .type spot s!"Index must be integer type. Got '{access.name}'"
  | .orDefault _ _ _ _ =>
    if type.name != "Object" then
      report .run spot "Can only access Object with default value/type"
  | .member path =>
    if !type.hasMember path then
      let shown ← type.elementType
      report .type spot s!"Type '{shown.name}' has no accessor '{path}'"
  fresh (.access value accessor)

/-- Reaches parts of a value one after the other. -/
def accessParts (spot : Tree) (value : Term) : List Program.Accessor → Elaborating Term
  | [] => return value
  | accessor :: rest => do accessParts spot (← accessPart spot value accessor) rest

def portOf (spot : Tree) (holder : Option String) (node : Term) (port : String) :
    Elaborating Term := do
  let type ← node.type
  if !type.isNode then
    report .type spot s!"Need 'NODE' type to access port, got '{type.name}'"
  let names := (← node.outputs).map Prod.fst
  if !names.contains port then
    report .name spot s!"invalid port: '{port}'. Available: {Text.quotedList names}"
  fresh (.port holder node port)

def portOfName (spot : Tree) (name port : String) : Elaborating Term := do
  match ← typeOf? name with
  | none => report .name spot s!"Variable '{name}' referenced before assignment"
  | some type =>
    if !type.isNode then
      report .type spot
        s!"Cant access port with '->' on type '{type.name}'. To access a member, use '.'"
    match ← nodeOf? name with
    | none => throw .missingMember
    | some node => portOf spot (some name) node port

/-- Splits the arguments of a call, once all are known. -/
def splitArguments (listSpot : Tree) (given : List Given) : Elaborating (List Given × List Given) :=
  match splitNamed given with
  | some split => return split
  | none => report .form listSpot "Python rules! Positional arguments cant follow keyword arguments"

/-! ## The recursion -/

mutual

/-- Checks an expression, and gives its term. -/
def expression : Expr → Elaborating Term
  | .text spot raw => do
    let text ← unquoted spot raw
    literal (.text text) "string"
  | .index spot => readIndex spot
  | .truth value => literal (.whole (if value then 1 else 0)) "bool"
  | .number type letters raw => number type letters raw
  | .name spot name => readVariable spot name
  | .enumeration raw => enumerationValue raw
  | .vector spot values closing => do
    let values ← expressions values
    let component ← PortType.ofName (Typing.componentOfHint (hint closing))
    let type ← judged spot (Typing.vector component (← typesOf values))
    fresh (.vector component type values)
  | .matrix spot columns closing => do
    let columns ← columnExpressions columns
    let component ← PortType.ofName (Typing.componentOfHint (hint closing))
    let types ← (columns.mapM typesOf : Except Fault (List (List PortType)))
    let type ← judged spot (Typing.matrix component types)
    fresh (.matrix component type columns)
  | .array spot values => do
    let values ← expressions values
    let element ← judged spot (Typing.arrayElement (← typesOf values))
    fresh (.array element values)
  | .emptyArray spot type count => do
    let count ← optionalExpression count
    emptyArray spot type count
  | .object entries => do
    let entries ← entryTerms entries
    fresh (.object entries)
  | .call written => call written
  | .access spot base chain => do
    let value ← expression base
    let accessors ← visitChain chain
    accessParts spot value accessors
  | .portOfName spot name port => portOfName spot name port
  | .portOfCall spot written port => do
    let node ← call written
    portOf spot none node port
  | .unary spot operator value => do
    let value ← expression value
    unary spot operator value
  | .binary spot kind operator left right => do
    let left ← expression left
    let right ← expression right
    let type ← judged spot (binaryType kind operator left right)
    fresh (.binary kind operator type left right)
  | .comparison spot operators operands => do
    let operands ← expressions operands
    let type ← judged spot (comparisonType operators operands)
    fresh (.comparison operators type operands)

def expressions : List Expr → Elaborating (List Term)
  | [] => return []
  | expr :: rest => do
    let term ← expression expr
    return term :: (← expressions rest)

def columnExpressions : List (List Expr) → Elaborating (List (List Term))
  | [] => return []
  | column :: rest => do
    let terms ← expressions column
    return terms :: (← columnExpressions rest)

/-- Elaborates an expression that may be missing. -/
def optionalExpression : Option Expr → Elaborating (Option Term)
  | none => return none
  | some expr => return some (← expression expr)

def entryTerms : List Syntax.Entry → Elaborating (List Program.Entry)
  | [] => return []
  | .mk key value keySpot valueSpot :: rest => do
    let key ← expression key
    let value ← expression value
    checkKey keySpot key
    checkEntryValue valueSpot value
    return .mk key value :: (← entryTerms rest)

/-- Elaborates a chain of accesses, with its front elaborated twice ahead. -/
def visitChain : Syntax.Chain → Elaborating (List Program.Accessor)
  | .one written => return [← accessor written]
  | .more front written => do
    let _ ← visitChain front
    let _ ← accessor written
    let _ ← visitChain front
    let _ ← accessor written
    let accessors ← collectChain front
    return accessors ++ [← accessor written]

/-- Elaborates the front of a chain of accesses, with its own front elaborated once ahead. -/
def collectChain : Syntax.Chain → Elaborating (List Program.Accessor)
  | .one written => return [← accessor written]
  | .more front written => do
    let _ ← visitChain front
    let _ ← accessor written
    let accessors ← collectChain front
    return accessors ++ [← accessor written]

def accessor : Syntax.Accessor → Elaborating Program.Accessor
  | .index value => do
    let value ← expression value
    let _ ← value.type
    return .index (← freshId) value
  | .slice start stop step => do
    let start ← bound start
    let stop ← bound stop
    let step ← bound step
    checkBounds [start, stop, step]
    return .slice (start.map Prod.snd) (stop.map Prod.snd) (step.map Prod.snd)
  | .orDefault spot key default => do
    let key ← expression key
    let default ← passed default
    let type ← key.type
    if type.name != "string" then
      report .type spot s!"Key must be of type 'string', not '{type.name}'"
    match default with
    | .inl name =>
      let type ← PortType.ofName name
      return .orDefault (← freshId) key type none
    | .inr value =>
      let type ← value.type
      return .orDefault (← freshId) key type (some value)
  | .member path => return .member path

def bound : Option Syntax.Bound → Elaborating (Option (Tree × Term))
  | none => return none
  | some (.mk spot value) => return some (spot, ← expression value)

/-- Elaborates what is passed: the name of a type, or a value. -/
def passed : Syntax.Passed → Elaborating (String ⊕ Term)
  | .value value => return .inr (← expression value)
  | .type name => return .inl name

/-- Checks a call, with its arguments. -/
def call : Syntax.Call → Elaborating Term
  | .operator spot nameSpot name flags listSpot arguments => do
    let flags ← terminals flags
    let given ← givenArguments arguments
    let (positional, named) ← splitArguments listSpot given
    callNamed spot nameSpot name flags positional named
  | .construct spot type listSpot arguments => do
    let given ← givenArguments arguments
    let (positional, named) ← splitArguments listSpot given
    construct spot type positional named

def givenArguments : List Syntax.Argument → Elaborating (List Given)
  | [] => return []
  | .mk spot name value :: rest => do
    let value ← match ← passed value with
      | .inl type => literal .none type
      | .inr value => pure value
    let type ← value.type
    return ⟨spot, .mk name value, type⟩ :: (← givenArguments rest)

end

end GraphScript.Elaboration
