import GraphScript.PortType.Join
import GraphScript.Text.Quoted

/-!
# Typing of operators

The type of an arithmetic, comparing, logical or negating operation follows from the types of its
operands.  Numbers join, fields stay fields, texts can be added, and an array on either side makes
the result an array.
-/

/-! ## Verdicts -/

namespace GraphScript

/-- A result of typing: a value, a rejection with a message, or a fault. -/
abbrev Verdict (α : Type) : Type := ExceptT String (Except Fault) α

namespace Verdict

def reject {α : Type} (message : String) : Verdict α := throw message

/-- The verdict as data: a fault, or a rejection, or a value. -/
def outcome {α : Type} (verdict : Verdict α) : Except Fault (Except String α) := verdict.run

def orElseFault {α : Type} (fault : Fault) (verdict : Verdict α) : Except Fault α := do
  match ← verdict.run with
  | .ok value => return value
  | .error _ => throw fault

end Verdict

namespace PortType

/-- The type that a node stands for as an operand: that of its only port. -/
def operandType (type : PortType) : Verdict PortType :=
  if type.isNode then
    match type.ports.getD [] with
    | [(_, port)] => pure port
    | ports =>
      let names := Text.quotedList (ports.map Prod.fst)
      Verdict.reject s!"Too many ports on node (names unknown): {names}"
  else pure type

end PortType

end GraphScript

/-! ## Types of operations -/

namespace GraphScript.Typing

open PortType

def typeInArrays (levels : Nat) (name : String) : Except Fault PortType :=
  ofName (arrayName levels name)

/-- The type of an arithmetic operation on two operands.  Texts can be added where `withText` is
set. -/
def arithmetic (withText : Bool) (operator : String) (left right : PortType) :
    Verdict PortType := do
  if left.arrayDim != 0 && right.arrayDim != 0 && left.arrayDim != right.arrayDim then
    Verdict.reject "Array dimensions missmatch"
  let levels := if left.arrayDim != 0 then left.arrayDim else right.arrayDim
  let leftElement ← left.elementType
  let rightElement ← right.elementType
  if withText && operator == "+" then
    if ← leftElement.isString <&&> rightElement.isString then
      return ← typeInArrays levels "string"
  if ← leftElement.isField <||> rightElement.isField then
    if ← leftElement.isField <&&> rightElement.isField then
      if Text.holds "VectorField" leftElement.name ||
        Text.holds "VectorField" rightElement.name then
        return ← typeInArrays levels "Core::Fields::VectorField"
      return ← typeInArrays levels "Core::Fields::ScalarField"
    Verdict.reject s!"Operation '{operator}' unsupported between '{left.name}' and '{right.name}'"
  if ← left.isNumeric <&&> right.isNumeric then
    return ← join false left right
  if left.isArray && right.isArray then
    if left.arrayDim != right.arrayDim then
      Verdict.reject "Array dimensions missmatch"
    let element ← join false (← left.baseType) (← right.baseType)
    return ← typeInArrays left.arrayDim element.name
  if left.isArray || right.isArray then
    if ← left.isNumeric <||> right.isNumeric then
      let (array, number) := if left.isArray then (left, right) else (right, left)
      let element ← join false number (← array.baseType)
      return ← typeInArrays array.arrayDim element.name
  Verdict.reject s!"Operation '{operator}' not supported between '{left.name}' and '{right.name}'"

/-- The type of an arithmetic operation on types, where a node counts as its only port. -/
def arithmeticOnTypes (withText : Bool) (operator : String) (left right : PortType) :
    Verdict PortType := do
  let left ← left.operandType
  let right ← right.operandType
  arithmetic withText operator left right

def comparison (operator : String) (left right : PortType) : Verdict PortType := do
  let levels := if left.isArray || right.isArray then max left.arrayDim right.arrayDim else 0
  let leftElement ← left.elementType
  let rightElement ← right.elementType
  if operator != "==" && operator != "!=" then
    if ← leftElement.isMatrix <||> leftElement.isVector <||> rightElement.isMatrix <||>
        rightElement.isVector then
      Verdict.reject s!"Comparing vectors/matrices with '{operator}' not yet supported"
  let comparable ← (leftElement.isNumeric <&&> rightElement.isNumeric) <||>
    (leftElement.isString <&&> rightElement.isString)
  if !comparable then
    Verdict.reject s!"Operation '{operator}' not supported between '{left.name}' and '{right.name}'"
  let leftBase ← leftElement.baseType
  let rightBase ← rightElement.baseType
  if (← leftBase.isNumeric) != (← rightBase.isNumeric) then
    Verdict.reject
      s!"Cannot compare numeric with non numeric values '{left.name}' {operator} '{right.name}'"
  if !(← leftBase.isNumeric) && !(leftBase == rightBase) then
    Verdict.reject s!"Cannot compare non numeric types '{left.name}' {operator} '{right.name}'"
  typeInArrays levels "bool"

/-- The type of a comparison of types, where a node counts as its only port. -/
def comparisonOnTypes (operator : String) (left right : PortType) : Verdict PortType := do
  let left ← left.operandType
  let right ← right.operandType
  comparison operator left right

/-- The rows and columns that the shapes of two truth values give together. -/
def logicExtent (left right : PortType) : Except Fault (Int × Int) := do
  let mut rows : Int := -1
  let mut columns : Int := -1
  if ← left.isVector then
    rows := max rows (← left.vectorDim)
  if ← left.isMatrix then
    rows := max rows (← left.matrixDim).1
    columns := max columns (← left.matrixDim).2
  if ← right.isVector then
    rows := max rows (← right.vectorDim)
  if ← left.isMatrix then
    rows := max rows (← right.matrixDim).1
    columns := max columns (← right.matrixDim).2
  return (rows, columns)

def logic (operator : String) (left right : PortType) : Verdict PortType := do
  let levels := if right.isArray then right.arrayDim else 0
  let left ← left.elementType
  let right ← right.elementType
  let leftBase ← left.baseType
  let rightBase ← right.baseType
  if !(← leftBase.isBool <&&> rightBase.isBool) then
    Verdict.reject s!"Operation '{operator}' not supported between '{left.name}' and '{right.name}'"
  let (rows, columns) ← logicExtent left right
  if rows != -1 && columns != -1 then
    typeInArrays levels s!"Math::bool{rows}x{columns}"
  else typeInArrays levels "bool"

/-- The signed counterpart of an unsigned scalar, and any other scalar itself. -/
def signedName (base : PortType) : Except Fault String := do
  if !(← base.isUnsigned) then return base.name
  if ← base.isBig then return "double"
  if base.name == "uint" then return "float"
  let size ← base.numericSize
  if size == 1 then return "short"
  if size == 2 then return "int"
  if size == 4 then return "long"
  throw .missingKey

/-- The type that is negated in place of a node: that of its first port. -/
def firstPortType (type : PortType) : PortType :=
  if type.isNode then
    match type.ports.getD [] with
    | (_, port) :: _ => port
    | [] => type
  else type

/-- The type of the negative of a value, where there is one. -/
def negation (type : PortType) : Except Fault (Option PortType) := do
  let type := firstPortType type
  let numeric ← do (← (← type.baseType).baseType).isNumeric
  let negatable ← if numeric then pure true else do (← type.baseType).isField
  if !negatable then return none
  let levels := if type.isArray then type.arrayDim else 0
  let value ← type.elementType
  let base ← value.baseType
  if ← base.isField then return some value
  let scalar ← signedName base
  if ← value.isMatrix then
    let (rows, columns) ← value.matrixDim
    return some (← typeInArrays levels s!"Math::{scalar}{rows}x{columns}")
  if ← value.isVector then
    let size ← value.vectorDim
    return some (← typeInArrays levels s!"Math::{scalar}{size}")
  return some (← typeInArrays levels scalar)

end GraphScript.Typing
