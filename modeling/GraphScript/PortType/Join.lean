import GraphScript.PortType.Basic

/-!
# Joining numeric types

The join of two numeric types is the type of an arithmetic result: it has the larger size, the
larger shape, a fraction if either side has one, and no sign if the larger side has none.
-/

/-! ## Compatibility -/

namespace GraphScript

/-- What happens to a value on its way to a target. -/
structure Findings where
  arrayMismatch : Bool := false
  /-- There is no conversion between the types. -/
  incompatible : Bool := false
  /-- A number is converted without loss. -/
  automatic : Bool := false
  lossy : Bool := false
  /-- A scalar, vector or matrix is extended to a larger shape. -/
  extended : Bool := false
  /-- The shape of the value does not fit into the shape of the target. -/
  shapeMismatch : Bool := false
  deriving DecidableEq

namespace Findings

def union (left right : Findings) : Findings where
  arrayMismatch := left.arrayMismatch || right.arrayMismatch
  incompatible := left.incompatible || right.incompatible
  automatic := left.automatic || right.automatic
  lossy := left.lossy || right.lossy
  extended := left.extended || right.extended
  shapeMismatch := left.shapeMismatch || right.shapeMismatch

def code (findings : Findings) : Nat :=
  (if findings.arrayMismatch then 1 else 0) + (if findings.incompatible then 2 else 0) +
    (if findings.automatic then 4 else 0) + (if findings.lossy then 8 else 0) +
    (if findings.extended then 16 else 0) + (if findings.shapeMismatch then 32 else 0)

def allowPromotion (findings : Findings) : Bool :=
  !(findings.arrayMismatch || findings.incompatible || findings.lossy || findings.shapeMismatch)

end Findings

namespace PortType

def scalarFindings (target value : PortType) : Except Fault Findings := do
  if ← target.isFraction then
    if (← value.numericSize) > (← target.numericSize) then return { lossy := true }
    return { automatic := true }
  if ← value.isFraction then return { lossy := true }
  let valueSize ← value.numericSize
  let targetSize ← target.numericSize
  if valueSize < targetSize then return { automatic := true }
  if valueSize > targetSize then return { lossy := true }
  let targetUnsigned ← target.isUnsigned
  let valueUnsigned ← value.isUnsigned
  if targetUnsigned == valueUnsigned then return {}
  if targetUnsigned then return { automatic := true }
  return { lossy := true }

def elementType (type : PortType) : Except Fault PortType :=
  if type.isArray then type.baseType else .ok type

/-- The rows and columns of a vector or matrix; what is missing counts as minus one. -/
def extent (type : PortType) : Except Fault (Int × Int) := do
  if ← type.isVector then return (← type.vectorDim, -1)
  else if ← type.isMatrix then type.matrixDim
  else return (-1, -1)

/-- The component type of a vector or matrix, and any other type itself. -/
def componentType (type : PortType) : Except Fault PortType := do
  if ← type.isVector then type.baseType
  else if ← type.isMatrix then type.baseType
  else return type

def isShapeless (type : PortType) : Except Fault Bool := do
  if ← type.isVector then return false
  return !(← type.isMatrix)

def extentFindings (target value : Int × Int) : Findings :=
  if value == target then {}
  else if value.1 ≤ target.1 && value.2 ≤ target.2 then { extended := true }
  else { shapeMismatch := true }

def numericFindings (target value : PortType) : Except Fault Findings := do
  if ← target.isShapeless then
    if ← value.isShapeless then scalarFindings target value
    else return { incompatible := true }
  else
    let shape := extentFindings (← target.extent) (← value.extent)
    return shape.union (← scalarFindings (← target.componentType) (← value.componentType))

def compare (target value : PortType) : Except Fault Findings := do
  if value == target then return {}
  let valueElement ← value.elementType
  let targetElement ← target.elementType
  let levels : Findings := { arrayMismatch := value.arrayDim != target.arrayDim }
  if valueElement == targetElement then return levels
  let valueNumeric ← valueElement.isNumeric
  let targetNumeric ← targetElement.isNumeric
  if valueNumeric && targetNumeric then
    return levels.union (← numericFindings targetElement valueElement)
  return levels.union { incompatible := true }

/-- Whether a value of a type can go to a target without loss. -/
def promotable (value target : PortType) : Except Fault Bool := do
  return (← compare target value).allowPromotion

/-- The numeric scalars in the order in which promotion prefers them. -/
def scalarOrder : List String :=
  ["char", "uchar", "short", "ushort", "int", "uint", "long", "ulong", "float", "double"]

/-- The numeric types in the order in which promotion prefers them: scalars, vectors, matrices. -/
def promotionOrder : List String :=
  scalarOrder ++
  (scalarOrder.flatMap fun component => Catalogue.sizes.map (Catalogue.vectorName component)) ++
  (scalarOrder.flatMap fun component => Catalogue.sizes.flatMap fun rows =>
    Catalogue.sizes.map (Catalogue.matrixName component rows))

/-- The first of a list of candidate names that a type can be promoted to. -/
def firstPromotable (element : PortType) : List String → Except Fault (Option String)
  | [] => .ok none
  | candidate :: rest => do
    if ← promotable element (← ofName candidate) then return some candidate
    firstPromotable element rest

/-- The preferred member of a set of type names that a type can be promoted to. -/
def promotableToOneOf (type : PortType) (targets : String → Bool) :
    Except Fault (Option PortType) := do
  let candidates := promotionOrder.filter fun name => targets (arrayName type.arrayDim name)
  if candidates.isEmpty then return none
  match ← firstPromotable (← type.elementType) candidates with
  | none => return none
  | some name => return some (← ofName (arrayName type.arrayDim name))

end PortType

end GraphScript

/-! ## Joins -/

namespace GraphScript.PortType

/-- The scalar name for a size in bytes; `boolSized` reads one byte as a truth value. -/
def wholeName (boolSized : Bool) (size : Int) : Except Fault String :=
  if size == 1 then .ok (if boolSized then "bool" else "char")
  else if size == 2 then .ok "short"
  else if size == 4 then .ok "int"
  else if size == 8 then .ok "long"
  else .error .missingKey

/-- Whether an unsigned side is at least as large as the other side. -/
def unsignedWins (left right : PortType) : Except Fault Bool := do
  let leftUnsigned ← left.isUnsigned
  let rightUnsigned ← right.isUnsigned
  if leftUnsigned || rightUnsigned then
    let leftSize ← left.numericSize
    let rightSize ← right.numericSize
    return (leftUnsigned && leftSize ≥ rightSize) || (rightUnsigned && rightSize ≥ leftSize)
  else return false

def joinScalar (boolSized : Bool) (left right : PortType) : Except Fault (String × String) := do
  let fraction ← do
    if ← left.isFraction then pure true else right.isFraction
  if fraction then
    let big ← do
      if ← left.isBig then pure true else right.isBig
    return ("", if big then "double" else "float")
  else
    let sign := if ← unsignedWins left right then "u" else ""
    let size := max (← left.numericSize) (← right.numericSize)
    return (sign, ← wholeName boolSized size)

def joinName (boolSized : Bool) (left right : PortType) : Except Fault String := do
  let (sign, scalar) ← joinScalar boolSized left right
  let matrix ← do
    if ← left.isMatrix then pure true else right.isMatrix
  if matrix then
    let (leftRows, leftColumns) ← left.matrixDim
    let (rightRows, rightColumns) ← right.matrixDim
    let rows := max (max leftRows rightRows) (max (← left.vectorDim) (← right.vectorDim))
    let columns := max leftColumns rightColumns
    return s!"Math::{sign}{scalar}{rows}x{columns}"
  let vector ← do
    if ← left.isVector then pure true else right.isVector
  if vector then
    let size := max (← left.vectorDim) (← right.vectorDim)
    return s!"Math::{sign}{scalar}{size}"
  return sign ++ scalar

def join (boolSized : Bool) (left right : PortType) : Except Fault PortType := do
  ofName (← joinName boolSized left right)

end GraphScript.PortType
