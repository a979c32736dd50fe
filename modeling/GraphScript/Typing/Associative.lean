import GraphScript.Typing.Operator

/-!
# Typing of operators with any number of arguments

Operators such as `add` or `build_array` take any number of arguments of one kind.  Their result is
the arithmetic join of all arguments, an array of it, or the product of matrices.
-/

namespace GraphScript.Typing

open PortType

/-! ## Vectors, matrices and arrays -/

/-- The component type that the letters after a closing bracket stand for. -/
def componentOfHint (hint : String) : String :=
  ([("l", "long"), ("ul", "ulong"), ("i", "int"), ("ui", "uint"), ("s", "short"), ("us", "ushort"),
    ("c", "char"), ("uc", "uchar"), ("f", "float"), ("d", "double"), ("u", "ulong"),
    ("b", "bool")].lookup hint).getD "double"

/-- Checks the components of a vector and gives the array levels of those that are arrays. -/
def vectorLevels : List PortType → Verdict (List Nat)
  | [] => return []
  | type :: rest => do
    let element ← type.elementType
    if ← element.isVector <||> element.isMatrix then Verdict.reject "Must be single value"
    let levels ← vectorLevels rest
    return if type.isArray then type.arrayDim :: levels else levels

def vector (component : PortType) (values : List PortType) : Verdict PortType := do
  match (← vectorLevels values).eraseDups with
  | [] => typeInArrays 0 s!"Math::{component.name}{values.length}"
  | [levels] => typeInArrays levels s!"Math::{component.name}{values.length}"
  | _ => Verdict.reject "Incompatible array dimensions"

/-- Checks the only value of a column and gives the rows that it brings. -/
def wholeColumnRows (type : PortType) : Verdict Int := do
  if type.isArray then throwThe Fault .missingMember
  if ← type.isVector then return ← type.vectorDim
  if ← type.isMatrix then Verdict.reject "Cant connect matrix to matrix column"
  if !(← type.isNumeric) then Verdict.reject "Need to connect numeric value to column"
  return 0

def columnValues : List PortType → Verdict Unit
  | [] => return ()
  | type :: rest => do
    if type.isArray then throwThe Fault .missingMember
    if !(← type.isNumeric) then Verdict.reject "Need to connect numeric value to value"
    columnValues rest

def matrixRows : Int → List (List PortType) → Verdict Int
  | rows, [] => return rows
  | rows, [type] :: rest => do
    matrixRows (max rows (← wholeColumnRows type)) rest
  | rows, column :: rest => do
    columnValues column
    matrixRows (max rows column.length) rest

def matrix (component : PortType) (columns : List (List PortType)) : Verdict PortType := do
  let rows ← matrixRows 0 columns
  if rows == 0 then Verdict.reject "Cant determine row count"
  typeInArrays 0 s!"Math::{component.name}{rows}x{columns.length}"

def wholeOfSize (size : Int) : Except Fault String :=
  orFault .missingKey ([((1 : Int), "char"), (2, "short"), (4, "int"), (8, "long")].lookup size)

/-- Asks every type the same question. -/
def askAll {α : Type} (question : PortType → Except Fault α) (types : List PortType) :
    Except Fault (List α) :=
  types.mapM question

def largest (numbers : List Int) : Int := numbers.foldl max (-1)

def elementScalar (types elements : List PortType) : Except Fault String := do
  let fractions ← askAll isFraction elements
  let big ← askAll isBig types
  if fractions.any id then
    return if big.any id then "double" else "float"
  let unsigned ← askAll isUnsigned elements
  let sizes ← askAll numericSize elements
  if sizes.eraseDups.length == 1 then
    let name ← wholeOfSize (largest sizes)
    return if unsigned.any id then "u" ++ name else name
  let size := largest sizes
  let widest ← types.filterM fun type => do return (← type.numericSize) == size
  let widestUnsigned ← askAll isUnsigned widest
  let name ← wholeOfSize size
  return if widestUnsigned.any id then "u" ++ name else name

/-- The name of the numeric type that holds all elements of an array. -/
def numericElement (types elements : List PortType) : Except Fault String := do
  let scalar ← elementScalar types elements
  let matrices ← askAll isMatrix elements
  let vectors ← askAll isVector elements
  if matrices.any id then
    let shapes ← askAll matrixDim elements
    let sizes ← askAll vectorDim elements
    let rows := largest (shapes.map Prod.fst ++ sizes)
    let columns := largest (shapes.map Prod.snd)
    return s!"Math::{scalar}{rows}x{columns}"
  if vectors.any id then
    let size := largest (← askAll vectorDim elements)
    return s!"Math::{scalar}{size}"
  return scalar

/-- The type of an array's elements, when all have the type of the first. -/
def uniformElement (first : PortType) : Verdict PortType := do
  if Text.occurrences '>' first.name > 2 then
    Verdict.reject "Arrays beyond 3 dimensions are not supported"
  if first.isNode then Verdict.reject "NODE types cannot be put into arrays"
  return first

def arrayElement (values : List PortType) : Verdict PortType := do
  let types := values.map onlyPort
  let elements ← askAll elementType types
  match types with
  | [] => throwThe Fault .badIndex
  | first :: rest =>
    if rest.all fun type => type.name == first.name then uniformElement first
    else
      let arrays := types.map isArray
      if arrays.any id && !arrays.all id then
        Verdict.reject "Mixed array and non-array types. This is not yet supported"
      if !(rest.all fun type => type.arrayDim == first.arrayDim) then
        Verdict.reject "Mixed arrays of different dimensions. This is not yet supported"
      let numeric ← askAll isNumeric elements
      if numeric.all id then
        let name ← numericElement types elements
        typeInArrays first.arrayDim name
      else if numeric.any id then Verdict.reject "Mixed numeric and non numeric values"
      else Verdict.reject "Type missmatch"

/-! ## Operators with any number of arguments -/

/-- A join that may have been turned down on the way: a type, or the message in its place. -/
inductive Joined where
  | found (type : PortType)
  | refused (message : String)

/-- Reads a join as a type again; a message is looked up as the name of a type. -/
def Joined.check : Joined → Except Fault PortType
  | found type => .ok type
  | refused message => ofName message

def joinedFrom (operator : String) (first : Joined) : List PortType → Except Fault Joined
  | [] => .ok first
  | next :: rest => do
    match ← (arithmeticOnTypes false operator (← first.check) next).run with
    | .ok type => joinedFrom operator (.found type) rest
    | .error message => joinedFrom operator (.refused message) rest

/-- The arithmetic join of a nonempty list of types; a message has no name to go on with. -/
def joinedAll (operator : String) : List PortType → Except Fault PortType
  | [] => .error .badIndex
  | first :: rest => do
    match ← joinedFrom operator (.found first) rest with
    | .found type => return type
    | .refused _ => throw .missingMember

def numericJoin (first : PortType) : List PortType → Except Fault PortType
  | [] => .ok first
  | next :: rest => do numericJoin (← join false first next) rest

def builtArray (arguments : List PortType) : Verdict PortType := do
  let types := (← askAll elementType arguments).map onlyPort
  let numeric ← askAll isNumeric types
  let fields ← askAll isField types
  let names := types.map PortType.name
  let same := names.eraseDups.length == 1
  let mixed := s!"Cant build array with mixed types: {Text.quotedList names}"
  if numeric.any id && !numeric.all id then Verdict.reject mixed
  if fields.any id && !fields.all id then Verdict.reject mixed
  if !numeric.any id && !fields.any id && names.eraseDups.length > 1 then Verdict.reject mixed
  match types with
  | [] => throwThe Fault .badIndex
  | first :: rest =>
    if same then typeInArrays 1 first.name
    else if numeric.all id then
      let joined ← liftM (numericJoin first rest)
      typeInArrays 1 joined.name
    else throwThe Fault .missingMember

/-- The rows and columns of an argument of a matrix product; what is missing counts as minus one. -/
def productExtent (type : PortType) : Except Fault (Int × Int) := do
  if ← type.isMatrix then type.matrixDim
  else if ← type.isVector then return (← type.vectorDim, -1)
  else return (-1, -1)

/-- The extent of the product of two extents.  What has no columns counts as two by two. -/
def productOf (left right : Int × Int) : Int × Int :=
  if left.2 == -1 then (2, right.2)
  else if left.2 == right.1 then (left.1, right.2)
  else (if left.1 == -1 then 2 else left.1, right.2)

def matrixProduct (levels : Nat) (types : List PortType) : Except Fault PortType := do
  match ← askAll productExtent types with
  | [] => throw .badIndex
  | first :: rest =>
    let (rows, columns) := rest.foldl productOf first
    let scalar ← joinedAll "-" (← askAll baseType types)
    let base := s!"Math::{scalar.name}{rows}"
    typeInArrays levels (if columns > 1 then s!"{base}x{columns}" else base)

/-- The type that counts for an argument: an array as its element, a node as its only port. -/
def countedType (type : PortType) : Except Fault PortType :=
  if type.isArray then type.baseType else .ok type.onlyPort

def associative (name : String) (arguments : List PortType) : Verdict PortType := do
  if Text.endsWith "::build_array" name then builtArray arguments
  else
    let levels := ((arguments.filter isArray).map arrayDim).eraseDups
    let types ← askAll countedType arguments
    let numeric ← askAll isNumeric types
    let fields ← askAll isField types
    if !(numeric.all id || fields.all id) then
      Verdict.reject "All arguments must be fields or numeric."
    if levels.length > 1 then Verdict.reject "Differing array dimensions found"
    if Text.endsWith "::matrix_multiply" name then
      if fields.any id then Verdict.reject "Cant use fields in matrix_multiply"
      liftM (matrixProduct (levels.headD 0) types)
    else
      let joined ← liftM (joinedAll "*" types)
      typeInArrays (levels.headD 0) joined.name

end GraphScript.Typing
