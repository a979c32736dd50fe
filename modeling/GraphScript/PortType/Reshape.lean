import GraphScript.PortType.Basic

/-!
# Type names derived from type names

The type of a port often follows from the type of another one: an element of an array, an array of
elements, the same shape over another component.  These functions work on names, and a name of an
unexpected form gives a name of an unexpected form.
-/

/-! ## Families -/

namespace GraphScript

structure TypeSet where
  mem : String → Bool

namespace TypeSet

instance : Union TypeSet := ⟨fun left right => ⟨fun name => left.mem name || right.mem name⟩⟩

instance : Inter TypeSet := ⟨fun left right => ⟨fun name => left.mem name && right.mem name⟩⟩

instance : SDiff TypeSet := ⟨fun left right => ⟨fun name => left.mem name && !right.mem name⟩⟩

def ofNames (names : List String) : TypeSet := ⟨names.contains⟩

/-- Whether a name is a type of the table in at most three levels of arrays. -/
def isListed (name : String) : Bool :=
  let levels := Text.occurrences '>' name
  let inner := PortType.innerName name
  levels ≤ 3 && Catalogue.isTypeName inner && PortType.arrayName levels inner == name

def listedWhere (test : String → Bool) : TypeSet := ⟨fun name => test name && isListed name⟩

/-- What stands between the `>` that comes first and the last `<` before it. -/
def coreName (name : String) : String := Text.afterLast "<" (Text.before ">" name)

/-- Whether a type name has one of the given component types, alone or in a vector or matrix. -/
def hasComponent (components : List String) (name : String) : Bool :=
  let core := coreName name
  components.any fun component => Text.holds (":" ++ component) core || core == component

def isSignedWhole : String → Bool := hasComponent ["char", "short", "int", "long"]

/-- Whether a name is a whole number without sign. -/
def isUnsignedWhole : String → Bool := hasComponent ["uchar", "ushort", "uint", "ulong"]

def isEightByte : String → Bool := hasComponent ["long", "ulong", "double"]

def isTruth : String → Bool := hasComponent ["bool"]

def isLongWhole : String → Bool := hasComponent ["long", "ulong"]

def isIntWhole : String → Bool := hasComponent ["int", "uint"]

def isFractional : String → Bool := hasComponent ["float", "double"]

def isScalarField (name : String) : Bool := coreName name == "Core::Fields::ScalarField"

def isVectorField (name : String) : Bool := coreName name == "Core::Fields::VectorField"

def isLocation (name : String) : Bool := coreName name == "Geometry::Common::GeoLocation"

/-- Whether a name ends in one of the given vector sizes and is no matrix. -/
def endsAsVector (sizes name : String) : Except Fault Bool :=
  let core := Text.trimChar '>' name
  match Text.fromEnd 1 core with
  | none => .error .badIndex
  | some last =>
    if sizes.toList.contains last then
      match Text.fromEnd 3 core with
      | none => .error .badIndex
      | some third => .ok (!PortType.isSizeDigit third)
    else .ok false

/-- Whether a name ends in the given matrix sizes. -/
def endsAsMatrix (rows columns name : String) : Except Fault Bool :=
  let core := Text.trimChar '>' name
  match Text.fromEnd 1 core with
  | none => .error .badIndex
  | some last =>
    if columns.toList.contains last then
      match Text.fromEnd 3 core with
      | none => .error .badIndex
      | some third => .ok (rows.toList.contains third)
    else .ok false

/-- A test that reads a failed look at the name as a refusal. -/
def passes (test : Except Fault Bool) : Bool :=
  match test with
  | .ok answer => answer
  | .error _ => false

/-- The last part of the innermost name, without its namespaces. -/
def bareName (name : String) : String := Text.afterLast "::" (Text.afterLast "<" name)

def all : TypeSet := listedWhere fun _ => true

def array : TypeSet := listedWhere fun name => Text.occurrences '>' name > 0

def array1 : TypeSet := listedWhere fun name => Text.occurrences '>' name == 1

def array2 : TypeSet := listedWhere fun name => Text.occurrences '>' name == 2

def array3 : TypeSet := listedWhere fun name => Text.occurrences '>' name == 3

def simple : TypeSet := listedWhere fun name => !Text.holds "::" name

def any : TypeSet := listedWhere fun name => name == "any" || Text.holds "<any>" name

def bool : TypeSet := listedWhere isTruth

def string : TypeSet := listedWhere fun name => name == "string" || Text.holds "<string>" name

def object : TypeSet := listedWhere fun name => name == "Object" || Text.holds "<Object>" name

def vector : TypeSet := listedWhere fun name => passes (endsAsVector "234" name)

def vector2 : TypeSet := vector ∩ listedWhere fun name => passes (endsAsVector "2" name)

def vector3 : TypeSet := vector ∩ listedWhere fun name => passes (endsAsVector "3" name)

def vector4 : TypeSet := vector ∩ listedWhere fun name => passes (endsAsVector "4" name)

def matrix : TypeSet := listedWhere fun name => passes (endsAsMatrix "234" "234" name)

def matrixOf (rows columns : String) : TypeSet :=
  listedWhere fun name => passes (endsAsMatrix rows columns name)

def matrix2x2 : TypeSet := matrixOf "2" "2"

def matrix2x3 : TypeSet := matrixOf "2" "3"

def matrix2x4 : TypeSet := matrixOf "2" "4"

def matrix3x2 : TypeSet := matrixOf "3" "2"

def matrix3x3 : TypeSet := matrixOf "3" "3"

def matrix3x4 : TypeSet := matrixOf "3" "4"

def matrix4x2 : TypeSet := matrixOf "4" "2"

def matrix4x3 : TypeSet := matrixOf "4" "3"

def matrix4x4 : TypeSet := matrixOf "4" "4"

def matrixSquare : TypeSet := matrix2x2 ∪ matrix3x3 ∪ matrix4x4

def matrixOfFour : TypeSet := matrix2x4 ∪ matrix3x4 ∪ matrix4x4 ∪ matrix4x3 ∪ matrix4x2

def double : TypeSet := listedWhere fun name => Text.startsWith "double" (bareName name)

def float : TypeSet := listedWhere fun name => Text.startsWith "float" (bareName name)

def floating : TypeSet := float ∪ double

def unsigned : TypeSet := listedWhere isUnsignedWhole

def integer : TypeSet := listedWhere isSignedWhole ∪ unsigned

def big : TypeSet := listedWhere isEightByte

def long : TypeSet := listedWhere isLongWhole

def int : TypeSet := listedWhere isIntWhole

def field : TypeSet := listedWhere isScalarField

def field3 : TypeSet := listedWhere isVectorField

def fields : TypeSet := field ∪ field3

def geoLocation : TypeSet := listedWhere isLocation

def numeric : TypeSet := floating ∪ integer

def autoScalar : TypeSet :=
  ofNames ["float", "array<float>", "array<bool>", "array<long>", "string"] ∪ (field \ array)

def autoVector : TypeSet :=
  ofNames ["float", "Math::float3", "array<Math::float3>", "string"] ∪ (fields \ array)

def autoTag : TypeSet := ofNames ["array<bool>", "array<long>", "array<uint>", "long", "string"]

def simScalar : TypeSet := ofNames ["float", "Core::Fields::ScalarField"]

def simVector : TypeSet :=
  ofNames ["float", "Math::float3", "Core::Fields::ScalarField", "Core::Fields::VectorField"]

def usdAttribute : TypeSet :=
  (((double ∩ matrixSquare) ∪ (floating ∩ vector) ∪ (numeric ∩ simple) ∪ string ∪
    (bool ∩ simple)) \ array3) \ array2

/-- The families with their labels, in alphabetical order of the labels. -/
def labelled : List (String × TypeSet) :=
  [("ALL_TYPES", all), ("ANY", any), ("ARRAY", array), ("ARRAY1", array1), ("ARRAY2", array2),
    ("ARRAY3", array3), ("AUTO_SCALAR", autoScalar), ("AUTO_TAG", autoTag),
    ("AUTO_VECTOR", autoVector), ("BIG", big), ("BOOL", bool), ("DOUBLE", double),
    ("FIELD", field), ("FIELD3", field3), ("FIELDS", fields), ("FLOAT", float),
    ("FLOATING", floating), ("GEOLOCATION", geoLocation), ("INT", int), ("INTEGER", integer),
    ("LONG", long), ("MATRIX", matrix), ("MATRIX2x2", matrix2x2), ("MATRIX2x3", matrix2x3),
    ("MATRIX2x4", matrix2x4), ("MATRIX3x2", matrix3x2), ("MATRIX3x3", matrix3x3),
    ("MATRIX3x4", matrix3x4), ("MATRIX4x2", matrix4x2), ("MATRIX4x3", matrix4x3),
    ("MATRIX4x4", matrix4x4), ("MATRIX_SQUARE", matrixSquare), ("MATRIX_x4", matrixOfFour),
    ("NUMERIC", numeric), ("OBJECT", object), ("SIMPLE", simple), ("SIM_SCALAR", simScalar),
    ("SIM_VECTOR", simVector), ("STRING", string), ("UNSIGNED", unsigned),
    ("USD_ATTR", usdAttribute), ("VECTOR", vector), ("VECTOR2", vector2), ("VECTOR3", vector3),
    ("VECTOR4", vector4)]

def labelsOf (name : String) : List String :=
  (labelled.filter fun entry => entry.2.mem name).map Prod.fst

end TypeSet

end GraphScript

/-! ## Derived names -/

namespace GraphScript.Reshape

/-- A name without its first six characters and its last one: the element of an array name. -/
def element (name : String) : String := Text.dropStart 6 (Text.dropEnd 1 name)

def arrayOver (name : String) : String := "array<" ++ name ++ ">"

def peel : Nat → String → String
  | 0, name => name
  | levels + 1, name => peel levels (element name)

def levelsOf (name : String) : Nat := Text.occurrences '>' name

def underArrays (change : String → Except Fault String) (name : String) : Except Fault String := do
  let levels := levelsOf name
  return PortType.arrayName levels (← change (peel levels name))

def flatArray (name : String) : String :=
  let levels := levelsOf name
  if levels = 0 then arrayOver name
  else arrayOver (Text.dropStart (6 * levels) (Text.dropEnd levels name))

/-- The same shape and levels over another component type. -/
def replaceBase (component name : String) : String :=
  let levels := levelsOf name
  let core := peel levels name
  let shaped :=
    if TypeSet.vector.mem core then
      "Math::" ++ component ++ String.ofList (core.toList.drop (Text.width core - 1))
    else if TypeSet.matrix.mem core then
      "Math::" ++ component ++ String.ofList (core.toList.drop (Text.width core - 3))
    else component
  PortType.arrayName levels shaped

/-- Another type in the same levels of arrays. -/
def replaceWhole (type name : String) : String := PortType.arrayName (levelsOf name) type

def digitFromEnd (distance : Nat) (name : String) : Except Fault Char :=
  orFault .badIndex (Text.fromEnd distance name)

def transpose (name : String) : Except Fault String :=
  underArrays (fun core => do
    let columns ← digitFromEnd 1 core
    let rows ← digitFromEnd 3 core
    return Text.dropEnd 3 core ++ String.ofList [columns, 'x', rows]) name

/-- The number of characters that the sizes of a vector or matrix take at the end of a name. -/
def sizeWidth (core : String) : Except Fault Nat := do
  let third ← digitFromEnd 3 core
  let last ← digitFromEnd 1 core
  let second ← digitFromEnd 2 core
  if PortType.isSizeDigit third && PortType.isSizeDigit last && second == 'x' then return 3
  else if PortType.isSizeDigit last then return 1
  else return 0

def resize (sizes : String) (name : String) : Except Fault String :=
  underArrays (fun core => do
    if !Text.holds "::" core then return "Math::" ++ core ++ sizes
    return Text.dropEnd (← sizeWidth core) core ++ sizes) name

def toVector3 : String → Except Fault String := resize "3"

def toVector4 : String → Except Fault String := resize "4"

def toMatrix3x3 : String → Except Fault String := resize "3x3"

def toScalar (name : String) : Except Fault String :=
  underArrays (fun core => do
    if !Text.holds "::" core then return core
    match ← sizeWidth core with
    | 0 => return core
    | width => return Text.dropEnd width (Text.after "::" core)) name

/-- The number types that become `float`. -/
def smallNumbers : List String := ["char", "uchar", "short", "ushort", "int", "uint", "float"]

/-- The number types that become `double`. -/
def bigNumbers : List String := ["long", "ulong", "double"]

/-- Every component followed by a size, with its fractional counterpart, in the order of the
search. -/
def fractionSteps : List (String × String) :=
  ["2", "3", "4"].flatMap fun size =>
    (smallNumbers.map fun number => ("::" ++ number ++ size, "::float" ++ size)) ++
    (bigNumbers.map fun number => ("::" ++ number ++ size, "::double" ++ size))

/-- The fractional type of the same shape. -/
def toFraction (name : String) : Except Fault String :=
  if smallNumbers.contains name then .ok "float"
  else if bigNumbers.contains name then .ok "double"
  else
    match fractionSteps.find? fun step => Text.holds step.1 name with
    | some (mark, replacement) => .ok (Text.replaceAll mark replacement name)
    | none => .error (.unsupported "")

end GraphScript.Reshape
