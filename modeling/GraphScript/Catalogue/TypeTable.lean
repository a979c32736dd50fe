/-!
# The table of types

The types that ports can have: plain types, vectors of two to four components, matrices of two to
four rows and columns, and enumerations.  A vector has its components as members, and a matrix has
its columns and the components of each column.
-/

namespace GraphScript.Catalogue

/-- The scalar types that vectors and matrices are made of, in alphabetical order. -/
def componentNames : List String :=
  ["bool", "char", "double", "float", "int", "long", "short", "uchar", "uint", "ulong", "ushort"]

def sizes : List Nat := [2, 3, 4]

def componentLetters (size : Nat) : List String := ["x", "y", "z", "w"].take size

def vectorName (component : String) (size : Nat) : String := "Math::" ++ component ++ toString size

def matrixName (component : String) (rows columns : Nat) : String :=
  "Math::" ++ component ++ toString rows ++ "x" ++ toString columns

def vectorMembers (component : String) (size : Nat) : List (String × String) :=
  (componentLetters size).map fun letter => (letter, component)

/-- The members of a matrix type with their types: each column, followed by its components. -/
def matrixMembers (component : String) (rows columns : Nat) : List (String × String) :=
  (List.range columns).flatMap fun index =>
    let column := "c" ++ toString index
    (column, vectorName component rows) ::
      (componentLetters rows).map fun letter => (column ++ "." ++ letter, component)

/-- The vector and matrix types over one component type, in alphabetical order. -/
def shapedTypes (component : String) : List (String × List (String × String)) :=
  sizes.flatMap fun rows =>
    (vectorName component rows, vectorMembers component rows) ::
      sizes.map fun columns =>
        (matrixName component rows columns, matrixMembers component rows columns)

/-- A type without members. -/
def plain (name : String) : String × List (String × String) := (name, [])

/-- Every type with its members, in alphabetical order. -/
def types : List (String × List (String × String)) :=
  ["BifrostUsd::Layer", "BifrostUsd::Stage", "Core::Fields::ScalarField",
    "Core::Fields::VectorField", "Core::Transform::Transform", "Geometry::Common::GeoLocation",
    "Geometry::Common::GeometryType"].map plain ++
  (componentNames.takeWhile (· != "short")).flatMap shapedTypes ++
  [plain "Math::rotation_order"] ++
  (componentNames.dropWhile (· != "short")).flatMap shapedTypes ++
  ["Object", "any", "bool", "char", "double", "float", "int", "long", "short", "string", "uchar",
    "uint", "ulong", "ushort"].map plain

def members? (name : String) : Option (List (String × String)) := types.lookup name

/-- An enumeration: its values in order, each with its number. -/
structure Enumeration where
  name : String
  values : List (String × Int)
  /-- Where the enumeration was read from. -/
  path : String
  deriving DecidableEq

def enumerations : List Enumeration :=
  [⟨"Math::rotation_order",
      [("XYZ", 0), ("YZX", 1), ("ZXY", 2), ("XZY", 3), ("YXZ", 4), ("ZYX", 5)], "builtin"⟩,
    ⟨"Geometry::Common::GeometryType",
      [("mesh", 0), ("points", 1), ("strands", 2), ("volume", 3)], "builtin"⟩,
    ⟨"Core::rotation_order", [("XYZ", 0), ("YZX", 1), ("ZXY", 2)], "builtin"⟩]

def enumeration? (name : String) : Option Enumeration :=
  enumerations.find? fun enumeration => enumeration.name == name

def isTypeName (name : String) : Bool := (members? name).isSome || (enumeration? name).isSome

/-! ## Shorthand names -/

/-- The scalar types of whole numbers, with their shorthands. -/
def wholes : List (String × String) :=
  [("CHAR", "char"), ("SHORT", "short"), ("INT", "int"), ("LONG", "long"), ("UCHAR", "uchar"),
    ("USHORT", "ushort"), ("UINT", "uint"), ("ULONG", "ulong")]

def fractions : List (String × String) := [("FLOAT", "float"), ("DOUBLE", "double")]

def vectorShorthands (scalars : List (String × String)) (size : Nat) : List (String × String) :=
  scalars.map fun (short, name) => (short ++ toString size, vectorName name size)

def matrixShorthands (scalars : List (String × String)) (rows : Nat) : List (String × String) :=
  scalars.flatMap fun (short, name) => sizes.map fun columns =>
    (short ++ toString rows ++ "x" ++ toString columns, matrixName name rows columns)

/-- One shorthand is not spelled like the others. -/
def respelled : String × String → String × String
  | ("CHAR4x3", name) => ("CHAR42x3", name)
  | entry => entry

/-- The shorthands in their declared order, each with the full name of its type. -/
def shorthands : List (String × String) :=
  [("ANY", "any")] ++ (sizes.flatMap (matrixShorthands wholes)).map respelled ++
  (fractions.flatMap fun scalar => sizes.flatMap (matrixShorthands [scalar])) ++
  sizes.flatMap (vectorShorthands wholes) ++ wholes ++ sizes.flatMap (vectorShorthands fractions) ++
  [("MATRIX2", "Math::double2x2"), ("MATRIX3", "Math::double3x3"),
    ("MATRIX4", "Math::double4x4")] ++
  fractions ++ sizes.flatMap (matrixShorthands [("BOOL", "bool")]) ++
  sizes.flatMap (vectorShorthands [("BOOL", "bool")]) ++
  [("BOOL", "bool"), ("STRING", "string"), ("OBJECT", "Object"),
    ("TRANSFORM", "Core::Transform::Transform"), ("ROTATE_ORDER", "Math::rotation_order"),
    ("GEOLOCATION", "Geometry::Common::GeoLocation"), ("GEOTYPE", "Geometry::Common::GeometryType"),
    ("FIELD", "Core::Fields::ScalarField"), ("FIELD3", "Core::Fields::VectorField")]

/-- The full name of a shorthand, or of a full name that some shorthand stands for. -/
def expand? (name : String) : Option String :=
  match shorthands.lookup name with
  | some full => some full
  | none => if shorthands.any (fun entry => entry.2 == name) then some name else none

end GraphScript.Catalogue
