import GraphScript.Overload.Outcome

/-!
# Overload rules by computation

Some operators accept combinations of types that no list of type sets describes.  Each has a rule
that computes the port types of a call from its argument types.
-/

namespace GraphScript.Overload

open TypeSet

/-- A rule that computes the port types of a call. -/
structure Resolver where
  apply : Ports → List PortType → Except Fault Outcome

namespace Resolver

/-- A rule whose steps turn calls down in the usual way. -/
def judged (rule : Ports → List PortType → Step (List Slot × List Slot)) : Resolver where
  apply ports types := judge (rule ports types)

def judgedBare (rule : Ports → List PortType → Step (List Slot × List Slot)) : Resolver where
  apply ports types := judgeBare (rule ports types)

/-- All arguments in one set of types; the result is their join. -/
def oneKind (possible : TypeSet) (toFraction : Bool) : Resolver := judged fun ports types => do
  let (inputs, output) ← sameKind ports.namesIn possible toFraction types
  return (asGiven inputs, [.named output])

def bitwise : Resolver := oneKind integer false

def atan2D : Resolver := oneKind ((floating \ matrix) ∪ field) true

def lerp : Resolver := oneKind ((floating \ matrix) ∪ field) true

def clamp : Resolver := oneKind numeric false

def cross : Resolver := oneKind ((floating ∩ vector3) ∪ field3) true

def multiplyQuaternions : Resolver := oneKind (floating ∩ vector4) true

def anyToOne : Resolver := oneKind all false

def modulo : Resolver := oneKind numeric false

def remainder : Resolver := oneKind ((floating \ matrix) ∪ matrixSquare) true

def copySign : Resolver := oneKind numeric false

def forceEvaluation : Resolver where
  apply _ types := do return .accepted (asGiven types) [.typed (← itemAt types 0)]

def shapedName (levels : Nat) (scalar sizes : String) : String :=
  PortType.arrayName levels ("Math::" ++ scalar ++ sizes)

def axisAngleToQuaternion : Resolver := judged fun ports types => do
  let first ← settleArgument "of type" ports.namesIn ((numeric \ vector4) \ matrix) 0
    (← itemAt types 0)
  let second ← settleArgument "of type" ports.namesIn (numeric ∪ simple) 1 (← itemAt types 1)
  let joined ← join first second
  let scalar ← joinFloat (← (← joined.baseType).baseType)
  return (asGiven (first :: second :: types.drop 2),
    [.named (shapedName joined.arrayDim scalar.name "4")])

/-- The result of an operation on the first two arguments. -/
def ofOperands (operation : PortType → PortType → Verdict PortType) : Resolver :=
  judged fun _ types => do
    let result ← ofVerdict (operation (← itemAt types 0) (← itemAt types 1))
    return (asGiven types, [.named result.name])

def compare : Option String → Resolver
  | none => ⟨fun _ _ => .error .badOperand⟩
  | some "" => ⟨fun _ _ => .ok (.dismissed "missing operator")⟩
  | some operator => ofOperands (Typing.comparisonOnTypes operator)

def logic : Resolver := ofOperands (Typing.logic "and/or/xor")

def power : Resolver := ofOperands (Typing.arithmeticOnTypes false "**")

/-- Refuses a call whose text argument is no text. -/
def requireText (ports : Ports) (types : List PortType) (index : Nat) : Step Unit := do
  let type ← itemAt types index
  if type.name != "string" then
    let name ← itemAt ports.namesIn index
    rejectType s!"'{name}' must be a string"

/-- Refuses a call at a check, or goes on with a rule that hands on reasons without a verdict. -/
def checkThen {α : Type} (check : Step α) (rule : α → Except Fault Outcome) :
    Except Fault Outcome := do
  match ← check.run with
  | .error reason => return .rejected reason
  | .ok value => rule value

/-- Two arguments of one kind, perhaps a tolerance, and a text. -/
def expectation (ports : Ports) (types : List PortType) (level : Nat) (withTolerance : Bool) :
    Except Fault Outcome :=
  judgeBare do
    let (inputs, _) ← sameKind ports.namesIn floating true (types.take 2)
    let mut others := [.named "string"]
    if withTolerance then
      discard (sameKind ((ports.namesIn.drop 2).take 1)
        (ofNames ["float"]) true ((types.drop 2).take 1))
      others := .named "float" :: others
    return (asGiven inputs ++ others, [.named (PortType.arrayName level "string")])

def expectElements (withTolerance : Bool) : Resolver where
  apply ports types := checkThen (do
    requireText ports types (if withTolerance then 3 else 2)
    commonLevel "Array dimension missmatch" types) fun level => do
  expectation ports (← elementTypes types) level withTolerance

def expectEqual : Resolver := expectElements false

def expectAlmostEqual : Resolver := expectElements true

def expectArraysEqual : Resolver where
  apply ports types := checkThen (requireText ports types 3) fun _ => expectation ports types 0 true

def toField : Resolver := judged fun _ types => do
  let type ← itemAt types 0
  let core := coreName type.name
  if core == "Core::Fields::ScalarField" || core == "Core::FieldsVectorField" then
    return (asGiven types, asGiven types)
  let levels := Text.occurrences '>' type.name
  let element ← type.elementType
  let numeric ← element.isNumeric
  let unfit ← do
    if !numeric then pure true
    else if ← element.isMatrix then pure true
    else if ← element.isVector then pure ((← element.vectorDim) == 4)
    else pure false
  if unfit then rejectType s!"Cant convert '{element.name}' to field"
  let field := if ← element.isVector then "Core::Fields::VectorField"
    else "Core::Fields::ScalarField"
  return (asGiven types, [.typed (← Typing.typeInArrays levels field)])

/-- The array level of arguments that have at most one, and their elements. -/
def elementsOf (types : List PortType) : Step (Nat × List PortType) := do
  return (← commonLevel "Array dimension missmatch" types, ← elementTypes types)

def mismatch {α : Type} (types : List PortType) (index : Nat) : Step α := do
  let left ← itemAt types index
  let right ← itemAt types (index + 1)
  rejectType s!"Type missmatch '{left.name}' <> '{right.name}'"

def switchFields : Resolver := judged fun _ types => do
  let (_, elements) ← elementsOf types
  if (← itemAt elements 0).name != "Core::Fields::ScalarField" then
    rejectType "FIELD or FIELD[] required as condition"
  let left ← itemAt elements 1
  let both ← do
    if ← left.isField then (← itemAt elements 2).isField else pure false
  if !both then mismatch types 1
  let result ← join (← itemAt types 1) (← itemAt types 2)
  return (asGiven types, [.named result.name])

def isQuantity (type : PortType) : Except Fault Bool := type.isNumeric <||> type.isField

/-- What two neighbours that are no quantities give: their own type, which has to be the same. -/
def alike? (types elements : List PortType) (level index : Nat) : Step (Option Slot) := do
  let left ← itemAt elements index
  let quantities ← do
    if ← isQuantity left then isQuantity (← itemAt elements (index + 1)) else pure false
  if quantities then return none
  if left == (← itemAt elements (index + 1)) then
    return some (.named (PortType.arrayName level left.name))
  mismatch types index

def choose : Resolver := judged fun _ types => do
  let (level, elements) ← elementsOf types
  if (← itemAt elements 0).name != "bool" then
    rejectType "BOOL or BOOL[] required as condition"
  if let some slot ← alike? types elements level 1 then return (asGiven types, [slot])
  let result ← ofVerdict
    (Typing.arithmeticOnTypes false "if" (← itemAt elements 1) (← itemAt elements 2))
  return (asGiven types, [.named (PortType.arrayName level result.name)])

/-- A truth value of any shape chooses between the members of two values. -/
def chooseMembers : Resolver := judged fun ports types => do
  let (level, elements) ← elementsOf types
  let condition ← itemAt elements 0
  if (← condition.baseType).name != "bool" then
    rejectType "Some form of BOOL required as condition"
  let (inputs, output) ← sameKind (ports.namesIn.drop 1) all false (elements.drop 1)
  let result ← ofVerdict
    (Typing.arithmeticOnTypes false "members_if" condition (← PortType.ofName output))
  return (.typed (← itemAt types 0) :: asGiven inputs,
    [.named (PortType.arrayName level result.name)])

def shouldSimulate : Resolver := judged fun _ types => do
  let (level, elements) ← elementsOf types
  if let some slot ← alike? types elements level 0 then return (asGiven types, [slot])
  let given ← itemAt types 0
  let result ← ofVerdict (Typing.arithmeticOnTypes false "should_simulate" given given)
  return (asGiven types, [.named result.name])

def switchIsA : Resolver := judged fun ports types => do
  let (inputs, output) ← sameKind (ports.namesIn.drop 1) all false (types.drop 1)
  let subject ← itemAt types 0
  if subject.name != "Object" then
    let name ← itemAt ports.namesIn 0
    rejectType s!"'{name}' of type '{subject.name}' not supported!"
  return (.named "Object" :: asGiven inputs, [.named output])

/-- The sets of types for the ports of a property that follows the age of particles. -/
def particlePropertySets : List TypeSet :=
  [ofNames ["Object"], ofNames ["string"], (numeric \ array3) \ array2, (numeric \ array3) \ array2,
    ⟨fun name => Text.holds name "float"⟩]

def settleEach (ports : Ports) (types : List PortType) : Nat → List TypeSet → Step (List Slot)
  | _, [] => return []
  | index, possible :: rest => do
    let (inputs, _) ← sameKind ((ports.namesIn.drop index).take 1) possible false
      ((types.drop index).take 1)
    return asGiven inputs ++ (← settleEach ports types (index + 1) rest)

def particlePropertyFromAge : Resolver := judged fun ports types => do
  return (← settleEach ports types 0 particlePropertySets, [.named "Object"])

def distance : Resolver where
  apply ports types := do
  match ← (sameKind ports.namesIn (floating ∩ vector3) true types).run with
  | .error _ => return .refused
  | .ok (inputs, output) => return .accepted (asGiven inputs) [.named (← Reshape.toScalar output)]

/-- The distance of two numbers, counted in units of the last place. -/
def distanceInUnits : Resolver := judgedBare fun ports types => do
  let (inputs, output) ← sameKind ports.namesIn floating true types
  return (asGiven inputs, [.named (Reshape.replaceBase "int" output)])

/-- Two numbers and a tolerance whose type is checked last. -/
def equivalent (allowed : List String) (message : String) (tolerance : PortType → Slot) :
    Resolver where
  apply ports types := checkThen (commonLevel "Array dimension missmatch" types) fun level => do
  let elements ← elementTypes types
  match ← (sameKind ports.namesIn floating true (elements.take 2)).run with
  | .error reason => return .unjudged reason
  | .ok (inputs, output) =>
    if allowed.contains (← itemAt elements 2).name then
      return .accepted (asGiven inputs ++ [tolerance (← itemAt types 2)])
        [.named (PortType.arrayName level (Reshape.replaceBase "bool" output))]
    else return .rejected ⟨.type, message⟩

def equivalentInUnits : Resolver :=
  equivalent ["int"] "'epsilon' must be provided as INT" fun _ => .named "int"

def equivalentWithin : Resolver :=
  equivalent ["float", "double"] "'epsilon' must be provided as FLOAT or DOUBLE" .typed

def linearInterpolate : Resolver := judged fun ports types => do
  let (inputs, output) ← sameKind ports.namesIn ((floating \ matrix) ∪ field) true (types.take 3)
  let (switches, _) ← sameKind (ports.namesIn.drop 3) (bool ∩ simple) true (types.drop 3)
  return (asGiven (inputs ++ switches), [.named output])

def lerpVector : Resolver := judged fun ports types => do
  let (inputs, output) ← sameKind ports.namesIn (floating ∩ vector) true (types.take 2)
  let name ← itemAt ports.namesIn 2
  let type ← itemAt types 2
  let (scalars, _) ← sameKind [name] (floating ∩ simple) true [type]
  let (switches, _) ← sameKind (ports.namesIn.drop 3) (bool ∩ simple) true (types.drop 3)
  return (asGiven (inputs ++ scalars ++ switches), [.named output])

def positionOf (name : String) (names : List String) : Except Fault Nat :=
  orFault .badValue (names.idxOf? name)

def clampInfluence : Resolver := judged fun ports types => do
  let low ← positionOf "min" ports.namesIn
  let high ← positionOf "max" ports.namesIn
  let lowType ← itemAt types low
  let highType ← itemAt types high
  if low ≥ ports.typesIn.length || high ≥ ports.typesIn.length then throwThe Fault .badIndex
  let declared := (ports.typesIn.set low lowType.name).set high highType.name
  let _ ← sameKind ["min", "max"] (autoVector \ string) true [lowType, highType]
  return (declared.map .named, ports.typesOut.map .named)

/-- Settles the parts of a transform: vectors, and a quaternion in the third place. -/
def settleTransform (names : List String) : Nat → List PortType → Step (List PortType)
  | _, [] => return []
  | index, type :: rest => do
    if type.name == PortType.autoName then
      let name ← itemAt names index
      rejectType s!"'Missing required parameter '{name}'"
    let possible := floating ∩ (if index != 2 then vector3 else vector4)
    let settled ← settleArgument "with type" names possible index type
    return settled :: (← settleTransform names (index + 1) rest)

def srtToMatrix : Resolver := judged fun ports types => do
  let settled ← settleTransform ports.namesIn 0 types
  let level ← commonLevel "Incompatible array dimensions" settled
  let bases ← settled.mapM fun type => do (← type.baseType).baseType
  let joined ← joinTypes bases
  return (asGiven settled, [.named (shapedName level joined.name "4x4")])

/-- The innermost component of a result, as a vector or matrix in the levels of the result. -/
def resizedResult (output sizes : String) : Except Fault Slot := do
  let type ← PortType.ofName output
  return .named (shapedName type.arrayDim (← (← type.baseType).baseType).name sizes)

def dot : Resolver := judged fun ports types => do
  let (inputs, output) ← sameKind ports.namesIn ((numeric ∩ vector) ∪ field3) false types
  let type ← PortType.ofName output
  let scalar ← (← type.baseType).baseType
  return (asGiven inputs, [.named (PortType.arrayName type.arrayDim scalar.name)])

def changeRange : Resolver := judgedBare fun ports types => do
  let (inputs, output) ← sameKind ports.namesIn numeric false (types.take 5)
  let name ← itemAt ports.namesIn 5
  let type ← itemAt types 5
  let (switches, _) ← sameKind [name] (bool ∩ simple) false [type]
  return (asGiven (inputs ++ switches), [.named output])

def normalAndTangent : Resolver := judged fun ports types => do
  let (inputs, output) ← sameKind ports.namesIn (floating ∩ vector3) true (types.take 2)
  let (switches, _) ← sameKind (ports.namesIn.drop 2) (bool ∩ simple) true (types.drop 2)
  return (asGiven (inputs ++ switches), [← resizedResult output "4"])

def rotationBetween : Resolver := judged fun ports types => do
  let (inputs, output) ← sameKind ports.namesIn (floating ∩ vector3) true types
  return (asGiven inputs, [← resizedResult output "4"])

def rotationAroundPosition : Resolver := judged fun ports types => do
  let (rotations, _) ← sameKind ports.namesIn (floating ∩ vector4) true (types.take 1)
  let (positions, _) ← sameKind (ports.namesIn.drop 1) (floating ∩ vector3) true (types.drop 1)
  let joined ← join (← itemAt rotations 0) (← itemAt positions 0)
  return (asGiven (rotations ++ positions), [← resizedResult joined.name "4x4"])

/-- Ascending order of array levels. -/
def sortedLevels (levels : List Nat) : List Nat :=
  (levels.filter (· != 0)).eraseDups.mergeSort (· ≤ ·)

/-- The first output in the smallest array level of all outputs. -/
def spreadOutput (output : String) (outputs : List String) : Step Slot := do
  let types ← checkNames outputs
  let levels := sortedLevels (types.map PortType.arrayDim) ++ [0]
  if levels.length > 2 then rejectType "Cant mix array dimensions"
  return .named
    (PortType.arrayName (levels.headD 0) (Text.trimChar '>' (Text.afterLast "<" output)))

/-- A vector that is turned or moved by something of another kind. -/
def movedVector (mover : TypeSet) : Resolver := judged fun ports types => do
  let (vectors, output) ← sameKind ports.namesIn (floating ∩ vector3) true (types.take 1)
  let (movers, other) ← sameKind (ports.namesIn.drop 1) mover true (types.drop 1)
  return (asGiven (vectors ++ movers), [← spreadOutput output [output, other]])

def rotateByQuaternion : Resolver := movedVector (floating ∩ vector4)

def rotateByMatrix : Resolver := movedVector (floating ∩ matrix4x4)

def transformVector : Resolver := movedVector (floating ∩ matrix4x4)

/-- The items at the positions `start`, `start + 4`, and so on; or with another step. -/
def everyNth {α : Type} (step : Nat) : Nat → List α → List α
  | _, [] => []
  | 0, item :: rest => item :: everyNth step (step - 1) rest
  | skip + 1, _ :: rest => everyNth step skip rest

def quaternionSlerp : Resolver := judged fun ports types => do
  let names := ports.namesIn
  let (inputs, output) ← sameKind names (floating ∩ vector4) true (types.take 2)
  let (parameters, output1) ← sameKind (everyNth 4 2 names) (floating ∩ simple) true
    (everyNth 4 2 types)
  let (switches, output2) ← sameKind ((names.drop 3).take 3) (bool ∩ simple) true
    ((types.drop 3).take 3)
  let (_, output3) ← sameKind (names.drop 6) (floating ∩ simple) true (types.drop 6)
  let main ← spreadOutput output [output, output1, output2, output3]
  let first ← itemAt parameters 0
  let second ← itemAt parameters 1
  return (asGiven (inputs ++ [first] ++ switches ++ [second]), [main])

/-- Three numbers and switches give a truth value. -/
def withinBounds : Resolver := judged fun ports types => do
  let (inputs, output) ← sameKind ports.namesIn numeric false (types.take 3)
  let (switches, _) ← sameKind (ports.namesIn.drop 3) (bool ∩ simple) false (types.drop 3)
  let type ← PortType.ofName output
  return (asGiven (inputs ++ switches), [.named (PortType.arrayName type.arrayDim "bool")])

def scalarsToVector (possible : TypeSet) (size : String) : Resolver := judged fun ports types => do
  let (inputs, output) ← sameKind ports.namesIn possible false types
  let type ← PortType.ofName output
  if size == "3" then
    if ← type.isField then
      return (asGiven inputs,
        [.named (PortType.arrayName type.arrayDim "Core::Fields::VectorField")])
  return (asGiven inputs, [.named (shapedName type.arrayDim (← type.baseType).name size)])

def scalarToVector2 : Resolver := scalarsToVector ((numeric \ matrix) \ vector) "2"

def scalarToVector3 : Resolver := scalarsToVector (field ∪ ((numeric \ matrix) \ vector)) "3"

def scalarToVector4 : Resolver := scalarsToVector ((numeric \ matrix) \ vector) "4"

def vector3ToVector4 : Resolver := judged fun ports types => do
  let possible := (numeric \ matrix) \ vector4
  let (vectors, _) ← sameKind ports.namesIn possible false (types.take 1)
  let (others, _) ← sameKind (ports.namesIn.drop 1) possible false (types.drop 1)
  let joined ← join (← itemAt vectors 0) (← itemAt others 0)
  return (asGiven (vectors ++ others),
    [.named (shapedName joined.arrayDim (← joined.baseType).name "4")])

def members : Resolver := judged fun ports types => do
  let possible := numeric ∪ bool
  let first ← settleArgument "of type" ports.namesIn possible 0 (← itemAt types 0)
  let second ← settleArgument "of type" ports.namesIn possible 1 (← itemAt types 1)
  let joined ← join first second
  let element ← joined.elementType
  let width := Text.width element.name
  let name ← do
    if ← element.isMatrix then
      pure ("Math::bool" ++ Text.dropStart (width - 3) element.name)
    else if ← element.isVector then
      pure ("Math::bool" ++ Text.dropStart (width - 1) element.name)
    else pure "bool"
  let result ← Typing.typeInArrays joined.arrayDim name
  return (asGiven (first :: second :: types.drop 2), [.named result.name])

/-- The negative of a value. -/
def negate : Resolver where
  apply _ types := do
  match ← Typing.negation (← itemAt types 0) with
  | some result => return .accepted (asGiven types) [.named result.name]
  | none => throw .missingMember

def invert : Resolver where
  apply _ types := do
  let type ← itemAt types 0
  if (← (← type.baseType).baseType).name != "bool" then
    return .dismissed s!"Cant invert value of type '{type.name}'"
  return .accepted (asGiven types) [.named type.name]

/-- A random value between two bounds, with a seed and an index. -/
def random : Resolver := judged fun ports types => do
  let possible := (float \ matrix) ∪ (double ∩ simple) ∪ int ∪ long
  let (bounds, output) ← sameKind ((ports.namesIn.drop 1).take 2) possible false
    ((types.drop 1).take 2)
  let _ ← sameKind (everyNth 3 0 ports.namesIn) (long ∩ simple) false (everyNth 3 0 types)
  return (.named "long" :: asGiven bounds ++ [.named "long"], [.named output])

/-- Puts settled types in the places of the ports that were to be found. -/
def fillAuto : List String → List PortType → List PortType → List Slot
  | [], given, _ => asGiven given
  | _, [], _ => []
  | declared :: others, type :: types, settled =>
    if declared == PortType.autoName then
      match settled with
      | next :: rest => .typed next :: fillAuto others types rest
      | [] => .typed type :: fillAuto others types []
    else .typed type :: fillAuto others types settled

/-- The ports of a randomized property: a selection and values of one kind. -/
def randomizeProperty : Resolver := judged fun ports types => do
  let autoTypes := ((ports.typesIn.zip types).filter fun entry => entry.1 == "auto").map Prod.snd
  let autoNames :=
    ((ports.typesIn.zip ports.namesIn).filter fun entry => entry.1 == "auto").map Prod.snd
  let (selection, _) ← sameKind autoNames autoScalar false [← itemAt autoTypes 0]
  let (values, output) ← sameKind (autoNames.drop 1) ((numeric \ matrix) \ array) false
    (autoTypes.drop 1)
  let settled := selection ++ values
  let autoCount := (((ports.typesIn.take ports.namesIn.length)).filter (· == "auto")).length
  if ports.typesIn.length < ports.namesIn.length || settled.length < autoCount then
    throwThe Fault .badIndex
  let first ← itemAt ports.typesOut 0
  return (fillAuto (ports.typesIn.take ports.namesIn.length) types settled,
    [.named first, .named (Reshape.arrayOver output)])

def labelled : List (String × Resolver) :=
  [("axis_angle_to_quaternion", axisAngleToQuaternion), ("bitwise", bitwise),
    ("compare", compare none), ("force_eval", forceEvaluation), ("expect_equal", expectEqual),
    ("expect_almost_equal", expectAlmostEqual), ("expect_arrays_equal", expectArraysEqual),
    ("to_field", toField), ("switch_fields", switchFields), ("if_", choose),
    ("members_if", chooseMembers), ("should_simulate", shouldSimulate),
    ("switch_is_a", switchIsA), ("particle_property_from_age", particlePropertyFromAge),
    ("logic", logic), ("atan_2D", atan2D), ("distance", distance),
    ("distance_float_ULP", distanceInUnits), ("equivalent_float_ULP", equivalentInUnits),
    ("equivalent_float_epsilon", equivalentWithin), ("lerp", lerp),
    ("linear_interpolate", linearInterpolate), ("lerp_vec", lerpVector), ("clamp", clamp),
    ("clamp_influence", clampInfluence), ("srt_to_matrix", srtToMatrix), ("cross", cross),
    ("dot", dot), ("change_range", changeRange), ("multiply_quaternions", multiplyQuaternions),
    ("normal_and_tangent_to_orientation", normalAndTangent),
    ("rotation_between_vectors", rotationBetween),
    ("rotation_around_position_to_matrix", rotationAroundPosition),
    ("rotate_by_quaternion", rotateByQuaternion), ("rotate_by_matrix", rotateByMatrix),
    ("transform_vector_as", transformVector), ("quaternion_slerp", quaternionSlerp),
    ("within_bounds", withinBounds), ("any_n_to_1", anyToOne),
    ("scalar_to_vec2", scalarToVector2), ("scalar_to_vec3", scalarToVector3),
    ("scalar_to_vec4", scalarToVector4), ("vec3_to_vec4", vector3ToVector4),
    ("members", members), ("negate", negate), ("not_", invert), ("power", power),
    ("modulo", modulo), ("remainder", remainder), ("copy_sign", copySign), ("random_", random),
    ("randomize_geo_property", randomizeProperty)]

def ofLabel? (label : String) : Option Resolver := labelled.lookup label

end Resolver

end GraphScript.Overload
