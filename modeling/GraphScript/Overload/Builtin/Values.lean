import GraphScript.Overload.Definition

/-!
# Overloads of operators for values, arrays and objects

Each step declares ports as `auto`, gives the sets of types that leading ports accept together with
the types of the ports that follow, or names the rule that computes the types.
-/

namespace GraphScript.Overload.Builtin

open TypeSet

/-- The steps for the operators of a library, which are named without its path. -/
def inLibrary (path : String) (steps : List (String → List Registration)) : List Registration :=
  steps.flatMap fun step => step (path ++ "::")

def force (name ports : String) (path : String) : List Registration :=
  [.force (path ++ name) (Text.parts ' ' ports)]

/-- The ways in which each of the named operators can be used. -/
def sets (names : String) (ways : List (List GivenGroup)) (path : String) : List Registration :=
  (Text.parts ' ' names).flatMap fun name => ways.map (.sets (path ++ name))

def rule (names : String) (resolver : Resolver) (path : String) : List Registration :=
  (Text.parts ' ' names).map fun name => .rule (path ++ name) resolver

/-- A port, and one that has its type. -/
def keeps (types : TypeSet) : List GivenGroup := [group types [.same]]

def takes (types : List TypeSet) : List GivenGroup := types.map (group · [])

def gives (types : TypeSet) (reshaping : Reshaping) : List GivenGroup :=
  [group types [.computed reshaping]]

def fixes (types : TypeSet) (outputs : List String) : List GivenGroup :=
  [group types (outputs.map .fixed)]

def whole (type : String) : Derivation := .computed (.whole type)

/-- Single values and plain arrays. -/
def shallow (types : TypeSet) : TypeSet := (types \ array2) \ array3

def sortable : TypeSet := array ∩ simple ∩ (integer ∪ floating ∪ string)

/-- The operators for flow of values, errors and tests. -/
def graph : List Registration :=
  inLibrary "Core::Graph" [sets "pass" [keeps all]] ++
  inLibrary "Diagnostic::Profiling" [sets "profiler_start profiler_end" [keeps all]] ++
  inLibrary "Rendering::Terminals" [rule "final_mode_switch" .anyToOne] ++
  inLibrary "Core::Error" [sets "error" [keeps all]] ++
  inLibrary "Core::Logging" [sets "log_message" [keeps all]] ++
  inLibrary "Core::Compound_Tests" [
    sets "expect_type" [takes [all] ++ fixes all ["string"]],
    rule "expect_equal expect_members_equal" .expectEqual,
    rule "expect_almost_equal" .expectAlmostEqual,
    rule "expect_arrays_equal" .expectArraysEqual]

def conversion : List Registration :=
  inLibrary "Core::Type_Conversion" [
    sets "to_type_any" [takes [all]],
    sets "from_type_any" [keeps all],
    sets "to_bool" [gives (numeric ∪ bool) (.base "bool")],
    sets "to_char" [gives (numeric ∪ bool) (.base "char")],
    sets "to_unsigned_char" [gives (numeric ∪ bool) (.base "uchar")],
    sets "to_short" [gives (numeric ∪ bool) (.base "short")],
    sets "to_unsigned_short" [gives (numeric ∪ bool) (.base "ushort")],
    sets "to_int" [gives (numeric ∪ bool) (.base "int")],
    sets "to_unsigned_int" [gives (numeric ∪ bool) (.base "uint")],
    sets "to_long" [gives (numeric ∪ bool) (.base "long")],
    sets "to_unsigned_long" [gives (numeric ∪ bool) (.base "ulong")],
    sets "to_float" [gives (numeric ∪ bool) (.base "float")],
    sets "to_double" [gives (numeric ∪ bool) (.base "double")]] ++
  inLibrary "Core::Conversion" [
    sets "degrees_to_radians radians_to_degrees"
      [keeps (floating ∩ (simple ∪ vector2 ∪ vector3))]] ++
  inLibrary "Core::String" [
    force "number_to_string" "string",
    sets "number_to_string" [gives ((numeric ∪ bool) ∩ simple) (.whole "string")]] ++
  inLibrary "Core::Conversion" [
    sets "vector2_to_scalar" [[group (numeric ∩ vector2) [.computed .scalar, .computed .scalar]]],
    sets "vector3_to_scalar" [[group (numeric ∩ vector3) [.computed .scalar, .computed .scalar,
      .computed .scalar]], [group field3 [whole "Core::Fields::ScalarField", whole
      "Core::Fields::ScalarField", whole "Core::Fields::ScalarField"]]],
    sets "vector4_to_scalar" [[group (numeric ∩ vector4) [.computed .scalar, .computed .scalar,
      .computed .scalar, .computed .scalar]]],
    sets "vector4_to_vector3" [[group (numeric ∩ vector4) [.computed .vector3, .computed .scalar]]],
    rule "scalar_to_vector2" .scalarToVector2,
    rule "scalar_to_vector3" .scalarToVector3,
    rule "scalar_to_vector4" .scalarToVector4,
    rule "vector3_to_vector4" .vector3ToVector4] ++
  inLibrary "Core::Transform" [
    sets "interpret_auto_port_as_transform" [takes [floating ∩ matrix4x4],
      takes [object \ array]]] ++
  inLibrary "Geometry::Common" [
    sets "interpret_auto_port_as_scalar sample_interpreted_auto_port_as_scalar"
      [takes [autoScalar]],
    sets "interpret_auto_port_as_vector sample_interpreted_auto_port_as_vector"
      [takes [autoVector]]]

def arrays : List Registration :=
  inLibrary "Core::Array" [
    force "all_true_in_array" "array all_true",
    sets "all_true_in_array" [gives (array ∩ bool) .element],
    force "any_true_in_array" "array any_true",
    sets "any_true_in_array" [gives (array ∩ bool) .element],
    sets "array_bounds array_bounds_impl" [[group array [.computed .element, .computed .element]]],
    sets "array_dimensions array_size" [takes [array]],
    sets "array_is_empty" [fixes array ["bool"]],
    sets "cumulative_sum_array" [keeps array],
    sets "empty_array" [gives (all \ array3) .arrayOver],
    sets "filter_array" [[group array [.same, .fixed "array<long>"]]],
    sets "find_all_in_array find_in_array find_in_sorted_array first_in_array"
      [gives array .element],
    sets "flatten_nested_array" [gives array .flatArray],
    sets "get_array_indices" [takes [array] ++ gives integer .arrayOver],
    sets "get_from_array" [gives array .element],
    sets "interleave_arrays intersect_arrays" [[group array [.same, .same]]],
    sets "last_in_array" [gives array .element],
    sets "prefix_sum" [[group ((integer ∪ floating) ∩ simple ∩ array) [.same, .same]]],
    sets "remove_from_array" [keeps array],
    sets "resize_array" [[group array [.computed .element, .same]]],
    sets "reverse_array" [keeps array],
    sets "reverse_find_in_array" [gives array .element],
    sets "sequence_array" [[group ((floating ∪ integer) \ array) [.same, .computed .arrayOver]]],
    sets "set_in_array" [[group array [.computed .element, .same]]],
    sets "shuffle_array slice_array small_slice" [keeps array],
    sets "sort_array sort_array_and_remove_duplicates sort_array_with_indices" [keeps sortable],
    sets "sum_array" [gives sortable .element],
    sets "sum_array_impl" [gives (array ∩ (integer ∪ floating)) .element]] ++
  inLibrary "Core::Math" [
    sets "get_from_interpolated_array" [[group array [.fixed "float", .computed .element]],
      [group array [.fixed "double", .computed .element]]]]

def objects : List Registration :=
  inLibrary "Core::Object" [
    sets "set_property" [takes [all]],
    force "get_property" "default_and_type value",
    sets "get_property" [keeps all]] ++
  inLibrary "Modeling::Primitive" [force "create_mesh_cube" "width"]

end GraphScript.Overload.Builtin
