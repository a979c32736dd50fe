import GraphScript.Overload.Builtin.Values

/-!
# Overloads of operators for mathematics, logic, geometry, learning, randomness and display
-/

namespace GraphScript.Overload.Builtin

open TypeSet

/-- Numbers become fractions of their size. -/
def fractional : List (List GivenGroup) :=
  [gives (numeric \ big) (.base "float"), gives (numeric ∩ big) (.base "double")]

def mathematics : List Registration :=
  inLibrary "Core::Math" [
    sets "absolute_value" [keeps (numeric \ unsigned), gives (long ∩ unsigned) (.base "double"),
      gives (int ∩ unsigned) (.base "float")],
    rule "remainder" .remainder,
    rule "modulo" .modulo,
    sets "split_fraction" [[group (floating \ matrix) [.same, .same]]],
    sets "truncate" [keeps floating],
    sets "twice_of two_to_power_of half_of" [keeps numeric],
    sets "square_root cube_root one_over" [keeps floating],
    rule "lerp" .lerp,
    rule "linear_interpolate" .linearInterpolate,
    rule "linear_interpolate_normalized" .lerpVector,
    sets "round_to_ceiling round_to_floor round_to_nearest log_base_e log_base_two"
      [keeps floating],
    sets "log_base_ten exponential" [keeps floating],
    sets "get_member" [gives (numeric ∪ bool) .scalar],
    sets "increment decrement" [keeps numeric],
    sets "normalize" [keeps ((floating ∩ vector) \ big), keeps (floating ∩ vector ∩ big),
      gives field3 (.base "Core::Fields::ScalarField")],
    sets "length" [gives ((floating ∩ vector) \ big) (.whole "float"),
      gives (floating ∩ vector ∩ big)
      (.whole "double"), gives field3 (.base "Core::Fields::ScalarField")],
    rule "distance" .distance,
    rule "distance_float_ULP" .distanceInUnits,
    rule "equivalent_float_ULP" .equivalentInUnits,
    rule "equivalent_float_epsilon" .equivalentWithin,
    sets "length_squared" [gives ((floating ∩ vector) \ big) (.whole "float"),
      gives (floating ∩ vector
      ∩ big) (.whole "double"), gives field3 (.base "Core::Fields::ScalarField")],
    sets "direction_and_length" [[group ((floating ∩ vector) \ big) [.same, whole "float", whole
      "float"]], [group (floating ∩ vector ∩ big) [.same, whole "double", whole "double"]], [group
      field3 [.same, whole "Core::Fields::ScalarField", whole "Core::Fields::ScalarField"]]],
    rule "cross" .cross,
    rule "dot" .dot,
    rule "change_range" .changeRange,
    sets "euler_to_rotation_vector" [keeps (float ∩ vector3), keeps field3],
    sets "euler_to_quaternion" [gives (float ∩ vector3) .vector4],
    rule "within_bounds" .withinBounds,
    rule "quaternion_slerp" .quaternionSlerp,
    rule "multiply_quaternions" .multiplyQuaternions,
    rule "normal_and_tangent_to_orientation" .normalAndTangent,
    rule "rotation_between_vectors" .rotationBetween,
    rule "rotation_around_position_to_matrix" .rotationAroundPosition,
    rule "rotate_by_quaternion" .rotateByQuaternion,
    rule "rotate_vector_by_matrix" .rotateByMatrix,
    rule "transform_vector_as_direction transform_vector_as_normal" .transformVector,
    rule "transform_vector_as_position" .transformVector,
    sets "project_vector" [[group ((floating \ big) ∩ vector3) [.same, .same, .same]],
      [group (floating
      ∩ big ∩ vector3) [.same, .same, .same]], [group field3 [.same, .same, .same]]]] ++
  inLibrary "Core::Math" [
    sets "sin sin_hyperbolic asin asin_hyperbolic cos cos_hyperbolic acos acos_hyperbolic"
      fractional,
    sets "tan tan_hyperbolic atan atan_hyperbolic" fractional] ++
  inLibrary "Core::Math" [
    rule "atan_2D" .atan2D,
    rule "power" .power,
    rule "negate" .negate,
    rule "copy_sign" .copySign,
    sets "transpose_matrix" [gives matrix .transpose],
    sets "inverse_matrix" [keeps (floating ∩ matrixSquare)],
    sets "matrix_determinant" [gives (matrixSquare \ big) (.whole "float"),
      gives (matrixSquare ∩ big) (.whole "double")],
    sets "matrix_is_identity" [gives matrix (.whole "bool")],
    sets "matrix_to_quaternion" [gives (floating ∩ matrix3x3) .vector4],
    sets "matrix_to_SRT" [[group (floating ∩ matrix4x4) [.computed .vector3, .computed .vector3,
      .computed .vector4, .computed .vector3]]],
    rule "SRT_to_matrix" .srtToMatrix,
    sets "quaternion_to_matrix" [gives (floating ∩ vector4) .matrix3x3],
    sets "quaternion_to_axis_angle" [[group (floating ∩ vector4) [.computed .vector3, .computed
      .scalar]]],
    sets "quaternion_to_rotation_vector quaternion_to_euler" [gives (floating ∩ vector4) .vector3],
    sets "rotation_vector_to_quaternion" [gives (floating ∩ vector3) .vector4],
    sets "transform_to_rotation_matrix" [gives (floating ∩ matrix4x4) .matrix3x3],
    rule "axis_angle_to_quaternion" .axisAngleToQuaternion,
    sets "find_orthogonal_vectors" [[group (floating ∩ vector3) [.same, .same]]],
    sets "quaternion_invert" [keeps (floating ∩ vector4)],
    rule "clamp" .clamp,
    sets "bitwise_not" [keeps integer],
    rule "bitwise_and bitwise_or bitwise_xor bitwise_shift_left bitwise_shift_left_circular"
      .bitwise,
    rule "bitwise_shift_right bitwise_shift_right_circular" .bitwise] ++
  inLibrary "Core::FCurve" [sets "evaluate_fcurve" [keeps (floating ∩ simple)]] ++
  inLibrary "Rigging::Solver::Utils" [
    sets "enabled_with_weight equivalent_weight" [takes [numeric ∩ (simple \ array)]]]

def constants : List Registration :=
  inLibrary "Core::Constants" [
    sets "identity" [keeps (numeric ∩ matrix), keeps (floating ∩ vector4)],
    sets "default_value" [keeps all],
    sets "zero one golden_ratio e pi tau" [keeps numeric],
    sets "numeric_min numeric_max" [keeps (numeric ∪ bool)],
    sets "numeric_small" [gives numeric .fraction]]

def logic : List Registration :=
  inLibrary "Core::Logic" [
    rule "if" .choose,
    rule "members_if" .chooseMembers,
    rule "equal" (.compare (some "==")),
    rule "not_equal" (.compare (some "!=")),
    rule "greater_or_equal" (.compare (some ">=")),
    rule "less_or_equal" (.compare (some "<=>=")),
    rule "greater" (.compare (some "=>")),
    rule "less" (.compare (some "<")),
    sets "almost_equal" [[group ((floating \ matrix) ∪ (floating ∩ matrixSquare)) [.same, .same]]],
    rule "and or xor" .logic,
    sets "not" [keeps bool],
    force "all_members_true" "output",
    sets "all_members_true" [gives (bool ∩ (vector ∪ matrix)) (.whole "bool")],
    force "any_members_true" "output",
    sets "any_members_true" [gives (bool ∩ (vector ∪ matrix)) (.whole "bool"),
      gives (bool ∩ (vector ∪ matrix)) (.whole "bool")],
    rule "members_equal members_not_equal members_greater members_greater_or_equal" .members,
    rule "members_less members_less_or_equal" .members]

def storable : TypeSet := (int ∪ long ∪ float ∪ double) ∩ (simple ∪ matrixSquare ∪ vector)

def geometry : List Registration :=
  inLibrary "Geometry::Properties" [
    sets "points_to_transforms" [fixes (object \ array) ["array<Math::float4x4>",
      "array<Math::float4x4>"]]] ++
  inLibrary "Geometry::Strands" [sets "create_strands_from_counts" [takes [integer ∩ array1]]] ++
  inLibrary "Geometry::Instances" [
    sets "flatten_instance_selection" [fixes (object \ array) ["array<long>", "array<Object>"]]] ++
  inLibrary "Geometry::Query" [
    sets "get_closest_locations" [[group (shallow (float ∩ vector3)) [whole
      "Geometry::Common::GeoLocation", whole "bool"]]],
    sets "get_closest_point"
      [[group (shallow (float ∩ vector3)) [whole "Geometry::Common::GeoLocation",
      whole "long", whole "bool"]]],
    sets "sample_closest_accelerator" [[group (shallow (float ∩ vector3)) [whole
      "Geometry::Common::GeoLocation", whole "bool"]]],
    sets "sample_closest_point_accelerator" [[group (shallow (float ∩ vector3)) [whole "long", whole
      "bool"]]],
    sets "get_points_in_radius" [[group (shallow (float ∩ vector3)) [whole
      "array<Geometry::Common::GeoLocation>", whole "array<long>"]]],
    sets "sample_closest_in_radius_accelerator" [gives (shallow (float ∩ vector3)) (.whole
      "array<long>")],
    sets "sample_points_by_radius" [gives ((float \ matrix) \ array3) .arrayOver],
    sets "sample_property" [gives (floating \ array) .arrayOver],
    sets "sample_property_2D" [gives (floating \ array) (.andThen .arrayOver .arrayOver)]] ++
  inLibrary "Geometry::Properties" [
    sets "get_geo_component_indices" [gives (integer ∩ (simple \ array3)) .arrayOver],
    sets "get_geo_property_or_default" [gives all .arrayOver],
    sets "set_geo_property_data" [takes [all]],
    sets "get_geo_property get_geo_property_check get_indexed_geo_property" [[group array [.same,
      .computed .element]]]] ++
  inLibrary "Geometry::Mesh" [
    sets "get_mesh_UVs" [[group (float ∩ (vector2 ∪ vector3)) [.computed .flatArray, .fixed
      "array<uint>"]]],
    sets "sample_mesh_UVs" [gives (float ∩ ((vector2 ∪ vector3) \ array)) .arrayOver],
    sets "set_mesh_UVs" [takes [float ∩ (vector2 ∪ vector3) ∩ array1]]] ++
  inLibrary "Geometry::Tags" [
    sets "interpret_auto_port_as_component_tag set_component_tag" [takes [autoTag]],
    sets "tag_by_angle_between_vectors" [takes [autoTag, autoVector, shallow (numeric ∩ simple),
      autoVector, autoScalar]],
    force "tag_by_threshold" "elements_to_tag threshold_property min max",
    sets "tag_by_threshold" [takes [ofNames ["array<bool>", "array<long>", "long", "string"],
      autoScalar, autoScalar, autoScalar]],
    force "tag_inside_geometry" "elements_to_tag position_property weights_scale",
    sets "tag_inside_geometry" [takes [autoTag, autoVector, autoScalar]],
    force "tag_strand_ends" "strands_filter weights_scale start end",
    sets "tag_strand_ends" [takes [autoTag, autoScalar, autoScalar, autoScalar]]] ++
  inLibrary "Modeling::Mesh" [sets "disconnect_mesh_faces" [takes [autoScalar]]] ++
  inLibrary "Modeling::Points" [
    sets "cull_points" [fixes autoScalar ["array<long>", "array<long>"]],
    sets "randomize_point_rotation" [fixes autoScalar ["array<Math::float4>"]],
    sets "randomize_point_scale randomize_point_translation"
      [fixes autoScalar ["array<Math::float3>"]],
    sets "transform_points" [takes [autoScalar]]] ++
  inLibrary "Modeling::Instances" [
    sets "bake_instanced_geometry" [fixes (ofNames ["Object"]) ["Object", "Object", "Object"]],
    sets "create_instances" [fixes autoScalar ["Object"]]] ++
  inLibrary "Geometry::Volume" [
    sets "remap_property" [takes [float \ array, float \ array],
      takes [((double \ array) \ vector4) \ matrix, ((double \ array) \ vector4) \ matrix]]] ++
  inLibrary "Geometry::Properties" [
    sets "set_geo_property set_indexed_geo_property" [keeps (shallow all), gives (shallow all)
      .arrayOver]] ++
  inLibrary "Modeling::Points"
    [sets "scatter_points" [takes [autoScalar, autoVector, autoVector]]] ++
  inLibrary "Geometry::Common" [
    rule "switch_is_a" .switchIsA,
    rule "randomize_geo_property" .randomizeProperty] ++
  inLibrary "Modeling::Points" [
    sets "translate_points" [takes [autoScalar] ++ fixes autoVector ["array<Math::float3>"]],
    sets "rotate_points" [takes [autoScalar, autoVector] ++
      fixes autoScalar ["array<Math::float4>"]],
    sets "scale_points" [takes [autoScalar] ++ fixes autoVector ["array<Math::float3>"]],
    sets "displace_points" [takes [autoScalar] ++ fixes autoVector ["Object"]],
    sets "orient_points_by_geometry" [takes [autoVector, autoVector] ++ fixes autoScalar ["Object",
      "array<Math::float4>"]]] ++
  inLibrary "Geometry::Strands" [
    sets "strands_basis_to_orientation" [fixes autoVector ["array<Math::float4>"]]] ++
  inLibrary "Geometry::Query" [
    sets "get_raycast_locations sample_raycast_accelerator" [[group (ofNames ["Math::float3",
      "array<Math::float3>"]) [.same, whole "Geometry::Common::GeoLocation", whole "bool"]]]] ++
  inLibrary "Modeling::Points" [
    sets "randomize_selection" [takes [ofNames ["Object"]] ++ fixes autoScalar ["Object",
      "array<long>"]],
    sets "randomize_selection_by_probabilities" [takes [ofNames ["Object"]] ++ fixes autoScalar
      ["Object", "array<long>"]]] ++
  inLibrary "Geometry::Query" [
    sets "sample_volume" [takes [ofNames ["Object", "array<Math::float3>"]] ++
      gives (((float \ matrix)
      ∪ (float ∩ (matrix3x3 ∪ matrix4x4 ∪ matrix4x2)) ∪ (double ∩ simple) ∪ (double ∩ vector3)) \
      array) .arrayOver],
    sets "sample_volume_gradient" [takes [ofNames ["Object", "array<Math::float3>"]] ++
      gives (ofNames ["float", "double"]) (.andThen .vector3 .arrayOver)]]

def learning : List Registration :=
  inLibrary "MachineLearning::Activation" [
    sets "activation_CELU activation_ELU activation_PReLU activation_RReLU activation_ReLU"
      fractional,
    sets "activation_ReLU6 activation_SELU activation_hard_shrink activation_hard_sigmoid"
      fractional,
    sets "activation_hard_swish activation_hard_tanh activation_leaky_ReLU" fractional,
    sets "activation_log_sigmoid activation_mish activation_sigmoid activation_soft_plus"
      fractional,
    sets "activation_soft_shrink activation_soft_sign activation_tanh" fractional,
    sets "activation_tanh_shrink activation_threshold" fractional] ++
  inLibrary "MachineLearning::Utils" [rule "z_score_denormalize z_score_normalize" .lerp] ++
  inLibrary "File::NumPy" [
    sets "read_NumPy" [[group storable [.same, .fixed "array<int>", .fixed "string",
      .fixed "bool"]]],
    sets "write_NumPy" [[group storable [.same, .fixed "bool", .fixed "string"]]]]

def randomness : List Registration :=
  inLibrary "Core::Randomization" [
    force "fractal_noise" "noise",
    sets "fractal_noise" [gives (long ∪ float) (.whole "float")],
    force "fractal_turbulence" "noise",
    sets "fractal_turbulence" [gives (long ∪ float) (.whole "Math::float3")],
    sets "random_value_array" [gives (numeric ∪ bool) .arrayOver],
    sets "simplex_noise" [gives (floating \ matrix) .scalar],
    rule "random_value" .random]

def display : List Registration :=
  inLibrary "Diagnostic::Display" [
    sets "assign_diagnostic_material" [fixes (float ∩ vector3) ["Object"], fixes (string \ array)
      ["Object"], fixes fields ["Object"], fixes (float ∩ simple) ["Object"]],
    sets "location_scope" [fixes geoLocation ["array<Object>"]],
    force "point_scope" "diagnostic_geo",
    sets "point_scope" [fixes (shallow object) ["array<Object>"]],
    force "volume_scope" "diagnostic_geo",
    sets "volume_scope" [fixes (shallow object) ["array<Object>"]],
    force "particle_collision_scope" "point_size arrow_size point_color arrow_color",
    sets "particle_collision_scope" [takes [object \ array, autoScalar, autoScalar, autoVector] ++
      fixes autoVector ["array<Object>", "array<long>", "array<long>"]]]

end GraphScript.Overload.Builtin
