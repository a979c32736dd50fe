import GraphScript.Overload.Registry

/-!
# The catalogue of operators

The operators that scripts can call.  Nearly all declare every port as `auto`.
-/

namespace GraphScript.Overload.Builtin

def numberedNames (word : String) (count : Nat) : List String :=
  (List.range count).map fun index => word ++ toString index

/-- An operator whose ports are all declared `auto`. -/
def auto (name : String) (inputs outputs : List String) : String × Operator :=
  let typesIn := inputs.map fun _ => PortType.autoName
  let typesOut := outputs.map fun _ => PortType.autoName
  (name,
    { inputs, outputs, isCompound := false, fanIn := [], autoInput := !inputs.isEmpty,
      autoOutput := !outputs.isEmpty, suggestions := inputs.map fun _ => [],
      overloads := ⟨[(keyOf typesIn, typesOut)]⟩, default := (typesIn, typesOut) })

/-- Operators of a library with numbered ports.  Two digits say how many inputs and outputs the
operators after them have. -/
def numbered (path : String) (inputs outputs : Nat) : List String → List (String × Operator)
  | [] => []
  | word :: rest =>
    match word.toNat? with
    | some counts => numbered path (counts / 10) (counts % 10) rest
    | none =>
      auto (path ++ "::" ++ word) (numberedNames "in" inputs) (numberedNames "out" outputs) ::
        numbered path inputs outputs rest

/-- A line of the catalogue: a library and its operators. -/
def library (line : String) : List (String × Operator) :=
  let words := Text.parts ' ' line
  numbered (words.headD "") 0 0 words.tail

/-- A line of the catalogue: an operator, its inputs, and its outputs behind a mark. -/
def named (line : String) : String × Operator :=
  let words := Text.parts ' ' line
  auto (words.headD "") (words.tail.takeWhile (· != ">")) ((words.dropWhile (· != ">")).drop 1)

def plain : String × Operator :=
  ("Custom::Bench::plain",
    { inputs := ["a", "b"], outputs := ["out"], isCompound := false, fanIn := [],
      autoInput := true, autoOutput := false,
      suggestions := [["float", "double"], ["float", "double"]],
      overloads := ⟨[("auto-auto", ["float"])]⟩, default := (["auto", "auto"], ["float"]) })

/-- All operators in the order of the catalogue. -/
def operators : List (String × Operator) :=
  ["Core::String::number_to_string string in0",
    "Core::Array::all_true_in_array array all_true",
    "Core::Array::any_true_in_array array any_true",
    "Core::Object::get_property default_and_type value",
    "Modeling::Primitive::create_mesh_cube width in0 > out0",
    "Core::Logic::all_members_true output in0",
    "Core::Logic::any_members_true output in0",
    "Geometry::Tags::tag_by_threshold elements_to_tag threshold_property min max",
    "Geometry::Tags::tag_inside_geometry elements_to_tag position_property weights_scale",
    "Geometry::Tags::tag_strand_ends strands_filter weights_scale start end",
    "Core::Randomization::fractal_noise noise in0",
    "Core::Randomization::fractal_turbulence noise in0",
    "Diagnostic::Display::point_scope diagnostic_geo in0",
    "Diagnostic::Display::volume_scope diagnostic_geo in0",
    "Diagnostic::Display::particle_collision_scope point_size arrow_size point_color arrow_color" ++
      " in0 in1 in2 in3",
    "Core::Fields::field_is_empty output in0",
    "Core::Fields::curl_noise_field noise_field in0",
    "Core::Fields::fractal_block_noise_field noise_field in0",
    "Core::Fields::fractal_disturbance_field noise_field in0",
    "Core::Fields::fractal_noise_field noise_field in0",
    "Core::Fields::fractal_turbulence_field noise_field in0",
    "Simulation::Influence::attract_repulse_influence attraction drag",
    "Simulation::Influence::dissipation_influence rate background_value",
    "Simulation::Influence::ground_plane_influence bounciness friction pushout pushout_velocity" ++
      " offset",
    "Simulation::Influence::influence_set_property out_influence in0",
    "Simulation::Influence::radial_influence magnitude drag",
    "Simulation::MPM::source_mpm_fluid mass_density viscosity surface_tension vibration_speed" ++
      " initial_speed direction inherit_velocity viscoelasticity relaxation_time in0 in1",
    "Simulation::BOSS::dynamic_wave_settings drift depth",
    "Simulation::Influence::collide_field_influence distance_field_velocity friction bounciness" ++
      " pushout pushout_velocity offset",
    "Simulation::Influence::modifier_influence min max value rate"].map named ++
  ["Core::Conversion 21 scalar_to_vector2 31 scalar_to_vector3 41 scalar_to_vector4 21" ++
      " vector3_to_vector4",
    "Rendering::Terminals 31 final_mode_switch",
    "Core::Compound_Tests 31 expect_equal expect_members_equal 41 expect_almost_equal",
    "Core::Compound_Tests 31 expect_arrays_equal",
    "Core::Logic 31 if members_if 21 equal not_equal greater_or_equal less_or_equal greater less" ++
      " and or xor",
    "Core::Logic 21 members_equal members_not_equal members_greater members_greater_or_equal" ++
      " members_less",
    "Core::Logic 21 members_less_or_equal",
    "Core::Math 21 remainder modulo 31 lerp 51 linear_interpolate 31 linear_interpolate_normalized",
    "Core::Math 21 distance distance_float_ULP 31 equivalent_float_ULP equivalent_float_epsilon" ++
      " 21 cross",
    "Core::Math 21 dot 51 change_range 31 within_bounds quaternion_slerp 21 multiply_quaternions",
    "Core::Math 21 normal_and_tangent_to_orientation rotation_between_vectors",
    "Core::Math 31 rotation_around_position_to_matrix 21 rotate_by_quaternion" ++
      " rotate_vector_by_matrix",
    "Core::Math 21 transform_vector_as_direction transform_vector_as_normal" ++
      " transform_vector_as_position",
    "Core::Math 21 atan_2D power 11 negate 21 copy_sign 41 SRT_to_matrix 21" ++
      " axis_angle_to_quaternion",
    "Core::Math 31 clamp 21 bitwise_and bitwise_or bitwise_xor bitwise_shift_left",
    "Core::Math 21 bitwise_shift_left_circular bitwise_shift_right bitwise_shift_right_circular",
    "Geometry::Common 21 switch_is_a 41 randomize_geo_property",
    "MachineLearning::Utils 31 z_score_denormalize z_score_normalize",
    "Core::Randomization 41 random_value",
    "Core::Fields 11 to_field 31 switch_fields",
    "Simulation::Influence 31 clamp_influence",
    "Simulation::Common 11 force_pull_port 21 should_simulate",
    "Simulation::Particles 31 set_particle_property_from_age",
    "Core::Type_Conversion 10 to_type_any 20 from_type_any to_bool to_char to_unsigned_char" ++
      " to_short",
    "Core::Type_Conversion 20 to_unsigned_short to_int to_unsigned_int to_long to_unsigned_long" ++
      " to_float",
    "Core::Type_Conversion 20 to_double",
    "Core::Conversion 20 degrees_to_radians radians_to_degrees 30 vector2_to_scalar 40" ++
      " vector3_to_scalar",
    "Core::Conversion 50 vector4_to_scalar 30 vector4_to_vector3",
    "Core::Transform 10 interpret_auto_port_as_transform",
    "Geometry::Common 10 interpret_auto_port_as_scalar sample_interpreted_auto_port_as_scalar",
    "Geometry::Common 10 interpret_auto_port_as_vector sample_interpreted_auto_port_as_vector",
    "Core::Array 30 array_bounds array_bounds_impl 10 array_dimensions array_size 20" ++
      " array_is_empty",
    "Core::Array 20 cumulative_sum_array empty_array 30 filter_array 20 find_all_in_array" ++
      " find_in_array",
    "Core::Array 20 find_in_sorted_array first_in_array flatten_nested_array 30 get_array_indices",
    "Core::Array 20 get_from_array 30 interleave_arrays intersect_arrays 20 last_in_array 30" ++
      " prefix_sum",
    "Core::Array 20 remove_from_array 30 resize_array 20 reverse_array reverse_find_in_array",
    "Core::Array 30 sequence_array set_in_array 20 shuffle_array slice_array small_slice" ++
      " sort_array",
    "Core::Array 20 sort_array_and_remove_duplicates sort_array_with_indices sum_array" ++
      " sum_array_impl",
    "Core::Math 30 get_from_interpolated_array",
    "Core::Graph 20 pass",
    "Diagnostic::Profiling 20 profiler_start profiler_end",
    "Core::Error 20 error",
    "Core::Logging 20 log_message",
    "Core::Compound_Tests 30 expect_type",
    "Core::Object 10 set_property",
    "Core::Constants 20 identity default_value zero one golden_ratio e pi tau numeric_min" ++
      " numeric_max",
    "Core::Constants 20 numeric_small",
    "Core::Logic 30 almost_equal 20 not",
    "Core::Math 20 absolute_value 30 split_fraction 20 truncate twice_of two_to_power_of half_of",
    "Core::Math 20 square_root cube_root one_over round_to_ceiling round_to_floor round_to_nearest",
    "Core::Math 20 log_base_e log_base_two log_base_ten exponential get_member increment decrement",
    "Core::Math 20 normalize length length_squared 40 direction_and_length 20" ++
      " euler_to_rotation_vector",
    "Core::Math 20 euler_to_quaternion 40 project_vector 20 {s} {s}_hyperbolic a{s}" ++
      " a{s}_hyperbolic",
    "Core::Math 20 transpose_matrix inverse_matrix matrix_determinant matrix_is_identity",
    "Core::Math 20 matrix_to_quaternion 50 matrix_to_SRT 20 quaternion_to_matrix",
    "Core::Math 30 quaternion_to_axis_angle 20 quaternion_to_rotation_vector quaternion_to_euler",
    "Core::Math 20 rotation_vector_to_quaternion transform_to_rotation_matrix 30" ++
      " find_orthogonal_vectors",
    "Core::Math 20 quaternion_invert bitwise_not",
    "Core::FCurve 20 evaluate_fcurve",
    "Rigging::Solver::Utils 10 enabled_with_weight equivalent_weight",
    "Geometry::Properties 30 points_to_transforms",
    "Geometry::Strands 10 create_strands_from_counts",
    "Geometry::Instances 30 flatten_instance_selection",
    "Geometry::Query 30 get_closest_locations 40 get_closest_point 30 sample_closest_accelerator",
    "Geometry::Query 30 sample_closest_point_accelerator get_points_in_radius",
    "Geometry::Query 20 sample_closest_in_radius_accelerator sample_points_by_radius" ++
      " sample_property",
    "Geometry::Query 20 sample_property_2D",
    "Geometry::Properties 20 get_geo_component_indices get_geo_property_or_default 10" ++
      " set_geo_property_data",
    "Geometry::Properties 30 get_geo_property get_geo_property_check get_indexed_geo_property",
    "Geometry::Mesh 30 get_mesh_UVs 20 sample_mesh_UVs 10 set_mesh_UVs",
    "Geometry::Tags 10 interpret_auto_port_as_component_tag set_component_tag",
    "Geometry::Tags 50 tag_by_angle_between_vectors",
    "Modeling::Mesh 10 disconnect_mesh_faces",
    "Modeling::Points 30 cull_points 20 randomize_point_rotation randomize_point_scale",
    "Modeling::Points 20 randomize_point_translation 10 transform_points",
    "Modeling::Instances 40 bake_instanced_geometry 20 create_instances",
    "Geometry::Volume 20 remap_property",
    "Geometry::Properties 20 set_geo_property set_indexed_geo_property",
    "Modeling::Points 30 scatter_points translate_points 40 rotate_points 30 scale_points" ++
      " displace_points",
    "Modeling::Points 50 orient_points_by_geometry",
    "Geometry::Strands 20 strands_basis_to_orientation",
    "Geometry::Query 40 get_raycast_locations sample_raycast_accelerator",
    "Modeling::Points 40 randomize_selection randomize_selection_by_probabilities",
    "Geometry::Query 30 sample_volume sample_volume_gradient",
    "MachineLearning::Activation 20 activation_{s}",
    "File::NumPy 50 read_NumPy 40 write_NumPy",
    "Core::Randomization 20 random_value_array simplex_noise",
    "Diagnostic::Display 20 assign_diagnostic_material location_scope",
    "Core::Fields 20 advect_field fcurve_field property_proxy_field rotate_field scale_field",
    "Core::Fields 20 translate_field transform_field warp_field voxel_field sample_field",
    "Core::Fields 20 sample_field_with_proxies voxel_proxy_field",
    "Simulation::Common 20 compute_on_frame",
    "Simulation::Influence 10 influence_set_orientation influence_set_spin set_influence_force",
    "Simulation::Influence 10 set_influence_drag set_influence_kill set_influence_mask",
    "Simulation::Common 10 compute_point_velocities 20 compute_velocity",
    "Simulation::Particles 20 filter_particles 10 property_kill_points",
    "Simulation::BOSS 10 create_wave_map",
    "Simulation::Common 20 vary_source_property",
    "Simulation::BOSS 30 scale_wave_height",
    "USD::Stage 10 add_to_stage",
    "USD::Layer 10 add_sublayer",
    "USD::Attribute 20 define_usd_attribute get_prim_attribute_data 10 set_prim_attribute",
    "USD::Prim 10 define_usd_geom_subset 30 duplicate_usd_prim_definition",
    "USD::VariantSet 10 add_to_stage_in_variant",
    "USD::Attribute 30 get_usd_attribute_value",
    "Core::Math 20 sin sin_hyperbolic asin asin_hyperbolic cos cos_hyperbolic acos" ++
      " acos_hyperbolic tan",
    "Core::Math 20 tan_hyperbolic atan atan_hyperbolic",
    "MachineLearning::Activation 20 activation_CELU activation_ELU activation_PReLU" ++
      " activation_RReLU",
    "MachineLearning::Activation 20 activation_ReLU activation_ReLU6 activation_SELU" ++
      " activation_hard_shrink",
    "MachineLearning::Activation 20 activation_hard_sigmoid activation_hard_swish" ++
      " activation_hard_tanh",
    "MachineLearning::Activation 20 activation_leaky_ReLU activation_log_sigmoid activation_mish",
    "MachineLearning::Activation 20 activation_sigmoid activation_soft_plus activation_soft_shrink",
    "MachineLearning::Activation 20 activation_soft_sign activation_tanh activation_tanh_shrink",
    "MachineLearning::Activation 20 activation_threshold",
    "Core::Math 21 add subtract multiply divide",
    "Core::String 21 build_string",
    "Core::Array 21 build_array",
    "Core::Iterators 21 for_each iterate do_while",
    "Core::Constants 21 float"].flatMap library ++
  [plain]

end GraphScript.Overload.Builtin
