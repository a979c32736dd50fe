import GraphScript.Overload.Builtin.Values

/-!
# Overloads of operators for fields, simulation and scene description
-/

namespace GraphScript.Overload.Builtin

open TypeSet

def fieldRules : List Registration :=
  inLibrary "Core::Fields" [
    rule "to_field" .toField,
    rule "switch_fields" .switchFields,
    force "field_is_empty" "output",
    sets "field_is_empty" [gives fields (.whole "bool")],
    sets "advect_field" [keeps fields],
    force "curl_noise_field" "noise_field",
    sets "curl_noise_field" [gives (float ∪ field) (.whole "Core::Fields::VectorField")],
    sets "fcurve_field" [keeps fields],
    force "fractal_block_noise_field" "noise_field",
    sets "fractal_block_noise_field" [gives (float ∪ field) (.whole "Core::Fields::ScalarField")],
    force "fractal_disturbance_field" "noise_field",
    sets "fractal_disturbance_field" [gives (float ∪ field) (.whole "Core::Fields::VectorField")],
    force "fractal_noise_field" "noise_field",
    sets "fractal_noise_field" [gives (float ∪ field) (.whole "Core::Fields::ScalarField")],
    force "fractal_turbulence_field" "noise_field",
    sets "fractal_turbulence_field" [gives (float ∪ field) (.whole "Core::Fields::VectorField")],
    sets "property_proxy_field rotate_field scale_field translate_field transform_field"
      [keeps fields],
    sets "warp_field voxel_field" [keeps fields],
    sets "sample_field" [gives field (.whole "float"), gives field3 (.whole "Math::float3")],
    sets "sample_field_with_proxies" [gives field (.whole "array<float>"), gives field3 (.whole
      "array<Math::float3>")],
    sets "voxel_proxy_field" [keeps fields]]

def simulation : List Registration :=
  inLibrary "Simulation::Common" [sets "compute_on_frame" [keeps all]] ++
  inLibrary "Simulation::Influence" [
    force "attract_repulse_influence" "attraction drag",
    sets "attract_repulse_influence" [takes [simVector, simScalar]],
    force "dissipation_influence" "rate background_value",
    sets "dissipation_influence" [takes [simScalar, simVector]],
    force "ground_plane_influence" "bounciness friction pushout pushout_velocity offset",
    sets "ground_plane_influence" [takes [simVector, simVector, simScalar, simScalar, simScalar]],
    sets "influence_set_orientation influence_set_spin" [takes [simVector]],
    force "influence_set_property" "out_influence",
    sets "influence_set_property" [gives (((float \ vector2) \ matrix) ∪ (bool ∩ simple) ∪ fields)
      (.whole "Object")],
    force "radial_influence" "magnitude drag",
    sets "radial_influence" [takes [simVector, simScalar]],
    sets "set_influence_force" [takes [simVector]],
    sets "set_influence_drag set_influence_kill set_influence_mask" [takes [simScalar]]] ++
  inLibrary "Simulation::Common" [
    sets "compute_point_velocities" [takes [shallow (float ∩ simple)]],
    sets "compute_velocity" [keeps (shallow object)]] ++
  inLibrary "Simulation::Particles" [
    sets "filter_particles" [fixes (simVector ∪ ofNames ["int", "Math::int3"]) ["Object"]],
    sets "property_kill_points" [takes [simVector ∪ ofNames ["int", "Math::int3"]]]] ++
  inLibrary "Simulation::MPM" [
    force "source_mpm_fluid"
      ("mass_density viscosity surface_tension vibration_speed initial_speed " ++
      "direction inherit_velocity viscoelasticity relaxation_time"),
    sets "source_mpm_fluid" [takes [ofNames ["float"], simScalar, simScalar, simScalar, simScalar,
      simScalar, simVector, simScalar, simScalar] ++ fixes simScalar ["array<Object>"]]] ++
  inLibrary "Simulation::BOSS" [
    sets "create_wave_map" [takes [autoVector ∪ shallow (float \ vector4)]],
    force "dynamic_wave_settings" "drift depth",
    sets "dynamic_wave_settings" [takes [(float ∩ vector2) ∪ autoVector ∪ (object \ array), ofNames
      ["Object"]]]] ++
  inLibrary "Simulation::Common" [sets "vary_source_property" [keeps (numeric \ array)]] ++
  inLibrary "Simulation::Influence" [
    rule "clamp_influence" .clampInfluence,
    force "collide_field_influence"
      "distance_field_velocity friction bounciness pushout pushout_velocity offset",
    sets "collide_field_influence" [takes [simVector, simScalar, simScalar, simScalar, simScalar,
      simScalar]],
    force "modifier_influence" "min max value rate",
    sets "modifier_influence" [takes [simVector, simScalar, simVector, simVector]]] ++
  inLibrary "Simulation::Common" [
    rule "force_pull_port" .forceEvaluation,
    rule "should_simulate" .shouldSimulate] ++
  inLibrary "Simulation::Particles"
    [rule "set_particle_property_from_age" .particlePropertyFromAge] ++
  inLibrary "Simulation::BOSS" [
    sets "scale_wave_height" [takes [autoScalar] ++ fixes autoScalar ["array<Object>"]]]

def usd : List Registration :=
  inLibrary "USD::Stage" [sets "add_to_stage" [takes [ofNames ["BifrostUsd::Layer"]]]] ++
  inLibrary "USD::Layer" [
    sets "add_sublayer" [takes [ofNames ["BifrostUsd::Layer", "array<BifrostUsd::Layer>"]]]] ++
  inLibrary "USD::Attribute" [
    sets "define_usd_attribute" [fixes usdAttribute ["Object"]],
    sets "get_prim_attribute_data" [keeps usdAttribute],
    sets "set_prim_attribute" [takes [usdAttribute]]] ++
  inLibrary "USD::Prim" [
    sets "define_usd_geom_subset" [takes [(long ∪ int) ∩ simple ∩ (array1 \ unsigned)]],
    sets "duplicate_usd_prim_definition" [takes [autoVector, autoVector, autoVector]]] ++
  inLibrary "USD::VariantSet" [
    sets "add_to_stage_in_variant" [takes [ofNames ["BifrostUsd::Layer"]]]] ++
  inLibrary "USD::Attribute" [
    sets "get_usd_attribute_value" [[group usdAttribute [.same, .fixed "bool"]]]]

end GraphScript.Overload.Builtin
