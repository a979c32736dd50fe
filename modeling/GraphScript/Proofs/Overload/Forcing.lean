import GraphScript.Proofs.Elaboration.Overloading

/-!
# Ports that are forced to be `auto`

To force ports, the keys of the overloads are taken apart and put together again.  A key and its
parts determine each other, so nothing is lost on the way.
-/

namespace GraphScript

open List

theorem Text.splitAll_eq (mark : Char) (text : List Char) : splitAll mark text =
    text.splitOn mark := by
  induction text with
  | nil => rfl
  | cons _ tail ih =>
    rw [splitAll, splitOn_cons_eq_if_modifyHead, ih]
    cases parts : tail.splitOn mark with
    | nil => exact absurd parts (splitOn_ne_nil _ _)
    | cons => simp

theorem Text.notMem_of_mem_splitAll (member : part ∈ splitAll mark text) : mark ∉ part := by
  fun_induction splitAll mark text generalizing part <;> grind

theorem Table.insert_insert (table : Table α) (name : String) (value : α) :
    (table.insert name value).insert name value = table.insert name value := by
  obtain ⟨entries⟩ := table
  refine congrArg Table.mk ?_
  induction entries with
  | nil => simp [insert, insertEntry]
  | cons entry => by_cases same : entry.1 = name <;> simp_all [insert, insertEntry]

namespace Overload

open Act (Yields yields_bind yields_lift yields_modify)

variable {names ports types : List String} {operator : Operator} {first : String × List String}

/-! ## Keys -/

theorem keyOf_keyParts (key : String) : keyOf (keyParts key) = key := by
  rw [← String.toList_inj, keyOf, String.toList_intercalate, keyParts, Text.parts, map_map,
    Text.splitAll_eq]
  simp [Function.comp_def, intercalate_splitOn]

theorem keyParts_keyOf (some : types ≠ []) (whole : ∀ type ∈ types, '-' ∉ type.toList) :
    keyParts (keyOf types) = types := by
  have split : splitOn '-' (['-'].intercalate (types.map String.toList)) =
    types.map String.toList :=
    splitOn_intercalate '-' (by simpa using whole) (by simpa using some)
  rw [keyParts, Text.parts, Text.splitAll_eq, keyOf, String.toList_intercalate]
  simp [split, Function.comp_def]

/-- The types with `auto` where the port is listed. -/
def opened (names ports types : List String) : List String :=
  types.mapIdx fun place type => if names[place]?.any ports.contains then "auto" else type

theorem withAuto_eq (names : List String) : withAuto names ports types =
    opened names ports types := by
  induction types generalizing names with
  | nil => simp [withAuto, opened]
  | cons =>
    cases names with
    | nil => exact (mapIdx_eq_iff.mpr fun _ => by simp [withAuto]).symm
    | cons => simp_all [withAuto, opened, mapIdx_cons, PortType.autoName]

theorem opened_opened : opened names ports (opened names ports types) =
    opened names ports types := by
  simp only [opened, mapIdx_mapIdx, Function.comp_def]
  congr! 3
  split <;> rfl

theorem keyParts_opened (names ports : List String) (key : String) :
    keyParts (keyOf (opened names ports (keyParts key))) = opened names ports (keyParts key) := by
  refine keyParts_keyOf (by simp [opened, keyParts, Text.parts, Text.splitAll_ne_nil])
    fun _ member => ?_
  obtain ⟨_, bound, rfl⟩ := mem_mapIdx.mp member
  split
  · decide
  · obtain ⟨_, inside, same⟩ := mem_map.mp (getElem_mem bound)
    rw [← same, String.toList_ofList]
    exact Text.notMem_of_mem_splitAll inside

/-! ## Overloads -/

/-- An overload is the first one and gives every port a type, and no two overloads have the same
key. -/
structure Operator.Begins (operator : Operator) (first : String × List String) : Prop where
  head : operator.overloads.entries.head? = some first
  inputs : operator.inputs.length ≤ (keyParts first.1).length
  outputs : operator.outputs.length ≤ first.2.length
  distinct : operator.overloads.keys.Nodup

/-- The first overload with the listed ports opened. -/
def Operator.front (operator : Operator) (ports : List String) (first : String × List String) :
    String × List String :=
  (keyOf (opened operator.inputs ports (keyParts first.1)), opened operator.outputs ports first.2)

/-- The first overload is opened, and comes before all others that have another key. -/
def Operator.forced (operator : Operator) (ports : List String)
    (first : String × List String) : Operator :=
  { operator with
    overloads := ⟨operator.front ports first ::
      operator.overloads.entries.filter fun entry => entry.1 != (operator.front ports first).1⟩ }

theorem Operator.Begins.forced (begins : operator.Begins first) :
    (operator.forced ports first).Begins (operator.front ports first) where
  head := rfl
  inputs := by
    rw [Operator.front, keyParts_opened, opened, length_mapIdx]
    exact begins.inputs
  outputs := begins.outputs.trans_eq length_mapIdx.symm
  distinct := nodup_cons.mpr ⟨by simp, begins.distinct.sublist (filter_sublist.map _)⟩

theorem Operator.forced_forced :
    (operator.forced ports first).forced ports (operator.front ports first) =
      operator.forced ports first := by
  have same : (operator.forced ports first).front ports (operator.front ports first) =
      operator.front ports first := by
    rw [front, front, keyParts_opened]
    exact congrArg₂ Prod.mk (congrArg keyOf opened_opened) opened_opened
  rw [forced, same]
  simp [forced]

theorem reachesPorts_of_le (enough : names.length ≤ types.length) :
    reachesPorts names ports types := by
  rw [reachesPorts, all_eq_true]
  intro _ member
  have inside := snd_lt_of_mem_zipIdx (mem_filter.mp member).1
  simpa using inside.trans_le enough

/-- At most one overload is taken out. -/
theorem eraseP_eq_filter {entries : List (String × List String)}
    (distinct : (entries.map Prod.fst).Nodup) (front : String) :
    (entries.eraseP fun entry => keyParts entry.1 == keyParts front) =
      entries.filter fun entry => entry.1 != front := by
  have isFront : ∀ other, keyParts other = keyParts front ↔ other = front := fun other =>
    ⟨fun same => by rw [← keyOf_keyParts other, same, keyOf_keyParts], congrArg _⟩
  induction entries with
  | nil => rfl
  | cons entry _ ih =>
    obtain ⟨new, distinct⟩ := nodup_cons.mp distinct
    by_cases found : entry.1 = front
    · rw [eraseP_cons_of_pos (by simp [found]), filter_cons_of_neg (by simp [found]),
        filter_eq_self.mpr]
      intro other member
      simpa using fun same : other.1 = front => new (found.trans same.symm ▸ mem_map_of_mem member)
    · rw [eraseP_cons_of_neg (by simpa [isFront] using found),
        filter_cons_of_pos (by simpa using found), ih distinct]

theorem forcedOverloads_eq (begins : operator.Begins first) :
    forcedOverloads operator ports = .ok (operator.forced ports first).overloads := by
  have others := eraseP_eq_filter begins.distinct (operator.front ports first).1
  rw [Operator.front, keyParts_opened] at others
  obtain ⟨_, same⟩ := head?_eq_some_iff.mp begins.head
  rw [forcedOverloads, same]
  dsimp only
  rw [reachesPorts_of_le begins.inputs, reachesPorts_of_le begins.outputs, withAuto_eq, withAuto_eq,
    ← same, others]
  exact congrArg (fun entries => Except.ok (Table.mk entries))
    (Table.entries_ofList begins.forced.distinct)

theorem yields_forceAuto (found : registry.operators.get? name = some operator)
    (known : ∀ port ∈ ports, port ∈ operator.inputs ++ operator.outputs)
    (begins : operator.Begins first) : Yields (forceAuto name ports) ⟨registry, log⟩ ()
      ⟨registry.setOperator name (operator.forced ports first), log⟩ := by
  have all : ports.find? (fun port => !(operator.inputs ++ operator.outputs).contains port) =
    none := by
    rw [find?_eq_none]
    intro port member
    simpa [or_iff_not_imp_left] using known port member
  refine yields_bind.mpr ⟨registry, ⟨registry, log⟩, rfl, ?_⟩
  simp only [found, all]
  exact yields_bind.mpr ⟨_, _, yields_lift.mpr ⟨forcedOverloads_eq begins, rfl⟩,
    yields_modify.mpr rfl⟩

/-- Forcing ports puts the first overload in front with `auto` at the listed inputs and outputs.
After it come all overloads that were there, in their order, but for one with the new first key.
Forcing the same ports again changes nothing. -/
theorem forceAuto_keeps_others {registry : Registry} {log : Log}
    (found : registry.operators.get? name = some operator)
    (known : ∀ port ∈ ports, port ∈ operator.inputs ++ operator.outputs)
    (begins : operator.Begins first) :
    ∃ front : String × List String,
      keyParts front.1 = opened operator.inputs ports (keyParts first.1) ∧
      front.2 = opened operator.outputs ports first.2 ∧
      let overloads := front :: operator.overloads.entries.filter fun entry => entry.1 != front.1
      let after := registry.setOperator name { operator with overloads := ⟨overloads⟩ }
      Yields (forceAuto name ports) ⟨registry, log⟩ () ⟨after, log⟩ ∧
        Yields (forceAuto name ports) ⟨after, log⟩ () ⟨after, log⟩ := by
  refine ⟨operator.front ports first, keyParts_opened .., rfl,
    yields_forceAuto found known begins, ?_⟩
  have stored : (registry.setOperator name (operator.forced ports first)).operators.get? name =
      some (operator.forced ports first) := by
    simp [Registry.setOperator]
  have again : Yields (forceAuto name ports) ⟨_, log⟩ () _ :=
    yields_forceAuto stored known begins.forced
  rw [Operator.forced_forced] at again
  have same : (registry.setOperator name (operator.forced ports first)).setOperator name
      (operator.forced ports first) = registry.setOperator name (operator.forced ports first) :=
    congrArg (fun operators => { registry with operators }) (Table.insert_insert ..)
  rwa [same] at again

/-- Forcing the first port of a sum puts a key in front that was in the middle. -/
theorem forceAuto_keeps_others_sum :
    let overloads := ["int-int", "auto-int", "float-float"].map (·, ["int"])
    let sum : Operator := { (default : Operator) with
      inputs := ["first", "second"], outputs := ["sum"], overloads := ⟨overloads⟩ }
    let registry := { (default : Registry) with operators := ⟨[("sum", sum)]⟩ }
    sum.Begins ("int-int", ["int"]) ∧ ∃ front : String × List String,
      keyParts front.1 = ["auto", "int"] ∧ front.2 = ["int"] ∧
      let after := registry.setOperator "sum"
        { sum with overloads := ⟨front :: overloads.filter fun entry => entry.1 != front.1⟩ }
      Yields (forceAuto "sum" ["first"]) ⟨registry, default⟩ () ⟨after, default⟩ ∧
        Yields (forceAuto "sum" ["first"]) ⟨after, default⟩ () ⟨after, default⟩ := by
  intro overloads sum registry
  have begins : sum.Begins ("int-int", ["int"]) := ⟨rfl, by decide, by decide, by decide⟩
  have known : ∀ port ∈ ["first"], port ∈ sum.inputs ++ sum.outputs := by decide
  have found : registry.operators.get? "sum" = some sum := rfl
  exact ⟨begins, forceAuto_keeps_others found known begins⟩

end Overload

end GraphScript
