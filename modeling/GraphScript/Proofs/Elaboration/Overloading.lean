import GraphScript.Proofs.Elaboration.Places
import GraphScript.Proofs.Overload.Soundness

/-!
# Overloads take effect

An overload of an operator gives output types for some types of its ports.  A call whose arguments
have just these types on just these ports is resolved by it: the types that the overload is stored
under and the types that the call is resolved with are the same list, whatever other rules the
operator has.
-/

namespace GraphScript

open List hiding after count

namespace Table

theorem insertAll_cons (table : Table α) (entry : String × α) (rest : List (String × α)) :
    table.insertAll (entry :: rest) = (table.insert entry.1 entry.2).insertAll rest := rfl

/-- Inserting keeps the first name. -/
theorem head_insertAll (added : List (String × α)) :
    ∀ {table : Table α} {value : α} {others : List (String × α)},
      table.entries = (key, value) :: others →
      ∃ value others, (table.insertAll added).entries = (key, value) :: others := by
  induction added with
  | nil => exact fun first => ⟨_, _, first⟩
  | cons entry _ ih =>
    intro table value others first
    by_cases same : key = entry.1
    · have grown : (table.insert entry.1 entry.2).entries = (key, entry.2) :: others := by
        simp [insert, insertEntry, first, same]
      exact ih grown
    · have grown : (table.insert entry.1 entry.2).entries =
          (key, value) :: insertEntry entry.1 entry.2 others := by
        simp [insert, insertEntry, first, same]
      exact ih grown

theorem get?_insertAll_of_notMem :
    ∀ {table : Table α}, (∀ entry ∈ added, entry.1 ≠ name) →
      (table.insertAll added).get? name = table.get? name := by
  induction added with
  | nil => exact fun _ => rfl
  | cons _ _ ih =>
    intro _ others
    obtain ⟨first, later⟩ := forall_mem_cons.mp others
    rw [insertAll_cons, ih later, get?_insert, if_neg (Ne.symm first)]

/-- Where all that is inserted has one value, each name that is inserted finds it. -/
theorem get?_insertAll_of_mem :
    ∀ {table : Table α}, (∀ entry ∈ added, entry.2 = value) → name ∈ added.map Prod.fst →
      (table.insertAll added).get? name = some value := by
  induction added with
  | nil => exact fun _ absent => (not_mem_nil absent).elim
  | cons entry rest ih =>
    intro _ same member
    obtain ⟨sameFirst, sameRest⟩ := forall_mem_cons.mp same
    rw [insertAll_cons]
    by_cases later : name ∈ rest.map Prod.fst
    · exact ih sameRest later
    · have first : name = entry.1 := (mem_cons.mp member).resolve_right later
      have new : ∀ other ∈ rest, other.1 ≠ name :=
        fun _ inside same => later (same ▸ mem_map_of_mem inside)
      rw [get?_insertAll_of_notMem new, get?_insert, if_pos first, sameFirst]

theorem insertEntry_of_notMem (value : α) {entries : List (String × α)}
    (new : name ∉ entries.map Prod.fst) :
    insertEntry name value entries = entries ++ [(name, value)] := by
  induction entries with
  | nil => rfl
  | cons _ _ ih =>
    rw [map_cons, mem_cons, not_or] at new
    rw [insertEntry, if_neg (Ne.symm new.1), ih new.2, cons_append]

/-- A table of entries with different names has just these entries. -/
theorem entries_ofList {entries : List (String × α)} (distinct : (entries.map Prod.fst).Nodup) :
    (ofList entries).entries = entries := by
  have grown : ∀ (added : List (String × α)) (table : Table α),
      ((table.entries ++ added).map Prod.fst).Nodup →
      (table.insertAll added).entries = table.entries ++ added := by
    intro added
    induction added with
    | nil => exact fun table _ => (append_nil _).symm
    | cons entry _ ih =>
      intro table distinct
      have new : entry.1 ∉ table.entries.map Prod.fst := by
        rw [map_append, map_cons] at distinct
        exact fun again => (nodup_append.mp distinct).2.2 _ again _ (mem_cons_self ..) rfl
      have one : (table.insert entry.1 entry.2).entries = table.entries ++ [entry] :=
        insertEntry_of_notMem entry.2 new
      rw [insertAll_cons, ih, one, append_assoc, singleton_append]
      rwa [one, append_assoc, singleton_append]
  exact grown entries empty (by simpa using distinct)

end Table

namespace Overload

open Act (Yields Passes yields_bind yields_pure yields_lift)

theorem mapM_ofName {names : List String} (typed : ∀ name ∈ names, Passes (PortType.ofName name)) :
    names.mapM PortType.ofName = .ok (names.map fun name => .mk name none) := by
  refine Act.mapM_eq_map fun name member => ?_
  obtain ⟨_, made⟩ := typed name member
  rw [made, Typing.eq_mk_of_make made]

theorem checkSlots_named (typed : ∀ name ∈ names, Passes (PortType.ofName name)) :
    checkSlots (names.map .named) = .ok names := by
  rw [checkSlots, mapM_map, Act.mapM_eq_ok, forall₂_same]
  intro name member
  obtain ⟨_, made⟩ := typed name member
  rw [Function.comp, Slot.check, made, Typing.eq_mk_of_make made]
  rfl

theorem checkSlots_asGiven (types : List PortType) :
    checkSlots (asGiven types) = .ok (types.map PortType.name) := by
  rw [checkSlots, asGiven, mapM_map]
  exact Act.mapM_eq_map fun _ _ => rfl

theorem ne_empty_of_passes (typed : Passes (PortType.ofName name)) : name ≠ "" := by
  rintro rfl
  exact absurd typed (by decide +kernel)

theorem keyTypes_eq (typed : ∀ type ∈ keyParts key, Passes (PortType.ofName type)) :
    keyTypes key = keyParts key :=
  filter_eq_self.mpr fun type member => by simpa using ne_empty_of_passes (typed type member)

/-- An overload for exactly the types of the arguments resolves a call, whatever rules there are. -/
theorem resolve_exact (known : registry.operators.get? name = some operator)
    (first : operator.overloads.entries = (key, defaults) :: others)
    (few : arguments.length ≤ (keyTypes key).length)
    (same : arguments.map (fun type => type.onlyPort.name) = types)
    (found : operator.overloads.get? (keyOf types) = some outputs)
    (typed : ∀ type ∈ outputs, Passes (PortType.ofName type)) (log : Log) :
    Yields (resolve registry name arguments) log (.found types outputs) log := by
  subst same
  have resolved : Yields (resolvePorts registry name operator (keyTypes key) defaults
      (arguments.map PortType.onlyPort)) log
      (.found (asGiven (arguments.map PortType.onlyPort)) (outputs.map .named)) log := by
    unfold resolvePorts
    rw [if_neg (by simpa using few), map_map, Function.comp_def, found]
    exact yields_pure.mpr ⟨rfl, rfl⟩
  unfold resolve
  rw [known]
  dsimp only
  rw [first]
  refine yields_bind.mpr ⟨_, _, resolved, ?_⟩
  refine yields_bind.mpr ⟨_, _, yields_lift.mpr ⟨checkSlots_asGiven _, rfl⟩, ?_⟩
  refine yields_bind.mpr ⟨_, _, yields_lift.mpr ⟨checkSlots_named typed, rfl⟩, ?_⟩
  rw [map_map]
  exact yields_pure.mpr ⟨rfl, rfl⟩

end Overload

namespace Elaboration

open Act (Yields Passes yields_bind yields_pure yields_get yields_lift yields_zoom)
open GraphScript.Language (Tree)
open Overload (Operator keyOf keyParts keyTypes)
open Program (Term Terminals)
open Syntax (OverloadPort)

/-! ## Calls -/

section Calls

theorem yields_checkCast_self (spot : Tree) (type : PortType) (port : Option String) :
    Yields (checkCast spot type type port) session () session := by
  have same : PortType.compare type type = .ok {} := by
    unfold PortType.compare
    rw [if_pos (show (type == type) = true from beq_self_eq_true type.name)]
    rfl
  unfold checkCast
  rw [same]
  rfl

theorem yields_checkBound_self :
    ∀ given : List Given, Yields (checkBound given (given.map Given.type)) session () session
  | [] => rfl
  | given :: rest => by
    exact yields_bind.mpr ⟨(), session, yields_checkCast_self .., yields_checkBound_self rest⟩

theorem yields_resolveNow
    (resolved : ∀ log, Yields (Overload.resolve session.registry name arguments) log answer log) :
    Yields (registering (Overload.resolveNow name arguments)) session answer session := by
  refine yields_zoom.mpr ⟨session.desk, ?_, rfl⟩
  refine yields_bind.mpr ⟨session.registry, session.desk, rfl, ?_⟩
  exact yields_zoom.mpr ⟨_, resolved _, rfl⟩

theorem onlyPort_mk_none (name : String) : (PortType.mk name none).onlyPort = .mk name none := by
  unfold PortType.onlyPort
  split
  next port _ ports => cases ports
  next => rfl

/-- The names of the types of the arguments of a call, at the positions of their ports. -/
def argumentNames (names : List String) (positional named : List Given) : List (Nat × String) :=
  (argumentPlaces names positional named).map fun place => (place.1, place.2.onlyPort.name)

section Native

theorem positions_argumentNames :
    (argumentNames names positional named).map Prod.fst =
      (argumentPlaces names positional named).map Prod.fst := by
  rw [argumentNames, map_map]
  rfl

/-- What the arguments of a call are bound to: the declared types, with their types in their
places. -/
def boundTo (types names : List String) (positional named : List Given) : Bound :=
  Bound.putAll ⟨types.map fun type => .mk type none, names.map fun _ => none⟩
    (argumentPlaces names positional named)

theorem types_boundTo (types : List String) :
    (boundTo types names positional named).types.map (fun type => type.onlyPort.name) =
      putAll types (argumentNames names positional named) := by
  have declared : (types.map fun type => PortType.mk type none).map
      (fun type => type.onlyPort.name) = types := by
    rw [map_map]
    refine (map_congr_left fun _ _ => ?_).trans (map_id _)
    rw [Function.comp_apply, onlyPort_mk_none]
    rfl
  refine (map_putAll ..).trans ?_
  rw [declared, argumentNames]

theorem bindArguments_boundTo (once : ((argumentPlaces names positional named).map Prod.fst).Nodup)
    (inside : ∀ place ∈ argumentPlaces names positional named,
      place.1 < types.length ∧ place.1 < names.length) :
    bindArguments names (types.map fun type => .mk type none) positional named =
      pure (boundTo types names positional named) :=
  bindArguments_eq once fun place member => by simpa using inside place member

theorem bindOperator_eq {others : List (List String)}
    (typed : ∀ type ∈ keyParts key, Passes (PortType.ofName type))
    (once : ((argumentPlaces names positional named).map Prod.fst).Nodup)
    (inside : ∀ place ∈ argumentPlaces names positional named,
      place.1 < (keyParts key).length ∧ place.1 < names.length) :
    bindOperator names positional named none (keyTypes key :: others) =
      .ok (.ok (boundTo (keyParts key) names positional named)) := by
  have binds := bindArguments_boundTo once inside
  have all : (keyTypes key).filter (· != "") = keyParts key := by
    rw [Overload.keyTypes_eq typed]
    exact filter_eq_self.mpr fun type member => by
      simpa using Overload.ne_empty_of_passes (typed type member)
  rw [bindOperator, all, Overload.mapM_ofName typed]
  dsimp only [bind, Except.bind]
  rw [binds]
  rfl

end Native

/-- A call of an operator that has an overload for exactly the types that the call is resolved with
gets the outputs of this overload. -/
theorem yields_callNative (spot : Tree) (terminals : Terminals) {full : String}
    (known : session.registry.operators.get? full = some operator)
    (first : operator.overloads.entries = (key, defaults) :: others)
    (typed : ∀ type ∈ keyParts key, Passes (PortType.ofName type))
    (once : ((argumentPlaces operator.inputs positional named).map Prod.fst).Nodup)
    (inside : ∀ place ∈ argumentPlaces operator.inputs positional named,
      place.1 < (keyParts key).length ∧ place.1 < operator.inputs.length)
    (argumentsTyped : ∀ type ∈ putAll (keyParts key)
    (argumentNames operator.inputs positional named),
      Passes (PortType.ofName type)) (found : operator.overloads.get?
      (keyOf (putAll (keyParts key) (argumentNames operator.inputs positional named))) =
        some outputs)
    (outputsTyped : ∀ type ∈ outputs, Passes (PortType.ofName type)) :
    ∃ term after, Yields (callNative spot full terminals positional named) session term after ∧
      term.outputs? = some (outputsOf operator.outputs (outputs.map fun type =>
        .mk type none)) := by
  let bound := boundTo (keyParts key) operator.inputs positional named
  let types := putAll (keyParts key) (argumentNames operator.inputs positional named)
  let after : Session := { session with nextId := session.nextId + 1 }
  let call : Term := .mk session.nextId (.native full (argumentsOf positional)
    (argumentsOf (inPortOrder operator.inputs named)) terminals (types.map fun type =>
      .mk type none)
    bound.argumentTypes (outputsOf operator.outputs (outputs.map fun type => .mk type none)))
  have isOperator := operator_of_get? known
  have resolved := Overload.resolve_exact known first
    (by simp [Overload.keyTypes_eq typed, boundTo, Bound.putAll])
    (types_boundTo _) found outputsTyped
  have inOrder : bound.argumentTypes =
    (positional ++ inPortOrder operator.inputs named).map Given.type :=
    argumentTypes_putAll once fun place member => (inside place member).2
  have checked : Yields (checkBound (positional ++ inPortOrder operator.inputs named)
      bound.argumentTypes) after () after := by
    rw [inOrder]
    exact yields_checkBound_self _
  refine ⟨call, after, ?_, rfl⟩
  refine yields_bind.mpr ⟨session.registry, session, yields_registry.mpr ⟨rfl, rfl⟩, ?_⟩
  refine yields_bind.mpr ⟨(operator.overloads.keys.map keyTypes, operator.overloads.values),
    session, yields_lift.mpr ⟨?_, rfl⟩, ?_⟩
  · rw [Overload.Registry.allPortTypes, isOperator]
    rfl
  refine yields_bind.mpr ⟨(operator.inputs, operator.outputs), session,
    yields_lift.mpr ⟨?_, rfl⟩, ?_⟩
  · rw [Overload.Registry.portNames, isOperator]
    rfl
  refine yields_bind.mpr ⟨.ok bound, session, yields_lift.mpr ⟨?_, rfl⟩, ?_⟩
  · rw [Table.keys, first]
    exact bindOperator_eq typed once inside
  refine yields_bind.mpr ⟨_, session, yields_resolveNow resolved, ?_⟩
  refine yields_bind.mpr ⟨_, session,
    yields_lift.mpr ⟨Overload.mapM_ofName argumentsTyped, rfl⟩, ?_⟩
  refine yields_bind.mpr ⟨_, session, yields_lift.mpr ⟨Overload.mapM_ofName outputsTyped, rfl⟩, ?_⟩
  refine yields_bind.mpr ⟨call, after, rfl, ?_⟩
  exact yields_bind.mpr ⟨(), after, checked, yields_pure.mpr ⟨rfl, rfl⟩⟩

/-- A name that stands for an operator with input ports calls it. -/
theorem yields_callNamed {terminals : Terminals}
    (notInspection : Text.startsWith "__debug::" name = false)
    (native : session.functions.lookup? name = none)
    (stands : session.registry.fullName? name = some full)
    (known : session.registry.operators.get? full = some operator)
    (hasInputs : operator.inputs ≠ [])
    (run : Yields (callNative spot full terminals positional named) session term after) :
    Yields (callNamed spot nameSpot name terminals positional named) session term after := by
  have notAssociative : session.registry.isAssociative full = .ok false := by
    rw [Overload.Registry.isAssociative, operator_of_get? known]
    simp [hasInputs]
  unfold callNamed
  rw [if_neg (by simp [notInspection])]
  refine yields_bind.mpr ⟨session, session, yields_get.mpr ⟨rfl, rfl⟩, ?_⟩
  dsimp only
  split
  next found =>
    rw [native] at found
    cases found
  next =>
    refine yields_bind.mpr ⟨session.registry, session, yields_registry.mpr ⟨rfl, rfl⟩, ?_⟩
    rw [stands]
    refine yields_bind.mpr ⟨session.registry, session, yields_registry.mpr ⟨rfl, rfl⟩, ?_⟩
    exact yields_bind.mpr ⟨false, session, yields_lift.mpr ⟨notAssociative, rfl⟩, run⟩

end Calls

/-! ## Overloads of operators -/

/-- The first overload of an operator declares types for its ports, and its outputs have different
names. -/
structure Declares (operator : Operator) (key : String) (defaults : List String) : Prop where
  first : ∃ others, operator.overloads.entries = (key, defaults) :: others
  typedIn : ∀ type ∈ keyParts key, Passes (PortType.ofName type)
  typedOut : ∀ type ∈ defaults, Passes (PortType.ofName type)
  distinct : operator.outputs.Nodup

structure Concrete (names : List String) (choice : List (OverloadPort × String)) : Prop where
  once : ((declaredPlaces names choice).map Prod.fst).Nodup
  typed : ∀ entry ∈ choice, Passes (PortType.ofName entry.2)

theorem Concrete.typed_putAll (concrete : Concrete names choice)
    (typed : ∀ type ∈ declared, Passes (PortType.ofName type)) :
    ∀ type ∈ putAll declared (declaredPlaces names choice), Passes (PortType.ofName type) := by
  intro type member
  rcases mem_of_mem_putAll member with before | put
  · exact typed type before
  · rw [declaredPlaces, types_declaredFrom] at put
    obtain ⟨entry, inside, rfl⟩ := mem_map.mp put
    exact concrete.typed entry inside

/-- The positions of the ports of an overload are positions of names when there are not too many
ports. -/
theorem WithinPorts.below (inside : WithinPorts count 0 names choice)
    (few : choice.length ≤ names.length) :
    ∀ place ∈ declaredPlaces names choice, place.1 < count ∧ place.1 < names.length := by
  intro place member
  obtain ⟨below, _⟩ := inside place member
  exact ⟨below, by omega⟩

/-- Declared output types are those of the ports. -/
theorem mem_outputsOf (concrete : Concrete names choice) (distinct : names.Nodup)
    (inside : ∀ place ∈ declaredPlaces names choice, place.1 < declared.length ∧
      place.1 < names.length) {place : Nat × String}
        (member : place ∈ declaredPlaces names choice) :
    ∃ port type, names[place.1]? = some port ∧
      (port, type) ∈ outputsOf names ((putAll declared (declaredPlaces names choice)).map
        fun type => .mk type none) ∧ type.name = place.2 := by
  obtain ⟨belowTypes, belowNames⟩ := inside place member
  have put := getElem?_putAll concrete.once member belowTypes
  refine ⟨names[place.1], .mk place.2 none, List.getElem?_eq_getElem belowNames, ?_, rfl⟩
  have different : ((names.zip ((putAll declared (declaredPlaces names choice)).map
      fun type => PortType.mk type none)).map Prod.fst).Nodup := by
    rw [zip_eq_zip_take_min, map_fst_zip (by simp)]
    exact distinct.sublist (take_sublist ..)
  rw [outputsOf, Table.entries_ofList different]
  refine mem_of_getElem? (List.getElem?_zip_eq_some.mpr ⟨List.getElem?_eq_getElem belowNames, ?_⟩)
  rw [List.getElem?_map, put]
  rfl

/-- Once an overload of an operator is accepted, then for every choice of its types, a call with
arguments of just these types on just these ports is accepted, and its outputs have the types that
the overload declares for them.  Overloads for other types may have been written in between. -/
theorem callNamed_of_overloadPorts {spot inputSpot resultSpot callSpot nameSpot : Tree}
    {called full : String} {inputs outputs : List OverloadPort} {before after later : Session}
    {defaults : List String} {added : List (String × List String)}
    {outcome : List (OverloadPort × String)} {terminals : Terminals}
    (accepted : Yields (overloadPorts spot inputSpot resultSpot name inputs outputs) before
      () after) (nonempty : inputs ≠ []) (native : before.functions.lookup? name = none)
    (stands : before.registry.fullName? name = some full)
    (known : before.registry.operators.get? full = some operator)
    (declares : Declares operator key defaults) (chosen : choice ∈ choices inputs)
    (concrete : Concrete operator.inputs choice) (given : outcome ∈ choices outputs)
    (concreteOut : Concrete operator.outputs outcome)
    (grown : later.registry.operators.get? full =
      (after.registry.operators.get? full).map (·.withOverloads added))
    (different : ∀ entry ∈ added,
      entry.1 ≠ keyOf (putAll (keyParts key) (declaredPlaces operator.inputs choice)))
    (nativeCall : later.functions.lookup? called = none)
    (standsCall : later.registry.fullName? called = some full)
    (notInspection : Text.startsWith "__debug::" called = false)
    (bound : (argumentNames operator.inputs positional named).Perm
      (declaredPlaces operator.inputs choice)) :
    ∃ term last ports,
      Yields (callNamed callSpot nameSpot called terminals positional named) later term last ∧
      term.outputs? = some ports ∧
      ∀ place ∈ declaredPlaces operator.outputs outcome, ∃ port type,
        operator.outputs[place.1]? = some port ∧ (port, type) ∈ ports ∧ type.name = place.2 := by
  obtain ⟨others, first⟩ := declares.first
  obtain ⟨typesOut, stored⟩ := stored_overloadPorts native stands known first accepted
  have insideIn := (stored.insideIn choice chosen).below
    (length_of_mem_choices chosen ▸ stored.fewInputs)
  have insideOut := (stored.insideOut outcome given).below
    (length_of_mem_choices given ▸ stored.fewOutputs)
  -- The operator of the call has the overload, under the types that the call is resolved with.
  let stock := (choices inputs).map fun choice =>
    (keyOf (putAll (keyParts key) (declaredPlaces operator.inputs choice)), typesOut)
  have callOperator : later.registry.operators.get? full =
      some (operator.withOverloads (stock ++ added)) := by
    rw [grown, stored.operator, Operator.withOverloads_append]
    rfl
  obtain ⟨_, _, firstCall⟩ := Table.head_insertAll (stock ++ added) first
  have onceNames := (bound.map Prod.fst).nodup_iff.mpr concrete.once
  have sameTypes := putAll_perm (keyParts key) bound onceNames
  have found : (operator.withOverloads (stock ++ added)).overloads.get?
      (keyOf (putAll (keyParts key) (argumentNames operator.inputs positional named))) =
        some typesOut := by
    rw [sameTypes, Operator.withOverloads_append]
    refine (Table.get?_insertAll_of_notMem different).trans (Table.get?_insertAll_of_mem ?_ ?_)
    · intro entry member
      obtain ⟨_, _, rfl⟩ := mem_map.mp member
      rfl
    · rw [map_map]
      exact mem_map_of_mem chosen
  have inside : ∀ place ∈ argumentPlaces operator.inputs positional named,
      place.1 < (keyParts key).length ∧ place.1 < operator.inputs.length :=
    fun place member => insideIn _ (bound.mem_iff.mp (mem_map_of_mem member))
  obtain ⟨term, last, run, ports⟩ := yields_callNative callSpot terminals callOperator firstCall
    declares.typedIn (positions_argumentNames ▸ onceNames) inside
    (sameTypes ▸ concrete.typed_putAll declares.typedIn) found
    (stored.outputs outcome given ▸ concreteOut.typed_putAll declares.typedOut)
  refine ⟨term, last, _, ?_, ports, ?_⟩
  · have hasInputs : 0 < operator.inputs.length :=
      (length_pos_of_ne_nil nonempty).trans_le stored.fewInputs
    exact yields_callNamed notInspection nativeCall standsCall callOperator
      (ne_nil_of_length_pos hasInputs) run
  · intro place member
    rw [stored.outputs outcome given]
    exact mem_outputsOf concreteOut declares.distinct insideOut member

/-- An operator with three inputs and two outputs. -/
def mixture : Operator :=
  .ofPorts [("first", "float"), ("second", "float"), ("weight", "auto")]
    [("value", "float"), ("rest", "bool")] [] none none

def mixtureSession : Session :=
  .start { (default : Overload.Registry) with operators := ⟨[("Core::mix", mixture)]⟩ }

/-- Two types for a port by its place, and one type for a port by its name. -/
def mixtureInputs : List OverloadPort :=
  [⟨default, none, ["int", "string"]⟩, ⟨default, some "weight", ["bool"]⟩]

def mixtureOutputs : List OverloadPort := [⟨default, some "rest", ["string"]⟩]

def mixtureAfter : Session :=
  ((overloadPorts default default default "mix" mixtureInputs mixtureOutputs).runOn
    mixtureSession).2

/-- The session after a further overload. -/
def mixtureLater : Session :=
  ((overloadPorts default default default "mix" [⟨default, none, ["bool"]⟩] []).runOn
    mixtureAfter).2

/-- The arguments of the call, by name and not in the order of the ports. -/
def mixtureArguments : List Given :=
  [⟨default, .mk (some "weight") default, .mk "bool" none⟩,
    ⟨default, .mk (some "first") default, .mk "string" none⟩]

theorem callNamed_of_overloadPorts_mixture :
    ∃ term last ports,
      Yields (callNamed default default "mix" none [] mixtureArguments) mixtureLater term last ∧
      term.outputs? = some ports ∧ ∃ type, ("rest", type) ∈ ports ∧ type.name = "string" := by
  have accepted : Yields (overloadPorts default default default "mix" mixtureInputs mixtureOutputs)
      mixtureSession () mixtureAfter := rfl
  have declares : Declares mixture "float-float-auto" ["float", "bool"] :=
    ⟨⟨[], rfl⟩, by decide +kernel, by decide +kernel, by decide⟩
  have chosen : [(⟨default, none, ["int", "string"]⟩, "string"),
      (⟨default, some "weight", ["bool"]⟩, "bool")] ∈ choices mixtureInputs := by
        simp [choices, mixtureInputs]
  have given : [(⟨default, some "rest", ["string"]⟩, "string")] ∈ choices mixtureOutputs := by
    simp [choices, mixtureOutputs]
  have grown : mixtureLater.registry.operators.get? "Core::mix" =
      (mixtureAfter.registry.operators.get? "Core::mix").map
        (·.withOverloads [("bool-float-auto", ["float", "bool"])]) := rfl
  have bound : (argumentNames mixture.inputs [] mixtureArguments).Perm
      [(0, "string"), (2, "bool")] := by decide
  have called : ∃ term last ports,
      Yields (callNamed default default "mix" none [] mixtureArguments) mixtureLater term last ∧
      term.outputs? = some ports ∧
      ∀ place ∈ [(1, "string")], ∃ port type,
        mixture.outputs[place.1]? = some port ∧ (port, type) ∈ ports ∧ type.name = place.2 :=
    callNamed_of_overloadPorts accepted (by decide) rfl (by decide +kernel) rfl declares chosen
      ⟨by decide, by decide +kernel⟩ given ⟨by decide, by decide +kernel⟩ grown (by decide +kernel)
      rfl (by decide +kernel) (by decide +kernel) bound
  obtain ⟨term, last, ports, run, outputs, types⟩ := called
  obtain ⟨port, type, found, member, same⟩ := types (1, "string") (by decide)
  cases found
  exact ⟨term, last, ports, run, outputs, type, member, same⟩

end Elaboration

end GraphScript
