import GraphScript.Proofs.Elaboration.Traces
import Mathlib.Data.List.Perm.Subperm
import Mathlib.Data.List.Sort

/-!
# Types at the places of ports

An overload sets the types of some ports of an operator, and a call binds the types of its arguments
to ports.  Both start from declared types and put types at places, by position or by name.  `putAll`
is what they have in common.  When no place is taken twice the order does not matter, so an overload
and a call that put the same types at the same places come to the same list of types.
-/

namespace GraphScript.Elaboration

open List hiding after count
open Act (Yields yields_bind yields_pure yields_get yields_lift yields_ite yields_zoom
  yields_modify)
open GraphScript.Language (Tree)
open Overload (Operator Registry keyOf keyParts)
open Syntax (OverloadPort)

/-! ## Items at places -/

section Places

variable {α : Type} {places : List (Nat × α)}

/-- Puts items at places in a list, one after the other. -/
def putAll (items : List α) (places : List (Nat × α)) : List α :=
  places.foldl (fun changed place => changed.set place.1 place.2) items

@[simp] theorem putAll_nil : putAll items [] = items := rfl

@[simp] theorem putAll_cons (items : List α) (place : Nat × α) (places : List (Nat × α)) :
    putAll items (place :: places) = putAll (items.set place.1 place.2) places := rfl

theorem putAll_append (items : List α) (first second : List (Nat × α)) :
    putAll items (first ++ second) = putAll (putAll items first) second :=
  foldl_append ..

@[simp] theorem length_putAll (items : List α) (places : List (Nat × α)) :
    (putAll items places).length = items.length := by
  induction places generalizing items with
  | nil => rfl
  | cons _ _ ih => rw [putAll_cons, ih, length_set]

theorem map_putAll (change : α → β) (items : List α) (places : List (Nat × α)) :
    (putAll items places).map change =
      putAll (items.map change) (places.map fun place => (place.1, change place.2)) := by
  induction places generalizing items with
  | nil => rfl
  | cons _ _ ih => rw [putAll_cons, ih, map_set, map_cons, putAll_cons]

/-- An item at a place that is put to later does not matter. -/
theorem putAll_set (item : α) (later : place ∈ places.map Prod.fst) :
    putAll (items.set place item) places = putAll items places := by
  induction places generalizing items with
  | nil => exact (not_mem_nil later).elim
  | cons first _ ih =>
    rw [putAll_cons, putAll_cons]
    by_cases same : place = first.1
    · rw [same, set_set]
    · rw [set_comm _ _ same]
      exact ih ((mem_cons.mp later).resolve_left same)

/-- What was put before does not matter when all its places are put to again. -/
theorem putAll_putAll (again : earlier.map Prod.fst ⊆ places.map Prod.fst) :
    putAll (putAll items earlier) places = putAll items places := by
  induction earlier generalizing items with
  | nil => rfl
  | cons _ _ ih =>
    rw [map_cons, cons_subset] at again
    rw [putAll_cons, ih again.2, putAll_set _ again.1]

/-- Where no place is put to twice the order does not matter. -/
theorem putAll_perm (items : List α) (perm : places.Perm other)
    (once : (places.map Prod.fst).Nodup) : putAll items places = putAll items other := by
  refine perm.foldl_eq' ?_ items
  intro first inFirst second inSecond _
  by_cases same : first.1 = second.1
  · rw [inj_on_of_nodup_map once inFirst inSecond same]
  · exact set_comm _ _ same

theorem getElem?_putAll_of_notMem (free : index ∉ places.map Prod.fst) :
    (putAll items places)[index]? = items[index]? := by
  induction places generalizing items with
  | nil => rfl
  | cons _ _ ih =>
    rw [map_cons, mem_cons, not_or] at free
    rw [putAll_cons, ih free.2, List.getElem?_set_ne (Ne.symm free.1)]

theorem getElem?_putAll (once : (places.map Prod.fst).Nodup) (member : place ∈ places)
    (inside : place.1 < items.length) : (putAll items places)[place.1]? = some place.2 := by
  induction places generalizing items with
  | nil => exact (not_mem_nil member).elim
  | cons _ _ ih =>
    obtain ⟨new, onceRest⟩ := nodup_cons.mp once
    rw [putAll_cons]
    rcases mem_cons.mp member with rfl | later
    · rw [getElem?_putAll_of_notMem new, List.getElem?_set_self inside]
    · exact ih onceRest later (by rwa [length_set])

/-- Each item of the result was there or was put there. -/
theorem mem_of_mem_putAll (member : item ∈ putAll items places) :
    item ∈ items ∨ item ∈ places.map Prod.snd := by
  induction places generalizing items with
  | nil => exact .inl member
  | cons _ _ ih =>
    rcases ih member with before | later
    · rcases mem_or_eq_of_mem_set before with old | rfl
      · exact .inl old
      · exact .inr (mem_cons_self ..)
    · exact .inr (mem_cons_of_mem _ later)

/-- As many places as there are items are all that can be put to once each. -/
theorem length_le_of_nodup {bound : Nat} (once : (places.map Prod.fst).Nodup)
    (inside : ∀ place ∈ places, place.1 < bound) : places.length ≤ bound := by
  have subset : places.map Prod.fst ⊆ range bound := by
    intro _ member
    obtain ⟨entry, isPlace, rfl⟩ := mem_map.mp member
    exact mem_range.mpr (inside entry isPlace)
  simpa using (List.Nodup.subperm once subset).length_le

/-- Items that are put into free places in ascending order are found in this order. -/
theorem filterMap_putAll_free (front : List (Option α)) (free : Nat)
    (ascending : places.Pairwise fun first second => first.1 < second.1)
    (inside : ∀ place ∈ places, front.length ≤ place.1 ∧ place.1 < front.length + free) :
    (putAll (front ++ replicate free none)
    (places.map fun place => (place.1, some place.2))).filterMap
        id = front.filterMap id ++ places.map Prod.snd := by
  induction places generalizing front free with
  | nil => simp
  | cons place _ ih =>
    obtain ⟨below, _⟩ := inside place (mem_cons_self ..)
    obtain ⟨larger, ascendingRest⟩ := pairwise_cons.mp ascending
    obtain ⟨gap, same⟩ := Nat.exists_eq_add_of_le below
    obtain ⟨left, rfl⟩ : ∃ left, free = gap + (1 + left) := ⟨free - gap - 1, by omega⟩
    have changed : (front ++ replicate (gap + (1 + left)) none).set place.1 (some place.2) =
        (front ++ replicate gap none ++ [some place.2]) ++ replicate left none := by
      rw [same, set_append_right _ _ (Nat.le_add_right ..), Nat.add_sub_cancel_left,
        replicate_add, set_append_right _ _ (by simp), length_replicate, Nat.sub_self,
        Nat.add_comm 1 left, replicate_succ, set_cons_zero]
      simp
    rw [map_cons, putAll_cons, changed, ih _ _ ascendingRest]
    · simp
    · intro other member
      have next := larger other member
      have bound := (inside other (mem_cons_of_mem _ member)).2
      simp only [length_append, length_replicate, length_singleton]
      omega

end Places

/-! ## What an overload stores -/

/-- The position of a port of an overload: that of its name, or else its place in the list. -/
def portAt (names : List String) (place : Nat) (port : OverloadPort) : Nat :=
  match port.name with
  | none => place
  | some name => names.idxOf name

/-- The types that an overload sets for one choice of types, at the positions of their ports.  The
first port has the given place in the list. -/
def declaredFrom (names : List String) (place : Nat) (choice : List (OverloadPort × String)) :
    List (Nat × String) :=
  (choice.zipIdx place).map fun entry => (portAt names entry.2 entry.1.1, entry.1.2)

/-- The types that an overload sets for one choice of types, at the positions of their ports. -/
def declaredPlaces (names : List String) (choice : List (OverloadPort × String)) :
    List (Nat × String) :=
  declaredFrom names 0 choice

theorem declaredFrom_cons (names : List String) (place : Nat) (port : OverloadPort) (type : String)
    (rest : List (OverloadPort × String)) :
    declaredFrom names place ((port, type) :: rest) =
      (portAt names place port, type) :: declaredFrom names (place + 1) rest := rfl

/-- The positions do not depend on the choice of types. -/
theorem positions_declaredFrom (names : List String) (place : Nat)
    (choice : List (OverloadPort × String)) : (declaredFrom names place choice).map Prod.fst =
      ((choice.map Prod.fst).zipIdx place).map fun entry => portAt names entry.2 entry.1 := by
  simp [declaredFrom, zipIdx_map, Function.comp_def]

theorem types_declaredFrom (names : List String) (place : Nat)
    (choice : List (OverloadPort × String)) :
    (declaredFrom names place choice).map Prod.snd = choice.map Prod.snd := by
  calc (declaredFrom names place choice).map Prod.snd
    _ = ((choice.zipIdx place).map Prod.fst).map Prod.snd := by
      rw [declaredFrom, map_map, map_map]
      rfl
    _ = choice.map Prod.snd := by rw [zipIdx_map_fst]

/-- A choice has a type for every port. -/
theorem ports_of_mem_choices (member : choice ∈ choices ports) : choice.map Prod.fst = ports := by
  induction ports generalizing choice with
  | nil =>
    rw [mem_singleton.mp member]
    rfl
  | cons _ _ ih =>
    simp only [choices, mem_flatMap, mem_map] at member
    obtain ⟨_, -, _, inRest, rfl⟩ := member
    rw [map_cons, ih inRest]

theorem length_of_mem_choices (member : choice ∈ choices ports) : choice.length = ports.length := by
  rw [← ports_of_mem_choices member, length_map]

section Statement

variable {names : List String}

theorem eq_of_portPosition
    (run : Yields (portPosition spot direction names place afterName port) before position after) :
    position = portAt names place port ∧ after = before ∧
      (port.name = none ∨ position < names.length) := by
  unfold portPosition at run
  unfold portAt
  split at run
  next unnamed =>
    simp only [yields_ite, yields_report, yields_pure, if_false_left] at run
    obtain ⟨-, rfl, rfl⟩ := run
    rw [unnamed]
    exact ⟨rfl, rfl, .inl rfl⟩
  next name isNamed =>
    split at run
    next found at_ =>
      obtain ⟨rfl, rfl⟩ := run.pure
      obtain ⟨inside, same⟩ := List.findIdx?_eq_some_iff_findIdx_eq.mp at_
      rw [isNamed]
      exact ⟨same.symm, rfl, .inr inside⟩
    next => exact (yields_report.mp run).elim

theorem eq_of_setType {result : List String} (made : setType types position type = .ok result) :
    result = types.set position type ∧ position < types.length := by
  unfold setType at made
  split at made
  next inside =>
    cases made
    exact ⟨rfl, inside⟩
  next => cases made

/-- The positions that types are set at are those of types and of names. -/
def WithinPorts (count place : Nat) (names : List String) (choice : List (OverloadPort × String)) :
    Prop :=
  ∀ entry ∈ declaredFrom names place choice,
    entry.1 < count ∧ (entry.1 < names.length ∨ entry.1 < place + choice.length)

theorem WithinPorts.cons (first : portAt names place port < count)
    (known : port.name = none ∨ portAt names place port < names.length)
    (others : WithinPorts count (place + 1) names rest) :
    WithinPorts count place names ((port, type) :: rest) := by
  unfold WithinPorts
  rw [declaredFrom_cons, length_cons]
  refine forall_mem_cons.mpr ⟨⟨first, ?_⟩, fun entry member => ?_⟩
  · rcases known with unnamed | named
    · right
      simp only [portAt, unnamed]
      omega
    · exact .inl named
  · obtain ⟨below, known⟩ := others entry member
    exact ⟨below, known.imp_right fun _ => by omega⟩

theorem eq_of_overloadInputs :
    ∀ {place : Nat} {afterName : Bool} {types result : List String} {before after : Session},
      Yields (overloadInputs spot names place afterName types choice) before result after →
      result = putAll types (declaredFrom names place choice) ∧ after = before ∧
        WithinPorts types.length place names choice := by
  induction choice with
  | nil =>
    intro place afterName types result before after run
    obtain ⟨rfl, rfl⟩ := run.pure
    exact ⟨rfl, rfl, forall_mem_nil _⟩
  | cons entry _ ih =>
    intro _ _ _ _ _ _ run
    obtain ⟨_, _⟩ := entry
    simp only [overloadInputs, yields_bind, yields_lift] at run
    obtain ⟨_, _, runPosition, _, _, ⟨set, rfl⟩, runRest⟩ := run
    obtain ⟨rfl, rfl, known⟩ := eq_of_portPosition runPosition
    obtain ⟨rfl, inside⟩ := eq_of_setType set
    obtain ⟨rfl, rfl, others⟩ := ih runRest
    rw [length_set] at others
    exact ⟨rfl, rfl, .cons inside known others⟩

theorem eq_of_overloadOutputs :
    ∀ {place : Nat} {afterName : Bool} {types result : List String} {before after : Session},
      Yields (overloadOutputs spot names place afterName types ports) before result after →
      after = before ∧ ∀ outcome ∈ choices ports,
        result = putAll types (declaredFrom names place outcome) ∧
          WithinPorts types.length place names outcome := by
  induction ports with
  | nil =>
    intro place afterName types result before after run
    obtain ⟨rfl, rfl⟩ := run.pure
    refine ⟨rfl, fun outcome member => ?_⟩
    rw [mem_singleton.mp member]
    exact ⟨rfl, forall_mem_nil _⟩
  | cons _ _ ih =>
    intro _ _ _ _ _ _ run
    simp only [overloadOutputs, yields_bind] at run
    obtain ⟨_, _, runPosition, run⟩ := run
    obtain ⟨rfl, rfl, known⟩ := eq_of_portPosition runPosition
    split at run
    next type only =>
      simp only [yields_bind, yields_lift] at run
      obtain ⟨_, _, ⟨set, rfl⟩, runRest⟩ := run
      obtain ⟨rfl, inside⟩ := eq_of_setType set
      obtain ⟨rfl, others⟩ := ih runRest
      refine ⟨rfl, fun _ member => ?_⟩
      simp only [choices, only, flatMap_singleton, mem_map] at member
      obtain ⟨other, inRest, rfl⟩ := member
      obtain ⟨rfl, insideRest⟩ := others other inRest
      rw [length_set] at insideRest
      exact ⟨rfl, .cons inside known insideRest⟩
    next => exact (yields_report.mp run).elim

/-- An overload of an operator is stored with the operator. -/
theorem operator_storeOverload (native : overloaded.isFunction = false)
    (known : before.registry.operators.get? overloaded.name = some operator)
    (run : Yields (storeOverload overloaded typesIn typesOut) before done after) :
    after.registry.operators.get? overloaded.name =
      some (operator.withOverloads [(keyOf typesIn, typesOut)]) := by
  unfold storeOverload at run
  rw [if_neg (by simp [native])] at run
  obtain ⟨_, runDesk, rfl⟩ := yields_zoom.mp run
  obtain rfl := yields_modify.mp runDesk
  dsimp only [Session.registry] at known ⊢
  rw [known]
  exact (Table.get?_insert ..).trans (if_pos rfl)

/-- All choices are stored, each under the declared types with those of the choice in their
places. -/
theorem operator_storeChoices (native : overloaded.isFunction = false) :
    ∀ {options : List (List (OverloadPort × String))} {operator : Operator} {typesIn : List String}
      {before after : Session}, (∀ choice ∈ options, choice.map Prod.fst = ports) →
      before.registry.operators.get? overloaded.name = some operator →
      Yields (storeChoices spot overloaded typesOut typesIn options) before done after →
      (∀ choice ∈ options, WithinPorts typesIn.length 0 overloaded.namesIn choice) ∧
        after.registry.operators.get? overloaded.name = some (operator.withOverloads (options.map
          fun choice => (keyOf (putAll typesIn (declaredPlaces overloaded.namesIn choice)),
            typesOut)))
  | [], _, _, _, _, _, known, run => by
    obtain ⟨-, rfl⟩ := run.pure
    exact ⟨forall_mem_nil _, known⟩
  | choice :: _, operator, _, before, _, same, known, run => by
    simp only [storeChoices, yields_bind] at run
    obtain ⟨types, _, runInputs, _, _, runStore, runRest⟩ := run
    obtain ⟨rfl, rfl, inside⟩ := eq_of_overloadInputs runInputs
    obtain ⟨samePorts, sameRest⟩ := forall_mem_cons.mp same
    obtain ⟨insideRest, found⟩ :=
      operator_storeChoices native sameRest (operator_storeOverload native known runStore) runRest
    rw [length_putAll] at insideRest
    refine ⟨forall_mem_cons.mpr ⟨inside, insideRest⟩, found.trans (congrArg some ?_)⟩
    refine congrArg (fun others => operator.withOverloads ((_, typesOut) :: others)) ?_
    refine map_congr_left fun other member => ?_
    -- The types that the choice before has left are all replaced.
    have again : (declaredFrom overloaded.namesIn 0 choice).map Prod.fst ⊆
        (declaredPlaces overloaded.namesIn other).map Prod.fst := by
      rw [declaredPlaces, positions_declaredFrom, positions_declaredFrom, samePorts,
        sameRest other member]
      exact List.Subset.refl _
    rw [putAll_putAll again]

/-- An accepted overload of an operator: how many ports it has, and what it adds to the operator. -/
structure Stored (operator : Operator) (key : String) (defaults : List String)
    (inputs outputs : List OverloadPort) (typesOut : List String)
    (later : Option Operator) : Prop where
  fewInputs : inputs.length ≤ operator.inputs.length
  fewOutputs : outputs.length ≤ operator.outputs.length
  insideIn : ∀ choice ∈ choices inputs, WithinPorts (keyParts key).length 0 operator.inputs choice
  insideOut : ∀ outcome ∈ choices outputs, WithinPorts defaults.length 0 operator.outputs outcome
  /-- The output types are the declared ones, with those of the overload in their places. -/
  outputs : ∀ outcome ∈ choices outputs,
    typesOut = putAll defaults (declaredPlaces operator.outputs outcome)
  operator : later = some (operator.withOverloads ((choices inputs).map fun choice =>
    (keyOf (putAll (keyParts key) (declaredPlaces operator.inputs choice)), typesOut)))

theorem operator_of_get? {registry : Registry} {full : String}
    (known : registry.operators.get? full = some operator) : registry.operator full =
      .ok operator := by
  rw [Registry.operator, Table.lookup?_of_get? known]
  rfl

/-- What an overload of an operator is for. -/
theorem eq_of_overloadable {name full : String} {defaults : List String}
    (native : before.functions.lookup? name = none)
    (stands : before.registry.fullName? name = some full)
    (known : before.registry.operators.get? full = some operator)
    (first : operator.overloads.entries = (key, defaults) :: others)
    (run : Yields (overloadable spot name) before overloaded after) :
    overloaded = ⟨full, false, operator.inputs, operator.outputs, keyParts key, defaults⟩ ∧
      after = before := by
  simp only [overloadable, yields_bind, yields_get] at run
  obtain ⟨_, _, ⟨rfl, rfl⟩, run⟩ := run
  split at run
  next found =>
    rw [native] at found
    cases found
  next =>
    simp only [yields_bind, yields_registry] at run
    obtain ⟨_, _, ⟨rfl, rfl⟩, run⟩ := run
    rw [show before.desk.registry.fullName? name = some full from stands] at run
    simp only [yields_bind, yields_lift, yields_pure, Registry.portNames, Registry.portTypes,
      show before.desk.registry.operator full = .ok operator from operator_of_get? known] at run
    obtain ⟨_, _, ⟨named, rfl⟩, _, _, ⟨typed, rfl⟩, rfl, rfl⟩ := run
    obtain ⟨_, isOperator, typed⟩ := Act.bind_eq_ok.mp typed
    cases isOperator
    rw [first] at typed
    cases named
    cases typed
    exact ⟨rfl, rfl⟩

theorem stored_overloadPorts (native : before.functions.lookup? name = none)
    (stands : before.registry.fullName? name = some full)
    (known : before.registry.operators.get? full = some operator)
    (first : operator.overloads.entries = (key, defaults) :: others)
    (run : Yields (overloadPorts spot inputSpot resultSpot name inputs outputs) before done after) :
    ∃ typesOut, Stored operator key defaults inputs outputs typesOut
      (after.registry.operators.get? full) := by
  rw [overloadPorts, yields_bind] at run
  obtain ⟨_, found, runFind, run⟩ := run
  obtain ⟨rfl, _⟩ := eq_of_overloadable native stands known first runFind
  subst found
  have tail : inputs.length ≤ operator.inputs.length ∧ outputs.length ≤ operator.outputs.length ∧
      ∃ typesOut middle, Yields (overloadOutputs spot operator.outputs 0 false defaults outputs)
        before typesOut middle ∧ Yields (storeChoices spot
          ⟨full, false, operator.inputs, operator.outputs, keyParts key, defaults⟩ typesOut
          (keyParts key) (choices inputs)) middle done after := by
    cases outputs
    all_goals simp only [yields_bind, yields_ite, yields_report, false_and, exists_false,
      if_false_left, Nat.not_lt, gt_iff_lt] at run
    case nil => exact run
    case cons => exact run.2
  obtain ⟨fewInputs, fewOutputs, typesOut, _, runOutputs, runStore⟩ := tail
  obtain ⟨rfl, outcomes⟩ := eq_of_overloadOutputs runOutputs
  obtain ⟨insideIn, found⟩ :=
    operator_storeChoices rfl (fun _ member => ports_of_mem_choices member) known runStore
  exact ⟨typesOut, fewInputs, fewOutputs, insideIn, fun outcome member =>
    (outcomes outcome member).2, fun outcome member => (outcomes outcome member).1, found⟩

end Statement

/-! ## What a call binds -/

/-- The types of the arguments of a call, at the positions of their ports. -/
def argumentPlaces (names : List String) (positional named : List Given) : List (Nat × PortType) :=
  (positional.zipIdx.map fun entry => (entry.2, entry.1.type)) ++
    named.map fun given => (names.idxOf given.name, given.type)

/-- The binding with types put at places. -/
def Bound.putAll (bound : Bound) (places : List (Nat × PortType)) : Bound :=
  ⟨Elaboration.putAll bound.types places,
    Elaboration.putAll bound.given (places.map fun place => (place.1, some place.2))⟩

variable {names : List String} {positional named : List Given}

theorem Bound.putAll_append (bound : Bound) (first second : List (Nat × PortType)) :
    bound.putAll (first ++ second) = (bound.putAll first).putAll second := by
  simp only [Bound.putAll, Elaboration.putAll_append, map_append]

theorem bindPositions_eq :
    ∀ {positional : List Given} {index : Nat} {ports : List String} {bound : Bound},
      positional.length ≤ ports.length →
      index + positional.length ≤ bound.types.length →
      bindPositions bound index positional ports =
        .ok (bound.putAll ((positional.zipIdx index).map fun entry => (entry.2, entry.1.type)))
  | [], _, _, _, _, _ => by
    rfl
  | given :: _, _, [], _, few, _ => by simp at few
  | given :: _, index, _ :: _, bound, few, inside => by
    rw [length_cons] at few inside
    rw [length_cons] at few
    have below : index < bound.types.length := by omega
    have set : bound.set index given.type = .ok (bound.putAll [(index, given.type)]) := if_pos below
    rw [bindPositions, set]
    refine (bindPositions_eq (by omega) ?_).trans ?_
    · simp only [Bound.putAll, length_putAll]
      omega
    · rw [← Bound.putAll_append]
      rfl

theorem bindNames_eq :
    ∀ {named : List Given} {bound : Bound},
      (∀ given ∈ named, given.name ∈ names ∧ given.name ∉ taken ∧
        names.idxOf given.name < bound.types.length) →
      bindNames names taken bound named =
        pure (bound.putAll (named.map fun given => (names.idxOf given.name, given.type)))
  | [], _, _ => rfl
  | given :: _, bound, known => by
    obtain ⟨⟨isName, free, below⟩, knownRest⟩ := forall_mem_cons.mp known
    have found : names.findIdx? (· == given.name) = some (names.idxOf given.name) :=
      List.findIdx?_eq_some_iff_findIdx_eq.mpr ⟨idxOf_lt_length_iff.mpr isName, rfl⟩
    have set : bound.set (names.idxOf given.name) given.type =
        .ok (bound.putAll [(names.idxOf given.name, given.type)]) := if_pos below
    have isFree : taken.contains given.name = false := by simpa using free
    rw [bindNames, isFree, found]
    simp only [set]
    refine (bindNames_eq ?_).trans ?_
    · simpa only [Bound.putAll, length_putAll] using knownRest
    · rw [← Bound.putAll_append]
      rfl

/-- Arguments that go to different ports of an operator are bound to them. -/
theorem bindArguments_eq {declared : List PortType}
    (once : ((argumentPlaces names positional named).map Prod.fst).Nodup)
    (inside : ∀ place ∈ argumentPlaces names positional named,
      place.1 < declared.length ∧ place.1 < names.length) :
    bindArguments names declared positional named =
      pure (Bound.putAll ⟨declared, names.map fun _ => none⟩
        (argumentPlaces names positional named)) := by
  have count : ∀ {bound : Nat}, (∀ place ∈ argumentPlaces names positional named, place.1 < bound) →
      positional.length + named.length ≤ bound := by
    intro _ below
    have few := length_le_of_nodup once below
    simpa [argumentPlaces] using few
  have fewTypes := count fun place member => (inside place member).1
  have fewNames := count fun place member => (inside place member).2
  obtain ⟨-, -, apart⟩ := nodup_append.mp (map_append ▸ once)
  have known : ∀ given ∈ named, given.name ∈ names ∧ given.name ∉ names.take positional.length ∧
      names.idxOf given.name < declared.length := by
    intro given member
    have place : (names.idxOf given.name, given.type) ∈ argumentPlaces names positional named :=
      mem_append_right _ (mem_map_of_mem member)
    obtain ⟨belowTypes, belowNames⟩ := inside _ place
    refine ⟨idxOf_lt_length_iff.mp belowNames, fun taken => ?_, belowTypes⟩
    -- A name among the first ports would be at a position that an argument has by its place.
    have early : names.idxOf given.name < positional.length := by
      rw [← take_append_drop positional.length names, idxOf_append_of_mem taken]
      exact (idxOf_lt_length_iff.mpr taken).trans_le (length_take_le ..)
    refine apart (names.idxOf given.name) ?_ (names.idxOf given.name) ?_ rfl
    · rw [map_map]
      change _ ∈ positional.zipIdx.map Prod.snd
      rw [zipIdx_map_snd]
      exact mem_range'_1.mpr ⟨Nat.zero_le _, by omega⟩
    · exact mem_map.mpr ⟨_, mem_map_of_mem member, rfl⟩
  have positions : bindPositions ⟨declared, names.map fun _ => none⟩ 0 positional names =
      .ok (Bound.putAll ⟨declared, names.map fun _ => none⟩
        (positional.zipIdx.map fun entry => (entry.2, entry.1.type))) :=
    bindPositions_eq (by omega) (show 0 + positional.length ≤ declared.length by omega)
  unfold bindArguments
  rw [if_neg (by omega), positions]
  refine (bindNames_eq ?_).trans ?_
  · simpa only [Bound.putAll, length_putAll] using known
  · rw [← Bound.putAll_append]
    rfl

theorem perm_inPortOrder : (inPortOrder names named).Perm named := mergeSort_perm ..

theorem perm_argumentPlaces (names : List String) (positional named : List Given) :
    (argumentPlaces names positional (inPortOrder names named)).Perm
      (argumentPlaces names positional named) :=
  (List.Perm.refl _).append (perm_inPortOrder.map _)

theorem positions_argumentPlaces (names : List String) (positional named : List Given) :
    (argumentPlaces names positional named).map Prod.fst =
      range' 0 positional.length ++ named.map fun given => names.idxOf given.name := by
  rw [argumentPlaces, map_append, map_map, map_map, ← zipIdx_map_snd 0 positional]
  rfl

/-- With named arguments in the order of their ports, all arguments are in the order of their
ports. -/
theorem ascending_argumentPlaces
    (once : ((argumentPlaces names positional named).map Prod.fst).Nodup) :
    (argumentPlaces names positional (inPortOrder names named)).Pairwise
      fun first second => first.1 < second.1 := by
  have sorted : ((inPortOrder names named).map fun given => names.idxOf given.name).Pairwise
    (· ≤ ·) := by
    rw [pairwise_map]
    refine (pairwise_mergeSort ?_ ?_ named).imp fun le => of_decide_eq_true le
    · intro first second _
      simp only [decide_eq_true_eq]
      exact Nat.le_trans
    · intro _ _
      simpa using Nat.le_total ..
  have onceHere := ((perm_argumentPlaces names positional named).map Prod.fst).nodup_iff.mpr once
  rw [positions_argumentPlaces] at onceHere
  obtain ⟨-, onceNamed, apart⟩ := nodup_append.mp onceHere
  suffices positions : ((argumentPlaces names positional (inPortOrder names named)).map
      Prod.fst).Pairwise (· < ·) from pairwise_map.mp positions
  rw [positions_argumentPlaces]
  refine pairwise_append.mpr ⟨pairwise_lt_range' 1, ?_, ?_⟩
  · exact (sorted.and onceNamed).imp fun both => Nat.lt_of_le_of_ne both.1 both.2
  · intro _ isEarly late isLate
    have new : late ∉ range' 0 positional.length := fun again => apart late again late isLate rfl
    rw [mem_range'_1] at isEarly new
    omega

/-- The types of the arguments by port are those of the arguments in the order of their ports. -/
theorem argumentTypes_putAll (once : ((argumentPlaces names positional named).map Prod.fst).Nodup)
    (inside : ∀ place ∈ argumentPlaces names positional named, place.1 < names.length) :
    (Bound.putAll ⟨declared, names.map fun _ => none⟩
      (argumentPlaces names positional named)).argumentTypes =
        (positional ++ inPortOrder names named).map Given.type := by
  have perm := perm_argumentPlaces names positional named
  have unordered : putAll (names.map fun _ => none)
        ((argumentPlaces names positional named).map fun place => (place.1, some place.2)) =
      putAll ([] ++ replicate names.length none)
        ((argumentPlaces names positional (inPortOrder names named)).map
          fun place => (place.1, some place.2)) := by
    rw [map_const', nil_append]
    refine putAll_perm _ (perm.symm.map _) ?_
    rw [map_map]
    exact once
  have ordered := filterMap_putAll_free [] names.length (ascending_argumentPlaces once)
    fun place member => ⟨Nat.zero_le _, by simpa using inside place (perm.mem_iff.mp member)⟩
  have types : (argumentPlaces names positional (inPortOrder names named)).map Prod.snd =
      (positional ++ inPortOrder names named).map Given.type := by
    rw [argumentPlaces, map_append, map_map, map_map, map_append,
      ← zipIdx_map_fst 0 positional, map_map, zipIdx_map_fst]
    rfl
  rw [← types]
  exact (congrArg (filterMap id) unordered).trans ordered

end GraphScript.Elaboration
