import GraphScript.Graph.Slice
import GraphScript.Proofs.Graph.Nodes

/-!
# Drawing constants and literals

What the actions that create constants, arrays, objects and slices need and give.  A constant is
refused where its type has none; the other actions stop only at type names that no port can have.
-/

namespace GraphScript.Graph

open List

variable {tools : Tools} {stage : Stage} {stock : Stock} {type : String}

section Constants

variable {value : Datum}

/-- Whether a type name can be that of an array whose size is given. -/
def namesSized (type : String) : Bool :=
  match portTypeName type with
  | .ok full => namesPort full
  | .error _ => false

theorem namesSized_iff : namesSized type ↔ ∃ full, portTypeName type = .ok full ∧
    namesPort full := by
  unfold namesSized
  cases portTypeName type <;> simp

/-- An array whose size comes from a port, or is a number. -/
theorem draws_sizedArrayNode (sized : (∃ path, size = .path path ∧ stock.Has stage.place path) ∨
      size.letters? = none ∧ size.isNothing = false) :
    DrawsPath tools stage stock (sizedArrayNode size type) (namesSized type) := by
  refine .congr (.look fun _ _ => ?_) namesSized_iff.symm
  refine .andThen (draws_createOwn (by decide)) fun _ _ => ?_
  refine .followed draws_setPortType fun _ _ => ?_
  rcases sized with ⟨_, rfl, _⟩ | ⟨letters, given⟩
  · simp only [Datum.letters?]
    refine .connect stage.place (by simp [*]) ?_
    exact .give (by simp)
  · rw [letters]
    refine .andThen (draws_setDefault given) fun _ _ => ?_
    exact .give (by simp)

/-! ## Enumerations -/

/-- Whether an enumeration has a value of a name. -/
def namesValue (type name : String) : Bool :=
  match portTypeName type with
  | .ok full => ((enumerationOf? full).bind fun values => values.values.lookup name).isSome
  | .error _ => false

theorem draws_numberOfType (given : number.isNothing = false) :
    DrawsPath tools stage stock
      (do
        let node ← createNamedValueNode "float" .nothing .nothing
        send (.setNote node "valuenode_type" note)
        setDefault node "value" number
        return node.port "output")
      True := by
  refine .andThen draws_createValue fun _ _ => ?_
  refine .andThen (.send rfl) fun _ _ => ?_
  refine .andThen (draws_setDefault given) fun _ _ => ?_
  refine .give ?_
  simp

/-- A constant of an enumeration, given by its name. -/
theorem draws_enumerationNode :
    DrawsPath tools stage stock (enumerationNode (.text name) type .nothing)
      (namesValue type name) := by
  unfold enumerationNode namesValue
  cases portTypeName type with
  | error => exact .congr .stop (by simp)
  | ok full =>
    simp only [Act.ok_bind, Datum.letters?]
    cases found : enumerationOf? full with
    | none => exact .congr .stop (by simp)
    | some values =>
      simp only [orFault_some, Act.ok_bind, Option.bind_some]
      cases number : values.values.lookup name with
      | none => exact .congr .stop (by simp)
      | some =>
        exact .congr (draws_numberOfType rfl) (by simp)

/-- A constant of an enumeration, given by its number. -/
theorem draws_enumerationOfNumber (letters : value.letters? = none)
    (given : value.isNothing = false) :
    DrawsPath tools stage stock (enumerationNode value type .nothing) (namesPort type) := by
  refine .congr (.looking fun _ _ => ?_) namesPort_iff.symm
  rw [letters]
  exact draws_numberOfType given

/-! ## Constants of any type -/

/-- Whether a number can be the size of an array of a type. -/
def sizeFits (type : String) : Bool :=
  match portTypeName type with
  | .ok full => isArrayName full && namesSized full
  | .error _ => false

/-- Whether a number can be a constant of a type; for an array it is the size. -/
def numberFits (type : String) : Bool :=
  if isArrayName type then sizeFits type
  else if (Catalogue.enumeration? type).isSome then namesPort type
  else simpleTypes.contains type

/-- An action for an array of a size. -/
def arrayOfSize (size : Datum) (type : String) : Building NodePath := do
  let type ← portTypeName type
  demandArray type
  sizedArrayNode size type

theorem draws_arrayOfSize (letters : size.letters? = none) (given : size.isNothing = false) :
    DrawsPath tools stage stock (arrayOfSize size type) (sizeFits type) := by
  unfold arrayOfSize sizeFits
  cases portTypeName type with
  | error => exact .congr .stop (by simp)
  | ok full =>
    simp only [Act.ok_bind, demandArray]
    cases isArray : isArrayName full with
    | false => exact .congr .stop (by simp)
    | true =>
      simp only [if_true, Act.ok_bind]
      exact .congr (draws_sizedArrayNode (.inr ⟨letters, given⟩)) (by simp)

/-- What the actions on constants ask of a type, for the types with constants of their own. -/
theorem simpleTypes_ask :
    ∀ type ∈ simpleTypes, plainName type ∧ type ≠ "Object" ∧ isArrayName type = false ∧
      (Text.fromEnd 1 type).map (fun letter => letter == '2' || letter == '3' || letter == '4') =
        some false := by
  decide

theorem hasSizeAt_eq
    (found : (Text.fromEnd distance type).map
      (fun letter => letter == '2' || letter == '3' || letter == '4') = some isSize) :
    hasSizeAt distance type = .ok isSize := by
  obtain ⟨_, same, rfl⟩ := Option.map_eq_some_iff.mp found
  rw [hasSizeAt, same]
  rfl

theorem draws_simpleNode (simple : type ∈ simpleTypes) (given : value.isNothing = false) :
    DrawsPath tools stage stock (simpleNode value type .nothing) True := by
  obtain ⟨plain, notObject, -, size⟩ := simpleTypes_ask type simple
  unfold simpleNode
  rw [portTypeName_plainName plain, Act.ok_bind, hasSizeAt_eq size]
  simp only [given, beq_iff_eq, notObject, Bool.false_eq_true, if_false, Act.ok_bind]
  have created : Draws tools stage stock (createNamedNode (constantKind type) .nothing .nothing)
      True stage (NodeOf tools (constantKind type) stage.place) (pathIn stage.place) :=
    (draws_createIn _ _).owed fun _ => makesKind_of_comma (comma_append (by decide) type)
  refine .andThen created fun _ _ => ?_
  refine .andThen (draws_setDefault ?_) fun _ _ => .give ?_
  · cases value <;> simp_all [Datum.numbered, Datum.isNothing]
  · simp

/-- A number is no vector and no matrix. -/
theorem draws_noMatrix (items : value.items = .error fault) :
    DrawsPath tools stage stock (matrixNode value type .nothing) False := by
  refine .doomed fun full _ => ?_
  have failed : matrixDefault full value = .error fault := by
    unfold matrixDefault
    split
    · cases items
    · rw [items]
      rfl
  rw [failed]
  exact .stop

/-- A value that is a number. -/
inductive Datum.IsNumber : Datum → Prop where
  | whole (value : Int) : IsNumber (.whole value)
  | fraction (value : Binary64) : IsNumber (.fraction value)

theorem Datum.IsNumber.letters (number : value.IsNumber) : value.letters? = none := by
  cases number <;> rfl

theorem Datum.IsNumber.given (number : value.IsNumber) : value.isNothing = false := by
  cases number <;> rfl

theorem Datum.IsNumber.items (number : value.IsNumber) : value.items = .error .badOperand := by
  cases number <;> rfl

theorem draws_plainNumber (number : value.IsNumber) :
    DrawsPath tools stage stock (plainConstantNode value type .nothing) (numberFits type) := by
  unfold plainConstantNode numberFits
  split
  · cases number with
    | whole | fraction => exact draws_arrayOfSize rfl rfl
  · split
    · exact draws_enumerationOfNumber number.letters number.given
    · split
      case isTrue simple =>
        have member : type ∈ simpleTypes := contains_iff_mem.mp simple
        exact .congr (draws_simpleNode member number.given) (by simp [member])
      case isFalse other =>
        refine .congr (.doomed fun _ _ => ?_) (iff_of_false not_false other)
        split
        · exact draws_noMatrix number.items
        · split
          · exact .throw
          · exact .throw

/-- The default of a type. -/
theorem draws_constantOfNothing :
    DrawsPath tools stage stock (constantNode .nothing type .nothing .nothing)
      (namesPort type) := by
  refine .congr (.looking fun _ _ => ?_) namesPort_iff.symm
  refine .andThen draws_createValue fun _ _ => .give ?_
  simp

theorem draws_constantOfText :
    DrawsPath tools stage stock (constantNode (.text text) "string" .nothing .nothing) True := by
  unfold constantNode
  rw [portTypeName_plainName (by decide), Act.ok_bind]
  have plain : DrawsPath tools stage stock (plainConstantNode (.text text) "string" .nothing)
    True := by
    have noArray : isArrayName "string" = false := by decide
    have noEnumeration : (Catalogue.enumeration? "string").isSome = false := by decide +kernel
    have simple : simpleTypes.contains "string" = true := by decide
    unfold plainConstantNode
    exact draws_simpleNode (by decide) rfl
  refine .andThen plain fun _ _ => .give ?_
  simp

/-- Whether a number can be a constant of a type that may be written short. -/
def constantFits (type : String) : Bool :=
  match portTypeName type with
  | .ok full => numberFits full
  | .error _ => false

theorem draws_constantOfNumber (number : value.IsNumber) :
    DrawsPath tools stage stock (constantNode value type .nothing .nothing)
      (constantFits type) := by
  unfold constantNode constantFits
  cases portTypeName type with
  | error => exact .congr .stop (by simp)
  | ok =>
    simp only [Act.ok_bind, number.given, Bool.false_eq_true, if_false]
    refine .followed (draws_plainNumber number) fun _ _ => .give ?_
    simp

end Constants

/-! ## Arrays and objects of values from ports -/

section Literals

variable {kind : String}

theorem draws_createLabelled (plainKind : PlainKind kind) (made : CompoundIn place compound) :
    Draws tools stage stock (createNamedNode kind (.text text) compound) True stage
      (NodeOf tools kind compound) (pathIn compound) :=
  draws_createInside made (fun _ => makesKind_of_comma plainKind.comma) fun _ _ nodeOf =>
    draws_nameNode (plainKind.isPort made.plain nodeOf)

theorem draws_literalCompound :
    Draws tools stage stock (literalCompound type .nothing) True stage (CompoundIn stage.place)
      (compoundStock stage.place) := by
  refine .ofPlain fun plain => ?_
  refine .andThen (draws_createCompound (.inr ⟨_, rfl⟩) plain) fun _ made => ?_
  refine .andThen (.discard (draws_addOutput.owed fun _ => namesPort_plain (by decide)))
    fun _ _ => ?_
  refine .andThen (draws_setDefault rfl) fun _ _ => .pure (fun _ member => ?_) made
  exact .of_entry (mem_append_left stock member)

theorem draws_passElements (hasCompound : stock.Has place compound) :
    ∀ {sources : List NodePath} {count : Nat}, (∀ source ∈ sources, stock.Has place source) →
      DrawsHere tools stage stock (passElements compound element count (sources.map Datum.path))
        (sources = [] ∨ namesPort element)
  | [], _, _ => .congr .done (by simp)
  | source :: _, _, has => by
    refine .congr (.bind (.discard draws_addOutput) fun _ _ =>
      .andThen (draws_connect _ ⟨has source (mem_cons_self ..), hasCompound.port _⟩) fun _ _ =>
        draws_passElements hasCompound (forall_mem_cons.mp has).2) ?_
    simp +contextual

theorem draws_placeElements (made : CompoundIn place compound) :
    ∀ {places : List Nat} {stock : Stock} {latest : NodePath},
      stock.Has compound compound.input → stock.Has compound latest →
      Draws tools stage stock (placeElements compound latest places) True stage noFact
        (pathIn compound)
  | [], _, _, _, _ => .give (by simpa)
  | index :: _, _, _, hasInput, _ => by
    refine .andThen (draws_createLabelled (by decide) made) fun _ _ => ?_
    refine .connect compound (by simp [*]) ?_
    refine .andThen (draws_setDefault rfl) fun _ _ => ?_
    refine .connect compound (by simp [*]) ?_
    exact draws_placeElements made (by simp [hasInput]) (by simp)

/-- Whether values can be the elements of an array of a type. -/
def elementsFit (count : Nat) (type : String) : Bool :=
  match portTypeName type with
  | .ok full => isArrayName full && namesPort full && (count == 0 || namesPort (elementName full))
  | .error _ => false

theorem draws_arrayOfPorts (sources : List NodePath)
    (has : ∀ source ∈ sources, stock.Has stage.place source) :
    DrawsPath tools stage stock (arrayOfPorts (.list (sources.map Datum.path)) type .nothing)
      (elementsFit sources.length type) := by
  unfold arrayOfPorts elementsFit
  cases portTypeName type with
  | error => exact .congr .stop (by simp)
  | ok full =>
    simp only [Act.ok_bind, demandArray]
    cases isArray : isArrayName full with
    | false => exact .congr .stop (by simp)
    | true =>
      simp only [if_true, Act.ok_bind]
      refine .congr (.andThen draws_literalCompound fun node made =>
        .bind (draws_passElements (.of_mem (by simp)) fun source member =>
          (has source member).mono (subset_append_right _ _)) fun _ _ =>
        .andThen (draws_enter made.plain (forall_mem_nil _)) fun _ _ =>
        .bind (.discard draws_addInput) fun _ _ =>
        .andThen (draws_createOwn (by decide)) fun _ _ =>
        .followed draws_setPortType fun _ _ => ?_) ?_
      · refine .andThen (draws_setDefault rfl) fun _ _ => ?_
        refine .andThen (draws_placeElements made (by simp) (by simp)) fun _ _ => ?_
        refine .connect node (by simp [*]) ?_
        refine .andThen (.discard draws_leave) fun _ _ => .give ?_
        simp
      · cases sources <;> simp [and_comm]

theorem draws_passProperties (hasCompound : stock.Has place compound) :
    ∀ {pairs : List (NodePath × NodePath)} {count : Nat},
      (∀ pair ∈ pairs, stock.Has place pair.1 ∧ stock.Has place pair.2) →
      DrawsHere tools stage stock
        (passProperties compound count (pairs.map fun pair =>
          (Datum.path pair.1, Datum.path pair.2))) True
  | [], _, _ => .done
  | (key, value) :: _, _, has => by
    obtain ⟨hasKey, hasValue⟩ := has (key, value) (mem_cons_self ..)
    refine .andThen (.discard (draws_addOutput.owed fun _ => namesPort_plain (by decide)))
      fun _ _ => ?_
    refine .connect _ ⟨hasKey, hasCompound.port _⟩ ?_
    refine .andThen (.discard (draws_addOutput.owed fun _ => namesPort_plain (by decide)))
      fun _ _ => ?_
    refine .connect _ ⟨hasValue, hasCompound.port _⟩ ?_
    exact draws_passProperties hasCompound (forall_mem_cons.mp has).2

/-- The object so far, if there is one. -/
abbrev objectIn (place : NodePath) (object : Option NodePath) : Stock :=
  object.toList.map fun path => (place, path)

theorem draws_placeProperties (made : CompoundIn place compound) :
    ∀ {places : List Nat} {stock : Stock} {latest : Option NodePath},
      stock.Has compound compound.input → (∀ object ∈ latest, stock.Has compound object) →
      Draws tools stage stock (placeProperties compound latest places) True stage noFact
        (objectIn compound)
  | [], _, _, _, hasLatest => by
    refine .give ?_
    intro _ member
    obtain ⟨path, inside, rfl⟩ := mem_map.mp member
    exact hasLatest path (Option.mem_toList.mp inside)
  | index :: rest, stock, latest, hasInput, hasLatest => by
    refine .andThen (draws_createLabelled (by decide) made) fun setting _ => ?_
    have rest' : Draws tools stage (pathIn compound setting ++ stock)
        (do
          connect (compound.input.port s!"key_{index}") (setting.port "key")
          connect (compound.input.port s!"value_{index}") (setting.port "value")
          placeProperties compound (some (setting.port "out_object")) rest)
        True stage noFact (objectIn compound) := by
      refine .connect compound (by simp [*]) ?_
      refine .connect compound (by simp [*]) ?_
      exact draws_placeProperties made (by simp [hasInput]) (by simp)
    cases latest with
    | none => exact rest'
    | some object =>
      exact .connect compound (by simp [hasLatest object rfl, *]) rest'

theorem draws_objectOfPorts (pairs : List (NodePath × NodePath))
    (has : ∀ pair ∈ pairs, stock.Has stage.place pair.1 ∧ stock.Has stage.place pair.2) :
    DrawsPath tools stage stock
      (objectOfPorts (.list (pairs.map fun pair => Datum.path pair.1))
        (.list (pairs.map fun pair => Datum.path pair.2)) .nothing)
      True := by
  refine .andThen draws_literalCompound fun node made => ?_
  simp only [Datum.items, Act.ok_bind, zip_map']
  have hasNode : Stock.Has (compoundStock stage.place node ++ stock) stage.place node := by simp
  refine .andThen (draws_passProperties hasNode ?_) fun _ _ => ?_
  · intro pair member
    simp [has pair member]
  refine .andThen (draws_enter made.plain (forall_mem_nil _)) fun _ _ => ?_
  refine .andThen (.discard (draws_addInput.owed fun _ => namesPort_plain (by decide)))
    fun _ _ => ?_
  refine .andThen (draws_placeProperties made (by simp) (by simp)) fun object _ => ?_
  cases object with
  | none =>
    refine .andThen (.discard draws_leave) fun _ _ => .give ?_
    simp [objectIn]
  | some =>
    refine .connect node (by simp [objectIn]) ?_
    refine .andThen (.discard draws_leave) fun _ _ => .give ?_
    simp [objectIn]

end Literals

variable {ports : List NodePath}

/-! ## Circuits -/

/-- A wire comes from an input, or from one of the first gates. -/
def Wire.isWithin (count : Nat) : Wire → Bool
  | input _ => true
  | gate number => number < count

/-- The nodes that a gate uses can be made. -/
def Gate.isUsable : Gate → Bool
  | node kind _ _ => kind.toList.contains ',' || ownOperators.contains kind
  | collect kind _ => ownOperators.contains kind
  | _ => true

/-- A circuit can be drawn after some gates. -/
def Circuit.fits : Nat → Circuit → Bool
  | _, [] => true
  | count, gate :: rest =>
    gate.wires.all (·.isWithin count) && gate.isUsable && fits (count + 1) rest

section Circuit

variable (hasInput : stock.Has stage.place stage.place.input)
  (hasPorts : ∀ port ∈ ports, stock.Has stage.place port)

include hasInput hasPorts

theorem Wire.has {wire : Wire} (within : wire.isWithin ports.length = true) :
    stock.Has stage.place (wire.port stage.place ports) := by
  cases wire with
  | input name => exact hasInput.port name
  | gate number =>
    have below : number < ports.length := by simpa [Wire.isWithin] using within
    rw [Wire.port, List.getElem?_eq_getElem below]
    exact hasPorts _ (getElem_mem below)

theorem has_sources {sources : List (Wire × String)}
    (within : ∀ source ∈ sources, source.1.isWithin ports.length = true) :
    ∀ wire ∈ sources.map fun source => (source.1.port stage.place ports, source.2),
      stock.Has stage.place wire.1 := by
  intro _ member
  obtain ⟨source, inside, rfl⟩ := mem_map.mp member
  exact Wire.has hasInput hasPorts (within source inside)

theorem draws_gate {gate : Gate} (hasOutput : stock.Has stage.place stage.place.output)
    (within : ∀ wire ∈ gate.wires, wire.isWithin ports.length = true)
    (usable : gate.isUsable = true) :
    DrawsPath tools stage stock (gate.draw stage.place ports) True := by
  cases gate with
  | constant value => exact (draws_constantOfNumber (.whole value)).owed fun _ => by decide +kernel
  | node kind port =>
    refine .owed (draws_wiredNode kind port _ (has_sources hasInput hasPorts fun source member =>
      within _ (mem_map_of_mem member))) fun willing => ?_
    rcases (Bool.or_eq_true _ _).mp usable with comma | own
    · exact makesKind_of_comma comma
    · exact makesKind_of_own willing (contains_iff_mem.mp own)
  | collect =>
    refine draws_collectingNode _ (contains_iff_mem.mp usable) fun port member => ?_
    obtain ⟨source, inside, rfl⟩ := mem_map.mp member
    exact Wire.has hasInput hasPorts (within source inside)
  | output name source =>
    have has := Wire.has hasInput hasPorts (within source (.head _))
    exact .connect stage.place ⟨has, hasOutput.port name⟩ (.give (by simpa))

omit hasInput hasPorts

theorem draws_drawGates : ∀ {circuit : Circuit} {stock : Stock} {ports : List NodePath},
    stock.Has stage.place stage.place.input → stock.Has stage.place stage.place.output →
    (∀ port ∈ ports, stock.Has stage.place port) → circuit.fits ports.length = true →
    Draws tools stage stock (drawGates stage.place ports circuit) True stage
      (fun drawn => drawn.length = ports.length + circuit.length)
      (·.map fun port => (stage.place, port))
  | [], _, _, _, _, hasPorts, _ => .pure (by simpa using hasPorts) rfl
  | gate :: _, stock, ports, hasInput, hasOutput, hasPorts, fits => by
    simp only [Circuit.fits, Bool.and_eq_true, all_eq_true] at fits
    obtain ⟨⟨within, usable⟩, fits⟩ := fits
    refine .andThen (draws_gate hasInput hasPorts hasOutput within usable) fun port _ => ?_
    have subset : stock ⊆ pathIn stage.place port ++ stock := by simp
    have more : ∀ earlier ∈ ports ++ [port],
        Stock.Has (pathIn stage.place port ++ stock) stage.place earlier := by
      refine forall_mem_append.mpr ⟨fun earlier old => (hasPorts earlier old).mono subset, ?_⟩
      exact forall_mem_singleton.mpr (.of_mem (.head _))
    refine (draws_drawGates (hasInput.mono subset) (hasOutput.mono subset) more ?_).imp ?_ fun _ =>
      List.Subset.refl _
    · simpa using fits
    · intro _ length
      simpa [Nat.add_assoc, Nat.add_comm 1] using length

end Circuit

namespace Slice

/-! ## Slices -/

theorem draws_addInputs : DrawsHere tools stage stock (addInputs compound) True := by
  have whole (name : String) (stock : Stock) : DrawsHere tools stage stock
      (discard (addOutput compound.input name "long")) True :=
    (draws_addOutput.owed fun _ => namesPort_plain (by decide)).discard
  have truth (name : String) (stock : Stock) : DrawsHere tools stage stock
      (discard (addOutput compound.input name "bool")) True :=
    (draws_addOutput.owed fun _ => namesPort_plain (by decide)).discard
  refine .andThen (whole _ _) fun _ _ => .andThen (truth _ _) fun _ _ =>
    .andThen (whole _ _) fun _ _ => ?_
  refine .andThen (truth _ _) fun _ _ => .andThen (whole _ _) fun _ _ => ?_
  exact .andThen (truth _ _) fun _ _ => whole _ _

theorem draws_addOutputs : DrawsHere tools stage stock (addOutputs compound) True := by
  have whole (name : String) (stock : Stock) : DrawsHere tools stage stock
      (discard (addInput compound.output name "long")) True :=
    (draws_addInput.owed fun _ => namesPort_plain (by decide)).discard
  refine .andThen (whole _ _) fun _ _ => .andThen (whole _ _) fun _ _ => ?_
  refine .andThen (whole _ _) fun _ _ => .andThen (whole _ _) fun _ _ => ?_
  exact (draws_addInput.owed fun _ => namesPort_longs).discard

theorem draws_addLoop (hasInput : stock.Has stage.place stage.place.input)
    (hasOutput : stock.Has stage.place stage.place.output)
    (hasPorts : ∀ port ∈ ports, stock.Has stage.place port)
    (length : ports.length = circuit.length) :
    DrawsHere tools stage stock (addLoop stage.place ports) True := by
  refine .andThen (draws_createIterator rfl (by decide)) fun loop made => ?_
  refine .andThen (draws_enter made.plain (forall_mem_nil _)) fun _ _ => ?_
  refine .andThen (draws_addOutput.owed fun _ => namesPort_plain (by decide)).discard fun _ _ => ?_
  refine .andThen (draws_addOutput.owed fun _ => namesPort_plain (by decide)).discard fun _ _ => ?_
  refine .andThen (draws_addInput.owed fun _ => namesPort_longs).discard fun _ _ => ?_
  refine .andThen (draws_drawGates (by simp) (by simp) (by simp) (by decide)).discard fun _ _ => ?_
  refine .andThen (.discard draws_leave) fun _ _ => ?_
  have within : ∀ source ∈ loopWires, source.1.isWithin circuit.length = true := by decide
  have hasLoop : Stock.Has (compoundStock stage.place loop ++ stock) stage.place loop :=
    .of_mem (by simp)
  refine .andThen (draws_wires hasLoop fun wire member => ?_) fun _ _ => ?_
  · refine (has_sources hasInput hasPorts (length ▸ within) wire member).mono fun _ inside => ?_
    simp [inside]
  exact draws_connect stage.place (by simp [*])

/-- A slice can always be drawn. -/
theorem draws_create :
    Draws tools stage stock (create .nothing .nothing) True stage (CompoundIn stage.place)
      (compoundStock stage.place) := by
  refine .ofPlain fun plain => ?_
  refine .andThen (draws_createCompound (.inl rfl) plain) fun _ made => ?_
  refine .andThen (draws_enter made.plain (forall_mem_nil _)) fun _ _ => ?_
  refine .andThen draws_addInputs fun _ _ => ?_
  refine .andThen draws_addOutputs fun _ _ => ?_
  refine .andThen (draws_drawGates (by simp) (by simp) (by simp) (by decide)) fun _ length => ?_
  refine .andThen (draws_addLoop (by simp) (by simp) ?_ (by simpa using length)) fun _ _ => ?_
  · intro _ member
    exact .of_mem (mem_append_left _ (mem_map_of_mem member))
  refine .andThen (.discard draws_leave) fun _ _ => .pure ?_ made
  simp

end Slice

end GraphScript.Graph
