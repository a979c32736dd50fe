import GraphScript.Proofs.Emission.Steps

/-!
# Building terms

Every term builds its contents, under the condition that the rehearsal asks for.  The parts of a
term are built in the compound that is open; the bodies of compounds and loops are built inside of
their own.  The induction is over all kinds of terms at once, as in the emission itself.
-/

namespace GraphScript.Emission

open List GraphScript.Graph Program
open Act (Passes)
open Syntax (OperatorKind)

variable {tools : Tools}

mutual

theorem builds_emit (term : Term) :
    Builds tools stage stock term.contents (emit term)
      (Passes (rehearse tools.registry stage.names term)) (stage.lending [term.id])
      (fun path => term.form.isScope → path.isPort = false) (pathIn stage.place) := by
  match term with
  | .mk _ form => exact .ofForm fun sound => builds_form form sound

theorem builds_value (term : Term) :
    BuildsPath tools stage stock term.contents (emitValue term)
      (Passes (rehearseValue tools.registry stage.names term)) := by
  match term with
  | .mk _ form =>
    refine .congr (.before (Builds.ofForm fun sound => builds_form form sound).plain
      fun _ _ => .look fun _ _ => draws_valuePort (by simp)) ?_
    rw [rehearseValue]
    simp [carriedBy]

theorem builds_texts (kind : OperatorKind) (term : Term) :
    Builds tools stage stock term.contents (emitTexts kind term)
      (Passes (rehearseTexts tools.registry stage.names kind term)) stage noFact
      (pathsIn stage.place) := by
  match term with
  | .mk id form =>
    have alone : Builds tools stage stock (Term.mk id form).contents
        (do return [← once id (emitForm form)])
        (Passes (rehearseForm tools.registry stage.names form)) stage noFact
        (pathsIn stage.place) :=
      .drawing (Builds.ofForm fun sound => builds_form form sound).plain fun path _ =>
        .give (by simp)
    cases form with
    | binary inner operator type left right =>
      have split : Builds tools stage stock (Form.binary inner operator type left right).contents
          (do
            let front ← emitTexts kind left
            return front ++ (← emitTexts kind right))
          (Passes (do
            rehearseTexts tools.registry stage.names kind left
            rehearseTexts tools.registry stage.names kind right))
          stage noFact (pathsIn stage.place) := by
        refine .both (builds_texts kind left) fun _ => ?_
        refine .drawing (builds_texts kind right) fun _ _ => .give ?_
        intro _ member
        obtain ⟨_, inside, rfl⟩ := mem_map.mp member
        rcases mem_append.mp inside with early | late
        · simp [has_pathsIn early]
        · simp [has_pathsIn late]
      rw [rehearseTexts]
      refine .congr (.ite (fun _ => .look fun _ _ => .ite (fun _ => split.part _) fun _ => alone)
        fun _ => alone) ?_
      simp [Act.passes_ite]
    | _ => exact alone

theorem builds_form (form : Form) {id : Nat} (sound : (Item.term (.mk id form)).Sound) :
    Builds tools stage stock form.contents (emitForm form)
      (Passes (rehearseForm tools.registry stage.names form)) stage
      (fun path => form.isScope → path.isPort = false) (pathIn stage.place) := by
  match form, sound with
  | .value _ _, sound => exact .unscoped (.draw (draws_literal sound))
  | .reference _ _, _ => exact .unscoped (.draw (.congr draws_variable passes_demand.symm))
  | .vector component _ values, _ =>
    refine .unscoped (.congr (.drawn draws_createValue fun node _ =>
      .look fun component _ => .look fun base _ =>
        .drawing (builds_components values (by simp)) fun _ _ =>
          (.give (by simp))) ?_)
    rw [rehearseForm]
    simp
  | .not _ value, _ =>
    exact .unscoped (.drawing (builds_value value) fun path _ => draws_notNode (by simp))
  | .negate _ value, _ =>
    exact .unscoped (.drawing (builds_value value) fun path _ => draws_negateNode (by simp))
  | .enumeration _ _, _ =>
    exact .unscoped (.draw (.congr draws_enumerationNode passes_demand.symm))
  | .matrix component _ columns, _ =>
    refine .unscoped (.congr (.drawn draws_createValue fun node _ =>
      .look fun component _ => .look fun _ _ =>
        .drawing (builds_columns columns (by simp)) fun _ _ =>
          (.give (by simp))) ?_)
    rw [rehearseForm]
    simp
  | .sheet component _ _, _ =>
    refine .unscoped (.draw (.congr (.andThen draws_createValue fun node _ =>
      .look fun _ _ => .bind draws_glance fun _ _ =>
        .ite (fun _ => .give (by simp)) fun _ => .throw) ?_))
    rw [rehearseForm]
    simp
  | .array element values, _ =>
    have array (paths : List NodePath) (count : paths.length = values.length) :
        DrawsPath tools stage (pathsIn stage.place paths ++ stock)
          (do arrayOfPorts (.list (paths.map Datum.path)) (← arrayOf element).name .nothing)
          (∃ type, arrayOf element = .ok type ∧ elementsFit values.length type.name) := by
      refine .look fun type _ => ?_
      rw [← count]
      refine draws_arrayOfPorts paths fun source member => ?_
      simp only [Stock.has_append, has_pathsIn member, true_or]
    refine .unscoped (.congr (.before (builds_values values) array) ?_)
    rw [rehearseForm]
    simp
  | .emptyArray _ count, _ =>
    refine .unscoped (.congr (.before (builds_value count) fun _ _ =>
      .look fun type _ => draws_sizedArrayNode (.inl ⟨_, rfl, by simp⟩)) ?_)
    rw [rehearseForm]
    simp
  | .object entries, _ =>
    refine .unscoped (.drawing (builds_entries entries) fun pairs _ =>
      draws_objectOfPorts pairs fun pair member => ?_)
    have inside (path : NodePath) (own : path = pair.1 ∨ path = pair.2) : (stage.place, path) ∈
        pairs.flatMap fun pair => [(stage.place, pair.1), (stage.place, pair.2)] := by
      refine mem_flatMap.mpr ⟨pair, member, ?_⟩
      simpa using own
    exact ⟨.of_mem (mem_append_left _ (inside _ (.inl rfl))),
      .of_mem (mem_append_left _ (inside _ (.inr rfl)))⟩
  | .binary kind _ _ left right, _ =>
    have texts : BuildsPath tools stage stock (left.contents ++ right.contents)
        (do
          let front ← emitTexts kind left
          let back ← emitTexts kind right
          joinTexts ((front ++ back).map Datum.path))
        (Passes (do
          rehearseTexts tools.registry stage.names kind left
          rehearseTexts tools.registry stage.names kind right)) := by
      refine .both (builds_texts kind left) fun front => ?_
      refine .drawing (builds_texts kind right) fun back _ => ?_
      refine draws_joinTexts (front ++ back) fun _ member => ?_
      rcases mem_append.mp member with early | late
      · simp [has_pathsIn early]
      · simp [has_pathsIn late]
    refine .unscoped (.congr (.look fun isText _ => .ite (fun _ => texts) fun _ =>
      .bind (builds_emit left).plain fun _ _ =>
        .before (builds_emit right).plain fun _ _ =>
          draws_operation (by simp) (by simp)) ?_)
    rw [rehearseForm]
    refine Iff.trans (exists_congr fun _ => and_congr_right fun _ => ?_) Act.passes_bind.symm
    split
    · rfl
    · simp only [Act.passes_then]
  | .comparison operators _ operands, _ =>
    rw [emitForm_comparison]
    refine .unscoped ?_
    cases operands with
    | nil => exact .draw (.congr .throw (Act.passes_throw _).symm)
    | cons first rest =>
      rw [rehearseForm]
      cases operators with
      | nil =>
        have none : emitComparisons (emit first) first [] rest = pure [] := by cases rest <;> rfl
        simp only [none, pure_bind]
        exact .draw (.congr .throw (by simp))
      | cons =>
        cases rest with
        | nil =>
          simp only [emitComparisons, pure_bind]
          exact .draw (.congr .throw (by simp))
        | cons next rest =>
          simp only [emitComparisons_first (emit first), bind_assoc]
          refine .congr (.bind (builds_emit first).plain fun _ _ =>
            .drawing (builds_chain (next :: rest) (.give (by simp))) fun paths facts => ?_)
              (by simp)
          cases paths with
          | nil => exact absurd (facts rfl) (by simp)
          | cons result =>
            refine draws_allOf (by simp) fun _ member => ?_
            rw [Stock.has_append]
            exact .inl (has_pathsIn (mem_cons_of_mem result member))
  | .access value accessor, _ =>
    refine .unscoped (.congr (.bind (builds_emit value).plain fun path _ =>
      .look fun _ _ => .after (draws_valuePort (by simp)) (fun _ _ inside => inside) fun port _ =>
        builds_access accessor (by simp)) ?_)
    rw [rehearseForm]
    simp
  | .port holder node _, _ =>
    refine .unscoped ?_
    cases holder with
    | none => exact .drawing (builds_emit node).plain fun path _ => .give (by simp)
    | some =>
      refine .borrowed fun lent => .congr (.andThen (draws_emit_lent lent) fun path _ =>
        (.give (by simp))) ?_
      exact iff_of_true trivial (Act.passes_ok _)
  | .associative name _ arguments named _ _, _ =>
    refine .unscoped (.congr (.after (draws_createNode name) (fun _ _ inside => inside)
      fun node _ => .bind (builds_collected arguments (by simp))
        fun _ count => .drawing (.congr (.discard (builds_collected named
          (by simp))) (by rw [count])) fun _ _ => .give (by simp)) ?_)
    rw [rehearseForm]
    simp
  | .native name arguments named _ _ _ _, _ =>
    refine .unscoped ?_
    rw [rehearseForm]
    refine .demanded (fun _ => noFact) (draws_createNode name) fun node _ => ?_
    refine .drawn draws_stopCollecting fun _ _ => .get fun _ same => ?_
    rw [same]
    refine .looked fun _ => ?_
    refine .placing (builds_positional arguments)
      (fun _ => builds_named named) (by simp) fun more subset => ?_
    refine .andThen draws_setTerminal fun _ _ => .give fun entry member => ?_
    exact .mono (.of_entry (mem_append_left stock member)) subset
  | .function _ body arguments named _ _ _ _, sound =>
    have isScope : body.form.isScope := sound
    refine .unscoped (.alike ?_ (Contents.Alike.comm _ _))
    rw [rehearseForm]
    refine .congr (.bind (builds_emit body).forget fun node plain => ?_) Act.passes_then.symm
    refine .placing (builds_positional arguments)
      (fun _ => builds_named named) (by simp) fun more subset => ?_
    refine .andThen (draws_rename (plain isScope)) fun renamed same => ?_
    subst same
    refine .andThen draws_setTerminal fun _ _ => .give fun entry member => ?_
    exact .mono (.of_entry (mem_append_left stock member)) subset
  | .construct _ arguments named, _ =>
    refine .unscoped ?_
    rw [rehearseForm_construct]
    refine .drawn draws_createValue fun node _ => .looked fun _ => ?_
    refine .placing (.congr (builds_positional arguments) (by rw [length_map]))
      (fun _ => builds_named named) (by simp) fun _ subset => .give ?_
    intro _ member
    obtain rfl := mem_singleton.mp member
    exact .mono (.port (.of_mem (mem_cons_self ..)) _) subset
  | .scope _ parameters _ code _, sound =>
    rw [rehearseForm]
    refine .ofPlain fun plain => .drawn (draws_createCompound (.inl rfl) plain)
      fun compound made => ?_
    refine .prepared (fun _ (path : NodePath) => true → path.isPort = false)
      (builds_parameters parameters (ownPorts_empty _) (by simp)) fun memory own => ?_
    refine .thenPrepared (fun _ (path : NodePath) => true → path.isPort = false)
      (builds_declareResults own) fun memory own => ?_
    have holds : Stock.Holds (compoundStock (stage.placeOf .nothing) compound ++ stock)
      compound memory :=
      own.holds (by simp) (by simp)
    refine builds_inside made.plain holds (.congr (builds_statements code sound.2 (by simp))
      Act.passes_discard.symm) ?_
    refine .andThen (draws_rename made.plain) fun _ same => ?_
    subst same
    refine .andThen draws_setTerminal fun _ _ => .pure (by simp) fun _ => made.plain
  | .loop kind parameters _ code limit index _ condition, sound =>
    rw [emitForm_loop]
    obtain ⟨-, settled, borrowed⟩ := sound
    refine .unscoped (.alike ?_ (Contents.Alike.turned _ _ _ _))
    rw [rehearseForm]
    refine .drawn (draws_iterator kind) fun node made => ?_
    refine .prepared (fun _ => noFact)
      (builds_loopParameters parameters (ownPorts_empty _) (by simp)) fun memory own => ?_
    refine .thenPrepared (fun _ => noFact) (builds_declareLoopResults own) fun memory own => ?_
    refine .prepared (fun _ => noFact) (builds_limit limit own (by simp)) fun memory own => ?_
    refine .thenPrepared (fun _ => noFact) (.draw (draws_definingInput own)) fun memory own => ?_
    refine .prepared (fun _ => noFact) (builds_index index own (by simp)) fun memory own => ?_
    have holds : Stock.Holds (compoundStock stage.place node ++ stock) node memory :=
      own.holds (by simp) (by simp)
    refine builds_inside made.plain holds
      (builds_body condition (builds_statements code settled (by simp))
      (fun term member => mem_map.mpr ⟨term, borrowed term member, rfl⟩) (by simp)) ?_
    exact .andThen draws_setTerminal fun _ _ => .give (by simp)

theorem builds_values (values : List Term) :
    Builds tools stage stock (termsContents values) (emitValues values)
      (Passes (rehearseValues tools.registry stage.names values)) stage
      (fun paths => paths.length = values.length) (pathsIn stage.place) := by
  match values with
  | [] => exact .idle
  | value :: rest =>
    refine .both (builds_value value) fun _ => ?_
    refine .drawing (builds_values rest) fun _ count => .pure ?_ ?_
    · exact forall_mem_cons.mpr ⟨by simp, fun _ later => by simp [Stock.Has.of_entry later]⟩
    · rw [length_cons, length_cons, count]

theorem builds_columns (columns : List (List Term)) {node : NodePath} {cast : String}
    {type : PortType} (hasNode : stock.Has stage.place node) :
    BuildsHere tools stage stock (columnsContents columns)
      (emitColumns node cast type letters columns)
      (Passes (rehearseColumns tools.registry stage.names cast type letters.length columns)) := by
  match columns with
  | [] => cases letters <;> exact .idle
  | column :: rest =>
    cases letters with
    | nil => exact .idle
    | cons =>
      exact .both (builds_column column hasNode) fun _ => builds_columns rest hasNode

theorem builds_column (values : List Term) {node : NodePath} {cast : String} {type : PortType}
    (hasNode : stock.Has stage.place node) :
    BuildsHere tools stage stock (termsContents values) (emitColumn node cast type letter values)
      (Passes (rehearseComponents tools.registry stage.names cast type 4 values)) := by
  match values with
  | [] => exact .idle
  | first :: rest =>
    cases rest with
    | nil =>
      refine .part (.congr (builds_component first hasNode) ?_) _
      simp [rehearseComponents]
    | cons second others =>
      exact .both (builds_component first hasNode) fun _ =>
        builds_components (second :: others) hasNode

theorem builds_entries (entries : List Entry) :
    Builds tools stage stock (entriesContents entries) (emitEntries entries)
      (Passes (rehearseEntries tools.registry stage.names entries)) stage noFact
      (fun pairs => pairs.flatMap fun pair => [(stage.place, pair.1), (stage.place, pair.2)]) := by
  match entries with
  | [] => exact .idle
  | .mk key value :: rest =>
    rw [entriesContents, Contents.append_assoc]
    refine .both (builds_value key) fun _ => ?_
    refine .both (builds_value value) fun _ => ?_
    refine .drawing (builds_entries rest) fun _ _ => .give ?_
    intro _ member
    rw [flatMap_cons] at member
    rcases mem_append.mp member with own | later
    · rcases mem_cons.mp own with rfl | second
      · simp
      · obtain rfl := mem_singleton.mp second
        simp
    · simp [Stock.Has.of_entry later]

theorem builds_chain {build : Building NodePath} (terms : List Term)
    (draws : DrawsPath tools stage stock build True) :
    Builds tools stage stock (termsContents terms) (emitComparisons build operand operators terms)
      (Passes (rehearseChain tools.registry stage.names operand operators terms)) stage
      (fun paths => paths = [] → operators = [] ∨ terms = []) (pathsIn stage.place) := by
  match terms with
  | [] => cases operators <;> exact .idle (fun _ => .inr rfl)
  | next :: rest =>
    cases operators with
    | nil => exact .idle (fun _ => .inl rfl)
    | cons =>
      refine .congr (.drawn draws fun _ _ => .seq (builds_emit next)
        (fun _ _ inside => mem_append_right _ inside) fun _ _ =>
          .after (draws_outputPort (by simp)) (fun _ _ inside => inside) fun _ _ =>
            .after (draws_outputPort (by simp)) (fun _ _ inside => inside) fun _ _ =>
              .after (draws_comparisonNode (by simp) (by simp)) (fun _ _ inside => inside)
                fun _ _ => .drawing (.forget (builds_chain rest (draws_emit_lent (mem_append_left _
                    (mem_singleton.mpr rfl))))) fun _ _ => .pure ?_ (by simp)) ?_
      · exact forall_mem_cons.mpr ⟨by simp, fun _ later => by simp [Stock.Has.of_entry later]⟩
      · rw [rehearseChain]
        simp

theorem builds_bound (bound : Option Term) (hasNode : stock.Has stage.place node) :
    BuildsHere tools stage stock (optionContents bound) (setBound node name (emitBound bound))
      (Passes (rehearseBound tools.registry stage.names bound)) := by
  match bound with
  | none =>
    change Builds tools stage stock .none (setDefault node (name ++ "_is_none")
      (.truth true)) _ _ _ _
    exact .draw (.congr (draws_setDefault rfl) (iff_of_true trivial (Act.passes_ok _)))
  | some term =>
    exact .drawing (builds_emit term).plain fun _ _ => draws_connect stage.place (by simp [*])

theorem builds_default (wanted : PortType) (default : Option Term)
    (member : value ∈ emitDefault default) :
    BuildsPath tools stage stock (optionContents default) value
      (Passes (rehearseDefault tools.registry stage.names wanted default)) := by
  match default, member with
  | some term, member =>
    cases member
    exact builds_value term

theorem builds_access (accessor : Accessor) (hasValue : stock.Has stage.place value) :
    BuildsPath tools stage stock accessor.contents (emitAccess value type accessor)
      (Passes (rehearseAccess tools.registry stage.names type accessor)) := by
  match accessor with
  | .slice start stop step =>
    refine .drawing (builds_slice (fun _ _ _ => builds_bound start) (fun _ _ _ => builds_bound stop)
      fun _ _ _ => builds_bound step) fun _ _ => draws_slicedNode (by simp [hasValue]) (by simp)
  | .index _ index =>
    refine .part (.congr (.ite (fun _ => ?_) fun _ => ?_) Act.passes_ite.symm) _
    all_goals
      refine .drawn (draws_createOwn (by decide)) fun _ _ => ?_
      refine .drawn (draws_connect stage.place (by simp [*])) fun _ _ => ?_
    on_goal 1 => refine .drawing (builds_emit index).plain fun path _ => ?_
    on_goal 2 => refine .drawing (builds_value index) fun path _ => ?_
    all_goals
      refine .connect stage.place (by simp [*]) ?_
      exact .give (by simp)
  | .orDefault _ key wanted default =>
    refine .drawing (.forget (.once (builds_property (fun _ => (builds_emit key).plain)
      (fun _ member _ => builds_default wanted default member) ?_))) fun _ _ => ?_
    · intro missing
      cases default with
      | none => exact passes_demand.symm
      | some => cases missing
    · refine .connect stage.place (by simp [*]) ?_
      exact .give (by simp)
  | .member _ => exact .draw (.congr (draws_memberNode hasValue) Act.passes_discard.symm)

theorem builds_accessor (accessor : Accessor) :
    BuildsPath tools stage stock accessor.contents (emitAccessor accessor)
      (Passes (rehearseAccessor tools.registry stage.names accessor)) := by
  match accessor with
  | .slice start stop step =>
    exact builds_slice (fun _ _ _ => builds_bound start) (fun _ _ _ => builds_bound stop)
      fun _ _ _ => builds_bound step
  | .index _ index => exact .forget (.once (builds_value index))
  | .orDefault _ key wanted default =>
    refine .imp (.forget (.once (builds_property (fun _ => (builds_emit key).plain)
      (fun _ member _ => builds_default wanted default member) ?_)))
      (fun _ _ => trivial) fun _ => ?_
    · intro missing
      cases default with
      | none => exact passes_demand.symm
      | some => cases missing
    · simp
  | .member _ => exact .draw (.congr .throw (Act.passes_throw _).symm)

theorem builds_argument (wanted : Except Fault PortType) (argument : Argument) :
    BuildsPath tools stage stock argument.value.contents (emitArgument wanted argument)
      (Passes (rehearseArgument tools.registry stage.names wanted argument)) := by
  match argument with
  | .mk _ value =>
    refine .congr (.before (builds_emit value).plain fun _ _ => draws_argument (by simp)) ?_
    rw [rehearseArgument]
    rw [Act.passes_then, carriedBy, bind_assoc, Term.type_form]

theorem builds_collected (arguments : List Argument) (hasNode : stock.Has stage.place node) :
    Builds tools stage stock (argumentsContents arguments)
      (emitCollected node outputs names arguments)
      (Passes (rehearseCollected tools.registry stage.names
        (orFault .badIndex (outputs.head?.map Prod.snd)) names.length arguments)) stage
      (fun left => left.length = names.length - arguments.length) noGift := by
  match arguments with
  | [] => cases names <;> exact .idle
  | argument :: rest =>
    rw [argumentsContents_cons]
    cases names with
    | nil => exact .idle (by simp)
    | cons =>
      refine .both (builds_argument _ argument) fun _ => ?_
      refine .drawn (draws_addInput.owed fun _ => namesPort_plain (by decide)) fun _ same => ?_
      subst same
      refine .drawn (draws_connect stage.place (by simp [*])) fun _ _ => ?_
      refine (builds_collected rest (by simp [hasNode])).imp
        (fun _ count => ?_) fun _ => List.Subset.refl _
      rw [count, length_cons, length_cons]
      omega

theorem builds_positional (arguments : List Argument) :
    Builds tools stage stock (argumentsContents arguments) (emitPositional arguments names types)
      (Passes (rehearsePositional tools.registry stage.names arguments names.length types)) stage
      noFact (pathsIn stage.place) := by
  match arguments with
  | [] => cases names <;> exact .idle
  | argument :: rest =>
    rw [argumentsContents_cons]
    cases names with
    | nil => exact .idle
    | cons =>
      refine .both (builds_argument _ argument) fun _ => ?_
      refine .drawing (builds_positional rest) fun _ _ => .give ?_
      exact forall_mem_cons.mpr ⟨by simp, fun _ later => by simp [Stock.Has.of_entry later]⟩

theorem builds_named (arguments : List Argument) :
    Builds tools stage stock (argumentsContents arguments) (emitNamed names types arguments)
      (Passes (rehearseNamed tools.registry stage.names names types arguments)) stage noFact
      (fun pairs => pairs.map fun pair => (stage.place, pair.2)) := by
  match arguments with
  | [] => exact .idle
  | .mk _ value :: rest =>
    rw [rehearseNamed]
    refine .congr (.bind (builds_emit value).plain fun _ _ =>
      builds_namedArgument (by simp) (fun _ => builds_named rest)) ?_
    rw [Act.passes_then, carriedBy, bind_assoc, Term.type_form]
    rfl

theorem builds_parameters (parameters : List Parameter) (own : OwnPorts compound memory)
    (hasCompound : stock.Has stage.place compound) :
    Prepares tools stage stock compound (parametersContents parameters)
      (emitParameters compound memory parameters)
      (rehearseParameters tools.registry stage.names memory.names parameters) := by
  match parameters with
  | [] => exact .idle ⟨rfl, own⟩
  | .mk _ _ default :: rest =>
    rw [emitParameters, rehearseParameters]
    refine .demanded _ (.discard draws_addOutput) fun _ _ => ?_
    refine .thenPrepared _ (.draw (draws_definingInput own)) fun _ own => ?_
    cases default with
    | none =>
      rw [parametersContents, optionContents, Builds.none_append, rehearseBound]
      exact builds_parameters rest own hasCompound
    | some value =>
      refine .unit (builds_emit value).plain fun _ => ?_
      refine .drawn (draws_connect stage.place (by simp [*])) fun _ _ => ?_
      exact builds_parameters rest own (by simp [hasCompound])

theorem builds_loopParameters (parameters : List LoopParameter) (own : OwnPorts node memory)
    (hasNode : stock.Has stage.place node) :
    Prepares tools stage stock node (loopParametersContents parameters)
      (emitLoopParameters node memory parameters)
      (rehearseLoopParameters tools.registry stage.names memory.names parameters) := by
  match parameters with
  | [] => exact .idle ⟨rfl, own⟩
  | .mk _ _ default _ :: rest =>
    rw [emitLoopParameters, rehearseLoopParameters]
    refine .demanded _ (.discard draws_addOutput) fun _ _ => ?_
    refine .thenPrepared _ (.draw (draws_definingInput own)) fun _ own => ?_
    dsimp only
    refine .optional rfl ?_
    cases default with
    | none =>
      rw [loopParametersContents, optionContents, Builds.none_append, ← bind_assoc]
      exact .demanded _ (draws_connectVariable hasNode) fun _ _ =>
        builds_loopParameters rest own hasNode
    | some value =>
      refine .unit (builds_emit value).plain fun _ => ?_
      refine .drawn (draws_connect stage.place (by simp [*])) fun _ _ => ?_
      exact builds_loopParameters rest own (by simp [hasNode])

theorem builds_limit (limit : Option Term) (own : OwnPorts node memory)
    (hasNode : stock.Has stage.place node) :
    Prepares tools stage stock node (optionContents limit) (emitLimit node memory limit)
      (rehearseLimit tools.registry stage.names memory.names limit) := by
  match limit with
  | none =>
    refine .draw (.congr (.andThen (.send rfl) fun _ _ =>
      .pure (by simp) ⟨rfl, own⟩) (iff_of_true trivial (Act.passes_ok _)))
  | some count =>
    rw [rehearseLimit]
    refine .thenPrepared _ (.draw (draws_definingInput own)) fun _ own => ?_
    rw [← Contents.append_none (optionContents _)]
    refine .unit (builds_value count) fun _ =>
      .draw (.congr ?_ (iff_of_true trivial (Act.passes_pure _)))
    exact .connect stage.place (by simp [*]) (.pure (by simp) ⟨rfl, own⟩)

theorem builds_index (index : LoopIndex) (own : OwnPorts node memory)
    (hasNode : stock.Has stage.place node) :
    Prepares tools stage stock node index.contents (emitIndex node memory index)
      (rehearseIndex tools.registry stage.names memory.names index) := by
  match index with
  | .mk _ _ start =>
    rw [rehearseIndex, ← Contents.append_none (LoopIndex.contents _)]
    refine .unit (.forget (.once (builds_emit start).plain)) fun _ => .draw ?_
    exact .connect stage.place (by simp [*]) (draws_definingInput own)

theorem builds_body (condition : Option Term)
    (builds : BuildsNaming tools stage stock (statementsContents code).enclosed
      (emitStatements code) (rehearseStatements tools.registry stage.names code) numbers)
    (borrowed : ∀ term ∈ (optionContents condition).borrowed, term.id ∈ numbers)
    (hasOutput : stock.Has stage.place node.output) :
    Builds tools stage stock (statementsContents code ++ optionContents condition).enclosed
      (emitBody node code condition)
      (Passes (do
        let after ← rehearseStatements tools.registry stage.names code
        rehearseBound tools.registry after condition))
      ((stage.after (rehearseStatements tools.registry stage.names code)).lending numbers)
        noFact noGift := by
  match condition, borrowed with
  | none, _ =>
    rw [optionContents, Contents.append_none, emitBody, bind_pure_unit]
    refine builds.congr ⟨fun passes => ?_, fun passes => ?_⟩
    · obtain ⟨after, same⟩ := passes
      exact Act.passes_bind.mpr ⟨after, same, Act.passes_ok _⟩
    · obtain ⟨after, same, -⟩ := Act.passes_bind.mp passes
      exact ⟨after, same⟩
  | some term, borrowed =>
    have connected (names : Names) : BuildsHere tools ((stage.named names).lending numbers) stock
        term.contents.enclosed (do connect (← emit term) (node.output.port "looping_condition"))
        (Passes (rehearse tools.registry names term)) := by
      refine .enclosed (.drawing (builds_emit term).plain fun _ _ =>
        draws_connect stage.place (by simp [*])) fun lender member => ?_
      exact mem_append_left _ (borrowed lender member)
    change Builds tools stage stock ((statementsContents code).enclosed ++ term.contents.enclosed)
      (do
        emitStatements code
        connect (← emit term) (node.output.port "looping_condition"))
      (Passes (do
        let after ← rehearseStatements tools.registry stage.names code
        rehearse tools.registry after term)) _ noFact noGift
    refine .named builds fun names same => ?_
    rw [same]
    exact connected names

theorem builds_statements (code : List Statement) (settled : Settled known code)
    (lent : ∀ node ∈ known, node.id ∈ stage.lent) :
    BuildsNaming tools stage stock (statementsContents code).enclosed (emitStatements code)
      (rehearseStatements tools.registry stage.names code) ((assignedIn code).map Term.id) := by
  match code, settled with
  | [], _ => exact .idle
  | statement :: rest, settled =>
    have lentHere : ∀ node ∈ statement.contents.borrowed, node.id ∈ stage.lent :=
      fun node member => lent node (settled.1 node member)
    rw [rehearseStatements]
    change Builds _ _ _ (statement.contents.enclosed ++ (statementsContents rest).enclosed) _
      _ _ _ _
    refine .named ((builds_statement statement).enclosed lentHere) fun names same => ?_
    rw [same]
    have lentLater : ∀ node ∈ known ++ statement.assigned,
        node.id ∈ ((stage.named names).lending (statement.assigned.map Term.id)).lent := by
      exact forall_mem_append.mpr ⟨fun node old => mem_append_right _ (lent node old),
        fun _ new => mem_append_left _ (mem_map_of_mem new)⟩
    refine (builds_statements rest settled.2 lentLater).lendLess ?_
    change (assignedIn (statement :: rest)).map Term.id ++ stage.lent ⊆
      (assignedIn rest).map Term.id ++ (statement.assigned.map Term.id ++ stage.lent)
    rw [assignedIn, flatMap_cons, map_append]
    intro _ member
    simp only [mem_append] at member ⊢
    tauto

theorem builds_statement (statement : Statement) :
    BuildsNaming tools stage stock statement.contents (emitStatement statement)
      (rehearseStatement tools.registry stage.names statement)
      (statement.assigned.map Term.id) := by
  match statement with
  | .empty => exact .draw (.congr .throw (Act.passes_throw _).symm)
  | .make term =>
    rw [rehearseStatement]
    refine .renext (.congr (.discard (builds_emit term).plain) ?_) fun passes => ?_
    · rw [Act.passes_then, and_iff_left (Act.passes_pure _)]
    · obtain ⟨_, same⟩ := (Act.passes_then.mp passes).1
      rw [same]
      rfl
  | .assignment id targets operator value =>
    refine .onceOnly rfl ?_
    rw [rehearseStatement]
    have targeted (path : NodePath) : Builds tools (stage.lending [value.id])
        (pathIn stage.place path ++ stock) (targetsContents targets)
        (do
          let paths ← valuesFor targets.length operator value path
          emitTargets targets paths)
        (Passes (do
          rehearseTargets tools.registry stage.names targets
            (← valueCount targets.length operator value)))
        ((stage.after (do
          rehearseTargets tools.registry stage.names targets
            (← valueCount targets.length operator value))).lending [value.id]) noFact noGift :=
      builds_valuesFor fun _ portOf => builds_targets targets
        fun port member => has_of_portOf (by simp) (portOf port member)
    refine (Builds.thenNaming (builds_emit value) targeted).lendLess ?_
    refine append_subset.mpr ⟨?_, subset_append_right _ _⟩
    simp only [Statement.assigned]
    split <;> simp [Stage.lending]
  | .takeOver _ node =>
    refine .onceOnly rfl ?_
    rw [rehearseStatement]
    have first : Builds tools stage stock node.contents (emit node)
        (Passes (rehearse tools.registry stage.names node)) (stage.lending []) noFact
        (pathIn stage.place) := (builds_emit node).plain
    have second (path : NodePath) :
      BuildsNaming tools stage (pathIn stage.place path ++ stock) .none
        (do takeOver path (← node.outputs)) (do rehearseTakeOver stage.names (← node.outputs)) [] :=
      .lookNaming fun _ _ => .draw (draws_takeOver path (by simp))
    have both := first.thenNaming second
    rwa [Contents.append_none] at both

theorem builds_targets (targets : List Target) (has : ∀ path ∈ paths, stock.Has stage.place path) :
    BuildsNaming tools stage stock (targetsContents targets) (emitTargets targets paths)
      (rehearseTargets tools.registry stage.names targets paths.length) [] := by
  match targets with
  | [] => cases paths <;> exact .idle
  | target :: rest =>
    cases paths with
    | nil => exact .idle
    | cons path =>
      rw [length_cons, rehearseTargets]
      refine .named (builds_target target (has path (mem_cons_self ..))) fun _ same => ?_
      rw [same]
      exact builds_targets rest (forall_mem_cons.mp has).2

theorem builds_target (target : Target) (hasValue : stock.Has stage.place value) :
    BuildsNaming tools stage stock target.contents (emitTarget value target)
      (rehearseTarget tools.registry stage.names target) [] := by
  match target with
  | .ignored => exact .idle
  | .declared .. => exact .draw (draws_define hasValue)
  | .reference .. => exact .draw (draws_assignTo hasValue)
  | .part _ kind base accessor _ =>
    refine .renext (.discard (.forget (.once (builds_part kind hasValue
      (fun stock => builds_value base) fun _ => builds_accessor accessor)))) fun passes => ?_
    rw [rehearseTarget_part passes]
    rfl

theorem builds_component (term : Term) {node : NodePath} {cast : String} {type : PortType}
    {member : String} (hasNode : stock.Has stage.place node) :
    BuildsHere tools stage stock term.contents (emitComponent node cast type member term)
      (Passes (rehearseComponent tools.registry stage.names cast type term)) := by
  match term with
  | .mk _ form =>
    refine .congr (.before (Builds.ofForm fun sound => builds_form form sound).plain
      fun _ _ => draws_connectComponent (by simp) (by simp [hasNode])) ?_
    rw [rehearseComponent]
    simp [carriedBy]

theorem builds_components (values : List Term) {node : NodePath} {cast : String} {type : PortType}
    {stem : String} (hasNode : stock.Has stage.place node) :
    BuildsHere tools stage stock (termsContents values)
      (emitComponents node cast type stem letters values)
      (Passes (rehearseComponents tools.registry stage.names cast type letters.length values)) := by
  match values with
  | [] =>
    cases letters with
    | nil | cons => exact .idle
  | value :: rest =>
    cases letters with
    | nil => exact .idle
    | cons =>
      exact .both (builds_component value hasNode) fun _ => builds_components rest hasNode

end

end GraphScript.Emission
