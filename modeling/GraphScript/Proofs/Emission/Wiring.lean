import GraphScript.Proofs.Emission.Rehearsal
import GraphScript.Proofs.Emission.Building

/-!
# Wiring while building

What the steps of the emission that do not look inside terms need and give.  Whether such a step can
be made depends on types and names only, in the way the rehearsal asks for it.
-/

namespace GraphScript.Emission

open List hiding count
open GraphScript.Graph Program
open Act (Passes)
open Syntax (LoopKind)

variable {stage next : Stage} {stock : Stock}

@[simp] theorem passes_demand : Passes (demand holds) ↔ holds = true := by
  cases holds <;> simp [demand]

/-! ## Ports of values -/

section Ports

variable {port : NodePath} {term : Term}

theorem PortOf.trans (outer : PortOf first second) (inner : PortOf second third) :
    PortOf first third := by
  induction inner with
  | self => exact outer
  | port _ name ih => exact ih.port name

theorem has_of_portOf (has : stock.Has place path) (portOf : PortOf path port) :
    stock.Has place port := by
  obtain ⟨base, member, outer⟩ := has
  exact ⟨base, member, PortOf.trans outer portOf⟩

theorem expanded_ok_iff :
    (∃ port, expanded path type = .ok (port, valueType)) ↔ carried type = .ok valueType := by
  unfold expanded carried
  split
  · cases firstPort type with
    | error => simp [bind, Except.bind]
    | ok => simp [bind, Except.bind, pure, Except.pure]
  · simp [pure, Except.pure]

theorem portOf_expanded (found : expanded path type = .ok (port, valueType)) :
    PortOf path port := by
  unfold expanded at found
  split at found
  · obtain ⟨_, -, found⟩ := Act.bind_eq_ok.mp found
    cases found
    exact PortOf.self.port _
  · cases found
    exact .self

/-- The port of the first output is there when the term has outputs. -/
theorem passes_outputPort : Passes (outputPort path term) ↔ Passes (hasOutput term) := by
  unfold outputPort hasOutput
  simp only [Act.passes_bind]
  refine exists_congr fun _ => and_congr_right fun _ => ?_
  split
  · simp only [Act.passes_bind]
    refine exists_congr fun outputs => and_congr_right fun _ => ?_
    cases outputs <;> simp
  · simp

theorem portOf_outputPort (found : outputPort path term = .ok port) : PortOf path port := by
  obtain ⟨_, -, found⟩ := Act.bind_eq_ok.mp found
  split at found
  · obtain ⟨outputs, -, found⟩ := Act.bind_eq_ok.mp found
    cases outputs with
    | nil => cases found
    | cons =>
      cases found
      exact PortOf.self.port _
  · cases found
    exact .self

theorem valueCount_eq (count : Nat) (operator : String) (term : Term) (path : NodePath) :
    valueCount count operator term = (valuesFor count operator term path).map length := by
  unfold valuesFor valueCount
  cases term.type with
  | error => rfl
  | ok =>
    simp only [bind, Except.bind]
    split
    · split
      · cases term.outputs with
        | error => rfl
        | ok => simp [pure, Except.pure, Except.map]
      · rfl
    · simp [pure, Except.pure, Except.map]

/-- The values of an assignment are ports of what is assigned. -/
theorem portOf_valuesFor (found : valuesFor count operator term path = .ok paths) :
    ∀ port ∈ paths, PortOf path port := by
  obtain ⟨_, -, found⟩ := Act.bind_eq_ok.mp found
  split at found
  · split at found
    · obtain ⟨_, -, found⟩ := Act.bind_eq_ok.mp found
      cases found
      intro port member
      obtain ⟨_, -, rfl⟩ := mem_map.mp member
      exact PortOf.self.port _
    · cases found
      simp
  · cases found
    intro _ member
    rw [eq_of_mem_replicate member]
    exact .self

theorem passes_expanded : Passes (expanded path type) ↔ Passes (carried type) := by
  constructor
  · rintro ⟨⟨port, valueType⟩, found⟩
    exact ⟨valueType, expanded_ok_iff.mp ⟨port, found⟩⟩
  · rintro ⟨_, found⟩
    obtain ⟨_, found⟩ := expanded_ok_iff.mpr found
    exact ⟨_, found⟩

theorem draws_expanded (has : stock.Has stage.place path) :
    Draws tools stage stock (liftM (expanded path type)) (Passes (carried type)) stage
      (fun pair => carried type = .ok pair.2) fun pair => [(stage.place, pair.1)] := by
  refine .congr (.lift (fun pair found => ?_) fun pair found => ?_) passes_expanded
  · exact expanded_ok_iff.mp ⟨pair.1, found⟩
  · simpa using has_of_portOf has (portOf_expanded found)

theorem draws_valuePort (has : stock.Has stage.place path) :
    DrawsPath tools stage stock (liftM (valuePort path type)) (Passes (carried type)) := by
  unfold valuePort
  refine .congr (.lift (fun _ _ => trivial) fun _ found => ?_) ?_
  · obtain ⟨_, expanding, found⟩ := Act.bind_eq_ok.mp found
    cases found
    simpa using has_of_portOf has (portOf_expanded expanding)
  · have same : Passes (expanded path type) ↔ Passes (carried type) := passes_expanded
    rw [Act.passes_bind, ← same]
    simp only [Act.passes_pure, and_true]
    rfl

theorem draws_outputPort (has : stock.Has stage.place path) :
    DrawsPath tools stage stock (liftM (outputPort path term)) (Passes (hasOutput term)) := by
  refine .congr (.lift (fun _ _ => trivial) fun _ found => ?_) passes_outputPort
  simpa using has_of_portOf has (portOf_outputPort found)

end Ports

/-! ## Conversions and operators -/

section Operators

variable {base : PortType}

theorem draws_castTruth (has : stock.Has stage.place path) :
    DrawsPath tools stage stock (castTruth path type wanted) (Passes (truthFits type wanted)) := by
  unfold castTruth truthFits
  refine .congr (.look fun isTruth _ => .ite (fun _ => .look fun _ _ => .looking fun _ _ =>
    .either (fun _ => .give (by simp [*])) fun _ => draws_charNode has)
    fun _ => .give (by simp [*])) ?_
  simp only [Act.passes_bind]
  refine exists_congr fun _ => and_congr_right fun _ => ?_
  split
  · simp only [Act.passes_bind, Act.passes_discard]
    rfl
  · simp

theorem draws_castComponent {cast : String} (has : stock.Has stage.place path) :
    DrawsPath tools stage stock (castComponent cast path type base)
      (type == base || makesKind tools.registry ("Core::Type_Conversion::" ++ cast)) := by
  refine .congr (.ite (fun _ => .give (by simp [*])) fun _ =>
    .followed (draws_createNode _) fun _ _ => ?_) ?_
  · refine .connect stage.place (by simp [*]) ?_
    exact .give (by simp)
  · cases type == base <;> simp

theorem draws_numberOperand (has : stock.Has stage.place path) :
    DrawsPath tools stage stock (numberOperand path type) (Passes (isTruthType type)) := by
  refine .looking fun _ _ => .either (fun _ => ?_) fun _ => .give (by simp [*])
  refine .andThen (draws_createOwn (by decide)) fun _ _ => ?_
  refine .connect stage.place (by simp [*]) ?_
  exact .give (by simp)

theorem draws_operatorNode (hasLeft : stock.Has stage.place left)
    (hasRight : stock.Has stage.place right) :
    DrawsPath tools stage stock (operatorNode operator left right) (isOperator operator) := by
  have collected (kind : String) (own : kind ∈ ownOperators) :
      DrawsPath tools stage stock (collectingNode kind [left, right]) True :=
    draws_collectingNode [left, right] own (by simp [hasLeft, hasRight])
  have logical (name : String) : DrawsPath tools stage stock (logicNode name left right) True :=
    draws_logicNode hasLeft hasRight
  unfold operatorNode
  split
  case h_1 => exact .congr (collected _ (by decide)) (by decide)
  case h_2 => exact .congr (collected _ (by decide)) (by decide)
  case h_3 => exact .congr (collected _ (by decide)) (by decide)
  case h_4 => exact .congr (collected _ (by decide)) (by decide)
  case h_5 => exact .congr (draws_moduloNode hasLeft hasRight) (by decide)
  case h_6 => exact .congr (draws_powerNode hasLeft hasRight) (by decide)
  case h_16 => exact .congr .throw (by simp_all [isOperator])
  all_goals exact .congr (logical _) (by decide)

theorem draws_comparisonNode (hasLeft : stock.Has stage.place left)
    (hasRight : stock.Has stage.place right) :
    DrawsPath tools stage stock (comparisonNode operator left right) (isComparison operator) := by
  refine .congr (.ite (fun _ => draws_operatorNode hasLeft hasRight) fun _ => .throw) ?_
  have known : ["==", "!=", ">=", "<=", ">", "<"].contains operator = true →
    isOperator operator := by
    simp only [contains_eq_mem, decide_eq_true_eq, mem_cons, not_mem_nil, or_false, isOperator]
    tauto
  by_cases isComparison : ["==", "!=", ">=", "<=", ">", "<"].contains operator
  · rw [if_pos isComparison]
    exact iff_of_true (known isComparison) isComparison
  · rw [if_neg isComparison]
    exact iff_of_false id isComparison

theorem draws_allOf :
    ∀ {rest : List NodePath} {first : NodePath} {stock : Stock}, stock.Has stage.place first →
      (∀ next ∈ rest, stock.Has stage.place next) →
      DrawsPath tools stage stock (allOf first rest) True
  | [], _, _, _, _ => .give (by simp [*])
  | next :: _, _, _, has, hasRest => by
    refine .andThen (draws_logicNode has (hasRest next (mem_cons_self ..))) fun _ _ => ?_
    refine draws_allOf (by simp) fun other member => ?_
    simp [hasRest other (mem_cons_of_mem _ member)]

end Operators

/-! ## Placed values, flags and results -/

section Placing

theorem mem_modify :
    ∀ {items : List α} {place : Nat}, item ∈ items.modify place change →
      item ∈ items ∨ ∃ old ∈ items, item = change old
  | [], _, member => by simp at member
  | first :: _, 0, member => by
    rcases mem_cons.mp member with same | old
    · exact .inr ⟨first, mem_cons_self .., same⟩
    · exact .inl (mem_cons_of_mem _ old)
  | first :: _, _ + 1, member => by
    rcases mem_cons.mp member with rfl | later
    · exact .inl (mem_cons_self ..)
    · rcases mem_modify later with old | ⟨old, inside, same⟩
      · exact .inl (mem_cons_of_mem _ old)
      · exact .inr ⟨old, mem_cons_of_mem _ inside, same⟩

/-- Whatever is placed at ports is one of the values. -/
theorem forall_placed {names : List String} {fits : NodePath → Prop}
    (inOrder : ∀ path ∈ positional, fits path) (byName : ∀ pair ∈ named, fits pair.2) :
    ∀ entry ∈ placed names positional named, ∀ path ∈ entry.2, fits path := by
  -- the places are filled one after the other, and every step keeps the statement
  suffices kept : ∀ filled : List (String × Option NodePath),
      (∀ entry ∈ filled, ∀ path ∈ entry.2, fits path) →
      ∀ entry ∈ named.foldl (fun filled pair =>
        filled.modify pair.1 fun entry => (entry.1, some pair.2)) filled,
        ∀ path ∈ entry.2, fits path by
    refine kept _ ?_
    intro entry member path given
    obtain ⟨_, _, rfl⟩ := mem_mapIdx.mp member
    exact inOrder path (mem_of_getElem? given)
  induction named with
  | nil => exact fun filled all => all
  | cons pair _ ih =>
    intro _ all
    refine ih (forall_mem_cons.mp byName).2 _ ?_
    intro entry member path given
    rcases mem_modify member with old | ⟨old, _, same⟩
    · exact all entry old path given
    · rw [same, Option.mem_some_iff] at given
      exact given ▸ byName pair (mem_cons_self ..)

theorem draws_connectPlaced (hasPort : ∀ name, stock.Has place (port name)) :
    ∀ {entries : List (String × Option NodePath)},
      (∀ entry ∈ entries, ∀ path ∈ entry.2, stock.Has place path) →
      DrawsHere tools stage stock (connectPlaced port entries) True
  | [], _ => .done
  | (name, none) :: _, has => by
    rw [connectPlaced]
    exact draws_connectPlaced hasPort (forall_mem_cons.mp has).2
  | (name, some path) :: _, has => by
    refine .connect place ⟨?_, hasPort name⟩ ?_
    · exact has _ (mem_cons_self ..) path rfl
    · exact draws_connectPlaced hasPort (forall_mem_cons.mp has).2

theorem draws_stopCollecting : DrawsHere tools stage stock (stopCollecting name node) True := by
  have sent (text : String) (stock : Stock) :
      DrawsHere tools stage stock (send (.stopCollecting text)) True :=
    .send rfl
  refine .either (fun _ => sent _ _) fun _ => .either (fun _ => ?_) fun _ => .done
  refine .andThen (sent _ _) fun _ _ => ?_
  exact .andThen (sent _ _) fun _ _ => sent _ _

/-- Whether a variable or an open result gets a value depends on the names only. -/
theorem draws_assignTo (has : stock.Has stage.place value) :
    DrawsNaming tools stage stock (assignTo name value) (stage.names.assign name) := by
  refine .andThen draws_currentMemory fun memory facts => ?_
  have asked : memory.isOpen name = stage.names.opened.contains name := by
    rw [← facts.1]
    exact Table.contains_eq _ _
  rw [asked, Names.assign]
  cases isOpen : stage.names.opened.contains name with
  | true =>
    refine .congr (.followed draws_takeResult fun _ isPath => ?_)
      (iff_of_true isOpen (Act.passes_ok _))
    obtain ⟨_, same⟩ := isPath
    rw [same]
    exact draws_connect stage.place (by simp [has, datumIn])
  | false =>
    exact draws_assign (by simp [has])

theorem draws_takeOver (node : NodePath) :
    ∀ {outputs : Outputs} {stage : Stage} {stock : Stock}, stock.Has stage.place node →
      DrawsNaming tools stage stock (takeOver node outputs) (rehearseTakeOver stage.names outputs)
  | [], _, _, _ => .congr .done (iff_of_true trivial (Act.passes_ok _))
  | (name, _) :: rest, stage, stock, has => by
    rw [takeOver, rehearseTakeOver]
    refine .andThen draws_currentMemory fun memory facts => ?_
    have isDefined : memory.isDefined name = stage.names.defined.contains name := by
      rw [← facts.1]
      exact Table.contains_eq _ _
    have isOpen : memory.isOpen name = stage.names.opened.contains name := by
      rw [← facts.1]
      exact Table.contains_eq _ _
    have hasNode : Stock.Has (memory.stock stage.place ++ stock) stage.place node := by simp [has]
    have later (names : Names) : DrawsNaming tools (stage.named names)
        (memory.stock stage.place ++ stock) (takeOver node rest) (rehearseTakeOver names rest) := by
      have hasNode : Stock.Has (memory.stock stage.place ++ stock) (stage.named names).place node :=
        hasNode
      exact draws_takeOver node hasNode
    rw [isDefined, isOpen, Names.takeOver]
    cases isKnown : stage.names.defined.contains name with
    | true =>
      exact .named (draws_assign (hasNode.port name)) fun names _ => later names
    | false =>
      rw [if_neg Bool.false_ne_true, if_neg Bool.false_ne_true]
      cases isOpen : stage.names.opened.contains name with
      | true =>
        refine .andThen (draws_takeResult.congr (iff_of_true isOpen trivial)) fun _ isPath => ?_
        obtain ⟨_, same⟩ := isPath
        rw [same]
        refine .connect stage.place (by simp [has, datumIn]) ?_
        refine draws_takeOver node ?_
        simp [has]
      | false =>
        have same : stage.names.define name = .ok (stage.names.plus name) := by
          rw [Names.define, isKnown, if_neg Bool.false_ne_true]
        rw [if_neg Bool.false_ne_true, if_neg Bool.false_ne_true, ← same]
        exact .named (draws_define (hasNode.port name)) fun names _ => later names

end Placing

/-! ## Parts of values -/

section Parts

theorem draws_slicedNode (hasValue : stock.Has stage.place value)
    (hasSlice : stock.Has stage.place slice) :
    DrawsPath tools stage stock (slicedNode value type slice) True := by
  refine .either (fun _ => ?_) fun _ => ?_
  -- the elements are taken in the same way from a text and from an array
  all_goals
    refine .andThen (draws_createOwn (by decide)) fun _ _ => ?_
    refine .connect stage.place (by simp [*]) ?_
    refine .connect stage.place (by simp [*]) ?_
    refine .andThen (draws_createOwn (by decide)) fun _ _ => ?_
    refine .connect stage.place (by simp [*]) ?_
    refine .connect stage.place (by simp [*]) ?_
  · refine .andThen (draws_createOwn (by decide)) fun _ _ => ?_
    refine .andThen (.send rfl) fun _ _ => ?_
    refine .connect stage.place (by simp [*]) ?_
    exact .give (by simp)
  · exact .give (by simp)

theorem draws_memberNode {path : String} (hasValue : stock.Has stage.place value) :
    DrawsPath tools stage stock (memberNode value type path) (Passes (memberHolder type)) := by
  refine .looking fun _ _ => ?_
  refine .andThen draws_createValue fun _ _ => ?_
  refine .connect stage.place (by simp [*]) ?_
  exact .give (by simp)

end Parts

/-! ## Results -/

variable {memory : Memory}

/-- The variables of a new compound are ports of its own inputs and outputs. -/
def OwnPorts (node : NodePath) (memory : Memory) : Prop :=
  ∀ entry ∈ memory.bindings.entries ++ memory.results.entries, ∃ name,
    entry.2.value = .path (node.input.port name) ∨ entry.2.value = .path (node.output.port name)

theorem ownPorts_empty (node : NodePath) : OwnPorts node {} := forall_mem_nil _

theorem OwnPorts.insert {type : Datum} (own : OwnPorts node memory) :
    OwnPorts node { memory with
      bindings := memory.bindings.insert key ⟨type, .path (node.input.port name)⟩ } := by
  obtain ⟨bindings, results⟩ := forall_mem_append.mp own
  exact forall_mem_append.mpr ⟨Table.forall_insert bindings ⟨name, .inl rfl⟩, results⟩

theorem OwnPorts.insertResult {type : Datum} (own : OwnPorts node memory) :
    OwnPorts node { memory with
      results := memory.results.insert key ⟨type, .path (node.output.port name)⟩ } := by
  obtain ⟨bindings, results⟩ := forall_mem_append.mp own
  exact forall_mem_append.mpr ⟨bindings, Table.forall_insert results ⟨name, .inr rfl⟩⟩

theorem OwnPorts.holds (own : OwnPorts node memory) (hasInput : stock.Has node node.input)
    (hasOutput : stock.Has node node.output) : stock.Holds node memory := by
  intro entry member
  obtain ⟨name, same | same⟩ := own entry member
  · exact ⟨_, same, hasInput.port name⟩
  · exact ⟨_, same, hasOutput.port name⟩

/-- A memory has certain names, and its values are ports of a compound. -/
def Prepared (node : NodePath) (check : Except Fault Names) (memory : Memory) : Prop :=
  check = .ok memory.names ∧ OwnPorts node memory

/-- An action prepares a memory for a compound, exactly when a check passes. -/
abbrev Prepares (tools : Tools) (stage : Stage) (stock : Stock) (node : NodePath)
    (contents : Contents) (action : Building Memory) (check : Except Fault Names) : Prop :=
  Builds tools stage stock contents action (Passes check) stage (Prepared node check) noGift

section Checks

/-- A check that begins with one that has no result, for an action that begins with the same one. -/
theorem Builds.unit {fact : Except Fault γ → β → Prop}
    (first : Builds tools stage stock front action (Passes check) stage noFact gives)
    (second : ∀ value, Builds tools stage (gives value ++ stock) back (then' value)
      (Passes more) next (fact more) givesNext) :
    Builds tools stage stock (front ++ back) (action >>= then')
      (Passes (check >>= fun _ => more)) next (fact (check >>= fun _ => more)) givesNext :=
  .judged (fun _ => next) fact first (fun _ _ _ _ inside => inside) fun value _ _ _ => second value

/-- A check that begins with a demand, for an action that begins with drawing. -/
theorem Builds.demanded {holds : Bool} {more : Except Fault γ} {action : Building α}
    (fact : Except Fault γ → β → Prop)
    (first : Draws tools stage stock action holds stage known gives)
    (second : ∀ value, known value → Builds tools stage (gives value ++ stock) contents
      (then' value) (Passes more) next (fact more) givesNext) :
    Builds tools stage stock contents (action >>= then') (Passes (demand holds >>= fun _ => more))
      next (fact (demand holds >>= fun _ => more)) givesNext := by
  have drawn : Builds tools stage stock .none action (Passes (demand holds)) stage known gives :=
    .draw (first.congr passes_demand.symm)
  exact drawn.judged (fun _ => next) fact (fun _ _ _ _ inside => inside)
    fun value _ holds _ => second value holds

variable (fact : Except Fault γ → β → Prop)

/-- A check in two steps, of which the first prepares a memory; only its names matter for what comes
next. -/
theorem Builds.prepared (first : Prepares tools stage stock node front action check)
    (second : ∀ memory, OwnPorts node memory →
      Builds tools stage stock back (then' memory) (Passes (more memory.names)) next
        (fact (more memory.names)) givesNext) :
    Builds tools stage stock (front ++ back) (action >>= then') (Passes (check >>= more)) next
      (fact (check >>= more)) givesNext := by
  refine .judged (fun _ => next) fact first (fun _ _ _ _ inside => inside)
    fun memory _ holds same => ?_
  cases holds.1.symm.trans same
  exact second memory holds.2

/-- The same, where the first part has no contents of its own. -/
theorem Builds.thenPrepared (first : Prepares tools stage stock node .none action check)
    (second : ∀ memory, OwnPorts node memory →
      Builds tools stage stock contents (then' memory) (Passes (more memory.names)) next
        (fact (more memory.names)) givesNext) :
    Builds tools stage stock contents (action >>= then') (Passes (check >>= more)) next
      (fact (check >>= more)) givesNext := by
  have both := first.prepared fact second
  rwa [Builds.none_append] at both

end Checks

theorem draws_definingInput {type : Datum} (own : OwnPorts node memory) :
    Draws tools stage stock (defining memory key type (.path (node.input.port name)))
      (Passes (memory.names.define key)) stage
      (Prepared node (memory.names.define key)) noGift := by
  refine draws_defining.imp (fun _ facts => ?_) fun _ => List.Subset.refl _
  obtain ⟨rfl, same⟩ := facts
  exact ⟨same, own.insert⟩

theorem draws_definingOutput {type : Datum} (own : OwnPorts node memory) :
    Draws tools stage stock (definingResult memory key type (.path (node.output.port name)))
      (Passes (memory.names.openResult key)) stage (Prepared node (memory.names.openResult key))
      noGift := by
  refine draws_definingResult.imp (fun _ facts => ?_) fun _ => List.Subset.refl _
  obtain ⟨rfl, same⟩ := facts
  exact ⟨same, own.insertResult⟩

/-- Opening results in a memory passes exactly when they have names of their own. -/
abbrev Opens (tools : Tools) (stage : Stage) (stock : Stock) (node : NodePath) (contents : Contents)
    (memory : Memory) (results : List (String × PortType)) (opening : Building Memory) : Prop :=
  Builds tools stage stock contents opening (Passes (rehearseResults memory.names results)) stage
    (Prepared node (rehearseResults memory.names results)) noGift

theorem Opens.nothing (own : OwnPorts node memory) :
    Opens tools stage stock node contents memory [] (pure memory) :=
  .idle ⟨rfl, own⟩

/-- Results are opened one after the other; in between only notes are sent. -/
theorem Opens.result {then' : Memory → Building Memory} (own : OwnPorts node memory)
    (later : ∀ memory, OwnPorts node memory →
      Opens tools stage stock node contents memory rest (then' memory)) :
    Opens tools stage stock node contents memory ((name, type) :: rest) (do
      discard (addInput node.output name type.name)
      let memory ← definingResult memory name type.name (node.output.port name)
      then' memory) := by
  refine .demanded _ (.discard draws_addInput) fun _ _ => ?_
  exact .thenPrepared _ (.draw (draws_definingOutput own)) later

theorem builds_declareResults : ∀ {results : List Result} {memory : Memory}, OwnPorts node memory →
    Opens tools stage stock node contents memory
      (results.map fun result => (result.name, result.type)) (declareResults node memory results)
  | [], _, own => .nothing own
  | result :: _, memory, own => by
    refine Opens.result own fun _ own => ?_
    split
    · exact builds_declareResults own
    · exact builds_declareResults own
    · exact .drawn (.send rfl) fun _ _ => builds_declareResults own

theorem builds_declareLoopResults {kind : LoopKind} :
    ∀ {results : List LoopResult} {memory : Memory}, OwnPorts node memory →
      Opens tools stage stock node contents memory
        (results.map fun result => (result.name, result.type))
        (declareLoopResults kind node memory results)
  | [], _, own => .nothing own
  | result :: _, memory, own => by
    refine Opens.result own fun _ own => ?_
    split
    · exact .drawn (.send rfl) fun _ _ => builds_declareLoopResults own
    · split
      · exact builds_declareLoopResults own
      · exact builds_declareLoopResults own
      · exact .drawn (.send rfl) fun _ _ => builds_declareLoopResults own

end GraphScript.Emission
