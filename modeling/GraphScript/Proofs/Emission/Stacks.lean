import GraphScript.Proofs.Emission.Scripts

/-!
# The stacks of a construction

What is built is built inside of compounds: each has a context that new nodes go to, and a memory
for its variables.  Actions that enter a compound leave it again, so a part of a program that is
built leaves the stacks as it found them.  Only assignments change a memory, and only the innermost
one.

`Along` is a class, so that what an action does to the stacks is found from the steps that it
consists of.
-/

namespace GraphScript.Emission

open GraphScript.Graph Program
open Act (Passes Yields)

set_option synthInstance.maxSize 1024

/-- The innermost levels of both stacks were left. -/
structure Unwound (levels : Nat) (before after : Construction) : Prop where
  contexts : after.contexts = before.contexts.drop levels
  memories : after.memories = before.memories.drop levels

/-- All but the innermost memory are the same. -/
structure Level (before after : Construction) : Prop where
  contexts : after.contexts = before.contexts
  depth : after.memories.length = before.memories.length
  below : after.memories.drop 1 = before.memories.drop 1

/-- Where the action yields something, it leads along the relation. -/
class Along (relation : Construction → Construction → Prop) (action : Building α) : Prop where
  step : ∀ {before value after}, Yields action before value after → relation before after

abbrev Unwinds (levels : Nat) (action : Building α) : Prop := Along (Unwound levels) action

abbrev Still (action : Building α) : Prop := Unwinds 0 action

abbrev Balanced (action : Building α) : Prop := Along Level action

section Rules

variable {action : Building α} {next : α → Building β} {last : Building β}

instance : Along relation (throw fault : Building α) := ⟨fun run => run.throw⟩

instance [Decidable condition] {yes no : Building α} [whenTrue : Along relation yes]
    [whenFalse : Along relation no] : Along relation (if condition then yes else no) := by
  split
  · exact whenTrue
  · exact whenFalse

instance [acts : Along relation action] : Along relation (discard action) := ⟨fun run => by
  obtain ⟨_, ran⟩ := Act.yields_discard.mp run
  exact acts.step ran⟩

theorem Unwinds.of_eq (same : ∀ {before value after}, Yields action before value after →
    before = after) : Still action :=
  ⟨fun run => same run ▸ ⟨rfl, rfl⟩⟩

instance Unwinds.pure : Still (pure value : Building α) := .of_eq fun run => run.pure.2

instance : Still (getThe Construction : Building Construction) := .of_eq fun run => run.get.2

instance {outcome : Except Fault α} : Still (liftM outcome : Building α) :=
    .of_eq fun run => run.lift.2

theorem Unwinds.modify (kept : ∀ construction, Unwound 0 construction (change construction)) :
    Still (modifyThe Construction change : Building PUnit) :=
  ⟨fun run => Act.yields_modify.mp run ▸ kept _⟩

theorem Unwinds.andThen [first : Still action] (rest : ∀ value, Unwinds levels (next value)) :
    Unwinds levels (action >>= next) := ⟨fun run => by
  obtain ⟨_, _, ran, run⟩ := run.bind
  obtain ⟨contexts, memories⟩ := first.step ran
  obtain ⟨contextsLast, memoriesLast⟩ := (rest _).step run
  exact ⟨contextsLast.trans (contexts ▸ rfl), memoriesLast.trans (memories ▸ rfl)⟩⟩

instance Unwinds.bind [Still action] [rest : ∀ value, Unwinds levels (next value)] :
    Unwinds levels (action >>= next) := .andThen rest

theorem Unwinds.entering (rest : Unwinds (levels + 1) last) :
    Unwinds levels (enter context memory >>= fun _ => last) := ⟨fun run => by
  obtain ⟨_, _, ran, run⟩ := run.bind
  obtain rfl := Act.yields_modify.mp ran
  exact ⟨(rest.step run).contexts, (rest.step run).memories⟩⟩

instance [rest : Unwinds (levels + 1) last] :
    Unwinds levels (enter context memory >>= fun _ => last) :=
  .entering rest

instance [rest : Unwinds levels last] : Unwinds (levels + 1) (discard leave >>= fun _ => last) :=
  ⟨fun run => by
    obtain ⟨_, _, ran, run⟩ := run.bind
    obtain ⟨_, ran⟩ := Act.yields_discard.mp ran
    have ran := ran.afterGet
    split at ran
    · exact ran.throw
    · obtain ⟨_, _, ran, finish⟩ := ran.bind
      obtain rfl := Act.yields_modify.mp ran
      obtain ⟨_, rfl⟩ := finish.pure
      obtain ⟨contexts, memories⟩ := rest.step run
      rw [List.drop_drop, Nat.add_comm] at contexts memories
      exact ⟨contexts, memories⟩⟩

instance (priority := low) [acts : Still action] : Balanced action := ⟨fun run => by
  obtain ⟨contexts, memories⟩ := acts.step run
  exact ⟨contexts, memories ▸ rfl, memories ▸ rfl⟩⟩

/-- The innermost memory may change before it is left. -/
instance [first : Balanced action] [rest : ∀ value, Unwinds (levels + 1) (next value)] :
    Unwinds (levels + 1) (action >>= next) := ⟨fun run => by
  obtain ⟨_, _, ran, run⟩ := run.bind
  obtain ⟨contexts, _, below⟩ := first.step ran
  obtain ⟨contextsLast, memoriesLast⟩ := (rest _).step run
  refine ⟨contexts ▸ contextsLast, ?_⟩
  rw [memoriesLast, Nat.add_comm, ← List.drop_drop, below, List.drop_drop]⟩

theorem Balanced.andThen [first : Balanced action] (rest : ∀ value, Balanced (next value)) :
    Balanced (action >>= next) := ⟨fun run => by
  obtain ⟨_, _, ran, run⟩ := run.bind
  obtain ⟨contexts, depth, below⟩ := first.step ran
  obtain ⟨contextsLast, depthLast, belowLast⟩ := (rest _).step run
  exact ⟨contextsLast.trans contexts, depthLast.trans depth, belowLast.trans below⟩⟩

instance Balanced.bind [Balanced action] [rest : ∀ value, Balanced (next value)] :
    Balanced (action >>= next) := .andThen rest

instance {items : List α} {actions : α → Building PUnit} [still : ∀ item, Still (actions item)] :
    Still (items.forM actions) := by
  induction items with
  | nil => exact .pure
  | cons => exact .bind

end Rules

/-! ## Nodes -/

instance : Still (send command) := .modify fun _ => ⟨rfl, rfl⟩

instance : Still currentContext := .andThen fun _ => by split <;> infer_instance

instance : Still currentMemory := .bind

instance : Still (defining memory name type value) := by
  have : Still (printMemory memory) := .modify fun _ => ⟨rfl, rfl⟩
  fun_cases defining <;> infer_instance

instance : Still (definingResult memory name type value) := by
  have : Still (printMemory memory) := .modify fun _ => ⟨rfl, rfl⟩
  fun_cases definingResult <;> infer_instance

instance : Still (valueNamed name) := .bind

instance : Still (nodeKind kind) := by
  unfold nodeKind
  split
  · infer_instance
  · exact .andThen fun _ => by split <;> infer_instance

instance : Still (rename node name) := by unfold rename setLabel; infer_instance

instance : Still (nameNode node name) := by unfold nameNode setLabel; infer_instance

instance : Still (addNode context kind) := by
  have : Still (modifyThe Construction fun construction =>
      { construction with added := construction.added + 1 }) := .modify fun _ => ⟨rfl, rfl⟩
  exact .bind

instance : Still (createNamedNode kind name context) := by
  unfold createNamedNode placeFor addPortsNode
  infer_instance

instance : Still (createNode kind) := by unfold createNode; infer_instance

instance : Still (createNamedValueNode type name context) := .bind

instance : Still (createValueNode type) := by unfold createValueNode; infer_instance

instance : Still (createPortsNodes kind compound names) := by
  fun_induction createPortsNodes <;> infer_instance

instance : Still (createCompoundOf kind name context inputs outputs) := .bind

instance : Still (createCompound name context) := by unfold createCompound; infer_instance

instance : Still (addInput node name type) := by unfold addInput declareInput; infer_instance

instance : Still (addOutput node name type) := by unfold addOutput declareOutput; infer_instance

instance : Still (setDefault node port value) := by fun_cases setDefault <;> infer_instance

instance : Still (setPortType node port type) := .bind

instance : Still (connect source target) := .bind

instance : Still (setTerminal node flags) := by
  unfold setTerminal
  split
  · infer_instance
  · exact .modify fun _ => ⟨rfl, rfl⟩

/-! ## Constants -/

instance : Still (wiredNode kind output wires) := .bind

instance : Still (collectInto node place sources) := by fun_induction collectInto <;> infer_instance

instance : Still (collectingNode kind sources) := .bind

instance : Still (passTexts compound joining place sources) := by
  fun_induction passTexts <;> infer_instance

instance : Still (joinTexts sources) := .bind

instance : Still (createIterator name) := .bind

instance : Still (enumerationNode value type context) := .andThen fun _ => by split <;>
    infer_instance

instance : Still (sizedArrayNode size type) :=
  .andThen fun _ => .andThen fun _ => .andThen fun _ => by split <;> infer_instance

instance : Still (matrixNode value type context) := .andThen fun _ => .andThen fun _ => by
  split
  infer_instance

instance : Still (simpleNode value type context) := .bind

instance : Still (elementNode value type context) := .bind

instance : Still (collectElements node collecting type place values) := by
  fun_induction collectElements <;> infer_instance

mutual

theorem still_arrayNode (type : String) (context : Datum) :
    (value : Datum) → Still (arrayNode value type context)
  | .list values => .andThen fun _ => .andThen fun _ => by
    have := fun node element latest => still_setElements node element latest 0 values
    infer_instance
  | .nothing | .text _ | .path _ | .whole _ | .fraction _ | .truth _ => .bind

theorem still_setElements (node : NodePath) (element : String) (latest : NodePath) (place : Nat) :
    (values : List Datum) → Still (setElements node element latest place values)
  | [] => .pure
  | value :: rest =>
    have := still_arrayNode element node value
    have := fun latest => still_setElements node element latest (place + 1) rest
    .bind

end

attribute [instance] still_arrayNode

instance : Still (plainConstantNode value type context) := by
    unfold plainConstantNode; infer_instance

instance : Still (constantNode value type name context) := by
  unfold constantNode setLabel
  infer_instance

instance : Still (passElements node element place sources) := by
  fun_induction passElements <;> infer_instance

instance : Still (placeElements node latest places) := by
  fun_induction placeElements <;> infer_instance

instance : Still (arrayOfPorts values type context) := by
  unfold arrayOfPorts literalCompound
  exact .andThen fun _ => .andThen fun _ => by split <;> infer_instance

instance : Still (passProperties node place pairs) := by
  fun_induction passProperties <;> infer_instance

instance : Still (placeProperties node latest places) := by
  induction places generalizing latest with
  | nil => exact .pure
  | cons => exact .andThen fun _ => by split <;> infer_instance

instance : Still (objectOfPorts keys values context) := by
  unfold objectOfPorts literalCompound
  refine .andThen fun _ => .andThen fun _ => .andThen fun _ => .andThen fun _ => .entering ?_
  exact .andThen fun _ => .andThen fun _ => by split <;> infer_instance

instance : Still (Gate.draw compound ports gate) := by fun_cases Gate.draw <;> infer_instance

instance : Still (drawGates compound ports circuit) := by fun_induction drawGates <;> infer_instance

instance : Still (Slice.create name context) := by
  unfold Slice.create Slice.addInputs Slice.addOutputs Slice.addLoop
  infer_instance

/-! ## Wiring -/

section Wiring

variable {build base accessor key fallback : Building NodePath}

theorem still_remember (number : Nat) (path : NodePath) :
    Still (modifyThe Construction fun construction =>
    { construction with built := construction.built.insert number path }) :=
  .modify fun _ => ⟨rfl, rfl⟩

instance [Still build] : Still (once number build) := by
  have := still_remember number
  unfold once known?
  exact .andThen fun _ => by split <;> infer_instance

instance [Balanced build] : Balanced (once number build) := by
  have := still_remember number
  unfold once known?
  exact Balanced.andThen fun _ => by split <;> infer_instance

instance : Still (castTruth path type wanted) := by unfold castTruth charNode; infer_instance

instance : Still (castComponent conversion path type component) := by
    unfold castComponent; infer_instance

instance : Still (numberOperand path type) := .bind

instance : Still (logicNode name first second) := by unfold logicNode; infer_instance

instance : Still (operatorNode operator left right) := by
  unfold operatorNode moduloNode powerNode
  split <;> infer_instance

instance : Still (comparisonNode operator left right) := by unfold comparisonNode; infer_instance

instance : Still (allOf first rest) := by fun_induction allOf <;> infer_instance

instance : Still (connectPlaced port given) := by fun_induction connectPlaced <;> infer_instance

instance : Still (stopCollecting name node) := by unfold stopCollecting; infer_instance

instance : Still (slicedNode value type slice) := by unfold slicedNode; infer_instance

instance : Still (memberNode value type path) := .bind

instance : Still (declareResults compound memory results) := by
  induction results generalizing memory with
  | nil => exact .pure
  | cons => exact .andThen fun _ => .andThen fun _ => by split <;> infer_instance

instance : Still (declareLoopResults kind node memory results) := by
  induction results generalizing memory with
  | nil => exact .pure
  | cons =>
    refine .andThen fun _ => .andThen fun _ => ?_
    split
    · infer_instance
    · split <;> infer_instance

instance [Still build] [Still fallback] : Still (indexedNode value type build fallback) := by
  unfold indexedNode
  infer_instance

instance [Still base] [Still accessor] : Still (partNode kind value type path base accessor) := by
  unfold partNode partNode.setting
  split <;> infer_instance

instance {start stop step : Option (Building NodePath)}
    [∀ node name, Still (setBound node name start)] [∀ node name, Still (setBound node name stop)]
    [∀ node name, Still (setBound node name step)] : Still (sliceNode start stop step) := .bind

instance [Still key] [Still fallback] : Still (propertyNode key wanted (some fallback)) := .bind

instance [Still key] : Still (propertyNode key wanted none) := .bind

end Wiring

/-! ## Variables -/

theorem level_of_setMemory (held : Yields currentMemory before memory start)
    (made : Unwound 0 start middle) (stored : Yields (setMemory new) middle value after) :
    Level before after := by
  have held := held.afterGet
  obtain ⟨found, rfl⟩ := held.lift
  obtain rfl := Act.yields_modify.mp stored
  refine ⟨made.contexts, ?_, by rw [made.memories]; rfl⟩
  cases memories : before.memories with
  | nil => rw [memories] at found; cases found
  | cons => simp [made.memories, memories]

theorem Balanced.store {change : Memory → Building Memory} [∀ memory, Still (change memory)] :
    Balanced (currentMemory >>= fun memory => change memory >>= setMemory) := ⟨fun run => by
  obtain ⟨_, _, held, run⟩ := run.bind
  obtain ⟨_, _, made, stored⟩ := run.bind
  exact level_of_setMemory held (Along.step made) stored⟩

instance : Balanced (define name type value) := .store

instance : Balanced (assign name value) := .store

instance : Balanced (takeResult name) := ⟨fun run => by
  obtain ⟨_, _, held, run⟩ := run.bind
  obtain ⟨_, _, made, run⟩ := run.bind
  obtain ⟨_, _, stored, run⟩ := run.bind
  obtain ⟨_, rfl⟩ := run.pure
  exact level_of_setMemory held (Along.step made) stored⟩

instance : Balanced (assignTo name value) := .bind

instance : Balanced (takeOver node outputs) := by fun_induction takeOver <;> infer_instance

instance [Balanced action] : Balanced (onceOnly number action) := by
  have : Still (modifyThe Construction fun construction =>
      { construction with done := construction.done.insert number () }) :=
        .modify fun _ => ⟨rfl, rfl⟩
  unfold onceOnly
  infer_instance

/-! ## Programs -/

theorem emit_balanced :
    (∀ term, Still (emit term)) ∧ (∀ form, Still (emitForm form)) ∧
    (∀ node memory parameters, Still (emitLoopParameters node memory parameters)) ∧
    (∀ statements, Balanced (emitStatements statements)) ∧
    (∀ statement, Balanced (emitStatement statement)) ∧
    (∀ targets paths, Balanced (emitTargets targets paths)) ∧
    (∀ value target, Balanced (emitTarget value target)) ∧
    (∀ accessor, Still (emitAccessor accessor)) ∧
    (∀ default, ∀ key [Still key] wanted, Still (propertyNode key wanted (emitDefault default))) ∧
    (∀ term, Still (emitValue term)) ∧
    (∀ bound, ∀ node name, Still (setBound node name (emitBound bound))) ∧
    (∀ compound memory parameters, Still (emitParameters compound memory parameters)) ∧
    (∀ names types arguments, Still (emitNamed names types arguments)) ∧
    (∀ arguments names types, Still (emitPositional arguments names types)) ∧
    (∀ wanted argument, Still (emitArgument wanted argument)) ∧
    (∀ node outputs names arguments, Still (emitCollected node outputs names arguments)) ∧
    (∀ value type accessor, Still (emitAccess value type accessor)) ∧
    (∀ build operand operators terms [Still build],
      Still (emitComparisons build operand operators terms)) ∧
    (∀ kind term, Still (emitTexts kind term)) ∧ (∀ entries, Still (emitEntries entries)) ∧
    (∀ terms, Still (emitValues terms)) ∧
    (∀ node cast type letters columns, Still (emitColumns node cast type letters columns)) ∧
    (∀ node cast type column terms, Still (emitColumn node cast type column terms)) ∧
    (∀ node cast type stem letters terms,
      Still (emitComponents node cast type stem letters terms)) ∧
    (∀ node cast type member term, Still (emitComponent node cast type member term)) := by
  apply emit.mutual_induct
  all_goals intros
  -- Literals and values of enumerations.
  case case7 literal type =>
    exact inferInstanceAs (Still (constantNode (literalDatum literal) type.name .nothing .nothing))
  case case15 name type => exact inferInstanceAs (Still (enumerationNode name type.name .nothing))
  case case8 | case9 | case10 | case11 | case12 | case13 | case14 | case18 | case21 | case22 |
      case23 | case24 | case25 | case26 | case27 =>
    exact .bind
  case case16 | case17 => exact .andThen fun _ => inferInstanceAs (Still (wiredNode _ _ _))
  case case19 => exact inferInstanceAs (Still (throw .badIndex : Building NodePath))
  case case20 => exact .andThen fun _ => by split <;> infer_instance
  -- Loops: what is built before and after the code keeps the stacks, and so does the code.
  case case28 code limit index _ condition _ inside inLimit =>
    obtain ⟨id, name, start⟩ := index
    obtain ⟨_, _, _⟩ := inside
    have : ∀ node memory, Still (emitLimit node memory limit) := by cases limit <;>
      intros <;> exact .bind
    have : ∀ node memory, Still (emitIndex node memory (.mk id name start)) := fun _ _ => .bind
    have : ∀ node, Balanced (emitBody node code condition) := by
      cases condition <;> intros <;> exact Balanced.bind
    rw [emitForm_loop]
    infer_instance
  case case65 | case69 => exact .pure
  case case66 | case70 => split at * <;> exact .bind
  all_goals simp only [emit, emitStatements, emitStatement, emitTargets, emitTarget, emitAccessor,
    emitDefault, emitValue, emitBound, emitNamed, emitPositional, emitArgument, emitCollected,
    emitAccess, emitComparisons, emitTexts, emitEntries, emitValues, emitColumns, emitColumn,
    emitComponents, emitComponent, setBound, if_true, if_false, Bool.false_eq_true, *]
  all_goals infer_instance

/-! ## Nodes of a program -/

/-- A node of a program: a part that is built on its own. -/
inductive Node where
  | term (term : Term)
  | accessor (accessor : Accessor)
  | argument (wanted : Except Fault PortType) (argument : Argument)
  | index (index : LoopIndex)
  | statement (statement : Statement)
  | target (value : NodePath) (target : Target)

namespace Node

def build : Node → Building Unit
  | term part => discard (emit part)
  | accessor part => discard (emitAccessor part)
  | argument wanted part => discard (emitArgument wanted part)
  | index (.mk id _ start) => discard (once id (emit start))
  | statement part => emitStatement part
  | target value part => emitTarget value part

/-- Assignments, with their targets, and the taking over of a node's outputs. -/
def assigns : Node → Bool
  | statement (.assignment _ _ _ _) | statement (.takeOver _ _) | target _ _ => true
  | _ => false

/-- A node that was built leaves all compounds that it entered, and no memory but the innermost one
can be another one.  That one is the same if the node assigns nothing. -/
theorem build_keeps_stacks (node : Node) (run : Yields node.build before done after) :
    after.contexts = before.contexts ∧ after.memories.length = before.memories.length ∧
      after.memories.drop 1 = before.memories.drop 1 ∧
      (node.assigns = false → after.memories = before.memories) := by
  obtain ⟨terms, -, -, -, statements, -, targets, accessors, -, -, -, -, -, -, arguments, -⟩ :=
    emit_balanced
  have levels : Balanced node.build := by fun_cases build <;> infer_instance
  obtain ⟨contexts, depth, below⟩ := levels.step run
  refine ⟨contexts, depth, below, fun idle => ?_⟩
  have still : Still node.build := by
    fun_cases build
    case case5 statement =>
      cases statement with
      | empty => exact inferInstanceAs (Still (throw .missingMember : Building Unit))
      | make term => exact inferInstanceAs (Still (discard (emit term)))
      | assignment => cases idle
      | takeOver => cases idle
    case case6 => cases idle
    all_goals infer_instance
  exact (still.step run).memories

/-- A compound is entered and left again. -/
theorem build_keeps_stacks_compound : ∃ after,
    Yields (term (.mk 0 (.scope "c" [] [] [] none))).build (.start default {} "/") () after ∧
      after.contexts = [.path ⟨"/"⟩] ∧ after.memories = [{}] := by
  have passes : Passes ((term (.mk 0 (.scope "c" [] [] [] none))).build.runOn
    (.start default {} "/")).1 := by
    decide +kernel
  obtain ⟨_, run⟩ := passes
  obtain ⟨contexts, -, -, memories⟩ := build_keeps_stacks _ (Prod.ext run rfl)
  exact ⟨_, Prod.ext run rfl, contexts, memories rfl⟩

end Node

end GraphScript.Emission
