import GraphScript.Proofs.Graph.Growth
import GraphScript.Proofs.Graph.Constants

/-!
# Actions that plant a node

Most calculations are made of one node each: an action creates the node, sets or connects its ports,
and gives its output port.  What such an action does to the diagram is the same for all of them.
-/

namespace GraphScript.Graph

open List Act

variable {node : NodePath}

/-- What was drawn so far. -/
def Construction.diagram (construction : Construction) : Diagram := .of construction.commands.toList

/-- The nodes are numbered as the diagram has them. -/
def Construction.Counted (construction : Construction) : Prop :=
  construction.added = construction.diagram.nodes.length

/-- Only the diagram changed. -/
structure Drawn (before after : Construction) (diagram : Diagram) : Prop where
  drawn : after.diagram = diagram
  counted : after.Counted
  registry : after.registry = before.registry
  contexts : after.contexts = before.contexts
  memories : after.memories = before.memories
  built : after.built = before.built
  done : after.done = before.done

variable {before middle after : Construction} {first second : Diagram} {finished : PUnit}

theorem Drawn.refl (counted : before.Counted) : Drawn before before before.diagram :=
  ⟨rfl, counted, rfl, rfl, rfl, rfl, rfl⟩

theorem Drawn.trans (front : Drawn before middle first) (back : Drawn middle after second) :
    Drawn before after second :=
  ⟨back.drawn, back.counted, back.registry.trans front.registry, back.contexts.trans front.contexts,
    back.memories.trans front.memories, back.built.trans front.built, back.done.trans front.done⟩

theorem drawn_send (counted : before.Counted) (run : Yields (send command) before finished after)
    (adds : command.addsNode = false := by rfl) :
    Drawn before after (before.diagram.draw command) := by
  have same := yields_modify.mp run
  subst same
  have drawn : Construction.diagram { before with commands := before.commands.push command } =
      before.diagram.draw command := by
    simp [Construction.diagram]
  have kept : (before.diagram.draw command).nodes = before.diagram.nodes := by
    unfold Diagram.draw
    split
    · cases adds
    · rfl
    · rfl
    · rfl
  refine ⟨drawn, ?_, rfl, rfl, rfl, rfl, rfl⟩
  rw [Construction.Counted, drawn, kept]
  exact counted

/-- The diagram, and all else but the commands. -/
def Construction.drawing (construction : Construction) : Diagram × Construction :=
  (construction.diagram, { construction with commands := #[] })

theorem Drawn.of_keeps (counted : before.Counted) (keeps : Keeps Construction.drawing action)
    (run : Yields action before value after) : Drawn before after before.diagram := by
  have same := keeps.of_yields run
  simp only [Construction.drawing, Prod.mk.injEq, Construction.mk.injEq] at same
  obtain ⟨drawn, registry, -, added, -, contexts, memories, -, -, built, done, -⟩ := same
  refine ⟨drawn, ?_, registry, contexts, memories, built, done⟩
  rw [Construction.Counted, added, drawn]
  exact counted

/-- A command that neither adds a node nor draws a wire. -/
theorem keeps_send (draws : ∀ diagram : Diagram, diagram.draw command = diagram) :
    Keeps Construction.drawing (send command) :=
  .modify fun _ => by simp [Construction.drawing, Construction.diagram, draws]

theorem keeps_addInput : Keeps Construction.drawing (addInput node name type) :=
  .bind (.bind (.lift _) fun _ => keeps_send fun _ => rfl) fun _ => .pure _

theorem drawn_connect (counted : before.Counted)
    (run : Yields (connect (.path source) (.path target)) before finished after) :
    Drawn before after (before.diagram.join source target) := by
  simp only [connect, yields_bind, yields_get] at run
  obtain ⟨_, held, hold, _, wired, join, _, _, ⟨rfl, rfl⟩, run⟩ := run
  have held := drawn_send counted hold
  have wired := drawn_send held.counted join
  split at run
  · simp at run
  · have released := drawn_send wired.counted run
    have all := (held.trans wired).trans released
    rw [wired.drawn, held.drawn] at all
    exact all

theorem drawn_connectAll :
    ∀ {wires : List (NodePath × String)} {before : Construction}, before.Counted →
      Yields ((wires.map fun wire => (Datum.path wire.1, wire.2)).forM fun wire =>
        connect wire.1 (node.port wire.2)) before finished after →
      Drawn before after { before.diagram with
        wires := before.diagram.wires ++ wires.map fun wire => (wire.1, node.port wire.2) }
  | [], _ => by
    intro counted run
    obtain ⟨-, rfl⟩ := run.pure
    simpa using Drawn.refl counted
  | wire :: _, _ => by
    intro counted run
    obtain ⟨_, _, runFirst, runRest⟩ := run.bind
    have first := drawn_connect counted runFirst
    have all := first.trans (drawn_connectAll first.counted runRest)
    rw [first.drawn] at all
    simpa [Diagram.join] using all

theorem drawn_addNode (counted : before.Counted)
    (run : Yields (addNode place kind) before node after) :
    node = before.diagram.next place kind ∧ Drawn before after (before.diagram.add place kind) := by
  obtain ⟨_, _, rfl, _, _, rfl, _, _, ⟨rfl, rfl⟩, rfl, rfl⟩ := run
  have drawn : Diagram.of (before.commands.push (.addNode place kind)).toList =
      before.diagram.add place kind := by
    simp [Construction.diagram, Diagram.draw]
  refine ⟨?_, drawn, ?_, rfl, rfl, rfl, rfl, rfl⟩
  · rw [Diagram.next, ← counted]
  · rw [Construction.Counted, Construction.diagram, drawn, Diagram.add, length_append,
      length_singleton]
    exact congrArg (· + 1) counted

theorem yields_nodeKind (run : Yields (nodeKind kind) before full after) :
    full = fullKind before.registry kind ∧ before = after := by
  unfold nodeKind at run
  by_cases hasComma : kind.toList.contains ','
  · rw [if_pos hasComma] at run
    obtain ⟨rfl, rfl⟩ := run.pure
    exact ⟨by rw [fullKind, if_pos hasComma], rfl⟩
  · rw [if_neg hasComma] at run
    replace run := run.afterGet
    rw [fullKind, if_neg hasComma]
    split at run
    · exact run.throw
    · exact run.throw
    · rename_i full _ found
      obtain ⟨rfl, rfl⟩ := run.pure
      rw [found]
      exact ⟨rfl, rfl⟩

theorem yields_currentContext (contexts : before.contexts = .path place :: outside)
    (run : Yields currentContext before context after) : context = place ∧ before = after := by
  replace run := run.afterGet
  rw [contexts] at run
  obtain ⟨rfl, rfl⟩ := run.pure
  exact ⟨rfl, rfl⟩

/-- A new node without a name, in the innermost compound. -/
theorem drawn_createNode (counted : before.Counted)
    (contexts : before.contexts = .path place :: outside)
    (numbered : kind ≠ "_input" ∧ kind ≠ "_output")
    (run : Yields (createNode kind) before node after) :
    node = before.diagram.next place (fullKind before.registry kind) ∧
      Drawn before after (before.diagram.add place (fullKind before.registry kind)) := by
  obtain ⟨_, _, here, run⟩ := run.bind
  obtain ⟨rfl, rfl⟩ := yields_currentContext contexts here
  rw [if_neg (by simpa using numbered.1), if_neg (by simpa using numbered.2)] at run
  obtain ⟨_, _, known, run⟩ := run.bind
  obtain ⟨rfl, rfl⟩ := yields_nodeKind known
  obtain ⟨_, adding, rfl⟩ := run.mapped
  exact drawn_addNode counted adding

/-! ## One node with its wires -/

/-- A node of a kind was planted with settings and wires, and a port is its output. -/
structure Planted (before after : Construction) (place : NodePath) (kind : String)
    (settings : List (String × Datum)) (wires : List (NodePath × String)) (output : String)
    (port : NodePath) : Prop where
  port : port = (before.diagram.next place kind).port output
  drawn : Drawn before after (before.diagram.plant place kind settings wires)

variable {place port : NodePath} {kind output : String} {outside : List Datum}

theorem planted_connectAll (made : node = before.diagram.next place kind)
    (added : Drawn before middle (before.diagram.add place kind))
    (run : Yields ((wires.map fun wire => (Datum.path wire.1, wire.2)).forM fun wire =>
      connect wire.1 (node.port wire.2)) middle finished after) :
    Planted before after place kind [] wires output (node.port output) := by
  refine ⟨congrArg (·.port output) made, ?_⟩
  have all := added.trans (drawn_connectAll added.counted run)
  rw [added.drawn, made] at all
  simpa [Diagram.plant, Diagram.add] using all

theorem planted_connect (output : String) (made : node = before.diagram.next place kind)
    (added : Drawn before middle (before.diagram.add place kind))
    (run : Yields (connect (.path source) (.path (node.port name))) middle finished after) :
    Planted before after place kind [] [(source, name)] output (node.port output) :=
  planted_connectAll made added (yields_bind.mpr ⟨_, _, run, yields_pure.mpr ⟨rfl, rfl⟩⟩)

theorem planted_wiredNode (wires : List (NodePath × String)) (counted : before.Counted)
    (contexts : before.contexts = .path place :: outside)
    (numbered : kind ≠ "_input" ∧ kind ≠ "_output")
    (run : Yields (wiredNode kind output (wires.map fun wire => (Datum.path wire.1, wire.2)))
      before port
      after) : Planted before after place (fullKind before.registry kind) [] wires output port := by
  obtain ⟨_, _, runNode, run⟩ := run.bind
  obtain ⟨made, added⟩ := drawn_createNode counted contexts numbered runNode
  obtain ⟨_, runWires, rfl⟩ := run.mapped
  exact planted_connectAll made added runWires

/-- Sources with the numbered ports that they are connected to. -/
def numberedPorts : Nat → List NodePath → List (NodePath × String)
  | _, [] => []
  | place, source :: rest => (source, s!"value{place}") :: numberedPorts (place + 1) rest

theorem drawn_collectInto :
    ∀ {sources : List NodePath} {number : Nat} {before : Construction}, before.Counted →
      Yields (collectInto node number (sources.map Datum.path)) before finished after →
      Drawn before after { before.diagram with
        wires := before.diagram.wires ++
          (numberedPorts number sources).map fun wire => (wire.1, node.port wire.2) }
  | [], _, _ => by
    intro counted run
    obtain ⟨-, rfl⟩ := run.pure
    simpa [numberedPorts] using Drawn.refl counted
  | source :: _, _, _ => by
    intro counted run
    obtain ⟨_, _, declaring, run⟩ := run.bind
    have declared := Drawn.of_keeps counted keeps_addInput declaring
    obtain ⟨_, -, rfl⟩ := declaring.mapped
    obtain ⟨_, _, joining, run⟩ := run.bind
    have joined := drawn_connect declared.counted joining
    have all := (declared.trans joined).trans (drawn_collectInto joined.counted run)
    rw [joined.drawn, declared.drawn] at all
    simpa [Diagram.join, numberedPorts] using all

/-- A node that takes any number of inputs. -/
theorem planted_collectingNode (sources : List NodePath) (counted : before.Counted)
    (contexts : before.contexts = .path place :: outside)
    (numbered : kind ≠ "_input" ∧ kind ≠ "_output")
    (run : Yields (collectingNode kind (sources.map Datum.path)) before port after) :
    Planted before after place (fullKind before.registry kind) [] (numberedPorts 0 sources) "output"
      port := by
  obtain ⟨_, _, runNode, run⟩ := run.bind
  obtain ⟨made, added⟩ := drawn_createNode counted contexts numbered runNode
  obtain ⟨_, runWires, rfl⟩ := run.mapped
  refine ⟨congrArg (·.port "output") made, ?_⟩
  have all := added.trans (drawn_collectInto added.counted runWires)
  rw [added.drawn, made] at all
  simpa [Diagram.plant, Diagram.add] using all

/-- A full kind is not that of a node for ports. -/
theorem numbered_of_comma (comma : kind.toList.contains ',') : kind ≠ "_input" ∧
    kind ≠ "_output" := by
  constructor
  · rintro rfl
    exact absurd comma (by decide)
  · rintro rfl
    exact absurd comma (by decide)

theorem notEnumeration : ∀ type ∈ simpleTypes, (Catalogue.enumeration? type).isSome = false := by
  decide +kernel

theorem drawn_setNumber (counted : before.Counted) (number : value.IsNumber)
    (run : Yields (setDefault (.path node) (.text name) value.numbered) before finished after) :
    Drawn before after (before.diagram.set node name value) := by
  cases number with
  | whole => exact drawn_send counted run
  | fraction => exact drawn_send counted run

theorem planted_constantNode (counted : before.Counted)
    (contexts : before.contexts = .path place :: outside) (simple : type ∈ simpleTypes)
    (number : value.IsNumber)
    (run : Yields (constantNode value type .nothing .nothing) before port after) :
    Planted before after place (fullKind before.registry (constantKind type)) [("value", value)] []
      "output" port := by
  obtain ⟨plain, notObject, notArray, size⟩ := simpleTypes_ask type simple
  have numbered : constantKind type ≠ "_input" ∧ constantKind type ≠ "_output" :=
    numbered_of_comma (comma_append (by decide) type)
  have simpleRun : Yields (simpleNode value type .nothing) before port after := by
    unfold constantNode plainConstantNode at run
    rw [portTypeName_plainName plain, ok_bind] at run
    simp only [number.given, notArray, notEnumeration type simple, contains_iff_mem.mpr simple,
      Bool.false_eq_true, if_false, if_true, Datum.isGiven, bind_pure] at run
    exact run
  unfold simpleNode at simpleRun
  rw [portTypeName_plainName plain, ok_bind, number.given, hasSizeAt_eq size] at simpleRun
  simp only [beq_iff_eq, notObject, Bool.false_eq_true, if_false, ok_bind] at simpleRun
  obtain ⟨_, _, runNode, run⟩ := simpleRun.bind
  obtain ⟨rfl, added⟩ := drawn_createNode counted contexts numbered runNode
  obtain ⟨_, setting, rfl⟩ := run.mapped
  refine ⟨rfl, ?_⟩
  have all := added.trans (drawn_setNumber added.counted number setting)
  rw [added.drawn] at all
  simpa [Diagram.plant, Diagram.add, Diagram.set] using all

end GraphScript.Graph
