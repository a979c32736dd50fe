import GraphScript.Proofs.Emission.Compounds
import GraphScript.Proofs.Emission.Scripts
import GraphScript.Proofs.Graph.Slicing

/-!
# Slices in a graph

The compound of a slice is drawn gate by gate.  `layout` says which nodes, wires and settings the
gates of a circuit are, and `Slice.picture` what a slice is in all: the layout of its circuit, a
loop with a layout of its own, and the wires between the two.  So what holds of the circuits holds
of the graph.
-/

namespace GraphScript.Graph

open List Emission
open Act (Keeps Yields yields_modify)

variable {before middle after : Construction} {compound place slice port : NodePath}
    {outside : List Datum}

/-! ## Layouts -/

/-- The ports that the values of the gates so far are at, and the diagram. -/
abbrev Layout : Type := List NodePath × Diagram

/-- One more node in a compound, for a gate whose value is at an output port. -/
def Layout.plant (layout : Layout) (compound : NodePath) (kind output : String)
    (settings : List (String × Datum)) (wires : List (NodePath × String)) : Layout :=
  (layout.1 ++ [(layout.2.next compound kind).port output],
    layout.2.plant compound kind settings wires)

/-- One more gate.  It is a node with a wire to a port for each of its own, or just a wire to an
output of the compound. -/
def Layout.add (registry : Overload.Registry) (compound : NodePath)
    (layout : Layout) : Gate → Layout
  | .constant value =>
    layout.plant compound (constantKind "long") "output" [("value", .whole value)] []
  | .node kind output sources => layout.plant compound (fullKind registry kind) output []
      (sources.map fun source => (source.1.port compound layout.1, source.2))
  | .collect kind sources => layout.plant compound (fullKind registry kind) "output" []
      (numberedPorts 0 (sources.map (·.port compound layout.1)))
  | .output name source =>
    let port := source.port compound layout.1
    (layout.1 ++ [port], layout.2.join port (compound.output.port name))

/-- The gates of a circuit in a compound of a diagram. -/
def layout (registry : Overload.Registry) (compound : NodePath) (circuit : Circuit)
    (diagram : Diagram) : Layout :=
  circuit.foldl (Layout.add registry compound) ([], diagram)

/-- A gate is not one of the nodes for the ports of a compound. -/
def Gate.isNumbered : Gate → Bool
  | .node kind _ _ | .collect kind _ => kind ≠ "_input" ∧ kind ≠ "_output"
  | _ => true

theorem drawn_gate (counted : before.Counted)
    (contexts : before.contexts = .path compound :: outside)
    (numbered : gate.isNumbered = true)
    (run : Yields (gate.draw compound ports) before port after) :
    ∃ diagram, Layout.add before.registry compound (ports, before.diagram) gate =
      (ports ++ [port], diagram) ∧ Drawn before after diagram := by
  cases gate with
  | constant value =>
    have planted := planted_constantNode counted contexts (by decide) (.whole value) run
    rw [show fullKind before.registry (constantKind "long") =
      constantKind "long" from rfl] at planted
    exact ⟨_, by rw [planted.port]; rfl, planted.drawn⟩
  | node kind output sources =>
    have planted := planted_wiredNode _ counted contexts (of_decide_eq_true numbered) run
    exact ⟨_, by rw [planted.port]; rfl, planted.drawn⟩
  | collect kind sources =>
    have planted := planted_collectingNode _ counted contexts (of_decide_eq_true numbered) run
    exact ⟨_, by rw [planted.port]; rfl, planted.drawn⟩
  | output name source =>
    obtain ⟨_, connects, rfl⟩ := run.mapped
    exact ⟨_, rfl, drawn_connect counted connects⟩

theorem drawn_drawGates : ∀ {gates : Circuit} {ports : List NodePath} {before : Construction},
    before.Counted → before.contexts = .path compound :: outside →
      (∀ gate ∈ gates, gate.isNumbered = true) →
    Yields (drawGates compound ports gates) before done after →
    ∃ diagram, gates.foldl (Layout.add before.registry compound) (ports, before.diagram) =
      (done, diagram) ∧ Drawn before after diagram
  | [], _, _ => by
    intro counted _ _ run
    obtain ⟨rfl, rfl⟩ := run.pure
    exact ⟨_, rfl, .refl counted⟩
  | gate :: rest, _, _ => by
    intro counted contexts numbered run
    obtain ⟨_, _, draws, run⟩ := run.bind
    obtain ⟨_, first, drawn⟩ := drawn_gate counted contexts (numbered gate (.head _)) draws
    obtain ⟨diagram, others, drawnRest⟩ :=
      drawn_drawGates drawn.counted (drawn.contexts.trans contexts)
        (fun other member => numbered other (.tail _ member)) run
    rw [drawn.registry, drawn.drawn] at others
    exact ⟨diagram, by rw [foldl_cons, first, others], drawn.trans drawnRest⟩

/-! ## Slices -/

/-- A compound was entered, and nothing was drawn yet. -/
structure Entered (compound : NodePath) (before after : Construction) : Prop where
  drawn : after.diagram = before.diagram
  counted : after.Counted
  registry : after.registry = before.registry
  contexts : after.contexts = .path compound :: before.contexts

theorem entered_of_enter (counted : before.Counted)
    (run : Yields (enter (.path compound) {}) before finished after) :
    Entered compound before after := by
  have same := yields_modify.mp run
  subst same
  exact ⟨rfl, counted, rfl, rfl⟩

theorem Entered.keep (entered : Entered compound before middle)
    (keeps : Keeps Construction.drawing action)
    (run : Yields action middle value after) : Entered compound before after := by
  have drawn := Drawn.of_keeps entered.counted keeps run
  exact ⟨drawn.drawn.trans entered.drawn, drawn.counted, drawn.registry.trans entered.registry,
    drawn.contexts.trans entered.contexts⟩

theorem Entered.gates (entered : Entered compound before middle)
    (numbered : ∀ gate ∈ circuit, gate.isNumbered = true)
    (run : Yields (drawGates compound [] circuit) middle ports after) :
    after.Counted ∧ after.contexts = .path compound :: before.contexts ∧
      after.registry = before.registry ∧
      layout before.registry compound circuit before.diagram = (ports, after.diagram) := by
  obtain ⟨_, laid, drawn⟩ := drawn_drawGates entered.counted entered.contexts numbered run
  rw [entered.registry, entered.drawn] at laid
  refine ⟨drawn.counted, drawn.contexts.trans entered.contexts,
    drawn.registry.trans entered.registry, ?_⟩
  rw [drawn.drawn]
  exact laid

namespace Slice

/-- The kind of the loop that lists the indices. -/
def loopKind : String := "BifrostGraph,Core::Iterators,for_each"

/-- What a slice adds to a diagram, with the path of its compound. -/
def picture (registry : Overload.Registry) (place : NodePath) (diagram : Diagram) :
    NodePath × Diagram :=
  let slice := diagram.next place compoundKind
  let gates := layout registry slice circuit (diagram.add place compoundKind)
  let loop := gates.2.next slice loopKind
  let rounds := layout registry loop loopCircuit (gates.2.add slice loopKind)
  let wires := loopWires.map fun wire => (wire.1.port slice gates.1, loop.port wire.2)
  (slice, { rounds.2 with
    wires := rounds.2.wires ++ wires ++ [(loop.port "indices", slice.output.port "out_indices")] })

theorem numbered_circuits : ∀ gate ∈ circuit ++ loopCircuit, gate.isNumbered = true := by
  decide +kernel

theorem keeps_declareOutput : Keeps Construction.drawing (discard (addOutput node name type)) :=
  .bind keeps_addOutput fun _ => .pure _

theorem keeps_declareInput : Keeps Construction.drawing (discard (addInput node name type)) :=
  .bind keeps_addInput fun _ => .pure _

theorem keeps_addInputs : Keeps Construction.drawing (addInputs compound) :=
  .bind keeps_declareOutput fun _ => .bind keeps_declareOutput fun _ =>
  .bind keeps_declareOutput fun _ => .bind keeps_declareOutput fun _ =>
  .bind keeps_declareOutput fun _ => .bind keeps_declareOutput fun _ => keeps_declareOutput

theorem keeps_addOutputs : Keeps Construction.drawing (addOutputs compound) :=
  .bind keeps_declareInput fun _ => .bind keeps_declareInput fun _ =>
  .bind keeps_declareInput fun _ => .bind keeps_declareInput fun _ => keeps_declareInput

/-- The loop of a slice is one more node.  It has gates of its own, and wires lead to it and from
it. -/
theorem drawn_addLoop (counted : before.Counted)
    (contexts : before.contexts = .path slice :: outside)
    (run : Yields (addLoop slice ports) before finished after) :
    let loop := before.diagram.next slice loopKind
    let rounds := layout before.registry loop loopCircuit (before.diagram.add slice loopKind)
    after.diagram = { rounds.2 with
      wires := rounds.2.wires ++
        loopWires.map (fun wire => (wire.1.port slice ports, loop.port wire.2)) ++
        [(loop.port "indices", slice.output.port "out_indices")] } := by
  obtain ⟨_, _, creates, run⟩ := run.bind
  obtain ⟨_, _, known, creates⟩ := creates.bind
  obtain ⟨found, rfl⟩ := known.lift
  cases found
  obtain ⟨rfl, added⟩ := drawn_createCompoundOf counted contexts (by decide) creates
  rw [show fullKind before.registry _ = loopKind from rfl] at *
  obtain ⟨_, _, enters, run⟩ := run.bind
  have entered := entered_of_enter added.counted enters
  obtain ⟨_, _, declares, run⟩ := run.bind
  replace entered := entered.keep keeps_declareOutput declares
  obtain ⟨_, _, declares, run⟩ := run.bind
  replace entered := entered.keep keeps_declareOutput declares
  obtain ⟨_, _, declares, run⟩ := run.bind
  replace entered := entered.keep keeps_declareInput declares
  obtain ⟨_, _, draws, run⟩ := run.bind
  obtain ⟨_, draws⟩ := Act.yields_discard.mp draws
  have numbered gate member := numbered_circuits gate (mem_append_right _ member)
  obtain ⟨countedToo, -, -, laid⟩ := entered.gates numbered draws
  rw [added.registry, added.drawn] at laid
  obtain ⟨_, _, leaves, run⟩ := run.bind
  obtain ⟨_, leaves⟩ := Act.yields_discard.mp leaves
  obtain ⟨same, sameCounted⟩ := yields_leave leaves
  obtain ⟨_, _, connects, run⟩ := run.bind
  have wired := drawn_connectAll (sameCounted ▸ countedToo) connects
  intro loop rounds
  rw [(drawn_connect wired.counted run).drawn, wired.drawn, same]
  simp [Diagram.join, rounds, loop, laid]

/-- A slice draws its picture. -/
theorem drawn_create (counted : before.Counted)
    (contexts : before.contexts = .path place :: outside)
    (run : Yields (create .nothing .nothing) before slice after) :
    (slice, after.diagram) = picture before.registry place before.diagram := by
  obtain ⟨_, _, creates, run⟩ := run.bind
  obtain ⟨made, added⟩ := drawn_createCompoundOf counted contexts (by decide) creates
  rw [show fullKind before.registry compoundKind = compoundKind from rfl] at made added
  obtain ⟨_, _, enters, run⟩ := run.bind
  have entered := entered_of_enter added.counted enters
  obtain ⟨_, _, declares, run⟩ := run.bind
  replace entered := entered.keep keeps_addInputs declares
  obtain ⟨_, _, declares, run⟩ := run.bind
  replace entered := entered.keep keeps_addOutputs declares
  obtain ⟨ports, _, draws, run⟩ := run.bind
  have numbered gate member := numbered_circuits gate (mem_append_left _ member)
  obtain ⟨countedToo, inside, registry, laid⟩ := entered.gates numbered draws
  obtain ⟨_, _, loops, run⟩ := run.bind
  obtain ⟨_, _, leaves, run⟩ := run.bind
  obtain ⟨_, leaves⟩ := Act.yields_discard.mp leaves
  obtain ⟨rfl, rfl⟩ := run.pure
  rw [added.drawn, added.registry, made] at laid
  have looped := drawn_addLoop countedToo inside loops
  rw [(yields_leave leaves).1, looped, picture, laid, registry, added.registry, made]

end Slice

end GraphScript.Graph
