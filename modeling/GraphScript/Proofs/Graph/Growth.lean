import GraphScript.Proofs.Graph.Naming
import Mathlib.Data.List.Nodup

/-!
# What a graph computes

The commands that build a graph draw a diagram: nodes of some kinds, wires between ports, and
settings of ports.  Once it is said what a node of each kind gives out, and which values are
supplied from outside, a diagram says which values reach a port.  `Carries` is this relation.  A
wire passes a value on as it is, and a port that no wire leads to has what its node gives out for
the values at the ports that wires do lead to.

A diagram grows node by node.  The wires to a node are drawn when the node is, and come from nodes
before it; only some gates, such as the node that holds the outputs of a compound, get wires at any
time.  So what reaches a port of a node stays the same while the diagram grows.
-/

namespace GraphScript.Graph

open List

/-- What nodes give out: for the kind of a node, the values that come in by port, the settings by
port, and an output port, the value at that port. -/
abbrev Interpretation (V : Type) : Type :=
  (kind : String) → (inputs : String → Option V) → (settings : String → Option Datum) →
    (port : String) → V

/-- What commands draw. -/
structure Diagram where
  /-- The nodes with their kinds, in the order of their numbers. -/
  nodes : List (NodePath × String) := []
  /-- The wires from output ports to input ports. -/
  wires : List (NodePath × NodePath) := []
  /-- The settings of ports, by node and name. -/
  settings : List ((NodePath × String) × Datum) := []

namespace Diagram

/-- The path of the next node, if it is of a kind; the host numbers all nodes. -/
def next (diagram : Diagram) (context : NodePath) (kind : String) : NodePath :=
  let name := Text.afterLast "," kind
  context.child s!"{name}{diagram.nodes.length + 1}"

/-- One more node. -/
def add (diagram : Diagram) (context : NodePath) (kind : String) : Diagram :=
  { diagram with nodes := diagram.nodes ++ [(diagram.next context kind, kind)] }

/-- One more wire. -/
def join (diagram : Diagram) (source target : NodePath) : Diagram :=
  { diagram with wires := diagram.wires ++ [(source, target)] }

/-- One more setting. -/
def set (diagram : Diagram) (node : NodePath) (port : String) (value : Datum) : Diagram :=
  { diagram with settings := diagram.settings ++ [((node, port), value)] }

/-- What is drawn by one more command. -/
def draw (diagram : Diagram) : Command → Diagram
  | .addNode context kind => diagram.add context kind
  | .connect (.path source) (.path target) => diagram.join source target
  | .setDefault (.path node) (.text port) value => diagram.set node port value
  | _ => diagram

/-- What commands draw, one after the other. -/
def of (commands : List Command) : Diagram := commands.foldl draw {}

@[simp] theorem of_push (commands : List Command) (command : Command) :
    of (commands ++ [command]) = (of commands).draw command := by
  simp [of]

/-- A wire leads to a port. -/
def Wired (diagram : Diagram) (port : NodePath) : Prop := ∃ source, (source, port) ∈ diagram.wires

/-- A wire leads to the port of a node with a name. -/
def Enters (diagram : Diagram) (node : NodePath) (name : String) : Prop :=
  ∃ target, diagram.Wired target ∧ target.parent = node ∧ target.name = name

/-- The settings of a node, by port. -/
def settingsOf (diagram : Diagram) (node : NodePath) (name : String) : Option Datum :=
  diagram.settings.lookup (node, name)

end Diagram

section Carries

variable (nodes : Interpretation V) (supplied : NodePath → V → Prop)

/-- A value reaches a port. -/
inductive Carries (diagram : Diagram) : NodePath → V → Prop where
  /-- The value is supplied from outside. -/
  | supplied {port : NodePath} {value : V} (given : supplied port value) :
      Carries diagram port value
  /-- The value comes along a wire. -/
  | wire {source target : NodePath} {value : V} (wired : (source, target) ∈ diagram.wires)
      (carried : Carries diagram source value) :
      Carries diagram target value
  /-- The value is what a node gives out. -/
  | node {port : NodePath} {kind : String} (inputs : String → Option V)
      (isPort : port.isPort = true)
      (isNode : (port.parent, kind) ∈ diagram.nodes)
      (unwired : ¬diagram.Wired port)
      (entered : ∀ name, (inputs name).isSome ↔ diagram.Enters port.parent name)
      (carried : ∀ target value, diagram.Wired target → target.parent = port.parent →
        inputs target.name = some value → Carries diagram target value) :
      Carries diagram port (nodes kind inputs (diagram.settingsOf port.parent) port.name)

/-- One value and no other reaches a port. -/
def Holds (diagram : Diagram) (port : NodePath) (value : V) : Prop :=
  ∀ other, Carries nodes supplied diagram port other ↔ other = value

variable {nodes supplied}

theorem Holds.carries (holds : Holds nodes supplied diagram port value) :
    Carries nodes supplied diagram port value :=
  (holds value).mpr rfl

/-- A port that only one wire leads to has what is at the other end of the wire. -/
theorem carries_target (only : ∀ other, (other, target) ∈ diagram.wires ↔ other = source)
    (unsupplied : ∀ other, ¬supplied target other) :
    Carries nodes supplied diagram target value ↔ Carries nodes supplied diagram source value := by
  constructor
  · intro carries
    cases carries with
    | supplied given => exact (unsupplied _ given).elim
    | wire wired carried => exact (only _).mp wired ▸ carried
    | node _ _ _ unwired => exact (unwired ⟨source, (only source).mpr rfl⟩).elim
  · exact .wire ((only source).mpr rfl)

/-- Nothing reaches a port that no wire leads to and that is not at a node. -/
theorem not_carries (unwired : ¬diagram.Wired port)
    (noNode : ∀ kind, (port.parent, kind) ∉ diagram.nodes)
    (unsupplied : ∀ other, ¬supplied port other) : ¬Carries nodes supplied diagram port value := by
  intro carries
  cases carries with
  | supplied given => exact unsupplied _ given
  | wire wired => exact unwired ⟨_, wired⟩
  | node _ _ isNode => exact noNode _ isNode

/-- What a node gives out, when one value reaches each of its inputs. -/
theorem holds_node (inputs : String → Option V) (isPort : port.isPort = true)
    (only : ∀ other, (port.parent, other) ∈ diagram.nodes ↔ other = kind)
    (unwired : ¬diagram.Wired port) (unsupplied : ∀ other, ¬supplied port other)
    (entered : ∀ name, (inputs name).isSome ↔ diagram.Enters port.parent name)
    (carried : ∀ target value, diagram.Wired target → target.parent = port.parent →
      inputs target.name = some value → Holds nodes supplied diagram target value) :
    Holds nodes supplied diagram port
      (nodes kind inputs (diagram.settingsOf port.parent) port.name) := by
  intro value
  constructor
  · intro carries
    cases carries with
    | supplied given => exact (unsupplied _ given).elim
    | wire wired => exact (unwired ⟨_, wired⟩).elim
    | node others _ isNode _ enteredToo carriedToo =>
      have same : others = inputs := by
        funext name
        by_cases enters : diagram.Enters port.parent name
        · obtain ⟨known, found⟩ := Option.isSome_iff_exists.mp ((entered name).mpr enters)
          obtain ⟨other, foundToo⟩ := Option.isSome_iff_exists.mp ((enteredToo name).mpr enters)
          obtain ⟨target, wired, atNode, rfl⟩ := enters
          have holds := carried target known wired atNode found
          rw [found, foundToo, (holds other).mp (carriedToo target other wired atNode foundToo)]
        · have nothing := mt (entered name).mp enters
          have nothingToo := mt (enteredToo name).mp enters
          rw [Option.not_isSome_iff_eq_none] at nothing nothingToo
          rw [nothing, nothingToo]
      rw [same, (only _).mp isNode]
  · rintro rfl
    refine .node inputs isPort ((only kind).mpr rfl) unwired entered
      fun target value wired atNode found => ?_
    exact (carried target value wired atNode found).carries

/-! ## Parts of diagrams -/

/-- Two diagrams are the same at the nodes of a region, and no wire leads into the region. -/
structure AgreeOn (region : NodePath → Prop) (first second : Diagram) : Prop where
  nodes : ∀ node kind, region node → ((node, kind) ∈ first.nodes ↔ (node, kind) ∈ second.nodes)
  wires : ∀ source target, region target.parent →
    ((source, target) ∈ first.wires ↔ (source, target) ∈ second.wires)
  settings : ∀ node, region node → first.settingsOf node = second.settingsOf node
  closed : ∀ source target, (source, target) ∈ first.wires → region target.parent →
    region source.parent

section AgreeOn

theorem AgreeOn.symm (agree : AgreeOn region first second) : AgreeOn region second first where
  nodes := fun node kind inside => (agree.nodes node kind inside).symm
  wires := fun source target inside => (agree.wires source target inside).symm
  settings := fun node inside => (agree.settings node inside).symm
  closed := fun source target wired inside =>
    agree.closed source target ((agree.wires source target inside).mpr wired) inside

theorem AgreeOn.wired (agree : AgreeOn region first second)
    (inside : region port.parent) : first.Wired port ↔ second.Wired port :=
  exists_congr fun source => agree.wires source port inside

theorem AgreeOn.enters (agree : AgreeOn region first second) (inside : region node)
    (name : String) : first.Enters node name ↔ second.Enters node name := by
  refine exists_congr fun _ => ?_
  constructor
  · rintro ⟨wired, rfl, same⟩
    exact ⟨(agree.wired inside).mp wired, rfl, same⟩
  · rintro ⟨wired, rfl, same⟩
    exact ⟨(agree.wired inside).mpr wired, rfl, same⟩

theorem AgreeOn.carries (agree : AgreeOn region first second)
    (carries : Carries nodes supplied first port value) (inside : region port.parent) :
    Carries nodes supplied second port value := by
  induction carries with
  | supplied given => exact .supplied given
  | wire wired _ ih =>
    exact .wire ((agree.wires _ _ inside).mp wired) (ih (agree.closed _ _ wired inside))
  | node inputs isPort isNode unwired entered _ ih =>
    rw [agree.settings _ inside]
    refine .node inputs isPort ((agree.nodes _ _ inside).mp isNode)
      (mt (agree.wired inside).mpr unwired)
      (fun name => (entered name).trans (agree.enters inside name)) ?_
    intro target value wired atNode found
    have insideToo : region target.parent := by rwa [atNode]
    exact ih target value ((agree.wired insideToo).mpr wired) atNode found insideToo

theorem AgreeOn.holds (agree : AgreeOn region first second) (inside : region port.parent)
    (holds : Holds nodes supplied first port value) : Holds nodes supplied second port value := by
  intro other
  constructor
  · intro carries
    exact (holds other).mp (agree.symm.carries carries inside)
  · intro same
    exact agree.carries ((holds other).mpr same) inside

end AgreeOn

end Carries

/-! ## Growing diagrams -/

variable {nodes : Interpretation V} {supplied : NodePath → V → Prop}
variable {gates : List NodePath} {diagram before after : Diagram}

namespace Diagram

/-- A node with a number that was given already, and no gate. -/
def Past (gates : List NodePath) (diagram : Diagram) (node : NodePath) : Prop :=
  node.serial ≤ diagram.nodes.length ∧ node ∉ gates

/-- Wires come from nodes that are there, and lead to nodes that are there or to gates. -/
structure Tidy (gates : List NodePath) (diagram : Diagram) : Prop where
  early : ∀ gate ∈ gates, gate.serial ≤ diagram.nodes.length
  nodes : ∀ node kind, (node, kind) ∈ diagram.nodes →
    0 < node.serial ∧ node.serial ≤ diagram.nodes.length
  sources : ∀ source target, (source, target) ∈ diagram.wires → diagram.Past gates source.parent
  targets : ∀ source target, (source, target) ∈ diagram.wires → target.parent ∈ gates ∨
    0 < target.parent.serial ∧ target.parent.serial ≤ diagram.nodes.length
  settings : ∀ node port value, ((node, port), value) ∈ diagram.settings →
    node.serial ≤ diagram.nodes.length

/-- Everything that was added is at new nodes or at gates. -/
structure Later (gates : List NodePath) (before after : Diagram) : Prop where
  nodes : ∃ more, after.nodes = before.nodes ++ more ∧
    ∀ node kind, (node, kind) ∈ more → before.nodes.length < node.serial
  wires : ∃ more, after.wires = before.wires ++ more ∧
    ∀ source target, (source, target) ∈ more →
      target.parent ∈ gates ∨ before.nodes.length < target.parent.serial
  settings : ∃ more, after.settings = before.settings ++ more ∧
    ∀ node port value, ((node, port), value) ∈ more → before.nodes.length < node.serial

namespace Later

theorem refl (diagram : Diagram) : Later gates diagram diagram :=
  ⟨⟨[], by simp, by simp⟩, ⟨[], by simp, by simp⟩, ⟨[], by simp, by simp⟩⟩

theorem length_le (later : Later gates before after) : before.nodes.length ≤
    after.nodes.length := by
  obtain ⟨_, same, -⟩ := later.nodes
  simp [same]

theorem trans (front : Later gates before middle) (back : Later gates middle after) :
    Later gates before after := by
  have le := front.length_le
  obtain ⟨⟨nodes, sameNodes, newNodes⟩, ⟨wires, sameWires, newWires⟩, settings, sameSettings,
    newSettings⟩ := front
  obtain ⟨⟨nodes', sameNodes', newNodes'⟩, ⟨wires', sameWires', newWires'⟩, settings',
    sameSettings', newSettings'⟩ := back
  refine ⟨⟨nodes ++ nodes', by simp [sameNodes, sameNodes'], ?_⟩,
    ⟨wires ++ wires', by simp [sameWires, sameWires'], ?_⟩,
    ⟨settings ++ settings', by simp [sameSettings, sameSettings'], ?_⟩⟩
  · intro node kind member
    rcases mem_append.mp member with first | second
    · exact newNodes node kind first
    · exact Nat.lt_of_le_of_lt le (newNodes' node kind second)
  · intro source target member
    rcases mem_append.mp member with first | second
    · exact newWires source target first
    · exact (newWires' source target second).imp_right (Nat.lt_of_le_of_lt le)
  · intro node port value member
    rcases mem_append.mp member with first | second
    · exact newSettings node port value first
    · exact Nat.lt_of_le_of_lt le (newSettings' node port value second)

theorem past (later : Later gates before after) (past : before.Past gates node) :
    after.Past gates node :=
  ⟨Nat.le_trans past.1 later.length_le, past.2⟩

/-- Nothing changes at the nodes that were there. -/
theorem agreeOn (later : Later gates before after) (tidy : Tidy gates before) :
    AgreeOn (before.Past gates) before after := by
  obtain ⟨⟨_, sameNodes, newNodes⟩, ⟨_, sameWires, newWires⟩, settings, sameSettings,
    newSettings⟩ := later
  refine ⟨fun node kind past => ?_, fun source target past => ?_, fun node past => ?_,
    fun source target wired _ => tidy.sources source target wired⟩
  · rw [sameNodes, mem_append, or_iff_left]
    intro added
    exact Nat.not_lt.mpr past.1 (newNodes node kind added)
  · rw [sameWires, mem_append, or_iff_left]
    intro added
    rcases newWires source target added with gate | new
    · exact past.2 gate
    · exact Nat.not_lt.mpr past.1 new
  · funext name
    rw [settingsOf, settingsOf, sameSettings, lookup_append]
    have none : settings.lookup (node, name) = none := by
      rw [lookup_eq_none_iff]
      rintro ⟨⟨other, port⟩, value⟩ member
      have new := newSettings other port value member
      refine bne_iff_ne.mpr fun same => ?_
      rw [← (Prod.mk.inj same).1] at new
      exact Nat.not_lt.mpr past.1 new
    rw [none, Option.or_none]

theorem holds (later : Later gates before after) (tidy : Tidy gates before)
    (past : before.Past gates port.parent) (holds : Holds nodes supplied before port value) :
    Holds nodes supplied after port value :=
  (later.agreeOn tidy).holds past holds

end Later

/-! ## One more wire to a gate -/

section Join

theorem later_join (gate : target.parent ∈ gates) :
    Later gates diagram (diagram.join source target) := by
  refine ⟨⟨[], by simp [join], by simp⟩, ⟨_, rfl, ?_⟩, ⟨[], by simp [join], by simp⟩⟩
  intro _ _ member
  cases mem_singleton.mp member
  exact .inl gate

theorem tidy_join (tidy : Tidy gates diagram) (past : diagram.Past gates source.parent)
    (gate : target.parent ∈ gates) : Tidy gates (diagram.join source target) := by
  refine ⟨tidy.early, tidy.nodes, ?_, ?_, tidy.settings⟩
  · intro first second member
    rcases mem_append.mp member with old | new
    · exact tidy.sources first second old
    · cases mem_singleton.mp new
      exact past
  · intro first second member
    rcases mem_append.mp member with old | new
    · exact tidy.targets first second old
    · cases mem_singleton.mp new
      exact .inl gate

end Join

/-! ## One more node -/

/-- The node of a kind is named after a word that does not end in a digit. -/
structure Tame (kind : String) : Prop where
  noDot : '.' ∉ (Text.afterLast "," kind).toList
  stops : ∀ letter ∈ (Text.afterLast "," kind).toList.getLast?, letter.isDigit = false

/-- One more node, with settings of its ports and wires to them. -/
def plant (diagram : Diagram) (place : NodePath) (kind : String) (settings : List (String × Datum))
    (wires : List (NodePath × String)) : Diagram where
  nodes := diagram.nodes ++ [(diagram.next place kind, kind)]
  wires := diagram.wires ++ wires.map fun wire => (wire.1, (diagram.next place kind).port wire.2)
  settings := diagram.settings ++
    settings.map fun setting => ((diagram.next place kind, setting.1), setting.2)

/-- A node of a kind can be added to a compound, with wires to its ports that come from nodes which
are there. -/
structure Ready (gates : List NodePath) (diagram : Diagram) (place : NodePath) (kind : String)
    (wires : List (NodePath × String)) : Prop where
  tidy : Tidy gates diagram
  plain : place.isPort = false
  tame : Tame kind
  words : ∀ source name, (source, name) ∈ wires → Word name
  distinct : (wires.map Prod.snd).Nodup
  past : ∀ source name, (source, name) ∈ wires → diagram.Past gates source.parent

namespace Ready

variable {place : NodePath} {kind : String} {settings : List (String × Datum)}
variable {wires : List (NodePath × String)}

theorem mem_wires_plant :
    (source, target) ∈ (diagram.plant place kind settings wires).wires ↔
    (source, target) ∈ diagram.wires ∨
      ∃ name, (source, name) ∈ wires ∧ target = (diagram.next place kind).port name := by
  simp [plant, eq_comm]

variable (ready : Ready gates diagram place kind wires)

include ready

theorem serial : (diagram.next place kind).serial = diagram.nodes.length + 1 :=
  serial_child place (diagram.nodes.length + 1) ready.tame.stops

theorem isPort : (diagram.next place kind).isPort = false :=
  isPort_child ready.plain (noDot_number ready.tame.noDot _)

theorem parent (word : Word name) :
    ((diagram.next place kind).port name).parent = diagram.next place kind :=
  parent_portOf ready.isPort word

theorem name {name : String} (word : Word name) :
    ((diagram.next place kind).port name).name = name :=
  name_portOf ready.isPort word

theorem pastNext : (diagram.plant place kind settings wires).Past gates
    (diagram.next place kind) := by
  have serial := ready.serial
  refine ⟨by simp [serial, plant], fun gate => ?_⟩
  have le := ready.tidy.early _ gate
  omega

theorem later : Later gates diagram (diagram.plant place kind settings wires) := by
  have new : diagram.nodes.length < (diagram.next place kind).serial := by
    rw [ready.serial]
    exact Nat.lt_succ_self _
  refine ⟨⟨_, rfl, ?_⟩, ⟨_, rfl, ?_⟩, ⟨_, rfl, ?_⟩⟩
  · intro node _ member
    cases mem_singleton.mp member
    exact new
  · intro _ _ member
    obtain ⟨⟨_, _⟩, inside, same⟩ := mem_map.mp member
    cases same
    right
    rw [ready.parent (ready.words _ _ inside)]
    exact new
  · intro _ _ _ member
    obtain ⟨_, _, same⟩ := mem_map.mp member
    obtain ⟨rfl, -⟩ := Prod.mk.inj (Prod.mk.inj same).1
    exact new

theorem tidyPlant : Tidy gates (diagram.plant place kind settings wires) := by
  have tidy := ready.tidy
  have later : Later gates diagram (diagram.plant place kind settings wires) := ready.later
  have le := later.length_le
  have serial := ready.serial
  have length : (diagram.plant place kind settings wires).nodes.length =
    diagram.nodes.length + 1 := by
    simp [plant]
  refine ⟨?_, ?_, ?_, ?_, ?_⟩
  · exact fun gate member => Nat.le_trans (tidy.early gate member) le
  · intro node other member
    rcases mem_append.mp member with old | new
    · exact ⟨(tidy.nodes node other old).1, Nat.le_trans (tidy.nodes node other old).2 le⟩
    · cases mem_singleton.mp new
      omega
  · intro source target member
    rcases mem_wires_plant.mp member with old | ⟨name, inside, rfl⟩
    · exact later.past (tidy.sources source target old)
    · exact later.past (ready.past _ _ inside)
  · intro source target member
    rcases mem_wires_plant.mp member with old | ⟨_, inside, rfl⟩
    · exact (tidy.targets source target old).imp_right fun held => ⟨held.1, Nat.le_trans held.2 le⟩
    · right
      rw [ready.parent (ready.words _ _ inside)]
      omega
  · intro node port value member
    rcases mem_append.mp member with old | new
    · exact Nat.le_trans (tidy.settings node port value old) le
    · obtain ⟨_, _, same⟩ := mem_map.mp new
      obtain ⟨rfl, -⟩ := Prod.mk.inj (Prod.mk.inj same).1
      omega

/-- Only the wires of the new node lead to it. -/
theorem into (wired : (source, target) ∈ (diagram.plant place kind settings wires).wires)
    (atNode : target.parent = diagram.next place kind) :
    ∃ name, (source, name) ∈ wires ∧ target = (diagram.next place kind).port name := by
  have serial := ready.serial
  rcases mem_wires_plant.mp wired with old | ⟨name, inside, rfl⟩
  · exfalso
    rcases ready.tidy.targets source target old with gate | held
    · have le := ready.tidy.early _ gate
      rw [atNode] at le
      omega
    · rw [atNode] at held
      omega
  · exact ⟨name, inside, rfl⟩

/-- The wires of the new node do not lead to a gate. -/
theorem wiresToGate (gate : target.parent ∈ gates) :
    (source, target) ∈ (diagram.plant place kind settings wires).wires ↔
    (source, target) ∈ diagram.wires := by
  constructor
  · intro member
    rcases mem_wires_plant.mp member with old | ⟨_, inside, rfl⟩
    · exact old
    · have early := ready.tidy.early _ gate
      rw [ready.parent (ready.words _ _ inside), ready.serial] at early
      exact absurd early (Nat.not_succ_le_self _)
  · exact mem_append_left _

theorem wired {name : String} (word : Word name) :
    (source, (diagram.next place kind).port name) ∈
      (diagram.plant place kind settings wires).wires ↔ (source, name) ∈ wires := by
  constructor
  · intro member
    obtain ⟨_, inside, same⟩ := ready.into member (ready.parent word)
    rw [port_inj ready.isPort word (ready.words _ _ inside) same]
    exact inside
  · intro member
    exact mem_wires_plant.mpr (.inr ⟨_, member, rfl⟩)

theorem kinds :
    (diagram.next place kind, other) ∈ (diagram.plant place kind settings wires).nodes ↔
      other = kind := by
  have serial := ready.serial
  constructor
  · intro member
    rcases mem_append.mp member with old | new
    · have le := (ready.tidy.nodes _ _ old).2
      omega
    · exact (Prod.mk.inj (mem_singleton.mp new)).2
  · rintro rfl
    exact mem_append_right _ (mem_singleton.mpr rfl)

theorem settingsOf :
    (diagram.plant place kind settings wires).settingsOf (diagram.next place kind) =
      fun name => settings.lookup name := by
  have serial := ready.serial
  funext name
  have none : diagram.settings.lookup (diagram.next place kind, name) = none := by
    rw [lookup_eq_none_iff]
    rintro ⟨⟨node, port⟩, value⟩ member
    have le := ready.tidy.settings node port value member
    refine bne_iff_ne.mpr fun same => ?_
    rw [← (Prod.mk.inj same).1] at le
    omega
  rw [Diagram.settingsOf, plant, lookup_append, none, Option.none_or]
  induction settings with
  | nil => rfl
  | cons setting _ ih =>
    obtain ⟨port, _⟩ := setting
    have same : ((diagram.next place kind, name) == (diagram.next place kind, port)) =
        (name == port) := by
      simp
    rw [map_cons, lookup_cons, lookup_cons, ih, same]

theorem unsupplied {name : String}
    (unnumbered : ∀ port value, supplied port value → port.parent.serial = 0) (word : Word name) :
    ¬supplied ((diagram.next place kind).port name) value := by
  intro given
  have zero := unnumbered _ _ given
  rw [ready.parent word, ready.serial] at zero
  exact absurd zero (Nat.succ_ne_zero _)

/-- A wire passes its value on to the new node. -/
theorem reached {name : String} {value : V}
    (unnumbered : ∀ port value, supplied port value → port.parent.serial = 0)
    (member : (source, name) ∈ wires) (holds : Holds nodes supplied diagram source value) :
    Holds nodes supplied (diagram.plant place kind settings wires)
      ((diagram.next place kind).port name) value := by
  intro other
  rw [carries_target ?_ fun _ => ready.unsupplied unnumbered (ready.words _ _ member)]
  · exact ready.later.holds ready.tidy (ready.past source name member) holds other
  · intro _
    rw [ready.wired (ready.words _ _ member)]
    constructor
    · intro memberToo
      exact (Prod.mk.inj (inj_on_of_nodup_map ready.distinct memberToo member rfl)).1
    · rintro rfl
      exact member

/-- What the new node gives out, when one value reaches the source of each of its wires. -/
theorem holds {values : String → Option V} {output : String}
    (unnumbered : ∀ port value, supplied port value → port.parent.serial = 0)
    (carried : ∀ source name, (source, name) ∈ wires →
      ∃ value, values name = some value ∧ Holds nodes supplied diagram source value)
    (only : ∀ name, (values name).isSome → ∃ source, (source, name) ∈ wires) (word : Word output)
    (isOutput : ∀ source, (source, output) ∉ wires) :
    Holds nodes supplied (diagram.plant place kind settings wires)
      ((diagram.next place kind).port output)
      (nodes kind values (fun name => settings.lookup name) output) := by
  have given : nodes kind values (fun name => settings.lookup name) output =
      nodes kind values ((diagram.plant place kind settings wires).settingsOf
        ((diagram.next place kind).port output).parent)
        ((diagram.next place kind).port output).name := by
    rw [ready.parent word, ready.name word, ready.settingsOf]
  rw [given]
  refine holds_node values (isPort_port word) ?_ ?_
    (fun _ => ready.unsupplied unnumbered word) ?_ ?_
  · intro _
    rw [ready.parent word]
    exact ready.kinds
  · rintro ⟨source, wired⟩
    exact isOutput source ((ready.wired word).mp wired)
  · intro name
    rw [ready.parent word]
    constructor
    · intro isSome
      obtain ⟨source, member⟩ := only name isSome
      have wordToo := ready.words _ _ member
      exact ⟨_, ⟨source, (ready.wired wordToo).mpr member⟩, ready.parent wordToo,
        ready.name wordToo⟩
    · rintro ⟨target, ⟨source, wired⟩, atNode, rfl⟩
      obtain ⟨name, member, rfl⟩ := ready.into wired atNode
      obtain ⟨value, found, -⟩ := carried source name member
      rw [ready.name (ready.words _ _ member), found]
      rfl
  · rintro _ _ ⟨source, wired⟩ atNode found
    rw [ready.parent word] at atNode
    obtain ⟨name, member, rfl⟩ := ready.into wired atNode
    rw [ready.name (ready.words _ _ member)] at found
    obtain ⟨_, foundToo, holds⟩ := carried source name member
    cases found.symm.trans foundToo
    exact ready.reached unnumbered member holds

end Ready

end Diagram

end GraphScript.Graph
