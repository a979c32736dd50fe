import GraphScript.Proofs.Elaboration.Script
import GraphScript.Proofs.Emission.Assignments

/-!
# Straight-line compounds in a graph

A compound is built around its code: its parameters become ports of one node inside it and its
results ports of another.  Values that are supplied at the parameters go through the graph of
straight-line code, and what reaches the results is what the code gives them when it is run.
-/

namespace GraphScript.Emission

open List GraphScript.Graph Program
open Act (Keeps Yields yields_modify)
open Elaboration (WellHeaded)

variable {before middle after : Construction}

/-! ## Drawing nothing -/

theorem keeps_rename : Keeps Construction.drawing (rename node name) := by
  have renames : Keeps Construction.drawing (do
      send (.renamePort node.parent node.name name)
      return node.parent.port name.shown) := .bind (keeps_send fun _ => rfl) fun _ => .pure _
  refine .ite (.pure _) (.ite ?_ (.bind (keeps_send fun _ => rfl) fun _ => .pure _))
  exact .bind (keeps_send fun _ => rfl) fun _ => .bind .get fun _ =>
    .ite (.bind (.throw _) fun _ => renames) renames

/-- Renaming a node gives it a label. -/
theorem yields_rename (plain : node.isPort = false)
    (run : Yields (rename node name) before path after) : path = node := by
  unfold rename at run
  rw [Act.yields_ite] at run
  split at run
  · exact run.pure.1.symm
  · rw [plain] at run
    obtain ⟨_, -, rfl⟩ := run.mapped
    rfl

/-- The nodes for the ports of a compound are no nodes of the diagram. -/
theorem keeps_createPortsNodes (ports : kind = "_input" ∨ kind = "_output") :
    Keeps Construction.drawing (createPortsNodes kind compound [name]) := by
  have adds (place : NodePath) (isInput : Bool) :
      Keeps Construction.drawing (addPortsNode place isInput) :=
    .bind (keeps_send fun _ => rfl) fun _ => .pure _
  have names (node : NodePath) : Keeps Construction.drawing (nameNode node name) :=
    .ite (.bind (.lift _) fun _ => .ite (.bind (keeps_send fun _ => rfl) fun _ => .pure _)
      keeps_rename) (.pure _)
  have places : Keeps Construction.drawing (placeFor compound) :=
    .ite (.pure _) (.bind .get fun _ => by
      split
      · exact .pure _
      · exact .throw _)
  refine .bind (.bind (.bind places fun place => ?_) fun _ => .pure _) fun _ => .pure _
  rcases ports with rfl | rfl
  · exact .bind (adds place true) names
  · exact .bind (adds place false) names

/-! ## The header -/

theorem tame_compound : Diagram.Tame (fullKind registry compoundKind) :=
  tame_of_wellNamed (by decide)

/-- A new compound is one more node. -/
theorem drawn_createCompoundOf (counted : before.Counted)
    (contexts : before.contexts = .path place :: outside)
    (numbered : kind ≠ "_input" ∧ kind ≠ "_output")
    (run : Yields (createCompoundOf kind .nothing .nothing ["input"] ["output"]) before compound
      after) : compound = before.diagram.next place (fullKind before.registry kind) ∧
      Drawn before after (before.diagram.add place (fullKind before.registry kind)) := by
  obtain ⟨_, _, creates, run⟩ := run.bind
  obtain ⟨rfl, added⟩ := drawn_createNode counted contexts numbered creates
  obtain ⟨_, _, inputs, run⟩ := run.bind
  obtain ⟨_, outputs, rfl⟩ := run.mapped
  have opened := Drawn.of_keeps added.counted (keeps_createPortsNodes (.inl rfl)) inputs
  have closed := Drawn.of_keeps opened.counted (keeps_createPortsNodes (.inr rfl)) outputs
  have all := (added.trans opened).trans closed
  rw [opened.drawn, added.drawn] at all
  exact ⟨rfl, all⟩

/-- A table has a port of a node for each of some names, and nothing else. -/
def Offered (table : Table Cell) (node : NodePath) (names : List String) : Prop :=
  ∀ name, (table.get? name).map Cell.value =
    if name ∈ names then some (.path (node.port name)) else none

theorem Offered.insert (offered : Offered table node names) :
    Offered (table.insert name ⟨type, .path (node.port name)⟩) node (names ++ [name]) := by
  intro other
  rw [Table.get?_insert]
  by_cases same : other = name
  · simp [same]
  · rw [if_neg same, offered other]
    simp [same]

theorem Offered.get? (offered : Offered table node names) (found : table.get? name = some cell) :
    name ∈ names ∧ cell.value = .path (node.port name) := by
  have held := offered name
  rw [found] at held
  by_cases member : name ∈ names
  · rw [if_pos member] at held
    exact ⟨member, Option.some.inj held⟩
  · rw [if_neg member] at held
    cases held

section Header

variable {store : Store V}

/-- The header of a compound is being built: no wire leads to the results yet. -/
structure Heading (reading : Reading V) (place compound : NodePath) (around : Memory)
    (store : Store V)
    (construction : Construction) : Prop extends Working reading place around store
      construction where
  gate : compound ∈ reading.gates
  outlet : compound.output ∈ reading.gates
  isNode : 0 < compound.serial
  noPort : compound.isPort = false
  isChild : ∃ outer inner, compound = NodePath.child outer inner
  unwired : ∀ source target, target.parent = compound.output →
    (source, target) ∉ construction.diagram.wires

section Heading

variable (heading : Heading reading place compound around store before)

include heading

theorem Heading.onward (advances : Advances reading numbers before after) :
    Heading reading place compound around store after :=
  { heading with
    toWorking := heading.toWorking.onward advances
    unwired := by
      intro source target atOutput wired
      have gate : target.parent ∈ reading.gates := atOutput ▸ heading.outlet
      exact heading.unwired source target atOutput ((advances.gates source target gate).mp wired) }

theorem Heading.still (keeps : Keeps Construction.drawing action)
    (run : Yields action before value after) :
    Heading reading place compound around store after ∧ Touches [] before after := by
  have drawn := Drawn.of_keeps heading.counted keeps run
  have advances : Advances reading [] before after :=
    .of_drawn drawn (.refl _) (fun _ _ _ => Iff.rfl) heading.tidy
  exact ⟨heading.onward advances, advances.touches⟩

/-- A value goes to a port outside of the compound. -/
theorem Heading.join (word : Word name) (reached : Reached reading before source value)
    (run : Yields (connect (.path source) (.path (compound.port name))) before finished after) :
    Heading reading place compound around store after ∧ Touches [] before after := by
  have drawn := drawn_connect heading.counted run
  obtain ⟨outer, inner, rfl⟩ := heading.isChild
  have parent : ((outer.child inner).port name).parent = outer.child inner :=
    parent_portOf heading.noPort word
  have gate : ((outer.child inner).port name).parent ∈ reading.gates := by
    rw [parent]
    exact heading.gate
  have later : Diagram.Later reading.gates before.diagram after.diagram := by
    rw [drawn.drawn]
    exact Diagram.later_join gate
  have tidy : after.diagram.Tidy reading.gates := by
    rw [drawn.drawn]
    exact Diagram.tidy_join heading.tidy reached.past gate
  refine ⟨⟨⟨tidy, drawn.counted, drawn.registry.trans heading.registry, heading.plain, ?_, ?_, ?_⟩,
    heading.gate, heading.outlet, heading.isNode, heading.noPort, heading.isChild, ?_⟩,
      .of_drawn drawn⟩
  · rw [drawn.contexts]
    exact heading.inside
  · rw [drawn.memories]
    exact heading.remembers
  · intro known cell found
    obtain ⟨port, held, isPort, stored, reachedToo⟩ := heading.cells known cell found
    exact ⟨port, held, isPort, stored, later.past reachedToo.past,
      later.holds heading.tidy reachedToo.past reachedToo.holds⟩
  · intro first target atOutput wired
    rw [drawn.drawn, mem_join] at wired
    rcases wired with old | ⟨-, rfl⟩
    · exact heading.unwired first target atOutput old
    · rw [parent] at atOutput
      have zero := serial_output (outer.child inner)
      rw [← atOutput] at zero
      exact absurd zero (Nat.pos_iff_ne_zero.mp heading.isNode)

end Heading

/-! ### Parameters -/

theorem keeps_addOutput : Keeps Construction.drawing (addOutput node name type) :=
  .bind (.bind (.lift _) fun _ => keeps_send fun _ => rfl) fun _ => .pure _

theorem yields_definingResult
    (run : Yields (definingResult memory name type target) before grown after) :
    memory.defineResult? name type target = some grown ∧ before = after := by
  unfold definingResult at run
  split at run
  · rename_i known
    obtain ⟨rfl, rfl⟩ := run.pure
    exact ⟨known, rfl⟩
  · obtain ⟨_, _, -, refuses⟩ := run.bind
    exact refuses.throw

/-- What the parameters of a compound come to. -/
structure Declared (compound : NodePath) (memory grown : Memory) (names : List String)
    (parameters : List Parameter) : Prop where
  results : grown.results = memory.results
  offered : Offered grown.bindings compound.input (names ++ parameters.map Parameter.name)

/-- One parameter becomes a port and a variable. -/
theorem heading_parameter {next : Memory}
    (heading : Heading reading place compound around store before)
    (offered : Offered memory.bindings compound.input names)
    (adds : Yields (addOutput compound.input name type) before path middle)
    (defines : Yields (defining memory name (.text type) (.path (compound.input.port name))) middle
      next after) :
    Heading reading place compound around store after ∧ Touches [] before after ∧
      next.results = memory.results ∧ Offered next.bindings compound.input (names ++ [name]) := by
  obtain ⟨headingMiddle, touches⟩ := heading.still keeps_addOutput adds
  obtain ⟨rfl, rfl⟩ := yields_defining defines
  exact ⟨headingMiddle, touches, rfl, offered.insert⟩

theorem heading_parameters : ∀ {parameters : List Parameter} {memory : Memory}
    {before : Construction} {names : List String},
    (∀ parameter ∈ parameters, parameter.isStraight = true) →
    (∀ parameter ∈ parameters, Word parameter.name) →
    (parametersContents parameters).numbers.Nodup →
    Heading reading place compound around store before →
    Fresh (parametersContents parameters).numbers before →
    Offered memory.bindings compound.input names →
    Yields (emitParameters compound memory parameters) before grown after →
    Heading reading place compound around store after ∧
      Touches (parametersContents parameters).numbers before after ∧
      Declared compound memory grown names parameters
  | [], _, _, _ => by
    intro _ _ _ heading _ offered run
    obtain ⟨rfl, rfl⟩ := run.pure
    exact ⟨heading, .refl _, rfl, by simpa using offered⟩
  | .mk name type default :: rest, _, before, _ => by
    intro straight words distinct heading fresh offered run
    rw [emitParameters] at run
    obtain ⟨_, _, adds, run⟩ := run.bind
    obtain ⟨_, adds⟩ := Act.yields_discard.mp adds
    obtain ⟨_, _, defines, run⟩ := run.bind
    obtain ⟨headingNext, touches, results, offeredNext⟩ :=
      heading_parameter heading offered adds defines
    have straightRest : ∀ other ∈ rest, other.isStraight = true :=
      fun other member => straight other (by simp [member])
    have wordsRest : ∀ other ∈ rest, Word other.name := fun other member =>
      words other (by simp [member])
    cases default with
    | none =>
      rw [parametersContents, optionContents, Builds.none_append] at distinct fresh ⊢
      obtain ⟨headingLast, touchesRest, declared⟩ :=
        heading_parameters straightRest wordsRest distinct
        headingNext (touches.fresh fresh (by simp)) offeredNext run
      refine ⟨headingLast, touches.mono.trans touchesRest, declared.results.trans results, ?_⟩
      simpa [Parameter.name] using declared.offered
    | some value =>
      obtain ⟨_, _, builds, run⟩ := run.bind
      obtain ⟨_, fourth, connects, run⟩ := run.bind
      rw [parametersContents, optionContents] at distinct fresh ⊢
      obtain ⟨distinctValue, distinctRest, disjoint⟩ := nodup_split distinct
      have calculation : value.isCalculation = true :=
        straight (.mk name type (some value)) (by simp)
      obtain ⟨_, -, advances, reached⟩ := computes_emit value calculation distinctValue
        headingNext.toWorking (touches.fresh fresh.sub (by simp)) builds
      obtain ⟨headingFourth, touchesWire⟩ := (headingNext.onward advances).join
        (words (.mk name type (some value)) (by simp)) reached connects
      have touchesAll : Touches value.contents.numbers before fourth :=
        (touches.mono.trans advances.touches).trans touchesWire.mono
      obtain ⟨headingLast, touchesRest, declared⟩ := heading_parameters straightRest wordsRest
        distinctRest headingFourth (touchesAll.fresh fresh.sub disjoint) offeredNext run
      refine ⟨headingLast, touchesAll.mono.trans touchesRest.mono,
        declared.results.trans results, ?_⟩
      simpa [Parameter.name] using declared.offered

/-! ### Results -/

/-- A note on a fed back result draws nothing. -/
theorem heading_feedback {result : Result}
    (heading : Heading reading place compound around store before) (run : Yields (do
      match result.feedback with
      | none | some "" => pure ()
      | some port => send (.setPortNote compound result.name "feedbackPort" port)
      rest : Building Memory) before grown after) :
    ∃ noted, Heading reading place compound around store noted ∧ Touches [] before noted ∧
      Yields rest noted grown after := by
  split at run
  · exact ⟨before, heading, .refl _, run⟩
  · exact ⟨before, heading, .refl _, run⟩
  · obtain ⟨_, noted, notes, run⟩ := run.bind
    obtain ⟨headingNoted, touches⟩ := heading.still (keeps_send fun _ => rfl) notes
    exact ⟨noted, headingNoted, touches, run⟩

theorem heading_results : ∀ {results : List Result} {memory : Memory} {before : Construction}
    {names : List String},
    Heading reading place compound around store before →
    Offered memory.results compound.output names →
    Yields (declareResults compound memory results) before grown after →
    Heading reading place compound around store after ∧ Touches [] before after ∧
      grown.bindings = memory.bindings ∧
      Offered grown.results compound.output (names ++ results.map Result.name) ∧
      ∀ result ∈ results, memory.bindings.get? result.name = none
  | [], _, _, _ => by
    intro heading offered run
    obtain ⟨rfl, rfl⟩ := run.pure
    exact ⟨heading, .refl _, rfl, by simpa using offered, by simp⟩
  | result :: _, _, _, _ => by
    intro heading offered run
    obtain ⟨_, _, adds, run⟩ := run.bind
    obtain ⟨_, adds⟩ := Act.yields_discard.mp adds
    obtain ⟨headingFirst, touchesFirst⟩ := heading.still keeps_addInput adds
    obtain ⟨_, _, defines, run⟩ := run.bind
    obtain ⟨known, rfl⟩ := yields_definingResult defines
    unfold Memory.defineResult? at known
    split at known
    case isTrue => cases known
    case isFalse isNew =>
      cases known
      simp only [Bool.or_eq_true, not_or, Memory.isDefined, Bool.not_eq_true] at isNew
      obtain ⟨_, headingSecond, touchesSecond, run⟩ := heading_feedback headingFirst run
      obtain ⟨headingLast, touches, bindings, offeredLast, apart⟩ := heading_results headingSecond
        offered.insert run
      refine ⟨headingLast, (touchesFirst.trans touchesSecond).trans touches, bindings, ?_, ?_⟩
      · simpa using offeredLast
      · intro other member
        rcases mem_cons.mp member with rfl | later
        · rw [get?_eq_none_iff]
          simpa [Table.contains_eq] using isNew.1
        · exact apart other later

end Header

/-! ## Whole compounds -/

variable {results : List Result}

/-- Values that are supplied at the ports inside a compound that its parameters have. -/
def suppliedAt (compound : NodePath) (names : List String) (arguments : String → V)
    (port : NodePath) (value : V) : Prop :=
  ∃ name ∈ names, port = compound.input.port name ∧ value = arguments name

/-- How the graph of a compound is read when values are supplied at its parameters. -/
def readingOf (registry : Overload.Registry) (nodes : Interpretation V) (compound : NodePath)
    (names : List String) (arguments : String → V) (noPort : compound.isPort = false)
    (words : ∀ name ∈ names, Word name) : Reading V where
  registry := registry
  nodes := nodes
  supplied := suppliedAt compound names arguments
  gates := [compound, compound.output]
  unnumbered := by
    rintro port value ⟨name, member, rfl, rfl⟩
    have parent : (compound.input.port name).parent = compound.input :=
      parent_portOf (isPort_input noPort) (words name member)
    rw [parent]
    exact serial_input compound

/-- Exactly the supplied value reaches the port of a parameter. -/
theorem reached_supplied (noPort : compound.isPort = false) (isNode : 0 < compound.serial)
    (words : ∀ name ∈ names, Word name)
    (supplied : reading.supplied = suppliedAt compound names arguments)
    (gates : reading.gates = [compound, compound.output])
    (tidy : construction.diagram.Tidy reading.gates) (member : name ∈ names) :
    Reached reading construction (compound.input.port name) (arguments name) := by
  have parent : (compound.input.port name).parent = compound.input :=
    parent_portOf (isPort_input noPort) (words name member)
  have noGate : compound.input ∉ reading.gates := by
    rw [gates, mem_pair]
    rintro (same | same)
    · have zero := serial_input compound
      rw [same] at zero
      exact absurd zero (Nat.pos_iff_ne_zero.mp isNode)
    · exact input_ne_output compound same
  refine ⟨⟨?_, ?_⟩, fun _ => ⟨fun carries => ?_, ?_⟩⟩
  · rw [parent, serial_input]
    exact Nat.zero_le _
  · rw [parent]
    exact noGate
  · cases carries with
    | supplied given =>
      rw [supplied] at given
      obtain ⟨known, memberToo, same, rfl⟩ := given
      rw [port_inj (isPort_input noPort) (words name member) (words known memberToo) same]
    | wire wired =>
      rcases tidy.targets _ _ wired with gate | numbered
      · rw [parent] at gate
        exact (noGate gate).elim
      · rw [parent, serial_input] at numbered
        exact absurd numbered.1 (Nat.lt_irrefl 0)
    | node _ _ known =>
      have numbered := (tidy.nodes _ _ known).1
      rw [parent, serial_input] at numbered
      exact absurd numbered (Nat.lt_irrefl 0)
  · rintro rfl
    refine .supplied ?_
    rw [supplied]
    exact ⟨name, member, rfl, rfl⟩

/-- A construction at the root of a graph in which nothing is built yet. -/
structure Blank (registry : Overload.Registry) (root : String)
    (construction : Construction) : Prop where
  diagram : construction.diagram = {}
  counted : construction.Counted
  registry : construction.registry = registry
  contexts : construction.contexts = [.path ⟨root⟩]
  memories : construction.memories = [{}]
  built : construction.built = ∅
  done : construction.done = ∅

theorem blank_start (registry : Overload.Registry) (host : Host) (root : String) :
    Blank registry root (.start registry host root) :=
  ⟨rfl, rfl, rfl, rfl, rfl, rfl, rfl⟩

/-- A new compound in an empty graph, before its header is built. -/
theorem heading_start (blank : Blank reading.registry root before) (plain : '.' ∉ root.toList)
    (tame : Diagram.Tame kind) (gates : reading.gates = [compound, compound.output])
    (made : compound = before.diagram.next ⟨root⟩ kind)
    (drawn : Drawn before after (before.diagram.add ⟨root⟩ kind)) :
    Heading reading ⟨root⟩ compound {} (fun _ => none) after := by
  rw [blank.diagram] at made drawn
  have noPort : (NodePath.mk root).isPort = false := by
    simpa [NodePath.isPort] using plain
  have serial : compound.serial = 1 := by
    rw [made]
    exact serial_child ⟨root⟩ 1 tame.stops
  have diagram : after.diagram = { nodes := [(compound, kind)] } := by
    rw [drawn.drawn, made]
    rfl
  refine ⟨⟨?_, drawn.counted, drawn.registry.trans blank.registry, noPort, ?_, ?_, ?_⟩, ?_, ?_, ?_,
    ?_, ?_, ?_⟩
  · rw [diagram, gates]
    refine ⟨?_, ?_, ?_, ?_, ?_⟩
    · intro _ member
      rcases mem_pair.mp member with rfl | rfl
      · exact Nat.le_of_eq serial
      · rw [serial_output]
        exact Nat.zero_le _
    · intro _ _ member
      cases mem_singleton.mp member
      rw [serial]
      exact ⟨Nat.one_pos, Nat.le_refl 1⟩
    · exact (by simp)
    · exact (by simp)
    · exact (by simp)
  · rw [drawn.contexts, blank.contexts]
    rfl
  · rw [drawn.memories, blank.memories]
    rfl
  · intro _ _ found
    cases found
  · rw [gates]
    exact mem_cons_self ..
  · rw [gates]
    exact mem_cons_of_mem _ (mem_singleton_self _)
  · rw [serial]
    decide
  · rw [made]
    exact isPort_child noPort (noDot_number tame.noDot _)
  · exact ⟨⟨root⟩, _, made⟩
  · intro _ _ _ member
    rw [diagram] at member
    exact not_mem_nil member

/-- The code of a compound begins with the parameters as its variables. -/
theorem running_start (words : ∀ name ∈ names, Word name)
    (supplied : reading.supplied = suppliedAt compound names arguments)
    (gates : reading.gates = [compound, compound.output])
    (heading : Heading reading place compound around store before)
    (inputs : Offered memory.bindings compound.input names)
    (outputs : Offered memory.results compound.output (results.map Result.name))
    (outletWords : ∀ result ∈ results, Word result.name)
    (apart : ∀ result ∈ results, memory.bindings.get? result.name = none) :
    Running reading compound (results.map Result.name) memory (.of names arguments)
      { before with
        contexts := .path compound :: before.contexts
        memories := memory :: before.memories } := by
  refine ⟨⟨heading.tidy, heading.counted, heading.registry, heading.noPort, rfl, rfl, ?_⟩, ?_,
    ?_, ?_⟩
  · intro name cell found
    obtain ⟨member, isPort⟩ := inputs.get? found
    exact ⟨_, arguments name, isPort, if_pos member,
      reached_supplied heading.noPort heading.isNode words supplied gates heading.tidy member⟩
  · intro name member
    obtain ⟨result, inside, rfl⟩ := mem_map.mp member
    exact apart result inside
  · intro name _ found
    obtain ⟨member, isPort⟩ := outputs.get? found
    obtain ⟨result, inside, rfl⟩ := mem_map.mp member
    refine ⟨member, isPort, ?_, ?_⟩
    · -- a parameter is a variable, and a result is none
      refine if_neg fun isParameter => ?_
      have held := inputs result.name
      rw [apart result inside, if_pos isParameter] at held
      cases held
    · rintro ⟨source, wired⟩
      refine heading.unwired source _ ?_ wired
      exact parent_portOf (isPort_output heading.noPort) (outletWords result inside)
  · intro name member gone
    have held := outputs name
    rw [gone, if_pos member] at held
    cases held

/-- What reaches the results of a compound is what its code gives them. -/
theorem Running.carries {results : List String} (outlet : Outlet reading compound results)
    (running : Running reading compound results memory store construction)
    (member : name ∈ results) :
    Carries reading.nodes reading.supplied construction.diagram (compound.output.port name) value ↔
      store name = some value := by
  cases known : memory.results.get? name with
  | none =>
    obtain ⟨_, stored, _, only, reached⟩ := running.settled name member known
    rw [carries_target only (outlet.unsupplied name member), reached.holds value, stored,
      Option.some_inj]
    exact eq_comm
  | some cell =>
    obtain ⟨-, -, unknown, unwired⟩ := running.waiting name cell known
    refine iff_of_false (not_carries unwired ?_ (outlet.unsupplied name member)) (by simp [unknown])
    intro _ known
    have numbered := (running.tidy.nodes _ _ known).1
    rw [outlet.parent member, serial_output] at numbered
    exact absurd numbered (Nat.lt_irrefl 0)

theorem yields_leave (run : Yields leave before context after) :
    after.diagram = before.diagram ∧ after.Counted = before.Counted := by
  replace run := run.afterGet
  split at run
  · exact run.throw
  · obtain ⟨_, drops, -⟩ := run.mapped
    rw [← yields_modify.mp drops]
    exact ⟨rfl, rfl⟩

theorem diagram_setTerminal (run : Yields (setTerminal node flags) before finished after) :
    after.diagram = before.diagram := by
  unfold setTerminal at run
  rw [Act.yields_ite] at run
  split at run
  · obtain ⟨-, rfl⟩ := run.pure
    rfl
  · rw [← yields_modify.mp run]
    rfl

/-- Leaving and naming a compound draws nothing. -/
theorem diagram_finish (noPort : compound.isPort = false) (counted : before.Counted)
    (run : Yields (do
      discard leave
      let renamed ← rename compound label
      setTerminal compound flags
      return renamed : Building NodePath) before path after) :
    path = compound ∧ after.diagram = before.diagram := by
  obtain ⟨_, _, leaves, run⟩ := run.bind
  obtain ⟨_, leaves⟩ := Act.yields_discard.mp leaves
  obtain ⟨same, countedToo⟩ := yields_leave leaves
  obtain ⟨_, _, renames, run⟩ := run.bind
  obtain rfl := yields_rename noPort renames
  have drawn := Drawn.of_keeps (countedToo ▸ counted) keeps_rename renames
  obtain ⟨_, flags, rfl⟩ := run.mapped
  exact ⟨rfl, (diagram_setTerminal flags).trans (drawn.drawn.trans same)⟩

/-- The results of a compound have ports that are not supplied from outside. -/
theorem outlet_of_words (noPort : compound.isPort = false)
    (supplied : reading.supplied = suppliedAt compound names arguments)
    (gate : compound.output ∈ reading.gates) (inputWords : ∀ name ∈ names, Word name)
    (outputWords : ∀ result ∈ results, Word result.name) :
    Outlet reading compound (results.map Result.name) := by
  have words : ∀ name ∈ results.map Result.name, Word name := forall_mem_map.mpr outputWords
  refine ⟨noPort, gate, words, ?_⟩
  intro name member _ given
  rw [supplied] at given
  obtain ⟨other, inside, same, -⟩ := given
  have output : (compound.output.port name).parent = compound.output :=
    parent_portOf (isPort_output noPort) (words name member)
  have input : (compound.input.port other).parent = compound.input :=
    parent_portOf (isPort_input noPort) (inputWords other inside)
  rw [same, input] at output
  exact input_ne_output compound output

/-- What reaches the results of a straight-line compound when its header and code are built. -/
theorem Heading.carries (straight : Straight parameters code)
    (headed : WellHeaded parameters results code)
    (distinct : (parametersContents parameters ++ statementsContents code).numbers.Nodup)
    (supplied : reading.supplied = suppliedAt compound (parameters.map Parameter.name) arguments)
    (gates : reading.gates = [compound, compound.output])
    (heading : Heading reading place compound around store before)
    (fresh : Fresh (parametersContents parameters ++ statementsContents code).numbers before)
    (run : Yields (do
      let memory ← emitParameters compound {} parameters
      let memory ← declareResults compound memory results
      enter compound memory
      emitStatements code
      discard leave
      let renamed ← rename compound label
      setTerminal compound flags
      return renamed : Building NodePath) before path after) :
    path = compound ∧ ∃ final,
      runAll reading.operators (.of (parameters.map Parameter.name) arguments) code = some final ∧
      ∀ result ∈ results, ∀ value,
        Carries reading.nodes reading.supplied after.diagram (compound.output.port result.name)
          value ↔ final result.name = some value := by
  have words : ∀ name ∈ parameters.map Parameter.name, Word name :=
    forall_mem_map.mpr headed.inputWords
  obtain ⟨distinctHeader, distinctCode, disjoint⟩ := nodup_split distinct
  obtain ⟨memory, _, declares, run⟩ := run.bind
  have nothing : Offered ({} : Memory).bindings compound.input [] := fun _ => rfl
  obtain ⟨headingSecond, touches, declared⟩ := heading_parameters straight.parameters
    headed.inputWords distinctHeader heading fresh.sub nothing declares
  obtain ⟨grown, third, opens, run⟩ := run.bind
  have noResults : Offered memory.results compound.output [] := by
    rw [declared.results]
    exact fun _ => rfl
  obtain ⟨headingThird, touchesToo, bindings, offered, unbound⟩ :=
    heading_results headingSecond noResults opens
  have inputs : Offered grown.bindings compound.input (parameters.map Parameter.name) := by
    rw [bindings]
    exact declared.offered
  have unboundToo : ∀ result ∈ results, grown.bindings.get? result.name = none := by
    rw [bindings]
    exact unbound
  have outlet : Outlet reading compound (results.map Result.name) :=
    outlet_of_words headingThird.noPort supplied headingThird.outlet words headed.outputWords
  have running := running_start words supplied gates headingThird inputs offered headed.outputWords
    unboundToo
  have freshCode : Fresh (statementsContents code).numbers third :=
    touchesToo.fresh (touches.fresh fresh.sub disjoint) (by simp)
  obtain ⟨_, _, enters, run⟩ := run.bind
  obtain rfl := yields_modify.mp enters
  obtain ⟨_, _, emits, run⟩ := run.bind
  obtain ⟨_, final, ran, runningLast⟩ := running_statements outlet straight.code headed.apart
    distinctCode running freshCode emits
  obtain ⟨rfl, same⟩ := diagram_finish headingThird.noPort runningLast.counted run
  refine ⟨rfl, final, ran, fun _ member _ => ?_⟩
  rw [same]
  exact runningLast.carries outlet (mem_map_of_mem member)

/-- What reaches the results of a straight-line compound, and nothing else, is what the code of the
compound gives them when it is run. -/
theorem carries_result {id : Nat} (straight : Straight parameters code)
    (headed : WellHeaded parameters results code)
    (distinct : (Term.contents
    (.mk id (.scope name parameters results code terminals))).numbers.Nodup)
    (plain : '.' ∉ root.toList)
    (run : Yields (emit (.mk id (.scope name parameters results code terminals)))
      (.start registry host root) path done) (nodes : Interpretation V) (arguments : String → V) :
    ∃ final,
      runAll (operatorsOf registry nodes) (.of (parameters.map Parameter.name) arguments) code =
        some final ∧
      ∀ result ∈ results, ∀ value,
        Carries nodes (suppliedAt path (parameters.map Parameter.name) arguments) done.diagram
          (path.output.port result.name) value ↔ final result.name = some value := by
  have words : ∀ name ∈ parameters.map Parameter.name, Word name :=
    forall_mem_map.mpr headed.inputWords
  have rootPlain : (NodePath.mk root).isPort = false := by
    simpa [NodePath.isPort] using plain
  rw [numbers_mk, Form.contents] at distinct
  have distinctParts : (parametersContents parameters ++ statementsContents code).numbers.Nodup :=
    (nodup_append.mp distinct).1
  -- nothing of the start matters beyond its being blank
  have blank := blank_start registry host root
  generalize Construction.start registry host root = before at run blank
  obtain ⟨_, builds, rfl⟩ := yields_once (by simp [blank.built]) run
  obtain ⟨compound, first, creates, builds⟩ := builds.bind
  obtain ⟨made, drawn⟩ := drawn_createCompoundOf blank.counted blank.contexts (by decide) creates
  have noPort : compound.isPort = false := by
    rw [made]
    exact isPort_child rootPlain (noDot_number tame_compound.noDot _)
  have heading : Heading (readingOf registry nodes compound (parameters.map Parameter.name)
      arguments noPort words) ⟨root⟩ compound {} (fun _ => none) first :=
    heading_start blank plain tame_compound rfl made drawn
  have isNew : Fresh (parametersContents parameters ++ statementsContents code).numbers first := by
    intro _ _
    rw [drawn.built, drawn.done, blank.built, blank.done]
    simp
  obtain ⟨rfl, final, ran, carries⟩ := heading.carries straight headed distinctParts rfl
    rfl isNew builds
  exact ⟨final, ran, carries⟩

end GraphScript.Emission
