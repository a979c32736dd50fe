import GraphScript.Proofs.Graph.Drawing
import GraphScript.Proofs.Typing.Numbers

/-!
# Drawing single nodes

What the actions that create, name and connect nodes need and give.  A node is created in the
innermost compound, or in one that is given; its path follows from its kind and the number of nodes
so far.
-/

namespace GraphScript.Graph

open List

variable {place node : NodePath} {name kind : String} {tools : Tools} {stock : Stock}

/-! ## Paths -/

theorem mem_of_mem_trimWhere (member : letter ∈ Text.trimWhere drops letters) :
    letter ∈ letters := by
  have inside := (dropWhile_suffix _).subset (mem_reverse.mp member)
  exact (dropWhile_suffix _).subset (mem_reverse.mp inside)

theorem mem_text_rooted (member : letter ∈ (NodePath.rooted text).text.toList) :
    letter = '/' ∨ letter ∈ text.toList := by
  simp only [NodePath.rooted, Text.trimChar, String.toList_append, mem_append,
    String.toList_ofList] at member
  rcases member with slash | inside
  · exact .inl (mem_singleton.mp slash)
  · exact .inr (mem_of_mem_trimWhere inside)

/-- A node of a compound has no dot in its path when its name has none. -/
theorem isPort_child (plain : place.isPort = false) (noDot : '.' ∉ name.toList) :
    (place.child name).isPort = false := by
  simp only [NodePath.isPort, contains_eq_mem, decide_eq_false_iff_not] at plain ⊢
  intro member
  rcases mem_text_rooted member with slash | inside
  · exact absurd slash (by decide)
  · simp only [String.toList_append, mem_append] at inside
    rcases inside with (inPlace | slash) | inName
    · exact plain inPlace
    · exact absurd slash (by decide)
    · exact noDot inName

theorem isPort_input (plain : place.isPort = false) : place.input.isPort = false := by
  exact isPort_child plain (by decide)

theorem isPort_output (plain : place.isPort = false) : place.output.isPort = false := by
  exact isPort_child plain (by decide)

theorem text_rooted_ne (text : String) : (NodePath.rooted text).text ≠ "" := by
  intro empty
  have letters := congrArg String.toList empty
  simp [NodePath.rooted] at letters

theorem noDot_number (noDot : '.' ∉ name.toList) (number : Nat) :
    '.' ∉ (s!"{name}{number}").toList := by
  have same : (s!"{name}{number}").toList = name.toList ++ Nat.toDigits 10 number := by
    simp [toString, Nat.repr]
  rw [same, mem_append, not_or]
  refine ⟨noDot, fun member => ?_⟩
  have digit := Nat.isDigit_of_mem_toDigits (by decide) (by decide) member
  exact absurd digit (by decide)

/-! ## Reading the state -/

section Reading

theorem draws_currentContext :
    Draws tools stage stock currentContext True stage (· = stage.place) noGift := by
  refine .get fun _ standing => ?_
  rw [standing.contexts]
  exact .pure (by simp) rfl

theorem draws_sendConnect (hasSource : stock.Has place source)
    (hasTarget : stock.Has place target) :
    DrawsHere tools stage stock (send (.connect source target)) True := by
  intro _ standing
  refine .modify ⟨grows_push, trivial, standing.push rfl ?_⟩
  rintro _ _ ⟨⟩
  exact ⟨place, source, target, rfl, rfl, standing.located hasSource, standing.located hasTarget⟩

theorem Host.refuses_path {host : Host} (willing : host.refusedTargets = []) (target : NodePath) :
    host.refuses (.path target) = false := by
  simp [Host.refuses, Datum.letters?, willing]

/-- Connects two ports in one compound. -/
theorem draws_connect (place : NodePath) {target : NodePath}
    (has : stock.Has place source ∧ stock.Has place target) :
    DrawsHere tools stage stock (connect source target) True := by
  refine .andThen (.send rfl) fun _ _ => ?_
  refine .andThen (draws_sendConnect has.1 has.2) fun _ _ => ?_
  refine .get fun _ standing => ?_
  refine .owed (.ite (fun _ => .stop) fun _ => .send rfl) fun willing => ?_
  rw [standing.host, Host.refuses_path willing.host]
  simp

theorem Draws.connect {next : Stage} (place : NodePath)
    (has : stock.Has place source ∧ stock.Has place target)
    (rest : Draws tools stage stock (then' ()) due next fact gives) :
    Draws tools stage stock (connect source target >>= then') due next fact gives :=
  .andThen (draws_connect place has) fun _ _ => rest

end Reading

/-! ## Creating nodes -/

/-- The full kind of the nodes that are made of a kind. -/
def fullKind (registry : Overload.Registry) (kind : String) : String :=
  if kind.toList.contains ',' then kind
  else match registry.fullName? kind with
    | some full =>
      let library := Text.beforeLast "::" full
      let name := Text.afterLast "::" full
      s!"BifrostGraph,{library},{name}"
    | none => ""

/-- A node that was made of a kind in a compound: the node of its inputs or outputs, or one with a
number. -/
def NodeOf (tools : Tools) (kind : String) (place node : NodePath) : Prop :=
  if kind = "_input" then node = place.input
  else if kind = "_output" then node = place.output
  else
    let name := Text.afterLast "," (fullKind tools.registry kind)
    ∃ number : Nat, node = place.child s!"{name}{number}"

theorem draws_nodeKind :
    Draws tools stage stock (nodeKind kind)
      (kind.toList.contains ',' ∨ knowsOperator tools.registry kind) stage
      (· = fullKind tools.registry kind) noGift := by
  unfold nodeKind
  by_cases hasComma : kind.toList.contains ','
  · rw [if_pos hasComma]
    refine .congr (.pure (by simp) ?_) (iff_of_true trivial (.inl hasComma))
    rw [fullKind, if_pos hasComma]
  · rw [if_neg hasComma]
    refine .get fun _ standing => ?_
    rw [standing.registry, fullKind, if_neg hasComma, knowsOperator]
    rcases found : tools.registry.fullName? kind with _ | full
    · exact .congr .throw (by simpa using hasComma)
    · by_cases empty : full = ""
      · subst empty
        exact .congr .throw (by simpa using hasComma)
      · simp only
        exact .congr (.pure (by simp) rfl) (by simp)

theorem draws_addNode :
    Draws tools stage stock (addNode place kind) True stage
      (fun node =>
        let name := Text.afterLast "," kind
        ∃ number : Nat, node = place.child s!"{name}{number}")
      (pathIn place) := by
  intro construction standing
  refine .andThen (.modifies _) fun _ _ _ same => ?_
  subst same
  refine .andThen (.modifies _) fun _ _ _ same => ?_
  subst same
  refine .get (.pure ?_)
  have grown : construction.commands.toList <+:
      (construction.commands.push (.addNode place kind)).toList := by
    simp
  refine ⟨⟨grown, rfl, rfl, rfl⟩, ⟨_, rfl⟩,
    { standing with frames := ?_, count := ?_, joined := ?_, stock := ?_ }⟩
  · exact standing.framesMono grown fun _ _ found => found
  · simp only [Array.toList_push, addedBy_push, Command.addsNode, if_true]
    rw [standing.count]
  · simp only [Array.toList_push]
    exact standing.joined.push (by simp)
  · refine forall_mem_append.mpr ⟨forall_mem_singleton.mpr ?_, fun entry old =>
      (standing.stock entry old).mono grown⟩
    simp only [Array.toList_push, standing.count]
    exact CreatedIn.located (.last ⟨rfl, rfl⟩)

theorem draws_addPortsNode {isInput : Bool} :
    Draws tools stage stock (addPortsNode place isInput) True stage
      (· = place.child (if isInput then "input" else "output")) (pathIn place) := by
  intro construction standing
  refine .andThen (.modifies _) fun _ _ _ same => ?_
  subst same
  have pushed : Standing tools stage stock
      { construction with commands := construction.commands.push (.addPortsNode place isInput) } :=
    standing.push rfl (by simp)
  refine .pure ⟨grows_push, rfl, { pushed with stock := ?_ }⟩
  refine forall_mem_append.mpr ⟨forall_mem_singleton.mpr ?_, pushed.stock⟩
  simp only [Array.toList_push]
  exact CreatedIn.located (.last ⟨rfl, rfl⟩)

theorem draws_setLabel {node : Datum} : DrawsHere tools stage stock (setLabel node label) True :=
  .send rfl

theorem draws_rename {newName : Datum} (plain : node.isPort = false) :
    Draws tools stage stock (rename node newName) True stage (· = node) noGift := by
  unfold rename
  split
  · exact .pure (by simp) rfl
  · simp only [plain, Bool.false_eq_true, if_false]
    exact .andThen draws_setLabel fun _ _ => .pure (by simp) rfl

/-- A name that is given as a text only labels a node. -/
theorem draws_nameNode {text : String} (plain : node.isPort = false) :
    Draws tools stage stock (nameNode node (.text text)) True stage (· = node) noGift := by
  unfold nameNode
  split
  · simp only [Datum.holds, Act.ok_bind]
    split
    · exact .andThen draws_setLabel fun _ _ => .pure (by simp) rfl
    · exact draws_rename plain
  · exact .pure (by simp) rfl

/-- The compound that a new node goes to. -/
def Stage.placeOf (stage : Stage) (context : Datum) : NodePath :=
  if context.isGiven then ⟨context.shown⟩ else stage.place

theorem draws_placeFor (context : Datum) :
    Draws tools stage stock (placeFor context) True stage (· = stage.placeOf context) noGift := by
  unfold placeFor Stage.placeOf
  split
  · exact .pure (by simp) rfl
  · exact draws_currentContext

@[simp] theorem Stage.placeOf_nothing : Stage.placeOf stage .nothing = stage.place := rfl

theorem Stage.placeOf_child (stage : Stage) (place : NodePath) (name : String) :
    stage.placeOf (.path (place.child name)) = place.child name := by
  have given : (Datum.path (place.child name)).isGiven = true := by
    simpa [Datum.isGiven, NodePath.child] using text_rooted_ne (place.text ++ "/" ++ name)
  rfl

/-- A new node goes to the compound that is given for it, and keeps the path that it was made with
if naming it does. -/
theorem draws_createNamedNode {name : Datum}
    (naming : ∀ node stock, NodeOf tools kind (stage.placeOf context) node →
      Draws tools stage stock (nameNode node name) True stage (· = node) noGift) :
    Draws tools stage stock (createNamedNode kind name context)
      (makesKind tools.registry kind) stage
      (NodeOf tools kind (stage.placeOf context)) (pathIn (stage.placeOf context)) := by
  -- the last step, once the node is in the stock
  have named : ∀ node stock, NodeOf tools kind (stage.placeOf context) node →
      Draws tools stage (pathIn (stage.placeOf context) node ++ stock)
        (nameNode node name) True stage
        (NodeOf tools kind (stage.placeOf context)) (pathIn (stage.placeOf context)) := by
    intro node _ made construction standing
    refine (naming node _ made construction standing).imp fun _ _ left => ?_
    obtain ⟨grows, rfl, standingAfter⟩ := left
    exact ⟨grows, made, standingAfter.sub (by simp)⟩
  refine .andThen (draws_placeFor context) fun _ same => ?_
  subst same
  by_cases isInput : kind = "_input"
  · subst isInput
    exact .congr (.andThen draws_addPortsNode fun node same => named node _ same)
      (by simp [makesKind])
  · by_cases isOutput : kind = "_output"
    · subst isOutput
      exact .congr (.andThen draws_addPortsNode fun node same => named node _ same)
        (by simp [makesKind])
    · simp only [beq_iff_eq, isInput, isOutput, if_false]
      refine .congr (.followed draws_nodeKind fun _ same => ?_) ?_
      · subst same
        refine .andThen draws_addNode fun node made => named node _ ?_
        simpa only [NodeOf, isInput, isOutput, if_false] using made
      · simp [makesKind, isInput, isOutput]

/-- A node without a name. -/
theorem draws_createIn (kind : String) (context : Datum) :
    Draws tools stage stock (createNamedNode kind .nothing context)
      (makesKind tools.registry kind) stage
      (NodeOf tools kind (stage.placeOf context)) (pathIn (stage.placeOf context)) :=
  draws_createNamedNode fun _ _ _ => .pure (by simp) rfl

/-- A node without a name, in the innermost compound. -/
theorem draws_createNode (kind : String) :
    Draws tools stage stock (createNode kind) (makesKind tools.registry kind) stage
      (NodeOf tools kind stage.place) (pathIn stage.place) :=
  draws_createIn kind .nothing

theorem makesKind_of_own (willing : tools.Willing) (own : kind ∈ ownOperators) :
    makesKind tools.registry kind := by
  simp [makesKind, willing.stocked kind own]

/-- A node of one of the operators that are used without being called. -/
theorem draws_createOwn (own : kind ∈ ownOperators) :
    Draws tools stage stock (createNode kind) True stage (NodeOf tools kind stage.place)
      (pathIn stage.place) :=
  (draws_createNode kind).owed fun willing => makesKind_of_own willing own

/-! ## Creating compounds -/

/-- A full kind whose name has no dot. -/
structure PlainKind (kind : String) : Prop where
  comma : kind.toList.contains ','
  noDot : '.' ∉ (Text.afterLast "," kind).toList

instance (kind : String) : Decidable (PlainKind kind) :=
  decidable_of_iff (kind.toList.contains ',' ∧ '.' ∉ (Text.afterLast "," kind).toList)
    ⟨fun both => ⟨both.1, both.2⟩, fun plain => ⟨plain.comma, plain.noDot⟩⟩

theorem PlainKind.isPort (plainKind : PlainKind kind) (plain : place.isPort = false)
    (made : NodeOf tools kind place node) : node.isPort = false := by
  have isInput : kind ≠ "_input" := by
    rintro rfl
    exact absurd plainKind.comma (by decide)
  have isOutput : kind ≠ "_output" := by
    rintro rfl
    exact absurd plainKind.comma (by decide)
  simp only [NodeOf, isInput, isOutput, if_false, fullKind, plainKind.comma, if_true] at made
  obtain ⟨number, rfl⟩ := made
  exact isPort_child plain (noDot_number plainKind.noDot number)

/-- What is known of a new compound. -/
structure CompoundIn (place node : NodePath) : Prop where
  plain : node.isPort = false
  child : ∃ name, node = place.child name

theorem CompoundIn.placeOf (compound : CompoundIn place node) (stage : Stage) :
    stage.placeOf (.path node) = node := by
  obtain ⟨name, rfl⟩ := compound.child
  exact stage.placeOf_child place name

/-- The paths that a new compound brings. -/
abbrev compoundStock (place : NodePath) : NodePath → Stock :=
  fun node => [(node, node.output), (node, node.input), (place, node)]

/-- A new node goes into a compound. -/
theorem draws_createInside {name : Datum} (compound : CompoundIn place node)
    (makes : tools.Willing → makesKind tools.registry kind)
    (naming : ∀ other stock, NodeOf tools kind node other →
      Draws tools stage stock (nameNode other name) True stage (· = other) noGift) :
    Draws tools stage stock (createNamedNode kind name node) True stage (NodeOf tools kind node)
      (pathIn node) := by
  rw [← compound.placeOf stage] at naming
  have created : Draws tools stage stock (createNamedNode kind name node) True stage _ _ :=
    (draws_createNamedNode naming).owed makes
  rwa [compound.placeOf stage] at created

/-- The node of the inputs or of the outputs of a compound. -/
theorem draws_createPortsNodes {label : String} (compound : CompoundIn place node)
    (only : ∀ other, NodeOf tools kind node other → other = node.child name)
    (noDot : '.' ∉ name.toList) (makes : makesKind tools.registry kind) :
    Draws tools stage stock (createPortsNodes kind node [.text label]) True stage noFact
      fun _ => [(node, node.child name)] := by
  have created : Draws tools stage stock (createNamedNode kind (.text label) node) True stage _ _ :=
    draws_createInside compound (fun _ => makes) fun other _ made => draws_nameNode <| by
      rw [only other made]
      exact isPort_child compound.plain noDot
  have kept : ∀ other, NodeOf tools kind node other →
    [(node, node.child name)] ⊆ pathIn node other := by
    intro other made
    rw [only other made]
    exact List.Subset.refl _
  refine .followed (created.discarding kept) fun _ _ => .give fun _ member => ?_
  exact .of_entry (mem_append_left _ member)

theorem draws_createCompoundOf {name : Datum} (plainKind : PlainKind kind)
    (named : name = .nothing ∨ ∃ text, name = .text text)
    (plain : (stage.placeOf context).isPort = false) :
    Draws tools stage stock (createCompoundOf kind name context ["input"] ["output"]) True stage
      (CompoundIn (stage.placeOf context)) (compoundStock (stage.placeOf context)) := by
  have created : Draws tools stage stock (createNamedNode kind name context) True stage
      (NodeOf tools kind (stage.placeOf context)) (pathIn (stage.placeOf context)) := by
    refine .owed (draws_createNamedNode fun node _ made => ?_) fun _ => by
      simp only [makesKind, plainKind.comma, Bool.or_true, Bool.true_or]
    rcases named with rfl | ⟨_, rfl⟩
    · exact .pure (by simp) rfl
    · exact draws_nameNode (plainKind.isPort plain made)
  refine .andThen created fun node made => ?_
  have compound : CompoundIn (stage.placeOf context) node := by
    refine ⟨plainKind.isPort plain made, ?_⟩
    unfold NodeOf at made
    split at made
    · exact ⟨"input", made⟩
    · split at made
      · exact ⟨"output", made⟩
      · obtain ⟨_, same⟩ := made
        exact ⟨_, same⟩
  refine .andThen (draws_createPortsNodes compound (fun _ made => made) (by decide) rfl)
    fun _ _ => ?_
  refine .andThen (draws_createPortsNodes compound (fun _ made => made) (by decide) rfl)
    fun _ _ => ?_
  refine .pure ?_ compound
  intro _ member
  exact .of_entry (mem_append_left stock member)

theorem draws_createCompound {name : Datum} (named : name = .nothing ∨ ∃ text, name = .text text)
    (plain : (stage.placeOf context).isPort = false) :
    Draws tools stage stock (createCompound name context) True stage
      (CompoundIn (stage.placeOf context)) (compoundStock (stage.placeOf context)) :=
  draws_createCompoundOf (by decide) named plain

/-! ## Entering and leaving -/

/-- The values of the variables are ports in stock. -/
def Stock.Holds (stock : Stock) (place : NodePath) (memory : Memory) : Prop :=
  ∀ entry ∈ memory.bindings.entries ++ memory.results.entries,
    ∃ path, entry.2.value = .path path ∧ stock.Has place path

section Entering

theorem draws_enter (plain : place.isPort = false) (holds : stock.Holds place memory) :
    Draws tools stage stock (enter (.path place) memory) True (stage.enter place memory.names)
      noFact noGift := by
  intro _ standing
  refine .modify ⟨⟨prefix_rfl, rfl, rfl, rfl⟩, trivial, { standing with
    contexts := ?_, frames := ?_ }⟩
  · simp only [standing.contexts, Stage.frames, Stage.enter, map_cons]
  · refine .cons ⟨plain, rfl, ?_, forall_mem_nil _⟩ standing.frames
    intro entry inside
    obtain ⟨path, same, has⟩ := holds entry inside
    exact ⟨path, same, standing.located has⟩

theorem draws_leave {inner : Frame} :
    Draws tools ⟨inner, stage.frames⟩ stock leave True stage noFact noGift := by
  intro _ standing
  refine .get ?_
  have contexts := standing.contexts
  simp only [contexts]
  refine .andThen (.modifies _) fun _ _ _ same => ?_
  subst same
  refine .pure ⟨⟨prefix_rfl, rfl, rfl, rfl⟩, trivial, { standing with
    contexts := ?_, frames := ?_ }⟩
  · rw [contexts]
    rfl
  · obtain ⟨_, _, -, frames, same⟩ := forall₂_cons_left_iff.mp standing.frames
    rw [same]
    exact frames

end Entering

/-! ## Ports and flags -/

section Ports

/-- Whether a type name can be that of a port. -/
def namesPort (type : String) : Bool := (portTypeName type).isOk

theorem namesPort_iff : namesPort type ↔ ∃ full, portTypeName type = .ok full := by
  unfold namesPort
  cases portTypeName type <;> simp [Except.isOk, Except.toBool]

/-- Whether a name has a small letter, and neither brackets nor the end of an array.  Such a name
stands for itself. -/
def plainName (name : String) : Bool :=
  Typing.hasSmallLetter name && name.toList.all fun letter => letter != '[' &&
    letter != ']' && letter != '>'

theorem trimWhere_eq_self {letters : List Char} (kept : ∀ letter ∈ letters, drops letter = false) :
    Text.trimWhere drops letters = letters := by
  have front : letters.dropWhile drops = letters := by
    cases letters with
    | nil => rfl
    | cons first => simp [kept first (mem_cons_self ..)]
  have back : letters.reverse.dropWhile drops = letters.reverse := by
    cases reversed : letters.reverse with
    | nil => rfl
    | cons last =>
      have member : last ∈ letters := by
        rw [← mem_reverse, reversed]
        exact mem_cons_self ..
      simp [kept last member]
  rw [Text.trimWhere, front, back, reverse_reverse]

theorem portTypeName_plainName (plain : plainName type) : portTypeName type = .ok type := by
  rw [plainName, Bool.and_eq_true, all_eq_true] at plain
  have letters : ∀ letter ∈ type.toList, letter ≠ '[' ∧ letter ≠ ']' ∧ letter ≠ '>' := by
    intro letter member
    simpa [and_assoc] using plain.2 letter member
  have noOpen : Text.occurrences '[' type = 0 :=
    count_eq_zero.mpr fun member => (letters _ member).1 rfl
  have noEnd : Text.occurrences '>' type = 0 :=
    count_eq_zero.mpr fun member => (letters _ member).2.2 rfl
  have base : withoutBrackets type = type := by
    rw [withoutBrackets, trimWhere_eq_self, String.ofList_toList]
    intro letter member
    simp [isBracket, letters letter member]
  simp [portTypeName, noOpen, base, Typing.expand?_small plain.1, Text.repeated, noEnd]

theorem namesPort_plain (plain : plainName type) : namesPort type :=
  namesPort_iff.mpr ⟨type, portTypeName_plainName plain⟩

theorem draws_sendTyped {command : String → Command} (plain : ∀ full, (command full).isPlain) :
    DrawsHere tools stage stock (do send (command (← portTypeName type))) (namesPort type) := by
  refine .congr (.look fun full _ => .send (plain full)) ?_
  simp [namesPort_iff]

theorem draws_addInput :
    Draws tools stage stock (addInput node name type) (namesPort type) stage (· = node.port name)
      noGift :=
  .followed (draws_sendTyped fun _ => rfl) fun _ _ => .pure (forall_mem_nil _) rfl

theorem draws_addOutput :
    Draws tools stage stock (addOutput node name type) (namesPort type) stage (· = node.port name)
      noGift :=
  .followed (draws_sendTyped fun _ => rfl) fun _ _ => .pure (forall_mem_nil _) rfl

theorem draws_setPortType {port : Datum} :
    DrawsHere tools stage stock (setPortType node port type) (namesPort type) :=
  draws_sendTyped fun _ => rfl

theorem draws_setDefault {value : Datum} (given : value.isNothing = false) :
    DrawsHere tools stage stock (setDefault target port value) True := by
  unfold setDefault
  split
  · cases given
  · exact .send rfl

theorem draws_setTerminal {flags : List Datum} :
    DrawsHere tools stage stock (setTerminal (.path node) flags) True := by
  unfold setTerminal
  split
  · exact .done
  · intro _ standing
    refine .modify ⟨⟨prefix_rfl, rfl, rfl, rfl⟩, trivial, { standing with terminals := ?_ }⟩
    exact forall_mem_append.mpr ⟨fun entry old => standing.terminals entry (mem_filter.mp old).1,
      forall_mem_singleton.mpr ⟨node, rfl⟩⟩

end Ports

/-! ## Nodes with wires -/

theorem makesKind_of_comma {registry : Overload.Registry} (comma : kind.toList.contains ',') :
    makesKind registry kind := by
  simp only [makesKind, comma, Bool.or_true, Bool.true_or]

theorem draws_wires (hasNode : stock.Has place node) :
    ∀ {wires : List (NodePath × String)}, (∀ wire ∈ wires, stock.Has place wire.1) →
      DrawsHere tools stage stock
        ((wires.map fun wire => (Datum.path wire.1, wire.2)).forM fun (source, port) =>
          connect source (node.port port))
        True
  | [], _ => .done
  | wire :: _, sources => by
    obtain ⟨first, others⟩ := forall_mem_cons.mp sources
    exact .connect _ ⟨first, hasNode.port _⟩ (draws_wires hasNode others)

/-- A node whose inputs come from ports in the innermost compound. -/
theorem draws_wiredNode (kind output : String) (wires : List (NodePath × String))
    (sources : ∀ wire ∈ wires, stock.Has stage.place wire.1) :
    DrawsPath tools stage stock
      (wiredNode kind output (wires.map fun wire => (Datum.path wire.1, wire.2)))
      (makesKind tools.registry kind) := by
  refine .followed (draws_createNode kind) fun _ _ => ?_
  refine .andThen (draws_wires (by simp) fun wire member => (sources wire member).mono (by simp))
    fun _ _ => ?_
  exact .give (by simp)

theorem comma_append {front : String} (comma : front.toList.contains ',') (back : String) :
    (front ++ back).toList.contains ',' := by
  rw [contains_eq_mem, decide_eq_true_eq] at comma ⊢
  rw [String.toList_append]
  exact mem_append_left _ comma

theorem draws_logicNode {second : NodePath} (hasFirst : stock.Has stage.place first)
    (hasSecond : stock.Has stage.place second) :
    DrawsPath tools stage stock (logicNode name first second) True := by
  refine .owed (draws_wiredNode (logicKind name) "output" [(first, "first"), (second, "second")] ?_)
    fun _ => makesKind_of_comma (comma_append (by decide) name)
  simp [hasFirst, hasSecond]

/-- A wired node of an operator that is used without being called. -/
theorem draws_ownNode {output : String} (wires : List (NodePath × String))
    (own : kind ∈ ownOperators) (sources : ∀ wire ∈ wires, stock.Has stage.place wire.1) :
    DrawsPath tools stage stock
      (wiredNode kind output (wires.map fun wire => (Datum.path wire.1, wire.2))) True :=
  (draws_wiredNode kind output wires sources).owed fun willing => makesKind_of_own willing own

theorem draws_negateNode (has : stock.Has stage.place first) :
    DrawsPath tools stage stock (negateNode first) True :=
  draws_ownNode [(first, "value")] (by decide) (by simpa using has)

theorem draws_notNode (has : stock.Has stage.place first) :
    DrawsPath tools stage stock (notNode first) True :=
  draws_ownNode [(first, "value")] (by decide) (by simpa using has)

theorem draws_charNode (has : stock.Has stage.place first) :
    DrawsPath tools stage stock (charNode first) True :=
  draws_ownNode [(first, "from")] (by decide) (by simpa using has)

theorem draws_moduloNode (hasFirst : stock.Has stage.place first)
    (hasSecond : stock.Has stage.place second) :
    DrawsPath tools stage stock (moduloNode first second) True :=
  draws_ownNode [(first, "value"), (second, "divisor")] (by decide) (by simp [hasFirst, hasSecond])

theorem draws_powerNode (hasFirst : stock.Has stage.place first)
    (hasSecond : stock.Has stage.place second) :
    DrawsPath tools stage stock (powerNode first second) True :=
  draws_ownNode [(first, "base"), (second, "exponent")] (by decide) (by simp [hasFirst, hasSecond])

/-! ## Nodes that collect -/

theorem namesPort_longs : namesPort "array<long>" := by decide +kernel

theorem draws_collectInto (hasNode : stock.Has stage.place node) :
    ∀ {sources : List NodePath} {count : Nat}, (∀ source ∈ sources, stock.Has stage.place source) →
      DrawsHere tools stage stock (collectInto node count (sources.map Datum.path)) True
  | [], _, _ => .done
  | source :: _, _, has => by
    obtain ⟨first, others⟩ := forall_mem_cons.mp has
    refine .andThen (draws_addInput.owed fun _ => namesPort_plain (by decide)) fun port same => ?_
    subst same
    exact .connect _ ⟨first, hasNode.port _⟩ (draws_collectInto hasNode others)

/-- A node that collects any number of inputs. -/
theorem draws_collectingNode (sources : List NodePath) (own : kind ∈ ownOperators)
    (has : ∀ source ∈ sources, stock.Has stage.place source) :
    DrawsPath tools stage stock (collectingNode kind (sources.map Datum.path)) True := by
  refine .andThen (draws_createOwn own) fun _ _ => ?_
  refine .andThen (draws_collectInto (by simp) fun source member =>
    (has source member).mono (by simp)) fun _ _ => ?_
  exact .give (by simp)

theorem draws_passTexts {joining : NodePath} (hasCompound : stock.Has place compound)
    (hasInput : stock.Has compound compound.input) (hasJoining : stock.Has compound joining) :
    ∀ {sources : List NodePath} {count : Nat}, (∀ source ∈ sources, stock.Has place source) →
      DrawsHere tools stage stock (passTexts compound joining count (sources.map Datum.path)) True
  | [], _, _ => .done
  | source :: _, _, has => by
    obtain ⟨first, others⟩ := forall_mem_cons.mp has
    refine .andThen (.discard (draws_addOutput.owed fun _ => namesPort_plain (by decide)))
      fun _ _ => ?_
    refine .connect _ ⟨first, hasCompound.port _⟩ ?_
    refine .andThen (draws_addInput.owed fun _ => namesPort_plain (by decide)) fun port same => ?_
    subst same
    refine .connect _ ⟨hasInput.port _, hasJoining.port _⟩ ?_
    exact draws_passTexts hasCompound hasInput hasJoining others

theorem draws_joinTexts (sources : List NodePath)
    (has : ∀ source ∈ sources, stock.Has stage.place source) :
    DrawsPath tools stage stock (joinTexts (sources.map Datum.path)) True := by
  refine .ofPlain fun plain => ?_
  refine .andThen (draws_createCompound (.inr ⟨_, rfl⟩) plain) fun compound made => ?_
  refine .andThen (draws_createInside made (fun willing => makesKind_of_own willing (by decide))
    fun _ _ _ => .pure (by simp) rfl) fun joining _ => ?_
  have hasCompound : Stock.Has (pathIn compound joining ++
      (compoundStock stage.place compound ++ stock)) stage.place compound := by simp
  refine .andThen (draws_passTexts hasCompound (by simp) (by simp) fun source member => ?_)
    fun _ _ => ?_
  · simp [has source member]
  refine .andThen (draws_addInput.owed fun _ => namesPort_plain (by decide)) fun _ same => ?_
  subst same
  refine .connect compound (by simp [*]) ?_
  exact .give (by simp)

/-- A loop, with the nodes of its inputs and outputs. -/
theorem draws_createIterator (found : iteratorKind? name = some kind) (plainKind : PlainKind kind) :
    Draws tools stage stock (createIterator name) True stage (CompoundIn stage.place)
      (compoundStock stage.place) := by
  refine .ofPlain fun plain => ?_
  unfold createIterator
  rw [found, orFault_some, Act.ok_bind]
  exact draws_createCompoundOf plainKind (.inl rfl) plain

theorem draws_createValue {type : Datum} :
    Draws tools stage stock (createNamedValueNode type .nothing context) True stage noFact
      (pathIn (stage.placeOf context)) := by
  have created : Draws tools stage stock (createNamedNode (constantKind "float") .nothing context)
      True stage (NodeOf tools (constantKind "float") (stage.placeOf context))
      (pathIn (stage.placeOf context)) :=
    (draws_createIn _ context).owed fun _ => makesKind_of_comma (by decide)
  refine .andThen created fun _ _ => ?_
  refine .andThen (.send rfl) fun _ _ => ?_
  exact .give (by simp)

end GraphScript.Graph
