import GraphScript.Proofs.Emission.Wiring
import GraphScript.Proofs.Graph.Naming

/-!
# Steps of building terms

How the parts of a term are put together: what is due for a node once its parts are built.  None of
these steps looks into the parts, so each is stated for whatever builds them.
-/

namespace GraphScript.Emission

open List GraphScript.Graph Program
open Act (Passes)
open Syntax (LoopKind)

/-- Paths in a compound. -/
abbrev pathsIn (place : NodePath) : List NodePath → Stock :=
  fun paths => paths.map fun path => (place, path)

theorem has_pathsIn (member : path ∈ paths) : (pathsIn place paths).Has place path :=
  .of_mem (mem_map.mpr ⟨path, member, rfl⟩)

/-- What is said of a form that is not that of a compound. -/
theorem Builds.unscoped {action : Building NodePath} {form : Form}
    (builds : Builds tools stage stock contents action due stage noFact gives)
    (isScope : form.isScope = false := by rfl) :
    Builds tools stage stock contents action due stage (fun path => form.isScope →
      path.isPort = false) gives := by
  refine builds.imp (fun _ _ scope => ?_) fun _ => List.Subset.refl _
  rw [isScope] at scope
  cases scope

variable {given : Except Fault PortType}
variable {names : Names} {next : Stage}

/-! ## Constants -/

section Constants

theorem draws_literal (fits : literal.Fits type) :
    DrawsPath tools stage stock (constantNode (literalDatum literal) type.name .nothing .nothing)
      (Passes (demand (literalFits type literal))) := by
  cases literal with
  | none => exact .congr draws_constantOfNothing passes_demand.symm
  | whole value => exact .congr (draws_constantOfNumber (.whole value)) passes_demand.symm
  | fraction value => exact .congr (draws_constantOfNumber (.fraction value)) passes_demand.symm
  | text =>
    rw [show type.name = "string" from fits]
    exact .congr draws_constantOfText (iff_of_true trivial (passes_demand.mpr rfl))

/-! ## Values that are converted on their way -/

theorem draws_connectComponent {cast : String} {type : PortType}
    (hasPath : stock.Has stage.place path) (hasNode : stock.Has stage.place node) :
    DrawsHere tools stage stock
      (do
        let (path, valueType) ← expanded path (← given)
        let path ← castComponent cast path valueType (← type.baseType)
        connect path (node.port ("value." ++ member)))
      (Passes (do
        let valueType ← carried (← given)
        let base ← type.baseType
        demand (valueType == base ||
          makesKind tools.registry ("Core::Type_Conversion::" ++ cast)))) := by
  simp only [Act.passes_bind, passes_demand]
  refine .look fun _ _ => .checked (draws_expanded hasPath) (fun pair agrees => agrees)
    fun pair _ => ?_
  obtain ⟨_, _⟩ := pair
  refine .look fun _ _ => .followed (draws_castComponent (by simp)) fun _ _ => ?_
  exact draws_connect stage.place (by simp [*])

theorem draws_argument (hasPath : stock.Has stage.place path) :
    DrawsPath tools stage stock
      (do
        let (path, type) ← expanded path (← given)
        castTruth path type wanted)
      (Passes (do truthFits (← carried (← given)) wanted)) := by
  simp only [Act.passes_bind]
  refine .look fun _ _ => .checked (draws_expanded hasPath) (fun pair agrees => agrees)
    fun pair _ => ?_
  obtain ⟨_, _⟩ := pair
  refine (draws_castTruth (by simp)).imp (fun _ _ => trivial) fun _ => List.Subset.refl _

/-- The steps of a check, where the second one needs no result of the first. -/
theorem Builds.both (first : Builds tools stage stock front action (Passes check)
    stage noFact gives)
    (second : ∀ value, Builds tools stage (gives value ++ stock) back (then' value)
      (Passes more) next fact givesNext) :
    Builds tools stage stock (front ++ back) (action >>= then')
      (Passes (check >>= fun _ => more)) next fact givesNext :=
  .congr (.bind first fun value _ => second value) Act.passes_then.symm

end Constants

/-! ## Operators -/

variable {stock : Stock} {contents : Contents}

/-- Only the path of a term is used. -/
theorem Builds.plain
    (builds : Builds tools stage stock contents action due (stage.lending numbers) fact
      (pathIn stage.place)) : BuildsPath tools stage stock contents action due :=
  builds.forget.imp (fun _ _ => trivial) fun _ => List.Subset.refl _

theorem draws_operation (hasLeft : stock.Has stage.place leftPath)
    (hasRight : stock.Has stage.place rightPath) :
    DrawsPath tools stage stock
      (do
        let leftPath ← outputPort leftPath left
        let rightPath ← outputPort rightPath right
        if ["&&", "||", "^"].contains operator then operatorNode operator leftPath rightPath
        else
          let leftPath ← numberOperand leftPath (← left.type)
          let rightPath ← numberOperand rightPath (← right.type)
          operatorNode operator leftPath rightPath)
      (Passes (do
        hasOutput left
        hasOutput right
        if ["&&", "||", "^"].contains operator then return
        discard (isTruthType (← left.type))
        discard (isTruthType (← right.type))
        demand (isOperator operator))) := by
  have logical : ["&&", "||", "^"].contains operator = true → isOperator operator := by
    simp only [contains_eq_mem, decide_eq_true_eq, mem_cons, not_mem_nil, or_false, isOperator]
    tauto
  refine .congr (.bind (draws_outputPort hasLeft) fun _ _ => .bind (draws_outputPort
    (by simp [hasRight])) fun _ _ => .ite (fun isLogical => .congr (draws_operatorNode
      (by simp) (by simp)) (iff_of_true (logical isLogical) trivial)) fun _ => .look fun _ _ =>
        .bind (draws_numberOperand (by simp)) fun _ _ => .look fun _ _ =>
          .bind (draws_numberOperand (by simp)) fun _ _ =>
            draws_operatorNode (by simp) (by simp)) ?_
  rw [Act.passes_then, Act.passes_then]
  refine and_congr_right fun _ => and_congr_right fun _ => ?_
  split <;> simp

theorem emitForm_comparison (operators : List String) (type : PortType) (operands : List Term) :
    emitForm (.comparison operators type operands) = (do
      match operands with
      | [] => throw .badIndex
      | first :: rest =>
        match ← emitComparisons (emit first) first operators rest with
        | [] => throw .badIndex
        | result :: results => allOf result results) := by
  cases operands <;> rfl

/-- Connects the limit of a loop, or takes its port away. -/
def emitLimit (node : NodePath) (memory : Memory) : Option Term → Building Memory
  | some count => do
    let memory ← defining memory "max_iterations" "long" (node.input.port "max_iterations")
    connect (← emitValue count) (node.port "max_iterations")
    return memory
  | none => do
    send (.deletePort node "max_iterations")
    return memory

/-- Connects the first index of a loop. -/
def emitIndex (node : NodePath) (memory : Memory) : LoopIndex → Building Memory
  | .mk id name start => do
    connect (← once id (emit start)) (node.port "current_index")
    defining memory name "long" (node.input.port "current_index")

/-- Carries out the body of a loop, and connects the condition that it ends with. -/
def emitBody (node : NodePath) (code : List Statement) (condition : Option Term) :
    Building Unit := do
  emitStatements code
  match condition with
  | some term => connect (← emit term) (node.output.port "looping_condition")
  | none => pure ()

/-- A loop is built in parts. -/
theorem emitForm_loop (parameters : List LoopParameter) (results : List LoopResult)
    (code : List Statement) (limit : Option Term) (index : LoopIndex) (terminals : Terminals)
    (condition : Option Term) :
    emitForm (.loop kind parameters results code limit index terminals condition) = (do
      let node ← createIterator (iteratorName kind)
      let memory ← emitLoopParameters node {} parameters
      let memory ← declareLoopResults kind node memory results
      let memory ← emitLimit node memory limit
      let memory ← defining memory "#" "long" (node.input.port "current_index")
      let memory ← emitIndex node memory index
      enter node memory
      emitBody node code condition
      discard leave
      setTerminal node (flagData terminals)
      return node) := by
  cases limit <;> cases index <;> cases condition <;>
    simp only [emitLimit, emitIndex, emitBody, bind_assoc, pure_bind] <;> rfl

/-- A chain of comparisons begins with its first operand. -/
theorem emitComparisons_first (build : Building NodePath) (operand next : Term) (operator : String)
    (operators : List String) (rest : List Term) :
    emitComparisons build operand (operator :: operators) (next :: rest) =
      build >>= fun left =>
        emitComparisons (pure left) operand (operator :: operators) (next :: rest) := by
  simp only [emitComparisons, pure_bind]

/-- A step that only looks, and whose result is not used. -/
theorem draws_glance : DrawsHere tools stage stock (discard (liftM outcome)) (Passes outcome) := by
  have looked : DrawsHere tools stage stock (liftM outcome) (Passes outcome) :=
    .lift (fun _ _ => trivial) (by simp)
  exact .discard looked

theorem Builds.borrowed {node : Term}
    (builds : node.id ∈ stage.lent → Draws tools stage stock action due next fact gives) :
    Builds tools stage stock (.loan node reach) action due next fact gives := by
  intro orderly lent
  exact Builds.draw (builds (lent node (mem_singleton.mpr rfl))) orderly lent

theorem Builds.get
    (second : ∀ construction, construction.registry = tools.registry →
      Builds tools stage stock contents (then' construction) due next fact gives) :
    Builds tools stage stock contents (getThe Construction >>= then') due next fact gives :=
  fun orderly lent construction standing fresh =>
    .get (second construction standing.registry orderly lent construction standing fresh)

/-- A check that begins with a step that only looks. -/
theorem Builds.looked {gives : β → Stock}
    (second : ∀ value, Builds tools stage stock contents (then' value)
      (Passes (more value)) next fact gives) :
    Builds tools stage stock contents (liftM outcome >>= then')
      (Passes (outcome >>= more)) next fact gives :=
  .congr (.look fun value _ => second value) Act.passes_bind.symm

/-- Arguments are built in order and by name, and then connected. -/
theorem Builds.placing {names : List String} {gives : β → Stock}
    (first : Builds tools stage stock front inOrder (Passes checkFront) stage noFact
      (pathsIn stage.place))
    (second : ∀ more, Builds tools stage more back byName (Passes checkBack) stage noFact
      fun pairs => pairs.map fun pair => (stage.place, pair.2))
    (hasPort : ∀ name, stock.Has stage.place (port name))
    (rest : ∀ more, stock ⊆ more → Draws tools stage more then' True next fact gives) :
    Builds tools stage stock (front ++ back)
      (do
        let positional ← inOrder
        let named ← byName
        connectPlaced port (placed names positional named)
        then')
      (Passes (do checkFront; checkBack)) next fact gives := by
  refine .both first fun positional => ?_
  refine .drawing (second _) fun named _ => ?_
  have hasPlaced : ∀ entry ∈ placed names positional named, ∀ path ∈ entry.2,
      Stock.Has (named.map (fun pair => (stage.place, pair.2)) ++
        (pathsIn stage.place positional ++ stock)) stage.place path := by
    refine forall_placed (fun _ member => ?_) fun pair member => ?_
    · simp [has_pathsIn member]
    · rw [Stock.has_append]
      exact .inl (.of_mem (mem_map.mpr ⟨pair, member, rfl⟩))
  refine .andThen (draws_connectPlaced (fun name => ?_) hasPlaced) fun _ _ =>
    rest _ fun _ member => ?_
  · simp [hasPort name]
  · simp [member]

theorem rehearseForm_construct (registry : Overload.Registry) (names : Names) (type : String)
    (arguments named : List Argument) :
    rehearseForm registry names (.construct type arguments named) = (do
      let members := (Catalogue.members? type).getD []
      let types ← members.mapM (fun member => PortType.ofName member.2)
      rehearsePositional registry names arguments members.length types
      rehearseNamed registry names (members.map Prod.fst) types named) :=
  rfl

theorem argumentsContents_cons (argument : Argument) (rest : List Argument) :
    argumentsContents (argument :: rest) = argument.value.contents ++ argumentsContents rest := by
  cases argument
  rfl

theorem Term.type_form (term : Term) : term.form.type = term.type := by
  cases term
  rfl

/-- An argument that is given by name goes to its place before those that come after it. -/
theorem builds_namedArgument {types : List PortType} {others : Building (List (Nat × NodePath))}
    (has : stock.Has stage.place path)
    (later : ∀ more, Builds tools stage more contents others (Passes check) stage noFact
      fun pairs => pairs.map fun pair => (stage.place, pair.2)) :
    Builds tools stage stock contents
      (do
        let (path, type) ← expanded path (← given)
        let path ← castTruth path type (do orFault .badIndex types[← place]?)
        let spot ← place
        return (spot, path) :: (← others))
      (Passes (do
        truthFits (← carried (← given)) (do orFault .badIndex types[← place]?)
        discard place
        check))
      stage noFact (fun pairs => pairs.map fun pair => (stage.place, pair.2)) := by
  refine .looked fun _ => ?_
  rw [← Builds.none_append contents]
  refine .judged (fun _ => stage) (fun _ => noFact) (.draw (draws_expanded has))
    (fun _ _ _ _ inside => inside) fun pair _ agrees same => ?_
  obtain ⟨port, _⟩ := pair
  cases agrees.symm.trans same
  refine .congr (.after (draws_castTruth (by simp)) (fun _ _ inside => inside) fun _ _ =>
    .look fun _ _ => .drawing (later _) fun _ _ => .give ?_) ?_
  · exact forall_mem_cons.mpr ⟨by simp, fun _ old => by simp [Stock.Has.of_entry old]⟩
  · simp only [Act.passes_then, Act.passes_discard, exists_and_right]
    rfl

/-- The bounds of a slice are set one after the other. -/
theorem builds_slice
    (setsStart : ∀ (node : NodePath) name stock, stock.Has stage.place node →
      BuildsHere tools stage stock first (setBound node name start) (Passes checkFirst))
    (setsStop : ∀ (node : NodePath) name stock, stock.Has stage.place node →
      BuildsHere tools stage stock second (setBound node name stop) (Passes checkSecond))
    (setsStep : ∀ (node : NodePath) name stock, stock.Has stage.place node →
      BuildsHere tools stage stock third (setBound node name step) (Passes checkThird)) :
    BuildsPath tools stage stock (first ++ second ++ third) (sliceNode start stop step)
      (Passes (do checkFirst; checkSecond; checkThird)) := by
  rw [Contents.append_assoc]
  refine .drawn Slice.draws_create fun node _ => ?_
  refine .both (setsStart node "start" _ (by simp)) fun _ => ?_
  refine .both (setsStop node "stop" _ (by simp)) fun _ => ?_
  exact .drawing (setsStep node "step" _ (by simp)) fun _ _ => .give (by simp)

/-- A property of an object is taken by its key; the node can be found from the port of the
value. -/
theorem builds_property {default : Option (Building NodePath)}
    (buildsKey : ∀ stock, BuildsPath tools stage stock first key (Passes checkKey))
    (buildsDefault : ∀ value ∈ default, ∀ stock, BuildsPath tools stage stock second value
      (Passes checkDefault)) (missing : default = none →
      (namesPort wanted.name ↔ Passes checkDefault)) :
    Builds tools stage stock (first ++ second) (propertyNode key wanted default)
      (Passes (do checkKey; checkDefault)) stage noFact
      fun path => [(stage.place, path), (stage.place, path.parent)] := by
  refine .ofPlain fun plain => .drawn (draws_createOwn (by decide)) fun node made => ?_
  have nodeOf : ((node.port "value").parent) = node := by
    have isPort := isPort_property plain made
    obtain ⟨_, rfl⟩ := made
    have last : "value".toList.getLast? = some 'e' := by decide
    refine parent_port isPort fun _ member => ?_
    cases member
    rfl
  have given (stock : Stock) (has : stock.Has stage.place node) :
      Draws tools stage stock (pure (node.port "value")) True stage noFact
        fun path => [(stage.place, path), (stage.place, path.parent)] := by
    refine .give fun _ member => ?_
    rw [nodeOf] at member
    rcases mem_cons.mp member with rfl | second
    · exact has.port _
    · obtain rfl := mem_singleton.mp second
      exact has
  refine .both (buildsKey _) fun _ => ?_
  refine .drawn (draws_connect stage.place (by simp [*])) fun _ _ => ?_
  cases default with
  | none =>
    exact .congr (.draw (.followed draws_setPortType fun _ _ => given _ (by simp))) (missing rfl)
  | some value =>
    refine .drawing (buildsDefault value rfl _) fun _ _ => ?_
    exact .connect stage.place (by simp [*]) (given _ (by simp))

/-- A command that is sent under a condition. -/
theorem Builds.optional [Decidable condition] {gives : β → Stock} (plain : command.isPlain)
    (rest : Builds tools stage stock contents then' due next fact gives) :
    Builds tools stage stock contents (if condition then send command >>= fun _ => then' else then')
      due next fact gives := by
  split
  · exact .drawn (.send plain) fun _ _ => rest
  · exact rest

/-- What is built between entering a compound and leaving it. -/
theorem builds_inside {gives : β → Stock} {inner : Graph.Frame} (plain : place.isPort = false)
    (holds : stock.Holds place memory)
    (builds : Builds tools (stage.enter place memory.names) stock contents.enclosed body due
      ⟨inner, stage.frames⟩ noFact noGift)
        (rest : Draws tools stage stock then' True next fact gives) :
    Builds tools stage stock contents.enclosed
      (do
        enter (.path place) memory
        body
        discard leave
        then')
      due next fact gives := by
  refine .congr (.after (draws_enter plain holds) (by simp) fun _ _ => .drawing builds fun _ _ =>
    ?_) (iff_of_eq (true_and _))
  exact .andThen (.discard draws_leave) fun _ _ => rest

/-- An action changes the variables like a check, and what it builds can be borrowed by its
numbers. -/
abbrev BuildsNaming {α : Type} (tools : Tools) (stage : Stage) (stock : Stock) (contents : Contents)
    (action : Building α) (check : Except Fault Names) (numbers : List Nat) : Prop :=
  Builds tools stage stock contents action (Passes check)
    ((stage.after check).lending numbers) noFact noGift

/-- A change of the variables comes first. -/
theorem Builds.named {check : Except Fault Names}
    (first : BuildsNaming tools stage stock front action check numbers)
    (second : ∀ names, check = .ok names → Builds tools ((stage.named names).lending numbers) stock
      back then' (Passes (more names)) next noFact noGift) :
    Builds tools stage stock (front ++ back) (action >>= fun _ => then')
      (Passes (check >>= more)) next noFact noGift := by
  refine .judged (fun _ => next) (fun _ => noFact) first (fun _ _ _ _ inside => ?_)
    fun _ names _ same => ?_
  · exact mem_append_right _ (by cases check <;> exact inside)
  · subst same
    exact second names rfl

theorem draws_connectVariable (hasNode : stock.Has stage.place node) :
    DrawsHere tools stage stock (do connect (← valueNamed name) (node.port name))
      (stage.names.defined.contains name) := by
  refine .followed draws_valueNamed fun _ isPath => ?_
  obtain ⟨_, rfl⟩ := isPath
  exact draws_connect stage.place (by simp [datumIn, hasNode])

/-- A check without a result comes before a change of the variables. -/
theorem Builds.thenNaming {more : Except Fault Names} {then' : α → Building Unit} {fact : α → Prop}
    (first : Builds tools stage stock front action (Passes check)
    (stage.lending numbers) fact gives)
    (second : ∀ value, Builds tools (stage.lending numbers) (gives value ++ stock) back
      (then' value) (Passes more) ((stage.after more).lending later) noFact noGift) :
    BuildsNaming tools stage stock (front ++ back) (action >>= then')
      (check >>= fun _ => more) later :=
  .judged (fun outcome => (stage.after outcome).lending later) (fun _ => noFact) first
    (fun _ _ _ _ inside => mem_append_right _ inside) fun value _ _ _ => second value

/-- A look comes before a change of the variables. -/
theorem Builds.lookNaming {outer : Stage} {more : α → Except Fault Names}
    {then' : α → Building Unit}
    (second : ∀ value, outcome = .ok value → Builds tools stage stock contents (then' value)
      (Passes (more value)) ((outer.after (more value)).lending later) noFact noGift) :
    Builds tools stage stock contents (liftM outcome >>= then') (Passes (outcome >>= more))
      ((outer.after (outcome >>= more)).lending later) noFact noGift := by
  have looked : Builds tools stage stock .none (liftM outcome) (Passes outcome) stage
      (fun value => outcome = .ok value) noGift := .draw (.lift (fun _ found => found) (by simp))
  refine looked.judged (fun whole => (outer.after whole).lending later) (fun _ => noFact)
    (fun _ _ _ _ inside => inside) fun value _ found same => ?_
  cases found.symm.trans same
  exact second value found

/-- The values of an assignment are ports of what is assigned. -/
theorem builds_valuesFor {outer : Stage} {count : Nat} {operator : String}
    {more : Nat → Except Fault Names} {then' : List NodePath → Building Unit}
    (second : ∀ paths, (∀ port ∈ paths, PortOf path port) → Builds tools stage stock contents
      (then' paths) (Passes (more paths.length)) ((outer.after (more paths.length)).lending later)
      noFact noGift) :
    Builds tools stage stock contents
      (do then' (← valuesFor count operator value path))
      (Passes (do more (← valueCount count operator value)))
      ((outer.after (do more (← valueCount count operator value))).lending later)
        noFact noGift := by
  have same : (do more (← valueCount count operator value)) =
      (do more (← valuesFor count operator value path).length) := by
    rw [valueCount_eq count operator value path]
    cases valuesFor count operator value path <;> rfl
  rw [same]
  exact .lookNaming fun paths found => second paths (portOf_valuesFor found)

/-- A change of a variable leaves the names as they are. -/
theorem change_eq (passes : Passes (names.change name)) : names.change name = .ok names := by
  unfold Names.change at passes ⊢
  split at passes
  · rw [if_pos ‹_›]
  · exact ((Act.passes_error _).mp passes).elim

theorem names_of_bind {check : Except Fault α} {more : α → Except Fault Names}
    (kept : ∀ value, Passes (more value) → more value = .ok names)
    (passes : Passes (check >>= more)) : (check >>= more) = .ok names := by
  obtain ⟨value, rfl, later⟩ := Act.passes_bind.mp passes
  exact kept value later

/-- A part of a variable is set without any new names. -/
theorem rehearseTarget_part {registry : Overload.Registry} {id : Nat}
    (passes : Passes (rehearseTarget registry names (.part id kind base accessor type))) :
    rehearseTarget registry names (.part id kind base accessor type) = .ok names := by
  have named : Passes (do names.change (← variableName base)) →
      (do names.change (← variableName base)) = .ok names :=
    names_of_bind fun _ => change_eq
  refine names_of_bind (fun _ passes => ?_) passes
  cases kind with
  | member => exact names_of_bind (fun _ => names_of_bind fun _ => named) passes
  | _ => exact names_of_bind (fun _ => names_of_bind fun _ => named) passes

theorem draws_assignVariable (hasResult : stock.Has stage.place result) :
    DrawsPath tools stage stock
      (do
        assign (← variableName base) result
        return result)
      (Passes (do stage.names.change (← variableName base))) := by
  refine .congr (.look fun _ _ => ?_) Act.passes_bind.symm
  refine .renext (.followed (draws_assign hasResult) fun _ _ => .give (by simp [hasResult]))
    fun passes => ?_
  rw [change_eq passes]
  rfl

/-- A part of a variable is set: the variable gets a new value. -/
theorem builds_part {accessor : Accessor} (kind : PartKind) (hasValue : stock.Has stage.place value)
    (buildsBase : ∀ stock, BuildsPath tools stage stock first baseAction (Passes checkBase))
    (buildsAccessor : ∀ stock, BuildsPath tools stage stock second accessorAction
      (Passes checkAccessor)) : BuildsPath tools stage stock (first ++ second)
      (do
        let result ← partNode kind value (← base.type) accessor.memberPath? baseAction
          accessorAction
        assign (← variableName base) result
        return result)
      (Passes (do
        let type ← base.type
        match kind with
        | .member => do
          discard (memberHolder type)
          discard (orFault .missingMember accessor.memberPath?)
        | _ => do
          checkBase
          checkAccessor
        stage.names.change (← variableName base))) := by
  refine .looked fun _ => ?_
  have setting (node : String) (own : node ∈ ownOperators) (whole part place result : String) :
      BuildsPath tools stage stock (first ++ second)
        (do
          let result ← partNode.setting value baseAction accessorAction node whole part place result
          assign (← variableName base) result
          return result)
        (Passes (do
          checkBase
          checkAccessor
          stage.names.change (← variableName base))) := by
    unfold partNode.setting
    simp only [bind_assoc, pure_bind]
    refine .drawn (draws_createOwn own) fun node _ => ?_
    refine .both (buildsBase _) fun _ => ?_
    refine .drawn (draws_connect stage.place (by simp [*])) fun _ _ => ?_
    refine .drawn (draws_connect stage.place (by simp [*])) fun _ _ => ?_
    refine .congr (.before (buildsAccessor _) fun place _ => ?_) Act.passes_then.symm
    refine .connect stage.place (by simp [*]) ?_
    exact draws_assignVariable (by simp)
  cases kind with
  | member =>
    simp only [partNode, bind_assoc, pure_bind]
    refine .congr (.look fun _ _ => .drawn draws_createValue fun _ _ =>
      .look fun _ _ => .draw (.andThen (draws_connect stage.place (by simp [*]))
        fun _ _ => draws_assignVariable (by simp))) ?_
    simp
    rfl
  | string | array | object => exact setting _ (by decide) _ _ _ _

theorem draws_iterator (kind : LoopKind) :
    Draws tools stage stock (createIterator (iteratorName kind)) True stage (CompoundIn stage.place)
      (compoundStock stage.place) := by
  cases kind <;> exact draws_createIterator rfl (by decide)

theorem Builds.ofForm {id : Nat} {fact : NodePath → Prop}
    (builds : (Item.term (.mk id form)).Sound →
      Builds tools stage stock form.contents (emitForm form) due stage fact (pathIn stage.place)) :
    Builds tools stage stock (Term.mk id form).contents (Emission.once id (emitForm form)) due
      (stage.lending [id]) fact (pathIn stage.place) := by
  refine .ofSound fun sound => ?_
  have itself : (Item.term (.mk id form)).Sound :=
    Contents.sound_one.mp (Contents.sound_append.mp sound).2
  exact .once (builds itself)

end GraphScript.Emission
