import GraphScript.Proofs.Emission.Building
import GraphScript.Proofs.Emission.Operators

/-!
# Calculations in a graph

While a calculation is built, the variables are ports, and one value reaches each of them.  When the
calculation is built, exactly one value reaches its port, and that is the value which the
calculation has when the variables have the values at their ports.
-/

namespace GraphScript.Emission

open List GraphScript.Graph Program
open Act (Yields yields_bind yields_pure yields_lift yields_get yields_modify)

variable {term : Term} {build : Building NodePath}

/-- How the graph of a compound is read: what nodes compute, which values are supplied at ports of
nodes without a number, and which nodes get wires at any time. -/
structure Reading (V : Type) where
  registry : Overload.Registry
  nodes : Interpretation V
  supplied : NodePath → V → Prop
  gates : List NodePath
  unnumbered : ∀ port value, supplied port value → port.parent.serial = 0

/-- What operators do. -/
def Reading.operators {V : Type} (reading : Reading V) : Operators V :=
  operatorsOf reading.registry reading.nodes

section Working

variable (reading : Reading V)

/-- The diagram grew, the same compounds are open with the same variables, and nothing was built or
carried out but what has the numbers. -/
structure Advances (numbers : List Nat) (before after : Construction) : Prop where
  later : before.diagram.Later reading.gates after.diagram
  /-- No wire to a gate was drawn. -/
  gates : ∀ source target, target.parent ∈ reading.gates →
    ((source, target) ∈ after.diagram.wires ↔ (source, target) ∈ before.diagram.wires)
  tidy : after.diagram.Tidy reading.gates
  counted : after.Counted
  registry : after.registry = before.registry
  contexts : after.contexts = before.contexts
  memories : after.memories = before.memories
  built : ∀ number ∉ numbers, after.built[number]? = before.built[number]?
  done : ∀ number ∉ numbers, after.done.contains number = before.done.contains number

/-- One value reaches a port, which is not a gate. -/
structure Reached (construction : Construction) (path : NodePath) (value : V) : Prop where
  past : construction.diagram.Past reading.gates path.parent
  holds : Holds reading.nodes reading.supplied construction.diagram path value

/-- A compound is being built, and the values at the ports of its variables are those of a store. -/
structure Working (place : NodePath) (memory : Memory) (store : Store V)
    (construction : Construction) : Prop where
  tidy : construction.diagram.Tidy reading.gates
  counted : construction.Counted
  registry : construction.registry = reading.registry
  plain : place.isPort = false
  inside : construction.contexts.head? = some (.path place)
  remembers : construction.memories.head? = some memory
  cells : ∀ name cell, memory.bindings.get? name = some cell →
    ∃ path value, cell.value = .path path ∧ store name = some value ∧
      Reached reading construction path value

end Working

variable {reading : Reading V}
variable {before middle after : Construction}

/-! ## Going on -/

theorem Advances.trans (front : Advances reading numbers before middle)
    (back : Advances reading numbers middle after) : Advances reading numbers before after where
  later := front.later.trans back.later
  gates := fun source target gate => (back.gates source target gate).trans
    (front.gates source target gate)
  tidy := back.tidy
  counted := back.counted
  registry := back.registry.trans front.registry
  contexts := back.contexts.trans front.contexts
  memories := back.memories.trans front.memories
  built := fun number outside => (back.built number outside).trans (front.built number outside)
  done := fun number outside => (back.done number outside).trans (front.done number outside)

theorem Touches.of_drawn (drawn : Drawn before after diagram) : Touches [] before after :=
  fun _ _ => ⟨by rw [drawn.built], by rw [drawn.done]⟩

theorem Advances.of_drawn (drawn : Drawn before after diagram)
    (later : Diagram.Later reading.gates before.diagram diagram)
    (gates : ∀ source target, target.parent ∈ reading.gates →
      ((source, target) ∈ diagram.wires ↔ (source, target) ∈ before.diagram.wires))
    (tidy : diagram.Tidy reading.gates) : Advances reading numbers before after := by
  obtain rfl := drawn.drawn
  exact ⟨later, gates, tidy, drawn.counted, drawn.registry, drawn.contexts, drawn.memories,
    fun _ _ => by rw [drawn.built], fun _ _ => by rw [drawn.done]⟩

theorem Advances.mono (advances : Advances reading numbers before after)
    (subset : numbers ⊆ more := by simp) : Advances reading more before after :=
  { advances with
    built := fun number outside => advances.built number fun inside => outside (subset inside)
    done := fun number outside => advances.done number fun inside => outside (subset inside) }

theorem Advances.touches (advances : Advances reading numbers before after) :
    Touches numbers before after :=
  fun number outside => ⟨advances.built number outside, advances.done number outside⟩

theorem Advances.reached (advances : Advances reading numbers before after)
    (tidy : before.diagram.Tidy reading.gates) (reached : Reached reading before path value) :
    Reached reading after path value :=
  ⟨advances.later.past reached.past, advances.later.holds tidy reached.past reached.holds⟩

section Working

variable (working : Working reading place memory store before)

include working

theorem Working.refl : Advances reading numbers before before :=
  ⟨.refl _, fun _ _ _ => Iff.rfl, working.tidy, working.counted, rfl, rfl, rfl, fun _ _ => rfl,
    fun _ _ => rfl⟩

theorem Working.onward (advances : Advances reading numbers before after) :
    Working reading place memory store after where
  tidy := advances.tidy
  counted := advances.counted
  registry := advances.registry.trans working.registry
  plain := working.plain
  inside := advances.contexts ▸ working.inside
  remembers := advances.memories ▸ working.remembers
  cells := by
    intro name cell found
    obtain ⟨path, value, same, stored, reached⟩ := working.cells name cell found
    exact ⟨path, value, same, stored, advances.reached working.tidy reached⟩

theorem Working.contexts : ∃ outside, before.contexts = .path place :: outside :=
  List.head?_eq_some_iff.mp working.inside

/-! ## One node -/

/-- What a planted node gives out, when one value reaches the source of each of its wires. -/
theorem reached_planted (values : String → Option V)
    (planted : Planted before after place kind settings wires output port)
    (tame : Diagram.Tame kind)
    (words : ∀ wire ∈ wires, Word wire.2) (distinct : (wires.map Prod.snd).Nodup)
    (carried : ∀ wire ∈ wires, ∃ value, values wire.2 = some value ∧
      Reached reading before wire.1 value)
    (only : ∀ name, (values name).isSome → name ∈ wires.map Prod.snd) (word : Word output)
    (isOutput : output ∉ wires.map Prod.snd) :
    Advances reading [] before after ∧
      Reached reading after port
        (reading.nodes kind values (fun name => settings.lookup name) output) := by
  have ready : Diagram.Ready reading.gates before.diagram place kind wires := by
    refine ⟨working.tidy, working.plain, tame, fun _ _ => words _, distinct,
      fun source name member => ?_⟩
    obtain ⟨_, -, reached⟩ := carried _ member
    exact reached.past
  have drawn := planted.drawn
  refine ⟨.of_drawn drawn ready.later (fun _ _ => ready.wiresToGate) ready.tidyPlant, ?_, ?_⟩
  · rw [planted.port, drawn.drawn, ready.parent word]
    exact ready.pastNext
  · rw [planted.port, drawn.drawn]
    refine ready.holds reading.unnumbered (fun _ _ member => ?_) (by simpa using only) word
      (by simpa using isOutput)
    obtain ⟨value, found, reached⟩ := carried _ member
    exact ⟨value, found, reached.holds⟩

/-- A node with one input. -/
theorem reached_one (planted : Planted before after place kind [] [(source, name)] output port)
    (tame : Diagram.Tame kind) (words : Word name ∧ Word output ∧ output ≠ name)
    (reached : Reached reading before source value) :
    Advances reading [] before after ∧
      Reached reading after port (reading.nodes kind (atPort name value)
        (fun _ => none) output) := by
  refine reached_planted working _ planted tame (by simp [words])
    (by simp) ?_ ?_ words.2.1 (by simp [words])
  · simpa [atPort] using reached
  · intro _
    simp [atPort]

/-- A node with two inputs. -/
theorem reached_two
    (planted : Planted before after place kind [] [(left, first), (right, second)] output port)
    (tame : Diagram.Tame kind) (words : Word first ∧ Word second ∧ Word output)
    (different : first ≠ second ∧ output ≠ first ∧ output ≠ second)
    (reachedLeft : Reached reading before left leftValue)
    (reachedRight : Reached reading before right rightValue) :
    Advances reading [] before after ∧
      Reached reading after port
        (reading.nodes kind (atPorts first leftValue second rightValue)
        (fun _ => none) output) := by
  refine reached_planted working _ planted tame (by simp [words])
    (by simp [different]) ?_ ?_ words.2.2 (by simp [different])
  · simpa [atPorts, different.1.symm] using ⟨reachedLeft, reachedRight⟩
  · intro _ isSome
    unfold atPorts at isSome
    split at isSome
    · simp [*]
    · exact mem_cons_of_mem _ (by simpa using isSome)

end Working

/-! ## Operands and operators -/

theorem isNode_of_scalar : ∀ name ∈ scalarNames, (name == PortType.nodeName) = false := by
  decide

theorem isNode_of_calculable (calculable' : calculable type = true) : type.isNode = false := by
  simp only [calculable, Bool.and_eq_true, Bool.not_eq_true'] at calculable'
  exact calculable'.1

theorem type_of_calculation (form : Form) (calculation : form.isCalculation = true) :
    ∃ type, form.type = .ok type ∧ type.isNode = false := by
  cases form with
  | value _ type =>
    simp only [Form.isCalculation, Bool.and_eq_true, contains_iff_mem] at calculation
    exact ⟨type, rfl, isNode_of_scalar _ calculation.2⟩
  | reference _ type => exact ⟨type, rfl, isNode_of_calculable calculation⟩
  | not type | negate type | comparison _ type =>
    simp only [Form.isCalculation, Bool.and_eq_true] at calculation
    exact ⟨type, rfl, isNode_of_calculable calculation.1⟩
  | binary _ _ type =>
    simp only [Form.isCalculation, Bool.and_eq_true] at calculation
    exact ⟨type, rfl, isNode_of_calculable calculation.1.1⟩
  | _ => cases calculation

theorem type_of_term (calculation : term.isCalculation = true) :
    ∃ type, term.type = .ok type ∧ type.isNode = false := by
  obtain ⟨_, form⟩ := term
  exact type_of_calculation form calculation

theorem notText_of_calculable (plain : calculable type = true)
    (asked : type.isString = .ok isText) : isText = false := by
  rw [calculable, asked, Bool.and_eq_true, Bool.not_eq_true', Bool.not_eq_true'] at plain
  exact plain.2

theorem outputPort_of_calculation (calculation : term.isCalculation = true) :
    outputPort path term = .ok path := by
  obtain ⟨_, form⟩ := term
  obtain ⟨type, same, notNode⟩ := type_of_calculation form calculation
  simp only [outputPort, Term.type, same, bind, Except.bind, notNode]
  rfl

/-- The port that carries the value of a calculation is its own. -/
theorem yields_emitValue (calculation : term.isCalculation = true)
    (run : Yields (emitValue term) before path after) : Yields (emit term) before path after := by
  obtain ⟨_, form⟩ := term
  obtain ⟨_, same, notNode⟩ := type_of_calculation form calculation
  obtain ⟨_, _, runTerm, run⟩ := run.bind
  rw [same, Act.ok_bind] at run
  obtain ⟨found, rfl⟩ := run.lift
  simp only [valuePort, expanded, notNode] at found
  cases found
  exact runTerm

/-- A truth value is converted where a number is needed. -/
theorem reached_numberOperand (working : Working reading place memory store before)
    (known : term.type = .ok type) (run : Yields (numberOperand path type) before port after)
    (reached : Reached reading before path value) :
    Advances reading [] before after ∧
      Reached reading after port (reading.operators.counted term value) := by
  obtain ⟨_, contexts⟩ := working.contexts
  obtain ⟨isTruth, _, look, run⟩ := run.bind
  obtain ⟨found, rfl⟩ := look.lift
  have counted : reading.operators.counted term value =
      if isTruth then reading.operators.number value else value := by
    rw [Operators.counted, known]
    simp only [bind, Except.bind, found]
    cases isTruth <;> rfl
  cases isTruth with
  | false =>
    obtain ⟨rfl, rfl⟩ := run.pure
    rw [counted]
    exact ⟨working.refl, reached⟩
  | true =>
    rw [counted]
    obtain ⟨_, _, creating, run⟩ := run.bind
    obtain ⟨made, added⟩ := drawn_createNode working.counted contexts (by decide) creating
    obtain ⟨_, joining, rfl⟩ := run.mapped
    have planted := planted_connect "char" made added joining
    rw [working.registry] at planted
    exact reached_one working planted tame_conversion (by decide) reached

theorem ports_of_sign (found : signs.lookup sign = some node) :
    (Word node.left ∧ Word node.right ∧ Word node.output) ∧
      node.left ≠ node.right ∧ node.output ≠ node.left ∧ node.output ≠ node.right := by
  have all : ∀ entry ∈ signs, (Word entry.2.left ∧ Word entry.2.right ∧ Word entry.2.output) ∧
      entry.2.left ≠ entry.2.right ∧ entry.2.output ≠ entry.2.left ∧
        entry.2.output ≠ entry.2.right := by
    decide
  obtain ⟨_, _, same, -⟩ := lookup_eq_some_iff.mp found
  exact all (sign, node) (by simp [same])

/-- The node of an operator gives out what the operator makes of its operands. -/
theorem reached_operatorNode (working : Working reading place memory store before)
    (run : Yields (operatorNode sign left right) before port after)
    (reachedLeft : Reached reading before left first)
    (reachedRight : Reached reading before right second) :
    ∃ result, reading.operators.apply sign first second = some result ∧
      Advances reading [] before after ∧ Reached reading after port result := by
  obtain ⟨_, contexts⟩ := working.contexts
  obtain ⟨_, found, planted⟩ := planted_operatorNode working.counted contexts run
  obtain ⟨words, different⟩ := ports_of_sign found
  rw [working.registry] at planted
  refine ⟨_, ?_, reached_two working planted (tame_sign found) words different
    reachedLeft reachedRight⟩
  simp only [Reading.operators, operatorsOf, found, Option.map_some]

/-! ## Building calculations -/

/-- A calculation was built, and its value reaches a port. -/
def Computes (reading : Reading V) (numbers : List Nat) (before after : Construction)
    (path : NodePath) (result : Option V) : Prop :=
  ∃ value, result = some value ∧ Advances reading numbers before after ∧
    Reached reading after path value

theorem yields_once {id : Nat} (fresh : before.built[id]? = none)
    (run : Yields (once id build) before path after) :
    ∃ middle, Yields build before path middle ∧
      after = { middle with built := middle.built.insert id path } := by
  unfold once known? at run
  simp only [yields_bind, yields_get, yields_pure] at run
  obtain ⟨_, _, ⟨_, _, ⟨rfl, rfl⟩, rfl, rfl⟩, run⟩ := run
  rw [fresh] at run
  obtain ⟨_, middle, runBuild, run⟩ := run.bind
  obtain ⟨_, remember, rfl⟩ := run.mapped
  exact ⟨middle, runBuild, (yields_modify.mp remember).symm⟩

theorem yields_again {id : Nat} (found : before.built[id]? = some known)
    (run : Yields (once id build) before path after) : path = known ∧ before = after := by
  unfold once known? at run
  simp only [yields_bind, yields_get, yields_pure] at run
  obtain ⟨_, _, ⟨_, _, ⟨rfl, rfl⟩, rfl, rfl⟩, run⟩ := run
  rw [found] at run
  obtain ⟨rfl, rfl⟩ := run.pure
  exact ⟨rfl, rfl⟩

/-- The value of a variable is at its port. -/
theorem computes_variable (working : Working reading place memory store before)
    (run : Yields (do (← valueNamed name).asPath : Building NodePath) before path after) :
    Computes reading numbers before after path (store name) := by
  unfold valueNamed currentMemory at run
  simp only [yields_bind, yields_get, yields_lift] at run
  obtain ⟨_, _, ⟨_, _, ⟨_, _, ⟨rfl, rfl⟩, found, rfl⟩, named, rfl⟩, isPath, rfl⟩ := run
  rw [working.remembers] at found
  cases found
  unfold Memory.value at named
  cases bound : memory.bindings.get? name with
  | none =>
    rw [bound] at named
    cases named
  | some cell =>
    rw [bound] at named
    cases named
    obtain ⟨_, value, same, stored, reached⟩ := working.cells name cell bound
    rw [same] at isPath
    cases isPath
    exact ⟨value, stored, working.refl, reached⟩

/-- The value of a constant is that of its node. -/
theorem computes_constant {type : String} (working : Working reading place memory store before)
    (number : literal.isNumber = true) (scalar : type ∈ scalarNames)
    (run : Yields (constantNode (literalDatum literal) type .nothing .nothing) before path after) :
    Computes reading numbers before after path
      (some (reading.operators.constant type literal)) := by
  obtain ⟨_, contexts⟩ := working.contexts
  have simple : ∀ name ∈ scalarNames, name ∈ simpleTypes ∧
    wellNamed (constantKind name) = true := by
    decide
  have isNumber : (literalDatum literal).IsNumber := by
    cases literal with
    | whole value => exact .whole value
    | fraction value => exact .fraction value
    | none => cases number
    | text => cases number
  have planted := planted_constantNode working.counted contexts (simple type scalar).1 isNumber run
  have tame : Diagram.Tame (fullKind before.registry (constantKind type)) :=
    tame_of_wellNamed (simple type scalar).2
  have same : fullKind before.registry (constantKind type) = constantKind type := by
    have comma : (constantKind type).toList.contains ',' = true := comma_append (by decide) type
    rw [fullKind, if_pos comma]
  rw [same] at planted tame
  have reached := reached_planted working (fun _ => none) planted tame (by simp) (by simp)
    (by simp) (by simp) (by decide) (by simp)
  exact ⟨_, rfl, reached.1.mono (nil_subset _), reached.2⟩

/-- The numbers of something that is built in two parts. -/
theorem nodup_split {back : Contents} (distinct : (front ++ back).numbers.Nodup) :
    front.numbers.Nodup ∧ back.numbers.Nodup ∧ front.numbers.Disjoint back.numbers := by
  rw [Contents.numbers_append] at distinct
  exact nodup_append'.mp distinct

theorem Advances.remember {id : Nat} (advances : Advances reading numbers before middle)
    (known : id ∈ more) (subset : numbers ⊆ more) :
    Advances reading more before { middle with built := middle.built.insert id path } := by
  refine { advances.mono subset with built := fun number outside => ?_ }
  have different : id ≠ number := fun same => outside (same ▸ known)
  rw [Std.HashMap.getElem?_insert, if_neg (by simpa using different)]
  exact advances.built number fun inside => outside (subset inside)

/-- The path of a term is remembered. -/
theorem built_emit (run : Yields (emit term) before path after) : after.built[term.id]? =
    some path := by
  obtain ⟨id, _⟩ := term
  cases known : before.built[id]? with
  | none =>
    obtain ⟨_, -, rfl⟩ := yields_once known run
    exact Std.HashMap.getElem?_insert_self
  | some =>
    obtain ⟨rfl, rfl⟩ := yields_again known run
    exact known

/-- The conjunction of truth values is at the port of the last node that joins them. -/
theorem computes_allOf :
    ∀ {rest : List NodePath} {values : List V} {before : Construction} {first : NodePath}
      {value : V}, Working reading place memory store before →
      Reached reading before first value →
      List.Forall₂ (Reached reading before) rest values →
      Yields (allOf first rest) before path after →
      Computes reading [] before after path (reading.operators.all (value :: values))
  | [], _, _, _, value => by
    rintro working reached ⟨⟩ run
    obtain ⟨rfl, rfl⟩ := run.pure
    exact ⟨value, rfl, working.refl, reached⟩
  | next :: _, _, before, first, _ => by
    rintro working reached (_ | ⟨reachedNext, reachedRest⟩) run
    obtain ⟨joined, middle, runJoin, run⟩ := run.bind
    have joins : Yields (operatorNode "&&" first next) before joined middle := runJoin
    obtain ⟨_, found, advances, reachedJoin⟩ :=
      reached_operatorNode working joins reached reachedNext
    obtain ⟨final, all, onward, reachedAll⟩ := computes_allOf (working.onward advances) reachedJoin
      (reachedRest.imp fun _ _ held => advances.reached working.tidy held) run
    refine ⟨final, ?_, advances.trans onward, reachedAll⟩
    rw [Operators.all, foldlM_cons, found]
    exact all

/-- Two operands and the node of their operator. -/
theorem Computes.binary (working : Working reading place memory store before)
    (front : Advances reading numbers before middle)
    (reachedLeft : Reached reading middle left first)
    (back : Advances reading numbers middle second)
    (reachedRight : Reached reading second right last)
    (run : Yields (operatorNode sign left right) second path after) :
    Computes reading numbers before after path (reading.operators.apply sign first last) := by
  have workingMiddle := working.onward front
  obtain ⟨result, found, advances, reached⟩ := reached_operatorNode (workingMiddle.onward back) run
    (back.reached workingMiddle.tidy reachedLeft) reachedRight
  exact ⟨result, found, (front.trans back).trans (advances.mono (nil_subset _)), reached⟩

theorem numbers_mk (id : Nat) (form : Form) :
    (Term.contents (.mk id form)).numbers = form.contents.numbers ++ [id] := by
  rw [Term.contents, Contents.numbers_append, Contents.numbers_one]
  rfl

/-- Numbers are computed with as they are, and truth values are converted. -/
theorem computes_numbers {left right : Term} (working : Working reading place memory store before)
    (reachedLeft : Reached reading before leftPath first)
    (reachedRight : Reached reading before rightPath last) (knownLeft : left.type = .ok leftType)
    (knownRight : right.type = .ok rightType) (run : Yields (do
      let leftPath ← numberOperand leftPath leftType
      let rightPath ← numberOperand rightPath rightType
      operatorNode sign leftPath rightPath : Building NodePath) before path after) :
    Computes reading [] before after path
      (reading.operators.apply sign (reading.operators.counted left first)
        (reading.operators.counted right last)) := by
  obtain ⟨_, _, runLeft, run⟩ := run.bind
  obtain ⟨advances, reachedFirst⟩ := reached_numberOperand working knownLeft runLeft reachedLeft
  obtain ⟨_, _, runRight, run⟩ := run.bind
  have workingMiddle := working.onward advances
  obtain ⟨onward, reachedLast⟩ := reached_numberOperand workingMiddle knownRight runRight
    (advances.reached working.tidy reachedRight)
  exact .binary working advances reachedFirst onward reachedLast run

theorem emitComparisons_nil (build : Building NodePath) (operand : Term) (signs : List String) :
    emitComparisons build operand signs [] = pure [] := by
  cases signs <;> rfl

/-- Where there is a comparison, its first operand was built. -/
theorem yields_first_comparison {signs : List String}
    (run : Yields (emitComparisons build operand signs rest) before (result :: results) after) :
    ∃ path middle, Yields build before path middle := by
  cases rest with
  | nil =>
    rw [emitComparisons_nil] at run
    cases (run.pure).1
  | cons =>
    cases signs with
    | nil => cases (run.pure).1
    | cons =>
      obtain ⟨path, middle, runFirst, -⟩ := run.bind
      exact ⟨path, middle, runFirst⟩

theorem yields_comparisonNode (run : Yields (comparisonNode sign left right) before path after) :
    Yields (operatorNode sign left right) before path after := by
  rw [comparisonNode, Act.yields_ite] at run
  split at run
  · exact run
  · exact run.throw

theorem yields_emit_again (found : before.built[term.id]? = some known)
    (run : Yields (emit term) before path after) : path = known ∧ before = after := by
  obtain ⟨_, _⟩ := term
  exact yields_again found run

theorem computes_wired (working : Working reading place memory store before)
    (computed : Computes reading numbers before middle operand result)
    (named : wellNamed kind = true ∧ kind ≠ "_input" ∧ kind ≠ "_output")
    (words : Word "value" ∧ Word output ∧ output ≠ "value")
    (run : Yields (wiredNode kind output [(operand, "value")]) middle path after) :
    Computes reading numbers before after path (result.map fun value =>
      reading.nodes (fullKind reading.registry kind) (atPort "value" value)
        (fun _ => none) output) := by
  obtain ⟨value, rfl, advances, reached⟩ := computed
  have workingMiddle := working.onward advances
  obtain ⟨_, contexts⟩ := workingMiddle.contexts
  have planted := planted_wiredNode [(operand, "value")] workingMiddle.counted contexts named.2 run
  rw [workingMiddle.registry] at planted
  obtain ⟨onward, reachedNode⟩ :=
    reached_one workingMiddle planted (tame_of_wellNamed named.1) words reached
  exact ⟨_, rfl, advances.trans (onward.mono (nil_subset _)), reachedNode⟩

mutual

theorem computes_emit : ∀ (term : Term) {before after : Construction} {path : NodePath},
    term.isCalculation = true → term.contents.numbers.Nodup →
    Working reading place memory store before → Fresh term.contents.numbers before →
    Yields (emit term) before path after →
    Computes reading term.contents.numbers before after path (term.valueIn reading.operators store)
  | .mk id form, _, _, _ => by
    intro calculation distinct working fresh run
    rw [numbers_mk] at distinct fresh ⊢
    have isNew := (fresh id (by simp)).1
    obtain ⟨_, runForm, rfl⟩ := yields_once isNew run
    obtain ⟨value, found, advances, reached⟩ := computes_form form calculation
      (nodup_append.mp distinct).1 working fresh.sub runForm
    exact ⟨value, found, advances.remember (by simp) (by simp), reached.past, reached.holds⟩

theorem computes_form : ∀ (form : Form) {before after : Construction} {path : NodePath},
    form.isCalculation = true → form.contents.numbers.Nodup →
    Working reading place memory store before → Fresh form.contents.numbers before →
    Yields (emitForm form) before path after →
    Computes reading form.contents.numbers before after path (form.valueIn reading.operators store)
  | .value _ _, _, _, _ => by
    intro calculation _ working _ run
    simp only [Form.isCalculation, Bool.and_eq_true, contains_iff_mem] at calculation
    exact computes_constant working calculation.1 calculation.2 run
  | .reference _ _, _, _, _ => by
    intro _ _ working _ run
    exact computes_variable working run
  | .not _ value, _, _, _ | .negate _ value, _, _, _ => by
    intro calculation distinct working fresh run
    simp only [Form.isCalculation, Bool.and_eq_true] at calculation
    obtain ⟨_, middle, runValue, run⟩ := run.bind
    have computed := computes_emit value calculation.2 distinct working fresh
      (yields_emitValue calculation.2 runValue)
    have computedToo := computes_wired working computed (by decide) (by decide) run
    rwa [Option.map_eq_bind] at computedToo
  | .binary _ sign _ left right, before, after, path => by
    intro calculation distinct working fresh run
    simp only [Form.isCalculation, Bool.and_eq_true] at calculation
    obtain ⟨⟨plain, isLeft⟩, isRight⟩ := calculation
    rw [Form.contents] at distinct fresh ⊢
    obtain ⟨distinctLeft, distinctRight, disjoint⟩ := nodup_split distinct
    obtain ⟨isText, _, look, run⟩ := run.bind
    obtain ⟨asked, rfl⟩ := look.lift
    have noText : isText = false := notText_of_calculable plain asked
    subst noText
    obtain ⟨_, middle, runLeft, run⟩ := run.bind
    obtain ⟨_, second, runRight, run⟩ := run.bind
    obtain ⟨first, foundLeft, front, reachedLeft⟩ := computes_emit left isLeft distinctLeft working
      fresh.sub runLeft
    have workingMiddle := working.onward front
    have freshRight := front.touches.fresh fresh.sub disjoint
    obtain ⟨last, foundRight, back, reachedRight⟩ := computes_emit right isRight distinctRight
      workingMiddle freshRight runRight
    have workingSecond := workingMiddle.onward back
    have reachedFirst := back.reached workingMiddle.tidy reachedLeft
    rw [outputPort_of_calculation isLeft, outputPort_of_calculation isRight, Act.ok_bind,
      Act.ok_bind] at run
    have advances : Advances reading (left.contents ++ right.contents).numbers before second :=
      front.mono.trans back.mono
    have computed : Computes reading [] second after path
        (if logicSigns.contains sign then reading.operators.apply sign first last
          else reading.operators.apply sign (reading.operators.counted left first)
            (reading.operators.counted right last)) := by
      rw [Act.yields_ite] at run
      change if logicSigns.contains sign then _ else _ at run
      by_cases logic : logicSigns.contains sign
      · rw [if_pos logic]
        rw [if_pos logic] at run
        exact reached_operatorNode workingSecond run reachedFirst reachedRight
      · rw [if_neg logic]
        rw [if_neg logic] at run
        obtain ⟨_, knownLeft, -⟩ := type_of_term isLeft
        obtain ⟨_, knownRight, -⟩ := type_of_term isRight
        rw [knownLeft, knownRight] at run
        exact computes_numbers workingSecond reachedFirst reachedRight knownLeft knownRight run
    obtain ⟨value, found, onward, reached⟩ := computed
    refine ⟨value, ?_, advances.trans (onward.mono (nil_subset _)), reached⟩
    rw [Form.valueIn, foundLeft, foundRight]
    exact found
  | .comparison _ _ [], _, _, _ => by
    intro _ _ _ _ run
    exact run.throw
  | .comparison _ _ (first :: rest), before, _, path => by
    intro calculation distinct working fresh run
    simp only [Form.isCalculation, areCalculations, Bool.and_eq_true] at calculation
    obtain ⟨-, isFirst, areRest⟩ := calculation
    rw [Form.contents, termsContents] at distinct fresh ⊢
    obtain ⟨distinctFirst, distinctRest, disjoint⟩ := nodup_split distinct
    obtain ⟨results, middle, runAll, run⟩ := run.bind
    have freshFirst : Fresh first.contents.numbers before := fresh.sub
    have computed {path : NodePath} {middle : Construction}
      (run : Yields (emit first) before path middle) :=
      computes_emit first isFirst distinctFirst working freshFirst run
    cases results with
    | nil => exact run.throw
    | cons =>
      obtain ⟨_, _, runFirst⟩ := yields_first_comparison runAll
      obtain ⟨value, found, -⟩ := computed runFirst
      have building : ∀ path middle, Yields (emit first) before path middle →
          Advances reading first.contents.numbers before middle ∧
            Reached reading middle path value := by
        intro _ _ runAgain
        obtain ⟨_, foundToo, held⟩ := computed runAgain
        rw [found] at foundToo
        exact (Option.some.inj foundToo) ▸ held
      obtain ⟨_, compared, advances, reached⟩ :=
        computes_comparisons rest isFirst areRest distinctRest
        disjoint working fresh.sub building runAll
      obtain _ | ⟨reachedResult, reachedResults⟩ := reached
      obtain ⟨final, all, onward, reachedAll⟩ :=
        computes_allOf (working.onward advances) reachedResult reachedResults run
      refine ⟨final, ?_, (advances.mono ?_).trans (onward.mono (nil_subset _)), reachedAll⟩
      · rw [Form.valueIn, found]
        simp only [bind, Option.bind, compared]
        exact all
      · simp
  | .vector .., _, _, _ | .matrix .., _, _, _ | .sheet .., _, _, _ | .array .., _, _, _
  | .emptyArray .., _, _, _ | .object .., _, _, _ | .enumeration .., _, _, _ | .access .., _, _, _
  | .port .., _, _, _ | .associative .., _, _, _ | .native .., _, _, _ | .function .., _, _, _
  | .construct .., _, _, _ | .scope .., _, _, _ | .loop .., _, _, _ => by
    intro calculation
    cases calculation

/-- Every comparison of a chain computes its truth value; an operand in the middle is built once and
used twice. -/
theorem computes_comparisons : ∀ (rest : List Term) {signs : List String}
    {build : Building NodePath}
    {operand : Term} {numbers : List Nat} {value : V} {before after : Construction}
    {paths : List NodePath}, operand.isCalculation = true → areCalculations rest = true →
    (termsContents rest).numbers.Nodup → numbers.Disjoint (termsContents rest).numbers →
    Working reading place memory store before → Fresh (termsContents rest).numbers before →
    (∀ path middle, Yields build before path middle →
      Advances reading numbers before middle ∧ Reached reading middle path value) →
    Yields (emitComparisons build operand signs rest) before paths after →
    ∃ values, comparisonsIn reading.operators store value signs rest = some values ∧
      Advances reading (numbers ++ (termsContents rest).numbers) before after ∧
      List.Forall₂ (Reached reading after) paths values
  | [], signs, _, _, _, _, _, _, _ => by
    intro _ _ _ _ working _ _ run
    rw [emitComparisons_nil] at run
    obtain ⟨rfl, rfl⟩ := run.pure
    exact ⟨[], by cases signs <;> rfl, working.refl, .nil⟩
  | next :: _, [], _, _, _, _, _, _, _ => by
    intro _ _ _ _ working _ _ run
    obtain ⟨rfl, rfl⟩ := run.pure
    exact ⟨[], rfl, working.refl, .nil⟩
  | next :: rest, _ :: _, _, operand, numbers, _, _, _, _ => by
    intro isOperand areRest distinct disjoint working fresh building run
    simp only [areCalculations, Bool.and_eq_true] at areRest
    obtain ⟨isNext, areRest⟩ := areRest
    rw [termsContents] at distinct disjoint fresh ⊢
    obtain ⟨distinctNext, distinctRest, apart⟩ := nodup_split distinct
    obtain ⟨left, first, runLeft, run⟩ := run.bind
    obtain ⟨front, reachedLeft⟩ := building left first runLeft
    have workingFirst := working.onward front
    have freshAll := front.touches.fresh fresh.sub disjoint
    obtain ⟨right, _, runRight, run⟩ := run.bind
    obtain ⟨following, found, back, reachedRight⟩ :=
      computes_emit next isNext distinctNext workingFirst freshAll.sub runRight
    have workingSecond := workingFirst.onward back
    rw [outputPort_of_calculation isOperand, outputPort_of_calculation isNext, Act.ok_bind,
      Act.ok_bind] at run
    obtain ⟨_, third, runResult, run⟩ := run.bind
    have runOperator := yields_comparisonNode runResult
    obtain ⟨compared, applied, onward, reachedResult⟩ :=
      reached_operatorNode workingSecond runOperator
      (back.reached workingFirst.tidy reachedLeft) reachedRight
    have workingThird := workingSecond.onward onward
    -- the operand is known by now, so that it is not built again
    have known : third.built[next.id]? = some right := by
      rw [onward.built next.id (by simp)]
      exact built_emit runRight
    have again : ∀ path middle, Yields (emit next) third path middle →
        Advances reading [] third middle ∧ Reached reading middle path following := by
      intro _ _ runAgain
      obtain ⟨rfl, rfl⟩ := yields_emit_again known runAgain
      exact ⟨workingThird.refl, onward.reached workingSecond.tidy reachedRight⟩
    obtain ⟨_, _, runRest, run⟩ := run.bind
    obtain ⟨rfl, rfl⟩ := run.pure
    have freshRest : Fresh (termsContents rest).numbers third :=
      onward.touches.fresh (back.touches.fresh freshAll.sub apart) (by simp)
    obtain ⟨values, foundRest, last, reachedRest⟩ :=
      computes_comparisons rest isNext areRest distinctRest
      (by simp) workingThird freshRest again runRest
    refine ⟨compared :: values, ?_, ?_,
      .cons (last.reached workingThird.tidy reachedResult) reachedRest⟩
    · rw [comparisonsIn, found]
      simp only [bind, Option.bind, applied, foundRest]
      rfl
    · exact ((front.mono.trans back.mono).trans onward.mono).trans last.mono

end

end GraphScript.Emission
