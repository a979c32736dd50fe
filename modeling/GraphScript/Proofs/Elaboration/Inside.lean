import GraphScript.Proofs.Elaboration.Expression

/-!
# Headers, targets and bodies

What headers and the targets of assignments are made of, and what elaborating statements, compounds
and loops can do.  A header reads the names that it uses, and a body has a frame of its own.
-/

namespace GraphScript.Elaboration

open GraphScript.Language (Tree)
open Program

/-! ## Names of a body -/

/-- An action that looks at the names of a body, and stores names without a term. -/
class inductive Naming : {α : Type} → Elaborating α → Prop
  | quiet {α : Type} {action : Elaborating α} [Quiet action] : Naming action
  | bind {α β : Type} {action : Elaborating α} {next : α → Elaborating β} :
      Naming action → (∀ value, Naming (next value)) → Naming (action >>= next)
  | typeOf (name : String) : Naming (typeOf? name)
  | isResult (name : String) : Naming (isResult name)
  | store (asResult : Bool) (name : String) (type : PortType) :
      Naming (setName asResult name type none)

namespace Naming

attribute [instance] quiet typeOf isResult store

theorem inner [naming : Naming action] : Inner .body action := by
  induction naming with
  | quiet => exact .quiet
  | bind _ _ inner innerNext => exact .bind inner innerNext
  | typeOf => exact .typeOf trivial
  | isResult name => exact .isResult name
  | store asResult name type => exact .store asResult name type none

instance andThen {next : α → Elaborating β} [naming : Naming action]
    [namingNext : ∀ value, Naming (next value)] : Naming (action >>= next) :=
  .bind naming namingNext

instance [Decidable condition] [naming : Naming action] [namingOther : Naming other] :
    Naming (if condition then action else other) := by
  split
  · exact naming
  · exact namingOther

instance {action : α → Elaborating PUnit} {items : List α} [∀ item, Naming (action item)] :
    Naming (items.forM action) := by
  induction items with
  | nil => exact inferInstanceAs (Naming (pure _))
  | cons => exact andThen

end Naming

instance : Naming (takeOutputs spot outputs) := by
  induction outputs with
  | nil => exact inferInstanceAs (Naming (pure _))
  | cons output =>
    obtain ⟨_, _⟩ := output
    exact .bind inferInstance fun found => by cases found <;> infer_instance

instance {parameters : List Parameter} {results : List Result} :
    Naming (openScope parameters results) := .andThen

instance {parameters : List LoopParameter} : Naming (openLoopParameters parameters) := by
  fun_induction openLoopParameters <;> infer_instance

instance {results : List LoopResult} : Naming (openLoopResults kind results) := by
  fun_induction openLoopResults <;> infer_instance

instance {parameters : List LoopParameter} {results : List LoopResult} {index : String} :
    Naming (openLoop kind parameters results limited index) := .andThen

/-! ## Headers -/

section Headers

theorem crafts_parameter (written : Syntax.Parameter)
    (reads : standing.Reads (Syntax.namesOfOption written.value)) :
    Crafts standing known .none (parameter written) fun result => parametersContents [result] := by
  refine .bind (crafts_optionalExpression written.value reads) fun default => ?_
  have last : Crafts standing known (optionContents default) (do
      let type ← PortType.ofName written.type
      return Parameter.mk written.name type default) fun result => parametersContents [result] :=
    .lift fun _ => .pure (Contents.append_none _).symm
  cases default with
  | none => exact last
  | some => exact .lift fun _ => .lift fun _ => .quiet fun _ => last

theorem parametersContents_cons (parameter : Parameter) (rest : List Parameter) :
    parametersContents (parameter :: rest) =
      parametersContents [parameter] ++ parametersContents rest := by
  cases parameter
  exact congrArg (· ++ _) (Contents.append_none _).symm

theorem crafts_parameters
    (reads : standing.Reads (written.flatMap fun parameter =>
      Syntax.namesOfOption parameter.value)) :
    Crafts standing known .none (parameters names written) parametersContents := by
  induction written generalizing names with
  | nil => exact .pure rfl
  | cons first _ ih =>
    rw [List.flatMap_cons, Standing.reads_append] at reads
    refine .bind (crafts_parameter first reads.1) fun _ => .quiet fun _ => ?_
    exact .bind (ih reads.2).onto fun _ => .pure (parametersContents_cons _ _).symm

theorem crafts_givenLoopParameter (written : Syntax.LoopParameter) (typeName : String)
    (value : Term) :
    Crafts standing known value.contents (givenLoopParameter written typeName value)
      fun result => loopParametersContents [result] := by
  have last : ∀ name : String, Crafts standing known value.contents (do
      if written.isTarget && !Text.startsWith "array<" name then
        report .general written.spot targetMessage
      let valueType ← value.type
      checkCast written.spot valueType.onlyPort (← PortType.ofName name) (some written.name)
      let type ← PortType.ofName name
      return LoopParameter.mk written.name type (some value) written.isTarget)
      fun result => loopParametersContents [result] := by
    intro _
    refine .guard fun _ => .lift fun _ => .lift fun _ => .quiet fun _ => ?_
    exact .lift fun _ => .pure (Contents.append_none _).symm
  unfold givenLoopParameter
  split
  · exact .lift fun _ => .quiet last
  · exact .quiet last

theorem crafts_loopParameter (written : Syntax.LoopParameter)
    (reads : standing.Reads written.names) :
    Crafts standing known .none (loopParameter written) fun result =>
      loopParametersContents [result] := by
  unfold loopParameter
  unfold Syntax.LoopParameter.names at reads
  split
  · rename_i named
    rw [named] at reads
    refine .typeOf reads fun found => ?_
    cases found with
    | none => exact .stop
    | some =>
      refine .guard fun _ => .guard fun _ => .guard fun _ => .lift fun _ => ?_
      exact .pure (Contents.append_none _).symm
  · rename_i type value given
    rw [given] at reads
    exact .bind (crafts_expression value reads) fun value =>
      crafts_givenLoopParameter written _ value

theorem loopParametersContents_cons (parameter : LoopParameter) (rest : List LoopParameter) :
    loopParametersContents (parameter :: rest) =
      loopParametersContents [parameter] ++ loopParametersContents rest := by
  cases parameter
  exact congrArg (· ++ _) (Contents.append_none _).symm

theorem crafts_loopParameters
    (reads : standing.Reads (written.flatMap Syntax.LoopParameter.names)) :
    Crafts standing known .none (loopParameters names written) loopParametersContents := by
  induction written generalizing names with
  | nil => exact .pure rfl
  | cons first _ ih =>
    rw [List.flatMap_cons, Standing.reads_append] at reads
    refine .bind (crafts_loopParameter first reads.1) fun _ => ?_
    refine .quiet fun _ => ?_
    exact .bind (ih reads.2).onto fun _ => .pure (loopParametersContents_cons _ _).symm

theorem crafts_loopIndex (written : Option Syntax.IndexSetting)
    (reads : standing.Reads (Syntax.namesOfOption (written.map (·.value)))) :
    Crafts standing known .none (loopIndex written) LoopIndex.contents := by
  cases written with
  | none =>
    refine .bind (crafts_literal fun _ _ => trivial) fun start => ?_
    exact .numbered .index (fun _ => rfl) (fun _ => rfl) fun _ => trivial
  | some setting =>
    refine .bind (crafts_expression setting.value reads) fun _ => ?_
    exact .numbered .index (fun _ => rfl) (fun _ => rfl) fun _ => trivial

theorem crafts_loopSettings (reads : standing.Reads written.names) :
    Crafts standing known .none (loopSettings written)
      fun result => result.2.contents ++ optionContents result.1 := by
  obtain ⟨readsIndex, readsLimit⟩ := Standing.reads_append.mp reads
  refine .bind (crafts_loopIndex written.index readsIndex) fun _ => ?_
  exact .bind (crafts_optionalExpression written.limit readsLimit).onto fun _ => .pure rfl

end Headers

/-! ## Targets -/

/-- The target of an aim, or nothing. -/
def aimed : Option Aim → Target
  | none => .ignored
  | some aim => aim.target

section Targets

theorem crafts_declaredTarget :
    Crafts .body known .none (declaredTarget spot typeSpot type name) fun aim =>
      aim.target.contents := by
  refine .typeOf trivial fun _ => .guard fun _ => .guard fun _ => ?_
  exact .lift fun _ => .pure rfl

theorem crafts_namedTarget :
    Crafts .body known .none (namedTarget spot name) fun aim => aim.target.contents := by
  refine .typeOf trivial fun found => ?_
  cases found with
  | none => exact ⟨.look fun _ _ => .quiet fun _ => Crafts.toMakes .stop, .stop⟩
  | some => exact .pure rfl

theorem inner_partBase : Inner .body (partBase nameSpot name) := by
  refine .bind (.typeOf trivial) fun found => ?_
  cases found with
  | none => exact .quiet
  | some => exact .bind (.isResult _) fun _ => .ite .quiet .pure

theorem crafts_partBase (second : ∀ base, Crafts .body known given (next base) parts) :
    Crafts .body known given (partBase nameSpot name >>= next) parts :=
  ⟨.after keeps_partBase fun base => (second base).makes,
    .bind inner_partBase fun base => (second base).inner⟩

theorem crafts_memberTarget :
    Crafts .body known .none (memberTarget spot nameSpot name path) fun aim =>
      aim.target.contents := by
  refine crafts_partBase fun _ => .bind (.term (fun _ => trivial) rfl) fun _ => ?_
  exact .lift fun _ => .numbered (fun aim => .target aim.target)
    (fun _ => congrArg (· ++ _) (Contents.append_none _)) (fun _ => rfl) fun _ => trivial

theorem crafts_elementTarget :
    Crafts .body known .none (elementTarget spot nameSpot indexSpot name index)
      fun aim => aim.target.contents := by
  have numbered : ∀ term : Term, Crafts .body known term.contents freshId
      fun id => (Accessor.index id term).contents :=
    fun _ => ⟨fun _ _ _ _ made run => made.numbered run rfl trivial, .number⟩
  refine .bind (crafts_expression index trivial) fun index => .lift fun _ => ?_
  refine .bind (numbered index) fun indexId => crafts_partBase fun base => ?_
  have aim : ∀ (kind : PartKind) (type : PortType), Crafts .body known
      (Accessor.index indexId index).contents (do
      let variableTerm ← fresh (.reference name base)
      let id ← freshId
      return (⟨spot, .part id kind variableTerm (.index indexId index) type⟩ : Aim))
      fun aim => aim.target.contents := by
    intro _ _
    refine .bind (.onto (.term (fun _ => trivial) rfl)) fun _ => .congr ?_ (.comm _ _)
    exact .numbered (fun aim => .target aim.target) (fun _ => rfl) (fun _ => rfl) fun _ => trivial
  refine .ite (.lift fun _ => .guard fun _ => .ite (aim _ _) ?_) (.ite ?_ .stop)
  · exact .lift fun _ => aim _ _
  · exact .lift fun _ => .guard fun _ => aim _ _

theorem crafts_target : ∀ written : Syntax.Target,
    Crafts .body known .none (target written) fun aim => (aimed aim).contents
  | .ignored => .pure rfl
  | .declared .. => .bind crafts_declaredTarget fun _ => .pure rfl
  | .named .. => .bind crafts_namedTarget fun _ => .pure rfl
  | .member .. => .bind crafts_memberTarget fun _ => .pure rfl
  | .element .. => .bind crafts_elementTarget fun _ => .pure rfl

theorem crafts_targets (written : List Syntax.Target) :
    Crafts .body known .none (targets written) fun aims => targetsContents (aims.map aimed) := by
  induction written with
  | nil => exact .pure rfl
  | cons first _ ih => exact .bind (crafts_target first) fun _ => .bind ih.onto fun _ => .pure rfl

end Targets

/-! ## Assignments -/

theorem inner_assign : Inner .body (assign valueSpot value aim type) := by
  have stored : ∀ name settled, Inner .body (storeVariable name settled value) :=
    fun _ _ => .bind (.isResult _) fun _ => .store _ _ _ _
  unfold assign
  split
  · exact .pure
  · exact .bind (stored _ _) fun _ => .bind .quiet fun _ => .pure
  · exact .bind (stored _ _) fun _ => .bind .quiet fun _ => .pure
  · refine .ite (.ite .quiet .pure) ?_
    exact .bind .quiet fun _ => .pure

theorem inner_assignAll : Inner .body (assignAll valueSpot value aims types) := by
  fun_induction assignAll valueSpot value aims types with
  | case1 => exact .pure
  | case2 _ _ ih => exact .bind ih fun _ => .pure
  | case3 _ _ ih => exact .bind ih fun _ => .pure
  | case4 _ _ _ _ ih => exact .bind inner_assign fun _ => .bind ih fun _ => .pure

theorem inner_assignment : Inner .body (assignment valueSpot written operator value) := by
  refine .bind (crafts_targets _).toInner fun aims => .bind .lift fun type => ?_
  have last : Inner .body (do
      let assigned ← assignAll valueSpot value aims (assignedTypes operator aims.length type)
      return Program.Statement.assignment (← freshId) assigned operator value) :=
    .bind inner_assignAll fun _ => .bind .number fun _ => .pure
  exact .ite (.bind .quiet fun _ => last) last

/-! ## Bodies -/

mutual

theorem inner_statement : ∀ written : Syntax.Statement, Inner .body (statement written)
  | .empty => by
    exact .pure
  | .block written => by
    exact .bind (inner_block written trivial) fun _ => .pure
  | .loop written => by
    exact .bind (inner_loop written trivial) fun _ => .pure
  | .takeOver _ written => by
    refine .bind (inner_maker written) fun _ => .bind .lift fun _ => ?_
    exact .bind Naming.inner fun _ => .bind .number fun _ => .pure
  | .assignment _ _ _ written => by
    exact .bind (inner_maker written) fun _ => inner_assignment
  | .call written => by
    exact .bind (Crafts.toInner (crafts_call written trivial)) fun _ => .pure

theorem inner_statements : ∀ code : List Syntax.Statement, Inner .body (statements code)
  | [] => by
    exact .pure
  | written :: rest => by
    exact .bind (inner_statement written) fun _ => .bind (inner_statements rest) fun _ => .pure

theorem inner_maker : ∀ written : Syntax.Maker, Inner .body (maker written)
  | .expr written => by
    exact Crafts.toInner (crafts_expression written trivial)
  | .block written => by
    exact inner_block written trivial
  | .loop written => by
    exact inner_loop written trivial

theorem inner_block : ∀ written : Syntax.Block,
    standing.Reads written.headerNames → Inner standing (block written)
  | .mk _ flags _ _ code, reads => by
    refine .bind .quiet fun _ => ?_
    refine .bind (crafts_parameters reads).toInner fun _ => ?_
    refine .bind .quiet fun _ => ?_
    refine .bind .quiet fun _ => ?_
    refine .bind .quiet fun _ => ?_
    refine .bind (.frame ?_) fun code => .fresh _
    exact .bind Naming.inner fun _ => inner_statements code

theorem inner_loop : ∀ written : Syntax.Loop,
    standing.Reads written.headerNames → Inner standing (loop written)
  | .mk _ flags _ _ settings _ _ _ code
      condition, reads => by
      obtain ⟨readsSettings, readsParameters⟩ := Standing.reads_append.mp reads
      refine .bind .quiet fun _ => ?_
      refine .bind (crafts_loopSettings readsSettings).toInner fun _ => ?_
      refine .bind (crafts_loopParameters readsParameters).toInner fun _ => ?_
      refine .bind .quiet fun _ => ?_
      refine .bind .quiet fun _ => ?_
      refine .bind (.frame ?_) fun inner => .fresh _
      refine .bind Naming.inner fun _ => ?_
      refine .bind (.loop (inner_statements code)) fun _ => ?_
      exact .bind (Crafts.toInner (crafts_optionalExpression condition trivial)) fun _ => .pure

end

end GraphScript.Elaboration
