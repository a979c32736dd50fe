import GraphScript.Proofs.Actions
import GraphScript.Elaboration.Script

/-!
# Steps of an elaboration that make no terms

Many steps of an elaboration only look, print or stop: they check types and names and find
overloads.  None of them takes a number, stores a name or changes a function.  What they leave alone
is the ledger of a session, and most of them do not even look at the names: they are quiet.
-/

namespace GraphScript.Elaboration

open Act (Keeps Yields)
open GraphScript.Language (Tree)

/-- What a session knows of terms: the next number, the open frames, and the functions. -/
def Session.ledger (session : Session) : Nat × Scopes Program.Term × Table Function :=
  (session.nextId, session.scopes, session.functions)

theorem Session.ledger_eq_iff {first second : Session} :
    first.ledger = second.ledger ↔
      first.nextId = second.nextId ∧ first.scopes = second.scopes ∧
        first.functions = second.functions := by
  simp [Session.ledger]

@[simp] theorem yields_report {value : α} :
    Yields (report kind spot message : Elaborating α) before value after ↔ False := by
  simp [report]

/-! ## Acting on the registry -/

theorem yields_registry {result : Overload.Registry} :
    Yields registry before result after ↔ before.desk.registry = result ∧ before = after := by
  constructor
  · intro run
    have shown := run.afterGet
    exact shown.pure
  · rintro ⟨rfl, rfl⟩
    rfl

theorem keeps_note : Keeps Overload.Desk.registry (Overload.note line) :=
  .modify fun _ => rfl

theorem keeps_withLog : Keeps Overload.Desk.registry (Overload.withLog action) :=
  .zoom fun _ _ => rfl

theorem keeps_resolveNow : Keeps Overload.Desk.registry (Overload.resolveNow name arguments) :=
  .bind (.bind .get fun _ => .pure _) fun _ => keeps_withLog

/-- Whatever is done to the registry, the ledger stays. -/
theorem keeps_registering : Keeps Session.ledger (registering action) :=
  .zoom fun _ _ => rfl

/-! ## Quiet actions -/

/-- An action that makes no terms and does not look at the frames: it looks at the rest of the
session, asks the registry, prints, or stops. -/
class inductive Quiet : {α : Type} → Elaborating α → Prop
  | pure {α : Type} (value : α) : Quiet (pure value)
  | throw {α : Type} (fault : Fault) : Quiet (throw fault : Elaborating α)
  | lift {α : Type} (outcome : Except Fault α) : Quiet (liftM outcome)
  | bind {α β : Type} {action : Elaborating α} {next : α → Elaborating β} :
      Quiet action → (∀ value, Quiet (next value)) → Quiet (action >>= next)
  | look {α : Type} {next : Session → Elaborating α} :
      (∀ session scopes, next { session with scopes := scopes } = next session) →
      (∀ session, Quiet (next session)) → Quiet (getThe Session >>= next)
  | registering {α : Type} {action : Overload.Registering α} :
      Keeps Overload.Desk.registry action → Quiet (registering action)
  | attempt {α : Type} {action : Elaborating α} : Quiet action → Quiet (Act.attempt action)

attribute [instance] Quiet.pure Quiet.throw Quiet.lift

namespace Quiet

instance andThen {action : Elaborating α} [quiet : Quiet action]
    [quietNext : ∀ value, Quiet (next value)] : Quiet (action >>= next) :=
  .bind quiet quietNext

instance ite [Decidable condition] [quietTrue : Quiet whenTrue] [quietFalse : Quiet whenFalse] :
    Quiet (if condition then whenTrue else whenFalse) := by
  split
  · exact quietTrue
  · exact quietFalse

theorem keeps [quiet : Quiet action] : Keeps Session.ledger action := by
  induction quiet with
  | pure value => exact .pure value
  | throw fault => exact .throw fault
  | lift outcome => exact .lift outcome
  | bind _ _ kept keptNext => exact .bind kept keptNext
  | look _ _ keptNext => exact .bind .get keptNext
  | registering => exact keeps_registering
  | attempt _ kept => exact .attempt kept

end Quiet

/-! ## Reports and the registry -/

instance : Quiet (report kind spot message : Elaborating α) :=
  .look (fun _ _ => rfl) inferInstance

/-- Nothing follows a report. -/
instance {next : α → Elaborating β} :
    Quiet ((report kind spot message : Elaborating α) >>= next) :=
  inferInstanceAs (Quiet (report kind spot message : Elaborating β))

instance : Quiet (judged spot verdict) :=
  .bind inferInstance fun result => by cases result <;> infer_instance

instance : Quiet registry := .look (fun _ _ => rfl) inferInstance

instance : Quiet (print text) :=
  .registering (.forM (fun _ => keeps_note) _)

instance : Quiet (registering (Overload.withLog action)) := .registering keeps_withLog

instance : Quiet (registering (Overload.resolveNow name arguments)) := .registering keeps_resolveNow

instance : Quiet (printAt spot text) := .look (fun _ _ => rfl) inferInstance

/-! ## Names and types -/

theorem keeps_typeOf? (name : String) : Keeps Session.ledger (typeOf? name) :=
  .bind .get fun _ => .lift _

theorem keeps_nodeOf? (name : String) : Keeps Session.ledger (nodeOf? name) :=
  .bind .get fun _ => .lift _

theorem keeps_isResult (name : String) : Keeps Session.ledger (isResult name) :=
  .bind .get fun _ => .lift _

instance {value target : PortType} {port : Option String} :
    Quiet (checkCast spot value target port) := .andThen

instance {targets : List PortType} : Quiet (checkBound given targets) := by
  fun_induction checkBound given targets <;> infer_instance

instance : Quiet (checkRepeated spot before name) := .ite

instance {results : Syntax.Results} : Quiet (checkDistinct results) := .ite

instance {parameters results : List String} :
    Quiet (checkDisjoint spot parameters results) := by
  unfold checkDisjoint
  split <;> infer_instance

instance {feedbacks : List Feedback} :
    Quiet (checkFeedback word written inputs taken feedbacks) := by
  induction feedbacks generalizing taken with
  | nil => exact .pure _
  | cons => exact .andThen

instance {kind : Syntax.LoopKind} {parameters : List Program.LoopParameter}
    {results : List Program.LoopResult} :
    Quiet (checkLoop kind written firstSpot openSpot unlimited limited parameters results) := .ite

theorem keeps_partBase : Keeps Session.ledger (partBase nameSpot name) := by
  refine .bind (keeps_typeOf? name) fun found => ?_
  cases found with
  | none => exact Quiet.keeps
  | some =>
    refine .bind (keeps_isResult name) fun _ => ?_
    exact .ite Quiet.keeps (.pure _)

instance : Quiet (checkReturns valueSpot value) := .andThen

/-! ## Calls -/

instance {types : List (Option PortType)}
    {targets : List PortType} : Quiet (checkPorts spot names types targets) := by
  fun_induction checkPorts spot names types targets <;> infer_instance

instance {positional : List Given} {overloads : List (List String × List PortType)}
    {misfit : Misfit} : Quiet (fittingOverload spot names positional named misfit overloads) := by
  induction overloads generalizing misfit with
  | nil =>
    unfold fittingOverload
    split <;> infer_instance
  | cons _ _ ih =>
    refine .bind (.lift _) fun _ => .bind (.lift _) fun outcome => ?_
    cases outcome with
    | error => exact ih
    | ok => exact .bind (.attempt inferInstance) fun checked => by cases checked <;> infer_instance

instance {members : List (String × String)} :
    Quiet (checkMembers spot members filled) := by
  fun_induction checkMembers spot members filled <;> infer_instance

/-! ## Expressions -/

instance : Quiet (terminals flags) := by
  unfold terminals
  split <;> infer_instance

instance : Quiet (unquoted spot raw) := by
  unfold unquoted
  split <;> infer_instance

instance : Quiet (checkKey spot key) := .andThen

instance : Quiet (checkEntryValue spot value) := .andThen

instance {first second : Elaborating Bool} [Quiet first] [Quiet second] :
    Quiet (first <||> second) :=
  .bind inferInstance fun value => by
    cases value
    exacts [‹Quiet second›, .pure _]

instance : Quiet (checkBoundType spot value) := .andThen

instance : Quiet (checkBounds bounds) := by
  fun_induction checkBounds bounds <;> infer_instance

/-! ## Parameters and results -/

instance (written : Syntax.Result) : Quiet (result written) :=
  .look (fun _ _ => rfl) inferInstance

instance : Quiet (resultItems items) := by
  fun_induction resultItems items <;> infer_instance

instance : Quiet (results written) := .andThen

instance {kind : Syntax.LoopKind} : Quiet (loopResults kind written) := .andThen

/-! ## Inspections -/

instance (name : String) : Quiet (functionInputs? name) :=
  .look (fun _ _ => rfl) inferInstance

instance (name : String) : Quiet (operatorInputs? name) :=
  .bind inferInstance fun _ => by split <;> infer_instance

instance : Quiet (inspectInputs spot given) := by
  induction given with
  | nil => exact .pure _
  | cons =>
    unfold inspectInputs
    split
    · infer_instance
    · refine .bind (.lift _) fun _ => @Quiet.ite _ _ _ _ _ _ (.bind (.lift _) fun _ => ?_)
      refine .bind inferInstance fun ofFunction => ?_
      cases ofFunction with
      | some => infer_instance
      | none => exact .bind inferInstance fun ofOperator => by cases ofOperator <;> infer_instance

instance : Quiet (readListing spot listing given) := by
  induction given generalizing listing with
  | nil => exact .pure _
  | cons =>
    unfold readListing
    split
    · infer_instance
    · split <;> infer_instance

instance : Quiet (operatorLine? listing space name) := .ite

instance : Quiet (operatorLines listing space names) := by
  fun_induction operatorLines listing space names <;> infer_instance

instance : Quiet (listNamespace listing space) :=
  .bind inferInstance fun _ => .look (fun _ _ => rfl) inferInstance

instance : Quiet (inspectContents spot listing last given) := by
  induction given generalizing last with
  | nil => exact .pure _
  | cons =>
    unfold inspectContents
    split <;> infer_instance

/-- Carrying out an inspection makes no terms. -/
instance : Quiet (inspect spot word positional named) := by
  unfold inspect
  split <;> infer_instance

/-! ## Overloads -/

instance : Quiet (overloadable spot name) := by
  refine .look (fun _ _ => rfl) fun _ => ?_
  dsimp only
  split
  · infer_instance
  · exact .bind inferInstance fun _ => by split <;> infer_instance

instance : Quiet (portPosition spot direction names place afterName port) := by
  unfold portPosition
  split
  · infer_instance
  · split <;> infer_instance

instance (spot : Tree) (names : List String) (place : Nat) (afterName : Bool)
    (types : List String) (ports : List Syntax.OverloadPort) :
    Quiet (overloadOutputs spot names place afterName types ports) := by
  induction ports generalizing place afterName types with
  | nil => exact .pure _
  | cons => exact .bind inferInstance fun _ => by split <;> infer_instance

instance (spot : Tree) (names : List String) (place : Nat) (afterName : Bool)
    (types : List String) (ports : List (Syntax.OverloadPort × String)) :
    Quiet (overloadInputs spot names place afterName types ports) := by
  induction ports generalizing place afterName types with
  | nil => exact .pure _
  | cons => exact .andThen

end GraphScript.Elaboration
