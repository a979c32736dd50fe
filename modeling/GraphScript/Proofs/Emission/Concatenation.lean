import GraphScript.Proofs.Emission.Calculations
import GraphScript.Proofs.Typing.Joins

/-!
# Sums of texts

However a sum of texts is bracketed, it is accepted if its operands that are arrays have the same
levels, and builds its operands from the left to the right and one compound that joins them.
-/

namespace GraphScript.Emission

open List hiding andM
open GraphScript.Graph
open Act (Yields yields_modify)
open Elaboration (Arithmetic binaryType operandType)
open Program (Term Form)
open Syntax (OperatorKind)

/-- Texts in arrays of some levels. -/
def textType (levels : Fin 4) : PortType := .mk (PortType.arrayName levels "string") none

/-- A text that is no sum itself, in arrays of some levels. -/
structure IsText (operand : Term) (levels : Fin 4) : Prop where
  typed : operandType operand = pure (textType levels)
  single : ∀ kind sign type left right, operand.form ≠ .binary kind sign type left right

/-- All operations of a tree are sums. -/
def Adds : Arithmetic → Prop
  | .operand _ => True
  | .operation _ kind sign left right => kind = .math ∧ sign = "+" ∧ Adds left ∧ Adds right

/-- Operands that are arrays have the same levels. -/
def Agree (levels : Term → Fin 4) (operands : List Term) : Prop :=
  ∃ common, ∀ operand ∈ operands, levels operand = 0 ∨ levels operand = common

def mismatch : String := "Array dimensions missmatch"

theorem listed_string : Typing.Listed "string" where
  small := by decide
  noOpening := by decide
  noClosing := by decide
  known := by decide +kernel

theorem arithmetic_text (left right : Fin 4) :
    Typing.arithmetic true "+" (textType left) (textType right) =
      if left ≠ 0 ∧ right ≠ 0 ∧ left ≠ right then Verdict.reject mismatch
      else pure (textType (if left ≠ 0 then left else right)) := by
  have dim (levels : Fin 4) : (textType levels).arrayDim = levels.1 :=
    (listed_string.occurrences _).1
  have element (levels : Fin 4) : (textType levels).elementType = .ok (.mk "string" none) :=
    listed_string.elementType
  have isString : (PortType.mk "string" none).isString = .ok true := rfl
  have made (levels : Fin 4) : Typing.typeInArrays levels.1 "string" = .ok (textType levels) :=
    listed_string.typeInArrays (Nat.le_of_lt_succ levels.2)
  simp only [Typing.arithmetic, dim, element, isString, Typing.NumberType.verdict_ok_bind]
  by_cases differ : left ≠ 0 ∧ right ≠ 0 ∧ left ≠ right
  · rw [if_pos differ, if_pos (by simpa [Fin.val_inj, and_assoc] using differ)]
    rfl
  · rw [if_neg differ, if_neg (by simpa [Fin.val_inj, and_assoc] using differ)]
    have common : (if (left.1 != 0) = true then left.1 else right.1) =
      (if left ≠ 0 then left else right).1 := by
      split <;> simp_all
    simp only [common, made, andM]
    rfl

theorem isString_textType : ∀ levels : Fin 4, (textType levels).isString = .ok true
  | 0 | 1 | 2 | 3 => rfl

/-! ## Commands -/

section Commands

variable {before after : Construction} {source target node compound joining : NodePath}

/-- An action gives a value, and sends commands and does nothing else. -/
def Sends (action : Building α) (value : α) (commands : List Command) : Prop :=
  ∀ ⦃before found after⦄, Yields action before found after →
    found = value ∧ after = { before with commands := before.commands ++ commands.toArray }

theorem Sends.bind {action : Building α} {next : α → Building β} (first : Sends action value front)
    (second : Sends (next value) result back) : Sends (action >>= next) result (front ++ back) := by
  intro _ _ _ run
  obtain ⟨_, _, runFirst, run⟩ := run.bind
  obtain ⟨rfl, rfl⟩ := first runFirst
  obtain ⟨rfl, rfl⟩ := second run
  exact ⟨rfl, by simp [← Array.append_assoc, ← append_toArray]⟩

theorem Sends.pure : Sends (pure value) value [] := by
  intro _ _ _ run
  obtain ⟨rfl, rfl⟩ := run.pure
  exact ⟨rfl, by simp⟩

theorem Sends.send : Sends (send command) () [command] := by
  intro _ _ _ run
  exact ⟨rfl, by simp [← yields_modify.mp run]⟩

/-- The commands that connect two ports. -/
def connecting (source target : NodePath) : List Command :=
  [.holdSource source, .connect source target, .releaseSource source]

theorem sends_connect : Sends (connect (.path source) (.path target)) ()
    (connecting source target) := by
  refine Sends.send.bind (Sends.send.bind fun _ _ _ run => ?_)
  replace run := run.afterGet
  split at run
  · exact run.throw
  · exact Sends.send run

theorem sends_addInput (plain : plainName type) :
    Sends (addInput node name type) (node.port name) [.createInput node name type] := by
  unfold addInput declareInput
  rw [portTypeName_plainName plain, Act.ok_bind]
  exact Sends.send.bind .pure

theorem sends_addOutput (plain : plainName type) :
    Sends (discard (addOutput node name type)) () [.createOutput node name type] := by
  unfold addOutput declareOutput
  rw [portTypeName_plainName plain, Act.ok_bind]
  exact (Sends.send.bind .pure).bind .pure

/-- The commands that pass a text through the port of a compound that has its number. -/
def passing (compound joining : NodePath) (text : NodePath × Nat) : List Command :=
  let port := s!"string{text.2}"
  [.createOutput compound.input port "string"] ++ (connecting text.1 (compound.port port) ++
    ([.createInput joining s!"strings.{port}" "auto"] ++
      connecting (compound.input.port port) (joining.port s!"strings.{port}")))

theorem sends_passTexts (place : Nat) (paths : List NodePath) :
    Sends (passTexts compound joining place (paths.map .path)) ()
      ((paths.zipIdx place).flatMap (passing compound joining)) := by
  induction paths generalizing place with
  | nil => exact .pure
  | cons _ _ ih =>
    rw [zipIdx_cons, flatMap_cons, passing]
    simp only [append_assoc]
    exact (sends_addOutput (by decide)).bind (sends_connect.bind ((sends_addInput (by decide)).bind
      (sends_connect.bind (ih _))))

/-- The commands after a compound and a node in it were created to join texts. -/
def joiningCommands (compound joining : NodePath) (paths : List NodePath) : List Command :=
  paths.zipIdx.flatMap (passing compound joining) ++
    ([.createInput compound.output "output" "string"] ++
    connecting (joining.port "joined") (compound.output.port "output"))

theorem sends_joined :
    Sends (do
        passTexts compound joining 0 (paths.map .path)
        connect (joining.port "joined") (← addInput compound.output "output" "string")
        return compound.port "output")
      (compound.port "output") (joiningCommands compound joining paths) := by
  exact (sends_passTexts 0 paths).bind
    ((sends_addInput (by decide)).bind (sends_connect.bind .pure))

end Commands

variable {levels : Term → Fin 4} {id : Nat} {left right : Arithmetic} {front back : Fin 4}
    {first second : Term}

/-- A tree of texts is accepted as a term. -/
structure Sum (levels : Term → Fin 4) (tree : Arithmetic) (common : Fin 4)
    (term : Term) : Prop where
  made : tree.term = pure term
  typed : operandType term = pure (textType common)
  all : ∀ operand ∈ tree.operands, levels operand = 0 ∨ levels operand = common
  some : common = 0 ∨ ∃ operand ∈ tree.operands, levels operand = common
  texts : emitTexts .math term = tree.operands.mapM emit
  joined : ∀ {id kind sign left right}, tree = .operation id kind sign left right →
    emit term = once id (do joinTexts ((← tree.operands.mapM emit).map .path))

/-- A text that is no sum is built alone. -/
theorem IsText.sum (isText : IsText operand (levels operand)) :
    Sum levels (.operand operand) (levels operand) operand where
  made := rfl
  typed := isText.typed
  all := by simp [Arithmetic.operands]
  some := .inr ⟨operand, .head _, rfl⟩
  texts := by
    obtain ⟨id, form⟩ := operand
    have alone : emitTexts .math (.mk id form) = do return [← emit (.mk id form)] := by
      cases form with
      | binary kind sign type left right => exact (isText.single kind sign type left right rfl).elim
      | _ => rfl
    rw [alone, Arithmetic.operands]
    simp
  joined := nofun

theorem term_sum (sumLeft : Sum levels left front first) (sumRight : Sum levels right back second) :
    (Arithmetic.operation id .math "+" left right).term = (do
      let type ← Typing.arithmetic true "+" (textType front) (textType back)
      return .mk id (.binary .math "+" type first second)) := by
  rw [Arithmetic.term, sumLeft.made, sumRight.made, pure_bind, pure_bind, binaryType, sumLeft.typed,
    sumRight.typed]
  rfl

section Emission

variable {type : PortType} {sign : String} (isText : type.isString = .ok true)

include isText

theorem emitTexts_sum : emitTexts .math (.mk id (.binary .math sign type first second)) = (do
    let front ← emitTexts .math first
    return front ++ (← emitTexts .math second)) := by
  rw [emitTexts]
  simp only [isText, Act.ok_bind]
  rfl

theorem emit_sum : emit (.mk id (.binary .math sign type first second)) =
    once id (do
      joinTexts ((← emitTexts .math (.mk id (.binary .math sign type first second))).map
        .path)) := by
  have form : emitForm (.binary .math sign type first second) = (do
      let front ← emitTexts .math first
      let back ← emitTexts .math second
      joinTexts ((front ++ back).map .path)) := by
    change (liftM type.isString >>= fun _ => _) = _
    rw [isText]
    rfl
  rw [emitTexts_sum isText, emit, form]
  simp only [bind_assoc, pure_bind]

end Emission

theorem Sum.add (sumLeft : Sum levels left front first) (sumRight : Sum levels right back second)
    (agree : ¬(front ≠ 0 ∧ back ≠ 0 ∧ front ≠ back)) :
    ∃ common term, Sum levels (.operation id .math "+" left right) common term := by
  let form : Form := .binary .math "+" (textType (if front ≠ 0 then front else back)) first second
  have texts : emitTexts .math (.mk id form) = (left.operands ++ right.operands).mapM emit := by
    rw [emitTexts_sum (isString_textType _), mapM_append, sumLeft.texts, sumRight.texts]
  refine ⟨_, .mk id form, ?_, Arithmetic.operandType_eq rfl ?_, ?_, ?_, texts, ?_⟩
  · rw [term_sum sumLeft sumRight, arithmetic_text, if_neg agree]
    rfl
  · exact beq_eq_false_iff_ne.mpr (listed_string.ne_nodeName _)
  · have := sumLeft.all
    have := sumRight.all
    simp only [Arithmetic.operands, mem_append]
    grind
  · have := sumLeft.some
    have := sumRight.some
    simp only [Arithmetic.operands, mem_append]
    grind
  · intro _ _ _ _ _ same
    cases same
    rw [Arithmetic.operands, ← texts]
    exact emit_sum (isString_textType _)

theorem sum_or_mismatch (adds : Adds tree)
    (texts : ∀ operand ∈ tree.operands, IsText operand (levels operand)) :
    (∃ common term, Sum levels tree common term) ∨
      ¬Agree levels tree.operands ∧ tree.term = Verdict.reject mismatch := by
  induction tree with
  | operand term => exact .inl ⟨_, term, (texts term (.head _)).sum⟩
  | operation _ _ _ left right ihLeft ihRight =>
    obtain ⟨rfl, rfl, addsLeft, addsRight⟩ := adds
    obtain ⟨textsLeft, textsRight⟩ := forall_mem_append.mp texts
    have narrow {operands : List Term} (subset : operands ⊆ left.operands ++ right.operands) :
        Agree levels (left.operands ++ right.operands) → Agree levels operands :=
      fun ⟨common, all⟩ => ⟨common, fun operand member => all operand (subset member)⟩
    rcases ihLeft addsLeft textsLeft with ⟨front, _, sumLeft⟩ | ⟨disagree, rejected⟩
    · rcases ihRight addsRight textsRight with ⟨back, _, sumRight⟩ | ⟨disagree, rejected⟩
      · by_cases differ : front ≠ 0 ∧ back ≠ 0 ∧ front ≠ back
        · refine .inr ⟨?_, by rw [term_sum sumLeft sumRight, arithmetic_text, if_pos differ]; rfl⟩
          rintro ⟨_, all⟩
          obtain ⟨early, inLeft, _⟩ := sumLeft.some.resolve_left differ.1
          obtain ⟨late, inRight, _⟩ := sumRight.some.resolve_left differ.2.1
          have := all early (mem_append_left _ inLeft)
          have := all late (mem_append_right _ inRight)
          grind
        · exact .inl (sumLeft.add sumRight differ)
      · refine .inr ⟨mt (narrow (subset_append_right ..)) disagree, ?_⟩
        rw [Arithmetic.term, sumLeft.made, rejected]
        rfl
    · refine .inr ⟨mt (narrow (subset_append_left ..)) disagree, ?_⟩
      rw [Arithmetic.term, rejected]
      rfl

/-- A sum of texts is accepted if its operands that are arrays have the same levels, however it is
bracketed.  It builds every operand once, in order, and one compound with a node that joins texts.
The commands after that pass the texts to the node in order, and what it gives out to the output of
the compound. -/
theorem sum_of_texts {kind : OperatorKind} {sign : String}
    (adds : Adds (.operation id kind sign left right))
    (texts : ∀ operand ∈ left.operands ++ right.operands, IsText operand (levels operand)) :
    (Agree levels (left.operands ++ right.operands) ∧
      ∃ term, (Arithmetic.operation id kind sign left right).term = pure term ∧
        emit term =
          once id (do joinTexts ((← (left.operands ++ right.operands).mapM emit).map .path)) ∧
        ∀ ⦃before port after⦄, before.built[id]? = none → Yields (emit term) before port after →
          ∃ paths middle compound opened joining created,
            Yields ((left.operands ++ right.operands).mapM emit) before paths middle ∧
            Yields (createCompound "build_string2" .nothing) middle compound opened ∧
            Yields (createNamedNode "build_string" .nothing compound) opened joining created ∧
            port = compound.port "output" ∧
            after = { created with
              commands := created.commands ++ (joiningCommands compound joining paths).toArray
              built := created.built.insert id port }) ∨
    (¬Agree levels (left.operands ++ right.operands) ∧
      (Arithmetic.operation id kind sign left right).term = Verdict.reject mismatch) := by
  refine (sum_or_mismatch adds texts).imp_left ?_
  rintro ⟨common, term, sum⟩
  refine ⟨⟨common, sum.all⟩, term, sum.made, sum.joined rfl, fun before port after fresh run => ?_⟩
  rw [sum.joined rfl] at run
  obtain ⟨_, builds, rfl⟩ := yields_once fresh run
  obtain ⟨paths, middle, operands, joins⟩ := builds.bind
  obtain ⟨compound, opened, opens, joins⟩ := joins.bind
  obtain ⟨joining, created, creates, joins⟩ := joins.bind
  obtain ⟨rfl, rfl⟩ := sends_joined joins
  exact ⟨paths, middle, compound, opened, joining, created, operands, opens, creates, rfl, rfl⟩

/-- A text. -/
def greeting : Term := .mk 0 (.value (.text "hello") (textType 0))

/-- A variable with an array of texts. -/
def names : Term := .mk 1 (.reference "names" (textType 1))

/-- A greeting on both sides of names, bracketed to the right. -/
def greetings : Arithmetic :=
  .operation 3 .math "+" (.operand greeting)
    (.operation 2 .math "+" (.operand names) (.operand greeting))

theorem sum_of_texts_greetings :
    ∃ term, greetings.term = pure term ∧
      emit term = once 3 (do joinTexts ((← [greeting, names, greeting].mapM emit).map .path)) := by
  have adds : Adds greetings := ⟨rfl, rfl, trivial, rfl, rfl, trivial, trivial⟩
  have texts : ∀ operand ∈ [greeting, names, greeting],
    IsText operand (Fin.ofNat 4 operand.id) := by
    simp only [forall_mem_cons]
    exact ⟨⟨rfl, nofun⟩, ⟨rfl, nofun⟩, ⟨rfl, nofun⟩, nofun⟩
  have agree : Agree (fun operand => Fin.ofNat 4 operand.id) [greeting, names, greeting] :=
    ⟨1, by decide⟩
  obtain ⟨-, term, made, emits, -⟩ := (sum_of_texts adds texts).resolve_right fun disagree =>
    disagree.1 agree
  exact ⟨term, made, emits⟩

end GraphScript.Emission
