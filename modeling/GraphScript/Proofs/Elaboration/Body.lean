import GraphScript.Proofs.Elaboration.Inside
import GraphScript.Proofs.Elaboration.Header
import GraphScript.Proofs.Program.StraightLine

/-!
# Bodies are settled

The statements of a body borrow only nodes that assignments before them own: a variable holds a node
only after an assignment to it, names are looked up in the innermost body only, and a body starts
with variables that hold no nodes.

A name that a body knows stays known to the end of the body, and no declaration in the body is of
such a name.
-/

namespace GraphScript.Elaboration

open Act (Keeps Yields yields_bind yields_pure yields_get yields_lift yields_ite)
open GraphScript.Language (Tree)
open Program

/-! ## Storing names -/

/-- The innermost body knows a name. -/
def Knows (scopes : Scopes Term) (name : String) : Prop :=
  ∃ type, scopes.type? name = .ok (some type)

/-- What stays when names are stored in the innermost body. -/
def Session.outer (session : Session) : Nat × List (Frame Term) × Table Function :=
  (session.nextId, session.scopes.tail, session.functions)

theorem Session.outer_eq_iff {first second : Session} :
    first.outer = second.outer ↔
      first.nextId = second.nextId ∧ first.scopes.tail = second.scopes.tail ∧
        first.functions = second.functions := by
  simp only [Session.outer, Prod.mk.injEq]

/-- Only the names of the innermost body changed: its variables hold known nodes, and it knows at
least the names that it knew. -/
structure Stays (known : List Term) (before after : Session) : Prop where
  outer : after.outer = before.outer
  ok : after.Ok known
  knows : ∀ name, Knows before.scopes name → Knows after.scopes name

namespace Stays

theorem refl (ok : before.Ok known) : Stays known before before := ⟨rfl, ok, fun _ => id⟩

theorem trans (first : Stays known before middle) (second : Stays known middle after) :
    Stays known before after :=
  ⟨second.outer.trans first.outer, second.ok, fun name knows =>
    second.knows name (first.knows name knows)⟩

theorem step {action : Elaborating α} (stays : Stays known before middle)
    (keeps : Keeps Session.ledger action) (run : Yields action middle value after) :
    Stays known before after := by
  have same := keeps.of_yields run
  obtain ⟨nextId, scopes, functions⟩ := Session.ledger_eq_iff.mp same
  refine ⟨Eq.trans ?_ stays.outer, stays.ok.of_ledger same, scopes ▸ stays.knows⟩
  rw [Session.outer_eq_iff, nextId, scopes, functions]
  exact ⟨rfl, rfl, rfl⟩

end Stays

variable {session : Session}

theorem Session.Ok.mono (ok : session.Ok known) (subset : known ⊆ more) : session.Ok more :=
  ⟨ok.functions, fun node holds => subset (ok.holds node holds)⟩

variable {frame : Frame Term}

theorem holds_insert (holds : Holds (frame.insert asResult name binding :: rest) node) :
    Holds (frame :: rest) node ∨ binding.value = some node ∧ node.form.makesNode := by
  obtain ⟨_, other, head, found, makesNode⟩ := holds
  cases head
  cases asResult with
  | true => exact .inl ⟨frame, other, rfl, found, makesNode⟩
  | false =>
    simp only [Frame.insert, Frame.value?, Table.get?_insert, Bool.false_eq_true, if_false] at found
    split at found
    · exact .inr ⟨found, makesNode⟩
    · exact .inl ⟨frame, other, rfl, found, makesNode⟩

section Names

theorem yields_setName_cons (run : Yields (setName asResult name type value) before done after) :
    ∃ frame rest, before.scopes = frame :: rest ∧
      after = { before with scopes := frame.insert asResult name ⟨type, value⟩ :: rest } := by
  obtain ⟨_, found, rfl⟩ := yields_setName.mp run
  unfold Scopes.set at found
  split at found
  · cases found
  · cases frames : before.scopes with
    | nil =>
      rw [frames] at found
      cases found
    | cons frame rest =>
      rw [frames] at found
      cases found
      exact ⟨frame, rest, rfl, rfl⟩

theorem knows_cons : Knows (frame :: rest) name ↔ (frame.type? name).isSome = true := by
  have same : Scopes.type? (frame :: rest) name = .ok (frame.type? name) := rfl
  rw [Knows, same, Option.isSome_iff_exists]
  simp

theorem type?_insert :
    ((frame.insert asResult other binding).type? name).isSome = true ↔
      name = other ∨ (frame.type? name).isSome = true := by
  cases asResult <;> by_cases same : name = other <;>
    simp [Frame.insert, Frame.type?, Table.get?_insert, same]

/-- Storing a name adds it to the names that are known. -/
theorem knows_setName (run : Yields (setName asResult other type value) before done after) :
    Knows after.scopes name ↔ name = other ∨ Knows before.scopes name := by
  obtain ⟨_, _, frames, rfl⟩ := yields_setName_cons run
  rw [frames]
  exact knows_cons.trans (type?_insert.trans (or_congr_right knows_cons.symm))

theorem stays_setName (ok : before.Ok known)
    (isKnown : ∀ node, value = some node → node.form.makesNode → node ∈ known)
    (run : Yields (setName asResult name type value) before done after) :
    Stays known before after := by
  have knows := fun other (knows : Knows before.scopes other) =>
    (knows_setName run).mpr (.inr knows)
  obtain ⟨_, _, frames, rfl⟩ := yields_setName_cons run
  refine ⟨?_, ⟨ok.functions, fun node holds => ?_⟩, knows⟩
  · rw [Session.outer_eq_iff, frames]
    exact ⟨rfl, rfl, rfl⟩
  · rcases holds_insert holds with earlier | ⟨same, makesNode⟩
    · exact ok.holds node (frames ▸ earlier)
    · exact isKnown node same makesNode

theorem stays_setNone (ok : before.Ok known)
    (run : Yields (setName asResult name type none) before done after) : Stays known before after :=
  stays_setName ok (fun _ impossible => by cases impossible) run

end Names

/-- An action stores names of the innermost body at most. -/
def Stores {α : Type} (known : List Term) (action : Elaborating α) : Prop :=
  ∀ ⦃before after : Session⦄ ⦃value : α⦄, before.Ok known → Yields action before value after →
    Stays known before after

namespace Stores

theorem step (keeps : Keeps Session.ledger action) : Stores known action :=
  fun _ _ _ ok run => (Stays.refl ok).step keeps run

theorem bind (stores : Stores known action) (storesNext : ∀ value, Stores known (next value)) :
    Stores known (action >>= next) := by
  intro _ _ _ ok run
  obtain ⟨value, _, runFirst, runNext⟩ := run.bind
  have stays := stores ok runFirst
  exact stays.trans (storesNext value stays.ok runNext)

theorem after (keeps : Keeps Session.ledger action)
    (storesNext : ∀ value, Stores known (next value)) : Stores known (action >>= next) :=
  bind (step keeps) storesNext

end Stores

theorem Naming.stores [naming : Naming action] : Stores known action := by
  induction naming with
  | quiet => exact .step Quiet.keeps
  | bind _ _ stores storesNext => exact .bind stores storesNext
  | typeOf name => exact .step (keeps_typeOf? name)
  | isResult name => exact .step (keeps_isResult name)
  | store => exact fun _ _ _ ok run => stays_setNone ok run

section Targets

theorem declared?_elementTarget
    (run : Yields (elementTarget spot nameSpot indexSpot other index) before aim after) :
    aim.target.declared? = none := by
  simp only [elementTarget, yields_bind] at run
  obtain ⟨_, _, -, _, _, -, _, _, -, _, _, -, run⟩ := run
  split at run
  · simp only [yields_bind, yields_ite, yields_pure, yields_report, false_and, exists_false,
      if_false_left] at run
    obtain ⟨_, _, -, -, run⟩ := run
    split at run
    · obtain ⟨_, _, -, _, _, -, rfl, rfl⟩ := run
      rfl
    · obtain ⟨_, _, -, _, _, -, _, _, -, rfl, rfl⟩ := run
      rfl
  · rw [yields_ite] at run
    split at run
    · simp only [yields_bind, yields_ite, yields_pure, yields_report, false_and, exists_false,
        if_false_left] at run
      obtain ⟨_, _, -, -, _, _, -, _, _, -, rfl, rfl⟩ := run
      rfl
    · exact (yields_report.mp run).elim

theorem undeclared_target (knows : Knows before.scopes name)
    (run : Yields (target written) before aim after) : (aimed aim).declared? ≠ some name := by
  cases written with
  | ignored =>
    obtain ⟨rfl, rfl⟩ := run.pure
    simp [aimed, Target.declared?]
  | declared _ _ _ declared =>
    simp only [target, declaredTarget, typeOf?, yields_bind, yields_ite, yields_pure, yields_lift,
      yields_get, yields_report, false_and, exists_false, if_false_left] at run
    obtain ⟨_, _, ⟨found, _, ⟨_, _, ⟨rfl, rfl⟩, look, rfl⟩, unknown, -, _, _, ⟨-, rfl⟩, rfl, rfl⟩,
      rfl, rfl⟩ := run
    intro same
    obtain rfl : declared = _ := Option.some.inj same
    obtain ⟨known, holds⟩ := knows
    obtain rfl : found = some _ := Except.ok.inj (look.symm.trans holds)
    exact unknown rfl
  | named =>
    simp only [target, namedTarget, yields_bind, yields_pure] at run
    obtain ⟨_, _, ⟨found, _, -, run⟩, rfl, rfl⟩ := run
    cases found with
    | none => simp only [yields_bind, yields_report, and_false, exists_false] at run
    | some =>
      obtain ⟨rfl, rfl⟩ := run.pure
      simp [aimed, Target.declared?]
  | member =>
    simp only [target, memberTarget, yields_bind, yields_pure] at run
    obtain ⟨_, _, ⟨_, _, -, _, _, -, _, _, -, _, _, -, rfl, rfl⟩, rfl, rfl⟩ := run
    simp [aimed, Target.declared?]
  | element =>
    obtain ⟨_, runAim, rfl⟩ := run.mapped
    simp [aimed, declared?_elementTarget runAim]

theorem undeclared_targets :
    ∀ {written : List Syntax.Target} {before after : Session} {aims : List (Option Aim)},
      before.Ok known → Knows before.scopes name → Yields (targets written) before aims after →
      name ∉ (aims.map aimed).filterMap Target.declared?
  | [], _, _, _ => by
    intro ok knows run
    obtain ⟨rfl, rfl⟩ := run.pure
    exact List.not_mem_nil
  | written :: _, _, _, _ => by
    intro ok knows run
    simp only [targets, yields_bind, yields_pure] at run
    obtain ⟨_, _, runFirst, _, _, runRest, rfl, rfl⟩ := run
    have made := (crafts_target written).toMakes.made ok runFirst
    have later := undeclared_targets made.ok (made.scopes ▸ knows) runRest
    have now := undeclared_target knows runFirst
    simp only [List.map_cons, List.filterMap_cons]
    split
    · exact later
    · rename_i declared isDeclared
      rw [List.mem_cons, not_or]
      refine ⟨?_, later⟩
      rintro rfl
      exact now isDeclared

end Targets

/-! ## Assignments -/

section Assignments

theorem stores_storeVariable (isKnown : value.form.makesNode → value ∈ known)
    (name : String) (type : PortType) : Stores known (storeVariable name type value) := by
  refine .after (keeps_isResult name) fun _ _ _ _ ok run => ?_
  refine stays_setName ok (fun _ same makesNode => ?_) run
  split at same <;> cases same
  exact isKnown makesNode

/-- Assigning stores a name, or checks a type, and keeps the parts of the target and what it
declares. -/
theorem stays_assign {result : Target} (ok : before.Ok known)
    (isKnown : value.form.makesNode → value ∈ known)
    (run : Yields (assign valueSpot value aim type) before result after) :
    Stays known before after ∧ result.contents = aim.target.contents ∧
      result.declared? = aim.target.declared? := by
  unfold assign at run
  split at run
  case h_1 same =>
    obtain ⟨rfl, rfl⟩ := run.pure
    rw [same]
    exact ⟨.refl ok, rfl, rfl⟩
  case h_2 name own same | h_3 name own same =>
    simp only [yields_bind, yields_pure] at run
    obtain ⟨_, _, runStore, _, _, runCheck, rfl, rfl⟩ := run
    rw [same]
    exact ⟨(stores_storeVariable isKnown _ _ ok runStore).step Quiet.keeps runCheck,
      rfl, rfl⟩
  case h_4 id kind base accessor own same =>
    simp only [yields_ite, yields_bind, yields_pure, yields_report, false_and, exists_false,
      if_false_left] at run
    rw [same]
    split at run
    · obtain ⟨-, rfl, rfl⟩ := run
      exact ⟨.refl ok, rfl, rfl⟩
    · obtain ⟨_, _, runCheck, rfl, rfl⟩ := run
      exact ⟨(Stays.refl ok).step Quiet.keeps runCheck, rfl, rfl⟩

theorem stays_assignAll :
    ∀ {aims : List (Option Aim)} {types : List PortType} {before after : Session}
      {results : List Target}, before.Ok known → (value.form.makesNode → value ∈ known) →
      Yields (assignAll valueSpot value aims types) before results after →
      Stays known before after ∧ targetsContents results = targetsContents (aims.map aimed) ∧
        results.map Target.declared? = (aims.map aimed).map Target.declared?
  | [], _, _, _, _ => by
    intro ok isKnown run
    obtain ⟨rfl, rfl⟩ := run.pure
    exact ⟨.refl ok, rfl, rfl⟩
  | none :: _, _, _, _, _ | some _ :: _, [], _, _, _ => by
    intro ok isKnown run
    obtain ⟨others, runRest, rfl⟩ := run.mapped
    obtain ⟨stays, contents, declared⟩ := stays_assignAll ok isKnown runRest
    exact ⟨stays, congrArg (_ ++ ·) contents, congrArg (_ :: ·) declared⟩
  | some _ :: _, _ :: _, _, _, _ => by
    intro ok isKnown run
    simp only [assignAll, yields_bind, yields_pure] at run
    obtain ⟨_, _, runFirst, _, _, runRest, rfl, rfl⟩ := run
    obtain ⟨stays, sameContents, sameDeclared⟩ := stays_assign ok isKnown runFirst
    obtain ⟨staysRest, contents, declared⟩ := stays_assignAll stays.ok isKnown runRest
    exact ⟨stays.trans staysRest, congrArg₂ (· ++ ·) sameContents contents,
      congrArg₂ List.cons sameDeclared declared⟩

end Assignments

/-! ## Statements without the empty ones -/

/-- Some empty statements are left out. -/
inductive Thins : List Statement → List Statement → Prop
  | nil : Thins [] []
  | drop {code thin : List Statement} : Thins code thin → Thins (.empty :: code) thin
  | keep {code thin : List Statement} (statement : Statement) :
      Thins code thin → Thins (statement :: code) (statement :: thin)

theorem thins_withoutEmpty : ∀ code : List Statement, Thins code (withoutEmpty code)
  | [] => .nil
  | [last] => .keep last .nil
  | first :: next :: rest => by
    have later := thins_withoutEmpty (next :: rest)
    cases first with
    | empty => exact .drop later
    | _ => exact .keep _ later

namespace Thins

/-- An empty statement assigns nothing and borrows nothing. -/
theorem settled (thins : Thins code thin) (settled : Settled known code) : Settled known thin := by
  induction thins generalizing known with
  | nil => trivial
  | drop _ ih => exact ih (by simpa [Statement.assigned] using settled.2)
  | keep _ _ ih => exact ⟨settled.1, ih settled.2⟩

theorem assigned (thins : Thins code thin) : assignedIn thin = assignedIn code := by
  induction thins with
  | nil => rfl
  | drop _ ih => exact ih
  | keep statement _ ih => exact congrArg (statement.assigned ++ ·) ih

theorem numbers (thins : Thins code thin) :
    (statementsContents thin).numbers = (statementsContents code).numbers := by
  induction thins with
  | nil => rfl
  | drop _ ih => exact ih
  | keep _ _ ih =>
    simp only [statementsContents, Contents.numbers_append, ih]

theorem subset (thins : Thins code thin) : thin ⊆ code := by
  induction thins with
  | nil => exact List.Subset.refl _
  | drop _ ih => exact List.subset_cons_of_subset _ ih
  | keep _ _ ih => exact List.cons_subset_cons _ ih

end Thins

theorem mem_items_statementsContents :
    item ∈ (statementsContents code).items ↔
      ∃ statement ∈ code, item ∈ statement.contents.items := by
  induction code with
  | nil => simp [statementsContents]
  | cons _ _ ih => simp [statementsContents, ih]

theorem Spans.withoutEmpty (spans : Spans low high (statementsContents code ++ contents)) :
    Spans low high (statementsContents (withoutEmpty code) ++ contents) := by
  have thins := thins_withoutEmpty code
  refine spans.congr ?_ ?_
  · rw [Contents.numbers_append, Contents.numbers_append, thins.numbers]
  · intro _ member
    rcases List.mem_append.mp member with inCode | after
    · obtain ⟨statement, inside, own⟩ := mem_items_statementsContents.mp inCode
      exact List.mem_append_left _
        (mem_items_statementsContents.mpr ⟨statement, thins.subset inside, own⟩)
    · exact List.mem_append_right _ after

/-! ## Frames -/

theorem yields_inFrame (run : Yields (inFrame body) before value after) :
    ∃ frame inner, Yields body { before with scopes := before.scopes.enter } value inner ∧
      inner.scopes = frame :: after.scopes ∧ after = { inner with scopes := after.scopes } := by
  obtain ⟨frame, _, inner, runBody, frames, rfl⟩ := yields_inFrame_iff.mp run
  exact ⟨frame, inner, runBody, frames, rfl⟩

/-- No variable of a new body holds a node. -/
theorem Session.Ok.enter (ok : session.Ok known) :
    Session.Ok [] { session with scopes := session.scopes.enter } := by
  refine ⟨ok.functions, fun _ holds => ?_⟩
  obtain ⟨_, _, head, found, -⟩ := holds
  cases head
  cases found

theorem Session.Ok.inLoops (ok : session.Ok known) (loops : Nat) :
    Session.Ok known { session with loops := loops } :=
  ⟨ok.functions, ok.holds⟩

/-! ## Statements -/

/-- What is known of a statement that was elaborated between two states. -/
structure Stated (known : List Term) (before after : Session) (statement : Statement) : Prop where
  spans : Spans before.nextId after.nextId statement.contents
  tail : after.scopes.tail = before.scopes.tail
  ok : after.Ok (known ++ statement.assigned)
  held : ∀ node ∈ statement.contents.borrowed, node ∈ known
  knows : ∀ name, Knows before.scopes name → Knows after.scopes name ∧ name ∉ statement.declares

/-- What is known of statements that were elaborated between two states. -/
structure Ran (known : List Term) (before after : Session) (code : List Statement) : Prop where
  spans : Spans before.nextId after.nextId (statementsContents code)
  tail : after.scopes.tail = before.scopes.tail
  ok : after.Ok (known ++ assignedIn code)
  settled : Settled known code
  undeclared : ∀ name, Knows before.scopes name → ∀ statement ∈ code, name ∉ statement.declares

section Statements

theorem Ran.nil (ok : before.Ok known) : Ran known before before [] :=
  ⟨.nothing (le_refl _), rfl, by simpa [assignedIn] using ok, trivial, by simp⟩

theorem Ran.cons {statement : Statement} (first : Stated known before middle statement)
    (others : Ran (known ++ statement.assigned) middle after rest) :
    Ran known before after (statement :: rest) where
  spans := first.spans.append others.spans
  tail := others.tail.trans first.tail
  ok := by
    have ok := others.ok
    rw [List.append_assoc] at ok
    exact ok
  settled := ⟨first.held, others.settled⟩
  undeclared := fun name knows => List.forall_mem_cons.mpr
    ⟨(first.knows name knows).2, others.undeclared name (first.knows name knows).1⟩

theorem stated_make {result : Statement} (ok : before.Ok known)
    (makes : Makes known .none action Term.contents)
    (run : Yields (do return .make (← action)) before result after) :
    Stated known before after result := by
  obtain ⟨_, runTerm, rfl⟩ := run.mapped
  have made := makes.made ok runTerm
  exact ⟨made.spans, by rw [made.scopes], by simpa [Statement.assigned] using made.ok, made.held,
    fun _ knows => ⟨made.scopes ▸ knows, List.not_mem_nil⟩⟩

theorem stated_takeOver {outputs : Outputs} {id : Nat}
    (made : Made known before middle node.contents)
    (runTake : Yields (takeOutputs spot outputs) middle done taken)
    (runId : Yields freshId taken id after) : Stated known before after (.takeOver id node) := by
  have stays := Naming.stores made.ok runTake
  obtain ⟨nextId, tail, -⟩ := Session.outer_eq_iff.mp stays.outer
  obtain ⟨rfl, rfl⟩ := yields_freshId.mp runId
  refine ⟨?_, ?_, ⟨stays.ok.functions, ?_⟩, ?_, ?_⟩
  · rw [nextId]
    exact made.spans.append (.one rfl trivial)
  · rw [tail, made.scopes]
  · simpa [Statement.assigned] using stays.ok.holds
  · simpa [Statement.contents] using made.held
  · exact fun name knows => ⟨stays.knows name (made.scopes ▸ knows), List.not_mem_nil⟩

theorem stated_assignment {operator : String} {result : Statement}
    (made : Made known before middle value.contents)
    (run : Yields (assignment valueSpot written operator value) middle result after) :
    Stated known before after result := by
  simp only [assignment, yields_bind, yields_lift] at run
  obtain ⟨aims, first, runTargets, type, _, ⟨-, rfl⟩, run⟩ := run
  have madeAims := (crafts_targets written).toMakes.onto made runTargets
  have inner : ∃ checked assigned second, Made known before checked
        (value.contents ++ targetsContents (aims.map aimed)) ∧
      Yields (assignAll valueSpot value aims (assignedTypes operator aims.length type)) checked
        assigned second ∧
      ∃ id, Yields freshId second id after ∧ .assignment id assigned operator value = result := by
    split at run
    · simp only [yields_bind, yields_pure] at run
      obtain ⟨_, checked, runCheck, assigned, second, runAssign, id, _, runId, same, rfl⟩ := run
      exact ⟨checked, assigned, second, madeAims.step Quiet.keeps runCheck, runAssign, id,
        runId, same⟩
    · simp only [yields_bind, yields_pure] at run
      obtain ⟨assigned, second, runAssign, id, _, runId, same, rfl⟩ := run
      exact ⟨first, assigned, second, madeAims, runAssign, id, runId, same⟩
  obtain ⟨_, assigned, _, madeChecked, runAssign, id, runId, rfl⟩ := inner
  have isKnown : value.form.makesNode →
      value ∈ known ++ (Statement.assignment id assigned operator value).assigned := by
    intro makesNode
    simp [Statement.assigned, makesNode]
  obtain ⟨stays, contents, declared⟩ :=
    stays_assignAll (madeChecked.ok.mono (List.subset_append_left _ _)) isKnown runAssign
  obtain ⟨nextId, tail, -⟩ := Session.outer_eq_iff.mp stays.outer
  obtain ⟨rfl, rfl⟩ := yields_freshId.mp runId
  rw [← contents] at madeChecked
  refine ⟨?_, ?_, ⟨stays.ok.functions, stays.ok.holds⟩, ?_, fun name knows => ⟨?_, ?_⟩⟩
  · rw [nextId]
    exact madeChecked.spans.append (.one rfl trivial)
  · rw [tail, madeChecked.scopes]
  · simpa [Statement.contents] using madeChecked.held
  · exact stays.knows name (madeChecked.scopes ▸ knows)
  · intro declares
    obtain ⟨target, member, isDeclared⟩ := List.mem_filterMap.mp declares
    have listed : some name ∈ assigned.map Target.declared? :=
      List.mem_map.mpr ⟨target, member, isDeclared⟩
    rw [declared] at listed
    exact undeclared_targets made.ok (made.scopes ▸ knows) runTargets
      (List.mem_filterMap.mpr (List.mem_map.mp listed))

/-- The parts of a body, seen from outside of it. -/
theorem made_enclosed {inner : Session} (ok : before.Ok known)
    (spans : Spans before.nextId inner.nextId (statementsContents code ++ optionContents condition))
    (tail : inner.scopes.tail = before.scopes) (innerOk : ∃ inside, inner.Ok inside)
    (frames : inner.scopes = frame :: after.scopes)
    (left : after = { inner with scopes := after.scopes }) : Made known before after
      (statementsContents (withoutEmpty code) ++ optionContents condition).enclosed := by
  have scopes : after.scopes = before.scopes := by
    rw [← tail, frames, List.tail_cons]
  obtain ⟨_, innerOk⟩ := innerOk
  have spans := spans.withoutEmpty
  refine ⟨?_, scopes, ⟨?_, ?_⟩, by simp⟩
  · rw [left]
    exact ⟨spans.le, spans.nodup, spans.range, spans.sound⟩
  · rw [left]
    exact innerOk.functions
  · rw [scopes]
    exact ok.holds

end Statements

/-! ## The recursion -/

mutual

theorem stated_statement {result : Statement} :
    ∀ written : Syntax.Statement, before.Ok known → Yields (statement written) before result after →
      Stated known before after result
  | .empty => by
    intro ok run
    obtain ⟨rfl, rfl⟩ := run
    refine ⟨⟨le_refl _, ?_, ?_, ?_⟩, rfl, ?_, ?_, fun _ knows => ⟨knows, List.not_mem_nil⟩⟩
    all_goals simp [Statement.contents, Item.number?, Item.Sound, Statement.assigned, ok]
  | .block written => by
    intro ok run
    exact stated_make ok (makes_block written) run
  | .loop written => by
    intro ok run
    exact stated_make ok (makes_loop written) run
  | .takeOver _ written => by
    intro ok run
    simp only [statement, yields_bind, yields_lift, yields_pure] at run
    obtain ⟨_, first, runNode, _, _, ⟨-, rfl⟩, _, _, runTake, _, _, runId, rfl, rfl⟩ := run
    exact stated_takeOver ((makes_maker written).made ok runNode) runTake runId
  | .assignment _ _ _ written => by
    intro ok run
    simp only [statement, yields_bind] at run
    obtain ⟨_, _, runValue, run⟩ := run
    exact stated_assignment ((makes_maker written).made ok runValue) run
  | .call written => by
    intro ok run
    exact stated_make ok (Crafts.toMakes (crafts_call written trivial)) run

theorem ran_statements {results : List Statement} :
    ∀ written : List Syntax.Statement, before.Ok known →
      Yields (statements written) before results after → Ran known before after results
  | [] => by
    intro ok run
    obtain ⟨rfl, rfl⟩ := run
    exact Ran.nil ok
  | written :: rest => by
    intro ok run
    simp only [statements, yields_bind, yields_pure] at run
    obtain ⟨_, _, runFirst, _, _, runRest, rfl, rfl⟩ := run
    have stated := stated_statement written ok runFirst
    exact Ran.cons stated (ran_statements rest stated.ok runRest)

theorem makes_maker :
    ∀ written : Syntax.Maker, Makes known .none (maker written) Term.contents
  | .expr written => by
    exact Crafts.toMakes (crafts_expression written trivial)
  | .block written => by
    exact makes_block written
  | .loop written => by
    exact makes_loop written

theorem makes_block {known : List Term} :
    ∀ written : Syntax.Block, Makes known .none (block written) Term.contents
  | .mk _ _ _ _ code => by
    intro _ _ _ _ made run
    simp only [block, yields_bind] at run
    obtain ⟨settled, _, runFlags, _, _, runParameters, _, _, runResults, _,
      fourth, runDisjoint, _, fifth, runFeedback, statements, sixth, runBody, runFresh⟩ := run
    have made := made.step Quiet.keeps runFlags
    have made := Crafts.toMakes (crafts_parameters trivial) made runParameters
    have made := made.step Quiet.keeps runResults
    have made := made.step Quiet.keeps runDisjoint
    have made := made.step Quiet.keeps runFeedback
    obtain ⟨_, inner, runInner, frames, left⟩ := yields_inFrame runBody
    obtain ⟨_, _, runOpen, runCode⟩ := runInner.bind
    have stays := Naming.stores made.ok.enter runOpen
    obtain ⟨nextId, tail, -⟩ := Session.outer_eq_iff.mp stays.outer
    have ran := ran_statements code stays.ok runCode
    have spans : Spans fifth.nextId inner.nextId
        (statementsContents statements ++ optionContents none) := by
      have spans := ran.spans.append (.nothing (le_refl _))
      rw [nextId] at spans
      exact spans
    have madeCode := made_enclosed made.ok spans (ran.tail.trans tail) ⟨_, ran.ok⟩ frames left
    rw [optionContents, Contents.append_none] at madeCode
    have header := wellFormed_scope runParameters runResults runDisjoint runFeedback
    refine Makes.term ?_ rfl (made.append madeCode) runFresh
    exact fun _ => ⟨header, (thins_withoutEmpty _).settled ran.settled⟩

theorem makes_loop {known : List Term} :
    ∀ written : Syntax.Loop, Makes known .none (loop written) Term.contents
  | .mk _ _ _ _ _ _ _ _ code
      condition => by
      intro _ _ _ _ made run
      simp only [loop, yields_bind] at run
      obtain ⟨settled, _, runFlags, ⟨_, _⟩, _, runSettings, _, _,
        runParameters, results, fourth, runResults, _, fifth, runCheck, ⟨statements, term⟩, sixth,
        runBody, runFresh⟩ := run
      have made := made.step Quiet.keeps runFlags
      have made := Crafts.toMakes (crafts_loopSettings trivial) made runSettings
      have made := (Crafts.toMakes (crafts_loopParameters trivial)).onto made runParameters
      have made := made.step Quiet.keeps runResults
      have made := made.step Quiet.keeps runCheck
      obtain ⟨_, _, runInner, frames, left⟩ := yields_inFrame runBody
      simp only [yields_bind, yields_pure] at runInner
      obtain ⟨_, _, runOpen, _, _, runCode, _, _, runCondition, same, rfl⟩ := runInner
      cases same
      have stays := Naming.stores made.ok.enter runOpen
      obtain ⟨nextId, tail, -⟩ := Session.outer_eq_iff.mp stays.outer
      obtain ⟨_, runStatements, rfl⟩ := yields_inLoop runCode
      have ran := ran_statements code (stays.ok.inLoops _) runStatements
      have madeCondition := (Crafts.toMakes (crafts_optionalExpression condition trivial)).made
        (ran.ok.inLoops _) runCondition
      have spans := ran.spans.append madeCondition.spans
      rw [nextId] at spans
      have tail : List.tail _ = fifth.scopes :=
        (congrArg List.tail madeCondition.scopes).trans (ran.tail.trans tail)
      have madeCode := made_enclosed made.ok spans tail ⟨_, madeCondition.ok⟩ frames left
      have header := wellFormed_loop runParameters runResults runCheck
      refine Makes.term ?_ rfl (made.append madeCode) runFresh
      refine fun _ => ⟨header, (thins_withoutEmpty _).settled ran.settled, ?_⟩
      rw [(thins_withoutEmpty _).assigned]
      exact madeCondition.held

end

end GraphScript.Elaboration
