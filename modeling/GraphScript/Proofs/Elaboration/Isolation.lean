import GraphScript.Proofs.Elaboration.Inside

/-!
# Bodies do not see the frames around them

A compound or a loop is elaborated in a frame of its own, and its body depends on no frame but that
one.  So two runs over frames that agree on the names of the header give the same term, and neither
of them changes a frame.
-/

namespace GraphScript.Elaboration

open Act (yields_bind yields_pure yields_lift yields_get)
open GraphScript.Language (Tree)
open Program (Term)
open Act (Yields)

/-! ## Two runs -/

/-- From related sessions an action yields one value and leaves related sessions, wherever it yields
something from both.  If the relation is strict, it does not fail on the second side alone. -/
def Steady {α : Type} (related : Session → Session → Prop) (strict : Prop)
    (action : Elaborating α) : Prop :=
  ∀ ⦃first second⦄, related first second → ∀ ⦃value after⦄, Yields action first value after →
    (strict → ∃ other done, Yields action second other done) ∧
    ∀ ⦃other done⦄, Yields action second other done → other = value ∧ related after done

namespace Steady

theorem bind (steady : Steady related strict action)
    (steadyNext : ∀ value, Steady related strict (next value)) :
    Steady related strict (action >>= next) := by
  intro _ _ start _ _ run
  obtain ⟨_, _, runAction, runNext⟩ := run.bind
  obtain ⟨goes, same⟩ := steady start runAction
  refine ⟨fun isStrict => ?_, fun other done otherRun => ?_⟩
  · obtain ⟨other, place, otherAction⟩ := goes isStrict
    obtain ⟨rfl, relatedMiddle⟩ := same otherAction
    obtain ⟨result, done, otherNext⟩ := (steadyNext other relatedMiddle runNext).1 isStrict
    exact ⟨result, done, yields_bind.mpr ⟨other, place, otherAction, otherNext⟩⟩
  · obtain ⟨other, _, otherAction, otherNext⟩ := otherRun.bind
    obtain ⟨rfl, relatedMiddle⟩ := same otherAction
    exact (steadyNext other relatedMiddle runNext).2 otherNext

/-- An action that never yields anything. -/
theorem fails (never : ∀ session value after, ¬ Yields action session value after) :
    Steady related strict action :=
  fun _ _ _ _ _ run => absurd run (never _ _ _)

theorem pure (value : α) : Steady related strict (pure value : Elaborating α) := by
  intro _ _ start _ _ run
  obtain ⟨rfl, rfl⟩ := run.pure
  refine ⟨fun _ => ⟨_, _, yields_pure.mpr ⟨rfl, rfl⟩⟩, fun _ _ otherRun => ?_⟩
  obtain ⟨rfl, rfl⟩ := otherRun.pure
  exact ⟨rfl, start⟩

theorem ite [Decidable condition] (steadyTrue : Steady related strict whenTrue)
    (steadyFalse : Steady related strict whenFalse) :
    Steady related strict (if condition then whenTrue else whenFalse) := by
  split
  · exact steadyTrue
  · exact steadyFalse

/-- Looking at anything but the frames. -/
theorem look (framed : ∀ ⦃first second⦄, related first second → ∃ others,
    second = first.over others)
    (same : ∀ session scopes, next { session with scopes := scopes } = next session)
    (steadyNext : ∀ session, Steady related strict (next session)) :
    Steady related strict (getThe Session >>= next) := by
  intro first _ start _ _ run
  replace run := run.afterGet
  obtain ⟨others, rfl⟩ := framed start
  obtain ⟨goes, equal⟩ := steadyNext first start run
  rw [← same first others] at goes equal
  refine ⟨fun isStrict => ?_, fun other done otherRun => ?_⟩
  · obtain ⟨other, done, otherRun⟩ := goes isStrict
    exact ⟨other, done, yields_bind.mpr ⟨_, _, yields_get.mpr ⟨rfl, rfl⟩, otherRun⟩⟩
  · replace otherRun := otherRun.afterGet
    exact equal otherRun

end Steady

/-- The second session is the first one over other frames; both sides have the given frames. -/
def Over (scopes others : Scopes Term) (first second : Session) : Prop :=
  first.scopes = scopes ∧ second = first.over others

/-- The two sides have one innermost frame, and the given frames around it. -/
def Inside (scopes others : Scopes Term) (first second : Session) : Prop :=
  ∃ frame, Over (frame :: scopes) (frame :: others) first second

theorem Blind.steady (blind : Blind action) : Steady (Over scopes others) strict action := by
  rintro first _ ⟨rfl, rfl⟩ value after run
  have otherRun : Yields action (first.over others) value (after.over others) := by
    have same := blind first others
    rw [show action.runOn first = _ from run] at same
    exact same
  have kept : after.scopes = first.scopes := by
    have same := blind.scopes_eq first
    rw [show action.runOn first = _ from run] at same
    exact same
  refine ⟨fun _ => ⟨_, _, otherRun⟩, fun _ _ run' => ?_⟩
  obtain ⟨sameValue, rfl⟩ := Prod.mk.inj (run'.symm.trans otherRun)
  exact ⟨Except.ok.inj sameValue, kept, rfl⟩

theorem Steady.inside (steady : ∀ frame, Steady (Over (frame :: scopes) (frame :: others)) strict
    action) : Steady (Inside scopes others) strict action := by
  rintro _ _ ⟨frame, start⟩ _ _ run
  obtain ⟨goes, same⟩ := steady frame start run
  exact ⟨goes, fun _ _ otherRun => (same otherRun).imp_right fun still => ⟨frame, still⟩⟩

theorem Blind.inside (blind : Blind action) : Steady (Inside scopes others) strict action :=
  Steady.inside fun _ => blind.steady

/-! ## Names -/

/-- Two lists of frames give the same types and nodes to some names.  Strictly, they also agree on
which of them are results. -/
def Agree (names : List String) (strict : Prop) (scopes others : Scopes Term) : Prop :=
  ∀ name ∈ names, scopes.type? name = others.type? name ∧ scopes.value? name = others.value? name ∧
    (strict → scopes.isResult name = others.isResult name)

/-- Looking something up in the frames. -/
def lookUp {α : Type} (read : Scopes Term → Except Fault α) : Elaborating α := do
  liftM (read (← getThe Session).scopes)

theorem yields_lookUp {read : Scopes Term → Except Fault α} :
    Yields (lookUp read) session value after ↔ read session.scopes = .ok value ∧
      session = after := by
  constructor
  · intro run
    have runRead := run.afterGet
    exact runRead.lift
  · intro found
    exact yields_bind.mpr ⟨session, session, yields_get.mpr ⟨rfl, rfl⟩, yields_lift.mpr found⟩

theorem typeOf?_eq (name : String) : typeOf? name = lookUp fun scopes => scopes.type? name := rfl

theorem nodeOf?_eq (name : String) : nodeOf? name = lookUp fun scopes => scopes.value? name := rfl

theorem isResult_eq (name : String) : isResult name = lookUp fun scopes =>
    scopes.isResult name := rfl

theorem steady_lookUp {read : Scopes Term → Except Fault α}
    (same : read scopes = read others) : Steady (Over scopes others) strict (lookUp read) := by
  rintro first _ ⟨rfl, rfl⟩ value _ run
  obtain ⟨found, rfl⟩ := yields_lookUp.mp run
  refine ⟨fun _ => ⟨value, first.over others, yields_lookUp.mpr ⟨same ▸ found, rfl⟩⟩, ?_⟩
  intro _ _ otherRun
  obtain ⟨otherFound, rfl⟩ := yields_lookUp.mp otherRun
  rw [Session.scopes_over, ← same, found] at otherFound
  exact ⟨(Except.ok.inj otherFound).symm, rfl, rfl⟩

theorem steady_typeOf? (same : scopes.type? name = others.type? name) :
    Steady (Over scopes others) strict (typeOf? name) := by
  rw [typeOf?_eq]
  exact steady_lookUp same

theorem steady_nodeOf? (same : scopes.value? name = others.value? name) :
    Steady (Over scopes others) strict (nodeOf? name) := by
  rw [nodeOf?_eq]
  exact steady_lookUp same

/-- A name that is read is no result. -/
theorem steady_refuseResult {next : Elaborating α}
    (same : strict → scopes.isResult name = others.isResult name)
    (steady : Steady (Over scopes others) strict next) :
    Steady (Over scopes others) strict (do
      if ← isResult name then report kind spot message
      next) := by
  -- on both sides the name is no result, or nothing is yielded
  have split : ∀ {session after : Session} {value : α},
      Yields (do
        if ← isResult name then report kind spot message
        next) session value after ↔
      session.scopes.isResult name = .ok false ∧ Yields next session value after := by
    intro session after value
    constructor
    · intro run
      obtain ⟨result, _, runResult, rest⟩ := run.bind
      rw [isResult_eq] at runResult
      obtain ⟨found, rfl⟩ := yields_lookUp.mp runResult
      cases result with
      | true => simp at rest
      | false => exact ⟨found, by simpa using rest⟩
    · rintro ⟨found, run⟩
      rw [isResult_eq]
      refine yields_bind.mpr ⟨false, session, yields_lookUp.mpr ⟨found, rfl⟩, ?_⟩
      simpa using run
  intro _ _ start _ _ run
  obtain ⟨found, runNext⟩ := split.mp run
  obtain ⟨goes, sameNext⟩ := steady start runNext
  refine ⟨fun isStrict => ?_, fun other done otherRun => sameNext (split.mp otherRun).2⟩
  obtain ⟨other, done, otherNext⟩ := goes isStrict
  obtain ⟨rfl, rfl⟩ := start
  exact ⟨other, done, split.mpr ⟨same isStrict ▸ found, otherNext⟩⟩

/-! ## Inside of a frame -/

theorem inside_typeOf? (name : String) : Steady (Inside scopes others) strict (typeOf? name) :=
  .inside fun _ => steady_typeOf? rfl

theorem inside_isResult (name : String) : Steady (Inside scopes others) strict (isResult name) := by
  rw [isResult_eq]
  exact .inside fun _ => steady_lookUp rfl

/-- Storing a name changes the innermost frame alone. -/
theorem set_inside (found : Scopes.set (frame :: scopes) asResult name type value = .ok stored) :
    ∃ frame', stored = frame' :: scopes ∧
      Scopes.set (frame :: others) asResult name type value = .ok (frame' :: others) := by
  unfold Scopes.set at found ⊢
  split at found
  · cases found
  · rename_i fits
    rw [if_neg fits]
    exact ⟨_, (Except.ok.inj found).symm, rfl⟩

theorem inside_setName (asResult : Bool) (name : String) (type : PortType) (value : Option Term) :
    Steady (Inside scopes others) strict (setName asResult name type value) := by
  rintro _ _ ⟨_, frames, rfl⟩ _ _ run
  obtain ⟨stored, found, rfl⟩ := yields_setName.mp run
  rw [frames] at found
  obtain ⟨frame', rfl, otherFound⟩ := set_inside found
  refine ⟨fun _ => ⟨(), _, yields_setName.mpr ⟨_, otherFound, rfl⟩⟩, ?_⟩
  intro _ _ otherRun
  obtain ⟨_, found, rfl⟩ := yields_setName.mp otherRun
  cases otherFound.symm.trans found
  exact ⟨rfl, frame', rfl, rfl⟩

/-- What is inside of a frame is closed off by it. -/
theorem Steady.inFrame (steady : Steady (Inside scopes others) strict body) :
    Steady (Over scopes others) strict (inFrame body) := by
  rintro first _ ⟨rfl, rfl⟩ _ _ run
  obtain ⟨_, _, _, runBody, frames, rfl⟩ := yields_inFrame_iff.mp run
  have start : Inside first.scopes others (first.over first.scopes.enter)
      ((first.over others).over others.enter) := ⟨{}, rfl, rfl⟩
  obtain ⟨goes, same⟩ := steady start runBody
  refine ⟨fun isStrict => ?_, fun other done otherRun => ?_⟩
  · obtain ⟨other, _, otherBody⟩ := goes isStrict
    obtain ⟨rfl, top, _, rfl⟩ := same otherBody
    exact ⟨other, _, yields_inFrame_iff.mpr ⟨top, others, _, otherBody, rfl, rfl⟩⟩
  · obtain ⟨_, _, _, otherBody, otherFrames, rfl⟩ :=
      yields_inFrame_iff.mp otherRun
    obtain ⟨rfl, _, innerFrames, rfl⟩ := same otherBody
    obtain ⟨rfl, rfl⟩ := List.cons.inj (frames.symm.trans innerFrames)
    obtain ⟨rfl, rfl⟩ := List.cons.inj otherFrames
    exact ⟨rfl, rfl, rfl⟩

theorem blind_deeper : Blind (modifyThe Session fun session =>
    { session with loops := session.loops + 1 } : Elaborating Unit) := fun _ _ => rfl

theorem blind_back : Blind (modifyThe Session fun session =>
    { session with loops := session.loops - 1 } : Elaborating Unit) := fun _ _ => rfl

theorem Steady.inLoop (steady : Steady (Inside scopes others) strict body) :
    Steady (Inside scopes others) strict (inLoop body) := by
  refine .bind blind_deeper.inside fun _ => ?_
  refine .bind steady fun _ => ?_
  exact .bind blind_back.inside fun _ => .pure _

/-! ## Bodies -/

/-- The sessions that an action is compared on: in a header, those over frames that agree on the
names it reads; in a body, those with one innermost frame. -/
inductive Compares (strict : Prop) : Standing → (Session → Session → Prop) → Prop
  | header {names : List String} {scopes others : Scopes Term} :
      Agree names strict scopes others → Compares strict (.header names) (Over scopes others)
  | body (scopes others : Scopes Term) : Compares strict .body (Inside scopes others)

theorem Compares.over (compares : Compares strict standing related) ⦃first second : Session⦄
    (start : related first second) : ∃ others, second = first.over others := by
  cases compares with
  | header => exact ⟨_, start.2⟩
  | body => exact start.elim fun _ framed => ⟨_, framed.2⟩

/-- The inside of a script depends on the frames around it by the names that it reads in a
header. -/
theorem Inner.steady (inner : Inner standing action) (compares : Compares strict standing related) :
    Steady related strict action := by
  induction inner generalizing related with
  | blind blind =>
    cases compares with
    | header => exact blind.steady
    | body => exact blind.inside
  | bind _ _ steady steadyNext =>
    exact .bind (steady compares) fun value => steadyNext value compares
  | look same _ steady => exact .look compares.over same fun session => steady session compares
  | typeOf reads =>
    cases compares with
    | header agree => exact steady_typeOf? (agree _ (reads List.mem_cons_self)).1
    | body => exact inside_typeOf? _
  | nodeOf reads =>
    cases compares with
    | header agree => exact steady_nodeOf? (agree _ (reads List.mem_cons_self)).2.1
    | body => exact .inside fun _ => steady_nodeOf? rfl
  | refuse reads _ steady =>
    cases compares with
    | header agree =>
      exact steady_refuseResult (agree _ (reads List.mem_cons_self)).2.2 (steady (.header agree))
    | body =>
      exact .bind (inside_isResult _) fun _ => .ite (Quiet.blind inferInstance).inside
        (steady (.body _ _))
  | isResult name =>
    cases compares
    exact inside_isResult name
  | store asResult name type value =>
    cases compares
    exact inside_setName asResult name type value
  | stop =>
    refine .fails fun _ _ _ run => ?_
    obtain ⟨_, _, _, run⟩ := run.bind
    obtain ⟨_, _, _, run⟩ := run.bind
    exact yields_report.mp run
  | frame _ steady =>
    cases compares with
    | header => exact .inFrame (steady (.body _ _))
    | body => exact .inside fun _ => .inFrame (steady (.body _ _))
  | loop _ steady =>
    cases compares
    exact .inLoop (steady (.body _ _))

/-- A compound or a loop as it is written. -/
inductive Body where
  | block (written : Syntax.Block)
  | loop (written : Syntax.Loop)

namespace Body

/-- Elaborates a compound or a loop. -/
def elaborate : Body → Elaborating Term
  | .block written => Elaboration.block written
  | .loop written => Elaboration.loop written

/-- The names that the header uses: those of default values, settings and passed variables. -/
def headerNames : Body → List String
  | .block written => written.headerNames
  | .loop written => written.headerNames

end Body

theorem steady_body (body : Body) (agree : Agree body.headerNames strict scopes others) :
    Steady (Over scopes others) strict body.elaborate := by
  cases body with
  | block written => exact (inner_block written (List.Subset.refl _)).steady (.header agree)
  | loop written => exact (inner_loop written (List.Subset.refl _)).steady (.header agree)

/-- Two lists of frames give the same types and nodes to some names. -/
def SameNames (names : List String) (scopes others : Scopes Term) : Prop :=
  ∀ name ∈ names, scopes.type? name = others.type? name ∧ scopes.value? name = others.value? name

/-- Two lists of frames agree on which of some names are results. -/
def SameResults (names : List String) (scopes others : Scopes Term) : Prop :=
  ∀ name ∈ names, scopes.isResult name = others.isResult name

theorem SameNames.agree (same : SameNames names scopes others) :
    Agree names (SameResults names scopes others) scopes others := by
  intro name member
  obtain ⟨type, value⟩ := same name member
  exact ⟨type, value, fun results => results name member⟩

/-- A compound or a loop leaves all frames around it as they were.  Over other frames that give the
same types and nodes to the names of its header it becomes the same term, if it becomes one at all;
and it does become one if the frames also agree on which of these names are results. -/
theorem body_isolated (body : Body) {session after : Session} {term : Term}
    (visited : Yields body.elaborate session term after) :
    after.scopes = session.scopes ∧
      ∀ others : Scopes Term, SameNames body.headerNames session.scopes others →
        (∀ {otherTerm otherAfter}, Yields body.elaborate (session.over others) otherTerm
          otherAfter → otherTerm = term ∧ otherAfter = after.over others) ∧
        (SameResults body.headerNames session.scopes others →
          Yields body.elaborate (session.over others) term (after.over others)) := by
  have kept : after.scopes = session.scopes := by
    have steady : Steady (Over session.scopes session.scopes) True body.elaborate :=
      steady_body body fun _ _ => ⟨rfl, rfl, fun _ => rfl⟩
    exact ((steady ⟨rfl, rfl⟩ visited).2 visited).2.1
  refine ⟨kept, fun others same => ?_⟩
  have start : Over session.scopes others session (session.over others) := ⟨rfl, rfl⟩
  obtain ⟨goes, equal⟩ := steady_body body same.agree start visited
  refine ⟨fun {_ _} run => ⟨(equal run).1, (equal run).2.2⟩, fun results => ?_⟩
  obtain ⟨otherTerm, otherAfter, run⟩ := goes results
  obtain ⟨rfl, _, rfl⟩ := equal run
  exact run

/-- A compound with a parameter `p` whose default value is the variable `x`, around an empty one. -/
def defaultFromAround : Body :=
  let bare : Syntax.Flags := ⟨default, none⟩
  let parameter : Syntax.Parameter := ⟨default, default, "long", "p", some (.name default "x")⟩
  .block (.mk none bare [parameter] ⟨default, none, []⟩
    [.block (.mk none bare [] ⟨default, none, []⟩ [])])

/-- A frame in which `x` is a `long`, next to other variables. -/
def frameWith (others : List (String × Binding Term)) : Frame Term :=
  { bindings := ⟨("x", ⟨.mk "long" none, none⟩) :: others⟩ }

theorem body_isolated_defaultFromAround :
    ∃ (session after : Session) (term : Term),
      Yields defaultFromAround.elaborate session term after ∧
      after.scopes = [frameWith []] ∧
      Yields defaultFromAround.elaborate
        (session.over [frameWith [("y", ⟨.mk "float" none, none⟩)], {}])
        term (after.over [frameWith [("y", ⟨.mk "float" none, none⟩)], {}]) := by
  obtain ⟨term, after, visited⟩ : ∃ (term : Term) (after : Session),
      Yields defaultFromAround.elaborate { (default : Session) with scopes := [frameWith []] }
        term after := ⟨_, _, rfl⟩
  obtain ⟨kept, isolated⟩ := body_isolated defaultFromAround visited
  refine ⟨_, after, term, visited, kept, (isolated _ ?_).2 ?_⟩
  · intro name member
    obtain rfl : name = "x" := List.mem_singleton.mp member
    exact ⟨rfl, rfl⟩
  · intro name member
    obtain rfl : name = "x" := List.mem_singleton.mp member
    rfl

end GraphScript.Elaboration
