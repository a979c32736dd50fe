import GraphScript.Proofs.Elaboration.Checks

/-!
# What the inside of a script can do

Elaborating an expression, a statement, a compound or a loop is put together from few steps: it
makes terms, reads and stores names, and works in frames and loops of its own.  `Inner` says so of
an action, and what these steps keep is kept by all of the inside of a script.

Most steps are blind: they do the same whatever frames are open, and leave them as they are.  The
header of a compound or a loop is elaborated in the frame around it, of which it reads the names
that it uses; its body has a frame of its own.  Only overloads and imports, which stand at the top
level, can do more: all inner actions keep the operators and the script that is read.
-/

namespace GraphScript.Syntax

mutual

/-- The names that an expression uses; the index of a loop counts as one. -/
def Expr.names : Expr → List String
  | .text _ _ => []
  | .index _ => ["#"]
  | .truth _ => []
  | .number _ _ _ => []
  | .name _ name => [name]
  | .enumeration _ => []
  | .vector _ values _ => namesOfAll values
  | .matrix _ columns _ => namesOfColumns columns
  | .array _ values => namesOfAll values
  | .emptyArray _ _ count => namesOfOption count
  | .object entries => namesOfEntries entries
  | .call call => call.names
  | .access _ base chain => base.names ++ chain.names
  | .portOfName _ name _ => [name]
  | .portOfCall _ call _ => call.names
  | .unary _ _ value => value.names
  | .binary _ _ _ left right => left.names ++ right.names
  | .comparison _ _ operands => namesOfAll operands

def namesOfAll : List Expr → List String
  | [] => []
  | expr :: rest => expr.names ++ namesOfAll rest

/-- The names that the columns of a matrix use. -/
def namesOfColumns : List (List Expr) → List String
  | [] => []
  | column :: rest => namesOfAll column ++ namesOfColumns rest

def namesOfOption : Option Expr → List String
  | none => []
  | some expr => expr.names

/-- The names that the entries of an object use. -/
def namesOfEntries : List Entry → List String
  | [] => []
  | .mk key value _ _ :: rest => key.names ++ value.names ++ namesOfEntries rest

/-- The names that a chain of accesses uses. -/
def Chain.names : Chain → List String
  | .one accessor => accessor.names
  | .more front accessor => front.names ++ accessor.names

def Accessor.names : Accessor → List String
  | .index value => value.names
  | .slice start stop step => namesOfBound start ++ namesOfBound stop ++ namesOfBound step
  | .orDefault _ key default => key.names ++ default.names
  | .member _ => []

/-- The names that a bound of a slice uses. -/
def namesOfBound : Option Bound → List String
  | none => []
  | some (.mk _ value) => value.names

def Call.names : Call → List String
  | .operator _ _ _ _ _ arguments => namesOfArguments arguments
  | .construct _ _ _ arguments => namesOfArguments arguments

def namesOfArguments : List Argument → List String
  | [] => []
  | .mk _ _ value :: rest => value.names ++ namesOfArguments rest

/-- The names that are used where something is passed. -/
def Passed.names : Passed → List String
  | .value value => value.names
  | .type _ => []

end

/-- The names that the header of a compound or function uses: those of its default values. -/
def Block.headerNames : Block → List String
  | .mk _ _ parameters _ _ => parameters.flatMap fun parameter => namesOfOption parameter.value

/-- The names that a parameter of a loop uses: those of its value, or its own. -/
def LoopParameter.names (parameter : LoopParameter) : List String :=
  match parameter.given with
  | some (_, value) => value.names
  | none => [parameter.name]

def LoopSettings.names (settings : LoopSettings) : List String :=
  namesOfOption (settings.index.map (·.value)) ++ namesOfOption settings.limit

def Loop.headerNames : Loop → List String
  | .mk _ _ parameters _ settings _ _ _ _ _ =>
    settings.names ++ parameters.flatMap LoopParameter.names

end GraphScript.Syntax

namespace GraphScript.Elaboration

open Act (Keeps Yields runOn_bind runOn_zoom yields_bind yields_pure yields_lift yields_get
  yields_modify yields_set)
open GraphScript.Language (Tree)
open Program (Term)

/-! ## Steps that do not see the names -/

/-- A session with other frames. -/
def Session.over (session : Session) (scopes : Scopes Term) : Session :=
  { session with scopes := scopes }

@[simp] theorem Session.scopes_over (session : Session) (scopes : Scopes Term) :
    (session.over scopes).scopes = scopes := rfl

/-- An action does the same over any frames, and keeps them. -/
def Blind {α : Type} (action : Elaborating α) : Prop :=
  ∀ session scopes, action.runOn (session.over scopes) =
    ((action.runOn session).1, (action.runOn session).2.over scopes)

namespace Blind

theorem pure (value : α) : Blind (pure value : Elaborating α) := fun _ _ => rfl

theorem throw (fault : Fault) : Blind (throw fault : Elaborating α) := fun _ _ => rfl

theorem lift (outcome : Except Fault α) : Blind (liftM outcome : Elaborating α) := by
  intro _ _
  rw [Act.runOn_lift, Act.runOn_lift]

theorem bind (blind : Blind action) (blindNext : ∀ value, Blind (next value)) :
    Blind (action >>= next) := by
  intro session scopes
  rw [runOn_bind, runOn_bind, blind session scopes]
  rcases action.runOn session with ⟨_ | value, middle⟩
  · rfl
  · exact blindNext value middle scopes

/-- Looking at anything but the frames. -/
theorem look (same : ∀ session scopes, next { session with scopes := scopes } = next session)
    (blindNext : ∀ session, Blind (next session)) : Blind (getThe Session >>= next) := by
  intro session scopes
  rw [runOn_bind, runOn_bind, Act.runOn_get, Act.runOn_get]
  dsimp only
  rw [Session.over, same session scopes]
  exact blindNext session session scopes

theorem zoom {get : Session → ρ} {put : ρ → Session → Session} {action : Act ρ α}
    (same : ∀ session scopes, get (session.over scopes) = get session)
    (apart : ∀ part session scopes, put part (session.over scopes) = (put part session).over
      scopes) : Blind (action.zoom get put) := by
  intro _ _
  rw [runOn_zoom, runOn_zoom, same, apart]

theorem attempt (blind : Blind action) : Blind (Act.attempt action) := by
  intro session scopes
  rw [Act.runOn_attempt, Act.runOn_attempt, blind session scopes]

/-- A blind action keeps the frames. -/
theorem scopes_eq (blind : Blind action) (session : Session) :
    (action.runOn session).2.scopes = session.scopes := by
  have same := congrArg (fun outcome => outcome.2.scopes) (blind session session.scopes)
  exact same

end Blind

theorem Quiet.blind {α : Type} {action : Elaborating α} (quiet : Quiet action) : Blind action := by
  induction quiet with
  | pure value => exact .pure value
  | throw fault => exact .throw fault
  | lift outcome => exact .lift outcome
  | bind _ _ blind blindNext => exact .bind blind blindNext
  | look same _ blindNext => exact .look same blindNext
  | registering => exact .zoom (fun _ _ => rfl) fun _ _ _ => rfl
  | attempt _ blind => exact .attempt blind

/-- What a session works in: the operators, and the script that is read. -/
def Session.setting (session : Session) : Overload.Registry × Source :=
  (session.desk.registry, session.source)

/-- What a session works in, with the number of loops around. -/
def Session.place (session : Session) : (Overload.Registry × Source) × Nat :=
  (session.setting, session.loops)

theorem Quiet.keepsPlace (quiet : Quiet action) : Keeps Session.place action := by
  induction quiet with
  | pure value => exact .pure value
  | throw fault => exact .throw fault
  | lift outcome => exact .lift outcome
  | bind _ _ kept keptNext => exact .bind kept keptNext
  | look _ _ keptNext => exact .bind .get keptNext
  | @registering _ _ kept =>
    intro session
    rw [Elaboration.registering, Act.runOn_zoom]
    exact congrArg (fun registry => ((registry, session.source), session.loops)) (kept session.desk)
  | attempt _ kept => exact .attempt kept

theorem Quiet.keepsSetting [quiet : Quiet action] : Keeps Session.setting action :=
  fun session => congrArg Prod.fst (quiet.keepsPlace session)

/-! ## Steps of the inside -/

/-- Where an action stands: in a header, which uses some names, or in the frame of a body. -/
inductive Standing where
  | header (names : List String)
  | body

namespace Standing

/-- The names can be read. -/
def Reads : Standing → List String → Prop
  | .header used, names => names ⊆ used
  | .body, _ => True

theorem reads_append {standing : Standing} :
    standing.Reads (left ++ right) ↔ standing.Reads left ∧ standing.Reads right := by
  cases standing with
  | header => exact List.append_subset
  | body => exact (and_self_iff).symm

end Standing

/-- An action that is put together from the steps of the inside of a script.  A header only asks
whether a name is a result to refuse it. -/
inductive Inner : Standing → {α : Type} → Elaborating α → Prop
  | blind {standing : Standing} {α : Type} {action : Elaborating α} :
      Blind action → Keeps Session.place action → Inner standing action
  | bind {standing : Standing} {α β : Type} {action : Elaborating α} {next : α → Elaborating β} :
      Inner standing action → (∀ value, Inner standing (next value)) →
        Inner standing (action >>= next)
  | look {standing : Standing} {α : Type} {next : Session → Elaborating α} :
      (∀ session scopes, next { session with scopes := scopes } = next session) →
      (∀ session, Inner standing (next session)) → Inner standing (getThe Session >>= next)
  | typeOf {standing : Standing} {name : String} :
      standing.Reads [name] → Inner standing (typeOf? name)
  | nodeOf {standing : Standing} {name : String} :
      standing.Reads [name] → Inner standing (nodeOf? name)
  | refuse {standing : Standing} {α : Type} {name : String} {next : Elaborating α}
      {kind : ReportKind} {spot : Tree} {message : String} :
      standing.Reads [name] → Inner standing next →
      Inner standing (do
        if ← isResult name then report kind spot message
        next)
  | isResult (name : String) : Inner .body (isResult name)
  | store (asResult : Bool) (name : String) (type : PortType) (value : Option Term) :
      Inner .body (setName asResult name type value)
  | stop {standing : Standing} {α : Type} {text : Session → String} {kind : ReportKind}
      {spot : Tree} {message : String} :
      Inner standing (do
        print (text (← getThe Session))
        report kind spot message : Elaborating α)
  | frame {standing : Standing} {α : Type} {action : Elaborating α} :
      Inner .body action → Inner standing (inFrame action)
  | loop {α : Type} {action : Elaborating α} : Inner .body action → Inner .body (inLoop action)

namespace Inner

theorem quiet [quiet : Quiet action] : Inner standing action := .blind quiet.blind quiet.keepsPlace

theorem pure : Inner standing (pure value : Elaborating α) := quiet

theorem throw : Inner standing (throw fault : Elaborating α) := quiet

theorem lift {outcome : Except Fault α} : Inner standing (liftM outcome : Elaborating α) := quiet

/-- Taking a number. -/
theorem number : Inner standing freshId := .blind (fun _ _ => rfl) fun _ => rfl

theorem fresh (form : Program.Form) : Inner standing (fresh form) := .bind number fun _ => pure

theorem copy (term : Term) : Inner standing (copyOf term) :=
  .blind (.zoom (fun _ _ => rfl) fun _ _ _ => rfl) (.zoom fun _ _ => rfl)

theorem define (change : Table Function → Table Function) :
    Inner standing (modifyThe Session fun session =>
      { session with functions := change session.functions }) :=
  .blind (fun _ _ => rfl) fun _ => rfl

theorem ite [Decidable condition] (innerTrue : Inner standing whenTrue)
    (innerFalse : Inner standing whenFalse) :
    Inner standing (if condition then whenTrue else whenFalse) := by
  split
  · exact innerTrue
  · exact innerFalse

end Inner

/-- The inside of a script keeps the operators and the script. -/
theorem Inner.keepsSetting (inner : Inner standing action) : Keeps Session.setting action := by
  induction inner with
  | blind _ kept => exact fun session => congrArg Prod.fst (kept session)
  | bind _ _ kept keptNext => exact .bind kept keptNext
  | look _ _ kept => exact .bind .get kept
  | typeOf | nodeOf | isResult => exact .bind .get fun _ => .lift _
  | refuse _ _ kept =>
    refine .bind (.bind .get fun _ => .lift _) fun _ => ?_
    exact .ite Quiet.keepsSetting kept
  | stop => exact .bind .get fun _ => .bind Quiet.keepsSetting fun _ => Quiet.keepsSetting
  | store asResult name type value =>
    intro session
    rw [setName, Act.runOn_bind, Act.runOn_get]
    dsimp only
    cases session.scopes.set asResult name type value with
    | error => rfl
    | ok => rfl
  | frame _ kept =>
    refine .bind (.modify fun _ => rfl) fun _ => .bind kept fun result => ?_
    intro session
    rw [Act.runOn_bind, Act.runOn_get]
    dsimp only
    cases session.scopes.leave with
    | error => rfl
    | ok => rfl
  | loop _ kept =>
    refine .bind (.modify fun _ => rfl) fun _ => .bind kept fun _ => ?_
    exact .bind (.modify fun _ => rfl) fun _ => .pure _

/-! ## Names, frames and loops -/

variable {result : α}

theorem yields_setName :
    Yields (setName asResult name type value) session done after ↔
      ∃ stored, session.scopes.set asResult name type value = .ok stored ∧
        session.over stored = after := by
  constructor
  · intro run
    replace run := run.afterGet
    obtain ⟨stored, _, runStore, runSet⟩ := run.bind
    obtain ⟨found, rfl⟩ := runStore.lift
    exact ⟨stored, found, yields_set.mp runSet⟩
  · rintro ⟨stored, found, rfl⟩
    refine yields_bind.mpr ⟨session, session, yields_get.mpr ⟨rfl, rfl⟩, ?_⟩
    exact yields_bind.mpr ⟨stored, session, yields_lift.mpr ⟨found, rfl⟩, yields_set.mpr rfl⟩

theorem yields_inFrame_iff :
    Yields (inFrame body) session value after ↔
      ∃ frame rest inner, Yields body (session.over session.scopes.enter) value inner ∧
        inner.scopes = frame :: rest ∧ inner.over rest = after := by
  constructor
  · intro run
    obtain ⟨_, _, runEnter, run⟩ := run.bind
    obtain rfl := yields_modify.mp runEnter
    obtain ⟨_, inner, runBody, run⟩ := run.bind
    replace run := run.afterGet
    obtain ⟨⟨frame, rest⟩, _, runLeave, run⟩ := run.bind
    obtain ⟨left, rfl⟩ := runLeave.lift
    obtain ⟨_, _, runSet, runReturn⟩ := run.bind
    obtain rfl := yields_set.mp runSet
    obtain ⟨rfl, rfl⟩ := runReturn.pure
    refine ⟨frame, rest, inner, runBody, ?_, rfl⟩
    cases frames : inner.scopes with
    | nil => rw [frames] at left; cases left
    | cons => rw [frames] at left; cases left; rfl
  · rintro ⟨frame, rest, inner, runBody, frames, rfl⟩
    refine yields_bind.mpr ⟨⟨⟩, _, yields_modify.mpr rfl, ?_⟩
    refine yields_bind.mpr ⟨value, inner, runBody, ?_⟩
    refine yields_bind.mpr ⟨_, _, yields_get.mpr ⟨rfl, rfl⟩, ?_⟩
    refine yields_bind.mpr ⟨(frame, rest), inner, yields_lift.mpr ⟨by rw [frames]; rfl, rfl⟩, ?_⟩
    exact yields_bind.mpr ⟨⟨⟩, _, yields_set.mpr rfl, yields_pure.mpr ⟨rfl, rfl⟩⟩

theorem yields_inLoop (run : Yields (inLoop body) before value after) :
    ∃ inner, Yields body { before with loops := before.loops + 1 } value inner ∧
      after = { inner with loops := inner.loops - 1 } := by
  simp only [inLoop, yields_bind, yields_modify, yields_pure] at run
  obtain ⟨_, _, rfl, _, inner, runBody, _, _, rfl, rfl, rfl⟩ := run
  exact ⟨inner, runBody, rfl⟩

/-- The inside of a script comes back to the loops that it started in. -/
theorem Inner.loops_eq (inner : Inner standing action) (run : Yields action before result after) :
    after.loops = before.loops := by
  induction inner generalizing before after with
  | blind _ kept => exact congrArg Prod.snd (kept.of_yields run)
  | bind _ _ same sameNext =>
    obtain ⟨_, _, runFirst, runNext⟩ := run.bind
    rw [sameNext _ runNext, same runFirst]
  | look _ _ same =>
    replace run := run.afterGet
    exact same _ run
  | typeOf | nodeOf | isResult =>
    replace run := run.afterGet
    obtain ⟨_, rfl⟩ := run.lift
    rfl
  | refuse _ _ same =>
    obtain ⟨refused, _, asked, run⟩ := run.bind
    replace asked := asked.afterGet
    obtain ⟨_, rfl⟩ := asked.lift
    cases refused with
    | true =>
      obtain ⟨_, _, reported, _⟩ := run.bind
      exact (yields_report.mp reported).elim
    | false => exact same run
  | store =>
    obtain ⟨_, _, rfl⟩ := yields_setName.mp run
    rfl
  | stop =>
    obtain ⟨_, _, _, run⟩ := run.bind
    obtain ⟨_, _, _, run⟩ := run.bind
    exact (yields_report.mp run).elim
  | frame _ same =>
    obtain ⟨_, _, inner, runBody, _, rfl⟩ := yields_inFrame_iff.mp run
    have back := same runBody
    exact back
  | loop _ same =>
    obtain ⟨inner, runBody, rfl⟩ := yields_inLoop run
    have back : inner.loops = before.loops + 1 := same runBody
    exact Nat.sub_eq_of_eq_add back

end GraphScript.Elaboration
