import GraphScript.Proofs.Elaboration.Inner
import GraphScript.Proofs.Program.Copying
import GraphScript.Proofs.Typing.Promotion

/-!
# Elaboration makes orderly terms

Every part of a term that is elaborated gets a number that no part has yet, and a term borrows only
nodes that variables of its own body hold.  `Made` collects what is known of the parts that were
made between two states of a session; it is kept by every step that makes a part.
-/

namespace GraphScript.Elaboration

open Act (Keeps Yields yields_bind yields_pure yields_get yields_set)
open GraphScript.Language (Tree)
open Program

/-- The bodies of all functions stand on their own. -/
def FunctionsSound (functions : Table Function) : Prop :=
  ∀ entry ∈ functions.entries, entry.2.body.Whole

/-- A variable of the innermost body holds a node. -/
def Holds (scopes : Scopes Term) (node : Term) : Prop :=
  ∃ frame name, scopes.head? = some frame ∧ frame.value? name = some node ∧ node.form.makesNode

/-- The functions are sound, and variables hold only known nodes. -/
structure Session.Ok (known : List Term) (session : Session) : Prop where
  functions : FunctionsSound session.functions
  holds : ∀ node, Holds session.scopes node → node ∈ known

theorem Session.Ok.of_ledger {first second : Session} (ok : first.Ok known)
    (same : second.ledger = first.ledger) : second.Ok known := by
  obtain ⟨-, scopes, functions⟩ := Session.ledger_eq_iff.mp same
  refine ⟨functions ▸ ok.functions, ?_⟩
  rw [scopes]
  exact ok.holds

theorem yields_freshId {id : Nat} :
    Yields freshId session id after ↔
      id = session.nextId ∧ after = { session with nextId := session.nextId + 1 } := by
  simp only [freshId, yields_bind, yields_get, yields_set, yields_pure]
  constructor
  · rintro ⟨_, _, ⟨rfl, rfl⟩, _, _, rfl, rfl, rfl⟩
    exact ⟨rfl, rfl⟩
  · rintro ⟨rfl, rfl⟩
    exact ⟨_, _, ⟨rfl, rfl⟩, (), _, rfl, rfl, rfl⟩

/-- Sound parts whose numbers are all different and lie in a range. -/
structure Spans (low high : Nat) (contents : Contents) : Prop where
  le : low ≤ high
  nodup : contents.numbers.Nodup
  range : ∀ number ∈ contents.numbers, low ≤ number ∧ number < high
  sound : contents.Sound

namespace Spans

theorem nothing (low_le : low ≤ high) : Spans low high .none :=
  ⟨low_le, List.nodup_nil, by simp, by simp⟩

theorem one {number : Nat} (number_eq : item.number? = some number) (sound : item.Sound) :
    Spans number (number + 1) (.one item) :=
  ⟨Nat.le_succ _, by simp [number_eq], by simp [number_eq], by simpa using sound⟩

/-- Parts in ranges that follow each other have different numbers. -/
theorem append (spansFirst : Spans low middle first) (spansSecond : Spans middle high second) :
    Spans low high (first ++ second) where
  le := spansFirst.le.trans spansSecond.le
  nodup := by
    rw [Contents.numbers_append]
    refine spansFirst.nodup.append spansSecond.nodup ?_
    intro number own theirs
    have small := (spansFirst.range number own).2
    have large := (spansSecond.range number theirs).1
    omega
  range := by
    rw [Contents.numbers_append, List.forall_mem_append]
    constructor
    · intro number own
      have inRange := spansFirst.range number own
      exact ⟨inRange.1, inRange.2.trans_le spansSecond.le⟩
    · intro number own
      have inRange := spansSecond.range number own
      exact ⟨spansFirst.le.trans inRange.1, inRange.2⟩
  sound := Contents.sound_append.mpr ⟨spansFirst.sound, spansSecond.sound⟩

theorem congr (spans : Spans low high first) (numbers : first.numbers.Perm second.numbers)
    (items : second.items ⊆ first.items) : Spans low high second where
  le := spans.le
  nodup := numbers.nodup_iff.mp spans.nodup
  range := fun number own => spans.range number (numbers.mem_iff.mpr own)
  sound := fun item member => spans.sound item (items member)

end Spans

/-- Some parts were made between two states of a session, within one body. -/
structure Made (known : List Term) (before after : Session) (contents : Contents) : Prop where
  spans : Spans before.nextId after.nextId contents
  scopes : after.scopes = before.scopes
  ok : after.Ok known
  held : ∀ node ∈ contents.borrowed, node ∈ known

namespace Made

theorem nothing (ok : before.Ok known) : Made known before before .none :=
  ⟨Spans.nothing (le_refl _), rfl, ok, by simp⟩

theorem append (madeFirst : Made known before middle first)
    (madeSecond : Made known middle after second) : Made known before after (first ++ second) where
  spans := madeFirst.spans.append madeSecond.spans
  scopes := madeSecond.scopes.trans madeFirst.scopes
  ok := madeSecond.ok
  held := by
    rw [Contents.borrowed_append, List.forall_mem_append]
    exact ⟨madeFirst.held, madeSecond.held⟩

theorem kept (made : Made known before middle contents) (same : after.ledger = middle.ledger) :
    Made known before after contents := by
  obtain ⟨nextId, scopes, -⟩ := Session.ledger_eq_iff.mp same
  exact ⟨nextId ▸ made.spans, scopes.trans made.scopes, made.ok.of_ledger same, made.held⟩

/-- A step that makes nothing. -/
theorem step (made : Made known before middle contents) (keeps : Keeps Session.ledger action)
    (run : Yields action middle value after) : Made known before after contents :=
  made.kept (keeps.of_yields run)

theorem start (ok : before.Ok known) (keeps : Keeps Session.ledger action)
    (run : Yields action before value after) : Made known before after .none :=
  (nothing ok).step keeps run

/-- Parts that are not used any more. -/
theorem forget (made : Made known before after contents) : Made known before after .none :=
  ⟨Spans.nothing made.spans.le, made.scopes, made.ok, by simp⟩

theorem congr (made : Made known before after first) (alike : first.Alike second) :
    Made known before after second where
  spans := made.spans.congr alike.numbers alike.items.symm.subset
  scopes := made.scopes
  ok := made.ok
  held := fun node member => made.held node ((alike.borrowed node).mpr member)

theorem none_append (madeFirst : Made known before middle .none)
    (madeSecond : Made known middle after contents) : Made known before after contents := by
  have both := madeFirst.append madeSecond
  exact both

/-- A part that has nothing but its number. -/
theorem numbered {id : Nat} (made : Made known before middle contents)
    (run : Yields freshId middle id after) (number_eq : item.number? = some id)
    (sound : item.Sound) : Made known before after (contents ++ .one item) := by
  obtain ⟨rfl, rfl⟩ := yields_freshId.mp run
  exact made.append ⟨.one number_eq sound, rfl, ⟨made.ok.functions, made.ok.holds⟩, by simp⟩

end Made

/-! ## Making parts -/

/-- Out of some parts, which were made before, an action makes those of its result. -/
def Makes {α : Type} (known : List Term) (given : Contents) (action : Elaborating α)
    (parts : α → Contents) : Prop :=
  ∀ ⦃start before after : Session⦄ ⦃value : α⦄, Made known start before given →
    Yields action before value after → Made known start after (parts value)

namespace Makes

theorem made (makes : Makes known .none action parts) (ok : before.Ok known)
    (run : Yields action before value after) : Made known before after (parts value) :=
  makes (.nothing ok) run

theorem pure (same : given = parts value := by rfl) : Makes known given (pure value) parts := by
  intro _ _ _ _ made run
  obtain ⟨rfl, rfl⟩ := run.pure
  exact same ▸ made

theorem bind (makes : Makes known given action parts)
    (makesNext : ∀ value, Makes known (parts value) (next value) partsNext) :
    Makes known given (action >>= next) partsNext := by
  intro _ _ _ _ made run
  obtain ⟨value, _, runFirst, runNext⟩ := run.bind
  exact makesNext value (makes made runFirst) runNext

/-- A step that makes nothing comes first. -/
theorem after (keeps : Keeps Session.ledger action)
    (makesNext : ∀ value, Makes known given (next value) partsNext) :
    Makes known given (action >>= next) partsNext := by
  have step : Makes known given action fun _ => given := fun _ _ _ _ made run => made.step keeps run
  exact step.bind makesNext

theorem quiet [Quiet action] (makesNext : ∀ value, Makes known given (next value) partsNext) :
    Makes known given (action >>= next) partsNext :=
  after Quiet.keeps makesNext

theorem looked {outcome : Except Fault α}
    (makesNext : ∀ value, outcome = .ok value → Makes known given (next value) partsNext) :
    Makes known given (liftM outcome >>= next) partsNext := by
  intro _ _ _ _ made run
  obtain ⟨value, _, runLift, runNext⟩ := run.bind
  obtain ⟨found, rfl⟩ := runLift.lift
  exact makesNext value found made runNext

theorem lift {outcome : Except Fault α}
    (makesNext : ∀ value, Makes known given (next value) partsNext) :
    Makes known given (liftM outcome >>= next) partsNext :=
  looked fun value _ => makesNext value

theorem look {next : Session → Elaborating β}
    (makesNext : ∀ session, session.Ok known → Makes known given (next session) partsNext) :
    Makes known given (getThe Session >>= next) partsNext := by
  intro _ before _ _ made run
  have runNext := run.afterGet
  exact makesNext before made.ok made runNext

/-- A check that reports what it does not allow comes first. -/
theorem guard [Decidable condition] (makes : ¬condition → Makes known given action parts) :
    Makes known given (if condition then report kind spot message >>= then' else action) parts := by
  split
  · intro _ _ _ _ _ run
    obtain ⟨_, _, runReport, _⟩ := run.bind
    exact (yields_report.mp runReport).elim
  · exact makes ‹_›

/-- Parts are made next to those that are there. -/
theorem onto (makes : Makes known .none action parts) :
    Makes known given action fun value => given ++ parts value :=
  fun _ _ _ _ made run => made.append (makes.made made.ok run)

/-- A new part has a number of its own. -/
theorem numbered {build : Nat → α} (wrap : α → Item)
    (same : ∀ id, parts (build id) = given ++ .one (wrap (build id)))
    (number_eq : ∀ id, (wrap (build id)).number? = some id)
    (sound : ∀ id, (wrap (build id)).Sound) :
    Makes known given (freshId >>= fun id => Pure.pure (build id)) parts := by
  intro _ _ _ _ made run
  obtain ⟨id, runId, rfl⟩ := run.mapped
  rw [same]
  exact made.numbered runId (number_eq id) (sound id)

/-- A new term is made of a form. -/
theorem term {form : Form} (sound : ∀ id, (Item.term (.mk id form)).Sound)
    (same : given = form.contents := by rfl) : Makes known given (fresh form) Term.contents := by
  subst same
  exact numbered Item.term (fun _ => rfl) (fun _ => rfl) sound

end Makes

/-! ## Crafting -/

/-- Out of some parts an action makes those of its result, and does no more than the inside of a
script can do. -/
structure Crafts {α : Type} (standing : Standing) (known : List Term) (given : Contents)
    (action : Elaborating α) (parts : α → Contents) : Prop where
  makes : Makes known given action parts
  inner : Inner standing action

namespace Crafts

/-- In a body all names can be read. -/
theorem toMakes (crafts : Crafts .body known given action parts) : Makes known given action parts :=
  crafts.makes

/-- Nothing need be known for what an action can do. -/
theorem toInner (crafts : Crafts standing [] given action parts) :
    Inner standing action := crafts.inner

theorem pure (same : given = parts value := by rfl) : Crafts standing known given
    (pure value) parts :=
  ⟨.pure same, .pure⟩

theorem throw : Crafts standing known given (throw fault) parts :=
  ⟨fun _ _ _ _ _ run => run.throw, .throw⟩

theorem stop : Crafts standing known given (report kind spot message) parts :=
  ⟨fun _ _ _ _ _ run => (yields_report.mp run).elim, .quiet⟩

theorem bind (first : Crafts standing known given action parts)
    (second : ∀ value, Crafts standing known (parts value) (next value) partsNext) :
    Crafts standing known given (action >>= next) partsNext :=
  ⟨.bind first.makes fun value => (second value).makes, .bind first.inner fun value =>
    (second value).inner⟩

theorem quiet [Quiet action]
    (second : ∀ value, Crafts standing known given (next value) partsNext) :
    Crafts standing known given (action >>= next) partsNext :=
  ⟨.quiet fun value => (second value).makes, .bind .quiet fun value => (second value).inner⟩

theorem looked {outcome : Except Fault α}
    (second : ∀ value, outcome = .ok value → Crafts standing known given (next value) partsNext) :
    Crafts standing known given (liftM outcome >>= next) partsNext := by
  refine ⟨.looked fun value found => (second value found).makes, ?_⟩
  cases outcome with
  | error => exact .throw
  | ok value => exact (second value rfl).inner

theorem lift {outcome : Except Fault α}
    (second : ∀ value, Crafts standing known given (next value) partsNext) :
    Crafts standing known given (liftM outcome >>= next) partsNext :=
  looked fun value _ => second value

/-- What is found depends on the session; only its functions can be relied on. -/
theorem look {next : Session → Elaborating β}
    (same : ∀ session scopes, next { session with scopes := scopes } = next session)
    (second : ∀ session, (FunctionsSound session.functions →
      Makes known given (next session) partsNext) ∧ Inner standing (next session)) :
    Crafts standing known given (getThe Session >>= next) partsNext :=
  ⟨.look fun session ok => (second session).1 ok.functions, .look same fun session =>
    (second session).2⟩

theorem always (crafts : Crafts standing known given action parts) :
    (condition → Makes known given action parts) ∧ Inner standing action :=
  ⟨fun _ => crafts.makes, crafts.inner⟩

/-- The type of a name is looked up. -/
theorem typeOf {next : Option PortType → Elaborating β} (reads : standing.Reads [name])
    (second : ∀ found, Crafts standing known given (next found) partsNext) :
    Crafts standing known given (typeOf? name >>= next) partsNext :=
  ⟨.after (keeps_typeOf? name) fun found => (second found).makes,
    .bind (.typeOf reads) fun found => (second found).inner⟩

theorem refuse (reads : standing.Reads [name]) (second : Crafts standing known given action parts) :
    Crafts standing known given (do
      if ← isResult name then report kind spot message
      action) parts :=
  ⟨.after (keeps_isResult name) fun _ => .guard fun _ => second.makes, .refuse reads second.inner⟩

theorem ite [Decidable condition] (first : Crafts standing known given action parts)
    (second : Crafts standing known given other parts) :
    Crafts standing known given (if condition then action else other) parts := by
  split
  · exact first
  · exact second

theorem guard [Decidable condition]
    (crafts : ¬condition → Crafts standing known given action parts) :
    Crafts standing known given (if condition then report kind spot message >>= then' else action)
      parts := by
  refine ⟨.guard fun allowed => (crafts allowed).makes, ?_⟩
  split
  · exact .quiet
  · exact (crafts ‹_›).inner

theorem onto (crafts : Crafts standing known .none action parts) :
    Crafts standing known given action fun value => given ++ parts value :=
  ⟨crafts.makes.onto, crafts.inner⟩

/-- Parts that are there are not used any more. -/
theorem instead (crafts : Crafts standing known .none action parts) :
    Crafts standing known given action parts :=
  ⟨fun _ _ _ _ made run => made.forget.none_append (crafts.makes.made made.ok run), crafts.inner⟩

/-- What is made is not used. -/
theorem forget (crafts : Crafts standing known given action parts) :
    Crafts standing known given action fun _ => .none :=
  ⟨fun _ _ _ _ made run => (crafts.makes made run).forget, crafts.inner⟩

theorem congr (crafts : Crafts standing known contents action parts)
    (alike : given.Alike contents) : Crafts standing known given action parts :=
  ⟨fun _ _ _ _ made run => crafts.makes (made.congr alike) run, crafts.inner⟩

theorem numbered {build : Nat → α} (wrap : α → Item)
    (same : ∀ id, parts (build id) = given ++ .one (wrap (build id)))
    (number_eq : ∀ id, (wrap (build id)).number? = some id)
    (sound : ∀ id, (wrap (build id)).Sound) :
    Crafts standing known given (freshId >>= fun id => Pure.pure (build id)) parts :=
  ⟨.numbered wrap same number_eq sound, .bind .number fun _ => .pure⟩

theorem term (sound : ∀ id, (Item.term (.mk id form)).Sound := by exact fun _ => trivial)
    (same : given = form.contents := by rfl) : Crafts standing known given
    (fresh form) Term.contents :=
  ⟨.term sound same, .fresh form⟩

end Crafts

/-! ## Leaves -/

theorem crafts_literal {type : String}
    (fits : ∀ settled : PortType, settled.name = type → value.Fits settled) :
    Crafts standing known .none (literal value type) Term.contents :=
  .looked fun settled found => .term fun _ =>
    fits settled (by rw [Typing.eq_mk_of_make found, PortType.name_mk])

theorem crafts_number (type letters raw : String) :
    Crafts standing known .none (number type letters raw) Term.contents :=
  .ite (.lift fun _ => crafts_literal fun _ _ => trivial)
    (.lift fun _ => crafts_literal fun _ _ => trivial)

theorem crafts_readVariable (spot : Tree) (reads : standing.Reads [name]) :
    Crafts standing known .none (readVariable spot name) Term.contents := by
  refine .typeOf reads fun found => ?_
  cases found with
  | none => exact .ite .stop .stop
  | some => exact .refuse reads .term

theorem crafts_readIndex (spot : Tree) (reads : standing.Reads ["#"]) :
    Crafts standing known .none (readIndex spot) Term.contents := by
  refine .typeOf reads fun found => ?_
  cases found with
  | none => exact .stop
  | some => exact .term

theorem crafts_enumerationValue (raw : String) :
    Crafts standing known .none (enumerationValue raw) Term.contents :=
  .lift fun _ => .term

/-! ## Operators with one operand -/

theorem crafts_invert (spot : Tree) (value : Term) :
    Crafts standing known value.contents (invert spot value) Term.contents := by
  refine .lift fun _ => .lift fun _ => .lift fun _ => .lift fun _ => ?_
  exact .guard fun _ => .term

theorem crafts_negate (spot : Tree) (value : Term) :
    Crafts standing known value.contents (negate spot value) Term.contents := by
  refine .lift fun _ => .lift fun _ => .lift fun _ => .lift fun _ => ?_
  split
  · refine .looked fun _ found => .instead (.term fun _ => ?_)
    unfold negateLiteral at found
    split at found <;> cases found <;> trivial
  · refine .lift fun negation => ?_
    cases negation with
    | none => exact .stop
    | some => exact .term

theorem crafts_unary (spot : Tree) (operator : String) (value : Term) :
    Crafts standing known value.contents (unary spot operator value) Term.contents := by
  unfold unary
  split
  · exact .pure
  · exact crafts_invert spot value
  · exact crafts_negate spot value
  · exact .throw

end GraphScript.Elaboration
