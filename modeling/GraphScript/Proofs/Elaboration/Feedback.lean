import GraphScript.Proofs.Elaboration.Nesting

/-!
# Feedback within loops

No compound that is written within a loop has a result with feedback, at whatever depth it stands
there, in an accepted script and in every file that the script imports.  A call brings the body of a
function into a loop without a look at its header, so nothing of the kind holds of the functions
that are called there.
-/

namespace GraphScript.Syntax

mutual

/-- No compound that a statement has within a loop has feedback; the statement itself may stand in
one. -/
def Statement.Unfed (looping : Bool) : Statement → Prop
  | .empty => True
  | .block written => written.Unfed looping
  | .loop written => written.Unfed
  | .takeOver _ written => written.Unfed looping
  | .assignment _ _ _ written => written.Unfed looping
  | .call _ => True

def UnfedAll (looping : Bool) : List Statement → Prop
  | [] => True
  | first :: rest => first.Unfed looping ∧ UnfedAll looping rest

def Maker.Unfed (looping : Bool) : Maker → Prop
  | .expr _ => True
  | .block written => written.Unfed looping
  | .loop written => written.Unfed

def Block.Unfed (looping : Bool) : Block → Prop
  | .mk _ _ _ results code =>
    (looping = true → ∀ result ∈ results.items, result.feedback = none) ∧ UnfedAll looping code

def Loop.Unfed : Loop → Prop
  | .mk _ _ _ _ _ _ _ _ code _ => UnfedAll true code

end

/-- No compound within a loop of a compound or function at the top level has feedback. -/
def Exec.Unfed : Exec → Prop
  | .block written => written.Unfed false
  | .function _ _ written => written.Unfed false
  | _ => True

end GraphScript.Syntax

namespace GraphScript.Elaboration

open Act (Yields Ensures yields_bind yields_get yields_ite)
open Relation (ReflTransGen)
open Syntax (Exec UnfedAll)

/-! ## Actions that refuse something in a loop -/

/-- If the action yields anything, where it may stand in a loop, then the statement holds. -/
def Shows {α : Type} (looping : Bool) (shown : Prop) (action : Elaborating α) : Prop :=
  ∀ ⦃before result after⦄, (looping = true → before.loops ≠ 0) →
    Yields action before result after → shown

namespace Shows

theorem first (shows' : Shows looping shown action) : Shows looping shown (action >>= next) := by
  intro _ _ _ loops run
  obtain ⟨_, _, runFirst, _⟩ := run.bind
  exact shows' loops runFirst

theorem after (inner : Inner .body action) (shows' : ∀ value, Shows looping shown (next value)) :
    Shows looping shown (action >>= next) := by
  intro _ _ _ loops run
  obtain ⟨value, _, runFirst, runNext⟩ := run.bind
  rw [← inner.loops_eq runFirst] at loops
  exact shows' value loops runNext

theorem both (inner : Inner .body action) (shows' : Shows looping shown action)
    (showsNext : ∀ value, Shows looping other (next value)) :
    Shows looping (shown ∧ other) (action >>= next) :=
  fun _ _ _ loops run => ⟨shows'.first loops run, after inner showsNext loops run⟩

theorem frame (shows' : Shows looping shown action) : Shows looping shown (inFrame action) := by
  intro before _ _ loops run
  obtain ⟨_, _, _, runBody, _⟩ := yields_inFrame_iff.mp run
  exact @shows' (before.over before.scopes.enter) _ _ loops runBody

theorem loop (shows' : Shows true shown action) : Shows looping shown (inLoop action) := by
  intro _ _ _ _ run
  obtain ⟨_, runBody, _⟩ := yields_inLoop run
  exact shows' (fun _ => Nat.succ_ne_zero _) runBody

end Shows

/-! ## Bodies -/

section Bodies

theorem shows_result (written : Syntax.Result) :
    Shows looping (looping = true → written.feedback = none) (result written) := by
  intro _ _ _ loops run inside
  simp only [result, yields_bind, yields_get, yields_ite, yields_report, false_and, exists_false,
    if_false_left] at run
  obtain ⟨_, _, ⟨rfl, rfl⟩, allowed, -⟩ := run
  simpa [loops inside] using allowed

theorem shows_resultItems : ∀ written : List Syntax.Result,
    Shows looping (looping = true → ∀ result ∈ written, result.feedback = none)
      (resultItems written)
  | [] => fun _ _ _ _ _ _ => List.forall_mem_nil _
  | written :: rest => by
    intro _ _ _ loops run inside
    have shows' : Shows looping _ (resultItems (written :: rest)) :=
      .both .quiet (shows_result written) fun _ => .first (shows_resultItems rest)
    obtain ⟨first, others⟩ := shows' loops run
    exact List.forall_mem_cons.mpr ⟨first inside, others inside⟩

mutual

theorem shows_statement {looping : Bool} : ∀ written : Syntax.Statement,
    Shows looping (written.Unfed looping) (statement written)
  | .empty | .call _ => fun _ _ _ _ _ => trivial
  | .block written => by
    exact .first (shows_block written)
  | .loop written => by
    exact .first (shows_loop written)
  | .takeOver _ written | .assignment _ _ _ written => by
    exact .first (shows_maker written)

theorem shows_statements {looping : Bool} : ∀ code : List Syntax.Statement,
    Shows looping (UnfedAll looping code) (statements code)
  | [] => fun _ _ _ _ _ => trivial
  | written :: rest => by
    exact .both (inner_statement written) (shows_statement written) fun _ =>
      .first (shows_statements rest)

theorem shows_maker {looping : Bool} : ∀ written : Syntax.Maker,
    Shows looping (written.Unfed looping) (maker written)
  | .expr _ => fun _ _ _ _ _ => trivial
  | .block written => by
    exact shows_block written
  | .loop written => by
    exact shows_loop written

theorem shows_block {looping : Bool} : ∀ written : Syntax.Block,
    Shows looping (written.Unfed looping) (block written)
  | .mk _ flags _ _ code => by
    refine .after .quiet fun _ => ?_
    refine .after (Crafts.toInner (crafts_parameters trivial)) fun _ => ?_
    refine .both .quiet (.first (shows_resultItems _)) fun _ => ?_
    refine .after .quiet fun _ => ?_
    refine .after .quiet fun _ => ?_
    exact .first (.frame (.after Naming.inner fun _ => shows_statements code))

theorem shows_loop {looping : Bool} : ∀ written : Syntax.Loop,
    Shows looping written.Unfed (loop written)
  | .mk _ flags _ _ settings _ _ _ code
      _ => by
      refine .after .quiet fun _ => ?_
      refine .after (Crafts.toInner (crafts_loopSettings trivial)) fun _ => ?_
      refine .after (Crafts.toInner (crafts_loopParameters trivial)) fun _ => ?_
      refine .after .quiet fun _ => ?_
      refine .after .quiet fun _ => ?_
      refine .first (.frame (.after Naming.inner fun _ => ?_))
      exact .first (.loop (shows_statements code))

end

end Bodies

/-! ## Scripts -/

section Scripts

variable {results : List (Option Program.Term)}

theorem unfed_exec {result : Option Program.Term}
    (ran : Yields (exec around run entry) before result after) : entry.Unfed := by
  cases entry with
  | block written =>
    obtain ⟨_, _, runBlock, _⟩ := ran.bind
    exact shows_block written (fun impossible => by cases impossible) runBlock
  | function _ _ written =>
    obtain ⟨_, _, runFunction, _⟩ := ran.bind
    simp only [function, yields_bind, yields_get, yields_ite, yields_report, false_and,
      exists_false, if_false_left] at runFunction
    obtain ⟨_, _, ⟨rfl, rfl⟩, -, _, _, runBlock, -⟩ := runFunction
    exact shows_block written (fun impossible => by cases impossible) runBlock
  | overload | importing => trivial

theorem unfed_execs :
    ∀ {written : List Exec} {before after : Session} {results : List (Option Program.Term)},
      Yields (execs around run written) before results after → ∀ entry ∈ written, entry.Unfed
  | [], _, _, _, _ => List.forall_mem_nil _
  | written :: _, _, _, _, ran => by
    obtain ⟨_, _, runFirst, ran⟩ := ran.bind
    obtain ⟨_, _, runRest, _⟩ := ran.bind
    exact List.forall_mem_cons.mpr ⟨unfed_exec runFirst, unfed_execs runRest⟩

theorem unfed_runSource (ran : Yields (runSource around run source) before results after)
    (reads : Reads source written) : ∀ entry ∈ written, entry.Unfed := by
  obtain ⟨_, _, _, ran⟩ := ran.bind
  obtain ⟨_, _, parsed, ran⟩ := ran.bind
  split at ran
  · exact ran.throw
  next found built =>
    obtain rfl := reads.unique (reads_of_parsed parsed built)
    obtain ⟨_, _, ran, _⟩ := ran.bind
    exact unfed_execs ran

/-- A script that belongs to a script: itself, or a file that its imports lead to. -/
inductive Includes (around : Surroundings) (source : Source) : Source → Prop
  | itself : Includes around source source
  | imported {path next : Path} {other : Source} :
      Names around source path → ReflTransGen (Opens around) path next →
      sourceAt around next next = .ok other → Includes around source other

/-- Whatever belongs to an accepted script was run to its end. -/
theorem runs_of_includes (accepted : Yields (runScript around source) before results after)
    (includes : Includes around source other) :
    ∃ run before results after, Yields (runSource around run other) before results after := by
  cases includes with
  | itself => exact ⟨_, _, _, _, accepted⟩
  | imported names leads read =>
    have runs : Runs around around.depth _ :=
      runs_runSource (importing_runImport around around.depth) accepted names
    obtain ⟨_, runs⟩ := runs.reaches leads
    obtain ⟨_, _, _, _, ran⟩ := runs.script read
    exact ⟨_, _, _, _, ran⟩

end Scripts

/-- In an accepted script and in all that it imports, no compound that is written within a loop, at
any depth, has a result with feedback. -/
theorem unfed_of_accepted (around : Surroundings) (source : Source) (session : Session) :
    Ensures (runScript around source) session fun _ _ =>
      ∀ other written, Includes around source other → Reads other written →
        ∀ entry ∈ written, entry.Unfed := by
  intro results after accepted other written includes reads
  obtain ⟨_, _, _, _, ran⟩ := runs_of_includes accepted includes
  exact unfed_runSource ran reads

/-- A compound with feedback around a loop, and one without in it. -/
theorem unfed_of_accepted_around :
    let script : Source := ⟨"around", ("compound t(LONG a => LONG r@a) \x7b r = a; " ++
      "for_each() < 3 \x7b compound () \x7b \x7d \x7d \x7d").toList, false⟩
    Ensures (runScript default script) default fun _ _ =>
      ∀ other written, Includes default script other → Reads other written →
        ∀ entry ∈ written, entry.Unfed :=
  unfed_of_accepted _ _ _

end GraphScript.Elaboration
