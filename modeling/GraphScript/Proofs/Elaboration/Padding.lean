import GraphScript.Elaboration.Script

/-!
# Empty statements

An empty statement that stands before another statement is left out of the body, wherever the body
stands: in a compound or a function at the top level, or at any depth in the compounds and loops
within.  So a script with such a statement and the script without it are elaborated to the same end.
At the end of a body an empty statement stays.
-/

namespace GraphScript.Syntax

/-- The statements of a compound or function. -/
def Block.code : Block → List Statement
  | .mk _ _ _ _ code => code

/-- A compound or function with other statements. -/
def Block.withCode (code : List Statement) : Block → Block
  | .mk name flags parameters results _ => .mk name flags parameters results code

def Loop.code : Loop → List Statement
  | .mk _ _ _ _ _ _ _ _ code _ => code

def Loop.withCode (code : List Statement) : Loop → Loop
  | .mk kind flags parameters results settings firstSpot openSpot unlimited _ condition =>
    .mk kind flags parameters results settings firstSpot openSpot unlimited code condition

/-- The statements on the right-hand side of an assignment. -/
def Maker.code : Maker → List Statement
  | .expr _ => []
  | .block written => written.code
  | .loop written => written.code

/-- A right-hand side with other statements. -/
def Maker.withCode (code : List Statement) : Maker → Maker
  | .expr written => .expr written
  | .block written => .block (written.withCode code)
  | .loop written => .loop (written.withCode code)

/-- The statements of an entry of the top level. -/
def Exec.code : Exec → List Statement
  | .block written => written.code
  | .function _ _ written => written.code
  | _ => []

/-- An entry of the top level with other statements. -/
def Exec.withCode (code : List Statement) : Exec → Exec
  | .block written => .block (written.withCode code)
  | .function nameSpot name written => .function nameSpot name (written.withCode code)
  | other => other

/-- The second list has one empty statement more, before another statement at any depth. -/
inductive Pads : List Statement → List Statement → Prop
  | here (next : Statement) (rest : List Statement) : Pads (next :: rest) (.empty :: next :: rest)
  | later (first : Statement) {rest padded : List Statement} :
      Pads rest padded → Pads (first :: rest) (first :: padded)
  | block {written : Block} {padded : List Statement} (rest : List Statement) :
      Pads written.code padded → Pads (.block written :: rest)
        (.block (written.withCode padded) :: rest)
  | loop {written : Loop} {padded : List Statement} (rest : List Statement) :
      Pads written.code padded → Pads (.loop written :: rest)
        (.loop (written.withCode padded) :: rest)
  | takeOver (spot : Language.Tree) {written : Maker} {padded : List Statement}
      (rest : List Statement) : Pads written.code padded →
      Pads (.takeOver spot written :: rest) (.takeOver spot (written.withCode padded) :: rest)
  | assignment (spot : Language.Tree) (targets : List Target) (operator : String) {written : Maker}
      {padded : List Statement} (rest : List Statement) :
      Pads written.code padded →
      Pads (.assignment spot targets operator written :: rest)
        (.assignment spot targets operator (written.withCode padded) :: rest)

theorem Pads.cons (pads : Pads code padded) :
    ∃ first rest other others, code = first :: rest ∧ padded = other :: others := by
  cases pads <;> exact ⟨_, _, _, _, rfl, rfl⟩

end GraphScript.Syntax

namespace GraphScript.Elaboration

open Syntax (Exec Pads)

/-- Elaborates statements, and leaves out the empty ones before others. -/
def body (code : List Syntax.Statement) : Elaborating (List Program.Statement) :=
  withoutEmpty <$> statements code

theorem withoutEmpty_cons (first next : Program.Statement) (rest : List Program.Statement) :
    withoutEmpty (first :: next :: rest) =
      if isEmptyStatement first then withoutEmpty (next :: rest)
      else first :: withoutEmpty (next :: rest) := by
  cases first <;> rfl

theorem body_cons (first next : Syntax.Statement) (rest : List Syntax.Statement) :
    body (first :: next :: rest) = do
      let statement ← statement first
      let code ← body (next :: rest)
      return if isEmptyStatement statement then code else statement :: code := by
  simp only [body, statements, map_eq_pure_bind, bind_assoc, pure_bind, withoutEmpty_cons]

/-- The empty statements can be left out before a compound is made. -/
theorem block_mk (name : Option String) (flags : Syntax.Flags) (written : List Syntax.Parameter)
    (writtenResults : Syntax.Results) (code : List Syntax.Statement) :
    block (.mk name flags written writtenResults code) = (do
      let flags ← terminals flags
      let parameters ← parameters [] written
      let results ← results writtenResults
      checkDisjoint writtenResults.spot (parameters.map Program.Parameter.name)
        (results.map Program.Result.name)
      checkFeedback "Feedback" writtenResults
        (parameters.map fun parameter => (parameter.name, parameter.type)) [] (feedbacks results)
      let code ← inFrame do
        openScope parameters results
        body code
      fresh (.scope (name.getD "unnamed") parameters results code flags)) := by
  simp only [block, body, inFrame, map_eq_pure_bind, bind_assoc, pure_bind]

theorem block_withCode (same : body code = body written.code) :
    block (written.withCode code) = block written := by
  cases written with
  | mk =>
    rw [Syntax.Block.withCode, block_mk, block_mk, same]
    rfl

theorem loop_mk (kind : Syntax.LoopKind) (flags : Syntax.Flags)
    (written : List Syntax.LoopParameter)
    (writtenResults : Syntax.Results) (settings : Syntax.LoopSettings)
    (firstSpot openSpot : Language.Tree)
    (unlimited : Bool) (code : List Syntax.Statement) (condition : Option Syntax.Expr) :
    loop (.mk kind flags written writtenResults settings firstSpot openSpot unlimited code
      condition) = (do
      let flags ← terminals flags
      let (limit, index) ← loopSettings settings
      let parameters ← loopParameters [] written
      let results ← loopResults kind writtenResults
      checkLoop kind writtenResults firstSpot openSpot unlimited limit.isSome parameters results
      let (code, condition) ← inFrame do
        openLoop kind parameters results limit.isSome index.name
        let code ← inLoop (body code)
        let condition ← optionalExpression condition
        return (code, condition)
      fresh (.loop kind parameters results code limit index flags condition)) := by
  simp only [loop, body, inFrame, inLoop, map_eq_pure_bind, bind_assoc, pure_bind]

theorem loop_withCode (same : body code = body written.code) :
    loop (written.withCode code) = loop written := by
  cases written with
  | mk =>
    rw [Syntax.Loop.withCode, loop_mk, loop_mk, same]
    rfl

theorem maker_withCode (same : body code = body written.code) :
    maker (written.withCode code) = maker written := by
  cases written with
  | expr => rfl
  | block =>
    exact block_withCode same
  | loop =>
    exact loop_withCode same

/-- One empty statement more before another one leaves the body as it is. -/
theorem body_of_pads (pads : Pads code padded) : body padded = body code := by
  have first : ∀ {statement' other : Syntax.Statement} (rest : List Syntax.Statement),
      statement statement' = statement other → body (statement' :: rest) =
        body (other :: rest) := by
    intro _ other rest same
    rw [body, body, statements, statements, same]
  induction pads with
  | here =>
    rw [body_cons, statement, pure_bind]
    exact bind_pure _
  | later _ pads same =>
    obtain ⟨_, rest, _, _, rfl, rfl⟩ := pads.cons
    rw [body_cons, body_cons, same]
  | block rest _ same =>
    refine first rest ?_
    rw [statement, statement, block_withCode same]
  | loop rest _ same =>
    refine first rest ?_
    rw [statement, statement, loop_withCode same]
  | takeOver _ rest _ same =>
    refine first rest ?_
    rw [statement, statement, maker_withCode same]
  | assignment _ _ _ rest _ same =>
    refine first rest ?_
    rw [statement, statement, maker_withCode same]

/-- A script in which an empty statement is put before another statement, in a body at any depth of
any compound or function, is elaborated as it was: to the same terms or the same fault, with the
same lines printed on the way. -/
theorem execs_of_pads (around : Surroundings) (run : Path → Elaborating (Table Function))
    (before after : List Exec) (entry : Exec) {padded : List Syntax.Statement}
    (pads : Pads entry.code padded) :
    execs around run (before ++ entry.withCode padded :: after) =
      execs around run (before ++ entry :: after) := by
  have same := body_of_pads pads
  have here : exec around run (entry.withCode padded) = exec around run entry := by
    cases entry with
    | block => rw [Exec.withCode, exec, exec, block_withCode same]
    | function =>
      rw [Exec.withCode, exec, exec, function, function, block_withCode same]
    | overload | importing => rfl
  induction before with
  | nil => rw [List.nil_append, List.nil_append, execs, execs, here]
  | cons _ _ ih => rw [List.cons_append, List.cons_append, execs, execs, ih]

/-- An empty statement before a compound, three compounds deep. -/
theorem execs_of_pads_nested :
    let bare (code : List Syntax.Statement) : Syntax.Block :=
      .mk none ⟨default, none⟩ [] ⟨default, none, []⟩ code
    execs default (fun _ => return {}) [.block (bare [.block (bare [.empty, .block (bare [])])])] =
      execs default (fun _ => return {}) [.block (bare [.block (bare [.block (bare [])])])] := by
  intro bare
  have pads : Pads (Exec.block (bare [.block (bare [.block (bare [])])])).code
      [.block (bare [.empty, .block (bare [])])] :=
    @Pads.block (bare [.block (bare [])]) _ [] (.here _ [])
  have same := execs_of_pads default (fun _ => return {}) [] [] _ pads
  rwa [List.nil_append, List.nil_append, Exec.withCode] at same

end GraphScript.Elaboration
