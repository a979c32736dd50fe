import GraphScript.Proofs.Elaboration.Body
import GraphScript.Proofs.Graph.Naming

/-!
# Scripts give whole compounds

The compounds that a script gives stand on their own: they borrow nothing, their parts are orderly,
and no two parts of the script have the same number.  The bodies of its functions stand on their
own, too, also those that were imported.
-/

namespace GraphScript.Program

/-- Compounds that stand on their own and have no number in common. -/
structure WholeProgram (terms : List Term) : Prop where
  orderly : (termsContents terms).Orderly
  closed : ∀ term ∈ terms, term.contents.borrowed = []
  isScope : ∀ term ∈ terms, term.form.isScope

end GraphScript.Program

namespace GraphScript.Elaboration

open Act (Keeps Yields yields_bind yields_pure yields_get yields_set yields_modify yields_lift
  yields_ite)
open GraphScript.Language (Tree)
open Program
open Syntax (Exec OverloadPort)

/-! ## Overloads -/

section Overloads

theorem body_setOverload (function : Function) (inputs : List String) (outputs : List PortType) :
    (function.setOverload inputs outputs).body = function.body := by
  unfold Function.setOverload
  split <;> rfl

theorem makes_storeOverload :
    Makes known .none (storeOverload overloaded typesIn typesOut) fun _ => .none := by
  unfold storeOverload
  split
  · refine .lift fun _ _ _ _ _ made run => ?_
    obtain rfl := yields_modify.mp run
    split
    case h_1 function found =>
      refine ⟨made.spans, made.scopes, ⟨?_, made.ok.holds⟩, by simp⟩
      refine made.ok.functions.insert ?_
      rw [body_setOverload]
      exact made.ok.functions _ (Table.mem_of_get? found)
    case h_2 => exact made
  · exact fun _ _ _ _ made run => made.step keeps_registering run

theorem makes_storeChoices {choices : List (List (OverloadPort × String))} :
    Makes known .none (storeChoices spot overloaded typesOut typesIn choices) fun _ => .none := by
  induction choices generalizing typesIn with
  | nil => exact .pure
  | cons _ _ ih =>
    refine .quiet fun _ => ?_
    exact .bind makes_storeOverload fun _ => ih

theorem makes_overloadPorts :
    Makes known .none (overloadPorts spot inputSpot resultSpot name inputs outputs)
      fun _ => .none := by
  refine .quiet fun overloaded => ?_
  have last : Makes known .none (do
      let typesOut ← overloadOutputs spot overloaded.namesOut 0 false overloaded.typesOut outputs
      storeChoices spot overloaded typesOut overloaded.typesIn (choices inputs)) fun _ => .none :=
    .quiet fun _ => makes_storeChoices
  cases outputs with
  | nil => exact .guard fun _ => .guard fun _ => last
  | cons => exact .guard fun _ => .guard fun _ => .guard fun _ => last

end Overloads

/-! ## Functions and imports -/

theorem isScope_block {result : Term} (run : Yields (block written) before result after) :
    result.form.isScope := by
  cases written with
  | mk =>
    simp only [block, fresh, yields_bind, yields_pure] at run
    obtain ⟨_, _, _, _, _, _, _, _, _, _, _, _, _, _, _, _, _, _, _, _, _, rfl, _⟩ := run
    rfl

/-- A block outside of all bodies stands on its own. -/
theorem whole_block {result : Term} (ok : before.Ok [])
    (run : Yields (block written) before result after) :
    Made [] before after result.contents ∧ result.Whole := by
  have made := (makes_block written).made ok run
  exact ⟨made, ⟨made.spans.nodup, made.spans.sound⟩,
    List.eq_nil_iff_forall_not_mem.mpr fun node held => List.not_mem_nil (made.held node held),
    isScope_block run⟩

theorem made_function (ok : before.Ok [])
    (run : Yields (function nameSpot name written) before done after) :
    Made [] before after .none := by
  simp only [function, yields_bind, yields_get, yields_ite, yields_report, yields_modify, false_and,
    exists_false, if_false_left] at run
  obtain ⟨_, _, ⟨rfl, rfl⟩, -, _, _, runBlock, rfl⟩ := run
  obtain ⟨made, whole⟩ := whole_block ok runBlock
  exact ⟨.nothing made.spans.le, made.scopes,
    ⟨made.ok.functions.insert whole, made.ok.holds⟩, by simp⟩

theorem FunctionsSound.insertAll :
    ∀ {entries : List (String × Function)} {functions : Table Function},
      FunctionsSound functions → (∀ entry ∈ entries, entry.2.body.Whole) →
      FunctionsSound (functions.insertAll entries)
  | [], _, sound, _ => sound
  | entry :: _, functions, sound, new => by
    have first : FunctionsSound (functions.insert entry.1 entry.2) :=
      sound.insert (new entry (List.mem_cons_self ..))
    exact first.insertAll (List.forall_mem_cons.mp new).2

/-- An import changes only what is printed and which numbers are free, and gives sound functions. -/
def Imports (run : Path → Elaborating (Table Function)) : Prop :=
  ∀ (path : Path) (before after : Session) (functions : Table Function),
    Yields (run path) before functions after →
    FunctionsSound functions ∧ before.nextId ≤ after.nextId ∧ after.scopes = before.scopes ∧
      after.functions = before.functions

theorem keeps_importNamespace : Keeps Session.ledger (importNamespace spot path given) := by
  unfold importNamespace
  split
  · exact .pure _
  · dsimp only
    refine .ite (.bind Quiet.keeps fun name => ?_) (.bind (.pure _) fun _ => ?_)
    · exact .ite (.pure _) Quiet.keeps
    · exact .ite (.pure _) Quiet.keeps

theorem made_importScript (imports : Imports run) (ok : before.Ok [])
    (runs : Yields (importScript around run spot pathSpot rawPath given) before done after) :
    Made [] before after .none := by
  simp only [importScript, yields_bind, yields_get] at runs
  obtain ⟨_, _, runPath, _, _, ⟨rfl, rfl⟩, runs⟩ := runs
  have made := Made.start ok Quiet.keeps runPath
  split at runs
  · exact (yields_report.mp runs).elim
  · simp only [takeFunctions, yields_bind, yields_modify] at runs
    obtain ⟨space, _, runSpace, functions, third, runImport, rfl⟩ := runs
    have made := made.step keeps_importNamespace runSpace
    obtain ⟨sound, le, scopes, same⟩ := imports _ _ _ _ runImport
    have taken : FunctionsSound (third.functions.insertAll
        (functions.entries.map fun entry => (space ++ "::" ++ entry.1, entry.2))) := by
      refine FunctionsSound.insertAll (same ▸ made.ok.functions) ?_
      intro _ member
      obtain ⟨original, inside, rfl⟩ := List.mem_map.mp member
      exact sound original inside
    refine ⟨.nothing (made.spans.le.trans le), scopes.trans made.scopes, ⟨taken, ?_⟩, by simp⟩
    rw [scopes]
    exact made.ok.holds

/-! ## The top level -/

section TopLevel

theorem made_exec {result : Option Term} (imports : Imports run) (ok : before.Ok [])
    (runs : Yields (exec around run written) before result after) :
    Made [] before after (termsContents result.toList) ∧
      ∀ term ∈ result, term.contents.borrowed = [] ∧ term.form.isScope := by
  cases written with
  | block =>
    obtain ⟨_, runBlock, rfl⟩ := runs.mapped
    obtain ⟨made, whole⟩ := whole_block ok runBlock
    refine ⟨made.append (.nothing made.ok), ?_⟩
    rintro _ ⟨⟩
    exact ⟨whole.closed, whole.isScope⟩
  | function =>
    obtain ⟨_, runFunction, rfl⟩ := runs.mapped
    exact ⟨made_function ok runFunction, by simp⟩
  | overload =>
    obtain ⟨_, runOverload, rfl⟩ := runs.mapped
    exact ⟨makes_overloadPorts.made ok runOverload, by simp⟩
  | importing =>
    obtain ⟨_, runImport, rfl⟩ := runs.mapped
    exact ⟨made_importScript imports ok runImport, by simp⟩

theorem made_execs (imports : Imports run) :
    ∀ {written : List Exec} {before after : Session} {results : List (Option Term)},
      before.Ok [] → Yields (execs around run written) before results after →
      Made [] before after (termsContents (results.filterMap id)) ∧
        ∀ term, some term ∈ results → term.contents.borrowed = [] ∧ term.form.isScope
  | [], _, _, _ => by
    intro ok runs
    obtain ⟨rfl, rfl⟩ := runs.pure
    exact ⟨.nothing ok, by simp⟩
  | written :: _, _, _, _ => by
    intro ok runs
    obtain ⟨first, _, runFirst, runs⟩ := runs.bind
    obtain ⟨_, runRest, rfl⟩ := runs.mapped
    obtain ⟨made, closed⟩ := made_exec imports ok runFirst
    obtain ⟨madeRest, closedRest⟩ := made_execs imports made.ok runRest
    refine ⟨?_, ?_⟩
    · have both := made.append madeRest
      rw [← termsContents_append] at both
      cases first with
      | none => exact both
      | some => exact both
    · intro term member
      rcases List.mem_cons.mp member with same | later
      · exact closed term same.symm
      · exact closedRest term later

theorem ok_start (session : Session) (source : Source) :
    Session.Ok []
      { session with source := source, functions := {}, scopes := Scopes.start, loops := 0 } := by
  refine ⟨fun _ member => ?_, fun _ holds => ?_⟩
  · exact (List.not_mem_nil member).elim
  · obtain ⟨_, _, head, found, -⟩ := holds
    cases head
    cases found

theorem made_runSource {results : List (Option Term)} (imports : Imports run)
    (runs : Yields (runSource around run source) before results after) :
    FunctionsSound after.functions ∧ before.nextId ≤ after.nextId ∧
      WholeProgram (results.filterMap id) := by
  simp only [runSource, yields_bind, yields_modify] at runs
  obtain ⟨_, _, rfl, _, _, runParse, runs⟩ := runs
  have made := Made.start (ok_start before source) Quiet.keeps runParse
  split at runs
  · exact runs.throw
  · obtain ⟨entries, runExecs, rfl⟩ := runs.mapped
    obtain ⟨madeAll, closed⟩ := made_execs imports made.ok runExecs
    have same : (resultsOf entries).filterMap id = entries.filterMap id := by
      unfold resultsOf
      split
      · rfl
      · rw [List.filterMap_filter]
        refine List.filterMap_congr fun entry _ => ?_
        cases entry <;> rfl
    rw [same]
    refine ⟨madeAll.ok.functions, made.spans.le.trans madeAll.spans.le,
      ⟨madeAll.spans.nodup, madeAll.spans.sound⟩, ?_, ?_⟩
    · intro term member
      exact (closed term (by simpa using member)).1
    · intro term member
      exact (closed term (by simpa using member)).2

end TopLevel

theorem imports_runImport (around : Surroundings) : ∀ depth, Imports (runImport around depth)
  | 0 => by
    intro path before after functions run
    exact run.throw
  | depth + 1 => by
    intro _ _ _ _ run
    simp only [runImport, yields_bind, yields_get, yields_lift, yields_set, yields_pure] at run
    obtain ⟨_, _, ⟨rfl, rfl⟩, _, _, ⟨-, rfl⟩, _, _, runInner, _, _, ⟨rfl, rfl⟩, _, _, rfl, rfl,
      rfl⟩ := run
    obtain ⟨sound, le, -⟩ := made_runSource (imports_runImport around depth) runInner
    exact ⟨sound, le, rfl, rfl⟩

/-- The compounds that a script gives stand on their own, and no two of their parts have the same
number. -/
theorem wholeProgram_of_runScript {results : List (Option Term)}
    (runs : Yields (runScript around source) before results after) :
    WholeProgram (results.filterMap id) :=
  (made_runSource (imports_runImport around _) runs).2.2

end GraphScript.Elaboration

/-! ## Declarations of results -/

namespace GraphScript.Syntax

/-- The names in the header of a compound have no slash. -/
def Block.Worded : Block → Prop
  | .mk _ _ parameters results _ => (∀ parameter ∈ parameters, Graph.Word parameter.name) ∧
      ∀ result ∈ results.items, Graph.Word result.name

end GraphScript.Syntax

namespace GraphScript.Elaboration

open Act (Yields yields_bind yields_pure)
open GraphScript.Graph (Word)
open Program

theorem knows_results {type : Result → PortType} :
    ∀ {results : List Result} {before : Session},
      Yields (results.forM fun result => setName true result.name (type result) none) before done
      after → (∀ name, Knows before.scopes name → Knows after.scopes name) ∧
        ∀ result ∈ results, Knows after.scopes result.name
  | [], _ => by
    intro run
    obtain ⟨-, rfl⟩ := run.pure
    exact ⟨fun _ knows => knows, by simp⟩
  | result :: _, _ => by
    intro run
    rw [List.forM, yields_bind] at run
    obtain ⟨_, _, runFirst, runRest⟩ := run
    obtain ⟨keeps, knows⟩ := knows_results runRest
    refine ⟨fun name known => keeps name ((knows_setName runFirst).mpr (.inr known)), ?_⟩
    exact List.forall_mem_cons.mpr ⟨keeps _ ((knows_setName runFirst).mpr (.inl rfl)), knows⟩

theorem knows_openScope {parameters : List Parameter} {results : List Result}
    (run : Yields (openScope parameters results) before done after) :
    ∀ result ∈ results, Knows after.scopes result.name := by
  obtain ⟨_, _, -, runResults⟩ := run.bind
  exact (knows_results runResults).2

/-- The names in a header have no slash, and no statement declares a result. -/
structure WellHeaded (parameters : List Parameter) (results : List Result) (code : List Statement) :
    Prop where
  inputWords : ∀ parameter ∈ parameters, Word parameter.name
  outputWords : ∀ result ∈ results, Word result.name
  apart : ∀ statement ∈ code, ∀ declared ∈ statement.declares, declared ∉ results.map Result.name

theorem wellHeaded_block {written : Syntax.Block} {result : Term} (ok : before.Ok known)
    (worded : written.Worded) (run : Yields (block written) before result after) :
    ∃ id name parameters results code terminals,
      result = .mk id (.scope name parameters results code terminals) ∧
        WellHeaded parameters results code := by
  cases written with
  | mk name _ _ _ code =>
    simp only [block, yields_bind] at run
    obtain ⟨settled, _, runFlags, parameters, _, runParameters, results, _, runResults, _,
      fourth, runDisjoint, _, fifth, runFeedback, statements, sixth, runBody, runFresh⟩ := run
    have made := Made.start ok Quiet.keeps runFlags
    have made := Crafts.toMakes (crafts_parameters trivial) made runParameters
    have made := made.step Quiet.keeps runResults
    have made := made.step Quiet.keeps runDisjoint
    have made := made.step Quiet.keeps runFeedback
    obtain ⟨_, _, runInner, _, _⟩ := yields_inFrame runBody
    obtain ⟨_, _, runOpen, runCode⟩ := runInner.bind
    have ran := ran_statements code (Naming.stores made.ok.enter runOpen).ok runCode
    have knows := knows_openScope runOpen
    obtain ⟨id, -, rfl⟩ := runFresh.mapped
    refine ⟨id, _, parameters, results, _, settled, rfl, ?_, ?_, ?_⟩
    · intro _ member
      have listed := List.mem_map_of_mem member (f := Parameter.name)
      rw [(names_parameters runParameters).1] at listed
      obtain ⟨original, inside, same⟩ := List.mem_map.mp listed
      rw [← same]
      exact worded.1 original inside
    · intro result member
      have listed := List.mem_map_of_mem member (f := Result.name)
      rw [names_results runResults] at listed
      obtain ⟨original, inside, same⟩ := List.mem_map.mp listed
      rw [← same]
      exact worded.2 original inside
    · intro statement member _ declares listed
      obtain ⟨result, inside, rfl⟩ := List.mem_map.mp listed
      exact ran.undeclared result.name (knows result inside) statement
        ((thins_withoutEmpty _).subset member) declares

end GraphScript.Elaboration
