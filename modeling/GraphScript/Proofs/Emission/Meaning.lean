import GraphScript.Proofs.Emission.Compounds
import GraphScript.Proofs.Emission.Scripts
import GraphScript.Proofs.Syntax.Headers

/-!
# Straight-line code keeps its meaning

A compound of an accepted script is built as a graph.  When its code is straight-line, the values
that reach its results in the graph are those that the code gives them when it is run, whatever the
nodes compute and whatever values the parameters have.
-/

namespace GraphScript.Emission

open List GraphScript.Graph Program
open Act (Ensures Yields yields_bind yields_modify)
open Elaboration (Session Surroundings WellHeaded runScript)
open Syntax (Exec)

variable {name : String} {parameters : List Parameter} {results : List Result}
    {code : List Statement}
variable {terminals : Terminals}

/-! ## Headers of accepted compounds -/

section Accepted

variable {around : Surroundings} {run : Path → Elaboration.Elaborating (Table Elaboration.Function)}

theorem wellHeaded_exec {written : Exec} {after : Session} {id : Nat} (ok : before.Ok [])
    (worded : ∀ block, written = .block block → block.Worded)
    (runs : Yields (Elaboration.exec around run written) before result after)
    (isTerm : result = some (.mk id (.scope name parameters results code terminals))) :
    WellHeaded parameters results code := by
  cases written with
  | block written =>
    obtain ⟨_, runBlock, rfl⟩ := runs.mapped
    obtain ⟨_, _, _, _, _, _, same, headed⟩ :=
      Elaboration.wellHeaded_block ok (worded written rfl) runBlock
    cases (Option.some.inj isTerm).symm.trans same
    exact headed
  | function | overload
  | importing =>
    obtain ⟨_, -, rfl⟩ := runs.mapped
    cases isTerm

theorem wellHeaded_execs {id : Nat} (imports : Elaboration.Imports run) :
    ∀ {written : List Exec} {before after : Session} {entries : List (Option Term)}, before.Ok [] →
      (∀ block, .block block ∈ written → block.Worded) →
      Yields (Elaboration.execs around run written) before entries after →
      some (.mk id (.scope name parameters results code terminals)) ∈ entries →
      WellHeaded parameters results code
  | [], _, _, _ => by
    intro ok worded runs member
    obtain ⟨rfl, rfl⟩ := runs.pure
    cases member
  | written :: _, _, _, _ => by
    intro ok worded runs member
    obtain ⟨_, _, runFirst, runs⟩ := runs.bind
    obtain ⟨_, runRest, rfl⟩ := runs.mapped
    have made := (Elaboration.made_exec imports ok runFirst).1
    rcases mem_cons.mp member with isFirst | later
    · exact wellHeaded_exec ok (fun block same => worded block (same ▸ mem_cons_self ..)) runFirst
        isFirst.symm
    · exact wellHeaded_execs imports made.ok
        (fun block inside => worded block (mem_cons_of_mem _ inside)) runRest later

theorem wellHeaded_of_runScript {source : Source} {after : Session} {id : Nat}
    (runs : Yields (runScript around source) before entries after)
    (member : some (.mk id (.scope name parameters results code terminals)) ∈ entries) :
    WellHeaded parameters results code := by
  simp only [runScript, Elaboration.runSource, yields_bind, yields_modify] at runs
  obtain ⟨_, _, rfl, _, _, runParse, runs⟩ := runs
  have made := Elaboration.Made.start (Elaboration.ok_start before source)
    Elaboration.Quiet.keeps runParse
  split at runs
  · exact runs.throw
  · rename_i written read
    obtain ⟨all, runExecs, rfl⟩ := runs.mapped
    obtain ⟨_, logged, -⟩ := Act.yields_zoom.mp runParse
    obtain ⟨_, parsed, -⟩ := Act.yields_zoom.mp logged
    have derivation := Language.derivation_run _ (Language.reached_start source) parsed
    have isProgram := Language.symbol_run _ (Language.reached_start source) parsed
    have listed : some (.mk id (.scope name parameters results code terminals)) ∈ all := by
      unfold Elaboration.resultsOf at member
      split at member
      · exact member
      · exact (mem_filter.mp member).1
    refine wellHeaded_execs (Elaboration.imports_runImport around _) made.ok (fun _ inside => ?_)
      runExecs listed
    exact Syntax.worded_of_ofTree? derivation isProgram read inside

end Accepted

/-! ## Accepted compounds -/

/-- The numbers in one of several terms are different if those in all of them are. -/
theorem nodup_of_mem_terms :
    ∀ {terms : List Term}, (termsContents terms).numbers.Nodup → term ∈ terms →
      term.contents.numbers.Nodup
  | first :: _, distinct, member => by
    rw [termsContents, Contents.numbers_append] at distinct
    rcases mem_cons.mp member with rfl | later
    · exact (nodup_append.mp distinct).1
    · exact nodup_of_mem_terms (nodup_append.mp distinct).2.1 later

/-- When a compound of an accepted script is straight-line and can be built, then for all nodes and
all values of its parameters its code can be run, and exactly the values that the code gives to the
results reach their ports in the graph. -/
theorem carries_of_accepted (around : Surroundings) (source : Source) (session : Session)
    (registry : Overload.Registry) (host : Host) (root : String) (plain : '.' ∉ root.toList) :
    Ensures (runScript around source) session fun entries _ =>
      ∀ id name parameters results code terminals,
        some (.mk id (.scope name parameters results code terminals)) ∈ entries →
        Straight parameters code →
        Ensures (emit (.mk id (.scope name parameters results code terminals)))
          (.start registry host root) fun path done =>
            ∀ (V : Type) (nodes : Interpretation V) (arguments : String → V), ∃ final,
              runAll (operatorsOf registry nodes) (.of (parameters.map Parameter.name) arguments)
                code = some final ∧
              ∀ result ∈ results, ∀ value,
                Carries nodes (suppliedAt path (parameters.map Parameter.name) arguments)
                  done.diagram
                  (path.output.port result.name) value ↔ final result.name = some value := by
  intro entries _ accepted id name parameters results code terminals member straight path done run V
    nodes arguments
  have headed := wellHeaded_of_runScript accepted member
  have whole := Elaboration.wholeProgram_of_runScript accepted
  have distinct : (Term.contents
    (.mk id (.scope name parameters results code terminals))).numbers.Nodup :=
    nodup_of_mem_terms whole.orderly.nodup (by simpa using member)
  exact carries_result straight headed distinct plain run nodes arguments

/-- A sum that is assigned to a result by way of a variable, in the root of the host. -/
theorem carries_of_accepted_sum :
    Ensures (runScript default ⟨"sum",
        "compound t(LONG a => LONG r) \x7b LONG b = a + 1; r = b; \x7d".toList, false⟩) default
      fun entries _ =>
        ∀ id name parameters results code terminals,
          some (.mk id (.scope name parameters results code terminals)) ∈ entries →
          Straight parameters code →
          Ensures (emit (.mk id (.scope name parameters results code terminals)))
            (.start ownRegistry {} "/") fun path done =>
              ∀ (V : Type) (nodes : Interpretation V) (arguments : String → V), ∃ final,
                runAll (operatorsOf ownRegistry nodes)
                  (.of (parameters.map Parameter.name) arguments) code = some final ∧
                ∀ result ∈ results, ∀ value,
                  Carries nodes (suppliedAt path (parameters.map Parameter.name) arguments)
                    done.diagram
                    (path.output.port result.name) value ↔ final result.name = some value :=
  carries_of_accepted _ _ _ _ _ "/" (by decide)

end GraphScript.Emission
