import GraphScript.Proofs.Elaboration.Traces
import Mathlib.Logic.Relation

/-!
# Nested imports

An import runs the first file that its path leads to.  A script runs to its end only if all the
files do that its imports lead to, directly or through others.
-/

namespace GraphScript
namespace Act

/-- Where the action yields a value, it yields this value from every state. -/
def Indifferent (action : Act σ α) : Prop :=
  ∀ ⦃state value after⦄, Yields action state value after → ∀ other, Yields action other value other

namespace Indifferent

theorem pure (value : α) : Indifferent (pure value : Act σ α) := by
  intro _ _ _ run _
  exact yields_pure.mpr ⟨(run.pure).1, rfl⟩

theorem lift (outcome : Except Fault α) : Indifferent (liftM outcome : Act σ α) := by
  intro _ _ _ run _
  exact yields_lift.mpr ⟨(run.lift).1, rfl⟩

theorem throw (fault : Fault) : Indifferent (throw fault : Act σ α) := by
  intro _ _ _ run
  exact run.throw

theorem bind (first : Indifferent action) (second : ∀ value, Indifferent (next value)) :
    Indifferent (action >>= next) := by
  intro _ _ _ run other
  obtain ⟨value, _, runFirst, runSecond⟩ := run.bind
  exact yields_bind.mpr ⟨value, other, first runFirst other, second value runSecond other⟩

end Indifferent

end Act

namespace Language

open Act (Indifferent)

theorem indifferent_step (table : Grammar.ParseTable) (source : Source) (parsing : Parsing) :
    Indifferent (step table source parsing) := by
  unfold step
  split
  · exact .bind (.lift _) fun _ => .pure _
  · refine .bind (.lift _) fun found => ?_
    obtain ⟨_, _⟩ := found
    dsimp only
    split
    · exact .pure _
    · exact .bind (.lift _) fun _ => .pure _
    · exact .pure _
    · intro _ _ _ run
      obtain ⟨_, _, _, stopped⟩ := run.bind
      exact stopped.throw

/-- The lines that were logged before have no influence on the tree of a script. -/
theorem indifferent_run (table : Grammar.ParseTable) (source : Source) (bound : Nat) :
    ∀ parsing, Indifferent (run table source bound parsing) := by
  induction bound with
  | zero => exact fun _ => .throw _
  | succ _ ih =>
    refine fun parsing => .bind (indifferent_step table source parsing) fun outcome => ?_
    cases outcome with
    | next parsing => exact ih parsing
    | accepted tree => exact .pure tree

end Language

namespace Elaboration

open Act (Yields yields_modify)
open GraphScript.Language (Tree)
open Relation (ReflTransGen)
open Syntax (Exec)

theorem Reads.unique (first : Reads source written) (second : Reads source other) :
    written = other := by
  obtain ⟨log, _, _, parsed, built⟩ := first
  obtain ⟨_, _, _, parsedOther, builtOther⟩ := second
  have again := Language.indifferent_run _ _ _ _ parsedOther log
  cases parsed.symm.trans again
  exact Option.some.inj (built.symm.trans builtOther)

/-- The path that an entry of a script imports from, if something stands there. -/
def importTarget? (around : Surroundings) (source : Source) : Exec → Option Path
  | .importing _ _ raw _ =>
    (importCandidates around source (Text.dropEnd 1 (Text.dropStart 1 raw))).find? fun candidate =>
      (around.files.find? candidate).isSome
  | _ => none

/-- The script imports from the path. -/
def Names (around : Surroundings) (source : Source) (path : Path) : Prop :=
  ∃ written, Reads source written ∧ ∃ entry ∈ written, importTarget? around source entry = some path

/-- The file at the first path imports from the second. -/
def Opens (around : Surroundings) (path next : Path) : Prop :=
  ∃ source, sourceAt around path path = .ok source ∧ Names around source next

/-! ## Imports of an accepted script -/

theorem runs_importScript {spot pathSpot : Tree} {raw : String}
    (ran : Yields (importScript around run spot pathSpot raw given) before done after)
    (target : importTarget? around before.source (.importing spot pathSpot raw given) = some path) :
    ∃ start functions left, Yields (run path) start functions left := by
  obtain ⟨_, _, unquotes, ran⟩ := ran.bind
  obtain rfl := eq_of_unquoted unquotes
  replace ran := ran.afterGet
  rw [← Inner.quiet.source_eq unquotes, importTarget?] at target
  dsimp only at ran
  rw [target] at ran
  obtain ⟨_, _, _, ran⟩ := ran.bind
  obtain ⟨functions, left, imported, _⟩ := ran.bind
  exact ⟨_, functions, left, imported⟩

theorem runs_execs (importing : Importing around run) :
    ∀ {before after : Session} {results : List (Option Program.Term)},
      Yields (execs around run written) before results after →
      ∀ entry ∈ written, importTarget? around before.source entry = some path →
        ∃ start functions left, Yields (run path) start functions left := by
  induction written with
  | nil => exact fun _ => List.forall_mem_nil _
  | cons _ _ ih =>
    intro _ _ _ ran entry member target
    obtain ⟨_, _, runFirst, ran⟩ := ran.bind
    obtain ⟨_, _, runRest, _⟩ := ran.bind
    rcases List.mem_cons.mp member with rfl | member
    · cases entry with
      | importing =>
        obtain ⟨_, _, imported, _⟩ := runFirst.bind
        exact runs_importScript imported target
      | block | function | overload => cases target
    · rw [← returns_exec importing runFirst] at target
      exact ih runRest entry member target

/-- A script runs to its end only if everything that it imports does. -/
theorem runs_runSource (importing : Importing around run) {results : List (Option Program.Term)}
    (ran : Yields (runSource around run source) before results after)
    (names : Names around source path) :
    ∃ start functions left, Yields (run path) start functions left := by
  obtain ⟨_, reads, entry, member, target⟩ := names
  obtain ⟨_, _, started, ran⟩ := ran.bind
  obtain rfl := yields_modify.mp started
  obtain ⟨_, middle, parsed, ran⟩ := ran.bind
  have same : middle.source = source := Inner.quiet.source_eq parsed
  split at ran
  · exact ran.throw
  next found built =>
    obtain rfl := reads.unique (reads_of_parsed parsed built)
    obtain ⟨_, _, ran, _⟩ := ran.bind
    exact runs_execs importing ran entry member (same.symm ▸ target)

/-- The file at a path can be run to its end within a depth. -/
def Runs (around : Surroundings) (depth : Nat) (path : Path) : Prop :=
  ∃ before functions after, Yields (runImport around depth path) before functions after

theorem Runs.script (runs : Runs around depth path)
    (read : sourceAt around path path = .ok source) :
    ∃ smaller before results after,
      Yields (runSource around (runImport around smaller) source) before results after := by
  obtain ⟨_, _, _, ran⟩ := runs
  cases depth with
  | zero => exact ran.throw
  | succ depth =>
    obtain ⟨_, _, _, ran⟩ := ran.bind
    obtain ⟨_, _, opened, ran⟩ := ran.bind
    obtain ⟨again, rfl⟩ := opened.lift
    cases read.symm.trans again
    obtain ⟨results, left, ran, _⟩ := ran.bind
    exact ⟨depth, _, results, left, ran⟩

theorem Runs.opens (runs : Runs around depth path) (opens : Opens around path next) :
    ∃ smaller, Runs around smaller next := by
  obtain ⟨_, read, names⟩ := opens
  obtain ⟨smaller, _, _, _, ran⟩ := runs.script read
  exact ⟨smaller, runs_runSource (importing_runImport around smaller) ran names⟩

theorem Runs.reaches (runs : Runs around depth path)
    (reaches : ReflTransGen (Opens around) path next) : ∃ smaller, Runs around smaller next := by
  induction reaches with
  | refl => exact ⟨depth, runs⟩
  | tail _ opens ih =>
    obtain ⟨_, runs⟩ := ih
    exact runs.opens opens

end Elaboration
end GraphScript
