import GraphScript.Overload.Builtin.Operators
import GraphScript.Overload.Builtin.Geometry
import GraphScript.Overload.Builtin.Simulation

/-!
# The registry that every script starts with
-/

namespace GraphScript.Overload.Builtin

def registrations : List Registration :=
  graph ++ conversion ++ arrays ++ objects ++ mathematics ++ constants ++ logic ++ geometry ++
    learning ++ randomness ++ display ++ fieldRules ++ simulation ++ usd

/-- The registry before any rule is defined. -/
def bare : Registry :=
  { operators := ⟨operators⟩, rules := ∅, tested := [], skipped := [], mustExist := false }

/-- Builds up the registry from the catalogue and the registrations, and prints a summary. -/
def load : Registering Unit := do
  registrations.forM Registration.perform
  loadSuggestions
  let registry ← currentRegistry
  note s!"Passed {registry.tested.length} tests, skipped {registry.skipped.length}"

/-- The registry with all registrations and a clean record of tests. -/
def registry : Registry := { (load.runOn ⟨bare, #[]⟩).2.registry with tested := [], skipped := [] }

end GraphScript.Overload.Builtin
