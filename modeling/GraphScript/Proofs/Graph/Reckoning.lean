import GraphScript.Graph.Slice
import Mathlib.Data.List.Forall2
import Mathlib.Data.List.Induction

/-!
# What circuits compute

The gates of a circuit are evaluated in their order.  Nodes have their usual meaning on whole
numbers and truth values, and division goes toward zero.  A circuit has no values when one of its
nodes divides by zero, also where the quotient is not used in the end.

`Computes` follows a circuit while it is planned: from what is known of some wires, more becomes
known.
-/

namespace GraphScript.Graph

open List

/-- Whole numbers and truth values. -/
inductive Figure where
  | truth (value : Bool)
  | whole (value : Int)
  deriving DecidableEq

/-- What two whole numbers give. -/
def ofWholes (combine : Int → Int → Option Figure) : List Figure → Option Figure
  | [.whole first, .whole second] => combine first second
  | _ => none

/-- A node: its kind, its output port, and the ports that wires lead to, without those that are
numbered. -/
abbrev Shape : Type := String × String × List String

def Shape.logic (name : String) : Shape := (logicKind name, "output", ["first", "second"])

def Shape.choice : Shape := (logicKind "if", "output", ["condition", "true_case", "false_case"])

/-- A node that takes any number of inputs. -/
def Shape.collecting (kind : String) : Shape := (kind, "output", [])

/-- What nodes give out for the figures at their ports. -/
def meanings : List (Shape × (List Figure → Option Figure)) :=
  [(.choice, fun
      | [.truth condition, whenTrue, whenFalse] => some (if condition then whenTrue else whenFalse)
      | _ => none),
    (.logic "or", fun
      | [.truth first, .truth second] => some (.truth (first || second))
      | _ => none),
    (.logic "equal", ofWholes fun first second => some (.truth (first = second))),
    (.logic "less", ofWholes fun first second => some (.truth (first < second))),
    (.logic "greater_or_equal", ofWholes fun first second => some (.truth (second ≤ first))),
    (("negate", "negated", ["value"]), fun
      | [.whole value] => some (.whole (-value))
      | _ => none),
    (.collecting "add", ofWholes fun first second => some (.whole (first + second))),
    (.collecting "subtract", fun
      | [.whole first, .whole second, .whole third] => some (.whole (first - second - third))
      | _ => none),
    (.collecting "multiply", ofWholes fun first second => some (.whole (first * second))),
    (.collecting "divide", ofWholes fun first second =>
      if second = 0 then none else some (.whole (first.tdiv second)))]

/-- What a gate gives out for the figures that its wires bring. -/
def Gate.reckon (figures : List Figure) : Gate → Option Figure
  | constant value => some (.whole value)
  | node kind port sources => (meanings.lookup (kind, port, sources.map Prod.snd)).bind (· figures)
  | collect kind _ => (meanings.lookup (.collecting kind)).bind (· figures)
  | output _ _ => figures.head?

/-- The figure at a wire, when the first gates have some values. -/
def Wire.read (inputs : String → Option Figure) (values : List Figure) : Wire → Option Figure
  | input name => inputs name
  | gate number => values[number]?

/-- The values of all gates, in their order. -/
def Circuit.values (inputs : String → Option Figure) (circuit : Circuit) : Option (List Figure) :=
  circuit.foldlM (fun values gate => do
    let figures ← gate.wires.mapM (Wire.read inputs values)
    return values ++ [← gate.reckon figures]) []

/-- Where the value of an output of the compound comes from. -/
def Circuit.source? (circuit : Circuit) (name : String) : Option Wire :=
  circuit.findSome? fun
    | .output other source => if other = name then some source else none
    | _ => none

def Circuit.result (inputs : String → Option Figure) (circuit : Circuit) (name : String) :
    Option Figure := do
  (← circuit.source? name).read inputs (← circuit.values inputs)

variable {circuit : Circuit}

theorem values_push : Circuit.values inputs (circuit ++ [gate]) = (circuit.values inputs).bind
    fun values =>
    (gate.wires.mapM (Wire.read inputs values)).bind fun figures =>
      (gate.reckon figures).map (values ++ [·]) := by
  rw [Circuit.values, foldlM_append]
  simp only [foldlM_cons, foldlM_nil, bind_pure, Option.map_eq_bind]
  rfl

theorem read_push {wire : Wire} (read : wire.read inputs values = some figure) :
    wire.read inputs (values ++ [value]) = some figure := by
  cases wire with
  | input => exact read
  | gate number =>
    have below : number < values.length := (List.getElem?_eq_some_iff.mp read).1
    exact (List.getElem?_append_left below).trans read

/-- Where a circuit has values, it does not divide by zero. -/
theorem divisor_ne_zero (found : circuit.values inputs = some values)
    (member : .collect "divide" [first, second] ∈ circuit) :
    ∃ divisor : Int, divisor ≠ 0 ∧ second.read inputs values = some (.whole divisor) := by
  induction circuit using reverseRecOn generalizing values with
  | nil => cases member
  | append_singleton _ _ ih =>
    rw [values_push] at found
    obtain ⟨before, foundBefore, found⟩ := Option.bind_eq_some_iff.mp found
    obtain ⟨figures, read, found⟩ := Option.bind_eq_some_iff.mp found
    obtain ⟨value, gives, rfl⟩ := Option.map_eq_some_iff.mp found
    rcases mem_append.mp member with old | new
    · obtain ⟨divisor, nonzero, read⟩ := ih foundBefore old
      exact ⟨divisor, nonzero, read_push read⟩
    · obtain rfl := mem_singleton.mp new
      change ofWholes _ figures = some value at gives
      unfold ofWholes at gives
      split at gives
      · rename_i dividend divisor
        have reads : second.read inputs before = some (.whole divisor) := by
          simp [Gate.wires, Option.bind_eq_some_iff] at read
          exact read.2
        refine ⟨divisor, ?_, read_push reads⟩
        rintro rfl
        cases gives
      · cases gives

/-! ## Planning -/

/-- Something is known of the wires of a circuit. -/
def Knows (inputs : String → Option Figure) (known : List (Wire × Figure))
    (circuit : Circuit) : Prop :=
  ∃ values, circuit.values inputs = some values ∧ values.length = circuit.length ∧
    ∀ fact ∈ known, fact.1.read inputs values = some fact.2

/-- Once a plan is carried out, more is known. -/
def Computes (inputs : String → Option Figure) (known : List (Wire × Figure)) (plan : Planning α)
    (facts : α → List (Wire × Figure)) : Prop :=
  ∀ circuit, Knows inputs known circuit →
    Knows inputs (facts (plan.run circuit).1 ++ known) (plan.run circuit).2

abbrev comes (figure : Figure) : Wire → List (Wire × Figure) := fun wire => [(wire, figure)]

/-- What is known of wires, in their order. -/
abbrev Bring (known : List (Wire × Figure)) : List Wire → List Figure → Prop :=
  List.Forall₂ fun wire figure => (wire, figure) ∈ known

theorem Bring.mapM (bring : Bring known wires figures) {read : Wire → Option Figure}
    (facts : ∀ fact ∈ known, read fact.1 = some fact.2) : wires.mapM read = some figures := by
  induction bring with
  | nil => rfl
  | cons first _ ih =>
    rw [mapM_cons, facts _ first, ih]
    rfl

theorem Knows.sub (knows : Knows inputs more circuit) (subset : known ⊆ more) :
    Knows inputs known circuit := by
  obtain ⟨values, found, length, facts⟩ := knows
  exact ⟨values, found, length, fun fact member => facts fact (subset member)⟩

namespace Computes

theorem pure (subset : facts value ⊆ known) : Computes inputs known (pure value) facts :=
  fun _ knows => knows.sub (append_subset.mpr ⟨subset, List.Subset.refl _⟩)

theorem bind {plan : Planning α} {next : α → Planning β} (first : Computes inputs known plan facts)
    (second : ∀ value, Computes inputs (facts value ++ known) (next value) factsNext) :
    Computes inputs known (plan >>= next) factsNext := by
  intro circuit knows
  refine (second _ _ (first circuit knows)).sub (append_subset.mpr ⟨?_, ?_⟩)
  · exact subset_append_left _ _
  · exact fun _ member => mem_append_right _ (mem_append_right _ member)

theorem planned {figure : Figure} (bring : Bring known gate.wires figures)
    (gives : gate.reckon figures = some figure) : Computes inputs known (plan gate)
    (comes figure) := by
  rintro circuit ⟨values, found, length, facts⟩
  change Knows inputs ((.gate circuit.length, figure) :: known) (circuit ++ [gate])
  refine ⟨values ++ [figure], ?_, by simp [length], ?_⟩
  · rw [values_push, found, Option.bind_some, bring.mapM facts, Option.bind_some, gives]
    rfl
  · exact forall_mem_cons.mpr ⟨by simp [Wire.read, ← length], fun fact old =>
      read_push (facts fact old)⟩

end Computes

end GraphScript.Graph
