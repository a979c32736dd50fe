import GraphScript.Proofs.Graph.Reckoning
import Mathlib.Tactic.Linarith
import Mathlib.Tactic.Ring

/-!
# What the graph of a slice computes

From the size of a sequence and three bounds the circuit of a slice computes where the slice begins
and ends and how many indices it has, and a loop lists them.  The indices are those of different
elements, and no node divides by zero.
-/

namespace GraphScript.Graph.Slice

open List

/-! ## Places -/

section Places

variable {step first last : Int}

/-- The step of a slice: one where it is missing or zero. -/
def stepOf (step : Option Int) : Int := if step.getD 1 = 0 then 1 else step.getD 1

theorem stepOf_ne (step : Option Int) : stepOf step ≠ 0 := by
  unfold stepOf
  split
  · decide
  · assumption

/-- The first place where a bound can lie. -/
def edgeOf (step : Int) : Int := if step < 0 then -1 else 0

/-- A bound that is moved into a sequence. -/
def settled (size edge bound : Int) : Int :=
  if bound < 0 then if bound + size < 0 then edge else bound + size
  else if size ≤ bound then size + edge else bound

/-- A place that bounds can have. -/
def Inside (size step place : Int) : Prop := edgeOf step ≤ place ∧ place ≤ size + edgeOf step

theorem inside_settled (whole : 0 ≤ size) :
    Inside size step (settled size (edgeOf step) bound) := by
  unfold Inside settled edgeOf
  split <;> split <;> split <;> omega

/-- The number of steps from a first place to a last one, which is not reached. -/
def stepsOf (first last step : Int) : Int :=
  if step < 0 then if last < first then (first - last - 1).tdiv (-step) + 1 else 0
  else if first < last then (last - first - 1).tdiv step + 1 else 0

/-- The number of steps of a size that are made on a way. -/
theorem lt_quotient_iff (far : 0 < way) (positive : 0 < step) (place : Nat) :
    (place : Int) < (way - 1).tdiv step + 1 ↔ place * step < way := by
  rw [Int.tdiv_eq_ediv_of_nonneg (by omega), Int.lt_add_one_iff, Int.le_ediv_iff_mul_le positive]
  omega

theorem stepsOf_nonneg : 0 ≤ stepsOf first last step := by
  have quotient {way by' : Int} (far : 0 < way) (positive : 0 ≤ by') :
    0 ≤ (way - 1).tdiv by' + 1 := by
    have := Int.tdiv_nonneg (show 0 ≤ way - 1 by omega) positive
    omega
  unfold stepsOf
  split <;> split
  · exact quotient (by omega) (by omega)
  · rfl
  · exact quotient (by omega) (by omega)
  · rfl

/-- The places that steps lead to. -/
def placesOf (first last step : Int) : List Int :=
  (range (stepsOf first last step).toNat).map fun (round : Nat) => step * round + first

/-- The next place lies in the direction of a step. -/
def Follows (step left right : Int) : Prop := if step < 0 then right < left else left < right

/-- Steps lead from a first place to another one, which comes before the last. -/
def Leads (first last step place : Int) : Prop :=
  ∃ round : Nat, place = step * round + first ∧ Follows step place last

theorem lt_stepsOf_iff (nonzero : step ≠ 0) (round : Nat) :
    round < (stepsOf first last step).toNat ↔ Follows step (step * round + first) last := by
  rw [Int.lt_toNat, stepsOf, Follows]
  have nonneg := Int.natCast_nonneg round
  have swapped : (round : Int) * step = step * round := mul_comm _ _
  split
  case isTrue negative =>
    have back : 0 ≤ (round : Int) * -step := mul_nonneg nonneg (by omega)
    rw [mul_neg] at back
    split
    · rw [lt_quotient_iff (by omega) (by omega), mul_neg]
      omega
    · omega
  case isFalse positive =>
    have forth : 0 ≤ (round : Int) * step := mul_nonneg nonneg (by omega)
    split
    · rw [lt_quotient_iff (by omega) (by omega)]
      omega
    · omega

theorem mem_placesOf (nonzero : step ≠ 0) :
    place ∈ placesOf first last step ↔ Leads first last step place := by
  simp only [placesOf, mem_map, mem_range, lt_stepsOf_iff nonzero]
  refine exists_congr fun _ => ?_
  constructor
  · rintro ⟨before, rfl⟩
    exact ⟨rfl, before⟩
  · rintro ⟨rfl, before⟩
    exact ⟨before, rfl⟩

/-- Between bounds inside of a sequence steps lead to places of elements. -/
theorem Leads.inside (leads : Leads first last step place) (begins : Inside size step first)
    (ends : Inside size step last) : 0 ≤ place ∧ place < size := by
  obtain ⟨round, rfl, before⟩ := leads
  have nonneg := Int.natCast_nonneg round
  unfold Inside edgeOf at begins ends
  unfold Follows at before
  split at before
  case isTrue negative =>
    have back : step * round ≤ 0 := mul_nonpos_of_nonpos_of_nonneg (by omega) nonneg
    omega
  case isFalse positive =>
    have forth : 0 ≤ step * round := mul_nonneg (by omega) nonneg
    omega

theorem placesOf_pairwise (nonzero : step ≠ 0) : (placesOf first last step).Pairwise
    (Follows step) := by
  refine pairwise_map.mpr (pairwise_lt_range.imp fun {left right} below => ?_)
  have : (left : Int) < right := by exact_mod_cast below
  unfold Follows
  split
  · nlinarith
  · have : 0 < step := by omega
    nlinarith

end Places

/-! ## Gates -/

section Gates

variable {first : Wire}

theorem computes_constant (number : Int) :
    Computes inputs known (constant number) (comes (.whole number)) :=
  .planned .nil rfl

theorem computes_sum (x y : Int) (bring : Bring known [first, second] [.whole x, .whole y]) :
    Computes inputs known (sum first second) (comes (.whole (x + y))) :=
  .planned bring rfl

theorem computes_logic (x y : Figure) (bring : Bring known [first, second] [x, y])
    (judged : (meanings.lookup (.logic name)).bind (· [x, y]) = some figure) :
    Computes inputs known (logic name first second) (comes figure) :=
  .planned bring judged

theorem computes_less (x y : Int) (bring : Bring known [first, second] [.whole x, .whole y]) :
    Computes inputs known (less first second) (comes (.truth (x < y))) :=
  .planned bring rfl

theorem computes_choice (condition : Prop) [Decidable condition] (x y : Int)
    (bring : Bring known [first, second, third] [.truth condition, .whole x, .whole y]) :
    Computes inputs known (choice first second third)
      (comes (.whole (if condition then x else y))) := by
  refine .planned bring ?_
  by_cases holds : condition
  · rw [decide_eq_true holds, if_pos holds]
    rfl
  · rw [decide_eq_false holds, if_neg holds]
    rfl

theorem computes_negate (x : Int) (has : (first, .whole x) ∈ known) :
    Computes inputs known (negate first) (comes (.whole (-x))) :=
  .planned (.cons has .nil) rfl

theorem computes_output (figure : Figure) (has : (first, figure) ∈ known) :
    Computes inputs known (output name first) fun _ => [] := by
  have passed : Computes inputs known (plan (.output name first)) (comes figure) :=
    .planned (.cons has .nil) rfl
  exact passed.bind fun _ => .pure (nil_subset _)

/-! ## Parts of a slice -/

theorem computes_numbers : Computes inputs known numbers fun numbers =>
    [(numbers.zero, .whole 0), (numbers.one, .whole 1), (numbers.minusOne, .whole (-1))] := by
  refine .bind (computes_constant 0) fun _ => .bind (computes_constant 1) fun _ =>
    .bind (computes_constant (-1)) fun _ => .pure ?_
  simp

/-- A bound, or another number where it is missing. -/
theorem computes_bound {default : Wire} (bound : Option Int) (unset other : Int)
    (bring : Bring known [missing, default, value]
      [.truth bound.isNone, .whole other, .whole (bound.getD unset)]) :
    Computes inputs known (choice missing default value) (comes (.whole (bound.getD other))) := by
  have chosen : bound.getD other = if bound.isNone then other else bound.getD unset := by
    cases bound <;> rfl
  rw [chosen]
  exact computes_choice _ other _ (by rwa [Bool.decide_eq_true])

theorem computes_settledStep {numbers : Numbers} (step : Option Int) (unset : Int)
    (bring : Bring known [.input "step_is_none", .input "step", numbers.zero, numbers.one]
      [.truth step.isNone, .whole (step.getD unset), .whole 0, .whole 1]) :
    Computes inputs known (settledStep numbers) (comes (.whole (stepOf step))) := by
  have chosen : stepOf step = if step.getD unset = 0 ∨ step = none then 1 else step.getD unset := by
    cases step <;> simp [stepOf]
  simp only [forall₂_cons] at bring
  rw [chosen]
  refine .bind (computes_logic (.whole (step.getD unset)) (.whole 0) (by simp [*]) rfl) fun _ => ?_
  refine .bind (computes_logic (.truth (step.getD unset = 0)) (.truth step.isNone)
    (by simp [*]) rfl) fun _ => ?_
  refine computes_choice _ 1 (step.getD unset) (.cons (mem_cons.mpr (.inl ?_)) (by simp [*]))
  cases step <;> simp

theorem computes_settledBound (b n e : Int)
    (bring : Bring known [bound, .input "size", zero, edge]
    [.whole b, .whole n, .whole 0, .whole e]) :
    Computes inputs known (settledBound bound zero edge) (comes (.whole (settled n e b))) := by
  simp only [forall₂_cons] at bring
  refine .bind (computes_sum b n (by simp [*])) fun _ => ?_
  refine .bind (computes_less (b + n) 0 (by simp [*])) fun _ => ?_
  refine .bind (computes_choice (b + n < 0) e (b + n) (by simp [*])) fun _ => ?_
  refine .bind (computes_logic (.whole b) (.whole n) (by simp [*]) rfl) fun _ => ?_
  refine .bind (computes_sum n e (by simp [*])) fun _ => ?_
  refine .bind (computes_choice (n ≤ b) (n + e) b (by simp [*])) fun _ => ?_
  refine .bind (computes_less b 0 (by simp [*])) fun _ => ?_
  exact computes_choice (b < 0) _ _ (by simp [*])

theorem computes_stepCount (l u d : Int)
    (bring : Bring known [upper, lower, one] [.whole u, .whole l, .whole 1])
    (divides : ∀ {more}, known ⊆ more → Computes inputs more divisor (comes (.whole d)))
    (nonzero : d ≠ 0) :
    Computes inputs known (stepCount lower upper one divisor)
      (comes (.whole ((u - l - 1).tdiv d + 1))) := by
  have subtracts : Computes inputs known (plan (.collect "subtract" [upper, lower, one]))
      (comes (.whole (u - l - 1))) :=
    .planned bring rfl
  have quotient {known : List (Wire × Figure)} {distance divisor : Wire}
      (bring : Bring known [distance, divisor] [.whole (u - l - 1), .whole d]) :
      Computes inputs known (plan (.collect "divide" [distance, divisor]))
        (comes (.whole ((u - l - 1).tdiv d))) :=
    .planned bring (by exact if_neg nonzero)
  simp only [forall₂_cons] at bring
  refine .bind subtracts fun _ => .bind (divides (by simp)) fun _ => ?_
  refine .bind (quotient (by simp)) fun _ => ?_
  exact computes_sum ((u - l - 1).tdiv d) 1 (by simp [*])

theorem computes_indexCount {start stop step : Wire} {numbers : Numbers} (f l s : Int)
    (bring : Bring known [start, stop, step, isBackward, numbers.zero, numbers.one]
      [.whole f, .whole l, .whole s, .truth (s < 0), .whole 0, .whole 1]) (nonzero : s ≠ 0) :
    Computes inputs known (indexCount start stop step isBackward numbers)
      (comes (.whole (stepsOf f l s))) := by
  simp only [forall₂_cons] at bring
  refine .bind (computes_stepCount l f (-s) (by simp [*])
    (fun subset => computes_negate s (subset bring.2.2.1)) (by omega)) fun _ => ?_
  refine .bind (computes_stepCount f l s (by simp [*]) (fun subset => .pure ?_) nonzero) fun _ => ?_
  · simpa using subset (mem_append_right _ bring.2.2.1)
  refine .bind (computes_less l f (by simp [*])) fun _ => ?_
  refine .bind (computes_choice (l < f) ((f - l - 1).tdiv (-s) + 1) 0 (by simp [*])) fun _ => ?_
  refine .bind (computes_less f l (by simp [*])) fun _ => ?_
  refine .bind (computes_choice (f < l) ((l - f - 1).tdiv s + 1) 0 (by simp [*])) fun _ => ?_
  exact computes_choice (s < 0) _ _ (by simp [*])

end Gates

/-! ## The whole slice -/

/-- What comes to the inputs of a slice.  A missing bound is marked, and its port has any number. -/
def given (size : Nat) (start stop step : Option Int) (unset : Int) : List (String × Figure) :=
  [("size", .whole size), ("start_is_none", .truth start.isNone),
    ("start", .whole (start.getD unset)), ("stop_is_none", .truth stop.isNone),
    ("stop", .whole (stop.getD unset)), ("step_is_none", .truth step.isNone),
    ("step", .whole (step.getD unset))]

/-- The place where a slice begins; backward it begins at the end. -/
def firstOf (size : Nat) (start step : Option Int) : Int :=
  settled size (edgeOf (stepOf step)) (start.getD (if stepOf step < 0 then size else 0))

/-- The place where a slice has ended. -/
def endOf (size : Nat) (stop step : Option Int) : Int :=
  settled size (edgeOf (stepOf step)) (stop.getD (if stepOf step < 0 then -size else size))

/-- The number of indices of a slice. -/
def countOf (size : Nat) (start stop step : Option Int) : Int :=
  stepsOf (firstOf size start step) (endOf size stop step) (stepOf step)

theorem computes_results (inputs : String → Option Figure) (size : Nat)
    (start stop step : Option Int) (unset : Int) :
    Computes inputs ((given size start stop step unset).map fun entry => (.input entry.1, entry.2))
      results fun wires => wires.map Prod.fst |>.zip [.whole (countOf size start stop step),
        .whole (firstOf size start step), .whole (stepOf step)] := by
  simp only [given, map_cons, map_nil]
  refine .bind computes_numbers fun _ => ?_
  refine .bind (computes_settledStep step unset (by simp)) fun _ => ?_
  refine .bind (computes_output (.whole (stepOf step)) (by simp)) fun _ => ?_
  refine .bind (computes_less (stepOf step) 0 (by simp)) fun _ => ?_
  refine .bind (computes_choice (stepOf step < 0) size 0 (by simp)) fun _ => ?_
  refine .bind (computes_bound start unset (if stepOf step < 0 then size else 0) (by simp))
    fun _ => ?_
  refine .bind (computes_negate size (by simp)) fun _ => ?_
  refine .bind (computes_choice (stepOf step < 0) (-size) size (by simp)) fun _ => ?_
  refine .bind (computes_bound stop unset (if stepOf step < 0 then -size else size) (by simp))
    fun _ => ?_
  refine .bind (computes_choice (stepOf step < 0) (-1) 0 (by simp)) fun _ => ?_
  refine .bind (computes_settledBound (start.getD (if stepOf step < 0 then size else 0)) size
    (edgeOf (stepOf step)) (by simp [edgeOf])) fun _ => ?_
  refine .bind (computes_output (.whole (firstOf size start step)) (.head _)) fun _ => ?_
  refine .bind (computes_settledBound (stop.getD (if stepOf step < 0 then -size else size)) size
    (edgeOf (stepOf step)) (by simp [edgeOf])) fun _ => ?_
  refine .bind (computes_output (.whole (endOf size stop step)) (.head _)) fun _ => ?_
  refine .bind (computes_indexCount (firstOf size start step) (endOf size stop step) (stepOf step)
    (by simp [firstOf, endOf]) (stepOf_ne step)) fun _ => ?_
  refine .bind (computes_output _ (.head _)) fun _ => .pure ?_
  simp [countOf, firstOf]

variable (size : Nat) (start stop step : Option Int) (unset : Int)

abbrev inputsOf : String → Option Figure := ((given size start stop step unset).lookup ·)

/-- What the loop of a slice is given. -/
abbrev fedOf : List (String × Figure) :=
  [("max_iterations", .whole (countOf size start stop step)),
    ("start", .whole (firstOf size start step)), ("step", .whole (stepOf step))]

/-- The indices of a slice. -/
abbrev indicesOf : List Int := placesOf (firstOf size start step)
    (endOf size stop step) (stepOf step)

/-- The circuit has values, and wires bring what the loop is given. -/
theorem values_circuit : ∃ values count first by',
    circuit.values (inputsOf size start stop step unset) = some values ∧
    loopWires = [(count, "max_iterations"), (first, "start"), (by', "step")] ∧
    count.read (inputsOf size start stop step unset) values =
      some (.whole (countOf size start stop step)) ∧
    first.read (inputsOf size start stop step unset) values =
      some (.whole (firstOf size start step)) ∧
    by'.read (inputsOf size start stop step unset) values = some (.whole (stepOf step)) := by
  have knows : Knows (inputsOf size start stop step unset)
      ((given size start stop step unset).map fun entry => (.input entry.1, entry.2)) [] := by
    refine ⟨[], rfl, rfl, ?_⟩
    simp only [given, map_cons, map_nil, forall_mem_cons]
    exact ⟨rfl, rfl, rfl, rfl, rfl, rfl, rfl, by simp⟩
  obtain ⟨values, found, -, facts⟩ := computes_results _ size start stop step unset [] knows
  exact ⟨values, _, _, _, found, rfl, facts _ (.head _), facts _ (.tail _ (.head _)),
    facts _ (.tail _ (.tail _ (.head _)))⟩

/-- The figures that the loop of a slice lists: in each of its rounds, what comes to its output. -/
def listed (inputs : String → Option Figure) : Option (List Figure) := do
  let values ← circuit.values inputs
  let fed ← loopWires.mapM fun wire => (wire.1.read inputs values).map (wire.2, ·)
  let .whole rounds ← fed.lookup "max_iterations" | none
  (range rounds.toNat).mapM fun round =>
    loopCircuit.result ((("current_index", .whole round) :: fed).lookup ·) "indices"

theorem listed_eq : listed (inputsOf size start stop step unset) =
    some ((indicesOf size start stop step).map .whole) := by
  obtain ⟨values, _, _, _, found, wires, atCount, atFirst, atStep⟩ :=
    values_circuit size start stop step unset
  have fed : (loopWires.mapM fun wire =>
      (wire.1.read (inputsOf size start stop step unset) values).map (wire.2, ·)) =
        some (fedOf size start stop step) := by
    simp [wires, atCount, atFirst, atStep]
  have rounds : (fedOf size start stop step).lookup "max_iterations" =
      some (.whole (countOf size start stop step)) := rfl
  have round (round : Nat) : loopCircuit.result ((("current_index", .whole round) ::
      fedOf size start stop step).lookup ·) "indices" =
      some (.whole (stepOf step * round + firstOf size start step)) := rfl
  simp only [listed, found, fed, rounds, round, Option.bind_eq_bind, Option.bind_some]
  rw [← Option.pure_def, mapM_pure]
  simp [placesOf, countOf]

-- Backward, a slice without bounds leaves out the first element.
example : listed (inputsOf 3 none none (some (-1)) 0) = some [.whole 2, .whole 1] := rfl

theorem result_count : circuit.result (inputsOf size start stop step unset) "out_count" =
    some (.whole (indicesOf size start stop step).length) := by
  obtain ⟨_, _, _, _, found, wires, atCount, -⟩ := values_circuit size start stop step unset
  have source : circuit.source? "out_count" = loopWires.head?.map Prod.fst := by decide +kernel
  have counted : ((indicesOf size start stop step).length : Int) =
    countOf size start stop step := by
    rw [indicesOf, placesOf, length_map, length_range]
    exact Int.toNat_of_nonneg stepsOf_nonneg
  rw [Circuit.result, source, wires, counted]
  simp [found, atCount]

/-- The indices of a slice are those of elements of the sequence. -/
theorem inside_of_mem (member : place ∈ indicesOf size start stop step) : 0 ≤ place ∧
    place < size := by
  have whole := Int.natCast_nonneg size
  exact ((mem_placesOf (stepOf_ne step)).mp member).inside (inside_settled whole)
    (inside_settled whole)

/-- The indices of a slice go one way. -/
theorem indicesOf_monotone : (indicesOf size start stop step).Pairwise (· < ·) ∨
    (indicesOf size start stop step).Pairwise (· > ·) := by
  have ordered : (indicesOf size start stop step).Pairwise (Follows (stepOf step)) :=
    placesOf_pairwise (stepOf_ne step)
  by_cases backward : stepOf step < 0
  · exact .inr (ordered.imp fun {_ _} follows => by rwa [Follows, if_pos backward] at follows)
  · exact .inl (ordered.imp fun {_ _} follows => by rwa [Follows, if_neg backward] at follows)

end GraphScript.Graph.Slice
