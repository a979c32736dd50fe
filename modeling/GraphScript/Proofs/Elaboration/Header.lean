import GraphScript.Proofs.Elaboration.Checks
import GraphScript.Proofs.Program.Contents

/-!
# Headers that are accepted

The header of a body is elaborated port by port and checked: no two parameters and no two results
have one name, no result has the name of a parameter, and a result is fed back to a parameter of its
type that no other result takes.  What passes these checks is a well-formed header, in a compound, a
function or a loop of any kind.
-/

namespace GraphScript.Elaboration

open List hiding after
open Program
open Act (Yields yields_bind yields_pure yields_get yields_lift yields_ite)
open GraphScript.Language (Tree)

/-! ## Parameters -/

theorem name_parameter {result : Parameter} (run : Yields (parameter written) before result after) :
    result.name = written.name := by
  obtain ⟨default, _, -, run⟩ := run.bind
  cases default with
  | none =>
    obtain ⟨_, -, rfl⟩ := run.mapped
    rfl
  | some =>
    simp only [yields_bind, yields_pure] at run
    obtain ⟨_, _, -, _, _, -, _, _, -, _, _, -, rfl, rfl⟩ := run
    rfl

theorem name_loopParameter {result : LoopParameter}
    (run : Yields (loopParameter written) before result after) : result.name = written.name := by
  unfold loopParameter at run
  split at run
  · obtain ⟨found, _, -, run⟩ := run.bind
    cases found with
    | none => exact (yields_report.mp run).elim
    | some =>
      simp only [yields_bind, yields_ite, yields_pure, yields_report, false_and, exists_false,
        if_false_left] at run
      obtain ⟨-, -, -, _, _, -, rfl, -⟩ := run
      rfl
  · obtain ⟨_, _, -, run⟩ := run.bind
    simp only [givenLoopParameter, yields_bind, yields_ite, yields_pure, yields_report, false_and,
      exists_false, if_false_left] at run
    split at run
    · obtain ⟨_, _, -, _, _, -, -, _, _, -, _, _, -, _, _, -, _, _, -, rfl, -⟩ := run
      rfl
    · obtain ⟨_, _, -, -, _, _, -, _, _, -, _, _, -, _, _, -, rfl, -⟩ := run
      rfl

/-- A name that is checked against those before it is not among them. -/
theorem not_mem_of_checkRepeated
    (run : Yields (checkRepeated spot earlier name) before done after) : name ∉ earlier := by
  simp only [checkRepeated, yields_ite, yields_report, if_false_left] at run
  simpa using run.1

/-- One more name in front of names that repeat neither it nor each other. -/
theorem nodup_cons_of_apart (new : name ∉ earlier)
    (rest : names.Nodup ∧ ∀ other ∈ names, other ∉ earlier ++ [name]) :
    (name :: names).Nodup ∧ ∀ other ∈ name :: names, other ∉ earlier := by
  refine ⟨nodup_cons.mpr ⟨fun repeated => rest.2 name repeated (by simp), rest.1⟩, ?_⟩
  exact forall_mem_cons.mpr ⟨new, fun other later inside => rest.2 other later (by simp [inside])⟩

theorem names_parameters (run : Yields (parameters earlier written) before items after) :
    items.map Parameter.name = written.map Syntax.Parameter.name ∧
      (items.map Parameter.name).Nodup ∧ ∀ name ∈ items.map Parameter.name, name ∉ earlier := by
  induction written generalizing earlier before items with
  | nil =>
    obtain ⟨rfl, rfl⟩ := run.pure
    simp
  | cons _ _ ih =>
    simp only [parameters, yields_bind, yields_pure] at run
    obtain ⟨_, _, runFirst, _, _, runCheck, _, _, runRest, rfl, rfl⟩ := run
    obtain ⟨names, apart⟩ := ih runRest
    rw [map_cons, map_cons, ← names, name_parameter runFirst]
    exact ⟨rfl, nodup_cons_of_apart (not_mem_of_checkRepeated runCheck) apart⟩

theorem nodup_loopParameters (run : Yields (loopParameters earlier written) before items after) :
    (items.map LoopParameter.name).Nodup ∧ ∀ name ∈ items.map LoopParameter.name,
      name ∉ earlier := by
  induction written generalizing earlier before items with
  | nil =>
    obtain ⟨rfl, rfl⟩ := run.pure
    simp
  | cons _ _ ih =>
    simp only [loopParameters, yields_bind, yields_pure] at run
    obtain ⟨_, _, runFirst, _, _, runCheck, _, _, runRest, rfl, rfl⟩ := run
    rw [map_cons, name_loopParameter runFirst]
    exact nodup_cons_of_apart (not_mem_of_checkRepeated runCheck) (ih runRest)

/-! ## Results -/

theorem names_resultItems (run : Yields (resultItems written) before items after) :
    items.map Result.name = written.map Syntax.Result.name := by
  induction written generalizing before items with
  | nil =>
    obtain ⟨rfl, rfl⟩ := run.pure
    rfl
  | cons _ _ ih =>
    simp only [resultItems, yields_bind, yields_pure] at run
    obtain ⟨_, _, runFirst, _, _, runRest, rfl, rfl⟩ := run
    rw [map_cons, map_cons, ih runRest]
    refine congrArg (· :: _) ?_
    simp only [result, yields_bind, yields_get, yields_ite, yields_pure, yields_report, false_and,
      exists_false, if_false_left] at runFirst
    obtain ⟨_, _, -, -, _, _, -, rfl, -⟩ := runFirst
    rfl

theorem names_results (run : Yields (results written) before items after) :
    items.map Result.name = written.items.map Syntax.Result.name := by
  simp only [results, yields_bind, yields_pure] at run
  obtain ⟨_, _, runItems, _, _, -, rfl, rfl⟩ := run
  exact names_resultItems runItems

theorem name_loopResult {result : LoopResult} (made : loopResult kind written = .ok result) :
    result.name = written.name := by
  obtain ⟨_, -, made⟩ := Act.bind_eq_ok.mp made
  cases kind <;> cases made <;> rfl

theorem names_mapM_loopResult {written : List Syntax.Result}
    (made : written.mapM (loopResult kind) = .ok items) :
    items.map LoopResult.name = written.map Syntax.Result.name ∧
      (kind = .forEach → ∀ item ∈ items, item.state = none) := by
  rw [Act.mapM_eq_ok] at made
  induction made with
  | nil => simp
  | cons first _ ih =>
    refine ⟨by rw [map_cons, map_cons, name_loopResult first, ih.1], ?_⟩
    rintro rfl
    obtain ⟨_, -, same⟩ := Act.bind_eq_ok.mp first
    cases same
    simpa using ih.2 rfl

theorem length_eraseDups_le (names : List String) : names.eraseDups.length ≤ names.length := by
  induction bound : names.length using Nat.strongRecOn generalizing names with
  | _ _ ih =>
    subst bound
    cases names with
    | nil => exact Nat.le_refl _
    | cons name rest =>
      have fewer := length_filter_le (fun other => !(other == name)) rest
      rw [eraseDups_cons, length_cons, length_cons]
      exact Nat.succ_le_succ (Nat.le_trans (ih _ (Nat.lt_succ_of_le fewer) _ rfl) fewer)

/-- Where every name is kept when repeated ones are dropped, there are no repeated ones. -/
theorem nodup_of_length_eraseDups {names : List String}
    (same : names.eraseDups.length = names.length) : names.Nodup := by
  induction names with
  | nil => exact nodup_nil
  | cons name rest ih =>
    rw [eraseDups_cons, length_cons, length_cons, Nat.succ_inj] at same
    have others : (rest.filter fun other => !(other == name)).length = rest.length :=
      Nat.le_antisymm (length_filter_le _ _) (same ▸ length_eraseDups_le _)
    have all := length_filter_eq_length_iff.mp others
    rw [filter_eq_self.mpr all] at same
    refine nodup_cons.mpr ⟨fun repeated => ?_, ih same⟩
    simpa using all name repeated

theorem nodup_of_checkDistinct (run : Yields (checkDistinct written) before done after) :
    (written.items.map Syntax.Result.name).Nodup := by
  simp only [checkDistinct, yields_ite, yields_report, if_false_left] at run
  exact nodup_of_length_eraseDups (by simpa using run.1)

theorem nodup_results (run : Yields (results written) before items after) :
    (items.map Result.name).Nodup := by
  simp only [results, yields_bind, yields_pure] at run
  obtain ⟨_, _, runItems, _, _, runCheck, rfl, rfl⟩ := run
  rw [names_resultItems runItems]
  exact nodup_of_checkDistinct runCheck

/-- The names of the results of a loop are distinct, and a loop over elements has no state. -/
theorem loopResults_distinct {items : List LoopResult}
    (run : Yields (loopResults kind written) before items after) :
    (items.map LoopResult.name).Nodup ∧ (kind = .forEach → ∀ item ∈ items, item.state = none) := by
  simp only [loopResults, yields_bind, yields_lift, yields_pure] at run
  obtain ⟨_, _, ⟨made, rfl⟩, _, _, runCheck, rfl, rfl⟩ := run
  obtain ⟨names, stateless⟩ := names_mapM_loopResult made
  exact ⟨names ▸ nodup_of_checkDistinct runCheck, stateless⟩

/-! ## Parameters and results together -/

theorem apart_of_checkDisjoint
    (run : Yields (checkDisjoint spot inputs outputs) before done after) :
    ∀ name ∈ outputs, name ∉ inputs := by
  unfold checkDisjoint at run
  split at run
  · exact (yields_report.mp run).elim
  next none =>
    have empty : inputs.filter outputs.contains = [] := by
      unfold commonName? Text.first? at none
      split at none
      next same => exact same
      next => cases none
    intro name output input
    simpa [output] using filter_eq_nil_iff.mp empty name input

theorem mem_of_orFault_lookup {inputs : List (String × PortType)}
    (found : orFault fault (inputs.lookup name) = .ok type) : (name, type) ∈ inputs := by
  cases looked : inputs.lookup name with
  | none =>
    rw [looked] at found
    cases found
  | some =>
    rw [looked] at found
    cases found
    obtain ⟨_, _, rfl, -⟩ := lookup_eq_some_iff.mp looked
    simp

/-- Results that pass the check are fed back to parameters of their types, each to one of its
own. -/
theorem fed_of_checkFeedback {feedbacks : List Feedback}
    (run : Yields (checkFeedback word written inputs taken feedbacks) before done after) :
    (∀ feedback ∈ feedbacks, ∃ type, (feedback.parameter, type) ∈ inputs ∧
      type.name = feedback.type.name) ∧
    (feedbacks.map Feedback.parameter).Nodup ∧
      ∀ parameter ∈ feedbacks.map Feedback.parameter, parameter ∉ taken := by
  induction feedbacks generalizing taken before with
  | nil => simp
  | cons _ _ ih =>
    simp only [checkFeedback, yields_bind, yields_lift, yields_ite, yields_report, false_and,
      and_false, exists_false, if_false_left] at run
    obtain ⟨type, _, ⟨found, rfl⟩, new, same, runRest⟩ := run
    obtain ⟨fed, nodup, apart⟩ := ih runRest
    refine ⟨forall_mem_cons.mpr ⟨⟨type, mem_of_orFault_lookup found, by simpa using same⟩, fed⟩,
      ?_, ?_⟩
    · refine nodup_cons.mpr ⟨fun repeated => ?_, nodup⟩
      exact apart _ repeated (mem_cons_self ..)
    · refine forall_mem_cons.mpr ⟨by simpa using new, fun parameter member taken => ?_⟩
      exact apart parameter member (mem_cons_of_mem _ taken)

theorem parameters_feedbacks (results : List Result) :
    (feedbacks results).map Feedback.parameter = results.filterMap Result.feedback := by
  calc (feedbacks results).map Feedback.parameter
    _ = results.zipIdx.filterMap fun entry => entry.1.feedback := by
      simp [feedbacks, map_filterMap, Function.comp_def]
    _ = (results.zipIdx.map Prod.fst).filterMap Result.feedback := by
      rw [filterMap_map]
      rfl
    _ = results.filterMap Result.feedback := by rw [zipIdx_map_fst]

theorem exists_feedback {results : List Result} {result : Result} (member : result ∈ results)
    (fed : port ∈ result.feedback) :
    ∃ feedback ∈ feedbacks results, feedback.parameter = port ∧ feedback.type = result.type := by
  rw [← zipIdx_map_fst 0 results] at member
  obtain ⟨entry, inside, rfl⟩ := mem_map.mp member
  refine ⟨⟨entry.2, entry.1.name, entry.1.type, port⟩, ?_, rfl, rfl⟩
  exact mem_filterMap.mpr ⟨entry, inside, by rw [Option.mem_def.mp fed]; rfl⟩

theorem stateFeedbacks_eq (parameters : List LoopParameter) (results : List LoopResult) :
    stateFeedbacks results = feedbacks (Header.ofLoop parameters results).results := by
  simp only [stateFeedbacks, feedbacks, Header.ofLoop, zipIdx_map, filterMap_map]
  rfl

/-- A header that passes all checks is well formed. -/
theorem Header.wellFormed_of_checks {header : Header} {word : String} (inputs : header.inputs.Nodup)
    (outputs : header.outputs.Nodup)
    (disjoint : Yields (checkDisjoint spot header.inputs header.outputs) before done middle)
    (feedback : Yields (checkFeedback word written header.parameters [] (feedbacks header.results))
      last done after) : header.WellFormed := by
  obtain ⟨fed, once, -⟩ := fed_of_checkFeedback feedback
  refine ⟨inputs, outputs, apart_of_checkDisjoint disjoint, ?_, parameters_feedbacks _ ▸ once⟩
  intro _ member _ isFed
  obtain ⟨feedback, inside, rfl, same⟩ := exists_feedback member isFed
  rw [← same]
  exact fed feedback inside

/-- A loop over elements has no state to check. -/
theorem Header.wellFormed_of_stateless {header : Header} (inputs : header.inputs.Nodup)
    (outputs : header.outputs.Nodup)
    (disjoint : Yields (checkDisjoint spot header.inputs header.outputs) before done after)
    (stateless : ∀ result ∈ header.results, result.feedback = none) : header.WellFormed := by
  refine ⟨inputs, outputs, apart_of_checkDisjoint disjoint, ?_, ?_⟩
  · intro result member _ isFed
    rw [stateless result member] at isFed
    cases isFed
  · rw [filterMap_eq_nil_iff.mpr stateless]
    exact nodup_nil

theorem wellFormed_loop {writtenParameters : List Syntax.LoopParameter}
    {parameters : List LoopParameter} {results : List LoopResult}
    (runParameters : Yields (loopParameters [] writtenParameters) first parameters second)
    (runResults : Yields (loopResults kind written) second results third)
    (runCheck : Yields (checkLoop kind written firstSpot openSpot unlimited limited parameters
      results) third done fourth) : (Header.ofLoop parameters results).WellFormed := by
  have inputs : (Header.ofLoop parameters results).inputs.Nodup := by
    rw [Header.inputs_ofLoop]
    exact (nodup_loopParameters runParameters).1
  obtain ⟨outputs, stateless⟩ := loopResults_distinct runResults
  rw [← @Header.outputs_ofLoop parameters results] at outputs
  simp only [checkLoop, yields_bind, yields_ite, yields_report, false_and, exists_false,
    if_false_left] at runCheck
  obtain ⟨-, _, _, disjoint, runCheck⟩ := runCheck
  rw [← @Header.inputs_ofLoop parameters results,
    ← @Header.outputs_ofLoop parameters results] at disjoint
  split at runCheck
  · obtain ⟨_, _, feedback, -⟩ := runCheck
    rw [stateFeedbacks_eq parameters] at feedback
    exact Header.wellFormed_of_checks inputs outputs disjoint feedback
  next forEach =>
    refine Header.wellFormed_of_stateless inputs outputs disjoint fun _ member => ?_
    obtain ⟨original, inside, rfl⟩ := mem_map.mp member
    exact stateless (not_not.mp forEach) original inside

theorem wellFormed_scope {parameters : List Parameter}
    (runParameters : Yields (Elaboration.parameters [] writtenParameters) first parameters second)
    (runResults : Yields (results written) second items third)
    (runDisjoint : Yields (checkDisjoint spot (parameters.map Parameter.name)
    (items.map Result.name)) third
      done fourth) (runFeedback : Yields (checkFeedback "Feedback" written
      (parameters.map fun parameter => (parameter.name, parameter.type)) [] (feedbacks items))
      fourth done fifth) : (Header.ofScope parameters items).WellFormed := by
  rw [← @Header.inputs_ofScope parameters items,
    ← @Header.outputs_ofScope parameters items] at runDisjoint
  refine Header.wellFormed_of_checks ?_ (nodup_results runResults) runDisjoint runFeedback
  rw [Header.inputs_ofScope]
  exact (names_parameters runParameters).2.1

end GraphScript.Elaboration
