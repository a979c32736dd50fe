import GraphScript.Overload.Outcome
import GraphScript.Proofs.Typing.Numbers

/-!
# Arguments in one set of types

An argument whose type is not in the set is promoted to the first type of the set, in the order of
promotion, that can take it.  The levels of an array are taken off for the search and put on again,
which makes no difference to promotion.  The settled types are joined from the left.
-/

namespace GraphScript.Overload

open List PortType
open Typing (Listed NumberType promotable_iff eq_mk_of_make)

variable {possible : TypeSet} {names : List String}

/-- A type of a set for an argument, to which its own can be promoted.  A type of the set stays as
it is. -/
structure Settles (possible : TypeSet) (given taken : PortType) : Prop where
  inSet : possible.mem taken.name = true
  promotes : promotable given taken = .ok true
  kept : possible.mem given.name = true → taken = given

/-- The output for the join of all arguments, which is joined with `float` where a fraction is
wanted and the join is no field. -/
inductive Ends (toFraction : Bool) (joined : PortType) : String → Prop
  | join (done : toFraction = true → joined.isField = .ok true) : Ends toFraction joined joined.name
  | fraction {type : PortType} (wanted : toFraction = true) (number : joined.isField = .ok false)
    (joins : Typing.arithmeticOnTypes false "?" joined (.mk "float" none) = pure type) :
    Ends toFraction joined type.name

/-! ## Promotion into a set -/

theorem listed_promotionOrder {name : String} (member : name ∈ promotionOrder) : Listed name := by
  have scalar : ∀ name ∈ scalarOrder, ∃ scalar : Typing.Scalar, scalar.name = name := by decide
  simp only [promotionOrder, mem_append, mem_flatMap, mem_map] at member
  rcases member with (plain | ⟨component, known, size, isSize, rfl⟩) |
    ⟨component, known, rows, isRows, columns, isColumns, rfl⟩
  · obtain ⟨scalar, rfl⟩ := scalar name plain
    exact (NumberType.scalar scalar).listed
  · obtain ⟨scalar, rfl⟩ := scalar component known
    exact (NumberType.vector scalar ⟨size, isSize⟩).listed
  · obtain ⟨scalar, rfl⟩ := scalar component known
    exact (NumberType.matrix scalar ⟨rows, isRows⟩ ⟨columns, isColumns⟩).listed

theorem promotable_firstPromotable {name : String}
    (found : firstPromotable type candidates = .ok (some name)) :
    name ∈ candidates ∧ promotable type (.mk name none) = .ok true := by
  induction candidates with
  | nil => cases found
  | cons _ _ ih =>
    obtain ⟨_, made, found⟩ := Act.bind_eq_ok.mp found
    obtain ⟨can, promotes, found⟩ := Act.bind_eq_ok.mp found
    cases can with
    | false =>
      obtain ⟨member, promotes⟩ := ih found
      exact ⟨.tail _ member, promotes⟩
    | true =>
      cases found
      rw [eq_mk_of_make made] at promotes
      exact ⟨.head _, promotes⟩

/-- An array can be promoted where its element can. -/
theorem promotable_arrayName {name : String} (listed : Listed name)
    (isElement : type.elementType = .ok element)
    (promotes : promotable element (.mk name none) = .ok true) :
    promotable type (.mk (arrayName type.arrayDim name) none) = .ok true := by
  have dim : type.arrayDim = (PortType.mk (arrayName type.arrayDim name) none).arrayDim :=
    (listed.occurrences _).1.symm
  refine promotable_iff.mpr (.inr ⟨dim, element, isElement, _, listed.elementType, ?_⟩)
  rcases promotable_iff.mp promotes with same | ⟨flat, _, isFirst, _, isSecond, converts⟩
  · exact .inl same
  · have plain : (PortType.mk (arrayName 0 name) none).elementType = .ok (.mk name none) :=
      listed.elementType
    rw [Typing.arrayName_zero, isSecond] at plain
    cases plain
    have none : '<' ∉ element.name.toList :=
      count_eq_zero.mp (flat.trans (count_eq_zero.mpr listed.noOpening))
    have notArray : element.isArray = false :=
      eq_false_of_ne_true fun array =>
        none ((List.isPrefixOf_iff_prefix.mp array).subset (by decide))
    rw [elementType, notArray] at isFirst
    cases isFirst
    exact converts

theorem promotableToOneOf_eq_some (found : type.promotableToOneOf possible.mem = .ok (some taken)) :
    possible.mem taken.name = true ∧ promotable type taken = .ok true := by
  unfold promotableToOneOf at found
  dsimp only at found
  split at found
  · cases found
  · obtain ⟨_, isElement, found⟩ := Act.bind_eq_ok.mp found
    obtain ⟨name?, first, found⟩ := Act.bind_eq_ok.mp found
    cases name? with
    | none => cases found
    | some =>
      obtain ⟨_, made, found⟩ := Act.bind_eq_ok.mp found
      cases found
      obtain ⟨member, promotes⟩ := promotable_firstPromotable first
      obtain ⟨ordered, inSet⟩ := mem_filter.mp member
      rw [eq_mk_of_make made]
      exact ⟨inSet, promotable_arrayName (listed_promotionOrder ordered) isElement promotes⟩

/-! ## Steps -/

theorem of_bind_eq_pure {step : Step α} {next : α → Step β} (run : step >>= next = pure result) :
    ∃ value, step = pure value ∧ next value = pure result := by
  rcases step with _ | _ | value
  · cases run
  · cases run
  · exact ⟨value, rfl, run⟩

theorem of_lift_eq_pure {outcome : Except Fault α} (run : (liftM outcome : Step α) = pure value) :
    outcome = .ok value := by
  cases outcome <;> cases run
  rfl

theorem of_ofVerdict_eq_pure (run : ofVerdict verdict = pure value) : verdict = pure value := by
  rcases verdict with fault | message | result <;> cases run
  rfl

theorem settleArgument_eq_pure {wording : String}
    (settled : settleArgument wording names possible index type = pure taken) :
    Settles possible type taken := by
  unfold settleArgument at settled
  by_cases member : possible.mem type.name = true
  · rw [if_pos member] at settled
    cases settled
    exact ⟨member, promotable_iff.mpr (.inl (beq_self_eq_true type.name)), fun _ => rfl⟩
  · rw [if_neg member] at settled
    split at settled
    · obtain ⟨_, -, settled⟩ := of_bind_eq_pure settled
      cases settled
    · obtain ⟨promoted?, found, settled⟩ := of_bind_eq_pure settled
      cases promoted? with
      | none =>
        obtain ⟨_, -, settled⟩ := of_bind_eq_pure settled
        cases settled
      | some =>
        cases settled
        obtain ⟨inSet, promotes⟩ := promotableToOneOf_eq_some (of_lift_eq_pure found)
        exact ⟨inSet, promotes, fun inside => absurd inside member⟩

theorem settleAll_eq_pure {wording : String} {index : Nat}
    (made : settleAll wording names possible index types = pure settled) :
    List.Forall₂ (Settles possible) types settled := by
  induction types generalizing index settled with
  | nil =>
    cases made
    exact .nil
  | cons _ _ ih =>
    obtain ⟨_, settledFirst, made⟩ := of_bind_eq_pure made
    obtain ⟨_, settledOthers, made⟩ := of_bind_eq_pure made
    cases made
    exact .cons (settleArgument_eq_pure settledFirst) (ih settledOthers)

theorem joinAll_eq_pure (made : joinAll first rest = pure joined) :
    rest.foldlM (Typing.arithmeticOnTypes false "?") first = pure joined := by
  induction rest generalizing first with
  | nil =>
    cases made
    rfl
  | cons _ _ ih =>
    obtain ⟨_, joins, made⟩ := of_bind_eq_pure made
    rw [foldlM_cons, of_ofVerdict_eq_pure joins]
    exact ih made

theorem joinFloat_eq_ok (made : joinFloat joined = .ok type) :
    Typing.arithmeticOnTypes false "?" joined (.mk "float" none) = pure type := by
  obtain ⟨_, float, made⟩ := Act.bind_eq_ok.mp made
  rw [eq_mk_of_make float] at made
  revert made
  rcases Typing.arithmeticOnTypes false "?" joined (.mk "float" none) with _ | _ | _ <;>
    rintro ⟨⟩
  rfl

/-- Arguments that are settled in one set of types each get a type of the set to which their own can
be promoted, which is their own if it is in the set.  The output comes from joining these types from
the left. -/
theorem sameKind_settles {toFraction : Bool} {types settled : List PortType} {output : String}
    (made : sameKind names possible toFraction types = pure (settled, output)) :
    List.Forall₂ (Settles possible) types settled ∧
      ∃ first rest joined, settled = first :: rest ∧
        rest.foldlM (Typing.arithmeticOnTypes false "?") first = pure joined ∧
        Ends toFraction joined output := by
  obtain ⟨taken, settles, made⟩ := of_bind_eq_pure made
  obtain ⟨joined, joins, made⟩ := of_bind_eq_pure made
  have ending : taken = settled ∧ Ends toFraction joined output := by
    cases toFraction with
    | false =>
      cases made
      exact ⟨rfl, .join nofun⟩
    | true =>
      obtain ⟨isField, asked, made⟩ := of_bind_eq_pure made
      have asked := of_lift_eq_pure asked
      cases isField with
      | true =>
        cases made
        exact ⟨rfl, .join fun _ => asked⟩
      | false =>
        obtain ⟨fraction, joinsFloat, made⟩ := of_bind_eq_pure made
        cases made
        exact ⟨rfl, .fraction rfl asked (joinFloat_eq_ok (of_lift_eq_pure joinsFloat))⟩
  obtain ⟨rfl, ends⟩ := ending
  refine ⟨settleAll_eq_pure settles, ?_⟩
  cases taken with
  | nil => cases joins
  | cons first rest => exact ⟨first, rest, joined, rfl, joinAll_eq_pure joins, ends⟩

set_option maxRecDepth 20000 in
/-- Characters in an array become fractions, and a single fraction joins them. -/
theorem sameKind_settles_characters :
    sameKind ["first", "second"] (.ofNames ["float", "array<float>"]) true
        [.mk "array<char>" none, .mk "float" none] =
      pure ([.mk "array<float>" none, .mk "float" none], "array<float>") ∧
    Settles (.ofNames ["float", "array<float>"]) (.mk "array<char>" none)
      (.mk "array<float>" none) := by
  have made : sameKind ["first", "second"] (.ofNames ["float", "array<float>"]) true
        [.mk "array<char>" none, .mk "float" none] =
      pure ([.mk "array<float>" none, .mk "float" none], "array<float>") := by
    rfl
  obtain ⟨settles, -⟩ := sameKind_settles made
  exact ⟨made, (forall₂_cons.mp settles).1⟩

end GraphScript.Overload
