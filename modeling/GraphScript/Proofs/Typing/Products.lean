import GraphScript.Proofs.Typing.Joins

/-!
# The types of sums and products

Promotion is a preorder on the scalars, in which truth values and characters are alike.  The join of
two is their least upper bound, so a fold of joins is that of a list, and its order and grouping do
not matter.

A product of matrices has the rows of the first and the columns of the last, if each has as many
columns as the next has rows, and an array among the factors makes the product an array.
-/

namespace GraphScript.Typing

open List hiding all
open PortType

namespace Scalar

def port (scalar : Scalar) : PortType := (NumberType.scalar scalar).port

theorem promotable_port {value : Scalar} :
    promotable value.port target.port = .ok true ↔ value.fits target := by
  rw [port, port, NumberType.promotable_port]
  have same : ∀ value target : Scalar, value.name = target.name → value.fits target := by
    decide
  simpa [NumberType.rows, NumberType.columns, NumberType.component, NumberType.name] using same
    value target

/-- A scalar is below those that it can be promoted to. -/
instance : Preorder Scalar where
  le value target := promotable value.port target.port = .ok true
  le_refl scalar := refl_of Promotes scalar.name
  le_trans _ _ _ := trans_of Promotes

theorem le_iff {value : Scalar} : value ≤ target ↔ value.fits target := promotable_port

theorem join_le_iff {left : Scalar} : left.join right ≤ target ↔ left ≤ target ∧
    right ≤ target := by
  have upper : left ≤ left.join right ∧ right ≤ left.join right := by
    simpa only [le_iff] using fits_join left right
  refine ⟨fun below => ⟨upper.1.trans below, upper.2.trans below⟩, fun below => ?_⟩
  rw [le_iff, le_iff] at below
  exact le_iff.mpr (join_fits _ _ _ below.1 below.2)

/-- Scalars with the same upper bounds are the same, up to truth values. -/
theorem number_eq {left : Scalar} (same : ∀ target, left ≤ target ↔ right ≤ target) :
    left.number = right.number := by
  have antisymm : ∀ left right : Scalar, left.fits right → right.fits left →
      left.number = right.number := by
    decide
  exact antisymm _ _ (le_iff.mp ((same right).mpr le_rfl)) (le_iff.mp ((same left).mp le_rfl))

theorem join_port (left right : Scalar) :
    PortType.join false left.port right.port = .ok (left.join right).port := by
  have sized (scalar : Scalar) : (NumberType.scalar scalar).isSized :=
    NumberType.isSized_of_isWide rfl
  obtain ⟨type, joined, component, rows, -⟩ := NumberType.join_port (sized left) (sized right)
  cases type with
  | scalar => exact joined.trans (congrArg (Except.ok ·.port) component)
  | vector | matrix => simp [NumberType.rows] at rows

/-! ## Folds -/

theorem foldl_join_le_iff {first : Scalar} :
    rest.foldl join first ≤ target ↔ ∀ scalar ∈ first :: rest, scalar ≤ target := by
  induction rest generalizing first with
  | nil => simp
  | cons _ _ ih => simp [ih, join_le_iff, and_assoc]

theorem numericJoin_port (first : Scalar) (rest : List Scalar) :
    numericJoin first.port (rest.map port) = .ok (rest.foldl join first).port := by
  induction rest generalizing first with
  | nil => rfl
  | cons _ _ ih => rw [map_cons, numericJoin, join_port, ok_bind, ih, foldl_cons]

theorem joinedFrom_port (operator : String) (first : Scalar) (rest : List Scalar) :
    joinedFrom operator (.found first.port)
      (rest.map port) = .ok (.found (rest.foldl join first).port) := by
  have node (scalar : Scalar) : scalar.port.operandType = pure scalar.port := by
    rw [operandType, show scalar.port.isNode = false from (NumberType.scalar scalar).isNode_port]
    rfl
  induction rest generalizing first with
  | nil => rfl
  | cons next _ ih =>
    have joined : (arithmeticOnTypes false operator first.port next.port).run =
        .ok (.ok (first.join next).port) := by
      rw [arithmeticOnTypes, node, node, pure_bind, pure_bind, port, port,
        NumberType.arithmetic_port]
      exact congrArg (fun outcome => (liftM outcome : Verdict PortType).run) (join_port first next)
    rw [map_cons, joinedFrom, Joined.check, ok_bind, joined, ok_bind]
    exact ih (first.join next)

end Scalar

/-! ## Calls -/

/-- An argument that counts as a scalar: a value, or a node with one port. -/
inductive Counts : PortType → Scalar → Prop
  | value (scalar : Scalar) : Counts scalar.port scalar
  | node (name : String) (scalar : Scalar) :
      Counts (.mk nodeName (some [(name, scalar.port)])) scalar

section Calls

theorem askAll_eq {question : PortType → Except Fault α} {answer : PortType → α}
    (answers : ∀ type ∈ arguments, question type = .ok (answer type)) :
    askAll question arguments = .ok (arguments.map answer) :=
  Act.mapM_eq_map answers

theorem askAll_map {α β : Type} {question : PortType → Except Fault β} {port : α → PortType}
    {answer : α → β} (answers : ∀ item, question (port item) = .ok (answer item)) (items : List α) :
    askAll question (items.map port) = .ok (items.map answer) := by
  rw [askAll, mapM_map]
  exact Act.mapM_eq_map fun item _ => answers item

theorem Scalar.isNumeric_port (scalar : Scalar) : scalar.port.isNumeric = .ok true :=
  (NumberType.scalar scalar).isNumeric_port

theorem Scalar.isField_port (scalar : Scalar) : scalar.port.isField = .ok false :=
  (NumberType.scalar scalar).isField_port

theorem onlyPort_of_counts (counts : List.Forall₂ Counts arguments scalars) :
    (∀ argument ∈ arguments, argument.isArray = false) ∧
      arguments.map onlyPort = scalars.map Scalar.port := by
  have node : Text.startsWith "array<" nodeName = false := by decide
  induction counts with
  | nil => exact ⟨forall_mem_nil _, rfl⟩
  | @cons argument scalar _ _ first _ ih =>
    rw [forall_mem_cons, map_cons, map_cons, ih.2]
    cases first with
    | value =>
      have isNode : scalar.port.isNode = false := (NumberType.scalar scalar).isNode_port
      exact ⟨⟨(NumberType.scalar scalar).isArray_port, ih.1⟩, by rw [PortType.onlyPort, isNode]⟩
    | node => exact ⟨⟨node, ih.1⟩, rfl⟩

variable {name : String} {rest : List Scalar}

theorem associative_port (notArray : Text.endsWith "::build_array" name = false)
    (notProduct : Text.endsWith "::matrix_multiply" name = false)
    (counts : List.Forall₂ Counts arguments (first :: rest)) :
    associative name arguments = pure (rest.foldl Scalar.join first).port := by
  obtain ⟨flat, ports⟩ := onlyPort_of_counts counts
  have levels : arguments.filter isArray = [] := by simpa [filter_eq_nil_iff] using flat
  have types : askAll countedType arguments = .ok ((first :: rest).map Scalar.port) := by
    rw [← ports]
    exact askAll_eq fun argument member => by rw [countedType, flat argument member]; rfl
  have joined : joinedAll "*" ((first :: rest).map Scalar.port) =
    .ok (rest.foldl Scalar.join first).port := by
    rw [map_cons, joinedAll, Scalar.joinedFrom_port, ok_bind]
    rfl
  have made (scalar : Scalar) : typeInArrays 0 scalar.port.name =
    .ok (.mk (arrayName 0 scalar.name) none) :=
    (listed_scalar scalar).typeInArrays (by decide)
  simp only [associative, notArray, notProduct, levels, types, askAll_map Scalar.isNumeric_port,
    askAll_map Scalar.isField_port, joined, NumberType.verdict_ok_bind]
  simp [made]
  rfl

/-- The elements of an array have the join of the types, or their only type. -/
theorem builtArray_port (counts : List.Forall₂ Counts arguments (first :: rest)) :
    ∃ element : Scalar, element.number = (rest.foldl Scalar.join first).number ∧
      builtArray arguments = pure (.mk (arrayName 1 element.name) none) := by
  obtain ⟨flat, ports⟩ := onlyPort_of_counts counts
  have elements : askAll elementType arguments = .ok (arguments.map fun type => type) :=
    askAll_eq fun argument member => by rw [elementType, flat argument member]; rfl
  simp only [builtArray, elements, map_id', ports, askAll_map Scalar.isNumeric_port,
    askAll_map Scalar.isField_port, NumberType.verdict_ok_bind]
  have made (scalar : Scalar) : typeInArrays 1 scalar.port.name =
    .ok (.mk (arrayName 1 scalar.name) none) :=
    (listed_scalar scalar).typeInArrays (by decide)
  simp [made, Scalar.numericJoin_port]
  split
  · rename_i same
    refine ⟨first, Scalar.number_eq fun _ => ?_, rfl⟩
    rw [eraseDups_cons] at same
    have none : filter (fun b => !b == first.port.name)
        (rest.map (PortType.name ∘ Scalar.port)) = [] := by
      generalize filter _ _ = others at same
      cases others with
      | nil => rfl
      | cons => simp [eraseDups_cons] at same
    have alike : ∀ scalar ∈ rest, scalar = first := by
      have injective : ∀ left right : Scalar, left.name = right.name → left = right := by decide
      intro scalar member
      have sameName : scalar.port.name = first.port.name := by
        simpa using filter_eq_nil_iff.mp none _ (mem_map_of_mem member)
      exact injective _ _ sameName
    rw [Scalar.foldl_join_le_iff, forall_mem_cons]
    exact ⟨fun below => ⟨below, fun scalar member => alike scalar member ▸ below⟩, And.left⟩
  · exact ⟨_, rfl, rfl⟩

end Calls

/-- A way of putting scalars together in pairs. -/
inductive Grouping where
  | one (scalar : Scalar)
  | pair (left right : Grouping)

namespace Grouping

def scalars : Grouping → List Scalar
  | one scalar => [scalar]
  | pair left right => left.scalars ++ right.scalars

def joined : Grouping → Except Fault PortType
  | one scalar => .ok scalar.port
  | pair left right => do PortType.join false (← left.joined) (← right.joined)

theorem exists_joined : ∀ grouping : Grouping, ∃ bound : Scalar, grouping.joined = .ok bound.port ∧
    ∀ target, bound ≤ target ↔ ∀ scalar ∈ grouping.scalars, scalar ≤ target
  | one scalar => ⟨scalar, rfl, by simp [scalars]⟩
  | pair left right => by
    obtain ⟨first, isFirst, below⟩ := exists_joined left
    obtain ⟨second, isSecond, belowToo⟩ := exists_joined right
    refine ⟨first.join second, ?_, fun _ => ?_⟩
    · rw [joined, isFirst, isSecond, ok_bind, ok_bind, Scalar.join_port]
    · rw [Scalar.join_le_iff, below, belowToo, scalars, forall_mem_append]

end Grouping

/-- The join of scalars from left to right is their least upper bound.  Up to truth values, it is
what every order and grouping of the scalars gives, and what calls with any number of arguments have
as their type. -/
theorem numericJoin_isLUB (first : Scalar) (rest : List Scalar) :
    ∃ bound : Scalar, numericJoin first.port (rest.map Scalar.port) = .ok bound.port ∧
      IsLUB {scalar | scalar ∈ first :: rest} bound ∧
      (∀ grouping : Grouping, grouping.scalars.Perm (first :: rest) →
        ∃ other : Scalar, grouping.joined = .ok other.port ∧ other.number = bound.number) ∧
      ∀ (name : String) (arguments : List PortType) (scalars : List Scalar),
        Text.endsWith "::matrix_multiply" name = false →
        List.Forall₂ Counts arguments scalars → scalars.Perm (first :: rest) →
        ∃ other : Scalar, other.number = bound.number ∧ associative name arguments =
          pure (if Text.endsWith "::build_array" name then .mk (arrayName 1 other.name) none
            else other.port) := by
  have below (target : Scalar) :
      rest.foldl Scalar.join first ≤ target ↔ ∀ scalar ∈ first :: rest, scalar ≤ target :=
    Scalar.foldl_join_le_iff
  refine ⟨_, Scalar.numericJoin_port first rest, ?_, ?_, ?_⟩
  · exact isLUB_iff_le_iff.mpr fun target => below target
  · intro grouping perm
    obtain ⟨other, joined, same⟩ := grouping.exists_joined
    refine ⟨other, joined, Scalar.number_eq fun target => ?_⟩
    simp only [same, below, perm.mem_iff]
  · intro name arguments scalars notProduct counts perm
    cases scalars with
    | nil => cases perm.length_eq
    | cons head tail =>
      have same : (tail.foldl Scalar.join head).number = (rest.foldl Scalar.join first).number :=
        Scalar.number_eq fun target => by simp only [Scalar.foldl_join_le_iff, perm.mem_iff]
      cases array : Text.endsWith "::build_array" name with
      | false => exact ⟨_, same, associative_port array notProduct counts⟩
      | true =>
        obtain ⟨element, like, built⟩ := builtArray_port counts
        refine ⟨element, like.trans same, ?_⟩
        rw [associative, array]
        exact built

/-! ## Matrices -/

variable {first : NumberType}

/-- The arrays among some values, given by their levels, all have the same levels. -/
def Level (levels : Nat) (all : List Nat) : Prop :=
  levels ∈ all ∧ ∀ other ∈ all, other = 0 ∨ other = levels

theorem Level.found (level : Level levels all) :
    (all.filter (· != 0)).eraseDups.length ≤ 1 ∧
    (all.filter (· != 0)).eraseDups.headD 0 = levels := by
  have same : ∀ other ∈ all.filter (· != 0), other = levels := by
    intro other member
    obtain ⟨member, isArray⟩ := mem_filter.mp member
    exact (level.2 other member).resolve_left (by simpa using isArray)
  cases arrays : all.filter (· != 0) with
  | nil =>
    have flat := filter_eq_nil_iff.mp arrays levels level.1
    exact ⟨Nat.zero_le _, (by simpa using flat : levels = 0).symm⟩
  | cons first rest =>
    rw [arrays, forall_mem_cons] at same
    obtain ⟨rfl, others⟩ := same
    have alone : rest.filter (fun other => !other == first) = [] := by
      simpa [filter_eq_nil_iff] using others
    simp [eraseDups_cons, alone]

/-- Numbers of a type, in at most three levels of arrays. -/
structure Numbers where
  type : NumberType
  levels : Nat
  few : levels ≤ 3

namespace Numbers

def port (numbers : Numbers) : PortType := .mk (arrayName numbers.levels numbers.type.name) none

theorem countedType_port (numbers : Numbers) : countedType numbers.port =
    .ok numbers.type.port := by
  have element : numbers.port.elementType = .ok numbers.type.port := numbers.type.listed.elementType
  have node : numbers.port.isNode = false := by
    simpa [port, isNode] using numbers.type.listed.ne_nodeName numbers.levels
  rw [countedType, onlyPort, node]
  exact element

theorem filter_isArray (all : List Numbers) :
    ((all.map port).filter isArray).map arrayDim = (all.map levels).filter (· != 0) := by
  have isArray (numbers : Numbers) : numbers.port.isArray = (numbers.levels != 0) :=
    numbers.type.listed.isArray numbers.levels
  have dim (numbers : Numbers) : numbers.port.arrayDim = numbers.levels :=
    (numbers.type.listed.occurrences numbers.levels).1
  simp [filter_map, Function.comp_def, isArray, dim]

end Numbers

/-! ## Extents -/

/-- The left type is a matrix with as many columns as the right one, a matrix or vector, has
rows. -/
def Multiplies (left right : NumberType) : Prop := left.columns ≠ -1 ∧ left.columns = right.rows

namespace NumberType

def extent (type : NumberType) : Int × Int := (type.rows, type.columns)

theorem productExtent_port (type : NumberType) : productExtent type.port = .ok type.extent := by
  obtain ⟨isMatrix, isVector, matrixDim, vectorDim⟩ := type.endsAs
  rw [productExtent, port, isVector, isMatrix, matrixDim, vectorDim, extent]
  cases type <;> simp [rows, columns, bind, Except.bind, pure, Except.pure]

theorem foldl_productOf (chain : (first :: rest).IsChain Multiplies) :
    (rest.map extent).foldl productOf first.extent =
      (first.rows, ((first :: rest).getLast (cons_ne_nil _ _)).columns) := by
  have step (rows : Int) {rest : List NumberType} : ∀ {first : NumberType},
      (first :: rest).IsChain Multiplies → (rest.map extent).foldl productOf (rows, first.columns) =
        (rows, ((first :: rest).getLast (cons_ne_nil _ _)).columns) := by
    induction rest with
    | nil => exact fun _ => rfl
    | cons _ _ ih =>
      intro first chain
      obtain ⟨⟨matrix, fits⟩, chain⟩ := isChain_cons_cons.mp chain
      rw [map_cons, foldl_cons, getLast_cons_cons, productOf, extent]
      simp only [fits, beq_self_eq_true, if_true]
      rw [← fits, if_neg (by simpa using matrix)]
      exact ih chain
  exact step first.rows chain

end NumberType

theorem NumberType.exists_product (matrix : first.columns ≠ -1) (last : NumberType)
    (component : Scalar) : ∃ product : NumberType, product.isScalar = false ∧
      product.component = component ∧
      product.rows = first.rows ∧ product.columns = last.columns := by
  cases first with
  | scalar | vector => exact absurd rfl matrix
  | matrix _ height =>
    cases last with
    | scalar | vector => exact ⟨.vector component height, rfl, rfl, rfl, rfl⟩
    | matrix _ _ width => exact ⟨.matrix component height width, rfl, rfl, rfl, rfl⟩

theorem matrixProduct_port {rest : List NumberType} {levels : Nat} (few : levels ≤ 3)
    (matrix : first.columns ≠ -1) (chain : (first :: rest).IsChain Multiplies) :
    ∃ product : NumberType, matrixProduct levels ((first :: rest).map NumberType.port) =
        .ok (.mk (arrayName levels product.name) none) ∧
      product.component = (rest.map NumberType.component).foldl Scalar.join first.component ∧
      product.rows = first.rows ∧
      product.columns = ((first :: rest).getLast (cons_ne_nil _ _)).columns := by
  obtain ⟨product, shaped, component, rows, columns⟩ := NumberType.exists_product matrix
    ((first :: rest).getLast (cons_ne_nil _ _))
    ((rest.map NumberType.component).foldl Scalar.join first.component)
  refine ⟨product, ?_, component, rows, columns⟩
  have joined : joinedAll "-" ((first :: rest).map fun type => type.component.port) =
      .ok product.component.port := by
    have fold := Scalar.joinedFrom_port "-" first.component (rest.map NumberType.component)
    rw [map_map] at fold
    rw [component, map_cons, joinedAll]
    exact congrArg (· >>= _) fold
  have base : ∀ type : NumberType, type.port.baseType = .ok type.component.port :=
    NumberType.baseType_port
  rw [matrixProduct, askAll_map NumberType.productExtent_port, ok_bind, map_cons]
  dsimp only
  rw [NumberType.foldl_productOf chain, ← rows, ← columns, askAll_map base, ok_bind,
    joined, ok_bind]
  have made := product.listed.typeInArrays few
  cases product with
  | scalar => cases shaped
  | vector => exact made
  | matrix _ _ width =>
    have wide : ∀ size : Size, (size.1 : Int) > 1 := by decide
    exact (congrArg (typeInArrays levels) (if_pos (wide width))).trans made

/-- A product of matrices that fit, with a vector or a matrix at its end, has the rows of the first
factor and the columns of the last.  Its component is the join of all components, and it has the
levels of the arrays among the factors. -/
theorem associative_product {name : String} {first : Numbers} {rest : List Numbers} {levels : Nat}
    (isProduct : Text.endsWith "::matrix_multiply" name) (matrix : first.type.columns ≠ -1)
    (chain : ((first :: rest).map Numbers.type).IsChain Multiplies)
    (level : Level levels ((first :: rest).map Numbers.levels)) :
    ∃ product : Numbers, associative name ((first :: rest).map Numbers.port) = pure product.port ∧
      product.levels = levels ∧ product.type.rows = first.type.rows ∧
      product.type.columns = ((first :: rest).getLast (cons_ne_nil _ _)).type.columns ∧
      product.type.component =
        (rest.map fun factor => factor.type.component).foldl Scalar.join first.type.component := by
  have notArray : Text.endsWith "::build_array" name = false := by
    refine eq_false_of_ne_true fun isArray => ?_
    have either := suffix_or_suffix_of_suffix (isSuffixOf_iff_suffix.mp isProduct)
      (isSuffixOf_iff_suffix.mp isArray)
    revert either
    decide
  have few : levels ≤ 3 := by
    obtain ⟨factor, -, same⟩ := mem_map.mp level.1
    exact same ▸ factor.few
  obtain ⟨uniform, found⟩ := level.found
  rw [map_cons] at chain
  obtain ⟨product, typed, component, rows, columns⟩ := matrixProduct_port few matrix chain
  refine ⟨⟨product, levels, few⟩, ?_, rfl, rows, ?_, ?_⟩
  · have numeric (factor : Numbers) : factor.type.port.isNumeric = .ok true :=
      factor.type.isNumeric_port
    have noField (factor : Numbers) : factor.type.port.isField = .ok false :=
      factor.type.isField_port
    rw [← map_cons, map_map] at typed
    simp only [associative, notArray, isProduct, Numbers.filter_isArray, found,
      askAll_map Numbers.countedType_port, askAll_map numeric, askAll_map noField,
        NumberType.verdict_ok_bind]
    rw [map_cons] at uniform
    simp [Nat.not_lt.mpr uniform]
    exact congrArg (fun outcome => (liftM outcome : Verdict PortType)) typed
  · rw [columns]
    simp only [← map_cons, getLast_map]
  · rwa [map_map] at component

theorem associative_product_arrayFirst : ∃ product : Numbers,
    associative "Core::Math::matrix_multiply"
        [.mk "array<Math::float2x3>" none, .mk "Math::int3x4" none, .mk "Math::double4" none] =
      pure product.port ∧ product.levels = 1 ∧ product.type.rows = 2 ∧ product.type.columns = -1 ∧
      product.type.component = .double := by
  let first : Numbers := ⟨.matrix .float ⟨2, by decide⟩ ⟨3, by decide⟩, 1, by decide⟩
  let rest : List Numbers := [⟨.matrix .int ⟨3, by decide⟩ ⟨4, by decide⟩, 0, by decide⟩,
    ⟨.vector .double ⟨4, by decide⟩, 0, by decide⟩]
  have names : (first :: rest).map Numbers.port =
      [.mk "array<Math::float2x3>" none, .mk "Math::int3x4" none, .mk "Math::double4" none] := rfl
  rw [← names]
  have chain : ((first :: rest).map Numbers.type).IsChain Multiplies := by
    simp [first, rest, Multiplies, NumberType.columns, NumberType.rows]
  exact associative_product (by decide) (by decide) chain (by simp [first, rest, Level])

end GraphScript.Typing
