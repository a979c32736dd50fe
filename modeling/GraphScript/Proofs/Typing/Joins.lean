import GraphScript.Elaboration.Expression
import GraphScript.Proofs.Typing.Numbers

/-!
# The types of arithmetic

An operation on numbers has the join of the types of its sides.  Where the size of a whole number is
lost in the name of its vector or matrix, that join fails; `isBounded_iff` says for which types of
operands it never does, whatever the form of the expression.
-/

namespace GraphScript.Typing

open PortType

namespace NumberType

@[simp] theorem verdict_ok_bind (value : α) (next : α → Verdict β) :
    ((liftM (Except.ok value : Except Fault α) : Verdict α) >>= next) = next value := rfl

variable (type : NumberType)

theorem isField_port : type.port.isField = .ok false := by
  rw [PortType.isField, baseAmong_port]
  cases type.component <;> rfl

theorem arithmetic_port (withText : Bool) (operator : String) (left right : NumberType) :
    arithmetic withText operator left.port right.port =
      liftM (PortType.join false left.port right.port) := by
  have isString (type : NumberType) : type.port.isString = .ok false := by
    rw [PortType.isString, baseAmong_port]
    cases type.component <;> rfl
  simp only [arithmetic, isArray_port, arrayDim_port, isField_port, isString, isNumeric_port,
    elementType, verdict_ok_bind, andM, orM, bne_self_eq_false, Bool.and_false, Bool.false_eq_true,
      if_false, ite_self]
  split <;> rfl

/-- Where the size of a whole number is not known, it has no join with itself. -/
theorem join_self_eq_error {type : NumberType} (narrow : type.isSized = false) :
    PortType.join false type.port type.port = .error .missingKey := by
  simp only [isSized, Bool.or_eq_false_iff, beq_eq_false_iff_ne] at narrow
  have unknown : type.bytes = -1 := by
    have := narrow.2
    unfold bytes at this ⊢
    split <;> simp_all
  simp only [PortType.join, joinName, joinScalar, unsignedWins, isFraction_port, isUnsigned_port,
    numericSize_port, narrow.1, unknown, ok_bind, Bool.false_eq_true, if_false]
  split <;> rfl

end NumberType

namespace Scalar

/-- A fraction, or a whole number with eight bytes. -/
def isWide (scalar : Scalar) : Bool := scalar.isFraction || scalar.bytes == 8

theorem isWide_join : ∀ left right : Scalar, left.isWide ∨ right.isWide →
    (left.join right).isWide := by
  decide

theorem fits_join : ∀ left right : Scalar, left.fits (left.join right) ∧
    right.fits (left.join right) := by
  decide

theorem join_fits : ∀ left right target : Scalar, left.fits target → right.fits target →
    (left.join right).fits target := by
  decide

end Scalar

namespace NumberType

/-- A scalar, or a vector or matrix of wide components. -/
def isWide (type : NumberType) : Bool := type.isScalar || type.component.isWide

variable {type left right : NumberType}

theorem isSized_of_isWide (wide : type.isWide) : type.isSized := by
  simp only [isWide, Scalar.isWide, isSized, bytes] at wide ⊢
  grind

theorem isWide_join (leftWide : left.isWide) (rightWide : right.isWide)
    (component : type.component = left.component.join right.component)
    (rows : type.rows = max left.rows right.rows) : type.isWide := by
  have joined := Scalar.isWide_join left.component right.component
  simp only [isWide, Bool.or_eq_true, isScalar_iff, component, rows] at *
  rcases leftWide with _ | wide
  · rcases rightWide with _ | wide
    · exact .inl (by omega)
    · exact .inr (joined (.inr wide))
  · exact .inr (joined (.inl wide))

end NumberType

end GraphScript.Typing

namespace GraphScript.Elaboration

open Program (Term)
open Syntax (OperatorKind)
open Typing (NumberType Promotes)

/-- A tree of operations on terms. -/
inductive Arithmetic where
  | operand (term : Term)
  | operation (id : Nat) (kind : OperatorKind) (operator : String) (left right : Arithmetic)

namespace Arithmetic

/-- The term for a tree, with a type at every operation. -/
def term : Arithmetic → Verdict Term
  | operand term => pure term
  | operation id kind operator left right => do
    let left ← left.term
    let right ← right.term
    let type ← binaryType kind operator left right
    return .mk id (.binary kind operator type left right)

def operands : Arithmetic → List Term
  | operand term => [term]
  | operation _ _ _ left right => left.operands ++ right.operands

/-- The operands have types of a set, and the operations are arithmetic. -/
def Over (types : Set NumberType) : Arithmetic → Prop
  | operand term => ∃ type ∈ types, term.type = .ok type.port
  | operation _ kind _ left right => kind ≠ .logic ∧ left.Over types ∧ right.Over types

/-- Every operation gets a type, and the operands can be promoted to the type of the whole. -/
def IsBounded (tree : Arithmetic) : Prop :=
  ∃ term type, tree.term = pure term ∧ term.type = .ok type ∧
    ∀ operand ∈ tree.operands, ∃ given, operand.type = .ok given ∧
      PortType.promotable given type = .ok true

theorem operandType_eq {term : Term} {type : PortType} (typed : term.type = .ok type)
    (notNode : type.isNode = false) : operandType term = pure type := by
  simp only [operandType, typed, NumberType.verdict_ok_bind, notNode]
  rfl

theorem binaryType_port {kind : OperatorKind} (arithmetic : kind ≠ .logic) (operator : String)
    {left : Term} {leftType rightType : NumberType} (isLeft : left.type = .ok leftType.port)
    (isRight : right.type = .ok rightType.port) :
    binaryType kind operator left right =
      liftM (PortType.join false leftType.port rightType.port) := by
  rw [binaryType, operandType_eq isLeft leftType.isNode_port,
    operandType_eq isRight rightType.isNode_port]
  cases kind with
  | logic => exact absurd rfl arithmetic
  | _ => exact NumberType.arithmetic_port ..

theorem term_operation {id : Nat} {kind : OperatorKind} {operator : String}
    {left right : Arithmetic}
    {first : Term} {leftType rightType : NumberType} (arithmetic : kind ≠ .logic)
    (isFirst : left.term = pure first) (isSecond : right.term = pure second)
    (typedLeft : first.type = .ok leftType.port) (typedRight : second.type = .ok rightType.port) :
    (operation id kind operator left right).term = (do
      let type ← liftM (PortType.join false leftType.port rightType.port)
      return .mk id (.binary kind operator type first second)) := by
  rw [term, isFirst, isSecond, pure_bind, pure_bind,
    binaryType_port arithmetic operator typedLeft typedRight]

theorem exists_bound {types : Set NumberType} (wide : ∀ type ∈ types, type.isWide) :
    ∀ tree : Arithmetic, tree.Over types → ∃ (term : Term) (type : NumberType),
      tree.term = pure term ∧ term.type = .ok type.port ∧ type.isWide ∧
        ∀ operand ∈ tree.operands, ∃ given : NumberType, operand.type = .ok given.port ∧
          Promotes given.name type.name
  | operand term, ⟨type, member, typed⟩ => by
    refine ⟨term, type, rfl, typed, wide type member, fun operand same => ?_⟩
    obtain rfl := List.mem_singleton.mp same
    exact ⟨type, typed, refl_of Promotes _⟩
  | operation id kind operator left right, ⟨arithmetic, overLeft, overRight⟩ => by
    obtain ⟨first, leftType, isFirst, typedLeft, wideLeft, boundLeft⟩ :=
      exists_bound wide left overLeft
    obtain ⟨second, rightType, isSecond, typedRight, wideRight, boundRight⟩ :=
      exists_bound wide right overRight
    obtain ⟨type, joined, component, rows, _⟩ :=
      NumberType.join_port (NumberType.isSized_of_isWide wideLeft)
        (NumberType.isSized_of_isWide wideRight)
    refine ⟨.mk id (.binary kind operator type.port first second), type, ?_, rfl, ?_, ?_⟩
    · rw [term_operation arithmetic isFirst isSecond typedLeft typedRight, joined]
      rfl
    · exact NumberType.isWide_join wideLeft wideRight component rows
    · have upper := Typing.Scalar.fits_join leftType.component rightType.component
      rw [← component] at upper
      have leftBelow : Promotes leftType.name type.name :=
        NumberType.promotable_port.mpr (.inr ⟨by omega, by omega, upper.1⟩)
      have rightBelow : Promotes rightType.name type.name :=
        NumberType.promotable_port.mpr (.inr ⟨by omega, by omega, upper.2⟩)
      intro operand member
      rcases List.mem_append.mp member with inLeft | inRight
      · obtain ⟨given, typed, lower⟩ := boundLeft operand inLeft
        exact ⟨given, typed, trans_of Promotes lower leftBelow⟩
      · obtain ⟨given, typed, lower⟩ := boundRight operand inRight
        exact ⟨given, typed, trans_of Promotes lower rightBelow⟩

/-- The operation on a tree and itself. -/
def doubled (tree : Arithmetic) : Arithmetic := operation 0 .math "+" tree tree

section Doubled

variable {tree : Arithmetic} {first : Term} {type : NumberType}

theorem term_doubled (made : tree.term = pure first) (typed : first.type = .ok type.port) :
    tree.doubled.term = (do
      let type ← liftM (PortType.join false type.port type.port)
      return .mk 0 (.binary .math "+" type first first)) :=
  term_operation OperatorKind.noConfusion made made typed typed

theorem not_isBounded_doubled (made : tree.term = pure first) (typed : first.type = .ok type.port)
    (narrow : type.isSized = false) : ¬ tree.doubled.IsBounded := by
  rintro ⟨_, _, doubled, -⟩
  rw [term_doubled made typed, NumberType.join_self_eq_error narrow] at doubled
  cases doubled

end Doubled

/-- Arithmetic on operands of some types, in trees of every form, has a type at every operation and
one that bounds the operands, exactly if the vectors and matrices among the types are of fractions
or of whole numbers with eight bytes. -/
theorem isBounded_iff (types : Set NumberType) :
    (∀ tree : Arithmetic, tree.Over types → tree.IsBounded) ↔
      ∀ type ∈ types, type.isScalar ∨ type.component.isFraction ∨ type.component.bytes = 8 := by
  constructor
  · intro bounded type member
    by_contra narrow
    simp only [not_or, Bool.not_eq_true] at narrow
    obtain ⟨shaped, whole, small⟩ := narrow
    let leaf : Arithmetic := operand (.mk 0 (.reference "x" type.port))
    have holds : leaf.doubled.Over types :=
      ⟨OperatorKind.noConfusion, ⟨type, member, rfl⟩, ⟨type, member, rfl⟩⟩
    by_cases truth : type.component = .bool
    · have sized : type.isSized := by simp [NumberType.isSized, NumberType.bytes, truth]
      -- the sum of two truth values is a whole number of one byte
      obtain ⟨sum, joined, component, rows, -⟩ := NumberType.join_port sized sized
      have sumNarrow : sum.isSized = false := by
        have sumShaped : sum.isScalar = false := by
          rw [Bool.eq_false_iff, ne_eq, NumberType.isScalar_iff] at shaped ⊢
          rwa [rows, max_self]
        have char : Typing.Scalar.join .bool .bool = .char := by decide
        simp [NumberType.isSized, NumberType.bytes, sumShaped, component, truth, char,
          Typing.Scalar.isFraction, Typing.Scalar.bytes]
      have made := (term_doubled rfl rfl : leaf.doubled.term = _)
      rw [joined] at made
      exact not_isBounded_doubled made rfl sumNarrow
        (bounded _ ⟨OperatorKind.noConfusion, holds, holds⟩)
    · refine not_isBounded_doubled rfl rfl ?_ (bounded _ holds)
      have known : ∀ scalar : Typing.Scalar, -1 ≠ scalar.bytes := by decide
      simp [NumberType.isSized, NumberType.bytes, shaped, whole, small, truth, known]
  · intro wide tree holds
    have wide : ∀ type ∈ types, type.isWide := by
      intro type member
      simpa [NumberType.isWide, Typing.Scalar.isWide] using wide type member
    obtain ⟨term, type, made, typed, -, bound⟩ := exists_bound wide tree holds
    refine ⟨term, type.port, made, typed, fun operand member => ?_⟩
    obtain ⟨given, typed, promotes⟩ := bound operand member
    exact ⟨given.port, typed, promotes⟩

end Arithmetic

end GraphScript.Elaboration

/-! ## Logical operations -/

namespace GraphScript.Typing

open PortType

/-- Truth values of a shape, in at most three levels of arrays. -/
structure Truths where
  type : NumberType
  levels : Nat
  isBool : type.component = .bool
  few : levels ≤ 3

namespace Truths

def port (truths : Truths) : PortType := .mk (arrayName truths.levels truths.type.name) none

/-- The rows and columns; what has none counts as minus one. -/
def extent (truths : Truths) : Int × Int := (truths.type.rows, truths.type.columns)

theorem extent_ge (truths : Truths) : -1 ≤ truths.extent.1 ∧ -1 ≤ truths.extent.2 := by
  rw [extent]
  cases truths.type <;> simp [NumberType.rows, NumberType.columns]

theorem port_eq_iff {first second : Truths} :
    first.port = second.port ↔ first.levels = second.levels ∧ first.extent = second.extent := by
  constructor
  · intro same
    have names := congrArg PortType.name same
    have inner : first.type.name = second.type.name := by
      rw [← first.type.listed.innerName first.levels, ← second.type.listed.innerName second.levels]
      exact congrArg innerName names
    refine ⟨?_, ?_⟩
    · rw [← (first.type.listed.occurrences first.levels).1,
        ← (second.type.listed.occurrences second.levels).1]
      exact congrArg (Text.occurrences '<') names
    · have extents := second.type.extent_port
      rw [NumberType.port, ← inner] at extents
      exact Except.ok.inj (first.type.extent_port.symm.trans extents)
  · rintro ⟨levels, extent⟩
    obtain ⟨rows, columns⟩ := Prod.mk.inj extent
    rw [port, port, levels, first.type.name_eq, second.type.name_eq, rows, columns, first.isBool,
      second.isBool]

/-- The extent of an operation on two sides. -/
def joined (left right : Int × Int) : Int × Int :=
  if left.2 = -1 then (-1, -1) else (max left.1 right.1, max left.2 right.2)

theorem logicExtent_port (left right : NumberType) :
    ∃ rows, logicExtent left.port right.port = .ok (if left.columns = -1 then (rows, -1)
      else (max left.rows right.rows, max left.columns right.columns)) := by
  obtain ⟨leftMatrix, leftVector, leftExtent, leftSize⟩ := left.endsAs
  obtain ⟨-, rightVector, rightExtent, rightSize⟩ := right.endsAs
  simp only [logicExtent, NumberType.port, leftMatrix, leftVector, leftExtent, leftSize,
    rightVector, rightExtent, rightSize, ok_bind]
  cases left <;> cases right <;> simp [NumberType.rows, NumberType.columns, pure, Except.pure]

theorem logic_of_extent (operator : String) {left right : Truths}
    (extent : logicExtent left.type.port right.type.port = .ok (rows, columns)) :
    logic operator left.port right.port = liftM (typeInArrays right.levels
      (if rows != -1 && columns != -1 then s!"Math::bool{rows}x{columns}" else "bool")) := by
  have element (truths : Truths) : truths.port.elementType = .ok truths.type.port :=
    truths.type.listed.elementType
  have array : right.port.isArray = (right.levels != 0) := right.type.listed.isArray right.levels
  have dim : right.port.arrayDim = right.levels := (right.type.listed.occurrences right.levels).1
  have levels : (if right.levels != 0 then right.levels else 0) = right.levels := by
    cases right.levels <;> rfl
  have truth : (PortType.mk Scalar.bool.name none).isBool = .ok true :=
    (NumberType.scalar .bool).isBool_port
  simp only [logic, element, array, dim, levels, NumberType.verdict_ok_bind,
    NumberType.baseType_port, left.isBool, right.isBool, andM, truth, extent]
  -- what is made of the name does not matter
  generalize typeInArrays right.levels = make
  cases rows != -1 && columns != -1 <;> rfl

theorem logic_port (operator : String) (left right : Truths) : ∃ result : Truths,
    logic operator left.port right.port = pure result.port ∧ result.levels = right.levels ∧
      result.extent = joined left.extent right.extent := by
  obtain ⟨_, extent⟩ := logicExtent_port left.type right.type
  have made (type : NumberType) := type.listed.typeInArrays right.few
  by_cases flat : left.type.columns = -1
  · rw [if_pos flat] at extent
    refine ⟨⟨.scalar .bool, right.levels, rfl, right.few⟩, ?_, rfl, (if_pos flat).symm⟩
    rw [logic_of_extent operator extent, if_neg (by simp)]
    exact congrArg liftM (made (.scalar .bool))
  · obtain ⟨type, component, isRows, isColumns⟩ :=
      NumberType.exists_shape .bool left.type right.type
    rw [if_neg flat, ← isRows, ← isColumns] at extent
    refine ⟨⟨type, right.levels, component, right.few⟩, ?_, rfl, ?_⟩
    · rw [logic_of_extent operator extent]
      refine Eq.trans (congrArg _ ?_) (congrArg liftM (made type))
      have matrix : type.columns ≠ -1 := by
        have := left.extent_ge.2
        change -1 ≤ left.type.columns at this
        omega
      cases type with
      | scalar | vector => exact absurd rfl matrix
      | matrix =>
        cases component
        rfl
    · exact (Prod.ext isRows isColumns).trans (if_neg flat).symm

end Truths

/-- A tree of logical operations on truth values. -/
inductive LogicTree where
  | operand (truths : Truths)
  | operation (operator : String) (left right : LogicTree)

namespace LogicTree

def type : LogicTree → Verdict PortType
  | operand truths => pure truths.port
  | operation operator left right => do logic operator (← left.type) (← right.type)

/-- The array levels are those of the last operand. -/
def levels : LogicTree → Nat
  | operand truths => truths.levels
  | operation _ _ right => right.levels

def extent : LogicTree → Int × Int
  | operand truths => truths.extent
  | operation _ left right => Truths.joined left.extent right.extent

theorem exists_truths : ∀ tree : LogicTree, ∃ truths : Truths, tree.type = pure truths.port ∧
    truths.levels = tree.levels ∧ truths.extent = tree.extent
  | operand truths => ⟨truths, rfl, rfl, rfl⟩
  | operation operator left right => by
    obtain ⟨first, isFirst, -, firstExtent⟩ := exists_truths left
    obtain ⟨second, isSecond, secondLevels, secondExtent⟩ := exists_truths right
    obtain ⟨result, typed, isLevels, isExtent⟩ := Truths.logic_port operator first second
    refine ⟨result, ?_, isLevels.trans secondLevels, ?_⟩
    · rw [type, isFirst, isSecond, pure_bind, pure_bind, typed]
    · rw [isExtent, firstExtent, secondExtent, extent]

/-- An operation on trees always has a type.  Its sides can be exchanged if they have the same
levels and both or none of them is a matrix, and its shape is the larger one of each direction if
the left side is a matrix or none has a shape. -/
theorem logicTree_type (operator : String) (left right : LogicTree) : ∃ truths : Truths,
    (operation operator left right).type = pure truths.port ∧ truths.levels = right.levels ∧
    ((operation operator left right).type = (operation operator right left).type ↔
      left.levels = right.levels ∧ (left.extent.2 = -1 ↔ right.extent.2 = -1)) ∧
    (truths.extent = (max left.extent.1 right.extent.1, max left.extent.2 right.extent.2) ↔
      left.extent.2 ≠ -1 ∨ left.extent = (-1, -1) ∧ right.extent = (-1, -1)) := by
  have least (tree : LogicTree) : -1 ≤ tree.extent.1 ∧ -1 ≤ tree.extent.2 := by
    obtain ⟨truths, -, -, same⟩ := exists_truths tree
    rw [← same]
    exact truths.extent_ge
  have leastLeft := least left
  have leastRight := least right
  obtain ⟨first, isFirst, firstLevels, firstExtent⟩ := exists_truths (operation operator left right)
  obtain ⟨second, isSecond, secondLevels, secondExtent⟩ :=
    exists_truths (operation operator right left)
  have injective : (pure first.port : Verdict PortType) = pure second.port ↔
    first.port = second.port :=
    ⟨fun same => Except.ok.inj (Except.ok.inj same), fun same => same ▸ rfl⟩
  refine ⟨first, isFirst, firstLevels, ?_, ?_⟩
  · rw [isFirst, isSecond, injective, Truths.port_eq_iff, firstLevels, secondLevels,
      firstExtent, secondExtent]
    simp only [levels, extent, Truths.joined]
    grind
  · rw [firstExtent]
    simp only [extent, Truths.joined]
    grind

end LogicTree

end GraphScript.Typing
