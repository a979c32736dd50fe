import GraphScript.Proofs.Text.Cutting
import GraphScript.Proofs.Typing.Promotion
import GraphScript.Typing.Associative
import Mathlib.Order.Bounds.Basic
import Mathlib.Data.Fintype.Basic

/-!
# The types of numbers

The scalars, vectors and matrices of numbers and truth values, as data and by their names.  Each
question that typing asks of a name is answered once from the data: what its components are, which
rows and columns it has, how many bytes count.  `promotable_port` and `join_port` then say what
promotion and arithmetic make of two such types.
-/

namespace GraphScript.Typing

open List PortType

/-- The scalar types of numbers and truth values. -/
inductive Scalar where
  | bool | char | uchar | short | ushort | int | uint | long | ulong | float | double
  deriving DecidableEq

namespace Scalar

instance : Fintype Scalar where
  elems := {bool, char, uchar, short, ushort, int, uint, long, ulong, float, double}
  complete scalar := by cases scalar <;> decide

def name : Scalar → String
  | bool => "bool"
  | char => "char"
  | uchar => "uchar"
  | short => "short"
  | ushort => "ushort"
  | int => "int"
  | uint => "uint"
  | long => "long"
  | ulong => "ulong"
  | float => "float"
  | double => "double"

def bytes : Scalar → Int
  | bool | char | uchar => 1
  | short | ushort => 2
  | int | uint | float => 4
  | long | ulong | double => 8

def isUnsigned : Scalar → Bool
  | uchar | ushort | uint | ulong => true
  | _ => false

def isFraction : Scalar → Bool
  | float | double => true
  | _ => false

end Scalar

/-- The number of rows or columns of a vector or matrix. -/
abbrev Size : Type := { size : Nat // size ∈ Catalogue.sizes }

/-- A type of numbers or truth values, in no array. -/
inductive NumberType where
  | scalar (component : Scalar)
  | vector (component : Scalar) (size : Size)
  | matrix (component : Scalar) (height width : Size)

namespace NumberType

def component : NumberType → Scalar
  | scalar component | vector component _ | matrix component _ _ => component

/-- The rows of a type; what has none counts as minus one. -/
def rows : NumberType → Int
  | scalar _ => -1
  | vector _ size | matrix _ size _ => size.1

def columns : NumberType → Int
  | scalar _ | vector _ _ => -1
  | matrix _ _ width => width.1

def name : NumberType → String
  | scalar component => component.name
  | vector component size => Catalogue.vectorName component.name size.1
  | matrix component height width => Catalogue.matrixName component.name height.1 width.1

def port (type : NumberType) : PortType := .mk type.name none

end NumberType

/-! ## Names -/

/-- A type name with a small letter is no shorthand. -/
def hasSmallLetter (name : String) : Bool :=
  name.toList.any fun letter => letter.isLower && letter != 'x'

theorem hasSmallLetter_shorthand : ∀ entry ∈ Catalogue.shorthands,
    hasSmallLetter entry.1 = false := by
  decide +kernel

theorem expand?_small {name : String} (small : hasSmallLetter name = true) :
    (Catalogue.expand? name).getD name = name := by
  have missing : Catalogue.shorthands.lookup name = none := by
    rw [lookup_eq_none_iff]
    intro entry member
    rw [bne_iff_ne]
    rintro rfl
    simp [hasSmallLetter_shorthand entry member] at small
  unfold Catalogue.expand?
  rw [missing]
  dsimp only
  split <;> rfl

/-- The name stands for a listed type, in no array. -/
structure Listed (name : String) : Prop where
  small : hasSmallLetter name = true
  noOpening : '<' ∉ name.toList
  noClosing : '>' ∉ name.toList
  known : Catalogue.isTypeName name = true

@[simp] theorem arrayName_zero (name : String) : arrayName 0 name = name := by
  simp [arrayName, Text.repeated]

theorem occurrences_repeated (mark : Char) (count : Nat) (text : String) :
    Text.occurrences mark (Text.repeated count text) = count * Text.occurrences mark text := by
  induction count with
  | zero => simp [Text.occurrences, Text.repeated]
  | succ _ ih =>
    simp only [Text.occurrences, Text.repeated, replicate_succ, String.join_cons,
      String.toList_append, count_append] at ih ⊢
    rw [ih, Nat.succ_mul, Nat.add_comm]

namespace Listed

variable {name : String} (listed : Listed name) (levels : Nat)

include listed

theorem ne (large : hasSmallLetter other = false) : name ≠ other := by
  rintro rfl
  rw [listed.small] at large
  cases large

theorem innerName : PortType.innerName (arrayName levels name) = name := by
  rw [PortType.innerName]
  cases levels with
  | zero =>
    have last : Text.afterLast "<" name = name := by
      rw [Text.afterLast, show "<".toList = ['<'] from rfl, Text.splitLast_eq_none listed.noOpening]
    rw [arrayName_zero, last, Text.before, show ">".toList = ['>'] from rfl,
      Text.splitFirst_eq_none listed.noClosing]
  | succ levels =>
    have opening : Text.repeated (levels + 1) "array<" =
        Text.repeated levels "array<" ++ "array" ++ String.singleton '<' := by
      simp [Text.repeated, replicate_succ', String.append_assoc]
    have closing : Text.repeated (levels + 1) ">" = String.singleton '>' ++
      Text.repeated levels ">" := by
      simp [Text.repeated, replicate_succ]
    have absent : '<' ∉ (name ++ Text.repeated (levels + 1) ">").toList := by
      have none := count_eq_zero.mp (occurrences_repeated '<' (levels + 1) ">")
      rw [String.toList_append, mem_append, not_or]
      exact ⟨listed.noOpening, none⟩
    have last : Text.afterLast "<" (arrayName (levels + 1) name) =
        name ++ Text.repeated (levels + 1) ">" := by
      rw [arrayName, opening, String.append_assoc]
      exact Text.afterLast_letter absent _
    rw [last, closing, ← String.append_assoc]
    exact Text.before_letter listed.noClosing _

/-- The opening and the closing brackets of an array are as many as its levels. -/
theorem occurrences : Text.occurrences '<' (arrayName levels name) = levels ∧
    Text.occurrences '>' (arrayName levels name) = levels := by
  have opening : Text.occurrences '<' name = 0 := count_eq_zero.mpr listed.noOpening
  have closing : Text.occurrences '>' name = 0 := count_eq_zero.mpr listed.noClosing
  have split (mark : Char) : Text.occurrences mark (arrayName levels name) =
      levels * Text.occurrences mark "array<" + Text.occurrences mark name +
        levels * Text.occurrences mark ">" := by
    rw [← occurrences_repeated, ← occurrences_repeated]
    simp [arrayName, Text.occurrences, Nat.add_assoc]
  rw [split, split, opening, closing]
  exact ⟨Nat.mul_one levels, (Nat.zero_add _).trans (Nat.mul_one levels)⟩

theorem isArray : (PortType.mk (arrayName levels name) none).isArray = (levels != 0) := by
  cases levels with
  | zero =>
    rw [arrayName_zero]
    refine eq_false_of_ne_true fun array => listed.noOpening ?_
    exact (List.isPrefixOf_iff_prefix.mp array).subset (by decide)
  | succ => simp [PortType.isArray, Text.startsWith, arrayName, Text.repeated, replicate_succ]

theorem ne_nodeName : arrayName levels name ≠ nodeName := by
  intro same
  have inner := listed.innerName levels
  rw [same] at inner
  exact listed.ne (by decide) inner.symm

variable {levels}

theorem make (few : levels ≤ 3) (ports : Option (List (String × PortType))) :
    PortType.make (arrayName levels name) ports = .ok (.mk (arrayName levels name) ports) := by
  have large : ∀ other ∈ wildcards, hasSmallLetter other = false := by decide
  have tame : wildcards.contains name = false :=
    eq_false_of_ne_true fun wild => listed.ne (large name (contains_iff_mem.mp wild)) rfl
  have settled : settledName (arrayName levels name) = name := by
    simp only [settledName, listed.innerName, expand?_small listed.small, tame]
    rfl
  have closing := (listed.occurrences levels).2
  simp [PortType.make, settled, listed.known, closing, Nat.not_lt.mpr few, listed.ne_nodeName]

theorem typeInArrays (few : levels ≤ 3) :
    Typing.typeInArrays levels name = .ok (.mk (arrayName levels name) none) :=
  listed.make few none

theorem make_flat (ports : Option (List (String × PortType))) :
    PortType.make name ports = .ok (.mk name ports) := by
  simpa using listed.make (Nat.zero_le 3) ports

theorem elementType : (PortType.mk (arrayName levels name) none).elementType =
    .ok (.mk name none) := by
  rw [PortType.elementType, listed.isArray]
  cases levels with
  | zero => simp
  | succ => simp [baseType, listed.isArray, listed.innerName, listed.make_flat]

end Listed

theorem isTypeName_of_mem (member : entry ∈ Catalogue.types) :
    Catalogue.isTypeName entry.1 = true := by
  have found : (Catalogue.types.lookup entry.1).isSome := by
    rw [lookup_isSome_iff]
    exact ⟨entry, member, beq_self_eq_true _⟩
  rw [Catalogue.isTypeName, Catalogue.members?, found, Bool.true_or]

theorem mem_types_of_shaped (known : component ∈ Catalogue.componentNames)
    (member : entry ∈ Catalogue.shapedTypes component) : entry ∈ Catalogue.types := by
  rw [← takeWhile_append_dropWhile (p := (· != "short")) (l := Catalogue.componentNames),
    mem_append] at known
  simp only [Catalogue.types, mem_append, mem_flatMap]
  rcases known with front | back
  · exact .inl (.inl (.inl (.inr ⟨component, front, member⟩)))
  · exact .inl (.inr ⟨component, back, member⟩)

theorem listed_scalar (scalar : Scalar) : Listed scalar.name where
  small := by decide +revert
  noOpening := by decide +revert
  noClosing := by decide +revert
  known := by
    have member : Catalogue.plain scalar.name ∈ Catalogue.types :=
      mem_append_right _ (mem_map_of_mem (by decide +revert))
    exact isTypeName_of_mem member

namespace NumberType

/-- The sizes at the end of the name of a vector or matrix. -/
def sizeText : NumberType → String
  | scalar _ => ""
  | vector _ size => toString size.1
  | matrix _ height width => toString height.1 ++ ("x" ++ toString width.1)

def isScalar : NumberType → Bool
  | scalar _ => true
  | _ => false

variable {type : NumberType}

theorem name_shaped (shaped : type.isScalar = false) :
    type.name = "Math::" ++ (type.component.name ++ type.sizeText) := by
  cases type with
  | scalar => cases shaped
  | vector => simp [name, sizeText, component, Catalogue.vectorName, String.append_assoc]
  | matrix => simp [name, sizeText, component, Catalogue.matrixName, String.append_assoc]

theorem not_mem_sizeText : ∀ mark ∈ ['<', '>', ':'], mark ∉ type.sizeText.toList := by
  simp only [mem_cons, not_mem_nil, or_false, forall_eq_or_imp, forall_eq]
  cases type <;> simp only [sizeText] <;> decide +revert

theorem isTypeName (type : NumberType) : Catalogue.isTypeName type.name = true := by
  have component : ∀ scalar : Scalar, scalar.name ∈ Catalogue.componentNames := by decide
  cases type with
  | scalar component => exact (listed_scalar component).known
  | vector scalar size =>
    have member : (Catalogue.vectorName scalar.name size.1,
        Catalogue.vectorMembers scalar.name size.1) ∈ Catalogue.shapedTypes scalar.name :=
      mem_flatMap.mpr ⟨size.1, size.2, mem_cons_self ..⟩
    exact isTypeName_of_mem (mem_types_of_shaped (component scalar) member)
  | matrix scalar height width =>
    have member : (Catalogue.matrixName scalar.name height.1 width.1,
        Catalogue.matrixMembers scalar.name height.1 width.1) ∈ Catalogue.shapedTypes scalar.name :=
      mem_flatMap.mpr ⟨height.1, height.2,
        mem_cons_of_mem _ (mem_map.mpr ⟨width.1, width.2, rfl⟩)⟩
    exact isTypeName_of_mem (mem_types_of_shaped (component scalar) member)

theorem listed (type : NumberType) : Listed type.name := by
  have parts := listed_scalar type.component
  have apart := type.not_mem_sizeText
  cases shaped : type.isScalar with
  | true =>
    cases type with
    | scalar => exact parts
    | _ => cases shaped
  | false =>
    refine ⟨?_, ?_, ?_, type.isTypeName⟩
    all_goals rw [name_shaped shaped]
    · simp [hasSmallLetter]
    · simpa [parts.noOpening] using apart '<' (by decide)
    · simpa [parts.noClosing] using apart '>' (by decide)

end NumberType

/-! ## Shapes -/

/-- The end of a name says that a type has these rows and columns. -/
def EndsAs (name : String) (rows columns : Int) : Prop :=
  (PortType.mk name none).isMatrix = .ok (columns != -1) ∧
    (PortType.mk name none).isVector = .ok (rows != -1 && columns == -1) ∧
    (PortType.mk name none).matrixDim = .ok (if columns = -1 then (-1, -1) else (rows, columns)) ∧
    (PortType.mk name none).vectorDim = .ok (if columns = -1 then rows else -1)

instance (name : String) (rows columns : Int) : Decidable (EndsAs name rows columns) :=
  inferInstanceAs (Decidable (_ ∧ _ ∧ _ ∧ _))

theorem EndsAs.append (long : 3 ≤ back.toList.length) (ends : EndsAs back rows columns) :
    EndsAs (front ++ back) rows columns := by
  have near : ∀ distance ≤ 3, Text.fromEnd distance (front ++ back) = Text.fromEnd distance back :=
    fun _ close => Text.fromEnd_append _ _ (close.trans long)
  simpa only [EndsAs, isMatrix, isVector, matrixDim, vectorDim, name_mk, near _ (Nat.le_refl 3),
    near 2 (by decide), near 1 (by decide)] using ends

theorem afterLast_math (plain : ':' ∉ rest.toList) :
    Text.afterLast "::" ("Math::" ++ rest) = rest := by
  have none : Text.splitLast [':', ':'] rest.toList = none := Text.splitLast_eq_none plain
  have single : ¬ [':'] <+: rest.toList := fun starts => plain (starts.subset (by decide))
  simp [Text.afterLast, Text.splitLast, none, single]

namespace NumberType

theorem endsAs (type : NumberType) : EndsAs type.name type.rows type.columns := by
  cases type with
  | scalar component =>
    exact (by decide +kernel : ∀ scalar : Scalar, EndsAs scalar.name (-1) (-1)) component
  | vector component size =>
    rw [name_shaped rfl]
    have tail : 3 ≤ (component.name ++ toString size.1).toList.length ∧
        EndsAs (component.name ++ toString size.1) size.1 (-1) := by
      decide +kernel +revert
    exact tail.2.append tail.1
  | matrix _ height width =>
    rw [name_shaped rfl, ← String.append_assoc]
    have tail : 3 ≤ (toString height.1 ++ ("x" ++ toString width.1)).toList.length ∧
        EndsAs (toString height.1 ++ ("x" ++ toString width.1)) height.1 width.1 := by
      decide +kernel +revert
    exact tail.2.append tail.1

/-! ## Components -/

variable (type : NumberType)

theorem isArray_port : type.port.isArray = false := by
  simpa [port] using type.listed.isArray 0

theorem arrayDim_port : type.port.arrayDim = 0 := by
  simpa [port, arrayDim] using (type.listed.occurrences 0).1

theorem isNode_port : type.port.isNode = false := by
  simpa [port, isNode] using type.listed.ne_nodeName 0

theorem length_sizeText : type.sizeText.toList.length =
    if type.isScalar then 0 else if type.columns = -1 then 1 else 3 := by
  cases type <;> simp only [sizeText, columns] <;> decide +revert

theorem baseType_port : type.port.baseType = .ok (.mk type.component.name none) := by
  obtain ⟨isMatrix, isVector, -, -⟩ := type.endsAs
  have made := (listed_scalar type.component).make_flat none
  have inner : type.isScalar = false →
      Text.dropEnd type.sizeText.toList.length (Text.afterLast "::" type.name) =
        type.component.name := by
    intro shaped
    have component : ∀ scalar : Scalar, ':' ∉ scalar.name.toList := by decide
    have plain : ':' ∉ (type.component.name ++ type.sizeText).toList := by
      simpa [component] using type.not_mem_sizeText ':' (by decide)
    rw [name_shaped shaped, afterLast_math plain, Text.dropEnd_append]
  rw [length_sizeText] at inner
  rw [PortType.baseType, isArray_port]
  simp only [port, isMatrix, isVector, name_mk, ports_mk]
  rw [← made]
  cases type with
  | scalar => simp [rows, columns, bind, Except.bind, name, component]
  | vector => simp [rows, columns, isScalar, bind, Except.bind, ← inner rfl]
  | matrix component height width =>
    have wide : (matrix component height width).columns ≠ -1 := by simp [columns]
    rw [if_neg wide] at inner
    simp [isScalar, bind, Except.bind, wide, ← inner rfl]

theorem baseAmong_port (names : List String) :
    type.port.baseAmong names = .ok (names.contains type.component.name) := by
  rw [baseAmong, baseType_port]
  rfl

theorem isFraction_port : type.port.isFraction = .ok type.component.isFraction := by
  rw [PortType.isFraction, baseAmong_port]
  cases type.component <;> rfl

theorem isUnsigned_port : type.port.isUnsigned = .ok type.component.isUnsigned := by
  rw [PortType.isUnsigned, baseAmong_port]
  cases type.component <;> rfl

theorem isBig_port : type.port.isBig = .ok (type.component.bytes == 8) := by
  rw [PortType.isBig, baseAmong_port]
  cases type.component <;> rfl

theorem isBool_port : type.port.isBool = .ok (type.component == .bool) := by
  rw [PortType.isBool, baseAmong_port]
  cases type.component <;> rfl

theorem isNumeric_port : type.port.isNumeric = .ok true := by
  simp only [PortType.isNumeric, isBool, isInteger, PortType.isFraction, baseAmong_port]
  rw [isArray_port]
  cases type.component <;> rfl

/-- The bytes that count for the size of a number.  Those of a vector or matrix are not known,
unless it has truth values or components of eight bytes. -/
def bytes : Int :=
  if type.isScalar || type.component == .bool || type.component.bytes == 8 then type.component.bytes
  else -1

theorem numericSize_port : type.port.numericSize = .ok type.bytes := by
  rw [numericSize, isBool_port, isBig_port, bytes]
  cases shaped : type.isScalar with
  | true =>
    cases type with
    | scalar component => cases component <;> rfl
    | _ => cases shaped
  | false =>
    have long : ∀ names : List String, (∀ name ∈ names, name.toList.head? ≠ some 'M') →
        names.contains type.port.name = false := by
      intro _ small
      refine eq_false_of_ne_true fun found => small _ (contains_iff_mem.mp found) ?_
      rw [port, name_mk, name_shaped shaped]
      simp
    rw [long _ (by decide), long _ (by decide), long _ (by decide)]
    cases type.component <;> rfl

/-! ## Promotion -/

theorem isShapeless_port : type.port.isShapeless = .ok type.isScalar := by
  obtain ⟨isMatrix, isVector, -, -⟩ := type.endsAs
  rw [isShapeless, port, isVector, isMatrix]
  cases type <;> simp [rows, columns, isScalar, bind, Except.bind, pure, Except.pure]

theorem extent_port : type.port.extent = .ok (type.rows, type.columns) := by
  obtain ⟨isMatrix, isVector, matrixDim, vectorDim⟩ := type.endsAs
  rw [extent, port, isVector, isMatrix, matrixDim, vectorDim]
  cases type <;> simp [rows, columns, bind, Except.bind, pure, Except.pure]

theorem componentType_port : type.port.componentType = .ok (scalar type.component).port := by
  obtain ⟨isMatrix, isVector, -, -⟩ := type.endsAs
  have base : (PortType.mk type.name none).baseType = .ok (.mk type.component.name none) :=
    type.baseType_port
  rw [componentType, port, isVector, isMatrix, base]
  cases type <;> simp [rows, columns, bind, Except.bind, pure, Except.pure, port, name, component]

end NumberType

namespace Scalar

/-- Whether a value of one scalar type can go to another without loss. -/
def fits (value target : Scalar) : Bool :=
  if target.isFraction then value.bytes ≤ target.bytes
  else !value.isFraction && (value.bytes < target.bytes ||
    value.bytes == target.bytes && (target.isUnsigned || !value.isUnsigned))

end Scalar

open NumberType

theorem scalarFindings_port (target value : Scalar) :
    ∃ findings, scalarFindings (scalar target).port (scalar value).port = .ok findings ∧
      findings.allowPromotion = value.fits target := by
  simp only [scalarFindings, isFraction_port, numericSize_port, isUnsigned_port, component]
  cases target <;> cases value <;> exact ⟨_, rfl, rfl⟩

namespace NumberType

theorem isScalar_iff {type : NumberType} : type.isScalar ↔ type.rows = -1 := by
  cases type <;> simp [isScalar, rows]

theorem promotable_port {value target : NumberType} : promotable value.port target.port = .ok true ↔
    value.name = target.name ∨ value.rows ≤ target.rows ∧ value.columns ≤ target.columns ∧
      value.component.fits target.component := by
  have same : (value.port == target.port) = true ↔ value.name = target.name :=
    beq_iff_eq (α := String)
  obtain ⟨_, found, allows⟩ := scalarFindings_port target.component value.component
  have flattens : value.rows ≤ target.rows → target.isScalar → value.isScalar := by
    have least : -1 ≤ value.rows := by cases value <;> simp [rows]
    simp only [isScalar_iff]
    omega
  have shape : Allows (numericFindings target.port value.port) ↔ value.rows ≤ target.rows ∧
      value.columns ≤ target.columns ∧ value.component.fits target.component := by
    rw [allows_numeric_iff, Extends]
    simpa [isShapeless_port, extent_port, componentType_port, Allows, found, allows,
      and_assoc] using fun rows _ _ => flattens rows
  rw [promotable_iff, same, elementType, isArray_port, elementType, isArray_port, arrayDim_port,
    arrayDim_port]
  simp [Converts, same, isNumeric_port, shape]

end NumberType

/-! ## Joins -/

namespace Scalar

/-- A truth value counts as a whole number of one byte. -/
def number : Scalar → Scalar
  | bool => char
  | other => other

/-- The scalar type of an arithmetic result. -/
def join (left right : Scalar) : Scalar :=
  if left.isFraction || right.isFraction then
    if left.fits float && right.fits float then float else double
  else if left.fits right then right.number
  else left.number

end Scalar

namespace NumberType

/-- The size of the type is known, or does not matter. -/
def isSized (type : NumberType) : Bool :=
  type.component.isFraction || type.bytes == type.component.bytes

theorem joinScalar_port {left right : NumberType} (leftSized : left.isSized)
    (rightSized : right.isSized) :
    ∃ sign scalar, joinScalar false left.port right.port = .ok (sign, scalar) ∧
      sign ++ scalar = (left.component.join right.component).name := by
  have whole (type : NumberType) (sized : type.isSized)
      (isWhole : type.component.isFraction = false) : type.bytes = type.component.bytes := by
    simpa [isSized, isWhole] using sized
  simp only [joinScalar, unsignedWins, isFraction_port, isBig_port, isUnsigned_port,
    numericSize_port, ok_bind]
  cases isLeft : left.component.isFraction <;> cases isRight : right.component.isFraction
  case' false.false => rw [whole left leftSized isLeft, whole right rightSized isRight]
  -- with a fraction the sizes are not looked at
  all_goals
    generalize left.component = first at isLeft ⊢
    generalize right.component = second at isRight ⊢
    cases first <;> cases isLeft <;> cases second <;> cases isRight <;> exact ⟨_, _, rfl, rfl⟩

theorem exists_shape (component : Scalar) (left right : NumberType) :
    ∃ type : NumberType, type.component = component ∧ type.rows = max left.rows right.rows ∧
      type.columns = max left.columns right.columns := by
  have larger : ∀ first second : Size, ∃ size : Size,
    (size.1 : Int) = max (first.1 : Int) second.1 := by
    decide
  have none (size : Size) : max (-1 : Int) size.1 = size.1 ∧ max (size.1 : Int)
    (-1) = size.1 := by omega
  rcases left with _ | ⟨_, size⟩ | ⟨_, height, width⟩ <;>
    rcases right with _ | ⟨_, size'⟩ | ⟨_, height', width'⟩ <;>
    simp only [rows, columns, none, max_self]
  · exact ⟨.scalar component, rfl, rfl, rfl⟩
  · exact ⟨.vector component _, rfl, rfl, rfl⟩
  · exact ⟨.matrix component _ _, rfl, rfl, rfl⟩
  · exact ⟨.vector component _, rfl, rfl, rfl⟩
  · obtain ⟨size, same⟩ := larger size size'
    exact ⟨.vector component size, rfl, same, rfl⟩
  · obtain ⟨size, same⟩ := larger size height'
    exact ⟨.matrix component size _, rfl, same, rfl⟩
  · exact ⟨.matrix component _ _, rfl, rfl, rfl⟩
  · obtain ⟨size, same⟩ := larger height size'
    exact ⟨.matrix component size _, rfl, same, rfl⟩
  · obtain ⟨size, same⟩ := larger height height'
    obtain ⟨other, sameToo⟩ := larger width width'
    exact ⟨.matrix component size other, rfl, same, sameToo⟩

theorem name_eq (type : NumberType) :
    type.name = if type.columns ≠ -1 then s!"Math::{type.component.name}{type.rows}x{type.columns}"
      else if type.rows ≠ -1 then s!"Math::{type.component.name}{type.rows}"
      else type.component.name := by
  cases type with
  | scalar | vector => rfl
  | matrix =>
    rw [if_pos (by simp [columns])]
    rfl

/-- The join of two sized types has the larger shape and the joined component. -/
theorem join_port {left right : NumberType} (leftSized : left.isSized)
    (rightSized : right.isSized) :
    ∃ type : NumberType, join false left.port right.port = .ok type.port ∧
      type.component = left.component.join right.component ∧
      type.rows = max left.rows right.rows ∧ type.columns = max left.columns right.columns := by
  obtain ⟨_, _, joined, spelled⟩ := joinScalar_port leftSized rightSized
  obtain ⟨type, component, rows, columns⟩ :=
    exists_shape (left.component.join right.component) left right
  refine ⟨type, ?_, component, rows, columns⟩
  obtain ⟨leftMatrix, leftVector, leftExtent, leftSize⟩ := left.endsAs
  obtain ⟨rightMatrix, rightVector, rightExtent, rightSize⟩ := right.endsAs
  have named : joinName false left.port right.port = .ok type.name := by
    simp only [port] at joined
    simp only [joinName, joined, port, leftMatrix, rightMatrix, leftExtent, rightExtent, leftVector,
      rightVector, leftSize, rightSize, ok_bind]
    rw [type.name_eq, component, ← spelled, rows, columns]
    have plain (text : String) : toString text = text := rfl
    have positive (first second : Nat) : ¬ max (first : Int) second = -1 := by omega
    cases left <;> cases right <;>
      simp [NumberType.rows, NumberType.columns, pure, Except.pure, plain, positive,
        String.append_assoc, max_comm]
  rw [PortType.join, named, ok_bind]
  exact type.listed.make_flat none

end NumberType

end GraphScript.Typing
