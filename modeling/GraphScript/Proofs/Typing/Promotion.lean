import GraphScript.PortType.Join
import GraphScript.Proofs.Actions
import Mathlib.Data.List.Chain

/-!
# Promotion composes

Promotion asks a type for its array levels, its shape and its component, and the component for a
size and a sign.  On these answers it compares numbers, so that a value that can be promoted in
steps can be promoted at once, whatever the types in between are.
-/

namespace GraphScript.Typing

open PortType

variable {value target : PortType} {findings : Findings}

@[simp] theorem ok_bind (value : α) (next : α → Except Fault β) :
    ((Except.ok value : Except Fault α) >>= next) = next value := rfl

/-- The findings can be had, and allow a promotion. -/
def Allows (comparison : Except Fault Findings) : Prop :=
  ∃ findings, comparison = .ok findings ∧ findings.allowPromotion = true

@[simp] theorem allows_pure : Allows (pure findings) ↔ findings.allowPromotion = true := by
  simp [Allows, pure, Except.pure]

@[simp] theorem allows_bind :
    Allows (action >>= next) ↔ ∃ answer, action = .ok answer ∧ Allows (next answer) := by
  cases action <;> simp [Allows, bind, Except.bind]

@[simp] theorem allows_ite [Decidable condition] :
    Allows (if condition then first else second) ↔ if condition then Allows first
      else Allows second := by
  split <;> rfl

@[simp] theorem allowPromotion_union (left right : Findings) :
    (left.union right).allowPromotion = (left.allowPromotion && right.allowPromotion) := by
  simp only [Findings.allowPromotion, Findings.union]
  grind

@[simp] theorem allows_union :
    Allows (findings.union <$> comparison) ↔ findings.allowPromotion ∧ Allows comparison := by
  cases comparison <;> simp [Allows, Functor.map, Except.map]

/-! ## Components -/

/-- What promotion asks of a component. -/
structure Grade where
  fraction : Bool
  size : Int
  unsigned : Bool

namespace Grade

def of (type : PortType) : Except Fault Grade := do
  return ⟨← type.isFraction, ← type.numericSize, ← type.isUnsigned⟩

def Fits (value target : Grade) : Prop :=
  if target.fraction then value.size ≤ target.size
  else value.fraction = false ∧ (value.size < target.size ∨
    value.size = target.size ∧ (target.unsigned ∨ value.unsigned = false))

theorem Fits.trans {value middle target : Grade} (below : value.Fits middle)
    (above : middle.Fits target) : value.Fits target := by
  unfold Fits at *
  grind

theorem of_eq_ok {grade : Grade} : of value = .ok grade ↔ value.isFraction = .ok grade.fraction ∧
    value.numericSize = .ok grade.size ∧ value.isUnsigned = .ok grade.unsigned := by
  cases grade
  simp only [of, Act.bind_eq_ok, pure, Except.pure, Except.ok.injEq, mk.injEq]
  grind

/-- A type with a base answers every question. -/
theorem exists_of (known : value.baseType = .ok base) : ∃ grade, of value = .ok grade := by
  have among (names : List String) : value.baseAmong names = .ok (names.contains base.name) := by
    rw [baseAmong, known]
    rfl
  simp only [of, isFraction, isUnsigned, numericSize, isBool, isBig, among, ok_bind]
  repeat' split
  all_goals exact ⟨_, rfl⟩

end Grade

theorem allows_scalar_iff : Allows (scalarFindings target value) ↔
    ∃ first second, Grade.of value = .ok first ∧ Grade.of target = .ok second ∧
      first.Fits second := by
  have unanswered {type : PortType} {fault : Fault} (known : type.baseType = .error fault) :
      type.isFraction = .error fault ∧ type.numericSize = .error fault := by
    simp [isFraction, numericSize, isBool, baseAmong, known, bind, Except.bind]
  rw [scalarFindings]
  rcases known : target.baseType with _ | base
  · simp [unanswered known, Grade.of_eq_ok]
  obtain ⟨_, isSecond⟩ := Grade.exists_of known
  rcases known : value.baseType with _ | _
  · simp [unanswered known, Grade.of_eq_ok]
  obtain ⟨_, isFirst⟩ := Grade.exists_of known
  simp only [isFirst, isSecond, Except.ok.injEq, exists_and_left, exists_eq_left', Grade.Fits]
  rw [Grade.of_eq_ok] at isFirst isSecond
  simp only [isFirst, isSecond, ok_bind]
  repeat' split
  all_goals simp [Findings.allowPromotion]
  all_goals grind

/-! ## Shapes -/

/-- The shape of a value fits into that of a target, and its component can be promoted. -/
def Extends (value target : PortType) : Prop :=
  ∃ large, target.extent = .ok large ∧ ∃ small, value.extent = .ok small ∧
    ∃ second, target.componentType = .ok second ∧ ∃ first, value.componentType = .ok first ∧
      (small.1 ≤ large.1 ∧ small.2 ≤ large.2) ∧ Allows (scalarFindings second first)

theorem Extends.trans (below : Extends value middle) (above : Extends middle target) :
    Extends value target := by
  simp only [Extends, allows_scalar_iff] at *
  grind [Grade.Fits.trans]

theorem allowPromotion_extentFindings (target value : Int × Int) :
    (extentFindings target value).allowPromotion = (value.1 ≤ target.1 && value.2 ≤ target.2) := by
  rw [extentFindings]
  split
  · rename_i same
    simp [beq_iff_eq.mp same, Findings.allowPromotion]
  · split <;> rename_i fits <;> simpa [Findings.allowPromotion] using fits

theorem allows_numeric_iff : Allows (numericFindings target value) ↔
    (∃ flat, target.isShapeless = .ok flat ∧ (flat = true → value.isShapeless = .ok true)) ∧
      Extends value target := by
  have shape {type : PortType} : type.isShapeless = .ok true →
      type.extent = .ok (-1, -1) ∧ type.componentType = .ok type := by
    rw [isShapeless, extent, componentType]
    rcases type.isVector with _ | _ | _ <;> rcases type.isMatrix with _ | _ | _ <;>
      simp [bind, Except.bind, pure, Except.pure]
  rw [numericFindings]
  rcases isTarget : target.isShapeless with _ | _ | _
  · simp
  · simp [Extends, allowPromotion_extentFindings]
  · rcases isValue : value.isShapeless with _ | _ | _
    · simp
    · simp [Findings.allowPromotion]
    · simp [Extends, shape isTarget, shape isValue]

/-! ## Types -/

/-- One element is another, or a number that can be promoted to it. -/
def Converts (value target : PortType) : Prop :=
  (value == target) = true ∨
    value.isNumeric = .ok true ∧ target.isNumeric = .ok true ∧ Allows (numericFindings target value)

theorem promotable_iff : promotable value target = .ok true ↔ (value == target) = true ∨
    value.arrayDim = target.arrayDim ∧ ∃ first, value.elementType = .ok first ∧
      ∃ second, target.elementType = .ok second ∧ Converts first second := by
  have allows : promotable value target = .ok true ↔ Allows (target.compare value) := by
    simp [promotable, Allows, Act.bind_eq_ok, pure, Except.pure]
  have levelled : ({ arrayMismatch := value.arrayDim != target.arrayDim } :
      Findings).allowPromotion = (value.arrayDim == target.arrayDim) := by
    simp [Findings.allowPromotion, bne]
  have refused : ({ incompatible := true } : Findings).allowPromotion = false := rfl
  have clean : ({} : Findings).allowPromotion = true := rfl
  rw [allows, PortType.compare]
  simp only [bind_pure_comp, allows_ite, allows_bind, allows_union, allows_pure,
    allowPromotion_union, levelled, refused, clean, Converts]
  grind

theorem eq_mk_of_make {name : String} {ports : Option (List (String × PortType))}
    (made : make name ports = .ok value) : value = .mk name ports := by
  unfold make at made
  dsimp only at made
  repeat' split at made
  all_goals cases made
  rfl

/-- Types with the same name and the same ports are the same. -/
theorem eq_of_beq_of_ports (same : (value == target) = true) (ports : value.ports = target.ports) :
    value = target := by
  cases value
  cases target
  exact congrArg₂ mk (beq_iff_eq.mp same) ports

theorem ports_of_elementType {element : PortType} (isElement : value.elementType = .ok element) :
    element.ports = value.ports := by
  unfold elementType baseType at isElement
  split at isElement
  · rw [eq_mk_of_make isElement, ports_mk]
  · cases isElement
    rfl

theorem Converts.trans (low : value.ports = middle.ports) (high : middle.ports = target.ports)
    (below : Converts value middle) (above : Converts middle target) : Converts value target := by
  rcases below with same | ⟨number, _, below⟩
  · rwa [eq_of_beq_of_ports same low]
  rcases above with same | ⟨_, isNumber, above⟩
  · rw [← eq_of_beq_of_ports same high]
    exact .inr ⟨number, ‹_›, below⟩
  · refine .inr ⟨number, isNumber, ?_⟩
    rw [allows_numeric_iff] at *
    have shapes := below.2.trans above.2
    grind

theorem promotable_trans (low : value.ports = middle.ports) (high : middle.ports = target.ports)
    (below : promotable value middle = .ok true) (above : promotable middle target = .ok true) :
    promotable value target = .ok true := by
  rcases promotable_iff.mp below with same | ⟨levels, first, isFirst, _, isSecond, converts⟩
  · rwa [eq_of_beq_of_ports same low]
  rcases promotable_iff.mp above with same | ⟨levelsToo, _, isMiddle, third, isThird, convertsToo⟩
  · rwa [← eq_of_beq_of_ports same high]
  cases isSecond.symm.trans isMiddle
  rw [← ports_of_elementType isSecond] at low high
  rw [← ports_of_elementType isFirst] at low
  rw [← ports_of_elementType isThird] at high
  exact promotable_iff.mpr (.inr ⟨levels.trans levelsToo, first, isFirst, third, isThird,
    converts.trans low high convertsToo⟩)

/-- One type name can be promoted to another. -/
def Promotes (value target : String) : Prop :=
  promotable (.mk value none) (.mk target none) = .ok true

instance : DecidableRel Promotes := fun _ _ => inferInstanceAs (Decidable (_ = _))

instance : IsPreorder String Promotes where
  refl name := promotable_iff.mpr (.inl (beq_self_eq_true name))
  trans _ _ _ := promotable_trans rfl rfl

/-- Promotion composes, for all names of types in arrays or not: it is reflexive, and where each
type of a chain can be promoted to the next, the first can be promoted to the last. -/
theorem promotes_of_chain : (∀ name, Promotes name name) ∧
    ∀ (first : String) (rest : List String), (first :: rest).IsChain Promotes →
      Promotes first ((first :: rest).getLast (List.cons_ne_nil _ _)) := by
  refine ⟨refl_of Promotes, fun first rest chain => ?_⟩
  rcases List.mem_cons.mp (List.getLast_mem (List.cons_ne_nil first rest)) with same | later
  · rw [same]
    exact refl_of Promotes first
  · exact chain.rel_cons later

theorem promotes_of_chain_truths :
    ["array<bool>", "array<Math::float3>", "array<Math::double3x4>"].IsChain Promotes ∧
      Promotes "array<bool>" "array<Math::double3x4>" := by
  have chain : ["array<bool>", "array<Math::float3>", "array<Math::double3x4>"].IsChain
    Promotes := by
    decide +kernel
  exact ⟨chain, promotes_of_chain.2 _ _ chain⟩

end GraphScript.Typing
