import GraphScript.Program.Copy
import Mathlib.Tactic.Tauto
import Mathlib.Data.List.Nodup

/-!
# What a term is made of

A term owns its parts, with one exception: a port of a variable borrows the node that the variable
holds, which some assignment before it owns.  `Term.contents` collects the parts that are owned at
any depth, the nodes that are borrowed in the same body, and all numbers that can be reached.

A body is settled when every statement borrows only nodes that earlier assignments of the same body
own.
-/

namespace GraphScript.Program

open List

/-! ## Headers -/

/-- The ports that a body declares. -/
structure Header where
  /-- The parameters with their types. -/
  parameters : List (String × PortType)
  /-- The results, with the parameters that they are fed back to. -/
  results : List Result

namespace Header

/-- The names of the parameters. -/
def inputs (header : Header) : List String := header.parameters.map Prod.fst

def outputs (header : Header) : List String := header.results.map Result.name

/-- Names do not repeat, and every result that is fed back has a parameter of its type for
itself. -/
structure WellFormed (header : Header) : Prop where
  inputs_nodup : header.inputs.Nodup
  outputs_nodup : header.outputs.Nodup
  /-- No result has the name of a parameter. -/
  apart : ∀ name ∈ header.outputs, name ∉ header.inputs
  /-- A result is fed back to a parameter with the same name of a type. -/
  fed : ∀ result ∈ header.results, ∀ port ∈ result.feedback,
    ∃ type, (port, type) ∈ header.parameters ∧ type.name = result.type.name
  /-- No parameter is fed by two results. -/
  fed_once : (header.results.filterMap Result.feedback).Nodup

/-- The header of a compound or function. -/
def ofScope (parameters : List Parameter) (results : List Result) : Header where
  parameters := parameters.map fun parameter => (parameter.name, parameter.type)
  results := results

def ofLoop (parameters : List LoopParameter) (results : List LoopResult) : Header where
  parameters := parameters.map fun parameter => (parameter.name, parameter.type)
  results := results.map fun result => ⟨result.name, result.type, result.state⟩

@[simp] theorem inputs_ofScope : (ofScope taken given).inputs = taken.map Parameter.name := by
  simp [inputs, ofScope]

@[simp] theorem outputs_ofScope : (ofScope taken given).outputs = given.map Result.name := rfl

@[simp] theorem inputs_ofLoop : (ofLoop taken given).inputs = taken.map LoopParameter.name := by
  simp [inputs, ofLoop]

@[simp] theorem outputs_ofLoop : (ofLoop taken given).outputs = given.map LoopResult.name := by
  simp [outputs, ofLoop]

end Header

def Form.header? : Form → Option Header
  | .scope _ parameters results _ _ => some (.ofScope parameters results)
  | .loop _ parameters results _ _ _ _ _ => some (.ofLoop parameters results)
  | _ => none

/-! ## Contents -/

/-- A part of a term that can carry a number. -/
inductive Item where
  | term (term : Term)
  | accessor (accessor : Accessor)
  | index (index : LoopIndex)
  | target (target : Target)
  | statement (statement : Statement)

namespace Item

/-- The number of a part. -/
def number? : Item → Option Nat
  | term (.mk id _) => some id
  | accessor (.index id _) => some id
  | accessor (.orDefault id _ _ _) => some id
  | accessor _ => none
  | index (.mk id _ _) => some id
  | target (.part id _ _ _ _) => some id
  | target _ => none
  | statement (.assignment id _ _ _) => some id
  | statement (.takeOver id _) => some id
  | statement _ => none

end Item

/-- The parts of something that is made of terms. -/
@[ext] structure Contents where
  /-- The parts that are owned, at any depth. -/
  items : List Item
  /-- The nodes that are borrowed, outside of the bodies within. -/
  borrowed : List Term
  /-- The numbers that are reached through borrowed nodes, also in the bodies within. -/
  lent : List Nat

namespace Contents

/-- No parts. -/
@[simps] def none : Contents := ⟨[], [], []⟩

instance : Append Contents :=
  ⟨fun first second =>
    ⟨first.items ++ second.items, first.borrowed ++ second.borrowed, first.lent ++ second.lent⟩⟩

/-- One part. -/
@[simps] def one (item : Item) : Contents := ⟨[item], [], []⟩

/-- A borrowed node that reaches some numbers. -/
@[simps] def loan (node : Term) (reach : List Nat) : Contents := ⟨[], [node], reach⟩

/-- The parts of a body as they count outside of it: what it borrows is its own affair. -/
@[simps] def enclosed (contents : Contents) : Contents := ⟨contents.items, [], contents.lent⟩

/-- The numbers of the parts that are owned. -/
def numbers (contents : Contents) : List Nat := contents.items.filterMap Item.number?

/-- The numbers of all parts, those of borrowed nodes included. -/
def reach (contents : Contents) : List Nat := contents.numbers ++ contents.lent

variable (first second contents : Contents) (item : Item) (node : Term) (reached : List Nat)
  (number : Nat)

@[simp] theorem reach_none : none.reach = [] := rfl
@[simp] theorem numbers_none : none.numbers = [] := rfl

@[simp] theorem items_append : (first ++ second).items = first.items ++ second.items := rfl
@[simp] theorem borrowed_append : (first ++ second).borrowed = first.borrowed ++
    second.borrowed := rfl
@[simp] theorem lent_append : (first ++ second).lent = first.lent ++ second.lent := rfl
@[simp] theorem numbers_append : (first ++ second).numbers = first.numbers ++ second.numbers :=
  filterMap_append

@[simp] theorem mem_reach_append :
    number ∈ (first ++ second).reach ↔ number ∈ first.reach ∨ number ∈ second.reach := by
  simp only [reach, numbers_append, lent_append, mem_append]
  tauto

theorem append_assoc (third : Contents) : first ++ second ++ third = first ++
    (second ++ third) := by
  ext1 <;> simp

@[simp] theorem append_none : contents ++ none = contents := by
  ext1 <;> simp

@[simp] theorem numbers_one : (one item).numbers = item.number?.toList := by
  cases number : item.number? <;> simp [numbers, number]
@[simp] theorem reach_one : (one item).reach = item.number?.toList := by
  simp [reach]

@[simp] theorem reach_loan : (loan node reached).reach = reached := rfl
@[simp] theorem numbers_loan : (loan node reached).numbers = [] := rfl

@[simp] theorem reach_enclosed : contents.enclosed.reach = contents.reach := rfl

theorem numbers_subset_reach {contents : Contents} {number : Nat}
    (own : number ∈ contents.numbers) : number ∈ contents.reach :=
  mem_append_left _ own

@[simp] theorem numbers_enclosed : contents.enclosed.numbers = contents.numbers := rfl

end Contents

mutual

/-- The parts of a term. -/
def Term.contents : Term → Contents
  | .mk id form => form.contents ++ .one (.term (.mk id form))

/-- The parts of a form. -/
def Form.contents : Form → Contents
  | .value _ _ => .none
  | .reference _ _ => .none
  | .vector _ _ values => termsContents values
  | .matrix _ _ columns => columnsContents columns
  | .sheet _ _ columns => columnsContents columns
  | .array _ values => termsContents values
  | .emptyArray _ count => count.contents
  | .object entries => entriesContents entries
  | .enumeration _ _ => .none
  | .not _ value => value.contents
  | .negate _ value => value.contents
  | .binary _ _ _ left right => left.contents ++ right.contents
  | .comparison _ _ operands => termsContents operands
  | .access value accessor => value.contents ++ accessor.contents
  | .port none node _ => node.contents
  | .port (some _) node _ => .loan node node.contents.reach
  | .associative _ _ arguments named _ _ => argumentsContents arguments ++ argumentsContents named
  | .native _ arguments named _ _ _ _ => argumentsContents arguments ++ argumentsContents named
  | .function _ body arguments named _ _ _ _ =>
    argumentsContents arguments ++ argumentsContents named ++ body.contents
  | .construct _ arguments named => argumentsContents arguments ++ argumentsContents named
  | .scope _ parameters _ code _ =>
    parametersContents parameters ++ (statementsContents code).enclosed
  | .loop _ parameters _ code limit index _ condition =>
    index.contents ++ optionContents limit ++ loopParametersContents parameters ++
      (statementsContents code ++ optionContents condition).enclosed

/-- The parts of several terms. -/
def termsContents : List Term → Contents
  | [] => .none
  | term :: rest => term.contents ++ termsContents rest

/-- The parts of the columns of a matrix. -/
def columnsContents : List (List Term) → Contents
  | [] => .none
  | column :: rest => termsContents column ++ columnsContents rest

/-- The parts of a term that may be missing. -/
def optionContents : Option Term → Contents
  | none => .none
  | some term => term.contents

/-- The parts of the entries of an object. -/
def entriesContents : List Entry → Contents
  | [] => .none
  | .mk key value :: rest => key.contents ++ value.contents ++ entriesContents rest

/-- The parts of an accessor. -/
def Accessor.contents : Accessor → Contents
  | .index id value => value.contents ++ .one (.accessor (.index id value))
  | .slice start stop step => optionContents start ++ optionContents stop ++ optionContents step
  | .orDefault id key type default =>
    key.contents ++ optionContents default ++ .one (.accessor (.orDefault id key type default))
  | .member _ => .none

/-- The parts of arguments. -/
def argumentsContents : List Argument → Contents
  | [] => .none
  | .mk _ value :: rest => value.contents ++ argumentsContents rest

/-- The parts of parameters. -/
def parametersContents : List Parameter → Contents
  | [] => .none
  | .mk _ _ default :: rest => optionContents default ++ parametersContents rest

def loopParametersContents : List LoopParameter → Contents
  | [] => .none
  | .mk _ _ default _ :: rest => optionContents default ++ loopParametersContents rest

def LoopIndex.contents : LoopIndex → Contents
  | .mk id name start => start.contents ++ .one (.index (.mk id name start))

/-- The parts of a target. -/
def Target.contents : Target → Contents
  | .ignored => .none
  | .declared _ _ => .none
  | .reference _ _ => .none
  | .part id kind base accessor type =>
    base.contents ++ accessor.contents ++ .one (.target (.part id kind base accessor type))

/-- The parts of targets. -/
def targetsContents : List Target → Contents
  | [] => .none
  | target :: rest => target.contents ++ targetsContents rest

/-- The parts of a statement. -/
def Statement.contents : Statement → Contents
  | .empty => .one (.statement .empty)
  | .make term => term.contents
  | .assignment id targets operator value =>
    value.contents ++ targetsContents targets ++
      .one (.statement (.assignment id targets operator value))
  | .takeOver id node => node.contents ++ .one (.statement (.takeOver id node))

/-- The parts of statements. -/
def statementsContents : List Statement → Contents
  | [] => .none
  | statement :: rest => statement.contents ++ statementsContents rest

end

/-! ## Sound parts -/

/-- The node that a statement assigns, which later statements can borrow. -/
def Statement.assigned : Statement → List Term
  | .assignment _ _ _ value => if value.form.makesNode then [value] else []
  | _ => []

theorem Statement.of_mem_assigned {statement : Statement} (assigned : node ∈ statement.assigned) :
    (∃ id targets operator, statement = .assignment id targets operator node) ∧
      node.form.makesNode := by
  cases statement with
  | assignment id targets operator =>
    simp only [Statement.assigned] at assigned
    split at assigned
    · next makesNode =>
        obtain rfl := mem_singleton.mp assigned
        exact ⟨⟨id, targets, operator, rfl⟩, makesNode⟩
    · exact (not_mem_nil assigned).elim
  | empty | make | takeOver => exact (not_mem_nil assigned).elim

def assignedIn (code : List Statement) : List Term := code.flatMap Statement.assigned

/-- Every statement borrows only known nodes and those that statements before it assign. -/
def Settled (known : List Term) : List Statement → Prop
  | [] => True
  | statement :: rest =>
    (∀ node ∈ statement.contents.borrowed, node ∈ known) ∧
      Settled (known ++ statement.assigned) rest

/-- Whether a form is that of a compound or function body. -/
def Form.isScope : Form → Bool
  | .scope .. => true
  | _ => false

/-- A text has the type of texts. -/
def Literal.Fits (type : PortType) : Literal → Prop
  | .text _ => type.name = "string"
  | _ => True

/-- What elaboration makes sure of for every part of a program. -/
def Item.Sound : Item → Prop
  | .term (.mk _ (.value literal type)) => literal.Fits type
  | .term (.mk _ (.port _ node _)) => node.form.makesNode
  | .term (.mk _ (.function _ body _ _ _ _ _ _)) => body.form.isScope
  | .term (.mk _ (.scope _ parameters results code _)) =>
    (Header.ofScope parameters results).WellFormed ∧ Settled [] code
  | .term (.mk _ (.loop _ parameters results code _ _ _ condition)) =>
    (Header.ofLoop parameters results).WellFormed ∧ Settled [] code ∧
      ∀ node ∈ (optionContents condition).borrowed, node ∈ assignedIn code
  | _ => True

/-- All parts are sound. -/
def Contents.Sound (contents : Contents) : Prop := ∀ item ∈ contents.items, item.Sound

/-- All parts are sound, and no two have the same number. -/
structure Contents.Orderly (contents : Contents) : Prop where
  nodup : contents.numbers.Nodup
  sound : contents.Sound

/-- A compound that stands on its own: it borrows nothing, and its parts are orderly. -/
structure Term.Whole (term : Term) : Prop where
  orderly : term.contents.Orderly
  closed : term.contents.borrowed = []
  isScope : term.form.isScope

namespace Contents

variable {first contents : Contents}

@[simp] theorem sound_none : none.Sound := by
  simp [Sound]

@[simp] theorem sound_append : (first ++ second).Sound ↔ first.Sound ∧ second.Sound := by
  simp only [Sound, items_append, forall_mem_append]

@[simp] theorem sound_one : (one item).Sound ↔ item.Sound := by
  simp [Sound]

@[simp] theorem sound_loan {reach : List Nat} : (loan node reach).Sound := by
  simp [Sound]

@[simp] theorem sound_enclosed : contents.enclosed.Sound ↔ contents.Sound := Iff.rfl

namespace Orderly

theorem left (orderly : (first ++ second).Orderly) : first.Orderly where
  nodup := (nodup_append.mp (numbers_append first second ▸ orderly.nodup)).1
  sound := (sound_append.mp orderly.sound).1

theorem right (orderly : (first ++ second).Orderly) : second.Orderly where
  nodup := (nodup_append.mp (numbers_append first second ▸ orderly.nodup)).2.1
  sound := (sound_append.mp orderly.sound).2

theorem disjoint (orderly : (first ++ second).Orderly) : first.numbers.Disjoint second.numbers :=
  (nodup_append'.mp (numbers_append first second ▸ orderly.nodup)).2.2

end Orderly

/-- The same parts, in whatever order they are listed. -/
structure Alike (first second : Contents) : Prop where
  items : first.items.Perm second.items
  borrowed : ∀ node, node ∈ first.borrowed ↔ node ∈ second.borrowed
  reach : ∀ number, number ∈ first.reach ↔ number ∈ second.reach

namespace Alike

theorem refl (contents : Contents) : contents.Alike contents :=
  ⟨List.Perm.refl _, fun _ => Iff.rfl, fun _ => Iff.rfl⟩

theorem trans (front : first.Alike second) (back : second.Alike third) : first.Alike third :=
  ⟨front.items.trans back.items, fun node => (front.borrowed node).trans (back.borrowed node),
    fun number => (front.reach number).trans (back.reach number)⟩

theorem append (front : first.Alike second) (back : third.Alike fourth) :
    (first ++ third).Alike (second ++ fourth) where
  items := front.items.append back.items
  borrowed := fun node => by simp [front.borrowed node, back.borrowed node]
  reach := fun number => by simp [front.reach number, back.reach number]

theorem swap (first second third : Contents) :
    (first ++ (second ++ third)).Alike (second ++ (first ++ third)) where
  items := perm_append_comm_assoc ..
  borrowed := fun _ => by
    simp only [Contents.borrowed_append, mem_append]
    tauto
  reach := fun _ => by
    simp only [Contents.mem_reach_append]
    tauto

theorem comm (first second : Contents) : (first ++ second).Alike (second ++ first) where
  items := perm_append_comm
  borrowed := fun _ => by
    simp only [Contents.borrowed_append, mem_append, or_comm]
  reach := fun _ => by
    simp only [Contents.mem_reach_append, or_comm]

/-- The third part comes first, and then the second and the first. -/
theorem turned (first second third fourth : Contents) :
    (first ++ second ++ third ++ fourth).Alike (third ++ (second ++ (first ++ fourth))) := by
  rw [append_assoc, append_assoc]
  have inner : (first ++ (second ++ (third ++ fourth))).Alike
      (first ++ (third ++ (second ++ fourth))) := (refl first).append (swap second third fourth)
  exact (inner.trans (swap first third _)).trans ((refl third).append (swap first second fourth))

theorem numbers (alike : first.Alike second) : first.numbers.Perm second.numbers :=
  alike.items.filterMap _

theorem orderly (alike : first.Alike second) (orderly : first.Orderly) : second.Orderly where
  nodup := alike.numbers.nodup_iff.mp orderly.nodup
  sound := fun item member => orderly.sound item (alike.items.mem_iff.mpr member)

end Alike

end Contents

/-! ## Borrowed nodes are inside of what borrows them -/

/-- All borrowed nodes are smaller than something. -/
def Contents.Below (contents : Contents) (size : Nat) : Prop :=
  ∀ node ∈ contents.borrowed, sizeOf node < size

/-- The induction is over all kinds of parts at once, as in the definition of the contents. -/
theorem contents_below :
    (∀ term : Term, term.contents.Below (sizeOf term)) ∧
    (∀ form : Form, form.contents.Below (sizeOf form)) ∧
    (∀ parameters, (loopParametersContents parameters).Below (sizeOf parameters)) ∧
    (∀ term, (optionContents term).Below (sizeOf term)) ∧
    (∀ index : LoopIndex, index.contents.Below (sizeOf index)) ∧
    (∀ code, (statementsContents code).Below (sizeOf code)) ∧
    (∀ statement : Statement, statement.contents.Below (sizeOf statement)) ∧
    (∀ targets, (targetsContents targets).Below (sizeOf targets)) ∧
    (∀ target : Target, target.contents.Below (sizeOf target)) ∧
    (∀ accessor : Accessor, accessor.contents.Below (sizeOf accessor)) ∧
    (∀ parameters, (parametersContents parameters).Below (sizeOf parameters)) ∧
    (∀ arguments, (argumentsContents arguments).Below (sizeOf arguments)) ∧
    (∀ entries, (entriesContents entries).Below (sizeOf entries)) ∧
    (∀ columns, (columnsContents columns).Below (sizeOf columns)) ∧
    (∀ terms, (termsContents terms).Below (sizeOf terms)) := by
  apply Term.contents.mutual_induct
  all_goals intros
  all_goals
    simp only [Contents.Below, Term.contents, Form.contents, termsContents, columnsContents,
      optionContents, entriesContents, Accessor.contents, argumentsContents, parametersContents,
      loopParametersContents, LoopIndex.contents, Target.contents, targetsContents,
      Statement.contents, statementsContents, Contents.borrowed_append, Contents.none_borrowed,
      Contents.one_borrowed, Contents.loan_borrowed, Contents.enclosed_borrowed] at *
    grind

theorem Term.smaller (term : Term) : term.contents.Below (sizeOf term) := contents_below.1 term

theorem Term.id_mem_numbers (term : Term) : term.id ∈ term.contents.numbers := by
  cases term with
  | mk id => simp [Term.contents, Term.id, Item.number?]

theorem termsContents_append (front back : List Term) :
    termsContents (front ++ back) = termsContents front ++ termsContents back := by
  induction front with
  | nil => rfl
  | cons _ _ ih =>
    rw [cons_append, termsContents, termsContents, ih]
    ext1 <;> simp [append_assoc]

end GraphScript.Program
