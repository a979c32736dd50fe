import GraphScript.Proofs.Program.Contents

/-!
# Renaming the numbers of a term

`Term.renamed` is the copy of a term with given new numbers.  Apart from the numbers it differs from
the term where copies do: compounds lose their names, a matrix becomes a sheet, and a declared name
forgets the ports of its type.

A renamed term has the renamed parts, and is sound when the term is.  It depends on the new numbers
of the parts that can be reached and on nothing else.
-/

namespace GraphScript.Program

open List

mutual

/-- A term with new numbers. -/
def Term.renamed (change : Nat → Nat) : Term → Term
  | .mk id form => .mk (change id) (form.renamed change)

/-- A form with new numbers. -/
def Form.renamed (change : Nat → Nat) : Form → Form
  | .value literal type => .value literal type
  | .reference name type => .reference name type
  | .vector component type values => .vector component type (renamedTerms change values)
  | .matrix component type columns => .sheet component type (renamedColumns change columns)
  | .sheet component type columns => .sheet component type (renamedColumns change columns)
  | .array element values => .array element (renamedTerms change values)
  | .emptyArray element count => .emptyArray element (count.renamed change)
  | .object entries => .object (renamedEntries change entries)
  | .enumeration name type => .enumeration name type
  | .not type value => .not type (value.renamed change)
  | .negate type value => .negate type (value.renamed change)
  | .binary kind operator type left right =>
    .binary kind operator type (left.renamed change) (right.renamed change)
  | .comparison operators type operands => .comparison operators type (renamedTerms change operands)
  | .access value accessor => .access (value.renamed change) (accessor.renamed change)
  | .port holder node port => .port holder (node.renamed change) port
  | .associative name portNames arguments named terminals outputs =>
    .associative name portNames (renamedArguments change arguments)
      (renamedArguments change named) terminals outputs
  | .native name arguments named terminals inputTypes argumentTypes outputs =>
    .native name (renamedArguments change arguments) (renamedArguments change named) terminals
      inputTypes argumentTypes outputs
  | .function name body arguments named terminals inputTypes argumentTypes outputs =>
    .function name (body.renamed change) (renamedArguments change arguments)
      (renamedArguments change named) terminals inputTypes argumentTypes outputs
  | .construct type arguments named =>
    .construct type (renamedArguments change arguments) (renamedArguments change named)
  | .scope _ parameters results code terminals =>
    .scope "unnamed" (renamedParameters change parameters) results
      (renamedStatements change code) terminals
  | .loop kind parameters results code limit index terminals condition =>
    .loop kind (renamedLoopParameters change parameters) results (renamedStatements change code)
      (renamedOption change limit) (index.renamed change) terminals
      (renamedOption change condition)

/-- Terms with new numbers. -/
def renamedTerms (change : Nat → Nat) : List Term → List Term
  | [] => []
  | term :: rest => term.renamed change :: renamedTerms change rest

/-- Columns with new numbers. -/
def renamedColumns (change : Nat → Nat) : List (List Term) → List (List Term)
  | [] => []
  | column :: rest => renamedTerms change column :: renamedColumns change rest

/-- A term that may be missing, with new numbers. -/
def renamedOption (change : Nat → Nat) : Option Term → Option Term
  | none => none
  | some term => some (term.renamed change)

/-- Entries with new numbers. -/
def renamedEntries (change : Nat → Nat) : List Entry → List Entry
  | [] => []
  | .mk key value :: rest =>
    .mk (key.renamed change) (value.renamed change) :: renamedEntries change rest

/-- An accessor with new numbers. -/
def Accessor.renamed (change : Nat → Nat) : Accessor → Accessor
  | .index id value => .index (change id) (value.renamed change)
  | .slice start stop step =>
    .slice (renamedOption change start) (renamedOption change stop) (renamedOption change step)
  | .orDefault id key type default =>
    .orDefault (change id) (key.renamed change) type (renamedOption change default)
  | .member path => .member path

/-- Arguments with new numbers. -/
def renamedArguments (change : Nat → Nat) : List Argument → List Argument
  | [] => []
  | .mk name value :: rest => .mk name (value.renamed change) :: renamedArguments change rest

/-- Parameters with new numbers. -/
def renamedParameters (change : Nat → Nat) : List Parameter → List Parameter
  | [] => []
  | .mk name type default :: rest =>
    .mk name type (renamedOption change default) :: renamedParameters change rest

/-- Parameters of a loop with new numbers. -/
def renamedLoopParameters (change : Nat → Nat) : List LoopParameter → List LoopParameter
  | [] => []
  | .mk name type default isTarget :: rest =>
    .mk name type (renamedOption change default) isTarget :: renamedLoopParameters change rest

/-- The index of a loop with new numbers. -/
def LoopIndex.renamed (change : Nat → Nat) : LoopIndex → LoopIndex
  | .mk id name start => .mk (change id) name (start.renamed change)

/-- A target with new numbers. -/
def Target.renamed (change : Nat → Nat) : Target → Target
  | .ignored => .ignored
  | .declared name type => .declared name (.mk type.name (some []))
  | .reference name type => .reference name type
  | .part id kind base accessor type =>
    .part (change id) kind (base.renamed change) (accessor.renamed change) type

/-- Targets with new numbers. -/
def renamedTargets (change : Nat → Nat) : List Target → List Target
  | [] => []
  | target :: rest => target.renamed change :: renamedTargets change rest

/-- A statement with new numbers. -/
def Statement.renamed (change : Nat → Nat) : Statement → Statement
  | .empty => .empty
  | .make term => .make (term.renamed change)
  | .assignment id targets operator value =>
    .assignment (change id) (renamedTargets change targets) operator (value.renamed change)
  | .takeOver id node => .takeOver (change id) (node.renamed change)

/-- Statements with new numbers. -/
def renamedStatements (change : Nat → Nat) : List Statement → List Statement
  | [] => []
  | statement :: rest => statement.renamed change :: renamedStatements change rest

end

/-- A part with new numbers. -/
def Item.renamed (change : Nat → Nat) : Item → Item
  | .term whole => .term (whole.renamed change)
  | .accessor part => .accessor (part.renamed change)
  | .index setting => .index (setting.renamed change)
  | .target aim => .target (aim.renamed change)
  | .statement step => .statement (step.renamed change)

/-- Parts with new numbers. -/
def Contents.renamed (change : Nat → Nat) (contents : Contents) : Contents where
  items := contents.items.map (Item.renamed change)
  borrowed := contents.borrowed.map (Term.renamed change)
  lent := contents.lent.map change

/-! ## What does not change -/

section Same

variable (change : Nat → Nat)

@[simp] theorem Form.makesNode_renamed (form : Form) :
    (form.renamed change).makesNode = form.makesNode := by
  cases form <;> rfl

@[simp] theorem Form.isScope_renamed (form : Form) : (form.renamed change).isScope =
    form.isScope := by
  cases form <;> rfl

@[simp] theorem Term.form_renamed (term : Term) :
    (term.renamed change).form = term.form.renamed change := by
  cases term
  rfl

@[simp] theorem Item.number?_renamed (item : Item) :
    (item.renamed change).number? = item.number?.map change := by
  cases item with
  | term term => cases term; rfl
  | accessor accessor => cases accessor <;> rfl
  | index index => cases index; rfl
  | target target => cases target <;> rfl
  | statement statement => cases statement <;> rfl

end Same

/-! ## The parts of a renamed term -/

namespace Contents

variable (change : Nat → Nat) (first second contents : Contents) (item : Item)

@[simp] theorem renamed_append :
    (first ++ second).renamed change = first.renamed change ++ second.renamed change := by
  ext1 <;> simp [renamed]

@[simp] theorem renamed_none : none.renamed change = none := rfl
@[simp] theorem renamed_one : (one item).renamed change = one (item.renamed change) := rfl
@[simp] theorem renamed_loan :
    (loan node reached).renamed change = loan (node.renamed change) (reached.map change) := rfl
@[simp] theorem renamed_enclosed : contents.enclosed.renamed change =
    (contents.renamed change).enclosed := rfl

@[simp] theorem borrowed_renamed :
    (contents.renamed change).borrowed = contents.borrowed.map (Term.renamed change) := rfl

@[simp] theorem numbers_renamed : (contents.renamed change).numbers =
    contents.numbers.map change := by
  simp only [numbers, renamed, filterMap_map, map_filterMap]
  congr 1
  funext item
  exact Item.number?_renamed change item

@[simp] theorem reach_renamed : (contents.renamed change).reach = contents.reach.map change := by
  simp [reach, show (contents.renamed change).lent = contents.lent.map change from rfl]

end Contents

/-! ## Renaming along with the parts -/

/-- Two ways of renaming that give the same numbers to what can be reached. -/
def Contents.Agree (first second : Nat → Nat) (contents : Contents) : Prop :=
  ∀ number ∈ contents.reach, first number = second number

@[simp] theorem Contents.agree_append {back : Contents} :
    (front ++ back).Agree first second ↔ front.Agree first second ∧ back.Agree first second := by
  simp only [Contents.Agree, Contents.mem_reach_append, or_imp, forall_and]

@[simp] theorem Contents.agree_one :
    (one item).Agree first second ↔ ∀ number ∈ item.number?, first number = second number := by
  simp [Agree]

@[simp] theorem Contents.agree_loan :
    (loan node node.contents.reach).Agree first second ↔ node.contents.Agree first second :=
  Iff.rfl

@[simp] theorem Contents.agree_enclosed {contents : Contents} :
    contents.enclosed.Agree first second ↔ contents.Agree first second :=
  Iff.rfl

/-- The image depends on the new numbers of what can be reached. -/
def Depends {α : Type} (contents : Contents) (image : (Nat → Nat) → α) : Prop :=
  ∀ first second, contents.Agree first second → image first = image second

/-- What is renamed has the renamed parts, and depends on the new numbers of these alone. -/
def Renames {α : Type} (change other : Nat → Nat) (parts : α → Contents)
    (renamed : (Nat → Nat) → α → α) (value : α) : Prop :=
  parts (renamed change value) = (parts value).renamed change ∧
    ((parts value).Agree change other → renamed change value = renamed other value)

theorem renames (change other : Nat → Nat) :
    (∀ term, Renames change other Term.contents Term.renamed term) ∧
    (∀ form, Renames change other Form.contents Form.renamed form) ∧
    (∀ parameters, Renames change other loopParametersContents renamedLoopParameters parameters) ∧
    (∀ term, Renames change other optionContents renamedOption term) ∧
    (∀ index, Renames change other LoopIndex.contents LoopIndex.renamed index) ∧
    (∀ code, Renames change other statementsContents renamedStatements code) ∧
    (∀ statement, Renames change other Statement.contents Statement.renamed statement) ∧
    (∀ targets, Renames change other targetsContents renamedTargets targets) ∧
    (∀ target, Renames change other Target.contents Target.renamed target) ∧
    (∀ accessor, Renames change other Accessor.contents Accessor.renamed accessor) ∧
    (∀ parameters, Renames change other parametersContents renamedParameters parameters) ∧
    (∀ arguments, Renames change other argumentsContents renamedArguments arguments) ∧
    (∀ entries, Renames change other entriesContents renamedEntries entries) ∧
    (∀ columns, Renames change other columnsContents renamedColumns columns) ∧
    (∀ terms, Renames change other termsContents renamedTerms terms) := by
  apply Term.contents.mutual_induct
  all_goals intros
  all_goals
    simp_all [Renames, Term.contents, Form.contents, termsContents, columnsContents, optionContents,
      entriesContents, Accessor.contents, argumentsContents, parametersContents,
      loopParametersContents, LoopIndex.contents, Target.contents, targetsContents,
      Statement.contents, statementsContents, Term.renamed, Form.renamed, renamedTerms,
      renamedColumns, renamedOption, renamedEntries, Accessor.renamed, renamedArguments,
      renamedParameters, renamedLoopParameters, LoopIndex.renamed, Target.renamed, renamedTargets,
        Statement.renamed, renamedStatements, Item.renamed, Item.number?]

theorem Term.depends (term : Term) : Depends term.contents (term.renamed ·) :=
  fun first second => ((renames first second).1 term).2

theorem Form.depends (form : Form) : Depends form.contents (form.renamed ·) :=
  fun first second => ((renames first second).2.1 form).2

theorem Term.contents_renamed (change : Nat → Nat) (term : Term) :
    (term.renamed change).contents = term.contents.renamed change :=
  ((renames change change).1 term).1

variable {change : Nat → Nat}

theorem optionContents_renamed (term : Option Term) :
    optionContents (renamedOption change term) = (optionContents term).renamed change := by
  obtain ⟨-, -, -, renamed, -⟩ := renames change change
  exact (renamed term).1

theorem Statement.contents_renamed (statement : Statement) :
    (statement.renamed change).contents = statement.contents.renamed change := by
  obtain ⟨-, -, -, -, -, -, renamed, -⟩ := renames change change
  exact (renamed statement).1

/-! ## Renamed parts are sound -/

@[simp] theorem Statement.assigned_renamed (statement : Statement) :
    (statement.renamed change).assigned = statement.assigned.map (Term.renamed change) := by
  cases statement with
  | assignment =>
    simp only [Statement.renamed, Statement.assigned, Term.form_renamed, Form.makesNode_renamed]
    split <;> rfl
  | _ => rfl

theorem assignedIn_renamed (code : List Statement) :
    assignedIn (renamedStatements change code) = (assignedIn code).map (Term.renamed change) := by
  induction code with
  | nil => rfl
  | cons _ _ ih =>
    simp only [assignedIn, renamedStatements, flatMap_cons, map_append,
      Statement.assigned_renamed] at ih ⊢
    rw [ih]

theorem Settled.renamed (settled : Settled known code) :
    Settled (known.map (Term.renamed change)) (renamedStatements change code) := by
  induction code generalizing known with
  | nil => trivial
  | cons _ _ ih =>
    obtain ⟨first, others⟩ := settled
    refine ⟨?_, ?_⟩
    · rw [Statement.contents_renamed]
      simp only [Contents.borrowed_renamed, forall_mem_map]
      exact fun node member => mem_map_of_mem (first node member)
    · have later := ih others
      rwa [map_append, ← Statement.assigned_renamed] at later

theorem Header.ofScope_renamed (parameters : List Parameter) (results : List Result) :
    Header.ofScope (renamedParameters change parameters) results = .ofScope parameters results := by
  refine congrArg (Header.mk · results) ?_
  induction parameters with
  | nil => rfl
  | cons parameter _ ih =>
    obtain ⟨name, type, _⟩ := parameter
    exact congrArg ((name, type) :: ·) ih

theorem Header.ofLoop_renamed (parameters : List LoopParameter) (results : List LoopResult) :
    Header.ofLoop (renamedLoopParameters change parameters) results =
      .ofLoop parameters results := by
  refine congrArg (Header.mk · _) ?_
  induction parameters with
  | nil => rfl
  | cons parameter _ ih =>
    obtain ⟨name, type, _, _⟩ := parameter
    exact congrArg ((name, type) :: ·) ih

theorem Item.Sound.renamed {item : Item} (sound : item.Sound) : (item.renamed change).Sound := by
  cases item with
  | term whole =>
    obtain ⟨_, form⟩ := whole
    cases form with
    | value => exact sound
    | port =>
      simp only [Item.renamed, Term.renamed, Form.renamed, Item.Sound, Term.form_renamed,
        Form.makesNode_renamed]
      exact sound
    | function =>
      simp only [Item.renamed, Term.renamed, Form.renamed, Item.Sound, Term.form_renamed,
        Form.isScope_renamed]
      exact sound
    | scope =>
      refine ⟨?_, Settled.renamed sound.2⟩
      rw [Header.ofScope_renamed]
      exact sound.1
    | loop =>
      refine ⟨?_, Settled.renamed sound.2.1, ?_⟩
      · rw [Header.ofLoop_renamed]
        exact sound.1
      · rw [optionContents_renamed, assignedIn_renamed]
        simp only [Contents.borrowed_renamed, forall_mem_map]
        exact fun node member => mem_map_of_mem (sound.2.2 node member)
    | _ => trivial
  | _ => trivial

theorem Contents.Sound.renamed {contents : Contents} (sound : contents.Sound) :
    (contents.renamed change).Sound := by
  intro _ member
  obtain ⟨original, owned, rfl⟩ := mem_map.mp member
  exact (sound original owned).renamed

end GraphScript.Program
