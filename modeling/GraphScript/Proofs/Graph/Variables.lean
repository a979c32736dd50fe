import GraphScript.Proofs.Graph.Nodes

/-!
# Variables while drawing

Which names a memory knows decides whether a variable can be defined, read or assigned.  The values
are ports of the compound that is being built, so they are in stock once they are read.
-/

namespace GraphScript.Graph

open List
open Act (Passes)

/-! ## Names -/

namespace Names

variable (names : Names) (name : String)

/-- One more variable. -/
def plus : Names := { names with defined := names.defined ++ [name] }

/-- One more open result. -/
def plusResult : Names := { names with opened := names.opened ++ [name] }

/-- A result that got its value is open no more. -/
def settle : Names := { names with opened := names.opened.filter (· != name) }

/-- Defines a variable that is new. -/
def define : Except Fault Names :=
  if names.defined.contains name then .error .missingKey else .ok (names.plus name)

/-- Opens a result that is neither a variable nor a result yet. -/
def openResult : Except Fault Names :=
  if names.defined.contains name || names.opened.contains name then .error .missingKey
  else .ok (names.plusResult name)

/-- Changes a variable. -/
def change : Except Fault Names :=
  if !names.opened.contains name && names.defined.contains name then .ok names
  else .error .missingKey

/-- Gives an open result or a variable a value. -/
def assign : Except Fault Names :=
  if names.opened.contains name then .ok (names.settle name) else names.change name

/-- Takes over a result of a node under its own name. -/
def takeOver : Except Fault Names :=
  if names.defined.contains name then names.change name
  else if names.opened.contains name then .ok (names.settle name)
  else .ok (names.plus name)

end Names

/-! ## Names of memories -/

section Memories

variable {table : Table α} {memory : Memory} {type : Datum}

theorem get?_eq_none_iff : table.get? name = none ↔ name ∉ table.keys := by
  simp only [Table.get?, lookup_eq_none_iff, Table.keys, mem_map, bne_iff_ne]
  grind

theorem mem_keys_of_get? (found : table.get? name = some held) : name ∈ table.keys := by
  by_contra absent
  rw [get?_eq_none_iff.mpr absent] at found
  cases found

theorem contains_keys (table : Table α) (name : String) :
    table.keys.contains name = (table.get? name).isSome := by
  cases found : table.get? name with
  | none => simpa using get?_eq_none_iff.mp found
  | some => simpa using mem_keys_of_get? found

theorem names_insert_new (isNew : name ∉ memory.bindings.keys) (cell : Cell) :
    Memory.names { memory with bindings := memory.bindings.insert name cell } =
      memory.names.plus name := by
  simp [Memory.names, Names.plus, Table.keys_insert, isNew]

theorem names_insert_old (old : name ∈ memory.bindings.keys) (cell : Cell) :
    Memory.names { memory with bindings := memory.bindings.insert name cell } = memory.names := by
  simp [Memory.names, Table.keys_insert, old]

theorem names_insertResult (isNew : name ∉ memory.results.keys) (cell : Cell) :
    Memory.names { memory with results := memory.results.insert name cell } =
      memory.names.plusResult name := by
  simp [Memory.names, Names.plusResult, Table.keys_insert, isNew]

theorem names_erase :
    Memory.names { memory with results := memory.results.erase name } =
      memory.names.settle name := by
  simp only [Memory.names, Names.settle, Table.erase, Table.keys, filter_map]
  rfl

/-- A port as stock. -/
def datumIn (place : NodePath) : Datum → Stock
  | .path path => [(place, path)]
  | _ => []

/-- The values in a memory as stock. -/
def Memory.stock (place : NodePath) (memory : Memory) : Stock :=
  (memory.bindings.entries ++ memory.results.entries).flatMap fun entry =>
    datumIn place entry.2.value

def Memory.OfPorts (memory : Memory) : Prop :=
  ∀ entry ∈ memory.bindings.entries ++ memory.results.entries, ∃ path, entry.2.value = .path path

variable {stock : Stock}

theorem has_datumIn (same : value = .path path) (has : stock.Has place path) :
    ∀ entry ∈ datumIn place value, stock.Has entry.1 entry.2 := by
  subst same
  exact forall_mem_singleton.mpr has

theorem Memory.OfPorts.holds (ofPorts : memory.OfPorts) (subset : memory.stock place ⊆ stock) :
    stock.Holds place memory := by
  intro entry member
  obtain ⟨path, same⟩ := ofPorts entry member
  refine ⟨path, same, .of_mem (subset ?_)⟩
  refine mem_flatMap.mpr ⟨entry, member, ?_⟩
  rw [same]
  exact mem_singleton.mpr rfl

/-- A new value of a variable is in stock like the others. -/
theorem Stock.Holds.insert (holds : stock.Holds place memory) (has : stock.Has place path) :
    stock.Holds place
      { memory with bindings := memory.bindings.insert name ⟨type, .path path⟩ } := by
  obtain ⟨bindings, results⟩ := forall_mem_append.mp holds
  exact forall_mem_append.mpr ⟨Table.forall_insert bindings ⟨path, rfl, has⟩, results⟩

theorem Stock.Holds.erase (holds : stock.Holds place memory) :
    stock.Holds place { memory with results := memory.results.erase name } := by
  obtain ⟨bindings, results⟩ := forall_mem_append.mp holds
  refine forall_mem_append.mpr ⟨bindings, fun entry member => ?_⟩
  exact results entry (mem_filter.mp member).1

end Memories

/-! ## Reading and writing variables -/

variable {tools : Tools} {stage : Stage} {stock : Stock} {memory : Memory} {path : NodePath}
  {name : String} {type : Datum}

/-- The stage with other variables. -/
def Stage.named (stage : Stage) (names : Names) : Stage := { stage with names }

@[simp] theorem Stage.place_named : (stage.named names).place = stage.place := rfl
@[simp] theorem Stage.names_named : (stage.named names).names = names := rfl
@[simp] theorem Stage.named_named : (stage.named names).named more = stage.named more := rfl
@[simp] theorem Stage.named_names : stage.named stage.names = stage := rfl

theorem draws_currentMemory :
    Draws tools stage stock currentMemory True stage
      (fun memory => memory.names = stage.names ∧ memory.OfPorts) (Memory.stock stage.place) := by
  intro _ standing
  refine .get ?_
  obtain ⟨_, _, frameAt, -, same⟩ := forall₂_cons_left_iff.mp standing.frames
  rw [same, List.head?_cons, orFault_some]
  refine .pure ⟨.refl _, ⟨frameAt.names, ?_⟩, { standing with stock := ?_ }⟩
  · intro entry member
    obtain ⟨path, found, -⟩ := frameAt.cells entry member
    exact ⟨path, found⟩
  · intro entry member
    rcases mem_append.mp member with new | old
    · obtain ⟨cell, inside, isValue⟩ := mem_flatMap.mp new
      obtain ⟨_, found, located⟩ := frameAt.cells cell inside
      rw [found] at isValue
      obtain rfl := mem_singleton.mp isValue
      exact located
    · exact standing.stock entry old

theorem draws_setMemory {names : Names} (holds : stock.Holds stage.place memory)
    (sameNames : memory.names = names) :
    Draws tools stage stock (setMemory memory) True (stage.named names) noFact noGift := by
  intro _ standing
  obtain ⟨_, _, frameAt, frames, same⟩ := forall₂_cons_left_iff.mp standing.frames
  refine .modify ⟨⟨prefix_rfl, rfl, rfl, rfl⟩, trivial, { standing with frames := ?_ }⟩
  rw [same]
  refine .cons { frameAt with names := sameNames, cells := ?_ } frames
  intro entry member
  obtain ⟨path, found, has⟩ := holds entry member
  exact ⟨path, found, standing.located has⟩

/-- The value of a variable. -/
theorem draws_valueNamed :
    Draws tools stage stock (valueNamed name) (stage.names.defined.contains name) stage
      (fun value => ∃ path, value = .path path) (datumIn stage.place) := by
  refine .andThen draws_currentMemory fun memory facts => ?_
  obtain ⟨names, ofPorts⟩ := facts
  rw [← names, Memory.names, contains_keys, Memory.value]
  cases found : memory.bindings.get? name with
  | none => exact .congr .throw (by simp)
  | some =>
    have member := mem_append_left memory.results.entries (Table.mem_of_get? found)
    obtain ⟨path, same, has⟩ := ofPorts.holds (subset_append_left _ stock) _ member
    exact .congr (.pure (has_datumIn same has) ⟨path, same⟩) (by simp)

theorem draws_variable :
    DrawsPath tools stage stock (do (← valueNamed name).asPath)
      (stage.names.defined.contains name) := by
  refine .followed draws_valueNamed fun _ isPath => ?_
  obtain ⟨_, rfl⟩ := isPath
  exact .give (by simp [datumIn])

/-- One more variable in a memory that is not in use yet. -/
theorem draws_defining :
    Draws tools stage stock (defining memory name type value)
      (Passes (memory.names.define name)) stage
      (fun grown => grown = { memory with bindings := memory.bindings.insert name ⟨type, value⟩ } ∧
        memory.names.define name = .ok grown.names) noGift := by
  unfold defining
  have asked : memory.isDefined name = memory.names.defined.contains name := Table.contains_eq _ _
  cases there : memory.names.defined.contains name with
  | true =>
    simp only [Memory.define?, asked, there, if_true, Names.define]
    exact .congr (.fails fun _ _ _ run => by simp at run) (by simp)
  | false =>
    simp only [Memory.define?, asked, there, Bool.false_eq_true, if_false, Names.define]
    refine .congr (.pure (by simp [*]) ⟨rfl, ?_⟩) (by simp)
    rw [names_insert_new]
    simpa [Memory.names] using there

/-- One more open result in a memory that is not in use yet. -/
theorem draws_definingResult :
    Draws tools stage stock (definingResult memory name type value)
      (Passes (memory.names.openResult name)) stage
      (fun grown => grown = { memory with results := memory.results.insert name ⟨type, value⟩ } ∧
        memory.names.openResult name = .ok grown.names) noGift := by
  unfold definingResult
  have asked : (memory.isDefined name || memory.isOpen name) =
      (memory.names.defined.contains name || memory.names.opened.contains name) := by
    rw [Memory.isDefined, Memory.isOpen, Table.contains_eq, Table.contains_eq]
    rfl
  cases there : (memory.names.defined.contains name || memory.names.opened.contains name) with
  | true =>
    simp only [Memory.defineResult?, asked, there, if_true, Names.openResult]
    exact .congr (.fails fun _ _ _ run => by simp at run) (by simp)
  | false =>
    simp only [Memory.defineResult?, asked, there, Bool.false_eq_true, if_false, Names.openResult]
    refine .congr (.pure (by simp [*]) ⟨rfl, ?_⟩) (by simp)
    rw [names_insertResult]
    simpa [Memory.names] using (Bool.or_eq_false_iff.mp there).2

/-- The names after a change that may be impossible. -/
def namesAfter : Except Fault Names → Names
  | .ok names => names
  | .error _ => {}

/-- The stage after a change of its variables. -/
def Stage.after (stage : Stage) (check : Except Fault Names) : Stage :=
    stage.named (namesAfter check)

@[simp] theorem Stage.after_ok : stage.after (.ok names) = stage.named names := rfl
@[simp] theorem Stage.after_named : (stage.named names).after check = stage.after check := rfl

/-- An action changes the variables like a check, and stops where that does. -/
abbrev DrawsNaming {α : Type} (tools : Tools) (stage : Stage) (stock : Stock) (action : Building α)
    (check : Except Fault Names) : Prop :=
  Draws tools stage stock action (Passes check) (stage.after check) noFact noGift

/-- Changes of the variables one after the other. -/
theorem Draws.named (first : DrawsNaming tools stage stock action check)
    (second : ∀ names, check = .ok names → DrawsNaming tools (stage.named names) stock then'
      (more names)) : DrawsNaming tools stage stock (action >>= fun _ => then')
      (check >>= more) := by
  cases check with
  | error fault =>
    exact .congr (.never (first.congr (Act.passes_error fault))) (Act.passes_error fault).symm
  | ok names =>
    exact .andThen (first.congr (iff_of_true (Act.passes_ok names) trivial)) fun _ _ =>
      second names rfl

theorem draws_define (has : stock.Has stage.place path) :
    DrawsNaming tools stage stock (define name type (.path path)) (stage.names.define name) := by
  refine .andThen draws_currentMemory fun _ facts => ?_
  obtain ⟨names, ofPorts⟩ := facts
  rw [← names]
  refine .followed draws_defining fun _ facts => ?_
  obtain ⟨rfl, grownNames⟩ := facts
  rw [grownNames, Stage.after_ok]
  refine draws_setMemory (.insert (ofPorts.holds ?_) (has.mono ?_)) rfl
  · simp
  · simp

theorem draws_assign (has : stock.Has stage.place path) :
    DrawsNaming tools stage stock (assign name (.path path)) (stage.names.change name) := by
  refine .andThen draws_currentMemory fun memory facts => ?_
  obtain ⟨names, ofPorts⟩ := facts
  rw [← names, Names.change, Memory.assign]
  have asked : memory.isOpen name = memory.names.opened.contains name := Table.contains_eq _ _
  cases isOpen : memory.names.opened.contains name with
  | true =>
    rw [asked, isOpen, if_pos rfl]
    exact .congr .stop (by simp)
  | false =>
    rw [asked, isOpen, if_neg Bool.false_ne_true, Bool.not_false, Bool.true_and, Memory.names,
      contains_keys]
    cases found : memory.bindings.get? name with
    | none => exact .congr .stop (by simp)
    | some =>
      refine .congr (draws_setMemory (.insert (ofPorts.holds ?_) (has.mono ?_))
        (names_insert_old (mem_keys_of_get? found) _)) (by simp)
      · simp
      · simp

/-- A result that is taken out gives the port that waits for its value. -/
theorem draws_takeResult :
    Draws tools stage stock (takeResult name) (stage.names.opened.contains name)
      (stage.named (stage.names.settle name)) (fun cell => ∃ path, cell.value = .path path)
      fun cell => datumIn stage.place cell.value := by
  refine .andThen draws_currentMemory fun memory facts => ?_
  obtain ⟨names, ofPorts⟩ := facts
  rw [← names, Memory.takeResult, Memory.names, contains_keys]
  cases found : memory.results.get? name with
  | none => exact .congr .stop (by simp)
  | some =>
    have member := mem_append_right memory.bindings.entries (Table.mem_of_get? found)
    have holds : Stock.Holds (memory.stock stage.place ++ stock) stage.place memory :=
      ofPorts.holds (subset_append_left _ _)
    obtain ⟨path, same, has⟩ := holds _ member
    simp only [Act.ok_bind]
    exact .congr (.andThen (draws_setMemory holds.erase names_erase) fun _ _ =>
      .pure (has_datumIn same has) ⟨path, same⟩) (by simp)

end GraphScript.Graph
