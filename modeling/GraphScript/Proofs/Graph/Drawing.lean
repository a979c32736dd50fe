import GraphScript.Proofs.Actions
import GraphScript.Graph.Constant
import Mathlib.Tactic.Common

/-!
# Actions that draw

An action draws when it only sends commands: it creates nodes in the compounds that are open,
connects nodes of one compound, and leaves the compounds, the variables and what was built as it
found them.  `Draws` states this of an action together with the condition under which it does not
stop.  What an action needs, and what it leaves, is a stock of paths with the compounds that they
are in.
-/

namespace GraphScript.Graph

open List hiding after
open Act (Settles Yields Passes)

/-! ## Where nodes are -/

def Command.addsNode : Command → Bool
  | .addNode _ _ => true
  | _ => false

/-- Whether a command neither adds a node nor makes a connection. -/
def Command.isPlain : Command → Bool
  | .addNode .. | .connect .. => false
  | _ => true

/-- The number of nodes that commands add. -/
def addedBy (commands : List Command) : Nat := commands.countP Command.addsNode

/-- After some earlier commands, a command creates a node in a compound. -/
def Creates (earlier : List Command) (place node : NodePath) : Command → Prop
  | .addNode context kind =>
    let name := Text.afterLast "," kind
    context = place ∧ node = place.child s!"{name}{addedBy earlier + 1}"
  | .addPortsNode context isInput =>
    context = place ∧ node = place.child (if isInput then "input" else "output")
  | _ => False

def CreatedIn (commands : List Command) (place node : NodePath) : Prop :=
  ∃ earlier command later, commands = earlier ++ command :: later ∧
    Creates earlier place node command

/-- A path is that of a node, or of one of its ports, or of a member of a port. -/
inductive PortOf (node : NodePath) : NodePath → Prop where
  | self : PortOf node node
  | port {path : NodePath} (inner : PortOf node path) (name : String) : PortOf node (path.port name)

/-- A path is that of a node which the commands created in a compound, or of one of its ports. -/
def Located (commands : List Command) (place path : NodePath) : Prop :=
  ∃ node, CreatedIn commands place node ∧ PortOf node path

/-- Both ends of a connection are at nodes that the commands created in one compound. -/
def Joins (commands : List Command) (source target : Datum) : Prop :=
  ∃ place first second, source = .path first ∧ target = .path second ∧
    Located commands place first ∧ Located commands place second

/-- Every connection is made between nodes that were created before in one compound. -/
def WellJoined (commands : List Command) : Prop :=
  ∀ earlier source target later, commands = earlier ++ .connect source target :: later →
    Joins earlier source target

section Growing

theorem CreatedIn.mono (created : CreatedIn commands place node) (grown : commands <+: more) :
    CreatedIn more place node := by
  obtain ⟨earlier, command, later, rfl, creates⟩ := created
  obtain ⟨rest, rfl⟩ := grown
  exact ⟨earlier, command, later ++ rest, by simp, creates⟩

theorem CreatedIn.last (creates : Creates commands place node command) :
    CreatedIn (commands ++ [command]) place node :=
  ⟨commands, command, [], rfl, creates⟩

theorem Located.mono (located : Located commands place path) (grown : commands <+: more) :
    Located more place path := by
  obtain ⟨node, created, portOf⟩ := located
  exact ⟨node, created.mono grown, portOf⟩

theorem CreatedIn.located (created : CreatedIn commands place node) : Located commands place node :=
  ⟨node, created, .self⟩

theorem wellJoined_nil : WellJoined [] := by
  intro _ _ _ _ split
  simp at split

/-- A new command joins well when it is no connection, or one within a compound. -/
theorem WellJoined.push (joined : WellJoined commands)
    (joins : ∀ source target, command = .connect source target → Joins commands source target) :
    WellJoined (commands ++ [command]) := by
  intro earlier source target later split
  rcases eq_nil_or_concat later with rfl | ⟨front, _, rfl⟩
  · obtain ⟨rfl, same⟩ := append_inj' split rfl
    exact joins source target (head_eq_of_cons_eq same)
  · rw [concat_eq_append, ← cons_append, ← append_assoc] at split
    obtain ⟨same, -⟩ := append_inj' split rfl
    exact joined earlier source target front same

theorem addedBy_push (commands : List Command) (command : Command) :
    addedBy (commands ++ [command]) = addedBy commands + if command.addsNode then 1 else 0 := by
  simp [addedBy, countP_append, countP_singleton]

end Growing

/-! ## Stages and stocks -/

/-- What a graph is built with. -/
structure Tools where
  registry : Overload.Registry
  host : Host

/-- The names of the variables of a compound, and of its results that wait for a value. -/
structure Names where
  defined : List String := []
  opened : List String := []
  deriving DecidableEq

def Memory.names (memory : Memory) : Names := ⟨memory.bindings.keys, memory.results.keys⟩

/-- A compound that is being built. -/
structure Frame where
  place : NodePath
  names : Names
  /-- The numbers of nodes that were built in it and can be borrowed. -/
  lent : List Nat

/-- The compounds that are being built. -/
structure Stage extends Frame where
  /-- The compounds around the innermost one, from the inside. -/
  outside : List Frame

namespace Stage

/-- All compounds, from the inside. -/
def frames (stage : Stage) : List Frame := stage.toFrame :: stage.outside

/-- Inside of one more compound. -/
def enter (stage : Stage) (place : NodePath) (names : Names) : Stage :=
  ⟨⟨place, names, []⟩, stage.frames⟩

/-- More nodes can be borrowed. -/
def lending (stage : Stage) (numbers : List Nat) : Stage :=
  { stage with lent := numbers ++ stage.lent }

@[simp] theorem place_lending : (lending stage numbers).place = stage.place := rfl

@[simp] theorem names_lending : (lending stage numbers).names = stage.names := rfl

@[simp] theorem place_enter : (enter stage place names).place = place := rfl

end Stage

/-- Paths with the compounds that they are in. -/
abbrev Stock : Type := List (NodePath × NodePath)

/-- A stock holds a path, or the node that it is a port of. -/
def Stock.Has (stock : Stock) (place path : NodePath) : Prop :=
  ∃ base, (place, base) ∈ stock ∧ PortOf base path

variable {stock : Stock} {tools : Tools} {stage : Stage}

namespace Stock.Has

variable {more : Stock} {place : NodePath}

theorem of_mem (member : (place, path) ∈ stock) : stock.Has place path := ⟨path, member, .self⟩

theorem of_entry (member : entry ∈ stock) : stock.Has entry.1 entry.2 :=
  of_mem member

@[simp] theorem port (has : stock.Has place path) (name : String) :
    stock.Has place (path.port name) := by
  obtain ⟨base, member, portOf⟩ := has
  exact ⟨base, member, portOf.port name⟩

theorem mono (has : stock.Has place path) (subset : stock ⊆ more) : more.Has place path := by
  obtain ⟨base, member, portOf⟩ := has
  exact ⟨base, subset member, portOf⟩

end Stock.Has

attribute [simp] PortOf.self PortOf.port

variable {place : NodePath}

@[simp] theorem Stock.has_cons :
    Stock.Has (entry :: stock) place path ↔
      (place = entry.1 ∧ PortOf entry.2 path) ∨ stock.Has place path := by
  obtain ⟨_, base⟩ := entry
  constructor
  · rintro ⟨node, member, portOf⟩
    rcases mem_cons.mp member with same | old
    · cases same
      exact .inl ⟨rfl, portOf⟩
    · exact .inr ⟨node, old, portOf⟩
  · rintro (⟨rfl, portOf⟩ | ⟨node, member, portOf⟩)
    · exact ⟨base, mem_cons_self .., portOf⟩
    · exact ⟨node, mem_cons_of_mem _ member, portOf⟩

@[simp] theorem Stock.has_nil : Stock.Has [] place path ↔ False := by
  simp [Stock.Has]

@[simp] theorem Stock.has_append :
    Stock.Has (first ++ second) place path ↔ first.Has place path ∨ second.Has place path := by
  simp [Stock.Has, or_and_right, exists_or]

/-- A compound is being built: its variables are ports of its own nodes, and the nodes that can be
borrowed are in it. -/
structure FrameAt (commands : List Command) (built : Std.HashMap Nat NodePath) (frame : Frame)
    (memory : Memory) : Prop where
  plain : frame.place.isPort = false
  names : memory.names = frame.names
  cells : ∀ entry ∈ memory.bindings.entries ++ memory.results.entries,
    ∃ path, entry.2.value = .path path ∧ Located commands frame.place path
  lent : ∀ number ∈ frame.lent, ∃ path, built[number]? = some path ∧
    Located commands frame.place path

/-- A construction is in the middle of a stage, with a stock of paths at hand. -/
structure Standing (tools : Tools) (stage : Stage) (stock : Stock) (construction : Construction) :
    Prop where
  registry : construction.registry = tools.registry
  host : construction.host = tools.host
  contexts : construction.contexts = stage.frames.map fun frame => .path frame.place
  frames : List.Forall₂ (FrameAt construction.commands.toList construction.built) stage.frames
    construction.memories
  count : construction.added = addedBy construction.commands.toList
  joined : WellJoined construction.commands.toList
  terminals : ∀ entry ∈ construction.terminals, ∃ path, entry.1 = .path path
  stock : ∀ entry ∈ stock, Located construction.commands.toList entry.1 entry.2

/-- Nothing but commands was added. -/
structure Grows (before after : Construction) : Prop where
  commands : before.commands.toList <+: after.commands.toList
  built : after.built = before.built
  done : after.done = before.done
  isOpen : after.isOpen = before.isOpen

namespace Grows

variable {first second : Construction}

theorem refl (construction : Construction) : Grows construction construction :=
  ⟨prefix_rfl, rfl, rfl, rfl⟩

theorem trans (front : Grows first second) (back : Grows second third) : Grows first third :=
  ⟨front.commands.trans back.commands, back.built.trans front.built, back.done.trans front.done,
    back.isOpen.trans front.isOpen⟩

end Grows

/-- Whatever was built before is still there. -/
def Remembers (before after : Std.HashMap Nat NodePath) : Prop :=
  ∀ (number : Nat) path, before[number]? = some path → after[number]? = some path

theorem FrameAt.mono (frameAt : FrameAt commands before frame memory) (grown : commands <+: more)
    (remembers : Remembers before after) :
    FrameAt more after frame memory where
  plain := frameAt.plain
  names := frameAt.names
  cells := by
    intro entry member
    obtain ⟨path, same, located⟩ := frameAt.cells entry member
    exact ⟨path, same, located.mono grown⟩
  lent := by
    intro number member
    obtain ⟨path, found, located⟩ := frameAt.lent number member
    exact ⟨path, remembers number path found, located.mono grown⟩

namespace Standing

variable {construction : Construction}

variable (standing : Standing tools stage stock construction)

include standing

theorem located (has : stock.Has place path) : Located construction.commands.toList place path := by
  obtain ⟨_, member, portOf⟩ := has
  obtain ⟨node, created, inner⟩ := standing.stock _ member
  refine ⟨node, created, ?_⟩
  induction portOf with
  | self => exact inner
  | port _ name ih => exact ih.port name

/-- The frames stay while commands and terms are added. -/
theorem framesMono (grown : construction.commands.toList <+: more)
    (remembers : Remembers construction.built built) :
    List.Forall₂ (FrameAt more built) stage.frames construction.memories :=
  standing.frames.imp fun _ _ frameAt => frameAt.mono grown remembers

theorem plain : stage.place.isPort = false := by
  obtain ⟨_, _, frameAt, -, -⟩ := forall₂_cons_left_iff.mp standing.frames
  exact frameAt.plain

theorem sub (subset : less ⊆ stock) : Standing tools stage less construction :=
  { standing with stock := fun entry member => standing.stock entry (subset member) }

/-- A path that is remembered can be borrowed. -/
theorem remember (isNew : construction.built[number]? = none)
    (located : Located construction.commands.toList stage.place path) :
    Standing tools (stage.lending [number]) stock
      { construction with built := construction.built.insert number path } := by
  have remembers : Remembers construction.built (construction.built.insert number path) := by
    intro other _ found
    have different : number ≠ other := by
      rintro rfl
      simp [isNew] at found
    rw [Std.HashMap.getElem?_insert]
    simpa only [beq_iff_eq, different, if_false] using found
  have frames := standing.framesMono prefix_rfl remembers
  obtain ⟨_, _, frameAt, outside, same⟩ := forall₂_cons_left_iff.mp frames
  refine { standing with frames := ?_ }
  rw [same]
  refine .cons ⟨frameAt.plain, frameAt.names, frameAt.cells, fun other member => ?_⟩ outside
  rcases mem_cons.mp member with rfl | old
  · exact ⟨path, Std.HashMap.getElem?_insert_self, located⟩
  · exact frameAt.lent other old

/-- A command that adds no node and makes no connection across compounds. -/
theorem push (adds : command.addsNode = false)
    (joins : ∀ source target, command = .connect source target →
      Joins construction.commands.toList source target) :
    Standing tools stage stock
      { construction with commands := construction.commands.push command } := by
  have grown : construction.commands.toList <+: (construction.commands.push command).toList := by
    simp
  refine { standing with frames := ?_, count := ?_, joined := ?_, stock := ?_ }
  · exact standing.framesMono grown fun _ _ found => found
  · rw [Array.toList_push, addedBy_push, adds]
    exact standing.count
  · rw [Array.toList_push]
    exact standing.joined.push joins
  · exact fun entry member => (standing.stock entry member).mono grown

end Standing

theorem Standing.more (standing : Standing tools stage stock construction)
    (has : ∀ entry ∈ given, stock.Has entry.1 entry.2) :
    Standing tools stage (given ++ stock) construction := by
  refine { standing with stock := forall_mem_append.mpr ⟨fun entry new => ?_, standing.stock⟩ }
  exact standing.located (has entry new)

/-- Of what was given, and of what there was before, less can be said. -/
theorem Standing.less {less : Stock} (standing : Standing tools stage (given ++ stock) construction)
    (subset : less ⊆ given) (subsetOld : old ⊆ stock) :
    Standing tools stage (less ++ old) construction := by
  refine standing.sub (append_subset.mpr ⟨?_, ?_⟩)
  · exact fun _ member => mem_append_left _ (subset member)
  · exact fun _ member => mem_append_right _ (subsetOld member)

theorem grows_push :
    Grows construction { construction with commands := construction.commands.push command } :=
  ⟨by simp, rfl, rfl, rfl⟩

/-! ## What the surroundings have to offer -/

/-- Whether a possibly shortened name stands for an operator. -/
def knowsOperator (registry : Overload.Registry) (name : String) : Bool :=
  match registry.fullName? name with
  | none | some "" => false
  | some _ => true

/-- Whether a node of a kind can be made. -/
def makesKind (registry : Overload.Registry) (kind : String) : Bool :=
  kind == "_input" || kind == "_output" || kind.toList.contains ',' || knowsOperator registry kind

/-- The scalar types that components are converted to. -/
def scalarConversions : List String :=
  ["to_double", "to_float", "to_char", "to_short", "to_int", "to_long", "to_bool",
    "to_unsigned_char", "to_unsigned_short", "to_unsigned_int", "to_unsigned_long"]

/-- The operators that are used without being called in a script. -/
def ownOperators : List String :=
  ["negate", "not", "modulo", "power", "to_char", "add", "subtract", "multiply", "divide",
    "build_string", "set_in_string", "set_in_array", "set_property", "Core::Array::resize_array",
    "Core::Array::array_size", "Core::Array::get_from_array", "Core::Object::get_property",
    "Core::String::string_length", "Core::String::get_from_string", "Core::String::build_string"] ++
  scalarConversions.map fun name => "Core::Type_Conversion::" ++ name

/-- A registry has all operators that are used without being called in a script. -/
def Stocked (registry : Overload.Registry) : Prop :=
  ∀ name ∈ ownOperators, knowsOperator registry name

/-- The host refuses no connection, and the registry has what is needed. -/
structure Tools.Willing (tools : Tools) : Prop where
  host : tools.host.refusedTargets = []
  stocked : Stocked tools.registry

/-! ## The logic of drawing -/

/-- An action leads from one stage to another.  It uses a stock of paths and gives more, it does not
stop if its condition is met and the surroundings are willing, and it sends only commands. -/
def Draws {α : Type} (tools : Tools) (stage : Stage) (stock : Stock) (action : Building α)
    (due : Prop) (next : Stage) (fact : α → Prop) (gives : α → Stock) : Prop :=
  ∀ construction, Standing tools stage stock construction →
    Settles action construction tools.Willing due fun value after =>
      Grows construction after ∧ fact value ∧ Standing tools next (gives value ++ stock) after

/-- Nothing is known of a value. -/
abbrev noFact {α : Type} : α → Prop := fun _ => True

/-- Nothing is given. -/
abbrev noGift {α : Type} : α → Stock := fun _ => []

/-- A path in a compound is given. -/
abbrev pathIn (place : NodePath) : NodePath → Stock := fun path => [(place, path)]

/-- The stage stays as it is, and nothing is given. -/
abbrev DrawsHere {α : Type} (tools : Tools) (stage : Stage) (stock : Stock) (action : Building α)
    (due : Prop) : Prop :=
  Draws tools stage stock action due stage noFact noGift

/-- The action gives a path in the compound that is open. -/
abbrev DrawsPath (tools : Tools) (stage : Stage) (stock : Stock) (action : Building NodePath)
    (due : Prop) : Prop :=
  Draws tools stage stock action due stage noFact (pathIn stage.place)

namespace Draws

variable {α : Type} {middle next : Stage} {due dueNext : Prop} {action : Building α}
  {then' : α → Building β} {fact : α → Prop} {gives : α → Stock} {factNext : β → Prop}
  {givesNext : β → Stock} {outcome : Except Fault α}

theorem pure (has : ∀ entry ∈ gives value, stock.Has entry.1 entry.2) (holds : fact value) :
    Draws tools stage stock (pure value) True stage fact gives := by
  intro _ standing
  exact .pure ⟨.refl _, holds, standing.more has⟩

theorem give (has : ∀ entry ∈ gives value, stock.Has entry.1 entry.2) :
    Draws tools stage stock (Pure.pure value) True stage noFact gives :=
  .pure has trivial

theorem done : Draws tools stage stock (Pure.pure value) True stage noFact noGift :=
  .give (forall_mem_nil _)

theorem throw : Draws tools stage stock (throw fault) False next fact gives :=
  fun _ _ => .throw

section

variable (draws : Draws tools stage stock action due next fact gives)

include draws

theorem congr (same : due ↔ dueNext) : Draws tools stage stock action dueNext next fact gives :=
  fun construction standing => (draws construction standing).congr same

theorem imp {factLess : α → Prop} (implied : ∀ value, fact value → factLess value)
    (subset : ∀ value, givesLess value ⊆ gives value) :
    Draws tools stage stock action due next factLess givesLess := by
  intro construction standing
  refine (draws construction standing).imp fun value _ left => ?_
  exact ⟨left.1, implied value left.2.1, left.2.2.less (subset value) (List.Subset.refl _)⟩

/-- A value that is not used; what is known to be given with it stays in stock. -/
theorem discarding (subset : ∀ value, fact value → keep ⊆ gives value) :
    Draws tools stage stock (discard action) due next noFact fun _ => keep := by
  intro construction standing
  refine .discard ((draws construction standing).imp fun value _ left => ?_)
  exact ⟨left.1, trivial, left.2.2.less (subset value left.2.1) (List.Subset.refl _)⟩

theorem discard : Draws tools stage stock (discard action) due next noFact noGift :=
  draws.discarding fun _ _ => nil_subset _

/-- What is due can be owed by the surroundings. -/
theorem owed (offered : tools.Willing → due) :
    Draws tools stage stock action True next fact gives := by
  intro construction standing
  have settled := draws construction standing
  exact ⟨fun value after run => ⟨trivial, (settled.sound value after run).2⟩,
    fun willing _ => settled.total willing (offered willing)⟩

end

theorem bind (first : Draws tools stage stock action due middle fact gives)
    (second : ∀ value, fact value →
      Draws tools middle (gives value ++ stock) (then' value) dueNext next factNext givesNext) :
    Draws tools stage stock (action >>= then') (due ∧ dueNext) next factNext givesNext := by
  intro construction standing
  refine (first construction standing).bind fun value after _ left => ?_
  obtain ⟨grows, holds, standingAfter⟩ := left
  refine (second value holds after standingAfter).imp fun _ _ finish => ?_
  obtain ⟨growsNext, holdsNext, standingNext⟩ := finish
  exact ⟨grows.trans growsNext, holdsNext,
    standingNext.less (List.Subset.refl _) (subset_append_right _ _)⟩

/-- A first part that owes nothing. -/
theorem andThen (first : Draws tools stage stock action True middle fact gives)
    (second : ∀ value, fact value →
      Draws tools middle (gives value ++ stock) (then' value) due next factNext givesNext) :
    Draws tools stage stock (action >>= then') due next factNext givesNext :=
  (first.bind second).congr (iff_of_eq (true_and _))

/-- A second part that owes nothing. -/
theorem followed (first : Draws tools stage stock action due middle fact gives)
    (second : ∀ value, fact value →
      Draws tools middle (gives value ++ stock) (then' value) True next factNext givesNext) :
    Draws tools stage stock (action >>= then') due next factNext givesNext :=
  (first.bind second).congr (iff_of_eq (and_true _))

/-- What comes after a first part depends on the result of a check that the first part agrees
with. -/
theorem checked {check : Except Fault γ} {view : α → γ} {dueOf : γ → Prop}
    (first : Draws tools stage stock action (Passes check) middle fact gives)
    (agrees : ∀ value, fact value → check = .ok (view value))
    (second : ∀ value, fact value →
      Draws tools middle (gives value ++ stock) (then' value) (dueOf (view value)) next factNext
        givesNext) :
    Draws tools stage stock (action >>= then') (∃ result, check = .ok result ∧ dueOf result) next
      factNext givesNext := by
  cases check with
  | error fault =>
    intro construction standing
    exact .congr (((first construction standing).congr (Act.passes_error fault)).never) (by simp)
  | ok result =>
    have known : ∀ value, fact value → view value = result :=
      fun value holds => (Except.ok.inj (agrees value holds)).symm
    have both : Draws tools stage stock (action >>= then') (Passes (.ok result) ∧ dueOf result) next
        factNext givesNext :=
      first.bind fun value holds => known value holds ▸ second value holds
    exact both.congr (by simp)

/-- A step that only looks. -/
theorem look {dueOf : α → Prop}
    (second : ∀ value, outcome = .ok value →
      Draws tools stage stock (then' value) (dueOf value) next factNext givesNext) :
    Draws tools stage stock (liftM outcome >>= then') (∃ value, outcome = .ok value ∧ dueOf value)
      next factNext givesNext :=
  fun construction standing => .look fun value found => second value found construction standing

/-- A step that only looks, and gives what it finds. -/
theorem lift (holds : ∀ value, outcome = .ok value → fact value)
    (has : ∀ value, outcome = .ok value → ∀ entry ∈ gives value, stock.Has entry.1 entry.2) :
    Draws tools stage stock (liftM outcome) (Passes outcome) stage fact gives := by
  intro _ standing
  exact .lift fun value found => ⟨.refl _, holds value found, standing.more (has value found)⟩

/-- A step that only looks, before steps that owe nothing. -/
theorem looking
    (second : ∀ value, outcome = .ok value →
      Draws tools stage stock (then' value) True next factNext givesNext) :
    Draws tools stage stock (liftM outcome >>= then') (∃ value, outcome = .ok value) next factNext
      givesNext :=
  (look second).congr (exists_congr fun _ => iff_of_eq (and_true _))

/-- A step that only looks, before steps that always stop. -/
theorem doomed
    (second : ∀ value, outcome = .ok value →
      Draws tools stage stock (then' value) False next factNext givesNext) :
    Draws tools stage stock (liftM outcome >>= then') False next factNext givesNext :=
  (look second).congr (by simp)

theorem get {then' : Construction → Building β}
    (second : ∀ construction, Standing tools stage stock construction →
      Draws tools stage stock (then' construction) due next factNext givesNext) :
    Draws tools stage stock (getThe Construction >>= then') due next factNext givesNext :=
  fun construction standing => .get (second construction standing construction standing)

/-- Nothing comes after a fault. -/
theorem stop :
    Draws tools stage stock (MonadExcept.throw fault >>= then') False next factNext givesNext :=
  fun _ _ => .never (.throw : Settles _ _ _ _ fun _ _ => True)

/-- An action that always stops. -/
theorem fails (stops : ∀ construction value after, ¬Yields action construction value after) :
    Draws tools stage stock action False next fact gives :=
  fun construction _ =>
    ⟨fun value after run => (stops construction value after run).elim, fun _ impossible =>
      impossible.elim⟩

/-- Nothing comes after an action that always stops. -/
theorem never (first : Draws tools stage stock action False middle fact gives) :
    Draws tools stage stock (action >>= then') False next factNext givesNext :=
  fun construction standing => (first construction standing).never

theorem ite [Decidable condition]
    (first : condition → Draws tools stage stock whenTrue due next fact gives)
    (second : ¬condition → Draws tools stage stock whenFalse dueNext next fact gives) :
    Draws tools stage stock (if condition then whenTrue else whenFalse)
      (if condition then due else dueNext) next fact gives := by
  split
  · exact first ‹_›
  · exact second ‹_›

/-- Both ways owe the same. -/
theorem either [Decidable condition]
    (first : condition → Draws tools stage stock whenTrue due next fact gives)
    (second : ¬condition → Draws tools stage stock whenFalse due next fact gives) :
    Draws tools stage stock (if condition then whenTrue else whenFalse) due next fact gives :=
  (ite first second).congr (iff_of_eq (ite_self _))

/-- The innermost compound is no port. -/
theorem ofPlain
    (draws : stage.place.isPort = false → Draws tools stage stock action due next fact gives) :
    Draws tools stage stock action due next fact gives :=
  fun construction standing => draws standing.plain construction standing

/-- The stage afterwards matters only where the action does not stop. -/
theorem renext (draws : Draws tools stage stock action due middle fact gives)
    (same : due → middle = next) : Draws tools stage stock action due next fact gives :=
  fun construction standing =>
    (draws construction standing).weaken Iff.rfl fun isDue _ _ left => same isDue ▸ left

theorem send (plain : command.isPlain) : DrawsHere tools stage stock (send command) True := by
  intro _ standing
  refine .modify ⟨grows_push, trivial, standing.push ?_ ?_⟩
  · cases command <;> first | rfl | cases plain
  · rintro _ _ rfl
    cases plain

end Draws

end GraphScript.Graph
