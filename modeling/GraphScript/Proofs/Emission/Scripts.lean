import GraphScript.Proofs.Elaboration.Script
import GraphScript.Proofs.Emission.Terms
import GraphScript.Emission.Build

/-!
# Building scripts

A script is built from nothing, in a compound of the host.  Whatever the script, connections are
made only between nodes that were created before in one compound; and where the host is willing, the
script is built exactly if its rehearsal passes.
-/

namespace GraphScript.Emission

open List GraphScript.Graph Program
open Act (Settles Yields Passes Ensures)
open Elaboration (Session Surroundings runScript)

section Scripts

/-! ## Entries -/

theorem builds_each : ∀ (entries : List (Option Term)) (stock : Stock), stage.names = {} →
    BuildsHere tools stage stock (termsContents (entries.filterMap id)) (emitEach entries)
      (Passes (rehearseEach tools.registry entries))
  | [], _, _ => .idle
  | none :: _, _, _ => .draw (.congr .throw (Act.passes_error _).symm)
  | some term :: rest, stock, noNames => by
    change Builds _ _ _ (term.contents ++ termsContents (rest.filterMap id)) _ (Passes (do
      rehearse tools.registry {} term
      rehearseEach tools.registry rest)) _ _ _
    rw [← noNames]
    exact .both (builds_emit term).plain.discard fun _ => builds_each rest stock noNames

/-! ## Flags and the end of the changes -/

theorem draws_printLine (line : String) : DrawsHere tools stage stock (printLine line) True := by
  intro _ standing
  exact .modify ⟨⟨prefix_rfl, rfl, rfl, rfl⟩, trivial, { standing with }⟩

theorem draws_setFlags (node : Datum) :
    ∀ {flags : List Datum}, DrawsHere tools stage stock (setFlags node flags) True
  | [] => .done
  | flag :: _ => by
    refine .andThen (.send rfl) fun _ _ => .get fun _ _ => ?_
    dsimp only
    split
    · exact .andThen (draws_printLine _) fun _ _ => draws_setFlags node
    · exact draws_setFlags node

theorem draws_setAllFlags :
    ∀ {entries : List (Datum × List Datum)}, DrawsHere tools stage stock (setAllFlags entries) True
  | [] => .done
  | (node, _) :: _ => by
    refine .andThen (.send rfl) fun _ _ => ?_
    refine .andThen (.send rfl) fun _ _ => ?_
    refine .andThen (.send rfl) fun _ _ => ?_
    exact .andThen (draws_setFlags node) fun _ _ => draws_setAllFlags

/-- Flags that are kept for nodes can be sorted by the paths of the nodes. -/
theorem passes_sortedTerminals (paths : ∀ entry ∈ terminals, ∃ path, entry.1 = .path path) :
    Passes (sortedTerminals terminals) := by
  have named : (terminals.any fun entry => entry.1.letters?.isNone) = false := by
    rw [any_eq_false]
    intro entry member
    obtain ⟨_, same⟩ := paths entry member
    simp [same, Datum.letters?]
  rw [sortedTerminals, named, Bool.and_false, if_neg Bool.false_ne_true]
  exact Act.passes_ok _

/-- Changes that have begun can be ended, and ending them makes no connection. -/
theorem settles_finish (standing : Standing tools stage stock construction)
    (isOpen : construction.isOpen = true) :
    Settles finish construction tools.Willing True fun _ after =>
      WellJoined after.commands.toList := by
  have closed : DrawsHere tools stage stock (send .closeBracket) True := .send rfl
  refine .andThen (closed construction standing) fun _ first _ left => .get ?_
  obtain ⟨grows, -, standing⟩ := left
  obtain ⟨_, same⟩ := passes_sortedTerminals standing.terminals
  rw [same, Act.ok_bind]
  refine .andThen (draws_setAllFlags first standing) fun _ second _ left => .get ?_
  rw [left.1.isOpen, grows.isOpen, isOpen, if_pos rfl]
  exact (draws_printLine _ second left.2.2).imp fun _ _ finish => finish.2.2.joined

/-! ## Whole scripts -/

/-- The stage before anything is built. -/
def Stage.root (root : String) : Stage := ⟨⟨⟨root⟩, {}, []⟩, []⟩

theorem standing_start (tools : Tools) (plain : '.' ∉ root.toList) :
    Standing tools (Stage.root root) [] (.start tools.registry tools.host root) where
  registry := rfl
  host := rfl
  contexts := rfl
  frames := by
    refine .cons ⟨?_, rfl, ?_, ?_⟩ .nil
    · simpa [NodePath.isPort, Stage.root] using plain
    all_goals exact forall_mem_nil _
  count := rfl
  joined := wellJoined_nil
  terminals := forall_mem_nil _
  stock := forall_mem_nil _

theorem fresh_start (numbers : List Nat) (registry : Overload.Registry) (host : Host)
    (root : String) : Fresh numbers (.start registry host root) := by
  intro _ _
  simp [Construction.start]

theorem borrowed_termsContents :
    ∀ {terms : List Term}, (∀ term ∈ terms, term.contents.borrowed = []) →
      (termsContents terms).borrowed = []
  | [], _ => rfl
  | term :: _, closed => by
    rw [termsContents, Contents.borrowed_append, closed term (mem_cons_self ..),
      borrowed_termsContents (forall_mem_cons.mp closed).2]
    rfl

/-- The construction when its changes have begun. -/
def begun (construction : Construction) : Construction :=
  { construction with commands := construction.commands.push .openBracket, isOpen := true }

theorem settles_begin :
    Settles begin construction willing True fun _ opened => opened = begun construction := by
  refine .andThen (.modifies _) fun _ _ _ same => ?_
  subst same
  exact .modify rfl

theorem standing_begun (standing : Standing tools stage stock construction) :
    Standing tools stage stock (begun construction) := by
  have pushed : Standing tools stage stock
      { construction with commands := construction.commands.push .openBracket } :=
    standing.push rfl fun _ _ => Command.noConfusion
  exact { pushed with }

/-- A script whose compounds stand on their own is built exactly if its rehearsal passes, and its
connections are made within compounds. -/
theorem settles_emitScript (tools : Tools) (plain : '.' ∉ root.toList)
    (whole : WholeProgram (entries.filterMap id)) :
    Settles (emitScript entries) (.start tools.registry tools.host root) tools.Willing
      (Passes (rehearseEach tools.registry entries)) fun _ done =>
        WellJoined done.commands.toList := by
  have standing := standing_begun (standing_start tools plain)
  have fresh := fresh_start (termsContents (entries.filterMap id)).numbers tools.registry
    tools.host root
  have closed : ∀ node ∈ (termsContents (entries.filterMap id)).borrowed,
      node.id ∈ (Stage.root root).lent := by
    rw [borrowed_termsContents whole.closed]
    exact forall_mem_nil _
  refine .andThen settles_begin fun _ _ _ same => ?_
  subst same
  refine .attempted (builds_each entries [] rfl whole.orderly closed _ standing fresh)
    fun _ _ left => ?_
  exact settles_finish left.2.2 left.1.isOpen

end Scripts

/-! ## Accepted scripts -/

/-- However a script is written, if it is accepted and can be built, all its connections are made
within compounds, between nodes that were created before. -/
theorem wellJoined_of_accepted (around : Surroundings) (source : Source) (session : Session)
    (registry : Overload.Registry) (host : Host) (root : String) (plain : '.' ∉ root.toList) :
    Ensures (runScript around source) session fun entries _ =>
      Ensures (emitScript entries) (.start registry host root) fun _ done =>
        WellJoined done.commands.toList := by
  intro entries _ accepted _ done run
  have whole := Elaboration.wholeProgram_of_runScript accepted
  exact ((settles_emitScript ⟨registry, host⟩ plain whole).sound _ done run).2

/-- A registry of just the operators that are used without being called. -/
def ownRegistry : Overload.Registry :=
  { (default : Overload.Registry) with operators := ⟨ownOperators.map fun name => (name, default)⟩ }

/-- A compound with a call and a compound in it, which are connected. -/
def connected : Source where
  path := "connected"
  text := ("function f(LONG x => LONG r) \x7b r = x + 1; \x7d " ++
    "compound t(LONG a => LONG c) \x7b LONG b = f(a) + 1; " ++
    "NODE n = compound(LONG x = b) => LONG y \x7b y = x * 2; \x7d c = n->y; \x7d").toList
  asAddress := false

theorem wellJoined_of_accepted_connected :
    Ensures (runScript default connected) default fun entries _ =>
      Ensures (emitScript entries) (.start ownRegistry {} "/") fun _ done =>
        WellJoined done.commands.toList :=
  wellJoined_of_accepted _ _ _ _ _ "/" (by decide)

/-- Where the host refuses no connection and the registry has the operators that are used without
being called, an accepted script is built exactly if its rehearsal passes. -/
theorem builds_iff_rehearses (around : Surroundings) (source : Source) (session : Session)
    (registry : Overload.Registry) (host : Host) (root : String) (plain : '.' ∉ root.toList)
    (willing : Tools.Willing ⟨registry, host⟩) :
    Ensures (runScript around source) session fun entries _ =>
      ((∃ value done, Yields (emitScript entries) (.start registry host root) value done) ↔
        Passes (rehearseEach registry entries)) := by
  intro entries _ accepted
  have whole := Elaboration.wholeProgram_of_runScript accepted
  have settles := settles_emitScript ⟨registry, host⟩ plain whole
  constructor
  · rintro ⟨value, done, run⟩
    exact (settles.sound value done run).1
  · exact settles.total willing

theorem stocked_ownRegistry : Stocked ownRegistry := by
  unfold Stocked
  decide +kernel

theorem builds_iff_rehearses_connected :
    Ensures (runScript default connected) default fun entries _ =>
      ((∃ value done, Yields (emitScript entries) (.start ownRegistry {} "/") value done) ↔
        Passes (rehearseEach ownRegistry entries)) :=
  builds_iff_rehearses _ _ _ ownRegistry {} "/" (by decide) ⟨rfl, stocked_ownRegistry⟩

end GraphScript.Emission
