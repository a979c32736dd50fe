import GraphScript.Proofs.Elaboration.Script
import GraphScript.Proofs.Elaboration.Traces
import Mathlib.Logic.Relation

/-!
# Accepted scripts

An accepted script gives one compound for every compound at its top level, in the order in which
they are written, and stores functions, whose bodies calls copy again and again.  Wherever a
compound, a function body or a loop stands in what is given or stored, or in a copy of it, its
header is well formed.

`Term.subterms` walks through all of a term, also through the nodes that it borrows.  In a term that
stands on its own every borrowed node is owned by an assignment before it, so the walk meets nothing
but parts that the term owns.
-/

namespace GraphScript.Program

open List

mutual

/-- All terms in a term at any depth, itself the last. -/
def Term.subterms : Term → List Term
  | .mk id form => form.subterms ++ [.mk id form]

/-- All terms in a form. -/
def Form.subterms : Form → List Term
  | .value _ _ => []
  | .reference _ _ => []
  | .vector _ _ values => termsSubterms values
  | .matrix _ _ columns => columnsSubterms columns
  | .sheet _ _ columns => columnsSubterms columns
  | .array _ values => termsSubterms values
  | .emptyArray _ count => count.subterms
  | .object entries => entriesSubterms entries
  | .enumeration _ _ => []
  | .not _ value => value.subterms
  | .negate _ value => value.subterms
  | .binary _ _ _ left right => left.subterms ++ right.subterms
  | .comparison _ _ operands => termsSubterms operands
  | .access value accessor => value.subterms ++ accessor.subterms
  | .port _ node _ => node.subterms
  | .associative _ _ arguments named _ _ => argumentsSubterms arguments ++ argumentsSubterms named
  | .native _ arguments named _ _ _ _ => argumentsSubterms arguments ++ argumentsSubterms named
  | .function _ body arguments named _ _ _ _ =>
    argumentsSubterms arguments ++ argumentsSubterms named ++ body.subterms
  | .construct _ arguments named => argumentsSubterms arguments ++ argumentsSubterms named
  | .scope _ parameters _ code _ => parametersSubterms parameters ++ statementsSubterms code
  | .loop _ parameters _ code limit index _ condition =>
    index.subterms ++ optionSubterms limit ++ loopParametersSubterms parameters ++
      (statementsSubterms code ++ optionSubterms condition)

def termsSubterms : List Term → List Term
  | [] => []
  | term :: rest => term.subterms ++ termsSubterms rest

def columnsSubterms : List (List Term) → List Term
  | [] => []
  | column :: rest => termsSubterms column ++ columnsSubterms rest

/-- All terms in a term that may be missing. -/
def optionSubterms : Option Term → List Term
  | none => []
  | some term => term.subterms

def entriesSubterms : List Entry → List Term
  | [] => []
  | .mk key value :: rest => key.subterms ++ value.subterms ++ entriesSubterms rest

def Accessor.subterms : Accessor → List Term
  | .index _ value => value.subterms
  | .slice start stop step => optionSubterms start ++ optionSubterms stop ++ optionSubterms step
  | .orDefault _ key _ default => key.subterms ++ optionSubterms default
  | .member _ => []

def argumentsSubterms : List Argument → List Term
  | [] => []
  | .mk _ value :: rest => value.subterms ++ argumentsSubterms rest

def parametersSubterms : List Parameter → List Term
  | [] => []
  | .mk _ _ default :: rest => optionSubterms default ++ parametersSubterms rest

def loopParametersSubterms : List LoopParameter → List Term
  | [] => []
  | .mk _ _ default _ :: rest => optionSubterms default ++ loopParametersSubterms rest

def LoopIndex.subterms : LoopIndex → List Term
  | .mk _ _ start => start.subterms

def Target.subterms : Target → List Term
  | .ignored => []
  | .declared _ _ => []
  | .reference _ _ => []
  | .part _ _ base accessor _ => base.subterms ++ accessor.subterms

def targetsSubterms : List Target → List Term
  | [] => []
  | target :: rest => target.subterms ++ targetsSubterms rest

def Statement.subterms : Statement → List Term
  | .empty => []
  | .make term => term.subterms
  | .assignment _ targets _ value => value.subterms ++ targetsSubterms targets
  | .takeOver _ node => node.subterms

def statementsSubterms : List Statement → List Term
  | [] => []
  | statement :: rest => statement.subterms ++ statementsSubterms rest

end

/-! ## What is reached is owned or borrowed -/

/-- Where the parts are sound, each of some terms is owned or lies in a borrowed node. -/
class Contents.Covers (contents : Contents) (terms : List Term) : Prop where
  owned : contents.Sound → ∀ term ∈ terms,
    Item.term term ∈ contents.items ∨ ∃ lender ∈ contents.borrowed, term ∈ lender.subterms

namespace Contents.Covers

variable {first second contents : Contents} {front back terms : List Term}

instance none : contents.Covers [] := ⟨fun _ => forall_mem_nil _⟩

instance append [covers : first.Covers front] [coversBack : second.Covers back] :
    (first ++ second).Covers (front ++ back) where
  owned sound term member := by
    obtain ⟨soundFirst, soundSecond⟩ := sound_append.mp sound
    rcases mem_append.mp member with inFront | inBack
    · exact (covers.owned soundFirst term inFront).imp (mem_append_left _)
        fun ⟨lender, lent, inside⟩ =>
        ⟨lender, mem_append_left _ lent, inside⟩
    · exact (coversBack.owned soundSecond term inBack).imp (mem_append_right _)
        fun ⟨lender, lent, inside⟩ =>
        ⟨lender, mem_append_right _ lent, inside⟩

/-- A part that is no term is added. -/
instance part [contents.Covers terms] : (contents ++ .one item).Covers terms := by
  have whole : (contents ++ .one item).Covers (terms ++ []) := append
  rwa [append_nil] at whole

instance loan : (Contents.loan node reached).Covers node.subterms :=
  ⟨fun _ _ member => .inr ⟨node, mem_singleton_self _, member⟩⟩

/-- A term is added to its parts, which are covered because it is sound. -/
theorem term {id : Nat} (covers : (Item.term (.mk id form)).Sound →
    form.contents.Covers form.subterms) :
    (Term.mk id form).contents.Covers (Term.mk id form).subterms where
  owned sound := by
    have itself : (Item.term (.mk id form)).Sound := by simpa using (sound_append.mp sound).2
    have parts := covers itself
    have last : (one (.term (.mk id form))).Covers [.mk id form] := ⟨fun _ _ member => by
      rw [mem_singleton.mp member]
      exact .inl (mem_singleton_self _)⟩
    exact append.owned sound

/-- What a body borrows can be left out when all that is reached through it is owned anyway. -/
theorem enclosed [covers : contents.Covers terms]
    (settled : contents.Sound →
      ∀ lender ∈ contents.borrowed, ∀ term ∈ lender.subterms, Item.term term ∈ contents.items) :
    contents.enclosed.Covers terms where
  owned sound term member := by
    rcases covers.owned sound term member with owned | ⟨lender, lent, inside⟩
    · exact .inl owned
    · exact .inl (settled sound lender lent term inside)

end Contents.Covers

/-! ## Bodies -/

section Bodies

variable {term : Term}

theorem Statement.mem_subterms_of_assigned {statement : Statement}
    (assigned : lender ∈ statement.assigned) (inside : term ∈ lender.subterms) :
    term ∈ statement.subterms := by
  obtain ⟨⟨_, _, _, rfl⟩, -⟩ := Statement.of_mem_assigned assigned
  exact mem_append_left _ inside

/-- In a settled body, what is reached through a node that was borrowed or assigned before is owned,
or is reached through a node that was known at the start. -/
theorem Settled.owned :
    ∀ {code : List Statement} {known : List Term}, Settled known code →
      (statementsContents code).Sound →
      (∀ statement ∈ code, statement.contents.Covers statement.subterms) →
      ∀ lender ∈ (statementsContents code).borrowed ++ assignedIn code, term ∈ lender.subterms →
        Item.term term ∈ (statementsContents code).items ∨ ∃ lender ∈ known, term ∈ lender.subterms
  | [], _, _, _, _, _, lent, _ => by simp [statementsContents, assignedIn] at lent
  | statement :: rest, known, ⟨held, settled⟩, sound, covers, lender, lent, inside => by
    obtain ⟨soundFirst, soundRest⟩ := Contents.sound_append.mp sound
    obtain ⟨coversFirst, coversRest⟩ := forall_mem_cons.mp covers
    have ofFirst : term ∈ statement.subterms →
        Item.term term ∈ (statementsContents (statement :: rest)).items ∨
          ∃ lender ∈ known, term ∈ lender.subterms := by
      intro reached
      rcases coversFirst.owned soundFirst term reached with owned | ⟨lender, lent, inside⟩
      · exact .inl (mem_append_left _ owned)
      · exact .inr ⟨lender, held lender lent, inside⟩
    have ofRest : lender ∈ (statementsContents rest).borrowed ++ assignedIn rest →
        Item.term term ∈ (statementsContents (statement :: rest)).items ∨
          ∃ lender ∈ known, term ∈ lender.subterms := by
      intro later
      rcases Settled.owned settled soundRest coversRest lender later inside with
        owned | ⟨other, isKnown, reached⟩
      · exact .inl (mem_append_right _ owned)
      · rcases mem_append.mp isKnown with before | assigned
        · exact .inr ⟨other, before, reached⟩
        · exact ofFirst (Statement.mem_subterms_of_assigned assigned reached)
    simp only [statementsContents, assignedIn, Contents.borrowed_append, flatMap_cons,
      mem_append] at lent ofRest
    rcases lent with (first | later) | (assigned | later)
    · exact .inr ⟨lender, held lender first, inside⟩
    · exact ofRest (.inl later)
    · exact ofFirst (Statement.mem_subterms_of_assigned assigned inside)
    · exact ofRest (.inr later)

theorem statementsContents.covers
    (covers : ∀ statement ∈ code, statement.contents.Covers statement.subterms) :
    (statementsContents code).Covers (statementsSubterms code) := by
  induction code with
  | nil => exact .none
  | cons _ _ ih =>
    obtain ⟨_, others⟩ := forall_mem_cons.mp covers
    have := ih others
    exact .append

/-- A body, with a condition that borrows only what the body assigns, reaches only what it owns. -/
theorem Settled.covers (settled : Settled [] code) (condition : Option Term)
    (borrowed : ∀ node ∈ (optionContents condition).borrowed, node ∈ assignedIn code)
    (covers : ∀ statement ∈ code, statement.contents.Covers statement.subterms)
    [(optionContents condition).Covers (optionSubterms condition)] :
    (statementsContents code ++ optionContents condition).enclosed.Covers
      (statementsSubterms code ++ optionSubterms condition) := by
  have := statementsContents.covers covers
  refine .enclosed fun sound lender lent _ inside => ?_
  have known : lender ∈ (statementsContents code).borrowed ++ assignedIn code :=
    mem_append.mpr ((mem_append.mp lent).imp_right (borrowed lender))
  rcases settled.owned (Contents.sound_append.mp sound).1 covers lender known inside with
    owned | ⟨_, absent, _⟩
  · exact mem_append_left _ owned
  · exact (List.not_mem_nil absent).elim

end Bodies

/-- Only the bodies of compounds and loops need their parts to be sound. -/
theorem contents_cover :
    (∀ term : Term, term.contents.Covers term.subterms) ∧
    (∀ form id, (Item.term (.mk id form)).Sound → form.contents.Covers form.subterms) ∧
    (∀ parameters, (loopParametersContents parameters).Covers (loopParametersSubterms parameters)) ∧
    (∀ term, (optionContents term).Covers (optionSubterms term)) ∧
    (∀ index : LoopIndex, index.contents.Covers index.subterms) ∧
    (∀ code : List Statement, ∀ statement ∈ code, statement.contents.Covers statement.subterms) ∧
    (∀ statement : Statement, statement.contents.Covers statement.subterms) ∧
    (∀ targets, (targetsContents targets).Covers (targetsSubterms targets)) ∧
    (∀ target : Target, target.contents.Covers target.subterms) ∧
    (∀ accessor : Accessor, accessor.contents.Covers accessor.subterms) ∧
    (∀ parameters, (parametersContents parameters).Covers (parametersSubterms parameters)) ∧
    (∀ arguments, (argumentsContents arguments).Covers (argumentsSubterms arguments)) ∧
    (∀ entries, (entriesContents entries).Covers (entriesSubterms entries)) ∧
    (∀ columns, (columnsContents columns).Covers (columnsSubterms columns)) ∧
    (∀ terms, (termsContents terms).Covers (termsSubterms terms)) := by
  apply Term.contents.mutual_induct
  case case1 => exact fun id _ covers => .term (covers id)
  case case22 =>
    intro _ _ _ _ _ _ covers id sound
    have : (optionContents none).Covers (optionSubterms none) := .none
    have body := sound.2.covers none (by simp [optionContents]) covers
    simp only [optionContents, optionSubterms, Contents.append_none, append_nil] at body
    exact .append
  case case23 =>
    intro _ _ _ _ _ _ _ _ _ _ _ covers _ _ sound
    have body := sound.2.1.covers _ sound.2.2 covers
    exact .append
  case case47 => exact forall_mem_nil _
  case case48 => exact fun _ _ first others => forall_mem_cons.mpr ⟨first, others⟩
  all_goals intros
  all_goals
    simp only [Form.contents, termsContents, columnsContents, optionContents, entriesContents,
      Accessor.contents, argumentsContents, parametersContents, loopParametersContents,
      LoopIndex.contents, Target.contents, targetsContents, Statement.contents, Form.subterms,
      termsSubterms, columnsSubterms, optionSubterms, entriesSubterms, Accessor.subterms,
      argumentsSubterms, parametersSubterms, loopParametersSubterms, LoopIndex.subterms,
        Target.subterms, targetsSubterms, Statement.subterms]
    infer_instance

/-- A term that stands on its own owns all that can be reached from it. -/
theorem Term.Whole.owned {term : Term} (whole : term.Whole) (reached : node ∈ term.subterms) :
    Item.term node ∈ term.contents.items := by
  rcases (contents_cover.1 term).owned whole.orderly.sound node reached with owned | ⟨_, lent, _⟩
  · exact owned
  · rw [whole.closed] at lent
    exact (List.not_mem_nil lent).elim

end GraphScript.Program

/-! ## Headers -/

namespace GraphScript.Elaboration

open Act (Yields Ensures yields_bind yields_pure yields_modify)
open Program
open Syntax (Exec)

section Accepted

variable {term : Term}

/-- A term is copied, with numbers from some number on. -/
def Copied (term copy : Term) : Prop := ∃ start after, Yields term.copy ⟨start, []⟩ copy after

theorem Copied.whole (copied : Copied term copy) (whole : term.Whole) : copy.Whole := by
  obtain ⟨start, _, run⟩ := copied
  obtain ⟨-, _, rfl, injective, -⟩ := Term.ensures_copy whole.orderly whole.closed start _ _ run
  exact whole.renamed injective

/-- A copy of a copy, and so on, of a term that stands on its own stands on its own. -/
theorem whole_of_copies (copies : Relation.ReflTransGen Copied term copy) (whole : term.Whole) :
    copy.Whole := by
  induction copies with
  | refl => exact whole
  | tail _ copied ih => exact copied.whole ih

theorem orderly_of_mem (member : term ∈ terms) (orderly : (termsContents terms).Orderly) :
    term.contents.Orderly := by
  induction terms with
  | nil => exact (List.not_mem_nil member).elim
  | cons _ _ ih =>
    rcases List.mem_cons.mp member with rfl | later
    · exact orderly.left
    · exact ih later orderly.right

theorem whole_of_mem (program : WholeProgram terms) (member : term ∈ terms) :
    term.Whole where
  orderly := orderly_of_mem member program.orderly
  closed := program.closed term member
  isScope := program.isScope term member

/-- What a script leaves behind: the compounds that it gives, and the bodies of the functions that
it stores. -/
def Kept (results : List (Option Term)) (after : Session) (term : Term) : Prop :=
  some term ∈ results ∨ ∃ entry ∈ after.functions.entries, entry.2.body = term

theorem whole_of_kept {around : Surroundings} {source : Source} {results : List (Option Term)}
    (accepted : Yields (runScript around source) before results after)
    (kept : Kept results after term) : term.Whole := by
  obtain ⟨functions, -, program⟩ := made_runSource (imports_runImport around _) accepted
  rcases kept with given | ⟨entry, stored, rfl⟩
  · exact whole_of_mem program (by simpa using given)
  · exact functions entry stored

theorem wellFormed_of_sound (sound : (Item.term node).Sound) (has : header ∈ node.form.header?) :
    header.WellFormed := by
  obtain ⟨_, form⟩ := node
  cases form with
  | scope
  | loop =>
    cases has
    exact sound.1
  | _ => cases has

end Accepted

/-- In all that an accepted script gives or stores, and in every copy of it and copy of a copy, at
any depth the names of parameters are distinct, those of results are distinct and not those of
parameters, and results are fed back to parameters of their types, each to one of its own. -/
theorem wellFormed_of_accepted (around : Surroundings) (source : Source) (session : Session) :
    Ensures (runScript around source) session fun results after =>
      ∀ term, Kept results after term → ∀ copy, Relation.ReflTransGen Copied term copy →
        ∀ node ∈ copy.subterms, ∀ header ∈ node.form.header?, header.WellFormed := by
  intro results after accepted term kept copy copies node reached header has
  have whole := whole_of_copies copies (whole_of_kept accepted kept)
  exact wellFormed_of_sound (whole.orderly.sound _ (whole.owned reached)) has

/-- A compound in a compound, both with a result that is fed back. -/
theorem wellFormed_of_accepted_nested :
    Ensures (runScript default ⟨"nested", ("compound t(INT a, INT b => INT r@a) \x7b " ++
        "compound u(INT c => INT s@c) \x7b s = c; \x7d r = b; \x7d").toList, false⟩) default
      fun results after =>
        ∀ term, Kept results after term → ∀ copy, Relation.ReflTransGen Copied term copy →
          ∀ node ∈ copy.subterms, ∀ header ∈ node.form.header?, header.WellFormed :=
  wellFormed_of_accepted _ _ _

/-! ## What a script gives -/

/-- A compound has the name that was written, and the ports of the written header. -/
def Represents : Syntax.Block → Term → Prop
  | .mk name _ writtenParameters writtenResults _, .mk _ (.scope title parameters results _ _) =>
    title = name.getD "unnamed" ∧
      parameters.map Parameter.name = writtenParameters.map Syntax.Parameter.name ∧
      results.map Result.name = writtenResults.items.map Syntax.Result.name
  | _, _ => False

/-- The compound that stands at the top level, if it is one. -/
def compound? : Exec → Option Syntax.Block
  | .block written => some written
  | _ => none

section Results

theorem represents_block {result : Term} (runs : Yields (block written) before result after) :
    Represents written result := by
  cases written with
  | mk =>
    simp only [block, fresh, yields_bind, yields_pure] at runs
    obtain ⟨_, _, -, _, _, runParameters, _, _, runResults, _, _, -, _, _, -, _, _, -, _, _, -, rfl,
      -⟩ := runs
    exact ⟨rfl, (names_parameters runParameters).1, names_results runResults⟩

/-- A compound gives a compound, and every other entry gives nothing. -/
theorem gives_exec {result : Option Term}
    (runs : Yields (exec around run written) before result after) :
    Option.Rel Represents (compound? written) result := by
  cases written with
  | block =>
    obtain ⟨_, runBlock, rfl⟩ := runs.mapped
    exact .some (represents_block runBlock)
  | function | overload | importing =>
    obtain ⟨_, _, rfl⟩ := runs.mapped
    exact .none

/-- The compounds among the results are those among the entries, in their order. -/
theorem gives_execs :
    ∀ {written : List Exec} {before after : Session} {results : List (Option Term)},
      Yields (execs around run written) before results after →
      written.length = results.length ∧
        List.Forall₂ Represents (written.filterMap compound?) (results.filterMap id)
  | [], _, _, _ => by
    intro runs
    obtain ⟨rfl, rfl⟩ := runs.pure
    exact ⟨rfl, .nil⟩
  | written :: _, _, _, _ => by
    intro runs
    obtain ⟨_, _, runFirst, runs⟩ := runs.bind
    obtain ⟨_, runRest, rfl⟩ := runs.mapped
    obtain ⟨length, later⟩ := gives_execs runRest
    refine ⟨congrArg (· + 1) length, ?_⟩
    have now := gives_exec runFirst
    rw [List.filterMap_cons, List.filterMap_cons]
    revert now
    generalize compound? written = block
    rintro (now | _)
    · exact .cons now later
    · exact later

theorem resultsOf_eq (entries : List (Option Term)) :
    resultsOf entries =
      if entries.length = 1 ∧ (entries.filterMap id).isEmpty then [none]
      else (entries.filterMap id).map some := by
  have kept : ∀ entries : List (Option Term),
      entries.filter Option.isSome = (entries.filterMap id).map some := by
    intro entries
    induction entries with
    | nil => rfl
    | cons entry _ ih => cases entry <;> simp [ih]
  match entries with
  | [none] => rfl
  | [some _] => rfl
  | [] => rfl
  | first :: _ :: _ => simp [resultsOf, kept]

end Results

/-- An accepted script gives exactly one compound for every compound at its top level, in their
order, and nothing else; only a script of one entry that is no compound gives nothing in place of a
compound. -/
theorem results_of_accepted (around : Surroundings) (source : Source) (session : Session) :
    Ensures (runScript around source) session fun results _ =>
      ∃ written, Reads source written ∧
        ∃ terms, List.Forall₂ Represents (written.filterMap compound?) terms ∧
          results = if written.length = 1 ∧ terms.isEmpty then [none] else terms.map some := by
  intro results after accepted
  simp only [runScript, runSource, yields_bind, yields_modify] at accepted
  obtain ⟨_, _, rfl, tree, _, runParse, accepted⟩ := accepted
  split at accepted
  · exact accepted.throw
  · rename_i written found
    obtain ⟨entries, _, runExecs, finish⟩ := accepted.bind
    obtain ⟨rfl, -⟩ := finish.pure
    obtain ⟨length, same⟩ := gives_execs runExecs
    refine ⟨written, reads_of_parsed runParse found, entries.filterMap id, same, ?_⟩
    rw [length]
    exact resultsOf_eq entries

/-- A function between two compounds. -/
def twoCompounds : Source :=
  ⟨"twoCompounds", "compound a() \x7b \x7d function f() \x7b \x7d compound b() \x7b \x7d".toList,
    false⟩

theorem results_of_accepted_twoCompounds :
    Ensures (runScript default twoCompounds) default fun results _ =>
      ∃ written, Reads twoCompounds written ∧
        ∃ terms, List.Forall₂ Represents (written.filterMap compound?) terms ∧
          results = if written.length = 1 ∧ terms.isEmpty then [none] else terms.map some :=
  results_of_accepted _ _ _

end GraphScript.Elaboration
