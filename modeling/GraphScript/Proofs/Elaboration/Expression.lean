import GraphScript.Proofs.Elaboration.Orderly
import GraphScript.Proofs.Lookup

/-!
# Expressions are orderly

The recursion over expressions, with calls and accesses.  A call of a function contains a copy of
its body, whose numbers are new because a copy is a renaming to new numbers.
-/

namespace GraphScript.Elaboration

open Act (Yields yields_modify yields_zoom)
open GraphScript.Language (Tree)
open Program

variable {spot : Tree} {terminals : Terminals} {positional named : List Given} {standing : Standing}
  {known : List Term}

variable {name port : String} {node : Term} {function : Function}

/-! ## Arguments -/

/-- The parts of the arguments of a call. -/
def givenContents (given : List Given) : Contents := argumentsContents (argumentsOf given)

theorem argumentsContents_append (front back : List Argument) :
    argumentsContents (front ++ back) = argumentsContents front ++ argumentsContents back := by
  induction front with
  | nil => rfl
  | cons argument _ ih =>
    obtain ⟨_, _⟩ := argument
    exact (congrArg (_ ++ ·) ih).trans (Contents.append_assoc ..).symm

theorem givenContents_append (front back : List Given) :
    givenContents (front ++ back) = givenContents front ++ givenContents back := by
  unfold givenContents argumentsOf
  rw [List.map_append, argumentsContents_append]

theorem argumentsContents_perm (perm : front.Perm back) :
    (argumentsContents front).Alike (argumentsContents back) := by
  induction perm with
  | nil => exact Contents.Alike.refl _
  | cons argument _ ih =>
    obtain ⟨_, _⟩ := argument
    exact (Contents.Alike.refl _).append ih
  | swap first second =>
    obtain ⟨_, first⟩ := first
    obtain ⟨_, second⟩ := second
    exact Contents.Alike.swap _ _ _
  | trans _ _ firstHypothesis secondHypothesis => exact firstHypothesis.trans secondHypothesis

theorem givenContents_inPortOrder (names : List String) (named : List Given) :
    (givenContents named).Alike (givenContents (inPortOrder names named)) :=
  argumentsContents_perm ((List.mergeSort_perm _ _).symm.map _)

theorem splitNamed_eq (split : splitNamed given = some (positional, named)) :
    given = positional ++ named := by
  induction given generalizing positional named with
  | nil =>
    cases split
    rfl
  | cons _ _ ih =>
    unfold splitNamed at split
    split at split
    · split at split
      · cases split
        rfl
      · cases split
    · obtain ⟨⟨_, _⟩, found, same⟩ := Option.map_eq_some_iff.mp split
      cases same
      rw [ih found]
      rfl

theorem crafts_splitArguments (listSpot : Tree) (given : List Given) :
    Crafts standing known (givenContents given) (splitArguments listSpot given)
      fun parts => givenContents parts.1 ++ givenContents parts.2 := by
  unfold splitArguments
  split
  · next split => exact .pure (by rw [← givenContents_append, ← splitNamed_eq split])
  · exact .stop

/-! ## Copies of functions -/

theorem FunctionsSound.insert (sound : FunctionsSound functions) (new : function.body.Whole) :
    FunctionsSound (functions.insert name function) :=
  Table.forall_insert sound new

theorem FunctionsSound.lookup (sound : FunctionsSound functions)
    (found : functions.lookup? name = some function) : function.body.Whole := by
  obtain ⟨_, -, get⟩ := Option.bind_eq_some_iff.mp (Table.lookup?_eq .. ▸ found)
  exact sound _ (Table.mem_of_get? get)

section Steps

variable {before after : Session} {contents : Contents} {result : Term}

/-- A copy of the body of a sound function is orderly and has new numbers. -/
theorem made_copyOf (ok : before.Ok known) (sound : function.body.Whole)
    (run : Yields (copyOf function.body) before result after) :
    Made known before after result.contents ∧ result.Whole := by
  obtain ⟨_, runCopy, rfl⟩ := yields_zoom.mp run
  obtain ⟨le, _, rfl, injective, range⟩ :=
    Term.ensures_copy sound.orderly sound.closed before.nextId _ _ runCopy
  have whole := sound.renamed injective
  refine ⟨⟨⟨le, whole.orderly.nodup, ?_, whole.orderly.sound⟩, rfl, ⟨ok.functions, ok.holds⟩,
    by simp [whole.closed]⟩, whole⟩
  rw [Term.contents_renamed, Contents.numbers_renamed, List.forall_mem_map]
  exact fun number own => range number (Contents.numbers_subset_reach own)

theorem makes_callFunction (sound : function.body.Whole) :
    Makes known (givenContents positional ++ givenContents named)
      (callFunction spot name full function terminals positional named) Term.contents := by
  intro _ middle _ _ made run
  obtain ⟨body, copied, runCopy, run⟩ := run.bind
  obtain ⟨_, _, runStore, run⟩ := run.bind
  obtain rfl := yields_modify.mp runStore
  obtain ⟨madeBody, newSound⟩ := made_copyOf made.ok sound runCopy
  have madeStored : Made known middle
      { copied with functions := copied.functions.insert full { function with body := body } }
      body.contents :=
    ⟨madeBody.spans, madeBody.scopes, ⟨madeBody.ok.functions.insert newSound, madeBody.ok.holds⟩,
      madeBody.held⟩
  have alike := (Contents.Alike.refl (givenContents positional)).append (givenContents_inPortOrder
    (Function.parameters { function with body := body } |>.map Parameter.name) named)
  refine Makes.quiet (fun _ => ?_)
    ((made.congr alike).append madeStored) run
  refine .bind (.term fun _ => newSound.isScope) fun _ => ?_
  exact .quiet fun _ => .pure

theorem inner_callFunction (spot : Tree) (name full : String) (function : Function)
    (terminals : Terminals) (positional named : List Given) :
    Inner standing (callFunction spot name full function terminals positional named) := by
  refine .bind (.copy _) fun body => ?_
  refine .bind (.define fun functions => functions.insert full { function with body := body })
    fun _ => ?_
  refine .bind .quiet fun _ => .bind (.fresh _) fun _ => ?_
  exact .bind .quiet fun _ => .pure

/-! ## Operators -/

theorem crafts_callAssociative :
    Crafts standing known (givenContents positional ++ givenContents named)
      (callAssociative spot name terminals positional named) Term.contents := by
  refine .quiet fun _ => .quiet fun _ => ?_
  exact .lift fun _ => .lift fun _ => .term

theorem crafts_callNative :
    Crafts standing known (givenContents positional ++ givenContents named)
      (callNative spot name terminals positional named) Term.contents := by
  refine .quiet fun _ => .lift fun _ => .lift fun names => .lift fun binding => ?_
  match binding with
  | .error none => exact .throw
  | .error (some _) => exact .stop
  | .ok _ =>
    refine .quiet fun answer => ?_
    cases answer with
    | dismissed => exact .throw
    | failed => exact .stop
    | found =>
      refine .lift fun _ => .lift fun _ => ?_
      refine .bind (.congr .term
        ((Contents.Alike.refl _).append (givenContents_inPortOrder names.1 named))) fun _ => ?_
      exact .quiet fun _ => .pure

theorem crafts_callNamed :
    Crafts standing known (givenContents positional ++ givenContents named)
      (callNamed spot nameSpot name terminals positional named) Term.contents := by
  refine .ite ?_ (.look (fun _ _ => rfl) fun _ => ?_)
  · refine .quiet fun _ => .looked fun _ found => .instead ?_
    exact .term fun _ => by rw [Typing.eq_mk_of_make found]; rfl
  · dsimp only
    split
    · next found => exact ⟨fun sound => makes_callFunction (sound.lookup found),
        inner_callFunction ..⟩
    · refine Crafts.always (.quiet fun registry => ?_)
      split
      · exact .stop
      · refine .quiet fun _ => .lift fun _ => ?_
        exact .ite crafts_callAssociative crafts_callNative

theorem crafts_construct :
    Crafts standing known (givenContents positional ++ givenContents named)
      (construct spot type positional named) Term.contents := by
  refine .lift fun _ => .guard fun _ => .lift fun _ => ?_
  exact .quiet fun _ => .term

/-! ## Parts of values -/

/-- The parts of accessors. -/
def accessorsContents : List Accessor → Contents
  | [] => .none
  | accessor :: rest => accessor.contents ++ accessorsContents rest

theorem accessorsContents_append (front back : List Accessor) :
    accessorsContents (front ++ back) = accessorsContents front ++ accessorsContents back := by
  induction front with
  | nil => rfl
  | cons _ _ ih =>
    rw [List.cons_append, accessorsContents, accessorsContents, ih, Contents.append_assoc]

theorem crafts_emptyArray (spot : Tree) (type : String) (count : Option Term) :
    Crafts standing known (optionContents count) (emptyArray spot type count) Term.contents := by
  refine .guard fun _ => .lift fun _ => ?_
  cases count with
  | some => exact .term
  | none => exact .bind (crafts_literal fun _ _ => trivial) fun _ => .term

/-- Reaching a part makes a term after some checks. -/
theorem crafts_accessPart {accessor : Accessor} (spot : Tree)
    (crafts : Crafts standing known contents (fresh (.access value accessor)) parts) :
    Crafts standing known contents (accessPart spot value accessor) parts := by
  refine .lift fun _ => ?_
  cases accessor with
  | index | slice =>
    exact .lift fun _ => .guard fun _ => .guard fun _ => .lift fun _ => .guard fun _ => crafts
  | orDefault => exact .guard fun _ => crafts
  | member => exact .ite (.lift fun _ => .quiet fun _ => crafts) crafts

theorem Crafts.term_append (same : given = form.contents ++ contents)
    (sound : ∀ id, (Item.term (.mk id form)).Sound) :
    Crafts standing known given (fresh form) fun result => result.contents ++ contents := by
  subst same
  refine ⟨fun start _ _ _ made run => ?_, .fresh form⟩
  obtain ⟨id, runId, rfl⟩ := run.mapped
  have numbered : Made known start _ (form.contents ++ contents ++ .one (.term (.mk id form))) :=
    made.numbered runId rfl (sound id)
  refine numbered.congr ⟨?_, ?_, ?_⟩
  · simp only [Term.contents, Contents.items_append, Contents.one_items, List.append_assoc]
    exact List.Perm.append_left _ List.perm_append_comm
  · intro _
    simp [Term.contents]
  · intro _
    simp only [Term.contents, Contents.mem_reach_append]
    tauto

theorem crafts_accessParts (spot : Tree) (value : Term) (accessors : List Accessor) :
    Crafts standing known (value.contents ++ accessorsContents accessors)
      (accessParts spot value accessors) Term.contents := by
  induction accessors generalizing value with
  | nil => exact .pure (Contents.append_none _)
  | cons _ _ ih =>
    rw [accessorsContents, ← Contents.append_assoc]
    exact .bind (crafts_accessPart spot (.term_append rfl fun _ => trivial)) fun part => ih part

/-! ## Ports -/

theorem makesNode_of_outputs (found : node.outputs = .ok outputs)
    (member : (outputs.map Prod.fst).contains port = true) : node.form.makesNode := by
  unfold Term.outputs Term.outputs? at found
  cases form_eq : node.form <;> rw [form_eq] at found
  all_goals
    first
      | rfl
      | cases found
  simp at member

theorem crafts_portOf
    (crafts : node.form.makesNode →
      Crafts standing known contents (fresh (.port holder node port)) Term.contents) :
    Crafts standing known contents (portOf spot holder node port) Term.contents := by
  refine .lift fun _ => .guard fun _ => .looked fun _ found => .guard fun member => ?_
  exact crafts (makesNode_of_outputs found (by simpa using member))

theorem holds_of_value? (found : scopes.value? name = .ok (some node))
    (makesNode : node.form.makesNode) : Holds scopes node := by
  unfold Scopes.value? Scopes.innermost at found
  cases head : scopes.head? with
  | none =>
    rw [head] at found
    cases found
  | some frame =>
    rw [head] at found
    exact ⟨frame, name, head, Except.ok.inj found, makesNode⟩

/-- A node that a variable holds is known. -/
theorem makes_nodeOf?
    (makes : ∀ held : Option Term, (∀ node ∈ held, node.form.makesNode → node ∈ known) →
      Makes known contents (next held) parts) :
      Makes known contents (nodeOf? name >>= next) parts := by
  intro _ _ _ _ made run
  obtain ⟨held, _, runNode, run⟩ := run.bind
  refine makes held (fun node isHeld makesNode => ?_) (made.step (keeps_nodeOf? name) runNode) run
  have runValue := runNode.afterGet
  obtain ⟨found, rfl⟩ := runValue.lift
  exact made.ok.holds node (holds_of_value? (isHeld ▸ found) makesNode)

/-- A known node can be borrowed. -/
theorem Makes.loan (isKnown : node ∈ known) (makes : Makes known (.loan node reach) action parts) :
    Makes known .none action parts :=
  fun _ _ _ _ made run => makes
    ⟨⟨made.spans.le, List.nodup_nil, by simp, by simp⟩, made.scopes, made.ok, by
      simpa using isKnown⟩ run

theorem crafts_portOfKnown (isKnown : node.form.makesNode → node ∈ known) :
    Crafts standing known .none (portOf spot (some name) node port) Term.contents :=
  crafts_portOf fun makesNode => ⟨.loan (isKnown makesNode) (.term fun _ => makesNode), .fresh _⟩

theorem crafts_portOfName (spot : Tree) (port : String) (reads : standing.Reads [name]) :
    Crafts standing known .none (portOfName spot name port) Term.contents := by
  refine .typeOf reads fun found => ?_
  cases found with
  | none => exact .stop
  | some =>
    refine .guard fun _ => ⟨makes_nodeOf? fun held isKnown => ?_, .bind (.nodeOf reads)
      fun held => ?_⟩
    · cases held with
      | none => exact Crafts.toMakes .throw
      | some node => exact Crafts.toMakes (crafts_portOfKnown (isKnown node rfl))
    · cases held with
      | none => exact .throw
      | some node => exact (crafts_portOfKnown fun _ => List.mem_singleton_self node).inner

end Steps

/-! ## The recursion -/

/-- The parts of the bounds of a slice. -/
def boundContents (bound : Option (Tree × Term)) : Contents := optionContents (bound.map Prod.snd)

/-- The parts of what is passed to a call. -/
def passedContents : String ⊕ Term → Contents
  | .inl _ => .none
  | .inr value => value.contents

mutual

theorem crafts_expression : ∀ expr : Syntax.Expr, standing.Reads expr.names →
    Crafts standing known .none (expression expr) Term.contents
  | .text _ _, _ => by
    exact .quiet fun _ => crafts_literal fun _ same => same
  | .index spot, reads => by
    exact crafts_readIndex spot reads
  | .truth _, _ => by
    exact crafts_literal fun _ _ => trivial
  | .number type letters raw, _ => by
    exact crafts_number type letters raw
  | .name spot _, reads => by
    exact crafts_readVariable spot reads
  | .enumeration raw, _ => by
    exact crafts_enumerationValue raw
  | .vector _ values _, reads => by
    refine .bind (crafts_expressions values reads) fun terms => .lift fun component => ?_
    exact .lift fun types => .quiet fun type => .term
  | .matrix _ columns _, reads => by
    refine .bind (crafts_columnExpressions columns reads) fun terms => .lift fun _ => ?_
    exact .lift fun types => .quiet fun type => .term
  | .array _ values, reads => by
    refine .bind (crafts_expressions values reads) fun terms => .lift fun _ => ?_
    exact .quiet fun _ => .term
  | .emptyArray spot type count, reads => by
    exact .bind (crafts_optionalExpression count reads) fun count =>
      crafts_emptyArray spot type count
  | .object entries, reads => by
    exact .bind (crafts_entryTerms entries reads) fun terms => .term
  | .call written, reads => by
    exact crafts_call written reads
  | .access spot base chain, reads => by
    obtain ⟨readsBase, readsChain⟩ := Standing.reads_append.mp reads
    refine .bind (crafts_expression base readsBase) fun value => ?_
    refine .bind (crafts_visitChain chain readsChain).onto fun accessors => ?_
    exact crafts_accessParts spot value accessors
  | .portOfName spot _ port, reads => by
    exact crafts_portOfName spot port reads
  | .portOfCall _ written _, reads => by
    refine .bind (crafts_call written reads) fun _ => crafts_portOf fun makesNode => ?_
    exact .term fun _ => makesNode
  | .unary spot operator value, reads => by
    exact .bind (crafts_expression value reads) fun value => crafts_unary spot operator value
  | .binary _ _ _ left right, reads => by
    obtain ⟨readsLeft, readsRight⟩ := Standing.reads_append.mp reads
    refine .bind (crafts_expression left readsLeft) fun _ => ?_
    refine .bind (crafts_expression right readsRight).onto fun _ => ?_
    exact .quiet fun type => .term
  | .comparison _ _ operands, reads => by
    refine .bind (crafts_expressions operands reads) fun _ => ?_
    exact .quiet fun _ => .term

theorem crafts_expressions : ∀ exprs : List Syntax.Expr, standing.Reads (Syntax.namesOfAll exprs) →
    Crafts standing known .none (expressions exprs) termsContents
  | [], _ => by
    exact .pure
  | expr :: rest, reads => by
    obtain ⟨readsFirst, readsRest⟩ := Standing.reads_append.mp reads
    refine .bind (crafts_expression expr readsFirst) fun _ => ?_
    exact .bind (crafts_expressions rest readsRest).onto fun _ => .pure

theorem crafts_columnExpressions : ∀ columns : List (List Syntax.Expr),
    standing.Reads (Syntax.namesOfColumns columns) →
    Crafts standing known .none (columnExpressions columns) columnsContents
  | [], _ => by
    exact .pure
  | column :: rest, reads => by
    obtain ⟨readsFirst, readsRest⟩ := Standing.reads_append.mp reads
    refine .bind (crafts_expressions column readsFirst) fun _ => ?_
    exact .bind (crafts_columnExpressions rest readsRest).onto fun _ => .pure

theorem crafts_optionalExpression : ∀ expr : Option Syntax.Expr,
    standing.Reads (Syntax.namesOfOption expr) →
    Crafts standing known .none (optionalExpression expr) optionContents
  | none, _ => by
    exact .pure
  | some expr, reads => by
    exact .bind (crafts_expression expr reads) fun _ => .pure

theorem crafts_entryTerms : ∀ entries : List Syntax.Entry,
    standing.Reads (Syntax.namesOfEntries entries) →
    Crafts standing known .none (entryTerms entries) entriesContents
  | [], _ => by
    exact .pure
  | .mk key value _ _ :: rest, reads => by
    obtain ⟨readsEntry, readsRest⟩ := Standing.reads_append.mp reads
    obtain ⟨readsKey, readsValue⟩ := Standing.reads_append.mp readsEntry
    refine .bind (crafts_expression key readsKey) fun _ => ?_
    refine .bind (crafts_expression value readsValue).onto fun _ => ?_
    refine .quiet fun _ => .quiet fun _ => ?_
    exact .bind (crafts_entryTerms rest readsRest).onto fun _ => .pure

theorem crafts_visitChain : ∀ chain : Syntax.Chain, standing.Reads chain.names →
    Crafts standing known .none (visitChain chain) accessorsContents
  | .one written, reads => by
    exact .bind (crafts_accessor written reads) fun _ => .pure (Contents.append_none _).symm
  | .more front written, reads => by
    obtain ⟨readsFront, readsLast⟩ := Standing.reads_append.mp reads
    have visit := crafts_visitChain front readsFront
    have last := crafts_accessor written readsLast
    refine .bind visit.forget fun _ => .bind last.forget fun _ => ?_
    refine .bind visit.forget fun _ => .bind last.forget fun _ => ?_
    refine .bind (crafts_collectChain front readsFront) fun _ => .bind last.onto fun _ => .pure ?_
    rw [accessorsContents_append, accessorsContents, accessorsContents, Contents.append_none]

theorem crafts_collectChain : ∀ chain : Syntax.Chain, standing.Reads chain.names →
    Crafts standing known .none (collectChain chain) accessorsContents
  | .one written, reads => by
    exact .bind (crafts_accessor written reads) fun _ => .pure (Contents.append_none _).symm
  | .more front written, reads => by
    obtain ⟨readsFront, readsLast⟩ := Standing.reads_append.mp reads
    have last := crafts_accessor written readsLast
    refine .bind (crafts_visitChain front readsFront).forget fun _ => .bind last.forget fun _ => ?_
    refine .bind (crafts_collectChain front readsFront) fun _ => .bind last.onto fun _ => .pure ?_
    rw [accessorsContents_append, accessorsContents, accessorsContents, Contents.append_none]

theorem crafts_accessor : ∀ written : Syntax.Accessor, standing.Reads written.names →
    Crafts standing known .none (accessor written) Accessor.contents
  | .index value, reads => by
    refine .bind (crafts_expression value reads) fun _ => .lift fun _ => ?_
    exact .numbered .accessor (fun _ => rfl) (fun _ => rfl) fun _ => trivial
  | .slice start stop step, reads => by
    obtain ⟨readsFront, readsStep⟩ := Standing.reads_append.mp reads
    obtain ⟨readsStart, readsStop⟩ := Standing.reads_append.mp readsFront
    refine .bind (crafts_bound start readsStart) fun _ => ?_
    refine .bind (crafts_bound stop readsStop).onto fun _ => ?_
    refine .bind (crafts_bound step readsStep).onto fun _ => .quiet fun _ => ?_
    exact .pure
  | .orDefault _ key default, reads => by
    obtain ⟨readsKey, readsDefault⟩ := Standing.reads_append.mp reads
    refine .bind (crafts_expression key readsKey) fun _ => ?_
    refine .bind (crafts_passed default readsDefault).onto fun given => .lift fun _ =>
      .guard fun _ => ?_
    cases given with
    | inl | inr =>
      exact .lift fun _ => .numbered .accessor (fun _ => rfl) (fun _ => rfl) fun _ => trivial
  | .member _, _ => by
    exact .pure

theorem crafts_bound : ∀ written : Option Syntax.Bound,
    standing.Reads (Syntax.namesOfBound written) →
    Crafts standing known .none (bound written) boundContents
  | none, _ => by
    exact .pure
  | some (.mk _ value), reads => by
    exact .bind (crafts_expression value reads) fun _ => .pure

theorem crafts_passed : ∀ written : Syntax.Passed, standing.Reads written.names →
    Crafts standing known .none (passed written) passedContents
  | .value value, reads => by
    exact .bind (crafts_expression value reads) fun _ => .pure
  | .type _, _ => by
    exact .pure

theorem crafts_call : ∀ written : Syntax.Call, standing.Reads written.names →
    Crafts standing known .none (call written) Term.contents
  | .operator _ _ _ flags listSpot arguments, reads => by
    refine .quiet fun _ => ?_
    refine .bind (crafts_givenArguments arguments reads) fun given => ?_
    exact .bind (crafts_splitArguments listSpot given) fun parts => crafts_callNamed
  | .construct _ _ listSpot arguments, reads => by
    refine .bind (crafts_givenArguments arguments reads) fun given => ?_
    exact .bind (crafts_splitArguments listSpot given) fun _ => crafts_construct

theorem crafts_givenArguments : ∀ arguments : List Syntax.Argument,
    standing.Reads (Syntax.namesOfArguments arguments) →
    Crafts standing known .none (givenArguments arguments) givenContents
  | [], _ => by
    exact .pure
  | .mk spot name value :: rest, reads => by
    obtain ⟨readsValue, readsRest⟩ := Standing.reads_append.mp reads
    have last : ∀ term : Term, Crafts standing known term.contents (do
        let type ← term.type
        return (⟨spot, .mk name term, type⟩ : Given) :: (← givenArguments rest)) givenContents :=
      fun _ => .lift fun _ => .bind (crafts_givenArguments rest readsRest).onto fun _ => .pure
    refine .bind (crafts_passed value readsValue) fun given => ?_
    cases given with
    | inl => exact .bind (crafts_literal fun _ _ => trivial) last
    | inr => exact .bind .pure last

end

end GraphScript.Elaboration
