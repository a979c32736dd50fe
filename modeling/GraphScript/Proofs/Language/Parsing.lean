import GraphScript.Language.Parser
import GraphScript.Proofs.Actions
import GraphScript.Proofs.Grammar.Actions
import GraphScript.Proofs.Language.Lexing
import GraphScript.Proofs.Text.Cutting

/-!
# Syntax trees are derivations

A tree that the parser returns is a derivation of the script by the rules of the language.  The
trees on the stack, read from the bottom to the top, cover the tokens that were read; the states on
the stack follow the moves of the automaton, so that a production is reduced over trees of its own
symbols.
-/

namespace GraphScript.Language

open List hiding after

variable {next : Parsing}

/-! ## Derivations -/

namespace Tree

mutual

/-- A tree and all the trees in it. -/
def subtrees : Tree → List Tree
  | .leaf symbol line start stop text => [.leaf symbol line start stop text]
  | .node symbol line start stop children =>
    .node symbol line start stop children :: subtreesOfAll children

/-- The trees in several trees. -/
def subtreesOfAll : List Tree → List Tree
  | [] => []
  | tree :: trees => subtrees tree ++ subtreesOfAll trees

end

/-- The symbols and texts of the leaves from left to right, without those that stand for nothing. -/
def word (tree : Tree) : List (String × Option String) :=
  (tree.leaves.filter fun leaf => leaf.symbol != emptyName).map fun leaf =>
    (leaf.symbol, leaf.text?)

end Tree

def tokenWord (token : Token) : String × Option String := (treeSymbol token.kind, some token.text)

/-- A rule of the language has an alternative with these symbols, as trees name them. -/
def Alternative (name : String) (symbols : List String) : Prop :=
  ∃ alternatives alternative, (name, alternatives) ∈ rules ∧ alternative ∈ alternatives ∧
    symbols = (Text.parts ' ' alternative).map treeSymbol

/-- A tree is a derivation of a script: its leaves are the tokens, its inner nodes are alternatives
of the rules, and no rule for a mistake was followed. -/
structure Derivation (source : Source) (tree : Tree) : Prop where
  complete : ∃ line, (tokens source).2 = .ok line
  leaves : tree.word = (tokens source).1.map tokenWord
  rules : ∀ symbol line start stop children,
    .node symbol line start stop children ∈ tree.subtrees →
      Alternative symbol (children.map (·.symbol))
  correct : ∀ part ∈ tree.subtrees, Text.holds mistakeMark part.symbol = false

namespace Tree

theorem mem_subtreesOfAll : ∀ {trees : List Tree},
    part ∈ subtreesOfAll trees ↔ ∃ tree ∈ trees, part ∈ tree.subtrees
  | [] => by simp [subtreesOfAll]
  | tree :: _ => by
    rw [subtreesOfAll, mem_append, mem_subtreesOfAll]
    simp

theorem leavesOfAll_eq : ∀ trees : List Tree, leavesOfAll trees = trees.flatMap leaves
  | [] => rfl
  | tree :: trees => by rw [leavesOfAll, leavesOfAll_eq trees, flatMap_cons]

theorem word_ofParts (name : String) (parts : List Tree) :
    (ofParts name parts).word = parts.flatMap word := by
  rw [word, ofParts, leaves, leavesOfAll_eq, filter_flatMap, map_flatMap]
  rfl

theorem word_emptyLeaf : emptyLeaf.word = [] := by decide

/-- An inner node follows an alternative of its rule that is no mistake. -/
def Expands : Tree → Prop
  | .leaf .. => True
  | .node symbol _ _ _ children => Alternative symbol (children.map (·.symbol)) ∧
      ∀ child ∈ children, Text.holds mistakeMark child.symbol = false

/-- Every node of a tree follows its rule. -/
def Sound (tree : Tree) : Prop := ∀ part ∈ tree.subtrees, part.Expands

theorem sound_leaf (symbol : String) (line start stop : Nat) (text : Option String) :
    (leaf symbol line start stop text).Sound := by
  intro _ member
  rw [mem_singleton.mp member]
  trivial

theorem sound_ofParts (alternative : Alternative name (parts.map (·.symbol)))
    (correct : ∀ part ∈ parts, Text.holds mistakeMark part.symbol = false)
    (sound : ∀ part ∈ parts, part.Sound) : (ofParts name parts).Sound := by
  intro part member
  rcases mem_cons.mp member with rfl | inner
  · exact ⟨alternative, correct⟩
  · obtain ⟨tree, listed, within⟩ := mem_subtreesOfAll.mp inner
    exact sound tree listed part within

mutual

/-- Under a root that is no mistake there is none. -/
theorem correct_of_sound : ∀ {tree : Tree}, tree.Sound →
    Text.holds mistakeMark tree.symbol = false →
    ∀ part ∈ tree.subtrees, Text.holds mistakeMark part.symbol = false
  | .leaf .., _, root, _, member => by
    rw [mem_singleton.mp member]
    exact root
  | .node symbol line start stop children, sound, root, part, member => by
    rcases mem_cons.mp member with rfl | inner
    · exact root
    · have expands : (node symbol line start stop children).Expands := sound _ mem_cons_self
      exact correct_of_all_sound (forall_mem_cons.mp sound).2 expands.2 part inner

theorem correct_of_all_sound : ∀ {trees : List Tree}, (∀ part ∈ subtreesOfAll trees, part.Expands) →
    (∀ tree ∈ trees, Text.holds mistakeMark tree.symbol = false) →
    ∀ part ∈ subtreesOfAll trees, Text.holds mistakeMark part.symbol = false
  | [], _, _, _, member => by cases member
  | tree :: _, sound, roots, part, member => by
    rcases mem_append.mp member with first | later
    · exact correct_of_sound (fun part within => sound part (mem_append_left _ within))
        (roots tree mem_cons_self) part first
    · exact correct_of_all_sound (fun part within => sound part (mem_append_right _ within))
        (forall_mem_cons.mp roots).2 part later

end

end Tree

/-! ## The rules of the language -/

/-- What the parser relies on in an alternative of a rule: the rule is named by a word that is not
the root, and a mistake stands alone. -/
structure SoundAlternative (name : String) (symbols : List String) : Prop where
  word : treeSymbol name = name
  inner : name ≠ Grammar.rootName
  lone : ∀ symbol ∈ symbols, Text.holds mistakeMark symbol = true → symbols.length = 1

/-- The same of the letters of a rule. -/
def soundLetters (rule : List Char × List (List Char)) : Bool :=
  rule.1.length != 1 && rule.1 != ['S', '\''] && rule.2.all fun alternative =>
    let parts := Text.splitAll ' ' alternative
    parts.length == 1 ||
      parts.all fun part => (Text.splitFirst ['_', 'B', 'A', 'D', '_'] part).isNone

/-- The letters of a rule. -/
inductive SpelledRule : List Char × List (List Char) → String × List String → Prop
  | mk {letters : List Char} {words : List (List Char)} {name : String}
      {alternatives : List String} :
      Text.Spelled letters name → List.Forall₂ Text.Spelled words alternatives →
      SpelledRule (letters, words) (name, alternatives)

theorem spelled_rules : ∃ letters, List.Forall₂ SpelledRule letters rules ∧
    letters.all soundLetters = true := by
  apply Exists.intro
  apply And.intro
  · simp only [rules, loopForms, closedForms, flatMap_cons, flatMap_nil, map_cons,
      map_nil, cons_append, nil_append, append_nil]
    repeat' constructor
  · decide +kernel

theorem treeSymbol_of_length (long : symbol.toList.length ≠ 1) : treeSymbol symbol = symbol := by
  unfold treeSymbol
  split
  · rename_i letter
    simp [letter] at long
  · rfl

/-- A character in quotes is no mistake. -/
theorem holds_treeSymbol (correct : Text.holds mistakeMark symbol = false) :
    Text.holds mistakeMark (treeSymbol symbol) = false := by
  unfold treeSymbol
  split
  · have mark : mistakeMark.toList = ['_', 'B', 'A', 'D', '_'] := String.toList_ofList
    simp [Text.holds, mark, Text.splitFirst, isPrefixOf]
  · exact correct

theorem sound_alternative (rule : (name, alternatives) ∈ rules)
    (member : alternative ∈ alternatives) : SoundAlternative name (Text.parts ' ' alternative) := by
  obtain ⟨_, spelled, sound⟩ := spelled_rules
  obtain ⟨⟨_, _⟩, checked, ⟨named, words⟩⟩ :=
    Text.exists_of_forall₂ spelled (all_eq_true.mp sound) _ rule
  simp only [soundLetters, Bool.and_eq_true, bne_iff_ne, ne_eq] at checked
  obtain ⟨⟨_, inner⟩, parts⟩ := checked
  obtain ⟨_, separate, spelt⟩ :=
    Text.exists_of_forall₂ words (all_eq_true.mp parts) alternative member
  have root : Grammar.rootName.toList = ['S', '\''] := String.toList_ofList
  have mark : mistakeMark.toList = ['_', 'B', 'A', 'D', '_'] := String.toList_ofList
  refine ⟨treeSymbol_of_length (by rwa [named.toList]), ?_, ?_⟩
  · rintro rfl
    exact inner (named.toList.symm.trans root)
  · intro _ listed mistake
    rw [Text.parts, length_map, spelt.toList]
    obtain ⟨part, inParts, rfl⟩ := mem_map.mp listed
    rw [spelt.toList] at inParts
    simp only [Bool.or_eq_true, beq_iff_eq, all_eq_true] at separate
    rcases separate with lone | without
    · exact lone
    · have none := without part inParts
      rw [Text.holds, mark, String.toList_ofList, Option.isSome_iff_ne_none] at mistake
      exact absurd (Option.isNone_iff_eq_none.mp none) mistake

/-- The alternatives of the productions are those of the rules. -/
theorem mem_orderedAlternatives (member : entry ∈ orderedAlternatives) :
    ∃ alternatives alternative, (entry.1, alternatives) ∈ rules ∧ alternative ∈ alternatives ∧
      entry.2 = Text.parts ' ' alternative := by
  obtain ⟨_, sorted, rfl⟩ := mem_map.mp member
  obtain ⟨⟨_, alternatives⟩, rule, inRule⟩ := mem_flatMap.mp (mem_mergeSort.mp sorted)
  obtain ⟨⟨alternative, _⟩, placed, rfl⟩ := mem_map.mp inRule
  exact ⟨alternatives, alternative, rule, (mem_zipIdx' placed).2 ▸ getElem_mem _, rfl⟩

theorem numbered_grammar : grammar.Numbered := by
  intro place production found
  change productions[place]? = some production at found
  match place with
  | 0 => exact congrArg (·.number) (Option.some.inj found).symm
  | 1 => exact congrArg (·.number) (Option.some.inj found).symm
  | place + 2 =>
    rw [productions, List.getElem?_cons_succ, List.getElem?_cons_succ, List.getElem?_map,
      List.getElem?_zipIdx] at found
    obtain ⟨_, listed, rfl⟩ := Option.map_eq_some_iff.mp found
    obtain ⟨_, _, rfl⟩ := Option.map_eq_some_iff.mp listed
    simp [Language.production]

/-- A production of the grammar is the root, the empty symbol, or an alternative of a rule. -/
theorem production_cases (bound : number < grammar.productions.size) :
    number = 0 ∨
    (number = 1 ∧ grammar.production number = Language.production 1 emptyName [] 0) ∨
    ∃ alternatives alternative, ((grammar.production number).name, alternatives) ∈ rules ∧
      alternative ∈ alternatives ∧
      (grammar.production number).symbols = Text.parts ' ' alternative := by
  match number with
  | 0 => exact .inl rfl
  | 1 => exact .inr (.inl ⟨rfl, rfl⟩)
  | number + 2 =>
    refine .inr (.inr ?_)
    have found : productions[number + 2]? = some (grammar.production (number + 2)) := by
      have long : number + 2 < productions.length := by simpa [grammar] using bound
      simp [Grammar.Rules.production, grammar, long]
    rw [productions, List.getElem?_cons_succ, List.getElem?_cons_succ, List.getElem?_map,
      List.getElem?_zipIdx] at found
    obtain ⟨_, listed, same⟩ := Option.map_eq_some_iff.mp found
    obtain ⟨_, place, rfl⟩ := Option.map_eq_some_iff.mp listed
    rw [← same]
    exact mem_orderedAlternatives (mem_of_getElem? place)

theorem production_zero : grammar.production 0 = Language.production 0 Grammar.rootName
    [startName] 0 :=
  rfl

theorem rules_table : table.rules = grammar ∧ table.Sound := by
  unfold table
  split
  · rename_i table built
    exact Grammar.ParseTable.sound_build numbered_grammar built
  · exact ⟨rfl, Grammar.ParseTable.sound_empty grammar⟩

/-! ## The stack -/

def topState : List Frame → Nat
  | [] => 0
  | frame :: _ => frame.state

/-- The states of a stack follow the moves of an automaton. -/
def Path (automaton : Grammar.Automaton) : List Frame → Prop
  | [] => True
  | frame :: rest => automaton.after? (topState rest) frame.symbol = some frame.state ∧
      Path automaton rest

/-- A production in progress in the current state was read into the stack, and it began where its
first symbol was read. -/
theorem Path.read {rules : Grammar.Rules} (sound : automaton.Sound rules) (production dot : Nat)
    (stack : List Frame) (path : Path automaton stack)
    (member : ⟨production, dot⟩ ∈ automaton.states.getD (topState stack) #[]) :
    (stack.take dot).reverse.map (·.symbol) = (rules.production production).symbols.take dot ∧
      dot ≤ (rules.production production).symbols.length ∧ dot ≤ stack.length ∧
      ⟨production, 0⟩ ∈ automaton.states.getD (topState (stack.drop dot)) #[] := by
  induction dot generalizing stack with
  | zero => exact ⟨rfl, Nat.zero_le _, Nat.zero_le _, member⟩
  | succ _ ih =>
    match stack, path with
    | [], _ =>
      rcases sound.start _ member with first | begins
      · cases first
      · cases begins.1
    | frame :: rest, ⟨moved, path⟩ =>
      rcases sound.follows _ _ _ moved _ member with begins | ⟨earlier, before, next, advanced⟩
      · cases begins.1
      · obtain ⟨rfl, same⟩ := Grammar.Item.mk.inj advanced
        obtain rfl := Nat.succ.inj same
        obtain ⟨symbols, _, deep, began⟩ := ih rest path before
        obtain ⟨bound, _⟩ := List.getElem?_eq_some_iff.mp next
        refine ⟨?_, bound, Nat.succ_le_succ deep, began⟩
        rw [take_succ_cons, reverse_cons, map_append, symbols, take_add_one]
        change _ = _ ++ (rules.nextSymbol? earlier).toList
        rw [next]
        rfl

/-- Only the root begins with nothing on the stack. -/
theorem Path.begun {rules : Grammar.Rules} (sound : automaton.Sound rules)
    (path : Path automaton stack)
    (member : ⟨number, 0⟩ ∈ automaton.states.getD (topState stack) #[]) :
    (number = 0 ∧ stack = []) ∨ rules.Numbers number := by
  match stack, path with
  | [], _ =>
    rcases sound.start _ member with first | begins
    · exact .inl ⟨(Grammar.Item.mk.inj first).1, rfl⟩
    · exact .inr begins.2
  | frame :: _, ⟨moved, _⟩ =>
    rcases sound.follows _ _ _ moved _ member with begins | ⟨_, _, _, advanced⟩
    · exact .inr begins.2
    · cases advanced

structure Frame.Fits (frame : Frame) : Prop where
  symbol : frame.tree.symbol = treeSymbol frame.symbol
  sound : frame.tree.Sound

/-- The symbols and texts of the tokens that a stack covers. -/
def stackWord (stack : List Frame) : List (String × Option String) :=
  stack.reverse.flatMap fun frame => frame.tree.word

/-- A stack that the parser can reach. -/
structure SoundStack (stack : List Frame) : Prop where
  path : Path table.automaton stack
  fits : ∀ frame ∈ stack, frame.Fits

theorem SoundStack.drop (sound : SoundStack stack) (count : Nat) :
    SoundStack (stack.drop count) := by
  induction count generalizing stack with
  | zero => exact sound
  | succ _ ih =>
    match stack, sound with
    | [], sound => exact sound
    | frame :: _, sound =>
      exact ih ⟨sound.path.2, (forall_mem_cons.mp sound.fits).2⟩

theorem SoundStack.push (sound : SoundStack stack)
    (moved : table.automaton.after? (topState stack) frame.symbol = some frame.state)
    (fits : frame.Fits) : SoundStack (frame :: stack) where
  path := ⟨moved, sound.path⟩
  fits := forall_mem_cons.mpr ⟨fits, sound.fits⟩

/-- What a production that was read to its end finds on the stack. -/
theorem SoundStack.complete (sound : SoundStack stack)
    (completes : table.automaton.Completes grammar (topState stack) number) :
    let symbols := (grammar.production number).symbols
    (stack.take symbols.length).reverse.map (·.symbol) = symbols ∧
      ((number = 0 ∧ stack.drop symbols.length = []) ∨ grammar.Numbers number) := by
  obtain ⟨same, moves, _⟩ := rules_table
  rw [same] at moves
  obtain ⟨⟨number, dot⟩, member, rfl, ended⟩ := completes
  obtain ⟨symbols, long, _, began⟩ := sound.path.read moves number dot stack member
  have whole : dot = (grammar.production number).symbols.length :=
    Nat.le_antisymm long (List.getElem?_eq_none_iff.mp ended)
  subst whole
  rw [take_length] at symbols
  exact ⟨symbols, (sound.drop _).path.begun moves began⟩

/-- The symbols of the trees on a stack. -/
theorem SoundStack.symbols (sound : SoundStack stack) (count : Nat) :
    ((stack.take count).reverse.map (·.tree)).map (·.symbol) =
      ((stack.take count).reverse.map (·.symbol)).map treeSymbol := by
  rw [map_map, map_map]
  refine map_congr_left fun frame member => ?_
  exact (sound.fits frame (mem_of_mem_take (mem_reverse.mp member))).symbol

theorem stackWord_split (stack : List Frame) (count : Nat) :
    stackWord stack = stackWord (stack.drop count) ++
      ((stack.take count).reverse.map (·.tree)).flatMap Tree.word := by
  conv_lhs => rw [← take_append_drop count stack]
  rw [stackWord, reverse_append, flatMap_append, flatMap_map]
  rfl

theorem entered_ok {target? : Option Nat} {enter : Nat → Parsing}
    (outcome : (match target? with
      | some target => Except.ok (enter target)
      | none => Except.error Fault.missingKey) = .ok next) :
    ∃ target, target? = some target ∧ next = enter target := by
  cases target? with
  | none => cases outcome
  | some target => exact ⟨target, rfl, (Except.ok.inj outcome).symm⟩

/-- What a reduction does: the trees of its symbols give way to one tree. -/
theorem reduce_cases {table : Grammar.ParseTable}
    (reduced : reduce table source parsing number = .ok next) :
    let production := table.rules.production number
    let rest := parsing.stack.drop production.symbols.length
    let parts := (parsing.stack.take production.symbols.length).reverse.map (·.tree)
    ∃ tree target, table.target? (topState rest) production.name = some target ∧
      next = { parsing with stack := ⟨production.name, tree, target⟩ :: rest } ∧
      ((production.symbols = [] ∧ tree = emptyLeaf) ∨
        (tree = .ofParts production.name parts ∧ production.symbols ≠ [] ∧
          ∀ symbol, production.symbols = [symbol] → Text.holds mistakeMark symbol = false)) := by
  intro production _ _
  unfold reduce at reduced
  dsimp only at reduced
  split at reduced
  · rename_i nothing
    obtain ⟨target, moved, same⟩ := entered_ok reduced
    exact ⟨emptyLeaf, target, moved, same, .inl ⟨nothing, rfl⟩⟩
  · rename_i name single
    split at reduced
    · cases reduced
    · rename_i correct
      obtain ⟨target, moved, same⟩ := entered_ok reduced
      refine ⟨_, target, moved, same, .inr ⟨rfl, by simp [production, single], ?_⟩⟩
      intro symbol only
      obtain rfl : _ = symbol := by simpa using single.symm.trans only
      simpa using correct
  · rename_i several lone
    obtain ⟨target, moved, same⟩ := entered_ok reduced
    refine ⟨_, target, moved, same, .inr ⟨rfl, several, ?_⟩⟩
    exact fun symbol only => absurd only (lone symbol)

/-- Trees for the symbols of an alternative make a tree for its rule, unless it is a mistake. -/
theorem sound_ofAlternative (rule : (name, alternatives) ∈ rules)
    (listed : alternative ∈ alternatives)
    (symbols : parts.map (·.symbol) = (Text.parts ' ' alternative).map treeSymbol)
    (sound : ∀ part ∈ parts, part.Sound)
    (accepted : ∀ symbol, Text.parts ' ' alternative = [symbol] →
      Text.holds mistakeMark symbol = false) : (Tree.ofParts name parts).Sound := by
  refine Tree.sound_ofParts ⟨alternatives, alternative, rule, listed, symbols⟩ ?_ sound
  have correct : ∀ symbol ∈ Text.parts ' ' alternative, Text.holds mistakeMark symbol = false := by
    intro symbol member
    by_contra mistake
    have alone := (sound_alternative rule listed).lone symbol member (by simpa using mistake)
    obtain ⟨_, single⟩ := length_eq_one_iff.mp alone
    rw [single, mem_singleton] at member
    exact mistake (accepted symbol (member ▸ single))
  intro part member
  have named : part.symbol ∈ (Text.parts ' ' alternative).map treeSymbol :=
    symbols ▸ mem_map_of_mem member
  obtain ⟨symbol, inAlternative, same⟩ := mem_map.mp named
  rw [← same]
  exact holds_treeSymbol (correct symbol inAlternative)

theorem treeSymbol_emptyName : treeSymbol emptyName = emptyName := by decide

/-- A reduction leaves a sound stack that covers the same tokens. -/
theorem sound_reduce (sound : SoundStack parsing.stack)
    (inner : (grammar.production number).name ≠ Grammar.rootName)
    (completes : table.automaton.Completes grammar (topState parsing.stack) number)
    (reduced : reduce table source parsing number = .ok next) :
    SoundStack next.stack ∧ stackWord next.stack = stackWord parsing.stack ∧
      next.cursor = parsing.cursor ∧ next.ahead = parsing.ahead := by
  obtain ⟨symbols, numbers⟩ := sound.complete completes
  have treeSymbols := sound.symbols (grammar.production number).symbols.length
  have covered := stackWord_split parsing.stack (grammar.production number).symbols.length
  obtain ⟨tree, target, moved, rfl, kinds⟩ := reduce_cases reduced
  rw [rules_table.1] at moved kinds ⊢
  rw [symbols] at treeSymbols
  rcases numbers with ⟨rfl, _⟩ | numbers
  · exact absurd rfl inner
  -- the tree fits its frame and covers the trees that it replaces
  have fits : Frame.Fits ⟨(grammar.production number).name, tree, target⟩ ∧ tree.word =
      ((parsing.stack.take (grammar.production number).symbols.length).reverse.map (·.tree)).flatMap
        Tree.word := by
    rcases production_cases numbers.2 with rfl | ⟨rfl, empty⟩ |
      ⟨alternatives, alternative, rule, listed, same⟩
    · exact absurd rfl inner
    · rw [empty] at kinds ⊢
      rcases kinds with ⟨_, rfl⟩ | ⟨_, something, _⟩
      · exact ⟨⟨treeSymbol_emptyName.symm, Tree.sound_leaf _ _ _ _ _⟩, Tree.word_emptyLeaf⟩
      · exact absurd rfl something
    · rcases kinds with ⟨nothing, _⟩ | ⟨rfl, _, accepted⟩
      · rw [nothing] at same
        exact absurd (map_eq_nil_iff.mp same.symm) (Text.splitAll_ne_nil _ _)
      · refine ⟨⟨(sound_alternative rule listed).word.symm, ?_⟩, Tree.word_ofParts _ _⟩
        refine sound_ofAlternative rule listed (treeSymbols.trans (congrArg _ same)) ?_
          (same ▸ accepted)
        intro _ member
        obtain ⟨frame, inStack, rfl⟩ := mem_map.mp member
        exact (sound.fits frame (mem_of_mem_take (mem_reverse.mp inStack))).sound
  refine ⟨(sound.drop _).push moved fits.1, ?_, rfl, rfl⟩
  rw [covered, ← fits.2]
  simp [stackWord]

/-! ## Steps of the parser -/

theorem spelled_longKinds : ∃ letters, List.Forall₂ Text.Spelled letters longKinds ∧
    letters.all (fun kind => kind.length != 1 && kind != ['$', 'e', 'n', 'd'] &&
      kind != ['E', 'M', 'P', 'T', 'Y']) = true := by
  apply Exists.intro
  apply And.intro
  · unfold longKinds tokenRules keywords
    repeat' constructor
  · decide +kernel

/-- No token is the end of the script, or nothing. -/
theorem IsKind.ne (isKind : IsKind kind) : kind ≠ Grammar.endMark ∧
    treeSymbol kind ≠ emptyName := by
  have ending : Grammar.endMark.toList = ['$', 'e', 'n', 'd'] := String.toList_ofList
  have empty : emptyName.toList = ['E', 'M', 'P', 'T', 'Y'] := String.toList_ofList
  rcases isKind with listed | ⟨c, rfl⟩
  · obtain ⟨letters, spelled, sound⟩ := spelled_longKinds
    obtain ⟨_, checked, spelt⟩ :=
      Text.exists_of_forall₂ spelled (all_eq_true.mp sound) kind listed
    simp only [Bool.and_eq_true, bne_iff_ne, ne_eq] at checked
    obtain ⟨⟨_, notEnd⟩, notEmpty⟩ := checked
    refine ⟨?_, ?_⟩
    · rintro rfl
      exact notEnd (spelt.toList.symm.trans ending)
    · rw [treeSymbol_of_length (by rwa [spelt.toList])]
      rintro rfl
      exact notEmpty (spelt.toList.symm.trans empty)
  · have letters : c.toString.toList = [c] := String.toList_singleton c
    refine ⟨fun same => ?_, fun same => ?_⟩
    · rw [same, ending] at letters
      cases letters
    · have quoted := congrArg String.toList same
      rw [treeSymbol, letters, empty] at quoted
      simp at quoted

theorem word_leafOf (isKind : IsKind token.kind) : (leafOf token).word = [tokenWord token] := by
  have shown : (treeSymbol token.kind != emptyName) = true := bne_iff_ne.mpr isKind.ne.2
  simp [Tree.word, leafOf, Tree.leaves, Tree.symbol, shown, Tree.text?, tokenWord]

theorem sound_leafOf (token : Token) : (leafOf token).Sound := Tree.sound_leaf _ _ _ _ _

/-- What is left of the script, where the next token was looked at or not. -/
def Upcoming (source : Source) (cursor : Cursor) (left : List Token × Except Fault Nat) :
    Option (Option Token) → Prop
  | none => left = tokensFrom source cursor
  | some ahead => Leads source cursor left ahead

/-- The parser between two steps: the stack covers the tokens that were read, and the others are
still to come. -/
structure Reached (source : Source) (parsing : Parsing) : Prop where
  stack : SoundStack parsing.stack
  script : ∃ done left, tokens source = (done ++ left.1, left.2) ∧
    stackWord parsing.stack = done.map tokenWord ∧
    Upcoming source parsing.cursor left parsing.ahead

theorem reached_start (source : Source) : Reached source (.start source) where
  stack := ⟨trivial, by simp [Parsing.start]⟩
  script := ⟨[], tokensFrom source (.start source.text), rfl, rfl, rfl⟩

/-- The symbol that the table is asked about. -/
def aheadSymbol : Option Token → String
  | some token => token.kind
  | none => Grammar.endMark

theorem step_cases {table : Grammar.ParseTable}
    (stepped : Act.Yields (step table source parsing) log outcome after) :
    (∃ number next, table.default? parsing.state = some number ∧
      reduce table source parsing number = .ok next ∧ outcome = .next next) ∨
    ∃ ahead seen, look source parsing = .ok (ahead, seen) ∧
      ((∃ token target, ahead = some token ∧
        table.action? seen.state token.kind = some (.shift target) ∧
        outcome = .next { seen with
          stack := ⟨token.kind, leafOf token, target⟩ :: seen.stack, ahead := none }) ∨
      (∃ number next, table.action? seen.state (aheadSymbol ahead) = some (.reduce number) ∧
        reduce table source seen number = .ok next ∧ outcome = .next next) ∨
      (table.action? seen.state (aheadSymbol ahead) = some .accept ∧
        outcome = .accepted ((seen.stack.head?.map (·.tree)).getD emptyLeaf))) := by
  unfold step at stepped
  split at stepped
  · rename_i number only
    obtain ⟨next, middle, run, finish⟩ := stepped.bind
    obtain ⟨reduced, rfl⟩ := run.lift
    obtain ⟨rfl, rfl⟩ := finish.pure
    exact .inl ⟨number, next, only, reduced, rfl⟩
  · obtain ⟨⟨ahead, seen⟩, middle, run, rest⟩ := stepped.bind
    obtain ⟨looked, rfl⟩ := run.lift
    refine .inr ⟨ahead, seen, looked, ?_⟩
    dsimp only at rest
    split at rest
    · rename_i target token asked
      obtain ⟨rfl, rfl⟩ := rest.pure
      exact .inl ⟨token, target, rfl, asked, rfl⟩
    · rename_i number asked
      obtain ⟨next, _, run, finish⟩ := rest.bind
      obtain ⟨reduced, rfl⟩ := run.lift
      obtain ⟨rfl, rfl⟩ := finish.pure
      exact .inr (.inl ⟨number, next, asked, reduced, rfl⟩)
    · rename_i asked
      obtain ⟨rfl, rfl⟩ := rest.pure
      exact .inr (.inr ⟨asked, rfl⟩)
    · obtain ⟨_, _, _, failed⟩ := rest.bind
      exact absurd failed Act.yields_throw.mp

theorem state_eq (parsing : Parsing) : parsing.state = topState parsing.stack := by
  rcases parsing with ⟨_ | ⟨_, _⟩, _, _⟩ <;> rfl

/-- Only the first production is the root. -/
theorem root_of_name (bound : number < grammar.productions.size)
    (root : (grammar.production number).name = Grammar.rootName) : number = 0 := by
  rcases production_cases bound with zero | ⟨_, empty⟩ | ⟨_, _, rule, listed, _⟩
  · exact zero
  · rw [empty] at root
    exact absurd root (by decide)
  · exact absurd root (sound_alternative rule listed).inner

theorem holds_startName : Text.holds mistakeMark (treeSymbol startName) = false := by decide

theorem treeSymbol_startName : treeSymbol startName = startName := by decide

/-- What is known after a step of the parser. -/
def Step.Sound (source : Source) : Step → Prop
  | .next parsing => Reached source parsing
  | .accepted tree => Derivation source tree

section Reached

variable (bound : Nat) (reached : Reached source parsing)

include reached

/-- Looking at the next token changes nothing but what is known of it. -/
theorem reached_look (looked : look source parsing = .ok (ahead, next)) :
    Reached source next ∧ next.ahead = some ahead ∧ next.stack = parsing.stack := by
  unfold look at looked
  split at looked
  · rename_i known
    cases looked
    exact ⟨reached, known, rfl⟩
  · rename_i unknown
    obtain ⟨done, left, all, covered, upcoming⟩ := reached.script
    rw [unknown] at upcoming
    cases read : nextToken source parsing.cursor with
    | error => rw [read] at looked; cases looked
    | ok =>
      rw [read] at looked
      cases looked
      refine ⟨⟨reached.stack, done, left, all, covered, ?_⟩, rfl, rfl⟩
      rw [show left = tokensFrom source parsing.cursor from upcoming]
      exact leads_nextToken read

theorem Reached.reduce (asked : table.action? parsing.state symbol = some (.reduce number))
    (reduced : reduce table source parsing number = .ok next) : Reached source next := by
  obtain ⟨inner, completes⟩ := rules_table.2.justified _ _ _ asked
  rw [rules_table.1, state_eq] at *
  obtain ⟨stack, covered, cursor, ahead⟩ := sound_reduce reached.stack inner completes reduced
  refine ⟨stack, ?_⟩
  rw [covered, cursor, ahead]
  exact reached.script

theorem Reached.shift (ahead : parsing.ahead = some (some token))
    (asked : table.action? parsing.state token.kind = some (.shift target)) :
    Reached source { parsing with
      stack := ⟨token.kind, leafOf token, target⟩ :: parsing.stack
      ahead := none } := by
  have moved := rules_table.2.justified _ _ _ asked
  obtain ⟨done, left, all, covered, upcoming⟩ := reached.script
  rw [ahead] at upcoming
  obtain rfl : _ = _ := upcoming
  have member : token ∈ (tokens source).1 := by simp [all]
  refine ⟨reached.stack.push moved ⟨rfl, sound_leafOf token⟩, done ++ [token],
    tokensFrom source parsing.cursor, by simp [all], ?_, rfl⟩
  rw [map_append, ← covered]
  simp [stackWord, word_leafOf (isKind_of_mem_tokens token member)]

/-- At the end of the script nothing is left to read. -/
theorem Reached.ended (looked : parsing.ahead = some ahead)
    (ended : aheadSymbol ahead = Grammar.endMark) :
    (∃ line, (tokens source).2 = .ok line) ∧
      stackWord parsing.stack = (tokens source).1.map tokenWord := by
  obtain ⟨_, left, all, covered, upcoming⟩ := reached.script
  rw [looked] at upcoming
  cases ahead with
  | none =>
    obtain ⟨line, rfl⟩ := upcoming
    rw [all]
    exact ⟨⟨line, rfl⟩, by simpa using covered⟩
  | some token =>
    obtain rfl : _ = _ := upcoming
    have member : token ∈ (tokens source).1 := by simp [all]
    exact absurd ended (isKind_of_mem_tokens token member).ne.1

/-- When a tree is accepted, the stack holds one tree, for the start rule. -/
theorem Reached.single (asked : table.action? parsing.state (aheadSymbol ahead) = some .accept) :
    ∃ frame, parsing.stack = [frame] ∧ frame.symbol = startName := by
  obtain ⟨-, number, root, completes⟩ := rules_table.2.justified _ _ _ asked
  rw [rules_table.1] at root completes
  obtain ⟨symbols, numbers⟩ := reached.stack.complete completes
  obtain ⟨rfl, nothing⟩ : number = 0 ∧
      parsing.stack.drop (grammar.production number).symbols.length = [] := by
    rcases numbers with first | numbers
    · exact first
    · have := root_of_name numbers.2 root
      have := numbers.1
      omega
  rw [production_zero] at symbols nothing
  obtain ⟨frame, single⟩ : ∃ frame, parsing.stack = [frame] := by
    match parsing.stack, symbols, nothing with
    | [], symbols, _ => cases symbols
    | [frame], _, _ => exact ⟨frame, rfl⟩
  exact ⟨frame, single, by simpa [single, Language.production] using symbols⟩

theorem Reached.accept (looked : parsing.ahead = some ahead)
    (asked : table.action? parsing.state (aheadSymbol ahead) = some .accept) :
    Derivation source ((parsing.stack.head?.map (·.tree)).getD emptyLeaf) := by
  obtain ⟨ended, -⟩ := rules_table.2.justified _ _ _ asked
  obtain ⟨complete, covered⟩ := reached.ended looked ended
  obtain ⟨frame, single, start⟩ := reached.single asked
  have fits : frame.Fits := reached.stack.fits frame (by simp [single])
  rw [single]
  refine ⟨complete, ?_, ?_, ?_⟩
  · rw [← covered, single]
    simp [stackWord]
  · intro symbol _ start _ _ member
    exact (fits.sound _ member).1
  · refine Tree.correct_of_sound fits.sound ?_
    have named := fits.symbol
    rw [start] at named
    change Text.holds mistakeMark frame.tree.symbol = false
    rw [named]
    exact holds_startName

theorem sound_step (stepped : Act.Yields (step table source parsing) log outcome after) :
    outcome.Sound source := by
  rcases step_cases stepped with ⟨number, next, only, reduced, rfl⟩ | ⟨_, _, looked, kinds⟩
  · obtain ⟨_, asked⟩ := Grammar.ParseTable.action?_of_default? only
    exact reached.reduce asked reduced
  · obtain ⟨reached, known, _⟩ := reached_look reached looked
    rcases kinds with ⟨_, _, rfl, asked, rfl⟩ | ⟨_, _, asked, reduced, rfl⟩ |
      ⟨asked, rfl⟩
    · exact reached.shift known asked
    · exact reached.reduce asked reduced
    · exact reached.accept known asked

/-- A tree that the steps lead to, however many are allowed, is accepted in the last of them. -/
theorem accepted_run (ran : Act.Yields (run table source bound parsing) log tree after) :
    ∃ parsing log after, Reached source parsing ∧
      Act.Yields (step table source parsing) log (.accepted tree) after := by
  induction bound generalizing parsing log with
  | zero => exact absurd ran Act.yields_throw.mp
  | succ _ ih =>
    obtain ⟨outcome, middle, stepped, rest⟩ := ran.bind
    cases outcome with
    | next => exact ih (sound_step reached stepped) rest
    | accepted =>
      obtain ⟨rfl, _⟩ := rest.pure
      exact ⟨parsing, log, middle, reached, stepped⟩

theorem derivation_run (ran : Act.Yields (run table source bound parsing) log tree after) :
    Derivation source tree := by
  obtain ⟨_, _, _, reached, stepped⟩ := accepted_run bound reached ran
  exact sound_step reached stepped

/-- A tree that is accepted is one for the start rule. -/
theorem symbol_step (stepped : Act.Yields (step table source parsing) log (.accepted tree) after) :
    tree.symbol = startName := by
  rcases step_cases stepped with ⟨_, _, _, _, impossible⟩ | ⟨_, _, looked, kinds⟩
  · cases impossible
  · obtain ⟨reached, -⟩ := reached_look reached looked
    rcases kinds with ⟨_, _, _, _, impossible⟩ | ⟨_, _, _, _, impossible⟩ | ⟨asked, same⟩
    · cases impossible
    · cases impossible
    · obtain ⟨frame, single, start⟩ := reached.single asked
      have named := (reached.stack.fits frame (by simp [single])).symbol
      rw [start, treeSymbol_startName] at named
      cases same
      rw [single]
      exact named

theorem symbol_run (ran : Act.Yields (run table source bound parsing) log tree after) :
    tree.symbol = startName := by
  obtain ⟨_, _, _, reached, stepped⟩ := accepted_run bound reached ran
  exact symbol_step reached stepped

end Reached

/-- The tree that the parser returns on a script is a derivation of the script. -/
theorem parse_derives (source : Source) (log : Log) :
    Act.Ensures (parse table source) log fun tree _ => Derivation source tree :=
  fun _ _ parsed => derivation_run _ (reached_start source) parsed

end GraphScript.Language
