import GraphScript.Proofs.Elaboration.Script
import GraphScript.Proofs.Language.Parsing

/-!
# Names in headers

A match of a pattern holds only characters that the pattern can read.  The pattern for words reads
no slash, so the parameters and results of a compound that is read from a syntax tree, which are
named by tokens for names, have no slash in their names.
-/

namespace GraphScript.Language

open List hiding choose

/-! ## Tokens -/

/-- The kind of tokens that are names. -/
def nameKind : String := "NAME"

theorem avoids_of_word : ∀ rule ∈ tokenRules, rule.opening = .word →
    rule.pattern.avoids '/' = true := by
  decide +kernel

theorem kind_of_not_word : ∀ rule ∈ tokenRules, rule.opening ≠ .word → rule.kind ≠ nameKind := by
  decide +kernel

/-- A word that is a name is the token as it is. -/
theorem text_of_classify (isName : (classify word).1 = nameKind) : (classify word).2 = word := by
  unfold classify at isName ⊢
  split
  · rfl
  · rename_i unlisted
    rw [unlisted] at isName
    dsimp only at isName
    split
    · rename_i isEnumeration
      rw [if_pos isEnumeration] at isName
      exact absurd isName (show "ENUM" ≠ nameKind by decide)
    · rename_i notEnumeration
      rw [if_neg notEnumeration] at isName
      split
      · rename_i isType
        rw [if_pos isType] at isName
        exact absurd isName (show "TYPE" ≠ nameKind by decide)
      · split <;> rfl

theorem slash_afterMatch {cursor next : Cursor} {rule : TokenRule} {length : Nat}
    (found : firstMatch? cursor.rest = some (rule, length, rest))
    (read : afterMatch cursor rule length rest = .ok (.token token next))
    (isName : token.kind = nameKind) : '/' ∉ token.text.toList := by
  obtain ⟨tried, listed, found⟩ := List.exists_of_findSome?_eq_some found
  obtain ⟨_, matched, same⟩ := Option.map_eq_some_iff.mp found
  obtain ⟨rfl, rfl⟩ := Prod.mk.inj same
  unfold afterMatch at read
  dsimp only at read
  split at read
  case h_1 plain =>
    cases read
    exact absurd isName (kind_of_not_word tried listed (by simp [plain]))
  case h_2 word =>
    cases read
    rw [text_of_classify isName, String.toList_ofList]
    exact Pattern.not_mem_of_first? (avoids_of_word tried listed word) matched
  case h_3 quote =>
    have other := kind_of_not_word tried listed (by simp [quote])
    split at read
    · cases read
      exact absurd isName other
    · cases read
      exact absurd isName other
    · cases read
  case h_4 => cases read
  case h_5 => cases read
  case h_6 =>
    cases passed : passBlock (cursor.skip length rest) rest 0 0 with
    | error =>
      rw [passed] at read
      cases read
    | ok =>
      rw [passed] at read
      cases read

theorem slash_readOn {next : Cursor} (read : readOn source cursor = .ok (.token token next))
    (isName : token.kind = nameKind) : '/' ∉ token.text.toList := by
  unfold readOn at read
  split at read
  · cases read
  · rename_i c rest text
    split at read
    · cases read
    · split at read
      · rename_i rule length after found
        exact slash_afterMatch found read isName
      · split at read
        · cases read
          have long := congrArg (·.toList.length) isName
          simp [nameKind] at long
        · cases read

/-! ## Leaves -/

namespace Tree

mutual

theorem mem_leaves {symbol : String} {line start stop : Nat} :
    ∀ {tree : Tree}, leaf symbol line start stop text ∈ tree.subtrees →
      leaf symbol line start stop text ∈ tree.leaves
  | .leaf .., member => member
  | .node _ _ _ _ _, member => by
    rcases mem_cons.mp member with impossible | inner
    · cases impossible
    · exact mem_leavesOfAll inner

theorem mem_leavesOfAll {symbol : String} {line start stop : Nat} :
    ∀ {trees : List Tree}, leaf symbol line start stop text ∈ subtreesOfAll trees →
      leaf symbol line start stop text ∈ leavesOfAll trees
  | [], member => member
  | tree :: _, member => by
    rcases mem_append.mp member with first | later
    · exact mem_append_left _ (mem_leaves first)
    · exact mem_append_right _ (mem_leavesOfAll later)

end

end Tree

section Leaves

variable {source : Source} {tree : Tree} {symbol : String} {line start stop : Nat}
    {text : Option String}

/-- A leaf that stands for something is a token of the script. -/
theorem Derivation.token_of_leaf (derivation : Derivation source tree)
    (member : .leaf symbol line start stop text ∈ tree.subtrees) (shown : symbol ≠ emptyName) :
    ∃ token ∈ (tokens source).1, treeSymbol token.kind = symbol ∧ text = some token.text := by
  have listed : (symbol, text) ∈ tree.word := by
    refine mem_map.mpr ⟨.leaf symbol line start stop text, ?_, rfl⟩
    exact mem_filter.mpr ⟨Tree.mem_leaves member, bne_iff_ne.mpr shown⟩
  rw [derivation.leaves] at listed
  obtain ⟨token, inside, same⟩ := mem_map.mp listed
  obtain ⟨sameSymbol, sameText⟩ := Prod.mk.inj same
  exact ⟨token, inside, sameSymbol, sameText.symm⟩

theorem kind_of_treeSymbol (long : symbol.toList.length = 4) (same : treeSymbol kind = symbol) :
    kind = symbol := by
  unfold treeSymbol at same
  split at same
  · rw [← same] at long
    simp at long
  · exact same

/-- No token is a leaf for a rule. -/
theorem Derivation.leaf_ne_name (derivation : Derivation source tree)
    (member : .leaf symbol line start stop text ∈ tree.subtrees) : symbol ≠ "name" := by
  rintro rfl
  obtain ⟨token, inside, same, -⟩ := derivation.token_of_leaf member (by decide)
  have kind := kind_of_treeSymbol (by decide) same
  rcases isKind_of_mem_tokens token inside with listed | ⟨c, single⟩
  · rw [kind] at listed
    exact absurd listed (by decide +kernel)
  · have long := congrArg (·.toList.length) (kind.symm.trans single)
    simp at long

/-- The leaf for a name has a text without slashes. -/
theorem Derivation.slash_leaf (derivation : Derivation source tree)
    (member : .leaf nameKind line start stop text ∈ tree.subtrees) :
    ∃ name, text = some name ∧ '/' ∉ name.toList := by
  obtain ⟨token, inside, same, sameText⟩ := derivation.token_of_leaf member (by decide)
  rw [tokens_eq] at inside
  obtain ⟨_, _, read⟩ := read_of_mem_tokensFrom token inside
  exact ⟨token.text, sameText, slash_readOn read (kind_of_treeSymbol (by decide) same)⟩

end Leaves

end GraphScript.Language

namespace GraphScript.Syntax

open List hiding choose
open GraphScript.Graph (Word)
open GraphScript.Language (Tree Alternative Derivation nameKind treeSymbol)

variable {parts : List Part} {piece : Piece}

/-- The names in the headers of a piece of syntax have no slash. -/
def Piece.Worded : Piece → Prop
  | .parameter one => Word one.name
  | .parameters all => ∀ one ∈ all, Word one.name
  | .result one => Word one.name
  | .results all => ∀ one ∈ all.items, Word one.name
  | .block one => one.Worded
  | .exec one => ∀ inner, one = .block inner → inner.Worded
  | .execs all => ∀ inner, .block inner ∈ all → inner.Worded
  | _ => True

namespace Builder

/-- A builder makes worded pieces from worded parts. -/
def Careful (build : Builder) : Prop :=
  ∀ tree parts piece, (∀ part ∈ parts, part.piece.Worded) → build tree parts = some piece →
    piece.Worded

/-! ## Lists -/

theorem careful_parameterList : Careful parameterList := by
  intro _ _ _ worded built
  unfold parameterList at built
  split at built <;> cases built
  case h_1 spot parameter =>
    have first : Word parameter.name := worded _ (mem_cons_self ..)
    simpa [Piece.Worded] using first
  case h_2 spot front _ other parameter =>
    have earlier : ∀ one ∈ front, Word one.name := worded _ (mem_cons_self ..)
    have last : Word parameter.name := worded ⟨other, .parameter parameter⟩ (by simp)
    exact forall_mem_append.mpr ⟨earlier, forall_mem_singleton.mpr last⟩

theorem careful_resultList : Careful resultList := by
  intro _ _ _ worded built
  unfold resultList at built
  split at built <;> cases built
  case h_1 spot result =>
    have first : Word result.name := worded _ (mem_cons_self ..)
    simpa [Piece.Worded] using first
  case h_2 spot front _ other result =>
    have earlier : ∀ one ∈ front.items, Word one.name := worded _ (mem_cons_self ..)
    have last : Word result.name := worded ⟨other, .result result⟩ (by simp)
    exact forall_mem_append.mpr ⟨earlier, forall_mem_singleton.mpr last⟩

theorem careful_execs : Careful execs := by
  intro _ _ _ worded built
  unfold execs at built
  split at built <;> cases built
  case h_1 spot exec =>
    have first : ∀ inner, exec = .block inner → inner.Worded := worded _ (mem_cons_self ..)
    intro inner member
    exact first inner (mem_singleton.mp member).symm
  case h_2 spot front other exec =>
    have earlier : ∀ inner, .block inner ∈ front → inner.Worded := worded _ (mem_cons_self ..)
    have last : ∀ inner, exec = .block inner → inner.Worded := worded ⟨other, .exec exec⟩ (by simp)
    intro inner member
    rcases mem_append.mp member with inFront | isLast
    · exact earlier inner inFront
    · exact last inner (mem_singleton.mp isLast).symm

/-! ## Pieces that are passed on -/

theorem careful_orNothing (worded : empty.Worded) : Careful (orNothing empty) := by
  intro _ _ _ given built
  unfold orNothing at built
  split at built <;> cases built
  · exact worded
  · exact given _ (mem_cons_self ..)

theorem careful_results : Careful results := by
  intro _ _ _ worded built
  unfold results at built
  split at built <;> cases built
  case h_1 => simp [Piece.Worded]
  case h_2 _ spot results => exact worded ⟨spot, .results results⟩ (by simp)

theorem careful_exec : Careful exec := by
  intro _ _ _ worded built
  unfold exec at built
  split at built <;> cases built
  case h_1 spot block =>
    have inner : block.Worded := worded _ (mem_cons_self ..)
    rintro _ ⟨⟩
    exact inner
  case h_2 => exact worded _ (mem_cons_self ..)

/-! ## Blocks -/

theorem exists_of_pick (picked : pick choose parts = some found) :
    ∃ part ∈ parts, choose part.piece = some found :=
  List.exists_of_findSome?_eq_some picked

theorem careful_scope : Careful scope := by
  intro _ _ _ worded built
  simp only [scope, Option.bind_eq_bind, Option.bind_eq_some_iff, Option.pure_def,
    Option.some.injEq] at built
  obtain ⟨_, -, _, pickParameters, _, pickResults, _, -, rfl⟩ := built
  obtain ⟨part, member, chosen⟩ := exists_of_pick pickParameters
  obtain ⟨other, memberToo, chosenToo⟩ := exists_of_pick pickResults
  have inputs := worded part member
  have outputs := worded other memberToo
  split at chosen
  case h_2 => cases chosen
  case h_1 isParameters =>
    split at chosenToo
    case h_2 => cases chosenToo
    case h_1 isResults =>
      cases chosen
      cases chosenToo
      rw [isParameters] at inputs
      rw [isResults] at outputs
      exact ⟨inputs, outputs⟩

theorem careful_compound : Careful compound := by
  intro _ _ _ worded built
  simp only [compound, Option.bind_eq_bind, Option.bind_eq_some_iff, Option.pure_def] at built
  obtain ⟨⟨_, _, _, _, _⟩, picked, same⟩ := built
  cases same
  obtain ⟨part, member, chosen⟩ := exists_of_pick picked
  have inner := worded part member
  split at chosen
  case h_2 => cases chosen
  case h_1 isBlock =>
    cases chosen
    rw [isBlock] at inner
    exact inner

/-! ## Pieces without a header -/

/-- A builder makes worded pieces from any parts. -/
def Plain (build : Builder) : Prop :=
  ∀ tree parts piece, build tree parts = some piece → piece.Worded

theorem plain_lastWord : Plain lastWord := by
  intro _ _ _ built
  simp only [lastWord, Option.bind_eq_bind, Option.bind_eq_some_iff, Option.pure_def,
    Option.some.injEq] at built
  obtain ⟨_, -, _, -, rfl⟩ := built
  trivial

theorem plain_flags : Plain flags := by
  intro _ _ _ built
  unfold flags at built
  split at built
  · cases built
    trivial
  · cases built
    trivial
  · obtain ⟨_, -, same⟩ := Option.bind_eq_some_iff.mp built
    cases same
    trivial
  · cases built

theorem plain_statements : Plain statements := by
  intro _ _ _ built
  unfold statements at built
  split at built <;> cases built <;> trivial

theorem plain_function : Plain function := by
  intro _ _ _ built
  unfold function at built
  split at built
  · obtain ⟨_, -, same⟩ := Option.bind_eq_some_iff.mp built
    cases same
    exact nofun
  · cases built

theorem plain_importing : Plain importing := by
  intro _ _ _ built
  unfold importing at built
  split at built
  · obtain ⟨_, -, same⟩ := Option.bind_eq_some_iff.mp built
    cases same
    exact nofun
  · obtain ⟨_, -, built⟩ := Option.bind_eq_some_iff.mp built
    obtain ⟨_, -, same⟩ := Option.bind_eq_some_iff.mp built
    cases same
    exact nofun
  · cases built

theorem plain_overload : Plain overload := by
  intro _ _ _ built
  unfold overload at built
  obtain ⟨_, -, built⟩ := Option.bind_eq_some_iff.mp built
  split at built
  · obtain ⟨_, -, same⟩ := Option.bind_eq_some_iff.mp built
    cases same
    exact nofun
  · cases built

/-! ## Single parameters and results -/

theorem worded_parameter
    (named : ∀ part, parts[1]? = some part → ∀ name, part.word? = some name → Word name)
    (built : parameter tree parts = some piece) : piece.Worded := by
  unfold parameter at built
  split at built
  · obtain ⟨name, found, same⟩ := Option.bind_eq_some_iff.mp built
    cases same
    exact named _ rfl name found
  · obtain ⟨name, found, built⟩ := Option.bind_eq_some_iff.mp built
    obtain ⟨_, -, same⟩ := Option.bind_eq_some_iff.mp built
    cases same
    exact named _ rfl name found
  · cases built

theorem worded_result
    (named : ∀ part, parts[1]? = some part → ∀ name, part.word? = some name → Word name)
    (built : result tree parts = some piece) : piece.Worded := by
  unfold result at built
  split at built
  case h_4 => cases built
  all_goals
    obtain ⟨name, found, same⟩ := Option.bind_eq_some_iff.mp built
    cases same
    exact named _ rfl name found

end Builder

/-! ## Trees -/

/-- The rules whose pieces are worded if their parts are. -/
def carefulRules : List String :=
  ["program", "execs", "exec", "compound", "unnamed_scope", "scope_result", "scope_result_list",
   "scope_parameter_list", "scope_parameters"]

/-- The rules whose pieces have no header. -/
def plainRules : List String :=
  ["import", "overload", "function", "terminal", "statement_list", "name"]

def singleRules : List String := ["scope_parameter_one", "scope_result_one"]

/-- Whether a symbol is that of a token, or of a rule whose pieces are worded. -/
def isHeaded (symbol : String) : Bool :=
  (carefulRules ++ plainRules ++ singleRules).contains symbol ||
    (Builder.byRule.lookup symbol).isNone

theorem careful_of_lookup : ∀ symbol ∈ carefulRules, ∀ build,
    Builder.byRule.lookup symbol = some build → build.Careful := by
  simp only [carefulRules, forall_mem_cons]
  refine ⟨?_, ?_, ?_, ?_, ?_, ?_, ?_, ?_, ?_, by simp⟩
  all_goals rintro _ ⟨⟩
  · exact Builder.careful_orNothing (by simp [Piece.Worded])
  · exact Builder.careful_execs
  · exact Builder.careful_exec
  · exact Builder.careful_compound
  · exact Builder.careful_scope
  · exact Builder.careful_results
  · exact Builder.careful_resultList
  · exact Builder.careful_parameterList
  · exact Builder.careful_orNothing (by simp [Piece.Worded])

theorem plain_of_lookup : ∀ symbol ∈ plainRules, ∀ build,
    Builder.byRule.lookup symbol = some build → build.Plain := by
  simp only [plainRules, forall_mem_cons]
  refine ⟨?_, ?_, ?_, ?_, ?_, ?_, by simp⟩
  all_goals rintro _ ⟨⟩
  · exact Builder.plain_importing
  · exact Builder.plain_overload
  · exact Builder.plain_function
  · exact Builder.plain_flags
  · exact Builder.plain_statements
  · exact Builder.plain_lastWord

/-- The alternatives of a rule. -/
def alternativesOf (name : String) : List (List String) :=
  (Language.rules.filter fun rule => rule.1 == name).flatMap fun rule =>
    rule.2.map fun alternative => (Text.parts ' ' alternative).map treeSymbol

theorem mem_alternativesOf (alternative : Alternative name symbols) :
    symbols ∈ alternativesOf name := by
  obtain ⟨alternatives, alternative, rule, member, rfl⟩ := alternative
  refine mem_flatMap.mpr ⟨(name, alternatives), ?_, mem_map_of_mem member⟩
  exact mem_filter.mpr ⟨rule, beq_self_eq_true name⟩

/-- Careful rules have worded parts. -/
theorem headed_alternatives : ∀ name ∈ carefulRules, ∀ symbols ∈ alternativesOf name,
    ∀ symbol ∈ symbols, isHeaded symbol = true := by
  decide +kernel

/-- A parameter or result is named by its second part. -/
theorem named_alternatives : ∀ name ∈ singleRules, ∀ symbols ∈ alternativesOf name,
    ∀ symbol, symbols[1]? = some symbol → symbol = "name" := by
  have checked : ∀ name ∈ singleRules, ∀ symbols ∈ alternativesOf name,
      symbols[1]? = none ∨ symbols[1]? = some "name" := by
    decide +kernel
  intro name member symbols listed _ found
  rcases checked name member symbols listed with none | isName
  · rw [none] at found
    cases found
  · exact Option.some.inj (found.symm.trans isName)

theorem last_alternatives : ∀ symbols ∈ alternativesOf "name",
    symbols.getLast? = some nameKind := by
  decide +kernel

/-- What is known of a part of the tree of a script. -/
structure Part.Proper (part : Part) : Prop where
  worded : isHeaded part.tree.symbol = true → part.piece.Worded
  named : part.tree.symbol = "name" ∨ part.tree.symbol = nameKind →
    ∀ name, part.word? = some name → Word name

variable {source : Source} {root : Tree}

theorem proper_leaf (derivation : Derivation source root)
    (member : .leaf symbol line start stop text ∈ root.subtrees)
    (found : piece? (.leaf symbol line start stop text) = some piece) :
    Part.Proper ⟨.leaf symbol line start stop text, piece⟩ := by
  refine ⟨fun _ => ?_, fun isName _ word => ?_⟩
  · cases text <;> cases found <;> trivial
  · rcases isName with rfl | rfl
    · exact absurd rfl (derivation.leaf_ne_name member)
    · obtain ⟨_, rfl, slash⟩ := derivation.slash_leaf member
      cases found
      cases word
      exact slash

theorem proper_node (alternative : Alternative symbol (children.map Tree.symbol))
    (known : Builder.byRule.lookup symbol = some build) (trees : parts.map Part.tree = children)
    (proper : ∀ part ∈ parts, part.Proper)
    (built : build (.node symbol line start stop children) parts = some piece) :
    Part.Proper ⟨.node symbol line start stop children, piece⟩ := by
  have listed := mem_alternativesOf alternative
  refine ⟨fun isHeaded => ?_, fun isName name word => ?_⟩
  · -- tokens have no builder
    simp only [Syntax.isHeaded, Tree.symbol, known, Option.isNone_some, Bool.or_false,
      contains_iff_mem, mem_append] at isHeaded
    rcases isHeaded with (careful | plain) | single
    · refine careful_of_lookup symbol careful build known _ _ _ (fun part member => ?_) built
      refine (proper part member).worded (headed_alternatives symbol careful _ listed _ ?_)
      rw [← trees, map_map]
      exact mem_map_of_mem member
    · exact plain_of_lookup symbol plain build known _ _ _ built
    · have named : ∀ part, parts[1]? = some part → ∀ name, part.word? = some name → Word name := by
        intro part second
        refine (proper part (mem_of_getElem? second)).named (.inl ?_)
        refine named_alternatives symbol single _ listed _ ?_
        rw [← trees, map_map, List.getElem?_map, second]
        rfl
      simp only [singleRules, mem_cons, not_mem_nil, or_false] at single
      rcases single with rfl | rfl
      · cases known
        exact Builder.worded_parameter named built
      · cases known
        exact Builder.worded_result named built
  · rcases isName with rfl | rfl
    · cases known
      simp only [Builder.lastWord, Option.bind_eq_bind, Option.bind_eq_some_iff, Option.pure_def,
        Option.some.injEq] at built
      obtain ⟨last, isLast, _, found, rfl⟩ := built
      cases word
      refine (proper last (mem_of_getLast? isLast)).named (.inr ?_) _ found
      have symbols := last_alternatives _ listed
      rw [← trees, map_map, List.getLast?_map, isLast] at symbols
      exact Option.some.inj symbols
    · cases known

mutual

theorem proper_piece (derivation : Derivation source root) :
    ∀ {tree : Tree} {piece : Piece}, (∀ part ∈ tree.subtrees, part ∈ root.subtrees) →
      piece? tree = some piece → Part.Proper ⟨tree, piece⟩
  | .leaf .., _, inside, found => proper_leaf derivation (inside _ (mem_singleton_self _)) found
  | .node _ _ _ _ _, piece, inside, found => by
    rw [piece?] at found
    obtain ⟨_, known, found⟩ := Option.bind_eq_some_iff.mp found
    obtain ⟨_, some, built⟩ := Option.bind_eq_some_iff.mp found
    obtain ⟨trees, proper⟩ := proper_parts derivation (forall_mem_cons.mp inside).2 some
    exact proper_node (derivation.rules _ _ _ _ _ (inside _ (mem_cons_self ..))) known trees proper
      built

theorem proper_parts (derivation : Derivation source root) :
    ∀ {trees : List Tree} {parts : List Part},
      (∀ part ∈ Tree.subtreesOfAll trees, part ∈ root.subtrees) → parts? trees = some parts →
      parts.map Part.tree = trees ∧ ∀ part ∈ parts, part.Proper
  | [], _, _, found => by
    cases found
    exact ⟨rfl, by simp⟩
  | tree :: _, parts, inside, found => by
    rw [parts?] at found
    obtain ⟨_, first, found⟩ := Option.bind_eq_some_iff.mp found
    obtain ⟨_, rest, same⟩ := Option.bind_eq_some_iff.mp found
    cases same
    have proper := proper_piece derivation
      (fun part member => inside part (mem_append_left _ member)) first
    obtain ⟨same, properRest⟩ := proper_parts derivation
      (fun part member => inside part (mem_append_right _ member)) rest
    exact ⟨congrArg (tree :: ·) same, forall_mem_cons.mpr ⟨proper, properRest⟩⟩

end

/-- The compounds at the top level of a script have no slash in their headers. -/
theorem worded_of_ofTree? (derivation : Derivation source root)
    (isProgram : root.symbol = Language.startName) (read : ofTree? root = some execs)
    (member : .block block ∈ execs) : block.Worded := by
  unfold ofTree? at read
  split at read
  case h_1 written found =>
    cases read
    have proper := proper_piece derivation (fun _ inside => inside) found
    have headed : isHeaded root.symbol = true := by
      rw [isProgram]
      decide +kernel
    exact proper.worded headed block member
  case h_2 => cases read

end GraphScript.Syntax
