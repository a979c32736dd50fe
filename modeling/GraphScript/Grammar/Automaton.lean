import GraphScript.Table
import Std.Data.HashMap
import Std.Data.HashSet

/-!
# The automaton of a grammar

A state is a list of productions in progress.  It is made from its kernel by adding, in order, the
productions of every nonterminal that can come next.  Kernels are lists, not sets: two kernels with
the same items in another order give two states.

A production that an earlier table of the grammar opened last in some state is left out of the state
of that number, unless a state before it has opened the production again.
-/

namespace GraphScript.Grammar

/-! ## Grammars -/

/-- To which side operators of one level group. -/
inductive Side where
  | left
  | right
  | nonassoc
  deriving DecidableEq, Inhabited

/-- The rank of a terminal or a production. -/
structure Rank where
  side : Side
  level : Int
  deriving DecidableEq, Inhabited

namespace Rank

/-- The rank of everything that was given none. -/
def none : Rank := ⟨.right, 0⟩

end Rank

/-- A production: a symbol and what it stands for. -/
structure Production where
  number : Nat
  name : String
  symbols : List String
  rank : Rank
  /-- The name of the action that builds the value, if there is one. -/
  action : Option String
  file : String
  line : Int
  deriving DecidableEq, Inhabited

namespace Production

def text (production : Production) : String :=
  match production.symbols with
  | [] => production.name ++ " -> <empty>"
  | symbols => production.name ++ " -> " ++ " ".intercalate symbols

/-- A text list without repetitions, in order of first occurrence. -/
def distinct (symbols : List String) : List String :=
  symbols.foldl (fun seen symbol => if seen.contains symbol then seen else seen ++ [symbol]) []

/-- A production with a dot after some of its symbols, as text. -/
def dotted (production : Production) (dot : Nat) : String :=
  production.name ++ " -> " ++
    " ".intercalate (production.symbols.take dot ++ ["."] ++ production.symbols.drop dot)

end Production

/-- The symbol after the end of the input. -/
def endMark : String := "$end"

/-- The symbol of the production that wraps the start symbol. -/
def rootName : String := "S'"

/-- What a table is built from. -/
structure Rules where
  /-- The productions; the first one wraps the start symbol. -/
  productions : Array Production
  terminals : List String
  nonterminals : List String
  ranks : Table Rank
  /-- For every production one more than the number of the state that opened it last in an earlier
  table of the same grammar; zero where there is none. -/
  lastOpened : Array Nat := #[]

namespace Rules

def rankOf (rules : Rules) (symbol : String) : Rank := (rules.ranks.get? symbol).getD .none

def production (rules : Rules) (number : Nat) : Production := rules.productions.getD number default

/-- The nonterminals from which the empty text can be derived.  Every round that is not the last one
finds another of them. -/
def nullable (rules : Rules) : List String := go (rules.nonterminals.length + 1) []
where
  go : Nat → List String → List String
    | 0, known => known
    | rounds + 1, known =>
      let more := (rules.productions.toList.drop 1).foldl (fun known production =>
        if production.symbols.all known.contains && !known.contains production.name then
          known ++ [production.name]
        else known) known
      if more.length = known.length then known else go rounds more

end Rules

/-! ## States -/

/-- A production in progress: the dot stands after the symbols that were read. -/
structure Item where
  production : Nat
  dot : Nat
  deriving DecidableEq, Hashable

/-- The productions of every nonterminal, by their numbers. -/
abbrev RuleIndex : Type := Std.HashMap String (Array Nat)

namespace Rules

/-- The productions of every nonterminal, in order of their numbers. -/
def index (rules : Rules) : RuleIndex :=
  (rules.productions.toList.drop 1).foldl (fun index production =>
    index.insert production.name ((index.getD production.name #[]).push production.number)) ∅

/-- The symbol after the dot. -/
def nextSymbol? (rules : Rules) (item : Item) : Option String :=
  (rules.production item.production).symbols[item.dot]?

/-- Adds the productions that can come next, item by item, but for those that are left out.  Each
nonterminal is opened once. -/
def closeFrom (rules : Rules) (index : RuleIndex) (leftOut : Nat → Bool) :
    Nat → Nat → Array Item → Std.HashSet String → Array Item
  | 0, _, items, _ => items
  | bound + 1, position, items, opened =>
    match items[position]? with
    | none => items
    | some item =>
      match rules.nextSymbol? item with
      | none => closeFrom rules index leftOut bound (position + 1) items opened
      | some symbol =>
        if opened.contains symbol then
          closeFrom rules index leftOut bound (position + 1) items opened
        else
          let fresh := ((index.getD symbol #[]).filter fun number => !leftOut number).map
            fun number => (⟨number, 0⟩ : Item)
          closeFrom rules index leftOut bound (position + 1) (items ++ fresh) (opened.insert symbol)

def opens (items : Array Item) (number : Nat) : Bool := number != 0 && items.contains ⟨number, 0⟩

/-- Whether a production is left out of the next state after some others. -/
def leavesOut (rules : Rules) (states : Array (Array Item)) (number : Nat) : Bool :=
  rules.lastOpened.getD number 0 == states.size + 1 && !states.any (opens · number)

/-- All items of the next state after some others, which has a kernel. -/
def closure (rules : Rules) (index : RuleIndex) (states : Array (Array Item))
    (kernel : Array Item) : Array Item :=
  closeFrom rules index (rules.leavesOut states)
    (kernel.size + rules.productions.size + 1) 0 kernel ∅

/-- The symbols of the productions of a state, in order of first occurrence. -/
def symbolsOf (rules : Rules) (items : Array Item) : Array String :=
  (items.foldl (fun (found : Array String × Std.HashSet String) item =>
    (rules.production item.production).symbols.foldl (fun (symbols, seen) symbol =>
      if seen.contains symbol then (symbols, seen)
      else (symbols.push symbol, seen.insert symbol)) found) (#[], ∅)).1

def kernelsAfter (rules : Rules) (items : Array Item) : Std.HashMap String (Array Item) :=
  items.foldl (fun kernels item =>
    match rules.nextSymbol? item with
    | none => kernels
    | some symbol =>
      kernels.insert symbol ((kernels.getD symbol #[]).push ⟨item.production, item.dot + 1⟩)) ∅

end Rules

/-- The states of a grammar and the moves between them. -/
structure Automaton where
  states : Array (Array Item)
  /-- For every state the symbols that can be read next, each with the state it leads to. -/
  moves : Array (Array (String × Nat))
  numbers : Std.HashMap (List Item) Nat

namespace Automaton

def after? (automaton : Automaton) (state : Nat) (symbol : String) : Option Nat :=
  ((automaton.moves.getD state #[]).find? fun move => move.1 == symbol).map (·.2)

/-- Adds the moves of one state, and the states that they lead to first. -/
def expand (rules : Rules) (index : RuleIndex) (automaton : Automaton) (state : Nat) : Automaton :=
  let items := automaton.states.getD state #[]
  let kernels := rules.kernelsAfter items
  let (automaton, moves) :=
    (rules.symbolsOf items).foldl (fun (automaton, moves) symbol =>
      match kernels.get? symbol with
      | none => (automaton, moves)
      | some kernel =>
        match automaton.numbers.get? kernel.toList with
        | some number => (automaton, moves.push (symbol, number))
        | none =>
          let number := automaton.states.size
          ({ automaton with
              states := automaton.states.push (rules.closure index automaton.states kernel)
              numbers := automaton.numbers.insert kernel.toList number },
            moves.push (symbol, number))) (automaton, (#[] : Array (String × Nat)))
  { automaton with moves := automaton.moves.push moves }

/-- Expands the states one after the other. -/
def expandFrom (rules : Rules) (index : RuleIndex) : Nat → Nat → Automaton → Automaton
  | 0, _, automaton => automaton
  | bound + 1, state, automaton =>
    if state < automaton.states.size then
      expandFrom rules index bound (state + 1) (expand rules index automaton state)
    else automaton

def itemCount (rules : Rules) : Nat :=
  rules.productions.foldl (fun count production => count + production.symbols.length + 1) 0

/-- The automaton of a grammar.  There are no more states than lists of distinct items. -/
def ofRules (rules : Rules) : Automaton :=
  let index := rules.index
  let kernel : Array Item := #[⟨0, 0⟩]
  let count := itemCount rules + 1
  expandFrom rules index (Nat.pow count count) 0
    ⟨#[rules.closure index #[] kernel], #[], Std.HashMap.ofList [(kernel.toList, 0)]⟩

/-- For every production one more than the number of the last state that opens it, or what is known
from an earlier table. -/
def lastOpened (rules : Rules) (automaton : Automaton) : Array Nat :=
  ((List.range rules.productions.size).map fun number =>
    match (automaton.states.toList.mapIdx fun state items => (state, items)).reverse.find?
      fun entry =>
      Rules.opens entry.2 number with
    | some entry => entry.1 + 1
    | none => rules.lastOpened.getD number 0).toArray

end Automaton

end GraphScript.Grammar
