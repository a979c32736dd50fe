import GraphScript.Grammar.Automaton

/-!
# Lookahead symbols

When a production is complete in a state, the symbols that may come next decide whether it is
reduced.  They are collected over the moves by a nonterminal: what can be read directly after such a
move, what can be read after it past symbols that may be empty, and what may follow the productions
that end with it.  Both unions go along a relation between moves, component by component, and moves
of one component share one set.
-/

namespace GraphScript.Grammar

/-- A move by a nonterminal. -/
structure Transition where
  state : Nat
  symbol : String
  deriving DecidableEq, Hashable, Inhabited

/-- The sets of symbols while they are collected.  Several moves can share one set. -/
structure Collection where
  sets : Array (Array String)
  setOf : Array (Option Nat)
  /-- How deep every move stood when it was visited; zero before. -/
  depth : Array Nat
  /-- The moves under way, the last one first. -/
  path : List Nat

namespace Collection

def settled : Nat := Nat.pow 2 63 - 1

def symbolsOf (collection : Collection) (move : Nat) : Array String :=
  match collection.setOf.getD move none with
  | some set => collection.sets.getD set #[]
  | none => #[]

def add (collection : Collection) (move : Nat) (symbols : Array String) : Collection :=
  match collection.setOf.getD move none with
  | none => collection
  | some set =>
    { collection with
      sets := collection.sets.modify set fun known =>
        symbols.foldl (fun known symbol =>
          if known.contains symbol then known else known.push symbol) known }

/-- Closes the component of a move: everything above it on the path gets its set. -/
def close (move : Nat) : List Nat → Collection → Collection
  | [], collection => collection
  | top :: rest, collection =>
    let shared := collection.setOf.getD move none
    let collection := { collection with
      depth := collection.depth.setIfInBounds top settled
      setOf := collection.setOf.setIfInBounds top shared
      path := rest }
    if top = move then collection else close move rest collection

/-- Visits a move and everything it is related to.  `first` gives the set that a move starts
with. -/
def visit (related : Array (Array Nat)) (first : Nat → Collection → Nat × Collection) :
    Nat → Nat → Collection → Collection
  | 0, _, collection => collection
  | bound + 1, move, collection =>
    let path := move :: collection.path
    let depth := path.length
    let (set, collection) := first move
      { collection with path := path, depth := collection.depth.setIfInBounds move depth }
    let collection := { collection with setOf := collection.setOf.setIfInBounds move (some set) }
    let collection := (related.getD move #[]).foldl (fun collection other =>
      let collection :=
        if collection.depth.getD other 0 = 0 then visit related first bound other collection
        else collection
      let low := min (collection.depth.getD move 0) (collection.depth.getD other 0)
      let collection := { collection with depth := collection.depth.setIfInBounds move low }
      collection.add move (collection.symbolsOf other)) collection
    if collection.depth.getD move 0 = depth then close move collection.path collection
    else collection

/-- Visits every move that was not visited on the way. -/
def visitAll (count : Nat) (related : Array (Array Nat))
    (first : Nat → Collection → Nat × Collection) (sets : Array (Array String)) : Collection :=
  (List.range count).foldl (fun collection move =>
    if collection.depth.getD move 0 = 0 then visit related first (count + 1) move collection
    else collection)
    ⟨sets, Array.replicate count none, Array.replicate count 0, []⟩

end Collection

/-- The lookahead symbols of the items of every state. -/
abbrev Lookaheads : Type := Std.HashMap (Nat × Item) (Array String)

namespace Automaton

variable (rules : Rules) (automaton : Automaton)

/-- The moves by a nonterminal, state by state in order of the items. -/
def transitions (nonterminals : Std.HashSet String) : Array Transition :=
  (automaton.states.foldl (fun (state, found) items =>
    let (found, _) := items.foldl
      (fun ((found : Array Transition), (seen : Std.HashSet String)) item =>
      match rules.nextSymbol? item with
      | none => (found, seen)
      | some symbol =>
        if nonterminals.contains symbol && !seen.contains symbol then
          (found.push ⟨state, symbol⟩, seen.insert symbol)
        else (found, seen)) (found, (∅ : Std.HashSet String))
    (state + 1, found)) (0, (#[] : Array Transition))).2

def directReads (terminals : Std.HashSet String) (move : Transition) : Array String :=
  let target := (automaton.after? move.state move.symbol).getD 0
  let found := (automaton.states.getD target #[]).foldl (fun found item =>
    match rules.nextSymbol? item with
    | none => found
    | some symbol =>
      if terminals.contains symbol && !found.contains symbol then found.push symbol else found)
    (#[] : Array String)
  if move.state = 0 ∧ (rules.production 0).symbols.head? = some move.symbol then found.push endMark
  else found

/-- The moves by a symbol that may be empty, directly after a move. -/
def emptyReads (nullable : List String) (numbers : Std.HashMap Transition Nat) (move : Transition) :
    Array Nat :=
  let target := (automaton.after? move.state move.symbol).getD 0
  (automaton.states.getD target #[]).foldl (fun found item =>
    match rules.nextSymbol? item with
    | none => found
    | some symbol =>
      if nullable.contains symbol then
        match numbers.get? ⟨target, symbol⟩ with
        | some number => found.push number
        | none => found
      else found) #[]

/-- Follows an item from a state to the end of its production: the state it ends in, and the moves
on the way after which the rest of the production may be empty. -/
def follow (nullable : List String) (numbers : Std.HashMap Transition Nat) :
    List String → Nat → Array Nat → Nat × Array Nat
  | [], state, passed => (state, passed)
  | symbol :: rest, state, passed =>
    let passed :=
      match numbers.get? ⟨state, symbol⟩ with
      | some number => if rest.all nullable.contains then passed.push number else passed
      | none => passed
    follow nullable numbers rest ((automaton.after? state symbol).getD 0) passed

/-- Whether the part of an item before its dot is what another item, written with its dot, has after
its first place. -/
def continues (item started : Item) : Bool :=
  let read := (rules.production item.production).symbols
  let other := rules.production started.production
  let shifted := other.symbols.take started.dot ++ ["."] ++ other.symbols.drop started.dot
  let shown := read.take item.dot ++ ["."] ++ read.drop item.dot
  shown.length = shifted.length && shown.take item.dot == (shifted.drop 1).take item.dot

/-- What a move contributes to: the items whose lookahead it gives, and the moves it is followed
by. -/
def contributions (nullable : List String) (numbers : Std.HashMap Transition Nat)
    (move : Transition) : Array (Nat × Item) × Array Nat :=
  (automaton.states.getD move.state #[]).foldl (fun (back, passed) item =>
    let production := rules.production item.production
    if production.name = move.symbol then
      let (last, passed) := automaton.follow nullable numbers (production.symbols.drop item.dot)
        move.state passed
      let back := (automaton.states.getD last #[]).foldl (fun back other =>
        if (rules.production other.production).name = production.name ∧
          continues rules other item then
          back.push (last, other)
        else back) back
      (back, passed)
    else (back, passed)) (#[], #[])

def lookaheads : Lookaheads :=
  let nonterminals := Std.HashSet.ofList rules.nonterminals
  let terminals := Std.HashSet.ofList rules.terminals
  let nullable := rules.nullable
  let moves := automaton.transitions rules nonterminals
  let numbers := (moves.foldl (fun (number, numbers) move =>
    (number + 1, numbers.insert move number)) (0, (∅ : Std.HashMap Transition Nat))).2
  let count := moves.size
  let reads := Collection.visitAll count
    (moves.map (automaton.emptyReads rules nullable numbers))
    (fun move collection =>
      (collection.sets.size,
        { collection with
          sets := collection.sets.push
            (automaton.directReads rules terminals (moves.getD move default)) })) #[]
  let contributed := moves.map (automaton.contributions rules nullable numbers)
  let included := (contributed.foldl (fun (number, included) contribution =>
    (number + 1, contribution.2.foldl (fun included passed =>
      included.modify passed (·.push number)) included))
    (0, Array.replicate count (#[] : Array Nat))).2
  let follows := Collection.visitAll count included
    (fun move collection => ((reads.setOf.getD move none).getD 0, collection)) reads.sets
  (contributed.foldl (fun (number, found) contribution =>
    let symbols := follows.symbolsOf number
    (number + 1, contribution.1.foldl (fun (found : Lookaheads) place =>
      found.insert place (symbols.foldl (fun known symbol =>
        if known.contains symbol then known else known.push symbol) (found.getD place #[]))) found))
    (0, (∅ : Lookaheads))).2

end Automaton

end GraphScript.Grammar
