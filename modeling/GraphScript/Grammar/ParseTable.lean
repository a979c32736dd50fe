import GraphScript.Grammar.Lookahead
import GraphScript.Text.Cut

/-!
# Parse tables

What to do in a state when a symbol comes next.  A conflict between shifting and reducing is decided
by ranks, and by shifting when there are none; of two productions the one that was written first is
reduced, and of two on the same line the one that the state lists first.
-/

namespace GraphScript.Grammar

/-- What to do when a symbol comes next. -/
inductive Action where
  | shift (state : Nat)
  | reduce (number : Nat)
  | accept
  /-- The symbol is not allowed here although a production could use it. -/
  | blocked
  deriving DecidableEq

/-- A remark on a conflict, in the order in which conflicts were met. -/
inductive Remark where
  | shiftReduce (symbol : String) (shifted : Bool)
  | reduceReduce (symbol : String) (winner : Item)
  deriving DecidableEq

/-- A conflict that no rank decided. -/
inductive Conflict where
  | shiftReduce (state : Nat) (symbol : String) (shifted : Bool)
  | reduceReduce (state : Nat) (kept rejected : Nat)
  deriving DecidableEq

/-- The actions of one state and how they came about. -/
structure StateActions where
  actions : Table Action
  reasons : Table Item
  /-- Every action that some item asked for, in order. -/
  wishes : Array (String × Item × Action)
  remarks : Array Remark
  deriving Inhabited

structure ParseTable where
  rules : Rules
  automaton : Automaton
  states : Array StateActions
  conflicts : Array Conflict
  reductions : Array Int

namespace ParseTable

/-- The table while it is filled. -/
structure Draft where
  entry : StateActions
  conflicts : Array Conflict
  reductions : Array Int

namespace Draft

def enter (draft : Draft) (symbol : String) (action : Action) (item : Item) : Draft :=
  { draft with entry := { draft.entry with
      actions := draft.entry.actions.insert symbol action
      reasons := draft.entry.reasons.insert symbol item } }

/-- Counts reductions of a production. -/
def count (draft : Draft) (number : Nat) (change : Int) : Draft :=
  { draft with reductions := draft.reductions.modify number (· + change) }

def block (draft : Draft) (symbol : String) : Draft :=
  { draft with entry := { draft.entry with actions := draft.entry.actions.insert symbol .blocked } }

def wish (draft : Draft) (symbol : String) (item : Item) (action : Action) : Draft :=
  { draft with entry := { draft.entry with
      wishes := draft.entry.wishes.push (symbol, item, action) } }

def remarkShift (draft : Draft) (state : Nat) (symbol : String) (shifted : Bool) : Draft :=
  { draft with
    entry := { draft.entry with remarks := draft.entry.remarks.push (.shiftReduce symbol shifted) }
    conflicts := draft.conflicts.push (.shiftReduce state symbol shifted) }

end Draft

/-- What stops the filling of a table: a message, and the draft up to there. -/
structure Stop where
  draft : Draft
  message : String

/-- A step of filling a table. -/
abbrev Filling : Type := Except Stop Draft

def unknownConflict (state : Nat) (draft : Draft) : Filling :=
  .error ⟨draft, s!"Unknown conflict in state {state}"⟩

def enterReduction (rules : Rules) (state : Nat) (item : Item) (symbol : String) (draft : Draft) :
    Filling :=
  let number := item.production
  let draft := draft.wish symbol item (.reduce number)
  match draft.entry.actions.get? symbol with
  | none | some .blocked => .ok ((draft.enter symbol (.reduce number) item).count number 1)
  | some .accept => unknownConflict state draft
  | some (.shift _) =>
    let token := rules.rankOf symbol
    let rule := (rules.production number).rank
    if token.level < rule.level ∨ (token.level = rule.level ∧ rule.side = .left) then
      let draft := draft.enter symbol (.reduce number) item
      let draft :=
        if token.level = 0 ∧ rule.level = 0 then draft.remarkShift state symbol false else draft
      .ok (draft.count number 1)
    else if token.level = rule.level ∧ rule.side = .nonassoc then .ok (draft.block symbol)
    else if rule.level = 0 then .ok (draft.remarkShift state symbol true)
    else .ok draft
  | some (.reduce old) =>
    let (kept, rejected, draft) :=
      if (rules.production old).line > (rules.production number).line then
        (number, old, ((draft.enter symbol (.reduce number) item).count number 1).count old (-1))
      else (old, number, draft)
    let winner := (draft.entry.reasons.get? symbol).getD item
    .ok { draft with
      entry :=
        { draft.entry with remarks := draft.entry.remarks.push (.reduceReduce symbol winner) }
      conflicts := draft.conflicts.push (.reduceReduce state kept rejected) }

def enterShift (rules : Rules) (state : Nat) (item : Item) (symbol : String) (target : Nat)
    (draft : Draft) : Filling :=
  let draft := draft.wish symbol item (.shift target)
  match draft.entry.actions.get? symbol with
  | none | some .blocked => .ok (draft.enter symbol (.shift target) item)
  | some .accept => unknownConflict state draft
  | some (.shift other) =>
    if other = target then .ok draft else .error ⟨draft, s!"Shift/shift conflict in state {state}"⟩
  | some (.reduce _) =>
    let token := rules.rankOf symbol
    let reduced := ((draft.entry.reasons.get? symbol).getD item).production
    let rule := (rules.production reduced).rank
    if token.level > rule.level ∨ (token.level = rule.level ∧ rule.side = .right) then
      let draft := (draft.count reduced (-1)).enter symbol (.shift target) item
      .ok (if rule.level = 0 then draft.remarkShift state symbol true else draft)
    else if token.level = rule.level ∧ rule.side = .nonassoc then .ok (draft.block symbol)
    else if token.level = 0 ∧ rule.level = 0 then .ok (draft.remarkShift state symbol false)
    else .ok draft

def enterItem (rules : Rules) (automaton : Automaton) (terminals : Std.HashSet String)
    (lookaheads : Lookaheads) (state : Nat) (draft : Draft) (item : Item) : Filling :=
  match rules.nextSymbol? item with
  | none =>
    if (rules.production item.production).name = rootName then
      .ok (draft.enter endMark .accept item)
    else
      (lookaheads.getD (state, item) #[]).foldlM (fun draft symbol =>
        enterReduction rules state item symbol draft) draft
  | some symbol =>
    if terminals.contains symbol then
      match automaton.after? state symbol with
      | some target => enterShift rules state item symbol target draft
      | none => .ok draft
    else .ok draft

/-- A table while its states are filled one after the other, and what stopped that. -/
structure Progress where
  states : Array StateActions
  conflicts : Array Conflict
  reductions : Array Int
  stopped : Option String

/-- Fills the next state, unless something stopped the filling before. -/
def fillState (rules : Rules) (automaton : Automaton) (terminals : Std.HashSet String)
    (lookaheads : Lookaheads) (progress : Progress) (items : Array Item) : Progress :=
  if progress.stopped.isSome then progress
  else
    let keep (draft : Draft) (stopped : Option String) : Progress :=
      ⟨progress.states.push draft.entry, draft.conflicts, draft.reductions, stopped⟩
    match items.foldlM (enterItem rules automaton terminals lookaheads progress.states.size)
      ⟨⟨.empty, .empty, #[], #[]⟩, progress.conflicts, progress.reductions⟩ with
    | .ok draft => keep draft none
    | .error stop => keep stop.draft (some stop.message)

/-- The table of a grammar as far as it can be filled, and what stopped the filling. -/
def fill (rules : Rules) : ParseTable × Option String :=
  let automaton := Automaton.ofRules rules
  let lookaheads := automaton.lookaheads rules
  let terminals := Std.HashSet.ofList rules.terminals
  let progress := automaton.states.foldl (fillState rules automaton terminals lookaheads)
    ⟨#[], #[], Array.replicate rules.productions.size (0 : Int), none⟩
  (⟨rules, automaton, progress.states, progress.conflicts, progress.reductions⟩, progress.stopped)

/-- The table of a grammar, or why there is none. -/
def build (rules : Rules) : Except String ParseTable :=
  match fill rules with
  | (table, none) => .ok table
  | (_, some message) => .error message

def action? (table : ParseTable) (state : Nat) (symbol : String) : Option Action :=
  (table.states.getD state default).actions.get? symbol

/-- The state after a reduced nonterminal. -/
def target? (table : ParseTable) (state : Nat) (symbol : String) : Option Nat :=
  table.automaton.after? state symbol

/-- The only action of a state, if that is a reduction: it needs no look at the input. -/
def default? (table : ParseTable) (state : Nat) : Option Nat :=
  match (table.states.getD state default).actions.entries with
  | [(_, .reduce number)] => some number
  | _ => none

end ParseTable

/-! ## Tables as text -/

def padded (width : Nat) (text : String) : String :=
  text ++ Text.repeated (width - Text.width text) " "

namespace ParseTable

variable (table : ParseTable)

def itemText (item : Item) : String := (table.rules.production item.production).dotted item.dot

def remarkText : Remark → String
  | .shiftReduce symbol shifted =>
    "  ! shift/reduce conflict for " ++ symbol ++ " resolved as " ++
      (if shifted then "shift" else "reduce")
  | .reduceReduce symbol winner =>
    "  ! reduce/reduce conflict for " ++ symbol ++ " resolved using rule " ++
      toString winner.production ++ " (" ++ table.itemText winner ++ ")"

def wishText (item : Item) : Action → String
  | .shift state => "shift and go to state " ++ toString state
  | _ => "reduce using rule " ++ toString item.production ++ " (" ++ table.itemText item ++ ")"

/-- The actions that were chosen, and after a blank line those that were not. -/
def choiceLines (entry : StateActions) : List String :=
  let wishes := entry.wishes.toList.filter fun wish => entry.actions.contains wish.1
  let chosen := wishes.filter fun wish => entry.reasons.get? wish.1 == some wish.2.1
  let others := wishes.filter fun wish => entry.reasons.get? wish.1 != some wish.2.1
  let words (wish : String × Item × Action) := (wish.1, table.wishText wish.2.1 wish.2.2)
  let unused := (others.foldl
    (fun ((seen, found) : List (String × String) × List (String × String)) wish =>
    if seen.contains (words wish) then (seen, found)
    else (words wish :: seen, found ++ [words wish])) (chosen.map words, [])).2
  chosen.map (fun wish => "    " ++ padded 15 wish.1 ++ " " ++ table.wishText wish.2.1 wish.2.2) ++
    [""] ++
    unused.map (fun line => "  ! " ++ padded 15 line.1 ++ " [ " ++ line.2 ++ " ]") ++
    (if unused.isEmpty then [] else [""])

def moves (state : Nat) : List (String × Nat) :=
  (table.automaton.moves.getD state #[]).toList.filter fun move =>
    table.rules.nonterminals.contains move.1

/-- The lines of a state; a state at which the filling stopped has no choices. -/
def stateLines (stopped : Bool) (state : Nat) : List String :=
  let entry := table.states.getD state default
  let items := (table.automaton.states.getD state #[]).toList
  ["", "state " ++ toString state, ""] ++
    items.map (fun item => "    (" ++ toString item.production ++ ") " ++ table.itemText item) ++
    [""] ++ entry.remarks.toList.map table.remarkText ++
    (if stopped then []
    else
      table.choiceLines entry ++ (table.moves state).map fun move =>
        "    " ++ padded 30 move.1 ++ " shift and go to state " ++ toString move.2)

def lines (stopped : Bool) : List String :=
  (List.range table.states.size).flatMap fun state =>
    table.stateLines (stopped && state + 1 == table.states.size) state

end ParseTable

end GraphScript.Grammar
