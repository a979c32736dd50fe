import GraphScript.Generator.Parsing

/-!
# Grammars step by step

A grammar can be built and asked with single steps.  The answers are documents: productions and
items as texts, symbols with their terminals as pairs, and the table as lists of entries.
-/

namespace GraphScript.Generator

open Work Grammar

/-! ## Sessions -/

/-- The answer of a step: a document or a fault. -/
abbrev Answer : Type := Except Fault Document

/-- What a session gives back; a part that was not reached is missing. -/
structure Report where
  scanned : Option (List Answer) := none
  signature : Option String := none
  productions : Option (List String) := none
  /-- For every text its result and the tokens that were not allowed. -/
  parsed : Option (List (Answer × List Document)) := none
  /-- The answers of the steps of a grammar that is built directly. -/
  built : Option (List Answer) := none
  errors : Array String := #[]
  debug : Array String := #[]
  errorOutput : Array String := #[]
  printed : Array String := #[]
  fault : Option Fault := none

def tokenDocument : Option Token → Document
  | some token => (Value.ofToken token).document
  | none => .null

/-- Scans a text and prints its tokens, until there are none, where the number bounds them. -/
def printTokens (which : Nat) : Nat → List Document → Work (List Document)
  | 0, _ => throw (.accident .tooDeep)
  | bound + 1, lines => do
    match ← nextToken which with
    | none => return lines
    | some token =>
      let line := "(" ++ token.kind ++ "," ++ token.value.shown ++ "," ++ toString token.line ++
        "," ++ toString token.position ++ ")"
      printTokens which bound (lines ++ (Text.parts '\n' line).map .text)

/-- Scans a text and prints its tokens, after a line that asks for the text when it is not given. -/
def printScan (which : Nat) (text : String) (given : Bool) : Work Document := do
  let asked :=
    if given && text != "" then []
      else [Document.text "Reading from standard input (type EOF to end):"]
  adjust which (·.load text)
  return .list (← printTokens which (2 * text.length + 2000) asked)

/-- Carries out one step with a scanner: the scanner to go on with, and the answer. -/
def scannerStep (which : Nat) (step : List Document) : Work (Nat × Document) := do
  match step with
  | [.text "input", .text text] =>
    adjust which (·.load text)
    return (which, .null)
  | [.text "token"] => return (which, tokenDocument (← nextToken which))
  | [.text "all"] =>
    return (which, .list ((← allTokens which).toList.map fun token => tokenDocument (some token)))
  | [.text "begin", state] =>
    begin which state
    return (which, .null)
  | [.text "push_state", state] =>
    pushState which state
    return (which, .null)
  | [.text "pop_state"] =>
    popState which
    return (which, .null)
  | [.text "current_state"] => return (which, .text (← scanner which).state)
  | [.text "skip", .whole count] =>
    skip which count
    return (which, .null)
  | [.text "reset"] =>
    adjust which Scanner.reset
    return (which, .null)
  | [.text "where"] =>
    let now ← scanner which
    return (which, .list [.whole now.line, .whole now.position, .text now.state,
      .list ((← get).stack.reverse.map .text)])
  | .text "clone" :: flags => return (← copied which (flags.any Document.isGiven), .null)
  | [.text "regex"] =>
    return (which, .list ((← scanner which).table.texts.entries.map fun entry =>
      .list [.text entry.1, .list (entry.2.map .text)]))
  | .text "main" :: .text text :: flags =>
    let own := (flags.headD .null).isGiven
    let given := ((flags.drop 1).headD .null).isGiven
    return (which, ← printScan (if own then which else 0) text given)
  | _ => throw .badOperand

/-- Carries out steps with a scanner, whatever becomes of them. -/
def scannerSteps : Nat → List Document → Work (Nat × List Answer)
  | which, [] => return (which, [])
  | which, step :: rest => do
    let result ← (scannerStep which step.items).attempt
    let (which, answer) := match result with
      | .ok (which, answer) => (which, Except.ok answer)
      | .error fault => (which, .error fault)
    let (which, answers) ← scannerSteps which rest
    return (which, answer :: answers)

/-- Parses texts, whatever becomes of them. -/
def parseAll (setting : Setting) : List String → Work (List (Answer × List Document))
  | [] => return []
  | text :: rest => do
    modify ({ · with mistakes := #[] })
    let result ← (setting.parse text).attempt
    let mistakes := (← get).mistakes.toList.map Value.document
    return (result.map Value.document, mistakes) :: (← parseAll setting rest)

/-- A session under way: the bench, and the answers so far. -/
structure Session where
  bench : Bench
  report : Report := {}

namespace Session

def on {α : Type} (work : Work α) : Act Session α :=
  Act.zoom Session.bench (fun bench session => { session with bench := bench }) work

def answer (change : Report → Report) : Act Session Unit :=
  modify fun session => { session with report := change session.report }

/-- Makes the scanner of a description and takes the steps with it; gives the scanner to go on
with. -/
def scan (description : Description) (steps : List Document) : Act Session Nat := do
  on (makeScanner description)
  let (which, answers) ← on (scannerSteps 0 steps)
  answer ({ · with scanned := some answers })
  return which

def parse (description : Description) (which : Nat) (texts : List String) : Act Session Unit := do
  let parser ← on (makeParser description)
  answer ({ · with
    productions := some (parser.table.rules.productions.toList.map Grammar.Production.text) })
  let setting : Setting := ⟨description, parser, if description.ownScanner then which else 0⟩
  let answers ← on (parseAll setting texts)
  answer ({ · with parsed := some answers })

def perform (document : Document) : Act Session Unit := do
  let description := Description.ofDocument document
  let which ←
    if (document.field? "lex").isSome then scan description (document.get "steps").items else pure 0
  if (document.field? "rules").isSome then
    if (document.get "signature").isGiven then
      let text ← signature description
      answer ({ · with signature := some text })
    parse description which (document.get "parse").strs

/-- The lines of a text that ends every line. -/
def linesOf (text : String) : Array String :=
  match (Text.parts '\n' text).reverse with
  | "" :: rest => rest.reverse.toArray
  | lines => lines.reverse.toArray

def run (document : Document) : Report :=
  let bench : Bench := { onErrorOutput := (Description.ofDocument document).onErrorOutput }
  let (result, session) := (perform document).runOn { bench := bench }
  { session.report with
    errors := session.bench.errors
    debug := session.bench.debug
    errorOutput := linesOf session.bench.errorOutput
    printed := session.bench.printed
    fault := match result with
      | .ok () => none
      | .error fault => some fault }

end Session

/-! ## Grammars step by step -/

/-- The item of a list at a place that counts from the end when it is negative. -/
def itemAt? {α : Type} (items : List α) (place : Int) : Option α :=
  if 0 ≤ place then items[place.toNat]?
  else if items.length < (-place).toNat then none
  else items[items.length - (-place).toNat]?

def insertionPlace (length : Nat) (place : Int) : Nat :=
  if 0 ≤ place then min place.toNat length else length - (-place).toNat

def shownProduction : Option Production → String
  | some production => "Production(" ++ production.text ++ ")"
  | none => "None"

def textList (texts : List String) : Document := .list (texts.map .text)

/-- A production with a dot: how it is shown, the productions of the symbol after the dot, and the
symbol before it. -/
def itemDocument (builder : Builder) (production : Production) (place : Int) : Document :=
  if place > production.symbols.length then .null
  else
    let cut := insertionPlace production.symbols.length place
    let symbols := production.symbols.take cut ++ ["."] ++ production.symbols.drop cut
    let after := match itemAt? symbols (place + 1) with
      | some symbol => (builder.rulesOf symbol).map Production.text
      | none => []
    .list [.text ("LRItem(" ++ production.name ++ " -> " ++ " ".intercalate symbols ++ ")"),
      textList after,
      match itemAt? symbols (place - 1) with
      | some symbol => .text symbol
      | none => .null]

def setDocument (sets : Table (List String)) : Document :=
  .list (sets.entries.map fun entry => .list [.text entry.1, textList entry.2])

def actionDocument : Action → Document
  | .shift state => .whole state
  | .reduce number => .whole (-(number : Int))
  | .accept => .whole 0
  | .blocked => .null

/-- Entries in the order of their symbols. -/
def sortedEntries (entries : List (String × Document)) : Document :=
  .list ((entries.mergeSort fun left right => Text.notAfter left.1 right.1).map fun entry =>
    .list [.text entry.1, entry.2])

def tableDocument (table : ParseTable) : Document :=
  let text (number : Nat) : Document := .text (table.rules.production number).text
  let rows (entries : Nat → List (String × Document)) : Document :=
    .list ((List.range table.states.size).map fun (state : Nat) =>
      .list [.whole state, sortedEntries (entries state)])
  .record [
    ("action", rows fun state =>
      (table.states.getD state default).actions.entries.map fun entry =>
        (entry.1, actionDocument entry.2)),
    ("goto", rows fun state => (table.moves state).map fun move => (move.1, .whole move.2)),
    ("sr", .list (table.conflicts.toList.filterMap fun conflict => match conflict with
      | .shiftReduce state symbol shifted =>
        some (.list [.whole state, .text symbol, .text (if shifted then "shift" else "reduce")])
      | .reduceReduce .. => none)),
    ("rr", .list (table.conflicts.toList.filterMap fun conflict => match conflict with
      | .reduceReduce state kept rejected => some (.list [.whole state, text kept, text rejected])
      | .shiftReduce .. => none))]

/-- The production at a place, which can be that of a start symbol that was not chosen yet. -/
def productionAt (place : Int) : Building (Option Production) := do
  (orFault .badIndex (itemAt? (← get).all place) : Except Fault (Option Production))

def grammarStep (step : List Document) : Building Document := do
  match step with
  | [.text "prec", .text term, .text side, .whole level] =>
    Builder.setRank term side level
    return .null
  | .text "add" :: .text name :: symbols :: line =>
    let line := match line with
      | .whole line :: _ => line
      | _ => 0
    Builder.add name symbols.strs none "g" line
    return .null
  | .text "start" :: name =>
    Builder.setStart (name.headD .null)
    return .null
  | [.text "len"] => return .whole ((← get).productions.size + 1)
  | [.text "get", .whole place] => return .text (shownProduction (← productionAt place))
  | [.text "symbols", .whole place] =>
    let production ← orFault .missingMember (← productionAt place)
    return .list [textList production.symbols, .bool !production.symbols.isEmpty,
      .list [.text production.rank.side.text, .whole production.rank.level]]
  | [.text "item", .whole place, .whole dot] =>
    let production ← orFault .missingMember (← productionAt place)
    return itemDocument (← get) production dot
  | [.text "first"] => return setDocument (← Builder.findFirsts)
  | [.text "follow"] => return setDocument (← Builder.findFollows)
  | [.text "find_unreachable"] => return textList (← (← get).unreachable)
  | [.text "infinite_cycles"] => return textList (← get).endless
  | [.text "unused_terminals"] => return textList (← get).unusedTerminals
  | [.text "unused_precedence"] =>
    return .list ((← get).unusedRanks.map fun entry => textList [entry.1, entry.2.text])
  | [.text "unused_rules"] => return textList ((← (← get).unusedRules).map Production.text)
  | [.text "undefined_symbols"] =>
    return .list ((← get).undefinedSymbols.map fun entry => textList [entry.1, entry.2.text])
  | [.text "table"] =>
    match ← Builder.table with
    | (table, none) => return tableDocument table
    | (_, some message) => throw (.trouble .table message)
  | _ => throw .badOperand

/-- Takes steps one after the other, whatever becomes of them. -/
def grammarSteps : List Document → Builder → List Answer
  | [], _ => []
  | step :: rest, builder =>
    let (result, builder) := (grammarStep step.items).runOn builder
    result :: grammarSteps rest builder

/-- Answers a case: a grammar that is built directly, or a session. -/
def runCase (document : Document) : Report :=
  match document.field? "terminals" with
  | some terminals =>
    { built := some (grammarSteps (document.get "steps").items (.ofTerminals terminals.strs)) }
  | none => Session.run document

end GraphScript.Generator
