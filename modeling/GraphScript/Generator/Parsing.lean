import GraphScript.Files
import GraphScript.Generator.GrammarRules
import GraphScript.Generator.Scanner

/-!
# Parsing with recovery

A parser keeps a stack of states and a stack of symbols.  When a token is not allowed, the mistake
is reported once, and then symbols are taken off the stack until the error symbol is allowed; after
that tokens are passed over until one is allowed again.  Three tokens have to be read before the
next mistake is reported.

A grammar rule can itself declare a mistake.  Then its last part is put back as the error symbol.
-/

namespace GraphScript.Generator

open Work

/-- A symbol on the stack. -/
structure Symbol where
  kind : String
  value : Option Value := none
  line : Option Int := none
  position : Option Int := none
  endLine : Option Int := none
  endPosition : Option Int := none
  length : Option Nat := none
  isToken : Bool := false

namespace Symbol

def ofToken (token : Token) : Symbol :=
  { kind := token.kind
    value := some token.value
    line := some token.line
    position := some token.position
    length := some token.length
    isToken := true }

/-- The symbol at the end of the input and at the bottom of the stack. -/
def ending : Symbol := { kind := Grammar.endMark }

def asValue (symbol : Symbol) : Value :=
  if symbol.isToken then
    .token symbol.kind (symbol.value.getD .nothing) (symbol.line.getD 0) (symbol.position.getD 0)
      (symbol.length.getD 0)
  else .text symbol.kind

def shown (symbol : Symbol) : String := if symbol.isToken then symbol.asValue.shown else symbol.kind

/-- Where a symbol stands: line, place, length, and the first and last of its lines and places. -/
def span (symbol : Symbol) : Value :=
  let line := symbol.line.getD 0
  let position := symbol.position.getD 0
  .list [.whole line, .whole position, .whole (symbol.length.getD 0),
    .group [.whole line, .whole (symbol.endLine.getD line)],
    .group [.whole position, .whole (symbol.endPosition.getD position)]]

end Symbol

/-- A parser at work. -/
structure Machine where
  /-- The states, the last one first. -/
  states : List Nat := [0]
  /-- The symbols, the last one first. -/
  symbols : List Symbol := [.ending]
  state : Nat := 0
  ahead : Option Symbol := none
  /-- Symbols that were put back, the last one first. -/
  pending : List (Option Symbol) := []
  /-- How many symbols have to be read before mistakes are reported again. -/
  silence : Nat := 0
  recovered : Bool := true

/-- How many symbols have to be read after a mistake. -/
def silenceAfterMistake : Nat := 3

/-- What a parser works with. -/
structure Setting where
  description : Description
  parser : Parser
  scanner : Nat

/-- What one step of a parser leads to. -/
inductive Progress where
  | next (machine : Machine)
  | finished (value : Value)

namespace Setting

variable (setting : Setting)

def trace (text : String) : Work Unit := if setting.description.trace then note text else return

def stackText (machine : Machine) : String :=
  let symbols := " ".intercalate ((machine.symbols.reverse.drop 1).map (·.kind))
  let ahead := match machine.ahead with
    | some symbol => symbol.shown
    | none => "None"
  String.ofList ((symbols ++ " . " ++ ahead).toList.dropWhile Numeral.isBlank)

def look (machine : Machine) : Work (Machine × Symbol) := do
  match machine.ahead with
  | some symbol => return (machine, symbol)
  | none =>
    let (found, pending) ←
      match machine.pending with
      | put :: rest => pure (put, rest)
      | [] => do pure ((← nextToken setting.scanner).map Symbol.ofToken, [])
    let symbol := found.getD .ending
    return ({ machine with ahead := some symbol, pending := pending }, symbol)

/-- What a rule has made so far: its symbol, whether it declared a mistake, and whether somebody
took care of one. -/
structure Result where
  symbol : Symbol
  failed : Bool
  recovered : Bool

/-- Carries out the steps of a rule on its symbol and its parts.  `before` is the symbol before the
rule. -/
def ruleSteps (parts : List Symbol) (before : Option Symbol) :
    List RuleStep → Result → Except Fault Result
  | [], result => .ok result
  | step :: rest, result => do
    let set (value : Value) : Except Fault Result :=
      ruleSteps parts before rest { result with symbol :=
        { result.symbol with value := some value } }
    let values := parts.mapM fun part => orFault .missingMember part.value
    match step with
    | .node => set (.list (.text result.symbol.kind :: (← values)))
    | .first =>
      let part ← orFault .badIndex parts.head?
      set (← orFault .missingMember part.value)
    | .before =>
      let symbol ← orFault .badIndex before
      set (← orFault .missingMember symbol.value)
    | .span => set (.list ((result.symbol :: parts).map Symbol.span))
    | .slice => set (.list (← values))
    | .fail => return { result with failed := true }
    | .recovered => ruleSteps parts before rest { result with recovered := true }
    | .place line position =>
      ruleSteps parts before rest { result with
        symbol := { result.symbol with line := some line, position := some position } }
    | .value value => set (.plain value)

/-- The state that a nonterminal leads to from the top of the stack. -/
def targetFrom (states : List Nat) (name : String) : Except Fault Nat := do
  let state ← orFault .badIndex states.head?
  orFault .missingKey (setting.parser.table.target? state name)

def traceReduction (machine : Machine) (production : Grammar.Production) : Work Unit := do
  if setting.description.trace then
    let count := production.symbols.length
    let values ← (machine.symbols.take count).reverse.mapM fun symbol =>
      orFault .missingMember symbol.value
    let target ← setting.targetFrom (machine.states.drop count) production.name
    let entries := "[" ++ ",".intercalate (values.map Value.entryText) ++ "]"
    let text := production.text
    note s!"Action : Reduce rule [{text}] with {entries} and goto state {target}"

/-- The symbol of a reduction, with its place if places are tracked. -/
def reducedSymbol (production : Grammar.Production) (parts : List Symbol) : Work Symbol := do
  let symbol : Symbol := { kind := production.name, value := some .nothing }
  if !setting.description.tracking then return symbol
  else
    match parts.head?, parts.getLast? with
    | some first, some last =>
      let line ← orFault .missingMember first.line
      let position ← orFault .missingMember first.position
      let lastLine ← orFault .missingMember last.line
      let lastPosition ← orFault .missingMember last.position
      return { symbol with
        line := some line
        position := some position
        endLine := some (last.endLine.getD lastLine)
        endPosition := some (last.endPosition.getD lastPosition) }
    | _, _ =>
      let now ← Work.scanner setting.scanner
      return { symbol with line := some now.line, position := some now.position }

/-- Goes back to the state before a rule that declared a mistake. -/
def retreat (machine : Machine) (symbol : Symbol) : Except Fault Machine := do
  let states := machine.states.drop 1
  let state ← orFault .badIndex states.head?
  return { machine with
    pending := machine.ahead :: machine.pending
    states := states
    state := state
    ahead := some { symbol with kind := Grammar.errorName, value := some (.text Grammar.errorName) }
    silence := silenceAfterMistake
    recovered := false }

def reduce (number : Nat) (machine : Machine) : Work Machine := do
  let production := setting.parser.table.rules.production number
  setting.traceReduction machine production
  let count := production.symbols.length
  let parts := (machine.symbols.take count).reverse
  let symbol ← setting.reducedSymbol production parts
  let below := machine.symbols.drop count
  let steps := match production.action.bind setting.description.routine? with
    | some routine => routine.ruleSteps
    | none => []
  let result ← ruleSteps parts below.head? steps ⟨symbol, false, machine.recovered⟩
  if result.failed then
    (retreat { machine with symbols := parts.dropLast.reverse ++ below } result.symbol :
      Except Fault Machine)
  else
    setting.trace ("Result : " ++ (result.symbol.value.getD .nothing).resultText)
    let states := machine.states.drop count
    let state ← setting.targetFrom states production.name
    return { machine with
      symbols := result.symbol :: below
      states := state :: states
      state := state
      recovered := result.recovered }

/-- Calls what happens on a mistake: the machine afterwards, and the token to go on with if somebody
took care of the mistake. -/
def callMistakeRule (machine : Machine) (wrong : Option Symbol) :
    Work (Machine × Option (Option Symbol)) := do
  modify fun bench => { bench with
    mistakes := bench.mistakes.push ((wrong.map Symbol.asValue).getD .nothing) }
  match setting.description.mistake, wrong with
  | .skip, some _ =>
    let token ← nextToken setting.scanner
    return ({ machine with recovered := true }, some (token.map Symbol.ofToken))
  | .restart, _ => return ({ machine with states := [0], symbols := [.ending] }, none)
  | _, _ => return (machine, none)

/-- What is written to the error output about a symbol that is not allowed. -/
def mistakeText (symbol : Symbol) : String :=
  let line := symbol.line.getD 0
  if line == 0 then "yacc: Syntax error, token=" ++ symbol.kind
  else s!"yacc: Syntax error at line {line}, token={symbol.kind}\n"

def recover (machine : Machine) (symbol : Symbol) : Except Fault Progress := do
  let atEnd := symbol.kind == Grammar.endMark
  if machine.states.length ≤ 1 && !atEnd then
    return .next { machine with ahead := none, state := 0, pending := [] }
  else if atEnd then return .finished .nothing
  else if symbol.kind != Grammar.errorName then
    let top ← orFault .badIndex machine.symbols.head?
    if top.kind == Grammar.errorName then
      if setting.description.tracking then
        let line ← orFault .missingMember top.line
        let position ← orFault .missingMember top.position
        let top := { top with
          endLine := some (symbol.line.getD line)
          endPosition := some (symbol.position.getD position) }
        return .next { machine with symbols := top :: machine.symbols.drop 1, ahead := none }
      else return .next { machine with ahead := none }
    else
      let mistake : Symbol := {
        kind := Grammar.errorName
        value := some symbol.asValue
        line := symbol.line
        position := symbol.position
        endLine := symbol.line
        endPosition := symbol.position }
      return .next { machine with pending := some symbol :: machine.pending, ahead := some mistake }
  else
    let top ← orFault .badIndex machine.symbols.head?
    let symbol ←
      if setting.description.tracking then do
        let line ← orFault .missingMember top.line
        let position ← orFault .missingMember top.position
        pure { symbol with line := some line, position := some position }
      else pure symbol
    let states := machine.states.drop 1
    let state ← orFault .badIndex states.head?
    return .next { machine with
      symbols := machine.symbols.drop 1
      states := states
      state := state
      ahead := some symbol }

/-- Reports a mistake, unless one was reported a short time before, and recovers from it. -/
def handleMistake (machine : Machine) (symbol : Symbol) : Work Progress := do
  setting.trace ("ERROR: Error  : " ++ stackText machine)
  if machine.silence == 0 || machine.recovered then
    let machine := { machine with silence := silenceAfterMistake, recovered := false }
    let wrong := if symbol.kind == Grammar.endMark then none else some symbol
    if Checking.hasMistakeRoutine setting.description then
      print ("Error  : " ++ stackText machine)
      let (machine, answer) ← setting.callMistakeRule machine wrong
      match answer with
      | some token => return .next { machine with ahead := token }
      | none => (setting.recover machine symbol : Except Fault Progress)
    else
      match wrong with
      | some symbol =>
        complain (mistakeText symbol)
        (setting.recover machine symbol : Except Fault Progress)
      | none =>
        complain "yacc: Parse error in input. EOF\n"
        return .finished .nothing
  else (setting.recover { machine with silence := silenceAfterMistake } symbol :
    Except Fault Progress)

/-- The production that a state reduces without a look at the next token. -/
def default? (state : Nat) : Option Nat :=
  if setting.parser.defaults then setting.parser.table.default? state else none

def step (machine : Machine) : Work Progress := do
  let state := machine.state
  setting.trace s!"State  : {state}"
  match setting.default? state with
  | some number =>
    setting.trace s!"Defaulted state {state}: Reduce using {number}"
    setting.trace ("Stack  : " ++ stackText machine)
    return .next (← setting.reduce number machine)
  | none =>
    let (machine, symbol) ← setting.look machine
    setting.trace ("Stack  : " ++ stackText machine)
    match setting.parser.table.action? state symbol.kind with
    | some (.shift target) =>
      setting.trace s!"Action : Shift and goto state {target}"
      return .next { machine with
        states := target :: machine.states
        state := target
        symbols := symbol :: machine.symbols
        ahead := none
        silence := machine.silence - 1 }
    | some (.reduce number) => return .next (← setting.reduce number machine)
    | some .accept =>
      let value := (machine.symbols.head?.bind (·.value)).getD .nothing
      setting.trace ("Done   : Returning " ++ value.resultText)
      setting.trace "PLY: PARSE DEBUG END"
      return .finished value
    | none | some .blocked => setting.handleMistake machine symbol

/-- Takes steps until the parser is finished, where the number bounds them. -/
def run : Nat → Machine → Work Value
  | 0, _ => throw (.accident .tooDeep)
  | bound + 1, machine => do
    match ← setting.step machine with
    | .next machine => run bound machine
    | .finished value => return value

def stepBound (text : String) : Nat := 200 * text.length + 10000

/-- Whether a text is the path of a folder that exists everywhere. -/
def isFolder (text : String) : Bool :=
  !text.toList.contains '\n' && (Path.settled (Path.written text)).isEmpty

/-- Whether a text is a path with a part that is too long for a name. -/
def hasLongName (text : String) : Bool :=
  !text.toList.contains '\n' &&
    (Text.parts '/' text).any fun part => part.utf8ByteSize > Files.longestName

/-- Parses a text.  A text that is the path of a folder is not parsed. -/
def parse (text : String) : Work Value := do
  setting.trace "PLY: PARSE DEBUG START"
  discard (Work.scanner setting.scanner)
  adjust setting.scanner Scanner.reset
  if isFolder text then throw (.accident .folderAsFile)
  if hasLongName text then throw (.accident .longName)
  adjust setting.scanner (·.load text)
  setting.run (stepBound text) {}

end Setting

end GraphScript.Generator
