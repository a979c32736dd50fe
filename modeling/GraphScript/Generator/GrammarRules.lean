import GraphScript.Generator.TokenRules
import GraphScript.Grammar.Builder

/-!
# Making parsers

A parser is made from the variables and the grammar rules of a description.  The text of a grammar
rule has productions, one on a line: a symbol, a colon, and the symbols it stands for, or a bar for
another production of the same symbol.

Everything that is wrong with a description is reported before the making is given up.
-/

namespace GraphScript.Generator

open Work

/-- A parser that is ready for use. -/
structure Parser where
  table : Grammar.ParseTable
  /-- Whether a state with a single reduction reduces without a look at the next token. -/
  defaults : Bool

structure WrittenProduction where
  routine : String
  line : Int
  name : String
  symbols : List String

def Description.placeOf (description : Description) (line : Int) : String :=
  (if description.source.isSome then sourceFile else "None") ++ ":" ++ toString line

def Description.file (description : Description) : String :=
  if description.source.isSome then sourceFile else "None"

def isLineEnd (c : Char) : Bool :=
  c == '\n' || c == '\r' || [0x0b, 0x0c, 0x1c, 0x1d, 0x1e, 0x85, 0x2028, 0x2029].contains c.toNat

/-- The lines of a text; the line that was begun comes in front. -/
def splitLines : List Char → List Char → List (List Char)
  | [], [] => []
  | line, [] => [line.reverse]
  | line, '\r' :: '\n' :: rest => line.reverse :: splitLines [] rest
  | line, c :: rest =>
    if isLineEnd c then line.reverse :: splitLines [] rest else splitLines (c :: line) rest

/-- The words of a line; the word that was begun comes in front. -/
def splitWords : List Char → List Char → List String
  | [], [] => []
  | word, [] => [String.ofList word.reverse]
  | word, c :: rest =>
    if Numeral.isBlank c then
      if word.isEmpty then splitWords [] rest else String.ofList word.reverse :: splitWords [] rest
    else splitWords (c :: word) rest

/-- Reads one line of a rule: its production, and the symbol that a bar on the next line goes on
with. -/
def readLine (place : Int → String) (routine : String) (line : Int) (text : List Char)
    (last : Option String) : Except String (Option WrittenProduction × Option String) :=
  match splitWords [] text with
  | [] => .ok (none, last)
  | "|" :: symbols =>
    match last with
    | some name => .ok (some ⟨routine, line, name, symbols⟩, last)
    | none => .error (place line ++ ": Misplaced '|'")
  | [_] =>
    .error (place line ++ ": Syntax error in rule " ++
      Text.quoted (String.ofList (Text.trimWhere Numeral.isBlank text)))
  | name :: mark :: symbols =>
    if mark == ":" || mark == "::=" then .ok (some ⟨routine, line, name, symbols⟩, some name)
    else .error (place line ++ ": Syntax error. Expected ':'")

def readLines (place : Int → String) (routine : String) :
    Int → Option String → List (List Char) → Except String (List WrittenProduction)
  | _, _, [] => .ok []
  | line, last, text :: rest => do
    let (production, last) ← readLine place routine line text last
    return production.toList ++ (← readLines place routine (line + 1) last rest)

def refusal : Fault := .trouble .building "Unable to build parser"

/-- Checks of grammar rules that go on after an error, and say whether there was one. -/
abbrev Checking (α : Type) : Type := StateT Bool (ExceptT Fault (StateM Bench)) α

namespace Checking

def fail (text : String) : Checking Unit := do
  Work.error text
  set true

/-- The names of the tokens in order. -/
def tokens (description : Description) : Checking (List String) := do
  let tokens := description.settings.get "tokens"
  if !tokens.isGiven then
    fail "No token list is defined"
    return []
  else
    match tokens with
    | .list names =>
      let names ← (names.mapM Document.asText : Except Fault (List String))
      return Text.sorted names
    | _ =>
      fail "tokens must be a list or tuple"
      return []

def startOf (description : Description) : Document :=
  description.startSymbol.getD (description.settings.get "start")

def checkStart (description : Description) : Checking Unit :=
  match startOf description with
  | .null | .text _ => return
  | _ => Work.error "'start' must be a string"

/-- Checks what happens when a token is not allowed. -/
def checkMistake (description : Description) : Checking Unit :=
  match description.mistake with
  | .value value =>
    if value.isGiven then fail "'p_error' defined, but is not a function or method" else return
  | .arguments 1 => return
  | .arguments _ => fail s!"{specFile}:{description.mistakeLine}: p_error() requires 1 argument"
  | _ => return

def checkTokens (tokens : List String) : Checking Unit := do
  if tokens.contains Grammar.errorName then fail "Illegal token name 'error'. Is a reserved word"
  else
    let mut seen : List String := []
    for name in tokens do
      if seen.contains name then warn ("Token " ++ Text.quoted name ++ " multiply defined")
      seen := name :: seen

def readLevel (level : Int) (entry : Document) : Except String (List (String × String × Int)) :=
  match entry with
  | .list (side :: term :: terms) =>
    match side with
    | .text side =>
      (term :: terms).mapM fun term => match term with
        | .text name => .ok (name, side, level)
        | _ => .error "precedence items must be strings"
    | _ => .error "precedence associativity must be a string"
  | .list _ =>
    .error ("Malformed precedence entry " ++ entry.shownGroup ++
      ". Must be (assoc, term, ..., term)")
  | _ => .error "Bad precedence table"

def readLevels (level : Int) : List Document → Except String (List (String × String × Int))
  | [] => .ok []
  | entry :: rest => do return (← readLevel level entry) ++ (← readLevels (level + 1) rest)

def ranks (description : Description) : Checking (List (String × String × Int)) := do
  let given := description.settings.get "precedence"
  if !given.isGiven then return []
  else
    match given with
    | .list entries =>
      match readLevels 1 entries with
      | .ok ranks => return ranks
      | .error message =>
        fail message
        return []
    | _ =>
      fail "precedence must be a list or tuple"
      return []

/-- The grammar rules of a description in the order of their lines. -/
def grammarRoutines (description : Description) : List Routine :=
  (description.definitions.filterMap fun (name, definition) => match definition with
    | .routine routine =>
      if Text.startsWith "p_" name && name != "p_error" then some routine else none
    | .value _ => none).mergeSort fun left right => left.line ≤ right.line

/-- Reads the productions of a grammar rule, and says whether the rule has a text. -/
def readRoutine (description : Description) (routine : Routine) :
    Checking (List WrittenProduction × Bool) := do
  let place := description.placeOf routine.line ++ ": "
  let name := Text.quoted routine.name
  if routine.arguments > 1 then
    fail (place ++ "Rule " ++ name ++ " has too many arguments")
    return ([], false)
  else if routine.arguments < 1 then
    fail (place ++ "Rule " ++ name ++ " requires an argument")
    return ([], false)
  else
    let text := routine.text.getD ""
    if text.isEmpty then
      warn (place ++ "No documentation string specified in function " ++ name ++ " (ignored)")
      return ([], false)
    else
      match readLines description.placeOf routine.name (routine.line + 1) none
        (splitLines [] text.toList) with
      | .ok productions => return (productions, true)
      | .error message =>
        fail (← filled message)
        return ([], true)

/-- Warns of a name that looks like that of a grammar rule but is none, and of a routine that looks
like a grammar rule but has another name. -/
def checkOther (name : String) (definition : Definition) : Checking Unit := do
  match definition with
  | .value _ =>
    if Text.startsWith "p_" name && name != "p_error" then
      warn (Text.quoted name ++ " not defined as a function")
  | .routine routine =>
    if !Text.startsWith "p_" name && !Text.startsWith "t_" name && routine.arguments == 1 then
      if (Text.parts ' ' (routine.text.getD ""))[1]? == some ":" then
        warn (s!"{specFile}:{routine.line}: Possible grammar rule " ++ Text.quoted name ++
          " defined without p_ prefix")

/-- Warns of grammar rules that the file of the description defines twice. -/
def checkSource (source : String) : Checking Unit :=
  (TokenPlan.redefined (TokenPlan.definedRoutine? "p_") source).forM fun (number, name, first) =>
    warn (s!"{sourceFile}:{number}: Function {name} redefined. " ++
      s!"Previously defined on line {first}")

def hasMistakeRoutine (description : Description) : Bool :=
  match description.mistake with
  | .absent | .value _ => false
  | _ => true

def productions (description : Description) : Checking (List WrittenProduction) := do
  let routines := grammarRoutines description
  if routines.isEmpty then
    fail "no rules of the form p_rulename are defined"
    if hasMistakeRoutine description then description.source.forM checkSource
    return []
  else
    let read ← routines.mapM (readRoutine description)
    description.definitions.forM fun (name, definition) => checkOther name definition
    if hasMistakeRoutine description || read.any (·.2) then description.source.forM checkSource
    return read.flatMap (·.1)

end Checking

def tryStep (builder : Grammar.Builder) (step : Grammar.Building Unit)
    (report : String → Work Unit) : Work (Grammar.Builder × Bool) := do
  let (result, builder) := step.runOn builder
  match result with
  | .ok () => return (builder, false)
  | .error (.trouble .grammar message) =>
    report message
    return (builder, true)
  | .error fault => throw fault

def buildGrammar (description : Description) (tokens : List String)
    (ranks : List (String × String × Int)) (productions : List WrittenProduction) :
    Work Grammar.Builder := do
  let mut builder := Grammar.Builder.ofTerminals tokens
  let mut failed := false
  for (term, side, level) in ranks do
    let (next, _) ← tryStep builder (Grammar.Builder.setRank term side level) warn
    builder := next
  for production in productions do
    let (next, refused) ← tryStep builder
      (Grammar.Builder.add production.name production.symbols (some production.routine)
        description.file production.line) Work.error
    builder := next
    failed := failed || refused
  let (next, refused) ← tryStep builder (Grammar.Builder.setStart (Checking.startOf description))
    fun message => do Work.error (← filled message)
  if failed || refused then throw refusal
  return next

/-- A count of something that is not used, in words. -/
def unusedCount (count : Nat) (noun : String) : Work Unit := do
  if count = 1 then warn ("There is 1 unused " ++ noun)
  if count > 1 then warn s!"There are {count} unused {noun}s"

def useLines (uses : Grammar.Builder → Table (List Nat)) (builder : Grammar.Builder) :
    List String :=
  (Text.sorted (uses builder).keys).map fun symbol =>
    Grammar.padded 20 symbol ++ " : " ++
      " ".intercalate ((((uses builder).get? symbol).getD []).map toString)

/-- Reports everything that is odd about a grammar, and refuses one that is wrong. -/
def reviewGrammar (description : Description) (builder : Grammar.Builder) : Work Unit := do
  let say (text : String) : Work Unit := if description.debug then note text else return
  let undefined := builder.undefinedSymbols
  for (symbol, production) in undefined do
    Work.error (s!"{production.file}:{production.line}: Symbol " ++ Text.quoted symbol ++
      " used, but not defined as a token or a rule")
  let terminals := builder.unusedTerminals
  unless terminals.isEmpty do
    say ""
    say "Unused terminals:"
    say ""
    for terminal in terminals do
      warn ("Token " ++ Text.quoted terminal ++ " defined, but not used")
      say ("    " ++ terminal)
  say ""
  say "Grammar"
  say ""
  for (number, production) in (builder.all.filterMap id).mapIdx fun number production =>
      (number, production) do
    say ("Rule " ++ Grammar.padded 5 (toString number) ++ " " ++ production.text)
  let unused ← builder.unusedRules
  for production in unused do
    warn (s!"{production.file}:{production.line}: Rule " ++ Text.quoted production.name ++
      " defined, but not used")
  unusedCount terminals.length "token"
  unusedCount unused.length "rule"
  say ""
  say "Terminals, with rules where they appear"
  say ""
  (useLines Grammar.Builder.terminals builder).forM say
  say ""
  say "Nonterminals, with rules where they appear"
  say ""
  (useLines Grammar.Builder.nonterminals builder).forM say
  say ""
  let mut failed := !undefined.isEmpty
  if description.checkRecursion then
    for symbol in ← builder.unreachable do
      warn ("Symbol " ++ Text.quoted symbol ++ " is unreachable")
    for symbol in builder.endless do
      Work.error ("Infinite recursion detected for symbol " ++ Text.quoted symbol)
      failed := true
  for (term, side) in builder.unusedRanks do
    Work.error ("Precedence rule " ++ Text.quoted side.text ++ " defined for unknown symbol " ++
      Text.quoted term)
    failed := true
  if failed then throw refusal

def conflictCount (count : Nat) (noun : String) : Work Unit := do
  if count = 1 then warn s!"1 {noun} conflict"
  if count > 1 then warn s!"{count} {noun} conflicts"

def reviewTable (table : Grammar.ParseTable) : Work Unit := do
  let shifts := table.conflicts.toList.filterMap fun conflict => match conflict with
    | .shiftReduce state symbol shifted => some (state, symbol, shifted)
    | _ => none
  let reductions := table.conflicts.toList.filterMap fun conflict => match conflict with
    | .reduceReduce state kept rejected => some (state, kept, rejected)
    | _ => none
  conflictCount shifts.length "shift/reduce"
  conflictCount reductions.length "reduce/reduce"
  let text (number : Nat) : String := (table.rules.production number).text
  unless table.conflicts.isEmpty do
    note "WARNING: "
    note "WARNING: Conflicts:"
    note "WARNING: "
    for (state, symbol, shifted) in shifts do
      let resolution := if shifted then "shift" else "reduce"
      note s!"WARNING: shift/reduce conflict for {symbol} in state {state} resolved as {resolution}"
    let both (line : String) : Work Unit := do
      note ("WARNING: " ++ line)
      warn line
    for (state, kept, rejected) in reductions.eraseDups do
      let keptText := text kept
      let rejectedText := text rejected
      let first := s!"reduce/reduce conflict in state {state} resolved using rule ({keptText})"
      let second := s!"rejected rule ({rejectedText}) in state {state}"
      note ("WARNING: " ++ first)
      note ("WARNING: " ++ second)
      warn first
      warn second
    for rejected in (reductions.map (·.2.2)).eraseDups do
      if table.reductions.getD rejected 0 == 0 then
        both ("Rule (" ++ text rejected ++ ") is never reduced")

def makeTable (description : Description) (builder : Grammar.Builder) :
    Work Grammar.ParseTable := do
  let (result, _) := Grammar.Builder.table.runOn builder
  let (table, stopped) ← result
  if description.debug then (table.lines stopped.isSome).forM note
  match stopped with
  | some message => throw (.trouble .table message)
  | none =>
    if description.debug then reviewTable table
    return table

def blockedState (entry : Grammar.StateActions) : Bool :=
  match entry.actions.entries with
  | [(_, .blocked)] => true
  | _ => false

def makeParser (description : Description) : Work Parser := do
  let (tokens, failed) ← (Checking.tokens description).run false
  if failed then throw refusal
  if description.debug then note "Created by PLY (http://www.dabeaz.com/ply)"
  let ((ranks, productions), failed) ← (do
    Checking.checkStart description
    Checking.checkMistake description
    Checking.checkTokens tokens
    let ranks ← Checking.ranks description
    return (ranks, ← Checking.productions description)
    : Checking (List (String × String × Int) × List WrittenProduction)).run false
  if failed then throw refusal
  unless Checking.hasMistakeRoutine description do warn "no p_error() function is defined"
  let builder ← buildGrammar description tokens ranks productions
  reviewGrammar description builder
  let table ← makeTable description builder
  if table.states.any blockedState then throw .badOperand
  return ⟨table, !description.noDefaults⟩

/-- The texts of a list, one after the other; other items are a fault. -/
def joined (separator : String) (items : List Document) : Except Fault String := do
  return separator.intercalate (← items.mapM Document.asText)

/-- The parts of a signature up to the first that is of a wrong kind. -/
def signatureParts (description : Description) : List (Except Fault String) :=
  let ranks := description.settings.get "precedence"
  let tokens := description.settings.get "tokens"
  [do
      let levels ← (if ranks.isGiven then ranks.iterated else .ok [])
      return String.join (← levels.mapM fun level => do joined "" (← level.iterated)),
    match tokens with
      | .list names => (names.mapM Document.asText).map fun names =>
        " ".intercalate (Text.sorted names)
      | _ => .ok ""] ++
    (Checking.grammarRoutines description).map fun routine => .ok (routine.text.getD "")

/-- The text that tells one description from another: start symbol, ranks, tokens and rules. -/
def signature (description : Description) : Except Fault String := do
  let start := description.settings.get "start"
  let start ← (if start.isGiven then start.asText else .ok "")
  let parts := (signatureParts description).map Except.toOption
  return start ++ String.join ((parts.takeWhile Option.isSome).map fun part => part.getD "")

end GraphScript.Generator
