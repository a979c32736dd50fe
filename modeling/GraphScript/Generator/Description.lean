import GraphScript.Document.Access
import GraphScript.Table
import GraphScript.Text.Quoted
import GraphScript.Pattern

/-!
# Descriptions

A description says how a scanner and a parser are to be made: variables such as the list of token
names, token rules, grammar rules, and what to do on a mistake.  A rule is a plain value or a
routine.  A routine has a text, which holds its pattern or its productions, and a list of steps.

Nothing about a description is checked when it is read: that is part of making the scanner and the
parser.
-/

namespace GraphScript.Generator

/-! ## Values of tokens and rules -/

/-- A value that a rule can build or a token can carry. -/
inductive Value where
  | plain (document : Document)
  | list (items : List Value)
  | group (items : List Value)
  | token (kind : String) (value : Value) (line position : Int) (length : Nat)

/-- A token: its kind, its value, where it stands and how long its text is. -/
structure Token where
  kind : String
  value : Value
  line : Int
  position : Int
  length : Nat

namespace Value

def nothing : Value := .plain .null

def text (value : String) : Value := .plain (.text value)

def whole (value : Int) : Value := .plain (.whole value)

def ofToken (token : Token) : Value :=
  .token token.kind token.value token.line token.position token.length

mutual

def shown : Value → String
  | .plain document => document.shown
  | .list items => Text.bracketed (shownAll items)
  | .group items => Document.grouped (shownAll items)
  | .token kind value line position length =>
    "LexToken(" ++ kind ++ "," ++ value.shown ++ "," ++ toString line ++ "," ++ toString position ++
      "," ++ toString length ++ ")"

def shownAll : List Value → List String
  | [] => []
  | item :: rest => item.shown :: shownAll rest

end

mutual

/-- A value as a document.  A token becomes a list of its parts. -/
def document : Value → Document
  | .plain document => document
  | .list items => .list (documents items)
  | .group items => .list (documents items)
  | .token kind value line position _ =>
    .list [.text "token", .text kind, value.document, .whole line, .whole position]

def documents : List Value → List Document
  | [] => []
  | item :: rest => item.document :: documents rest

end

def kindName : Value → String
  | .plain .null => "NoneType"
  | .plain (.bool _) => "bool"
  | .plain (.whole _) => "int"
  | .plain (.fraction _) => "float"
  | .plain (.text _) => "str"
  | .plain (.list _) => "list"
  | .plain (.record _) => "dict"
  | .list _ => "list"
  | .group _ => "tuple"
  | .token .. => "LexToken"

def line (value : Value) : String :=
  let shown := value.shown
  if shown.toList.contains '\n' then Text.quoted shown else shown

/-- How many letters of a result a trace shows. -/
def resultLimit : Nat := 40

/-- A value with less than this number of letters is shown on the stack. -/
def entryLimit : Nat := 16

/-- A result as a trace shows it: its kind, and its first letters. -/
def resultText (value : Value) : String :=
  let letters := value.line.toList
  let cut :=
    if letters.length > resultLimit then String.ofList (letters.take resultLimit) ++ " ..."
    else String.ofList letters
  "<" ++ value.kindName ++ " @ 0x0> (" ++ cut ++ ")"

/-- An entry of the stack as a trace shows it: the value itself when it is short. -/
def entryText (value : Value) : String :=
  let shown := value.line
  if Text.width shown < entryLimit then shown else "<" ++ value.kindName ++ " @ 0x0>"

end Value

def Token.shown (token : Token) : String := (Value.ofToken token).shown

/-! ## Descriptions -/

inductive ScanStep where
  /-- There is no token. -/
  | drop
  | countLines
  /-- Go back to the state before. -/
  | pop
  | setKind (kind : String)
  | setValue (value : Document)
  | push (state : String)
  | begin (state : String)
  | skip (count : Int)
  /-- Go on with another text, unless it is that text already. -/
  | more (text : String)

inductive RuleStep where
  /-- The value is a list of the symbol and the values of the parts. -/
  | node
  /-- The value is that of the first part. -/
  | first
  /-- The value is that of the symbol before the rule. -/
  | before
  /-- The value lists where the symbol and the parts stand. -/
  | span
  | slice
  | fail
  | recovered
  | place (line position : Int)
  | value (value : Document)

structure Routine where
  name : String
  /-- The pattern of a token rule, or the productions of a grammar rule. -/
  text : Option String
  line : Int
  arguments : Nat
  scanSteps : List ScanStep
  ruleSteps : List RuleStep

/-- What stands under a name. -/
inductive Definition where
  | routine (routine : Routine)
  | value (value : Document)

/-- What happens when a token is not allowed. -/
inductive MistakeRule where
  | absent
  | value (value : Document)
  | arguments (count : Nat)
  | record
  | skip
  | restart

/-- A description of a scanner and a parser. -/
structure Description where
  settings : Document
  /-- Token rules and grammar rules in the order of their names. -/
  definitions : List (String × Definition)
  mistake : MistakeRule
  mistakeLine : Int
  source : Option String
  spacious : Bool
  debug : Bool
  onErrorOutput : Bool
  startSymbol : Option Document
  checkRecursion : Bool
  noDefaults : Bool
  ownScanner : Bool
  trace : Bool
  tracking : Bool

def ScanStep.ofDocument? : Document → Option ScanStep
  | .text "drop" => some .drop
  | .text "lines" => some .countLines
  | .text "pop" => some .pop
  | .list [.text "type", kind] => some (.setKind kind.str)
  | .list [.text "value", value] => some (.setValue value)
  | .list [.text "push", state] => some (.push state.str)
  | .list [.text "begin", state] => some (.begin state.str)
  | .list [.text "skip", .whole count] => some (.skip count)
  | .list [.text "more", text] => some (.more text.str)
  | _ => none

def RuleStep.ofDocument? : Document → Option RuleStep
  | .text "node" => some .node
  | .text "first" => some .first
  | .text "before" => some .before
  | .text "span" => some .span
  | .text "slice" => some .slice
  | .text "fail" => some .fail
  | .text "errok" => some .recovered
  | .list [.text "at", .whole line, .whole position] => some (.place line position)
  | .list [.text "value", given] => some (.value given)
  | _ => none

def count? : Document → Option Nat
  | .whole value => some value.toNat
  | _ => none

def text? : Document → Option String
  | .text value => some value
  | _ => none

/-- The line that a document gives, or else the line where it stands. -/
def lineOf (body : Document) (line : Int) : Int :=
  match body.get "line" with
  | .whole given => given
  | _ => line

def tokenRule (name : String) (body : Document) (line : Int) : Definition :=
  match body with
  | .record _ =>
    .routine ⟨name, text? (body.get "re"), lineOf body line, (count? (body.get "args")).getD 1,
      (body.get "do").items.filterMap ScanStep.ofDocument?, []⟩
  | _ => .value body

def grammarRule (name : String) (body : Document) (line : Int) : Definition :=
  match body with
  | .record _ =>
    let steps := match body.field? "do" with
      | some steps => steps.items.filterMap RuleStep.ofDocument?
      | none => [.node]
    .routine ⟨name, text? (body.get "doc"), lineOf body line, (count? (body.get "args")).getD 1, [],
      steps⟩
  | _ => .value body

/-- Reads what happens when a token is not allowed. -/
def MistakeRule.ofDocument (body : Document) : MistakeRule :=
  match body with
  | .text "skip" => .skip
  | .text "restart" => .restart
  | .text _ => .record
  | .record _ =>
    match body.field? "value", count? (body.get "args") with
    | some given, _ => .value given
    | none, some count => .arguments count
    | none, none => .absent
  | _ => .absent

def lineStep : Int := 10

/-- Reads the rules of a list that starts after some others. -/
def rulesFrom (read : String → Document → Int → Definition) (before : Nat) (rules : Document) :
    List (String × Definition) :=
  rules.pairs.mapIdx fun place (name, body) =>
    (name.str, read name.str body (lineStep * (before + place + 1 : Nat)))

/-- Rules in the order of their names; of two rules with one name the later counts. -/
def inOrder (rules : List (String × Definition)) : List (String × Definition) :=
  (Text.sorted (Table.ofList rules).keys).filterMap fun name =>
    ((Table.ofList rules).get? name).map fun definition => (name, definition)

namespace Description

def ofDocument (document : Document) : Description :=
  let tokens := rulesFrom tokenRule 0 (document.get "lex")
  let rules := rulesFrom grammarRule tokens.length (document.get "rules")
  let flag (name : String) (otherwise : Bool) : Bool := match document.field? name with
    | some value => value.isGiven
    | none => otherwise
  {
    settings := document
    definitions := inOrder (tokens ++ rules)
    mistake := .ofDocument (document.get "error")
    mistakeLine := lineStep * (tokens.length + rules.length + 1 : Nat)
    source := text? (document.get "source")
    spacious := flag "verbose" true
    debug := flag "debug" false
    onErrorOutput := flag "stderr" false
    startSymbol := match document.get "start_arg" with
      | .null => none
      | start => some start
    checkRecursion := flag "check" true
    noDefaults := flag "no_defaults" false
    ownScanner := flag "own_lexer" true
    trace := flag "trace" false
    tracking := flag "tracking" false }

def routine? (description : Description) (name : String) : Option Routine :=
  match description.definitions.lookup name with
  | some (.routine routine) => some routine
  | _ => none

end Description

/-! ## The bench

What exists while scanners and parsers are made and used: the reports, the scanners, and what was
written on the way.  All scanners of a bench share one stack of states. -/

/-- A token rule that is ready for use. -/
structure TokenRule where
  pattern : Pattern
  routine : Option Routine
  /-- The kind of the tokens; text that belongs to no token has none. -/
  kind : Option String

/-- What a scanner knows about its states. -/
structure ScannerTable where
  rules : Table (List (List TokenRule))
  texts : Table (List String)
  ignored : Table String
  /-- The routine for text that no rule matches; a state can be without. -/
  onMistake : Table (Option Routine)
  onEnd : Table Routine
  literals : List Char

/-- A scanner at work. -/
structure Scanner where
  table : ScannerTable
  /-- The rules, ignored characters and routines of the current state. -/
  rules : List (List TokenRule)
  ignored : String
  onMistake : Option Routine
  onEnd : Option Routine
  state : String
  data : Option (List Char) := none
  /-- The length of the text, where it is known. -/
  length : Option Nat := some 0
  position : Int := 0
  line : Int := 1
  matching : Bool := false

/-- Everything on the bench. -/
structure Bench where
  onErrorOutput : Bool
  errors : Array String := #[]
  debug : Array String := #[]
  errorOutput : String := ""
  printed : Array String := #[]
  scanners : Array Scanner := #[]
  /-- The stack of states, the last one first. -/
  stack : List String := []
  /-- The tokens that were not allowed. -/
  mistakes : Array Value := #[]

/-- Work on the bench. -/
abbrev Work (α : Type) : Type := Act Bench α

namespace Work

def linesOf (text : String) : Array String := (Text.parts '\n' text).toArray

def report (text : String) : Work Unit :=
  modify fun bench =>
    if bench.onErrorOutput then { bench with errorOutput := bench.errorOutput ++ text ++ "\n" }
    else { bench with errors := bench.errors ++ linesOf text }

def error (text : String) : Work Unit := report ("ERROR: " ++ text)

def warn (text : String) : Work Unit := report ("WARNING: " ++ text)

def note (text : String) : Work Unit :=
  modify fun bench => { bench with debug := bench.debug ++ linesOf text }

def complain (text : String) : Work Unit :=
  modify fun bench => { bench with errorOutput := bench.errorOutput ++ text }

def print (text : String) : Work Unit :=
  modify fun bench => { bench with printed := bench.printed ++ linesOf text }

/-- Scanner number `which`. -/
def scanner (which : Nat) : Work Scanner := do
  orFault .missingMember (← get).scanners[which]?

def adjust (which : Nat) (change : Scanner → Scanner) : Work Unit :=
  modify fun bench => { bench with scanners := bench.scanners.modify which change }

end Work

/-- The characters that can stand between a percent sign and the letter of a place for a value. -/
def isPlaceFlag (c : Char) : Bool := "-+ #0".toList.contains c

/-- What follows the letter before the end of a place for a value. -/
def afterPlace (text : List Char) : List Char :=
  let rest := (text.dropWhile isPlaceFlag).dropWhile Char.isDigit
  let rest := match rest with
    | '.' :: rest => rest.dropWhile Char.isDigit
    | _ => rest
  match rest with
  | 'h' :: rest | 'l' :: rest | 'L' :: rest => rest
  | _ => rest

/-- A message that is taken for a form with places for values, although there are no values: two
percent signs stand for one, and a place for a value is a fault. -/
def filledFrom : Nat → List Char → Except Fault (List Char)
  | 0, _ | _, [] => .ok []
  | bound + 1, '%' :: rest =>
    match afterPlace rest with
    | [] => .error .badValue
    | '%' :: rest => do return '%' :: (← filledFrom bound rest)
    | _ => .error .badOperand
  | bound + 1, c :: rest => do return c :: (← filledFrom bound rest)

/-- A message that is taken for a form without values. -/
def filled (text : String) : Except Fault String := do
  return String.ofList (← filledFrom (text.length + 1) text.toList)

end GraphScript.Generator
