import GraphScript.Language.Tree
import GraphScript.Language.Rules

/-!
# From scripts to syntax trees

The parser keeps a stack of states and trees.  Tokens are read only when a state needs to see the
next one.  A token that no action allows, and a rule for a mistake, end the reading with a report.
-/

namespace GraphScript.Language

/-- One entry of the stack: a symbol that was read, its tree, and the state after it. -/
structure Frame where
  symbol : String
  tree : Tree
  state : Nat

/-- The parser between two steps. -/
structure Parsing where
  /-- The stack, the last entry first. -/
  stack : List Frame
  cursor : Cursor
  /-- The next token when it was looked at; it is none at the end of the script. -/
  ahead : Option (Option Token)

/-- The outcome of a step. -/
inductive Step where
  | next (parsing : Parsing)
  | accepted (tree : Tree)

namespace Parsing

/-- The parser before a script. -/
def start (source : Source) : Parsing := ⟨[], Cursor.start source.text, none⟩

def state (parsing : Parsing) : Nat :=
  match parsing.stack with
  | [] => 0
  | frame :: _ => frame.state

end Parsing

/-- How a symbol is named in a tree: characters stand in quotes. -/
def treeSymbol (symbol : String) : String :=
  match symbol.toList with
  | [c] => String.ofList ['"', c, '"']
  | _ => symbol

def leafOf (token : Token) : Tree :=
  .leaf (treeSymbol token.kind) token.line token.start (token.start + Text.width token.text)
    (some token.text)

def emptyLeaf : Tree := .leaf emptyName 0 0 0 none

def shownToken (token : Token) : String :=
  s!"LexToken({token.kind},{Text.quoted token.text},{token.line},{token.start},{token.length})"

/-- The line that the log of the parser gets when a token is not allowed. -/
def stuckLine (parsing : Parsing) (ahead : Option Token) : String :=
  let symbols := " ".intercalate (parsing.stack.reverse.map (·.symbol))
  let shown := match ahead with
    | some token => shownToken token
    | none => Grammar.endMark
  "Error  : " ++ (if symbols.isEmpty then ". " else symbols ++ " . ") ++ shown

/-- Whether a character ends a text when blanks are cut off. -/
def isBlank (c : Char) : Bool :=
  let code := c.toNat
  (9 ≤ code && code ≤ 13) || (28 ≤ code && code ≤ 32) || code == 0x85 || code == 0xa0 ||
    code == 0x1680 || (0x2000 ≤ code && code ≤ 0x200a) || code == 0x2028 || code == 0x2029 ||
    code == 0x202f || code == 0x205f || code == 0x3000

def withoutFinalBlanks (text : List Char) : List Char := (text.reverse.dropWhile isBlank).reverse

/-- The report on a token that no action allows, or on the end of the script. -/
def unexpectedToken (source : Source) (cursor : Cursor) (ahead : Option Token) : Fault :=
  let (before, line, length, kind, text) :=
    match ahead with
    | some token =>
      (source.lineBefore (cursor.offset - token.length), source.line token.line, token.length,
        token.kind, token.text)
    | none =>
      let last := Source.lastLine (withoutFinalBlanks source.text)
      (last, String.ofList last, 1, "EOF", "")
  .report .form (s!"File \"{source.shownPath}\", line {cursor.line}:{before.length + 1}\n" ++
    s!"    {line}\n" ++ s!"    {Source.blanksUnder before}{Source.marks length}\n" ++
    s!">> Unexpected token '{text}' (type:'{kind}') <<")

def mistake (source : Source) (rule name : String) (tree : Tree) : Fault :=
  let message := (mistakeMessages.lookup name).getD s!"'{name}'"
  .report .form ((Location.ofTree source tree).report s!"Error in rule '{rule}': {message}")

/-- Reduces a production: its parts become one tree. -/
def reduce (table : Grammar.ParseTable) (source : Source) (parsing : Parsing) (number : Nat) :
    Except Fault Parsing :=
  let production := table.rules.production number
  let count := production.symbols.length
  let parts := (parsing.stack.take count).reverse.map (·.tree)
  let rest := parsing.stack.drop count
  let before := match rest with
    | [] => 0
    | frame :: _ => frame.state
  let enter (tree : Tree) : Except Fault Parsing :=
    match table.target? before production.name with
    | some target => .ok { parsing with stack := ⟨production.name, tree, target⟩ :: rest }
    | none => .error .missingKey
  match production.symbols with
  | [] => enter emptyLeaf
  | [name] =>
    if Text.holds mistakeMark name then
      .error (mistake source production.name name (parts.headD emptyLeaf))
    else enter (.ofParts production.name parts)
  | _ => enter (.ofParts production.name parts)

def look (source : Source) (parsing : Parsing) : Except Fault (Option Token × Parsing) :=
  match parsing.ahead with
  | some ahead => .ok (ahead, parsing)
  | none =>
    (nextToken source parsing.cursor).map fun (ahead, cursor) =>
      (ahead, { parsing with cursor := cursor, ahead := some ahead })

def step (table : Grammar.ParseTable) (source : Source) (parsing : Parsing) : Logged Step := do
  match table.default? parsing.state with
  | some number => return .next (← reduce table source parsing number)
  | none =>
    let (ahead, parsing) ← look source parsing
    let symbol := match ahead with
      | some token => token.kind
      | none => Grammar.endMark
    match table.action? parsing.state symbol, ahead with
    | some (.shift target), some token =>
      return .next { parsing with
        stack := ⟨token.kind, leafOf token, target⟩ :: parsing.stack
        ahead := none }
    | some (.reduce number), _ => return .next (← reduce table source parsing number)
    | some .accept, _ => return .accepted ((parsing.stack.head?.map (·.tree)).getD emptyLeaf)
    | _, _ =>
      say (stuckLine parsing ahead)
      throw (unexpectedToken source parsing.cursor ahead)

/-- Steps until the script is accepted or a fault is met. -/
def run (table : Grammar.ParseTable) (source : Source) : Nat → Parsing → Logged Tree
  | 0, _ => throw (.accident .tooDeep)
  | bound + 1, parsing => do
    match ← step table source parsing with
    | .next parsing => run table source bound parsing
    | .accepted tree => return tree

/-- The syntax tree of a script.  Between two tokens there are fewer steps than productions. -/
def parse (table : Grammar.ParseTable) (source : Source) : Logged Tree :=
  run table source ((source.text.length + 2) * (table.rules.productions.size + 1)) (.start source)

end GraphScript.Language
