import GraphScript.Document.Access
import GraphScript.Text.Quoted
import GraphScript.Grammar.ParseTable
import GraphScript.Pattern.Reader

/-!
# Building grammars

A grammar is built step by step: ranks first, then productions, then the start symbol.  Every step
is checked when it is taken.  Afterwards the grammar can be asked for symbols that are not defined,
not used, or cannot be reached, for symbols from which no text can be derived, and for the terminals
that symbols can start with or be followed by.
-/

namespace GraphScript.Grammar

/-- A grammar that is being built. -/
structure Builder where
  root : Option Production := none
  productions : Array Production := #[]
  terminals : Table (List Nat)
  nonterminals : Table (List Nat) := .empty
  ranks : Table Rank := .empty
  usedRanks : List String := []
  /-- The terminals that symbols can start with, once they are known. -/
  firsts : Table (List String) := .empty
  /-- The terminals that can follow nonterminals, once they are known. -/
  follows : Table (List String) := .empty
  /-- What the last table of the grammar has left behind: see `Rules.lastOpened`. -/
  lastOpened : Array Nat := #[]

/-- A step of building. -/
abbrev Building (α : Type) : Type := Act Builder α

def errorName : String := "error"

def rankWord : String := "%prec"

/-- The mark of symbols that can be empty. -/
def emptyMark : String := "<empty>"

namespace Side

def text : Side → String
  | .left => "left"
  | .right => "right"
  | .nonassoc => "nonassoc"

def ofText? : String → Option Side
  | "left" => some .left
  | "right" => some .right
  | "nonassoc" => some .nonassoc
  | _ => none

end Side

def isSymbolName (name : String) : Bool :=
  let letters := match name.toList.reverse with
    | '\n' :: rest => rest
    | letters => letters
  !letters.isEmpty && letters.all fun c => Pattern.isLetter c || c.isDigit || c == '_' || c == '-'

/-- The character that a backslash and a letter of a quoted text stand for. -/
def quotedEscape? : Char → Option Char
  | '\\' => some '\\'
  | '\'' => some '\''
  | '"' => some '"'
  | 'b' => some (Char.ofNat 8)
  | c => Pattern.escapedControl? c

/-- Reads a quoted text after its opening quote, and what follows it. -/
def readQuoted (quote : Char) : List Char → Option (List Char × List Char)
  | [] => none
  | '\\' :: c :: rest =>
    match quotedEscape? c with
    | some value => (readQuoted quote rest).map fun (text, rest) => (value :: text, rest)
    | none => (readQuoted quote rest).map fun (text, rest) => ('\\' :: c :: text, rest)
  | c :: rest =>
    if c == quote then some ([], rest)
    else if c == '\\' then none
    else (readQuoted quote rest).map fun (text, rest) => (c :: text, rest)

/-- The text that one or more quoted texts stand for. -/
def unquoted? : Nat → List Char → Option (List Char)
  | 0, _ => none
  | bound + 1, quote :: rest =>
    if quote == '\'' || quote == '"' then do
      let (text, rest) ← readQuoted quote rest
      if rest.isEmpty then return text
      return text ++ (← unquoted? bound rest)
    else none
  | _, [] => none

namespace Builder

/-- A grammar with terminals and nothing else. -/
def ofTerminals (terminals : List String) : Builder :=
  { terminals := Table.ofList ((terminals ++ [errorName]).map fun name => (name, [])) }

def refuse {α : Type} (message : String) : Building α := throw (.trouble .grammar message)

def setRank (term side : String) (level : Int) : Building Unit := do
  let builder ← get
  if builder.root.isSome || !builder.productions.isEmpty then
    throw (.trouble .order "Must call set_precedence() before add_production()")
  if builder.ranks.contains term then
    refuse ("Precedence already specified for terminal " ++ Text.quoted term)
  match Side.ofText? side with
  | some side => set { builder with ranks := builder.ranks.insert term ⟨side, level⟩ }
  | none => refuse "Associativity must be one of 'left','right', or 'nonassoc'"

/-- Checks a symbol of a production.  A quoted character becomes a terminal. -/
def readSymbol (place name symbol : String) : Building String := do
  let letters := symbol.toList
  let quote ← orFault .badIndex letters.head?
  let literal :=
    if quote == '\'' || quote == '"' then unquoted? (letters.length + 1) letters else none
  match literal with
  | some text =>
    if text.length > 1 then
      refuse (place ++ s!": Literal token {symbol} in rule " ++ Text.quoted name ++
        " may only be a single character")
    let literal := String.ofList text
    modify fun builder =>
      if builder.terminals.contains literal then builder
      else { builder with terminals := builder.terminals.insert literal [] }
    return literal
  | none =>
    if isSymbolName symbol || symbol == rankWord then return symbol
    refuse (place ++ ": Illegal name " ++ Text.quoted symbol ++ " in rule " ++ Text.quoted name)

/-- Takes the rank of a production off its end, or gives it that of its last terminal. -/
def readRank (place : String) (symbols : List String) : Building (List String × Rank) := do
  let builder ← get
  if symbols.contains rankWord then
    match symbols.reverse with
    | named :: word :: rest =>
      if named == rankWord then refuse (place ++ ": Syntax error. Nothing follows %prec")
      if word != rankWord then
        refuse (place ++ ": Syntax error. %prec can only appear at the end of a grammar rule")
      match builder.ranks.get? named with
      | some rank =>
        set { builder with
          usedRanks :=
            if builder.usedRanks.contains named then builder.usedRanks
            else builder.usedRanks ++ [named] }
        return (rest.reverse, rank)
      | none => refuse (place ++ ": Nothing known about the precedence of " ++ Text.quoted named)
    | _ => refuse (place ++ ": Syntax error. Nothing follows %prec")
  else
    let rank := (symbols.reverse.find? builder.terminals.contains).bind builder.ranks.get?
    return (symbols, rank.getD .none)

def noteUse (number : Nat) (builder : Builder) (symbol : String) : Builder :=
  match builder.terminals.get? symbol with
  | some uses => { builder with terminals := builder.terminals.insert symbol (uses ++ [number]) }
  | none =>
    { builder with
      nonterminals := builder.nonterminals.insert symbol
        ((builder.nonterminals.get? symbol).getD [] ++ [number]) }

def add (name : String) (symbols : List String) (action : Option String) (file : String)
    (line : Int) : Building Unit := do
  let place := s!"{file}:{line}"
  if (← get).terminals.contains name then
    refuse (place ++ ": Illegal rule name " ++ Text.quoted name ++ ". Already defined as a token")
  if !isSymbolName name then refuse (place ++ ": Illegal rule name " ++ Text.quoted name)
  let symbols ← symbols.mapM (readSymbol place name)
  let (symbols, rank) ← readRank place symbols
  let builder ← get
  match builder.productions.find? fun other => other.name == name && other.symbols == symbols with
  | some other =>
    refuse (place ++ s!": Duplicate rule {other.text}. Previous definition at " ++
      s!"{other.file}:{other.line}")
  | none => pure ()
  let number := builder.productions.size + 1
  let builder :=
    if builder.nonterminals.contains name then builder
    else { builder with nonterminals := builder.nonterminals.insert name [] }
  let builder := symbols.foldl (noteUse number) builder
  set { builder with
    productions := builder.productions.push ⟨number, name, symbols, rank, action, file, line⟩ }

/-- Chooses the start symbol; that of the first production where none is given. -/
def setStart (start : Document) : Building Unit := do
  let builder ← get
  let start ←
    if start.isGiven then pure start
    else do
      let first ← orFault .badIndex builder.productions[0]?
      pure (Document.text first.name)
  let undefined {α : Type} : Building α := refuse ("start symbol " ++ start.spoken ++ " undefined")
  match start with
  | .text name =>
    match builder.nonterminals.get? name with
    | some uses =>
      set { builder with
        root := some ⟨0, rootName, [name], .none, none, "", 0⟩
        nonterminals := builder.nonterminals.insert name (uses ++ [0]) }
    | none => undefined
  | .list _ | .record _ => throw .badOperand
  | _ => undefined

variable (builder : Builder)

def all : List (Option Production) := builder.root :: builder.productions.toList.map some

def rulesOf (name : String) : List Production :=
  builder.productions.toList.filter fun production => production.name == name

def hasRule (name : String) : Bool :=
  builder.productions.any fun production => production.name == name

def isDefined (symbol : String) : Bool :=
  builder.hasRule symbol || builder.terminals.contains symbol || symbol == errorName

/-- Every use of a symbol that is not defined. -/
def undefinedSymbols : List (String × Production) :=
  (builder.all.filterMap id).flatMap fun production =>
    (production.symbols.filter fun symbol => !builder.isDefined symbol).map fun symbol =>
      (symbol, production)

/-- The terminals that no production uses. -/
def unusedTerminals : List String :=
  (builder.terminals.entries.filter fun entry => entry.1 != errorName && entry.2.isEmpty).map (·.1)

/-- The first productions of the nonterminals that no production uses. -/
def unusedRules : Except Fault (List Production) :=
  (builder.nonterminals.entries.filter fun entry => entry.2.isEmpty).mapM fun entry =>
    orFault .missingKey (builder.rulesOf entry.1).head?

/-- The ranks of names that are no terminals and that no production asked for. -/
def unusedRanks : List (String × Side) :=
  (builder.ranks.entries.filter fun entry =>
    !(builder.terminals.contains entry.1 || builder.usedRanks.contains entry.1)).map fun entry =>
      (entry.1, entry.2.side)

/-- Adds to the symbols that were reached those that their productions use. -/
def reachMore (reached : List String) : List String :=
  Production.distinct (reached ++ reached.flatMap fun symbol =>
    (builder.rulesOf symbol).flatMap (·.symbols))

def reach : Nat → List String → List String
  | 0, reached => reached
  | bound + 1, reached =>
    let more := builder.reachMore reached
    if more.length = reached.length then reached else reach bound more

/-- The nonterminals that cannot be reached from the start symbol. -/
def unreachable : Except Fault (List String) := do
  let root ← orFault .missingMember builder.root
  let count := builder.terminals.size + builder.nonterminals.size + 1
  let reached := builder.reach count (root.symbols.take 1)
  return builder.nonterminals.keys.filter fun symbol => !reached.contains symbol

/-- Adds to the symbols from which a text can be derived those with a production of such symbols. -/
def deriveMore (known : List String) : List String :=
  builder.productions.toList.foldl (fun known production =>
    if !known.contains production.name && production.symbols.all known.contains then
      known ++ [production.name]
    else known) known

def derive : Nat → List String → List String
  | 0, known => known
  | bound + 1, known =>
    let more := builder.deriveMore known
    if more.length = known.length then known else derive bound more

/-- The nonterminals with productions from which no text can be derived. -/
def endless : List String :=
  let known := builder.derive (builder.nonterminals.size + 1) (builder.terminals.keys ++ [endMark])
  builder.nonterminals.keys.filter fun symbol => !known.contains symbol && builder.hasRule symbol

/-- The terminals that a list of symbols can start with, with a mark at the end when it can be
empty. -/
def firstOf (firsts : Table (List String)) : List String → List String → Except Fault (List String)
  | [], found => .ok (found ++ [emptyMark])
  | symbol :: rest, found => do
    let own ← orFault .missingKey (firsts.get? symbol)
    let found := own.foldl (fun found terminal =>
      if terminal == emptyMark || found.contains terminal then found else found ++ [terminal]) found
    if own.contains emptyMark then firstOf firsts rest found else return found

/-- Adds what is missing to the entry of a symbol. -/
def extend (table : Table (List String)) (symbol : String) (more : List String) :
    Table (List String) :=
  let known := (table.get? symbol).getD []
  table.insert symbol (more.foldl (fun known terminal =>
    if known.contains terminal then known else known ++ [terminal]) known)

def entryCount (table : Table (List String)) : Nat :=
  table.entries.foldl (fun count entry => count + entry.2.length) 0

def firstRound : Building Unit := do
  for symbol in (← get).nonterminals.keys do
    if !(← get).hasRule symbol then throw .missingKey
    for production in (← get).rulesOf symbol do
      let found ← firstOf (← get).firsts production.symbols []
      modify fun builder => { builder with firsts := extend builder.firsts symbol found }

/-- Repeats a round until it adds nothing. -/
def settle (view : Builder → Table (List String)) (round : Building Unit) : Nat → Building Unit
  | 0 => return
  | bound + 1 => do
    let before := entryCount (view (← get))
    round
    if entryCount (view (← get)) == before then return else settle view round bound

def roundBound (builder : Builder) : Nat :=
  (builder.terminals.size + 3) * (builder.nonterminals.size + 1) + 1

/-- The terminals that symbols can start with.  They are collected once. -/
def findFirsts : Building (Table (List String)) := do
  if (← get).firsts.entries.isEmpty then
    modify fun builder => { builder with
      firsts := Table.ofList (builder.terminals.keys.map (fun symbol => (symbol, [symbol])) ++
        [(endMark, [endMark])] ++ builder.nonterminals.keys.map fun symbol => (symbol, [])) }
    settle Builder.firsts firstRound (← get).roundBound
  return (← get).firsts

def followIn (production : Production) : List String → Building Unit
  | [] => return
  | symbol :: rest => do
    if (← get).nonterminals.contains symbol then
      let found ← firstOf (← get).firsts rest []
      if ((← get).follows.get? symbol).isNone then throw .missingKey
      modify fun builder => { builder with
        follows := extend builder.follows symbol (found.filter (· != emptyMark)) }
      if found.contains emptyMark || rest.isEmpty then
        let after ← orFault .missingKey ((← get).follows.get? production.name)
        modify fun builder => { builder with follows := extend builder.follows symbol after }
    followIn production rest

def followRound : Building Unit := do
  for production in (← get).productions do
    followIn production production.symbols

/-- The terminals that can follow nonterminals.  They are collected once. -/
def findFollows : Building (Table (List String)) := do
  if (← get).follows.entries.isEmpty then
    if (← get).firsts.entries.isEmpty then discard findFirsts
    modify fun builder => { builder with
      follows := Table.ofList (builder.nonterminals.keys.map fun symbol => (symbol, [])) }
    let first ← orFault .badIndex (← get).productions[0]?
    modify fun builder => { builder with follows := builder.follows.insert first.name [endMark] }
    settle Builder.follows followRound (← get).roundBound
  return (← get).follows

def rules (builder : Builder) : Rules :=
  ⟨(builder.all.filterMap id).toArray, builder.terminals.keys, builder.nonterminals.keys,
    builder.ranks, builder.lastOpened⟩

/-- The table of a grammar as far as it can be filled, and what stopped the filling. -/
def table : Building (ParseTable × Option String) := do
  if (← get).root.isNone then throw .badOperand
  discard findFirsts
  discard findFollows
  let rules := (← get).rules
  let (table, stopped) := ParseTable.fill rules
  modify fun builder => { builder with lastOpened := table.automaton.lastOpened rules }
  return (table, stopped)

end Builder

end GraphScript.Grammar
