import GraphScript.Act
import GraphScript.Source
import GraphScript.Catalogue.TypeTable
import GraphScript.Pattern

/-!
# Reading tokens

A cursor goes through a script.  Blanks, line ends and comments are passed over; everything else
must begin a token.
-/

namespace GraphScript.Language

structure Token where
  kind : String
  text : String
  line : Nat
  start : Nat
  /-- The number of characters that the pattern of its rule matched. -/
  length : Nat
  deriving DecidableEq

/-- What a match of a token rule begins. -/
inductive Opening where
  | plain
  /-- The match is a word, whose kind depends on the words of the language. -/
  | word
  /-- The match is the quote before a text. -/
  | quote
  /-- The match is a run of line ends, which is skipped. -/
  | lineEnds
  | lineComment
  | blockComment
  deriving DecidableEq

structure TokenRule where
  kind : String
  pattern : Pattern
  opening : Opening

namespace TokenRule

def plain (kind : String) (pattern : Pattern) : TokenRule := ⟨kind, pattern, .plain⟩

def mark (kind text : String) : TokenRule := ⟨kind, .text text, .plain⟩

end TokenRule

/-! ## Numbers -/

def digit : Pattern := .one (.ofRanges [('0', '9')])

def leadingDigit : Pattern := .one (.ofRanges [('1', '9')])

def digitTail : Pattern := .seq (.star (.one (.ofRanges [('0', '9'), ('_', '_')]))) (.star digit)

/-- A number without leading zeros. -/
def strictNatural : Pattern := .alt (.seq leadingDigit digitTail) (.text "0")

def looseNatural : Pattern := .alt (.seq digit digitTail) (.text "0")

/-- The sign of a number, if it has one. -/
def sign : Pattern := .optional (.text "-")

def exponent : Pattern := .all [.text "e", .optional (.oneOf "+-"), leadingDigit, digitTail]

/-- A number with a fraction or an exponent or both. -/
def fractional : Pattern :=
  .all [sign, strictNatural, .alt (.all [.text ".", digit, digitTail, .optional exponent]) exponent]

def unsigned (size : Pattern) : Pattern := .all [sign, strictNatural, .oneOf "uU", size]

/-! ## Words -/

def identifier : Pattern :=
  .seq (.one (.ofRanges [('a', 'z'), ('A', 'Z'), ('_', '_')]))
    (.star (.one (.ofRanges [('a', 'z'), ('A', 'Z'), ('0', '9'), ('_', '_')])))

/-- A word with the namespaces it is in, or a word after a dollar sign. -/
def qualifiedName : Pattern :=
  .alt (.seq (.star (.seq identifier (.text "::"))) identifier)
    (.seq (.optional (.text "$")) identifier)

/-- The words for enumerations: their names, then the shorthands that stand for them. -/
def enumerationWords : List String :=
  let names := Catalogue.enumerations.map (·.name)
  names ++ (Catalogue.shorthands.filter fun entry => names.contains entry.2).map (·.1)

/-- The words for types: the shorthands, then the full names that are not a shorthand in small
letters. -/
def typeWords : List String :=
  let short := Catalogue.shorthands.map (·.1)
  let full := (Catalogue.types.map (·.1)).filter fun name =>
    !short.contains (String.ofList (name.toList.map Char.toUpper))
  (short ++ full).filter fun word =>
    !(enumerationWords.drop Catalogue.enumerations.length).contains word

/-- A value of an enumeration.  Longer words are tried first. -/
def enumerationValue : Pattern :=
  let words := enumerationWords.mergeSort fun left right => right.length ≤ left.length
  .all [.any (words.map .text), .text ".", identifier]

def keywords : List (String × String) :=
  [("for_each", "FOR_EACH"), ("foreach", "FOREACH"), ("iterate", "ITERATE"), ("nolimit", "NOLIMIT"),
   ("do", "DO"), ("while", "WHILE"), ("using", "USING"), ("function", "FUNCTION"),
   ("compound", "COMPOUND"), ("overload", "OVERLOAD"), ("import", "IMPORT"), ("as", "AS"),
   ("true", "TRUE"), ("false", "FALSE"), ("AUTO", "AUTO"), ("NODE", "NODE")]

/-- The full name that a shorthand stands for; any other word stands for itself. -/
def fullWord (word : String) : String := (Catalogue.shorthands.lookup word).getD word

def classify (word : String) : String × String :=
  match keywords.lookup word with
  | some kind => (kind, word)
  | none =>
    if enumerationWords.contains word then ("ENUM", fullWord word)
    else if typeWords.contains word then ("TYPE", fullWord word)
    else if (word.toList.contains ':') then ("NAMESPACE_NAME", word)
    else ("NAME", word)

/-! ## The rules -/

def closing (kind : String) (suffix : List String) : TokenRule :=
  .plain ("R_CURLY_" ++ kind) (.all (.text "\x7d" :: suffix.map .oneOf))

/-- The token rules in the order in which they are tried. -/
def tokenRules : List TokenRule :=
  [⟨"NEWLINE", .plus (.text "\n"), .lineEnds⟩,
   ⟨"COMMENT_INLINE", .text "//", .lineComment⟩,
   ⟨"COMMENT_BLOCK", .text "/*", .blockComment⟩,
   ⟨"STRING", .oneOf "\"'", .quote⟩,
   .plain "FLOAT" (.seq fractional (.oneOf "fF")),
   .plain "DOUBLE" (.seq fractional (.oneOf "dD")),
   .plain "FRACTIONAL" fractional,
   .plain "UNSIGNED_CHAR" (unsigned (.oneOf "cC")),
   .plain "UNSIGNED_SHORT" (unsigned (.oneOf "sS")),
   .plain "UNSIGNED_INT" (unsigned (.oneOf "iI")),
   .plain "UNSIGNED_LONG" (unsigned (.oneOf "lL")),
   .plain "UNSIGNED_NATURAL" (unsigned .empty),
   .plain "CHAR" (.seq looseNatural (.oneOf "cC")),
   .plain "SHORT" (.seq looseNatural (.oneOf "sS")),
   .plain "INT" (.seq looseNatural (.oneOf "iI")),
   .plain "LONG" (.seq looseNatural (.oneOf "lL")),
   .plain "NATURAL" looseNatural,
   .mark "IGNORE" "...", .mark "RESULT" "=>", .mark "POINT_TO" "->", .mark "WALRUS" ":=",
   .mark "POW" "**", .mark "ADD" "+", .mark "SUB" "-", .mark "MUL" "*", .mark "DIV" "/",
   .mark "MOD" "%", .mark "EQ" "==", .mark "NE" "!=", .mark "GE" ">=", .mark "GT" ">",
   .mark "LE" "<=", .mark "LT" "<", .mark "NOT" "!", .mark "OR" "||", .mark "XOR" "^",
   .mark "AND" "&&", .mark "INDEX" "#", .mark "STATE" "@",
   .plain "ENUM_VALUE" enumerationValue,
   ⟨"NAME", qualifiedName, .word⟩,
   closing "BOOL" ["bB"], closing "FLOAT" ["fF"], closing "DOUBLE" ["dD"],
   closing "UNSIGNED_LONG" ["uU", "lL"], closing "UNSIGNED_INT" ["uU", "iI"],
   closing "UNSIGNED_SHORT" ["uU", "sS"], closing "UNSIGNED_CHAR" ["uU", "cC"],
   closing "UNSIGNED_NATURAL" ["uU"], closing "LONG" ["lL"], closing "INT" ["iI"],
   closing "SHORT" ["sS"], closing "CHAR" ["cC"],
   .mark "ARR_DIM_3" "[][][]", .mark "ARR_DIM_2" "[][]", .mark "ARR_DIM_1" "[]"]

/-- The characters that are tokens of their own when no rule matches. -/
def literals : List Char := "$|,.\x7b\x7d()[]=;:".toList

/-- The first rule that matches at the start of a text, with the length of its match and the text
after it. -/
def firstMatch? (text : List Char) : Option (TokenRule × Pattern.End) :=
  tokenRules.findSome? fun rule => (rule.pattern.first? text).map fun stop => (rule, stop)

/-! ## Cursors -/

/-- A place in a script: what is left to read, the offset of that, and the current line. -/
structure Cursor where
  rest : List Char
  offset : Nat
  line : Nat
  deriving DecidableEq

namespace Cursor

def start (text : List Char) : Cursor := ⟨text, 0, 1⟩

def skip (cursor : Cursor) (count : Nat) (rest : List Char) : Cursor :=
  ⟨rest, cursor.offset + count, cursor.line⟩

end Cursor

/-- How reading on from a cursor went. -/
inductive Reading where
  | token (token : Token) (next : Cursor)
  | skipped (next : Cursor)
  | finished

/-- How the text after an opening quote goes on. -/
inductive Quotation where
  /-- The closing quote was met: the text before it, and what follows it. -/
  | closed (content : List Char) (length : Nat) (rest : List Char)
  /-- The line ended first: the text up to there, and what follows the line end. -/
  | cut (content : List Char) (length : Nat) (rest : List Char)
  /-- The script ended first. -/
  | endless

namespace Quotation

def push (c : Char) (written : Nat) : Quotation → Quotation
  | .closed content length rest => .closed (c :: content) (length + written) rest
  | .cut content length rest => .cut (c :: content) (length + written) rest
  | .endless => .endless

def unescape (c : Char) : Char := if c = 'n' then '\n' else if c = 't' then '\t' else c

def read (quote : Char) : List Char → Quotation
  | [] => .endless
  | c :: rest =>
    if c = quote then .closed [] 1 rest
    else if c = '\n' then .cut [] 1 rest
    else if c = '\\' then
      match rest with
      | [] => .endless
      | escaped :: after => (read quote after).push (unescape escaped) 2
    else (read quote rest).push c 1

end Quotation

/-- Passes over a comment that goes to the end of the line.  A line end that is the last character
of the script belongs to the comment. -/
def passLine (cursor : Cursor) : List Char → Nat → Cursor
  | [], count => ⟨[], cursor.offset + count, cursor.line⟩
  | [_], count => ⟨[], cursor.offset + count + 1, cursor.line⟩
  | c :: next :: rest, count =>
    if c = '\n' then ⟨next :: rest, cursor.offset + count + 1, cursor.line + 1⟩
    else passLine cursor (next :: rest) (count + 1)

def passBlock (cursor : Cursor) : List Char → Nat → Nat → Except Fault Cursor
  | [], _, _ => .error (.malformed "Block comment was never closed!")
  | [_], _, _ => .error (.malformed "Block comment was never closed!")
  | c :: next :: rest, count, lineEnds =>
    if c = '*' ∧ next = '/' then .ok ⟨rest, cursor.offset + count + 2, cursor.line + lineEnds⟩
    else passBlock cursor (next :: rest) (count + 1) (if c = '\n' then lineEnds + 1 else lineEnds)

/-- The report on a character that begins no token. -/
def unexpectedSymbol (source : Source) (cursor : Cursor) (c : Char) : Fault :=
  let before := source.lineBefore cursor.offset
  .report .form (s!"File \"{source.shownPath}\", line {cursor.line}:{before.length + 1}\n" ++
    s!"    {source.line cursor.line}\n" ++
    s!"    {Source.blanksUnder before}^\n>> Unexpected symbol '{c}' <<")

def afterMatch (cursor : Cursor) (rule : TokenRule) (length : Nat) (rest : List Char) :
    Except Fault Reading :=
  let matched := cursor.rest.take length
  let next := cursor.skip length rest
  let token (kind text : String) : Token := ⟨kind, text, cursor.line, cursor.offset, length⟩
  match rule.opening with
  | .plain => .ok (.token (token rule.kind (String.ofList matched)) next)
  | .word =>
    let (kind, text) := classify (String.ofList matched)
    .ok (.token (token kind text) next)
  | .quote =>
    match Quotation.read (matched.headD '"') rest with
    | .closed content count after =>
      .ok (.token (token rule.kind (String.ofList (matched ++ content ++ matched)))
        (next.skip count after))
    | .cut content count after =>
      .ok (.token (token rule.kind (String.ofList (matched ++ content)))
        ⟨after, next.offset + count, next.line + 1⟩)
    | .endless => .error .badIndex
  | .lineEnds => .ok (.skipped ⟨rest, next.offset, next.line + length⟩)
  | .lineComment => .ok (.skipped (passLine next rest 0))
  | .blockComment => (passBlock next rest 0 0).map .skipped

/-- Reads one token or passes over something that is none. -/
def readOn (source : Source) (cursor : Cursor) : Except Fault Reading :=
  match cursor.rest with
  | [] => .ok .finished
  | c :: rest =>
    if c = ' ' ∨ c = '\t' then .ok (.skipped (cursor.skip 1 rest))
    else
      match firstMatch? cursor.rest with
      | some (rule, length, after) => afterMatch cursor rule length after
      | none =>
        if literals.contains c then
          .ok (.token ⟨c.toString, c.toString, cursor.line, cursor.offset, 1⟩ (cursor.skip 1 rest))
        else .error (unexpectedSymbol source cursor c)

/-- The next token, if there is one.  Every step reads at least one character of the bound. -/
def nextTokenWithin (source : Source) : List Char → Cursor → Except Fault (Option Token × Cursor)
  | [], cursor => .ok (none, cursor)
  | _ :: bound, cursor =>
    match readOn source cursor with
    | .error fault => .error fault
    | .ok .finished => .ok (none, cursor)
    | .ok (.token token next) => .ok (some token, next)
    | .ok (.skipped next) => nextTokenWithin source bound next

/-- The next token, or none at the end of the script. -/
def nextToken (source : Source) (cursor : Cursor) : Except Fault (Option Token × Cursor) :=
  nextTokenWithin source cursor.rest cursor

/-- All tokens up to the end or to a fault, and the line at the end. -/
def tokensWithin (source : Source) : List Char → Cursor → List Token × Except Fault Nat
  | [], cursor => ([], .ok cursor.line)
  | _ :: bound, cursor =>
    match readOn source cursor with
    | .error fault => ([], .error fault)
    | .ok .finished => ([], .ok cursor.line)
    | .ok (.token token next) =>
      let (tokens, finish) := tokensWithin source bound next
      (token :: tokens, finish)
    | .ok (.skipped next) => tokensWithin source bound next

/-- All tokens of a script up to its end or to a fault, and the line at its end. -/
def tokens (source : Source) : List Token × Except Fault Nat :=
  tokensWithin source source.text (Cursor.start source.text)

end GraphScript.Language
