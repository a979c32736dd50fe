import GraphScript.Decimal.Binary64

/-!
# Documents

Structured documents in the usual interchange notation: null, truth values, numbers, texts, lists
and records.  Whole numbers have any size.  A record keeps its fields in the order in which they
were first written, and of two fields with one name the later value counts.
-/

namespace GraphScript

/-- A structured document. -/
inductive Document where
  | null
  | bool (value : Bool)
  | whole (value : Int)
  | fraction (value : Binary64)
  | text (value : String)
  | list (items : List Document)
  | record (fields : List (String × Document))
  deriving Inhabited

namespace Document

def isBlank (letter : Char) : Bool :=
  letter == ' ' || letter == '\t' || letter == '\n' || letter == '\r'

def hexValue? (letter : Char) : Option Nat :=
  if '0' ≤ letter ∧ letter ≤ '9' then some (letter.toNat - '0'.toNat)
  else if 'a' ≤ letter ∧ letter ≤ 'f' then some (letter.toNat - 'a'.toNat + 10)
  else if 'A' ≤ letter ∧ letter ≤ 'F' then some (letter.toNat - 'A'.toNat + 10)
  else none

def hexFour? : List Char → Option (Nat × List Char)
  | a :: b :: c :: d :: rest => do
    let a ← hexValue? a
    let b ← hexValue? b
    let c ← hexValue? c
    let d ← hexValue? d
    return (((a * 16 + b) * 16 + c) * 16 + d, rest)
  | _ => none

/-- The character of a code point; half of a pair gives the replacement character. -/
def codePoint (code : Nat) : Char :=
  if 0xd800 ≤ code ∧ code ≤ 0xdfff then Char.ofNat 0xfffd else Char.ofNat code

def escape? : Char → Option Char
  | '"' => some '"'
  | '\\' => some '\\'
  | '/' => some '/'
  | 'b' => some (Char.ofNat 8)
  | 'f' => some (Char.ofNat 12)
  | 'n' => some '\n'
  | 'r' => some '\r'
  | 't' => some '\t'
  | _ => none

/-- The character of a hexadecimal escape and the rest; a pair of halves is one character. -/
def readUnit? (letters : List Char) : Option (Char × List Char) := do
  let (code, rest) ← hexFour? letters
  if 0xd800 ≤ code ∧ code ≤ 0xdbff then
    match rest with
    | '\\' :: 'u' :: next =>
      match hexFour? next with
      | some (low, after) =>
        if 0xdc00 ≤ low ∧ low ≤ 0xdfff then
          return (Char.ofNat (0x10000 + (code - 0xd800) * 0x400 + (low - 0xdc00)), after)
        else return (codePoint code, rest)
      | none => return (codePoint code, rest)
    | _ => return (codePoint code, rest)
  else return (codePoint code, rest)

/-- The inside of a text up to its closing quote, reversed onto what was read before. -/
def readText? : Nat → List Char → List Char → Option (String × List Char)
  | 0, _, _ => none
  | _ + 1, _, [] => none
  | fuel + 1, done, letter :: rest =>
    if letter == '"' then some (String.ofList done.reverse, rest)
    else if letter == '\\' then
      match rest with
      | 'u' :: next => do
        let (character, after) ← readUnit? next
        readText? fuel (character :: done) after
      | mark :: next => do
        let character ← escape? mark
        readText? fuel (character :: done) next
      | [] => none
    else if letter.toNat < 32 then none
    else readText? fuel (letter :: done) rest

def readNumber? (letters : List Char) : Option (Document × List Char) :=
  let (negative, rest) :=
    match letters with
    | '-' :: rest => (true, rest)
    | _ => (false, letters)
  let (front, rest) :=
    match rest with
    | '0' :: next => (['0'], next)
    | _ => rest.span Numeral.isDigit
  if front.isEmpty then none
  else
    let (part, rest) :=
      match rest with
      | '.' :: next =>
        let (digits, after) := next.span Numeral.isDigit
        if digits.isEmpty then ([], rest) else (digits, after)
      | _ => ([], rest)
    let (exponent, rest) : Option Int × List Char :=
      match rest with
      | mark :: next =>
        if mark == 'e' || mark == 'E' then
          let (down, next) := Numeral.sign next
          let (digits, after) := next.span Numeral.isDigit
          if digits.isEmpty then (none, rest)
          else
            let value : Int := Numeral.digitsValue digits
            (some (if down then -value else value), after)
        else (none, rest)
      | [] => (none, rest)
    if part.isEmpty && exponent.isNone then
      let value : Int := Numeral.digitsValue front
      some (.whole (if negative then -value else value), rest)
    else
      let power := exponent.getD 0 - part.length
      some (.fraction (.ofDecimal negative (Numeral.digitsValue (front ++ part)) power), rest)

def words : List (List Char × Document) :=
  [("null".toList, .null), ("true".toList, .bool true), ("false".toList, .bool false),
    ("NaN".toList, .fraction .nan), ("Infinity".toList, .fraction (.infinity false)),
    ("-Infinity".toList, .fraction (.infinity true))]

def readWord? (letters : List Char) : Option (Document × List Char) :=
  (words.find? fun entry => entry.1.isPrefixOf letters).map fun (word, value) =>
    (value, letters.drop word.length)

def setField (name : String) (value : Document) :
    List (String × Document) → List (String × Document)
  | [] => [(name, value)]
  | field :: rest =>
    if field.1 = name then (name, value) :: rest else field :: setField name value rest

mutual

/-- Reads a value that starts at the first character. -/
def readValue? : Nat → List Char → Option (Document × List Char)
  | 0, _ => none
  | fuel + 1, letters =>
    match letters with
    | '"' :: rest =>
      (readText? (rest.length + 1) [] rest).map fun (value, after) => (.text value, after)
    | '[' :: rest =>
      match rest.dropWhile isBlank with
      | ']' :: after => some (.list [], after)
      | items => readItems? fuel items
    | '\x7b' :: rest =>
      match rest.dropWhile isBlank with
      | '\x7d' :: after => some (.record [], after)
      | fields => readFields? fuel [] fields
    | _ =>
      match readWord? letters with
      | some answer => some answer
      | none => readNumber? letters

def readItems? : Nat → List Char → Option (Document × List Char)
  | 0, _ => none
  | fuel + 1, letters =>
    match readValue? fuel letters with
    | none => none
    | some (first, rest) =>
      match rest.dropWhile isBlank with
      | ']' :: after => some (.list [first], after)
      | ',' :: next =>
        match readItems? fuel (next.dropWhile isBlank) with
        | some (.list others, after) => some (.list (first :: others), after)
        | _ => none
      | _ => none

def readFields? : Nat → List (String × Document) → List Char → Option (Document × List Char)
  | 0, _, _ => none
  | fuel + 1, done, letters =>
    match letters with
    | '"' :: rest =>
      match readText? (rest.length + 1) [] rest with
      | none => none
      | some (name, rest) =>
        match rest.dropWhile isBlank with
        | ':' :: rest =>
          match readValue? fuel (rest.dropWhile isBlank) with
          | none => none
          | some (value, rest) =>
            let fields := setField name value done
            match rest.dropWhile isBlank with
            | '\x7d' :: after => some (.record fields, after)
            | ',' :: next => readFields? fuel fields (next.dropWhile isBlank)
            | _ => none
        | _ => none
    | _ => none

end

/-- Reads a document; nothing but blanks may follow it. -/
def read? (text : String) : Option Document :=
  let letters := text.toList.dropWhile isBlank
  match readValue? (letters.length + 1) letters with
  | some (value, rest) => if rest.all isBlank then some value else none
  | none => none

def hexDigit (value : Nat) : Char :=
  if value < 10 then Char.ofNat ('0'.toNat + value) else Char.ofNat ('a'.toNat + (value - 10))

/-- Lower case hexadecimal digits, most significant first. -/
def hexDigits : Nat → Nat → List Char
  | 0, _ => []
  | count + 1, value => hexDigits count (value / 16) ++ [hexDigit (value % 16)]

def writeChar (letter : Char) : List Char :=
  if letter == '"' then ['\\', '"']
  else if letter == '\\' then ['\\', '\\']
  else if letter == '\n' then ['\\', 'n']
  else if letter == '\r' then ['\\', 'r']
  else if letter == '\t' then ['\\', 't']
  else if letter.toNat < 32 then '\\' :: 'u' :: hexDigits 4 letter.toNat
  else [letter]

def writeText (text : String) : String :=
  "\"" ++ (text.foldl (fun done letter =>
    if letter.toNat < 32 || letter == '"' || letter == '\\' then
      done ++ String.ofList (writeChar letter)
    else done.push letter) "") ++ "\""

mutual

def writeOnto (done : String) : Document → String
  | .null => done ++ "null"
  | .bool value => done ++ (if value then "true" else "false")
  | .whole value => done ++ toString value
  | .fraction value => done ++ value.text
  | .text value => done ++ writeText value
  | .list items => writeItems (done ++ "[") true items ++ "]"
  | .record fields => writeFields (done ++ "\x7b") true fields ++ "\x7d"

def writeItems (done : String) (first : Bool) : List Document → String
  | [] => done
  | item :: rest => writeItems (writeOnto (if first then done else done ++ ",") item) false rest

def writeFields (done : String) (first : Bool) : List (String × Document) → String
  | [] => done
  | (name, value) :: rest =>
    let start := (if first then done else done ++ ",") ++ writeText name ++ ":"
    writeFields (writeOnto start value) false rest

end

def write (document : Document) : String := writeOnto "" document

def field? (document : Document) (name : String) : Option Document :=
  match document with
  | .record fields => fields.lookup name
  | _ => none

end Document

end GraphScript
