import GraphScript.Pattern
import GraphScript.Document

/-!
# Reading patterns

The written form of patterns: letters stand for themselves, a point for any character but a line
end, brackets for one character out of a class, round brackets group and can give the group a name,
a bar separates alternatives, and a star, a plus sign or a question mark repeats what stands before
it.  A backslash takes the meaning from the next character or gives it one.

In the spacious form blanks and everything from a number sign to the end of the line do not count,
unless they stand in a class or behind a backslash.
-/

namespace GraphScript.Pattern

/-! ## Decimal digits -/

def zeros : List Nat :=
  [0x30, 0x660, 0x6f0, 0x7c0, 0x966, 0x9e6, 0xa66, 0xae6, 0xb66, 0xbe6, 0xc66, 0xce6, 0xd66, 0xde6,
    0xe50, 0xed0, 0xf20, 0x1040, 0x1090, 0x17e0, 0x1810, 0x1946, 0x19d0, 0x1a80, 0x1a90, 0x1b50,
    0x1bb0, 0x1c40, 0x1c50, 0xa620, 0xa8d0, 0xa900, 0xa9d0, 0xa9f0, 0xaa50, 0xabf0, 0xff10, 0x104a0,
    0x10d30, 0x11066, 0x110f0, 0x11136, 0x111d0, 0x112f0, 0x11450, 0x114d0, 0x11650, 0x116c0,
    0x11730, 0x118e0, 0x11950, 0x11c50, 0x11d50, 0x11da0, 0x16a60, 0x16ac0, 0x16b50, 0x1d7ce,
    0x1d7d8, 0x1d7e2, 0x1d7ec, 0x1d7f6, 0x1e140, 0x1e2f0, 0x1e950, 0x1fbf0]

def digitRanges : List (Char × Char) :=
  zeros.map fun start => (Char.ofNat start, Char.ofNat (start + 9))

def blankRanges : List (Char × Char) :=
  [(0x09, 0x0d), (0x1c, 0x20), (0x85, 0x85), (0xa0, 0xa0), (0x1680, 0x1680), (0x2000, 0x200a),
    (0x2028, 0x2029), (0x202f, 0x202f), (0x205f, 0x205f), (0x3000, 0x3000)].map fun range =>
    (Char.ofNat range.1, Char.ofNat range.2)

/-- The ranges of the letters of words, among the first hundred and twenty-eight characters. -/
def wordRanges : List (Char × Char) := [('0', '9'), ('A', 'Z'), ('_', '_'), ('a', 'z')]

/-! ## Patterns -/

/-- A pattern while it is read: what is left of its text, and the names of its groups so far. -/
structure Reading where
  rest : List Char
  names : List String

/-- A character or a class of characters that a backslash stands for. -/
inductive Escaped where
  | letter (value : Char)
  | members (ranges : List (Char × Char)) (complement : Bool)

def escapedClass? : Char → Option Escaped
  | 'd' => some (.members digitRanges false)
  | 'D' => some (.members digitRanges true)
  | 's' => some (.members blankRanges false)
  | 'S' => some (.members blankRanges true)
  | 'w' => some (.members wordRanges false)
  | 'W' => some (.members wordRanges true)
  | _ => none

def escapedControl? : Char → Option Char
  | 'n' => some '\n'
  | 't' => some '\t'
  | 'r' => some '\r'
  | 'f' => some (Char.ofNat 12)
  | 'v' => some (Char.ofNat 11)
  | 'a' => some (Char.ofNat 7)
  | _ => none

def isLetter (c : Char) : Bool := ('a' ≤ c && c ≤ 'z') || ('A' ≤ c && c ≤ 'Z')

def readEscape : List Char → Option (Escaped × List Char)
  | [] => none
  | 'x' :: high :: low :: rest => do
    let high ← Document.hexValue? high
    let low ← Document.hexValue? low
    return (.letter (Char.ofNat (16 * high + low)), rest)
  | '0' :: rest => some (.letter (Char.ofNat 0), rest)
  | c :: rest =>
    match escapedClass? c, escapedControl? c with
    | some found, _ => some (found, rest)
    | none, some control => some (.letter control, rest)
    | none, none => if isLetter c || ('1' ≤ c && c ≤ '9') then none else some (.letter c, rest)

def gaps (ranges : List (Char × Char)) : List (Char × Char) :=
  let sorted := ranges.mergeSort fun left right => left.1 ≤ right.1
  let (next, found) := sorted.foldl (fun ((next, found) : Nat × List (Char × Char)) range =>
    (max next (range.2.toNat + 1),
      if next < range.1.toNat then found ++ [(Char.ofNat next, Char.ofNat (range.1.toNat - 1))]
      else found)) (0, [])
  found ++ [(Char.ofNat next, Char.ofNat 0x10ffff)]

def Escaped.ranges : Escaped → List (Char × Char)
  | .letter value => [(value, value)]
  | .members ranges false => ranges
  | .members ranges true => gaps ranges

def readMember : List Char → Option (Escaped × List Char)
  | [] => none
  | '\\' :: 'b' :: rest => some (.letter (Char.ofNat 8), rest)
  | '\\' :: rest => readEscape rest
  | c :: rest => some (.letter c, rest)

/-- Reads the members of a class up to its closing bracket, which is a member if it comes first. -/
def readMembers : Nat → List (Char × Char) → List Char → Option (List (Char × Char) × List Char)
  | 0, _, _ => none
  | bound + 1, members, text =>
    match members, text with
    | _ :: _, ']' :: rest => some (members, rest)
    | _, _ => do
      let (low, rest) ← readMember text
      match rest with
      | '-' :: ']' :: rest => return (members ++ low.ranges ++ [('-', '-')], rest)
      | '-' :: rest => do
        let (high, rest) ← readMember rest
        match low, high with
        | .letter low, .letter high =>
          if low ≤ high then readMembers bound (members ++ [(low, high)]) rest else none
        | _, _ => none
      | _ => readMembers bound (members ++ low.ranges) rest

/-- Reads a class after its opening bracket. -/
def readClass (text : List Char) : Option (Pattern × List Char) :=
  let (complement, text) := match text with
    | '^' :: rest => (true, rest)
    | _ => (false, text)
  (readMembers (text.length + 1) [] text).map fun (ranges, rest) =>
    (.one ⟨ranges, complement⟩, rest)

/-- The blanks that do not count in the spacious form. -/
def isSpacing (c : Char) : Bool := c == ' ' || (9 ≤ c.toNat && c.toNat ≤ 13)

def isGroupName : List Char → Bool
  | [] => false
  | first :: rest =>
    let starts (c : Char) := isLetter c || c == '_' || c.toNat ≥ 128
    starts first && rest.all fun c => starts c || c.isDigit

/-- Reads the start of a group after its opening bracket: notes its name, if it has one. -/
def readGroupStart (reading : Reading) : Option Reading :=
  match reading.rest with
  | '?' :: 'P' :: '<' :: rest =>
    let name := rest.takeWhile (· != '>')
    match rest.dropWhile (· != '>') with
    | '>' :: rest =>
      if isGroupName name && !reading.names.contains (String.ofList name) then
        some ⟨rest, reading.names ++ [String.ofList name]⟩
      else none
    | _ => none
  | '?' :: ':' :: rest => some { reading with rest := rest }
  | '?' :: _ => none
  | _ => some reading

def repeatedBy (mark : Char) (body : Pattern) : Pattern :=
  if mark == '*' then .star body else if mark == '+' then .plus body else .optional body

mutual

def readAlternatives (spacious : Bool) : Nat → Reading → Option (Pattern × Reading)
  | 0, _ => none
  | bound + 1, reading => do
    let (first, reading) ← readSequence spacious bound [] reading
    match reading.rest with
    | '|' :: rest =>
      let (second, reading) ← readAlternatives spacious bound { reading with rest := rest }
      return (.alt first second, reading)
    | _ => return (first, reading)

/-- Reads one alternative.  The parts so far come with the last one first, each with whether it was
repeated. -/
def readSequence (spacious : Bool) :
    Nat → List (Pattern × Bool) → Reading → Option (Pattern × Reading)
  | 0, _, _ => none
  | bound + 1, parts, reading =>
    let finish := some (Pattern.all (parts.reverse.map (·.1)), reading)
    let goOn (part : Pattern) (rest : List Char) :=
      readSequence spacious bound ((part, false) :: parts) { reading with rest := rest }
    match reading.rest with
    | [] => finish
    | c :: rest =>
      if c == ')' || c == '|' then finish
      else if spacious && isSpacing c then
        readSequence spacious bound parts { reading with rest := rest }
      else if spacious && c == '#' then
        readSequence spacious bound parts
          { reading with rest := (rest.dropWhile (· != '\n')).drop 1 }
      else if c == '*' || c == '+' || c == '?' then
        match parts with
        | (body, false) :: before =>
          readSequence spacious bound ((repeatedBy c body, true) :: before)
            { reading with rest := rest }
        | _ => none
      else if c == '(' then do
        let inner ← readGroupStart { reading with rest := rest }
        let (body, inner) ← readAlternatives spacious bound inner
        match inner.rest with
        | ')' :: rest =>
          readSequence spacious bound ((body, false) :: parts) { inner with rest := rest }
        | _ => none
      else if c == '[' then do
        let (body, rest) ← readClass rest
        goOn body rest
      else if c == '.' then goOn (.one ⟨[('\n', '\n')], true⟩) rest
      else if c == '\\' then do
        match ← readEscape rest with
        | (.letter value, rest) => goOn (.one ⟨[(value, value)], false⟩) rest
        | (.members ranges complement, rest) => goOn (.one ⟨ranges, complement⟩) rest
      else goOn (.one ⟨[(c, c)], false⟩) rest

end

/-- Reads a pattern: the pattern and the names of its groups, and nothing where the text is not the
written form of a pattern. -/
def read (spacious : Bool) (text : String) : Option (Pattern × List String) :=
  let letters := text.toList
  match readAlternatives spacious (3 * letters.length + 3) ⟨letters, []⟩ with
  | some (pattern, ⟨[], names⟩) => some (pattern, names)
  | _ => none

def matchesEmpty (pattern : Pattern) : Bool := (pattern.first? []).isSome

end GraphScript.Pattern
