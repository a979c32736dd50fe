/-!
# Text patterns

Regular patterns over characters, matched at the start of a text.  The ways to match are listed in
order of preference: the left side of an alternative before the right one, and one more repetition
before none.  The preferred match is the first of the list.
-/

namespace GraphScript

/-- A set of characters: the listed ranges, or everything but them. -/
structure CharSet where
  ranges : List (Char × Char)
  complement : Bool
  deriving DecidableEq

namespace CharSet

def has (set : CharSet) (c : Char) : Bool :=
  (set.ranges.any fun range => range.1 ≤ c && c ≤ range.2) != set.complement

def ofText (text : String) : CharSet := ⟨text.toList.map fun c => (c, c), false⟩

def ofRanges (ranges : List (Char × Char)) : CharSet := ⟨ranges, false⟩

end CharSet

/-- A regular pattern. -/
inductive Pattern where
  | empty
  | one (set : CharSet)
  | seq (first second : Pattern)
  | alt (left right : Pattern)
  | star (body : Pattern)
  deriving DecidableEq, Inhabited

namespace Pattern

/-- A way to match: how many characters were read so far, and the text after them. -/
abbrev End : Type := Nat × List Char

/-- All ways to repeat a step, longer ones first.  A step that reads nothing ends the repetition;
the second argument bounds the number of steps by the length of the text. -/
def repeats (step : Nat → List Char → List End) : List Char → Nat → List Char → List End
  | [], count, text => [(count, text)]
  | _ :: bound, count, text =>
    (step count text).flatMap (fun stop =>
      if stop.1 = count then [] else repeats step bound stop.1 stop.2) ++ [(count, text)]

/-- All ways to match a pattern at the start of a text, in order of preference.  The count is that
of the characters read before. -/
def ends : Pattern → Nat → List Char → List End
  | .empty, count, text => [(count, text)]
  | .one _, _, [] => []
  | .one set, count, c :: rest => if set.has c then [(count + 1, rest)] else []
  | .seq first second, count, text =>
    (first.ends count text).flatMap fun stop => second.ends stop.1 stop.2
  | .alt left right, count, text => left.ends count text ++ right.ends count text
  | .star body, count, text => repeats body.ends text count text

/-- The preferred match at the start of a text: its length and the text after it. -/
def first? (pattern : Pattern) (text : List Char) : Option End := (pattern.ends 0 text).head?

def text (word : String) : Pattern :=
  word.toList.foldr (fun c rest => .seq (.one ⟨[(c, c)], false⟩) rest) .empty

def oneOf (letters : String) : Pattern := .one (.ofText letters)

/-- One pattern after the other. -/
def all (parts : List Pattern) : Pattern := parts.foldr .seq .empty

/-- The first alternative that leads to a match. -/
def any : List Pattern → Pattern
  | [] => .one ⟨[], false⟩
  | [only] => only
  | first :: rest => .alt first (any rest)

/-- A pattern or nothing. -/
def optional (body : Pattern) : Pattern := .alt body .empty

def plus (body : Pattern) : Pattern := .seq body (.star body)

end Pattern

end GraphScript
