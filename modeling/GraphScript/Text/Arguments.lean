import GraphScript.Text.Cut
import GraphScript.Decimal.Binary64

/-!
# Arguments in text

The arguments of a call are separated by a mark that stands outside of brackets and quotes.
-/

namespace GraphScript.Text

/-- What a splitter has seen: the part so far, in reverse, the number of open brackets, and the
quote that is open. -/
structure Splitting where
  part : List Char := []
  depth : Int := 0
  quote : Option Char := none

/-- A part without blanks around it. -/
def trimmedPart (reversed : List Char) : String :=
  String.ofList (trimWhere Numeral.isBlank reversed.reverse)

/-- The parts of a text from what a splitter has seen so far.  A blank part at the end is left
out. -/
def splitOutsideFrom (mark : Char) : Splitting → List Char → List String
  | seen, [] =>
    let last := trimmedPart seen.part
    if last == "" then [] else [last]
  | seen, letter :: rest =>
    let part := letter :: seen.part
    match seen.quote with
    | some quote =>
      splitOutsideFrom mark
        { seen with part := part, quote := if letter == quote then none else some quote } rest
    | none =>
      if letter == '\'' || letter == '"' then
        splitOutsideFrom mark { seen with part := part, quote := some letter } rest
      else if "([\x7b".toList.contains letter then
        splitOutsideFrom mark { seen with part := part, depth := seen.depth + 1 } rest
      else if ")]\x7d".toList.contains letter then
        splitOutsideFrom mark { seen with part := part, depth := seen.depth - 1 } rest
      else if letter == mark && seen.depth == 0 then
        trimmedPart seen.part :: splitOutsideFrom mark { seen with part := [] } rest
      else splitOutsideFrom mark { seen with part := part } rest

/-- The parts of a text between marks that stand outside of brackets and quotes. -/
def splitOutside (mark : Char) (text : String) : List String := splitOutsideFrom mark {} text.toList

/-- What stands before the parenthesis that closes the open ones, if it is there. -/
def untilClosed? : Int → List Char → Option (List Char)
  | _, [] => none
  | depth, letter :: rest =>
    if letter == '(' then (untilClosed? (depth + 1) rest).map (letter :: ·)
    else if letter == ')' then
      if depth == 1 then some [] else (untilClosed? (depth - 1) rest).map (letter :: ·)
    else (untilClosed? depth rest).map (letter :: ·)

/-- What stands between a position and the parenthesis that closes the one there; nothing when none
does. -/
def callArguments (text : String) (position : Nat) : String :=
  match untilClosed? 0 (text.toList.drop position) with
  | some (_ :: inside) => String.ofList inside
  | _ => ""

end GraphScript.Text
