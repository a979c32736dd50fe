import GraphScript.Text.Cut

/-!
# Source texts

A script with the path it was read from.  Reports to its author show a line of it with a row of
marks under the offending part.
-/

namespace GraphScript

/-- A script and where it comes from. -/
structure Source where
  path : String
  text : List Char
  asAddress : Bool
  deriving Inhabited

namespace Source

def shownPath (source : Source) : String :=
  if source.asAddress then "file:///" ++ Text.replaceChar '\\' "/" source.path else source.path

/-- The lines of the script, without their ends. -/
def lines (source : Source) : List String := Text.parts '\n' (String.ofList source.text)

/-- The line of a number that counts from one; below one it counts back from the end. -/
def line (source : Source) (number : Nat) : String :=
  if number = 0 then source.lines.getLast?.getD ""
  else source.lines.getD (number - 1) ""

/-- The part of a text after its last line end. -/
def lastLine (text : List Char) : List Char := (text.reverse.takeWhile (· ≠ '\n')).reverse

def lineBefore (source : Source) (offset : Nat) : List Char := lastLine (source.text.take offset)

/-- Blanks as wide as a text: tabs stay tabs. -/
def blanksUnder (text : List Char) : String :=
  String.ofList (text.map fun c => if c = '\t' then c else ' ')

def marks (count : Nat) : String := String.ofList (List.replicate count '^')

end Source

end GraphScript
