import GraphScript.Text.Quoted
import GraphScript.Source

/-!
# Syntax trees

A leaf is a token or the empty symbol; an inner node is a rule with the trees of one of its
alternatives.  Every tree knows the line it ends on and the characters it covers.
-/

namespace GraphScript.Language

/-- A syntax tree. -/
inductive Tree where
  | leaf (symbol : String) (line start stop : Nat) (text : Option String)
  | node (symbol : String) (line start stop : Nat) (children : List Tree)
  deriving Inhabited

namespace Tree

/-- The symbol of a tree: a rule, a kind of token, or a character in quotes. -/
def symbol : Tree → String
  | .leaf symbol .. => symbol
  | .node symbol .. => symbol

/-- The line on which a tree ends. -/
def line : Tree → Nat
  | .leaf _ line .. => line
  | .node _ line .. => line

/-- The offset of the first character of a tree. -/
def start : Tree → Nat
  | .leaf _ _ start .. => start
  | .node _ _ start .. => start

/-- The offset after the last character of a tree. -/
def stop : Tree → Nat
  | .leaf _ _ _ stop _ => stop
  | .node _ _ _ stop _ => stop

def children : Tree → List Tree
  | .leaf .. => []
  | .node _ _ _ _ children => children

def text? : Tree → Option String
  | .leaf _ _ _ _ text => text
  | .node .. => none

/-- The tree of a rule: it covers everything from its first to its last part. -/
def ofParts (symbol : String) (parts : List Tree) : Tree :=
  let first := parts.headD (.leaf symbol 0 0 0 none)
  let last := parts.getLastD first
  .node symbol last.line first.start last.stop parts

mutual

def leaves : Tree → List Tree
  | .leaf symbol line start stop text => [.leaf symbol line start stop text]
  | .node _ _ _ _ children => leavesOfAll children

def leavesOfAll : List Tree → List Tree
  | [] => []
  | tree :: trees => leaves tree ++ leavesOfAll trees

end

/-- Indents every line of a text but the first. -/
def indented (text : String) : String := Text.replaceChar '\n' "\n    " text

mutual

def outline : Tree → String
  | .leaf symbol _ _ _ text =>
    let shown := match text with
      | some text => Text.quoted text
      | none => "None"
    "Node<" ++ symbol ++ ">\x7b\n    " ++ indented shown ++ "\n    " ++ "\x7d"
  | .node symbol _ _ _ children =>
    "Node<" ++ symbol ++ ">\x7b\n    " ++ outlineOfAll children ++ "\x7d"

def outlineOfAll : List Tree → String
  | [] => ""
  | tree :: trees => indented (outline tree) ++ "\n    " ++ outlineOfAll trees

end

end Tree

/-! ## Locations -/

/-- Where a tree stands. -/
structure Location where
  path : String
  firstLine : Nat
  lastLine : Nat
  /-- The text of the last line. -/
  text : String
  blanks : String
  width : Nat
  deriving DecidableEq

namespace Location

def ofTree (source : Source) (tree : Tree) : Location :=
  let leaves := tree.leaves
  let first := leaves.headD tree
  let last := leaves.getLastD tree
  let onLastLine := leaves.filter fun leaf => leaf.line == last.line
  let start := (onLastLine.headD tree).start
  { path := source.shownPath
    firstLine := first.line
    lastLine := last.line
    text := source.line last.line
    blanks := Source.blanksUnder (source.lineBefore start)
    width := (onLastLine.getLastD tree).stop - start }

def report (location : Location) (message : String) : String :=
  let lines :=
    if location.firstLine = location.lastLine then s!"line {location.firstLine}"
    else s!"lines {location.firstLine}-{location.lastLine}"
  s!"File \"{location.path}\", {lines}\n" ++ s!"    {location.text}\n" ++
    s!"    {location.blanks}{Source.marks location.width}\n>> {message} <<"

def logLine (location : Location) (message : String) : String :=
  let lines :=
    if location.firstLine = location.lastLine then s!"L{location.firstLine}"
    else s!"L({location.firstLine}-{location.lastLine})"
  let file := Text.afterLast "/" location.path
  s!"[{file} {lines}] {message}"

end Location

end GraphScript.Language
