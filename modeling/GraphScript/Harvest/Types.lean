import GraphScript.Act
import GraphScript.Table
import GraphScript.Text.Cut

/-!
# Collecting types

Asks the host for its port types and for the members of each of them.  Members of members follow all
members of the level above.
-/

namespace GraphScript.Harvest

/-- The members of a type by their paths. -/
abbrev Members : Type := List (String × String)

def directMembers (members : Members) (path : List String) : List String :=
  (members.map fun member => Text.parts '.' member.1).filterMap fun parts =>
    if path.isPrefixOf parts && parts.length == path.length + 1 then parts.getLast? else none

/-- The paths of all members below a path, relative to it; the fuel bounds the depth. -/
def membersBelow (members : Members) : Nat → List String → List String
  | 0, _ => []
  | fuel + 1, path =>
    let direct := directMembers members path
    direct ++ direct.flatMap fun name =>
      (membersBelow members fuel (path ++ [name])).map fun below => name ++ "." ++ below

def depth (members : Members) : Nat :=
  (members.map fun member => (Text.parts '.' member.1).length).foldl max 0

/-- The members of a type in the order in which they are collected. -/
def orderedMembers (members : Members) : Members :=
  (Table.ofList ((membersBelow members (depth members) []).map fun path =>
    (path, (members.lookup path).getD "float"))).entries

/-- The types of the host and their members; arrays and the open type are left out. -/
def types (listed : List (String × Members)) : Except Fault (List (String × Members)) :=
  if listed.any fun entry => entry.1 == "auto" then
    let kept := listed.eraseP fun entry => entry.1 == "auto"
    let plain := kept.filter fun entry => !Text.startsWith "array<" entry.1
    .ok (Table.ofList (plain.map fun entry =>
      (entry.1, orderedMembers ((listed.lookup entry.1).getD [])))).entries
  else .error .badValue

end GraphScript.Harvest
