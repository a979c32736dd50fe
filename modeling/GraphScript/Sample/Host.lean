import GraphScript.Document.Access

/-!
# A simple host

A host that answers every command without building anything.  New nodes are numbered in the order in
which they are asked for.
-/

namespace GraphScript.Sample

/-- The next name that starts with a word, and the number of names so far. -/
def freshName (word : String) (count : Nat) : String × Nat :=
  let number := count + 1
  (s!"{word}{number}", number)

/-- A list with a fresh name. -/
def freshNode (word : String) (count : Nat) : Document × Nat :=
  let (name, count) := freshName word count
  (.list [.text name], count)

/-- The name of the operator in a kind of node: what stands after the last comma. -/
def operatorName (kind : String) : String :=
  let name := Text.afterLast "," kind
  if name == "" then "node" else name

def compoundAnswer (options : Document) (count : Nat) : Document × Nat :=
  match options.field? "addNode", options.field? "addIONode" with
  | some kind, _ => freshNode (operatorName kind.str) count
  | none, some isInput => freshNode (if isInput.isGiven then "input" else "output") count
  | none, none =>
    if ["listNodes", "listPorts", "qms"].any fun name => (options.field? name).isSome then
      (.list [], count)
    else freshNode "compound" count

def nodeAnswer (options : Document) : Document :=
  let asks (name : String) : Bool := (options.field? name).isSome
  if asks "listPorts" || asks "listPortChildren" || asks "qms" then .list []
  else if asks "queryPortDataType" then .text "float"
  else if asks "queryPortMetaDataValue" then .text ""
  else if asks "qmd" then .list [.text "\x7b\"NodeLayout\": \x7b\"items\": []\x7d\x7d"]
  else .null

def libraryAnswer (options : Document) : Document :=
  let asks (name : String) : Bool := (options.field? name).isSome
  if asks "libraries" then .list [.text "Core::Math"]
  else if asks "nodes" then .list [.text "add"]
  else if asks "listPortTypes" then .list [.text "auto", .text "float", .text "double"]
  else .list []

def hostAnswer (command : String) (options : Document) (count : Nat) : Document × Nat :=
  match command with
  | "vnnCompound" => compoundAnswer options count
  | "vnnNode" => (nodeAnswer options, count)
  | "vnnPort" => (if (options.field? "qf").isSome then .whole 0 else .null, count)
  | "vnn" => (libraryAnswer options, count)
  | "createNode" =>
    let (name, count) := freshName "mayaNode" count
    ((options.field? "name").getD (.text name), count)
  | _ => (.null, count)

end GraphScript.Sample
