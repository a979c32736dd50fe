import GraphScript.Table
import GraphScript.Act
import GraphScript.Text.Quoted

/-!
# Paths, commands and variables of a graph

A node is named by the names of the compounds around it and its own name, each after a slash, and a
port by the path of its node, a dot, and its own name.  A graph is built by a sequence of commands
to the program that holds it.  While a compound is built, its variables are held as the ports that
carry their values.
-/

namespace GraphScript.Graph

/-! ## Paths of nodes and ports -/

/-- The path of a node or of a port. -/
structure NodePath where
  text : String
  deriving DecidableEq

namespace NodePath

/-- The path with one slash at its start and none at its end. -/
def rooted (text : String) : NodePath := ⟨"/" ++ Text.trimChar '/' text⟩

def child (path : NodePath) (name : String) : NodePath := rooted (path.text ++ "/" ++ name)

def port (path : NodePath) (name : String) : NodePath := rooted (path.text ++ "." ++ name)

def isPort (path : NodePath) : Bool := path.text.toList.contains '.'

/-- The name of the port, or of the node where there is no port. -/
def name (path : NodePath) : String :=
  if path.isPort then Text.after "." path.text else Text.afterLast "/" path.text

def parent (path : NodePath) : NodePath :=
  rooted (if path.isPort then Text.before "." path.text else Text.beforeLast "/" path.text)

def input (path : NodePath) : NodePath := path.child "input"

def output (path : NodePath) : NodePath := path.child "output"

end NodePath

/-! ## Data of commands -/

/-- A value that a command can carry. -/
inductive Datum where
  | nothing
  | truth (value : Bool)
  | whole (value : Int)
  | fraction (value : Binary64)
  | text (value : String)
  | path (value : NodePath)
  | list (items : List Datum)
  deriving BEq

namespace Datum

instance : Coe String Datum := ⟨.text⟩
instance : Coe NodePath Datum := ⟨.path⟩

def letters? : Datum → Option String
  | .text value => some value
  | .path value => some value.text
  | _ => none

mutual

def quoted : Datum → String
  | .nothing => "None"
  | .truth value => if value then "True" else "False"
  | .whole value => toString value
  | .fraction value => value.text
  | .text value => Text.quoted value
  | .path value => Text.quoted value.text
  | .list items => Text.bracketed (quotedAll items)

def quotedAll : List Datum → List String
  | [] => []
  | item :: rest => item.quoted :: quotedAll rest

end

def shown (datum : Datum) : String := datum.letters?.getD datum.quoted

/-- Whether a value counts as given: neither nothing, zero, false nor empty. -/
def isGiven : Datum → Bool
  | .nothing => false
  | .truth value => value
  | .whole value => value != 0
  | .fraction value => !value.isZero
  | .text value => value != ""
  | .path value => value.text != ""
  | .list items => !items.isEmpty

def isNothing : Datum → Bool
  | .nothing => true
  | _ => false

/-- A truth value as a number, and every other value itself. -/
def numbered : Datum → Datum
  | .truth value => .whole (if value then 1 else 0)
  | datum => datum

def asPath : Datum → Except Fault NodePath
  | .path value => .ok value
  | _ => .error .badOperand

def named : Datum → Except Fault NodePath
  | .path value => .ok value
  | _ => .error .missingMember

def items : Datum → Except Fault (List Datum)
  | .list items => .ok items
  | .text value => .ok (value.toList.map fun letter => .text (String.singleton letter))
  | .path value => .ok (value.text.toList.map fun letter => .text (String.singleton letter))
  | _ => .error .badOperand

/-- Whether a piece of text is in a text, or is an item of a list. -/
def holds (piece : String) : Datum → Except Fault Bool
  | .text value => .ok (Text.holds piece value)
  | .path value => .ok (Text.holds piece value.text)
  | .list items => .ok (items.any fun item => item.letters? == some piece)
  | _ => .error .badOperand

end Datum

/-! ## Commands to the host -/

/-- A command to the host. -/
inductive Command where
  | openBracket
  /-- Ends a group of changes. -/
  | closeBracket
  | addNode (context : NodePath) (kind : String)
  /-- Adds the node that holds the inputs or the outputs of a compound. -/
  | addPortsNode (context : NodePath) (isInput : Bool)
  | listPorts (node : NodePath)
  | renamePort (node : NodePath) (name : String) (newName : Datum)
  | setPortNote (node : NodePath) (port key value : String)
  | deletePort (node : NodePath) (port : String)
  | createInput (node name : Datum) (type : String)
  | createOutput (node name : Datum) (type : String)
  | setDefault (node port value : Datum)
  | setPortType (node port : Datum) (type : String)
  | askPortType (node port : Datum)
  | setFlag (node flag : Datum) (on : Bool)
  | setNote (node key value : Datum)
  | setNotes (node : Datum) (text : String)
  | holdSource (port : Datum)
  | connect (source target : Datum)
  /-- Ends what `holdSource` began. -/
  | releaseSource (port : Datum)
  | stopCollecting (port : String)
  deriving BEq

/-- A line of a transcript. -/
inductive Shown where
  | command (command : Command)
  | connected (source target : Datum)
  deriving BEq

namespace Command

def flagSet? : Command → Option (Datum × Datum)
  | setFlag node flag true => some (node, flag)
  | _ => none

def setsFlagOn (node : Datum) (command : Command) : Bool :=
  match command.flagSet? with
  | some (other, _) => other == node
  | none => false

def flagText (command : Command) : String := ((command.flagSet?).map fun set => set.2.shown).getD ""

def sortFlags : Nat → List Command → List Command
  | 0, commands => commands
  | _, [] => []
  | fuel + 1, command :: rest =>
    match command.flagSet? with
    | none => command :: sortFlags fuel rest
    | some (node, _) =>
      let run := command :: rest.takeWhile (setsFlagOn node)
      run.mergeSort (fun left right => Text.notAfter left.flagText right.flagText) ++
        sortFlags fuel (rest.dropWhile (setsFlagOn node))

def joinConnections : List Command → List Shown
  | holdSource port :: connect source target :: releaseSource released :: rest =>
    if port == source && source == released then
      .connected source target :: joinConnections rest
    else .command (holdSource port) ::
      joinConnections (connect source target :: releaseSource released :: rest)
  | command :: rest => .command command :: joinConnections rest
  | [] => []

def transcript (commands : List Command) : List Shown :=
  joinConnections (sortFlags commands.length commands)

end Command

/-! ## Variables -/

/-- A value and the name of its type. -/
structure Cell where
  type : Datum
  value : Datum

/-- The variables and the open results of a compound. -/
structure Memory where
  bindings : Table Cell := {}
  results : Table Cell := {}

namespace Memory

variable (memory : Memory)

def isDefined (name : String) : Bool := memory.bindings.contains name

def isOpen (name : String) : Bool := memory.results.contains name

def cellLines (cells : Table Cell) : List String :=
  cells.entries.map fun (name, cell) =>
    let type := cell.type.shown
    let value := cell.value.shown
    s!"|     {name} ({type}): {value}"

/-- The memory as lines of text; the last one is empty. -/
def lines : List String :=
  ["+-- Memory ---", "|  setonly:"] ++ cellLines memory.results ++ ["|  data:"] ++
    cellLines memory.bindings ++ [""]

def define? (name : String) (type value : Datum) : Option Memory :=
  if memory.isDefined name then none
  else some { memory with bindings := memory.bindings.insert name ⟨type, value⟩ }

/-- Defines a result that is neither a variable nor a result yet. -/
def defineResult? (name : String) (type target : Datum) : Option Memory :=
  if memory.isDefined name || memory.isOpen name then none
  else some { memory with results := memory.results.insert name ⟨type, target⟩ }

def value (name : String) : Except Fault Datum :=
  orFault .missingKey ((memory.bindings.get? name).map Cell.value)

def type (name : String) : Except Fault Datum :=
  match memory.results.get? name with
  | some cell => .ok cell.type
  | none => orFault .missingKey ((memory.bindings.get? name).map Cell.type)

/-- Gives a variable a new value, and a new type where one is given. -/
def assign (name : String) (value newType : Datum) : Except Fault Memory :=
  if memory.isOpen name then
    .error (.refusal "Must connect through Graph.connect() to set_only value!")
  else match memory.bindings.get? name with
    | none => .error .missingKey
    | some cell =>
      .ok { memory with
        bindings := memory.bindings.insert name
          ⟨if newType.isGiven then newType else cell.type, value⟩ }

/-- Takes a result out: the port that waits, and its type. -/
def takeResult (name : String) : Except Fault (Cell × Memory) :=
  match memory.results.get? name with
  | none => .error .missingKey
  | some cell => .ok (cell, { memory with results := memory.results.erase name })

end Memory

end GraphScript.Graph
