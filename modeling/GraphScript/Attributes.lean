import GraphScript.Document.Access
import GraphScript.Table
import GraphScript.Text.Quoted

/-!
# Attributes of ports and nodes

Nodes are described by documents that list their ports and their meta data.  The description of a
port or of a piece of meta data is a record whose field names begin with `port` or `meta`; a field
can be asked for without that beginning.
-/

namespace GraphScript

/-- The value that a possibly shortened name stands for, or a message that lists the names. -/
def Table.demand {α : Type} (table : Table α) (name : String) : Except String α :=
  match table.lookup? name with
  | some value => .ok value
  | none =>
    let names := Text.quotedList table.keys
    .error s!"Missing '{name}'. Available: {names}"

/-- Adds entries to a table.  The names `self` and `d` cannot be added. -/
def Table.extended {α : Type} (table : Table α) (entries : List (String × α)) :
    Except Fault (Table α) :=
  if entries.any fun (name, _) => name == "self" || name == "d" then .error .badOperand
  else .ok (table.insertAll entries)

namespace Attributes

/-- What a record describes. -/
inductive Subject where
  | port
  | metaData
  deriving DecidableEq

/-- How the field names of a record begin. -/
def Subject.stem : Subject → String
  | .port => "port"
  | .metaData => "meta"

/-- Described ports or meta data, and the values of their fields. -/
inductive Attribute where
  | plain (value : Document)
  | record (subject : Subject) (fields : List (String × Document))
  | group (members : List (String × Attribute))

/-- Why an attribute was not found. -/
inductive Missing where
  /-- There is no such key. -/
  | key (message : String)
  | fault (fault : Fault)

def itemsOf (document : Document) : Except Missing (List Document) :=
  document.iterated.mapError Missing.fault

def needed (document : Document) (name : String) : Except Missing Document :=
  match document with
  | .record fields =>
    match fields.lookup name with
    | some value => .ok value
    | none => .error (.key name)
  | _ => .error (.fault .badOperand)

def fieldsOf : Document → List (String × Document)
  | .record fields => fields
  | _ => []

def addNamed (group : Table Attribute) (name : Document) (member : Attribute) :
    Except Missing (Table Attribute) :=
  match name with
  | .text name =>
    match group.extended [(name, member)] with
    | .ok grown => .ok grown
    | .error fault => .error (.fault fault)
  | _ => .error (.fault .badOperand)

/-- Whether a described port has a direction; `*` stands for all of them. -/
def hasDirection (direction : String) (port : Document) : Except Missing Bool :=
  if direction == "*" then .ok true
  else do
    match ← needed port "portDirection" with
    | .text value => return value == direction
    | _ => return false

def collectPorts (direction : String) :
    Table Attribute → List Document → Except Missing (Table Attribute)
  | group, [] => .ok group
  | group, port :: rest => do
    if ← hasDirection direction port then
      let grown ← addNamed group (← needed port "portName") (.record .port (fieldsOf port))
      collectPorts direction grown rest
    else collectPorts direction group rest

def ports (document : Document) (direction : String) : Except Missing Attribute := do
  return .group (← collectPorts direction {} (← itemsOf document)).entries

/-- Collects meta data; some of it is a group of its own. -/
def collectMetaData (describe : Document → Except Missing Attribute) :
    Table Attribute → List Document → Except Missing (Table Attribute)
  | group, [] => .ok group
  | group, entry :: rest => do
    let name ← needed entry "metaName"
    let member ← match (fieldsOf entry).lookup "metadata" with
      | some inner => describe inner
      | none => pure (.record .metaData (fieldsOf entry))
    collectMetaData describe (← addNamed group name member) rest

def metaDataTo : Nat → Document → Except Missing Attribute
  | 0, _ => .error (.fault (.accident .tooDeep))
  | depth + 1, document => do
    return .group (← collectMetaData (metaDataTo depth) {} (← itemsOf document)).entries

def metaData (document : Document) : Except Missing Attribute :=
  metaDataTo (document.write.length + 1) document

/-- The full name of a field that is asked for without its beginning. -/
def fullName (subject : Subject) (name : String) : Except Missing String :=
  match name.toList with
  | [] => .error (.fault .badIndex)
  | first :: rest => .ok (subject.stem ++ String.ofList (first.toUpper :: rest))

def fieldOf (subject : Subject) (fields : List (String × Document)) (name : String) :
    Except Missing Attribute := do
  let full ← fullName subject name
  match fields.lookup name, fields.lookup full with
  | some value, _ => return .plain value
  | none, some value => return .plain value
  | none, none =>
    let names := Text.quotedList (fields.map Prod.fst)
    throw (.key s!"Missing '{name}/{full}'. Available: {names}")

def step (whole : Attribute) (key : String) : Except Missing Attribute :=
  match whole with
  | .group members =>
    match members.lookup key with
    | some member => .ok member
    | none => .error (.key key)
  | .record subject fields => fieldOf subject fields key
  | .plain value => do return .plain (← needed value key)

/-- Follows keys one after the other. -/
def follow (whole : Attribute) : List String → Except Missing Attribute
  | [] => .ok whole
  | key :: rest => do follow (← step whole key) rest

end Attributes

end GraphScript
