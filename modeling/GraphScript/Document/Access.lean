import GraphScript.Document
import GraphScript.Act
import GraphScript.Text.Cut

/-!
# Looking into documents

Questions to a document of a kind that is not known.  A document that cannot answer a question gives
a fault.
-/

namespace GraphScript.Document

/-- The value of a field, and nothing where there is no such field. -/
def get (document : Document) (name : String) : Document := (document.field? name).getD .null

/-- The letters of a text; any other document has none. -/
def str : Document → String
  | .text value => value
  | _ => ""

/-- The items of a list; any other document has none. -/
def items : Document → List Document
  | .list items => items
  | _ => []

def strs (document : Document) : List String := document.items.map str

def truth : Document → Bool
  | .bool value => value
  | _ => false

def pairs (document : Document) : List (Document × Document) :=
  document.items.filterMap fun item => match item with
    | .list [first, second] => some (first, second)
    | _ => none

def demand (document : Document) (name : String) : Except Fault Document :=
  match document with
  | .record fields => orFault .missingKey (fields.lookup name)
  | _ => .error .badOperand

/-- Whether a record has a field, a list has a text as an item, or a text has a piece. -/
def has (document : Document) (name : String) : Except Fault Bool :=
  match document with
  | .record fields => .ok (fields.lookup name).isSome
  | .list items => .ok (items.any fun item => match item with
    | .text value => value == name
    | _ => false)
  | .text value => .ok (Text.holds name value)
  | _ => .error .badOperand

/-- The items of a list, the names of the fields of a record, or the letters of a text. -/
def iterated : Document → Except Fault (List Document)
  | .list items => .ok items
  | .record fields => .ok (fields.map fun field => .text field.1)
  | .text value => .ok (value.toList.map fun letter => .text (String.singleton letter))
  | _ => .error .badOperand

/-- Whether a document is neither null, false, zero nor empty. -/
def isGiven : Document → Bool
  | .null => false
  | .bool value => value
  | .whole value => value != 0
  | .fraction value => !value.isZero
  | .text value => value != ""
  | .list items => !items.isEmpty
  | .record fields => !fields.isEmpty

def asInt : Document → Except Fault Int
  | .whole value => .ok value
  | .bool value => .ok (if value then 1 else 0)
  | .fraction value =>
    if value.isNaN then .error .badValue
    else if value.isInfinite then .error (.accident .overflow)
    else .ok value.truncated
  | .text value => orFault .badValue (Numeral.readInt? value)
  | _ => .error .badOperand

def asText : Document → Except Fault String
  | .text value => .ok value
  | _ => .error .badOperand

end GraphScript.Document
