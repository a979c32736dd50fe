import GraphScript.Program.Constant

/-!
# Other formats of a program

Statements have no form as a document and cannot be made from nothing.  This module says with which
fault each kind of statement turns such a request down.
-/

namespace GraphScript.Program

def Form.isChecked : Form → Bool
  | .value .. | .emptyArray .. | .object .. | .enumeration .. | .access .. | .construct ..
  | .scope .. => false
  | .loop kind .. => kind == .doWhile
  | _ => true

def Statement.documentFault (statement : Statement) : Fault :=
  match statement.kindName? with
  | some kind => .unsupported kind
  | none => .missingMember

/-- The fault of making a statement of the same kind from nothing. -/
def Statement.creationFault : Statement → Fault
  | .empty => .missingMember
  | .make term => if term.form.isChecked then .badOperand else .unsupported "type"
  | .assignment .. => .unsupported "type"
  | .takeOver .. => .unsupported "type"

end GraphScript.Program
