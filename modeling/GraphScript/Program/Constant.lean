import GraphScript.Program.Term

/-!
# Constant terms

Whether a term is known before the graph runs.  For many kinds of terms the question is not
supported; the fault then names the kind.
-/

namespace GraphScript.Program

def Form.kindName : Form → String
  | .value .. => "Value"
  | .reference .. => "Variable"
  | .vector .. => "Vector"
  | .matrix .. => "Matrix"
  | .sheet .. => "Vector"
  | .array .. => "Array"
  | .emptyArray .. => "EmptyArray"
  | .object .. => "Object"
  | .enumeration .. => "Enum"
  | .not .. => "Not"
  | .negate .. => "Negate"
  | .binary .math .. => "MathOp"
  | .binary .power .. => "Pow"
  | .binary .logic .. => "Logic"
  | .comparison .. => "Compare"
  | .access .. => "AccessRHS"
  | .port .. => "AccessPort"
  | .associative .. => "CallAssociative"
  | .native .. => "CallNative"
  | .function .. => "CallScope"
  | .construct .. => "CallType"
  | .scope .. => "Scope"
  | .loop .forEach .. => "LoopForEach"
  | .loop .iterate .. => "LoopIterate"
  | .loop .doWhile .. => "LoopDoWhile"

def Term.kindName (term : Term) : String := term.form.kindName

/-- The name of the kind of a statement; the empty statement has none. -/
def Statement.kindName? : Statement → Option String
  | .empty => none
  | .make term => some term.kindName
  | .assignment .. => some "Assignment"
  | .takeOver .. => some "Using"

mutual

def Term.isConstant : Term → Except Fault Bool
  | .mk _ form => form.isConstant

def Form.isConstant : Form → Except Fault Bool
  | .value _ _ => .ok true
  | .array _ values => allConstant values
  | .emptyArray _ count => count.isConstant
  | .object entries => entriesConstant entries
  | .not _ value => value.isConstant
  | .negate _ value => value.isConstant
  | .binary _ _ _ left right => do
    if ← left.isConstant then right.isConstant else return false
  | .comparison _ _ operands => chainConstant operands
  | .associative _ _ arguments named _ _ =>
    if arguments.isEmpty && named.isEmpty then .ok true else .error .missingMember
  | .native _ arguments named _ _ _ _ =>
    if arguments.isEmpty && named.isEmpty then .ok true else .error .missingMember
  | .scope _ parameters _ _ _ => .ok !parameters.isEmpty
  | form => .error (.unsupported form.kindName)

/-- Whether all terms are constant; every one of them is asked. -/
def allConstant : List Term → Except Fault Bool
  | [] => .ok true
  | term :: rest => do
    let first ← term.isConstant
    let others ← allConstant rest
    return first && others

/-- Whether the operands of a chain of comparisons are constant, pair by pair. -/
def chainConstant : List Term → Except Fault Bool
  | [] => .ok true
  | [_] => .ok true
  | left :: right :: rest => do
    let pair ← if ← left.isConstant then right.isConstant else pure false
    let others ← chainConstant (right :: rest)
    return pair && others

/-- Whether the entries of an object are constant, up to the first that is not. -/
def entriesConstant : List Entry → Except Fault Bool
  | [] => .ok true
  | .mk key value :: rest => do
    if !(← key.isConstant) then return false
    if !(← value.isConstant) then return false
    entriesConstant rest

end

def Statement.isConstant : Statement → Except Fault Bool
  | .empty => .error .missingMember
  | .make term => term.isConstant
  | .assignment _ _ _ value => value.isConstant
  | .takeOver _ _ => .error (.unsupported "Using")

end GraphScript.Program
