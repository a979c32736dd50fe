import GraphScript.Emission.Wiring

/-!
# Straight-line code

A term is a calculation when it is made of numbers, truth values, variables and operators.  Code is
straight-line when each of its statements assigns a calculation to one variable or result.  What
such code means is said without any graph: the assignments are run one after the other on a store,
for any values and any operators on them.  A chain of comparisons is the conjunction of the
comparisons of its neighbours.
-/

namespace GraphScript.Program

/-- What operators do with values. -/
structure Operators (V : Type) where
  /-- The value of a constant of a type. -/
  constant (type : String) (literal : Literal) : V
  opposite (value : V) : V
  negative (value : V) : V
  /-- The number that a truth value counts as. -/
  number (value : V) : V
  /-- What an operator with two operands makes of them, if there is such an operator. -/
  apply (sign : String) (left right : V) : Option V

/-- The signs of the operators on truth values. -/
def logicSigns : List String := ["&&", "||", "^"]

/-- The types of constants that are numbers or truth values. -/
def scalarNames : List String :=
  ["bool", "float", "double", "uchar", "char", "ushort", "short", "uint", "int", "ulong", "long"]

/-- Whether a literal is a number; truth values are the numbers zero and one. -/
def Literal.isNumber : Literal → Bool
  | .whole _ => true
  | .fraction _ => true
  | _ => false

/-- Whether values of a type can be calculated with: they are neither nodes nor texts. -/
def calculable (type : PortType) : Bool :=
  !type.isNode && match type.isString with
    | .ok isString => !isString
    | .error _ => true

mutual

def Term.isCalculation : Term → Bool
  | .mk _ form => form.isCalculation

def Form.isCalculation : Form → Bool
  | .value literal type => literal.isNumber && scalarNames.contains type.name
  | .reference _ type => calculable type
  | .not type value => calculable type && value.isCalculation
  | .negate type value => calculable type && value.isCalculation
  | .binary _ _ type left right => calculable type && left.isCalculation && right.isCalculation
  | .comparison _ type operands => calculable type && areCalculations operands
  | _ => false

def areCalculations : List Term → Bool
  | [] => true
  | term :: rest => term.isCalculation && areCalculations rest

end

/-- The variable or result that a target is as a whole. -/
def Target.name? : Target → Option String
  | .declared name _ => some name
  | .reference name _ => some name
  | _ => none

/-- The variable that a target declares. -/
def Target.declared? : Target → Option String
  | .declared name _ => some name
  | _ => none

/-- The variables that a statement declares. -/
def Statement.declares : Statement → List String
  | .assignment _ targets _ _ => targets.filterMap Target.declared?
  | _ => []

/-- Whether a statement assigns a calculation to one variable or result. -/
def Statement.isStraight : Statement → Bool
  | .assignment _ [target] operator value =>
    target.name?.isSome && operator == "=" && value.isCalculation
  | _ => false

/-- Whether a parameter has no default, or one that is a calculation. -/
def Parameter.isStraight : Parameter → Bool
  | .mk _ _ none => true
  | .mk _ _ (some value) => value.isCalculation

/-- The header and the code of a compound are straight-line. -/
structure Straight (parameters : List Parameter) (code : List Statement) : Prop where
  parameters : ∀ parameter ∈ parameters, parameter.isStraight = true
  code : ∀ statement ∈ code, statement.isStraight = true

/-! ## Running code -/

variable (operators : Operators V)

/-- The values of variables. -/
abbrev Store (V : Type) : Type := String → Option V

/-- The store that has only the parameters of a compound. -/
def Store.of (names : List String) (arguments : String → V) : Store V :=
  fun name => if name ∈ names then some (arguments name) else none

/-- The store after an assignment. -/
def Store.set (store : Store V) (name : String) (value : V) : Store V :=
  fun other => if other = name then some value else store other

/-- The number that the value of an operand counts as: a truth value is converted. -/
def Operators.counted (operators : Operators V) (operand : Term) (value : V) : V :=
  match operand.type >>= Emission.isTruthType with
  | .ok true => operators.number value
  | _ => value

/-- The conjunction of truth values, from the left. -/
def Operators.all (operators : Operators V) : List V → Option V
  | [] => none
  | first :: rest => rest.foldlM (operators.apply "&&") first

mutual

/-- The value of a calculation. -/
def Term.valueIn (store : Store V) : Term → Option V
  | .mk _ form => form.valueIn store

def Form.valueIn (store : Store V) : Form → Option V
  | .value literal type => some (operators.constant type.name literal)
  | .reference name _ => store name
  | .not _ value => do return operators.opposite (← value.valueIn store)
  | .negate _ value => do return operators.negative (← value.valueIn store)
  | .binary _ sign _ left right => do
    let first ← left.valueIn store
    let second ← right.valueIn store
    if logicSigns.contains sign then operators.apply sign first second
    else operators.apply sign (operators.counted left first) (operators.counted right second)
  | .comparison signs _ (first :: rest) => do
    let value ← first.valueIn store
    operators.all (← comparisonsIn store value signs rest)
  | _ => none

/-- The comparisons of neighbours; the first value is that of the operand before. -/
def comparisonsIn (store : Store V) (value : V) : List String → List Term → Option (List V)
  | sign :: signs, next :: rest => do
    let following ← next.valueIn store
    let first ← operators.apply sign value following
    return first :: (← comparisonsIn store following signs rest)
  | _, _ => some []

end

def Statement.run (store : Store V) : Statement → Option (Store V)
  | .assignment _ [target] _ value => do
    let name ← target.name?
    return store.set name (← value.valueIn operators store)
  | _ => none

/-- The store after statements that are run one after the other. -/
def runAll (store : Store V) : List Statement → Option (Store V)
  | [] => some store
  | statement :: rest => do runAll (← statement.run operators store) rest

end GraphScript.Program
