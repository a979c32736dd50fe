import GraphScript.Proofs.Graph.Planting
import GraphScript.Proofs.Program.StraightLine

/-!
# Operators as nodes

What the operators of a program do is what the nodes of the graph compute, for every interpretation
of the nodes.  The table of signs says for each operator with two operands which node it is, and at
which ports the node takes the left and the right operand.
-/

namespace GraphScript.Emission

open Act (Yields)
open GraphScript.Graph Program

/-- The node of an operator with two operands. -/
structure Sign where
  kind : String
  /-- The port of the left operand. -/
  left : String
  /-- The port of the right operand. -/
  right : String
  output : String

namespace Sign

/-- A node with numbered ports. -/
def math (kind : String) : Sign := ⟨kind, "value0", "value1", "output"⟩

/-- A node of the logic library. -/
def logic (name : String) : Sign := ⟨logicKind name, "first", "second", "output"⟩

end Sign

/-- The operators with two operands. -/
def signs : List (String × Sign) :=
  [("+", .math "add"), ("-", .math "subtract"), ("*", .math "multiply"), ("/", .math "divide"),
    ("%", ⟨"modulo", "value", "divisor", "remainder"⟩),
    ("**", ⟨"power", "base", "exponent", "power"⟩), ("==", .logic "equal"),
    ("!=", .logic "not_equal"), (">=", .logic "greater_or_equal"), ("<=", .logic "less_or_equal"),
    (">", .logic "greater"), ("<", .logic "less"), ("&&", .logic "and"), ("||", .logic "or"),
    ("^", .logic "xor")]

def atPort {V : Type} (port : String) (value : V) : String → Option V :=
  fun name => if name = port then some value else none

/-- The values at two ports. -/
def atPorts {V : Type} (first : String) (left : V) (second : String) (right : V) :
    String → Option V :=
  fun name => if name = first then some left else if name = second then some right else none

/-- The kind of the node that converts a truth value to a number. -/
def conversionKind : String := "Core::Type_Conversion::to_char"

/-- What operators do when nodes have an interpretation. -/
def operatorsOf {V : Type} (registry : Overload.Registry) (nodes : Interpretation V) :
    Operators V where
  constant type literal :=
    nodes (constantKind type) (fun _ => none)
      (fun name => [("value", literalDatum literal)].lookup name) "output"
  opposite value := nodes (fullKind registry "not") (atPort "value" value) (fun _ => none) "output"
  negative value := nodes (fullKind registry "negate") (atPort "value" value)
    (fun _ => none) "negated"
  number value :=
    nodes (fullKind registry conversionKind) (atPort "from" value) (fun _ => none) "char"
  apply sign left right := (signs.lookup sign).map fun node =>
    nodes (fullKind registry node.kind) (atPorts node.left left node.right right) (fun _ => none)
      node.output

/-! ## Names of the nodes -/

/-- A word that a node can be named after. -/
def plainWord (name : String) : Bool :=
  !name.toList.contains '.' && name.toList.getLast?.all fun letter => !letter.isDigit

/-- The node of an operator with this name is named after a plain word. -/
def wellNamed (kind : String) : Bool :=
  if kind.toList.contains ',' then plainWord (Text.afterLast "," kind)
  else Text.splitLast "::".toList kind.toList = none &&
    Text.splitLast "::".toList ("::" ++ kind).toList = some ([], kind.toList) && plainWord kind

theorem tame_of_plainWord (plain : plainWord (Text.afterLast "," kind) = true) :
    Diagram.Tame kind := by
  simp only [plainWord, Bool.and_eq_true, Bool.not_eq_true', List.contains_eq_mem,
    decide_eq_false_iff_not, Option.all_eq_true] at plain
  exact ⟨plain.1, plain.2⟩

theorem tame_of_wellNamed (named : wellNamed kind = true) :
    Diagram.Tame (fullKind registry kind) := by
  apply tame_of_plainWord
  unfold wellNamed at named
  split at named
  case isTrue comma =>
    rw [fullKind, if_pos comma]
    exact named
  case isFalse noComma =>
    simp only [Bool.and_eq_true, decide_eq_true_eq] at named
    obtain ⟨⟨alone, marked⟩, plain⟩ := named
    have last : Text.afterLast "," (fullKind registry kind) = kind ∨ _ = _ :=
      lastPart_short (by simpa using noComma) alone marked
    rcases last with same | same
    · rw [same]
      exact plain
    · rw [same]
      decide

theorem tame_sign (found : signs.lookup sign = some node) :
    Diagram.Tame (fullKind registry node.kind) := by
  have all : ∀ entry ∈ signs, wellNamed entry.2.kind = true := by decide
  obtain ⟨_, _, same, -⟩ := List.lookup_eq_some_iff.mp found
  exact tame_of_wellNamed (all (sign, node) (by simp [same]))

theorem tame_conversion : Diagram.Tame (fullKind registry conversionKind) := by
  apply tame_of_plainWord
  have last : Text.afterLast "," (fullKind registry conversionKind) = _ ∨ _ = _ :=
    lastPart_fullKind (by decide) (by decide) (by decide)
  rcases last with same | same
  · rw [same]
    decide
  · rw [same]
    decide

/-! ## Planting the nodes -/

theorem planted_logicNode (counted : before.Counted)
    (contexts : before.contexts = .path place :: outside)
    (run : Yields (logicNode name (.path left) (.path right)) before port after) :
    Planted before after place (fullKind before.registry (logicKind name)) []
      [(left, "first"), (right, "second")] "output" port :=
  planted_wiredNode [(left, "first"), (right, "second")] counted contexts
    (numbered_of_comma (comma_append (by decide) name)) run

theorem planted_operatorNode (counted : before.Counted)
    (contexts : before.contexts = .path place :: outside)
    (run : Yields (operatorNode sign left right) before port after) :
    ∃ node, signs.lookup sign = some node ∧
      Planted before after place (fullKind before.registry node.kind) []
        [(left, node.left), (right, node.right)] node.output port := by
  unfold operatorNode at run
  split at run
  case h_1 | h_2 | h_3 | h_4 =>
    exact ⟨_, rfl, planted_collectingNode [left, right] counted contexts (by decide) run⟩
  case h_5 =>
    exact ⟨_, rfl, planted_wiredNode [(left, "value"), (right, "divisor")] counted contexts
      (by decide) run⟩
  case h_6 =>
    exact ⟨_, rfl, planted_wiredNode [(left, "base"), (right, "exponent")] counted contexts
      (by decide) run⟩
  case h_16 => exact run.throw
  all_goals exact ⟨_, rfl, planted_logicNode counted contexts run⟩

end GraphScript.Emission
