import GraphScript.Grammar.ParseTable
import GraphScript.Language.Lexer

/-!
# The rules of the language

Every rule lists its alternatives.  A symbol of one character is that character itself, a word in
capitals is a kind of token, and any other word is a rule.  Rules with `_BAD_` in their names
describe frequent mistakes; meeting one ends the reading with a message.
-/

namespace GraphScript.Language

/-- A loop, with its result before or after the closing bracket. -/
def loopForms (start result stop : String) : List String :=
  [start ++ " terminal ( loop_parameters " ++ result ++
    " ) loop_settings \x7b statement_list \x7d" ++ stop,
    start ++ " terminal ( loop_parameters ) loop_settings " ++ result ++
      " \x7b statement_list \x7d" ++ stop]

/-- Values in curly brackets, with the brackets that name a type of components and the one that does
not. -/
def closedForms (values : String) : List String :=
  (["R_CURLY_BOOL", "R_CURLY_FLOAT", "R_CURLY_DOUBLE", "R_CURLY_UNSIGNED_CHAR",
    "R_CURLY_UNSIGNED_SHORT", "R_CURLY_UNSIGNED_INT", "R_CURLY_UNSIGNED_LONG",
    "R_CURLY_UNSIGNED_NATURAL", "R_CURLY_CHAR", "R_CURLY_SHORT", "R_CURLY_INT", "R_CURLY_LONG",
      "\x7d"]).map fun closing =>
      "\x7b " ++ values ++ " " ++ closing

/-- The rules in their written order. -/
def rules : List (String × List String) :=
  [("program", ["execs", "EMPTY"]),
   ("execs", ["execs exec", "exec"]),
   ("exec", ["function", "compound", "overload", "import"]),
   ("statement_list", ["statement_list statement", "statement", "EMPTY"]),
   ("statement", ["compound", "loop", "using", "assignment", "call ;", ";", "statement_BAD_1"]),
   ("statement_BAD_1", ["expression ;"]),
   ("import", ["IMPORT STRING ;", "IMPORT STRING AS namespace_name ;",
     "IMPORT STRING AS STRING ;", "import_BAD_1"]),
   ("import_BAD_1", ["IMPORT STRING", "IMPORT STRING AS namespace_name",
     "IMPORT STRING AS STRING"]),
   ("using", ["USING RESULT loop", "USING RESULT compound"]),
   ("assignment", ["assignment_lhs_list = loop", "assignment_lhs_list = compound",
     "assignment_lhs_list = expression ;", "assignment_lhs_list WALRUS loop",
     "assignment_lhs_list WALRUS compound", "assignment_lhs_list WALRUS expression ;",
     "assignment_BAD_1"]),
   ("assignment_BAD_1", ["access_lhs"]),
   ("assignment_lhs_list", ["assignment_lhs_list , assignment_lhs_one", "assignment_lhs_one"]),
   ("assignment_lhs_one", ["access_lhs", "type name", "name", "IGNORE"]),
   ("compound", ["COMPOUND name unnamed_scope ;", "COMPOUND name unnamed_scope",
     "COMPOUND unnamed_scope ;", "COMPOUND unnamed_scope"]),
   ("unnamed_scope", ["terminal ( scope_parameters scope_result ) \x7b statement_list \x7d",
     "terminal ( scope_parameters ) scope_result \x7b statement_list \x7d"]),
   ("scope_result", ["RESULT scope_result_list", "EMPTY"]),
   ("scope_result_list", ["scope_result_list , scope_result_one", "scope_result_one"]),
   ("scope_result_one", ["defined_port_type name feedback", "defined_port_type name",
     "scope_result_BAD_1", "scope_result_BAD_2", "scope_result_BAD_3"]),
   ("scope_result_BAD_1", ["defined_port_type name index", "name index"]),
   ("scope_result_BAD_2", ["type_auto name"]),
   ("scope_result_BAD_3", ["type_node name"]),
   ("scope_parameter_one", ["defined_port_type name = expression", "defined_port_type name",
     "scope_parameter_BAD_1", "scope_parameter_BAD_2"]),
   ("scope_parameter_BAD_1", ["type_node name"]),
   ("scope_parameter_BAD_2", ["type_auto name"]),
   ("scope_parameter_list", ["scope_parameter_list , scope_parameter_one", "scope_parameter_one"]),
   ("scope_parameters", ["scope_parameter_list", "EMPTY"]),
   ("overload_arr_dim", ["ARR_DIM_1", "[ 1 ]", "[ 2 ]", "[ 3 ]"]),
   ("overload_type", ["overload_type | defined_port_type", "overload_type | MUL",
     "overload_type | overload_arr_dim", "defined_port_type", "MUL", "overload_arr_dim"]),
   ("overload_type_one", ["overload_type", "name = overload_type"]),
   ("overload_type_list", ["overload_type_list , overload_type_one", "overload_type_one"]),
   ("overload_input", ["overload_type_list"]),
   ("overload_result", ["RESULT overload_type_list", "EMPTY"]),
   ("overload", ["OVERLOAD terminal namespace_name ( overload_input overload_result ) ;",
     "OVERLOAD terminal namespace_name ( overload_input ) overload_result ;", "overload_BAD_1"]),
   ("overload_BAD_1", ["OVERLOAD terminal namespace_name ( overload_input ) overload_result"]),
   ("function", ["FUNCTION namespace_name unnamed_scope"]),
   ("loop", ["for_each", "for_each ;", "iterate", "iterate ;", "do_while", "do_while ;"]),
   ("max_iterations", ["LT expression"]),
   ("current_index", ["index LT name GE expression", "index = expression"]),
   ("safe_loop_settings", ["max_iterations , current_index", "max_iterations"]),
   ("loop_settings", ["safe_loop_settings", ", current_index", "current_index", "EMPTY"]),
   ("loop_parameters", ["loop_parameter_list", "EMPTY"]),
   ("loop_parameter_list", ["loop_parameter_list , loop_parameter_one", "loop_parameter_one"]),
   ("loop_parameter_one", ["port_type name index = expression", "port_type name = expression",
     "name index", "name", "loop_parameter_BAD_1", "loop_parameter_BAD_2"]),
   ("loop_parameter_BAD_1", ["port_type name feedback", "name feedback"]),
   ("loop_parameter_BAD_2", ["type_node name"]),
   ("for_each", loopForms "_for_each" "for_each_result" ""),
   ("_for_each", ["FOREACH", "FOR_EACH"]),
   ("for_each_result", ["RESULT for_each_result_list", "EMPTY"]),
   ("for_each_result_list", ["for_each_result_list , for_each_result_one", "for_each_result_one"]),
   ("for_each_result_one", ["type_auto name index", "type_auto name", "type_array name index",
     "type_array name", "for_each_result_one_BAD_1", "for_each_result_one_BAD_2"]),
   ("for_each_result_one_BAD_1", ["type_base name"]),
   ("for_each_result_one_BAD_2", ["type_node name"]),
   ("iterate", loopForms "ITERATE" "iterate_result" ""),
   ("iterate_result", ["RESULT iterate_result_list", "EMPTY"]),
   ("iterate_result_list", ["iterate_result_list , iterate_result_one", "iterate_result_one"]),
   ("iterate_result_one", ["port_type name index", "port_type name feedback",
     "iterate_result_one_BAD_1", "iterate_result_one_BAD_2"]),
   ("iterate_result_one_BAD_1", ["port_type name"]),
   ("iterate_result_one_BAD_2", ["type_node name"]),
   ("do_while", ["DO", "NOLIMIT DO"].flatMap fun start =>
     [" WHILE ( expression )", " WHILE ( expression ; )"].flatMap
       (loopForms start "do_while_result")),
   ("do_while_result", ["RESULT do_while_result_list", "EMPTY"]),
   ("do_while_result_list", ["do_while_result_list , do_while_result_one", "do_while_result_one"]),
   ("do_while_result_one", ["port_type name feedback", "port_type name"]),
   ("call", ["namespace_name terminal ( call_arguments )", "type_base \x7b call_arguments \x7d"]),
   ("call_arguments", ["call_argument_list", "EMPTY"]),
   ("call_argument_list", ["call_argument_list , call_argument_one", "call_argument_one"]),
   ("call_argument_one", ["name = expression", "name = defined_port_type", "expression",
     "defined_port_type"]),
   ("expression", ["expression_logic"]),
   ("expression_logic", ["expression_logic AND expression_cmp",
     "expression_logic OR expression_cmp", "expression_logic XOR expression_cmp",
     "expression_cmp"]),
   ("expression_cmp", ["expression_cmp EQ expression_add", "expression_cmp NE expression_add",
     "expression_cmp GE expression_add", "expression_cmp GT expression_add",
     "expression_cmp LE expression_add", "expression_cmp LT expression_add", "expression_add"]),
   ("expression_add", ["expression_add ADD expression_mul", "expression_add SUB expression_mul",
     "expression_mul"]),
   ("expression_mul", ["expression_mul MUL expression_pow", "expression_mul DIV expression_pow",
     "expression_mul MOD expression_pow", "expression_pow"]),
   ("expression_pow", ["expression_unary POW expression_pow", "expression_unary"]),
   ("expression_unary", ["NOT expression_unary", "ADD expression_unary", "SUB expression_unary",
     "atom"]),
   ("atom", ["enum", "access_port", "access_rhs", "atom_small"]),
   ("atom_small", ["call", "name", "value", "( expression )"]),
   ("enum", ["ENUM_VALUE", "enum_BAD_1"]),
   ("enum_BAD_1", ["TYPE . NAME"]),
   ("_access_expression", ["[ expression ]"]),
   ("_access_rhs_slice", ["[ expression : expression : expression ]",
     "[ expression : : expression ]", "[ expression : expression ]", "[ expression : ]",
     "[ : expression : expression ]", "[ : : expression ]", "[ : expression ]",
     "_access_rhs_slice_BAD_1"]),
   ("_access_rhs_slice_BAD_1", ["[ : ]"]),
   ("_access_rhs_default", ["[ expression , expression ]", "[ expression , type ]"]),
   ("access_lhs", ["name _access_expression", "name _access_lhs_dot", "_access_lhs_BAD_1"]),
   ("_access_lhs_BAD_1", ["name _access_rhs_slice"]),
   ("_access_lhs_dot", ["_access_lhs_dot . name", ". name"]),
   ("access_rhs", ["atom_small _access_rhs"]),
   ("_access_rhs", ["_access_rhs _access_rhs_default", "_access_rhs _access_rhs_slice",
     "_access_rhs _access_expression", "_access_rhs _access_rhs_dot", "_access_rhs_default",
     "_access_rhs_slice", "_access_expression", "_access_rhs_dot"]),
   ("_access_rhs_dot", ["_access_rhs_dot . name", ". name"]),
   ("access_port", ["call point_to_port", "name point_to_port"]),
   ("point_to_port", ["point_to_port POINT_TO name", "POINT_TO name"]),
   ("name", ["$ NAME", "NAME"]),
   ("namespace_name", ["NAMESPACE_NAME", "NAME"]),
   ("feedback", ["STATE NAME"]),
   ("terminal", ["LT NAME GT", "LT GT", "EMPTY"]),
   ("type", ["type_auto", "type_array", "type_node", "type_base", "type_enum"]),
   ("port_type", ["type_auto", "type_array", "type_base", "type_enum"]),
   ("defined_port_type", ["type_array", "type_base", "type_enum"]),
   ("type_enum", ["ENUM"]),
   ("type_base", ["TYPE"]),
   ("type_array", ["type_base ARR_DIM_3", "type_base ARR_DIM_2", "type_base ARR_DIM_1",
     "type_enum ARR_DIM_3", "type_enum ARR_DIM_2", "type_enum ARR_DIM_1"]),
   ("type_auto", ["AUTO"]),
   ("type_node", ["NODE"]),
   ("value", ["string", "index", "bool", "numeric", "vector", "matrix", "object", "array"]),
   ("string", ["STRING"]),
   ("index", ["INDEX"]),
   ("bool", ["TRUE", "FALSE"]),
   ("numeric", ["some_float", "some_int"]),
   ("some_float", ["float", "double"]),
   ("float", ["FLOAT"]),
   ("double", ["DOUBLE", "FRACTIONAL"]),
   ("some_int", ["ulong", "uint", "ushort", "uchar", "long", "short", "char", "int"]),
   ("ulong", ["UNSIGNED_LONG", "UNSIGNED_NATURAL"]),
   ("ushort", ["UNSIGNED_SHORT"]),
   ("uchar", ["UNSIGNED_CHAR"]),
   ("uint", ["UNSIGNED_INT"]),
   ("long", ["LONG", "NATURAL"]),
   ("int", ["INT"]),
   ("short", ["SHORT"]),
   ("char", ["CHAR"]),
   ("vector", closedForms "_vector"),
   ("_vector", ["expression , expression , expression , expression",
     "expression , expression , expression", "expression , expression"]),
   ("matrix", closedForms "_matrix"),
   ("_matrix", ["_matrix_col | _matrix_col | _matrix_col | _matrix_col",
     "_matrix_col | _matrix_col | _matrix_col", "_matrix_col | _matrix_col"]),
   ("_matrix_col", ["expression , expression , expression , expression",
     "expression , expression , expression", "expression , expression", "expression"]),
   ("array", ["[ port_type , expression ]", "[ port_type ]", "[ _array ]"]),
   ("_array", ["_array , expression", "expression"]),
   ("object", ["\x7b _object \x7d", "\x7b EMPTY \x7d"]),
   ("_object", ["_object , atom = expression", "_object , atom : expression", "atom = expression",
     "atom : expression"])]

def strayNode : String := "Passing variables of type 'NODE' to another scope is not allowed!"

def mistakeMessages : List (String × String) :=
  [("statement_BAD_1", "Expression cannot stand by itself!"),
   ("import_BAD_1", "Missing \";\""),
   ("assignment_BAD_1",
     "Missing RHS of assignment. If this is meant to be an expression, use `... = " ++
       "\x7bexpression\x7d ;`"),
   ("scope_result_BAD_1", "Iteration target only allowed in loops"),
   ("scope_result_BAD_2", "Scope results cannot be 'AUTO'"),
   ("scope_result_BAD_3", strayNode),
   ("scope_parameter_BAD_1", strayNode),
   ("scope_parameter_BAD_2", "Scope parameters cannot be 'AUTO'"),
   ("overload_BAD_1", "Missing \";\" at end of the line."),
   ("loop_parameter_BAD_1", "Port state only allowed in result. Missing '=>'?"),
   ("loop_parameter_BAD_2", strayNode),
   ("for_each_result_one_BAD_1", "for_each results must be at least 1D arrays!"),
   ("for_each_result_one_BAD_2", strayNode),
   ("iterate_result_one_BAD_1", "Must be state port (@<port>) or iteration target (#)"),
   ("iterate_result_one_BAD_2", strayNode),
   ("enum_BAD_1", "Not a valid enum"),
   ("_access_rhs_slice_BAD_1", "'[:]' expression is not supported since its redundant"),
   ("_access_lhs_BAD_1", "Assigning to slice is not supported")]

def mistakeMark : String := "_BAD_"

/-- The symbol that stands for nothing. -/
def emptyName : String := "EMPTY"

/-- The rule that a script must follow. -/
def startName : String := "program"

/-- Every alternative of every rule, under a label that the numbering follows. -/
def labelledAlternatives : List (String × String × List String) :=
  rules.flatMap fun (name, alternatives) =>
    alternatives.zipIdx.map fun (alternative, position) =>
      (name ++ "_" ++ toString position, name, Text.parts ' ' alternative)

/-- The alternatives in the order of their labels. -/
def orderedAlternatives : List (String × List String) :=
  (labelledAlternatives.mergeSort fun left right => !(right.1 < left.1)).map (·.2)

def production (number : Nat) (name : String) (symbols : List String) (line : Int) :
    Grammar.Production :=
  ⟨number, name, symbols, .none, none, "", line⟩

/-- The productions: the root, the empty symbol, and then the alternatives. -/
def productions : List Grammar.Production :=
  production 0 Grammar.rootName [startName] 0 :: production 1 emptyName [] 0 ::
    orderedAlternatives.zipIdx.map fun ((name, symbols), position) =>
      production (position + 2) name symbols 1

def ruleNames : List String := emptyName :: rules.map (·.1)

/-- The symbols of the rules that are no rules themselves. -/
def terminals : List String :=
  Grammar.Production.distinct ((orderedAlternatives.flatMap (·.2)).filter fun symbol =>
    !ruleNames.contains symbol)

def grammar : Grammar.Rules where
  productions := productions.toArray
  terminals := terminals
  nonterminals := ruleNames
  ranks := .empty

def table : Grammar.ParseTable :=
  match Grammar.ParseTable.build grammar with
  | .ok table => table
  | .error _ => ⟨grammar, ⟨#[], #[], ∅⟩, #[], #[], #[]⟩

end GraphScript.Language
