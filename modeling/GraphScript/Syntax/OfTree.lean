import GraphScript.Syntax.Statement

/-!
# From syntax trees to syntax

Every rule of the grammar has a builder that makes a piece of syntax from the pieces of its parts.
A tree is read from its leaves upwards.
-/

namespace GraphScript.Syntax

open GraphScript.Language (Tree)

/-- What a syntax tree stands for. -/
inductive Piece where
  | token (text : String)
  /-- The empty symbol. -/
  | nothing
  | word (name : String)
  | type (name : String)
  | flags (flags : Flags)
  | expr (expr : Expr)
  | exprs (exprs : List Expr)
  | columns (columns : List (List Expr))
  | comparison (operators : List String) (operands : List Expr)
  | entries (entries : List Entry)
  | accessor (accessor : Accessor)
  | chain (chain : Chain)
  | call (call : Call)
  | argument (argument : Argument)
  | arguments (listSpot : Tree) (arguments : List Argument)
  | parameter (parameter : Parameter)
  | parameters (parameters : List Parameter)
  | result (result : Result)
  | results (results : Results)
  | loopParameter (parameter : LoopParameter)
  | loopParameters (parameters : List LoopParameter)
  | index (setting : IndexSetting)
  | settings (settings : LoopSettings)
  | target (target : Target)
  | targets (targets : List Target)
  | block (block : Block)
  | loop (loop : Loop)
  | statement (statement : Statement)
  | statements (statements : List Statement)
  | overloadPort (port : OverloadPort)
  | overloadPorts (ports : List OverloadPort)
  | types (names : List String)
  | exec (exec : Exec)
  | execs (execs : List Exec)

/-- A piece together with its tree. -/
structure Part where
  tree : Tree
  piece : Piece

namespace Part

def expr? (part : Part) : Option Expr :=
  match part.piece with
  | .expr expr => some expr
  | .comparison [] [operand] => some operand
  | .comparison operators operands => some (.comparison part.tree operators operands)
  | _ => none

def word? (part : Part) : Option String :=
  match part.piece with
  | .word name => some name
  | .token text => some text
  | _ => none

def passed? (part : Part) : Option Passed :=
  match part.piece with
  | .type name => some (.type name)
  | _ => part.expr?.map .value

def maker? (part : Part) : Option Maker :=
  match part.piece with
  | .block block => some (.block block)
  | .loop loop => some (.loop loop)
  | _ => part.expr?.map .expr

def bound? (part : Part) : Option Bound := part.expr?.map (Bound.mk part.tree)

def isToken (text : String) (part : Part) : Bool :=
  match part.piece with
  | .token other => other == text
  | _ => false

end Part

/-- Makes a piece from the parts of a rule. -/
abbrev Builder : Type := Tree → List Part → Option Piece

namespace Builder

/-! ## Names, types, flags -/

/-- A rule that only names another one. -/
def same : Builder
  | _, [part] => some part.piece
  | _, _ => none

/-- The same, where the part can be empty. -/
def orNothing (empty : Piece) : Builder
  | _, [⟨_, .nothing⟩] => some empty
  | _, [part] => some part.piece
  | _, _ => none

/-- The last part as a name. -/
def lastWord : Builder := fun _ parts => do return .word (← (← parts.getLast?).word?)

/-- A path: names with a mark between them. -/
def path : Builder
  | _, [_, name] => do return .word (← name.word?)
  | _, [front, _, name] => do return .word ((← front.word?) ++ "." ++ (← name.word?))
  | _, _ => none

def plainType : Builder
  | _, [part] => do return .type (← part.word?)
  | _, _ => none

/-- An array type: a type and its pairs of brackets. -/
def arrayType : Builder
  | _, [⟨_, .type name⟩, brackets] => do
    let levels := Text.occurrences '[' (← brackets.word?)
    return .type (Text.repeated levels "array<" ++ name ++ Text.repeated levels ">")
  | _, _ => none

def flags : Builder
  | tree, [_] => some (.flags ⟨tree, none⟩)
  | tree, [_, _] => some (.flags ⟨tree, some none⟩)
  | tree, [_, name, _] => do return .flags ⟨tree, some (some (← name.word?))⟩
  | _, _ => none

/-! ## Expressions -/

def text : Builder
  | _, [part] => do return .expr (.text part.tree (← part.word?))
  | _, _ => none

def truth : Builder
  | _, [part] => do return .expr (.truth ((← part.word?) == "true"))
  | _, _ => none

def number (type letters : String) : Builder
  | _, [part] => do return .expr (.number type letters (← part.word?))
  | _, _ => none

def value : Builder
  | _, [⟨tree, .nothing⟩] => some (.expr (.index tree))
  | _, [part] => do return .expr (← part.expr?)
  | _, _ => none

def enumeration : Builder
  | _, [part] => do return .expr (.enumeration (← part.word?))
  | _, _ => none

/-- A small expression: a call, a name, a value, or an expression in brackets. -/
def small : Builder
  | _, [⟨_, .call call⟩] => some (.expr (.call call))
  | _, [⟨tree, .word name⟩] => some (.expr (.name tree name))
  | _, [part] => do return .expr (← part.expr?)
  | _, [_, part, _] => do return .expr (← part.expr?)
  | _, _ => none

/-- A rule whose only part is an expression. -/
def inner : Builder
  | _, [part] => do return .expr (← part.expr?)
  | _, _ => none

def binary (kind : OperatorKind) : Builder
  | _, [part] => do return .expr (← part.expr?)
  | tree, [left, operator, right] => do
    return .expr (.binary tree kind (← operator.word?) (← left.expr?) (← right.expr?))
  | _, _ => none

def comparison : Builder
  | _, [part] => do return .comparison [] [← part.expr?]
  | _, [⟨_, .comparison operators operands⟩, operator, right] => do
    return .comparison (operators ++ [← operator.word?]) (operands ++ [← right.expr?])
  | _, _ => none

def unary : Builder
  | _, [part] => do return .expr (← part.expr?)
  | tree, [operator, part] => do
    return .expr (.unary tree (← operator.word?) (← part.expr?))
  | _, _ => none

def everySecond : List Part → Option (List Expr)
  | [] => some []
  | [part] => do return [← part.expr?]
  | part :: _ :: rest => do return (← part.expr?) :: (← everySecond rest)

def separated : Builder := fun _ parts => do return .exprs (← everySecond parts)

def bracketed : Builder
  | tree, [_, ⟨_, .exprs values⟩, closing] => do
    return .expr (.vector tree values (← closing.word?))
  | tree, [_, ⟨_, .columns columns⟩, closing] => do
    return .expr (.matrix tree columns (← closing.word?))
  | _, _ => none

def columnsOf : List Part → Option (List (List Expr))
  | [] => some []
  | [⟨_, .exprs column⟩] => some [column]
  | ⟨_, .exprs column⟩ :: _ :: rest => do return column :: (← columnsOf rest)
  | _ => none

def matrixColumns : Builder := fun _ parts => do return .columns (← columnsOf parts)

def elements : Builder
  | _, [part] => do return .exprs [← part.expr?]
  | _, [⟨_, .exprs front⟩, _, part] => do return .exprs (front ++ [← part.expr?])
  | _, _ => none

def array : Builder
  | _, [_, ⟨tree, .exprs values⟩, _] => some (.expr (.array tree values))
  | tree, [_, ⟨_, .type name⟩, _] => some (.expr (.emptyArray tree name none))
  | tree, [_, ⟨_, .type name⟩, _, count, _] => do
    return .expr (.emptyArray tree name (some (← count.expr?)))
  | _, _ => none

def entries : Builder
  | _, [key, _, value] => do
    return .entries [.mk (← key.expr?) (← value.expr?) key.tree value.tree]
  | _, [⟨tree, .entries front⟩, _, key, _, value] => do
    return .entries (front ++ [.mk (← key.expr?) (← value.expr?) tree key.tree])
  | _, _ => none

def object : Builder
  | _, [_, ⟨_, .nothing⟩, _] => some (.expr (.object []))
  | _, [_, ⟨_, .entries entries⟩, _] => some (.expr (.object entries))
  | _, _ => none

/-! ## Accesses -/

def indexAccess : Builder
  | _, [_, part, _] => do return .accessor (.index (← part.expr?))
  | _, _ => none

def slice : Builder := fun _ parts =>
  match parts with
  | [_, start, _, stop, _, step, _] => do
    return .accessor (.slice (← start.bound?) (← stop.bound?) (← step.bound?))
  | [_, first, second, third, fourth, _] =>
    if first.isToken ":" then do
      let _ := third
      return .accessor (.slice none (← second.bound?) (← fourth.bound?))
    else do return .accessor (.slice (← first.bound?) none (← fourth.bound?))
  | [_, first, _, third, _] =>
    if first.isToken ":" then do return .accessor (.slice none none (← third.bound?))
    else do return .accessor (.slice (← first.bound?) (← third.bound?) none)
  | [_, first, second, _] =>
    if first.isToken ":" then do return .accessor (.slice none (← second.bound?) none)
    else do return .accessor (.slice (← first.bound?) none none)
  | _ => none

/-- A key with a default. -/
def defaultAccess : Builder
  | _, [bracket, key, _, default, _] => do
    return .accessor (.orDefault bracket.tree (← key.expr?) (← default.passed?))
  | _, _ => none

def accessor? (part : Part) : Option Accessor :=
  match part.piece with
  | .accessor accessor => some accessor
  | .word path => some (.member path)
  | _ => none

def chain : Builder
  | _, [part] => do return .chain (.one (← accessor? part))
  | _, [⟨_, .chain front⟩, part] => do return .chain (.more front (← accessor? part))
  | _, _ => none

def access : Builder
  | tree, [base, ⟨_, .chain chain⟩] => do return .expr (.access tree (← base.expr?) chain)
  | _, _ => none

def port : Builder
  | tree, [⟨_, .call call⟩, path] => do return .expr (.portOfCall tree call (← path.word?))
  | tree, [⟨_, .word name⟩, path] => do return .expr (.portOfName tree name (← path.word?))
  | _, _ => none

/-! ## Calls -/

def argument : Builder
  | tree, [part] => do return .argument (.mk tree none (← part.passed?))
  | tree, [name, _, part] => do return .argument (.mk tree (some (← name.word?)) (← part.passed?))
  | _, _ => none

def argumentList : Builder
  | tree, [⟨_, .argument argument⟩] => some (.arguments tree [argument])
  | tree, [⟨_, .arguments _ front⟩, _, ⟨_, .argument argument⟩] =>
    some (.arguments tree (front ++ [argument]))
  | _, _ => none

def arguments : Builder := fun tree => orNothing (.arguments tree []) tree

def call : Builder
  | tree, [name, ⟨_, .flags flags⟩, _, ⟨_, .arguments listSpot items⟩, _] => do
    return .call (.operator tree name.tree (← name.word?) flags listSpot items)
  | tree, [⟨_, .type type⟩, _, ⟨_, .arguments listSpot items⟩, _] =>
    some (.call (.construct tree type listSpot items))
  | _, _ => none

/-! ## Scopes -/

def parameter : Builder
  | tree, [⟨_, .type type⟩, name] => do
    return .parameter ⟨tree, tree, type, ← name.word?, none⟩
  | tree, [⟨_, .type type⟩, name, _, value] => do
    return .parameter ⟨tree, tree, type, ← name.word?, some (← value.expr?)⟩
  | _, _ => none

def parameterList : Builder
  | tree, [⟨_, .parameter parameter⟩] => some (.parameters [{ parameter with listSpot := tree }])
  | tree, [⟨_, .parameters front⟩, _, ⟨_, .parameter parameter⟩] =>
    some (.parameters (front ++ [{ parameter with listSpot := tree }]))
  | _, _ => none

def parameters : Builder := orNothing (.parameters [])

/-- One result: a type, a name, and a mark or a fed back parameter. -/
def result : Builder
  | tree, [⟨_, .type type⟩, name] => do return .result ⟨tree, type, ← name.word?, false, none⟩
  | tree, [⟨_, .type type⟩, name, ⟨_, .word feedback⟩] => do
    return .result ⟨tree, type, ← name.word?, false, some feedback⟩
  | tree, [⟨_, .type type⟩, name, ⟨_, .nothing⟩] => do
    return .result ⟨tree, type, ← name.word?, true, none⟩
  | _, _ => none

def resultList : Builder
  | tree, [⟨_, .result result⟩] => some (.results ⟨tree, some tree, [result]⟩)
  | tree, [⟨_, .results front⟩, _, ⟨_, .result result⟩] =>
    some (.results ⟨tree, some tree, front.items ++ [result]⟩)
  | _, _ => none

def results : Builder
  | tree, [⟨_, .nothing⟩] => some (.results ⟨tree, none, []⟩)
  | tree, [_, ⟨_, .results results⟩] => some (.results { results with spot := tree })
  | _, _ => none

def pick {α : Type} (choose : Piece → Option α) (parts : List Part) : Option α :=
  parts.findSome? fun part => choose part.piece

/-- A scope without a name. -/
def scope : Builder := fun _ parts => do
  let flags ← pick (fun | .flags flags => some flags | _ => none) parts
  let parameters ← pick (fun | .parameters items => some items | _ => none) parts
  let results ← pick (fun | .results results => some results | _ => none) parts
  let code ← pick (fun | .statements statements => some statements | _ => none) parts
  return .block (.mk none flags parameters results code)

/-- A compound with or without a name. -/
def compound : Builder := fun _ parts => do
  let .mk _ flags parameters results code ←
    pick (fun | .block block => some block | _ => none) parts
  let name := pick (fun | .word name => some name | _ => none) parts
  return .block (.mk name flags parameters results code)

/-! ## Loops -/

def loopParameter : Builder
  | tree, [name] => do return .loopParameter ⟨tree, tree, ← name.word?, false, none⟩
  | tree, [name, _] => do return .loopParameter ⟨tree, tree, ← name.word?, true, none⟩
  | tree, [⟨_, .type type⟩, name, _, value] => do
    return .loopParameter ⟨tree, tree, ← name.word?, false, some (type, ← value.expr?)⟩
  | tree, [⟨_, .type type⟩, name, _, _, value] => do
    return .loopParameter ⟨tree, tree, ← name.word?, true, some (type, ← value.expr?)⟩
  | _, _ => none

def loopParameterList : Builder
  | tree, [⟨_, .loopParameter parameter⟩] =>
    some (.loopParameters [{ parameter with listSpot := tree }])
  | tree, [⟨_, .loopParameters front⟩, _, ⟨_, .loopParameter parameter⟩] =>
    some (.loopParameters (front ++ [{ parameter with listSpot := tree }]))
  | _, _ => none

def loopParameters : Builder := orNothing (.loopParameters [])

def limit : Builder
  | _, [_, part] => do return .expr (← part.expr?)
  | _, _ => none

/-- The name that the index has when none is given. -/
def indexName : String := "current_index"

def index : Builder
  | _, [_, _, value] => do return .index ⟨indexName, ← value.expr?⟩
  | _, [_, _, name, _, value] => do return .index ⟨← name.word?, ← value.expr?⟩
  | _, _ => none

def settings : Builder := fun _ parts =>
  match parts with
  | [⟨_, .settings settings⟩] => some (.settings settings)
  | _ =>
    some (.settings
      ⟨pick (fun | .expr expr => some expr | _ => none) parts,
       pick (fun | .index setting => some setting | _ => none) parts⟩)

/-- A loop of a kind.  The last expression of a loop with a condition is that condition. -/
def loopOf (kind : LoopKind) : Builder := fun tree parts => do
  let flags ← pick (fun | .flags flags => some flags | _ => none) parts
  let parameters ← pick (fun | .loopParameters items => some items | _ => none) parts
  let results ← pick (fun | .results results => some results | _ => none) parts
  let settings ← pick (fun | .settings settings => some settings | _ => none) parts
  let code ← pick (fun | .statements statements => some statements | _ => none) parts
  let firstSpot := (parts.head?.map (·.tree)).getD tree
  let openSpot := (parts[7]?.map (·.tree)).getD tree
  let unlimited := parts.head?.any (Part.isToken "nolimit")
  let condition := if kind = .doWhile then parts.reverse.findSome? Part.expr? else none
  return .loop (.mk kind flags parameters results settings firstSpot openSpot unlimited
    code condition)

/-! ## Statements -/

def target : Builder
  | _, [⟨_, .target target⟩] => some (.target target)
  | tree, [⟨_, .word name⟩] => some (.target (.named tree name))
  | _, [⟨_, .token _⟩] => some (.target .ignored)
  | tree, [⟨typeSpot, .type type⟩, name] => do
    return .target (.declared tree typeSpot type (← name.word?))
  | _, _ => none

def partTarget : Builder
  | tree, [name, ⟨indexSpot, .accessor (.index index)⟩] => do
    return .target (.element tree name.tree indexSpot (← name.word?) index)
  | tree, [name, ⟨_, .word path⟩] => do
    return .target (.member tree name.tree (← name.word?) path)
  | _, _ => none

def targets : Builder
  | _, [⟨_, .target target⟩] => some (.targets [target])
  | _, [⟨_, .targets front⟩, _, ⟨_, .target target⟩] => some (.targets (front ++ [target]))
  | _, _ => none

def assignment : Builder := fun _ parts =>
  match parts with
  | ⟨_, .targets targets⟩ :: operator :: value :: _ => do
    return .statement (.assignment value.tree targets (← operator.word?) (← value.maker?))
  | _ => none

def takeOver : Builder
  | _, [word, _, maker] => do return .statement (.takeOver word.tree (← maker.maker?))
  | _, _ => none

def statement : Builder := fun _ parts =>
  match parts with
  | ⟨_, .block block⟩ :: _ => some (.statement (.block block))
  | ⟨_, .loop loop⟩ :: _ => some (.statement (.loop loop))
  | ⟨_, .call call⟩ :: _ => some (.statement (.call call))
  | ⟨_, .statement statement⟩ :: _ => some (.statement statement)
  | [⟨_, .token _⟩] => some (.statement .empty)
  | _ => none

def statements : Builder
  | _, [⟨_, .nothing⟩] => some (.statements [])
  | _, [⟨_, .statement statement⟩] => some (.statements [statement])
  | _, [⟨_, .statements front⟩, ⟨_, .statement statement⟩] =>
    some (.statements (front ++ [statement]))
  | _, _ => none

/-! ## The top level -/

def overloadTypes : Builder
  | _, [⟨_, .type name⟩] => some (.types [name])
  | _, [part] => do return .types [← part.word?]
  | _, [⟨_, .types front⟩, _, ⟨_, .type name⟩] => some (.types (front ++ [name]))
  | _, [⟨_, .types front⟩, _, part] => do return .types (front ++ [← part.word?])
  | _, _ => none

/-- A placeholder for arrays: its first token. -/
def arrayPlaceholder : Builder := fun _ parts => do return .token (← (← parts.head?).word?)

/-- A port of an overload.  A type that is written again is dropped. -/
def overloadPort : Builder
  | tree, [⟨_, .types names⟩] => some (.overloadPort ⟨tree, none, names.eraseDups⟩)
  | tree, [name, _, ⟨_, .types names⟩] => do
    return .overloadPort ⟨tree, some (← name.word?), names.eraseDups⟩
  | _, _ => none

def overloadPorts : Builder
  | _, [⟨_, .overloadPort port⟩] => some (.overloadPorts [port])
  | _, [⟨_, .overloadPorts front⟩, _, ⟨_, .overloadPort port⟩] =>
    some (.overloadPorts (front ++ [port]))
  | _, _ => none

def overloadResults : Builder
  | _, [⟨_, .nothing⟩] => some (.overloadPorts [])
  | _, [_, ⟨_, .overloadPorts ports⟩] => some (.overloadPorts ports)
  | _, _ => none

def overload : Builder := fun tree parts => do
  let name ← parts.find? fun part => part.tree.symbol == "namespace_name"
  match parts.filterMap fun part =>
      match part.piece with
      | .overloadPorts ports => some (part.tree, ports)
      | _ => none with
  | [(inputSpot, inputs), (resultSpot, outputs)] =>
    return .exec (.overload tree inputSpot resultSpot (← name.word?) inputs outputs)
  | _ => none

def function : Builder
  | _, [_, name, ⟨_, .block block⟩] => do return .exec (.function name.tree (← name.word?) block)
  | _, _ => none

def importing : Builder
  | tree, [_, path, _] => do return .exec (.importing tree path.tree (← path.word?) none)
  | tree, [_, path, _, name, _] => do
    return .exec (.importing tree path.tree (← path.word?)
      (some (name.tree, ← name.word?, name.tree.symbol == "STRING")))
  | _, _ => none

def exec : Builder
  | _, [⟨_, .block block⟩] => some (.exec (.block block))
  | _, [⟨_, .exec exec⟩] => some (.exec exec)
  | _, _ => none

def execs : Builder
  | _, [⟨_, .exec exec⟩] => some (.execs [exec])
  | _, [⟨_, .execs front⟩, ⟨_, .exec exec⟩] => some (.execs (front ++ [exec]))
  | _, _ => none

def program : Builder := orNothing (.execs [])

def mark : Builder := fun _ _ => some .nothing

def byRule : List (String × Builder) :=
  [("program", program), ("execs", execs), ("exec", exec),
   ("statement_list", statements), ("statement", statement),
   ("import", importing), ("using", takeOver), ("assignment", assignment),
   ("assignment_lhs_list", targets), ("assignment_lhs_one", target),
   ("compound", compound), ("unnamed_scope", scope),
   ("scope_result", results), ("scope_result_list", resultList), ("scope_result_one", result),
   ("scope_parameter_one", parameter), ("scope_parameter_list", parameterList),
   ("scope_parameters", parameters),
   ("overload_arr_dim", arrayPlaceholder), ("overload_type", overloadTypes),
   ("overload_type_one", overloadPort), ("overload_type_list", overloadPorts),
   ("overload_input", same), ("overload_result", overloadResults), ("overload", overload),
   ("function", function),
   ("loop", fun _ parts => (parts.head?).map (·.piece)),
   ("max_iterations", limit), ("current_index", index), ("safe_loop_settings", settings),
   ("loop_settings", settings), ("loop_parameters", loopParameters),
   ("loop_parameter_list", loopParameterList), ("loop_parameter_one", loopParameter),
   ("for_each", loopOf .forEach), ("_for_each", same),
   ("for_each_result", results), ("for_each_result_list", resultList),
   ("for_each_result_one", result),
   ("iterate", loopOf .iterate), ("iterate_result", results),
   ("iterate_result_list", resultList), ("iterate_result_one", result),
   ("do_while", loopOf .doWhile), ("do_while_result", results),
   ("do_while_result_list", resultList), ("do_while_result_one", result),
   ("call", call), ("call_arguments", arguments), ("call_argument_list", argumentList),
   ("call_argument_one", argument),
   ("expression", inner), ("expression_logic", binary .logic), ("expression_cmp", comparison),
   ("expression_add", binary .math), ("expression_mul", binary .math),
   ("expression_pow", binary .power), ("expression_unary", unary),
   ("atom", inner), ("atom_small", small), ("enum", enumeration),
   ("_access_expression", indexAccess), ("_access_rhs_slice", slice),
   ("_access_rhs_default", defaultAccess), ("access_lhs", partTarget), ("_access_lhs_dot", path),
   ("access_rhs", access), ("_access_rhs", chain), ("_access_rhs_dot", path),
   ("access_port", port), ("point_to_port", path),
   ("name", lastWord), ("namespace_name", lastWord), ("feedback", lastWord), ("terminal", flags),
   ("type", same), ("port_type", same), ("defined_port_type", same),
   ("type_enum", plainType), ("type_base", plainType), ("type_array", arrayType),
   ("type_auto", fun _ _ => some (.type "auto")), ("type_node", fun _ _ => some (.type "__NODE")),
   ("value", value), ("string", text), ("index", mark), ("bool", truth),
   ("numeric", inner), ("some_float", inner), ("float", number "float" "fF"),
   ("double", number "double" "dD"), ("some_int", inner), ("ulong", number "ulong" "uUlL"),
   ("ushort", number "ushort" "uUsS"), ("uchar", number "uchar" "uUcC"),
   ("uint", number "uint" "uUiI"), ("long", number "long" "lL"), ("int", number "int" "iI"),
   ("short", number "short" "sS"), ("char", number "char" "cC"),
   ("vector", bracketed), ("_vector", separated), ("matrix", bracketed),
   ("_matrix", matrixColumns), ("_matrix_col", separated), ("array", array), ("_array", elements),
   ("object", object), ("_object", entries)]

end Builder

mutual

def piece? : Tree → Option Piece
  | .leaf _ _ _ _ (some text) => some (.token text)
  | .leaf _ _ _ _ none => some .nothing
  | .node symbol line start stop children => do
    let build ← Builder.byRule.lookup symbol
    build (.node symbol line start stop children) (← parts? children)

def parts? : List Tree → Option (List Part)
  | [] => some []
  | tree :: trees => do return ⟨tree, ← piece? tree⟩ :: (← parts? trees)

end

def ofTree? (tree : Tree) : Option (List Exec) :=
  match piece? tree with
  | some (.execs execs) => some execs
  | _ => none

end GraphScript.Syntax
