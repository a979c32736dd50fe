import GraphScript.Language.Tree

/-!
# Syntax as written

The expressions and statements of a script and everything that stands at its top level, freed from
the layers of the grammar.  Parts that a report may have to show keep the syntax tree they were read
from.  Lists of parameters keep the tree of every initial part, because a report on a repeated name
shows the shortest such part.
-/

namespace GraphScript.Syntax

open GraphScript.Language (Tree)

/-- The flags of a terminal as they were written: not at all, as an empty list, or as letters. -/
structure Flags where
  spot : Tree
  written : Option (Option String)

/-- The families of operators with two operands. -/
inductive OperatorKind where
  | math
  | power
  | logic
  deriving DecidableEq

mutual

inductive Expr where
  | text (spot : Tree) (raw : String)
  | index (spot : Tree)
  | truth (value : Bool)
  | number (type letters raw : String)
  | name (spot : Tree) (name : String)
  | enumeration (raw : String)
  /-- A vector; the closing bracket can name the type of its components. -/
  | vector (spot : Tree) (values : List Expr) (closing : String)
  | matrix (spot : Tree) (columns : List (List Expr)) (closing : String)
  | array (spot : Tree) (values : List Expr)
  /-- An array of a type with a number of default values. -/
  | emptyArray (spot : Tree) (type : String) (count : Option Expr)
  | object (entries : List Entry)
  | call (call : Call)
  /-- Parts of a value, one after the other. -/
  | access (spot : Tree) (base : Expr) (chain : Chain)
  | portOfName (spot : Tree) (name port : String)
  | portOfCall (spot : Tree) (call : Call) (port : String)
  | unary (spot : Tree) (operator : String) (value : Expr)
  | binary (spot : Tree) (kind : OperatorKind) (operator : String) (left right : Expr)
  /-- A chain of comparisons: one operand more than operators. -/
  | comparison (spot : Tree) (operators : List String) (operands : List Expr)

/-- A key and a value of an object. -/
inductive Entry where
  | mk (key value : Expr) (keySpot valueSpot : Tree)

/-- Accesses to parts of a value, from left to right. -/
inductive Chain where
  | one (accessor : Accessor)
  | more (front : Chain) (accessor : Accessor)

/-- One access to a part of a value. -/
inductive Accessor where
  | index (value : Expr)
  | slice (start stop step : Option Bound)
  /-- The value under a key of an object, or a default. -/
  | orDefault (spot : Tree) (key : Expr) (default : Passed)
  | member (path : String)

/-- A bound of a slice. -/
inductive Bound where
  | mk (spot : Tree) (value : Expr)

/-- Something that makes a node. -/
inductive Call where
  | operator (spot nameSpot : Tree) (name : String) (flags : Flags) (listSpot : Tree)
      (arguments : List Argument)
  | construct (spot : Tree) (type : String) (listSpot : Tree) (arguments : List Argument)

/-- An argument of a call. -/
inductive Argument where
  | mk (spot : Tree) (name : Option String) (value : Passed)

/-- What is passed: a value, or only a type. -/
inductive Passed where
  | value (value : Expr)
  | type (name : String)

end

/-- A parameter of a compound or function. -/
structure Parameter where
  spot : Tree
  listSpot : Tree
  type : String
  name : String
  value : Option Expr

/-- A result of a compound, function or loop. -/
structure Result where
  spot : Tree
  type : String
  name : String
  isTarget : Bool
  feedback : Option String

/-- The results with the trees that reports on them show. -/
structure Results where
  spot : Tree
  /-- The tree of the list itself, when there is one. -/
  listSpot : Option Tree
  items : List Result

structure LoopParameter where
  spot : Tree
  listSpot : Tree
  name : String
  isTarget : Bool
  /-- The type and the value, unless a variable of that name is passed. -/
  given : Option (String × Expr)

/-- Where the index of a loop starts, and what it is called. -/
structure IndexSetting where
  name : String
  value : Expr

structure LoopSettings where
  limit : Option Expr
  index : Option IndexSetting

/-- The kinds of loops. -/
inductive LoopKind where
  | forEach
  | iterate
  | doWhile
  deriving DecidableEq

/-- Something on the left of an assignment. -/
inductive Target where
  | ignored
  | declared (spot typeSpot : Tree) (type name : String)
  | named (spot : Tree) (name : String)
  | element (spot nameSpot indexSpot : Tree) (name : String) (index : Expr)
  | member (spot nameSpot : Tree) (name path : String)

mutual

inductive Statement where
  | empty
  | block (block : Block)
  | loop (loop : Loop)
  | takeOver (spot : Tree) (maker : Maker)
  | assignment (valueSpot : Tree) (targets : List Target) (operator : String) (value : Maker)
  | call (call : Call)

/-- The right-hand side of an assignment. -/
inductive Maker where
  | expr (expr : Expr)
  | block (block : Block)
  | loop (loop : Loop)

/-- A compound, or the body of a function. -/
inductive Block where
  | mk (name : Option String) (flags : Flags) (parameters : List Parameter) (results : Results)
      (code : List Statement)

inductive Loop where
  | mk (kind : LoopKind) (flags : Flags) (parameters : List LoopParameter) (results : Results)
      (settings : LoopSettings) (firstSpot openSpot : Tree) (unlimited : Bool)
      (code : List Statement) (condition : Option Expr)

end

/-- One entry of an overload: the types that a port can have. -/
structure OverloadPort where
  spot : Tree
  name : Option String
  types : List String

/-- What stands at the top level of a script. -/
inductive Exec where
  | function (nameSpot : Tree) (name : String) (block : Block)
  | block (block : Block)
  | overload (spot inputSpot resultSpot : Tree) (name : String) (inputs outputs : List OverloadPort)
  | importing (spot : Tree) (pathSpot : Tree) (rawPath : String)
      (namespaceSpot : Option (Tree × String × Bool))

end GraphScript.Syntax
