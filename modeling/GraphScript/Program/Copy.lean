import GraphScript.Program.Term

/-!
# Copying terms

A copy of a term has the same shape and types and new numbers.  Only a term that makes a node can be
reached along two ways, so such terms are remembered and copied once.  A copied compound loses its
name.
-/

namespace GraphScript.Program

/-- The next free number, and the copies made so far. -/
structure Copier where
  nextId : Nat
  copies : List (Nat × Term)

/-- An action that copies. -/
abbrev Copying (α : Type) : Type := Act Copier α

namespace Copying

def freshId : Copying Nat := do
  let copier ← getThe Copier
  set { copier with nextId := copier.nextId + 1 }
  return copier.nextId

/-- The copy of a number that was copied before. -/
def known? (id : Nat) : Copying (Option Term) := do
  return (← getThe Copier).copies.lookup id

def remember (id : Nat) (copy : Term) : Copying Unit :=
  modifyThe Copier fun copier => { copier with copies := (id, copy) :: copier.copies }

end Copying

def Form.makesNode : Form → Bool
  | .associative .. | .native .. | .function .. | .scope .. | .loop .. => true
  | _ => false

open Copying

mutual

def Term.copy : Term → Copying Term
  | .mk id form => do
    if form.makesNode then
      match ← known? id with
      | some copy => return copy
      | none =>
        let copied ← form.copy
        let copy := Term.mk (← freshId) copied
        remember id copy
        return copy
    else
      let copied ← form.copy
      return .mk (← freshId) copied

def Form.copy : Form → Copying Form
  | .value literal type => return .value literal type
  | .reference name type => return .reference name type
  | .vector component type values => return .vector component type (← copyTerms values)
  | .matrix component type columns => return .sheet component type (← copyColumns columns)
  | .sheet _ _ _ => throw .badOperand
  | .array element values => return .array element (← copyTerms values)
  | .emptyArray element count => return .emptyArray element (← count.copy)
  | .object entries => return .object (← copyEntries entries)
  | .enumeration name type => return .enumeration name type
  | .not type value => return .not type (← value.copy)
  | .negate type value => return .negate type (← value.copy)
  | .binary kind operator type left right => do
    let left ← left.copy
    return .binary kind operator type left (← right.copy)
  | .comparison operators type operands => return .comparison operators type (← copyTerms operands)
  | .access value accessor => do
    let value ← value.copy
    return .access value (← accessor.copy)
  | .port holder node port => return .port holder (← node.copy) port
  | .associative name portNames arguments named terminals outputs => do
    let arguments ← copyArguments arguments
    return .associative name portNames arguments (← copyArguments named) terminals outputs
  | .native name arguments named terminals inputTypes argumentTypes outputs => do
    let arguments ← copyArguments arguments
    return .native name arguments (← copyArguments named) terminals inputTypes argumentTypes outputs
  | .function name body arguments named terminals inputTypes argumentTypes outputs => do
    let arguments ← copyArguments arguments
    let named ← copyArguments named
    return .function name (← body.copy) arguments named terminals inputTypes argumentTypes outputs
  | .construct type arguments named => do
    let arguments ← copyArguments arguments
    return .construct type arguments (← copyArguments named)
  | .scope _ parameters results code terminals => do
    let parameters ← copyParameters parameters
    return .scope "unnamed" parameters results (← copyStatements code) terminals
  | .loop kind parameters results code limit index terminals condition => do
    let condition ← copyOption condition
    let parameters ← copyLoopParameters parameters
    let code ← copyStatements code
    let limit ← copyOption limit
    return .loop kind parameters results code limit (← index.copy) terminals condition

def copyTerms : List Term → Copying (List Term)
  | [] => return []
  | term :: rest => do
    let copy ← term.copy
    return copy :: (← copyTerms rest)

def copyColumns : List (List Term) → Copying (List (List Term))
  | [] => return []
  | column :: rest => do
    let copy ← copyTerms column
    return copy :: (← copyColumns rest)

/-- Copies a term that may be missing. -/
def copyOption : Option Term → Copying (Option Term)
  | none => return none
  | some term => return some (← term.copy)

def copyEntries : List Entry → Copying (List Entry)
  | [] => return []
  | .mk key value :: rest => do
    let key ← key.copy
    let value ← value.copy
    return .mk key value :: (← copyEntries rest)

def Accessor.copy : Accessor → Copying Accessor
  | .index _ value => do
    let value ← value.copy
    return .index (← freshId) value
  | .slice start stop step => do
    let start ← copyOption start
    let stop ← copyOption stop
    return .slice start stop (← copyOption step)
  | .orDefault _ key type default => do
    let key ← key.copy
    let default ← copyOption default
    return .orDefault (← freshId) key type default
  | .member path => return .member path

def copyArguments : List Argument → Copying (List Argument)
  | [] => return []
  | .mk name value :: rest => do
    let value ← value.copy
    return .mk name value :: (← copyArguments rest)

def copyParameters : List Parameter → Copying (List Parameter)
  | [] => return []
  | .mk name type default :: rest => do
    let default ← copyOption default
    return .mk name type default :: (← copyParameters rest)

def copyLoopParameters : List LoopParameter → Copying (List LoopParameter)
  | [] => return []
  | .mk name type default isTarget :: rest => do
    let default ← copyOption default
    return .mk name type default isTarget :: (← copyLoopParameters rest)

def LoopIndex.copy : LoopIndex → Copying LoopIndex
  | .mk _ name start => do
    let start ← start.copy
    return .mk (← freshId) name start

def copyTargets : List Target → Copying (List Target)
  | [] => return []
  | target :: rest => do
    let copy ← target.copy
    return copy :: (← copyTargets rest)

/-- Copies a target.  A declared name forgets the ports of its type. -/
def Target.copy : Target → Copying Target
  | .ignored => return .ignored
  | .declared name type => return .declared name (.mk type.name (some []))
  | .reference name type => return .reference name type
  | .part _ kind base accessor type => do
    let base ← base.copy
    let accessor ← accessor.copy
    return .part (← freshId) kind base accessor type

/-- Copies a statement.  The empty statement cannot be copied. -/
def Statement.copy : Statement → Copying Statement
  | .empty => throw .missingMember
  | .make term => return .make (← term.copy)
  | .assignment _ targets operator value => do
    let targets ← copyTargets targets
    let value ← value.copy
    return .assignment (← freshId) targets operator value
  | .takeOver _ node => do
    let node ← node.copy
    return .takeOver (← freshId) node

def copyStatements : List Statement → Copying (List Statement)
  | [] => return []
  | statement :: rest => do
    let copy ← statement.copy
    return copy :: (← copyStatements rest)

end

end GraphScript.Program
