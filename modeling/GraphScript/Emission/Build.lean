import GraphScript.Elaboration.Script
import GraphScript.Emission.Term

/-!
# Building scripts

A script is elaborated and built in one group of changes.  The changes begin before the script is
elaborated, so they are also ended when it cannot be elaborated or built.
-/

namespace GraphScript.Emission

open GraphScript.Graph Program
open Elaboration (Elaborating Session)

/-! ## What a program was built as -/

/-- A part of a program with a number of its own, and the name of its kind. -/
structure Part where
  id : Nat
  kind : String

mutual

def parts : Term → List Part
  | .mk id form => ⟨id, form.kindName⟩ :: partsOfForm form

def partsOfForm : Form → List Part
  | .value .. => []
  | .reference .. => []
  | .vector _ _ values => partsOfTerms values
  | .matrix _ _ columns => partsOfColumns columns
  | .sheet _ _ columns => partsOfColumns columns
  | .array _ values => partsOfTerms values
  | .emptyArray _ count => parts count
  | .object entries => partsOfEntries entries
  | .enumeration .. => []
  | .not _ value => parts value
  | .negate _ value => parts value
  | .binary _ _ _ left right => parts left ++ parts right
  | .comparison _ _ operands => partsOfTerms operands
  | .access value accessor => parts value ++ partsOfAccessor accessor
  | .port holder node _ => if holder.isSome then [] else parts node
  | .associative _ _ arguments named _ _ => partsOfArguments arguments ++ partsOfArguments named
  | .native _ arguments named _ _ _ _ => partsOfArguments arguments ++ partsOfArguments named
  | .function _ _ arguments named _ _ _ _ => partsOfArguments arguments ++ partsOfArguments named
  | .construct _ arguments named => partsOfArguments arguments ++ partsOfArguments named
  | .scope _ parameters _ code _ => partsOfParameters parameters ++ partsOfStatements code
  | .loop _ parameters _ code limit index _ condition =>
    partsOfLoopParameters parameters ++ partsOfStatements code ++ partsOfOption limit ++
      partsOfIndex index ++ partsOfOption condition

def partsOfTerms : List Term → List Part
  | [] => []
  | term :: rest => parts term ++ partsOfTerms rest

def partsOfColumns : List (List Term) → List Part
  | [] => []
  | column :: rest => partsOfTerms column ++ partsOfColumns rest

/-- The parts of a term that may be missing. -/
def partsOfOption : Option Term → List Part
  | none => []
  | some term => parts term

def partsOfEntries : List Entry → List Part
  | [] => []
  | .mk key value :: rest => parts key ++ parts value ++ partsOfEntries rest

def partsOfAccessor : Accessor → List Part
  | .index id value => ⟨id, "AccessByValue"⟩ :: parts value
  | .slice start stop step => partsOfOption start ++ partsOfOption stop ++ partsOfOption step
  | .orDefault id key _ default => ⟨id, "AccessRHS_Default"⟩ :: parts key ++ partsOfOption default
  | .member _ => []

def partsOfArguments : List Argument → List Part
  | [] => []
  | .mk _ value :: rest => parts value ++ partsOfArguments rest

def partsOfParameters : List Parameter → List Part
  | [] => []
  | .mk _ _ default :: rest => partsOfOption default ++ partsOfParameters rest

def partsOfLoopParameters : List LoopParameter → List Part
  | [] => []
  | .mk _ _ default _ :: rest => partsOfOption default ++ partsOfLoopParameters rest

def partsOfIndex : LoopIndex → List Part
  | .mk id _ start => ⟨id, "LoopIndex"⟩ :: parts start

def partsOfStatements : List Statement → List Part
  | [] => []
  | statement :: rest => partsOfStatement statement ++ partsOfStatements rest

def partsOfStatement : Statement → List Part
  | .empty => []
  | .make term => parts term
  | .assignment id targets _ value => ⟨id, "Assignment"⟩ :: partsOfTargets targets ++ parts value
  | .takeOver id node => ⟨id, "Using"⟩ :: parts node

def partsOfTargets : List Target → List Part
  | [] => []
  | target :: rest => partsOfTarget target ++ partsOfTargets rest

def partsOfTarget : Target → List Part
  | .part id _ base accessor _ => ⟨id, "AccessLHS"⟩ :: parts base ++ partsOfAccessor accessor
  | _ => []

end

/-- What a part was built as: a path, or only that it was carried out. -/
inductive Outcome where
  | path (path : NodePath)
  | done

/-- What a part was built as, if it was built. -/
def outcome? (construction : Construction) (part : Part) : Option Outcome :=
  match construction.built[part.id]? with
  | some path => some (.path path)
  | none => if construction.done.contains part.id then some .done else none

/-- The parts that were built, each once. -/
def built (construction : Construction) : List Nat → List Part → List (String × Outcome)
  | _, [] => []
  | seen, part :: rest =>
    if seen.contains part.id then built construction seen rest
    else match outcome? construction part with
      | some outcome => (part.kind, outcome) :: built construction (part.id :: seen) rest
      | none => built construction (part.id :: seen) rest

/-- The parts of programs that were built, with what they were built as. -/
def survey (construction : Construction) (terms : List Term) : List (String × Outcome) :=
  built construction [] (partsOfTerms terms)

/-! ## Building -/

/-- Builds the entries of a script, one after the other; an entry without a term cannot be built. -/
def emitEach : List (Option Term) → Building Unit
  | [] => return
  | none :: _ => throw .missingMember
  | some term :: rest => do
    discard (emit term)
    emitEach rest

/-- Carries out an action between the beginning and the end of the changes. -/
def within (action : Building Unit) : Building Unit := do
  begin
  let result ← Act.attempt action
  finish
  Act.ofExcept result

def emitScript (entries : List (Option Term)) : Building Unit := within (emitEach entries)

/-- What came of building a script. -/
structure Build where
  entries : List (Option Term)
  result : Except Fault Unit
  construction : Graph.Construction

/-- Elaborates a script and builds its entries in a construction for the operators known by then. -/
def build (run : Elaborating (List (Option Term)))
    (start : Overload.Registry → Graph.Construction) : Elaborating Build := do
  let entries ← (Act.attempt run : Elaborating (Except Fault (List (Option Term))))
  let action : Graph.Building Unit := do emitEach (← entries)
  let (result, construction) := (within action).runOn (start (← Elaboration.registry))
  modifyThe Session fun session =>
    { session with desk := { session.desk with log := session.desk.log ++ construction.log } }
  return ⟨entries.toOption.getD [], result, construction⟩

end GraphScript.Emission
