import GraphScript.Overload.Registry

/-!
# Resolving calls

A call of an operator with some argument types is resolved to the types of all ports.  An overload
for exactly these types comes first.  Else the rules of the operator give candidates, each candidate
is checked against the arguments, and a perfect match, a single match, or several matches of the
same vector sizes settle the call.
-/

namespace GraphScript.Overload

/-- What became of a call. -/
inductive Resolution where
  | found (inputs outputs : List Slot)
  | failed (reason : Rejection)
  /-- The call is turned down with a bare text. -/
  | dismissed (message : String)

/-- Why the last rule or candidate did not fit. -/
inductive Setback where
  | none
  | reason (reason : Rejection)
  | text (message : String)

/-- The resolution of a call that met a setback, or what stands in for one. -/
def Setback.resolution (otherwise : Resolution) : Setback → Resolution
  | none => otherwise
  | reason cause => .failed cause
  | text message => .dismissed message

/-- The types of all ports, with for each port whether its type was promoted. -/
structure Candidate where
  types : List String
  promoted : List Bool
  deriving DecidableEq

def autoPorts (types : List String) : List Nat :=
  (types.zipIdx.filter fun entry => entry.1 == PortType.autoName).map Prod.snd

/-- Fills ports that are to be found from the suggestions of an operator without rules. -/
def fillSuggested (suggestions : List (List String)) (arguments : List PortType) :
    Nat → List String → Except Fault (List String)
  | _, [] => .ok []
  | index, type :: rest => do
    let filled ← do
      if type != PortType.autoName then pure type
      else
        match suggestions[index]? with
        | none | some [] => pure type
        | some (first :: others) =>
          let argument ← itemAt arguments index
          pure (if (first :: others).contains argument.name then argument.name else first)
    return filled :: (← fillSuggested suggestions arguments (index + 1) rest)

def leadingPorts (autos : List Nat) : Nat → List Group → Except Fault (List Nat)
  | _, [] => .ok []
  | position, group :: rest => do
    let leading ← itemAt autos position
    return leading :: (← leadingPorts autos (position + group.derived.length + 1) rest)

/-- The type of a leading port: the argument, promoted into the accepted types where needed. -/
def leadingType (operator : Operator) (types : TypeSet) (index : Nat) (type : PortType) :
    Step PortType := do
  if types.mem type.name then return type
  let portName : Except Fault String := itemAt operator.inputs index
  if type.name == PortType.autoName then
    let name ← portName
    rejectType s!"Missing required argument for port '{name}'"
  let levels := type.arrayDim
  let candidates := PortType.promotionOrder.filter fun name =>
    types.mem (PortType.arrayName levels name)
  let promoted ← do
    if candidates.isEmpty then pure none
    else liftM (PortType.firstPromotable (← type.elementType) candidates)
  match promoted with
  | some name => liftM (PortType.ofName (PortType.arrayName levels name))
  | none =>
    if (← (← type.baseType).baseType).name == "bool" then
      let asNumber ← PortType.ofName (Text.replaceAll "bool" "char" type.name)
      match ← liftM (PortType.firstPromotable asNumber candidates) with
      | some name => liftM (PortType.ofName name)
      | none =>
        let name ← portName
        rejectType s!"Invalid value type '{asNumber.name}' for port '{name}'"
    else
      let name ← portName
      rejectType s!"Invalid type '{type.name}' for port '{name}'"

/-- The first suggestion for a port, where one is needed and there is one. -/
def suggestedType (operator : Operator) (index : Nat) (type : PortType) : Except Fault PortType :=
  if type.name == PortType.autoName then
    match operator.suggestions[index]? with
    | some (first :: _) => PortType.ofName first
    | _ => .ok type
  else .ok type

/-- The types found by groups, with for each whether it was promoted; the position counts the
derived ports so far. -/
def groupTypes (operator : Operator) : Nat → List (PortType × Group) → Step (List (String × Bool))
  | _, [] => return []
  | index, (argument, group) :: rest => do
    let given ← suggestedType operator index argument
    let types ← orFaultStep group.types
    let type ← leadingType operator types index given
    let promoted := type.name != given.name
    let derived ← group.derived.mapM fun derivation => do
      return (← liftM (derivation.apply type.name), promoted)
    return (type.name, promoted) :: derived ++
      (← groupTypes operator (index + group.derived.length) rest)
where
  /-- The set of a group; anything else cannot be searched. -/
  orFaultStep : Option TypeSet → Step TypeSet
    | some types => return types
    | none => throwThe Fault .badOperand

def fillPorts (types : List String) (promoted : List Bool) : List (Nat × String × Bool) → Candidate
  | [] => ⟨types, promoted⟩
  | (index, type, flag) :: rest => fillPorts (types.set index type) (promoted.set index flag) rest

/-- What one rule makes of a call: an answer, a candidate, or a setback. -/
inductive Attempt where
  | answer (inputs outputs : List Slot)
  | candidate (candidate : Candidate)
  | setback (setback : Setback)

def checkCounts (name : String) (operator : Operator) (inputs outputs : Nat) : Except Fault Unit :=
  if inputs != operator.inputs.length then
    .error (.report .general s!"'{name}' returned the wrong number of input port types")
  else if outputs != operator.outputs.length then
    .error (.report .general s!"'{name}' returned the wrong number of output port types")
  else .ok ()

def tryResolver (name : String) (operator : Operator) (typesIn typesOut : List String)
    (resolver : Resolver) (arguments : List PortType) : Except Fault Attempt := do
  let fresh ← arguments.mapM fun type => PortType.ofName type.name
  match ← resolver.apply ⟨operator.inputs, operator.outputs, typesIn, typesOut⟩ fresh with
  | .accepted inputs outputs =>
    checkCounts name operator inputs.length outputs.length
    return .answer inputs outputs
  | .rejected reason => return .setback (.reason reason)
  | .dismissed message => return .setback (.text message)
  | .refused => return .setback .none
  | .unjudged reason =>
    checkCounts name operator 1 1
    let letters := reason.message.toList.map fun letter => Slot.named (String.ofList [letter])
    return .answer (letters.take 1) ((letters.drop 1).take 1)

def tryGroups (name : String) (operator : Operator) (types : List String) (autos : List Nat)
    (groups : List Group) (arguments : List PortType) : Logged Attempt := do
  let leading ← if autos.isEmpty then pure [] else liftM (leadingPorts autos 0 groups)
  match leading.getLast? with
  | some last =>
    if last ≥ arguments.length then
      say s!"inputs: {arguments.length}"
      say s!"auto: {autos.length}"
      say s!"auto: {Text.bracketed (autos.map toString)}"
      throw (.report .general s!"Too many key types: '{name}'")
  | none => pure ()
  let required ← liftM (leading.mapM (itemAt arguments ·) : Except Fault (List PortType))
  let _ ← liftM (leading.mapM (itemAt operator.inputs ·) : Except Fault (List String))
  match ← liftM (groupTypes operator (autos.headD 0) (required.zip groups)).run with
  | .error reason => return .setback (.reason reason)
  | .ok found => return .candidate (fillPorts types (types.map fun _ => false) (autos.zip found))

/-- Adds a candidate unless its types are there already. -/
def addCandidate (candidates : List Candidate) (candidate : Candidate) : List Candidate :=
  if candidates.any fun other => other.types == candidate.types then candidates
  else candidates ++ [candidate]

/-- What the rules of an operator make of a call. -/
structure Search where
  candidates : List Candidate
  /-- Why the last rule did not fit. -/
  setback : Setback
  /-- The answer of a computed rule, which ends the search. -/
  answer : Option (List Slot × List Slot)

/-- Tries the rules one after the other, up to the first answer. -/
def searchRules (name : String) (operator : Operator) (typesIn typesOut types : List String)
    (autos : List Nat) (arguments : List PortType) (search : Search) : List Rule → Logged Search
  | [] => return search
  | rule :: rest => do
    let attempt ← match rule with
      | .computed resolver => liftM (tryResolver name operator typesIn typesOut resolver arguments)
      | .sets groups => tryGroups name operator types autos groups arguments
    match attempt with
    | .answer inputs outputs => return { search with answer := some (inputs, outputs) }
    | .setback setback =>
      searchRules name operator typesIn typesOut types autos arguments
        { search with setback := setback } rest
    | .candidate candidate =>
      searchRules name operator typesIn typesOut types autos arguments
        { search with setback := .none, candidates :=
          addCandidate search.candidates candidate } rest

inductive Fit where
  /-- The argument was left out and takes the type of the port. -/
  | taken
  /-- The types are the same. -/
  | exact
  /-- The argument goes to the port by promotion or a placeholder. -/
  | loose
  /-- The argument does not fit. -/
  | unfit (reason : Rejection)

/-- The type that a placeholder for arrays is read as when it does not match. -/
def arrayPlaceholder (target : String) (type : PortType) : Option String :=
  if target == "[]" then
    if Text.holds "<" type.name then none else some "array"
  else if target == "[1]" || target == "[2]" || target == "[3]" then
    let level := Text.dropEnd 1 (Text.dropStart 1 target)
    if level == toString type.arrayDim then none else some (level ++ "D-array")
  else some target

def fitArgument (operator : Operator) (anyPromoted : Bool) (index : Nat) (slot : Slot)
    (target : String) : Except Fault Fit := do
  match slot with
  | .named _ => throw .missingMember
  | .typed given =>
    let type := given.onlyPort
    if type.name == PortType.autoName && target != PortType.autoName then return .taken
    if type.name == target && !anyPromoted then return .exact
    if target == "*" then return .loose
    match arrayPlaceholder target type with
    | none => return .loose
    | some target =>
      if ← PortType.promotable type (← PortType.ofName target) then return .loose
      let name ← itemAt operator.inputs index
      return .unfit ⟨.type, s!"Cant promote '{type.name}' to '{target}' on port '{name}'"⟩

/-- How a candidate fits all arguments. -/
inductive CandidateFit where
  | perfect
  | loose
  | unfit (reason : Rejection)

/-- Compares the arguments with a candidate; arguments that were left out take the types of their
ports for the candidates that follow. -/
def fitCandidate (operator : Operator) (anyPromoted : Bool) :
    Nat → List Slot → List String → Except Fault (CandidateFit × List Slot)
  | _, [], _ => .ok (.perfect, [])
  | _, slots, [] => .ok (.perfect, slots)
  | index, slot :: slots, target :: targets => do
    match ← fitArgument operator anyPromoted index slot target with
    | .unfit reason => return (.unfit reason, slot :: slots)
    | .taken =>
      let (fit, rest) ← fitCandidate operator anyPromoted (index + 1) slots targets
      return (fit, .named target :: rest)
    | .exact =>
      let (fit, rest) ← fitCandidate operator anyPromoted (index + 1) slots targets
      return (fit, slot :: rest)
    | .loose =>
      let (fit, rest) ← fitCandidate operator anyPromoted (index + 1) slots targets
      return ((match fit with | .perfect => .loose | other => other), slot :: rest)

/-- What checking the candidates gives. -/
structure Check where
  /-- The candidates that fit, in order. -/
  valid : List (List String)
  /-- Why the last unfit candidate does not fit. -/
  setback : Setback
  /-- A candidate that fits perfectly, which ends the check. -/
  perfect : Option (List String)

/-- Checks the candidates one after the other, up to the first perfect one. -/
def checkCandidates (operator : Operator) (check : Check) :
    List Slot → List Candidate → Except Fault Check
  | _, [] => .ok check
  | slots, candidate :: rest => do
    let (fit, after) ← fitCandidate operator (candidate.promoted.any id) 0 slots candidate.types
    match fit with
    | .perfect => return { check with perfect := some candidate.types }
    | .loose =>
      checkCandidates operator { check with valid := check.valid ++ [candidate.types] } after rest
    | .unfit reason => checkCandidates operator { check with setback := .reason reason } after rest

def innermostNames (names : List String) : Except Fault (List String) :=
  names.mapM fun name => do
    let type ← PortType.ofName name
    return (← type.elementType).name

/-- The first position at which two lists of types differ in their vector sizes. -/
def sizeConflict? : Nat → List String → List String → Except Fault (Option Nat)
  | index, left :: lefts, right :: rights => do
    let left ← PortType.ofName left
    let right ← PortType.ofName right
    if (← left.vectorDim) == (← right.vectorDim) then
      let _ ← left.matrixDim
      let _ ← right.matrixDim
      sizeConflict? (index + 1) lefts rights
    else return some index
  | _, _, _ => .ok none

/-- The first position at which one of several candidates differs from the first in vector sizes. -/
def firstConflict? (count : Nat) (reference : List String) :
    List (List String) → Except Fault (Option Nat)
  | [] => .ok none
  | types :: rest => do
    match ← sizeConflict? 0 reference (← innermostNames (types.take count)) with
    | some index => return some index
    | none => firstConflict? count reference rest

def splitPorts (count : Nat) (types : List String) : Resolution :=
  .found ((types.take count).map .named) ((types.drop count).map .named)

def chooseValid (operator : Operator) (count : Nat) (first : List String)
    (others : List (List String)) : Logged Resolution := do
  let reference ← liftM (innermostNames (first.take count))
  say s!"        ref: {Text.quotedList reference}"
  match ← liftM (firstConflict? count reference others) with
  | none => return splitPorts count first
  | some index =>
    let name ← liftM (itemAt operator.inputs index : Except Fault String)
    return .failed ⟨.type, s!"Ambiguous promotion on port '{name}'"⟩

/-- The message for ports that nothing is known about. -/
def unknownPorts (name : String) (operator : Operator) (types : List String) :
    Except Fault Rejection := do
  let names := operator.inputs ++ operator.outputs
  let ports ← (autoPorts types).mapM (itemAt names ·)
  return ⟨.name, s!"Cant find overload information for ports {Text.quotedList ports} on '{name}'"⟩

def resolvePorts (registry : Registry) (name : String) (operator : Operator)
    (typesIn typesOut : List String) (arguments : List PortType) : Logged Resolution := do
  let count := typesIn.length
  if arguments.length > count then
    return .failed ⟨.general, "Too many arguments"⟩
  match operator.overloads.get? (keyOf (arguments.map PortType.name)) with
  | some outputs => return .found (asGiven arguments) (outputs.map .named)
  | none =>
    let declared := typesIn ++ typesOut
    let hasRules := registry.rules.contains name
    let types ←
      if declared.contains PortType.autoName && !hasRules then
        liftM (fillSuggested operator.suggestions arguments 0 declared)
      else pure declared
    if types.contains PortType.autoName && !hasRules then
      return .failed (← liftM (unknownPorts name operator types))
    let autos := autoPorts types
    let initial : List Candidate :=
      if autos.isEmpty then [⟨types, types.map fun _ => false⟩] else []
    let search ← searchRules name operator typesIn typesOut types autos arguments
      ⟨initial, .none, none⟩ ((registry.rules.get? name).getD [])
    match search.answer with
    | some (inputs, outputs) => return .found inputs outputs
    | none =>
      if search.candidates.isEmpty && !arguments.isEmpty then
        return search.setback.resolution (.failed ⟨.general, s!"No resolutions found for '{name}'"⟩)
      let check ← liftM (checkCandidates operator ⟨[], .none, none⟩ (asGiven arguments)
        search.candidates)
      match check.perfect, check.valid with
      | some types, _ => return splitPorts count types
      | none, [types] => return splitPorts count types
      | none, first :: others => chooseValid operator count first others
      | none, [] => return check.setback.resolution (splitPorts count types)

def checkSlots (slots : List Slot) : Except Fault (List String) :=
  slots.mapM fun slot => do return (← slot.check).name

/-- What became of a call, with checked type names. -/
inductive Answer where
  | found (inputs outputs : List String)
  | failed (reason : Rejection)
  | dismissed (message : String)
  deriving DecidableEq

def resolve (registry : Registry) (name : String) (arguments : List PortType) : Logged Answer := do
  match registry.operators.get? name with
  | none => return .failed ⟨.name, s!"Operator/compound '{name}' does not exist!"⟩
  | some operator =>
    match operator.overloads.entries with
    | [] => return .failed ⟨.name, s!"No matching overload found for '{name}'"⟩
    | (key, outputs) :: _ =>
      match ← resolvePorts registry name operator (keyTypes key) outputs
          (arguments.map PortType.onlyPort) with
      | .found inputs outputs => return .found (← checkSlots inputs) (← checkSlots outputs)
      | .failed reason => return .failed reason
      | .dismissed message => return .dismissed message

end GraphScript.Overload
