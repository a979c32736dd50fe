import GraphScript.Emission.Wiring

/-!
# Emission of terms

A term is built into a graph by building its parts, creating its own node, and connecting the parts
to the ports of that node.  A term that is reached again is not built again.
-/

namespace GraphScript.Emission

open GraphScript.Graph Program
open Syntax (OperatorKind)

mutual

/-- Builds a term once, and gives the path of its node or port. -/
def emit : Term → Building NodePath
  | .mk id form => once id (emitForm form)
termination_by structural term => term

def emitValue : Term → Building NodePath
  | .mk id form => do
    let path ← once id (emitForm form)
    valuePort path (← form.type)
termination_by structural term => term

def emitTexts (kind : OperatorKind) : Term → Building (List NodePath)
  | .mk id form => do
    let alone := once id (emitForm form)
    match form with
    | .binary inner _ type left right =>
      if joinsWith kind inner then
        if ← type.isString then
          let front ← emitTexts kind left
          return front ++ (← emitTexts kind right)
        else return [← alone]
      else return [← alone]
    | _ => return [← alone]
termination_by structural term => term

def emitForm : Form → Building NodePath
  | .value literal type => constantNode (literalDatum literal) type.name .nothing .nothing
  | .reference name _ => do (← valueNamed name).asPath
  | .vector _ type values => do
    let node ← createValueNode type.name
    let cast := castName (← (← type.baseType).baseType).name
    emitComponents node cast type "" ["x", "y", "z", "w"] values
    return node.port "output"
  | .matrix _ type columns => do
    let node ← createValueNode type.name
    let cast := castName (← (← type.baseType).baseType).name
    emitColumns node cast type ["c0", "c1", "c2", "c3"] columns
    return node.port "output"
  | .sheet _ type columns => do
    let node ← createValueNode type.name
    discard ((← type.baseType).baseType : Except Fault PortType)
    if columns.isEmpty then return node.port "output" else throw .missingMember
  | .array element values => do
    let paths ← emitValues values
    arrayOfPorts (.list (paths.map Datum.path)) (← arrayOf element).name .nothing
  | .emptyArray element count => do
    let size ← emitValue count
    sizedArrayNode size (← arrayOf element).name
  | .object entries => do
    let pairs ← emitEntries entries
    objectOfPorts (.list (pairs.map fun pair => Datum.path pair.1))
      (.list (pairs.map fun pair => Datum.path pair.2)) .nothing
  | .enumeration name type => enumerationNode name type.name .nothing
  | .not _ value => do notNode (← emitValue value)
  | .negate _ value => do negateNode (← emitValue value)
  | .binary kind operator type left right => do
    if ← type.isString then
      let front ← emitTexts kind left
      let back ← emitTexts kind right
      joinTexts ((front ++ back).map Datum.path)
    else
      let leftPath ← emit left
      let rightPath ← emit right
      let leftPath ← outputPort leftPath left
      let rightPath ← outputPort rightPath right
      if ["&&", "||", "^"].contains operator then operatorNode operator leftPath rightPath
      else
        let leftPath ← numberOperand leftPath (← left.type)
        let rightPath ← numberOperand rightPath (← right.type)
        operatorNode operator leftPath rightPath
  | .comparison operators _ operands => do
    match operands with
    | [] => throw .badIndex
    | first :: rest =>
      match ← emitComparisons (emit first) first operators rest with
      | [] => throw .badIndex
      | result :: results => allOf result results
  | .access value accessor => do
    let path ← emit value
    let type ← value.type
    emitAccess (← valuePort path type) type accessor
  | .port _ node port => do return (← emit node).port port
  | .associative name portNames arguments named _ outputs => do
    let node ← createNode name
    let names ← emitCollected node outputs portNames arguments
    discard (emitCollected node outputs names named)
    return node
  | .native name arguments named terminals inputTypes _ _ => do
    let node ← createNode name
    stopCollecting name node
    let (names, _) ← (← getThe Construction).registry.portNames name
    let positional ← emitPositional arguments names inputTypes
    let byName ← emitNamed names inputTypes named
    connectPlaced node.port (placed names positional byName)
    setTerminal node (flagData terminals)
    return node
  | .function name body arguments named terminals inputTypes _ _ => do
    let node ← emit body
    let names := parameterNames body
    let positional ← emitPositional arguments names inputTypes
    let byName ← emitNamed names inputTypes named
    connectPlaced node.port (placed names positional byName)
    let node ← rename node s!"call: '{name}'"
    setTerminal node (flagData terminals)
    return node
  | .construct type arguments named => do
    let node ← createValueNode type
    let members := (Catalogue.members? type).getD []
    let names := members.map Prod.fst
    let types ← (members.mapM (fun member => PortType.ofName member.2) :
      Except Fault (List PortType))
    let positional ← emitPositional arguments names types
    let byName ← emitNamed names types named
    connectPlaced (fun name => node.port ("value." ++ name)) (placed names positional byName)
    return node.port "output"
  | .scope name parameters results code terminals => do
    let compound ← createCompound .nothing .nothing
    let memory ← emitParameters compound {} parameters
    let memory ← declareResults compound memory results
    enter compound memory
    emitStatements code
    discard leave
    let renamed ← rename compound name
    setTerminal compound (flagData terminals)
    return renamed
  | .loop kind parameters results code limit index terminals condition => do
    let node ← createIterator (iteratorName kind)
    let memory ← emitLoopParameters node {} parameters
    let memory ← declareLoopResults kind node memory results
    let memory ← match limit with
      | some count => do
        let memory ← defining memory "max_iterations" "long" (node.input.port "max_iterations")
        connect (← emitValue count) (node.port "max_iterations")
        pure memory
      | none => do
        send (.deletePort node "max_iterations")
        pure memory
    let memory ← defining memory "#" "long" (node.input.port "current_index")
    let memory ← match index with
      | .mk id name start => do
        connect (← once id (emit start)) (node.port "current_index")
        defining memory name "long" (node.input.port "current_index")
    enter node memory
    emitStatements code
    match condition with
    | some term => connect (← emit term) (node.output.port "looping_condition")
    | none => pure ()
    discard leave
    setTerminal node (flagData terminals)
    return node
termination_by structural form => form

def emitValues : List Term → Building (List NodePath)
  | [] => return []
  | value :: rest => do
    let path ← emitValue value
    return path :: (← emitValues rest)
termination_by structural terms => terms

def emitComponent (node : NodePath) (cast : String) (type : PortType) (member : String) :
    Term → Building Unit
  | .mk id form => do
    let path ← once id (emitForm form)
    let (path, valueType) ← expanded path (← form.type)
    let path ← castComponent cast path valueType (← type.baseType)
    connect path (node.port ("value." ++ member))
termination_by structural term => term

/-- Builds components and connects them to the members of a value. -/
def emitComponents (node : NodePath) (cast : String) (type : PortType) (stem : String) :
    List String → List Term → Building Unit
  | letter :: letters, value :: rest => do
    emitComponent node cast type (stem ++ letter) value
    emitComponents node cast type stem letters rest
  | _, _ => return
termination_by structural _ terms => terms

/-- Builds the columns of a matrix and connects them; one value alone is a whole column. -/
def emitColumns (node : NodePath) (cast : String) (type : PortType) :
    List String → List (List Term) → Building Unit
  | column :: columns, values :: rest => do
    emitColumn node cast type column values
    emitColumns node cast type columns rest
  | _, _ => return
termination_by structural _ columns => columns

def emitColumn (node : NodePath) (cast : String) (type : PortType) (column : String) :
    List Term → Building Unit
  | [] => return
  | first :: rest => do
    if rest.isEmpty then emitComponent node cast type column first
    else
      emitComponent node cast type (column ++ ".x") first
      emitComponents node cast type (column ++ ".") ["y", "z", "w"] rest
termination_by structural terms => terms

def emitEntries : List Entry → Building (List (NodePath × NodePath))
  | [] => return []
  | .mk key value :: rest => do
    let keyPath ← emitValue key
    let valuePath ← emitValue value
    return (keyPath, valuePath) :: (← emitEntries rest)
termination_by structural entries => entries

/-- Builds the comparisons of a chain; `build` gives the operand before the next operator. -/
def emitComparisons (build : Building NodePath) (operand : Term) :
    List String → List Term → Building (List NodePath)
  | operator :: operators, next :: rest => do
    let left ← build
    let right ← emit next
    let left ← outputPort left operand
    let right ← outputPort right next
    let result ← comparisonNode operator left right
    return result :: (← emitComparisons (emit next) next operators rest)
  | _, _ => return []
termination_by structural _ terms => terms

def emitAccess (value : NodePath) (type : PortType) : Accessor → Building NodePath
  | .slice start stop step => do
    slicedNode value type (← sliceNode (emitBound start) (emitBound stop) (emitBound step))
  | .index _ index => indexedNode value type (emit index) (emitValue index)
  | .orDefault id key wanted default => do
    let result ← once id (propertyNode (emit key) wanted (emitDefault default))
    connect value (result.parent.port "object")
    return result
  | .member path => memberNode value type path
termination_by structural accessor => accessor

def emitAccessor : Accessor → Building NodePath
  | .slice start stop step => sliceNode (emitBound start) (emitBound stop) (emitBound step)
  | .index id index => once id (emitValue index)
  | .orDefault id key wanted default =>
    once id (propertyNode (emit key) wanted (emitDefault default))
  | .member _ => throw .missingMember
termination_by structural accessor => accessor

/-- How a bound of a slice is built, if it is there. -/
def emitBound : Option Term → Option (Building NodePath)
  | some term => some (emit term)
  | none => none
termination_by structural bound => bound

/-- How a default value is built, if it is there. -/
def emitDefault : Option Term → Option (Building NodePath)
  | some term => some (emitValue term)
  | none => none
termination_by structural default => default

def emitArgument (wanted : Except Fault PortType) : Argument → Building NodePath
  | .mk _ value => do
    let path ← emit value
    let (path, type) ← expanded path (← value.type)
    castTruth path type wanted
termination_by structural argument => argument

/-- Builds arguments of an operator that takes any number of them, for ports with the given names;
the names that are left over remain. -/
def emitCollected (node : NodePath) (outputs : Outputs) :
    List String → List Argument → Building (List String)
  | name :: names, argument :: rest => do
    let path ← emitArgument (orFault .badIndex (outputs.head?.map Prod.snd)) argument
    connect path (← addInput node name "auto")
    emitCollected node outputs names rest
  | names, _ => return names
termination_by structural _ arguments => arguments

/-- Builds the arguments that are given in order. -/
def emitPositional : List Argument → List String → List PortType → Building (List NodePath)
  | argument :: rest, _ :: names, types => do
    let path ← emitArgument (orFault .badIndex types.head?) argument
    return path :: (← emitPositional rest names types.tail)
  | _, _, _ => return []
termination_by structural arguments => arguments

def emitNamed (names : List String) (types : List PortType) :
    List Argument → Building (List (Nat × NodePath))
  | [] => return []
  | .mk name value :: rest => do
    let place := orFault .badValue (name.bind fun name => names.idxOf? name)
    let path ← emit value
    let (path, type) ← expanded path (← value.type)
    let path ← castTruth path type (do orFault .badIndex types[← place]?)
    let spot ← place
    return (spot, path) :: (← emitNamed names types rest)
termination_by structural arguments => arguments

/-- Adds the parameters of a compound to its ports and variables. -/
def emitParameters (compound : NodePath) : Memory → List Parameter → Building Memory
  | memory, [] => return memory
  | memory, .mk name type default :: rest => do
    discard (addOutput compound.input name type.name)
    let memory ← defining memory name type.name (compound.input.port name)
    match default with
    | some value => connect (← emit value) (compound.port name)
    | none => pure ()
    emitParameters compound memory rest
termination_by structural _ parameters => parameters

def emitLoopParameters (node : NodePath) : Memory → List LoopParameter → Building Memory
  | memory, [] => return memory
  | memory, .mk name type default isTarget :: rest => do
    discard (addOutput node.input name type.name)
    let held := if isTarget then type.name else withoutLevel type.name
    let memory ← defining memory name held (node.input.port name)
    if isTarget then send (.setPortNote node name "iterationTarget" "true")
    match default with
    | some value => connect (← emit value) (node.port name)
    | none => connect (← valueNamed name) (node.port name)
    emitLoopParameters node memory rest
termination_by structural _ parameters => parameters

def emitStatements : List Statement → Building Unit
  | [] => return
  | statement :: rest => do
    emitStatement statement
    emitStatements rest
termination_by structural statements => statements

def emitStatement : Statement → Building Unit
  | .empty => throw .missingMember
  | .make term => discard (emit term)
  | .assignment id targets operator value => onceOnly id do
    let path ← emit value
    let paths ← valuesFor targets.length operator value path
    emitTargets targets paths
  | .takeOver id node => onceOnly id do
    let path ← emit node
    takeOver path (← node.outputs)
termination_by structural statement => statement

def emitTargets : List Target → List NodePath → Building Unit
  | target :: targets, path :: paths => do
    emitTarget path target
    emitTargets targets paths
  | _, _ => return
termination_by structural targets => targets

def emitTarget (value : NodePath) : Target → Building Unit
  | .ignored => return
  | .declared name type => define name type.name value
  | .reference name _ => assignTo name value
  | .part id kind base accessor _ => discard <| once id do
    let result ← partNode kind value (← base.type) accessor.memberPath? (emitValue base)
      (emitAccessor accessor)
    assign (← variableName base) result
    return result
termination_by structural target => target

end

end GraphScript.Emission
