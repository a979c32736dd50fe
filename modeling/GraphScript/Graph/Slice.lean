import GraphScript.Graph.Constant

/-!
# The compound of a slice

A slice takes the elements of a sequence from a start to a stop in steps.  The compound computes the
indices of those elements from the size of the sequence; each of the three bounds may be missing,
and a negative one counts from the end.
-/

/-! ## Circuits -/

namespace GraphScript.Graph

/-- Where a value comes from: an input of the compound, or a gate. -/
inductive Wire where
  | input (name : String)
  | gate (number : Nat)
  deriving DecidableEq

/-- A gate: a node, or an output of the compound, which passes a value on. -/
inductive Gate where
  | constant (value : Int)
  /-- A node of a kind with an output port, and wires to its named ports. -/
  | node (kind port : String) (sources : List (Wire × String))
  /-- A node of a kind that takes any number of inputs. -/
  | collect (kind : String) (sources : List Wire)
  | output (name : String) (source : Wire)
  deriving DecidableEq

def Gate.wires : Gate → List Wire
  | constant _ => []
  | node _ _ sources => sources.map Prod.fst
  | collect _ sources => sources
  | output _ source => [source]

/-- Gates in the order in which they are drawn; each takes its values from inputs and earlier
gates. -/
abbrev Circuit : Type := List Gate

abbrev Planning (α : Type) : Type := StateM Circuit α

def plan (gate : Gate) : Planning Wire :=
  modifyGet fun circuit => (.gate circuit.length, circuit ++ [gate])

/-- The port that a wire comes from, when the gates so far are at some ports. -/
def Wire.port (compound : NodePath) (ports : List NodePath) : Wire → NodePath
  | input name => compound.input.port name
  | gate number => ports[number]?.getD compound

/-- Where wires to named ports come from. -/
def portsOf (compound : NodePath) (ports : List NodePath) (sources : List (Wire × String)) :
    List (Datum × String) :=
  (sources.map fun source => (source.1.port compound ports, source.2)).map fun wire =>
    (.path wire.1, wire.2)

def Gate.draw (compound : NodePath) (ports : List NodePath) : Gate → Building NodePath
  | constant value => constantNode (.whole value) "long" .nothing .nothing
  | node kind port sources => wiredNode kind port (portsOf compound ports sources)
  | collect kind sources => collectingNode kind ((sources.map (·.port compound ports)).map .path)
  | output name source => do
    let port := source.port compound ports
    connect port (compound.output.port name)
    return port

/-- Draws gates after those at some ports. -/
def drawGates (compound : NodePath) : List NodePath → Circuit → Building (List NodePath)
  | ports, [] => return ports
  | ports, gate :: rest => do
    let port ← gate.draw compound ports
    drawGates compound (ports ++ [port]) rest

end GraphScript.Graph

/-! ## The compound of a slice -/

namespace GraphScript.Graph.Slice

def constant (value : Int) : Planning Wire := plan (.constant value)

def sum (first second : Wire) : Planning Wire := plan (.collect "add" [first, second])

def logic (name : String) (first second : Wire) : Planning Wire :=
  plan (.node (logicKind name) "output" [(first, "first"), (second, "second")])

def less (first second : Wire) : Planning Wire := logic "less" first second

def choice (condition whenTrue whenFalse : Wire) : Planning Wire :=
  plan (.node (logicKind "if") "output"
    [(condition, "condition"), (whenTrue, "true_case"), (whenFalse, "false_case")])

def negate (value : Wire) : Planning Wire := plan (.node "negate" "negated" [(value, "value")])

def output (name : String) (source : Wire) : Planning Unit := discard (plan (.output name source))

/-- The numbers that a slice compares and combines with. -/
structure Numbers where
  zero : Wire
  one : Wire
  minusOne : Wire

def numbers : Planning Numbers := do
  let zero ← constant 0
  let one ← constant 1
  let minusOne ← constant (-1)
  return { zero, one, minusOne }

/-- The step: one where it is missing or zero. -/
def settledStep (numbers : Numbers) : Planning Wire := do
  let isZero ← logic "equal" (.input "step") numbers.zero
  let isOpen ← logic "or" isZero (.input "step_is_none")
  choice isOpen numbers.one (.input "step")

/-- A bound inside the sequence: one below zero counts from the end, and one beyond either end is
moved to `edge` before the sequence or after it. -/
def settledBound (bound zero edge : Wire) : Planning Wire := do
  let fromEnd ← sum bound (.input "size")
  let beforeStart ← less fromEnd zero
  let early ← choice beforeStart edge fromEnd
  let isLate ← logic "greater_or_equal" bound (.input "size")
  let last ← sum (.input "size") edge
  let late ← choice isLate last bound
  let isEarly ← less bound zero
  choice isEarly early late

def stepCount (lower upper one : Wire) (divisor : Planning Wire) : Planning Wire := do
  let distance ← plan (.collect "subtract" [upper, lower, one])
  let divisor ← divisor
  let quotient ← plan (.collect "divide" [distance, divisor])
  sum quotient one

def indexCount (start stop step isBackward : Wire) (numbers : Numbers) : Planning Wire := do
  let backward ← stepCount stop start numbers.one (negate step)
  let forward ← stepCount start stop numbers.one (pure step)
  let stopFirst ← less stop start
  let whenBackward ← choice stopFirst backward numbers.zero
  let startFirst ← less start stop
  let whenForward ← choice startFirst forward numbers.zero
  choice isBackward whenBackward whenForward

/-- The wires that lead to the loop, with the ports of the loop that they lead to. -/
def results : Planning (List (Wire × String)) := do
  let numbers ← numbers
  let step ← settledStep numbers
  output "out_step" step
  let isBackward ← less step numbers.zero
  let startDefault ← choice isBackward (.input "size") numbers.zero
  let start ← choice (.input "start_is_none") startDefault (.input "start")
  let backwardStop ← negate (.input "size")
  let stopDefault ← choice isBackward backwardStop (.input "size")
  let stop ← choice (.input "stop_is_none") stopDefault (.input "stop")
  let edge ← choice isBackward numbers.minusOne numbers.zero
  let start ← settledBound start numbers.zero edge
  output "out_start" start
  let stop ← settledBound stop numbers.zero edge
  output "out_stop" stop
  let count ← indexCount start stop step isBackward numbers
  output "out_count" count
  return [(count, "max_iterations"), (start, "start"), (step, "step")]

/-- The gates of a slice. -/
def circuit : Circuit := (results.run []).2

/-- The wires from the gates to the loop. -/
def loopWires : List (Wire × String) := (results.run []).1

/-- The index in a round of the loop. -/
def roundIndex : Planning Unit := do
  let offset ← plan (.collect "multiply" [.input "step", .input "current_index"])
  let index ← sum offset (.input "start")
  output "indices" index

/-- The gates inside of the loop. -/
def loopCircuit : Circuit := (roundIndex.run []).2

def addInputs (compound : NodePath) : Building Unit := do
  discard (addOutput compound.input "size" "long")
  discard (addOutput compound.input "start_is_none" "bool")
  discard (addOutput compound.input "start" "long")
  discard (addOutput compound.input "stop_is_none" "bool")
  discard (addOutput compound.input "stop" "long")
  discard (addOutput compound.input "step_is_none" "bool")
  discard (addOutput compound.input "step" "long")

def addOutputs (compound : NodePath) : Building Unit := do
  discard (addInput compound.output "out_start" "long")
  discard (addInput compound.output "out_stop" "long")
  discard (addInput compound.output "out_step" "long")
  discard (addInput compound.output "out_count" "long")
  discard (addInput compound.output "out_indices" "array<long>")

/-- Draws the loop that lists the indices, when the gates of the slice are at some ports. -/
def addLoop (compound : NodePath) (ports : List NodePath) : Building Unit := do
  let loop ← createIterator "for_each"
  enter loop {}
  discard (addOutput loop.input "start" "long")
  discard (addOutput loop.input "step" "long")
  discard (addInput loop.output "indices" "array<long>")
  discard (drawGates loop [] loopCircuit)
  discard leave
  (portsOf compound ports loopWires).forM fun (source, name) => connect source (loop.port name)
  connect (loop.port "indices") (compound.output.port "out_indices")

/-- Draws a slice, and gives its compound. -/
def create (name context : Datum) : Building NodePath := do
  let compound ← createCompound name context
  enter compound {}
  addInputs compound
  addOutputs compound
  addLoop compound (← drawGates compound [] circuit)
  discard leave
  return compound

end GraphScript.Graph.Slice
