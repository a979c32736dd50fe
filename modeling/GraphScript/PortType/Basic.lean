import GraphScript.Act
import GraphScript.Text.Cut
import GraphScript.Catalogue.TypeTable

/-!
# Port types

A port type is a name, such as `float`, `Math::float3` or `array<array<int>>`, and for the type of a
whole node also the list of the node's output ports.  The name is kept as it was written, so two
spellings of one type are different port types.

The properties of a type are read off its name.  Those that need the component type of an array,
vector or matrix can fail, because the shortest names have no such part.
-/

namespace GraphScript

inductive PortType where
  | mk (name : String) (ports : Option (List (String × PortType)))

namespace PortType

def name : PortType → String
  | mk name _ => name

def ports : PortType → Option (List (String × PortType))
  | mk _ ports => ports

@[simp] theorem name_mk (name : String) (ports : Option (List (String × PortType))) :
    (mk name ports).name = name := rfl

@[simp] theorem ports_mk (name : String) (ports : Option (List (String × PortType))) :
    (mk name ports).ports = ports := rfl

/-- Two port types are the same when their names are. -/
instance : BEq PortType := ⟨fun left right => left.name == right.name⟩

/-- Why a name is not the name of a port type. -/
inductive Invalid where
  /-- The innermost name is not known. -/
  | unknown (name : String)
  | deepArray (name : String)
  | missingPorts
  deriving DecidableEq

def Invalid.message : Invalid → String
  | unknown name => s!"Unknown type: '{name}'"
  | deepArray name => s!"Max array dim is 3, got '{name}'"
  | missingPorts => ""

def Invalid.fault (cause : Invalid) : Fault := .refusal cause.message

def nodeName : String := "__NODE"

/-- The name of the type that is still to be found. -/
def autoName : String := "auto"

/-- The innermost name: what stands between the last `<` and the `>` that follows it. -/
def innerName (name : String) : String := Text.before ">" (Text.afterLast "<" name)

/-- The placeholders for any type, any array, and arrays of one to three levels. -/
def wildcards : List String := ["*", "[]", "[1]", "[2]", "[3]"]

/-- The innermost name with its shorthand expanded and a placeholder read as `auto`. -/
def settledName (name : String) : String :=
  let inner := innerName name
  let full := (Catalogue.expand? inner).getD inner
  if wildcards.contains full then autoName else full

/-- The port type with a name, and with the ports of a node where they are known. -/
def make (name : String) (ports : Option (List (String × PortType))) : Except Fault PortType :=
  let settled := settledName name
  if !(Catalogue.isTypeName settled || settled == nodeName || settled == autoName) then
    .error (Invalid.unknown name).fault
  else if Text.occurrences '>' name > 3 then .error (Invalid.deepArray name).fault
  else if name == nodeName && ports.isNone then .error Invalid.missingPorts.fault
  else .ok (mk name ports)

/-- The port type with a name that is not a node's. -/
def ofName (name : String) : Except Fault PortType := make name none

def arrayName (levels : Nat) (name : String) : String :=
  Text.repeated levels "array<" ++ name ++ Text.repeated levels ">"

variable (type : PortType)

def members : List (String × String) := (Catalogue.members? (settledName type.name)).getD []

def hasMember (member : String) : Bool := (type.members.lookup member).isSome

def isArray : Bool := Text.startsWith "array<" type.name

def arrayDim : Nat := Text.occurrences '<' type.name

def member (member : String) : Except Fault PortType :=
  make (arrayName type.arrayDim ((type.members.lookup member).getD "NONE")) type.ports

def isSizeDigit (letter : Char) : Bool := letter == '2' || letter == '3' || letter == '4'

/-- Whether the name ends in the sizes of a matrix. -/
def isMatrix : Except Fault Bool :=
  match Text.fromEnd 3 type.name, Text.fromEnd 2 type.name, Text.fromEnd 1 type.name with
  | some rows, some times, some columns =>
    .ok (isSizeDigit rows && times == 'x' && isSizeDigit columns)
  | _, _, _ => .error .badIndex

/-- Whether the name ends in the size of a vector. -/
def isVector : Except Fault Bool :=
  match Text.fromEnd 1 type.name with
  | none => .error .badIndex
  | some size => if isSizeDigit size then do return !(← type.isMatrix) else .ok false

/-- The innermost type of an array, the component type of a vector or matrix, and else the type. -/
def baseType : Except Fault PortType := do
  if type.isArray then
    make (innerName type.name) type.ports
  else if ← type.isMatrix then
    make (Text.dropEnd 3 (Text.afterLast "::" type.name)) type.ports
  else if ← type.isVector then
    make (Text.dropEnd 1 (Text.afterLast "::" type.name)) type.ports
  else make type.name type.ports

def baseAmong (names : List String) : Except Fault Bool := do
  return names.contains (← type.baseType).name

def isFraction : Except Fault Bool := type.baseAmong ["float", "double"]

def isInteger : Except Fault Bool :=
  type.baseAmong ["char", "uchar", "short", "ushort", "int", "uint", "long", "ulong"]

/-- Whether the base type is a whole number without sign. -/
def isUnsigned : Except Fault Bool := type.baseAmong ["uchar", "ushort", "uint", "ulong"]

def isBool : Except Fault Bool := type.baseAmong ["bool"]

def isString : Except Fault Bool := type.baseAmong ["string"]

def isNode : Bool := type.name == nodeName

/-- The type that a node stands for: that of its only port.  Any other type is itself. -/
def onlyPort : PortType :=
  match type.isNode, type.ports.getD [] with
  | true, [(_, port)] => port
  | _, _ => type

def isField : Except Fault Bool :=
  type.baseAmong ["Core::Fields::ScalarField", "Core::Fields::VectorField"]

/-- Whether the base type takes eight bytes. -/
def isBig : Except Fault Bool := type.baseAmong ["long", "ulong", "double"]

/-- Whether this is a number or truth value, or a vector or matrix of them. -/
def isNumeric : Except Fault Bool := do
  if ← type.isBool then return !type.isArray
  if ← type.isInteger then return !type.isArray
  if ← type.isFraction then return !type.isArray
  return false

def sizeOfDigit (letter : Char) : Int := letter.toNat - '0'.toNat

/-- The number of components of a vector, and minus one for other types. -/
def vectorDim : Except Fault Int := do
  if ← type.isVector then
    return ((Text.fromEnd 1 type.name).map sizeOfDigit).getD (-1)
  else return -1

/-- The rows and columns of a matrix, and minus one twice for other types. -/
def matrixDim : Except Fault (Int × Int) := do
  if ← type.isMatrix then
    return (((Text.fromEnd 3 type.name).map sizeOfDigit).getD (-1),
      ((Text.fromEnd 1 type.name).map sizeOfDigit).getD (-1))
  else return (-1, -1)

/-- The bytes of a scalar, and minus one where the size is not known. -/
def numericSize : Except Fault Int := do
  if ← type.isBool then return 1
  if ["char", "uchar"].contains type.name then return 1
  if ["short", "ushort"].contains type.name then return 2
  if ["int", "uint", "float"].contains type.name then return 4
  if ← type.isBig then return 8
  return -1

end PortType

end GraphScript
