import GraphScript.Elaboration.Script
import GraphScript.Notice
import GraphScript.Overload.Builtin
import GraphScript.Program.Format

/-!
# Workloads

Each workload runs a sample script and sums up what came of it.
-/

namespace GraphScript.Sample

open GraphScript.Language (Tree)
open Elaboration (Elaborating Function)
open Program (Term)

/-! ## Sample scripts -/

def joinLines (lines : List String) : String := String.join (lines.map fun line => line ++ "\n")

/-- The two statements with a number that lengthen the plain script. -/
def plainPair (number : Nat) : List String :=
  [s!"    x = x + y * {number}.0f - a / (b + 1.0f);", s!"    k = k + {number} - i * 2;"]

def plain (pairs : Nat) : String :=
  joinLines <|
    ["function bench::main (FLOAT a, FLOAT b, LONG i, BOOL c => FLOAT out, LONG oi) \x7b",
      "    FLOAT x = a + b * 2.0f - 1.0f;",
      "    FLOAT y = (a - b) / 3.0f + x ** 2.0f;",
      "    LONG  k = i + 1 - 2 * 3;"] ++
    (List.range pairs).flatMap plainPair ++
    ["    out = x + y;", "    oi = k;", "\x7d"]

/-- The beginning of the rich script: comments, overloads and functions. -/
def richHead : List String :=
  [
    "// header line comment",
    "/* block",
    "   comment */",
    "overload sin (FLOAT | DOUBLE);",
    "overload cos (in0 = FLOAT | DOUBLE | *);",
    "overload equal (FLOAT[] | [], FLOAT) => out0 = BOOL;",
    "function bench::helper (FLOAT q => FLOAT r) \x7b r = q * 2.0f; \x7d",
    "function bench::feed (FLOAT fin => FLOAT fout @fin) \x7b fout = fin + 1.0f; \x7d",
    "function bench::rich (FLOAT a, FLOAT b = 1.0f, LONG i, BOOL c => FLOAT out, LONG oi) \x7b"]

def richForms : List String :=
  [
    "",
    "    FLOAT fv = a + b * 2.0f - 1.0f;",
    "    DOUBLE dv = 1.0 + 2.5d - 3.0;",
    "    FLOAT pv = a ** 2.0f % 3.0f;",
    "    FLOAT nv = -a + (+b);",
    "    BOOL cnd = a > b && c || a <= 0.0f;",
    "    BOOL cnd2 = !(a == b) ^ (a != b) && a >= b && a < b;",
    "    LONG lv = 1l + 2 - 3i * 4s;",
    "    INT iv = 1i;",
    "    SHORT sv = 1s;",
    "    CHAR cv = 1c;",
    "    UCHAR ucv = 1uc;",
    "    UINT uiv = 1ui;",
    "    USHORT usv = 1us;",
    "    ULONG ulv = 1ul + 2u;",
    "    STRING s = \"hello \\n\\t\\\"q\\\"\";",
    "    STRING s2 = s + \"bye\"; // concat",
    "    FLOAT3 v3 = \x7ba, b, 1.0f\x7df;",
    "    FLOAT3 v3b = \x7ba, b, 1.0f\x7d;",
    "    DOUBLE3 v3d = \x7b1.0, 2.0, 3.0\x7dd;",
    "    INT2 iv2 = \x7b1, 2\x7di;",
    "    BOOL3 bv3 = \x7btrue, false, true\x7db;",
    "    LONG4 lv4 = \x7b1, 2, 3, 4\x7dl;",
    "    UINT3 uiv3 = \x7b1, 2, 3\x7dui;",
    "    FLOAT2x2 m22 = \x7b1.0f, 0.0f | 0.0f, 1.0f\x7df;",
    "    FLOAT3x3 m33 = \x7ba, b, 0.0f | b, a, 0.0f | 0.0f, 0.0f, 1.0f\x7df;",
    "    FLOAT xcomp = v3.x + v3.y;",
    "    v3.x = a;",
    "    FLOAT[] arr = [a, b, 1.0f];",
    "    FLOAT[] arr2 = [FLOAT, 5];",
    "    FLOAT[] arr3 = [FLOAT];",
    "    LONG[][] arr2d = [[1, 2], [3, 4]];",
    "    FLOAT av = arr[0];",
    "    FLOAT[] slc1 = arr[0:2];",
    "    FLOAT[] slc2 = arr[1:];",
    "    FLOAT[] slc3 = arr[:2];",
    "    FLOAT[] slc4 = arr[::2];",
    "    FLOAT[] slc5 = arr[0:2:1];",
    "    FLOAT[] slc6 = arr[0::1];",
    "    FLOAT[] slc7 = arr[:2:1];",
    "    arr[0] = b;",
    "    s[0] = \"x\";",
    "    OBJECT obj = \x7b\"k1\": a, \"k2\" = b\x7d;",
    "    OBJECT obj2 = \x7b\x7d;",
    "    FLOAT oq = obj[\"k1\", FLOAT];",
    "    FLOAT oq2 = obj[\"k1\", a];",
    "    obj[\"k3\"] = 2.0f;",
    "    ROTATE_ORDER ro = ROTATE_ORDER.XYZ;",
    "    NODE sn = sin(a);",
    "    AUTO snv := sin(a);",
    "    ..., FLOAT rest = b;",
    "    __debug::type(a, named=b);",
    "    __debug::outputs(sn);",
    "    __debug::inputs(\"sin\");",
    "    __debug::dir(\"*\", nested=true);",
    "    __debug::dir(\"Core\", bifrost=true, custom=false);",
    "    FLOAT3 tc = FLOAT3\x7ba, y=b\x7d;",
    "    using => compound sub (FLOAT pa = a, FLOAT pb = b => FLOAT pout) \x7b",
    "        pout = pa + pb;",
    "    \x7d;",
    "    AUTO fe = for_each <d> (FLOAT[] data# = arr => FLOAT[] outv) <10 \x7b",
    "        outv = data * 2.0f;",
    "    \x7d;",
    "    AUTO fe2 = foreach (arr# => AUTO outarr) \x7b",
    "        outarr = arr + 1.0f;",
    "    \x7d;",
    "    AUTO it = iterate (FLOAT acc = 0.0f => FLOAT racc @acc) <5, #=0 \x7b",
    "        racc = acc + 1.0f;",
    "    \x7d;",
    "    AUTO it2 = iterate (FLOAT acc2 = 0.0f => FLOAT[] vals#) <3, #<idx>=0 \x7b",
    "        vals = acc2;",
    "    \x7d;",
    "    AUTO dw = do (FLOAT st = 0.0f => FLOAT rst @st) <5 \x7b",
    "        rst = st + 1.0f;",
    "    \x7d while (rst < 4.0f);",
    "    AUTO dw2 = nolimit do (FLOAT st2 = 0.0f => FLOAT rst2) \x7b",
    "        rst2 = st2 + 1.0f;",
    "    \x7d while (rst2 < 3.0f;);"]

def richRepetition (number : Nat) : List String :=
  richForms ++
    [s!"    out = fv + xcomp + {number}.0f;", s!"    oi = lv + {number};",
      "    bench::helper(q=a);"]

def rich (repetitions : Nat) : String :=
  joinLines (richHead ++ (List.range repetitions).flatMap richRepetition ++ ["\x7d"])

/-! ## Workloads -/

mutual

def treeSize : Tree → Nat
  | .leaf _ _ _ _ _ => 1
  | .node _ _ _ _ children => 1 + treeSizes children

/-- The number of nodes and leaves of several trees. -/
def treeSizes : List Tree → Nat
  | [] => 0
  | tree :: rest => treeSize tree + treeSizes rest

end

mutual

def readings : Term → Nat
  | .mk _ form => formReadings form

def formReadings : Program.Form → Nat
  | .reference _ _ => 1
  | .binary _ _ _ left right => readings left + readings right
  | _ => 0

end

def statementReadings : Program.Statement → Nat
  | .assignment _ _ _ value => readings value
  | _ => 0

/-- The surroundings without files. -/
def nowhere : Elaboration.Surroundings := ⟨⟨"<root>", []⟩, [""], false⟩

def functionsOf (script : String) : Elaborating (Table Function) := do
  discard (Elaboration.runText nowhere script)
  return (← getThe Elaboration.Session).functions

def statementsOf (function : Function) : List Program.Statement :=
  match function.body.form with
  | .scope _ _ _ code _ => code
  | _ => []

/-- The last function that a script defines, and the number of its functions. -/
def lastFunction (script : String) : Elaborating (Function × Nat) := do
  let functions ← functionsOf script
  return (← orFault .badIndex functions.values.getLast?, functions.size)

/-- Scripts with and without mistakes: those that every run tries, and those that are added in
turn. -/
def standingScripts : List String :=
  ["compound a() \x7b\x7d\n", "compound a() \x7b\n", "compound a() \x7b LONG = 1; \x7d\n", "?\n"]

def addedScripts : List String :=
  ["compound a() \x7b LONG x = 1; \x7d\n", "compound a() \x7b LONG x = 1.5; \x7d\n",
    "compound a() \x7b nothing::like_this(1); \x7d\n", "compound a() \x7b LONG x = y; \x7d\n"]

def verdictOn (registry : Overload.Registry) (script : String) : String :=
  match ((Elaboration.runText nowhere script).runOn (.start registry)).1 with
  | .ok _ => "ok"
  | .error (.report kind _) => kind.title
  | .error _ => "Exception"

/-- A sample script to run, and how long it is. -/
inductive Workload where
  | parse (pairs : Nat)
  | elaborate (pairs : Nat)
  | elaborateRich (repetitions : Nat)
  | results (repetitions : Nat)
  | mistakes (added : Nat)
  | operators
  deriving DecidableEq

def texts (values : List String) : Document := .list (values.map .text)

def Workload.run : Workload → Elaborating Document
  | parse pairs => do
    let source : Source := ⟨"<input>", (plain pairs).toList, false⟩
    let tree ← Elaboration.registering (Overload.withLog (Language.parse Language.table source))
    let found := tree.leaves
    let first := (found.head?.map Tree.symbol).getD ""
    let last := (found.getLast?.map Tree.outline).getD ""
    return .list [.whole (treeSize tree), .text first, .whole (Text.width last)]
  | elaborate pairs => do
    let (function, _) ← lastFunction (plain pairs)
    let statements := statementsOf function
    let read := statements.foldl (fun count statement => count + statementReadings statement)
      function.parameters.length
    let kind := (statements.getLast?.bind Program.Statement.kindName?).getD ""
    return .list [.whole read, .whole statements.length, .text kind]
  | elaborateRich repetitions => do
    let (function, count) ← lastFunction (rich repetitions)
    let statements := statementsOf function
    return .list [.whole statements.length,
      texts (statements.filterMap Program.Statement.kindName?), .whole count]
  | results repetitions => do
    let (function, count) ← lastFunction (rich repetitions)
    return .list [.whole count, .whole (statementsOf function).length,
      texts (function.results.map Program.Result.name)]
  | mistakes added => do
    let registry ← Elaboration.registry
    let turns := (List.range added).map fun index =>
      addedScripts.getD (index % addedScripts.length) ""
    let verdicts := (standingScripts ++ turns).map (verdictOn registry)
    return .list [texts (Text.sorted verdicts.eraseDups), .whole verdicts.length]
  | operators => do
    let registry ← Elaboration.registry
    return .list [.whole registry.operators.size, .whole registry.rules.size]

/-- Pairs of types that show how types are compared: the type of a target and the type of a
value. -/
def comparedTypes : List (String × String) :=
  [("float", "Math::float3"), ("float", "uint"), ("int", "uint"), ("array<int>", "uint"),
    ("long", "uint"), ("Math::float3", "float")]

def comparisons : Except Fault (List String) :=
  comparedTypes.mapM fun (target, value) => do
    let findings ← PortType.compare (← PortType.ofName target) (← PortType.ofName value)
    return toString findings.code

end GraphScript.Sample
