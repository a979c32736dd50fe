import GraphScript.Generator.Description
import GraphScript.Pattern.Reader

/-!
# Making scanners

A scanner is made from the variables and the token rules of a description.  The name of a token rule
is `t_` and the kind of its tokens; between them can stand the states that the rule belongs to.
Rules with routines are tried first, in the order of their lines, and then the plain patterns,
longer ones first.

Everything that is wrong with a description is reported before the making is given up.
-/

namespace GraphScript.Generator

open Work

/-- The state that a scanner starts in. -/
def initialState : String := "INITIAL"

def specFile : String := "spec.py"

/-- The same file when its text is known. -/
def sourceFile : String := "<root>/spec.py"

/-- What is known about the token rules of a description. -/
structure TokenPlan where
  tokens : List Document := []
  literals : Document := .text ""
  states : Table Bool := ⟨[(initialState, false)]⟩
  routines : Table (List Routine) := .empty
  patterns : Table (List (String × String)) := .empty
  ignored : Table String := .empty
  onMistake : Table Routine := .empty
  onEnd : Table Routine := .empty
  failed : Bool := false

/-- Work on a plan. -/
abbrev Planning (α : Type) : Type := StateT TokenPlan (ExceptT Fault (StateM Bench)) α

namespace TokenPlan

/-- Reports an error, after which no scanner is made. -/
def fail (text : String) : Planning Unit := do
  Work.error text
  modify ({ · with failed := true })

def statesOf (states : List String) (name : String) : List String × String :=
  let parts := (Text.parts '_' name).drop 1
  let lead := (parts.takeWhile fun part => states.contains part || part == "ANY").length
  let count := min lead (parts.length - 1)
  let named := parts.take count
  (if count = 0 then [initialState] else if named.contains "ANY" then states else named,
    "_".intercalate (parts.drop count))

def kindOf (plan : TokenPlan) (name : String) : String := (statesOf plan.states.keys name).2

def readTokens (description : Description) : Planning Unit := do
  let tokens := description.settings.get "tokens"
  if !tokens.isGiven then fail "No token list is defined"
  else
    match tokens with
    | .list names => modify ({ · with tokens := names })
    | _ => fail "tokens must be a list or tuple"

def readState (state : Document) : Planning Unit := do
  match state with
  | .list [.text name, kind] =>
    if kind.str != "inclusive" && kind.str != "exclusive" then
      fail (s!"State type for state " ++ Text.quoted name ++ " must be 'inclusive' or 'exclusive'")
    else if (← get).states.contains name then
      fail ("State " ++ Text.quoted name ++ " already defined")
    else modify fun plan =>
      { plan with states := plan.states.insert name (kind.str == "exclusive") }
  | .list [name, _] => fail ("State name " ++ name.shown ++ " must be a string")
  | _ =>
    fail ("Invalid state specifier " ++ state.shownGroup ++
      ". Must be a tuple (statename,'exclusive|inclusive')")

def readStates (description : Description) : Planning Unit := do
  let states := description.settings.get "states"
  if states.isGiven then
    match states with
    | .list items => items.forM readState
    | _ => fail "states must be defined as a tuple or list"

def readRule (name : String) (definition : Definition) : Planning Unit := do
  let (states, kind) := statesOf (← get).states.keys name
  let forAll {α : Type} (value : α) (table : Table α) : Table α :=
    states.foldl (fun table state => table.insert state value) table
  let addTo {α : Type} (value : α) (table : Table (List α)) : Table (List α) :=
    states.foldl (fun table state =>
      table.insert state ((table.get? state).getD [] ++ [value])) table
  match definition with
  | .routine routine =>
    if kind == "error" then modify fun plan =>
      { plan with onMistake := forAll routine plan.onMistake }
    else if kind == "eof" then modify fun plan => { plan with onEnd := forAll routine plan.onEnd }
    else if kind == "ignore" then
      fail (s!"{specFile}:{routine.line}: Rule " ++ Text.quoted name ++
        " must be defined as a string")
    else modify fun plan => { plan with routines := addTo routine plan.routines }
  | .value (.text text) =>
    if kind == "ignore" then
      modify fun plan => { plan with ignored := forAll text plan.ignored }
      if text.toList.contains '\\' then warn (name ++ " contains a literal backslash '\\'")
    else if kind == "error" then
      fail ("Rule " ++ Text.quoted name ++ " must be defined as a function")
    else modify fun plan => { plan with patterns := addTo (name, text) plan.patterns }
  | .value _ => fail (name ++ " not defined as a function or string")

/-- Sorts the rules by what they are for, and puts them into the order in which they are tried. -/
def readRules (description : Description) : Planning Unit := do
  modify fun plan => { plan with
    routines := plan.states.map fun _ => []
    patterns := plan.states.map fun _ => [] }
  let rules := description.definitions.filter fun entry => Text.startsWith "t_" entry.1
  if rules.isEmpty then fail "No rules of the form t_rulename are defined"
  else
    rules.forM fun (name, definition) => readRule name definition
    modify fun plan => { plan with
      routines := plan.routines.map fun routines =>
        routines.mergeSort fun left right => left.line ≤ right.line
      patterns := plan.patterns.map fun patterns =>
        patterns.mergeSort fun left right => Text.width left.2 ≥ Text.width right.2 }

/-- Whether a text is a name of letters, digits and underscores; one line end may follow. -/
def isTokenName (name : String) : Bool :=
  let letters := match name.toList.reverse with
    | '\n' :: rest => rest
    | letters => letters
  !letters.isEmpty && letters.all fun c => Pattern.isLetter c || c.isDigit || c == '_'

def checkTokens : Planning Unit := do
  let mut seen : List String := []
  for token in (← get).tokens do
    let name ← token.asText
    if !isTokenName name then
      fail (← filled ("Bad token name " ++ Text.quoted name))
    if seen.contains name then
      warn (← filled ("Token " ++ Text.quoted name ++ " multiply defined"))
    seen := name :: seen

def badLiterals : String :=
  "Invalid literals specification. literals must be a sequence of characters"

/-- Checks literals one after the other. -/
def checkEach : List Document → Planning Unit
  | [] => return
  | literal :: rest => do
    let isLetter : Bool := match literal with
      | .text text => decide (Text.width text ≤ 1)
      | _ => false
    if isLetter then checkEach rest
    else
      match filled ("Invalid literal " ++ literal.shown ++ ". Must be a single character") with
      | .ok message =>
        fail message
        checkEach rest
      | .error (.accident .badOperand) => fail badLiterals
      | .error fault => throw fault

def checkLiterals : Planning Unit := do
  match (← get).literals.iterated with
  | .ok items => checkEach items
  | .error _ => fail badLiterals

/-- A pattern as it stands in the written form of a state's rules. -/
def groupText (name pattern : String) : String := "(?P<" ++ name ++ ">" ++ pattern ++ ")"

/-- Where a routine stands. -/
def place (routine : Routine) : String := s!"{specFile}:{routine.line}"

def checkArguments (routine : Routine) : Planning Bool := do
  if routine.arguments > 1 then
    fail (place routine ++ ": Rule " ++ Text.quoted routine.name ++ " has too many arguments")
    return false
  else if routine.arguments < 1 then
    fail (place routine ++ ": Rule " ++ Text.quoted routine.name ++ " requires an argument")
    return false
  else return true

def checkRoutine (spacious : Bool) (routine : Routine) : Planning Unit := do
  if ← checkArguments routine then
    let text := routine.text.getD ""
    let name := Text.quoted routine.name
    if text.isEmpty then fail (place routine ++ ": No regular expression defined for rule " ++ name)
    else
      match Pattern.read spacious (groupText routine.name text) with
      | some (pattern, _) =>
        if pattern.matchesEmpty then
          fail (place routine ++ ": Regular expression for rule " ++ name ++
            " matches empty string")
      | none =>
        fail (place routine ++ ": Invalid regular expression for rule '" ++ routine.name ++ "'.")
        if text.toList.contains '#' then
          fail (place routine ++ ". Make sure '#' in rule " ++ name ++ " is escaped with '\\#'")

def checkPattern (spacious : Bool) (name text : String) : Planning Unit := do
  let plan ← get
  let kind := plan.kindOf name
  if !(plan.tokens.any fun token => text? token == some kind) && !Text.holds "ignore_" kind then
    fail ("Rule " ++ Text.quoted name ++ " defined for an unspecified token " ++ kind)
  else
    match Pattern.read spacious (groupText name text) with
    | some (pattern, _) =>
      if pattern.matchesEmpty then
        fail ("Regular expression for rule " ++ Text.quoted name ++ " matches empty string")
    | none =>
      fail ("Invalid regular expression for rule " ++ Text.quoted name ++ ".")
      if text.toList.contains '#' then
        fail ("Make sure '#' in rule " ++ Text.quoted name ++ " is escaped with '\\#'")

def checkState (spacious : Bool) (state : String) : Planning Unit := do
  let plan ← get
  let routines := (plan.routines.get? state).getD []
  let patterns := (plan.patterns.get? state).getD []
  routines.forM (checkRoutine spacious)
  patterns.forM fun (name, text) => checkPattern spacious name text
  if routines.isEmpty && patterns.isEmpty then
    fail ("No rules defined for state " ++ Text.quoted state)
  match plan.onMistake.get? state with
  | some routine => discard (checkArguments routine)
  | none => return

def isNameLetter (c : Char) : Bool := Pattern.isLetter c || c.isDigit || c == '_'

def nameAt? (start : String) (text : List Char) : Option (String × List Char) :=
  if start.toList.isPrefixOf text then
    some (String.ofList (text.takeWhile isNameLetter), text.dropWhile isNameLetter)
  else none

def definedRoutine? (start line : String) : Option String :=
  match line.toList.dropWhile Numeral.isBlank with
  | 'd' :: 'e' :: 'f' :: rest =>
    if (rest.head?.map Numeral.isBlank).getD false then
      match nameAt? start (rest.dropWhile Numeral.isBlank) with
      | some (name, '(' :: _) => some name
      | _ => none
    else none
  | _ => none

def definedVariable? (start line : String) : Option String :=
  match nameAt? start (line.toList.dropWhile Numeral.isBlank) with
  | some (name, rest) =>
    if (rest.dropWhile Numeral.isBlank).head? == some '=' then some name else none
  | none => none

/-- The names that are defined again: where, and where they were defined first. -/
def redefined (defined? : String → Option String) (source : String) : List (Nat × String × Nat) :=
  let lines := if source.isEmpty then [] else Text.parts '\n' source
  (lines.foldl (fun ((number, seen, found) : Nat × Table Nat × List (Nat × String × Nat)) line =>
    match defined? line with
    | none => (number + 1, seen, found)
    | some name =>
      match seen.get? name with
      | none => (number + 1, seen.insert name number, found)
      | some first => (number + 1, seen, found ++ [(number, name, first)])) (1, .empty, [])).2.2

/-- Looks in the file of the description for token rules that are defined twice. -/
def checkSource (source : String) : Planning Unit :=
  (redefined (fun line =>
    (definedRoutine? "t_" line).orElse fun _ => definedVariable? "t_" line) source).forM
    fun (number, name, first) =>
      fail s!"{sourceFile}:{number}: Rule {name} redefined. Previously defined on line {first}"

def checkRules (description : Description) : Planning Unit := do
  let plan ← get
  plan.states.keys.forM (checkState description.spacious)
  let hasRoutine := plan.states.keys.any fun state =>
    !((plan.routines.get? state).getD []).isEmpty || plan.onMistake.contains state
  match hasRoutine, description.source with
  | true, some source => checkSource source
  | _, _ => return

/-- Reads and checks everything that a scanner is made from. -/
def prepare (description : Description) : Planning Unit := do
  readTokens description
  let literals := description.settings.get "literals"
  if literals.isGiven then modify ({ · with literals := literals })
  readStates description
  readRules description
  checkTokens
  checkLiterals
  checkRules description

/-- A rule with its written form and the names of its groups. -/
structure Written where
  rule : TokenRule
  text : String
  names : List String

/-- Puts rules together into lists in which no group name occurs twice.  Two rules that share a name
cannot be told apart. -/
def grouped : Nat → List Written → Except Fault (List (List Written))
  | 0, _ => .error (.accident .tooDeep)
  | _, [] => .ok []
  | bound + 1, rules =>
    let names := rules.flatMap (·.names)
    if names.length = names.eraseDups.length then .ok [rules]
    else
      let half := rules.length / 2 + 1
      if rules.length ≤ half then .error (.accident .tooDeep)
      else do return (← grouped bound (rules.take half)) ++ (← grouped bound (rules.drop half))

/-- The rules of a state in the order in which they are tried. -/
def written (spacious : Bool) (plan : TokenPlan) (state : String) : List Written :=
  let read (name pattern : String) (routine : Option Routine) (kind : Option String) : Written :=
    let text := groupText name pattern
    let (body, names) := (Pattern.read spacious text).getD default
    ⟨⟨body, routine, kind⟩, text, names⟩
  ((plan.routines.get? state).getD []).map (fun routine =>
    read routine.name (routine.text.getD "") (some routine) (some (plan.kindOf routine.name))) ++
  ((plan.patterns.get? state).getD []).map fun (name, pattern) =>
    read name pattern none (if Text.holds "ignore_" name then none else some (plan.kindOf name))

def literalLetters (plan : TokenPlan) : List Char :=
  match plan.literals.iterated with
  | .ok items => items.flatMap fun item => item.str.toList
  | .error _ => []

def stateKind (exclusive : Bool) : String := if exclusive then "exclusive" else "inclusive"

def scanner (description : Description) (plan : TokenPlan) : Work Scanner := do
  let say (text : String) : Work Unit := if description.debug then note text else return
  say ("lex: tokens   = " ++ (Document.list plan.tokens).shown)
  say ("lex: literals = " ++ plan.literals.shown)
  say ("lex: states   = " ++
    (Document.record (plan.states.entries.map fun entry =>
      (entry.1, .text (stateKind entry.2)))).shown)
  let rules := plan.states.keys.map fun state => (state, written description.spacious plan state)
  for (state, _) in rules do
    for routine in (plan.routines.get? state).getD [] do
      let pattern := routine.text.getD ""
      say s!"lex: Adding rule {routine.name} -> '{pattern}' (state '{state}')"
    for (name, pattern) in (plan.patterns.get? state).getD [] do
      say s!"lex: Adding rule {name} -> '{pattern}' (state '{state}')"
  say "lex: ==== MASTER REGEXS FOLLOW ===="
  let mut lists : Table (List (List Written)) := .empty
  for (state, own) in rules do
    let parts ← grouped (own.length + 1) own
    lists := lists.insert state parts
    for (number, part) in parts.mapIdx fun number part => (number, part) do
      let text := "|".intercalate (part.map (·.text))
      say s!"lex: state '{state}' : regex[{number}] = '{text}'"
  let initial := (lists.get? initialState).getD []
  for (state, exclusive) in plan.states.entries do
    if state != initialState && !exclusive then
      lists := lists.insert state ((lists.get? state).getD [] ++ initial)
  let startIgnored := (plan.ignored.get? initialState).getD ""
  if !plan.onMistake.contains initialState then warn "No t_error rule is defined"
  let mut ignored := plan.ignored
  let mut onMistake : Table (Option Routine) := plan.onMistake.map some
  for (state, exclusive) in plan.states.entries do
    if exclusive then
      if !onMistake.contains state then
        warn ("No error rule is defined for exclusive state " ++ Text.quoted state)
      if !ignored.contains state && startIgnored != "" then
        warn ("No ignore rule is defined for exclusive state " ++ Text.quoted state)
    else
      if !onMistake.contains state then
        onMistake := onMistake.insert state ((onMistake.get? initialState).getD none)
      if !ignored.contains state then
        ignored := ignored.insert state ((ignored.get? initialState).getD "")
  let table : ScannerTable := {
    rules := lists.map fun parts => parts.map fun part => part.map (·.rule)
    texts := lists.map fun parts => parts.map fun part => "|".intercalate (part.map (·.text))
    ignored := ignored
    onMistake := onMistake
    onEnd := plan.onEnd
    literals := plan.literalLetters }
  return {
    table := table
    rules := (table.rules.get? initialState).getD []
    ignored := startIgnored
    onMistake := plan.onMistake.get? initialState
    onEnd := plan.onEnd.get? initialState
    state := initialState }

end TokenPlan

def makeScanner (description : Description) : Work Unit := do
  let ((), plan) ← (TokenPlan.prepare description).run {}
  if plan.failed then throw (.malformed "Can't build lexer")
  let made ← plan.scanner description
  modify fun bench => { bench with scanners := bench.scanners.push made }

end GraphScript.Generator
