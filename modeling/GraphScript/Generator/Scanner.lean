import GraphScript.Generator.Description

/-!
# Scanning

A scanner skips the characters that its state ignores and then tries its rules.  A rule without a
routine gives its token or, if it has no kind, nothing.  A routine can change the token, drop it,
change the state of the scanner, or go on with another text.  Characters that no rule matches are
tokens of their own if they are literals, and else go to the routine for mistakes.
-/

namespace GraphScript.Generator

open Work

namespace Scanner

/-- A scanner that starts with a text. -/
def load (scanner : Scanner) (text : String) : Scanner :=
  { scanner with data := some text.toList, position := 0, length := some text.toList.length }

/-- A scanner without its text.  It does not know the length of what it has. -/
def reset (scanner : Scanner) : Scanner :=
  { scanner with data := some [], position := 0, line := 1, length := none }

def enter (scanner : Scanner) (state : String) (rules : List (List TokenRule)) : Scanner :=
  { scanner with
    rules := rules
    ignored := (scanner.table.ignored.get? state).getD ""
    onMistake := ((scanner.table.onMistake.get? state).getD none)
    onEnd := scanner.table.onEnd.get? state
    state := state }

end Scanner

def begin (which : Nat) (state : Document) : Work Unit := do
  let scanner ← scanner which
  match text? state with
  | some name =>
    match scanner.table.rules.get? name with
    | some rules => adjust which (·.enter name rules)
    | none => throw (.trouble .state ("Undefined state " ++ state.shown))
  | none =>
    match state with
    | .list _ | .record _ => throw .badOperand
    | _ => throw (.trouble .state ("Undefined state " ++ state.shown))

/-- Puts a scanner into a state and keeps the one before on the stack, whether or not the state
exists. -/
def pushState (which : Nat) (state : Document) : Work Unit := do
  let scanner ← scanner which
  modify fun bench => { bench with stack := scanner.state :: bench.stack }
  begin which state

def popState (which : Nat) : Work Unit := do
  match (← get).stack with
  | [] => throw .badIndex
  | state :: rest =>
    modify fun bench => { bench with stack := rest }
    begin which (.text state)

def skip (which : Nat) (count : Int) : Work Unit :=
  adjust which fun scanner => { scanner with position := scanner.position + count }

/-- The number of lines that a value ends. -/
def lineEnds : Value → Except Fault Nat
  | .plain (.text text) => .ok (Text.occurrences '\n' text)
  | .plain (.list items) => .ok (items.filter fun item => item.str == "\n").length
  | _ => .error .missingMember

/-- What a routine makes of its token: the token itself, or something else. -/
inductive Outcome where
  | same
  | other (token : Option Token)

/-- Carries out one step of a routine.  `again` asks the scanner for its next token. -/
def scanStep (which : Nat) (again : Work (Option Token)) (step : ScanStep) (token : Token)
    (outcome : Outcome) : Work (Token × Outcome) := do
  match step with
  | .drop => return (token, .other none)
  | .countLines =>
    let count ← lineEnds token.value
    adjust which fun scanner => { scanner with line := scanner.line + count }
    return (token, outcome)
  | .pop =>
    popState which
    return (token, outcome)
  | .setKind kind => return ({ token with kind := kind }, outcome)
  | .setValue value => return ({ token with value := .plain value }, outcome)
  | .push state =>
    pushState which (.text state)
    return (token, outcome)
  | .begin state =>
    begin which (.text state)
    return (token, outcome)
  | .skip count =>
    skip which count
    return (token, outcome)
  | .more text =>
    if (← scanner which).data == some text.toList then return (token, .other none)
    adjust which (·.load text)
    return (token, .other (← again))

def scanSteps (which : Nat) (again : Work (Option Token)) :
    List ScanStep → Token → Outcome → Work (Option Token)
  | [], token, .same => return some token
  | [], _, .other token => return token
  | step :: rest, token, outcome => do
    let (token, outcome) ← scanStep which again step token outcome
    scanSteps which again rest token outcome

def firstMatch (rules : List (List TokenRule)) (text : List Char) : Option (TokenRule × Nat) :=
  rules.flatten.findSome? fun rule => (rule.pattern.first? text).map fun stop => (rule, stop.1)

/-- What a scanner holds on to while it looks for one token. -/
structure Search where
  position : Int
  length : Option Nat
  ignored : String
  data : List Char

def Search.start (scanner : Scanner) : Search :=
  ⟨scanner.position, scanner.length, scanner.ignored, scanner.data.getD []⟩

/-- The next token of a scanner, where the number bounds the attempts. -/
def search (which : Nat) : Nat → Search → Work (Option Token)
  | 0, _ => throw (.accident .tooDeep)
  | bound + 1, here => do
    let again : Work (Option Token) := do search which bound (.start (← scanner which))
    let some length := here.length | throw .badOperand
    let now ← scanner which
    if here.position < length then
      let text := here.data.drop here.position.toNat
      let letter := text.headD ' '
      if here.ignored.toList.contains letter then
        search which bound { here with position := here.position + 1 }
      else
        match firstMatch now.rules text with
        | some (rule, count) =>
          let token : Token := ⟨rule.kind.getD "", .text (String.ofList (text.take count)),
            now.line, here.position, count⟩
          let stop := here.position + count
          match rule.routine with
          | none =>
            if (rule.kind.getD "").isEmpty then search which bound { here with position := stop }
            else
              adjust which ({ · with position := stop })
              return some token
          | some routine =>
            adjust which ({ · with position := stop, matching := true })
            let found ← scanSteps which again routine.scanSteps token .same
            let after ← scanner which
            unless after.matching do throw .missingMember
            adjust which ({ · with matching := false })
            match found with
            | some found => return some found
            | none =>
              search which bound { here with position := after.position, ignored := after.ignored }
        | none =>
          if now.table.literals.contains letter then
            adjust which ({ · with position := here.position + 1 })
            return some ⟨String.singleton letter, .text (String.singleton letter), now.line,
              here.position, 1⟩
          else
            let shown := Text.quoted (String.singleton letter)
            adjust which ({ · with position := here.position })
            match now.onMistake with
            | some routine =>
              let left := (now.data.getD []).drop here.position.toNat
              let token : Token := ⟨"error", .text (String.ofList left), now.line, here.position,
                left.length⟩
              let found ← scanSteps which again routine.scanSteps token .same
              let after ← scanner which
              if after.position == here.position then
                throw (.trouble .scanning ("Scanning error. Illegal character " ++ shown))
              match found with
              | some found => return some found
              | none => search which bound { here with position := after.position }
            | none =>
              throw (.trouble .scanning
                ("Illegal character " ++ shown ++ " at index " ++ toString here.position))
    else
      match now.onEnd with
      | some routine =>
        adjust which ({ · with position := here.position })
        scanSteps which again routine.scanSteps ⟨"eof", .text "", now.line, here.position, 1⟩ .same
      | none =>
        adjust which ({ · with position := here.position + 1 })
        if now.data.isNone then
          throw (.trouble .noText "No input string given with input()")
        return none

def attempts (scanner : Scanner) : Nat := 2 * (scanner.data.getD []).length + 2000

def nextToken (which : Nat) : Work (Option Token) := do
  let now ← scanner which
  search which (attempts now) (.start now)

/-- All tokens up to the end, where the number bounds them. -/
def tokensFrom (which : Nat) : Nat → Array Token → Work (Array Token)
  | 0, _ => throw (.accident .tooDeep)
  | bound + 1, found => do
    match ← nextToken which with
    | some token => tokensFrom which bound (found.push token)
    | none => return found

def allTokens (which : Nat) : Work (Array Token) := do
  let now ← scanner which
  tokensFrom which (attempts now) #[]

/-- A copy of a scanner.  With its rules bound anew, it has in every state only the last list of
rules. -/
def copied (which : Nat) (anew : Bool) : Work Nat := do
  let source ← scanner which
  let copy ←
    if anew then do
      let routines ← (source.table.onMistake.entries.mapM fun entry => match entry.2 with
        | some routine => (return (entry.1, some routine) : Except Fault (String × Option Routine))
        | none => throw .missingMember)
      pure { source with
        table := { source.table with
          rules := source.table.rules.map fun rules => rules.drop (rules.length - 1)
          onMistake := ⟨routines⟩ } }
    else pure source
  modify fun bench => { bench with scanners := bench.scanners.push copy }
  return (← get).scanners.size - 1

end GraphScript.Generator
