import GraphScript.Emission.Build
import GraphScript.Editor.Workplace

/-!
# Actions

What the user can do in the editor.  An action may leave tasks, which are carried out when it is
over; when something goes wrong the remaining tasks are dropped.
-/

/-! ## Text in plain letters -/

namespace GraphScript.Text

def shortEscape (code : Nat) : List Char := '\\' :: 'u' :: Document.hexDigits 4 code

def asciiChar (letter : Char) : List Char :=
  let code := letter.toNat
  if letter == '"' || letter == '\\' then ['\\', letter]
  else if 32 ≤ code && code < 127 then [letter]
  else if letter == '\n' then ['\\', 'n']
  else if letter == '\r' then ['\\', 'r']
  else if letter == '\t' then ['\\', 't']
  else if code == 8 then ['\\', 'b']
  else if code == 12 then ['\\', 'f']
  else if code < 0x10000 then shortEscape code
  else
    let rest := code - 0x10000
    shortEscape (0xd800 + rest / 0x400) ++ shortEscape (0xdc00 + rest % 0x400)

def asciiQuoted (text : String) : String :=
  String.ofList ('"' :: (text.toList.flatMap asciiChar ++ ['"']))

end GraphScript.Text

/-! ## Opening, saving and closing -/

namespace GraphScript.Editor

def addTab (make : String → Tab) : Editing Unit := do
  let number := (← getThe Workplace).opened + 1
  let id := s!"id{number}"
  modifyThe Workplace fun place => { place with opened := number }
  note (.pageLoaded id)
  changeStrip (·.add (make id))

def languageOf (path : String) : String :=
  let name := String.ofList ((Text.afterLast "/" path).toList.dropWhile (· == '.'))
  let ending := if Text.holds "." name then (Text.afterLast "." name).map Char.toLower else ""
  if ending == "py" then "python"
  else if ending == "bf" || ending == "bfl" then "bsl"
  else "plaintext"

/-- Shows the file at a written path: in the tab that has its path, or else in a new tab. -/
def showFile (path content : String) : Editing Unit := do
  let strip := (← window).strip
  let written := Path.written path
  match strip.tabs.values.find? fun tab => tab.path == some written.settled with
  | some tab => changeStrip (·.activateTab tab.id)
  | none => addTab (Tab.ofFile written (languageOf path) content)

def openPath (path : String) : Editing Unit := do
  match (← getThe Workplace).files.openAt path with
  | .ok content => showFile path content
  | .error trouble => note (.warning ("Failed to open file: " ++ Files.complaint trouble path))

def openFile (folder : String) : Editing Unit := do
  discard window
  note (.openDialog folder)
  match ← chosenPath with
  | none => return
  | some path => openPath path

/-- Gives a tab a path and a content, and writes them to the file; then the text counts as
unmodified.  The path and the content are kept when the file cannot be written. -/
def saveTab (id : String) (path : Path) (content : String) : Editing Unit := do
  let settled := path.settled
  changeStrip (·.update id fun tab => { tab with path := some settled, content := content })
  let files ← orAccident ((← getThe Workplace).files.write settled content)
  modifyThe Workplace fun place => { place with files := files }
  changeStrip (·.mark id false)

/-- Asks the page of the current tab for its text, and gives the number of that tab. -/
def requestContent : Editing (Option String) := do
  match ← active? with
  | none =>
    print "active tab is none"
    return none
  | some tab =>
    note (.script tab.id "getEditorContent();")
    return some tab.id

/-- Saves the tab without a file under a path that is not open yet. -/
def saveUnder (id : String) (path content : String) : Editing Unit := do
  let settled := (Path.written path).settled
  if (← window).strip.tabs.values.any fun tab => tab.path.isSome &&
    tab.pathText == settled.text then
    note (.critical "Path already open in another editor.")
  else saveTab id settled content

/-- Saves a text that a page delivered into the tab that is current now. -/
def deliverContent (content : Option String) : Editing Unit := do
  match content with
  | none => note (.warning "Failed to retrieve editor content.")
  | some content =>
    let tab ← active
    match tab.path with
    | some path => saveTab tab.id path content
    | none =>
      note .saveDialog
      match ← chosenPath with
      | none => return
      | some path => saveUnder tab.id path content

/-- The number of seconds after which a page is given up. -/
def patience : Nat := 10

def save : Editing Unit := do
  match ← requestContent with
  | none => return
  | some _ =>
    match (← getThe Workplace).conduct.answer with
    | .delivered content => deliverContent content
    | .silent =>
      note (.slept patience)
      throw (.refusal "Something went pretty wrong...")

def removeTab (id : String) : Editing Unit := do
  discard (tabOf id)
  note (.deleted id)
  changeStrip (·.remove id)

/-- What the user wants of a modified tab that is to be closed: to save it, which leaves it open, or
to give it up. -/
def answerClose (id : String) (button : Int) : Editing Unit := do
  if button == 0 then
    discard (tabOf id)
    changeStrip (·.activateTab id)
    save
  else if button == 1 then removeTab id

/-- Closes a tab.  For a modified text the user is asked what to do with it. -/
def closeTab (id : String) : Editing Unit := do
  let tab ← tabOf id
  if !tab.isModified then removeTab id
  else
    note (.askToSave tab.name)
    answerClose id (← reply)

/-! ## Actions -/

/-- How the editor is started. -/
inductive Start where
  | plain
  | docked
  | window
  | alone
  deriving DecidableEq

/-- The keys that the editor knows. -/
inductive Key where
  | create
  | close
  | openFile
  | save
  | build
  | other
  deriving DecidableEq

/-- What the user does. -/
inductive Action where
  | start (how : Start)
  | create
  | openFile
  | save
  | build
  | help
  | reloadTargets
  | close (position : Int)
  | closeActive
  | press (key : Key) (control : Bool)
  | activate (position : Int)
  | selectTarget (position : Int)
  | setMethod (name : String)
  | setModified (isModified : Bool)
  /-- The page sends a text to see whether it comes back. -/
  | echo (text : String)
  | pageReady
  | reloadTab
  | saveTab (path content : Option String)
  /-- A tab outside of the window, for a file or for none. -/
  | looseTab (path : Option String) (isModified : Bool)
  | writeFile (path content : String)
  deriving DecidableEq

def newWindow : Editing Window := do
  note .pluginLoaded
  let place ← getThe Workplace
  return { targets := .ofNames (place.graphs ++ place.boards) }

/-- Opens a window, which takes the place of the one before. -/
def openWindow : Editing Unit := do
  let window ← newWindow
  modifyThe Workplace fun place => { place with window := some window }

/-- Makes the control that a window is docked in, in place of the one before. -/
def makeControl : Editing Unit := do
  if (← getThe Workplace).hasControl then note .controlDeleted
  note .controlCreated
  modifyThe Workplace fun place => { place with hasControl := true }

def startEditor : Start → Editing Unit
  | .plain => openWindow
  | .docked => do
    makeControl
    openWindow
    note .shown
    note .focused
  | .window => do
    discard newWindow
    note .shown
    note .focused
  | .alone => do
    note .hostStarted
    discard newWindow
    note .shown
    note .focused
    note .applicationRun

def nextName (kind : String) (names : List String) : String := kind ++ toString (names.length + 1)

/-- The name of the graph or board to build in, which is created where that is wanted. -/
def targetName : Option Target → Editing (Option String)
  | none => return none
  | some (.existing name) => return some name
  | some .newGraph => do
    let name := nextName "bifrostGraphShape" (← getThe Workplace).graphs
    modifyThe Workplace fun place => { place with graphs := place.graphs ++ [name] }
    note (.created name)
    reloadTargets
    return some name
  | some .newBoard => do
    let name := nextName "bifrostBoard" (← getThe Workplace).boards
    modifyThe Workplace fun place => { place with boards := place.boards ++ [name] }
    note (.created name)
    reloadTargets
    return some name

/-- Runs the script of a tab.  A tab without a file stands for a file that is not there. -/
def runTab (around : Elaboration.Surroundings) (tab : Tab) :
    Elaboration.Elaborating (List (Option Program.Term)) := do
  match tab.path with
  | none => Elaboration.runText around tab.pathText
  | some path =>
    if tab.pathText.toList.contains '\n' then Elaboration.runText around tab.pathText
    else
      let source ← Elaboration.sourceAt around [] path.settled
      Elaboration.runScript around source

def buildTab (tab : Tab) : Editing Unit := do
  let place ← getThe Workplace
  let start (registry : Overload.Registry) : Graph.Construction :=
    { Graph.Construction.start registry place.host "/" with added := place.added }
  let (result, session) :=
    (Emission.build (runTab ⟨place.files, [""], false⟩ tab) start).runOn (.start place.registry)
  modifyThe Workplace fun place =>
    { place with registry := session.desk.registry, log := place.log ++ session.desk.log }
  let build ← result
  modifyThe Workplace fun place =>
    { place with
      commands := place.commands ++ build.construction.commands
      added := build.construction.added }
  Act.ofExcept build.result

/-- Builds the script of the current tab with a method and in a target. -/
def buildActive (method : String) (target : Option Target) : Editing Unit := do
  match ← active? with
  | none => return
  | some tab =>
    if method != "vnn" then throw (.unsupported "")
    match ← targetName target with
    | none => buildTab tab
    | some name =>
      changeWindow fun window => { window with targets := window.targets.selectLabel name }
      buildTab tab

/-- Saves the current tab and builds its script in the selected target. -/
def build : Editing Unit := do
  let before ← window
  let target ← before.targets.chosen
  save
  buildActive before.method target

def Task.run : Task → Editing Unit
  | save => Editor.save
  | build => Editor.build

def later (task : Task) : Editing Unit :=
  modifyThe Workplace fun place => { place with waiting := place.waiting ++ [task] }

/-- Closes the current tab; without one the answer is no. -/
def closeActive : Editing Document := do
  match ← active? with
  | none => return .bool false
  | some tab =>
    closeTab tab.id
    return .null

/-- Handles a key.  The key for building is not used up. -/
def press (key : Key) (control : Bool) : Editing Unit := do
  discard window
  match key, control with
  | .create, true => addTab Tab.untitled
  | .close, true => discard closeActive
  | .openFile, true => openFile ""
  | .save, true => later .save
  | .build, true =>
    later .build
    note .unhandledKey
  | _, _ => note .unhandledKey

def fillingScript (tab : Tab) : String :=
  "initializeEditor(\x7b\"title\": " ++ Text.asciiQuoted tab.title ++ ", \"content\": " ++
    Text.asciiQuoted tab.content ++ ", \"language\": " ++ Text.asciiQuoted tab.language ++ "\x7d);"

def helpFolder : String := "<bsl>/bsl/syntax"

def belowRoot (path : String) : Editing String := do
  let root := (← getThe Workplace).files.root
  return s!"{root}/{path}"

/-- Saves the current tab at a path, or where its file is, with a new content or the one it has. -/
def saveActive (path content : Option String) : Editing Bool := do
  let tab ← active
  let target ← match path with
    | some path => do
      let below ← belowRoot path
      pure (some (Path.written below))
    | none => pure tab.path
  match target with
  | none =>
    print "Cant save to 'None'"
    return false
  | some path =>
    saveTab tab.id path (content.getD tab.content)
    return true

def looseTab (path : Option String) (isModified : Bool) : Editing Document := do
  let tab ← match path with
    | none => pure (Tab.untitled "loose")
    | some path => do
      let below ← belowRoot path
      let content ← orAccident ((← getThe Workplace).files.openAt below)
      pure (Tab.ofFile (Path.written below) "bsl" content "loose")
  note (.pageLoaded tab.id)
  let tab := { tab with isModified }
  return .list [.text tab.id, .text tab.name, .text tab.title, .text tab.pathText,
    .bool tab.isModified]

/-- Reads the file of the current tab into its page, unless the text is modified. -/
def reloadActive : Editing Unit := do
  let tab ← active
  if tab.isModified then return
  let path ← orFault .missingMember tab.path
  let content ← orAccident ((← getThe Workplace).files.openAt path.text)
  note (.script tab.id ("setEditorContent(" ++ content ++ ");"))

/-- The position as a natural number, if it is not negative. -/
def position? (position : Int) : Option Nat := if position < 0 then none else some position.toNat

def Action.run : Action → Editing Document
  | start how => do
    startEditor how
    return .null
  | create => do
    discard Editor.window
    addTab Tab.untitled
    return .null
  | openFile => do
    Editor.openFile ""
    return .null
  | save => do
    Editor.save
    return .null
  | build => do
    Editor.build
    return .null
  | help => do
    Editor.openFile helpFolder
    return .null
  | reloadTargets => do
    Editor.reloadTargets
    return .null
  | close position => do
    let strip := (← Editor.window).strip
    let page := (position? position).bind fun position => strip.pages[position]?
    closeTab (← orFault .missingMember page).view
    return .null
  | closeActive => Editor.closeActive
  | press key control => do
    Editor.press key control
    return .null
  | activate position => do
    discard Editor.window
    match position? position with
    | some position => changeStrip (·.activate position)
    | none => pure ()
    return .null
  | selectTarget position => do
    discard Editor.window
    changeWindow fun window =>
      { window with targets := { window.targets with selected := position } }
    return .null
  | setMethod name => do
    discard Editor.window
    changeWindow fun window => { window with method := name }
    return .null
  | setModified isModified => do
    let tab ← active
    changeStrip (·.mark tab.id isModified)
    return .null
  | echo text => do
    discard active
    print s!"test: '{text}'"
    return .text text
  | pageReady => do
    let tab ← active
    note (.script tab.id (fillingScript tab))
    return .null
  | reloadTab => do
    reloadActive
    return .null
  | saveTab path content => do
    return .bool (← saveActive path content)
  | looseTab path isModified => Editor.looseTab path isModified
  | writeFile path content => do
    let below ← belowRoot path
    let written := (Path.written below).settled
    let files ← orAccident ((← getThe Workplace).files.write written content)
    modifyThe Workplace fun place => { place with files := files }
    return .null

/-- Carries out tasks in order. -/
def runTasks : List Task → Editing Unit
  | [] => return
  | task :: rest => do
    task.run
    runTasks rest

def Action.complete (action : Action) : Editing Document := do
  let answer ← action.run
  let tasks := (← getThe Workplace).waiting
  modifyThe Workplace fun place => { place with waiting := [] }
  runTasks tasks
  return answer

/-- One step of the user: an action, with what the user does during it.  Events, commands and
printed lines are those of this step. -/
def Workplace.step (place : Workplace) (action : Action) (conduct : Conduct) :
    Except Fault Document × Workplace :=
  let (answer, after) := action.complete.runOn
    { place with conduct := conduct, events := #[], commands := #[], log := #[] }
  (answer, { after with waiting := [] })

end GraphScript.Editor
