import GraphScript.Graph.Construction
import GraphScript.Files

/-!
# The workplace

The workplace is what the editor works on: its window with the tabs and the targets, the files, the
graphs and boards of the host, and what the user does during the current step.
-/

namespace GraphScript.Editor

/-! ## Events -/

/-- Something that the editor asks of its surroundings. -/
inductive Event where
  | pageLoaded (view : String)
  | script (view code : String)
  | openDialog (folder : String)
  | saveDialog
  | askToSave (name : String)
  | warning (message : String)
  | critical (message : String)
  | shown
  | focused
  | deleted (view : String)
  | unhandledKey
  | pluginLoaded
  | created (name : String)
  | controlCreated
  | controlDeleted
  | hostStarted
  | applicationRun
  /-- Nothing happened for a number of seconds. -/
  | slept (seconds : Nat)
  deriving DecidableEq

namespace Event

def windowName : String := "BSLEditor"

def pagePath : String := "<bsl>/res/mini.html"

def record : Event → List Document
  | pageLoaded view => [.text "url", .text view, .text pagePath]
  | script view code => [.text "script", .text view, .text code]
  | openDialog folder => [.text "open dialog", .text "Open File", .text folder]
  | saveDialog => [.text "save dialog", .text "Save File"]
  | askToSave name =>
    [.text "question", .text "Warning", .text "Save changes",
      .text s!"Do you want to save changes made to '{name}'?",
      .list [.text "Save", .text "Dont save", .text "Cancel"], .text "Save", .text "Cancel"]
  | warning message => [.text "warning", .text "Error", .text message]
  | critical message => [.text "critical", .text "Error", .text message]
  | shown => [.text "show", .text windowName]
  | focused => [.text "focus", .text windowName]
  | deleted view => [.text "delete", .text view]
  | unhandledKey => [.text "unhandled key"]
  | pluginLoaded => [.text "plugin", .text "bifrostGraph"]
  | created name => [.text "create", .text name]
  | controlCreated => [.text "control", .text windowName, .text "BSL Editor", .bool true]
  | controlDeleted => [.text "delete control", .text windowName]
  | hostStarted => [.text "standalone"]
  | applicationRun => [.text "application"]
  | slept seconds => [.text "slept", .whole seconds]

end Event

/-! ## Targets -/

/-- Where a script can be built. -/
inductive Target where
  | existing (name : String)
  | newGraph
  | newBoard
  deriving DecidableEq

def Target.label : Target → String
  | existing name => name
  | newGraph => "New Graph..."
  | newBoard => "New Board..."

/-- The targets on offer. -/
structure Targets where
  entries : List Target := []
  /-- The position of the selected entry; any number can be set. -/
  selected : Int := -1

namespace Targets

/-- The selected target.  A position before the first entry selects nothing. -/
def chosen (targets : Targets) : Except Fault (Option Target) :=
  if targets.selected < 0 then .ok none
  else some <$> orFault .badIndex targets.entries[targets.selected.toNat]?

/-- Selects the first entry with a label, if there is one. -/
def selectLabel (targets : Targets) (label : String) : Targets :=
  match targets.entries.findIdx? fun target => target.label == label with
  | some position => { targets with selected := position }
  | none => targets

/-- The targets for the names that the host has; the first is selected. -/
def ofNames (names : List String) : Targets where
  entries := (Text.sorted names).map .existing ++ [.newGraph, .newBoard]
  selected := 0

/-- Offers new names, and keeps the selection by its label. -/
def reload (targets : Targets) (names : List String) : Except Fault Targets := do
  let label := ((← targets.chosen).map Target.label).getD ""
  return (ofNames names).selectLabel label

end Targets

/-! ## Tabs -/

/-- A tab with its text. -/
structure Tab where
  id : String
  path : Option Path
  content : String
  language : String
  isModified : Bool
  deriving DecidableEq

namespace Tab

def name (tab : Tab) : String :=
  match tab.path with
  | none => "Untitled"
  | some path => path.getLast?.getD ""

def title (tab : Tab) : String := tab.name ++ (if tab.isModified then " *" else "")

def pathText (tab : Tab) : String :=
  match tab.path with
  | none => "None"
  | some path => path.text

/-- A tab without a file. -/
def untitled (id : String) : Tab where
  id := id
  path := none
  content := ""
  language := "bsl"
  isModified := true

def ofFile (path : Path) (language content : String) (id : String) : Tab where
  id := id
  path := some path
  content := content
  language := language
  isModified := false

end Tab

/-- A page of the strip: the number of its tab, and what is shown for it. -/
structure Page where
  view : String
  label : String
  tip : String
  deriving DecidableEq

def Page.renew (page : Page) (tab : Tab) : Page :=
  { page with label := tab.title, tip := tab.pathText }

/-- The tabs by their numbers, and a strip of pages for them. -/
structure TabStrip where
  tabs : Table Tab := ∅
  pages : List Page := []
  current : Option Nat := none

namespace TabStrip

/-- The tab of the current page. -/
def active? (strip : TabStrip) : Except Fault (Option Tab) :=
  match strip.current.bind fun position => strip.pages[position]? with
  | none => .ok none
  | some page => some <$> orFault .missingKey (strip.tabs.get? page.view)

/-- Makes the page at a position current, if there is one. -/
def activate (strip : TabStrip) (position : Nat) : TabStrip :=
  if position < strip.pages.length then { strip with current := some position } else strip

def activateTab (strip : TabStrip) (id : String) : TabStrip :=
  match strip.pages.findIdx? fun page => page.view == id with
  | some position => strip.activate position
  | none => strip

/-- Adds a tab and a page for it, which becomes current. -/
def add (strip : TabStrip) (tab : Tab) : TabStrip where
  tabs := strip.tabs.insert tab.id tab
  pages := strip.pages ++ [⟨tab.id, tab.title, tab.pathText⟩]
  current := some strip.pages.length

/-- The current position once the page at a position is gone: it goes down by one when the removed
page stood before it, and when no page is left where it was. -/
def currentWithout (removed remaining : Nat) : Nat → Option Nat
  | 0 => if remaining = 0 then none else some 0
  | current + 1 =>
    if removed < current + 1 ∨ remaining ≤ current + 1 then some current else some (current + 1)

def removePage (strip : TabStrip) (id : String) : TabStrip :=
  match strip.pages.findIdx? fun page => page.view == id with
  | none => strip
  | some position =>
    let remaining := strip.pages.eraseIdx position
    { strip with
      pages := remaining
      current := strip.current.bind (currentWithout position remaining.length) }

/-- Removes the page of a tab, and then the tab. -/
def remove (strip : TabStrip) (id : String) : TabStrip :=
  let strip := strip.removePage id
  { strip with tabs := strip.tabs.erase id }

def update (strip : TabStrip) (id : String) (change : Tab → Tab) : TabStrip :=
  match strip.tabs.get? id with
  | none => strip
  | some tab => { strip with tabs := strip.tabs.insert id (change tab) }

/-- Sets whether the text of a tab is modified, and renews what is shown for its page. -/
def mark (strip : TabStrip) (id : String) (isModified : Bool) : TabStrip :=
  let strip := strip.update id ({ · with isModified })
  match strip.tabs.get? id with
  | none => strip
  | some tab =>
    { strip with
      pages := strip.pages.map fun page => if page.view == id then page.renew tab else page }

end TabStrip

/-! ## The workplace -/

/-- The window of the editor. -/
structure Window where
  strip : TabStrip := {}
  targets : Targets := {}
  method : String := "vnn"

/-- What a page does when it is asked for its text. -/
inductive PageAnswer where
  /-- It gives the text, or nothing in place of a text. -/
  | delivered (content : Option String)
  /-- It never answers. -/
  | silent
  deriving DecidableEq

/-- What the user and the pages do during a step. -/
structure Conduct where
  /-- The path that the user chooses in a dialog; an empty one cancels. -/
  path : String := ""
  answer : PageAnswer := .delivered none
  /-- The numbers of the buttons that the user presses, one for each question. -/
  replies : List Int := []

/-- Work that is done once the current action is over. -/
inductive Task where
  | save
  | build
  deriving DecidableEq

/-- What the editor works on. -/
structure Workplace where
  files : Files
  registry : Overload.Registry
  host : Graph.Host := {}
  graphs : List String := []
  boards : List String := []
  hasControl : Bool := false
  window : Option Window := none
  opened : Nat := 0
  added : Nat := 0
  conduct : Conduct := {}
  waiting : List Task := []
  events : Array Event := #[]
  commands : Array Graph.Command := #[]
  log : Log := #[]

/-- An action of the editor. -/
abbrev Editing (α : Type) : Type := Act Workplace α

def note (event : Event) : Editing Unit :=
  modifyThe Workplace fun place => { place with events := place.events.push event }

def print (line : String) : Editing Unit :=
  modifyThe Workplace fun place => { place with log := place.log.push line }

def window : Editing Window := do
  orFault .missingMember (← getThe Workplace).window

def changeWindow (change : Window → Window) : Editing Unit :=
  modifyThe Workplace fun place => { place with window := place.window.map change }

def changeStrip (change : TabStrip → TabStrip) : Editing Unit :=
  changeWindow fun window => { window with strip := change window.strip }

def active? : Editing (Option Tab) := do
  (← window).strip.active?

def active : Editing Tab := do
  orFault .missingMember (← active?)

/-- The tab with a number. -/
def tabOf (id : String) : Editing Tab := do
  orFault .missingKey ((← window).strip.tabs.get? id)

def orAccident {α : Type} : Except Accident α → Except Fault α
  | .ok value => .ok value
  | .error kind => .error (.accident kind)

/-- The path that the user chooses in a dialog, as it is written. -/
def chosenPath : Editing (Option String) := do
  let place ← getThe Workplace
  let root := place.files.root
  let path := place.conduct.path
  return if path == "" then none else some s!"{root}/{path}"

/-- The button that the user presses; without one, the last. -/
def reply : Editing Int := do
  match (← getThe Workplace).conduct.replies with
  | [] => return 2
  | first :: rest =>
    modifyThe Workplace fun place =>
      { place with conduct := { place.conduct with replies := rest } }
    return first

/-- Offers the graphs and boards that the host has now. -/
def reloadTargets : Editing Unit := do
  let current ← window
  note .pluginLoaded
  let place ← getThe Workplace
  let targets ← current.targets.reload (place.graphs ++ place.boards)
  changeWindow fun window => { window with targets := targets }

end GraphScript.Editor
