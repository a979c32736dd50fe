import GraphScript.Text.Quoted
import GraphScript.Act

/-!
# Files

A tree of text files below one root.  Paths are lists of parts; the first part of the root's own
path is its name.  Outside of the tree only the folders that paths can start from are known to
exist.
-/

namespace GraphScript

/-- The parts of a path. -/
abbrev Path : Type := List String

namespace Path

/-- Goes one step along a path: up for two dots, nowhere for one dot or an empty part. -/
def step (path : Path) (part : String) : Path :=
  if part == "" || part == "." then path
  else if part == ".." then path.dropLast
  else path ++ [part]

/-- The path that a text leads to from another path.  A leading slash starts from the top. -/
def follow (start : Path) (text : String) : Path :=
  (Text.parts '/' text).foldl step (if Text.startsWith "/" text then [] else start)

/-- The parts of a path as it is written, without empty parts and single dots. -/
def written (text : String) : Path :=
  (Text.parts '/' text).filter fun part => part != "" && part != "."

def settled (path : Path) : Path := path.foldl step []

def text (path : Path) : String := "/".intercalate path

/-- The last part that a text names, without going up or down. -/
def lastName (text : String) : String :=
  (((Text.parts '/' text).filter fun part => part != "" && part != ".").getLast?).getD ""

end Path

/-- What stands at a path. -/
inductive Place where
  | file (text : String)
  | folder
  deriving DecidableEq

/-- Text files by their paths below a root. -/
structure Files where
  root : String
  entries : List (String × String)
  deriving Inhabited

namespace Files

/-- The name that stands for the folder that relative paths start from. -/
def workingFolder : String := "<cwd>"

/-- The name that stands for the folder that scripts are named relative to. -/
def scriptFolder : String := "<bsl>"

def find? (files : Files) (path : Path) : Option Place :=
  match path with
  | [] => some .folder
  | first :: rest =>
    if rest.isEmpty && (first == files.root || first == workingFolder || first == scriptFolder) then
      some .folder
    else if first == files.root then
      match files.entries.find? fun entry => Path.follow [] entry.1 == rest with
      | some entry => some (.file entry.2)
      | none =>
        if files.entries.any fun entry => rest.isPrefixOf (Path.follow [] entry.1) then some .folder
        else none
    else none

def unifiedLineEnds : List Char → List Char
  | '\r' :: '\n' :: rest => '\n' :: unifiedLineEnds rest
  | '\r' :: rest => '\n' :: unifiedLineEnds rest
  | letter :: rest => letter :: unifiedLineEnds rest
  | [] => []

/-- The longest name of a file, in bytes. -/
def longestName : Nat := 255

/-- Why a path below a folder that exists cannot be opened. -/
def openFault (start path : Path) : Fault :=
  match path.drop start.length with
  | first :: _ =>
    if first.utf8ByteSize > longestName then .accident .longName else .accident .missingFile
  | [] => .accident .missingFile

def read (files : Files) (start path : Path) : Except Fault String :=
  match files.find? path with
  | some (.file text) => .ok (String.ofList (unifiedLineEnds text.toList))
  | some .folder => .error (.accident .folderAsFile)
  | none => .error (openFault start path)

/-- Walks along the parts of a path, each of which has to lead on from a folder. -/
def walk (files : Files) : Path → List String → Except Accident Path
  | here, [] => .ok here
  | here, part :: rest =>
    match files.find? here with
    | some .folder =>
      if part.utf8ByteSize > longestName then .error .longName
      else files.walk (here.step part) rest
    | some (.file _) => .error .notAFolder
    | none => .error .missingFile

def openAt (files : Files) (path : String) : Except Accident String := do
  match files.find? (← files.walk [] (Text.parts '/' path)) with
  | some (.file text) => return String.ofList (unifiedLineEnds text.toList)
  | some .folder => .error .folderAsFile
  | none => .error .missingFile

def put (files : Files) (place : Path) (text : String) : Files :=
  if files.entries.any fun entry => Path.follow [] entry.1 == place then
    { files with
      entries := files.entries.map fun entry =>
        if Path.follow [] entry.1 == place then (entry.1, text) else entry }
  else { files with entries := files.entries ++ [(place.text, text)] }

def write (files : Files) (path : Path) (text : String) : Except Accident Files := do
  match files.find? (← files.walk [] path) with
  | some .folder => .error .folderAsFile
  | _ =>
    match path with
    | first :: rest =>
      if first == files.root then return files.put rest text else .error .blockedFile
    | [] => .error .folderAsFile

/-- The files below a root; of two texts for one file the later counts. -/
def ofList (root : String) (entries : List (String × String)) : Files :=
  entries.foldl (fun files entry => files.put (Path.follow [] entry.1) entry.2) ⟨root, []⟩

/-- What the system says about a path that it cannot open. -/
def complaint (trouble : Accident) (path : String) : String :=
  let reason := match trouble with
    | .missingFile => "[Errno 2] No such file or directory"
    | .blockedFile => "[Errno 13] Permission denied"
    | .notAFolder => "[Errno 20] Not a directory"
    | .folderAsFile => "[Errno 21] Is a directory"
    | .longName => "[Errno 36] File name too long"
    | _ => ""
  reason ++ ": " ++ Text.quoted path

end Files

end GraphScript
