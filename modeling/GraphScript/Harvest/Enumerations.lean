import GraphScript.Catalogue.TypeTable
import GraphScript.Document.Access
import GraphScript.Files
import GraphScript.Table

/-!
# Collecting enumerations

Enumerations are described in library folders.  The folders are found through configuration files,
which either include further configuration files or list folders.  A setting of the system names the
first ones.
-/

namespace GraphScript.Harvest

/-- A path below a folder, as it is written; one that starts with a slash stands for itself. -/
def below (folder : Path) (text : String) : Path :=
  if Text.startsWith "/" text then Path.written text else folder ++ Path.written text

/-- The text of a file without the lines that are comments. -/
def withoutComments (text : String) : List String :=
  (Text.parts '\n' text).filter fun line =>
    !Text.startsWith "#" (String.ofList (line.toList.dropWhile Numeral.isBlank))

/-- The files that the lines of a configuration include: what stands after the first colon. -/
def includedNames (lines : List String) : List String :=
  (lines.filter fun line => line.toList.contains ':').map fun line =>
    String.ofList (Text.trimWhere (fun letter => letter == ' ' || letter == ',' || letter == '"')
      (Text.before ":" (Text.after ":" line)).toList)

/-- The paths that are included from a folder; those with an open variable are left out. -/
def includedPaths (folder : Path) (lines : List String) : List Path :=
  ((includedNames lines).map fun name => Path.settled (below folder name)).filter fun path =>
    !Text.holds "$\x7b" path.text

def addFolders (folder : Path) : List Path → List Document → Except Fault (List Path)
  | folders, [] => .ok folders
  | folders, library :: rest => do
    let path := below folder (← (← library.demand "path").asText)
    addFolders folder (if folders.contains path then folders else folders ++ [path]) rest

def addConfigured (folder : Path) : List Path → List Document → Except Fault (List Path)
  | folders, [] => .ok folders
  | folders, entry :: rest => do
    if ← entry.has "jsonLibs" then
      let libraries ← (← entry.demand "jsonLibs").iterated
      addConfigured folder (← addFolders folder folders libraries) rest
    else addConfigured folder folders rest

/-- The folders that configuration files lead to; the fuel bounds the number of files. -/
def foldersFrom (files : Files) : Nat → List Path → List Path → Except Fault (List Path)
  | 0, _, folders => .ok folders
  | _, [], folders => .ok folders
  | fuel + 1, path :: rest, folders => do
    if path.isEmpty || (files.find? (Path.settled path)).isNone then
      foldersFrom files fuel rest folders
    else
      let lines := withoutComments (← files.read [] (Path.settled path))
      let content ← orFault (.accident .badDocument) (Document.read? ("\n".intercalate lines))
      let folder := path.dropLast
      if ← content.has "include" then
        foldersFrom files fuel ((includedPaths folder lines).reverse ++ rest) folders
      else if ← content.has "AminoConfigurations" then
        let entries ← (← content.demand "AminoConfigurations").iterated
        foldersFrom files fuel rest (← addConfigured folder folders entries)
      else foldersFrom files fuel rest folders

def valuesOf : List Document → Except Fault (List (String × Int))
  | [] => .ok []
  | member :: rest => do
    let key ← (← member.demand "enumKey").asText
    let value ← (← member.demand "enumValue").asInt
    return (key, value) :: (← valuesOf rest)

def addTypes (path : String) :
    Table Catalogue.Enumeration → List Document → Except Fault (Table Catalogue.Enumeration)
  | found, [] => .ok found
  | found, .record fields :: rest => do
    match fields.lookup "enumName" with
    | none => addTypes path found rest
    | some name =>
      let members ← (← (Document.record fields).demand "enumMembers").iterated
      let values := (Table.ofList (← valuesOf members)).entries
      let name ← name.asText
      addTypes path (found.insert name ⟨name, values, path⟩) rest
  | _, _ :: _ => .error .missingMember

def typesOf : Document → Except Fault (List Document)
  | .record fields => ((fields.lookup "types").getD (.list [])).iterated
  | _ => .error .missingMember

def libraryFiles (files : Files) (folder : Path) : List Path :=
  let inside := files.entries.filterMap fun entry =>
    let path := files.root :: Path.follow [] entry.1
    if (Path.settled folder).isPrefixOf path && path.length > (Path.settled folder).length then
      path[(Path.settled folder).length]?
    else none
  (inside.eraseDups.filter (Text.endsWith ".json")).map fun name => folder ++ [name]

def addFiles (files : Files) :
    Table Catalogue.Enumeration → List Path → Except Fault (Table Catalogue.Enumeration)
  | found, [] => .ok found
  | found, path :: rest => do
    let text ← files.read [] (Path.settled path)
    let content ← orFault (.accident .badDocument) (Document.read? text)
    addFiles files (← addTypes path.text found (← typesOf content)) rest

/-- The enumerations that a setting leads to, by name.  The setting lists configuration files with
colons between them. -/
def enumerations (files : Files) (setting : Option String) :
    Except Fault (List Catalogue.Enumeration) := do
  match setting with
  | none => throw (.refusal "Missing BIFROST_LIB_CONFIG_FILES env var")
  | some text =>
    let folders ← foldersFrom files 1000 ((Text.parts ':' text).map Path.written) []
    let found ← addFiles files {} (folders.flatMap (libraryFiles files))
    return found.values.mergeSort fun left right => Text.notAfter left.name right.name

end GraphScript.Harvest
