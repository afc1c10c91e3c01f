import Failover.Failure

-- The files that a program finds around it: those of one folder, and those
-- whose paths begin at the root of all folders.

namespace Failover

structure Folder where
  /-- The text of each file, under the names that lead to it. -/
  files : List (List String × String)
  /-- Folders that were made, under the names that lead to them. -/
  folders : List (List String)
  deriving Repr, Inhabited

/-- What stands at a path. -/
inductive Place where
  | missing
  | folder
  | file (text : String)
  deriving Repr

/-- Why a path does not lead where it should. -/
inductive PathFault where
  | missing
  | taken
  | notFolder
  | isFolder
  | tooLong
  | zeroByte
  deriving DecidableEq, Repr

def PathFault.message : PathFault → String
  | missing => "No such file or directory (os error 2)"
  | taken => "File exists (os error 17)"
  | notFolder => "Not a directory (os error 20)"
  | isFolder => "Is a directory (os error 21)"
  | tooLong => "File name too long (os error 36)"
  | zeroByte => "file name contained an unexpected NUL byte"

namespace Folder

def empty : Folder := ⟨[], []⟩

/-! ## Paths -/

/-- The name of the root of all folders. -/
def root : String := "/"

/-- The names on a path. Empty names and single points lead nowhere. -/
def namesOf (path : String) : List String :=
  let names := (path.splitOn "/").filter fun n => n != "" && n != "."
  if path.startsWith "/" then root :: names else names

/-- What stands behind the last slash. -/
def lastPart (path : String) : String := ((path.splitOn "/").getLast?).getD ""

def maxPath : Nat := 4095

def maxName : Nat := 255

/-- Why no path can have this text, if so. -/
def textFault? (path : String) : Option PathFault :=
  if path.contains '\x00' then some .zeroByte
  else if maxPath < path.utf8ByteSize then some .tooLong
  else if path.isEmpty then some .missing
  else none

def isBelow (above path : List String) : Bool := above.isPrefixOf path && above != path

def textAt? (f : Folder) (names : List String) : Option String :=
  (f.files.find? fun e => e.1 == names).map (·.2)

/-- A file that takes everything and never holds anything. -/
def sink : List String := [root, "dev", "null"]

/-- Folders that every machine has. -/
def isStandard (names : List String) : Bool :=
  names.all (· == "..") ||
    [[root], [root, "dev"], [root, "etc"], [root, "tmp"], [root, "usr"], [root, "var"]].contains names

/-- What stands behind these names, of which none takes back another. -/
def placeOf (f : Folder) (names : List String) : Place :=
  match f.textAt? names with
  | some text => .file text
  | none =>
    if names == sink then .file ""
    else if isStandard names || f.folders.contains names ||
        f.files.any (fun e => isBelow names e.1) || f.folders.any (isBelow names) then .folder
    else .missing

/-- The folder above, last name first. Above the root is the root. -/
def above : List String → List String
  | [] => [".."]
  | name :: outer =>
    if name == root then [root] else if name == ".." then ".." :: name :: outer else outer

/-- Follows the names of a path and takes back a name for each pair of
points. A name leads on from a folder only. The names that are found stand
last first. -/
def walk (f : Folder) : List String → List String → Except PathFault (List String)
  | seen, [] => .ok seen
  | seen, name :: rest =>
    match f.placeOf seen.reverse with
    | .missing => .error .missing
    | .file _ => .error .notFolder
    | .folder =>
      if name == ".." then f.walk (above seen) rest
      else if maxName < name.utf8ByteSize then .error .tooLong
      else f.walk (name :: seen) rest

/-- Where the names of a path lead, and what stands there. -/
def find (f : Folder) (names : List String) : Except PathFault (List String × Place) := do
  let found := (← f.walk [] names).reverse
  return (found, f.placeOf found)

def isFolder (f : Folder) (names : List String) : Bool := f.find names matches .ok (_, .folder)

/-! ## Reading -/

def read (f : Folder) (path : String) : Except PathFault String := do
  if let some fault := textFault? path then throw fault
  match (← f.find (namesOf path)).2 with
  | .missing => throw .missing
  | .folder => throw .isFolder
  | .file text => if ["", "."].contains (lastPart path) then throw .notFolder else return text

/-! ## Writing -/

/-- Makes one folder. -/
def make (f : Folder) (names : List String) : Except PathFault Folder := do
  let (found, place) ← f.find names
  if names.getLast? == some ".." then throw .taken
  match place with
  | .missing => return { f with folders := f.folders ++ [found] }
  | _ => throw .taken

/-- Makes a folder, last name first, and those that lead to it, unless they
are there. -/
def makeAll (f : Folder) : List String → Except PathFault Folder
  | [] => .ok f
  | name :: outer => do
    let names := (name :: outer).reverse
    let orThere (f : Folder) : Except PathFault Folder → Except PathFault Folder
      | .ok f => .ok f
      | .error fault => if f.isFolder names then .ok f else .error fault
    match f.make names with
    | .error .missing =>
      let f ← f.makeAll outer
      orThere f (f.make names)
    | made => orThere f made

/-- A file that can be written to. -/
structure Opened where
  /-- The folder, with all that had to be made. -/
  folder : Folder
  names : List String
  /-- The text that the file starts from. -/
  text : String

/-- Opens the file at a path. The folders on the way are made as they are
needed. -/
def openAt (f : Folder) (path : String) : Except PathFault Opened := do
  if let some fault := textFault? path then throw fault
  let names := namesOf path
  let f ← f.makeAll names.dropLast.reverse
  let (found, place) ← f.find names
  match place with
  | .folder => throw .isFolder
  | .missing =>
    if lastPart path == "" then throw .isFolder
    else if lastPart path == "." then throw .missing
    else return ⟨f, found, ""⟩
  | .file text =>
    if lastPart path == "" then throw .isFolder
    else if lastPart path == "." then throw .notFolder
    else return ⟨f, found, text⟩

/-- The text at these names is changed; a file that was not there is made. -/
def put (f : Folder) (names : List String) (text : String) : Folder :=
  if (f.textAt? names).isSome then
    { f with files := f.files.map fun e => if e.1 == names then (e.1, text) else e }
  else { f with files := f.files ++ [(names, text)] }

/-- Writes a file, where one can be. -/
def write (f : Folder) (path text : String) : Folder :=
  match f.openAt path with
  | .ok o => o.folder.put o.names text
  | .error _ => f

def ofList (files : List (String × String)) : Folder :=
  files.foldl (fun f e => f.write e.1 e.2) empty

end Folder

end Failover
