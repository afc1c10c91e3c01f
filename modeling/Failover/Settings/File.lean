import Failover.Data.Toml
import Failover.Folder
import Failover.Settings.Document
import Failover.Settings.Environment
import Failover.Text

-- Settings out of files: a document with the settings of a cluster, and a file of
-- environment variables, with a name and a value on each line, quotes, escapes,
-- comments and references to other variables.

namespace Failover.ClusterSettings

/-- Settings in TOML. What is not said has its standard value. -/
def ofToml (host text : String) : Except BaseError ClusterSettings :=
  match Toml.parse? text with
  | none => .error (.configParse "not a document")
  | some d =>
    match decoder host .toml d with
    | .ok s => .ok s
    | .error _ => .error (.configParse "not the settings of a cluster")

/-- Settings of the file at a path. -/
def load (host : String) (folder : Folder) (path : String) : Except BaseError ClusterSettings :=
  match folder.read path with
  | .ok text => ofToml host text
  | .error fault => .error (.configRead (path ++ ": " ++ fault.message))

end Failover.ClusterSettings

namespace Failover.VariableFile

open Failover.Text (isAlphanumeric isBlank dropBlanks)

/-! ## Lines -/

/-- Where the reader of lines is. A value in quotes may go over several
lines. -/
inductive Place where
  | plain
  /-- Behind a blank, where a comment may begin. -/
  | blank
  | escape
  | weak
  | weakEscape
  | strong
  | strongEscape
  | comment
  deriving DecidableEq, Repr

def opening (c : Char) (other : Place) : Place :=
  if c == '\\' then .escape else if c == '"' then .weak else if c == '\'' then .strong else other

def nextPlace (p : Place) (c : Char) : Place :=
  match p with
  | .comment => .comment
  | .blank => if c == '#' then .comment else opening c .plain
  | .plain => if isBlank c && c != '\n' && c != '\r' then .blank else opening c .plain
  | .escape => .plain
  | .weak => if c == '\\' then .weakEscape else if c == '"' then .plain else .weak
  | .weakEscape => .weak
  | .strong => if c == '\\' then .strongEscape else if c == '\'' then .plain else .strong
  | .strongEscape => .strong

/-- Lines with their ends. -/
def rawLines : List Char → List Char → List (List Char)
  | line, [] => if line.isEmpty then [] else [line.reverse]
  | line, '\n' :: rest => ('\n' :: line).reverse :: rawLines [] rest
  | line, c :: rest => rawLines (c :: line) rest

/-- The place after a line, and the line up to a comment. -/
def scanLine : Place → List Char → List Char → Place × List Char
  | p, seen, [] => (p, seen.reverse)
  | p, seen, c :: rest =>
    match nextPlace p c with
    | .comment => (.comment, seen.reverse)
    | q => scanLine q (c :: seen) rest

def dropEnd (line : List Char) : List Char :=
  match line.reverse with
  | '\n' :: '\r' :: rest => rest.reverse
  | '\n' :: rest => rest.reverse
  | _ => line

/-- Joins raw lines until all quotes are closed. The last line is nothing
when it is never closed. -/
def logicalLines : Place → List Char → List (List Char) → List (Option (List Char))
  | p, held, [] => if p = .plain && held.isEmpty then [] else [none]
  | p, held, line :: rest =>
    if (dropBlanks (held ++ line)).head? == some '#' then some [] :: logicalLines .plain [] rest
    else
      match scanLine p [] line with
      | (.plain, _) => some (dropEnd (held ++ line)) :: logicalLines .plain [] rest
      | (.comment, seen) => some (held ++ seen) :: logicalLines .plain [] rest
      | (q, _) => logicalLines q (held ++ line) rest

/-! ## Values -/

/-- Where the reader of a value is. -/
structure Reader where
  output : List Char
  strong : Bool
  weak : Bool
  escaped : Bool
  /-- Only blanks and a comment may follow. -/
  ended : Bool
  /-- The name of a variable that is being read, last letter first, and
  whether it stands in braces. -/
  reference : Option (Bool × List Char)

/-- The value of a name, and nothing for an unknown one. -/
abbrev Known := List (String × String)

def valueOf (known : Known) (name : List Char) : List Char :=
  ((known.find? fun k => k.1 == String.ofList name).map (·.2.toList)).getD []

/-- Reads one character; nothing is left when it cannot stand there. A
comment leaves the reader in its place. -/
def Reader.take (known : Known) (r : Reader) (c : Char) : Option Reader :=
  let push (r : Reader) (cs : List Char) : Reader := { r with output := cs.reverse ++ r.output }
  if r.ended then if c == ' ' || c == '\t' then some r else none
  else if r.escaped then
    if c == 'n' then some (push { r with escaped := false } ['\n'])
    else if "\\'\"$ ".contains c then some (push { r with escaped := false } [c])
    else none
  else if r.strong then
    if c == '\'' then some { r with strong := false } else some (push r [c])
  else
    match r.reference with
    | some (braced, name) =>
      if isAlphanumeric c then
        some { r with reference := some (braced, c :: name) }
      else if braced then
        if c == '\x7d' then some (push { r with reference := none } (valueOf known name.reverse))
        else some { r with reference := some (true, c :: name) }
      else if c == '\x7b' && name.isEmpty then some { r with reference := some (true, []) }
      else
        let r := push { r with reference := none } (valueOf known name.reverse)
        if c == '$' then some { r with reference := some (false, []) } else some (push r [c])
    | none =>
      if c == '$' then some { r with reference := some (false, []) }
      else if r.weak then
        if c == '"' then some { r with weak := false }
        else if c == '\\' then some { r with escaped := true }
        else some (push r [c])
      else if c == '\'' then some { r with strong := true }
      else if c == '"' then some { r with weak := true }
      else if c == '\\' then some { r with escaped := true }
      else if c == ' ' || c == '\t' then some { r with ended := true }
      else some (push r [c])

/-- Reads up to the end or to a comment. -/
def Reader.takeAll (known : Known) (r : Reader) : List Char → Option Reader
  | [] => some r
  | c :: rest => if r.ended && c == '#' then some r else (r.take known c).bind fun r => r.takeAll known rest

/-- The value that a text stands for, unless a quote or brace stays open. -/
def value? (known : Known) (cs : List Char) : Option String :=
  let start : Reader :=
    { output := [], strong := false, weak := false, escaped := false, ended := false
      reference := none }
  (start.takeAll known cs).bind fun r =>
    if r.strong || r.weak then none
    else
      match r.reference with
      | some (true, _) => none
      | some (false, name) => some (String.ofList (r.output.reverse ++ valueOf known name.reverse))
      | none => some (String.ofList r.output.reverse)

/-! ## Variables -/

def isNameChar (c : Char) : Bool := c.isAlphanum || c == '_' || c == '.'

def name? (cs : List Char) : Option (List Char × List Char) :=
  match cs with
  | c :: _ =>
    if c.isAlpha || c == '_' then some (cs.takeWhile isNameChar, dropBlanks (cs.dropWhile isNameChar))
    else none
  | [] => none

def equals? : List Char → Option (List Char)
  | '=' :: rest => some (dropBlanks rest)
  | _ => none

/-- What a line says. -/
inductive Line where
  | nothing
  | variable (name value : String)
  | fault
  deriving Repr

/-- Reads a line. The word `export` may stand before a name, or be one. -/
def readLine (known : Known) (line : List Char) : Line :=
  let cs := dropBlanks (dropBlanks line.reverse).reverse
  if cs.isEmpty || cs.head? == some '#' then .nothing
  else
    let parts : Option (List Char × List Char) := do
      let (name, rest) ← name? cs
      match equals? rest with
      | some rest => return (name, rest)
      | none =>
        if name == "export".toList then
          let (name, rest) ← name? rest
          return (name, ← equals? rest)
        else none
    match parts with
    | none => .fault
    | some (name, rest) =>
      if rest.isEmpty || rest.head? == some '#' then .variable (String.ofList name) ""
      else
        match value? known rest with
        | some v => .variable (String.ofList name) v
        | none => .fault

/-- Adds the variables of a file to those that are there, up to the first
fault. What is there already stays. -/
def addLines : Known → List (Option (List Char)) → Known
  | known, [] => known
  | known, none :: _ => known
  | known, some line :: rest =>
    match readLine known line with
    | .nothing => addLines known rest
    | .fault => known
    | .variable name value =>
      if known.any (·.1 == name) then addLines known rest
      else addLines (known ++ [(name, value)]) rest

def add (known : Known) (text : String) : Known :=
  let cs := text.toList
  let cs := if cs.head? == some '\uFEFF' then cs.drop 1 else cs
  addLines known (logicalLines .plain [] (rawLines [] cs))

end Failover.VariableFile
