import Failover.Admin.Handler
import Failover.CommandLine.Arguments
import Failover.Coordinator.Basic
import Failover.Http.Url
import Failover.Settings.Cluster
import Failover.Settings.File
import Failover.Text

-- The program that a person starts: what it prints, and how it ends.

namespace Failover.LogFilter

/-! ## The level of the log -/

-- A list of directives, each for a part of the program or for all of it. One that
-- cannot be read is passed over.

/-- Why a directive cannot be read. -/
inductive Fault where
  | shape
  | level
  deriving DecidableEq, Repr

def Fault.message : Fault → String
  | shape => "invalid filter directive"
  | level => "error parsing level filter: expected one of \"off\", \"error\", \"warn\", " ++
      "\"info\", \"debug\", \"trace\", or a number 0-5"

def isLevel (s : String) : Bool :=
  (Text.natural? 5 s).isSome ||
    ["off", "error", "warn", "info", "debug", "trace"].contains (Text.asciiLower s)

/-- Where the reader of a directive is. -/
inductive Place where
  | start
  | name
  | span
  | field (isEmpty : Bool)
  | fields
  | target
  /-- From this place on stands a level. -/
  | level (start : Nat)
  deriving DecidableEq, Repr

/-- Where the reader is after a character, with the place of that character.
A directive names a part, or a span with fields, and then a level. -/
def Place.after (i : Nat) (c : Char) : Place → Option Place
  | start =>
    if c == '[' then some span
    else if Text.isAlphanumeric c || c.isAlphanum || "-:_".contains c then some name
    else none
  | name => some (if c == '=' then level (i + 1) else if c == '[' then span else name)
  | span => some (if c == ']' then target else if c == '{' then field true else span)
  | field isEmpty =>
    if c == '}' then (if isEmpty then none else some fields) else some (field false)
  | fields => if c == ']' then some target else none
  | target => if c == '=' then some (level (i + 1)) else none
  | level n => some (level n)

/-- Why a directive cannot be read, if so. The place of a level counts from
its first character that is not blank. -/
def fault? (directive : String) : Option Fault :=
  let cs := Text.dropBlanks (Text.dropBlanks directive.toList).reverse
  match cs.reverse.zipIdx.foldlM (fun p (c, i) => Place.after i c p) Place.start with
  | some .name | some .target => none
  | some (.level n) =>
    let text := String.ofList (directive.toList.drop n)
    if text.isEmpty || isLevel text then none else some .level
  | _ => some .shape

/-- What is said about a level of which not all can be read. -/
def complaints (level : String) : List String :=
  ((level.splitOn ",").filter (· != "")).filterMap fun directive =>
    (fault? directive).map fun fault => "ignoring \x60" ++ directive ++ "\x60: " ++ fault.message

end Failover.LogFilter

namespace Failover.CommandLine

/-! ## The layout of a cluster -/

/-- A place in the network. -/
def endpoint (host : String) (port : Nat) : String := host ++ ":" ++ toString port

/-- A line of the layout. The names stand in a column of their own. -/
def titled (title text : String) : String := column 15 (title ++ ":") ++ text ++ "\n"

/-- The line of a node. A star marks a primary. -/
def nodeLine (n : NodeSpec) : String :=
  let mark := if n.role == .primary then "*" else " "
  "  " ++ mark ++ " " ++ column 16 n.id ++ " " ++ column 24 (endpoint n.host n.port) ++ " "
    ++ column 10 n.role.name ++ " priority " ++ toString n.priority ++ "\n"

def summary (s : ClusterSettings) : String :=
  let server := s.server
  let failover := s.failover
  titled "Coordinator" s.coordinatorId
    ++ titled "Admin API" (if server.enabled then endpoint server.bindAddress server.port else "disabled")
    ++ titled "Mode" failover.mode.name
    ++ titled "Heartbeat" ("every " ++ toString failover.heartbeatIntervalMs ++ "ms, timeout "
        ++ toString failover.heartbeatTimeoutMs ++ "ms")
    ++ titled "Health check" ("every " ++ toString failover.healthCheckIntervalMs ++ "ms, "
        ++ toString failover.maxConsecutiveFailures ++ " failures to fail over")
    ++ (if failover.enforceQuorum then titled "Quorum" (toString failover.quorumSize) else "")
    ++ "Nodes (" ++ toString s.nodes.length ++ "):\n"
    ++ String.join (s.nodes.map nodeLine)

/-- What the program finds around it. -/
structure Surroundings where
  /-- The name of the machine. -/
  host : String
  environment : ClusterSettings.Variables
  folder : Folder
  /-- The coordinator that a status is asked of. -/
  web : Http.Web
  /-- The ports that others listen at. -/
  takenPorts : List Nat
  now : Moment

/-- How the program ends. -/
structure Conclusion where
  exit : Nat
  output : String
  /-- What it says on the error channel. -/
  complaint : Option String
  deriving Repr, DecidableEq

namespace Conclusion

def success (output : String) : Conclusion := ⟨0, output, none⟩

def failure (output complaint : String) : Conclusion := ⟨1, output, some ("Error: " ++ complaint)⟩

/-- The command line was not understood. -/
def misuse : Conclusion := ⟨2, "", none⟩

/-- The same end after some lines on the error channel. -/
def after (lines : List String) (c : Conclusion) : Conclusion :=
  if lines.isEmpty then c
  else { c with complaint := some (String.intercalate "\n" (lines ++ c.complaint.toList)) }

/-- Ends with what was printed, and with the complaint if there is one. -/
def ofResult (output : String) : Except String Unit → Conclusion
  | .ok () => success output
  | .error complaint => failure output complaint

end Conclusion

def banner : String :=
  "\n    ____             __  _            __\n"
    ++ "   / __/__ ___  ___ / /_(_)__  ___ _ / /\n"
    ++ "  _\\ \\/ -_) _ \\/ _ \x60/ __/ / _ \\/ -_) / /\n"
    ++ " /___/\\__/_//_/\\__/\\__/_/_//_/\\__/_/_/\n"
    ++ "\n   High-Availability Failover Coordinator\n"
    ++ "   Version: " ++ Coordinator.version ++ "\n\n"

/-! ## Commands -/

/-- Prints the layout of a cluster that could start. -/
def checkConfig (s : ClusterSettings) : Conclusion :=
  match s.validate with
  | .error c => .failure "" c.toError.message
  | .ok () =>
    .ofResult (summary s)
      (if s.nodes.isEmpty then .error "no nodes configured, the coordinator would refuse to start"
       else .ok ())

def dropSlashes (s : String) : String :=
  String.ofList (s.toList.reverse.dropWhile (· == '/')).reverse

/-- Asks a running coordinator for its status. -/
def status (web : Http.Web) (base : String) : Conclusion :=
  let url := dropSlashes base ++ "/api/v1/failover/status"
  match web.at? url with
  | none => .failure "" ("failed to reach " ++ url)
  | some reply =>
    match (Json.parse? reply.body).map Data.canonical with
    | none => .failure "" "invalid status response"
    | some d =>
      if Http.isSuccess reply.status then .success (Json.pretty d ++ "\n")
      else .failure "" (url ++ " returned " ++ Http.statusText reply.status ++ ": " ++ Json.compact d)

/-- Starts a coordinator with all its nodes and listens until it is told to
stop. -/
def serve (around : Surroundings) (s : ClusterSettings) : Except String Unit := do
  match s.validate with
  | .error c => throw c.toError.message
  | .ok () => pure ()
  match Coordinator.build around.folder s.coordinatorId s.failover s.nodes around.now with
  | .error e => throw e.message
  | .ok c =>
    if !(c.start matches .ok _) then throw "failed to start failover coordinator"
    if s.server.enabled then
      match Admin.listen around.takenPorts s.server with
      | .error _ => throw "admin API failed"
      | .ok () => pure ()

/-! ## The program -/

/-- Variables of a file named `.env` count where there are no others. -/
def Surroundings.withVariableFile (around : Surroundings) : Surroundings :=
  match around.folder.read ".env" with
  | .ok text => { around with environment := VariableFile.add around.environment text }
  | .error _ => around

/-- The settings of a file, or else of the environment. -/
def settingsFor (around : Surroundings) (a : Arguments) : Except BaseError ClusterSettings :=
  match a.config with
  | some path => (ClusterSettings.load around.host around.folder path).map a.override
  | none => .ok (a.override (ClusterSettings.ofVariables around.host around.environment))

/-- Carries out a command. All of them need settings that can be read. -/
def carryOut (around : Surroundings) (a : Arguments) : Conclusion :=
  match settingsFor around a with
  | .error e => .failure "" e.message
  | .ok s =>
    .after (LogFilter.complaints s.logging.level) <|
      match a.command with
      | .run => .ofResult banner (serve around s)
      | .checkConfig => checkConfig s
      | .status => status around.web a.url
      | .version => .success banner

def program (around : Surroundings) (words : List String) : Conclusion :=
  let around := around.withVariableFile
  match Arguments.ofWords around.environment words with
  | .ok a => carryOut around a
  | .error .misuse => .misuse
  | .error .version => .success ("sentinel " ++ Coordinator.version ++ "\n")
  | .error (.help topic) => .success (usage around.environment topic)

end Failover.CommandLine
