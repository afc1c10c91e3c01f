import Failover.CommandLine.Parameter
import Failover.Settings.Environment

-- Reads a command line, word by word from the left, and shows the help. A
-- parameter stands before the command or behind it, at most once in each place.

namespace Failover.CommandLine

/-- What a person asks for help about. -/
inductive Topic where
  | program
  | command (c : Command)
  | help
  deriving DecidableEq, Repr

def Topic.ofScope : Option Command → Topic
  | none => program
  | some c => command c

/-- Why no command is carried out. -/
inductive Stop where
  | misuse
  | help (topic : Topic)
  | version
  deriving DecidableEq, Repr

/-! ## Words -/

/-- What a word is, by its hyphens. -/
inductive Word where
  /-- Two hyphens alone: only plain words may follow. -/
  | divider
  | long (name : String) (value : Option String)
  | short (letter : Char) (rest : List Char)
  | plain (text : String)
  deriving DecidableEq, Repr

namespace Word

def ofText (text : String) : Word :=
  match text.toList with
  | ['-', '-'] => divider
  | '-' :: '-' :: cs =>
    let name := cs.takeWhile (· != '=')
    let value := if name.length < cs.length then some (String.ofList (cs.drop (name.length + 1))) else none
    long (String.ofList name) value
  | '-' :: c :: cs => short c cs
  | _ => plain text

end Word

/-! ## Values -/

/-- The values that were given, by parameter. -/
abbrev Values := List (Parameter × String)

namespace Values

def get? (vs : Values) (p : Parameter) : Option String := (vs.find? (·.1 == p)).map (·.2)

/-- A value is given once, and must be one that the parameter can have. -/
def give (vs : Values) (p : Parameter) (text : String) : Except Stop Values :=
  if (vs.get? p).isSome || !p.accepts text then .error .misuse else .ok (vs ++ [(p, text)])

/-- Values from the environment, for all that was not given. -/
def complete (vs : Values) (vars : ClusterSettings.Variables) : Except Stop Values :=
  Parameter.all.foldlM (fun out p =>
    match p.environment?.bind (ClusterSettings.valueOf? vars) with
    | some text => if (out.get? p).isSome then .ok out else out.give p text
    | none => .ok out) vs

end Values

/-! ## Levels -/

/-- A parameter with its value in the word behind it, as far as that has
been read. It is looked at when the next parameter comes, or at the end. -/
abbrev Pending := Option (Parameter × Option String)

def Values.settle (vs : Values) : Pending → Except Stop Values
  | none => .ok vs
  | some (_, none) => .error .misuse
  | some (p, some text) => vs.give p text

/-- What stands in one place: the values up to a command, and the command
with all behind it. -/
structure Level where
  values : Values
  pending : Pending
  next : Option (Command × List String)

def Level.settled (l : Level) : Except Stop Values := l.values.settle l.pending

/-- What the word `help` asks for. -/
def topic : List String → Stop
  | [] => .help .program
  | [name] =>
    match Command.ofName? name with
    | some c => .help (.command c)
    | none => if name == "help" then .help .help else .misuse
  | _ => .misuse

/-- Flags end the reading at once. -/
def flagNamed? (scope : Option Command) (name : String) : Option Stop :=
  if name == "help" then some (.help (.ofScope scope))
  else if name == "version" && scope.isNone then some .version
  else none

def flagLettered? (scope : Option Command) (letter : Char) : Option Stop :=
  if letter == 'h' then some (.help (.ofScope scope))
  else if letter == 'V' && scope.isNone then some .version
  else none

/-- A value that follows its letter at once may have an equals sign in
front. -/
def attached? : List Char → Option String
  | [] => none
  | '=' :: cs => some (String.ofList cs)
  | cs => some (String.ofList cs)

/-- Reads the words of one place. A flag, and every parameter, settles the
one before it; commands and the word `help` do not. -/
def readLevel (scope : Option Command) : Pending → Values → List String → Except Stop Level
  | pending, vs, [] => .ok ⟨vs, pending, none⟩
  | some (p, none), vs, word :: rest =>
    match Word.ofText word with
    | .plain text => readLevel scope (some (p, some text)) vs rest
    | _ => .error .misuse
  | pending, vs, word :: rest =>
    match Word.ofText word with
    | .divider => if rest.isEmpty then .ok ⟨vs, pending, none⟩ else .error .misuse
    | .long name value =>
      match flagNamed? scope name, Parameter.ofName? scope name, value with
      | some stop, _, none => do
        let _ ← vs.settle pending
        .error stop
      | some _, _, some _ => .error .misuse
      | none, none, _ => .error .misuse
      | none, some p, none => do readLevel scope (some (p, none)) (← vs.settle pending) rest
      | none, some p, some text => do readLevel scope none (← (← vs.settle pending).give p text) rest
    | .short letter cs =>
      match flagLettered? scope letter, Parameter.ofLetter? scope letter, attached? cs with
      | some stop, _, _ => do
        let _ ← vs.settle pending
        .error stop
      | none, none, _ => .error .misuse
      | none, some p, none => do readLevel scope (some (p, none)) (← vs.settle pending) rest
      | none, some p, some text => do readLevel scope none (← (← vs.settle pending).give p text) rest
    | .plain text =>
      if scope.isSome then .error .misuse
      else if text == "help" then .error (topic rest)
      else
        match Command.ofName? text with
        | some c => .ok ⟨vs, pending, some (c, rest)⟩
        | none => .error .misuse

/-! ## The command line -/

structure Arguments where
  command : Command
  config : Option String
  bind : Option String
  port : Option Nat
  mode : Option FailoverMode
  eventLog : Option String
  logLevel : Option String
  logFormat : Option String
  url : String
  deriving Repr

namespace Arguments

def standardUrl : String := "http://127.0.0.1:9400"

/-- The first of several places counts that gives a value. -/
def ofValues (command : Command) (places : List Values) : Arguments :=
  let get (p : Parameter) := places.findSome? (·.get? p)
  { command
    config := get .config
    bind := get .bind
    port := (get .port).bind Parameter.portOf?
    mode := (get .mode).bind Parameter.modeOf?
    eventLog := get .eventLog
    logLevel := get .logLevel
    logFormat := get .logFormat
    url := (get .url).getD standardUrl }

/-- Reads a command line. What stands behind the command wins over what
stands before it, and both win over the environment. Without a command the
coordinator runs. -/
def ofWords (vars : ClusterSettings.Variables) (words : List String) : Except Stop Arguments := do
  let outer ← readLevel none none [] words
  match outer.next with
  | none => return ofValues .run [← (← outer.settled).complete vars]
  | some (c, rest) =>
    let inner ← readLevel (some c) none [] rest
    return ofValues c [← inner.settled, ← (← outer.settled).complete vars]

/-- Puts the given values over the settings. -/
def override (a : Arguments) (s : ClusterSettings) : ClusterSettings :=
  { s with
    server :=
      { s.server with
        bindAddress := a.bind.getD s.server.bindAddress, port := a.port.getD s.server.port }
    logging :=
      { level := a.logLevel.getD s.logging.level, format := a.logFormat.getD s.logging.format }
    failover :=
      { s.failover with
        mode := a.mode.getD s.failover.mode
        eventLogPath := a.eventLog <|> s.failover.eventLogPath } }

end Arguments

/-! ## Help -/

/-- A text that is filled up with blanks to a width. -/
def column (width : Nat) (text : String) : String :=
  text ++ String.ofList (List.replicate (width - text.length) ' ')

namespace Parameter

/-- The name of the value. -/
def valueName (p : Parameter) : String :=
  p.name.map fun c => if c == '-' then '_' else c.toUpper

def form (p : Parameter) : String :=
  let letter := match p.letter? with
    | some c => String.ofList ['-', c, ',', ' ']
    | none => "    "
  letter ++ "--" ++ p.name ++ " <" ++ p.valueName ++ ">"

/-- Where a value comes from that is not given. -/
def origin (vars : ClusterSettings.Variables) (p : Parameter) : String :=
  match p.environment? with
  | some name => " [env: " ++ name ++ "=" ++ (ClusterSettings.valueOf? vars name).getD "" ++ "]"
  | none => " [default: " ++ Arguments.standardUrl ++ "]"

end Parameter

/-- The rows of a list, with the second column in line, also where a text
of it has several lines. -/
def rows (entries : List (String × String)) : String :=
  let width := entries.foldl (fun w e => max w e.1.length) 0
  let margin := "\n" ++ column (width + 4) ""
  String.join (entries.map fun e =>
    "  " ++ column width e.1 ++ "  " ++ String.intercalate margin (e.2.splitOn "\n") ++ "\n")

def helpPurpose : String := "Print this message or the help of the given subcommand(s)"

/-- The parameters that may stand in a place, and where their values come
from. -/
def parameterRows (vars : ClusterSettings.Variables) (scope : Option Command) : List (String × String) :=
  (Parameter.all.filter (·.isAllowed scope)).map (fun p => (p.form, p.purpose ++ p.origin vars))
    ++ [("-h, --help", "Print help")]

def usage (vars : ClusterSettings.Variables) : Topic → String
  | .program =>
    "High-availability failover coordinator\n\nUsage: sentinel [OPTIONS] [COMMAND]\n\nCommands:\n"
      ++ rows (Command.all.map (fun c => (c.name, c.purpose)) ++ [("help", helpPurpose)])
      ++ "\nOptions:\n" ++ rows (parameterRows vars none ++ [("-V, --version", "Print version")])
  | .command c =>
    c.purpose ++ "\n\nUsage: sentinel " ++ c.name ++ " [OPTIONS]\n\nOptions:\n"
      ++ rows (parameterRows vars (some c))
  | .help =>
    helpPurpose ++ "\n\nUsage: sentinel help [COMMAND]...\n\nArguments:\n"
      ++ rows [("[COMMAND]...", "Print help for the subcommand(s)")]

end Failover.CommandLine
