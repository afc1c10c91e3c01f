import Failover.Number.Fixed
import Failover.Settings.Failover
import Failover.Text

-- What a person may say on the command line: a command, and values of
-- parameters.

namespace Failover.CommandLine

inductive Command where
  | run
  | checkConfig
  | status
  | version
  deriving DecidableEq, Repr

namespace Command

def all : List Command := [run, checkConfig, status, version]

def name : Command → String
  | run => "run"
  | checkConfig => "check-config"
  | status => "status"
  | version => "version"

def ofName? (s : String) : Option Command := all.find? fun c => c.name == s

def purpose : Command → String
  | run => "Start the coordinator and the admin API"
  | checkConfig => "Validate the configuration and print the cluster layout"
  | status => "Query a running coordinator"
  | version => "Show version information"

end Command

inductive Parameter where
  | config
  | bind
  | port
  | mode
  | eventLog
  | logLevel
  | logFormat
  | url
  deriving DecidableEq, Repr

namespace Parameter

/-- The parameters in the order in which they are shown. -/
def all : List Parameter := [url, config, bind, port, mode, eventLog, logLevel, logFormat]

def name : Parameter → String
  | config => "config"
  | bind => "bind"
  | port => "port"
  | mode => "mode"
  | eventLog => "event-log"
  | logLevel => "log-level"
  | logFormat => "log-format"
  | url => "url"

def letter? : Parameter → Option Char
  | config => some 'c'
  | port => some 'p'
  | _ => none

/-- The environment variable that gives a value when the command line does
not. -/
def environment? : Parameter → Option String
  | config => some "SENTINEL_CONFIG"
  | bind => some "SENTINEL_BIND_ADDRESS"
  | port => some "SENTINEL_PORT"
  | mode => some "SENTINEL_FAILOVER_MODE"
  | eventLog => some "SENTINEL_EVENT_LOG"
  | logLevel => some "SENTINEL_LOG_LEVEL"
  | logFormat => some "SENTINEL_LOG_FORMAT"
  | url => none

def purpose : Parameter → String
  | config => "Configuration file path"
  | bind => "Admin API bind address"
  | port => "Admin API port"
  | mode => "Failover mode (automatic, manual, scheduled, health_based)"
  | eventLog => "Append every failover event as a JSON line to this file"
  | logLevel => "Log level (trace, debug, info, warn, error)"
  | logFormat => "Log format (text, json)"
  | url => "Admin API base URL"

/-- Whether the parameter may be given before any command, or behind a
certain one. -/
def isAllowed (p : Parameter) : Option Command → Bool
  | none => p != url
  | some c => [config, logLevel, logFormat].contains p || p == url && c == .status

def portOf? (text : String) : Option Nat := Text.signedNatural? (twoTo 16 - 1) text

def modeOf? (text : String) : Option FailoverMode := (FailoverMode.parse text).toOption

/-- Whether a text can be the value. -/
def accepts (p : Parameter) (text : String) : Bool :=
  match p with
  | port => (portOf? text).isSome
  | mode => (modeOf? text).isSome
  | eventLog => text != ""
  | _ => true

def ofName? (scope : Option Command) (s : String) : Option Parameter :=
  all.find? fun p => p.isAllowed scope && p.name == s

def ofLetter? (scope : Option Command) (c : Char) : Option Parameter :=
  all.find? fun p => p.isAllowed scope && p.letter? == some c

end Parameter

end Failover.CommandLine
