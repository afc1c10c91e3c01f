-- The ways in which an operation can fail, and their texts.

namespace Failover

/-- Failures of settings, files and the surroundings. -/
inductive BaseError where
  | invalidConfig (text : String)
  | invalidArgument (text : String)
  | configRead (text : String)
  | configParse (text : String)
  | internal (text : String)
  | io (text : String)
  | other (text : String)
  deriving DecidableEq, Repr

namespace BaseError

def message : BaseError → String
  | invalidConfig t => "Invalid configuration: " ++ t
  | invalidArgument t => "Invalid argument: " ++ t
  | configRead t => "Failed to read config: " ++ t
  | configParse t => "Failed to parse config: " ++ t
  | internal t => "Internal error: " ++ t
  | io t | other t => t

/-- A short code for programs. -/
def code : BaseError → String
  | invalidConfig _ => "InvalidConfig"
  | invalidArgument _ => "InvalidArgument"
  | configRead _ | configParse _ => "ConfigError"
  | internal _ | io _ | other _ => "InternalError"

end BaseError

/-- Failures of the coordinator and of probes. -/
inductive FailoverError where
  | nodeNotFound (id : String)
  | nodeAlreadyExists (id : String)
  | nodeUnreachable (text : String)
  | timeout (text : String)
  | noCandidate
  | quorumNotReached (needed got : Nat)
  | callback (text : String)
  | invalidConfig (text : String)
  | invalidState (text : String)
  | notEligible (text : String)
  | transport (text : String)
  | serialization (text : String)
  | http (text : String)
  | io (text : String)
  | base (e : BaseError)
  | internal (text : String)
  deriving DecidableEq, Repr

namespace FailoverError

def message : FailoverError → String
  | nodeNotFound id => "Node not found: " ++ id
  | nodeAlreadyExists id => "Node already exists: " ++ id
  | nodeUnreachable t => "Node unreachable: " ++ t
  | timeout t => "Timed out: " ++ t
  | noCandidate => "No eligible candidate for promotion"
  | quorumNotReached needed got =>
    "Quorum not reached: needed " ++ toString needed ++ ", got " ++ toString got
  | callback t => "Observer callback failed: " ++ t
  | invalidConfig t => "Invalid configuration: " ++ t
  | invalidState t => "Invalid state: " ++ t
  | notEligible t => "Node not eligible: " ++ t
  | transport t => "Transport error: " ++ t
  | serialization t => "Serialization error: " ++ t
  | http t => "HTTP error: " ++ t
  | io t => "IO error: " ++ t
  | base e => e.message
  | internal t => "Internal error: " ++ t

end FailoverError

end Failover
