import Failover.Data.Json
import Failover.Health.Report
import Failover.Http.Web
import Failover.Settings.Cluster

-- Probes over HTTP: what a node is asked, and how its answers are read.

namespace Failover

/-- How requests are made. Times are in milliseconds. -/
structure TransportSettings where
  timeoutMs : Nat
  connectTimeoutMs : Nat
  scheme : String
  verifyTls : Bool

namespace TransportSettings

def standard : TransportSettings :=
  { timeoutMs := 5000, connectTimeoutMs := 5000, scheme := "http", verifyTls := true }

def ofProbe (p : ProbeSettings) (connectTimeoutMs : Nat) : TransportSettings :=
  { standard with timeoutMs := p.requestTimeoutMs, connectTimeoutMs, scheme := p.scheme }

end TransportSettings

namespace Probe

def resourcePath : String := "/health/resources"
def servicePath : String := "/health/services"
def pingPath : String := "/health/ping"

def url (s : TransportSettings) (endpoint path : String) : String :=
  s.scheme ++ "://" ++ endpoint ++ path

/-- What the failure of a client is called; its cause is not told. -/
def clientFault : String := "<client error>"

/-- Reads a document out of an answer. -/
def fetch {α : Type} (s : TransportSettings) (web : Http.Web) (endpoint path : String)
    (read : Decoder α) : Except FailoverError α :=
  match web.get? s.scheme path with
  | none => .error (.http clientFault)
  | some r =>
    if Http.isSuccess r.status then
      match Json.read? read r.body with
      | some a => .ok a
      | none => .error (.http clientFault)
    else
      .error (.transport
        ("GET " ++ url s endpoint path ++ " failed with status " ++ Http.statusText r.status))

def resources (s : TransportSettings) (web : Http.Web) (endpoint : String) :
    Except FailoverError (ResourceMetrics Float) :=
  fetch s web endpoint resourcePath ResourceMetrics.decoder

def services (s : TransportSettings) (web : Http.Web) (endpoint : String) :
    Except FailoverError (ServiceHealth Float) :=
  fetch s web endpoint servicePath ServiceHealth.decoder

def ping (s : TransportSettings) (web : Http.Web) (endpoint : String) : Except FailoverError Unit :=
  match web.get? s.scheme pingPath with
  | none => .error (.nodeUnreachable (endpoint ++ ": " ++ clientFault))
  | some r =>
    if Http.isSuccess r.status then .ok ()
    else .error (.nodeUnreachable
      (endpoint ++ " ping failed with status " ++ Http.statusText r.status))

/-- Whether a connection can be opened. The scheme plays no part in it. -/
def connect (web : Http.Web) : Bool := web.isSome

end Probe

end Failover
