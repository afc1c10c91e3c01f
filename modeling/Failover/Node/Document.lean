import Failover.Data.Decode
import Failover.Moment.Text
import Failover.Node.Basic

-- Nodes as documents.

namespace Failover

open Decode (FieldRule)

def NodeRole.decoder : Decoder NodeRole := Decode.choice NodeRole.ofName?

def HealthStatus.decoder : Decoder HealthStatus := Decode.choice HealthStatus.ofName?

def Moment.decoder : Decoder Moment
  | _, .text s =>
    match Moment.ofText? s with
    | some m => .ok m
    | none => .error .mismatch
  | _, d => Decode.refuse d

namespace NodeSpec

def fields : List (FieldRule NodeSpec) :=
  [ .must "id" Decode.string fun x s => { s with id := x }
  , .may "name" (Decode.optional Decode.string) fun x s => { s with name := x }
  , .must "host" Decode.string fun x s => { s with host := x }
  , .must "port" Decode.word16 fun x s => { s with port := x }
  , .may "role" NodeRole.decoder fun x s => { s with role := x }
  , .may "failover_priority" Decode.signed32 fun x s => { s with priority := x }
  , .may "labels" (Decode.tableOf Decode.string) fun x s => { s with labels := x } ]

def blank : NodeSpec :=
  { id := "", name := none, host := "", port := 0, role := .secondary, priority := 0
    labels := Table.empty }

def decoder : Decoder NodeSpec := Decode.record fields blank

def toData (s : NodeSpec) : Data := .record
  [ ("id", .text s.id)
  , ("name", Data.ofOption .text s.name)
  , ("host", .text s.host)
  , ("port", Data.nat s.port)
  , ("role", .text s.role.name)
  , ("failover_priority", .int s.priority)
  , ("labels", Data.ofTable .text s.labels) ]

end NodeSpec

namespace Node

def fields : List (FieldRule Node) :=
  [ .must "id" Decode.string fun x n => { n with id := x }
  , .must "name" Decode.string fun x n => { n with name := x }
  , .must "address" Decode.string fun x n => { n with address := x }
  , .must "port" Decode.word16 fun x n => { n with port := x }
  , .must "role" NodeRole.decoder fun x n => { n with role := x }
  , .must "health_status" HealthStatus.decoder fun x n => { n with status := x }
  , .must "health_score" Decode.float fun x n => { n with score := x }
  , .must "last_heartbeat" Moment.decoder fun x n => { n with lastHeartbeat := x }
  , .must "resource_usage" (Decode.tableOf Decode.float) fun x n => { n with usage := x }
  , .must "network_latency_ms" Decode.float fun x n => { n with latencyMs := x }
  , .must "is_active" Decode.boolean fun x n => { n with active := x }
  , .must "is_primary" Decode.boolean fun x n => { n with primary := x }
  , .must "failover_priority" Decode.signed32 fun x n => { n with priority := x }
  , .must "labels" (Decode.tableOf Decode.string) fun x n => { n with labels := x }
  , .must "consecutive_failures" Decode.word32 fun x n => { n with failures := x } ]

def decoder : Decoder Node := Decode.record fields default

/-- What a status report says about a node. -/
def statusFields (n : Node) : List (String × Data) :=
  [ ("name", .text n.name)
  , ("host", .text n.address)
  , ("port", Data.nat n.port)
  , ("role", .text n.role.name)
  , ("is_primary", .bool n.primary)
  , ("is_active", .bool n.active)
  , ("health_status", .text n.status.name)
  , ("health_score", Data.number n.score)
  , ("resource_usage", Data.ofTable Data.number n.usage)
  , ("network_latency_ms", Data.number n.latencyMs)
  , ("last_heartbeat", .text n.lastHeartbeat.toText)
  , ("consecutive_failures", Data.nat n.failures) ]

def statusData (n : Node) : Data := .record n.statusFields

/-- What the details of a node say. -/
def detailData (n : Node) : Data := .record <|
  ("id", .text n.id) :: n.statusFields ++
    [("failover_priority", .int n.priority), ("labels", Data.ofTable .text n.labels)]

end Node

end Failover
