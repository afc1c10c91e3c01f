import Failover.Node.Basic
import Failover.Settings.Failover

-- The order in which nodes are considered for promotion.

namespace Failover

structure Candidate where
  id : String
  score : Float
  deriving Repr

/-- What is compared of two candidates. -/
structure Merits (α : Type) where
  health : α
  /-- The mean usage in percent, if any usage is known. -/
  usage : Option α
  latencyMs : α
  role : NodeRole
  priority : Int

namespace Merits

variable {α : Type} [Scalar α]

/-- What one step of priority is worth. -/
def priorityWeight : α := 0.1

/-- The latency from which on the latency share is zero, in milliseconds. -/
def latencyCeiling : α := 1000.0

/-- The idle share; all of it when no usage is known. -/
def idleShare : Option α → α
  | some mean => Scalar.positivePart (Scalar.one - mean / Scalar.ofInt 100)
  | none => Scalar.one

def latencyShare (latencyMs : α) : α :=
  Scalar.positivePart (Scalar.one - latencyMs / latencyCeiling)

def score (w : PriorityWeights α) (m : Merits α) : α :=
  m.health * w.healthScore + idleShare m.usage * w.resourceUsage +
    latencyShare m.latencyMs * w.networkLatency + m.role.promotionScore * w.nodeRole +
    Scalar.ofInt m.priority * priorityWeight

end Merits

namespace Node

def merits (n : Node) : Merits Float :=
  { health := n.score, usage := n.averageUsage?, latencyMs := n.latencyMs, role := n.role
    priority := n.priority }

/-- Active, healthy and not the primary. -/
def isStandby (n : Node) : Bool := n.active && !n.primary && n.isHealthy

/-- A standby other than the node that failed. -/
def isEligible (failing : Option String) (n : Node) : Bool := n.isStandby && failing != some n.id

def candidate (w : PriorityWeights Float) (n : Node) : Candidate := ⟨n.id, n.merits.score w⟩

end Node

namespace Candidate

/-- Whether `a` stands before `b`: by descending score, and by ascending id
where neither score is the greater one. -/
def precedes (a b : Candidate) : Bool :=
  if b.score < a.score then true
  else if a.score < b.score then false
  else decide (a.id < b.id)

/-- Puts a candidate into a ranking that stands last first: before the
candidates at the end that it precedes. -/
def enter (c : Candidate) : List Candidate → List Candidate
  | [] => [c]
  | last :: rest => if c.precedes last then last :: enter c rest else c :: last :: rest

/-- The candidates in order. -/
def sort (cs : List Candidate) : List Candidate := (cs.foldl (fun ranked c => enter c ranked) []).reverse

/-- The eligible nodes in order. -/
def rank (w : PriorityWeights Float) (nodes : List Node) (failing : Option String) :
    List Candidate :=
  sort ((nodes.filter (Node.isEligible failing)).map (Node.candidate w))

def best? (w : PriorityWeights Float) (nodes : List Node) (failing : Option String) :
    Option Candidate :=
  (rank w nodes failing).head?

end Candidate

end Failover
