import Failover.Coordinator.Operation
import Failover.Failure

-- Answers of the admin interface.

namespace Failover.Admin

inductive Body where
  | none
  | text (s : String)
  | document (d : Data)
  /-- The request itself was refused; the wording is left to the server. -/
  | rejected

structure Response where
  status : Nat
  body : Body

namespace Response

def document (d : Data) (status : Nat) : Response := ⟨status, .document d⟩

def text (s : String) (status : Nat) : Response := ⟨status, .text s⟩

def rejected (status : Nat) : Response := ⟨status, .rejected⟩

def bare (status : Nat) : Response := ⟨status, .none⟩

end Response

/-- The status that tells a failure of the coordinator. -/
def statusOf : FailoverError → Nat
  | .nodeNotFound _ => 404
  | .nodeAlreadyExists _ | .invalidState _ => 409
  | .notEligible _ => 422
  | .invalidConfig _ => 400
  | .noCandidate | .quorumNotReached _ _ => 503
  | .nodeUnreachable _ => 502
  | .timeout _ => 504
  | _ => 500

def failure (e : FailoverError) : Response := .text e.message (statusOf e)

end Failover.Admin
