import LiveTemplate.Analysis.Failure
import LiveTemplate.Analysis.Payload

namespace LiveTemplate

structure Request where
  generation : Nat
  content : String
  issuedAt : Nat
  deriving DecidableEq, Repr

/-- Blank templates are never analyzed. -/
def Request.isBlank (r : Request) : Bool := LiveTemplate.isBlank r.content

inductive Status where
  | ready
  | empty
  | failed (kind : FailureKind)
  deriving DecidableEq, Repr

structure Result where
  generation : Nat
  content : String
  outputs : Outputs
  status : Status
  info : Option Meta
  /-- From the making of the request to the end of the analysis. -/
  elapsed : Nat
  deriving DecidableEq, Repr

namespace Result

/-- The result for a blank template. -/
def placeholder (r : Request) : Result :=
  ⟨r.generation, r.content, .placeholders, .empty, none, 0⟩

def ofPayload (r : Request) (p : Payload) (finishedAt : Nat) : Result :=
  ⟨r.generation, r.content, p.outputs, .ready, p.info?, finishedAt - r.issuedAt⟩

def ofFailure (r : Request) (f : Failure) (finishedAt : Nat) : Result :=
  ⟨r.generation, r.content, .uniform f.userMessage, .failed f.kind, none, finishedAt - r.issuedAt⟩

def ofOutcome (r : Request) (outcome : Except Failure Payload) (finishedAt : Nat) : Result :=
  match outcome with
  | .ok p => ofPayload r p finishedAt
  | .error f => ofFailure r f finishedAt

def success (r : Result) : Bool :=
  match r.status with
  | .failed _ => false
  | _ => true

@[simp]
theorem generation_ofOutcome (r : Request) (o : Except Failure Payload) (t : Nat) :
    (ofOutcome r o t).generation = r.generation := by
  cases o <;> rfl

@[simp]
theorem content_ofOutcome (r : Request) (o : Except Failure Payload) (t : Nat) :
    (ofOutcome r o t).content = r.content := by
  cases o <;> rfl

end Result
end LiveTemplate
