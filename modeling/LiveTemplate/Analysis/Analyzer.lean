import LiveTemplate.Analysis.Result
import LiveTemplate.Clock

namespace LiveTemplate

/-- What becomes of a call: an outcome after some time, or no answer ever. -/
inductive Reply where
  | after (delay : Nat) (outcome : Except Failure Payload)
  | never

/-- How each call is answered. A call is known by its number among all calls, so that equal contents
may be answered differently. -/
abbrev Analyzer := Nat → String → Reply

structure Cycle where
  calls : Option String
  finish : Nat
  result : Result

namespace Reply

/-- The outcome of a call with a deadline, which an answer may just reach; a delay takes as long as
`measure` says. -/
def within (measure : Nat → Nat) (deadline : Nat) : Reply → Except Failure Payload
  | after delay outcome =>
    if measure delay ≤ measure deadline then outcome else .error (.timedOut (deadline * 1000000))
  | never => .error (.timedOut (deadline * 1000000))

/-- How long a call with a deadline takes. -/
def duration (measure : Nat → Nat) (deadline : Nat) : Reply → Nat
  | after delay _ => min (measure delay) (measure deadline)
  | never => measure deadline

end Reply

/-- The analysis of a request that begins at `now` as call number `call`. -/
def analyze (clock : Clock) (analyzer : Analyzer) (deadline call now : Nat) (r : Request) : Cycle :=
  if r.isBlank then ⟨none, now, .placeholder r⟩
  else
    let reply := analyzer call r.content
    let finish := now + reply.duration (clock.wait now) deadline
    ⟨some r.content, finish, .ofOutcome r (reply.within (clock.wait now) deadline) finish⟩

/-- What a script says about one content: how it is answered, how long that takes, or both. -/
structure Rule where
  content : String
  delay : Option Nat
  outcome : Option (Except Failure Payload)

/-- A script for an analyzer. Without a default outcome it echoes the content in every view. -/
structure Script where
  fallback : Option (Except Failure Payload)
  rules : List Rule

namespace Script

def echo (content : String) : Payload :=
  { Payload.empty with
    parse := "tree(" ++ content ++ ")"
    lex := "tokens(" ++ content ++ ")"
    html := "markup(" ++ content ++ ")"
    linter := "lint(" ++ content ++ ")"
    version := "scripted"
    success := true }

/-- The first rule for a content that has an outcome decides it. -/
def outcome (s : Script) (content : String) : Except Failure Payload :=
  match s.fallback with
  | none => .ok (echo content)
  | some o => (s.rules.findSome? fun r => if r.content = content then r.outcome else none).getD o

/-- The last rule for a content that has a delay decides it. -/
def delay (s : Script) (content : String) : Nat :=
  (s.rules.reverse.findSome? fun r => if r.content = content then r.delay else none).getD 0

def analyzer (s : Script) : Analyzer :=
  fun _ content => .after (s.delay content) (s.outcome content)

end Script
end LiveTemplate
