import LiveTemplate.Analysis.Analyzer

namespace LiveTemplate

/-- Analyses side by side, which do not disturb each other. -/
structure Dispatcher where
  clock : Clock
  analyzer : Analyzer
  deadline : Nat
  /-- Dispatched and not begun, in the order of dispatch. -/
  waiting : List Request
  /-- Begun and not ended, in the order of dispatch. -/
  running : List Cycle
  calls : List String

namespace Dispatcher

def idle (clock : Clock) (analyzer : Analyzer) (deadline : Nat) : Dispatcher :=
  ⟨clock, analyzer, deadline, [], [], []⟩

def dispatch (d : Dispatcher) (r : Request) : Dispatcher := { d with waiting := d.waiting ++ [r] }

def beginOne (now : Nat) (d : Dispatcher) (r : Request) : Dispatcher :=
  let cycle := analyze d.clock d.analyzer d.deadline d.calls.length now r
  { d with running := d.running ++ [cycle], calls := d.calls ++ cycle.calls.toList }

/-- What waits begins the next time that time passes, if only for an instant. -/
def begin (d : Dispatcher) (now : Nat) : Dispatcher :=
  d.waiting.foldl (beginOne now) { d with waiting := [] }

/-- The analyses that end by `time`, in the order of their ends, ties in the order of dispatch. -/
def ended (d : Dispatcher) (time : Nat) : List Cycle :=
  (d.running.filter (·.finish ≤ time)).mergeSort (·.finish ≤ ·.finish)

/-- Lets time pass until `time`; the analyses that end by then are gone. -/
def pass (d : Dispatcher) (time : Nat) : Dispatcher :=
  { d with running := d.running.filter (¬ ·.finish ≤ time) }

inductive Step where
  | dispatch (generation : Nat) (content : String)
  | close
  | wait (ms : Nat)
  deriving DecidableEq, Repr

/-- A dispatcher in time. Its results are received as they come, or have nobody left to receive
them. -/
structure Run where
  now : Nat
  dispatcher : Dispatcher
  closed : Bool

namespace Run

def start (clock : Clock) (analyzer : Analyzer) (deadline : Nat) : Run :=
  ⟨0, idle clock analyzer deadline, false⟩

/-- The run after a step, and the results that arrived in it; only waiting brings results. -/
def step (r : Run) : Step → Run × Option (List Result)
  | .dispatch generation content =>
    ({ r with dispatcher := r.dispatcher.dispatch ⟨generation, content, r.now⟩ }, none)
  | .close => ({ r with closed := true }, none)
  | .wait ms =>
    let time := r.now + ms
    let begun := r.dispatcher.begin r.now
    let results := if r.closed then [] else (begun.ended time).map Cycle.result
    ({ r with now := time, dispatcher := begun.pass time }, some results)

end Run
end Dispatcher
end LiveTemplate
