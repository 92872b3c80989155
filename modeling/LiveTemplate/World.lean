import LiveTemplate.Analysis.Dispatcher
import LiveTemplate.Debouncer
import LiveTemplate.Screen

namespace LiveTemplate

/-- A session in time. What happens waits in a queue until it is delivered, at any later moment and
in any order. -/
structure World where
  session : Session
  now : Nat
  debouncer : Debouncer
  dispatcher : Dispatcher
  /-- What has happened and was not delivered. -/
  queue : List Event

namespace World

def open_ (clock : Clock) (initial : String) (debounce deadline : Nat) (analyzer : Analyzer) :
    World where
  session := .open_ initial
  now := 0
  debouncer := ⟨clock, debounce, none⟩
  dispatcher := .idle clock analyzer deadline
  queue := []

/-- How many events can be sent without being delivered; those behind them wait to be sent. -/
def queueRoom : Nat := 64

/-- Takes back a fire that waits to be sent. -/
def withdraw (w : World) : World :=
  { w with queue := w.queue.take queueRoom ++ (w.queue.drop queueRoom).filter (!·.isFire) }

def perform (w : World) : Effect → World
  | .arm r => { w.withdraw with debouncer := w.debouncer.arm r w.now }
  | .cancel => { w.withdraw with debouncer := w.debouncer.cancel }
  | .dispatch r => { w with dispatcher := w.dispatcher.dispatch r }

def takeOver (w : World) (p : Session × List Effect) : World :=
  p.2.foldl perform { w with session := p.1 }

def handle (w : World) (e : Event) : World := w.takeOver (w.session.handleEvent e)

/-- Delivers the event at a position of the queue, if there is one. -/
def deliver (w : World) (i : Nat) : World :=
  match w.queue[i]? with
  | none => w
  | some e => handle { w with queue := w.queue.eraseIdx i } e

def results (cs : List Cycle) : List Event := cs.map fun c => .completed c.result

/-- What has been sent by `time` when these analyses, in the order of their ends, have ended. A
result that is ready when the timer is due is sent before it fires. -/
def sent (d : Debouncer) (ended : List Cycle) (time : Nat) : List Event :=
  match d.timer with
  | none => results ended
  | some t =>
    if t.due ≤ time then
      results (ended.takeWhile (·.finish ≤ t.due)) ++
        .fired t.request :: results (ended.dropWhile (·.finish ≤ t.due))
    else results ended

/-- Lets time pass until `time`: what is waiting begins at once, and what is due by then is sent. -/
def passTo (w : World) (time : Nat) : World :=
  let begun := w.dispatcher.begin w.now
  { w with
    now := time
    debouncer := w.debouncer.pass time
    dispatcher := begun.pass time
    queue := w.queue ++ sent w.debouncer (begun.ended time) time }

/-- The moments at which the timer or an analysis is due. -/
def dueTimes (w : World) : List Nat :=
  (w.debouncer.timer.map Timer.due).toList ++ w.dispatcher.running.map Cycle.finish

/-- How much can still happen because of what has been sent. -/
def sentLoad : List Event → Nat
  | [] => 0
  | .fired _ :: es => 4 + sentLoad es
  | .completed _ :: es => 1 + sentLoad es

/-- How much can still happen of itself. A timer fires, a request that fired is dispatched, begins,
ends, and its result is delivered. -/
def load (w : World) : Nat :=
  (if w.debouncer.isArmed then 5 else 0) + sentLoad w.queue +
    3 * w.dispatcher.waiting.length + 2 * w.dispatcher.running.length

/-- The next thing that happens of itself until `limit`. -/
def next? (w : World) (limit : Nat) : Option World :=
  if w.queue ≠ [] then some (w.deliver 0)
  else if w.dispatcher.waiting ≠ [] then some (w.passTo w.now)
  else
    match w.dueTimes.min? with
    | none => none
    | some t => if t ≤ limit then some (w.passTo (max w.now t)) else none

inductive Step where
  | start
  | input (i : Input)
  | outputHeight (height : Nat)
  | draw (size : Size)
  | elapse (ms : Nat)
  | deliver (i : Nat)
  /-- An event from elsewhere. -/
  | forge (e : Event)
  deriving DecidableEq, Repr

def step (w : World) : Step → World
  | .start => w.takeOver (w.session.schedule w.now)
  | .input i => w.takeOver (w.session.handleInput i w.now)
  | .outputHeight height => { w with session := w.session.setOutputHeight height }
  | .draw size => { w with session := w.session.fit size }
  | .elapse ms => w.passTo (w.now + ms)
  | .deliver i => w.deliver i
  | .forge e => w.handle e

end World
end LiveTemplate
