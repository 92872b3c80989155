import LiveTemplate.Analysis.Result
import LiveTemplate.Clock

namespace LiveTemplate

structure Timer where
  request : Request
  due : Nat
  deriving DecidableEq, Repr

/-- The quiet period after an edit. There is one timer at most, and arming replaces it. -/
structure Debouncer where
  clock : Clock
  delay : Nat
  timer : Option Timer

namespace Debouncer

def isArmed (d : Debouncer) : Bool := d.timer.isSome

def arm (d : Debouncer) (r : Request) (now : Nat) : Debouncer :=
  { d with timer := some ⟨r, now + d.clock.wait now d.delay⟩ }

def cancel (d : Debouncer) : Debouncer := { d with timer := none }

/-- The request of the timer that is due by `time`. -/
def due? (d : Debouncer) (time : Nat) : Option Request :=
  match d.timer with
  | some t => if t.due ≤ time then some t.request else none
  | none => none

/-- Lets time pass until `time`; a timer that is due is gone. -/
def pass (d : Debouncer) (time : Nat) : Debouncer :=
  if (d.due? time).isSome then d.cancel else d

inductive Step where
  | arm (generation : Nat) (content : String)
  | cancel
  | wait (ms : Nat)
  | receive
  | drop
  deriving DecidableEq, Repr

/-- A debouncer in time, with the requests that have fired and were not received yet. There is room
for so many; a timer that is due and finds none stays, and can still be stopped. -/
structure Run where
  room : Nat
  now : Nat
  debouncer : Option Debouncer
  fired : List Request

inductive Report where
  | nothing
  | cancelled (live : Bool)
  | events (requests : List Request)
  deriving DecidableEq, Repr

namespace Run

def start (clock : Clock) (room delay : Nat) : Run := ⟨room, 0, some ⟨clock, delay, none⟩, []⟩

def isArmed (r : Run) : Option Bool := r.debouncer.map Debouncer.isArmed

/-- Lets time pass until `time` with room for what fires. -/
def passTo (r : Run) (time : Nat) : Run :=
  { r with
    now := time
    debouncer := r.debouncer.map (·.pass time)
    fired := r.fired ++ (r.debouncer.bind (·.due? time)).toList }

def step (r : Run) : Step → Run × Report
  | .arm generation content =>
    ({ r with debouncer := r.debouncer.map (·.arm ⟨generation, content, r.now⟩ r.now) }, .nothing)
  | .cancel =>
    ({ r with debouncer := r.debouncer.map Debouncer.cancel },
      .cancelled (r.debouncer.any Debouncer.isArmed))
  | .wait ms =>
    (if r.fired.length < r.room then r.passTo (r.now + ms) else { r with now := r.now + ms },
      .nothing)
  | .receive => ({ r with fired := [] }, .events r.fired)
  | .drop => ({ r with debouncer := none }, .nothing)

end Run
end Debouncer
end LiveTemplate
