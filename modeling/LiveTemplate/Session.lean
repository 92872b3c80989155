import LiveTemplate.Analysis.Result
import LiveTemplate.Editor
import LiveTemplate.Viewport

namespace LiveTemplate

inductive Focus where
  | editor
  | output
  deriving DecidableEq, Repr

/-- What the timer and the analyses send. -/
inductive Event where
  | fired (r : Request)
  | completed (r : Result)
  deriving DecidableEq, Repr

/-- Whether the timer sent the event. -/
def Event.isFire : Event → Bool
  | fired _ => true
  | completed _ => false

/-- What a session asks of the timer and the dispatcher. -/
inductive Effect where
  | arm (r : Request)
  | cancel
  | dispatch (r : Request)
  deriving DecidableEq, Repr

structure Session where
  editor : Editor
  /-- Counts the edits. -/
  generation : Nat
  /-- The generation whose result is shown. -/
  applied : Option Nat
  /-- The generation last handed to the analyzer. -/
  dispatched : Option Nat
  focus : Focus
  tab : Tab
  outputs : Outputs
  scroll : Scroll
  inFlight : Nat
  status : Option Status
  info : Option Meta
  /-- The width and height of the terminal, as last told. -/
  size : Nat × Nat
  /-- The number of rows in the output pane. -/
  outputHeight : Nat
  quit : Bool
  deriving DecidableEq, Repr

/-- Shown until the first result. -/
def loadingText : String := "Loading..."

namespace Session

def open_ (initial : String) : Session where
  editor := .ofText initial
  generation := 0
  applied := none
  dispatched := none
  focus := .editor
  tab := .linter
  outputs := .uniform loadingText
  scroll := .top
  inFlight := 0
  status := none
  info := none
  size := (0, 0)
  outputHeight := 0
  quit := false

def activeText (s : Session) : String := s.outputs.get s.tab

def isPending (s : Session) : Bool := s.applied ≠ some s.generation

def clampScroll (s : Session) : Session :=
  { s with scroll := s.scroll.clamp (lineCount s.activeText) s.outputHeight }

def setOutputHeight (s : Session) (height : Nat) : Session :=
  clampScroll { s with outputHeight := height }

def apply (s : Session) (r : Result) : Session :=
  clampScroll
    { s with
      outputs := r.outputs
      applied := some r.generation
      status := some r.status
      info := r.info }

/-- The template as it stands. -/
def snapshot (s : Session) (now : Nat) : Request := ⟨s.generation, s.editor.value, now⟩

def dispatch (s : Session) (r : Request) : Session × List Effect :=
  ({ s with dispatched := some r.generation, inFlight := s.inFlight + 1 }, [.dispatch r])

/-- Asks for an analysis of the template after the quiet period; a blank one is done at once. -/
def schedule (s : Session) (now : Nat) : Session × List Effect :=
  let r := s.snapshot now
  if r.isBlank then (s.apply (.placeholder r), [.cancel]) else (s, [.arm r])

def refresh (s : Session) (now : Nat) : Session × List Effect :=
  let r := s.snapshot now
  if r.isBlank then (s.apply (.placeholder r), [.cancel])
  else
    let (s, effects) := s.dispatch r
    (s, .cancel :: effects)

def edited (s : Session) (editor : Editor) (now : Nat) : Session × List Effect :=
  schedule { s with editor := editor, generation := s.generation + 1 } now

def leave (s : Session) : Session × List Effect := ({ s with quit := true }, [.cancel])

def toggleFocus (s : Session) : Session :=
  { s with focus := match s.focus with
      | .editor => .output
      | .output => .editor }

/-- Shows another tab from its first line. -/
def select (s : Session) (tab : Tab) : Session :=
  if tab = s.tab then s else { s with tab := tab, scroll := .top }

def scrollBy (s : Session) (move : Nat → Nat → Scroll) : Session :=
  { s with scroll := move (lineCount s.activeText) s.outputHeight }

def handleOutputChar (s : Session) (c : Char) : Session × List Effect :=
  if c = 'q' then s.leave
  else if c = 'h' then (s.select s.tab.previous, [])
  else if c = 'l' then (s.select s.tab.next, [])
  else if c = 'k' then ({ s with scroll := s.scroll.up 1 }, [])
  else if c = 'j' then (s.scrollBy (s.scroll.down 1), [])
  else if c = 'g' then ({ s with scroll := .top }, [])
  else if c = 'G' then (s.scrollBy Scroll.bottom, [])
  else
    match Tab.ofDigit? c with
    | some tab => (s.select tab, [])
    | none => (s, [])

def handleOutputKey (s : Session) (k : Key) : Session × List Effect :=
  match k.code with
  | .char c => s.handleOutputChar c
  | .left => (s.select s.tab.previous, [])
  | .right => (s.select s.tab.next, [])
  | .up => ({ s with scroll := s.scroll.up 1 }, [])
  | .down => (s.scrollBy (s.scroll.down 1), [])
  | .pageUp => ({ s with scroll := s.scroll.pageUp }, [])
  | .pageDown => (s.scrollBy s.scroll.pageDown, [])
  | .home => ({ s with scroll := .top }, [])
  | .lineEnd => (s.scrollBy Scroll.bottom, [])
  | _ => (s, [])

def handleEditorKey (s : Session) (k : Key) (now : Nat) : Session × List Effect :=
  let (editor, changed) := s.editor.handleKey k
  if changed then s.edited editor now else ({ s with editor := editor }, [])

/-- Control with `c` quits and with `r` analyzes, the tab key changes the focus; every other key is
for the pane in focus. -/
def handleKey (s : Session) (k : Key) (now : Nat) : Session × List Effect :=
  if k.modifiers.control ∧ k.code = .char 'c' then s.leave
  else if k.modifiers.control ∧ k.code = .char 'r' then s.refresh now
  else if k.code = .tab then (s.toggleFocus, [])
  else
    match s.focus with
    | .editor => s.handleEditorKey k now
    | .output => s.handleOutputKey k

def handleInput (s : Session) (i : Input) (now : Nat) : Session × List Effect :=
  match i with
  | .key k => if k.motion = .release then (s, []) else s.handleKey k now
  | .paste text =>
    if s.focus = .editor ∧ text ≠ "" then s.edited (s.editor.insert text) now else (s, [])
  | .resize width height => (clampScroll { s with size := (width, height) }, [])
  | .other => (s, [])

/-- A timer that fired leads to an analysis unless its template is outdated or was already handed
over; a result is shown unless its template is outdated. -/
def handleEvent (s : Session) (e : Event) : Session × List Effect :=
  match e with
  | .fired r =>
    if r.generation ≠ s.generation ∨ s.dispatched = some r.generation then (s, [])
    else s.dispatch r
  | .completed r =>
    let s := { s with inFlight := s.inFlight - 1 }
    if r.generation ≠ s.generation then (s, []) else (s.apply r, [])

end Session
end LiveTemplate
