import LiveTemplate.Decimal.Fixed
import LiveTemplate.Screen.Frame
import LiveTemplate.Screen.Layout
import LiveTemplate.Screen.Theme
import LiveTemplate.Viewport

namespace LiveTemplate

/-- What the output pane shows. -/
structure OutputPane where
  tab : Tab
  text : String
  scroll : Scroll
  /-- The result shown is not that of the current template. -/
  pending : Bool
  /-- An analysis is under way. -/
  busy : Bool
  status : Option Status
  info : Option Meta
  focused : Bool
  deriving DecidableEq, Repr

namespace OutputPane

/-- What the title says about the analysis. -/
def label (p : OutputPane) : String :=
  if p.pending then
    if p.busy then "analyzing..." else "waiting for input to settle"
  else
    match p.status, p.info with
    | some .ready, some m =>
      "herb " ++ m.version ++ " · " ++ String.ofList (m.durationMs.fixed 2) ++ " ms"
    | some .ready, none => "ready"
    | some (.failed kind), _ => kind.label
    | some .empty, _ => ""
    | none, _ => ""

def title (p : OutputPane) : List Span :=
  let name : Span := ⟨" Output ".toList, .plain⟩
  if p.label = "" then [name]
  else [name, ⟨("· " ++ p.label ++ " ").toList, .ink (Theme.status p.status p.pending)⟩]

def tabBar (p : OutputPane) : List Span :=
  Tab.all.flatMap fun tab =>
    let style := if tab = p.tab then Theme.activeTab p.focused else Theme.tab
    [⟨(" " ++ tab.icon ++ " " ++ tab.title ++ " ").toList, style⟩, ⟨[' '], .plain⟩]

/-- The lines of the active text that are in view. -/
def textLines (p : OutputPane) (height : Nat) : List (List Span) :=
  let style := if p.status = some .empty then Theme.placeholder else .plain
  (splitLines (visibleWindow p.text p.scroll.offset height).toList).map fun line => [⟨line, style⟩]

def draw (p : OutputPane) (pane : Size) : Grid :=
  let inside := pane.box.inside
  drawLines pane.width pane.headerRows [p.tabBar] ++
    framed (Theme.outputBorder p.focused) p.title pane.box.width pane.box.height
      (drawLines inside.width inside.height (p.textLines inside.height))

end OutputPane
end LiveTemplate
