import LiveTemplate.Screen.EditorPane
import LiveTemplate.Screen.OutputPane
import LiveTemplate.Session

namespace LiveTemplate

structure Screen where
  rows : Grid
  cursor : Option (Nat × Nat)
  deriving DecidableEq, Repr

/-- The rows as texts. -/
def Screen.lines (s : Screen) : List String :=
  s.rows.map fun row => String.ofList (row.flatMap Cell.symbol)

namespace Session

/-- The session as it is after it was drawn on a screen of this size. -/
def fit (s : Session) (size : Size) : Session :=
  let s := { s with editor := s.editor.scrollTo size.leftPane.box.inside.height }
  s.setOutputHeight size.rightPane.box.inside.height

def outputPane (s : Session) : OutputPane where
  tab := s.tab
  text := s.activeText
  scroll := s.scroll
  pending := s.isPending
  busy := 0 < s.inFlight
  status := s.status
  info := s.info
  focused := s.focus = .output

def longHelp : String :=
  "Tab: switch pane • ←/→ or 1-5: tabs • ↑/↓ PgUp/PgDn: scroll • Ctrl+R: re-run • q / Ctrl+C: quit"

def shortHelp : String := "Tab • 1-5 • ↑/↓ • Ctrl+R • Ctrl+C"

/-- The long help where the terminal, as last told, is wide enough for it. -/
def help (s : Session) : String :=
  if textWidth longHelp.toList ≤ s.size.1 then longHelp else shortHelp

/-- The screen of a session that was fitted to it. -/
def screen (s : Session) (size : Size) : Screen where
  rows :=
    beside (EditorPane.draw s.editor (s.focus = .editor) size.leftPane)
        (s.outputPane.draw size.rightPane) ++
      drawLines size.width size.helpRows [[⟨s.help.toList, Theme.help⟩]]
  cursor := EditorPane.cursor? s.editor (s.focus = .editor) size.leftPane

/-- Draws the session on a screen. -/
def draw (s : Session) (size : Size) : Session × Screen :=
  let s := s.fit size
  (s, s.screen size)

end Session
end LiveTemplate
