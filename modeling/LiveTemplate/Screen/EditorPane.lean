import LiveTemplate.Editor
import LiveTemplate.Screen.Frame
import LiveTemplate.Screen.Layout
import LiveTemplate.Screen.Theme

namespace LiveTemplate.EditorPane

def headerText : String := "📝 HTML+ERB File"

def placeholderText : String := "Enter your ERB code here..."

/-- The rows of the template from the first in view. -/
def textLines (e : Editor) (height : Nat) : List (List Span) :=
  if e.isEmpty then [[⟨placeholderText.toList, Theme.placeholder⟩]]
  else ((e.lines.drop e.top).take height).map fun line => [⟨line, .plain⟩]

def draw (e : Editor) (focused : Bool) (pane : Size) : Grid :=
  let inside := pane.box.inside
  drawLines pane.width pane.headerRows [[⟨headerText.toList, Theme.header⟩]] ++
    framed (Theme.editorBorder focused) [] pane.box.width pane.box.height
      (drawLines inside.width inside.height (textLines e inside.height))

/-- The columns of the text before the cursor. A coordinate has sixteen bits. -/
def cursorColumn (e : Editor) : Nat := textWidth ((e.line e.row).take e.column) % 65536

/-- Where the cursor stands on the screen: inside the box, at its right edge if the text before it
is wider. -/
def cursor? (e : Editor) (focused : Bool) (pane : Size) : Option (Nat × Nat) :=
  let inside := pane.box.inside
  if focused ∧ 0 < inside.width ∧ 0 < inside.height then
    some (1 + min (cursorColumn e) (inside.width - 1), pane.headerRows + 1 + (e.row - e.top))
  else none

end LiveTemplate.EditorPane
