import LiveTemplate.Proofs.Editor.View
import LiveTemplate.Proofs.Viewport.Slice
import LiveTemplate.Proofs.World.History

namespace LiveTemplate

theorem mapM_getElem?_range' {α : Type} (l : List α) {first count : Nat}
    (h : count ≤ l.length - first) :
    (List.range' first count).mapM (l[·]?) = some ((l.drop first).take count) := by
  induction count generalizing first with
  | zero => rfl
  | succ count ih =>
    have hfirst : first < l.length := by omega
    have hrest : (List.range' (first + 1) count).mapM (l[·]?) =
        some ((l.drop (first + 1)).take count) := ih (by omega)
    rw [List.range'_succ, List.mapM_cons, hrest, List.getElem?_eq_getElem hfirst,
      List.drop_eq_getElem_cons hfirst, List.take_succ_cons]
    rfl

theorem Scroll.clamp_clamp (scroll : Scroll) (lines height : Nat) :
    (scroll.clamp lines height).clamp lines height = scroll.clamp lines height := by
  simp only [clamp, Nat.min_assoc, Nat.min_self]

namespace EditorPane

/-- The rows of the template that the pane asks for. -/
def rowsAsked (e : Editor) (height : Nat) : List Nat :=
  List.range' e.top (min e.lineCount (e.top + height) - e.top)

/-- The rows of the template from the first in view, where a row can be missing. -/
def textLines? (e : Editor) (height : Nat) : Option (List (List Span)) :=
  if e.isEmpty then some [[⟨placeholderText.toList, Theme.placeholder⟩]]
  else ((rowsAsked e height).mapM (e.lines[·]?)).map fun lines =>
    lines.map fun line => [⟨line, .plain⟩]

/-- The pane, where a row can be missing. -/
def draw? (e : Editor) (focused : Bool) (pane : Size) : Option Grid :=
  let inside := pane.box.inside
  (textLines? e inside.height).map fun lines =>
    drawLines pane.width pane.headerRows [[⟨headerText.toList, Theme.header⟩]] ++
      framed (Theme.editorBorder focused) [] pane.box.width pane.box.height
        (drawLines inside.width inside.height lines)

/-- Where the cursor stands if it is shown, where its row can be missing and a difference can
fail. -/
def place? (e : Editor) (focused : Bool) (pane : Size) : Option (Option (Nat × Nat)) :=
  let inside := pane.box.inside
  if focused ∧ 0 < inside.width ∧ 0 < inside.height then do
    let line ← e.lines[e.row]?
    let last ← difference? inside.width 1
    let below ← difference? e.row e.top
    return some (1 + min (textWidth (line.take e.column) % 65536) last,
      pane.headerRows + 1 + below)
  else some none

variable {e : Editor} {focused : Bool} {pane : Size} {height : Nat}

theorem lt_of_mem_rowsAsked {row : Nat} (h : row ∈ rowsAsked e height) : row < e.lineCount := by
  rw [rowsAsked, List.mem_range'_1] at h
  omega

theorem textLines?_eq (e : Editor) (height : Nat) :
    textLines? e height = some (textLines e height) := by
  have hcount : min e.lineCount (e.top + height) - e.top ≤ e.lines.length - e.top := by
    rw [Editor.lineCount_eq]
    omega
  have htake : (e.lines.drop e.top).take (min e.lineCount (e.top + height) - e.top) =
      (e.lines.drop e.top).take height := by
    rw [List.take_eq_take_iff, List.length_drop, Editor.lineCount_eq]
    omega
  unfold textLines? textLines
  split
  next => rfl
  next =>
    rw [rowsAsked, mapM_getElem?_range' e.lines hcount, htake]
    rfl

theorem draw?_eq (e : Editor) (focused : Bool) (pane : Size) :
    draw? e focused pane = some (draw e focused pane) := by
  rw [draw?, textLines?_eq]
  rfl

theorem place?_eq (hrow : e.row < e.lineCount)
    (htop : 0 < pane.box.inside.height → e.top ≤ e.row) :
    place? e focused pane = some (cursor? e focused pane) := by
  have hline := Editor.getElem?_lines hrow
  unfold place? cursor?
  dsimp only
  split
  next hshown =>
    rw [hline, difference?_of_le hshown.2.1, difference?_of_le (htop hshown.2.2)]
    rfl
  next => rfl

end EditorPane

namespace OutputPane

/-- The lines of the active text that are in view, where they are taken by a range of theirs. -/
def textLines? (p : OutputPane) (height : Nat) : Option (List (List Span)) :=
  let style := if p.status = some .empty then Theme.placeholder else .plain
  (visibleWindow? (fun m n => some (m + n)) p.text p.scroll.offset height).map fun window =>
    (splitLines window.toList).map fun line => [⟨line, style⟩]

/-- The pane, where the lines in view can be no range of the text's. -/
def draw? (p : OutputPane) (pane : Size) : Option Grid :=
  let inside := pane.box.inside
  (p.textLines? inside.height).map fun lines =>
    drawLines pane.width pane.headerRows [p.tabBar] ++
      framed (Theme.outputBorder p.focused) p.title pane.box.width pane.box.height
        (drawLines inside.width inside.height lines)

theorem draw?_eq (p : OutputPane) (pane : Size) : p.draw? pane = some (p.draw pane) := by
  rw [draw?, textLines?, visibleWindow?_eq fun _ _ _ => rfl]
  rfl

end OutputPane

namespace Session

/-- Draws the session, where a row can be missing and a difference can fail. -/
def draw? (s : Session) (size : Size) : Option (Session × Screen) := do
  let editor ← s.editor.scrollTo? size.leftPane.box.inside.height
  let t := { s with editor := editor }.setOutputHeight size.rightPane.box.inside.height
  let left ← EditorPane.draw? t.editor (t.focus = .editor) size.leftPane
  let cursor ← EditorPane.place? t.editor (t.focus = .editor) size.leftPane
  let right ← t.outputPane.draw? size.rightPane
  return (t, ⟨beside left right ++
    drawLines size.width size.helpRows [[⟨t.help.toList, Theme.help⟩]], cursor⟩)

variable {s : Session} {size : Size} {x y : Nat}

theorem editor_fit (s : Session) (size : Size) :
    (s.fit size).editor = s.editor.scrollTo size.leftPane.box.inside.height := rfl

theorem draw?_eq (h : s.editor.Placed) (size : Size) : s.draw? size = some (s.draw size) := by
  have hrow := (h.scrollTo size.leftPane.box.inside.height).row_lt
  have htop : 0 < size.leftPane.box.inside.height →
      (s.fit size).editor.top ≤ (s.fit size).editor.row := by
    intro hh
    rw [editor_fit, Editor.row_scrollTo]
    exact (s.editor.inView_scrollTo hh).1
  have hplace : EditorPane.place? (s.fit size).editor (s.focus = .editor) size.leftPane =
      some (EditorPane.cursor? (s.fit size).editor (s.focus = .editor) size.leftPane) :=
    EditorPane.place?_eq hrow htop
  rw [draw?, Editor.scrollTo?_eq]
  simp only [Option.bind_eq_bind, Option.bind_some, EditorPane.draw?_eq, OutputPane.draw?_eq]
  exact (congrArg (Option.bind · _) hplace).trans rfl

theorem clampScroll_clampScroll (s : Session) : s.clampScroll.clampScroll = s.clampScroll :=
  congrArg (fun scroll => { s with scroll := scroll }) (s.scroll.clamp_clamp _ _)

/-- A session that was fitted to a screen fits it. -/
theorem fit_fit (s : Session) (size : Size) : (s.fit size).fit size = s.fit size := by
  have heditor := s.editor.scrollTo_scrollTo size.leftPane.box.inside.height
  have hclamp := clampScroll_clampScroll
    { s with
      editor := s.editor.scrollTo size.leftPane.box.inside.height
      outputHeight := size.rightPane.box.inside.height }
  refine Eq.trans ?_ hclamp
  simp only [fit, setOutputHeight, clampScroll, heditor]

theorem draw_draw (s : Session) (size : Size) : (s.draw size).1.draw size = s.draw size := by
  simp only [draw, fit_fit]

theorem scroll_fit (h : s.scroll.offset ≤
    maxOffset (lineCount s.activeText) size.rightPane.box.inside.height) :
    (s.fit size).scroll = s.scroll :=
  congrArg Scroll.mk (Nat.min_eq_left h)

/-- The cursor stands off the border of its box. -/
theorem cursor_inside (h : (s.draw size).2.cursor = some (x, y)) :
    0 < x ∧ x < size.leftPane.box.width - 1 ∧ size.leftPane.headerRows < y ∧
      y < size.leftPane.headerRows + size.leftPane.box.height - 1 := by
  simp only [draw, screen, EditorPane.cursor?] at h
  split at h
  next hshown =>
    obtain ⟨htop, hrow⟩ := s.editor.inView_scrollTo hshown.2.2
    obtain ⟨rfl, rfl⟩ := Prod.mk.inj (Option.some.inj h)
    have hwidth := hshown.2.1
    have hheight := hshown.2.2
    rw [editor_fit, Editor.row_scrollTo]
    simp only [Size.inside] at hwidth hheight hrow htop ⊢
    omega
  next => cases h

end Session

namespace World

/-- What drawing on a screen of this size reads, shows and changes. -/
structure DrawsSafely (w : World) (size : Size) : Prop where
  /-- No row that is read is missing, and no difference is below zero. -/
  careful : w.session.draw? size = some (w.session.draw size)
  rows : ∀ row ∈ EditorPane.rowsAsked (w.session.draw size).1.editor
      size.leftPane.box.inside.height, row < (w.session.draw size).1.editor.lineCount
  cursor : ∀ x y, (w.session.draw size).2.cursor = some (x, y) →
    0 < x ∧ x < size.leftPane.box.width - 1 ∧ size.leftPane.headerRows < y ∧
      y < size.leftPane.headerRows + size.leftPane.box.height - 1
  state : (w.step (.draw size)).session = (w.session.draw size).1
  frame : ∃ top offset, w.step (.draw size) = { w with
    session := { w.session with
      editor := { w.session.editor with top := top }
      scroll := ⟨offset⟩
      outputHeight := size.rightPane.box.inside.height } }
  scroll : w.session.scroll.offset ≤
      lineCount w.session.activeText - size.rightPane.box.inside.height →
    (w.session.draw size).1.scroll = w.session.scroll
  again : (w.session.draw size).1.draw size = w.session.draw size

theorem drawsSafely_of_placed {w : World} (h : w.session.editor.Placed) (size : Size) :
    w.DrawsSafely size where
  careful := Session.draw?_eq h size
  rows _ := EditorPane.lt_of_mem_rowsAsked
  cursor _ _ := Session.cursor_inside
  state := rfl
  frame := by
    obtain ⟨top, htop⟩ := w.session.editor.exists_scrollTo size.leftPane.box.inside.height
    refine ⟨top, min w.session.scroll.offset
      (maxOffset (lineCount w.session.activeText) size.rightPane.box.inside.height), ?_⟩
    rw [← htop]
    rfl
  scroll := Session.scroll_fit
  again := w.session.draw_draw size

/-- In every run drawing is safe: it reads the rows that there are, keeps the cursor inside its box,
changes only the view, and drawing again draws the same. -/
theorem draws_safely (clock : Clock) (initial : String) (debounce deadline : Nat)
    (analyzer : Analyzer) (steps : List Step) (size : Size) :
    ((open_ clock initial debounce deadline analyzer).run steps).DrawsSafely size :=
  drawsSafely_of_placed (run_placed (Editor.placed_ofText initial) steps) size

end World
end LiveTemplate
