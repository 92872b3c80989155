import LiveTemplate.Proofs.Screen.Panes

namespace LiveTemplate

variable {x y : Nat}

namespace Session

variable {s t : Session} {size : Size}

/-- The same template, cursor, first row in view and focus. -/
structure AlikeLeft (s t : Session) : Prop where
  editor : t.editor = s.editor
  focus : t.focus = s.focus

/-- The same tab with the same text, scrolled as far, the same focus, and the same news of the
analysis. -/
structure AlikeRight (s t : Session) : Prop where
  tab : t.tab = s.tab
  text : t.activeText = s.activeText
  scroll : t.scroll = s.scroll
  pending : t.isPending = s.isPending
  busy : t.inFlight = 0 ↔ s.inFlight = 0
  status : t.status = s.status
  info : t.info = s.info
  focus : t.focus = s.focus

theorem fills_panes (s : Session) (size : Size) :
    Fills (beside (EditorPane.draw s.editor (s.focus = .editor) size.leftPane)
        (s.outputPane.draw size.rightPane)) size.width size.leftPane.height := by
  rw [← size.width_panes]
  exact (EditorPane.fills_draw _ _ _).beside (s.outputPane.fills_draw size.rightPane)

theorem fills_screen (s : Session) (size : Size) :
    Fills (s.screen size).rows size.width size.height := by
  have h := (s.fills_panes size).append
    (fills_drawLines size.width size.helpRows [[⟨s.help.toList, Theme.help⟩]])
  rwa [size.height_panes] at h

theorem cellAt_screen_left (s : Session) (hx : x < size.leftPane.width)
    (hy : y < size.leftPane.height) : cellAt (s.screen size).rows x y =
      cellAt (EditorPane.draw s.editor (s.focus = .editor) size.leftPane) x y := by
  have hpanes : y < (beside (EditorPane.draw s.editor (s.focus = .editor) size.leftPane)
      (s.outputPane.draw size.rightPane)).length := by
    rw [(s.fills_panes size).height_eq]
    exact hy
  exact (cellAt_append_left hpanes).trans
    (cellAt_beside_left (EditorPane.fills_draw _ _ _) (s.outputPane.fills_draw _) hx hy)

theorem cellAt_screen_right (s : Session) (hy : y < size.rightPane.height) :
    cellAt (s.screen size).rows (size.leftPane.width + x) y =
      cellAt (s.outputPane.draw size.rightPane) x y := by
  have hpanes : y < (beside (EditorPane.draw s.editor (s.focus = .editor) size.leftPane)
      (s.outputPane.draw size.rightPane)).length := by
    rw [(s.fills_panes size).height_eq]
    exact hy
  exact (cellAt_append_left hpanes).trans
    (cellAt_beside_right (EditorPane.fills_draw _ _ _) (s.outputPane.fills_draw _) hy)

theorem cellAt_screen_below (s : Session) :
    cellAt (s.screen size).rows x (size.leftPane.height + y) =
      cellAt (drawLines size.width size.helpRows [[⟨s.help.toList, Theme.help⟩]]) x y :=
  cellAt_append_right (s.fills_panes size)

/-- Fitting scrolls the output pane up where its text ends. -/
theorem outputPane_fit (s : Session) (size : Size) : (s.fit size).outputPane =
    { s.outputPane with
      scroll := s.scroll.clamp (lineCount s.activeText) size.rightPane.box.inside.height } := rfl

theorem AlikeLeft.fit (h : s.AlikeLeft t) (size : Size) : (s.fit size).AlikeLeft (t.fit size) where
  editor := by simp only [Session.fit, setOutputHeight, clampScroll, h.editor]
  focus := h.focus

theorem AlikeRight.outputPane (h : s.AlikeRight t) : t.outputPane = s.outputPane := by
  have hbusy : decide (0 < t.inFlight) = decide (0 < s.inFlight) :=
    decide_eq_decide.mpr (by have := h.busy; omega)
  simp only [Session.outputPane, h.tab, h.text, h.scroll, h.pending, hbusy, h.status, h.info,
    h.focus]

theorem AlikeRight.outputPane_fit (h : s.AlikeRight t) (size : Size) :
    (t.fit size).outputPane = (s.fit size).outputPane := by
  rw [Session.outputPane_fit, Session.outputPane_fit, h.outputPane, h.scroll, h.text]

/-- On a screen of this size each pane is drawn from its own part of the session and has its border,
the output pane in its top right corner as `corner` tells. -/
structure DrawsApart (s : Session) (size : Size) (corner : Prop) : Prop where
  fills : Fills (s.draw size).2.rows size.width size.height
  cursor : ∀ t, AlikeLeft s t → (t.draw size).2.cursor = (s.draw size).2.cursor
  left : ∀ t, AlikeLeft s t → ∀ x y, x < size.leftPane.width → y < size.leftPane.height →
    cellAt (t.draw size).2.rows x y = cellAt (s.draw size).2.rows x y
  right : ∀ t, AlikeRight s t → ∀ x y, size.leftPane.width ≤ x → y < size.rightPane.height →
    cellAt (t.draw size).2.rows x y = cellAt (s.draw size).2.rows x y
  /-- Nothing spills over the help line. -/
  below : ∀ t : Session, t.size = s.size → ∀ x y, size.leftPane.height ≤ y →
    cellAt (t.draw size).2.rows x y = cellAt (s.draw size).2.rows x y
  leftBorder : 2 ≤ size.leftPane.box.width → 2 ≤ size.leftPane.box.height →
    Bordered (fun x y => cellAt (s.draw size).2.rows x (size.leftPane.headerRows + y))
      size.leftPane.box.width size.leftPane.box.height
      (Theme.editorBorder (s.focus = .editor)) True
  rightBorder : 2 ≤ size.rightPane.box.width → 2 ≤ size.rightPane.box.height →
    Bordered (fun x y => cellAt (s.draw size).2.rows (size.leftPane.width + x)
        (size.rightPane.headerRows + y))
      size.rightPane.box.width size.rightPane.box.height
      (Theme.outputBorder (s.focus = .output)) corner
  /-- Only a title with the analyzer's version can take the corner. -/
  version : ¬ corner → s.outputPane.ShowsVersion

theorem draw_left (h : s.AlikeLeft t) (hx : x < size.leftPane.width)
    (hy : y < size.leftPane.height) :
    cellAt (t.draw size).2.rows x y = cellAt (s.draw size).2.rows x y := by
  have hfit := h.fit size
  rw [draw, draw, cellAt_screen_left _ hx hy, cellAt_screen_left _ hx hy, hfit.editor, hfit.focus]

theorem draw_right (h : s.AlikeRight t) (hx : size.leftPane.width ≤ x)
    (hy : y < size.rightPane.height) :
    cellAt (t.draw size).2.rows x y = cellAt (s.draw size).2.rows x y := by
  obtain ⟨x, rfl⟩ := Nat.exists_eq_add_of_le hx
  rw [draw, draw, cellAt_screen_right _ hy, cellAt_screen_right _ hy, h.outputPane_fit]

theorem draw_below (h : t.size = s.size) (hy : size.leftPane.height ≤ y) :
    cellAt (t.draw size).2.rows x y = cellAt (s.draw size).2.rows x y := by
  obtain ⟨y, rfl⟩ := Nat.exists_eq_add_of_le hy
  have hsize : (t.fit size).size = (s.fit size).size := h
  have hhelp : (t.fit size).help = (s.fit size).help := by
    rw [help, help, hsize]
  rw [draw, draw, cellAt_screen_below, cellAt_screen_below, hhelp]

/-- Each pane is drawn from its own part of the session, and neither text reaches a border. -/
theorem draws_apart (s : Session) (size : Size) :
    s.DrawsApart size (¬ s.outputPane.TakesCorner size.rightPane.box.width) where
  fills := (s.fit size).fills_screen size
  cursor t h := by
    have hfit := h.fit size
    simp only [draw, screen, hfit.editor, hfit.focus]
  left _ h _ _ hx hy := draw_left h hx hy
  right _ h _ _ hx hy := draw_right h hx hy
  below _ h _ _ hy := draw_below h hy
  leftBorder hw hh :=
    (EditorPane.bordered_draw (s.fit size).editor (s.focus = .editor) hw hh).congr hw hh
      fun _ _ hx hy => (s.fit size).cellAt_screen_left hx (Size.headerRows_add_lt hy)
  rightBorder hw hh :=
    ((s.fit size).outputPane.bordered_draw hw hh).congr hw hh
      fun _ _ _ hy => (s.fit size).cellAt_screen_right (Size.headerRows_add_lt hy)
  version hcorner := by
    by_contra hplain
    exact hcorner (OutputPane.not_takesCorner (OutputPane.label_mem_plainLabels hplain))

/-- A session that shows the version of an analyzer which ends in a zero width space. -/
def bareVersion : Session :=
  ((open_ "").handleEvent
    (.completed (.ofPayload ⟨0, "x", 0⟩ { Payload.empty with version := "1\u200b" } 0))).1

/-- The space is drawn over the corner. -/
theorem not_drawsApart_bareVersion : ¬ bareVersion.DrawsApart ⟨36, 4⟩ True := by
  intro h
  have hborder := h.rightBorder (by decide) (by decide)
  have hcorner := hborder.topRight.mpr trivial
  revert hcorner
  decide +kernel

end Session
end LiveTemplate
