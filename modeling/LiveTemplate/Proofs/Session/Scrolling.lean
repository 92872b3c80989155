import LiveTemplate.Proofs.Viewport.Window
import LiveTemplate.Proofs.Session.Reaction

namespace LiveTemplate.Session

/-- The lines from the offset on fill the pane, or the offset is the top. -/
def InView (s : Session) : Prop :=
  s.scroll.offset ≤ maxOffset (lineCount s.activeText) s.outputHeight

/-- A change that leaves the offset allowed if it was, and at the top of a newly shown tab. -/
structure KeepsView (s t : Session) : Prop where
  inView : s.InView → t.InView
  top : t.tab ≠ s.tab → t.scroll = .top

variable {s t : Session}

theorem inView_clampScroll (s : Session) : s.clampScroll.InView := Nat.min_le_right _ _

theorem keepsView_clampScroll (h : t.tab = s.tab) : s.KeepsView t.clampScroll :=
  ⟨fun _ => t.inView_clampScroll, fun hne => absurd h hne⟩

theorem keepsView_of_scroll {scroll : Scroll}
    (h : s.InView → scroll.offset ≤ maxOffset (lineCount s.activeText) s.outputHeight) :
    s.KeepsView { s with scroll := scroll } :=
  ⟨h, fun hne => absurd rfl hne⟩

theorem keepsView_of_eq (tab : t.tab = s.tab) (outputs : t.outputs = s.outputs)
    (scroll : t.scroll = s.scroll) (height : t.outputHeight = s.outputHeight) :
    s.KeepsView t := by
  refine ⟨fun h => ?_, fun hne => absurd tab hne⟩
  unfold InView activeText at h ⊢
  rw [tab, outputs, scroll, height]
  exact h

theorem KeepsView.refl (s : Session) : s.KeepsView s := keepsView_of_eq rfl rfl rfl rfl

theorem keepsView_select (s : Session) (tab : Tab) : s.KeepsView (s.select tab) := by
  unfold select
  split
  next => exact .refl s
  next => exact ⟨fun _ => Nat.zero_le _, fun _ => rfl⟩

theorem keepsView_top (s : Session) : s.KeepsView { s with scroll := .top } :=
  keepsView_of_scroll fun _ => Nat.zero_le _

theorem keepsView_up (s : Session) (step : Nat) :
    s.KeepsView { s with scroll := s.scroll.up step } :=
  keepsView_of_scroll fun h => Nat.le_trans (Nat.sub_le _ _) h

theorem keepsView_down (s : Session) (step : Nat) :
    s.KeepsView (s.scrollBy (s.scroll.down step)) :=
  keepsView_of_scroll fun _ => Nat.min_le_right _ _

theorem keepsView_bottom (s : Session) : s.KeepsView (s.scrollBy Scroll.bottom) :=
  keepsView_of_scroll fun _ => Nat.le_refl _

theorem keepsView_outputChar (s : Session) (c : Char) :
    s.KeepsView (s.handleOutputChar c).1 := by
  unfold handleOutputChar
  split
  · exact keepsView_of_eq rfl rfl rfl rfl
  split
  · exact s.keepsView_select _
  split
  · exact s.keepsView_select _
  split
  · exact s.keepsView_up 1
  split
  · exact s.keepsView_down 1
  split
  · exact s.keepsView_top
  split
  · exact s.keepsView_bottom
  split
  · exact s.keepsView_select _
  · exact .refl s

theorem keepsView_outputKey (s : Session) (k : Key) : s.KeepsView (s.handleOutputKey k).1 := by
  unfold handleOutputKey
  cases k.code with
  | char c => exact s.keepsView_outputChar c
  | left | right => exact s.keepsView_select _
  | up => exact s.keepsView_up 1
  | down => exact s.keepsView_down 1
  | pageUp => exact s.keepsView_up pageStride
  | pageDown => exact s.keepsView_down pageStride
  | home => exact s.keepsView_top
  | lineEnd => exact s.keepsView_bottom
  | enter | backspace | delete | tab | backTab | escape | insert | null | function _ | other =>
    exact .refl s

theorem KeepsView.schedule (h : s.KeepsView t) (tab : t.tab = s.tab) (now : Nat) :
    s.KeepsView (t.schedule now).1 := by
  unfold Session.schedule
  dsimp only
  split
  next => exact keepsView_clampScroll tab
  next => exact h

theorem keepsView_refresh (s : Session) (now : Nat) : s.KeepsView (s.refresh now).1 := by
  unfold refresh
  dsimp only
  split
  next => exact keepsView_clampScroll rfl
  next => exact keepsView_of_eq rfl rfl rfl rfl

theorem keepsView_edited (s : Session) (e : Editor) (now : Nat) :
    s.KeepsView (s.edited e now).1 := by
  have h : s.KeepsView { s with editor := e, generation := s.generation + 1 } :=
    keepsView_of_eq rfl rfl rfl rfl
  exact h.schedule rfl now

theorem keepsView_editorKey (s : Session) (k : Key) (now : Nat) :
    s.KeepsView (s.handleEditorKey k now).1 := by
  unfold handleEditorKey
  dsimp only
  split
  next => exact s.keepsView_edited _ now
  next => exact keepsView_of_eq rfl rfl rfl rfl

theorem keepsView_key (s : Session) (k : Key) (now : Nat) :
    s.KeepsView (s.handleKey k now).1 := by
  unfold handleKey
  split
  next => exact keepsView_of_eq rfl rfl rfl rfl
  next =>
    split
    next => exact s.keepsView_refresh now
    next =>
      split
      next => exact keepsView_of_eq rfl rfl rfl rfl
      next =>
        cases s.focus with
        | editor => exact s.keepsView_editorKey k now
        | output => exact s.keepsView_outputKey k

theorem keepsView_input (s : Session) (i : Input) (now : Nat) :
    s.KeepsView (s.handleInput i now).1 := by
  unfold handleInput
  cases i with
  | key k =>
    dsimp only
    split
    next => exact .refl s
    next => exact s.keepsView_key k now
  | paste text =>
    dsimp only
    split
    next => exact s.keepsView_edited _ now
    next => exact .refl s
  | resize width height => exact keepsView_clampScroll rfl
  | other => exact .refl s

theorem keepsView_event (s : Session) (e : Event) : s.KeepsView (s.handleEvent e).1 := by
  have ha := s.answer e
  generalize s.handleEvent e = p at ha
  cases ha with
  | drop => exact .refl s
  | launch | discard => exact keepsView_of_eq rfl rfl rfl rfl
  | accept => exact keepsView_clampScroll rfl

theorem keepsView_outputHeight (s : Session) (height : Nat) :
    s.KeepsView (s.setOutputHeight height) :=
  keepsView_clampScroll rfl

theorem keepsView_fit (s : Session) (size : Size) : s.KeepsView (s.fit size) :=
  keepsView_clampScroll rfl

end LiveTemplate.Session
