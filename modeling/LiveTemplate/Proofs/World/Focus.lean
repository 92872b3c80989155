import LiveTemplate.Proofs.World.Change

namespace LiveTemplate

/-- Control with `c`, pressed or held. -/
def Input.interrupts : Input → Bool
  | .key k => k.motion ≠ .release && k.modifiers.control && k.code = .char 'c'
  | _ => false

namespace Session

/-- The template is left alone, and no timer is asked for. -/
structure Spares (s : Session) (p : Session × List Effect) : Prop where
  editor : p.1.editor = s.editor
  generation : p.1.generation = s.generation
  unarmed : ∀ r, .arm r ∉ p.2

/-- The same tab, scrolled no further down, in a session that goes on if it did. -/
structure KeepsPane (s t : Session) : Prop where
  tab : t.tab = s.tab
  offset_le : t.scroll.offset ≤ s.scroll.offset
  quit : t.quit = s.quit

variable {s t : Session} {i : Input}

theorem spares_view (s : Session) (focus : Focus) (tab : Tab) (scroll : Scroll)
    (size : Nat × Nat) : s.Spares ({ s with
      focus := focus
      tab := tab
      scroll := scroll
      size := size }, []) :=
  ⟨rfl, rfl, fun _ => List.not_mem_nil⟩

theorem spares_leave (s : Session) : s.Spares s.leave := ⟨rfl, rfl, by simp [leave]⟩

theorem spares_select (s : Session) (tab : Tab) : s.Spares (s.select tab, []) := by
  unfold select
  split
  next => exact s.spares_view _ _ _ _
  next => exact s.spares_view _ _ _ _

theorem spares_refresh (s : Session) (now : Nat) : s.Spares (s.refresh now) := by
  unfold refresh
  dsimp only
  split
  next => exact ⟨rfl, rfl, by simp⟩
  next => exact ⟨rfl, rfl, by simp [dispatch]⟩

theorem spares_outputChar (s : Session) (c : Char) : s.Spares (s.handleOutputChar c) := by
  unfold handleOutputChar
  split
  · exact s.spares_leave
  split
  · exact s.spares_select _
  split
  · exact s.spares_select _
  split
  · exact s.spares_view _ _ _ _
  split
  · exact s.spares_view _ _ _ _
  split
  · exact s.spares_view _ _ _ _
  split
  · exact s.spares_view _ _ _ _
  split
  · exact s.spares_select _
  · exact s.spares_view _ _ _ _

theorem spares_outputKey (s : Session) (k : Key) : s.Spares (s.handleOutputKey k) := by
  unfold handleOutputKey
  cases k.code with
  | char c => exact s.spares_outputChar c
  | left | right => exact s.spares_select _
  | up | down | pageUp | pageDown | home | lineEnd => exact s.spares_view _ _ _ _
  | enter | backspace | delete | tab | backTab | escape | insert | null | function _ | other =>
    exact s.spares_view _ _ _ _

theorem spares_key (h : s.focus = .output) (k : Key) (now : Nat) :
    s.Spares (s.handleKey k now) := by
  unfold handleKey
  rw [h]
  split
  next => exact s.spares_leave
  next =>
    split
    next => exact s.spares_refresh now
    next =>
      split
      next => exact s.spares_view _ _ _ _
      next => exact s.spares_outputKey k

/-- With the output pane in focus, no input reaches the template or the timer. -/
theorem spares_input (h : s.focus = .output) (i : Input) (now : Nat) :
    s.Spares (s.handleInput i now) := by
  unfold handleInput
  cases i with
  | key k =>
    dsimp only
    split
    next => exact s.spares_view _ _ _ _
    next => exact spares_key h k now
  | paste text =>
    have hpaste : ¬ (s.focus = .editor ∧ text ≠ "") := by simp [h]
    dsimp only
    rw [if_neg hpaste]
    exact s.spares_view _ _ _ _
  | resize width height => exact s.spares_view _ _ _ _
  | other => exact s.spares_view _ _ _ _

theorem keepsPane_of_eq (tab : t.tab = s.tab) (scroll : t.scroll = s.scroll)
    (quit : t.quit = s.quit) : s.KeepsPane t :=
  ⟨tab, Nat.le_of_eq (congrArg Scroll.offset scroll), quit⟩

theorem KeepsPane.clampScroll (h : s.KeepsPane t) : s.KeepsPane t.clampScroll :=
  ⟨h.tab, Nat.le_trans (Nat.min_le_left _ _) h.offset_le, h.quit⟩

theorem KeepsPane.apply (h : s.KeepsPane t) (r : Result) : s.KeepsPane (t.apply r) := by
  have hshown : s.KeepsPane { t with
      outputs := r.outputs
      applied := some r.generation
      status := some r.status
      info := r.info } := ⟨h.tab, h.offset_le, h.quit⟩
  exact hshown.clampScroll

theorem KeepsPane.schedule (h : s.KeepsPane t) (now : Nat) : s.KeepsPane (t.schedule now).1 := by
  unfold Session.schedule
  dsimp only
  split
  next => exact h.apply _
  next => exact h

theorem keepsPane_refresh (s : Session) (now : Nat) : s.KeepsPane (s.refresh now).1 := by
  unfold refresh
  dsimp only
  split
  next => exact (keepsPane_of_eq rfl rfl rfl).apply _
  next => exact keepsPane_of_eq rfl rfl rfl

theorem keepsPane_edited (s : Session) (e : Editor) (now : Nat) :
    s.KeepsPane (s.edited e now).1 := by
  have h : s.KeepsPane { s with editor := e, generation := s.generation + 1 } :=
    keepsPane_of_eq rfl rfl rfl
  exact h.schedule now

theorem keepsPane_editorKey (s : Session) (k : Key) (now : Nat) :
    s.KeepsPane (s.handleEditorKey k now).1 := by
  unfold handleEditorKey
  dsimp only
  split
  next => exact s.keepsPane_edited _ now
  next => exact keepsPane_of_eq rfl rfl rfl

/-- With the editor in focus, an input leaves the session or keeps the output pane. -/
theorem leave_or_keepsPane_input (h : s.focus = .editor) (i : Input) (now : Nat) :
    i.interrupts ∧ s.handleInput i now = s.leave ∨
      ¬ i.interrupts ∧ s.KeepsPane (s.handleInput i now).1 := by
  unfold handleInput
  cases i with
  | key k =>
    by_cases hk : k.motion = .release
    · simp only [hk, if_true]
      exact Or.inr ⟨by simp [Input.interrupts, hk], keepsPane_of_eq rfl rfl rfl⟩
    · simp only [hk, if_false]
      unfold handleKey
      rw [h]
      split
      next hc => exact Or.inl ⟨by simp [Input.interrupts, hk, hc], rfl⟩
      next hc =>
        refine Or.inr ⟨by simpa [Input.interrupts, hk] using hc, ?_⟩
        split
        next => exact s.keepsPane_refresh now
        next =>
          split
          next => exact keepsPane_of_eq rfl rfl rfl
          next => exact s.keepsPane_editorKey k now
  | paste text =>
    refine Or.inr ⟨by simp [Input.interrupts], ?_⟩
    dsimp only
    split
    next => exact s.keepsPane_edited _ now
    next => exact keepsPane_of_eq rfl rfl rfl
  | resize width height =>
    have hsized : s.KeepsPane { s with size := (width, height) } :=
      keepsPane_of_eq rfl rfl rfl
    exact Or.inr ⟨by simp [Input.interrupts], hsized.clampScroll⟩
  | other => exact Or.inr ⟨by simp [Input.interrupts], keepsPane_of_eq rfl rfl rfl⟩

end Session

namespace World

/-- What the focus decides in a world, and what an event leaves alone in either focus. -/
structure RoutesByFocus (w : World) : Prop where
  output : w.session.focus = .output → ∀ i : Input,
    (w.step (.input i)).session.editor = w.session.editor ∧
      (w.step (.input i)).session.generation = w.session.generation ∧
      (∀ r, .arm r ∉ w.asked (.input i)) ∧
      ∀ t, (w.step (.input i)).debouncer.timer = some t → w.debouncer.timer = some t
  editor : w.session.focus = .editor → ∀ i : Input,
    (w.step (.input i)).session.tab = w.session.tab ∧
      (w.step (.input i)).session.scroll.offset ≤ w.session.scroll.offset ∧
      (w.step (.input i)).session.quit = (w.session.quit || i.interrupts)
  event : ∀ e : Event,
    (w.handle e).session.editor = w.session.editor ∧
      (w.handle e).session.focus = w.session.focus ∧
      (w.handle e).session.tab = w.session.tab ∧
      (w.handle e).session.size = w.session.size ∧
      (w.handle e).session.outputHeight = w.session.outputHeight ∧
      (w.handle e).session.generation = w.session.generation ∧
      (w.handle e).session.quit = w.session.quit ∧
      (w.handle e).session.scroll.offset ≤ w.session.scroll.offset

variable {w : World}

/-- A timer that runs after some effects, none of which arms one, ran before. -/
theorem timer_of_takeOver {p : Session × List Effect} (h : ∀ r, .arm r ∉ p.2) (t : Timer) :
    (w.takeOver p).debouncer.timer = some t → w.debouncer.timer = some t := by
  obtain ⟨s, effects⟩ := p
  have go : ∀ v : World, (effects.foldl perform v).debouncer.timer = some t →
      v.debouncer.timer = some t := by
    induction effects with
    | nil => intro v hv; exact hv
    | cons e effects ih =>
      intro v hv
      have hrest := ih (fun r hr => h r (List.mem_cons_of_mem e hr)) (v.perform e) hv
      cases e with
      | arm r => exact absurd List.mem_cons_self (h r)
      | cancel => cases hrest
      | dispatch r => exact hrest
  exact go { w with session := s }

/-- Inputs are for the pane in focus: from the output pane none reaches the template or the timer,
and from the editor none but control with `c` leaves, and none turns to another tab or scrolls
down. An event from the timer or an analysis leaves all this alone. -/
theorem routesByFocus (w : World) : w.RoutesByFocus := by
  refine ⟨fun hfocus i => ?_, fun hfocus i => ?_, fun e => ?_⟩
  · have h := Session.spares_input hfocus i w.now
    refine ⟨?_, ?_, h.unarmed, timer_of_takeOver h.unarmed⟩
    · rw [step, session_takeOver]
      exact h.editor
    · rw [step, session_takeOver]
      exact h.generation
  · rw [step, session_takeOver]
    rcases Session.leave_or_keepsPane_input hfocus i w.now with ⟨hi, hleave⟩ | ⟨hi, h⟩
    · rw [hleave, hi, Bool.or_true]
      exact ⟨rfl, Nat.le_refl _, rfl⟩
    · rw [Bool.not_eq_true] at hi
      rw [hi, Bool.or_false]
      exact ⟨h.tab, h.offset_le, h.quit⟩
  · have ha := w.session.answer e
    rw [handle, session_takeOver]
    generalize w.session.handleEvent e = p at ha
    cases ha with
    | drop | launch | discard => exact ⟨rfl, rfl, rfl, rfl, rfl, rfl, rfl, Nat.le_refl _⟩
    | accept => exact ⟨rfl, rfl, rfl, rfl, rfl, rfl, rfl, Nat.min_le_left _ _⟩

end World
end LiveTemplate
