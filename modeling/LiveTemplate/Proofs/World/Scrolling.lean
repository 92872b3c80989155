import LiveTemplate.Proofs.Session.Scrolling
import LiveTemplate.Proofs.World.History

namespace LiveTemplate.World

/-- What holds of the view at the end of a run, and of the view after another step. -/
structure ScrollSound (w : World) (steps : List Step) : Prop where
  offset_le : (w.run steps).session.scroll.offset ≤
    lineCount (w.run steps).session.activeText - (w.run steps).session.outputHeight
  top : ∀ s : Step, ((w.run steps).step s).session.tab ≠ (w.run steps).session.tab →
    ((w.run steps).step s).session.scroll.offset = 0
  /-- The window starts with the line at the offset and goes on from there. -/
  window : 1 ≤ (w.run steps).session.outputHeight →
    (∃ line, (splitLines (w.run steps).session.activeText.toList)[
        (w.run steps).session.scroll.offset]? = some line ∧
      line <+: (visibleWindow (w.run steps).session.activeText
        (w.run steps).session.scroll.offset (w.run steps).session.outputHeight).toList) ∧
    visibleWindow (w.run steps).session.activeText (w.run steps).session.scroll.offset
        (w.run steps).session.outputHeight =
      String.ofList (joinLines (linesFrom (splitLines (w.run steps).session.activeText.toList)
        (w.run steps).session.scroll.offset (w.run steps).session.outputHeight))

variable {w : World} {steps : List Step}

theorem session_deliver (w : World) (i : Nat) : (w.deliver i).session = w.session ∨
    ∃ e, (w.deliver i).session = (w.session.handleEvent e).1 := by
  unfold deliver
  split
  next => exact Or.inl rfl
  next e _ => exact Or.inr ⟨e, session_takeOver _ _⟩

theorem keepsView_step (w : World) (s : Step) : w.session.KeepsView (w.step s).session := by
  cases s with
  | start =>
    rw [step, session_takeOver]
    exact (Session.KeepsView.refl w.session).schedule rfl w.now
  | input i =>
    rw [step, session_takeOver]
    exact w.session.keepsView_input i w.now
  | outputHeight height => exact w.session.keepsView_outputHeight height
  | draw size => exact w.session.keepsView_fit size
  | elapse ms => exact .refl w.session
  | deliver i =>
    show w.session.KeepsView (w.deliver i).session
    rcases w.session_deliver i with hs | ⟨e, hs⟩
    · rw [hs]
      exact .refl w.session
    · rw [hs]
      exact w.session.keepsView_event e
  | forge e =>
    rw [step, handle, session_takeOver]
    exact w.session.keepsView_event e

theorem inView_run (h : w.session.InView) (steps : List Step) :
    (w.run steps).session.InView := by
  induction steps using List.reverseRecOn with
  | nil => exact h
  | append_singleton steps s ih =>
    rw [run_concat]
    exact ((w.run steps).keepsView_step s).inView ih

/-- In every run the offset is one that the text allows, another tab is shown from its top, and the
window of the text starts with the line at the offset. -/
theorem scroll_sound (clock : Clock) (initial : String) (debounce deadline : Nat)
    (analyzer : Analyzer) (steps : List Step) :
    (open_ clock initial debounce deadline analyzer).ScrollSound steps := by
  have hview : ((open_ clock initial debounce deadline analyzer).run steps).session.InView :=
    inView_run (Nat.zero_le _) steps
  refine ⟨hview, ?_, ?_⟩
  · intro s hs
    rw [(((open_ clock initial debounce deadline analyzer).run steps).keepsView_step s).top hs]
    rfl
  · intro hheight
    have hne :
        ((open_ clock initial debounce deadline analyzer).run steps).session.outputHeight ≠ 0 :=
      Nat.ne_of_gt hheight
    rw [visibleWindow, if_neg hne, windowLines_eq_linesFrom hview, String.toList_ofList]
    exact ⟨prefix_joinLines_linesFrom hview hheight (splitLines_ne_nil _), rfl⟩

end LiveTemplate.World
