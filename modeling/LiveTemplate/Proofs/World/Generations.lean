import LiveTemplate.Proofs.Editor.SplitText
import LiveTemplate.Proofs.World.Rested

namespace LiveTemplate

/-- A key says that it changed the text exactly when it did. -/
def Editor.TellsEdits (e : Editor) : Prop :=
  ∀ k, (e.handleKey k).2 = true ↔ (e.handleKey k).1.value ≠ e.value

theorem Editor.Placed.tellsEdits {e : Editor} (h : e.Placed) : e.TellsEdits := by
  intro k
  rw [(h.handleKey k).2]
  exact not_congr ⟨World.value_eq, fun hv => String.ofList_injective hv⟩

namespace World

/-- The number of these steps that leave another text. -/
def edits (w : World) : List Step → Nat
  | [] => 0
  | s :: steps =>
    (if (w.step s).session.editor.value = w.session.editor.value then 0 else 1) +
      (w.step s).edits steps

/-- What holds of the generation at the end of a run, and of the one after another step. -/
structure CountsEdits (w : World) (steps : List Step) : Prop where
  edit : ∀ i : Input, ((w.run steps).step (.input i)).session.editor.value ≠
      (w.run steps).session.editor.value →
    ((w.run steps).step (.input i)).session.generation = (w.run steps).session.generation + 1
  same : ∀ i : Input, ((w.run steps).step (.input i)).session.editor.value =
      (w.run steps).session.editor.value →
    ((w.run steps).step (.input i)).session.generation = (w.run steps).session.generation
  other : ∀ s : Step, (∀ i, s ≠ .input i) →
    ((w.run steps).step s).session.editor.value = (w.run steps).session.editor.value ∧
      ((w.run steps).step s).session.generation = (w.run steps).session.generation
  total : (w.run steps).session.generation = w.session.generation + w.edits steps
  keys : (w.run steps).session.editor.TellsEdits

variable {w : World} {s : Step}

theorem generation_schedule (s : Session) (now : Nat) :
    (s.schedule now).1.generation = s.generation := by
  unfold Session.schedule
  dsimp only
  split <;> rfl

theorem step_generation_of_not_input (h : ∀ i, s ≠ .input i) :
    (w.step s).session.generation = w.session.generation := by
  cases s with
  | input i => exact absurd rfl (h i)
  | start => rw [step, session_takeOver, generation_schedule]
  | outputHeight height => rfl
  | draw size => rfl
  | elapse ms => rfl
  | deliver i =>
    rw [step, deliver]
    split
    next => rfl
    next e _ => exact (handle_frame { w with queue := w.queue.eraseIdx i } e).1
  | forge e => exact (w.handle_frame e).1

theorem step_generation_of_value_eq (hp : w.session.editor.Placed)
    (h : (w.step s).session.editor.value = w.session.editor.value) :
    (w.step s).session.generation = w.session.generation := by
  rcases w.step_generation s with ⟨hg, _⟩ | ⟨_, hne⟩
  · exact hg
  · exact absurd h (value_ne (hne hp))

theorem step_generation_of_value_ne
    (h : (w.step s).session.editor.value ≠ w.session.editor.value) :
    (w.step s).session.generation = w.session.generation + 1 := by
  rcases w.step_generation s with ⟨_, ht⟩ | ⟨hg, _⟩
  · exact absurd (value_eq ht) h
  · exact hg

theorem step_value_of_generation_eq
    (h : (w.step s).session.generation = w.session.generation) :
    (w.step s).session.editor.value = w.session.editor.value := by
  rcases w.step_generation s with ⟨_, ht⟩ | ⟨hg, _⟩
  · exact value_eq ht
  · omega

theorem generation_run (hp : w.session.editor.Placed) (steps : List Step) :
    (w.run steps).session.generation = w.session.generation + w.edits steps := by
  induction steps generalizing w with
  | nil => rfl
  | cons s steps ih =>
    have hrest := ih (step_placed s hp)
    rw [run, List.foldl_cons]
    refine hrest.trans ?_
    rw [edits]
    split
    next hv =>
      have hg := step_generation_of_value_eq hp hv
      omega
    next hv =>
      have hg := step_generation_of_value_ne hv
      omega

/-- At the end of every run, the generation is the number of edits so far; an input starts the next
one exactly when it changes the text, and no other step does either. In every editor, a key says
that it changed the text exactly when it did. -/
theorem generation_counts_edits (clock : Clock) (initial : String) (debounce deadline : Nat)
    (analyzer : Analyzer) (steps : List Step) :
    (open_ clock initial debounce deadline analyzer).CountsEdits steps ∧
      ∀ (text : Option String) (ops : List Editor.Operation),
        ((Editor.ofInitial text).run ops).TellsEdits := by
  have hinitial := Editor.placed_ofText initial
  have hplaced := run_placed (w := open_ clock initial debounce deadline analyzer) hinitial steps
  refine ⟨⟨?_, ?_, ?_, ?_, hplaced.tellsEdits⟩, fun text ops => ?_⟩
  · intro i
    exact step_generation_of_value_ne
  · intro i
    exact step_generation_of_value_eq hplaced
  · intro s hs
    have hg := step_generation_of_not_input (w :=
      (open_ clock initial debounce deadline analyzer).run steps) hs
    exact ⟨step_value_of_generation_eq hg, hg⟩
  · exact generation_run hinitial steps
  · have h := Editor.between_run text ops
    exact Editor.Placed.tellsEdits ⟨_, _, h⟩

end World
end LiveTemplate
