import LiveTemplate.Proofs.World.Transit
import Mathlib.Data.List.Induction

namespace LiveTemplate.World

def run (w : World) (steps : List Step) : World := steps.foldl step w

/-- Steps that bring a world nothing but its own events. -/
def Closed (steps : List Step) : Prop := ∀ s ∈ steps, s.isOwn

instance (steps : List Step) : Decidable (Closed steps) :=
  inferInstanceAs (Decidable (∀ s ∈ steps, s.isOwn = true))

/-- A text that the template was in a generation of a run. -/
def TextOf (w : World) (steps : List Step) (generation : Nat) (text : String) : Prop :=
  ∃ past, past <+: steps ∧ (w.run past).session.generation = generation ∧
    (w.run past).session.editor.value = text

/-- A moment of a run at which a step changed the template. -/
def EditedAt (w : World) (steps : List Step) (time : Nat) : Prop :=
  ∃ past s, past ++ [s] <+: steps ∧ (w.run past).now = time ∧
    (w.run (past ++ [s])).session.editor.value ≠ (w.run past).session.editor.value

variable {w : World} {steps past : List Step} {s : Step} {e : Event}

theorem run_append (w : World) (steps more : List Step) :
    w.run (steps ++ more) = (w.run steps).run more := by
  rw [run, List.foldl_append]
  rfl

theorem run_concat (w : World) (steps : List Step) (s : Step) :
    w.run (steps ++ [s]) = (w.run steps).step s :=
  w.run_append steps [s]

theorem change_run (w : World) (steps : List Step) (h : s.isOwn) :
    (w.run steps).Change ((w.run steps).dispatches s) (w.run (steps ++ [s])) := by
  rw [run_concat]
  exact change_step h

theorem closed_nil : Closed [] := by
  intro s hs
  cases hs

theorem closed_singleton (h : s.isOwn) : Closed [s] := by
  intro t ht
  cases List.mem_singleton.mp ht
  exact h

theorem Closed.of_concat (h : Closed (steps ++ [s])) : Closed steps ∧ s.isOwn := by
  constructor
  · intro t ht
    exact h t (List.mem_append_left _ ht)
  · exact h s (by simp)

theorem Closed.append {more : List Step} (h : Closed steps) (hm : Closed more) :
    Closed (steps ++ more) := by
  intro t ht
  rcases List.mem_append.mp ht with ht | ht
  · exact h t ht
  · exact hm t ht

theorem handle_frame (w : World) (e : Event) :
    (w.handle e).session.generation = w.session.generation ∧
      (w.handle e).session.editor = w.session.editor ∧ (w.handle e).now = w.now := by
  have ha := w.session.answer e
  unfold handle
  generalize w.session.handleEvent e = p at ha ⊢
  cases ha <;> exact ⟨rfl, rfl, rfl⟩

theorem step_generation (w : World) (s : Step) :
    (w.step s).session.generation = w.session.generation ∧
        (w.step s).session.editor.text = w.session.editor.text ∨
      (w.step s).session.generation = w.session.generation + 1 ∧
        (w.session.editor.Placed →
          (w.step s).session.editor.text ≠ w.session.editor.text) := by
  cases s with
  | forge e =>
    obtain ⟨hg, he, _⟩ := w.handle_frame e
    exact Or.inl ⟨hg, congrArg Editor.text he⟩
  | start | input | outputHeight | draw | elapse | deliver => exact (change_step rfl).generation

theorem step_generation_le (w : World) (s : Step) :
    w.session.generation ≤ (w.step s).session.generation := by
  rcases w.step_generation s with ⟨hg, _⟩ | ⟨hg, _⟩ <;> omega

theorem step_now_le (w : World) (s : Step) : w.now ≤ (w.step s).now := by
  cases s with
  | forge e => exact Nat.le_of_eq (w.handle_frame e).2.2.symm
  | start | input | outputHeight | draw | elapse | deliver => exact (change_step rfl).now_le

/-- The generation never falls, and while it stays so does the text. -/
theorem run_generation (w : World) (steps : List Step) :
    w.session.generation ≤ (w.run steps).session.generation ∧
      ((w.run steps).session.generation = w.session.generation →
        (w.run steps).session.editor.text = w.session.editor.text) := by
  induction steps using List.reverseRecOn with
  | nil => exact ⟨Nat.le_refl _, fun _ => rfl⟩
  | append_singleton steps s ih =>
    rw [run_concat]
    rcases (w.run steps).step_generation s with ⟨hg, ht⟩ | ⟨hg, _⟩
    · rw [hg, ht]
      exact ih
    · rw [hg]
      exact ⟨by omega, fun h => by omega⟩

theorem run_now_le (w : World) (steps : List Step) : w.now ≤ (w.run steps).now := by
  induction steps using List.reverseRecOn with
  | nil => exact Nat.le_refl _
  | append_singleton steps s ih =>
    rw [run_concat]
    exact Nat.le_trans ih ((w.run steps).step_now_le s)

theorem step_placed (s : Step) (hp : w.session.editor.Placed) :
    (w.step s).session.editor.Placed := by
  cases s with
  | forge e =>
    show (w.handle e).session.editor.Placed
    rw [(w.handle_frame e).2.1]
    exact hp
  | start | input | outputHeight | draw | elapse | deliver => exact (change_step rfl).placed hp

theorem run_placed (hp : w.session.editor.Placed) (steps : List Step) :
    (w.run steps).session.editor.Placed := by
  induction steps using List.reverseRecOn with
  | nil => exact hp
  | append_singleton steps s ih =>
    rw [run_concat]
    exact step_placed s ih

theorem value_eq {e f : Editor} (h : e.text = f.text) : e.value = f.value := by
  rw [Editor.value, Editor.value, h]

theorem value_ne {e f : Editor} (h : e.text ≠ f.text) : e.value ≠ f.value :=
  fun hv => h (String.ofList_injective hv)

theorem value_eq_of_generation {p q : List Step} (h : p <+: q)
    (hg : (w.run p).session.generation = (w.run q).session.generation) :
    (w.run p).session.editor.value = (w.run q).session.editor.value := by
  obtain ⟨more, rfl⟩ := h
  rw [run_append] at hg ⊢
  exact value_eq (((w.run p).run_generation more).2 hg.symm).symm

theorem TextOf.unique {generation : Nat} {text text' : String}
    (h : w.TextOf steps generation text) (h' : w.TextOf steps generation text') : text = text' := by
  obtain ⟨p, hp, hpg, rfl⟩ := h
  obtain ⟨q, hq, hqg, rfl⟩ := h'
  rcases List.prefix_or_prefix_of_prefix hp hq with hpq | hqp
  · exact value_eq_of_generation hpq (hpg.trans hqg.symm)
  · exact (value_eq_of_generation hqp (hqg.trans hpg.symm)).symm

theorem TextOf.mono {generation : Nat} {text : String} {more : List Step}
    (h : w.TextOf steps generation text) : w.TextOf (steps ++ more) generation text := by
  obtain ⟨p, hp, hg, ht⟩ := h
  exact ⟨p, hp.trans (List.prefix_append _ _), hg, ht⟩

theorem TextOf.generation_le {generation : Nat} {text : String}
    (h : w.TextOf steps generation text) : generation ≤ (w.run steps).session.generation := by
  obtain ⟨p, ⟨more, rfl⟩, rfl, _⟩ := h
  rw [run_append]
  exact ((w.run p).run_generation more).1

theorem textOf_now (w : World) (steps : List Step) :
    w.TextOf steps (w.run steps).session.generation (w.run steps).session.editor.value :=
  ⟨steps, List.prefix_refl steps, rfl, rfl⟩

theorem textOf_snapshot (w : World) (steps : List Step) (now : Nat) :
    w.TextOf steps ((w.run steps).session.snapshot now).generation
      ((w.run steps).session.snapshot now).content := by
  simp only [Session.snapshot]
  exact w.textOf_now steps

theorem EditedAt.mono {time : Nat} {more : List Step} (h : w.EditedAt steps time) :
    w.EditedAt (steps ++ more) time := by
  obtain ⟨past, t, hp, htime, hne⟩ := h
  exact ⟨past, t, hp.trans (List.prefix_append _ _), htime, hne⟩

theorem editedAt_concat {time : Nat} : w.EditedAt (steps ++ [s]) time ↔
    w.EditedAt steps time ∨ (w.run steps).now = time ∧
      ((w.run steps).step s).session.editor.value ≠ (w.run steps).session.editor.value := by
  constructor
  · rintro ⟨past, t, hp, htime, hne⟩
    rcases List.prefix_concat_iff.mp hp with he | hp
    · obtain ⟨rfl, ht⟩ := List.append_inj' he rfl
      cases ht
      rw [run_concat] at hne
      exact Or.inr ⟨htime, hne⟩
    · exact Or.inl ⟨past, t, hp, htime, hne⟩
  · rintro (h | ⟨htime, hne⟩)
    · exact h.mono
    · exact ⟨steps, s, List.prefix_refl _, htime, by rwa [run_concat]⟩

theorem EditedAt.le_now {time : Nat} (h : w.EditedAt steps time) : time ≤ (w.run steps).now := by
  obtain ⟨past, t, ⟨more, rfl⟩, rfl, _⟩ := h
  rw [List.append_assoc, run_append]
  exact (w.run past).run_now_le _

/-- The generation grows exactly when the template is changed. -/
theorem edited_iff (hp : w.session.editor.Placed) : (∃ time, w.EditedAt steps time) ↔
    w.session.generation < (w.run steps).session.generation := by
  induction steps using List.reverseRecOn with
  | nil =>
    constructor
    · rintro ⟨time, past, s, hpast, _⟩
      have hnil := List.prefix_nil.mp hpast
      simp at hnil
    · intro hlt
      exact absurd hlt (Nat.lt_irrefl _)
  | append_singleton steps s ih =>
    have hle := (w.run_generation steps).1
    rw [run_concat]
    rcases (w.run steps).step_generation s with ⟨hg, ht⟩ | ⟨hg, ht⟩
    · rw [hg, ← ih]
      constructor
      · rintro ⟨time, he⟩
        rcases editedAt_concat.mp he with he | ⟨_, hne⟩
        · exact ⟨time, he⟩
        · exact absurd (value_eq ht) hne
      · rintro ⟨time, he⟩
        exact ⟨time, he.mono⟩
    · constructor
      · intro _
        omega
      · intro _
        exact ⟨_, editedAt_concat.mpr (Or.inr ⟨rfl, value_ne (ht (run_placed hp steps))⟩)⟩

end LiveTemplate.World
