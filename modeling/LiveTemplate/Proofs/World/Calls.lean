import LiveTemplate.Proofs.World.History

namespace LiveTemplate.World

/-- The calls of the analyzer that a step makes, each with its moment. -/
def callsMade (w : World) (s : Step) : List (Nat × String) :=
  ((w.step s).dispatcher.calls.drop w.dispatcher.calls.length).map (w.now, ·)

def callLog (w : World) : List Step → List (Nat × String)
  | [] => []
  | s :: steps => w.callsMade s ++ (w.step s).callLog steps

variable {w : World} {s : Step} {steps : List Step} {content : String}

theorem calls_takeOver (w : World) (p : Session × List Effect) :
    (w.takeOver p).dispatcher.calls = w.dispatcher.calls := by
  obtain ⟨t, effects⟩ := p
  have performed : ∀ (w : World) (e : Effect),
      (w.perform e).dispatcher.calls = w.dispatcher.calls := by
    intro w e
    cases e <;> rfl
  have go : ∀ w : World, (effects.foldl perform w).dispatcher.calls = w.dispatcher.calls := by
    induction effects with
    | nil => intro w; rfl
    | cons e effects ih => intro w; exact (ih _).trans (performed w e)
  exact go { w with session := t }

theorem calls_deliver (w : World) (i : Nat) :
    (w.deliver i).dispatcher.calls = w.dispatcher.calls := by
  unfold deliver
  split
  next => rfl
  next e _ => exact calls_takeOver { w with queue := w.queue.eraseIdx i } _

theorem calls_step (w : World) (s : Step) :
    (w.step s).dispatcher.calls = w.dispatcher.calls ∨
      (w.step s).dispatcher.calls =
        w.dispatcher.calls ++ (w.dispatcher.waiting.filter (¬ ·.isBlank)).map Request.content := by
  cases s with
  | elapse ms => exact Or.inr (w.dispatcher.calls_begin w.now)
  | deliver i => exact Or.inl (w.calls_deliver i)
  | start | input | forge => exact Or.inl (w.calls_takeOver _)
  | outputHeight | draw => exact Or.inl rfl

/-- What a step calls the analyzer with comes after all earlier calls. -/
theorem calls_append_made (w : World) (s : Step) : (w.step s).dispatcher.calls =
    w.dispatcher.calls ++ (w.callsMade s).map Prod.snd := by
  have hmade : (w.callsMade s).map Prod.snd =
      (w.step s).dispatcher.calls.drop w.dispatcher.calls.length := by
    rw [callsMade, List.map_map]
    exact List.map_id _
  rw [hmade]
  rcases w.calls_step s with h | h
  · rw [h, List.drop_length, List.append_nil]
  · rw [h, List.drop_left]

/-- The log has every call of a run, in order. -/
theorem calls_append_log (w : World) (steps : List Step) : (w.run steps).dispatcher.calls =
    w.dispatcher.calls ++ (w.callLog steps).map Prod.snd := by
  induction steps generalizing w with
  | nil => exact (List.append_nil _).symm
  | cons s steps ih =>
    rw [callLog, List.map_append, ← List.append_assoc, ← calls_append_made]
    exact ih (w.step s)

theorem not_blank_of_mem_calls_step (h : ∀ c ∈ w.dispatcher.calls, ¬ isBlank c)
    (hc : content ∈ (w.step s).dispatcher.calls) : ¬ isBlank content := by
  rcases w.calls_step s with hs | hs
  · rw [hs] at hc
    exact h content hc
  · rw [hs] at hc
    rcases List.mem_append.mp hc with hc | hc
    · exact h content hc
    · obtain ⟨r, hr, rfl⟩ := List.mem_map.mp hc
      have hblank := (List.mem_filter.mp hr).2
      simpa [Request.isBlank] using hblank

/-- In a run, also with events from elsewhere, the analyzer is never called with a blank text. -/
theorem not_blank_of_mem_calls (h : ∀ c ∈ w.dispatcher.calls, ¬ isBlank c)
    (hc : content ∈ (w.run steps).dispatcher.calls) : ¬ isBlank content := by
  induction steps using List.reverseRecOn generalizing content with
  | nil => exact h content hc
  | append_singleton steps s ih =>
    rw [run_concat] at hc
    exact not_blank_of_mem_calls_step (fun c hmem => ih hmem) hc

end LiveTemplate.World
