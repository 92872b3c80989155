import LiveTemplate.Proofs.World.Pump
import LiveTemplate.Proofs.World.Rested

namespace LiveTemplate

/-- A result that an analysis of a request can have, whenever it begins and whichever call it is. -/
def Dispatcher.Results (d : Dispatcher) (q : Request) (r : Result) : Prop :=
  ∃ call now, r = (analyze d.clock d.analyzer d.deadline call now q).result

theorem Dispatcher.Results.generation {d : Dispatcher} {q : Request} {r : Result}
    (h : d.Results q r) : r.generation = q.generation := by
  obtain ⟨call, now, rfl⟩ := h
  exact generation_analyze d.clock d.analyzer d.deadline call now q

namespace World

/-- The event that a step hands to the session. -/
def handled (w : World) : Step → Option Event
  | .deliver i => w.queue[i]?
  | .forge e => some e
  | _ => none

/-- In a run `a` is dispatched by its first step and `b` by a later one, and the result `rb` of `b`
is handled and shown; the run may go on after that. -/
inductive Overtakes (w : World) (b : Request) (rb : Result) (a : Request) : List Step → Prop where
  | mk {first second shows : Step} {between rest more : List Step}
      (dispatched_a : a ∈ w.dispatches first)
      (dispatched_b : b ∈ (w.run (first :: between)).dispatches second)
      (result : w.dispatcher.Results b rb)
      (handled : (w.run (first :: between ++ second :: rest)).handled shows =
        some (.completed rb))
      (applied : rb.generation =
        (w.run (first :: between ++ second :: rest)).session.generation) :
      Overtakes w b rb a (first :: between ++ second :: rest ++ shows :: more)

variable {w : World} {steps : List Step} {s : Step} {r : Request}

theorem generation_of_handleEvent {t : Session} {e : Event}
    (h : r ∈ requests (t.handleEvent e).2) : r.generation = t.generation := by
  have ha := t.answer e
  generalize t.handleEvent e = p at h ha
  cases ha with
  | @launch q current fresh =>
    have hrq : r ∈ [q] := h
    cases List.mem_singleton.mp hrq
    exact current
  | drop | discard | accept => cases h

theorem generation_of_refresh {t : Session} {now : Nat} (h : r ∈ requests (t.refresh now).2) :
    r.generation = t.generation := by
  unfold Session.refresh at h
  dsimp only at h
  split at h
  next => cases h
  next =>
    have hr : r ∈ [t.snapshot now] := h
    cases List.mem_singleton.mp hr
    rfl

theorem generation_of_mem_dispatches (h : r ∈ w.dispatches s) :
    r.generation = w.session.generation := by
  cases s with
  | start =>
    have hnil : w.dispatches .start = [] := requests_schedule _ _
    rw [hnil] at h
    cases h
  | input i =>
    have hr := w.session.reaction i w.now
    have hm : r ∈ requests (w.session.handleInput i w.now).2 := h
    generalize w.session.handleInput i w.now = p at hr hm
    cases hr with
    | leave => cases hm
    | refresh => exact generation_of_refresh hm
    | edit =>
      rw [Session.edited, requests_schedule] at hm
      cases hm
    | view => cases hm
  | deliver i => exact ((w.delivery i).sent h).2
  | forge e => exact generation_of_handleEvent h
  | outputHeight | draw | elapse => cases h

theorem step_of_handled {ra : Result} (h : w.handled s = some (.completed ra)) :
    (ra.generation = w.session.generation → (w.step s).session.Shows ra) ∧
      (ra.generation ≠ w.session.generation → w.session.SameDisplay (w.step s).session) := by
  have handle_completed : ∀ v : World, v.session = w.session →
      (ra.generation = w.session.generation → (v.handle (.completed ra)).session.Shows ra) ∧
        (ra.generation ≠ w.session.generation →
          w.session.SameDisplay (v.handle (.completed ra)).session) := by
    intro v hv
    rw [← hv]
    constructor
    · intro hg
      rw [handle_of_accept hg]
      exact Session.shows_apply _ _
    · intro hg
      rw [handle_of_discard hg]
      exact ⟨rfl, rfl, rfl, rfl⟩
  cases s with
  | deliver i =>
    have hi : w.queue[i]? = some (.completed ra) := h
    have hstep : w.step (.deliver i) =
        handle { w with queue := w.queue.eraseIdx i } (.completed ra) := by
      rw [step, deliver, hi]
    rw [hstep]
    exact handle_completed _ rfl
  | forge e =>
    cases h
    exact handle_completed w rfl
  | start | input | outputHeight | draw | elapse => cases h

theorem Overtakes.generation_le {a b : Request} {rb : Result} (h : w.Overtakes b rb a steps) :
    a.generation = w.session.generation ∧ a.generation ≤ b.generation ∧
      b.generation ≤ (w.run steps).session.generation := by
  obtain @⟨first, second, shows, between, rest, more, hfirst, hsecond, _, _, _⟩ := h
  have ha := generation_of_mem_dispatches hfirst
  have hb := generation_of_mem_dispatches hsecond
  have hab := (w.run_generation (first :: between)).1
  have hend := ((w.run (first :: between)).run_generation (second :: rest ++ shows :: more)).1
  rw [← run_append, ← List.append_assoc] at hend
  omega

/-- The result of an analysis that was overtaken changes nothing shown if the template was edited
since its dispatch. If not, both analyses are of one generation, and the late result is shown. -/
theorem late_result (clock : Clock) (initial : String) (debounce deadline : Nat)
    (analyzer : Analyzer) (past : List Step) {a b : Request} {ra rb : Result} {late : Step}
    (h : ((open_ clock initial debounce deadline analyzer).run past).Overtakes b rb a steps)
    (result : ((open_ clock initial debounce deadline analyzer).run past).dispatcher.Results a ra)
    (arrives : (((open_ clock initial debounce deadline analyzer).run past).run steps).handled
      late = some (.completed ra)) :
    ((∃ time, ((open_ clock initial debounce deadline analyzer).run past).EditedAt steps time) →
        (((open_ clock initial debounce deadline analyzer).run past).run steps).session.SameDisplay
          ((((open_ clock initial debounce deadline analyzer).run past).run steps).step
            late).session) ∧
      ((¬ ∃ time, ((open_ clock initial debounce deadline analyzer).run past).EditedAt steps time) →
        a.generation = b.generation ∧
          ((((open_ clock initial debounce deadline analyzer).run past).run steps).step
            late).session.Shows ra) := by
  have hp := run_placed (w := open_ clock initial debounce deadline analyzer)
    (Editor.placed_ofText initial) past
  generalize (open_ clock initial debounce deadline analyzer).run past = w at h result arrives hp ⊢
  obtain ⟨ha, hab, hb⟩ := h.generation_le
  have hra := result.generation
  obtain ⟨hcurrent, houtdated⟩ := step_of_handled arrives
  rw [edited_iff hp]
  constructor
  · intro hlt
    exact houtdated (by omega)
  · intro hnot
    exact ⟨by omega, hcurrent (by omega)⟩

def refreshKey : Input := .key ⟨.char 'r', { Modifiers.none with control := true }, .press⟩

/-- Answers the first call too late, and the others at once. -/
def slowFirst : Analyzer := fun call content =>
  .after (if call = 0 then 1000 else 0) (.ok (Script.echo content))

/-- The template is edited between two forced analyses, and the first runs into its deadline. -/
theorem late_result_edited :
    ∃ a b rb, ((open_ .nanoseconds "x" 5 100 slowFirst).run []).Overtakes b rb a
        [.input refreshKey, .elapse 1, .input (.key (.typed 'y')), .input refreshKey, .elapse 0,
          .deliver 0, .elapse 99] ∧
      (((open_ .nanoseconds "x" 5 100 slowFirst).run []).run
        [.input refreshKey, .elapse 1, .input (.key (.typed 'y')), .input refreshKey, .elapse 0,
          .deliver 0, .elapse 99]).session.SameDisplay
        ((((open_ .nanoseconds "x" 5 100 slowFirst).run []).run
          [.input refreshKey, .elapse 1, .input (.key (.typed 'y')), .input refreshKey, .elapse 0,
            .deliver 0, .elapse 99]).step (.deliver 0)).session := by
  have h : ((open_ .nanoseconds "x" 5 100 slowFirst).run []).Overtakes ⟨1, "xy", 1⟩
      (analyze .nanoseconds slowFirst 100 1 1 ⟨1, "xy", 1⟩).result ⟨0, "x", 0⟩
      [.input refreshKey, .elapse 1, .input (.key (.typed 'y')), .input refreshKey, .elapse 0,
        .deliver 0, .elapse 99] := by
    refine @Overtakes.mk _ _ _ _ (.input refreshKey) (.input refreshKey) (.deliver 0)
      [.elapse 1, .input (.key (.typed 'y'))] [.elapse 0] [.elapse 99] ?_ ?_ ⟨1, 1, rfl⟩ ?_ ?_
    · decide +kernel
    · decide +kernel
    · decide +kernel
    · decide +kernel
  have arrives : (((open_ .nanoseconds "x" 5 100 slowFirst).run []).run
      [.input refreshKey, .elapse 1, .input (.key (.typed 'y')), .input refreshKey, .elapse 0,
        .deliver 0, .elapse 99]).handled (.deliver 0) =
      some (.completed (analyze .nanoseconds slowFirst 100 0 0 ⟨0, "x", 0⟩).result) := by
    decide +kernel
  have hedited : ∃ time, ((open_ .nanoseconds "x" 5 100 slowFirst).run []).EditedAt
      [.input refreshKey, .elapse 1, .input (.key (.typed 'y')), .input refreshKey, .elapse 0,
        .deliver 0, .elapse 99] time := by
    refine ⟨_, [.input refreshKey, .elapse 1], .input (.key (.typed 'y')), ⟨_, rfl⟩, rfl, ?_⟩
    decide +kernel
  have hlate := late_result .nanoseconds "x" 5 100 slowFirst [] h ⟨0, 0, rfl⟩ arrives
  exact ⟨_, _, _, h, hlate.1 hedited⟩

/-- Of two forced analyses of one text the first runs into its deadline, and its failure replaces
the result of the second. -/
theorem late_failure_shown :
    ∃ a b ra rb, (open_ .nanoseconds "x" 5 100 slowFirst).Overtakes b rb a
        [.input refreshKey, .elapse 1, .input refreshKey, .elapse 0, .deliver 0, .elapse 99] ∧
      (open_ .nanoseconds "x" 5 100 slowFirst).dispatcher.Results a ra ∧
      ((open_ .nanoseconds "x" 5 100 slowFirst).run
        [.input refreshKey, .elapse 1, .input refreshKey, .elapse 0, .deliver 0,
          .elapse 99]).handled (.deliver 0) = some (.completed ra) ∧
      (((open_ .nanoseconds "x" 5 100 slowFirst).run
        [.input refreshKey, .elapse 1, .input refreshKey, .elapse 0, .deliver 0,
          .elapse 99]).step (.deliver 0)).session.outputs ≠
        ((open_ .nanoseconds "x" 5 100 slowFirst).run
          [.input refreshKey, .elapse 1, .input refreshKey, .elapse 0, .deliver 0,
            .elapse 99]).session.outputs := by
  refine ⟨⟨0, "x", 0⟩, ⟨0, "x", 1⟩, (analyze .nanoseconds slowFirst 100 0 0 ⟨0, "x", 0⟩).result,
    (analyze .nanoseconds slowFirst 100 1 1 ⟨0, "x", 1⟩).result, ?_, ⟨0, 0, rfl⟩, ?_, ?_⟩
  · refine @Overtakes.mk _ _ _ _ (.input refreshKey) (.input refreshKey) (.deliver 0)
      [.elapse 1] [.elapse 0] [.elapse 99] ?_ ?_ ⟨1, 1, rfl⟩ ?_ ?_
    · decide +kernel
    · decide +kernel
    · decide +kernel
    · decide +kernel
  · decide +kernel
  · decide +kernel

end World
end LiveTemplate
