import LiveTemplate.Proofs.Analysis.Begun
import LiveTemplate.Proofs.World.History
import LiveTemplate.World.Run
import Mathlib.Data.List.Perm.Basic

namespace LiveTemplate

/-- What a request asks for, whenever it was made. -/
def Request.task (r : Request) : Nat × String := (r.generation, r.content)

/-- What a result answers. -/
def Result.task (r : Result) : Nat × String := (r.generation, r.content)

/-- What an event answers, if it is a result. -/
def Event.answer? : Event → Option (Nat × String)
  | .fired _ => none
  | .completed r => some r.task

/-- How many of some events are results. -/
def completions (es : List Event) : Nat := es.countP (!·.isFire)

theorem completions_completed (r : Result) (es : List Event) :
    completions (.completed r :: es) = completions es + 1 := by
  rw [completions, List.countP_cons]
  rfl

theorem completions_eq_length (es : List Event) :
    completions es = (es.filterMap Event.answer?).length := by
  induction es with
  | nil => rfl
  | cons e es ih =>
    cases e with
    | fired r => exact ih
    | completed r =>
      rw [completions_completed, ih]
      rfl

theorem completions_eq_zero {es : List Event} :
    completions es = 0 ↔ ∀ r, .completed r ∉ es := by
  rw [completions, List.countP_eq_zero]
  constructor
  · intro h r hr
    exact h _ hr rfl
  · intro h e he
    cases e with
    | fired r => exact Bool.false_ne_true
    | completed r => exact absurd he (h r)

theorem completions_eraseIdx_fired {es : List Event} {i : Nat} {r : Request}
    (h : es[i]? = some (.fired r)) : completions (es.eraseIdx i) = completions es := by
  obtain ⟨hi, he⟩ := List.getElem?_eq_some_iff.mp h
  have hperm := (List.getElem_cons_eraseIdx_perm hi).countP_eq (!·.isFire)
  rw [he] at hperm
  exact hperm

theorem completions_eraseIdx_completed {es : List Event} {i : Nat} {r : Result}
    (h : es[i]? = some (.completed r)) : completions (es.eraseIdx i) + 1 = completions es := by
  obtain ⟨hi, he⟩ := List.getElem?_eq_some_iff.mp h
  have hperm := (List.getElem_cons_eraseIdx_perm hi).countP_eq (!·.isFire)
  rw [he] at hperm
  exact (completions_completed r _).symm.trans hperm

theorem task_analyze (clock : Clock) (analyzer : Analyzer) (deadline call now : Nat)
    (r : Request) :
    (analyze clock analyzer deadline call now r).result.task = r.task :=
  Prod.ext (generation_analyze clock analyzer deadline call now r)
    (content_analyze clock analyzer deadline call now r)

theorem Dispatcher.tasks_begun (clock : Clock) (analyzer : Analyzer) (deadline now call : Nat)
    (rs : List Request) :
    (begun clock analyzer deadline now call rs).map (·.result.task) = rs.map Request.task := by
  induction rs generalizing call with
  | nil => rfl
  | cons r rs ih => rw [begun, List.map_cons, List.map_cons, task_analyze, ih]

theorem Dispatcher.ended_append_pass (d : Dispatcher) (time : Nat) :
    (d.ended time ++ (d.pass time).running).Perm d.running := by
  refine ((List.mergeSort_perm _ _).append_right _).trans ?_
  have hnot : (fun c : Cycle => decide ¬ c.finish ≤ time) = fun c => !decide (c.finish ≤ time) := by
    funext c
    exact decide_not
  rw [pass, hnot]
  exact List.filter_append_perm (fun c : Cycle => decide (c.finish ≤ time)) d.running

namespace World

/-- What was dispatched and not answered: what waits, runs, or has its result in the queue. -/
def unanswered (w : World) : List (Nat × String) :=
  w.dispatcher.waiting.map Request.task ++ w.dispatcher.running.map (·.result.task) ++
    w.queue.filterMap Event.answer?

/-- How many analyses were dispatched whose result was not delivered. -/
def outstanding (w : World) : Nat :=
  w.dispatcher.waiting.length + w.dispatcher.running.length + completions w.queue

variable {w v : World} {ds : List Request} {steps : List Step}

theorem filterMap_withdraw (w : World) :
    w.withdraw.queue.filterMap Event.answer? = w.queue.filterMap Event.answer? := by
  have hfires : ∀ e : Event, (if (!e.isFire) = true then e.answer? else none) = e.answer? := by
    intro e
    cases e <;> rfl
  rw [withdraw, List.filterMap_append, List.filterMap_filter]
  simp only [hfires]
  rw [← List.filterMap_append, List.take_append_drop]

theorem unanswered_withdraw (w : World) : w.withdraw.unanswered = w.unanswered := by
  rw [unanswered, filterMap_withdraw]
  rfl

theorem filterMap_results (cs : List Cycle) :
    (results cs).filterMap Event.answer? = cs.map (·.result.task) := by
  rw [results, List.filterMap_map]
  exact congrFun (List.filterMap_eq_map' (f := fun c : Cycle => c.result.task)) cs

theorem filterMap_sent (d : Debouncer) (cs : List Cycle) (time : Nat) :
    (sent d cs time).filterMap Event.answer? = cs.map (·.result.task) := by
  unfold sent
  cases d.timer with
  | none => exact filterMap_results cs
  | some t =>
    by_cases hd : t.due ≤ time
    · simp only [hd, if_true, List.filterMap_append, List.filterMap_cons, Event.answer?,
        filterMap_results]
      rw [← List.map_append, List.takeWhile_append_dropWhile]
    · simp only [hd, if_false]
      exact filterMap_results cs

theorem unanswered_passTo (w : World) (time : Nat) :
    (w.passTo time).unanswered.Perm w.unanswered := by
  have hended := ((w.dispatcher.begin w.now).ended_append_pass time).map (·.result.task)
  have hrunning : (w.dispatcher.begin w.now).running.map (·.result.task) =
      w.dispatcher.running.map (·.result.task) ++ w.dispatcher.waiting.map Request.task := by
    rw [Dispatcher.begin_eq_begun, List.map_append, Dispatcher.tasks_begun]
  have hwaiting : ((w.dispatcher.begin w.now).pass time).waiting = [] :=
    (w.dispatcher.begin_eq w.now).1
  rw [hrunning] at hended
  unfold unanswered passTo
  dsimp only
  rw [hwaiting, List.filterMap_append, filterMap_sent]
  rw [List.perm_iff_count] at hended ⊢
  intro task
  have hcount := hended task
  simp only [List.map_append, List.count_append, List.map_nil, List.count_nil] at hcount ⊢
  omega

theorem length_unanswered (w : World) : w.unanswered.length = w.outstanding := by
  simp only [unanswered, outstanding, List.length_append, List.length_map, completions_eq_length]

theorem completions_withdraw (w : World) : completions w.withdraw.queue = completions w.queue := by
  rw [completions_eq_length, filterMap_withdraw, ← completions_eq_length]

theorem outstanding_withdraw (w : World) : w.withdraw.outstanding = w.outstanding := by
  rw [← length_unanswered, unanswered_withdraw, length_unanswered]

theorem outstanding_passTo (w : World) (time : Nat) :
    (w.passTo time).outstanding = w.outstanding := by
  rw [← length_unanswered, (w.unanswered_passTo time).length_eq, length_unanswered]

theorem Delivery.inFlight {i : Nat} (h : w.Delivery i ds v)
    (hw : w.session.inFlight = w.outstanding) : v.session.inFlight = v.outstanding := by
  unfold outstanding at hw ⊢
  cases h with
  | absent none => exact hw
  | drop sent outdated =>
    rw [completions_eraseIdx_fired sent]
    exact hw
  | launch sent current fresh =>
    rw [completions_eraseIdx_fired sent]
    simp only [Session.dispatch, Dispatcher.dispatch, List.length_append, List.length_singleton]
    omega
  | discard sent outdated =>
    have hcount := completions_eraseIdx_completed sent
    show w.session.inFlight - 1 =
      w.dispatcher.waiting.length + w.dispatcher.running.length + completions (w.queue.eraseIdx i)
    omega
  | accept sent current =>
    have hcount := completions_eraseIdx_completed sent
    show w.session.inFlight - 1 =
      w.dispatcher.waiting.length + w.dispatcher.running.length + completions (w.queue.eraseIdx i)
    omega

theorem Change.inFlight (h : w.Change ds v) (hw : w.session.inFlight = w.outstanding) :
    v.session.inFlight = v.outstanding := by
  have hwithdraw := hw.trans w.outstanding_withdraw.symm
  cases h with
  | view same => exact same.inFlight.trans hw
  | settle revises blank => cases revises <;> exact hwithdraw
  | arm revises some => cases revises <;> exact hwithdraw
  | force some =>
    unfold outstanding at hw ⊢
    simp only [Session.dispatch, Dispatcher.dispatch, List.length_append, List.length_singleton]
    have hqueue := w.completions_withdraw
    unfold withdraw at hqueue ⊢
    dsimp only at hqueue ⊢
    omega
  | leave => exact hwithdraw
  | pass later => exact hw.trans (w.outstanding_passTo _).symm
  | deliver delivery => exact delivery.inFlight hw

/-- In a closed run the count of analyses in flight is exact. -/
theorem inFlight_run (clock : Clock) (initial : String) (debounce deadline : Nat)
    (analyzer : Analyzer) (h : Closed steps) :
    ((open_ clock initial debounce deadline analyzer).run steps).session.inFlight =
      ((open_ clock initial debounce deadline analyzer).run steps).outstanding := by
  induction steps using List.reverseRecOn with
  | nil => rfl
  | append_singleton steps s ih =>
    obtain ⟨hc, hs⟩ := h.of_concat
    exact (change_run _ steps hs).inFlight (ih hc)

end World
end LiveTemplate
