import LiveTemplate.World

namespace LiveTemplate

namespace Dispatcher

theorem begin_eq (d : Dispatcher) (now : Nat) :
    (d.begin now).waiting = [] ∧
      (d.begin now).running.length = d.running.length + d.waiting.length := by
  have go : ∀ (rs : List Request) (e : Dispatcher),
      (rs.foldl (beginOne now) e).waiting = e.waiting ∧
        (rs.foldl (beginOne now) e).running.length = e.running.length + rs.length := by
    intro rs
    induction rs with
    | nil => intro e; exact ⟨rfl, rfl⟩
    | cons r rs ih =>
      intro e
      obtain ⟨hw, hr⟩ := ih (beginOne now e r)
      refine ⟨hw.trans rfl, ?_⟩
      rw [List.foldl_cons, hr]
      simp only [beginOne, List.length_append, List.length_cons, List.length_nil]
      omega
  exact go d.waiting { d with waiting := [] }

theorem begin_of_nil (d : Dispatcher) (now : Nat) (h : d.waiting = []) : d.begin now = d := by
  obtain ⟨analyzer, deadline, waiting, running, calls⟩ := d
  cases h
  rfl

theorem length_ended_add_pass (d : Dispatcher) (time : Nat) :
    (d.ended time).length + (d.pass time).running.length = d.running.length := by
  have hs : ∀ cs : List Cycle, (cs.filter (·.finish ≤ time)).length +
      (cs.filter (¬ ·.finish ≤ time)).length = cs.length := by
    intro cs
    induction cs with
    | nil => rfl
    | cons c cs ih =>
      simp only [List.length_cons]
      by_cases h : c.finish ≤ time
      · rw [List.filter_cons_of_pos (by simp [h]), List.filter_cons_of_neg (by simp [h])]
        simp only [List.length_cons]
        omega
      · rw [List.filter_cons_of_neg (by simp [h]), List.filter_cons_of_pos (by simp [h])]
        simp only [List.length_cons]
        omega
  rw [ended, List.length_mergeSort, pass]
  exact hs d.running

end Dispatcher

namespace World

theorem load_eq (w : World) :
    w.load = (if w.debouncer.isArmed then 5 else 0) + sentLoad w.queue +
      3 * w.dispatcher.waiting.length + 2 * w.dispatcher.running.length := rfl

theorem sentLoad_append (es fs : List Event) :
    sentLoad (es ++ fs) = sentLoad es + sentLoad fs := by
  induction es with
  | nil => simp [sentLoad]
  | cons e es ih => cases e <;> simp only [List.cons_append, sentLoad, ih] <;> omega

theorem sentLoad_results (cs : List Cycle) : sentLoad (results cs) = cs.length := by
  induction cs with
  | nil => rfl
  | cons c cs ih =>
    simp only [results, sentLoad, List.map_cons, List.length_cons] at *
    omega

theorem sentLoad_sent (d : Debouncer) (ended : List Cycle) (time : Nat) :
    sentLoad (sent d ended time) = ended.length + 4 * (d.due? time).toList.length := by
  obtain ⟨clock, delay, timer⟩ := d
  cases timer with
  | none => simp [sent, Debouncer.due?, sentLoad_results]
  | some t =>
    by_cases h : t.due ≤ time
    · have hl := congrArg List.length
        (List.takeWhile_append_dropWhile (p := (·.finish ≤ t.due)) (l := ended))
      rw [List.length_append] at hl
      simp only [sent, Debouncer.due?, h, if_true, sentLoad_append, sentLoad, sentLoad_results,
        Option.toList_some, List.length_cons, List.length_nil]
      omega
    · simp [sent, Debouncer.due?, h, sentLoad_results]

theorem armed_pass (d : Debouncer) (time : Nat) :
    (if (d.pass time).isArmed then 5 else 0) + 5 * (d.due? time).toList.length =
      if d.isArmed then 5 else 0 := by
  obtain ⟨clock, delay, timer⟩ := d
  cases timer with
  | none => simp [Debouncer.pass, Debouncer.due?, Debouncer.isArmed]
  | some t =>
    by_cases h : t.due ≤ time <;>
      simp [Debouncer.pass, Debouncer.due?, Debouncer.isArmed, Debouncer.cancel, h]

/-- Time that passes uses up load by what begins, ends and fires in it. -/
theorem load_passTo (w : World) (time : Nat) :
    (w.passTo time).load + w.dispatcher.waiting.length +
      ((w.dispatcher.begin w.now).ended time).length + (w.debouncer.due? time).toList.length =
      w.load := by
  obtain ⟨hw, hr⟩ := w.dispatcher.begin_eq w.now
  have he := (w.dispatcher.begin w.now).length_ended_add_pass time
  have ha := armed_pass w.debouncer time
  have hp : ((w.dispatcher.begin w.now).pass time).waiting = [] := hw
  simp only [load_eq, passTo, sentLoad_append, sentLoad_sent, hp, List.length_nil] at *
  omega

theorem load_deliver (w : World) (h : w.queue ≠ []) : (w.deliver 0).load < w.load := by
  obtain ⟨session, now, debouncer, dispatcher, queue⟩ := w
  cases queue with
  | nil => exact absurd rfl h
  | cons e queue =>
    cases e with
    | fired r =>
      simp only [deliver, List.getElem?_cons_zero, List.eraseIdx_zero, List.tail_cons, handle,
        takeOver, Session.handleEvent]
      split
      · simp only [List.foldl_nil, load_eq, sentLoad]
        omega
      · simp only [Session.dispatch, List.foldl_cons, List.foldl_nil, perform, Dispatcher.dispatch,
          load_eq, sentLoad, List.length_append, List.length_cons,
          List.length_nil]
        omega
    | completed r =>
      simp only [deliver, List.getElem?_cons_zero, List.eraseIdx_zero, List.tail_cons, handle,
        takeOver, Session.handleEvent]
      split <;>
        · simp only [List.foldl_nil, load_eq, sentLoad]
          omega

/-- Something is sent when time passes to a moment at which something is due. -/
theorem sent_of_due {w : World} {t : Nat} (ht : t ∈ w.dueTimes) (hw : w.dispatcher.waiting = []) :
    0 < ((w.dispatcher.begin w.now).ended (max w.now t)).length +
      (w.debouncer.due? (max w.now t)).toList.length := by
  rw [w.dispatcher.begin_of_nil w.now hw]
  rw [dueTimes, List.mem_append] at ht
  rcases ht with ht | ht
  · cases htimer : w.debouncer.timer with
    | none => simp [htimer] at ht
    | some timer =>
      simp only [htimer, Option.map_some, Option.toList_some, List.mem_singleton] at ht
      have hd : timer.due ≤ max w.now t := by omega
      simp [Debouncer.due?, htimer, hd]
  · obtain ⟨c, hc, hct⟩ := List.mem_map.1 ht
    have hm : c ∈ w.dispatcher.ended (max w.now t) := by
      rw [Dispatcher.ended, List.mem_mergeSort, List.mem_filter]
      exact ⟨hc, by simp; omega⟩
    have hl := List.length_pos_of_mem hm
    omega

theorem load_next? {w v : World} {limit : Nat} (h : w.next? limit = some v) : v.load < w.load := by
  unfold next? at h
  split at h
  next hq =>
    cases h
    exact load_deliver w hq
  next =>
    split at h
    next hw =>
      cases h
      have hl := load_passTo w w.now
      have hp := List.length_pos_iff.2 hw
      omega
    next hw =>
      split at h
      next => cases h
      next t ht =>
        split at h
        next =>
          cases h
          have hl := load_passTo w (max w.now t)
          have hs := sent_of_due (List.min?_mem ht) (Decidable.not_not.1 hw)
          omega
        next => cases h

/-- Lets everything happen that happens of itself until `limit`, each at its own instant. -/
def runTo (w : World) (limit : Nat) : World :=
  match _h : w.next? limit with
  | none => { w with now := max w.now limit }
  | some v => v.runTo limit
termination_by w.load
decreasing_by exact load_next? _h

end World
end LiveTemplate
