import LiveTemplate.Proofs.World.DeliveryOrder

namespace LiveTemplate.World

/-- What the result answers that a step hands to the session, if it hands over a result. -/
def answers (w : World) (s : Step) : List (Nat × String) :=
  ((w.handled s).bind Event.answer?).toList

def answerLog (w : World) : List Step → List (Nat × String)
  | [] => []
  | s :: steps => w.answers s ++ (w.step s).answerLog steps

/-- The count of analyses in flight is exact after these steps, and the next result takes one off. -/
structure Accounted (w : World) (steps : List Step) : Prop where
  dispatched : ((w.log steps).map (·.2.task)).Perm
    (w.answerLog steps ++ (w.run steps).unanswered)
  inFlight : (w.run steps).session.inFlight = (w.run steps).unanswered.length
  balance : (w.run steps).session.inFlight + (w.answerLog steps).length = (w.log steps).length
  takesOff : ∀ s r, s.isOwn → (w.run steps).handled s = some (.completed r) →
    ((w.run steps).step s).session.inFlight + 1 = (w.run steps).session.inFlight
  zero_iff : (w.run steps).session.inFlight = 0 ↔
    (w.run steps).dispatcher.waiting = [] ∧ (w.run steps).dispatcher.running = [] ∧
      ∀ r, .completed r ∉ (w.run steps).queue

variable {w : World} {steps : List Step} {s : Step}

theorem unanswered_perform (w : World) (e : Effect) :
    (w.perform e).unanswered.Perm ((requests [e]).map Request.task ++ w.unanswered) := by
  cases e with
  | arm r => exact .of_eq w.unanswered_withdraw
  | cancel => exact .of_eq w.unanswered_withdraw
  | dispatch r =>
    show ((w.dispatcher.waiting ++ [r]).map Request.task ++ _ ++ _).Perm ([r.task] ++ w.unanswered)
    rw [List.map_append, List.append_assoc, List.append_assoc, unanswered, List.append_assoc]
    exact List.perm_append_comm_assoc _ _ _

theorem unanswered_takeOver (w : World) (p : Session × List Effect) :
    (w.takeOver p).unanswered.Perm ((requests p.2).map Request.task ++ w.unanswered) := by
  obtain ⟨t, effects⟩ := p
  have go : ∀ w : World, (effects.foldl perform w).unanswered.Perm
      ((requests effects).map Request.task ++ w.unanswered) := by
    induction effects with
    | nil => intro w; exact .refl _
    | cons e effects ih =>
      intro w
      have hcons : requests (e :: effects) = requests [e] ++ requests effects :=
        List.filterMap_append (l := [e])
      refine (ih _).trans (((w.unanswered_perform e).append_left _).trans ?_)
      rw [hcons, List.map_append, List.append_assoc]
      exact List.perm_append_comm_assoc _ _ _
  exact go { w with session := t }

theorem unanswered_deliver (w : World) (i : Nat) :
    (w.answers (.deliver i) ++ (w.deliver i).unanswered).Perm
      ((w.dispatches (.deliver i)).map Request.task ++ w.unanswered) := by
  have hanswers : w.answers (.deliver i) = (w.queue[i]?.bind Event.answer?).toList := rfl
  rw [hanswers, deliver]
  cases he : w.queue[i]? with
  | none =>
    simp only [dispatches, asked, he]
    exact .refl _
  | some e =>
    obtain ⟨hi, hget⟩ := List.getElem?_eq_some_iff.mp he
    have hqueue := (List.getElem_cons_eraseIdx_perm hi).filterMap Event.answer?
    have hover := unanswered_takeOver { w with queue := w.queue.eraseIdx i }
      (w.session.handleEvent e)
    have hanswer : ∀ es : List Event, (e :: es).filterMap Event.answer? =
        e.answer?.toList ++ es.filterMap Event.answer? := by
      intro es
      cases e <;> rfl
    rw [hget, hanswer] at hqueue
    rw [dispatches_deliver he]
    refine (hover.append_left _).trans ?_
    rw [List.perm_iff_count] at hqueue ⊢
    intro task
    have hcount := hqueue task
    simp only [unanswered, List.count_append, Option.bind_some] at hcount ⊢
    omega

/-- A step turns what it dispatches into what is unanswered, and of that what it hands over into
what was answered. -/
theorem unanswered_step (w : World) (h : s.isOwn) :
    (w.answers s ++ (w.step s).unanswered).Perm
      ((w.dispatches s).map Request.task ++ w.unanswered) := by
  have hnothing : ∀ s, w.handled s = none → w.answers s = [] := by
    intro s hs
    rw [answers, hs]
    rfl
  cases s with
  | start =>
    rw [hnothing .start rfl, List.nil_append]
    exact w.unanswered_takeOver (w.session.schedule w.now)
  | input i =>
    rw [hnothing (.input i) rfl, List.nil_append]
    exact w.unanswered_takeOver (w.session.handleInput i w.now)
  | outputHeight | draw => exact .refl _
  | elapse ms => exact w.unanswered_passTo _
  | deliver i => exact w.unanswered_deliver i
  | forge e => cases h

theorem answerLog_concat (w : World) (steps : List Step) (s : Step) :
    w.answerLog (steps ++ [s]) = w.answerLog steps ++ (w.run steps).answers s := by
  induction steps generalizing w with
  | nil => exact List.append_nil _
  | cons t steps ih =>
    rw [List.cons_append, answerLog, ih, answerLog, List.append_assoc]
    rfl

theorem unanswered_run (w : World) (h : Closed steps) :
    (w.answerLog steps ++ (w.run steps).unanswered).Perm
      ((w.log steps).map (·.2.task) ++ w.unanswered) := by
  induction steps using List.reverseRecOn with
  | nil => exact .refl _
  | append_singleton steps s ih =>
    obtain ⟨hc, hs⟩ := h.of_concat
    have hrun := List.perm_iff_count.mp (ih hc)
    have hstep := List.perm_iff_count.mp ((w.run steps).unanswered_step hs)
    have hadded : (((w.run steps).dispatches s).map ((w.run steps).now, ·)).map (·.2.task) =
        ((w.run steps).dispatches s).map Request.task := by
      rw [List.map_map]
      rfl
    rw [answerLog_concat, log_concat, run_concat, List.map_append, hadded, List.perm_iff_count]
    intro task
    have hbefore := hrun task
    have hafter := hstep task
    simp only [List.count_append] at hbefore hafter ⊢
    omega

theorem session_of_handled {e : Event} (h : w.handled s = some e) :
    (w.step s).session = (w.session.handleEvent e).1 := by
  cases s with
  | deliver i =>
    have hi : w.queue[i]? = some e := h
    rw [step, deliver, hi]
    exact session_takeOver _ _
  | forge f =>
    cases h
    exact session_takeOver _ _
  | start | input | outputHeight | draw | elapse => cases h

theorem inFlight_of_handled {r : Result} (h : w.handled s = some (.completed r)) :
    (w.step s).session.inFlight = w.session.inFlight - 1 := by
  rw [session_of_handled h]
  unfold Session.handleEvent
  dsimp only
  split <;> rfl

theorem mem_queue_of_handled {e : Event} (hs : s.isOwn) (h : w.handled s = some e) :
    e ∈ w.queue := by
  cases s with
  | deliver i => exact List.mem_of_getElem? h
  | forge => cases hs
  | start | input | outputHeight | draw | elapse => cases h

/-- In a closed run the count of analyses in flight is exact. -/
theorem accounted (clock : Clock) (initial : String) (debounce deadline : Nat) (analyzer : Analyzer)
    (h : Closed steps) : (open_ clock initial debounce deadline analyzer).Accounted steps := by
  have hn := inFlight_run clock initial debounce deadline analyzer h
  have ht := (open_ clock initial debounce deadline analyzer).unanswered_run h
  have hnone : (open_ clock initial debounce deadline analyzer).unanswered = [] := rfl
  rw [hnone, List.append_nil] at ht
  generalize open_ clock initial debounce deadline analyzer = w at hn ht ⊢
  have hinFlight : (w.run steps).session.inFlight = (w.run steps).unanswered.length :=
    hn.trans (w.run steps).length_unanswered.symm
  refine ⟨ht.symm, hinFlight, ?_, ?_, ?_⟩
  · have hlength := ht.length_eq
    rw [List.length_append, List.length_map] at hlength
    omega
  · intro s r hs hr
    have hpos : completions (w.run steps).queue ≠ 0 :=
      fun hzero => completions_eq_zero.mp hzero r (mem_queue_of_handled hs hr)
    rw [inFlight_of_handled hr, hn, outstanding]
    omega
  · rw [hn, outstanding, ← completions_eq_zero, ← List.length_eq_zero_iff,
      ← List.length_eq_zero_iff]
    omega

def quitKey : Input := .key ⟨.char 'c', { Modifiers.none with control := true }, .press⟩

/-- Of three forced analyses the second is answered; after a quit the queue has the result of the
third and the outdated failure of the first. -/
def tangled : List Step :=
  [.input refreshKey, .elapse 1, .input (.key (.typed 'y')), .input refreshKey, .elapse 0,
    .deliver 0, .input refreshKey, .elapse 0, .elapse 99, .input quitKey]

theorem accounted_tangled : (open_ .nanoseconds "x" 5 100 slowFirst).Accounted tangled ∧
    (open_ .nanoseconds "x" 5 100 slowFirst).answerLog tangled = [(1, "xy")] ∧
    ((open_ .nanoseconds "x" 5 100 slowFirst).run tangled).unanswered = [(1, "xy"), (0, "x")] :=
  ⟨accounted .nanoseconds "x" 5 100 slowFirst (by decide), by decide +kernel, by decide +kernel⟩

end LiveTemplate.World
