import LiveTemplate.Proofs.World.History
import LiveTemplate.World.Run

namespace LiveTemplate.World

/-- What happens next of itself until `limit`, as a step. -/
inductive Next (w : World) (limit : Nat) : Option Step → Prop where
  | deliver (sent : w.queue ≠ []) : Next w limit (some (.deliver 0))
  | begins (quiet : w.queue = []) (waits : w.dispatcher.waiting ≠ []) :
      Next w limit (some (.elapse 0))
  | pass {time : Nat} (quiet : w.queue = []) (idle : w.dispatcher.waiting = [])
      (least : ∀ t ∈ w.dueTimes, time ≤ t) (le : time ≤ limit) :
      Next w limit (some (.elapse (time - w.now)))
  | rest (quiet : w.queue = []) (idle : w.dispatcher.waiting = [])
      (later : ∀ t ∈ w.dueTimes, limit < t) : Next w limit none

def nextStep? (w : World) (limit : Nat) : Option Step :=
  if w.queue ≠ [] then some (.deliver 0)
  else if w.dispatcher.waiting ≠ [] then some (.elapse 0)
  else
    match w.dueTimes.min? with
    | none => none
    | some t => if t ≤ limit then some (.elapse (t - w.now)) else none

variable {w v : World} {ds : List Request} {steps : List Step} {s : Step} {limit : Nat}

theorem next (w : World) (limit : Nat) : w.Next limit (w.nextStep? limit) := by
  unfold nextStep?
  split
  next hq => exact .deliver hq
  next hq =>
    rw [Decidable.not_not] at hq
    split
    next hw => exact .begins hq hw
    next hw =>
      rw [Decidable.not_not] at hw
      split
      next hm =>
        refine .rest hq hw fun t ht => ?_
        rw [List.min?_eq_none_iff.mp hm] at ht
        cases ht
      next t hm =>
        have hleast := (List.le_min?_iff hm (x := t)).mp (Nat.le_refl t)
        split
        next hle => exact .pass hq hw hleast hle
        next hle =>
          refine .rest hq hw fun u hu => ?_
          have htu := hleast u hu
          omega

theorem next_of_eq {o : Option Step} (h : w.nextStep? limit = o) : w.Next limit o := by
  rw [← h]
  exact w.next limit

theorem next?_eq (w : World) (limit : Nat) :
    w.next? limit = (w.nextStep? limit).map w.step := by
  unfold next? nextStep?
  split
  next => rfl
  next =>
    split
    next => rfl
    next =>
      cases w.dueTimes.min? with
      | none => rfl
      | some t =>
        have ht : max w.now t = w.now + (t - w.now) := by omega
        by_cases hle : t ≤ limit
        · simp only [hle, if_true, Option.map_some, step, ht]
        · simp only [hle, if_false, Option.map_none]

def pumpSteps (w : World) (limit : Nat) : List Step :=
  match _h : w.nextStep? limit with
  | none => [.elapse (limit - w.now)]
  | some s => s :: (w.step s).pumpSteps limit
termination_by w.load
decreasing_by
  have hnext : w.next? limit = some (w.step s) := by
    rw [next?_eq, _h]
    rfl
  exact load_next? hnext

def pump (w : World) (ms : Nat) : List Step := w.pumpSteps (w.now + ms)

theorem pumpSteps_of_none (h : w.nextStep? limit = none) :
    w.pumpSteps limit = [.elapse (limit - w.now)] := by
  rw [pumpSteps]
  split
  next => rfl
  next s hs =>
    rw [h] at hs
    cases hs

theorem pumpSteps_of_some (h : w.nextStep? limit = some s) :
    w.pumpSteps limit = s :: (w.step s).pumpSteps limit := by
  rw [pumpSteps]
  split
  next hs =>
    rw [h] at hs
    cases hs
  next t ht =>
    rw [h] at ht
    cases ht
    rfl

/-- Running on keeps what each of its steps keeps. -/
theorem pumpSteps_induction {P : World → List Step → Prop} (limit : Nat)
    (rest : ∀ w : World, w.nextStep? limit = none → P w [.elapse (limit - w.now)])
    (more : ∀ (w : World) (s : Step), w.nextStep? limit = some s →
      P (w.step s) ((w.step s).pumpSteps limit) → P w (s :: (w.step s).pumpSteps limit))
    (w : World) : P w (w.pumpSteps limit) := by
  induction w using pumpSteps.induct limit with
  | case1 w h =>
    rw [pumpSteps_of_none h]
    exact rest w h
  | case2 w s h ih =>
    rw [pumpSteps_of_some h]
    exact more w s h ih

theorem closed_pumpSteps (w : World) (limit : Nat) : Closed (w.pumpSteps limit) := by
  refine pumpSteps_induction limit (P := fun _ steps => Closed steps) ?_ ?_ w
  · intro w _ s hs
    cases List.mem_singleton.mp hs
    rfl
  · intro w s hs ih t ht
    rcases List.mem_cons.mp ht with rfl | ht
    · cases next_of_eq hs <;> rfl
    · exact ih t ht

theorem Next.now_le (h : w.Next limit (some s)) (hle : w.now ≤ limit) :
    (w.step s).now ≤ limit := by
  cases h with
  | deliver sent =>
    rw [step, World.deliver]
    split
    next => exact hle
    next e _ =>
      have hframe := handle_frame { w with queue := w.queue.eraseIdx 0 } e
      exact Nat.le_trans (Nat.le_of_eq hframe.2.2) hle
  | begins quiet waits => exact hle
  | @pass time quiet idle least le =>
    show w.now + (time - w.now) ≤ limit
    omega

theorem passTo_of_rest (h : w.Next limit none) : w.passTo limit = { w with now := limit } := by
  cases h with
  | rest quiet idle later =>
    obtain ⟨session, now, ⟨clock, delay, timer⟩, dispatcher, queue⟩ := w
    have hrunning : ∀ c ∈ dispatcher.running, limit < c.finish := by
      intro c hc
      exact later c.finish (List.mem_append_right _ (List.mem_map_of_mem hc))
    have hended : dispatcher.ended limit = [] := by
      rw [List.eq_nil_iff_forall_not_mem]
      intro c hc
      obtain ⟨hc, hf⟩ := Dispatcher.mem_ended.mp hc
      have hlt := hrunning c hc
      omega
    have hpass : dispatcher.pass limit = dispatcher := by
      have hkeep : dispatcher.running.filter (¬ ·.finish ≤ limit) = dispatcher.running := by
        rw [List.filter_eq_self]
        intro c hc
        have hlt := hrunning c hc
        simp
        omega
      rw [Dispatcher.pass, hkeep]
    cases timer with
    | none =>
      simp [passTo, Dispatcher.begin_of_nil _ _ idle, hended, hpass, sent, results,
        Debouncer.pass, Debouncer.due?]
    | some t =>
      have hdue : limit < t.due := later t.due (by simp [dueTimes])
      have hnot : ¬ t.due ≤ limit := by omega
      simp [passTo, Dispatcher.begin_of_nil _ _ idle, hended, hpass, sent, results,
        Debouncer.pass, Debouncer.due?, hnot]

theorem run_rest (hle : w.now ≤ limit) (h : w.Next limit none) :
    w.run [.elapse (limit - w.now)] = { w with now := limit } := by
  have hto : w.now + (limit - w.now) = limit := by omega
  rw [run, List.foldl_cons, List.foldl_nil, step, hto, passTo_of_rest h]

/-- Running on to a moment that is not past is a run of those steps. -/
theorem run_pumpSteps (w : World) (limit : Nat) (h : w.now ≤ limit) :
    w.run (w.pumpSteps limit) = w.runTo limit := by
  refine pumpSteps_induction limit
    (P := fun w steps => w.now ≤ limit → w.run steps = w.runTo limit) ?_ ?_ w h
  · intro w hnone hle
    have hnext : w.next? limit = none := by
      rw [next?_eq, hnone]
      rfl
    have hmax : max w.now limit = limit := by omega
    rw [runTo, run_rest hle (next_of_eq hnone)]
    split
    next => rw [hmax]
    next hsome =>
      rw [hnext] at hsome
      cases hsome
  · intro w s hs ih hle
    have hnext : w.next? limit = some (w.step s) := by
      rw [next?_eq, hs]
      rfl
    rw [runTo]
    split
    next hnone =>
      rw [hnext] at hnone
      cases hnone
    next v hsome =>
      rw [hnext] at hsome
      cases hsome
      exact ih ((next_of_eq hs).now_le hle)

theorem run_pump (w : World) (ms : Nat) : w.run (w.pump ms) = w.runTo (w.now + ms) :=
  w.run_pumpSteps (w.now + ms) (Nat.le_add_right _ _)

theorem rest_pumpSteps (w : World) (limit : Nat) (h : w.now ≤ limit) :
    (w.run (w.pumpSteps limit)).now = limit ∧ (w.run (w.pumpSteps limit)).Next limit none := by
  refine pumpSteps_induction limit (P := fun w steps => w.now ≤ limit →
    (w.run steps).now = limit ∧ (w.run steps).Next limit none) ?_ ?_ w h
  · intro w hnone hle
    have hn := next_of_eq hnone
    rw [run_rest hle hn]
    cases hn with
    | rest quiet idle later => exact ⟨rfl, .rest quiet idle later⟩
  · intro w s hs ih hle
    exact ih ((next_of_eq hs).now_le hle)

/-- The analyses that a run dispatches, each with the moment at which it does. -/
def log (w : World) : List Step → List (Nat × Request)
  | [] => []
  | s :: steps => (w.dispatches s).map (w.now, ·) ++ (w.step s).log steps

/-- The contents with which the analyzer was called, and those with which it will be called for
what was dispatched and has not begun. -/
def wanted (w : World) : List String :=
  w.dispatcher.calls ++ (w.dispatcher.waiting.filter (¬ ·.isBlank)).map Request.content

theorem log_append (w : World) (steps more : List Step) :
    w.log (steps ++ more) = w.log steps ++ (w.run steps).log more := by
  induction steps generalizing w with
  | nil => rfl
  | cons s steps ih =>
    rw [List.cons_append, log, ih, log, List.append_assoc]
    rfl

theorem log_concat (w : World) (steps : List Step) (s : Step) :
    w.log (steps ++ [s]) =
      w.log steps ++ ((w.run steps).dispatches s).map ((w.run steps).now, ·) := by
  rw [log_append]
  simp only [log, List.append_nil]

theorem Change.wanted (h : w.Change ds v) :
    v.wanted = w.wanted ++ (ds.filter (¬ ·.isBlank)).map Request.content := by
  have added : ∀ r : Request, w.dispatcher.calls ++
      ((w.dispatcher.waiting ++ [r]).filter (¬ ·.isBlank)).map Request.content =
      w.wanted ++ ([r].filter (¬ ·.isBlank)).map Request.content := by
    intro r
    rw [World.wanted, List.filter_append, List.map_append, List.append_assoc]
  cases h with
  | force some => exact added _
  | pass later =>
    show (w.dispatcher.begin w.now).calls ++
      ((w.dispatcher.begin w.now).waiting.filter _).map Request.content = _
    rw [Dispatcher.calls_begin, w.dispatcher.begin_eq_begun w.now]
    simp [World.wanted]
  | view | settle | arm | leave => simp [World.wanted, World.withdraw]
  | deliver delivery =>
    cases delivery with
    | launch sent current fresh => exact added _
    | absent | drop | discard | accept => simp [World.wanted]

/-- Every dispatch of a template that is not blank becomes one call of the analyzer. -/
theorem wanted_run (w : World) (h : Closed steps) :
    (w.run steps).wanted =
      w.wanted ++ ((w.log steps).filter (¬ ·.2.isBlank)).map (·.2.content) := by
  induction steps using List.reverseRecOn with
  | nil => simp [run, log]
  | append_singleton steps s ih =>
    obtain ⟨hc, hs⟩ := h.of_concat
    rw [(w.change_run steps hs).wanted, ih hc, log_concat, List.filter_append, List.map_append,
      List.append_assoc, List.filter_map, List.map_map]
    rfl

theorem wanted_pump (w : World) (n : Nat) :
    (w.run (w.pump n)).wanted = (w.run (w.pump n)).dispatcher.calls := by
  have hrest := (w.rest_pumpSteps (w.now + n) (Nat.le_add_right _ _)).2
  cases hrest with
  | rest quiet idle later =>
    have hidle : (w.run (w.pump n)).dispatcher.waiting = [] := idle
    rw [wanted, hidle]
    exact List.append_nil _

end LiveTemplate.World
