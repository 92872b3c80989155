import LiveTemplate.Proofs.World.Progress
import LiveTemplate.Proofs.World.Pump
import LiveTemplate.Proofs.World.Rested

namespace LiveTemplate.World

/-- A step that neither lets time pass nor changes, analyzes or leaves the template. -/
def Step.isCalm (w : World) : Step → Prop
  | .input i => ¬ i.refreshes ∧ ¬ i.quits w.session.focus ∧ ¬ w.Edits i
  | .outputHeight _ | .draw _ | .deliver _ => True
  | .start | .elapse _ | .forge _ => False

/-- Calm steps, between which time is pumped for `ms` in all. -/
inductive Quiet : World → Nat → List Step → Prop where
  | nil {w : World} : Quiet w 0 []
  | calm {w : World} {s : Step} {ms : Nat} {steps : List Step} (calm : s.isCalm w)
      (rest : Quiet (w.step s) ms steps) : Quiet w ms (s :: steps)
  | pump {w : World} {ms : Nat} {steps : List Step} (n : Nat)
      (rest : Quiet (w.run (w.pump n)) ms steps) : Quiet w (n + ms) (w.pump n ++ steps)

/-- Quiet steps in which at least `wait` is pumped. -/
inductive Lull (wait : Nat) (w : World) : List Step → Prop where
  | mk {a n b : Nat} {before after : List Step} (hbefore : w.Quiet a before)
      (hafter : ((w.run before).run ((w.run before).pump n)).Quiet b after) (le : wait ≤ a + n) :
      Lull wait w (before ++ (w.run before).pump n ++ after)

/-- The timer runs until `due`, and nothing else will lead to an analysis before. -/
structure Waits (w : World) (r : Request) (due : Nat) : Prop where
  timer : w.debouncer.timer = some ⟨r, due⟩
  current : r.generation = w.session.generation
  fresh : w.session.dispatched ≠ some w.session.generation
  quiet : ∀ q, .fired q ∈ w.queue → q.generation ≠ w.session.generation
  now_le : w.now ≤ due

structure Fired (w : World) (r : Request) (due : Nat) : Prop where
  sent : .fired r ∈ w.queue
  current : r.generation = w.session.generation
  fresh : w.session.dispatched ≠ some w.session.generation
  only : ∀ q, .fired q ∈ w.queue → q.generation = w.session.generation → q = r
  now_eq : w.now = due

/-- How far a template has come that was edited and is not blank, with the analyses since. -/
inductive Phase (r : Request) (due : Nat) (w : World) : List (Nat × Request) → Prop where
  | waits (h : w.Waits r due) : Phase r due w []
  | fired (h : w.Fired r due) : Phase r due w []
  | handed (h : w.session.dispatched = some w.session.generation) : Phase r due w [(due, r)]

/-- No timer runs and no fire is current, so no analysis is on its way. -/
structure Still (w : World) (log : List (Nat × Request)) : Prop where
  timer : w.debouncer.timer = none
  quiet : ∀ q, .fired q ∈ w.queue → q.generation ≠ w.session.generation
  log : log = []

/-- What calm steps and pumped time keep of a world and of the analyses since some moment. -/
structure Keeps (P : World → List (Nat × Request) → Prop) : Prop where
  view : ∀ {w : World} {t : Session} {log}, w.session.SameWork t → P w log →
    P { w with session := t } log
  deliver : ∀ {w : World} {log} (i : Nat), P w log →
    P (w.deliver i) (log ++ (w.dispatches (.deliver i)).map (w.now, ·))
  pass : ∀ {w : World} {log} {time : Nat}, w.queue = [] →
    (∀ t ∈ w.dueTimes, time ≤ max w.now t) → P w log → P (w.passTo time) log

variable {w v : World} {steps : List Step} {s : Step} {ms : Nat}

theorem sameWork_of_calm {i : Input} (h : (Step.input i).isCalm w)
    (hp : w.session.editor.Placed) :
    ∃ t, w.session.SameWork t ∧ w.step (.input i) = { w with session := t } ∧
      w.dispatches (.input i) = [] := by
  obtain ⟨hrefresh, hquits, hedits⟩ := h
  have hr := w.session.reaction i w.now
  have hd := w.dispatches_input hrefresh
  have hstep : w.step (.input i) = w.takeOver (w.session.handleInput i w.now) := rfl
  rw [Edits, hstep, editor_takeOver] at hedits
  rw [hstep]
  generalize w.session.handleInput i w.now = p at hr hedits
  cases hr with
  | leave h => exact absurd h hquits
  | refresh h => exact absurd h hrefresh
  | edit h =>
    rw [Session.edited, editor_schedule] at hedits
    exact absurd (value_ne (h.text_ne hp)) hedits
  | @view t same => exact ⟨t, same, rfl, hd⟩

theorem own_of_calm (h : s.isCalm w) : s.isOwn := by
  cases s with
  | forge e => cases h
  | start | input | outputHeight | draw | elapse | deliver => rfl

theorem quiet_pump (w : World) (n : Nat) : w.Quiet n (w.pump n) := by
  have h : w.Quiet (n + 0) (w.pump n ++ []) := .pump n .nil
  rw [Nat.add_zero, List.append_nil] at h
  exact h

theorem Quiet.append {n : Nat} {more : List Step} (h : w.Quiet ms steps)
    (hm : (w.run steps).Quiet n more) : w.Quiet (ms + n) (steps ++ more) := by
  induction h with
  | nil =>
    rw [Nat.zero_add]
    exact hm
  | calm calm _ ih => exact .calm calm (ih hm)
  | pump k _ ih =>
    rw [run_append] at hm
    rw [List.append_assoc, Nat.add_assoc]
    exact .pump k (ih hm)

theorem Quiet.closed (h : w.Quiet ms steps) : Closed steps := by
  induction h with
  | nil => exact closed_nil
  | calm calm _ ih => exact (closed_singleton (own_of_calm calm)).append ih
  | pump n _ ih => exact (closed_pumpSteps _ _).append ih

section

variable {P : World → List (Nat × Request) → Prop} {log : List (Nat × Request)}

theorem Keeps.pumpSteps (hk : Keeps P) (w : World) (limit : Nat) (hle : w.now ≤ limit)
    (hw : P w log) : P (w.run (w.pumpSteps limit)) (log ++ w.log (w.pumpSteps limit)) := by
  refine pumpSteps_induction limit (P := fun w steps => ∀ log, w.now ≤ limit → P w log →
    P (w.run steps) (log ++ w.log steps)) ?_ ?_ w log hle hw
  · intro w hnone log hle hw
    have hlog : w.log [.elapse (limit - w.now)] = [] := rfl
    rw [hlog, List.append_nil]
    cases next_of_eq hnone with
    | rest quiet idle later =>
      refine hk.pass quiet ?_ hw
      intro t ht
      have hlt := later t ht
      omega
  · intro w s hs ih log hle hw
    have hn := next_of_eq hs
    have hlog : w.log (s :: (w.step s).pumpSteps limit) =
        (w.dispatches s).map (w.now, ·) ++ (w.step s).log ((w.step s).pumpSteps limit) := rfl
    rw [hlog, ← List.append_assoc]
    refine ih _ (hn.now_le hle) ?_
    cases hn with
    | deliver sent => exact hk.deliver 0 hw
    | begins quiet waits =>
      rw [dispatches_elapse, List.map_nil, List.append_nil]
      refine hk.pass quiet ?_ hw
      intro t ht
      omega
    | @pass time quiet idle least le =>
      rw [dispatches_elapse, List.map_nil, List.append_nil]
      refine hk.pass quiet ?_ hw
      intro t ht
      have hle := least t ht
      omega

theorem Keeps.quiet (hk : Keeps P) (h : w.Quiet ms steps) (hp : w.session.editor.Placed)
    (hw : P w log) : P (w.run steps) (log ++ w.log steps) := by
  induction h generalizing log with
  | nil =>
    rw [World.log, List.append_nil]
    exact hw
  | @calm w s ms steps calm rest ih =>
    have hplaced : (w.step s).session.editor.Placed := step_placed s hp
    rw [World.log, ← List.append_assoc]
    refine ih hplaced ?_
    cases s with
    | input i =>
      obtain ⟨t, same, hstep, hd⟩ := sameWork_of_calm calm hp
      rw [hstep, hd, List.map_nil, List.append_nil]
      exact hk.view same hw
    | deliver i => exact hk.deliver i hw
    | outputHeight height =>
      rw [dispatches_outputHeight, List.map_nil, List.append_nil]
      exact hk.view (w.session.sameWork_view _ _ _ _ _) hw
    | draw size =>
      rw [dispatches_draw, List.map_nil, List.append_nil]
      exact hk.view (w.session.sameWork_fit size) hw
    | start | elapse | forge => cases calm
  | @pump w ms steps n rest ih =>
    rw [log_append, ← List.append_assoc, run_append]
    refine ih (run_placed hp _) ?_
    exact hk.pumpSteps w _ (Nat.le_add_right _ _) hw

end

section

variable {r : Request} {due time i : Nat} {ds : List Request}

theorem Waits.deliver (h : w.Waits r due) (hd : w.Delivery i ds v) :
    v.Waits r due ∧ ds = [] := by
  have kept : ∀ q, .fired q ∈ w.queue.eraseIdx i → q.generation ≠ w.session.generation := by
    intro q hq
    exact h.quiet q (List.mem_of_mem_eraseIdx hq)
  cases hd with
  | absent none => exact ⟨h, rfl⟩
  | launch sent current fresh => exact absurd current (h.quiet _ (List.mem_of_getElem? sent))
  | drop | discard | accept => exact ⟨⟨h.timer, h.current, h.fresh, kept, h.now_le⟩, rfl⟩

theorem Fired.deliver (h : w.Fired r due) (hd : w.Delivery i ds v) :
    v.Fired r due ∧ ds = [] ∨
      v.session.dispatched = some v.session.generation ∧ ds = [r] := by
  have only : ∀ q, .fired q ∈ w.queue.eraseIdx i → q.generation = w.session.generation →
      q = r := by
    intro q hq
    exact h.only q (List.mem_of_mem_eraseIdx hq)
  cases hd with
  | absent none => exact Or.inl ⟨h, rfl⟩
  | launch sent current fresh =>
    have hr := h.only _ (List.mem_of_getElem? sent) current
    exact Or.inr ⟨congrArg some current, by rw [hr]⟩
  | drop sent outdated =>
    rcases eq_or_mem_eraseIdx sent h.sent with he | hmem
    · cases he
      rcases outdated with hne | hd
      · exact absurd h.current hne
      · rw [h.current] at hd
        exact absurd hd h.fresh
    · exact Or.inl ⟨⟨hmem, h.current, h.fresh, only, h.now_eq⟩, rfl⟩
  | discard sent | accept sent =>
    have hmem := (eq_or_mem_eraseIdx sent h.sent).resolve_left nofun
    exact Or.inl ⟨⟨hmem, h.current, h.fresh, only, h.now_eq⟩, rfl⟩

theorem dispatched_deliver (h : w.session.dispatched = some w.session.generation)
    (hd : w.Delivery i ds v) : v.session.dispatched = some v.session.generation ∧ ds = [] := by
  cases hd with
  | launch sent current fresh =>
    rw [current] at fresh
    exact absurd h fresh
  | absent | drop | discard | accept => exact ⟨h, rfl⟩

theorem Waits.pass (h : w.Waits r due) (hdue : time ≤ max w.now due) :
    Phase r due (w.passTo time) [] := by
  have hle := h.now_le
  by_cases heq : due ≤ time
  · refine .fired ⟨?_, h.current, h.fresh, ?_, ?_⟩
    · exact mem_queue_passTo.mpr (Or.inr (Or.inr ⟨_, h.timer, heq, rfl⟩))
    · intro q hq hcurrent
      rcases mem_queue_passTo.mp hq with hq | ⟨c, _, _, he⟩ | ⟨t, ht, _, he⟩
      · exact absurd hcurrent (h.quiet q hq)
      · cases he
      · rw [h.timer] at ht
        cases ht
        exact Event.fired.inj he
    · show time = due
      omega
  · refine .waits ⟨?_, h.current, h.fresh, ?_, ?_⟩
    · simp [World.passTo, Debouncer.pass, Debouncer.due?, h.timer, heq]
    · intro q hq
      rcases mem_queue_passTo.mp hq with hq | ⟨c, _, _, he⟩ | ⟨t, ht, hle, _⟩
      · exact h.quiet q hq
      · cases he
      · rw [h.timer] at ht
        cases ht
        exact absurd hle heq
    · show time ≤ due
      omega

theorem keeps_phase (r : Request) (due : Nat) : Keeps (Phase r due) := by
  refine ⟨?_, ?_, ?_⟩
  · intro w t log same hw
    cases hw with
    | waits h =>
      refine .waits ⟨h.timer, h.current.trans same.generation.symm, ?_, ?_, h.now_le⟩
      · rw [same.dispatched, same.generation]
        exact h.fresh
      · rw [same.generation]
        exact h.quiet
    | fired h =>
      refine .fired ⟨h.sent, h.current.trans same.generation.symm, ?_, ?_, h.now_eq⟩
      · rw [same.dispatched, same.generation]
        exact h.fresh
      · rw [same.generation]
        exact h.only
    | handed h =>
      refine .handed ?_
      rw [same.dispatched, same.generation]
      exact h
  · intro w log i hw
    cases hw with
    | waits h =>
      obtain ⟨hv, hd⟩ := h.deliver (w.delivery i)
      rw [hd]
      exact .waits hv
    | fired h =>
      rcases h.deliver (w.delivery i) with ⟨hv, hd⟩ | ⟨hv, hd⟩
      · rw [hd]
        exact .fired hv
      · rw [hd, h.now_eq]
        exact .handed hv
    | handed h =>
      obtain ⟨hv, hd⟩ := dispatched_deliver h (w.delivery i)
      rw [hd]
      exact .handed hv
  · intro w log time hq hdue hw
    cases hw with
    | waits h => exact h.pass (hdue due (by simp [dueTimes, h.timer]))
    | fired h =>
      have hsent := h.sent
      rw [hq] at hsent
      cases hsent
    | handed h => exact .handed h

theorem Still.deliver {log : List (Nat × Request)} (h : w.Still log) (hd : w.Delivery i ds v) :
    v.Still log ∧ ds = [] := by
  have kept : ∀ q, .fired q ∈ w.queue.eraseIdx i → q.generation ≠ w.session.generation := by
    intro q hq
    exact h.quiet q (List.mem_of_mem_eraseIdx hq)
  cases hd with
  | absent none => exact ⟨h, rfl⟩
  | launch sent current fresh => exact absurd current (h.quiet _ (List.mem_of_getElem? sent))
  | drop | discard | accept => exact ⟨⟨h.timer, kept, h.log⟩, rfl⟩

theorem keeps_still : Keeps Still := by
  refine ⟨?_, ?_, ?_⟩
  · intro w t log same h
    refine ⟨h.timer, ?_, h.log⟩
    rw [same.generation]
    exact h.quiet
  · intro w log i h
    obtain ⟨hv, hd⟩ := h.deliver (w.delivery i)
    rw [hd, List.map_nil, List.append_nil]
    exact hv
  · intro w log time _ _ h
    refine ⟨?_, ?_, h.log⟩
    · simp [World.passTo, Debouncer.pass, Debouncer.due?, h.timer]
    · intro q hq
      rcases mem_queue_passTo.mp hq with hq | ⟨c, _, _, he⟩ | ⟨t, ht, _, _⟩
      · exact h.quiet q hq
      · cases he
      · rw [h.timer] at ht
        cases ht

theorem Phase.handed_of_rest {log : List (Nat × Request)} (h : Phase r due w log) {limit : Nat}
    (hdue : due ≤ limit) (hrest : w.Next limit none) : log = [(due, r)] := by
  cases hrest with
  | rest quiet idle later =>
    cases h with
    | waits h =>
      have hlt := later due (by simp [dueTimes, h.timer])
      omega
    | fired h =>
      have hsent := h.sent
      rw [quiet] at hsent
      cases hsent
    | handed h => rfl

theorem Phase.log_eq {log : List (Nat × Request)} (h : Phase r due w log) (hne : log ≠ []) :
    log = [(due, r)] := by
  cases h with
  | waits h => exact absurd rfl hne
  | fired h => exact absurd rfl hne
  | handed h => rfl

theorem now_of_calm (h : s.isCalm w) (hp : w.session.editor.Placed) : (w.step s).now = w.now := by
  cases s with
  | input i =>
    obtain ⟨t, _, hstep, _⟩ := sameWork_of_calm h hp
    rw [hstep]
  | deliver i => exact (w.delivery i).now
  | outputHeight | draw => rfl
  | start | elapse | forge => cases h

theorem Quiet.now (h : w.Quiet ms steps) (hp : w.session.editor.Placed) :
    (w.run steps).now = w.now + ms := by
  induction h with
  | nil => rfl
  | @calm w s ms steps calm rest ih =>
    have hplaced : (w.step s).session.editor.Placed := step_placed s hp
    have hrun : (w.run (s :: steps)).now = (w.step s).now + ms := ih hplaced
    rw [hrun, now_of_calm calm hp]
  | @pump w ms steps n rest ih =>
    have hto : (w.run (w.pump n)).now = w.now + n :=
      (w.rest_pumpSteps (w.now + n) (Nat.le_add_right _ _)).1
    rw [run_append, ih (run_placed hp _), hto, Nat.add_assoc]

/-- In a lull a template that waits is handed over when the timer is due, and nothing else is. -/
theorem Waits.log_lull {wait : Nat} (h : w.Waits r due) (hp : w.session.editor.Placed)
    (hdue : due ≤ w.now + wait) (lull : w.Lull wait steps) : w.log steps = [(due, r)] := by
  obtain @⟨a, n, b, before, after, hbefore, hafter, le⟩ := lull
  have hk := keeps_phase r due
  have hnow := hbefore.now hp
  have hp₁ := run_placed hp before
  have hp₂ := run_placed hp₁ ((w.run before).pump n)
  have hphase := hk.quiet hbefore hp (.waits h)
  have hpumped := hk.pumpSteps _ ((w.run before).now + n) (Nat.le_add_right _ _) hphase
  have hrest := (w.run before).rest_pumpSteps ((w.run before).now + n) (Nat.le_add_right _ _)
  have hlog := hpumped.handed_of_rest (by omega) hrest.2
  have hend := hk.quiet hafter hp₂ hpumped
  rw [log_append, log_append, run_append]
  rw [List.nil_append] at hlog hend
  refine hend.log_eq ?_
  intro hnil
  have hnil' := (List.append_eq_nil_iff.mp hnil).1
  rw [hlog] at hnil'
  cases hnil'

theorem Still.log_lull {wait : Nat} (h : w.Still []) (hp : w.session.editor.Placed)
    (lull : w.Lull wait steps) : w.log steps = [] := by
  obtain @⟨a, n, b, before, after, hbefore, hafter, le⟩ := lull
  have hp₁ := run_placed hp before
  have hp₂ := run_placed hp₁ ((w.run before).pump n)
  have hstill := keeps_still.quiet hbefore hp h
  have hpumped := keeps_still.pumpSteps _ ((w.run before).now + n) (Nat.le_add_right _ _) hstill
  have hend := keeps_still.quiet hafter hp₂ hpumped
  rw [log_append, log_append, run_append]
  rw [List.nil_append] at hend
  exact hend.log

theorem Lull.pump {wait : Nat} (h : w.Lull wait steps) (n : Nat) :
    w.Lull wait (steps ++ (w.run steps).pump n) := by
  obtain ⟨hbefore, hafter, le⟩ := h
  rw [run_append, run_append, List.append_assoc]
  exact .mk hbefore (hafter.append (quiet_pump _ n)) le

theorem Lull.closed {wait : Nat} (h : w.Lull wait steps) : Closed steps := by
  obtain ⟨hbefore, hafter, _⟩ := h
  exact (hbefore.closed.append (closed_pumpSteps _ _)).append hafter.closed

end

end LiveTemplate.World
