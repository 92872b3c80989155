import LiveTemplate.Proofs.Session.Unviewed
import LiveTemplate.Proofs.World.Calls
import LiveTemplate.Proofs.World.Pump

namespace LiveTemplate.World

/-- The world with its view reset. -/
def unviewed (w : World) : World := { w with session := w.session.unviewed }

/-- Whether a step changes only what is in view. -/
def Step.isView (w : World) : Step → Bool
  | .input i => i.isView w.session.focus
  | .outputHeight _ | .draw _ => true
  | .start | .elapse _ | .deliver _ | .forge _ => false

/-- The steps of a run of which those that are marked are left out of another. -/
def whole (cut : List (Step × Bool)) : List Step := cut.map Prod.fst

def kept (cut : List (Step × Bool)) : List Step := (cut.filter (!·.2)).map Prod.fst

/-- Whether all that is left out of a run changes only what is in view where it stands. -/
def cutsView (w : World) : List (Step × Bool) → Bool
  | [] => true
  | (s, out) :: cut => (!out || s.isView w) && (w.step s).cutsView cut

/-- Two worlds that agree on the template, its analyses and what is to come. -/
structure Agrees (v w : World) : Prop where
  value : v.session.editor.value = w.session.editor.value
  row : v.session.editor.row = w.session.editor.row
  column : v.session.editor.column = w.session.editor.column
  focus : v.session.focus = w.session.focus
  generation : v.session.generation = w.session.generation
  pending : v.session.isPending = w.session.isPending
  inFlight : v.session.inFlight = w.session.inFlight
  outputs : v.session.outputs = w.session.outputs
  status : v.session.status = w.session.status
  info : v.session.info = w.session.info
  quit : v.session.quit = w.session.quit
  armed : v.isArmed = w.isArmed
  /-- What happens of itself until any moment is the same. -/
  pumped : ∀ limit, v.pumpSteps limit = w.pumpSteps limit

variable {v w : World} {s : Step} {cut past : List (Step × Bool)}

/-- Nothing that a session asks for depends on the session or changes it. -/
theorem foldl_perform_session (w : World) (t : Session) (effects : List Effect) :
    { effects.foldl perform w with session := t } =
      effects.foldl perform { w with session := t } := by
  induction effects generalizing w with
  | nil => rfl
  | cons e effects ih =>
    have he : { w.perform e with session := t } = { w with session := t }.perform e := by
      cases e <;> rfl
    rw [List.foldl_cons, List.foldl_cons, ih, he]

theorem unviewed_takeOver (w : World) (p : Session × List Effect) :
    (w.takeOver p).unviewed = w.unviewed.takeOver (Session.blind p) := by
  rw [unviewed, session_takeOver]
  exact foldl_perform_session { w with session := p.1 } p.1.unviewed p.2

theorem unviewed_takeOver_eq {p q : Session × List Effect} (h : Session.blind p = Session.blind q) :
    (w.takeOver p).unviewed = (w.unviewed.takeOver q).unviewed := by
  rw [unviewed_takeOver, unviewed_takeOver, h]
  rfl

theorem unviewed_handle (w : World) (e : Event) :
    (w.handle e).unviewed = (w.unviewed.handle e).unviewed :=
  unviewed_takeOver_eq (w.session.blind_event e)

/-- What a step does besides changing the view does not depend on the view. -/
theorem unviewed_step (w : World) (s : Step) :
    (w.step s).unviewed = (w.unviewed.step s).unviewed := by
  cases s with
  | start => exact unviewed_takeOver_eq (w.session.blind_schedule w.now)
  | input i => exact unviewed_takeOver_eq (w.session.blind_input w.now i)
  | outputHeight height => rfl
  | draw size =>
    have h : (w.session.fit size).unviewed = (w.session.unviewed.fit size).unviewed :=
      (w.session.unviewed_fit size).trans (w.session.unviewed.unviewed_fit size).symm
    exact congrArg (fun t => { w with session := t }) h
  | elapse ms => rfl
  | deliver i =>
    have hqueue : w.unviewed.queue = w.queue := rfl
    rw [step, step, deliver, deliver, hqueue]
    split
    next => rfl
    next e _ => exact unviewed_handle { w with queue := w.queue.eraseIdx i } e
  | forge e => exact w.unviewed_handle e

theorem unviewed_step_congr (h : v.unviewed = w.unviewed) (s : Step) :
    (v.step s).unviewed = (w.step s).unviewed := by
  rw [unviewed_step, h, ← unviewed_step]

theorem unviewed_step_of_isView (h : s.isView w) : (w.step s).unviewed = w.unviewed := by
  cases s with
  | input i =>
    rw [step, unviewed_takeOver, Session.blind_of_isView w.now h]
    rfl
  | outputHeight height => rfl
  | draw size => exact congrArg (fun t => { w with session := t }) (w.session.unviewed_fit size)
  | start | elapse | deliver | forge => cases h

theorem dispatcher_eq (h : v.unviewed = w.unviewed) : v.dispatcher = w.dispatcher := by
  show v.unviewed.dispatcher = w.unviewed.dispatcher
  rw [h]

theorem now_eq (h : v.unviewed = w.unviewed) : v.now = w.now := by
  show v.unviewed.now = w.unviewed.now
  rw [h]

theorem callsMade_congr (h : v.unviewed = w.unviewed) (s : Step) :
    v.callsMade s = w.callsMade s := by
  unfold callsMade
  rw [dispatcher_eq h, dispatcher_eq (unviewed_step_congr h s), now_eq h]

theorem callsMade_of_isView (h : s.isView w) : w.callsMade s = [] := by
  unfold callsMade
  rw [dispatcher_eq (unviewed_step_of_isView h), List.drop_length, List.map_nil]

theorem nextStep?_congr (h : v.unviewed = w.unviewed) (limit : Nat) :
    v.nextStep? limit = w.nextStep? limit :=
  congrArg (·.nextStep? limit) h

theorem pumpSteps_congr (h : v.unviewed = w.unviewed) (limit : Nat) :
    v.pumpSteps limit = w.pumpSteps limit := by
  refine pumpSteps_induction limit
    (P := fun w steps => ∀ v : World, v.unviewed = w.unviewed → v.pumpSteps limit = steps)
    ?_ ?_ w v h
  · intro w hnone v h
    rw [pumpSteps_of_none ((nextStep?_congr h limit).trans hnone), now_eq h]
  · intro w s hsome ih v h
    rw [pumpSteps_of_some ((nextStep?_congr h limit).trans hsome), ih _ (unviewed_step_congr h s)]

theorem agrees_of_unviewed (h : v.unviewed = w.unviewed) : v.Agrees w := by
  have hs : v.session.unviewed = w.session.unviewed := congrArg World.session h
  have htext : v.session.editor.text = w.session.editor.text :=
    congrArg (fun t => t.editor.text) hs
  exact {
    value := value_eq htext
    row := congrArg (fun t => t.editor.row) hs
    column := congrArg (fun t => t.editor.column) hs
    focus := congrArg (fun t => t.focus) hs
    generation := congrArg (fun t => t.generation) hs
    pending := congrArg (fun t => t.isPending) hs
    inFlight := congrArg (fun t => t.inFlight) hs
    outputs := congrArg (fun t => t.outputs) hs
    status := congrArg (fun t => t.status) hs
    info := congrArg (fun t => t.info) hs
    quit := congrArg (fun t => t.quit) hs
    armed := congrArg (fun u => u.isArmed) h
    pumped := pumpSteps_congr h }

/-- Induction on the steps of the whole run: a step in both is blind to the view, and a step that is
left out changes only the view. -/
theorem unviewed_run (h : w.unviewed = v.unviewed) (hcut : w.cutsView cut) :
    (w.run (whole cut)).unviewed = (v.run (kept cut)).unviewed ∧
      w.callLog (whole cut) = v.callLog (kept cut) := by
  induction cut generalizing v w with
  | nil => exact ⟨h, rfl⟩
  | cons c cut ih =>
    obtain ⟨s, out⟩ := c
    rw [cutsView, Bool.and_eq_true] at hcut
    obtain ⟨hview, hrest⟩ := hcut
    cases out with
    | false =>
      obtain ⟨hrun, hlog⟩ := ih (unviewed_step_congr h s) hrest
      refine ⟨hrun, ?_⟩
      show w.callsMade s ++ (w.step s).callLog (whole cut) =
        v.callsMade s ++ (v.step s).callLog (kept cut)
      rw [callsMade_congr h, hlog]
    | true =>
      obtain ⟨hrun, hlog⟩ := ih ((unviewed_step_of_isView hview).trans h) hrest
      refine ⟨hrun, ?_⟩
      show w.callsMade s ++ (w.step s).callLog (whole cut) = v.callLog (kept cut)
      rw [callsMade_of_isView hview, List.nil_append, hlog]

theorem cutsView_past (hcut : w.cutsView cut) (hp : past <+: cut) : w.cutsView past := by
  obtain ⟨more, rfl⟩ := hp
  induction past generalizing w with
  | nil => rfl
  | cons c past ih =>
    rw [List.cons_append, cutsView, Bool.and_eq_true] at hcut
    rw [cutsView, Bool.and_eq_true]
    exact ⟨hcut.1, ih hcut.2⟩

/-- Steps that change only what is in view can be left out of a run: at every moment of it the other
run agrees on the template and its analyses, with the same calls at the same moments. -/
theorem view_irrelevant (clock : Clock) (initial : String) (debounce deadline : Nat)
    (analyzer : Analyzer) (hcut : (open_ clock initial debounce deadline analyzer).cutsView cut)
    (hp : past <+: cut) :
    ((open_ clock initial debounce deadline analyzer).run (whole past)).Agrees
        ((open_ clock initial debounce deadline analyzer).run (kept past)) ∧
      (open_ clock initial debounce deadline analyzer).callLog (whole past) =
        (open_ clock initial debounce deadline analyzer).callLog (kept past) ∧
      ((open_ clock initial debounce deadline analyzer).run (whole past)).dispatcher.calls =
        ((open_ clock initial debounce deadline analyzer).callLog (whole past)).map Prod.snd := by
  obtain ⟨hrun, hlog⟩ := unviewed_run rfl (cutsView_past hcut hp)
  exact ⟨agrees_of_unviewed hrun, hlog, calls_append_log _ (whole past)⟩

/-- An analysis during which the terminal is resized and drawn, and the output pane is looked at. -/
def lookedAt : List (Step × Bool) :=
  [(.start, false), (.input (.resize 80 24), true), (.draw ⟨80, 24⟩, true), (.elapse 5, false),
    (.input (.key ⟨.tab, .none, .press⟩), false), (.input (.key (.typed 'l')), true),
    (.deliver 0, false), (.input (.key ⟨.pageDown, .none, .held⟩), true), (.elapse 0, false),
    (.outputHeight 3, true), (.input (.key ⟨.char 'q', .none, .release⟩), true),
    (.deliver 0, false), (.input .other, true), (.input (.key (.typed 'G')), true)]

theorem view_irrelevant_lookedAt :
    (open_ .nanoseconds "x" 5 1000 fun _ content =>
      .after 0 (.ok (Script.echo content))).cutsView lookedAt ∧
      ((open_ .nanoseconds "x" 5 1000 fun _ content => .after 0 (.ok (Script.echo content))).run
        (whole lookedAt)).Agrees
        ((open_ .nanoseconds "x" 5 1000 fun _ content => .after 0 (.ok (Script.echo content))).run
          (kept lookedAt)) ∧
      (open_ .nanoseconds "x" 5 1000 fun _ content => .after 0 (.ok (Script.echo content))).callLog
        (kept lookedAt) = [(5, "x")] := by
  have hcut : (open_ .nanoseconds "x" 5 1000 fun _ content =>
      .after 0 (.ok (Script.echo content))).cutsView lookedAt := by
    decide +kernel
  obtain ⟨hagrees, hlog, _⟩ :=
    view_irrelevant .nanoseconds "x" 5 1000 _ hcut (List.prefix_refl lookedAt)
  refine ⟨hcut, hagrees, ?_⟩
  rw [← hlog]
  decide +kernel

end LiveTemplate.World
