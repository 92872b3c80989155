import LiveTemplate.Proofs.Session.Reaction
import LiveTemplate.World

namespace LiveTemplate

/-- A session as it is, or with an edit taken in. -/
inductive Session.Revises (s : Session) : Session → Prop where
  | same : Revises s s
  | edit {e : Editor} (h : s.editor.Edit e) :
      Revises s { s with editor := e, generation := s.generation + 1 }

namespace World

/-- Whether a step brings a world nothing but its own events. -/
def Step.isOwn : Step → Bool
  | .forge _ => false
  | _ => true

def requests (effects : List Effect) : List Request :=
  effects.filterMap fun
    | .dispatch r => some r
    | _ => none

def asked (w : World) : Step → List Effect
  | .start => (w.session.schedule w.now).2
  | .input i => (w.session.handleInput i w.now).2
  | .deliver i =>
    match w.queue[i]? with
    | none => []
    | some e => (w.session.handleEvent e).2
  | .forge e => (w.session.handleEvent e).2
  | _ => []

/-- The requests that a step hands to the analyzer. -/
def dispatches (w : World) (s : Step) : List Request := requests (w.asked s)

/-- What the delivery of an event can do to a world. -/
inductive Delivery (w : World) (i : Nat) : List Request → World → Prop where
  | absent (none : w.queue[i]? = none) : Delivery w i [] w
  | drop {r : Request} (sent : w.queue[i]? = some (.fired r))
      (outdated : r.generation ≠ w.session.generation ∨
        w.session.dispatched = some r.generation) :
      Delivery w i [] { w with queue := w.queue.eraseIdx i }
  | launch {r : Request} (sent : w.queue[i]? = some (.fired r))
      (current : r.generation = w.session.generation)
      (fresh : w.session.dispatched ≠ some r.generation) :
      Delivery w i [r] { w with
        session := (w.session.dispatch r).1
        dispatcher := w.dispatcher.dispatch r
        queue := w.queue.eraseIdx i }
  | discard {r : Result} (sent : w.queue[i]? = some (.completed r))
      (outdated : r.generation ≠ w.session.generation) :
      Delivery w i [] { w with
        session := { w.session with inFlight := w.session.inFlight - 1 }
        queue := w.queue.eraseIdx i }
  | accept {r : Result} (sent : w.queue[i]? = some (.completed r))
      (current : r.generation = w.session.generation) :
      Delivery w i [] { w with
        session := { w.session with inFlight := w.session.inFlight - 1 }.apply r
        queue := w.queue.eraseIdx i }

/-- What a step can do to a world, with the requests that it hands to the analyzer. -/
inductive Change (w : World) : List Request → World → Prop where
  | view {t : Session} (same : w.session.SameWork t) : Change w [] { w with session := t }
  | settle {t : Session} (revises : w.session.Revises t) (blank : (t.snapshot w.now).isBlank) :
      Change w [] { w.withdraw with
        session := t.apply (.placeholder (t.snapshot w.now))
        debouncer := w.debouncer.cancel }
  | arm {t : Session} (revises : w.session.Revises t) (some : ¬ (t.snapshot w.now).isBlank) :
      Change w [] { w.withdraw with
        session := t
        debouncer := w.debouncer.arm (t.snapshot w.now) w.now }
  | force (some : ¬ (w.session.snapshot w.now).isBlank) :
      Change w [w.session.snapshot w.now] { w.withdraw with
        session := (w.session.dispatch (w.session.snapshot w.now)).1
        debouncer := w.debouncer.cancel
        dispatcher := w.dispatcher.dispatch (w.session.snapshot w.now) }
  | leave :
      Change w [] { w.withdraw with
        session := { w.session with quit := true }
        debouncer := w.debouncer.cancel }
  | pass {time : Nat} (later : w.now ≤ time) : Change w [] (w.passTo time)
  | deliver {i : Nat} {ds : List Request} {v : World} (delivery : w.Delivery i ds v) :
      Change w ds v

variable {w : World}

theorem dispatches_elapse (w : World) (ms : Nat) : w.dispatches (.elapse ms) = [] := rfl

theorem dispatches_outputHeight (w : World) (height : Nat) :
    w.dispatches (.outputHeight height) = [] := rfl

theorem dispatches_draw (w : World) (size : Size) : w.dispatches (.draw size) = [] := rfl

theorem session_takeOver (w : World) (p : Session × List Effect) :
    (w.takeOver p).session = p.1 := by
  obtain ⟨t, effects⟩ := p
  have performed : ∀ (w : World) (e : Effect), (w.perform e).session = w.session := by
    intro w e
    cases e <;> rfl
  have go : ∀ w : World, (effects.foldl perform w).session = w.session := by
    induction effects with
    | nil => intro w; rfl
    | cons e effects ih => intro w; exact (ih _).trans (performed w e)
  exact go { w with session := t }

theorem takeOver_schedule_of_blank {t : Session} (hb : (t.snapshot w.now).isBlank) :
    w.takeOver (t.schedule w.now) = { w.withdraw with
      session := t.apply (.placeholder (t.snapshot w.now))
      debouncer := w.debouncer.cancel } := by
  simp only [Session.schedule, hb, if_true]
  rfl

theorem takeOver_schedule {t : Session} (hb : ¬ (t.snapshot w.now).isBlank) :
    w.takeOver (t.schedule w.now) = { w.withdraw with
      session := t
      debouncer := w.debouncer.arm (t.snapshot w.now) w.now } := by
  simp only [Session.schedule, hb]
  rfl

theorem requests_schedule (s : Session) (now : Nat) : requests (s.schedule now).2 = [] := by
  unfold Session.schedule
  dsimp only
  split <;> rfl

theorem change_schedule {t : Session} (h : w.session.Revises t) :
    Change w (requests (t.schedule w.now).2) (w.takeOver (t.schedule w.now)) := by
  rw [requests_schedule]
  by_cases hb : (t.snapshot w.now).isBlank = true
  · rw [takeOver_schedule_of_blank hb]
    exact .settle h hb
  · rw [takeOver_schedule hb]
    exact .arm h hb

theorem change_refresh :
    Change w (requests (w.session.refresh w.now).2) (w.takeOver (w.session.refresh w.now)) := by
  unfold Session.refresh
  by_cases hb : (w.session.snapshot w.now).isBlank = true
  · simp only [hb, if_true]
    exact .settle .same hb
  · simp only [hb]
    exact .force hb

theorem change_input (i : Input) :
    Change w (requests (w.session.handleInput i w.now).2)
      (w.takeOver (w.session.handleInput i w.now)) := by
  generalize hp : w.session.handleInput i w.now = p
  have h := w.session.reaction i w.now
  rw [hp] at h
  cases h with
  | leave => exact .leave
  | refresh => exact change_refresh
  | edit h => exact change_schedule (.edit h)
  | view h => exact .view h

section

variable {r : Request} {a : Result}

theorem handle_of_drop (h : r.generation ≠ w.session.generation ∨
    w.session.dispatched = some r.generation) : w.handle (.fired r) = w := by
  unfold handle Session.handleEvent
  dsimp only
  rw [if_pos h]
  rfl

theorem handle_of_discard (h : a.generation ≠ w.session.generation) :
    w.handle (.completed a) =
      { w with session := { w.session with inFlight := w.session.inFlight - 1 } } := by
  unfold handle Session.handleEvent
  dsimp only
  rw [if_pos h]
  rfl

theorem handle_of_accept (h : a.generation = w.session.generation) :
    w.handle (.completed a) =
      { w with session := { w.session with inFlight := w.session.inFlight - 1 }.apply a } := by
  unfold handle Session.handleEvent
  dsimp only
  rw [if_neg (not_not_intro h)]
  rfl

end

theorem Delivery.now {i : Nat} {ds : List Request} {v : World} (h : w.Delivery i ds v) :
    v.now = w.now := by
  cases h <;> rfl

theorem Delivery.sent {i : Nat} {ds : List Request} {v : World} {r : Request}
    (h : w.Delivery i ds v) (hr : r ∈ ds) :
    w.queue[i]? = some (.fired r) ∧ r.generation = w.session.generation := by
  cases h with
  | launch sent current fresh =>
    cases List.mem_singleton.mp hr
    exact ⟨sent, current⟩
  | absent | drop | discard | accept => cases hr

theorem dispatches_deliver {i : Nat} {e : Event} (he : w.queue[i]? = some e) :
    w.dispatches (.deliver i) = requests (w.session.handleEvent e).2 := by
  simp only [dispatches, asked, he]

theorem delivery (w : World) (i : Nat) :
    w.Delivery i (w.dispatches (.deliver i)) (w.deliver i) := by
  cases he : w.queue[i]? with
  | none =>
    simp only [dispatches, asked, deliver, he]
    exact .absent he
  | some e =>
    have ha := w.session.answer e
    rw [dispatches_deliver he, deliver, he]
    dsimp only [handle]
    generalize w.session.handleEvent e = p at ha ⊢
    cases ha with
    | drop outdated => exact .drop he outdated
    | launch current fresh => exact .launch he current fresh
    | discard outdated => exact .discard he outdated
    | accept current => exact .accept he current

theorem change_step {s : Step} (h : s.isOwn) : Change w (w.dispatches s) (w.step s) := by
  cases s with
  | start => exact change_schedule .same
  | input i => exact change_input i
  | outputHeight height => exact .view (w.session.sameWork_view _ _ _ _ _)
  | draw size => exact .view (w.session.sameWork_fit size)
  | elapse ms => exact .pass (Nat.le_add_right _ _)
  | deliver i => exact .deliver (w.delivery i)
  | forge e => cases h

end World
end LiveTemplate
