import LiveTemplate.Proofs.World.Display

namespace LiveTemplate.World

def Step.refreshes : Step → Bool
  | .input i => i.refreshes
  | _ => false

/-- An input that changes the template. -/
def Edits (w : World) (i : Input) : Prop :=
  (w.step (.input i)).session.editor.value ≠ w.session.editor.value

/-- A moment of a run at which a step started the session or changed the template. -/
def SchedulesAt (w : World) (steps : List Step) (time : Nat) : Prop :=
  ∃ past s, past ++ [s] <+: steps ∧ (w.run past).now = time ∧
    (s = .start ∨
      (w.run (past ++ [s])).session.editor.value ≠ (w.run past).session.editor.value)

variable {w v : World} {ds : List Request} {steps more : List Step} {s : Step} {r : Request}

theorem SchedulesAt.mono {time : Nat} (h : w.SchedulesAt steps time) :
    w.SchedulesAt (steps ++ more) time := by
  obtain ⟨past, t, hp, htime, ht⟩ := h
  exact ⟨past, t, hp.trans (List.prefix_append _ _), htime, ht⟩

theorem SchedulesAt.of_append {time : Nat} (h : w.SchedulesAt (steps ++ more) time) :
    w.SchedulesAt steps time ∨ (w.run steps).SchedulesAt more time := by
  obtain ⟨past, t, hp, htime, ht⟩ := h
  rcases List.prefix_or_prefix_of_prefix hp (List.prefix_append steps more) with hpast | hsteps
  · exact Or.inl ⟨past, t, hpast, htime, ht⟩
  · rcases List.prefix_concat_iff.mp hsteps with rfl | ⟨between, rfl⟩
    · exact Or.inl ⟨past, t, List.prefix_refl _, htime, ht⟩
    · rw [List.append_assoc, run_append, w.run_append steps between] at ht
      rw [run_append] at htime
      rw [List.append_assoc] at hp
      exact Or.inr ⟨between, t, (List.prefix_append_right_inj steps).mp hp, htime, ht⟩

theorem SchedulesAt.le_now {time : Nat} (h : w.SchedulesAt steps time) :
    time ≤ (w.run steps).now := by
  obtain ⟨past, t, ⟨rest, rfl⟩, rfl, _⟩ := h
  rw [List.append_assoc, run_append]
  exact (w.run past).run_now_le _

theorem editor_schedule (s : Session) (now : Nat) : (s.schedule now).1.editor = s.editor := by
  unfold Session.schedule
  dsimp only
  split <;> rfl

theorem editor_refresh (s : Session) (now : Nat) : (s.refresh now).1.editor = s.editor := by
  unfold Session.refresh
  dsimp only
  split <;> rfl

theorem editor_takeOver (w : World) (p : Session × List Effect) :
    (w.takeOver p).session.editor = p.1.editor :=
  congrArg Session.editor (w.session_takeOver p)

theorem Edits.reaction {i : Input} (h : w.Edits i) :
    ∃ e, w.session.editor.Edit e ∧
      w.session.handleInput i w.now = w.session.edited e w.now := by
  have hframe : (w.session.handleInput i w.now).1.editor.text ≠ w.session.editor.text := by
    intro ht
    refine h (value_eq ?_)
    rw [step, editor_takeOver]
    exact ht
  have hr := w.session.reaction i w.now
  generalize w.session.handleInput i w.now = p at hr hframe
  cases hr with
  | leave => exact absurd rfl hframe
  | refresh => exact absurd (congrArg Editor.text (editor_refresh _ _)) hframe
  | edit h => exact ⟨_, h, rfl⟩
  | view same => exact absurd same.text hframe

theorem Edits.dispatches {i : Input} (h : w.Edits i) : w.dispatches (.input i) = [] := by
  obtain ⟨e, _, hi⟩ := h.reaction
  show requests (w.session.handleInput i w.now).2 = []
  rw [hi]
  exact requests_schedule _ _

theorem dispatches_input {i : Input} (h : ¬ i.refreshes) : w.dispatches (.input i) = [] := by
  have hr := w.session.reaction i w.now
  show requests (w.session.handleInput i w.now).2 = []
  generalize w.session.handleInput i w.now = p at hr
  cases hr with
  | leave => rfl
  | refresh hf => exact absurd hf h
  | edit => exact requests_schedule _ _
  | view => rfl

theorem fired_of_mem_dispatches (hs : s.isOwn) (hf : ¬ s.refreshes) (h : r ∈ w.dispatches s) :
    ∃ i, s = .deliver i := by
  cases s with
  | deliver i => exact ⟨i, rfl⟩
  | start =>
    have hnil : w.dispatches .start = [] := requests_schedule _ _
    rw [hnil] at h
    cases h
  | input i =>
    rw [dispatches_input hf] at h
    cases h
  | outputHeight | draw | elapse => cases h
  | forge e => cases hs

theorem timer_schedule {u : Session} {t : Timer}
    (ht : (w.takeOver (u.schedule w.now)).debouncer.timer = some t) :
    (w.takeOver (u.schedule w.now)).session = u ∧
      t = ⟨u.snapshot w.now, w.now + w.debouncer.clock.wait w.now w.debouncer.delay⟩ := by
  by_cases hb : (u.snapshot w.now).isBlank = true
  · rw [takeOver_schedule_of_blank hb] at ht
    cases ht
  · rw [takeOver_schedule hb] at ht ⊢
    cases ht
    exact ⟨rfl, rfl⟩

theorem timer_refresh (w : World) :
    (w.takeOver (w.session.refresh w.now)).debouncer.timer = none := by
  unfold Session.refresh
  dsimp only
  split <;> rfl

/-- A timer that runs after a step ran before it, or was armed in it, by a start or by an edit. -/
theorem timer_step (hs : s.isOwn) (hp : w.session.editor.Placed) {t : Timer}
    (ht : (w.step s).debouncer.timer = some t) :
    w.debouncer.timer = some t ∧ (w.step s).session.generation = w.session.generation ∨
      t = ⟨(w.step s).session.snapshot w.now,
          w.now + w.debouncer.clock.wait w.now w.debouncer.delay⟩ ∧
        (s = .start ∨ (w.step s).session.editor.value ≠ w.session.editor.value) := by
  cases s with
  | start =>
    have hstep : w.step .start = w.takeOver (w.session.schedule w.now) := rfl
    rw [hstep] at ht ⊢
    obtain ⟨hsession, rfl⟩ := timer_schedule ht
    rw [hsession]
    exact Or.inr ⟨rfl, Or.inl rfl⟩
  | input i =>
    have hr := w.session.reaction i w.now
    have hstep : w.step (.input i) = w.takeOver (w.session.handleInput i w.now) := rfl
    rw [hstep] at ht ⊢
    generalize w.session.handleInput i w.now = p at hr ht ⊢
    cases hr with
    | leave => cases ht
    | refresh =>
      rw [timer_refresh] at ht
      cases ht
    | edit h =>
      obtain ⟨hsession, rfl⟩ := timer_schedule ht
      rw [Session.edited, hsession]
      exact Or.inr ⟨rfl, Or.inr (value_ne (h.text_ne hp))⟩
    | view same => exact Or.inl ⟨ht, same.generation⟩
  | outputHeight height => exact Or.inl ⟨ht, rfl⟩
  | draw size => exact Or.inl ⟨ht, (w.session.sameWork_fit size).generation⟩
  | elapse ms => exact Or.inl ⟨(timer_of_pass ht).1, rfl⟩
  | deliver i =>
    have hd := w.delivery i
    have hstep : w.step (.deliver i) = w.deliver i := rfl
    rw [hstep] at ht ⊢
    generalize w.dispatches (.deliver i) = ds, w.deliver i = v at hd ht ⊢
    cases hd <;> exact Or.inl ⟨ht, rfl⟩
  | forge e => cases hs

theorem Change.fired (h : w.Change ds v) (hr : .fired r ∈ v.queue) : .fired r ∈ w.queue ∨
    ∃ t, w.debouncer.timer = some t ∧ t.request = r ∧ t.due ≤ v.now ∧
      v.session.generation = w.session.generation := by
  cases h with
  | view same => exact Or.inl hr
  | settle | arm | force | leave => exact Or.inl (mem_of_mem_withdraw hr)
  | pass later =>
    rcases mem_queue_passTo.mp hr with hr | ⟨c, _, _, he⟩ | ⟨t, ht, hdue, he⟩
    · exact Or.inl hr
    · cases he
    · exact Or.inr ⟨t, ht, (Event.fired.inj he).symm, hdue, rfl⟩
  | deliver delivery =>
    cases delivery with
    | absent => exact Or.inl hr
    | drop | launch | discard | accept => exact Or.inl (List.mem_of_mem_eraseIdx hr)

theorem Change.debouncer (h : w.Change ds v) :
    v.debouncer.clock = w.debouncer.clock ∧ v.debouncer.delay = w.debouncer.delay := by
  cases h with
  | view | settle | arm | force | leave => exact ⟨rfl, rfl⟩
  | pass later =>
    show (w.debouncer.pass _).clock = _ ∧ (w.debouncer.pass _).delay = _
    unfold Debouncer.pass
    split <;> exact ⟨rfl, rfl⟩
  | deliver delivery => cases delivery <;> exact ⟨rfl, rfl⟩

/-- A wait that began with the last edit, or with a start since, is over by `time`. -/
def RestedBy (w : World) (steps : List Step) (wait : Nat → Nat) (time : Nat) : Prop :=
  ∃ begun, w.SchedulesAt steps begun ∧ (∀ edit, w.EditedAt steps edit → edit ≤ begun) ∧
    begun + wait begun ≤ time

/-- Timers and fires of the present generation come when the template has rested. -/
structure Rested (w : World) (wait : Nat → Nat) (steps : List Step) : Prop where
  wait_eq : ∀ now, (w.run steps).debouncer.clock.wait now (w.run steps).debouncer.delay = wait now
  timer : ∀ t, (w.run steps).debouncer.timer = some t →
    t.request.generation = (w.run steps).session.generation → w.RestedBy steps wait t.due
  fired : ∀ r, .fired r ∈ (w.run steps).queue →
    r.generation = (w.run steps).session.generation →
    w.RestedBy steps wait (w.run steps).now

theorem EditedAt.of_concat {time : Nat} (h : w.EditedAt (steps ++ [s]) time)
    (hg : (w.run (steps ++ [s])).session.generation = (w.run steps).session.generation) :
    w.EditedAt steps time := by
  rcases editedAt_concat.mp h with h | ⟨_, hne⟩
  · exact h
  · rw [run_concat] at hg
    rcases (w.run steps).step_generation s with ⟨_, ht⟩ | ⟨hg', _⟩
    · exact absurd (value_eq ht) hne
    · omega

theorem EditedAt.le_now_before {time : Nat} (h : w.EditedAt (steps ++ [s]) time) :
    time ≤ (w.run steps).now := by
  rcases editedAt_concat.mp h with h | ⟨rfl, _⟩
  · exact h.le_now
  · exact Nat.le_refl _

theorem RestedBy.concat {wait : Nat → Nat} {time later : Nat} (h : w.RestedBy steps wait time)
    (hle : time ≤ later)
    (hg : (w.run (steps ++ [s])).session.generation = (w.run steps).session.generation) :
    w.RestedBy (steps ++ [s]) wait later := by
  obtain ⟨begun, hbegun, hedits, hover⟩ := h
  exact ⟨begun, hbegun.mono, fun edit he => hedits edit (he.of_concat hg),
    Nat.le_trans hover hle⟩

theorem Rested.step {wait : Nat → Nat} (h : w.Rested wait steps) (ht : w.Traced steps)
    (hp : (w.run steps).session.editor.Placed) (hs : s.isOwn) :
    w.Rested wait (steps ++ [s]) := by
  have hc := w.change_run steps hs
  refine ⟨?_, ?_, ?_⟩
  · intro now
    rw [hc.debouncer.1, hc.debouncer.2]
    exact h.wait_eq now
  · intro t htimer hg
    rw [run_concat] at htimer
    rcases timer_step hs hp htimer with ⟨hold, hgen⟩ | ⟨rfl, hscheduled⟩
    · rw [← run_concat] at hgen
      exact (h.timer t hold (hg.trans hgen)).concat (Nat.le_refl _) hgen
    · rw [← run_concat] at hscheduled
      refine ⟨(w.run steps).now, ⟨steps, s, List.prefix_refl _, rfl, hscheduled⟩,
        fun edit he => he.le_now_before, ?_⟩
      exact Nat.le_of_eq (congrArg ((w.run steps).now + ·) (h.wait_eq _).symm)
  · intro r hr hg
    rcases hc.fired hr with hold | ⟨t, htimer, rfl, hdue, hgen⟩
    · have hle := (ht.requests r (.fired hold)).2.generation_le
      have hgen : (w.run (steps ++ [s])).session.generation =
          (w.run steps).session.generation := by
        have hstep := hc.generation
        omega
      exact (h.fired r hold (hg.trans hgen)).concat hc.now_le hgen
    · exact (h.timer t htimer (hg.trans hgen)).concat hdue hgen

section

variable (clock : Clock) (initial : String) (debounce deadline : Nat) (analyzer : Analyzer)

theorem rested_run (h : Closed steps) :
    (open_ clock initial debounce deadline analyzer).Rested (clock.wait · debounce) steps := by
  induction steps using List.reverseRecOn with
  | nil => exact ⟨fun now => rfl, nofun, nofun⟩
  | append_singleton steps s ih =>
    obtain ⟨hc, hs⟩ := h.of_concat
    have hp := run_placed (w := open_ clock initial debounce deadline analyzer)
      (Editor.placed_ofText initial) steps
    exact (ih hc).step (traced_run clock initial debounce deadline analyzer hc) hp hs

/-- Whether the fires that lead to an analysis at the end of a run lead to one of the text as it
stands, which has rested. -/
def RestsFor (w : World) (steps : List Step) (wait : Nat → Nat) : Prop :=
  ∀ i, ∀ r ∈ (w.run steps).dispatches (.deliver i),
    r.content = (w.run steps).session.editor.value ∧ w.RestedBy steps wait (w.run steps).now

theorem restsFor_run (h : Closed steps) :
    (open_ clock initial debounce deadline analyzer).RestsFor steps (clock.wait · debounce) := by
  intro i r hr
  obtain ⟨hsent, hcurrent⟩ := (delivery _ i).sent hr
  have hmem := List.mem_of_getElem? hsent
  have htext := ((traced_run clock initial debounce deadline analyzer h).requests r (.fired hmem)).2
  rw [hcurrent] at htext
  exact ⟨htext.unique (textOf_now _ steps),
    (rested_run clock initial debounce deadline analyzer h).fired r hmem hcurrent⟩

end

end LiveTemplate.World
