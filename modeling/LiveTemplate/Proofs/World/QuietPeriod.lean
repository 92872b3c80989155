import LiveTemplate.Proofs.World.Lull

namespace LiveTemplate.World

/-- Edits that follow each other before a wait is over that began with the one, or with a start
since, and with anything but a forced analysis between them. -/
inductive Burst (wait : Nat → Nat) : World → List Step → Prop where
  | last {w : World} {i : Input} (edits : w.Edits i) : Burst wait w [.input i]
  | more {w : World} {i : Input} {between later : List Step} (edits : w.Edits i)
      (own : Closed between) (unforced : ∀ s ∈ between, ¬ s.refreshes)
      (soon : ∀ begun, w.SchedulesAt (.input i :: between) begun →
        (w.run (.input i :: between)).now < begun + wait begun)
      (rest : Burst wait (w.run (.input i :: between)) later) :
      Burst wait w (.input i :: between ++ later)

def template (w : World) : Request := w.session.snapshot w.now

variable {w : World}

theorem Burst.closed {wait : Nat → Nat} {burst : List Step} (h : Burst wait w burst) :
    Closed burst := by
  induction h with
  | last edits => exact closed_singleton rfl
  | @more w i between later edits own unforced soon rest ih =>
    have hone : Closed [.input i] := closed_singleton rfl
    exact (hone.append own).append ih

theorem Edits.step {i : Input} (h : w.Edits i) : ∃ t, w.session.Revises t ∧
    t.generation = w.session.generation + 1 ∧ t.dispatched = w.session.dispatched ∧
    w.step (.input i) = w.takeOver (t.schedule w.now) := by
  obtain ⟨e, he, hi⟩ := h.reaction
  refine ⟨_, .edit he, rfl, rfl, ?_⟩
  show w.takeOver (w.session.handleInput i w.now) = _
  rw [hi]
  rfl

theorem Edits.now {i : Input} (h : w.Edits i) : (w.step (.input i)).now = w.now := by
  obtain ⟨t, _, _, _, hstep⟩ := h.step
  rw [hstep]
  by_cases hb : (t.snapshot w.now).isBlank = true
  · rw [takeOver_schedule_of_blank hb]
    rfl
  · rw [takeOver_schedule hb]
    rfl

/-- An edit leaves a template that waits for the whole quiet period, or a blank one at rest. -/
theorem Edits.waits_or_still {i : Input} (edits : w.Edits i) (hf : w.Followed)
    (hq : ∀ q, .fired q ∈ w.queue → q.generation ≤ w.session.generation) {u : World}
    (hu : u = w.step (.input i)) :
    if u.template.isBlank then u.Still []
    else u.Waits u.template (u.now + w.debouncer.clock.wait u.now w.debouncer.delay) := by
  have hfires : ∀ q, .fired q ∈ w.withdraw.queue → q.generation ≠ w.session.generation + 1 := by
    intro q hm
    have hle := hq q (mem_of_mem_withdraw hm)
    omega
  have hfresh : w.session.dispatched ≠ some (w.session.generation + 1) := by
    intro hd
    have hle := hf.dispatched_le _ hd
    omega
  obtain ⟨t, _, hgeneration, hdispatched, hstep⟩ := edits.step
  rw [← hgeneration] at hfires hfresh
  rw [← hdispatched] at hfresh
  rw [hstep] at hu
  by_cases hb : (t.snapshot w.now).isBlank = true
  · rw [takeOver_schedule_of_blank hb] at hu
    have htemplate : u.template = t.snapshot w.now := by
      rw [hu]
      rfl
    rw [htemplate, if_pos hb, hu]
    exact ⟨rfl, hfires, rfl⟩
  · rw [takeOver_schedule hb] at hu
    have htemplate : u.template = t.snapshot w.now := by
      rw [hu]
      rfl
    have hnow : u.now = w.now := by
      rw [hu]
      rfl
    rw [htemplate, if_neg hb, hnow, hu]
    exact ⟨rfl, rfl, hfresh, hfires, Nat.le_add_right _ _⟩

/-- When the analyses of a run that goes on after `past` are dispatched, and of which texts, as far
as they come from edits until `limit`. -/
structure DebounceSound (w : World) (past : List Step) (wait : Nat → Nat) (limit : Nat) : Prop where
  rested : (w.run past).now ≤ limit → w.RestsFor past wait
  /-- An edit that is left alone leads to one analysis of its text, when its wait is over. -/
  once : ∀ {i : Input} {u : World} {lull : List Step}, (w.run past).Edits i →
    u = (w.run past).step (.input i) → (w.run past).now ≤ limit → ¬ u.template.isBlank →
    u.Lull (wait (w.run past).now) lull →
    (w.run past).log (.input i :: lull) =
      [((w.run past).now + wait (w.run past).now, u.template)]
  /-- A burst that is left alone leads to one analysis of its last text, or to none if that is
  blank. -/
  burst : ∀ {u : World} {burst lull : List Step}, Burst wait (w.run past) burst →
    u = (w.run past).run burst → u.now ≤ limit → u.Lull (wait u.now) lull →
    (w.run past).log (burst ++ lull) =
      if u.template.isBlank then [] else [(u.now + wait u.now, u.template)]
  calls : ∀ {u : World} {burst lull : List Step} (n : Nat), Burst wait (w.run past) burst →
    u = (w.run past).run burst → u.now ≤ limit → u.Lull (wait u.now) lull →
    ((u.run lull).runTo ((u.run lull).now + n)).dispatcher.calls =
      (w.run past).wanted ++ if u.template.isBlank then [] else [u.template.content]

section

variable {wait measured : Nat → Nat} {limit : Nat} {past steps : List Step}

theorem RestsFor.congr (h : w.RestsFor past wait)
    (heq : ∀ t ≤ (w.run past).now, measured t = wait t) : w.RestsFor past measured := by
  intro i r hr
  obtain ⟨hcontent, begun, hbegun, hedits, hover⟩ := h i r hr
  refine ⟨hcontent, begun, hbegun, hedits, ?_⟩
  rw [heq begun hbegun.le_now]
  exact hover

theorem Burst.congr (h : Burst measured w steps)
    (heq : ∀ t ≤ (w.run steps).now, measured t = wait t) : Burst wait w steps := by
  induction h with
  | last edits => exact .last edits
  | @more w i between later edits own unforced soon rest ih =>
    rw [run_append] at heq
    have hlater := (w.run (.input i :: between)).run_now_le later
    refine .more edits own unforced ?_ (ih heq)
    intro begun hbegun
    rw [← heq begun (Nat.le_trans hbegun.le_now hlater)]
    exact soon begun hbegun

/-- Only how long the waits take that begin by `limit` matters. -/
theorem DebounceSound.congr (h : w.DebounceSound past wait limit)
    (heq : ∀ t ≤ limit, measured t = wait t) : w.DebounceSound past measured limit := by
  have hburst : ∀ {u : World} {burst : List Step}, Burst measured (w.run past) burst →
      u = (w.run past).run burst → u.now ≤ limit → Burst wait (w.run past) burst := by
    rintro u burst hburst rfl hlimit
    exact hburst.congr fun t ht => heq t (Nat.le_trans ht hlimit)
  refine ⟨?_, ?_, ?_, ?_⟩
  · intro hlimit
    exact (h.rested hlimit).congr fun t ht => heq t (Nat.le_trans ht hlimit)
  · intro i u lull hedits hu hlimit hb hlull
    rw [heq _ hlimit] at hlull ⊢
    exact h.once hedits hu hlimit hb hlull
  · intro u burst lull hmeasured hu hlimit hlull
    rw [heq _ hlimit] at hlull ⊢
    exact h.burst (hburst hmeasured hu hlimit) hu hlimit hlull
  · intro u burst lull n hmeasured hu hlimit hlull
    rw [heq _ hlimit] at hlull
    exact h.calls n (hburst hmeasured hu hlimit) hu hlimit hlull

end

section

variable {clock : Clock} {initial : String} {debounce deadline : Nat} {analyzer : Analyzer}
variable {past : List Step} (hw : w = open_ clock initial debounce deadline analyzer)

include hw

/-- The analyses of a lull after an edit: one when its wait is over, of the template as the edit
left it, and none if it left it blank. -/
theorem log_lull (h : Closed past) {i : Input} (edits : (w.run past).Edits i) {u : World}
    (hu : u = (w.run past).step (.input i)) {lull : List Step}
    (hlull : u.Lull (clock.wait u.now debounce) lull) : u.log lull =
      if u.template.isBlank then [] else [(u.now + clock.wait u.now debounce, u.template)] := by
  subst hw
  have htraced := traced_run clock initial debounce deadline analyzer h
  have hfollowed := followed_run clock initial debounce deadline analyzer h
  have hwait := (rested_run clock initial debounce deadline analyzer h).wait_eq u.now
  have hp : u.session.editor.Placed := by
    rw [hu]
    exact step_placed _ (run_placed (Editor.placed_ofText initial) past)
  have hphase := edits.waits_or_still hfollowed
    (fun q hq => (htraced.requests q (.fired hq)).2.generation_le) hu
  rw [hwait] at hphase
  by_cases hb : u.template.isBlank = true
  · rw [if_pos hb] at hphase ⊢
    exact hphase.log_lull hp hlull
  · rw [if_neg hb] at hphase ⊢
    exact hphase.log_lull hp (Nat.le_refl _) hlull

/-- Until a wait is over that began with an edit, or with a start since, nothing is analyzed unless
it is forced. -/
theorem log_eq_nil_of_soon {i : Input} {between : List Step}
    (h : Closed (past ++ .input i :: between)) (edits : (w.run past).Edits i)
    (unforced : ∀ s ∈ between, ¬ s.refreshes)
    (soon : ∀ begun, (w.run past).SchedulesAt (.input i :: between) begun →
      (w.run (past ++ .input i :: between)).now < begun + clock.wait begun debounce) :
    ((w.run past).step (.input i)).log between = [] := by
  induction between using List.reverseRecOn with
  | nil => rfl
  | append_singleton between s ih =>
    have hsplit : past ++ .input i :: (between ++ [s]) = past ++ .input i :: between ++ [s] := by
      simp
    rw [hsplit] at h soon
    obtain ⟨hc, hs⟩ := h.of_concat
    have hnow := (w.run (past ++ .input i :: between)).step_now_le s
    rw [← run_concat] at hnow
    have hsoon : ∀ begun, (w.run past).SchedulesAt (.input i :: between) begun →
        (w.run (past ++ .input i :: between)).now < begun + clock.wait begun debounce := by
      intro begun hbegun
      exact Nat.lt_of_le_of_lt hnow (soon begun hbegun.mono)
    have hnil := ih hc (fun t ht => unforced t (List.mem_append_left _ ht)) hsoon
    have hrun : ((w.run past).step (.input i)).run between =
        w.run (past ++ .input i :: between) :=
      (w.run_append past (.input i :: between)).symm
    rw [log_concat, hnil, List.nil_append, hrun, List.map_eq_nil_iff,
      List.eq_nil_iff_forall_not_mem]
    intro r hr
    obtain ⟨j, rfl⟩ := fired_of_mem_dispatches hs (unforced s (by simp)) hr
    rw [hw] at hr
    obtain ⟨begun, hbegun, hedits, hover⟩ :=
      (restsFor_run clock initial debounce deadline analyzer hc j r hr).2
    rw [← hw] at hbegun hedits hover
    have hedited : w.EditedAt (past ++ .input i :: between) (w.run past).now := by
      refine ⟨past, .input i, ⟨between, by simp⟩, rfl, ?_⟩
      rw [run_concat]
      exact edits
    -- a wait begun earlier began with the edit, at the same moment
    have hscheduled : (w.run past).SchedulesAt (.input i :: between) begun := by
      rcases hbegun.of_append with hpast | hsince
      · have heq := Nat.le_antisymm (hedits _ hedited) hpast.le_now
        exact ⟨[], .input i, ⟨between, rfl⟩, heq, Or.inr edits⟩
      · exact hsince
    exact absurd hover (Nat.not_le.mpr (hsoon begun hscheduled))

theorem exists_last_of_burst (h : Closed past) {burst : List Step}
    (hburst : Burst (clock.wait · debounce) (w.run past) burst) :
    ∃ front i, burst = front ++ [.input i] ∧ Closed front ∧ (w.run (past ++ front)).Edits i ∧
      (w.run past).log burst = [] := by
  generalize hv : w.run past = v at hburst
  induction hburst generalizing past with
  | @last v i edits =>
    refine ⟨[], i, rfl, closed_nil, ?_, ?_⟩
    · rw [List.append_nil, hv]
      exact edits
    · rw [World.log, edits.dispatches]
      rfl
  | @more v i between later edits own unforced soon rest ih =>
    subst hv
    have hone : Closed [.input i] := closed_singleton rfl
    have hclosed : Closed (past ++ .input i :: between) := h.append (hone.append own)
    have hrun : w.run (past ++ .input i :: between) = (w.run past).run (.input i :: between) :=
      w.run_append past _
    obtain ⟨front, j, rfl, hfront, hlast, hlog⟩ := ih hclosed hrun
    rw [← hrun] at soon
    have hsilent := log_eq_nil_of_soon hw hclosed edits unforced soon
    refine ⟨.input i :: between ++ front, j, by simp, ?_, ?_, ?_⟩
    · exact (hone.append own).append hfront
    · rw [← List.append_assoc]
      exact hlast
    · rw [log_append, hlog, World.log, edits.dispatches, hsilent]
      rfl

theorem log_burst (h : Closed past) {u : World} {burst lull : List Step}
    (hburst : Burst (clock.wait · debounce) (w.run past) burst) (hu : u = (w.run past).run burst)
    (hlull : u.Lull (clock.wait u.now debounce) lull) :
    (w.run past).log (burst ++ lull) =
      if u.template.isBlank then [] else [(u.now + clock.wait u.now debounce, u.template)] := by
  obtain ⟨front, i, rfl, hfront, hedits, hnil⟩ := exists_last_of_burst hw h hburst
  have hlast : u = (w.run (past ++ front)).step (.input i) := by
    rw [hu, run_concat, run_append]
  rw [log_append, hnil, List.nil_append, ← hu]
  exact log_lull hw (h.append hfront) hedits hlast hlull

theorem calls_burst (h : Closed past) {u : World} {burst lull : List Step} (n : Nat)
    (hburst : Burst (clock.wait · debounce) (w.run past) burst) (hu : u = (w.run past).run burst)
    (hlull : u.Lull (clock.wait u.now debounce) lull) :
    ((u.run lull).runTo ((u.run lull).now + n)).dispatcher.calls =
      (w.run past).wanted ++ if u.template.isBlank then [] else [u.template.content] := by
  have hlog := log_burst hw h hburst hu (hlull.pump n)
  have hwanted := (w.run past).wanted_run (hburst.closed.append (hlull.pump n).closed)
  rw [hlog, run_append, ← hu, run_append] at hwanted
  rw [← run_pump, ← wanted_pump, hwanted]
  by_cases hb : u.template.isBlank = true
  · simp [hb]
  · simp [hb]

end

/-- Fires, single edits and bursts of a closed run keep the quiet period, each with the wait that
begins at its own moment. Where the clock can tell the ends of the waits, the delay is the wait. -/
theorem debounce_sound (clock : Clock) (initial : String) (debounce deadline limit : Nat)
    (analyzer : Analyzer) {past : List Step} (h : Closed past) :
    (open_ clock initial debounce deadline analyzer).DebounceSound past (clock.wait · debounce)
        limit ∧
      (limit + debounce ≤ clock.last →
        (open_ clock initial debounce deadline analyzer).DebounceSound past (fun _ => debounce)
          limit) := by
  have hsound : (open_ clock initial debounce deadline analyzer).DebounceSound past
      (clock.wait · debounce) limit := by
    refine ⟨fun _ => restsFor_run clock initial debounce deadline analyzer h, ?_, ?_, ?_⟩
    · intro i u lull hedits hu _ hb hlull
      have hnow : u.now = _ := hu ▸ hedits.now
      rw [← hnow] at hlull ⊢
      have hlog := log_lull rfl h hedits hu hlull
      rw [if_neg hb] at hlog
      rw [World.log, hedits.dispatches, ← hu, hlog]
      rfl
    · intro u burst lull hburst hu _ hlull
      exact log_burst rfl h hburst hu hlull
    · intro u burst lull n hburst hu _ hlull
      exact calls_burst rfl h n hburst hu hlull
  refine ⟨hsound, fun told => hsound.congr fun t ht => ?_⟩
  exact (clock.wait_eq (by omega)).symm

def twoLetters : List Step :=
  [.input (.key (.typed 'a')), .elapse 4, .input (.key (.typed 'b'))]

theorem debounce_sound_twoLetters :
    ∃ lull, (((open_ .nanoseconds "" 5 1000 fun _ _ => .never).run [.start]).run
        twoLetters).Lull 5 lull ∧
      ((open_ .nanoseconds "" 5 1000 fun _ _ => .never).run [.start]).log
        (twoLetters ++ lull) = [(9, ⟨2, "ab", 4⟩)] := by
  have h : Closed [.start] := by decide
  have hburst : Burst (fun _ => 5)
      ((open_ .nanoseconds "" 5 1000 fun _ _ => .never).run [.start]) twoLetters := by
    refine @Burst.more _ _ _ [.elapse 4] _ ?_ (by decide) (by decide) ?_ (.last ?_)
    · unfold Edits
      decide +kernel
    · intro begun _
      have hnow : (((open_ .nanoseconds "" 5 1000 fun _ _ => .never).run [.start]).run
          [.input (.key (.typed 'a')), .elapse 4]).now = 4 := by
        decide +kernel
      omega
    · unfold Edits
      decide +kernel
  generalize hu : ((open_ .nanoseconds "" 5 1000 fun _ _ => .never).run [.start]).run
    twoLetters = u
  have hlull : u.Lull 5 ([] ++ u.pump 5 ++ []) := .mk .nil .nil (by decide)
  refine ⟨_, hlull, ?_⟩
  have hlimit : u.now ≤ 4 := by
    rw [← hu]
    decide +kernel
  rw [((debounce_sound .nanoseconds "" 5 1000 4 _ h).2 (by decide)).burst hburst hu.symm hlimit
    hlull, ← hu]
  decide +kernel

/-- A wait that the clock cannot tell the end of is put off, and over long before its time. -/
theorem dispatched_before_delay :
    ∃ r, r ∈ ((open_ .nanoseconds "" 18446744073709551615 1000 fun _ _ => .never).run
        [.input (.key (.typed 's')), .elapse 946080000000]).dispatches (.deliver 0) ∧
      Closed [.input (.key (.typed 's')), .elapse 946080000000] ∧
      (open_ .nanoseconds "" 18446744073709551615 1000 fun _ _ => .never).EditedAt
        [.input (.key (.typed 's')), .elapse 946080000000] 0 ∧
      ¬ 0 + 18446744073709551615 ≤
        ((open_ .nanoseconds "" 18446744073709551615 1000 fun _ _ => .never).run
          [.input (.key (.typed 's')), .elapse 946080000000]).now := by
  refine ⟨⟨1, "s", 0⟩, by decide +kernel, by decide, ?_, by decide +kernel⟩
  refine ⟨[], .input (.key (.typed 's')), ⟨[.elapse 946080000000], rfl⟩, rfl, ?_⟩
  decide +kernel

end LiveTemplate.World
