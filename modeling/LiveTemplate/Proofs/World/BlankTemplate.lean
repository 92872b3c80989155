import LiveTemplate.Proofs.World.Calls
import LiveTemplate.Proofs.World.Rested

namespace LiveTemplate

theorem Session.handleInput_of_refreshes {s : Session} {i : Input} (h : i.refreshes) (now : Nat) :
    s.handleInput i now = s.refresh now := by
  cases i with
  | key k =>
    simp only [Input.refreshes, Bool.and_eq_true, decide_eq_true_eq] at h
    obtain ⟨⟨hmotion, hcontrol⟩, hcode⟩ := h
    simp [handleInput, handleKey, hmotion, hcontrol, hcode]
  | paste | resize | other => cases h

theorem Session.isBlank_snapshot (s : Session) (now : Nat) :
    (s.snapshot now).isBlank = isBlank s.editor.value := rfl

namespace World

/-- The placeholders are shown as the result of the present template, and no timer is armed. -/
structure ShowsBlank (w : World) : Prop where
  outputs : ∀ tab, w.session.outputs.get tab = tab.placeholder
  status : w.session.status = some .empty
  info : w.session.info = none
  settled : w.session.isPending = false
  unarmed : w.isArmed = false

/-- What holds at the end of a run because of blank texts. -/
structure BlankSound (w : World) (steps : List Step) : Prop where
  /-- Also with events from elsewhere, no call has only white space. -/
  calls : ∀ content ∈ (w.run steps).dispatcher.calls, ¬ content.toList.all isWhite
  /-- If the template is white space and was scheduled, that shows, and a forced analysis changes
  nothing about it and starts nothing. -/
  shown : Closed steps → (.start ∈ steps ∨ ∃ time, w.EditedAt steps time) →
    (w.run steps).session.editor.value.toList.all isWhite →
    (w.run steps).ShowsBlank ∧ ∀ i : Input, i.refreshes →
      ((w.run steps).step (.input i)).ShowsBlank ∧
      (w.run steps).dispatches (.input i) = [] ∧
      ((w.run steps).step (.input i)).dispatcher = (w.run steps).dispatcher

variable {w v : World} {ds : List Request} {steps : List Step} {s : Step}

theorem isArmed_eq_false : w.isArmed = false ↔
    w.debouncer.isArmed = false ∧ ∀ e ∈ w.queue.drop queueRoom, e.isFire = false := by
  rw [isArmed, Bool.or_eq_false_iff, List.any_eq_false]
  simp only [Bool.not_eq_true]

theorem mem_drop_of_mem_drop_eraseIdx {α : Type} {l : List α} {i n : Nat} {x : α}
    (h : x ∈ (l.eraseIdx i).drop n) : x ∈ l.drop n := by
  obtain ⟨j, hj⟩ := List.mem_iff_getElem?.mp h
  rw [List.getElem?_drop, List.getElem?_eraseIdx] at hj
  rw [List.mem_iff_getElem?]
  split at hj
  next => exact ⟨j, by rw [List.getElem?_drop, hj]⟩
  next => exact ⟨j + 1, by rw [List.getElem?_drop, ← Nat.add_assoc, hj]⟩

/-- Stopping the timer takes back its fire where that waits to be sent. -/
theorem isArmed_withdraw (w : World) (t : Session) :
    isArmed { w.withdraw with session := t, debouncer := w.debouncer.cancel } = false := by
  refine isArmed_eq_false.mpr ⟨rfl, fun e he => ?_⟩
  have hbehind : e ∈ (w.queue.drop queueRoom).filter (!·.isFire) := by
    have hle : (w.queue.take queueRoom).length ≤ queueRoom := List.length_take_le _ _
    have he : e ∈ (w.queue.take queueRoom ++
        (w.queue.drop queueRoom).filter (!·.isFire)).drop queueRoom := he
    rw [List.drop_append, List.drop_eq_nil_of_le hle, List.nil_append] at he
    exact List.mem_of_mem_drop he
  simpa using (List.mem_filter.mp hbehind).2

theorem isArmed_eraseIdx (h : w.isArmed = false) (i : Nat) :
    isArmed { w with queue := w.queue.eraseIdx i } = false := by
  obtain ⟨htimer, hqueue⟩ := isArmed_eq_false.mp h
  exact isArmed_eq_false.mpr
    ⟨htimer, fun e he => hqueue e (mem_drop_of_mem_drop_eraseIdx he)⟩

theorem isArmed_passTo (h : w.isArmed = false) (time : Nat) : (w.passTo time).isArmed = false := by
  obtain ⟨htimer, hqueue⟩ := isArmed_eq_false.mp h
  have hnone : w.debouncer.timer = none := by
    rw [Debouncer.isArmed, Option.isSome_eq_false_iff, Option.isNone_iff_eq_none] at htimer
    exact htimer
  refine isArmed_eq_false.mpr ⟨?_, fun e he => ?_⟩
  · show (w.debouncer.pass time).isArmed = false
    unfold Debouncer.pass
    split
    next => rfl
    next => exact htimer
  · have he : e ∈ (w.queue ++
        sent w.debouncer ((w.dispatcher.begin w.now).ended time) time).drop queueRoom := he
    rw [List.drop_append] at he
    rcases List.mem_append.mp he with he | he
    · exact hqueue e he
    · rcases mem_sent.mp (List.mem_of_mem_drop he) with ⟨c, _, rfl⟩ | ⟨t, ht, _⟩
      · rfl
      · rw [hnone] at ht
        cases ht

theorem showsBlank_settled (w : World) (t : Session) :
    ShowsBlank { w.withdraw with
      session := t.apply (.placeholder (t.snapshot w.now))
      debouncer := w.debouncer.cancel } := by
  refine ⟨fun tab => Outputs.get_placeholders tab, rfl, rfl, ?_, w.isArmed_withdraw _⟩
  exact decide_eq_false (not_not_intro rfl)

theorem ShowsBlank.of_same (h : w.ShowsBlank) (display : w.session.SameDisplay v.session)
    (generation : v.session.generation = w.session.generation)
    (unarmed : v.isArmed = false) : v.ShowsBlank := by
  refine ⟨?_, display.status.trans h.status, display.info.trans h.info, ?_, unarmed⟩
  · rw [display.outputs]
    exact h.outputs
  · have hsettled := h.settled
    unfold Session.isPending at hsettled ⊢
    rw [display.applied, generation]
    exact hsettled

theorem ShowsBlank.of_shows {r : Result} {q : Request} (shows_ : v.session.Shows r)
    (placeholder : r = .placeholder q) (generation : r.generation = v.session.generation)
    (unarmed : v.isArmed = false) : v.ShowsBlank := by
  refine ⟨?_, ?_, ?_, ?_, unarmed⟩
  · rw [shows_.outputs, placeholder]
    exact Outputs.get_placeholders
  · rw [shows_.status, placeholder]
    rfl
  · rw [shows_.info, placeholder]
    rfl
  · rw [Session.isPending, shows_.applied, generation]
    exact decide_eq_false (not_not_intro rfl)

/-- A change that leaves the template blank settles it, or keeps its text and what it shows. -/
theorem Change.blank (h : w.Change ds v) (hb : isBlank v.session.editor.value)
    (results : isBlank w.session.editor.value → ∀ r, .completed r ∈ w.queue →
      r.generation = w.session.generation → ∃ q, r = .placeholder q) :
    v.ShowsBlank ∨ v.session.editor.text = w.session.editor.text ∧
      (w.ShowsBlank → v.ShowsBlank) := by
  cases h with
  | view same =>
    exact Or.inr ⟨same.text, fun h => h.of_same same.sameDisplay same.generation h.unarmed⟩
  | settle revises blank => exact Or.inl (showsBlank_settled w _)
  | arm revises some => exact absurd hb some
  | force some => exact absurd hb some
  | leave =>
    exact Or.inr ⟨rfl, fun h => h.of_same ⟨rfl, rfl, rfl, rfl⟩ rfl (w.isArmed_withdraw _)⟩
  | pass later =>
    exact Or.inr ⟨rfl, fun h =>
      h.of_same ⟨rfl, rfl, rfl, rfl⟩ rfl (isArmed_passTo h.unarmed _)⟩
  | deliver delivery =>
    cases delivery with
    | absent => exact Or.inr ⟨rfl, id⟩
    | drop | launch | discard =>
      exact Or.inr ⟨rfl, fun h =>
        h.of_same ⟨rfl, rfl, rfl, rfl⟩ rfl (isArmed_eraseIdx h.unarmed _)⟩
    | accept sent current =>
      obtain ⟨q, hq⟩ := results hb _ (List.mem_of_getElem? sent) current
      exact Or.inr ⟨rfl, fun h =>
        .of_shows (Session.shows_apply _ _) hq current (isArmed_eraseIdx h.unarmed _)⟩

/-- A result of the present generation of a blank template is made of the placeholders. -/
theorem Traced.placeholder (h : w.Traced steps) (hb : isBlank (w.run steps).session.editor.value)
    {r : Result} (hr : .completed r ∈ (w.run steps).queue)
    (hg : r.generation = (w.run steps).session.generation) : ∃ q, r = .placeholder q := by
  obtain ⟨hgives, htext⟩ := h.results r (.completed hr)
  rw [hg] at htext
  rw [Gives, htext.unique (textOf_now w steps), if_pos hb] at hgives
  exact hgives

theorem step_refresh_of_blank {i : Input} (h : i.refreshes)
    (hb : isBlank w.session.editor.value) :
    w.dispatches (.input i) = [] ∧ w.step (.input i) = { w.withdraw with
      session := w.session.apply (.placeholder (w.session.snapshot w.now))
      debouncer := w.debouncer.cancel } := by
  have hrefresh : w.session.handleInput i w.now =
      (w.session.apply (.placeholder (w.session.snapshot w.now)), [.cancel]) := by
    rw [Session.handleInput_of_refreshes h, Session.refresh, Session.isBlank_snapshot, if_pos hb]
  constructor
  · rw [dispatches, asked, hrefresh]
    rfl
  · rw [step, hrefresh]
    rfl

section

variable (clock : Clock) (initial : String) (debounce deadline : Nat) (analyzer : Analyzer)

/-- Induction on the end of the run: the last step settles the blank template, or it was blank and
scheduled before. -/
theorem showsBlank_run (h : Closed steps)
    (scheduled : .start ∈ steps ∨
      ∃ time, (open_ clock initial debounce deadline analyzer).EditedAt steps time)
    (hb : isBlank
      ((open_ clock initial debounce deadline analyzer).run steps).session.editor.value) :
    ((open_ clock initial debounce deadline analyzer).run steps).ShowsBlank := by
  induction steps using List.reverseRecOn with
  | nil =>
    rcases scheduled with hstart | ⟨time, past, s, hpast, _⟩
    · cases hstart
    · have hnil := List.prefix_nil.mp hpast
      simp at hnil
  | append_singleton steps s ih =>
    obtain ⟨hc, hs⟩ := h.of_concat
    have htraced := traced_run clock initial debounce deadline analyzer hc
    have hchange := (open_ clock initial debounce deadline analyzer).change_run steps hs
    generalize open_ clock initial debounce deadline analyzer = w
      at ih scheduled hb htraced hchange ⊢
    rcases hchange.blank hb fun hb r hr hg => htraced.placeholder hb hr hg with hshows | ⟨ht, hkeep⟩
    · exact hshows
    · have hbefore : isBlank (w.run steps).session.editor.value := by
        rw [← value_eq ht]
        exact hb
      rcases scheduled with hstart | ⟨time, he⟩
      · rcases List.mem_append.mp hstart with hstart | hstart
        · exact hkeep (ih hc (Or.inl hstart) hbefore)
        · cases List.mem_singleton.mp hstart
          rw [run_concat, step, takeOver_schedule_of_blank hbefore]
          exact showsBlank_settled _ _
      · rcases editedAt_concat.mp he with he | ⟨_, hne⟩
        · exact hkeep (ih hc (Or.inr ⟨time, he⟩) hbefore)
        · rw [run_concat] at ht
          exact absurd (value_eq ht) hne

/-- A text of only white space is never analyzed, and in a closed run it shows as the placeholders
once it was scheduled, with nothing pending, whatever else is under way and however often it is
forced. -/
theorem blank_sound (steps : List Step) :
    (open_ clock initial debounce deadline analyzer).BlankSound steps := by
  constructor
  · intro content hcontent hwhite
    have hnone : ∀ c ∈ (open_ clock initial debounce deadline analyzer).dispatcher.calls,
        ¬ isBlank c :=
      fun c hc => absurd hc List.not_mem_nil
    exact not_blank_of_mem_calls hnone hcontent (isBlankText_iff.mpr hwhite)
  · intro h scheduled hwhite
    have hb := isBlankText_iff.mpr hwhite
    refine ⟨showsBlank_run clock initial debounce deadline analyzer h scheduled hb, fun i hi => ?_⟩
    obtain ⟨hnone, hstep⟩ := step_refresh_of_blank hi hb
    rw [hstep]
    exact ⟨showsBlank_settled _ _, hnone, rfl⟩

end

/-- A letter is taken back while its analysis runs, and the result comes after that. -/
def takenBack : List Step :=
  [.input (.key (.typed 'a')), .elapse 5, .deliver 0, .elapse 1,
    .input (.key ⟨.backspace, .none, .press⟩), .elapse 20, .deliver 0]

theorem blank_sound_takenBack :
    ((open_ .nanoseconds "" 5 1000 fun _ content => .after 9 (.ok (Script.echo content))).run
        takenBack).dispatcher.calls = ["a"] ∧
      ((open_ .nanoseconds "" 5 1000 fun _ content => .after 9 (.ok (Script.echo content))).run
        takenBack).ShowsBlank := by
  have hsound := blank_sound .nanoseconds "" 5 1000
    (fun _ content => .after 9 (.ok (Script.echo content))) takenBack
  refine ⟨by decide +kernel, (hsound.shown (by decide) (Or.inr ?_) (by decide +kernel)).1⟩
  refine ⟨0, [], .input (.key (.typed 'a')), ⟨_, rfl⟩, rfl, ?_⟩
  decide +kernel

end World
end LiveTemplate
