import LiveTemplate.Proofs.World.History

namespace LiveTemplate

/-- Nothing has been shown yet. -/
structure Session.Unshown (s : Session) : Prop where
  applied : s.applied = none
  outputs : s.outputs = .uniform loadingText
  status : s.status = none
  info : s.info = none

namespace World

/-- A result for its own content: the placeholders for a blank one, else what the analyzer's answer
comes to within the deadline, to a call with that content that was begun by now. -/
def Gives (w : World) (r : Result) : Prop :=
  if isBlank r.content then ∃ q, r = .placeholder q
  else ∃ n q start finish, w.dispatcher.calls[n]? = some r.content ∧ start ≤ w.now ∧
    r = .ofOutcome q ((w.dispatcher.analyzer n r.content).within (w.dispatcher.clock.wait start)
      w.dispatcher.deadline) finish

theorem Gives.mono {v w : World} {r : Result} (h : v.Gives r)
    (hd : v.dispatcher.GoesOn w.dispatcher) (hnow : v.now ≤ w.now) : w.Gives r := by
  unfold Gives at h ⊢
  by_cases hb : isBlank r.content = true
  · rw [if_pos hb] at h ⊢
    exact h
  · rw [if_neg hb] at h ⊢
    obtain ⟨n, q, start, finish, hn, hstart, hr⟩ := h
    obtain ⟨more, hmore⟩ := hd.calls
    refine ⟨n, q, start, finish, ?_, Nat.le_trans hstart hnow, ?_⟩
    · rw [← hmore, List.getElem?_append_left (List.getElem?_eq_some_iff.mp hn).1]
      exact hn
    · rw [hd.clock, hd.analyzer, hd.deadline]
      exact hr

theorem gives_analyze {w : World} {c : Cycle} {q : Request} {call start : Nat}
    (hc : c = analyze w.dispatcher.clock w.dispatcher.analyzer w.dispatcher.deadline call start q)
    (hb : ¬ q.isBlank) (hcall : w.dispatcher.calls[call]? = some q.content)
    (hstart : start ≤ w.now) : w.Gives c.result := by
  have hb' : ¬ isBlank q.content = true := hb
  rw [hc, Gives, content_analyze, if_neg hb', analyze, if_neg hb]
  exact ⟨call, q, start, _, hcall, hstart, rfl⟩

theorem gives_placeholder {w : World} {q : Request} (hb : q.isBlank) :
    w.Gives (.placeholder q) := by
  have hb' : isBlank (Result.placeholder q).content = true := hb
  rw [Gives, if_pos hb']
  exact ⟨q, rfl⟩

/-- Everything under way in a run, and what is shown, belongs to the text of its generation. -/
structure Traced (w : World) (steps : List Step) : Prop where
  requests : ∀ r, (w.run steps).Holds r → ¬ r.isBlank ∧ w.TextOf steps r.generation r.content
  results : ∀ r, (w.run steps).Brings r →
    (w.run steps).Gives r ∧ w.TextOf steps r.generation r.content
  display : (w.run steps).session.Unshown ∨ ∃ r, (w.run steps).session.Shows r ∧
    (w.run steps).Gives r ∧ w.TextOf steps r.generation r.content

variable {w : World} {steps : List Step} {s : Step}

theorem Traced.step (h : w.Traced steps) (hs : s.isOwn) : w.Traced (steps ++ [s]) := by
  have hc := w.change_run steps hs
  have hd := hc.dispatcher
  have old : ∀ {r : Result}, (w.run steps).Gives r ∧
      w.TextOf steps r.generation r.content →
      (w.run (steps ++ [s])).Gives r ∧
        w.TextOf (steps ++ [s]) r.generation r.content :=
    fun hr => ⟨hr.1.mono hd hc.now_le, hr.2.mono⟩
  refine ⟨?_, ?_, ?_⟩
  · intro r hr
    rcases hc.holds hr with hr | ⟨rfl, hb⟩
    · obtain ⟨hb, ht⟩ := h.requests r hr
      exact ⟨hb, ht.mono⟩
    · exact ⟨hb, w.textOf_snapshot (steps ++ [s]) _⟩
  · intro r hr
    rcases hc.brings hr with hr | ⟨c, q, k, hq, rfl, hk, hcall⟩
    · exact old (h.results r hr)
    · obtain ⟨hb, ht⟩ := h.requests q hq
      have hg : c.result.generation = q.generation := hk ▸ generation_analyze _ _ _ _ _ q
      have hcontent : c.result.content = q.content := hk ▸ content_analyze _ _ _ _ _ q
      rw [← hd.clock, ← hd.analyzer, ← hd.deadline] at hk
      rw [hg, hcontent]
      exact ⟨gives_analyze hk hb (hcall hb) hc.now_le, ht.mono⟩
  · rcases hc.display with same | ⟨r, hr, hg, hr' | ⟨hb, rfl⟩⟩
    · rcases h.display with hu | ⟨r, hr, hold⟩
      · exact Or.inl ⟨same.applied.trans hu.applied, same.outputs.trans hu.outputs,
          same.status.trans hu.status, same.info.trans hu.info⟩
      · exact Or.inr ⟨r, hr.of_sameDisplay same, old hold⟩
    · exact Or.inr ⟨r, hr, old (h.results r hr')⟩
    · exact Or.inr ⟨_, hr, gives_placeholder hb,
        w.textOf_snapshot (steps ++ [s]) (w.run steps).now⟩

section

variable (clock : Clock) (initial : String) (debounce deadline : Nat) (analyzer : Analyzer)

theorem traced_open : (open_ clock initial debounce deadline analyzer).Traced [] := by
  refine ⟨?_, ?_, Or.inl ⟨rfl, rfl, rfl, rfl⟩⟩
  · intro r hr
    cases hr with
    | timer armed eq => cases armed
    | fired sent => cases sent
    | waiting mem => cases mem
  · intro r hr
    cases hr with
    | running mem eq => cases mem
    | completed sent => cases sent

theorem traced_run (h : Closed steps) :
    (open_ clock initial debounce deadline analyzer).Traced steps := by
  induction steps using List.reverseRecOn with
  | nil => exact traced_open clock initial debounce deadline analyzer
  | append_singleton steps s ih => exact (ih h.of_concat.1).step h.of_concat.2

end

theorem Traced.applied_le (h : w.Traced steps) {a : Nat}
    (ha : (w.run steps).session.applied = some a) : a ≤ (w.run steps).session.generation := by
  rcases h.display with hu | ⟨r, hr, _, ht⟩
  · rw [hu.applied] at ha
    cases ha
  · rw [hr.applied] at ha
    cases ha
    exact ht.generation_le

theorem Traced.current (h : w.Traced steps) (hp : (w.run steps).session.isPending = false) :
    ∃ r, (w.run steps).session.Shows r ∧ r.generation = (w.run steps).session.generation ∧
      r.content = (w.run steps).session.editor.value ∧ (w.run steps).Gives r := by
  have happlied := of_decide_eq_false hp
  rw [Decidable.not_not] at happlied
  rcases h.display with hu | ⟨r, hr, hg, htext⟩
  · rw [hu.applied] at happlied
    cases happlied
  · rw [hr.applied] at happlied
    have hgen := Option.some.inj happlied
    rw [hgen] at htext
    exact ⟨r, hr, hgen, htext.unique (textOf_now _ steps), hg⟩

/-- What a world shows at the end of a run. -/
structure DisplaySound (w : World) (steps : List Step) : Prop where
  source : (w.run steps).session.Unshown ∨ ∃ r, (w.run steps).session.Shows r ∧
    r.generation ≤ (w.run steps).session.generation ∧ (w.run steps).Gives r ∧
    w.TextOf steps r.generation r.content ∧
    ∀ text, w.TextOf steps r.generation text → text = r.content
  applied_mono : ∀ past, past <+: steps → ∀ a, (w.run past).session.applied = some a →
    ∃ b, (w.run steps).session.applied = some b ∧ a ≤ b
  current : (w.run steps).session.isPending = false → ∃ r, (w.run steps).session.Shows r ∧
    r.generation = (w.run steps).session.generation ∧
    r.content = (w.run steps).session.editor.value ∧ (w.run steps).Gives r

theorem applied_mono {clock : Clock} {initial : String} {debounce deadline : Nat}
    {analyzer : Analyzer} (h : Closed steps) {past : List Step} (hp : past <+: steps) {a : Nat}
    (ha : ((open_ clock initial debounce deadline analyzer).run past).session.applied = some a) :
    ∃ b, ((open_ clock initial debounce deadline analyzer).run steps).session.applied = some b ∧
      a ≤ b := by
  induction steps using List.reverseRecOn with
  | nil =>
    cases List.prefix_nil.mp hp
    exact ⟨a, ha, Nat.le_refl a⟩
  | append_singleton steps s ih =>
    rcases List.prefix_concat_iff.mp hp with rfl | hp
    · exact ⟨a, ha, Nat.le_refl a⟩
    · obtain ⟨hc, hs⟩ := h.of_concat
      obtain ⟨b, hb, hab⟩ := ih hc hp
      have hle := (traced_run clock initial debounce deadline analyzer hc).applied_le hb
      have hchange := (open_ clock initial debounce deadline analyzer).change_run steps hs
      rcases hchange.display with same | ⟨r, hr, hg, _⟩
      · exact ⟨b, same.applied.trans hb, hab⟩
      · have hgen := hchange.generation
        exact ⟨r.generation, hr.applied, by omega⟩

/-- At every moment of a closed run the tabs, the status and the facts about the analyzer come
together from one result, for exactly the text of the generation that is shown. -/
theorem display_sound (clock : Clock) (initial : String) (debounce deadline : Nat)
    (analyzer : Analyzer) {steps : List Step} (h : Closed steps) :
    (open_ clock initial debounce deadline analyzer).DisplaySound steps := by
  have ht := traced_run clock initial debounce deadline analyzer h
  refine ⟨?_, fun past hp a ha => applied_mono h hp ha, ht.current⟩
  rcases ht.display with hu | ⟨r, hr, hg, htext⟩
  · exact Or.inl hu
  · exact Or.inr ⟨r, hr, htext.generation_le, hg, htext, fun text h' => h'.unique htext⟩

def firstLetter : List Step :=
  [.start, .input (.key (.typed 'a')), .elapse 5, .deliver 0, .elapse 0, .deliver 0]

theorem display_sound_firstLetter : Closed firstLetter ∧
    (open_ .nanoseconds "" 5 1000 fun _ _ => .after 0 (.error (.timedOut 0))).DisplaySound
      firstLetter := by
  have h : Closed firstLetter := by decide
  exact ⟨h, display_sound .nanoseconds "" 5 1000 _ h⟩

end World
end LiveTemplate
