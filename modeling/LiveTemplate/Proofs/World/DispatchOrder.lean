import LiveTemplate.Proofs.World.Overtaking

namespace LiveTemplate.World

/-- What a step has to do with dispatches: nothing, or it makes one of the present generation, which
is forced or the first. -/
inductive Asks (w : World) (s : Step) : Prop where
  | nothing (none : w.dispatches s = [])
      (same : (w.step s).session.dispatched = w.session.dispatched) : Asks w s
  | one {r : Request} (one : w.dispatches s = [r])
      (marks : (w.step s).session.dispatched = some w.session.generation)
      (cause : s.refreshes ∨ w.session.dispatched ≠ some w.session.generation) : Asks w s

/-- The generation dispatched last is no earlier than any other and not in the future. -/
structure Ledger (w : World) (steps : List Step) : Prop where
  last : ∀ p ∈ w.log steps, ∃ g, (w.run steps).session.dispatched = some g ∧ p.2.generation ≤ g
  dispatched_le : ∀ g, (w.run steps).session.dispatched = some g →
    g ≤ (w.run steps).session.generation

/-- How many analyses of the present generation can still be dispatched without being forced. -/
def unforced (w : World) : Nat :=
  if w.session.dispatched = some w.session.generation then 0 else 1

/-- What holds of the dispatches of a run and of those that come after it. -/
structure Disciplined (w : World) (steps : List Step) : Prop where
  ordered : (w.log steps).Pairwise (·.2.generation ≤ ·.2.generation)
  /-- What a fire leads to is of a later generation than all that was dispatched before. -/
  fresh : ∀ {s : Step} {q : Request}, (w.run steps).handled s = some (.fired q) →
    ∀ r ∈ (w.run steps).dispatches s, ∀ p ∈ w.log steps, p.2.generation < r.generation
  /-- A fire of another generation than the present one, or of one that was dispatched, does
  nothing. -/
  ignored : ∀ q : Request, (q.generation ≠ (w.run steps).session.generation ∨
      ∃ p ∈ w.log steps, p.2.generation = q.generation) →
    (w.run steps).handle (.fired q) = w.run steps
  /-- While the template is not edited, at most one dispatch is not forced. -/
  span : ∀ more : List Step, (¬ ∃ time, (w.run steps).EditedAt more time) →
    ((w.run steps).log more).length ≤ 1 + more.countP Step.refreshes

variable {w v : World} {ds : List Request} {steps : List Step} {s : Step} {r : Request}

theorem Change.asks (h : w.Change ds v) :
    ds = [] ∧ v.session.dispatched = w.session.dispatched ∨
      ∃ r, ds = [r] ∧ v.session.dispatched = some w.session.generation := by
  cases h with
  | view same => exact Or.inl ⟨rfl, same.dispatched⟩
  | settle revises blank => cases revises <;> exact Or.inl ⟨rfl, rfl⟩
  | arm revises some => cases revises <;> exact Or.inl ⟨rfl, rfl⟩
  | force some => exact Or.inr ⟨_, rfl, rfl⟩
  | leave | pass => exact Or.inl ⟨rfl, rfl⟩
  | deliver delivery =>
    cases delivery with
    | launch sent current fresh => exact Or.inr ⟨_, rfl, congrArg Option.some current⟩
    | absent | drop | discard | accept => exact Or.inl ⟨rfl, rfl⟩

theorem fresh_of_deliver {i : Nat} (h : r ∈ w.dispatches (.deliver i)) :
    w.session.dispatched ≠ some w.session.generation := by
  generalize hds : w.dispatches (.deliver i) = ds at h
  generalize hv : w.deliver i = v
  have hd := w.delivery i
  rw [hds, hv] at hd
  cases hd with
  | launch sent current fresh =>
    rw [← current]
    cases List.mem_singleton.mp h
    exact fresh
  | absent | drop | discard | accept => cases h

theorem asks_forge (w : World) (e : Event) : w.Asks (.forge e) := by
  have ha := w.session.answer e
  have hds : w.dispatches (.forge e) = requests (w.session.handleEvent e).2 := rfl
  have hstep : w.step (.forge e) = w.takeOver (w.session.handleEvent e) := rfl
  generalize w.session.handleEvent e = p at ha hds hstep
  cases ha with
  | launch current fresh =>
    refine .one hds ?_ (Or.inr ?_)
    · rw [hstep]
      exact congrArg some current
    · rwa [← current]
  | drop | discard | accept => exact .nothing hds (by rw [hstep]; rfl)

theorem asks (w : World) (s : Step) : w.Asks s := by
  by_cases hs : s.isOwn
  · rcases (change_step (w := w) hs).asks with ⟨hnone, hsame⟩ | ⟨r, hone, hmarks⟩
    · exact .nothing hnone hsame
    · refine .one hone hmarks ?_
      by_cases hf : s.refreshes
      · exact Or.inl hf
      · have hr : r ∈ w.dispatches s := by simp [hone]
        obtain ⟨i, rfl⟩ := fired_of_mem_dispatches hs hf hr
        exact Or.inr (fresh_of_deliver hr)
  · cases s with
    | forge e => exact w.asks_forge e
    | start | input | outputHeight | draw | elapse | deliver => exact absurd rfl hs

theorem Ledger.step (h : w.Ledger steps) (s : Step) : w.Ledger (steps ++ [s]) := by
  have hle := (w.run steps).step_generation_le s
  constructor
  · intro p hp
    rw [run_concat]
    rw [log_concat] at hp
    cases (w.run steps).asks s with
    | nothing none same =>
      rw [none, List.map_nil, List.append_nil] at hp
      rw [same]
      exact h.last p hp
    | one one marks cause =>
      refine ⟨_, marks, ?_⟩
      rcases List.mem_append.mp hp with hp | hp
      · obtain ⟨g, hg, hpg⟩ := h.last p hp
        exact Nat.le_trans hpg (h.dispatched_le g hg)
      · obtain ⟨r, hr, rfl⟩ := List.mem_map.mp hp
        exact Nat.le_of_eq (generation_of_mem_dispatches hr)
  · intro g hg
    rw [run_concat] at hg ⊢
    cases (w.run steps).asks s with
    | nothing none same =>
      rw [same] at hg
      exact Nat.le_trans (h.dispatched_le g hg) hle
    | one one marks cause =>
      rw [marks] at hg
      cases hg
      exact hle

theorem Ledger.generation_le (h : w.Ledger steps) {p : Nat × Request} (hp : p ∈ w.log steps) :
    p.2.generation ≤ (w.run steps).session.generation := by
  obtain ⟨g, hg, hpg⟩ := h.last p hp
  exact Nat.le_trans hpg (h.dispatched_le g hg)

/-- A present generation that was dispatched is the one dispatched last. -/
theorem Ledger.dispatched_eq (h : w.Ledger steps) {p : Nat × Request} (hp : p ∈ w.log steps)
    (hg : p.2.generation = (w.run steps).session.generation) :
    (w.run steps).session.dispatched = some (w.run steps).session.generation := by
  obtain ⟨g, hd, hpg⟩ := h.last p hp
  have hle := h.dispatched_le g hd
  have heq : g = (w.run steps).session.generation := by omega
  rw [hd, heq]

theorem Ledger.ordered (h : w.Ledger steps)
    (ordered : (w.log steps).Pairwise (·.2.generation ≤ ·.2.generation)) :
    (w.log (steps ++ [s])).Pairwise (·.2.generation ≤ ·.2.generation) := by
  rw [log_concat]
  have hle : ∀ p ∈ w.log steps, ∀ r ∈ (w.run steps).dispatches s,
      p.2.generation ≤ r.generation := by
    intro p hp r hr
    rw [generation_of_mem_dispatches hr]
    exact h.generation_le hp
  cases (w.run steps).asks s with
  | nothing none same =>
    rw [none, List.map_nil, List.append_nil]
    exact ordered
  | one one marks cause =>
    rw [one] at hle ⊢
    refine List.pairwise_append.mpr ⟨ordered, List.pairwise_singleton _ _, ?_⟩
    intro p hp q hq
    cases List.mem_singleton.mp hq
    exact hle p hp _ (List.mem_singleton.mpr rfl)

theorem fresh_of_handled {q : Request} (h : w.handled s = some (.fired q))
    (hr : r ∈ w.dispatches s) : w.session.dispatched ≠ some w.session.generation := by
  cases w.asks s with
  | nothing none same =>
    rw [none] at hr
    cases hr
  | one one marks cause =>
    rcases cause with hf | hfresh
    · cases s with
      | input | start | outputHeight | draw | elapse => cases h
      | deliver | forge => cases hf
    · exact hfresh

/-- A step uses up what can still be dispatched unforced by what it dispatches unforced. -/
theorem unforced_step (s : Step) (hg : (w.step s).session.generation = w.session.generation) :
    (w.dispatches s).length + (w.step s).unforced ≤
      w.unforced + if s.refreshes then 1 else 0 := by
  unfold unforced
  rw [hg]
  cases w.asks s with
  | nothing none same =>
    rw [none, same]
    simp
  | one one marks cause =>
    rw [one, marks]
    rcases cause with hf | hfresh
    · simp [hf]
    · simp [hfresh]

theorem length_log_le (w : World) (steps : List Step)
    (hg : (w.run steps).session.generation = w.session.generation) :
    (w.log steps).length + (w.run steps).unforced ≤
      w.unforced + steps.countP Step.refreshes := by
  induction steps using List.reverseRecOn with
  | nil => exact Nat.le_of_eq (Nat.add_comm _ _)
  | append_singleton steps s ih =>
    rw [run_concat] at hg ⊢
    have hfirst := (w.run_generation steps).1
    have hlast := (w.run steps).step_generation_le s
    have hsame : (w.run steps).session.generation = w.session.generation := by omega
    have hstep := (w.run steps).unforced_step s (hg.trans hsame.symm)
    have hrun := ih hsame
    rw [log_concat, List.length_append, List.length_map, List.countP_append,
      List.countP_singleton]
    omega

theorem unforced_le_one (w : World) : w.unforced ≤ 1 := by
  unfold unforced
  split <;> omega

section

variable (clock : Clock) (initial : String) (debounce deadline : Nat) (analyzer : Analyzer)
variable (steps : List Step)

theorem ledger_run : (open_ clock initial debounce deadline analyzer).Ledger steps := by
  induction steps using List.reverseRecOn with
  | nil => exact ⟨nofun, nofun⟩
  | append_singleton steps s ih => exact ih.step s

theorem ordered_run : ((open_ clock initial debounce deadline analyzer).log steps).Pairwise
    (·.2.generation ≤ ·.2.generation) := by
  induction steps using List.reverseRecOn with
  | nil => exact List.Pairwise.nil
  | append_singleton steps s ih =>
    exact (ledger_run clock initial debounce deadline analyzer steps).ordered ih

/-- In every run, also with events from elsewhere, the generations of the dispatches never fall, a
fire leads only to the first analysis of the present generation, and between two edits there is at
most one analysis more than forced ones. -/
theorem dispatches_disciplined :
    (open_ clock initial debounce deadline analyzer).Disciplined steps := by
  have hledger := ledger_run clock initial debounce deadline analyzer steps
  refine ⟨ordered_run clock initial debounce deadline analyzer steps, ?_, ?_, ?_⟩
  · intro s q hq r hr p hp
    have hfresh := fresh_of_handled hq hr
    have hle := hledger.generation_le hp
    rw [generation_of_mem_dispatches hr]
    have hne := mt (hledger.dispatched_eq hp) hfresh
    omega
  · rintro q (hq | ⟨p, hp, hpq⟩)
    · exact handle_of_drop (Or.inl hq)
    · by_cases hq : q.generation =
          ((open_ clock initial debounce deadline analyzer).run steps).session.generation
      · refine handle_of_drop (Or.inr ?_)
        rw [hq]
        exact hledger.dispatched_eq hp (hpq.trans hq)
      · exact handle_of_drop (Or.inl hq)
  · intro more hmore
    have hplaced := run_placed (w := open_ clock initial debounce deadline analyzer)
      (Editor.placed_ofText initial) steps
    rw [edited_iff hplaced] at hmore
    have hle := (((open_ clock initial debounce deadline analyzer).run steps).run_generation more).1
    have hlog := ((open_ clock initial debounce deadline analyzer).run steps).length_log_le more
      (by omega)
    have hone := ((open_ clock initial debounce deadline analyzer).run steps).unforced_le_one
    omega

end

end LiveTemplate.World
