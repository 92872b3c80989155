import LiveTemplate.Proofs.World.Display

namespace LiveTemplate.World

/-- An analysis of a generation was dispatched and its result was not delivered. -/
inductive Analyzing (w : World) (generation : Nat) : Prop where
  | waiting {r : Request} (mem : r ∈ w.dispatcher.waiting) (eq : r.generation = generation) :
      Analyzing w generation
  | brought {r : Result} (brings : w.Brings r) (eq : r.generation = generation) :
      Analyzing w generation

/-- Something will update what is shown of the present generation. -/
inductive Underway (w : World) : Prop where
  | armed {t : Timer} (armed : w.debouncer.timer = some t)
      (current : t.request.generation = w.session.generation) : Underway w
  | fired {r : Request} (sent : .fired r ∈ w.queue)
      (current : r.generation = w.session.generation)
      (fresh : w.session.dispatched ≠ some r.generation) : Underway w
  | analyzing (analyzing : w.Analyzing w.session.generation) : Underway w

/-- Nothing happens any more unless a key does it. -/
structure Idle (w : World) : Prop where
  timer : w.debouncer.timer = none
  queue : w.queue = []
  waiting : w.dispatcher.waiting = []
  running : w.dispatcher.running = []

/-- What is pending is still to come, and once nothing happens any more the tabs show a result for
the text as it stands. -/
structure LosesNothing (w : World) : Prop where
  underway : w.session.isPending → w.Underway
  shown : w.Idle → w.session.isPending = false ∧ ∃ r, w.session.Shows r ∧
    r.generation = w.session.generation ∧ r.content = w.session.editor.value ∧ w.Gives r

/-- A generation that was dispatched and is still pending is being analyzed. -/
structure Followed (w : World) : Prop where
  dispatched_le : ∀ g, w.session.dispatched = some g → g ≤ w.session.generation
  analyzing : w.session.dispatched = some w.session.generation → w.session.isPending →
    w.Analyzing w.session.generation

variable {w v : World} {ds : List Request} {generation : Nat}

theorem eq_or_mem_eraseIdx {α : Type} {l : List α} {i : Nat} {x y : α} (hx : l[i]? = some x)
    (hy : y ∈ l) : y = x ∨ y ∈ l.eraseIdx i := by
  obtain ⟨j, hj⟩ := List.mem_iff_getElem?.mp hy
  by_cases hij : j = i
  · rw [hij, hx] at hj
    exact Or.inl (Option.some.inj hj).symm
  · exact Or.inr (List.mem_eraseIdx_iff_getElem?.mpr ⟨j, hij, hj⟩)

theorem Analyzing.of_subset (h : w.Analyzing generation)
    (hq : ∀ r, .completed r ∈ w.queue → r.generation = generation → .completed r ∈ v.queue)
    (hw : ∀ r ∈ w.dispatcher.waiting, r ∈ v.dispatcher.waiting)
    (hc : w.dispatcher.running = v.dispatcher.running) : v.Analyzing generation := by
  cases h with
  | waiting mem eq => exact .waiting (hw _ mem) eq
  | brought brings eq =>
    cases brings with
    | running mem eq' => exact .brought (.running (hc ▸ mem) eq') eq
    | completed sent => exact .brought (.completed (hq _ sent eq)) eq

theorem Analyzing.passTo (h : w.Analyzing generation) (time : Nat) :
    (w.passTo time).Analyzing generation := by
  have begun : ∀ {c : Cycle}, c ∈ (w.dispatcher.begin w.now).running →
      c.result.generation = generation → (w.passTo time).Analyzing generation :=
    fun hc eq => .brought (brings_passTo.mpr (Or.inl ⟨_, hc, rfl⟩)) eq
  rw [w.dispatcher.begin_eq_begun w.now] at begun
  cases h with
  | waiting mem eq =>
    obtain ⟨c, hc, hg⟩ := Dispatcher.exists_mem_begun mem w.dispatcher.calls.length
    exact begun (List.mem_append_right _ hc) (hg.trans eq)
  | brought brings eq =>
    cases brings with
    | running mem eq' =>
      subst eq'
      exact begun (List.mem_append_left _ mem) eq
    | completed sent => exact .brought (brings_passTo.mpr (Or.inr sent)) eq

theorem isPending_eq (w : World) :
    w.session.isPending = true ↔ w.session.applied ≠ some w.session.generation := by
  rw [Session.isPending, decide_eq_true_iff]

theorem Analyzing.change (h : w.Analyzing w.session.generation) (hc : w.Change ds v)
    (hg : v.session.generation = w.session.generation) (hp : v.session.isPending) :
    v.Analyzing v.session.generation := by
  rw [hg]
  rw [isPending_eq] at hp
  cases hc with
  | view same => exact h.of_subset (fun _ hq _ => hq) (fun _ => id) rfl
  | settle revises blank => exact absurd rfl hp
  | arm revises some =>
    exact h.of_subset (fun _ hq _ => completed_mem_withdraw hq) (fun _ => id) rfl
  | force some =>
    exact h.of_subset (fun _ hq _ => completed_mem_withdraw hq)
      (fun _ => List.mem_append_left _) rfl
  | leave => exact h.of_subset (fun _ hq _ => completed_mem_withdraw hq) (fun _ => id) rfl
  | pass later => exact h.passTo _
  | deliver delivery =>
    cases delivery with
    | absent none => exact h
    | drop sent outdated =>
      refine h.of_subset (fun r hq _ => ?_) (fun _ => id) rfl
      exact (eq_or_mem_eraseIdx sent hq).resolve_left nofun
    | launch sent current fresh =>
      refine h.of_subset (fun r hq _ => ?_) (fun _ => List.mem_append_left _) rfl
      exact (eq_or_mem_eraseIdx sent hq).resolve_left nofun
    | discard sent outdated =>
      refine h.of_subset (fun r hq heq => ?_) (fun _ => id) rfl
      refine (eq_or_mem_eraseIdx sent hq).resolve_left fun he => ?_
      cases he
      exact outdated heq
    | accept sent current => exact absurd (congrArg some current) hp

theorem Change.dispatched (h : w.Change ds v) :
    v.session.dispatched = w.session.dispatched ∨
      v.session.dispatched = some v.session.generation ∧ v.Analyzing v.session.generation := by
  have waits : ∀ {r : Request}, r ∈ w.dispatcher.waiting ++ [r] := by simp
  cases h with
  | view same => exact Or.inl same.dispatched
  | settle revises blank => cases revises <;> exact Or.inl rfl
  | arm revises some => cases revises <;> exact Or.inl rfl
  | force some => exact Or.inr ⟨rfl, .waiting waits rfl⟩
  | leave | pass => exact Or.inl rfl
  | deliver delivery =>
    cases delivery with
    | launch sent current fresh =>
      exact Or.inr ⟨congrArg Option.some current, .waiting waits current⟩
    | absent | drop | discard | accept => exact Or.inl rfl

theorem Change.pending (h : w.Change ds v) (hg : v.session.generation = w.session.generation)
    (hp : v.session.isPending) : w.session.isPending := by
  rw [isPending_eq] at hp ⊢
  rcases h.display with same | ⟨r, hr, hrg, _⟩
  · rw [← hg, ← same.applied]
    exact hp
  · rw [hr.applied, hrg] at hp
    exact absurd rfl hp

theorem Followed.change (h : w.Followed) (hc : w.Change ds v) : v.Followed := by
  have hgen := hc.generation
  rcases hc.dispatched with hd | ⟨hd, ha⟩
  · refine ⟨?_, ?_⟩
    · intro g hg
      rw [hd] at hg
      have hle := h.dispatched_le g hg
      omega
    · intro hg hp
      rw [hd] at hg
      have hle := h.dispatched_le _ hg
      have hsame : v.session.generation = w.session.generation := by omega
      rw [hsame] at hg
      exact (h.analyzing hg (hc.pending hsame hp)).change hc hsame hp
  · refine ⟨?_, fun _ _ => ha⟩
    intro g hg
    rw [hd] at hg
    cases hg
    exact Nat.le_refl _

theorem Underway.passTo (h : w.Underway) (hf : w.Followed) (hp : w.session.isPending)
    {time : Nat} : (w.passTo time).Underway := by
  cases h with
  | analyzing analyzing => exact .analyzing (analyzing.passTo time)
  | fired sent current fresh =>
    exact .fired (mem_queue_passTo.mpr (Or.inl sent)) current fresh
  | @armed t armed current =>
    by_cases hd : w.session.dispatched = some w.session.generation
    · exact .analyzing ((hf.analyzing hd hp).passTo time)
    · by_cases hdue : t.due ≤ time
      · refine .fired (mem_queue_passTo.mpr (Or.inr (Or.inr ⟨t, armed, hdue, rfl⟩))) current ?_
        rw [current]
        exact hd
      · refine .armed (t := t) ?_ current
        simp [World.passTo, Debouncer.pass, Debouncer.due?, armed, hdue]

/-- A change loses nothing that is under way, unless the session is left. -/
theorem Underway.change (h : w.session.isPending → w.Underway) (hf : w.Followed)
    (hc : w.Change ds v) (hp : v.session.isPending) (hq : v.session.quit = false) :
    v.Underway := by
  have before := fun hg => h (hc.pending hg hp)
  have kept := fun (ha : w.Analyzing w.session.generation) hg => ha.change hc hg hp
  have waits : ∀ {r : Request}, r ∈ w.dispatcher.waiting ++ [r] := by simp
  cases hc with
  | settle revises blank => exact absurd rfl ((isPending_eq _).mp hp)
  | arm revises some => exact .armed rfl rfl
  | leave => cases hq
  | force some => exact .analyzing (.waiting waits rfl)
  | pass later => exact (before rfl).passTo hf hp
  | view same =>
    cases before same.generation with
    | armed armed current => exact .armed armed (current.trans same.generation.symm)
    | fired sent current fresh =>
      exact .fired sent (current.trans same.generation.symm) (by rwa [same.dispatched])
    | analyzing analyzing => exact .analyzing (kept analyzing same.generation)
  | deliver delivery =>
    cases delivery with
    | absent none => exact before rfl
    | launch sent current fresh => exact .analyzing (.waiting waits current)
    | accept sent current => exact absurd (congrArg some current) ((isPending_eq _).mp hp)
    | drop sent outdated =>
      cases before rfl with
      | armed armed current => exact .armed armed current
      | fired sent' current fresh =>
        rcases eq_or_mem_eraseIdx sent sent' with he | hmem
        · cases he
          rcases outdated with hne | hd
          · exact absurd current hne
          · exact absurd hd fresh
        · exact .fired hmem current fresh
      | analyzing analyzing => exact .analyzing (kept analyzing rfl)
    | discard sent outdated =>
      cases before rfl with
      | armed armed current => exact .armed armed current
      | fired sent' current fresh =>
        exact .fired ((eq_or_mem_eraseIdx sent sent').resolve_left nofun) current fresh
      | analyzing analyzing => exact .analyzing (kept analyzing rfl)

theorem Change.quit (h : w.Change ds v) (hq : w.session.quit = true) : v.session.quit = true := by
  cases h with
  | view same => exact same.quit.trans hq
  | settle revises blank => cases revises <;> exact hq
  | arm revises some => cases revises <;> exact hq
  | leave => rfl
  | force | pass => exact hq
  | deliver delivery => cases delivery <;> exact hq

theorem Idle.not_underway (h : w.Idle) : ¬ w.Underway := by
  obtain ⟨htimer, hqueue, hwaiting, hrunning⟩ := h
  intro hu
  cases hu with
  | armed armed current =>
    rw [htimer] at armed
    cases armed
  | fired sent current fresh =>
    rw [hqueue] at sent
    cases sent
  | analyzing analyzing =>
    cases analyzing with
    | waiting mem eq =>
      rw [hwaiting] at mem
      cases mem
    | brought brings eq =>
      cases brings with
      | running mem eq' =>
        rw [hrunning] at mem
        cases mem
      | completed sent =>
        rw [hqueue] at sent
        cases sent

theorem underway_start (hp : (w.step .start).session.isPending) : (w.step .start).Underway := by
  have hstep : w.step .start = w.takeOver (w.session.schedule w.now) := rfl
  rw [hstep] at hp ⊢
  by_cases hb : (w.session.snapshot w.now).isBlank = true
  · rw [takeOver_schedule_of_blank hb] at hp
    exact absurd rfl ((isPending_eq _).mp hp)
  · rw [takeOver_schedule hb]
    exact .armed rfl rfl

section

variable (clock : Clock) (initial : String) (debounce deadline : Nat) (analyzer : Analyzer)
variable {steps : List Step}

theorem followed_run (h : Closed steps) :
    ((open_ clock initial debounce deadline analyzer).run steps).Followed := by
  induction steps using List.reverseRecOn with
  | nil => exact ⟨nofun, nofun⟩
  | append_singleton steps s ih =>
    obtain ⟨hc, hs⟩ := h.of_concat
    exact (ih hc).change (change_run _ steps hs)

theorem underway_run (h : Closed steps) (started : .start ∈ steps)
    (hq : ((open_ clock initial debounce deadline analyzer).run steps).session.quit = false)
    (hp : ((open_ clock initial debounce deadline analyzer).run steps).session.isPending) :
    ((open_ clock initial debounce deadline analyzer).run steps).Underway := by
  induction steps using List.reverseRecOn with
  | nil => cases started
  | append_singleton steps s ih =>
    obtain ⟨hc, hs⟩ := h.of_concat
    have hchange := (open_ clock initial debounce deadline analyzer).change_run steps hs
    rcases List.mem_append.mp started with started | started
    · have hq' := mt hchange.quit (Bool.eq_false_iff.mp hq)
      exact Underway.change (ih hc started (Bool.eq_false_iff.mpr hq'))
        (followed_run clock initial debounce deadline analyzer hc) hchange hp hq
    · cases List.mem_singleton.mp started
      rw [run_concat] at hp ⊢
      exact underway_start hp

/-- In a session that was started and not left nothing under way is lost. -/
theorem nothing_lost (h : Closed steps) (started : .start ∈ steps)
    (hq : ((open_ clock initial debounce deadline analyzer).run steps).session.quit = false) :
    ((open_ clock initial debounce deadline analyzer).run steps).LosesNothing := by
  have ht := traced_run clock initial debounce deadline analyzer h
  have hu := underway_run clock initial debounce deadline analyzer h started hq
  refine ⟨hu, fun idle => ?_⟩
  have hp := mt hu idle.not_underway
  rw [Bool.not_eq_true] at hp
  exact ⟨hp, ht.current hp⟩

end

theorem nothing_lost_firstLetter :
    Closed firstLetter ∧ .start ∈ firstLetter ∧
      ((open_ .nanoseconds "" 5 1000 fun _ _ => .after 0 (.error (.timedOut 0))).run
        firstLetter).session.quit = false ∧
      ((open_ .nanoseconds "" 5 1000 fun _ _ => .after 0 (.error (.timedOut 0))).run
        firstLetter).LosesNothing := by
  have h : Closed firstLetter := by decide
  have started : .start ∈ firstLetter := by decide
  have hq : ((open_ .nanoseconds "" 5 1000 fun _ _ => .after 0 (.error (.timedOut 0))).run
      firstLetter).session.quit = false := by decide +kernel
  exact ⟨h, started, hq, nothing_lost .nanoseconds "" 5 1000 _ h started hq⟩

end LiveTemplate.World
