import LiveTemplate.Proofs.Analysis.Begun
import LiveTemplate.Proofs.World.Change

namespace LiveTemplate

structure Session.Shows (s : Session) (r : Result) : Prop where
  applied : s.applied = some r.generation
  outputs : s.outputs = r.outputs
  status : s.status = some r.status
  info : s.info = r.info

structure Session.SameDisplay (s t : Session) : Prop where
  applied : t.applied = s.applied
  outputs : t.outputs = s.outputs
  status : t.status = s.status
  info : t.info = s.info

theorem Session.shows_apply (s : Session) (r : Result) : (s.apply r).Shows r :=
  ⟨rfl, rfl, rfl, rfl⟩

theorem Session.SameWork.sameDisplay {s t : Session} (h : s.SameWork t) : s.SameDisplay t :=
  ⟨h.applied, h.outputs, h.status, h.info⟩

theorem Session.Revises.sameDisplay {s t : Session} (h : s.Revises t) : s.SameDisplay t := by
  cases h <;> exact ⟨rfl, rfl, rfl, rfl⟩

theorem Session.Shows.of_sameDisplay {s t : Session} {r : Result} (hs : s.Shows r)
    (h : s.SameDisplay t) : t.Shows r :=
  ⟨h.applied.trans hs.applied, h.outputs.trans hs.outputs, h.status.trans hs.status,
    h.info.trans hs.info⟩

/-- What a dispatcher keeps; calls are only added. -/
structure Dispatcher.GoesOn (d e : Dispatcher) : Prop where
  clock : e.clock = d.clock
  analyzer : e.analyzer = d.analyzer
  deadline : e.deadline = d.deadline
  calls : d.calls <+: e.calls

theorem Dispatcher.GoesOn.refl (d : Dispatcher) : d.GoesOn d :=
  ⟨rfl, rfl, rfl, List.prefix_refl _⟩

theorem Dispatcher.GoesOn.trans {d e f : Dispatcher} (h : d.GoesOn e) (h' : e.GoesOn f) :
    d.GoesOn f :=
  ⟨h'.clock.trans h.clock, h'.analyzer.trans h.analyzer, h'.deadline.trans h.deadline,
    h.calls.trans h'.calls⟩

theorem Dispatcher.goesOn_begin (d : Dispatcher) (now : Nat) : d.GoesOn (d.begin now) := by
  rw [d.begin_eq_begun now]
  exact ⟨rfl, rfl, rfl, List.prefix_append _ _⟩

namespace World

/-- A request that has not begun: the timer's, a fire's, or one that was dispatched and waits. -/
inductive Holds (w : World) (r : Request) : Prop where
  | timer {t : Timer} (armed : w.debouncer.timer = some t) (eq : t.request = r) : Holds w r
  | fired (sent : .fired r ∈ w.queue) : Holds w r
  | waiting (mem : r ∈ w.dispatcher.waiting) : Holds w r

/-- A result that was not delivered: of an analysis that runs, or in the queue. -/
inductive Brings (w : World) (r : Result) : Prop where
  | running {c : Cycle} (mem : c ∈ w.dispatcher.running) (eq : c.result = r) : Brings w r
  | completed (sent : .completed r ∈ w.queue) : Brings w r

/-- Whether a timer runs, or its fire waits to be sent. -/
def isArmed (w : World) : Bool :=
  w.debouncer.isArmed || (w.queue.drop queueRoom).any Event.isFire

variable {w v : World} {ds : List Request} {d : Debouncer} {cs : List Cycle} {time : Nat}

theorem mem_of_mem_withdraw {e : Event} (h : e ∈ w.withdraw.queue) : e ∈ w.queue := by
  rcases List.mem_append.mp h with h | h
  · exact List.mem_of_mem_take h
  · exact List.mem_of_mem_drop (List.mem_filter.mp h).1

theorem completed_mem_withdraw {r : Result} (h : .completed r ∈ w.queue) :
    .completed r ∈ w.withdraw.queue := by
  rw [← List.take_append_drop queueRoom w.queue] at h
  rcases List.mem_append.mp h with h | h
  · exact List.mem_append.mpr (Or.inl h)
  · exact List.mem_append.mpr (Or.inr (List.mem_filter.mpr ⟨h, rfl⟩))

theorem mem_results {e : Event} : e ∈ results cs ↔ ∃ c ∈ cs, e = .completed c.result := by
  simp [results, eq_comm]

theorem mem_sent {e : Event} : e ∈ sent d cs time ↔
    (∃ c ∈ cs, e = .completed c.result) ∨
      ∃ t, d.timer = some t ∧ t.due ≤ time ∧ e = .fired t.request := by
  unfold sent
  cases ht : d.timer with
  | none => simp [mem_results]
  | some t =>
    by_cases hd : t.due ≤ time
    · have hcs : e ∈ results (cs.takeWhile (·.finish ≤ t.due)) ∨
          e ∈ results (cs.dropWhile (·.finish ≤ t.due)) ↔ e ∈ results cs := by
        rw [← List.mem_append, results, results, ← List.map_append,
          List.takeWhile_append_dropWhile, results]
      simp only [hd, if_true, List.mem_append, List.mem_cons, Option.some.injEq, exists_eq_left',
        true_and]
      rw [← mem_results, ← hcs, or_assoc, or_comm (a := e = .fired t.request)]
    · simp [hd, mem_results]

theorem timer_of_pass {t : Timer} (h : (d.pass time).timer = some t) :
    d.timer = some t ∧ time < t.due := by
  unfold Debouncer.pass at h
  split at h
  next => cases h
  next hd =>
    refine ⟨h, ?_⟩
    simp only [Debouncer.due?, h] at hd
    by_cases hle : t.due ≤ time
    · simp [hle] at hd
    · omega

theorem mem_running_passTo {c : Cycle} : c ∈ (w.passTo time).dispatcher.running ↔
    c ∈ (w.dispatcher.begin w.now).running ∧ time < c.finish :=
  Dispatcher.mem_running_pass

theorem mem_queue_passTo {e : Event} : e ∈ (w.passTo time).queue ↔ e ∈ w.queue ∨
    (∃ c ∈ (w.dispatcher.begin w.now).running, c.finish ≤ time ∧ e = .completed c.result) ∨
      ∃ t, w.debouncer.timer = some t ∧ t.due ≤ time ∧ e = .fired t.request := by
  simp only [passTo, List.mem_append, mem_sent, Dispatcher.mem_ended, and_assoc]

theorem brings_passTo {r : Result} : (w.passTo time).Brings r ↔
    (∃ c ∈ (w.dispatcher.begin w.now).running, c.result = r) ∨ .completed r ∈ w.queue := by
  constructor
  · intro h
    cases h with
    | running mem eq => exact Or.inl ⟨_, (mem_running_passTo.mp mem).1, eq⟩
    | completed sent =>
      rcases mem_queue_passTo.mp sent with h | ⟨c, hc, _, he⟩ | ⟨t, _, _, he⟩
      · exact Or.inr h
      · exact Or.inl ⟨c, hc, (Event.completed.inj he).symm⟩
      · cases he
  · rintro (⟨c, hc, rfl⟩ | h)
    · by_cases hf : c.finish ≤ time
      · exact .completed (mem_queue_passTo.mpr (Or.inr (Or.inl ⟨c, hc, hf, rfl⟩)))
      · exact .running (mem_running_passTo.mpr ⟨hc, by omega⟩) rfl
    · exact .completed (mem_queue_passTo.mpr (Or.inl h))

theorem Holds.of_subset {r : Request} (hr : v.Holds r)
    (ht : ∀ t, v.debouncer.timer = some t → w.debouncer.timer = some t)
    (hq : ∀ e ∈ v.queue, e ∈ w.queue)
    (hw : ∀ q ∈ v.dispatcher.waiting, q ∈ w.dispatcher.waiting) : w.Holds r := by
  cases hr with
  | timer armed eq => exact .timer (ht _ armed) eq
  | fired sent => exact .fired (hq _ sent)
  | waiting mem => exact .waiting (hw _ mem)

theorem Brings.of_subset {r : Result} (hr : v.Brings r)
    (hq : ∀ e ∈ v.queue, e ∈ w.queue)
    (hc : ∀ c ∈ v.dispatcher.running, c ∈ w.dispatcher.running) : w.Brings r := by
  cases hr with
  | running mem eq => exact .running (hc _ mem) eq
  | completed sent => exact .completed (hq _ sent)

theorem holds_of_passTo {r : Request} (h : (w.passTo time).Holds r) : w.Holds r := by
  cases h with
  | timer armed eq => exact .timer (timer_of_pass armed).1 eq
  | fired sent =>
    rcases mem_queue_passTo.mp sent with h | ⟨c, _, _, he⟩ | ⟨t, ht, _, he⟩
    · exact .fired h
    · cases he
    · exact .timer ht (Event.fired.inj he).symm
  | waiting mem =>
    rw [passTo, w.dispatcher.begin_eq_begun w.now] at mem
    cases mem

/-- A request that is held was held before, or is the template as it now stands. -/
theorem Change.holds (h : w.Change ds v) {r : Request} (hr : v.Holds r) :
    w.Holds r ∨ r = v.session.snapshot w.now ∧ ¬ r.isBlank := by
  have taken : ∀ {i : Nat}, ∀ e ∈ w.queue.eraseIdx i, e ∈ w.queue :=
    fun _ => List.mem_of_mem_eraseIdx
  have withdrawn : ∀ e ∈ w.withdraw.queue, e ∈ w.queue := fun _ => mem_of_mem_withdraw
  cases h with
  | view same => exact Or.inl (hr.of_subset (fun _ => id) (fun _ => id) fun _ => id)
  | settle revises blank => exact Or.inl (hr.of_subset nofun withdrawn fun _ => id)
  | arm revises some =>
    cases hr with
    | timer armed eq =>
      cases armed
      cases eq
      exact Or.inr ⟨rfl, some⟩
    | fired sent => exact Or.inl (.fired (withdrawn _ sent))
    | waiting mem => exact Or.inl (.waiting mem)
  | force some =>
    cases hr with
    | timer armed eq => cases armed
    | fired sent => exact Or.inl (.fired (withdrawn _ sent))
    | waiting mem =>
      rcases List.mem_append.mp mem with mem | mem
      · exact Or.inl (.waiting mem)
      · cases List.mem_singleton.mp mem
        exact Or.inr ⟨rfl, some⟩
  | leave => exact Or.inl (hr.of_subset nofun withdrawn fun _ => id)
  | pass later => exact Or.inl (holds_of_passTo hr)
  | deliver delivery =>
    cases delivery with
    | absent none => exact Or.inl hr
    | launch sent current fresh =>
      cases hr with
      | timer armed eq => exact Or.inl (.timer armed eq)
      | fired sent => exact Or.inl (.fired (taken _ sent))
      | waiting mem =>
        rcases List.mem_append.mp mem with mem | mem
        · exact Or.inl (.waiting mem)
        · cases List.mem_singleton.mp mem
          exact Or.inl (.fired (List.mem_of_getElem? sent))
    | drop | discard | accept => exact Or.inl (hr.of_subset (fun _ => id) taken fun _ => id)

/-- A result that is brought was brought before, or comes from a request that was held: then it is
blank, or the analyzer was called with its content. -/
theorem Change.brings (h : w.Change ds v) {r : Result} (hr : v.Brings r) :
    w.Brings r ∨ ∃ c q k, w.Holds q ∧ c.result = r ∧
      c = analyze w.dispatcher.clock w.dispatcher.analyzer w.dispatcher.deadline k w.now q ∧
      (¬ q.isBlank → v.dispatcher.calls[k]? = some q.content) := by
  have taken : ∀ {i : Nat}, ∀ e ∈ w.queue.eraseIdx i, e ∈ w.queue :=
    fun _ => List.mem_of_mem_eraseIdx
  have withdrawn : ∀ e ∈ w.withdraw.queue, e ∈ w.queue := fun _ => mem_of_mem_withdraw
  cases h with
  | view => exact Or.inl (hr.of_subset (fun _ => id) fun _ => id)
  | settle | arm | force | leave => exact Or.inl (hr.of_subset withdrawn fun _ => id)
  | deliver delivery =>
    cases delivery with
    | absent none => exact Or.inl hr
    | drop | launch | discard | accept => exact Or.inl (hr.of_subset taken fun _ => id)
  | pass later =>
    rcases brings_passTo.mp hr with ⟨c, hc, rfl⟩ | hq
    · rw [w.dispatcher.begin_eq_begun w.now] at hc
      rcases List.mem_append.mp hc with hc | hc
      · exact Or.inl (.running hc rfl)
      · obtain ⟨q, hq, k, hk, hcall⟩ := Dispatcher.exists_request_of_mem_begun hc
        refine Or.inr ⟨c, q, _, .waiting hq, rfl, hk, fun hb => ?_⟩
        change (w.dispatcher.begin w.now).calls[_]? = _
        rw [w.dispatcher.begin_eq_begun w.now, List.getElem?_append_right (Nat.le_add_right _ _),
          Nat.add_sub_cancel_left]
        exact hcall hb
    · exact Or.inl (.completed hq)

theorem Change.dispatcher (h : w.Change ds v) : w.dispatcher.GoesOn v.dispatcher := by
  cases h with
  | pass later =>
    have hbegin := w.dispatcher.goesOn_begin w.now
    exact ⟨hbegin.clock, hbegin.analyzer, hbegin.deadline, hbegin.calls⟩
  | view | settle | arm | force | leave => exact ⟨rfl, rfl, rfl, List.prefix_refl _⟩
  | deliver delivery => cases delivery <;> exact ⟨rfl, rfl, rfl, List.prefix_refl _⟩

theorem Change.now_le (h : w.Change ds v) : w.now ≤ v.now := by
  cases h with
  | pass later => exact later
  | view | settle | arm | force | leave => exact Nat.le_refl _
  | deliver delivery => cases delivery <;> exact Nat.le_refl _

theorem Change.generation (h : w.Change ds v) :
    v.session.generation = w.session.generation ∧ v.session.editor.text = w.session.editor.text ∨
      v.session.generation = w.session.generation + 1 ∧
        (w.session.editor.Placed → v.session.editor.text ≠ w.session.editor.text) := by
  have revised : ∀ {t : Session}, w.session.Revises t →
      t.generation = w.session.generation ∧ t.editor.text = w.session.editor.text ∨
        t.generation = w.session.generation + 1 ∧
          (w.session.editor.Placed → t.editor.text ≠ w.session.editor.text) := by
    intro t ht
    cases ht with
    | same => exact Or.inl ⟨rfl, rfl⟩
    | edit h => exact Or.inr ⟨rfl, h.text_ne⟩
  cases h with
  | view same => exact Or.inl ⟨same.generation, same.text⟩
  | settle revises blank =>
    have ht := revised revises
    exact ht
  | arm revises some => exact revised revises
  | force | leave | pass => exact Or.inl ⟨rfl, rfl⟩
  | deliver delivery => cases delivery <;> exact Or.inl ⟨rfl, rfl⟩

theorem Change.placed (h : w.Change ds v) (hp : w.session.editor.Placed) :
    v.session.editor.Placed := by
  have revised : ∀ {t : Session}, w.session.Revises t → t.editor.Placed := by
    intro t ht
    cases ht with
    | same => exact hp
    | edit h => exact h.placed hp
  cases h with
  | view same => exact same.placed hp
  | settle revises blank =>
    have ht := revised revises
    exact ht
  | arm revises some => exact revised revises
  | force | leave | pass => exact hp
  | deliver delivery => cases delivery <;> exact hp

/-- What is shown stays, or becomes the placeholders of a blank template, or a result that was
brought for the template as it stands. -/
theorem Change.display (h : w.Change ds v) :
    w.session.SameDisplay v.session ∨
      ∃ r, v.session.Shows r ∧ r.generation = v.session.generation ∧
        (w.Brings r ∨ (v.session.snapshot w.now).isBlank ∧
          r = .placeholder (v.session.snapshot w.now)) := by
  cases h with
  | view same => exact Or.inl same.sameDisplay
  | settle revises blank =>
    exact Or.inr ⟨_, Session.shows_apply _ _, rfl, Or.inr ⟨blank, rfl⟩⟩
  | arm revises some => exact Or.inl revises.sameDisplay
  | force | leave | pass => exact Or.inl ⟨rfl, rfl, rfl, rfl⟩
  | deliver delivery =>
    cases delivery with
    | absent | drop | launch | discard => exact Or.inl ⟨rfl, rfl, rfl, rfl⟩
    | accept sent current =>
      exact Or.inr ⟨_, Session.shows_apply _ _, current,
        Or.inl (.completed (List.mem_of_getElem? sent))⟩

end World
end LiveTemplate
