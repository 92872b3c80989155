import LiveTemplate.Proofs.World.Display
import LiveTemplate.Proofs.World.InFlight
import LiveTemplate.Proofs.World.Overtaking

namespace LiveTemplate

/-- Two results that show the same. -/
structure Result.Alike (q r : Result) : Prop where
  generation : q.generation = r.generation
  outputs : q.outputs = r.outputs
  status : q.status = r.status
  info : q.info = r.info

namespace Session

/-- Events whose order does not matter to a session: those of its generation ask for one analysis
and show one result, and no result comes that was not waited for. -/
structure Expects (s : Session) (es : List Event) : Prop where
  counted : completions es ≤ s.inFlight
  fires : ∀ q r, .fired q ∈ es → .fired r ∈ es → q.generation = s.generation →
    r.generation = s.generation → q.task = r.task
  results : ∀ q r, .completed q ∈ es → .completed r ∈ es → q.generation = s.generation →
    r.generation = s.generation → q.Alike r

variable {s : Session} {e : Event} {es fs : List Event}

theorem Expects.perm (h : s.Expects es) (hp : es.Perm fs) : s.Expects fs := by
  refine ⟨?_, ?_, ?_⟩
  · rw [completions, ← hp.countP_eq]
    exact h.counted
  · intro q r hq hr
    exact h.fires q r (hp.mem_iff.mpr hq) (hp.mem_iff.mpr hr)
  · intro q r hq hr
    exact h.results q r (hp.mem_iff.mpr hq) (hp.mem_iff.mpr hr)

theorem Expects.of_generation {t : Session} (h : s.Expects (e :: es))
    (hg : t.generation = s.generation) (hn : completions es ≤ t.inFlight) : t.Expects es := by
  refine ⟨hn, ?_, ?_⟩
  · intro q r hq hr
    rw [hg]
    exact h.fires q r (List.mem_cons_of_mem e hq) (List.mem_cons_of_mem e hr)
  · intro q r hq hr
    rw [hg]
    exact h.results q r (List.mem_cons_of_mem e hq) (List.mem_cons_of_mem e hr)

theorem Expects.handleEvent (h : s.Expects (e :: es)) : (s.handleEvent e).1.Expects es := by
  have hn := h.counted
  have ha := s.answer e
  generalize s.handleEvent e = p at ha ⊢
  cases ha with
  | drop outdated => exact h.of_generation rfl hn
  | launch current fresh => exact h.of_generation rfl (Nat.le_succ_of_le hn)
  | discard outdated =>
    rw [completions_completed] at hn
    exact h.of_generation rfl (Nat.le_sub_of_add_le hn)
  | accept current =>
    rw [completions_completed] at hn
    exact h.of_generation rfl (Nat.le_sub_of_add_le hn)

end Session

namespace World

/-- Two worlds that differ at most in when the requests that wait were made. -/
structure Like (v w : World) : Prop where
  session : v.session = w.session
  now : v.now = w.now
  debouncer : v.debouncer = w.debouncer
  queue : v.queue = w.queue
  analyses : { v.dispatcher with waiting := [] } = { w.dispatcher with waiting := [] }
  tasks : v.dispatcher.waiting.map Request.task = w.dispatcher.waiting.map Request.task

/-- The world after these events were handed over one after the other, with nothing left queued. -/
def handOver (w : World) (es : List Event) : World := es.foldl handle { w with queue := [] }

variable {u v w : World} {steps : List Step} {e : Event} {es fs : List Event}

theorem Like.refl (w : World) : w.Like w := ⟨rfl, rfl, rfl, rfl, rfl, rfl⟩

theorem Like.trans (h : u.Like v) (h' : v.Like w) : u.Like w :=
  ⟨h.session.trans h'.session, h.now.trans h'.now, h.debouncer.trans h'.debouncer,
    h.queue.trans h'.queue, h.analyses.trans h'.analyses, h.tasks.trans h'.tasks⟩

theorem Like.handle (h : v.Like w) (e : Event) : (v.handle e).Like (w.handle e) := by
  unfold World.handle
  rw [← h.session]
  have ha := v.session.answer e
  generalize v.session.handleEvent e = p at ha ⊢
  cases ha with
  | launch current fresh =>
    refine ⟨rfl, h.now, h.debouncer, h.queue, h.analyses, ?_⟩
    simp only [takeOver, Session.dispatch, List.foldl_cons, List.foldl_nil, perform,
      Dispatcher.dispatch, List.map_append, h.tasks]
  | drop | discard | accept => exact ⟨rfl, h.now, h.debouncer, h.queue, h.analyses, h.tasks⟩

theorem Like.foldl (h : v.Like w) (es : List Event) :
    (es.foldl World.handle v).Like (es.foldl World.handle w) := by
  induction es generalizing v w with
  | nil => exact h
  | cons e es ih => exact ih (h.handle e)

section

variable {q r : Request} {a b : Result}

end

theorem handle_queue (w : World) (queue : List Event) (e : Event) :
    handle { w with queue := queue } e = { w.handle e with queue := queue } := by
  unfold handle
  have ha := w.session.answer e
  dsimp only
  generalize w.session.handleEvent e = p at ha ⊢
  cases ha <;> rfl

/-- Handing over all that is queued, in any order, is a run of deliveries. -/
theorem exists_deliveries (h : es.Perm w.queue) :
    ∃ is : List Nat, w.handOver es = w.run (is.map .deliver) := by
  induction es generalizing w with
  | nil =>
    refine ⟨[], ?_⟩
    show { w with queue := [] } = w
    rw [← List.nil_perm.mp h]
  | cons e es ih =>
    obtain ⟨i, hi, he⟩ := List.getElem_of_mem (h.mem_iff.mp List.mem_cons_self)
    have hdeliver : w.deliver i = { w.handle e with queue := w.queue.eraseIdx i } := by
      rw [deliver, List.getElem?_eq_getElem hi, he]
      exact w.handle_queue _ e
    have hrest : es.Perm (w.deliver i).queue := by
      rw [hdeliver]
      refine (List.perm_cons e).mp (h.trans ?_)
      rw [← he]
      exact (List.getElem_cons_eraseIdx_perm hi).symm
    obtain ⟨is, his⟩ := ih hrest
    refine ⟨i :: is, ?_⟩
    rw [List.map_cons, run, List.foldl_cons]
    refine Eq.trans ?_ his
    rw [handOver, handOver, List.foldl_cons, handle_queue, hdeliver]

section

variable (clock : Clock) (initial : String) (debounce deadline : Nat) (analyzer : Analyzer)

end

end World
end LiveTemplate
