import LiveTemplate.Analysis.Dispatcher

namespace LiveTemplate

namespace Reply

/-- Whether the clock can tell when a call that begins at `now` is answered, and its deadline. -/
def ToldBy (clock : Clock) (now deadline : Nat) : Reply → Prop
  | after delay _ => now + delay ≤ clock.last ∧ now + deadline ≤ clock.last
  | never => now + deadline ≤ clock.last

variable {clock : Clock} {now deadline : Nat} {reply : Reply}

theorem within_of_told (h : reply.ToldBy clock now deadline) :
    reply.within (clock.wait now) deadline = reply.within (fun ms => ms) deadline := by
  cases reply with
  | after delay outcome => rw [within, within, clock.wait_eq h.1, clock.wait_eq h.2]
  | never => rfl

theorem duration_of_told (h : reply.ToldBy clock now deadline) :
    reply.duration (clock.wait now) deadline = reply.duration (fun ms => ms) deadline := by
  cases reply with
  | after delay outcome => rw [duration, duration, clock.wait_eq h.1, clock.wait_eq h.2]
  | never => exact clock.wait_eq h

end Reply

section

variable (clock : Clock) (analyzer : Analyzer) (deadline call now : Nat) (r : Request)

theorem generation_analyze :
    (analyze clock analyzer deadline call now r).result.generation = r.generation := by
  unfold analyze
  split
  next => rfl
  next => exact Result.generation_ofOutcome r _ _

theorem content_analyze :
    (analyze clock analyzer deadline call now r).result.content = r.content := by
  unfold analyze
  split
  next => rfl
  next => exact Result.content_ofOutcome r _ _

theorem calls_analyze : (analyze clock analyzer deadline call now r).calls =
    if r.isBlank then none else some r.content := by
  unfold analyze
  split <;> rfl

end

namespace Dispatcher

/-- The analyses of requests that begin one after the other, from call number `call` on. -/
def begun (clock : Clock) (analyzer : Analyzer) (deadline now : Nat) :
    Nat → List Request → List Cycle
  | _, [] => []
  | call, r :: rs =>
    let cycle := analyze clock analyzer deadline call now r
    cycle :: begun clock analyzer deadline now (call + cycle.calls.toList.length) rs

variable {clock : Clock} {analyzer : Analyzer} {deadline now call : Nat} {rs : List Request}

theorem foldl_beginOne (d : Dispatcher) :
    rs.foldl (beginOne now) d = { d with
      running := d.running ++ begun d.clock d.analyzer d.deadline now d.calls.length rs
      calls := d.calls ++
        (begun d.clock d.analyzer d.deadline now d.calls.length rs).filterMap Cycle.calls } := by
  induction rs generalizing d with
  | nil => simp [begun]
  | cons r rs ih =>
    rw [List.foldl_cons, ih]
    cases hc : (analyze d.clock d.analyzer d.deadline d.calls.length now r).calls <;>
      simp [beginOne, begun, hc]

theorem begin_eq_begun (d : Dispatcher) (now : Nat) :
    d.begin now = { d with
      waiting := []
      running := d.running ++ begun d.clock d.analyzer d.deadline now d.calls.length d.waiting
      calls := d.calls ++
        (begun d.clock d.analyzer d.deadline now d.calls.length d.waiting).filterMap
          Cycle.calls } :=
  foldl_beginOne _

theorem calls_begun :
    (begun clock analyzer deadline now call rs).filterMap Cycle.calls =
      (rs.filter (¬ ·.isBlank)).map Request.content := by
  induction rs generalizing call with
  | nil => rfl
  | cons r rs ih =>
    by_cases hb : r.isBlank = true
    · simp [begun, calls_analyze, hb, ih]
    · simp [begun, calls_analyze, hb, ih]

theorem calls_begin (d : Dispatcher) (now : Nat) :
    (d.begin now).calls = d.calls ++ (d.waiting.filter (¬ ·.isBlank)).map Request.content := by
  rw [begin_eq_begun, calls_begun]

/-- What begins belongs to a request, and its call is among the calls made then. -/
theorem exists_request_of_mem_begun {c : Cycle}
    (h : c ∈ begun clock analyzer deadline now call rs) :
    ∃ r ∈ rs, ∃ k, c = analyze clock analyzer deadline (call + k) now r ∧
      (¬ r.isBlank →
        ((begun clock analyzer deadline now call rs).filterMap Cycle.calls)[k]? =
          some r.content) := by
  induction rs generalizing call with
  | nil => cases h
  | cons r rs ih =>
    rcases List.mem_cons.mp h with rfl | h
    · refine ⟨r, List.mem_cons_self, 0, rfl, fun hb => ?_⟩
      simp [begun, calls_analyze, hb]
    · obtain ⟨q, hq, k, hk, hcall⟩ := ih h
      refine ⟨q, List.mem_cons_of_mem r hq,
        (analyze clock analyzer deadline call now r).calls.toList.length + k, ?_, fun hb => ?_⟩
      · rw [← Nat.add_assoc]
        exact hk
      · have hrest := hcall hb
        cases hr : (analyze clock analyzer deadline call now r).calls with
        | none => simpa [begun, hr] using hrest
        | some content => simpa [begun, hr, Nat.add_comm 1 k] using hrest

theorem exists_mem_begun {r : Request} (h : r ∈ rs) (call : Nat) :
    ∃ c ∈ begun clock analyzer deadline now call rs, c.result.generation = r.generation := by
  induction rs generalizing call with
  | nil => cases h
  | cons q rs ih =>
    rcases List.mem_cons.mp h with rfl | h
    · exact ⟨_, List.mem_cons_self, generation_analyze clock analyzer deadline call now r⟩
    · obtain ⟨c, hc, hg⟩ := ih h
        (call + (analyze clock analyzer deadline call now q).calls.toList.length)
      exact ⟨c, List.mem_cons_of_mem _ hc, hg⟩

theorem mem_ended {d : Dispatcher} {time : Nat} {c : Cycle} :
    c ∈ d.ended time ↔ c ∈ d.running ∧ c.finish ≤ time := by
  rw [ended, List.mem_mergeSort, List.mem_filter, decide_eq_true_iff]

theorem mem_running_pass {d : Dispatcher} {time : Nat} {c : Cycle} :
    c ∈ (d.pass time).running ↔ c ∈ d.running ∧ time < c.finish := by
  simp [pass]

end Dispatcher
end LiveTemplate
