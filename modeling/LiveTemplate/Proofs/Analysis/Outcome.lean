import LiveTemplate.Proofs.Analysis.Completions

namespace LiveTemplate

/-- An answer that the deadline does not wait for. -/
def Reply.IsLate (measure : Nat → Nat) (deadline : Nat) : Reply → Prop
  | .after delay _ => measure deadline < measure delay
  | .never => True

/-- The analysis of a request of this age is what the analyzer's reply makes of it, if a wait takes
as long as measured. -/
structure Settles (measure : Nat → Nat) (reply : Reply) (deadline age : Nat) (r : Request)
    (c : Cycle) : Prop where
  generation : c.result.generation = r.generation
  content : c.result.content = r.content
  blank : isBlank r.content → c.calls = none ∧
    c.result = ⟨r.generation, r.content, .placeholders, .empty, none, 0⟩
  called : ¬ isBlank r.content → c.calls = some r.content
  elapsed : ¬ isBlank r.content → ∀ delay outcome, reply = .after delay outcome →
    c.result.elapsed = age + min (measure delay) (measure deadline)
  ready : ¬ isBlank r.content → ∀ delay p, reply = .after delay (.ok p) →
    measure delay ≤ measure deadline →
    c.result.outputs = p.outputs ∧ c.result.status = .ready ∧
      (c.result.info = none ↔ isBlank p.version) ∧
      ∀ m, c.result.info = some m → m.version = trimmed p.version ∧ m.durationMs = p.duration
  failed : ¬ isBlank r.content → ∀ delay f, reply = .after delay (.error f) →
    measure delay ≤ measure deadline →
    (∀ t, c.result.outputs.get t = f.userMessage) ∧ c.result.status = .failed f.kind ∧
      c.result.info = none
  late : ¬ isBlank r.content → reply.IsLate measure deadline →
    (∀ t, c.result.outputs.get t =
        "❌ Analysis failed: analyzer did not finish within " ++ toString deadline ++ " ms") ∧
      c.result.status = .failed .processFailure ∧ c.result.info = none ∧
      c.result.elapsed = age + measure deadline
  success : c.result.success = false ↔ ¬ isBlank r.content ∧
    (reply.IsLate measure deadline ∨ ∃ delay f, reply = .after delay (.error f))

variable {clock : Clock} {analyzer other : Analyzer} {measure : Nat → Nat} {reply : Reply}
variable {deadline call now : Nat} {r : Request}

theorem analyze_of_blank (h : isBlank r.content) :
    analyze clock analyzer deadline call now r = ⟨none, now, .placeholder r⟩ :=
  if_pos h

theorem analyze_of_not_blank (h : ¬ isBlank r.content) :
    analyze clock analyzer deadline call now r =
      ⟨some r.content, now + (analyzer call r.content).duration (clock.wait now) deadline,
        .ofOutcome r ((analyzer call r.content).within (clock.wait now) deadline)
          (now + (analyzer call r.content).duration (clock.wait now) deadline)⟩ :=
  if_neg h

/-- The analyzer matters by its reply to this one call, and for a blank template not at all. -/
theorem analyze_congr
    (h : ¬ isBlank r.content → other call r.content = analyzer call r.content) :
    analyze clock other deadline call now r = analyze clock analyzer deadline call now r := by
  by_cases hb : isBlank r.content
  · rw [analyze_of_blank hb, analyze_of_blank hb]
  · rw [analyze_of_not_blank hb, analyze_of_not_blank hb, h hb]

namespace Reply

theorem within_of_le {delay : Nat} {outcome : Except Failure Payload}
    (h : measure delay ≤ measure deadline) :
    (after delay outcome).within measure deadline = outcome :=
  if_pos h

theorem within_of_late (h : reply.IsLate measure deadline) :
    reply.within measure deadline = .error (.timedOut (deadline * 1000000)) := by
  cases reply with
  | after delay outcome => exact if_neg (Nat.not_le.mpr h)
  | never => rfl

theorem duration_of_late (h : reply.IsLate measure deadline) :
    reply.duration measure deadline = measure deadline := by
  cases reply with
  | after delay outcome => exact Nat.min_eq_right (Nat.le_of_lt h)
  | never => rfl

theorem within_eq_error_iff : (∃ f, reply.within measure deadline = .error f) ↔
    reply.IsLate measure deadline ∨ ∃ delay f, reply = .after delay (.error f) := by
  cases reply with
  | after delay outcome =>
    by_cases h : measure delay ≤ measure deadline
    · simp [within_of_le h, IsLate, Nat.not_lt.mpr h]
    · have hlate : (after delay outcome).IsLate measure deadline := Nat.not_le.mp h
      simp [within_of_late hlate, hlate]
  | never => simp [within, IsLate]

end Reply

theorem milliseconds_mul (ms : Nat) : Failure.milliseconds (ms * 1000000) = toString ms := by
  rw [Failure.milliseconds, Nat.mul_div_cancel ms (by omega)]

theorem userMessage_timedOut (nanoseconds : Nat) : (Failure.timedOut nanoseconds).userMessage =
    "❌ Analysis failed: analyzer did not finish within " ++ Failure.milliseconds nanoseconds ++
      " ms" :=
  rfl

theorem Payload.info?_eq_none_iff (p : Payload) : p.info? = none ↔ isBlank p.version := by
  unfold info?
  split <;> simp_all

theorem Payload.info?_eq_some {p : Payload} {m : Meta} (h : p.info? = some m) :
    m = ⟨trimmed p.version, p.duration⟩ := by
  unfold info? at h
  split at h
  next => cases h
  next => exact (Option.some.inj h).symm

theorem Result.elapsed_ofOutcome (r : Request) (o : Except Failure Payload) (t : Nat) :
    (Result.ofOutcome r o t).elapsed = t - r.issuedAt := by
  cases o <;> rfl

theorem Result.success_ofOutcome (r : Request) (o : Except Failure Payload) (t : Nat) :
    (Result.ofOutcome r o t).success = false ↔ ∃ f, o = .error f := by
  cases o <;> simp [ofOutcome, ofPayload, ofFailure, success]

theorem settles_of_blank (h : isBlank r.content) (age : Nat) :
    Settles measure reply deadline age r ⟨none, now, .placeholder r⟩ where
  generation := rfl
  content := rfl
  blank _ := ⟨rfl, rfl⟩
  called hb := absurd h hb
  elapsed hb := absurd h hb
  ready hb := absurd h hb
  failed hb := absurd h hb
  late hb := absurd h hb
  success := by simp [h, Result.placeholder, Result.success]

theorem settles_of_not_blank (h : ¬ isBlank r.content) (age : Nat) :
    Settles measure reply deadline age r
      ⟨some r.content, r.issuedAt + age + reply.duration measure deadline,
        .ofOutcome r (reply.within measure deadline)
          (r.issuedAt + age + reply.duration measure deadline)⟩ where
  generation := Result.generation_ofOutcome r _ _
  content := Result.content_ofOutcome r _ _
  blank hb := absurd hb h
  called _ := rfl
  elapsed _ delay outcome hreply := by
    rw [Result.elapsed_ofOutcome, hreply, Reply.duration]
    omega
  ready _ delay p hreply hle := by
    rw [hreply, Reply.within_of_le hle]
    refine ⟨rfl, rfl, p.info?_eq_none_iff, fun m hm => ?_⟩
    rw [Payload.info?_eq_some hm]
    exact ⟨rfl, rfl⟩
  failed _ delay f hreply hle := by
    rw [hreply, Reply.within_of_le hle]
    exact ⟨Outputs.get_uniform f.userMessage, rfl, rfl⟩
  late _ hlate := by
    rw [Reply.within_of_late hlate, Reply.duration_of_late hlate, ← milliseconds_mul,
      ← userMessage_timedOut]
    refine ⟨Outputs.get_uniform _, rfl, rfl, ?_⟩
    rw [Result.elapsed_ofOutcome]
    omega
  success := by
    rw [Result.success_ofOutcome, Reply.within_eq_error_iff]
    exact (and_iff_right h).symm

/-- It is enough that the measure agrees with the clock on this one reply. -/
theorem settles_of_measured {age : Nat}
    (hwithin : (analyzer call r.content).within (clock.wait (r.issuedAt + age)) deadline =
      (analyzer call r.content).within measure deadline)
    (hduration : (analyzer call r.content).duration (clock.wait (r.issuedAt + age)) deadline =
      (analyzer call r.content).duration measure deadline) :
    Settles measure (analyzer call r.content) deadline age r
      (analyze clock analyzer deadline call (r.issuedAt + age) r) := by
  by_cases h : isBlank r.content
  · rw [analyze_of_blank h]
    exact settles_of_blank h age
  · rw [analyze_of_not_blank h, hwithin, hduration]
    exact settles_of_not_blank h age

/-- The analysis of a request is settled by the reply to its one call, with its waits begun when the
analysis is. A delay and a deadline whose ends the clock can tell take as long as they say. -/
theorem analyze_settles (clock : Clock) (analyzer : Analyzer) (deadline call age : Nat)
    (r : Request) :
    Settles (clock.wait (r.issuedAt + age)) (analyzer call r.content) deadline age r
        (analyze clock analyzer deadline call (r.issuedAt + age) r) ∧
      (∀ other : Analyzer,
        (¬ isBlank r.content → other call r.content = analyzer call r.content) →
        analyze clock other deadline call (r.issuedAt + age) r =
          analyze clock analyzer deadline call (r.issuedAt + age) r) ∧
      ((analyzer call r.content).ToldBy clock (r.issuedAt + age) deadline →
        Settles (fun ms => ms) (analyzer call r.content) deadline age r
          (analyze clock analyzer deadline call (r.issuedAt + age) r)) := by
  refine ⟨settles_of_measured rfl rfl, fun other => analyze_congr, fun told => ?_⟩
  exact settles_of_measured (Reply.within_of_told told) (Reply.duration_of_told told)

/-- A delay that the clock cannot tell the end of is put off, and over long before its time. -/
theorem not_settles_unmeasured : ¬ Settles (fun ms => ms)
    (Dispatcher.Run.unmeasured.analyzer 0 "x") 18446744073709551615 0 ⟨1, "x", 0⟩
    (analyze .nanoseconds Dispatcher.Run.unmeasured.analyzer 18446744073709551615 0 0
      ⟨1, "x", 0⟩) := by
  intro h
  have helapsed := h.elapsed (by decide) _ _ rfl
  revert helapsed
  decide +kernel

end LiveTemplate
