import LiveTemplate.Debouncer
import Mathlib.Data.List.Basic

namespace LiveTemplate.Debouncer

/-- What an event tells of the template as it was when the timer was armed. -/
def snapshot (r : Request) : Nat × String := (r.generation, r.content)

namespace Step

/-- Whether a timer outlives a step unless it fires. -/
def isCalm : Step → Bool
  | wait _ => true
  | receive => true
  | arm _ _ => false
  | cancel => false
  | drop => false

/-- How long a step takes. -/
def span : Step → Nat
  | wait ms => ms
  | _ => 0

def isArm : Step → Bool
  | arm _ _ => true
  | _ => false

end Step

def time : List Step → Nat
  | [] => 0
  | s :: steps => s.span + time steps

/-- The waits that follow before the next arm, cancel or drop. -/
def waits : List Step → List Nat
  | .wait ms :: steps => ms :: waits steps
  | .receive :: steps => waits steps
  | _ => []

def total : List Nat → Nat
  | [] => 0
  | ms :: rest => ms + total rest

/-- Whether an arm is followed by a wait and, in all, by waits of at least `wait` before the next
arm, cancel or drop. -/
def Survives (wait : Nat) (after : List Step) : Prop :=
  waits after ≠ [] ∧ wait ≤ total (waits after)

instance (wait : Nat) (after : List Step) : Decidable (Survives wait after) :=
  inferInstanceAs (Decidable (_ ∧ _))

/-- The snapshots of the arms that survive in steps that begin at `now`, where an arm at a moment
waits as long as measured. A debouncer that was dropped is not armed again. -/
def survivors (measure : Nat → Nat) (now : Nat) : List Step → List (Nat × String)
  | [] => []
  | .arm generation content :: steps =>
    if Survives (measure now) steps then (generation, content) :: survivors measure now steps
    else survivors measure now steps
  | .cancel :: steps => survivors measure now steps
  | .wait ms :: steps => survivors measure (now + ms) steps
  | .receive :: steps => survivors measure now steps
  | .drop :: _ => []

/-- The last arm has neither fired nor been cancelled. -/
def LastLives (measure : Nat → Nat) (now : Nat) (steps : List Step) : Prop :=
  ∃ before generation content after, steps = before ++ .arm generation content :: after ∧
    .drop ∉ before ∧ (∀ s ∈ after, s.isCalm) ∧ ¬ Survives (measure (now + time before)) after

def Report.received : Report → List Request
  | .events requests => requests
  | .nothing => []
  | .cancelled _ => []

/-- Whether a timer fires in these steps if it runs at their begin. -/
def Fires (t : Timer) (now : Nat) (steps : List Step) : Prop :=
  waits steps ≠ [] ∧ t.due ≤ now + total (waits steps)

instance (t : Timer) (now : Nat) (steps : List Step) : Decidable (Fires t now steps) :=
  inferInstanceAs (Decidable (_ ∧ _))

namespace Run

def run (r : Run) (steps : List Step) : Run := steps.foldl (fun r s => (r.step s).1) r

def received (r : Run) : List Step → List Request
  | [] => []
  | s :: steps => (r.step s).2.received ++ (r.step s).1.received steps

/-- What has been sent at the end of some steps, whether it was received or not. -/
def delivered (r : Run) (steps : List Step) : List Request :=
  r.received steps ++ (r.run steps).fired

/-- A timer that is due in this step finds room. -/
def HasRoom (r : Run) : Step → Prop
  | .wait ms => (r.debouncer.bind (·.due? (r.now + ms))).isSome → r.fired.length < r.room
  | _ => True

/-- The receiver takes what was sent soon enough for every timer to find room. -/
def KeepsUp (r : Run) : List Step → Prop
  | [] => True
  | s :: steps => r.HasRoom s ∧ (r.step s).1.KeepsUp steps

/-- What a debouncer sends in some steps and how it answers after them, if an arm at a moment waits
as long as measured. -/
structure FiresSurvivors (measure : Nat → Nat) (clock : Clock) (room delay : Nat)
    (steps : List Step) : Prop where
  only : (((start clock room delay).delivered steps).map snapshot).Sublist
    (survivors measure 0 steps)
  delivered : (start clock room delay).KeepsUp steps →
    ((start clock room delay).delivered steps).map snapshot = survivors measure 0 steps
  onTime : (start clock room delay).KeepsUp steps → ∀ before generation content after,
    steps = before ++ .arm generation content :: after → .drop ∉ before →
    (∀ s ∈ after, s.isCalm) →
    ((start clock room delay).delivered steps).map snapshot =
      ((start clock room delay).delivered before).map snapshot ++
        if Survives (measure (time before)) after then [(generation, content)] else []
  split : ∀ before after m n, steps = before ++ .wait (m + n) :: after →
    (start clock room delay).delivered steps =
        (start clock room delay).delivered (before ++ .wait m :: .wait n :: after) ∧
      (start clock room delay).run steps =
        (start clock room delay).run (before ++ .wait m :: .wait n :: after)
  armed : (start clock room delay).KeepsUp steps →
    (((start clock room delay).run steps).isArmed = some true ↔ LastLives measure 0 steps)
  /-- Only one timer lives: left alone, it sends one event more at most, and none if not armed. -/
  single : ∀ more, (∀ s ∈ more, s.isCalm) → ∃ late,
    (start clock room delay).delivered (steps ++ more) =
        (start clock room delay).delivered steps ++ late ∧
      late.length ≤ 1 ∧
      (late ≠ [] → ((start clock room delay).run steps).isArmed = some true)
  cancel : (((start clock room delay).run steps).step .cancel).2 =
      .cancelled (((start clock room delay).run steps).isArmed = some true) ∧
    (((start clock room delay).run steps).step .cancel).1.isArmed ≠ some true ∧
    ((((start clock room delay).run steps).step .cancel).1.step .cancel).2 = .cancelled false
  kept : ∀ more, (start clock room delay).delivered steps <+:
    (start clock room delay).delivered (steps ++ more)
  /-- A timer that finds no room stays live, and is taken back without having fired. -/
  full : ∀ ms, ((start clock room delay).run steps).isArmed = some true →
    room ≤ ((start clock room delay).run steps).fired.length →
    ((start clock room delay).run (steps ++ [.wait ms])).isArmed = some true ∧
      (((start clock room delay).run (steps ++ [.wait ms])).step .cancel).2 = .cancelled true ∧
      (start clock room delay).delivered (steps ++ [.wait ms, .cancel]) =
        (start clock room delay).delivered steps
  /-- Room for an event of each arm is enough, even if none is taken. -/
  enough : steps.countP Step.isArm ≤ room → (start clock room delay).KeepsUp steps

/-- What is sent if the receiver keeps up: what fired before, the running timer's snapshot if it
fires, and those of the arms that survive. -/
def owed (measure : Nat → Nat) : Run → List Step → List (Nat × String)
  | ⟨_, _, none, fired⟩, _ => fired.map snapshot
  | ⟨_, now, some d, fired⟩, steps =>
    fired.map snapshot ++
      ((d.timer.filter (Fires · now steps)).toList.map (fun t => snapshot t.request) ++
        survivors measure now steps)

/-- Nothing but what is owed is sent, and all of it if the receiver keeps up. -/
structure Owes (measure : Nat → Nat) (r : Run) (steps : List Step) : Prop where
  only : ((r.delivered steps).map snapshot).Sublist (owed measure r steps)
  all : r.KeepsUp steps → (r.delivered steps).map snapshot = owed measure r steps

variable {clock : Clock} {measure : Nat → Nat} {room now delay wait ms m n : Nat}
variable {timer : Option Timer} {t : Timer} {fired : List Request} {d : Option Debouncer}
variable {steps more before after : List Step} {s : Step} {r : Run}

theorem fires_wait : Fires t now (.wait ms :: steps) ↔
    t.due ≤ now + ms ∨ Fires t (now + ms) steps := by
  unfold Fires
  simp only [waits, total, ne_eq, reduceCtorEq, not_false_eq_true, true_and]
  by_cases hwaits : waits steps = []
  · simp [hwaits, total]
  · simp only [hwaits, not_false_eq_true, true_and]
    omega

theorem fires_receive : Fires t now (.receive :: steps) ↔ Fires t now steps := Iff.rfl

theorem not_fires_nil : ¬ Fires t now [] := fun h => h.1 rfl

/-- A step that stops the timer keeps it from firing. -/
theorem filter_fires_of_stop (hs : s.isCalm = false) :
    timer.filter (Fires · now (s :: steps)) = none := by
  have hnot : ∀ t, ¬ Fires t now (s :: steps) := by
    intro t h
    cases s with
    | arm | cancel | drop => exact h.1 rfl
    | wait | receive => cases hs
  cases timer with
  | none => rfl
  | some t => simp [Option.filter, hnot t]

theorem owed_of_stop (hs : s.isCalm = false) :
    owed measure ⟨room, now, some ⟨clock, delay, timer⟩, fired⟩ (s :: steps) =
      fired.map snapshot ++ survivors measure now (s :: steps) := by
  simp [owed, filter_fires_of_stop hs]

/-- A timer that was just armed fires if its arm survives. -/
theorem fires_armed {q : Request} : Fires ⟨q, now + wait⟩ now steps ↔ Survives wait steps := by
  unfold Fires Survives
  refine and_congr_right fun _ => ?_
  exact Nat.add_le_add_iff_left

theorem not_lastLives_nil : ¬ LastLives measure now [] := by
  rintro ⟨before, generation, content, after, h, _⟩
  simp at h

theorem lastLives_arm {generation : Nat} {content : String} :
    LastLives measure now (.arm generation content :: steps) ↔
      (∀ s ∈ steps, s.isCalm) ∧ ¬ Survives (measure now) steps ∨
        LastLives measure now steps := by
  have htime : ∀ before, time (.arm generation content :: before) = time before :=
    fun _ => Nat.zero_add _
  constructor
  · rintro ⟨before, g, c, after, h, hdrop, hcalm, hlives⟩
    cases before with
    | nil =>
      obtain ⟨_, rfl⟩ := List.cons.inj h
      exact Or.inl ⟨hcalm, hlives⟩
    | cons s before =>
      obtain ⟨rfl, rfl⟩ := List.cons.inj h
      rw [htime] at hlives
      exact Or.inr ⟨before, g, c, after, rfl, fun hd => hdrop (List.mem_cons_of_mem _ hd), hcalm,
        hlives⟩
  · rintro (⟨hcalm, hlives⟩ | ⟨before, g, c, after, rfl, hdrop, hcalm, hlives⟩)
    · exact ⟨[], generation, content, steps, rfl, List.not_mem_nil, hcalm, hlives⟩
    · rw [← htime before] at hlives
      exact ⟨.arm generation content :: before, g, c, after, rfl, by simpa using hdrop, hcalm,
        hlives⟩

theorem lastLives_cons (harm : ∀ generation content, s ≠ .arm generation content) :
    LastLives measure now (s :: steps) ↔ s ≠ .drop ∧ LastLives measure (now + s.span) steps := by
  have htime : ∀ before, now + time (s :: before) = now + s.span + time before :=
    fun _ => (Nat.add_assoc _ _ _).symm
  constructor
  · rintro ⟨before, g, c, after, h, hdrop, hcalm, hlives⟩
    cases before with
    | nil => exact absurd (List.cons.inj h).1 (harm g c)
    | cons s' before =>
      obtain ⟨rfl, rfl⟩ := List.cons.inj h
      rw [List.mem_cons, not_or] at hdrop
      rw [htime] at hlives
      exact ⟨Ne.symm hdrop.1, before, g, c, after, rfl, hdrop.2, hcalm, hlives⟩
  · rintro ⟨hs, before, g, c, after, rfl, hdrop, hcalm, hlives⟩
    rw [← htime] at hlives
    refine ⟨s :: before, g, c, after, rfl, ?_, hcalm, hlives⟩
    rw [List.mem_cons, not_or]
    exact ⟨Ne.symm hs, hdrop⟩

theorem step_wait_of_due (h : t.due ≤ now + ms) (hroom : fired.length < room) :
    (step ⟨room, now, some ⟨clock, delay, some t⟩, fired⟩ (.wait ms)).1 =
      ⟨room, now + ms, some ⟨clock, delay, none⟩, fired ++ [t.request]⟩ := by
  simp [step, passTo, due?, pass, Debouncer.cancel, h, hroom]

theorem step_wait_of_full (hroom : ¬ fired.length < room) :
    (step ⟨room, now, d, fired⟩ (.wait ms)).1 = ⟨room, now + ms, d, fired⟩ := by
  simp [step, hroom]

theorem step_wait_of_not_due (h : ¬ t.due ≤ now + ms) :
    (step ⟨room, now, some ⟨clock, delay, some t⟩, fired⟩ (.wait ms)).1 =
      ⟨room, now + ms, some ⟨clock, delay, some t⟩, fired⟩ := by
  simp [step, passTo, due?, pass, h]

theorem step_wait_of_none :
    (step ⟨room, now, some ⟨clock, delay, none⟩, fired⟩ (.wait ms)).1 =
      ⟨room, now + ms, some ⟨clock, delay, none⟩, fired⟩ := by
  simp [step, passTo, due?, pass]

theorem step_wait_of_dropped :
    (step ⟨room, now, none, fired⟩ (.wait ms)).1 = ⟨room, now + ms, none, fired⟩ := by
  simp [step, passTo]

theorem room_step (r : Run) (s : Step) : (r.step s).1.room = r.room := by
  cases s with
  | wait ms =>
    rw [step]
    split <;> rfl
  | arm | cancel | receive | drop => rfl

theorem room_run (r : Run) (steps : List Step) : (r.run steps).room = r.room := by
  induction steps generalizing r with
  | nil => rfl
  | cons s steps ih => exact (ih _).trans (r.room_step s)

theorem time_append (before after : List Step) :
    time (before ++ after) = time before + time after := by
  induction before with
  | nil => exact (Nat.zero_add _).symm
  | cons s before ih => rw [List.cons_append, time, ih, time, Nat.add_assoc]

theorem run_append (r : Run) (steps more : List Step) :
    r.run (steps ++ more) = (r.run steps).run more :=
  List.foldl_append

theorem delivered_cons (r : Run) (s : Step) (steps : List Step) :
    r.delivered (s :: steps) = (r.step s).2.received ++ (r.step s).1.delivered steps :=
  List.append_assoc _ _ _

theorem delivered_append (r : Run) (steps more : List Step) :
    r.delivered (steps ++ more) = r.received steps ++ (r.run steps).delivered more := by
  induction steps generalizing r with
  | nil => rfl
  | cons s steps ih =>
    rw [List.cons_append, delivered_cons, ih, received, List.append_assoc]
    rfl

theorem keepsUp_append (h : r.KeepsUp (steps ++ more)) : r.KeepsUp steps := by
  induction steps generalizing r with
  | nil => trivial
  | cons s steps ih => exact ⟨h.1, ih h.2⟩

theorem Owes.cons (h : Owes measure (r.step s).1 steps)
    (only : ((r.step s).2.received.map snapshot ++ owed measure (r.step s).1 steps).Sublist
      (owed measure r (s :: steps)))
    (all : r.HasRoom s → (r.step s).2.received.map snapshot ++ owed measure (r.step s).1 steps =
      owed measure r (s :: steps)) : Owes measure r (s :: steps) := by
  constructor
  · rw [delivered_cons, List.map_append]
    exact (h.only.append_left _).trans only
  · intro hkeeps
    rw [delivered_cons, List.map_append, h.all hkeeps.2]
    exact all hkeeps.1

theorem Owes.cons_of_eq (h : Owes measure (r.step s).1 steps)
    (heq : (r.step s).2.received.map snapshot ++ owed measure (r.step s).1 steps =
      owed measure r (s :: steps)) : Owes measure r (s :: steps) :=
  h.cons (heq ▸ .refl _) fun _ => heq

theorem owes_of_dropped (room now : Nat) (fired : List Request) (steps : List Step) :
    Owes measure ⟨room, now, none, fired⟩ steps := by
  induction steps generalizing now fired with
  | nil => exact ⟨.refl _, fun _ => rfl⟩
  | cons s steps ih =>
    cases s with
    | arm | cancel | drop => exact (ih now fired).cons_of_eq rfl
    | wait ms =>
      refine Owes.cons_of_eq ?_ ?_
      · rw [step_wait_of_dropped]
        exact ih (now + ms) fired
      · rw [step_wait_of_dropped]
        rfl
    | receive =>
      refine (ih now []).cons_of_eq ?_
      exact List.append_nil _

/-- A wait in which the running timer finds no room leaves it for later, or for a step that stops
it. -/
theorem sublist_owed_wait :
    (owed measure ⟨room, now + ms, some ⟨clock, delay, timer⟩, fired⟩ steps).Sublist
      (owed measure ⟨room, now, some ⟨clock, delay, timer⟩, fired⟩ (.wait ms :: steps)) := by
  refine List.Sublist.append_left (.append_right (.map _ ?_) _) _
  cases timer with
  | none => exact .refl _
  | some t =>
    by_cases hlater : Fires t (now + ms) steps
    · simp [Option.filter, hlater, fires_wait]
    · simp [Option.filter, hlater]

theorem owes_wait (ms : Nat)
    (ih : ∀ timer fired, Owes measure ⟨room, now + ms, some ⟨clock, delay, timer⟩, fired⟩ steps) :
    Owes measure ⟨room, now, some ⟨clock, delay, timer⟩, fired⟩ (.wait ms :: steps) := by
  cases timer with
  | none =>
    refine Owes.cons_of_eq ?_ ?_
    · rw [step_wait_of_none]
      exact ih none fired
    · rw [step_wait_of_none]
      rfl
  | some t =>
    by_cases hdue : t.due ≤ now + ms
    · by_cases hroom : fired.length < room
      · refine Owes.cons_of_eq ?_ ?_
        · rw [step_wait_of_due hdue hroom]
          exact ih none _
        · rw [step_wait_of_due hdue hroom]
          simp [owed, Option.filter, fires_wait, hdue, survivors, step, Report.received]
      · refine Owes.cons ?_ ?_ fun h => ?_
        · rw [step_wait_of_full hroom]
          exact ih (some t) fired
        · rw [step_wait_of_full hroom]
          exact sublist_owed_wait
        · exact absurd (h (by simp [due?, hdue])) hroom
    · refine Owes.cons_of_eq ?_ ?_
      · rw [step_wait_of_not_due hdue]
        exact ih (some t) fired
      · rw [step_wait_of_not_due hdue]
        simp [owed, Option.filter, fires_wait, hdue, survivors, step, Report.received]

/-- Induction on the steps, from any running timer and any moment on. -/
theorem owes (room now : Nat) (timer : Option Timer) (fired : List Request) (steps : List Step)
    (measured : ∀ moment ≤ now + time steps, clock.wait moment delay = measure moment) :
    Owes measure ⟨room, now, some ⟨clock, delay, timer⟩, fired⟩ steps := by
  induction steps generalizing now timer fired with
  | nil =>
    have hnone : owed measure ⟨room, now, some ⟨clock, delay, timer⟩, fired⟩ [] =
        fired.map snapshot := by
      cases timer <;> simp [owed, survivors, Option.filter, not_fires_nil]
    exact ⟨hnone ▸ .refl _, fun _ => hnone.symm⟩
  | cons s steps ih =>
    have hrest : ∀ moment ≤ now + s.span + time steps,
        clock.wait moment delay = measure moment := by
      rw [Nat.add_assoc]
      exact measured
    have hnow := measured now (Nat.le_add_right _ _)
    cases s with
    | arm generation content =>
      refine (ih now _ fired hrest).cons_of_eq ?_
      rw [owed_of_stop rfl]
      show owed measure ⟨room, now, some ⟨clock, delay, some ⟨⟨generation, content, now⟩,
        now + clock.wait now delay⟩⟩, fired⟩ steps = _
      rw [hnow]
      by_cases hs : Survives (measure now) steps
      · simp [owed, Option.filter, fires_armed, survivors, snapshot, hs]
      · simp [owed, Option.filter, fires_armed, survivors, hs]
    | cancel =>
      refine (ih now none fired hrest).cons_of_eq ?_
      rw [owed_of_stop rfl]
      rfl
    | wait ms => exact owes_wait ms fun timer fired => ih (now + ms) timer fired hrest
    | receive =>
      refine (ih now timer [] hrest).cons_of_eq ?_
      simp [owed, fires_receive, survivors, step, Report.received]
    | drop =>
      refine (owes_of_dropped room now fired steps).cons_of_eq ?_
      rw [owed_of_stop rfl]
      exact (List.append_nil _).symm

theorem isArmed_run_of_dropped (room now : Nat) (fired : List Request) (steps : List Step) :
    (run ⟨room, now, none, fired⟩ steps).isArmed = none := by
  induction steps generalizing now fired with
  | nil => rfl
  | cons s steps ih =>
    cases s with
    | wait ms =>
      rw [run, List.foldl_cons, step_wait_of_dropped]
      exact ih _ _
    | arm | cancel | receive | drop => exact ih _ _

/-- A timer is live after some steps if it ran at their begin and neither fired nor was stopped, or
if that holds of the one of the last arm. -/
theorem isArmed_run (room now : Nat) (timer : Option Timer) (fired : List Request)
    (steps : List Step)
    (measured : ∀ moment ≤ now + time steps, clock.wait moment delay = measure moment)
    (hkeeps : KeepsUp ⟨room, now, some ⟨clock, delay, timer⟩, fired⟩ steps) :
    (run ⟨room, now, some ⟨clock, delay, timer⟩, fired⟩ steps).isArmed = some true ↔
      (∃ t, timer = some t ∧ (∀ s ∈ steps, s.isCalm) ∧ ¬ Fires t now steps) ∨
        LastLives measure now steps := by
  induction steps generalizing now timer fired with
  | nil => simp [run, isArmed, Debouncer.isArmed, not_lastLives_nil, not_fires_nil,
      Option.isSome_iff_exists]
  | cons s steps ih =>
    have hrest : ∀ moment ≤ now + s.span + time steps,
        clock.wait moment delay = measure moment := by
      rw [Nat.add_assoc]
      exact measured
    have hnow := measured now (Nat.le_add_right _ _)
    have stopped : s.isCalm = false →
        ¬ ∃ t, timer = some t ∧ (∀ x ∈ s :: steps, x.isCalm) ∧ ¬ Fires t now (s :: steps) := by
      rintro hs ⟨_, _, hcalm, _⟩
      rw [hcalm s List.mem_cons_self] at hs
      cases hs
    obtain ⟨hroom, hkeeps⟩ := hkeeps
    cases s with
    | arm generation content =>
      refine (ih now _ fired hrest hkeeps).trans ?_
      rw [lastLives_arm, or_iff_right (stopped rfl), hnow]
      simp [fires_armed]
    | cancel =>
      refine (ih now none fired hrest hkeeps).trans ?_
      rw [lastLives_cons (by simp), or_iff_right (stopped rfl)]
      simp [Step.span]
    | wait ms =>
      rw [lastLives_cons (by simp), run, List.foldl_cons]
      cases timer with
      | none =>
        rw [step_wait_of_none] at hkeeps ⊢
        refine (ih (now + ms) none fired hrest hkeeps).trans ?_
        simp [Step.span]
      | some t =>
        by_cases hdue : t.due ≤ now + ms
        · have hroom : fired.length < room := hroom (by simp [due?, hdue])
          rw [step_wait_of_due hdue hroom] at hkeeps ⊢
          have hfires : Fires t now (.wait ms :: steps) := fires_wait.mpr (Or.inl hdue)
          refine (ih (now + ms) none _ hrest hkeeps).trans ?_
          simp [hfires, Step.span]
        · rw [step_wait_of_not_due hdue] at hkeeps ⊢
          have hfires : Fires t now (.wait ms :: steps) ↔ Fires t (now + ms) steps :=
            fires_wait.trans (or_iff_right hdue)
          refine (ih (now + ms) (some t) fired hrest hkeeps).trans ?_
          simp [hfires, Step.isCalm, Step.span]
    | receive =>
      rw [lastLives_cons (by simp)]
      refine (ih now timer [] hrest hkeeps).trans ?_
      simp [fires_receive, Step.isCalm, Step.span]
    | drop =>
      rw [lastLives_cons (by simp), or_iff_right (stopped rfl), run, List.foldl_cons]
      have hdropped := isArmed_run_of_dropped room now fired steps
      refine (iff_of_eq (congrArg (· = some true) hdropped)).trans ?_
      simp

theorem isArmed_step_cancel (r : Run) : (r.step .cancel).1.isArmed ≠ some true := by
  obtain ⟨room, now, debouncer, fired⟩ := r
  cases debouncer <;> simp [step, isArmed, Debouncer.isArmed, Debouncer.cancel]

theorem report_cancel (r : Run) : (r.step .cancel).2 = .cancelled (r.isArmed = some true) := by
  obtain ⟨room, now, debouncer, fired⟩ := r
  cases debouncer <;> simp [step, isArmed]

/-- What has fired is not taken back. -/
theorem exists_late (r : Run) (steps : List Step) :
    ∃ late, r.delivered steps = r.fired ++ late := by
  induction steps generalizing r with
  | nil => exact ⟨[], (List.append_nil _).symm⟩
  | cons s steps ih =>
    obtain ⟨late, hlate⟩ := ih (r.step s).1
    rw [delivered_cons, hlate]
    cases s with
    | arm | cancel | drop => exact ⟨late, rfl⟩
    | wait ms =>
      rw [step]
      split
      next => exact ⟨_, List.append_assoc _ _ _⟩
      next => exact ⟨late, rfl⟩
    | receive => exact ⟨late, rfl⟩

/-- What has fired at the end of some steps stays, whatever follows. -/
theorem delivered_append_of_late {late : List Request}
    (h : (r.run steps).delivered more = (r.run steps).fired ++ late) :
    r.delivered (steps ++ more) = r.delivered steps ++ late := by
  rw [delivered_append, h, delivered, List.append_assoc]

/-- Time may pass in one wait or in two. -/
theorem step_wait_add (r : Run) (m n : Nat) :
    (r.step (.wait (m + n))).1 = ((r.step (.wait m)).1.step (.wait n)).1 := by
  obtain ⟨room, now, debouncer, fired⟩ := r
  by_cases hroom : fired.length < room
  · cases debouncer with
    | none => simp only [step_wait_of_dropped, Nat.add_assoc]
    | some d =>
      obtain ⟨clock, delay, timer⟩ := d
      cases timer with
      | none => simp only [step_wait_of_none, Nat.add_assoc]
      | some t =>
        by_cases hm : t.due ≤ now + m
        · have hmn : t.due ≤ now + (m + n) := by omega
          rw [step_wait_of_due hm hroom, step_wait_of_due hmn hroom, step_wait_of_none,
            Nat.add_assoc]
        · rw [step_wait_of_not_due hm]
          by_cases hmn : t.due ≤ now + (m + n)
          · rw [step_wait_of_due hmn hroom, step_wait_of_due (by omega) hroom, Nat.add_assoc]
          · rw [step_wait_of_not_due hmn, step_wait_of_not_due (by omega), Nat.add_assoc]
  · simp only [step_wait_of_full hroom, Nat.add_assoc]

end Run

open Run

variable {measure : Nat → Nat} {now : Nat} {before after steps : List Step}

theorem waits_append_arm (generation : Nat) (content : String) :
    waits (before ++ .arm generation content :: after) = waits before := by
  induction before with
  | nil => rfl
  | cons s before ih => cases s <;> simp [waits, ih]

theorem survivors_of_calm (h : ∀ s ∈ steps, s.isCalm) : survivors measure now steps = [] := by
  induction steps generalizing now with
  | nil => rfl
  | cons s steps ih =>
    have hrest : ∀ now, survivors measure now steps = [] := by
      intro now
      exact ih fun x hx => h x (List.mem_cons_of_mem s hx)
    cases s with
    | arm | cancel | drop => cases h _ List.mem_cons_self
    | wait | receive => exact hrest _

theorem survivors_append_arm (generation : Nat) (content : String) (h : .drop ∉ before) :
    survivors measure now (before ++ .arm generation content :: after) =
      survivors measure now before ++
        survivors measure (now + time before) (.arm generation content :: after) := by
  induction before generalizing now with
  | nil => rfl
  | cons s before ih =>
    rw [List.mem_cons, not_or] at h
    have hrest := @ih (now + s.span) h.2
    rw [Nat.add_assoc] at hrest
    cases s with
    | arm g c =>
      have hs : Survives (measure now) (before ++ .arm generation content :: after) ↔
          Survives (measure now) before := by
        rw [Survives, waits_append_arm, Survives]
      rw [List.cons_append, survivors, survivors]
      by_cases hg : Survives (measure now) before
      · rw [if_pos (hs.mpr hg), if_pos hg]
        exact congrArg ((g, c) :: ·) hrest
      · rw [if_neg (mt hs.mp hg), if_neg hg]
        exact hrest
    | cancel | wait | receive => exact hrest
    | drop => exact absurd rfl h.1

/-- With no arm to come, only the running timer can still fire, and it does so once. -/
theorem exists_late_of_calm (r : Run) (h : ∀ s ∈ steps, s.isCalm) : ∃ late,
    r.delivered steps = r.fired ++ late ∧ late.length ≤ 1 ∧
      (late ≠ [] → r.isArmed = some true) := by
  obtain ⟨late, hlate⟩ := exists_late r steps
  refine ⟨late, hlate, ?_⟩
  obtain ⟨room, now, debouncer, fired⟩ := r
  cases debouncer with
  | none =>
    have hsent : fired.length + late.length ≤ fired.length := by
      simpa [hlate, owed] using (owes_of_dropped room now fired steps : Owes id _ _).only.length_le
    have hnone : late = [] := List.length_eq_zero_iff.mp (by omega)
    simp [hnone]
  | some d =>
    obtain ⟨clock, delay, timer⟩ := d
    have hsent := (owes room now timer fired steps fun moment _ =>
      rfl : Owes (clock.wait · delay) _ steps).only.length_le
    rw [hlate, owed, survivors_of_calm h, List.append_nil, List.map_append, List.length_append,
      List.length_append, Nat.add_le_add_iff_left, List.length_map, List.length_map] at hsent
    refine ⟨Nat.le_trans hsent Option.length_toList_le, fun hne => ?_⟩
    cases timer with
    | none => exact absurd (List.length_eq_zero_iff.mp (Nat.le_zero.mp hsent)) hne
    | some t => rfl

theorem delivered_wait_add (r : Run) (m n : Nat) (steps : List Step) :
    r.delivered (.wait (m + n) :: steps) = r.delivered (.wait m :: .wait n :: steps) := by
  rw [delivered_cons, delivered_cons, delivered_cons, step_wait_add]
  rfl

theorem keepsUp_of_dropped (room now : Nat) (fired : List Request) (steps : List Step) :
    KeepsUp ⟨room, now, none, fired⟩ steps := by
  induction steps generalizing now fired with
  | nil => trivial
  | cons s steps ih =>
    cases s with
    | wait ms =>
      refine ⟨nofun, ?_⟩
      rw [step_wait_of_dropped]
      exact ih _ _
    | arm | cancel | receive | drop => exact ⟨trivial, ih _ _⟩

/-- Induction with the running timer counted as an arm to come. -/
theorem keepsUp_of_room {clock : Clock} {delay room : Nat} {timer : Option Timer}
    {fired : List Request}
    (h : fired.length + timer.toList.length + steps.countP Step.isArm ≤ room) :
    KeepsUp ⟨room, now, some ⟨clock, delay, timer⟩, fired⟩ steps := by
  induction steps generalizing now timer fired with
  | nil => trivial
  | cons s steps ih =>
    rw [List.countP_cons] at h
    cases s with
    | arm generation content =>
      refine ⟨trivial, ih ?_⟩
      simp only [Step.isArm, if_true] at h
      simp only [Option.toList_some, List.length_singleton]
      omega
    | cancel =>
      refine ⟨trivial, ih ?_⟩
      simp only [Option.toList_none, List.length_nil]
      omega
    | wait ms =>
      cases timer with
      | none =>
        refine ⟨nofun, ?_⟩
        rw [step_wait_of_none]
        exact ih h
      | some t =>
        simp only [Option.toList_some, List.length_singleton] at h
        have hroom : fired.length < room := by omega
        refine ⟨fun _ => hroom, ?_⟩
        by_cases hdue : t.due ≤ now + ms
        · rw [step_wait_of_due hdue hroom]
          refine ih ?_
          simp only [Option.toList_none, List.length_append, List.length_singleton,
            List.length_nil]
          omega
        · rw [step_wait_of_not_due hdue]
          exact ih h
    | receive =>
      refine ⟨trivial, ih ?_⟩
      simp only [List.length_nil]
      omega
    | drop => exact ⟨trivial, keepsUp_of_dropped _ _ _ _⟩

theorem firesSurvivors_of_measured (clock : Clock) (room delay : Nat)
    (measured : ∀ moment ≤ time steps, clock.wait moment delay = measure moment) :
    FiresSurvivors measure clock room delay steps := by
  have howes : ∀ before, time before ≤ time steps →
      Owes measure (start clock room delay) before := by
    intro before hle
    refine owes room 0 none [] before fun moment hmoment => measured moment ?_
    omega
  have hall : ∀ before, time before ≤ time steps → (start clock room delay).KeepsUp before →
      ((start clock room delay).delivered before).map snapshot = survivors measure 0 before := by
    intro before hle hkeeps
    exact (howes before hle).all hkeeps
  have hle := Nat.le_refl (time steps)
  refine ⟨(howes steps hle).only, hall steps hle, ?_, ?_, ?_, ?_, ?_, ?_, ?_, ?_⟩
  · rintro hkeeps before generation content after rfl hdrop hcalm
    have hbefore : time before ≤ time (before ++ .arm generation content :: after) := by
      rw [time_append]
      exact Nat.le_add_right _ _
    rw [hall _ hle hkeeps, hall before hbefore (keepsUp_append hkeeps),
      survivors_append_arm generation content hdrop, Nat.zero_add, survivors,
      survivors_of_calm hcalm]
  · rintro before after m n rfl
    refine ⟨?_, ?_⟩
    · rw [delivered_append, delivered_append, delivered_wait_add]
    · rw [run_append, run_append]
      exact congrArg (run · after) (step_wait_add _ m n)
  · intro hkeeps
    have hzero : ∀ moment ≤ 0 + time steps, clock.wait moment delay = measure moment := by
      rw [Nat.zero_add]
      exact measured
    refine (isArmed_run room 0 none [] steps hzero hkeeps).trans ?_
    simp
  · intro more hmore
    obtain ⟨late, hlate, hone, harmed⟩ :=
      exists_late_of_calm ((start clock room delay).run steps) hmore
    exact ⟨late, delivered_append_of_late hlate, hone, harmed⟩
  · refine ⟨report_cancel _, isArmed_step_cancel _, ?_⟩
    rw [report_cancel, decide_eq_false (isArmed_step_cancel _)]
  · intro more
    obtain ⟨late, hlate⟩ := exists_late ((start clock room delay).run steps) more
    exact ⟨late, (delivered_append_of_late hlate).symm⟩
  · intro ms harmed hfull
    have hroom : ¬ ((start clock room delay).run steps).fired.length <
        ((start clock room delay).run steps).room := by
      rw [room_run]
      exact Nat.not_lt.mpr hfull
    have hwait : (((start clock room delay).run steps).step (.wait ms)).1 =
        { (start clock room delay).run steps with
          now := ((start clock room delay).run steps).now + ms } := step_wait_of_full hroom
    have hrun : (start clock room delay).run (steps ++ [.wait ms]) =
        (((start clock room delay).run steps).step (.wait ms)).1 := run_append _ steps [.wait ms]
    have hlive : ((start clock room delay).run (steps ++ [.wait ms])).isArmed = some true := by
      rw [hrun, hwait]
      exact harmed
    refine ⟨hlive, ?_, ?_⟩
    · rw [report_cancel, decide_eq_true hlive]
    · rw [delivered_append, delivered_cons, hwait]
      rfl
  · intro hroom
    refine keepsUp_of_room ?_
    rw [List.length_nil, Option.toList_none, List.length_nil]
    omega

/-- In every history of arms, cancels, waits and a drop, no arm but those that survive fires, each
once and in their order, and all of them if the receiver keeps up; what fired is not taken back, and
a cancel tells whether a timer was live. An arm whose delay ends where the clock can tell it waits
for the delay. -/
theorem fires_survivors (clock : Clock) (room delay : Nat) (steps : List Step) :
    FiresSurvivors (clock.wait · delay) clock room delay steps ∧
      (time steps + delay ≤ clock.last →
        FiresSurvivors (fun _ => delay) clock room delay steps) := by
  refine ⟨firesSurvivors_of_measured clock room delay fun _ _ => rfl, fun h => ?_⟩
  refine firesSurvivors_of_measured clock room delay fun moment hmoment => clock.wait_eq ?_
  omega

/-- A timer whose delay the clock cannot measure fires before the delay is over. -/
theorem not_firesSurvivors_unmeasured :
    ¬ FiresSurvivors (fun _ => 18446744073709551615) .nanoseconds 64 18446744073709551615
      [.arm 1 "x", .wait 946080000000] := by
  intro h
  have hnone : survivors (fun _ => 18446744073709551615) 0 [.arm 1 "x", .wait 946080000000] =
      [] := by decide
  have hone : ((start .nanoseconds 64 18446744073709551615).delivered
      [.arm 1 "x", .wait 946080000000]).map snapshot = [(1, "x")] := by decide
  have honly := h.only
  rw [hnone, hone] at honly
  cases honly

end LiveTemplate.Debouncer
