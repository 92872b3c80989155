import LiveTemplate.Proofs.Analysis.Begun
import LiveTemplate.World.Run
import Mathlib.Data.List.Perm.Basic

namespace LiveTemplate.Dispatcher

/-- What of a list is due by `now`, in the order in which it is due; what is due together is in the
order of the list. -/
structure DueOrder {α : Type} (due : α → Nat) (l : List α) (now : Nat) (order : List α) : Prop where
  sorted : order.Pairwise (due · ≤ due ·)
  parts : ∀ t, order.filter (due · = t) = if t ≤ now then l.filter (due · = t) else []

section

variable {α β : Type} {due : α → Nat} {l more order later : List α} {now m n t : Nat}

/-- Sorting by the moments keeps the order of what is due together. -/
theorem filter_mergeSort (due : α → Nat) (l : List α) (t : Nat) :
    (l.mergeSort (due · ≤ due ·)).filter (due · = t) = l.filter (due · = t) := by
  have hsorted : (l.filter (due · = t)).Pairwise (fun a b => decide (due a ≤ due b) = true) := by
    rw [List.pairwise_iff_forall_sublist]
    intro a b hab
    have ha := (List.mem_filter.mp (hab.subset List.mem_cons_self)).2
    have hb := (List.mem_filter.mp (hab.subset (List.mem_cons_of_mem a List.mem_cons_self))).2
    rw [decide_eq_true_iff] at ha hb ⊢
    omega
  have hsub := List.sublist_mergeSort (by simp; omega) (by simp; omega) hsorted
    List.filter_sublist
  have hfilter := hsub.filter (due · = t)
  rw [List.filter_filter] at hfilter
  simp only [Bool.and_self] at hfilter
  refine (hfilter.eq_of_length ?_).symm
  exact ((List.mergeSort_perm l _).filter (due · = t)).length_eq.symm

theorem DueOrder.mergeSort (due : α → Nat) (l : List α) (now : Nat) :
    DueOrder due l now ((l.filter (due · ≤ now)).mergeSort (due · ≤ due ·)) := by
  constructor
  · have h : ((l.filter (due · ≤ now)).mergeSort (due · ≤ due ·)).Pairwise
        (fun a b => decide (due a ≤ due b) = true) :=
      List.pairwise_mergeSort (by simp; omega) (by simp; omega) _
    simpa using h
  · intro t
    rw [filter_mergeSort, List.filter_filter]
    split
    next hle =>
      refine List.filter_congr fun a _ => ?_
      by_cases ha : due a = t
      · simp [ha, hle]
      · simp [ha]
    next hnot =>
      rw [List.filter_eq_nil_iff]
      intro a _
      simp only [Bool.and_eq_true, decide_eq_true_eq]
      omega

theorem DueOrder.nil (h : ∀ a ∈ l, now < due a) : DueOrder due l now [] := by
  refine ⟨List.Pairwise.nil, fun t => ?_⟩
  split
  next hle =>
    refine (List.filter_eq_nil_iff.mpr fun a ha => ?_).symm
    have hlt := h a ha
    rw [decide_eq_true_iff]
    omega
  next => rfl

theorem DueOrder.mem {a : α} (h : DueOrder due l now order) (ha : a ∈ order) :
    a ∈ l ∧ due a ≤ now := by
  have hpart : a ∈ order.filter (due · = due a) := List.mem_filter.mpr ⟨ha, decide_eq_true rfl⟩
  rw [h.parts] at hpart
  split at hpart
  next hle => exact ⟨(List.mem_filter.mp hpart).1, hle⟩
  next => cases hpart

theorem DueOrder.perm [DecidableEq α] (h : DueOrder due l now order) :
    order.Perm (l.filter (due · ≤ now)) := by
  rw [List.perm_iff_count]
  intro a
  have hpart : ∀ l : List α, (l.filter (due · = due a)).count a = l.count a :=
    fun l => List.count_filter (by simp)
  rw [← hpart order, h.parts]
  split
  next hle => rw [hpart, List.count_filter (by simpa using hle)]
  next hnot =>
    refine (List.count_eq_zero.mpr fun ha => ?_).symm
    exact hnot (of_decide_eq_true (List.mem_filter.mp ha).2)

theorem mem_iff_of_parts {xs ys : List α}
    (parts : ∀ t, xs.filter (due · = t) = ys.filter (due · = t)) (a : α) : a ∈ xs ↔ a ∈ ys := by
  have hpart : ∀ l : List α, a ∈ l ↔ a ∈ l.filter (due · = due a) := by simp
  rw [hpart xs, parts, ← hpart ys]

theorem due_head_le {a b : α} (h : (b :: l).Pairwise (due · ≤ due ·)) (ha : a ∈ b :: l) :
    due b ≤ due a := by
  rcases List.mem_cons.mp ha with rfl | ha
  · exact Nat.le_refl _
  · exact List.rel_of_pairwise_cons h ha

/-- Induction on one of two sorted lists: their heads are due at the same moment, so both are the
first that is due then. -/
theorem eq_of_parts {xs ys : List α} (hx : xs.Pairwise (due · ≤ due ·))
    (hy : ys.Pairwise (due · ≤ due ·))
    (parts : ∀ t, xs.filter (due · = t) = ys.filter (due · = t)) : xs = ys := by
  have hmem := mem_iff_of_parts parts
  induction xs generalizing ys with
  | nil =>
    refine (List.eq_nil_iff_forall_not_mem.mpr fun a ha => ?_).symm
    cases (hmem a).mpr ha
  | cons x xs ih =>
    cases ys with
    | nil => cases (hmem x).mp List.mem_cons_self
    | cons y ys =>
      have hxy := due_head_le hy ((hmem x).mp List.mem_cons_self)
      have hyx := due_head_le hx ((hmem y).mpr List.mem_cons_self)
      have hdue : due y = due x := by omega
      have hheads := parts (due x)
      rw [List.filter_cons_of_pos (by simp), List.filter_cons_of_pos (by simpa using hdue)]
        at hheads
      obtain ⟨rfl, htails⟩ := List.cons.inj hheads
      have hparts : ∀ t, xs.filter (due · = t) = ys.filter (due · = t) := by
        intro t
        by_cases ht : due x = t
        · rw [← ht]
          exact htails
        · have h := parts t
          rw [List.filter_cons_of_neg (by simpa using ht),
            List.filter_cons_of_neg (by simpa using ht)] at h
          exact h
      exact congrArg (x :: ·) (ih hx.of_cons hy.of_cons hparts (mem_iff_of_parts hparts))

theorem DueOrder.unique (h : DueOrder due l now order) (h' : DueOrder due l now later) :
    order = later := by
  refine eq_of_parts h.sorted h'.sorted fun t => ?_
  rw [h.parts, h'.parts]

theorem DueOrder.map {f : β → α} {l order : List β}
    (h : DueOrder (fun b => due (f b)) l now order) :
    DueOrder due (l.map f) now (order.map f) := by
  refine ⟨List.pairwise_map.mpr h.sorted, fun t => ?_⟩
  have hpart := congrArg (List.map f) (h.parts t)
  rw [List.filter_map, List.filter_map]
  refine hpart.trans ?_
  split <;> rfl

theorem DueOrder.congr {other : α → Nat} (h : DueOrder due l now order)
    (same : ∀ a ∈ l, due a = other a) : DueOrder other l now order := by
  have hsame : ∀ a ∈ order, due a = other a := fun a ha => same a (h.mem ha).1
  constructor
  · refine h.sorted.imp_of_mem fun ha hb hle => ?_
    rw [← hsame _ ha, ← hsame _ hb]
    exact hle
  · intro t
    have horder : order.filter (other · = t) = order.filter (due · = t) :=
      List.filter_congr fun a ha => by rw [hsame a ha]
    have hl : l.filter (other · = t) = l.filter (due · = t) :=
      List.filter_congr fun a ha => by rw [same a ha]
    rw [horder, hl]
    exact h.parts t

/-- What is due later, and what comes in only now, is due after what is due by now. -/
theorem DueOrder.append (h : DueOrder due l m order)
    (h' : DueOrder due (l.filter (m < due ·) ++ more) n later) (hle : m ≤ n)
    (hmore : ∀ a ∈ more, m ≤ due a) : DueOrder due (l ++ more) n (order ++ later) := by
  constructor
  · refine List.pairwise_append.mpr ⟨h.sorted, h'.sorted, fun a ha b hb => ?_⟩
    have hb' : m ≤ due b := by
      rcases List.mem_append.mp (h'.mem hb).1 with hb | hb
      · exact Nat.le_of_lt (of_decide_eq_true (List.mem_filter.mp hb).2)
      · exact hmore b hb
    exact Nat.le_trans (h.mem ha).2 hb'
  · intro t
    rw [List.filter_append, h.parts, h'.parts, List.filter_append, List.filter_append,
      List.filter_filter]
    -- what is due at one moment is due by `m` as a whole, or not at all
    by_cases htm : t ≤ m
    · have hlater : l.filter (fun a => decide (due a = t) && decide (m < due a)) = [] := by
        rw [List.filter_eq_nil_iff]
        intro a _
        simp only [Bool.and_eq_true, decide_eq_true_eq]
        omega
      rw [if_pos htm, if_pos (Nat.le_trans htm hle), if_pos (Nat.le_trans htm hle), hlater]
      rfl
    · have hlater : l.filter (fun a => decide (due a = t) && decide (m < due a)) =
          l.filter (due · = t) := by
        refine List.filter_congr fun a _ => ?_
        by_cases ha : due a = t
        · simp [ha]
          omega
        · simp [ha]
      rw [if_neg htm, hlater]
      rfl

end

variable {d : Dispatcher} {time later : Nat}

theorem dueOrder_ended (d : Dispatcher) (time : Nat) :
    DueOrder Cycle.finish d.running time (d.ended time) :=
  .mergeSort Cycle.finish d.running time

theorem running_pass (d : Dispatcher) (time : Nat) :
    (d.pass time).running = d.running.filter (time < ·.finish) := by
  simp only [pass, Nat.not_le]

theorem pass_pass (h : time ≤ later) : (d.pass time).pass later = d.pass later := by
  have hrunning : (d.running.filter (¬ ·.finish ≤ time)).filter (¬ ·.finish ≤ later) =
      d.running.filter (¬ ·.finish ≤ later) := by
    rw [List.filter_filter]
    refine List.filter_congr fun c _ => ?_
    simp
    omega
  simp only [pass, hrunning]

/-- What ends in the first part of a time and what ends in the rest is what ends in all of it. -/
theorem ended_append (h : time ≤ later) :
    d.ended time ++ (d.pass time).ended later = d.ended later := by
  have hrest := (d.pass time).dueOrder_ended later
  rw [running_pass, ← List.append_nil (d.running.filter _)] at hrest
  have hall := (d.dueOrder_ended time).append hrest h (fun a ha => by cases ha)
  rw [List.append_nil] at hall
  exact hall.unique (d.dueOrder_ended later)

/-- A script answers each call by its content alone. -/
theorem begun_script (clock : Clock) (s : Script) (deadline now call : Nat) (rs : List Request) :
    begun clock s.analyzer deadline now call rs =
      rs.map (analyze clock s.analyzer deadline 0 now) := by
  induction rs generalizing call with
  | nil => rfl
  | cons r rs ih =>
    rw [begun, ih]
    rfl

namespace Run

def run (r : Run) (steps : List Step) : Run := steps.foldl (fun r s => (r.step s).1) r

/-- The results that arrive in these steps, in the order of their arrival. -/
def received (r : Run) : List Step → List Result
  | [] => []
  | s :: steps => (r.step s).2.getD [] ++ (r.step s).1.received steps

/-- The requests that begin in these steps, in the order of dispatch, each with the moment at which
it begins: the next at which time passes. Those of `waiting` were dispatched before. -/
def begins (now : Nat) (waiting : List Request) : List Step → List (Nat × Request)
  | [] => []
  | .dispatch generation content :: steps =>
    begins now (waiting ++ [⟨generation, content, now⟩]) steps
  | .close :: steps => begins now waiting steps
  | .wait ms :: steps => waiting.map (now, ·) ++ begins (now + ms) [] steps

/-- When the result is due of a request that begins: at once if it is blank, else after the delay
or the deadline, whichever is shorter; from its begin on they take as long as measured. -/
def due (measure : Nat → Nat → Nat) (s : Script) (deadline : Nat) (p : Nat × Request) : Nat :=
  p.1 + if p.2.isBlank then 0
    else min (measure p.1 (s.delay p.2.content)) (measure p.1 deadline)

/-- The analysis of a request alone, from the moment at which it begins. -/
def alone (clock : Clock) (s : Script) (deadline : Nat) (p : Nat × Request) : Cycle :=
  analyze clock s.analyzer deadline 0 p.1 p.2

/-- What arrives from a dispatcher and which calls it makes, if a wait takes as long as measured. -/
structure Completes (measure : Nat → Nat → Nat) (clock : Clock) (s : Script) (deadline : Nat)
    (steps : List Step) : Prop where
  /-- Of the requests that have begun, exactly those that are due have a result: one each, in its
  turn, with what its analysis alone gives. -/
  each : .close ∉ steps → ∃ order : List (Nat × Request),
    order.Perm ((begins 0 [] steps).filter
      (due measure s deadline · ≤ ((start clock s.analyzer deadline).run steps).now)) ∧
    DueOrder (due measure s deadline) (begins 0 [] steps)
      ((start clock s.analyzer deadline).run steps).now order ∧
    ((start clock s.analyzer deadline).received steps).map (fun r => (r.generation, r.content)) =
      order.map (fun p => (p.2.generation, p.2.content)) ∧
    (start clock s.analyzer deadline).received steps =
      order.map (fun p => (alone clock s deadline p).result)
  calls : ((start clock s.analyzer deadline).run steps).dispatcher.calls =
    ((begins 0 [] steps).filter (¬ ·.2.isBlank)).map (·.2.content)
  split : ∀ before after m n, steps = before ++ .wait (m + n) :: after →
    (start clock s.analyzer deadline).received steps =
        (start clock s.analyzer deadline).received (before ++ .wait m :: .wait n :: after) ∧
      ((start clock s.analyzer deadline).run steps).dispatcher.calls =
        ((start clock s.analyzer deadline).run
          (before ++ .wait m :: .wait n :: after)).dispatcher.calls
  closed : ∀ before after, steps = before ++ .close :: after →
    (start clock s.analyzer deadline).received steps =
      (start clock s.analyzer deadline).received before

/-- A run of a script that has these requests begun and not ended. -/
structure Runs (clock : Clock) (s : Script) (deadline : Nat) (ps : List (Nat × Request))
    (r : Run) : Prop where
  timed : r.dispatcher.clock = clock
  analyzer : r.dispatcher.analyzer = s.analyzer
  limit : r.dispatcher.deadline = deadline
  isOpen : r.closed = false
  running : r.dispatcher.running = ps.map (alone clock s deadline)
  later : ∀ p ∈ ps, r.now < due clock.wait s deadline p

variable {clock : Clock} {s : Script} {deadline : Nat} {r : Run} {steps : List Step}

theorem run_append (r : Run) (steps more : List Step) :
    r.run (steps ++ more) = (r.run steps).run more :=
  List.foldl_append

theorem received_append (r : Run) (steps more : List Step) :
    r.received (steps ++ more) = r.received steps ++ (r.run steps).received more := by
  induction steps generalizing r with
  | nil => rfl
  | cons t steps ih =>
    rw [List.cons_append, received, ih, received, List.append_assoc]
    rfl

theorem now_le_step (r : Run) (t : Step) : r.now ≤ (r.step t).1.now := by
  cases t with
  | dispatch | close => exact Nat.le_refl _
  | wait ms => exact Nat.le_add_right _ _

theorem now_le_run (r : Run) (steps : List Step) : r.now ≤ (r.run steps).now := by
  induction steps generalizing r with
  | nil => exact Nat.le_refl _
  | cons t steps ih => exact Nat.le_trans (r.now_le_step t) (ih _)

theorem le_of_mem_begins {now : Nat} {waiting : List Request} {p : Nat × Request}
    (h : p ∈ begins now waiting steps) : now ≤ p.1 := by
  induction steps generalizing now waiting with
  | nil => cases h
  | cons t steps ih =>
    cases t with
    | dispatch | close => exact ih h
    | wait ms =>
      rcases List.mem_append.mp h with h | h
      · obtain ⟨q, _, rfl⟩ := List.mem_map.mp h
        exact Nat.le_refl _
      · exact Nat.le_trans (Nat.le_add_right _ _) (ih h)

theorem finish_alone (clock : Clock) (s : Script) (deadline : Nat) (p : Nat × Request) :
    (alone clock s deadline p).finish = due clock.wait s deadline p := by
  unfold alone analyze due
  split <;> rfl

theorem Runs.begin {ps : List (Nat × Request)} (h : Runs clock s deadline ps r) :
    (r.dispatcher.begin r.now).running =
      (ps ++ r.dispatcher.waiting.map (r.now, ·)).map (alone clock s deadline) := by
  rw [begin_eq_begun, h.timed, h.analyzer, h.limit, begun_script, h.running, List.map_append,
    List.map_map]
  rfl

/-- What ends in a wait are, in their turn, the requests begun by then that are due. -/
theorem Runs.wait {ps : List (Nat × Request)} (h : Runs clock s deadline ps r) (ms : Nat) :
    ∃ order, DueOrder (due clock.wait s deadline) (ps ++ r.dispatcher.waiting.map (r.now, ·))
        (r.now + ms) order ∧
      (r.step (.wait ms)).2 = some (order.map (fun p => (alone clock s deadline p).result)) ∧
      Runs clock s deadline ((ps ++ r.dispatcher.waiting.map (r.now, ·)).filter
        (r.now + ms < due clock.wait s deadline ·)) (r.step (.wait ms)).1 := by
  have hbegin := h.begin
  generalize ps ++ r.dispatcher.waiting.map (r.now, ·) = qs at hbegin ⊢
  have horder := DueOrder.mergeSort (due clock.wait s deadline) qs (r.now + ms)
  generalize (qs.filter _).mergeSort _ = order at horder
  have hended : (r.dispatcher.begin r.now).ended (r.now + ms) =
      order.map (alone clock s deadline) := by
    have hcycles := (r.dispatcher.begin r.now).dueOrder_ended (r.now + ms)
    rw [hbegin] at hcycles
    refine hcycles.unique (DueOrder.map ?_)
    simp only [finish_alone]
    exact horder
  refine ⟨order, horder, ?_, ?_, ?_, ?_, h.isOpen, ?_, ?_⟩
  · simp only [step, h.isOpen, hended, List.map_map]
    rfl
  · show (r.dispatcher.begin r.now).clock = clock
    rw [begin_eq_begun]
    exact h.timed
  · show (r.dispatcher.begin r.now).analyzer = s.analyzer
    rw [begin_eq_begun]
    exact h.analyzer
  · show (r.dispatcher.begin r.now).deadline = deadline
    rw [begin_eq_begun]
    exact h.limit
  · show ((r.dispatcher.begin r.now).pass (r.now + ms)).running = _
    rw [running_pass, hbegin, List.filter_map]
    refine congrArg _ (List.filter_congr fun p _ => ?_)
    rw [Function.comp, finish_alone]
  · intro p hp
    exact of_decide_eq_true (List.mem_filter.mp hp).2

theorem waiting_wait (r : Run) (ms : Nat) : (r.step (.wait ms)).1.dispatcher.waiting = [] :=
  (r.dispatcher.begin_eq r.now).1

/-- Induction on the steps from any run: each wait brings the results due in it, in their turn, and
leaves what begun later or is due later. -/
theorem Runs.received {ps : List (Nat × Request)} (h : Runs clock s deadline ps r)
    (hopen : .close ∉ steps) :
    ∃ order, DueOrder (due clock.wait s deadline) (ps ++ begins r.now r.dispatcher.waiting steps)
        (r.run steps).now order ∧
      r.received steps = order.map (fun p => (alone clock s deadline p).result) := by
  induction steps generalizing r ps with
  | nil =>
    refine ⟨[], .nil fun p hp => ?_, rfl⟩
    rw [begins, List.append_nil] at hp
    exact h.later p hp
  | cons t steps ih =>
    have hrest : .close ∉ steps := fun hmem => hopen (List.mem_cons_of_mem t hmem)
    cases t with
    | dispatch generation content =>
      exact ih (r := (r.step (.dispatch generation content)).1)
        ⟨h.timed, h.analyzer, h.limit, h.isOpen, h.running, h.later⟩ hrest
    | close => exact absurd List.mem_cons_self hopen
    | wait ms =>
      obtain ⟨order, horder, hresults, hruns⟩ := h.wait ms
      obtain ⟨later, hlater, hreceived⟩ := ih hruns hrest
      refine ⟨order ++ later, ?_, ?_⟩
      · rw [waiting_wait] at hlater
        have hall := horder.append hlater ((r.step (.wait ms)).1.now_le_run steps) fun p hp =>
          Nat.le_trans (le_of_mem_begins hp) (Nat.le_add_right _ _)
        rw [List.append_assoc] at hall
        exact hall
      · rw [Run.received, hresults, hreceived, List.map_append]
        rfl

/-- The calls are made whether or not somebody is left to receive the results. -/
theorem calls_run (r : Run) (steps : List Step) : (r.run steps).dispatcher.calls =
    r.dispatcher.calls ++
      ((begins r.now r.dispatcher.waiting steps).filter (¬ ·.2.isBlank)).map (·.2.content) := by
  induction steps generalizing r with
  | nil => exact (List.append_nil _).symm
  | cons t steps ih =>
    refine (ih (r.step t).1).trans ?_
    cases t with
    | dispatch | close => rfl
    | wait ms =>
      have hbegun : (r.step (.wait ms)).1.dispatcher.calls = r.dispatcher.calls ++
          (r.dispatcher.waiting.filter (¬ ·.isBlank)).map Request.content :=
        r.dispatcher.calls_begin r.now
      rw [waiting_wait, hbegun, begins, List.filter_append, List.map_append, List.append_assoc,
        List.filter_map, List.map_map]
      rfl

/-- A wait is the same as its two parts. -/
theorem wait_add (r : Run) (m n : Nat) :
    r.received [.wait (m + n)] = r.received [.wait m, .wait n] ∧
      r.run [.wait (m + n)] = r.run [.wait m, .wait n] := by
  have hidle := begin_of_nil _ (r.now + m) (r.waiting_wait m)
  have hle : r.now + m ≤ r.now + m + n := Nat.le_add_right _ _
  have hpass := pass_pass (d := r.dispatcher.begin r.now) hle
  have hended := ended_append (d := r.dispatcher.begin r.now) hle
  simp only [step] at hidle
  constructor
  · simp only [received, step, hidle, Option.getD_some, List.append_nil, ← Nat.add_assoc]
    cases r.closed with
    | true => rfl
    | false =>
      simp only [Bool.false_eq_true, if_false]
      rw [← List.map_append, hended]
  · simp only [run, List.foldl_cons, List.foldl_nil, step, hidle, ← Nat.add_assoc, hpass]

theorem received_of_closed (h : r.closed) : r.received steps = [] := by
  induction steps generalizing r with
  | nil => rfl
  | cons t steps ih =>
    have hnone : (r.step t).2.getD [] = [] := by
      cases t with
      | dispatch | close => rfl
      | wait ms => simp only [step, h, if_true, Option.getD_some]
    have hclosed : (r.step t).1.closed := by
      cases t with
      | dispatch | wait => exact h
      | close => rfl
    rw [received, hnone, ih hclosed]
    rfl

theorem received_close (r : Run) (before after : List Step) :
    r.received (before ++ .close :: after) = r.received before := by
  have hclosed : (((r.run before).step .close).1.received after) = [] := received_of_closed rfl
  rw [received_append, received, hclosed]
  exact List.append_nil _

theorem split_wait (r : Run) (before after : List Step) (m n : Nat) :
    r.received (before ++ .wait (m + n) :: after) =
        r.received (before ++ .wait m :: .wait n :: after) ∧
      r.run (before ++ .wait (m + n) :: after) =
        r.run (before ++ .wait m :: .wait n :: after) := by
  obtain ⟨hreceived, hrun⟩ := (r.run before).wait_add m n
  have hwhole : before ++ .wait (m + n) :: after = before ++ ([.wait (m + n)] ++ after) := rfl
  have hparts : before ++ .wait m :: .wait n :: after =
      before ++ ([.wait m, .wait n] ++ after) := rfl
  constructor
  · rw [hwhole, hparts, received_append, received_append _ before, received_append,
      received_append _ [.wait m, .wait n], hreceived, hrun]
  · rw [hwhole, hparts, run_append, run_append _ before, run_append, hrun, ← run_append]

theorem completes_of_measured {measure : Nat → Nat → Nat} (clock : Clock) (s : Script)
    (deadline : Nat) (measured : ∀ p ∈ begins 0 [] steps,
      due clock.wait s deadline p = due measure s deadline p) :
    Completes measure clock s deadline steps := by
  have hstart : Runs clock s deadline [] (start clock s.analyzer deadline) :=
    ⟨rfl, rfl, rfl, rfl, rfl, fun p hp => by cases hp⟩
  refine ⟨?_, ?_, ?_, ?_⟩
  · intro hopen
    obtain ⟨order, horder, hreceived⟩ := hstart.received hopen
    have hdue := horder.congr measured
    refine ⟨order, hdue.perm, hdue, ?_, hreceived⟩
    rw [hreceived, List.map_map]
    refine List.map_congr_left fun p _ => ?_
    exact Prod.ext (generation_analyze clock s.analyzer deadline 0 p.1 p.2)
      (content_analyze clock s.analyzer deadline 0 p.1 p.2)
  · exact calls_run _ steps
  · rintro before after m n rfl
    obtain ⟨hreceived, hrun⟩ := (start clock s.analyzer deadline).split_wait before after m n
    exact ⟨hreceived, congrArg (·.dispatcher.calls) hrun⟩
  · rintro before after rfl
    exact received_close _ before after

/-- Each request that begins has one result, that of its analysis alone; the results arrive in their
turn, however the time is cut, and after closing none arrives. A delay and a deadline whose ends the
clock can tell take as long as they say. -/
theorem completes (clock : Clock) (s : Script) (deadline : Nat) (steps : List Step) :
    Completes clock.wait clock s deadline steps ∧
      ((∀ p ∈ begins 0 [] steps, p.1 + s.delay p.2.content ≤ clock.last ∧
          p.1 + deadline ≤ clock.last) →
        Completes (fun _ ms => ms) clock s deadline steps) := by
  refine ⟨completes_of_measured clock s deadline fun _ _ => rfl, fun h => ?_⟩
  refine completes_of_measured clock s deadline fun p hp => ?_
  rw [due, due, clock.wait_eq (h p hp).1, clock.wait_eq (h p hp).2]

/-- An analyzer that takes longer for `x` than the clock can measure. -/
def unmeasured : Script := ⟨none, [⟨"x", some 9223372036854775808, none⟩]⟩

/-- With a wait that the clock cannot measure, the result arrives before the delay is over. -/
theorem not_completes_unmeasured : ¬ Completes (fun _ ms => ms) .nanoseconds unmeasured
    18446744073709551615 [.dispatch 1 "x", .wait 946080000000] := by
  intro h
  obtain ⟨order, hperm, _, _, hreceived⟩ := h.each (by decide)
  have hnone : (begins 0 [] [.dispatch 1 "x", .wait 946080000000]).filter
      (due (fun _ ms => ms) unmeasured 18446744073709551615 · ≤
        ((start .nanoseconds unmeasured.analyzer 18446744073709551615).run
          [.dispatch 1 "x", .wait 946080000000]).now) = [] := by
    decide +kernel
  have harrives : ((start .nanoseconds unmeasured.analyzer 18446744073709551615).received
      [.dispatch 1 "x", .wait 946080000000]).length = 1 := by
    decide +kernel
  rw [hnone] at hperm
  rw [hreceived, List.perm_nil.mp hperm] at harrives
  cases harrives

end Run
end LiveTemplate.Dispatcher
