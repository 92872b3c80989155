import LiveTemplate.Proofs.Editor.SplitText
import Mathlib.Logic.Function.Iterate

namespace LiveTemplate

/-- Some line feed of the text stands right behind that many returns. -/
def FeedBehind (returns : Nat) (s : List Char) : Prop :=
  List.replicate returns '\r' ++ ['\n'] <:+: s

/-- The text starts with that many returns and a line feed. -/
def StartsBehind (returns : Nat) (s : List Char) : Prop :=
  List.replicate returns '\r' ++ ['\n'] <+: s

variable {c : Char} {s : List Char} {returns : Nat}

theorem not_startsBehind_nil (returns : Nat) : ¬ StartsBehind returns [] := by
  intro h
  simpa using List.prefix_nil.mp h

theorem not_feedBehind_nil (returns : Nat) : ¬ FeedBehind returns [] := by
  intro h
  simpa using List.infix_nil.mp h

theorem startsBehind_zero_iff : StartsBehind 0 s ↔ s.head? = some '\n' := by
  cases s with
  | nil => simp [not_startsBehind_nil]
  | cons c s => simp [StartsBehind, List.cons_prefix_cons, eq_comm]

theorem startsBehind_succ_cons :
    StartsBehind (returns + 1) (c :: s) ↔ c = '\r' ∧ StartsBehind returns s := by
  rw [StartsBehind, List.replicate_succ, List.cons_append, List.cons_prefix_cons, StartsBehind,
    eq_comm]

theorem startsBehind_one_cons : StartsBehind 1 (c :: s) ↔ c = '\r' ∧ s.head? = some '\n' := by
  rw [startsBehind_succ_cons, startsBehind_zero_iff]

theorem not_startsBehind_succ (h : StartsBehind 0 s) : ¬ StartsBehind (returns + 1) s := by
  have hfeed := startsBehind_zero_iff.mp h
  cases s with
  | nil => exact not_startsBehind_nil _
  | cons c s =>
    intro hs
    obtain ⟨hreturn, -⟩ := startsBehind_succ_cons.mp hs
    simp [hreturn] at hfeed

theorem feedBehind_cons :
    FeedBehind returns (c :: s) ↔ StartsBehind returns (c :: s) ∨ FeedBehind returns s :=
  List.infix_cons_iff

theorem feedBehind_of_startsBehind (h : StartsBehind returns s) : FeedBehind returns s :=
  h.isInfix

theorem not_feedBehind_of_not_mem (h : '\n' ∉ s) : ¬ FeedBehind returns s := by
  intro hf
  exact h (hf.subset (by simp))

/-- The return of a pair is left out, and every other character stays. -/
theorem dropReturns_pair (h : StartsBehind 1 (c :: s)) : dropReturns (c :: s) = dropReturns s := by
  rw [dropReturns, if_pos (startsBehind_one_cons.mp h)]

theorem dropReturns_plain (h : ¬ StartsBehind 1 (c :: s)) :
    dropReturns (c :: s) = c :: dropReturns s := by
  rw [dropReturns, if_neg]
  exact fun hpair => h (startsBehind_one_cons.mpr hpair)

theorem startsBehind_zero_dropReturns (h : StartsBehind 0 s) : StartsBehind 0 (dropReturns s) := by
  cases s with
  | nil => exact h
  | cons c s =>
    rw [dropReturns_plain (not_startsBehind_succ h)]
    rw [startsBehind_zero_iff] at h ⊢
    exact h

/-- A pair at the start leaves its feed there, and nothing else puts one there. -/
theorem startsBehind_zero_dropReturns_iff :
    StartsBehind 0 (dropReturns s) ↔ StartsBehind 0 s ∨ StartsBehind 1 s := by
  cases s with
  | nil => simp [dropReturns, not_startsBehind_nil]
  | cons c s =>
    by_cases hpair : StartsBehind 1 (c :: s)
    · have hs := (startsBehind_succ_cons.mp hpair).2
      rw [dropReturns_pair hpair]
      exact ⟨fun _ => Or.inr hpair, fun _ => startsBehind_zero_dropReturns hs⟩
    · rw [dropReturns_plain hpair, startsBehind_zero_iff, startsBehind_zero_iff]
      simp [hpair]

theorem startsBehind_dropReturns :
    StartsBehind (returns + 1) (dropReturns s) ↔ StartsBehind (returns + 2) s := by
  induction s generalizing returns with
  | nil => simp [dropReturns, not_startsBehind_nil]
  | cons c s ih =>
    by_cases hpair : StartsBehind 1 (c :: s)
    · have hs := (startsBehind_succ_cons.mp hpair).2
      rw [dropReturns_pair hpair, startsBehind_succ_cons]
      exact iff_of_false (not_startsBehind_succ (startsBehind_zero_dropReturns hs))
        fun h => not_startsBehind_succ hs h.2
    · rw [dropReturns_plain hpair, startsBehind_succ_cons, startsBehind_succ_cons]
      cases returns with
      | zero =>
        rw [startsBehind_zero_dropReturns_iff]
        rw [startsBehind_succ_cons] at hpair
        constructor
        · rintro ⟨hc, hs | hs⟩
          · exact absurd ⟨hc, hs⟩ hpair
          · exact ⟨hc, hs⟩
        · rintro ⟨hc, hs⟩
          exact ⟨hc, Or.inr hs⟩
      | succ returns => rw [ih]

/-- One pass takes one return from before every line feed that has any. -/
theorem feedBehind_dropReturns :
    FeedBehind (returns + 1) (dropReturns s) ↔ FeedBehind (returns + 2) s := by
  induction s with
  | nil => simp [dropReturns, not_feedBehind_nil]
  | cons c s ih =>
    have hstart : StartsBehind (returns + 1) (dropReturns (c :: s)) ↔
        StartsBehind (returns + 2) (c :: s) := startsBehind_dropReturns
    by_cases hpair : StartsBehind 1 (c :: s)
    · rw [dropReturns_pair hpair] at hstart ⊢
      rw [feedBehind_cons, ← hstart, ← ih]
      exact ⟨Or.inr, fun h => h.elim feedBehind_of_startsBehind id⟩
    · rw [dropReturns_plain hpair] at hstart ⊢
      rw [feedBehind_cons, feedBehind_cons, hstart, ih]

theorem dropReturns_sublist (s : List Char) : (dropReturns s).Sublist s := by
  fun_induction dropReturns s with
  | case1 => exact List.Sublist.slnil
  | case2 c s _ ih => exact ih.cons c
  | case3 c s _ ih => exact ih.cons_cons c

theorem dropReturns_eq_self_iff : dropReturns s = s ↔ ¬ FeedBehind 1 s := by
  fun_induction dropReturns s with
  | case1 => simp [not_feedBehind_nil]
  | case2 c s hpair ih =>
    have hlength := (dropReturns_sublist s).length_le
    have hne : dropReturns s ≠ c :: s := by
      intro h
      rw [h, List.length_cons] at hlength
      omega
    have hstart : StartsBehind 1 (c :: s) := startsBehind_one_cons.mpr hpair
    exact iff_of_false hne (not_not_intro (feedBehind_of_startsBehind hstart))
  | case3 c s hplain ih =>
    have hstart : ¬ StartsBehind 1 (c :: s) := fun h => hplain (startsBehind_one_cons.mp h)
    rw [List.cons_inj_right, ih, feedBehind_cons, or_iff_right hstart]

theorem count_dropReturns (s : List Char) : (dropReturns s).count '\n' = s.count '\n' := by
  fun_induction dropReturns s with
  | case1 => rfl
  | case2 c s hpair ih =>
    rw [ih, hpair.1]
    simp
  | case3 c s _ ih => rw [List.count_cons, List.count_cons, ih]

/-- The last row has no line feed, so it keeps all its returns. -/
theorem lastLine_dropReturns (s : List Char) : lastLine (dropReturns s) = lastLine s := by
  fun_induction dropReturns s with
  | case1 => rfl
  | case2 c s hpair ih =>
    have hfeed : '\n' ∈ s := List.mem_of_mem_head? hpair.2
    rw [ih, lastLine_cons, if_pos (Or.inr hfeed)]
  | case3 c s _ ih =>
    have hkept : '\n' ∈ dropReturns s ↔ '\n' ∈ s := by
      rw [← List.count_pos_iff, count_dropReturns, List.count_pos_iff]
    by_cases hfeed : c = '\n' ∨ '\n' ∈ s
    · rw [lastLine_cons, lastLine_cons, if_pos hfeed, if_pos (hfeed.imp_right hkept.mpr), ih]
    · have hplain : '\n' ∉ s := fun hm => hfeed (Or.inr hm)
      rw [dropReturns_eq_self_iff.mpr (not_feedBehind_of_not_mem hplain)]

namespace Editor

/-- Loads what it holds. -/
def reload (e : Editor) : Editor := e.setValue e.value

/-- No return stands before a line feed, and loading what the editor holds changes neither the text
nor the cursor. -/
structure Settled (e : Editor) : Prop where
  noPair : ¬ FeedBehind 1 e.value.toList
  value : e.reload.value = e.value
  cursor : e.reload.row = e.row ∧ e.reload.column = e.column

theorem toList_value (e : Editor) : e.value.toList = e.text := String.toList_ofList

theorem text_setValue (e : Editor) (s : String) : (e.setValue s).text = dropReturns s.toList := rfl

theorem cursor_setValue (e : Editor) (s : String) : (e.setValue s).row = s.toList.count '\n' ∧
    (e.setValue s).column = (lastLine s.toList).length := by
  have h := e.between_setValue s
  rw [← dropReturns_eq] at h
  rw [h.row, h.column, count_dropReturns, lastLine_dropReturns]
  exact ⟨rfl, rfl⟩

/-- A load counts no returns before line feeds, so another one leaves the cursor there. -/
theorem cursor_reload (e : Editor) (s : String) : (e.setValue s).reload.row = (e.setValue s).row ∧
    (e.setValue s).reload.column = (e.setValue s).column := by
  obtain ⟨hrow, hcolumn⟩ := e.cursor_setValue s
  obtain ⟨hrow', hcolumn'⟩ := (e.setValue s).cursor_setValue (e.setValue s).value
  rw [toList_value, text_setValue] at hrow' hcolumn'
  rw [count_dropReturns] at hrow'
  rw [lastLine_dropReturns] at hcolumn'
  exact ⟨hrow'.trans hrow.symm, hcolumn'.trans hcolumn.symm⟩

theorem settled_setValue_iff (e : Editor) (s : String) :
    (e.setValue s).Settled ↔ ¬ FeedBehind 2 s.toList := by
  have hpair : FeedBehind 1 (e.setValue s).value.toList ↔ FeedBehind 2 s.toList := by
    rw [toList_value, text_setValue]
    exact feedBehind_dropReturns
  constructor
  · intro h hs
    exact h.noPair (hpair.mpr hs)
  · intro hs
    have hplain : ¬ FeedBehind 1 (e.setValue s).value.toList := fun h => hs (hpair.mp h)
    have htext : (e.setValue s).reload.text = (e.setValue s).text := by
      rw [reload, text_setValue, dropReturns_eq_self_iff.mpr hplain, toList_value]
    exact ⟨hplain, congrArg String.ofList htext, e.cursor_reload s⟩

/-- After a load and so many others the cursor is where the first has put it, and the editor has
settled exactly if no line feed of the text stands behind that many returns and two. -/
theorem settled_reload_iff (e : Editor) (s : String) (loads : Nat) :
    ((reload^[loads] (e.setValue s)).row = (e.setValue s).row ∧
      (reload^[loads] (e.setValue s)).column = (e.setValue s).column) ∧
    ((reload^[loads] (e.setValue s)).Settled ↔ ¬ FeedBehind (loads + 2) s.toList) := by
  induction loads generalizing e s with
  | zero => exact ⟨⟨rfl, rfl⟩, e.settled_setValue_iff s⟩
  | succ loads ih =>
    obtain ⟨⟨hrow, hcolumn⟩, hsettled⟩ := ih (e.setValue s) (e.setValue s).value
    obtain ⟨hrow', hcolumn'⟩ := e.cursor_reload s
    rw [toList_value, text_setValue, feedBehind_dropReturns] at hsettled
    rw [Function.iterate_succ_apply]
    exact ⟨⟨hrow.trans hrow', hcolumn.trans hcolumn'⟩, hsettled⟩

/-- One of two returns before a line feed is left, and loading again takes it. -/
theorem not_settled_twoReturns : ¬ (ofText "\r\r\n").Settled := by
  rw [ofText, settled_setValue_iff, not_not]
  exact ⟨[], [], rfl⟩

end Editor
end LiveTemplate
