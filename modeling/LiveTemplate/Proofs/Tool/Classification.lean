import LiveTemplate.Tool.Verdict

namespace LiveTemplate

/-- `t` is `s`, or if `s` is longer than `limit`, the first `kept` characters of it and three dots. -/
structure Cut (limit kept : Nat) (s t : List Char) : Prop where
  whole : s.length ≤ limit → t = s
  cut : limit < s.length → t = s.take kept ++ ['.', '.', '.']

/-- The record of an output gives this reason, which is not blank. -/
def Reports (out : List Char) (e : String) : Prop :=
  ∃ p : Payload, Record.decode (trimWhite out) = .ok p ∧ p.error = some e ∧ ¬ isBlank e

/-- What a failed analyzer tells: the reason in its record, else its error output without the space
around it, else the way it ended. -/
inductive Tells (ending : Ending) (out errors : List Char) : List Char → Prop where
  | record (e : String) (h : Reports out e) : Tells ending out errors e.toList
  | output (hr : ∀ e, ¬ Reports out e) (h : trimWhite errors ≠ []) :
    Tells ending out errors (trimWhite errors)
  | ending (hr : ∀ e, ¬ Reports out e) (h : trimWhite errors = []) :
    Tells ending out errors ending.text.toList

/-- The outcome `o` of an analyzer that ended in this way after writing `out` and `errors`. -/
structure Classifies (ending : Ending) (out errors : List Char) (o : Except Failure Payload) :
    Prop where
  ok_iff : ∀ p, o = .ok p ↔ ending.success = true ∧ Record.decode (trimWhite out) = .ok p
  malformed : ∀ f, ending.success = true → Record.decode (trimWhite out) = .error f →
    ∃ shown, Cut 100 100 out shown ∧
      o = .error (.malformed (f.message (trimWhite out)) (String.ofList shown))
  failed : ending.success = false → ∃ told detail, Tells ending out errors told ∧
    Cut 2000 1997 told detail.toList ∧ ¬ isBlank detail ∧ detail.toList.length ≤ 2000 ∧
      o = .error (.process detail)

variable {ending : Ending} {out errors s : List Char} {limit kept : Nat}

theorem cut_shorten (limit kept : Nat) (s : List Char) : Cut limit kept s (shorten limit kept s) :=
  ⟨fun h => if_pos h, fun h => if_neg (Nat.not_le.mpr h)⟩

theorem length_shorten_le (h : kept + 3 ≤ limit) : (shorten limit kept s).length ≤ limit := by
  unfold shorten
  split
  next hs => exact hs
  next =>
    simp only [List.length_append, List.length_take, List.length_cons, List.length_nil]
    omega

/-- Three dots are not blank, nor is a text that was not. -/
theorem not_isBlankText_shorten (h : ¬ isBlankText s) : ¬ isBlankText (shorten limit kept s) := by
  unfold shorten
  split
  next => exact h
  next =>
    rw [isBlankText_iff, List.all_append]
    simp [isWhite]

/-- What is left after trimming ends in a character that is not white. -/
theorem not_isBlankText_trimWhite (h : trimWhite s ≠ []) : ¬ isBlankText (trimWhite s) := by
  have hreverse : (s.dropWhile isWhite).reverse.dropWhile isWhite ≠ [] := by
    intro hn
    exact h (by rw [trimWhite, hn, List.reverse_nil])
  have hhead := List.head_dropWhile_not isWhite hreverse
  rw [isBlankText_iff, trimWhite, List.all_reverse]
  intro hall
  have hwhite := List.all_eq_true.mp hall _ (List.head_mem hreverse)
  rw [hhead] at hwhite
  cases hwhite

theorem reportedError?_eq_some_iff {e : String} : reportedError? out = some e ↔ Reports out e := by
  unfold reportedError? Reports
  split
  next f hf => simp [hf]
  next p hp => simp [hp, Option.filter_eq_some_iff]

theorem Ending.not_isBlank_text (ending : Ending) : ¬ isBlankText ending.text.toList := by
  rw [isBlankText_iff]
  cases ending with
  | exited code => simp [text, isWhite]
  | killed signal dumped => simp [text, isWhite]

theorem Tells.not_isBlank {told : List Char} (h : Tells ending out errors told) :
    ¬ isBlankText told := by
  cases h with
  | record e h =>
    obtain ⟨p, -, -, hb⟩ := h
    exact hb
  | output _ h => exact not_isBlankText_trimWhite h
  | ending => exact ending.not_isBlank_text

theorem failureDetail_eq (ending : Ending) (out errors : List Char) :
    ∃ told, Tells ending out errors told ∧
      failureDetail ending out errors = String.ofList (shorten 2000 1997 told) := by
  unfold failureDetail
  cases hr : reportedError? out with
  | some e => exact ⟨e.toList, .record e (reportedError?_eq_some_iff.mp hr), rfl⟩
  | none =>
    have hnone : ∀ e, ¬ Reports out e := by
      intro e he
      rw [reportedError?_eq_some_iff.mpr he] at hr
      cases hr
    by_cases h : trimWhite errors = []
    · exact ⟨_, .ending hnone h, by simp [h]⟩
    · exact ⟨_, .output hnone h, by simp [h]⟩

theorem classifies_of_record {p : Payload} (hs : ending.success = true)
    (hp : Record.decode (trimWhite out) = .ok p) : Classifies ending out errors (.ok p) where
  ok_iff q := by
    rw [hp, Except.ok.injEq, Except.ok.injEq]
    exact ⟨fun h => ⟨hs, h⟩, fun h => h.2⟩
  malformed f _ hf := by
    rw [hp] at hf
    cases hf
  failed hn := by
    rw [hs] at hn
    cases hn

theorem classifies_of_fault {f : Record.Fault} (hs : ending.success = true)
    (hf : Record.decode (trimWhite out) = .error f) : Classifies ending out errors
      (.error (.malformed (f.message (trimWhite out)) (String.ofList (preview out)))) where
  ok_iff p := by
    rw [hf]
    exact ⟨nofun, fun h => nomatch h.2⟩
  malformed g _ hg := by
    rw [hf] at hg
    cases hg
    exact ⟨preview out, cut_shorten 100 100 out, rfl⟩
  failed hn := by
    rw [hs] at hn
    cases hn

theorem classifies_of_failure (hs : ending.success = false) :
    Classifies ending out errors (.error (.process (failureDetail ending out errors))) where
  ok_iff p := by
    rw [hs]
    exact ⟨nofun, nofun⟩
  malformed f hn := by
    rw [hs] at hn
    cases hn
  failed _ := by
    obtain ⟨told, htold, hdetail⟩ := failureDetail_eq ending out errors
    refine ⟨told, failureDetail ending out errors, htold, ?_, ?_, ?_, rfl⟩
    · rw [hdetail, String.toList_ofList]
      exact cut_shorten 2000 1997 told
    · rw [hdetail, isBlank, String.toList_ofList]
      exact not_isBlankText_shorten htold.not_isBlank
    · rw [hdetail, String.toList_ofList]
      exact length_shorten_le (Nat.le_refl 2000)

/-- Every analyzer that ended is classified by the way it ended and by what its bytes spell. -/
theorem verdict_classifies (ending : Ending) (stdout stderr : List UInt8) :
    Classifies ending (decodeUtf8Lossy stdout) (decodeUtf8Lossy stderr)
      (verdict ending stdout stderr) := by
  cases hs : ending.success with
  | true =>
    cases hd : Record.decode (trimWhite (decodeUtf8Lossy stdout)) with
    | ok p =>
      have ho : verdict ending stdout stderr = .ok p := by simp [verdict, hs, hd]
      rw [ho]
      exact classifies_of_record hs hd
    | error f =>
      have ho : verdict ending stdout stderr =
          .error (.malformed (f.message (trimWhite (decodeUtf8Lossy stdout)))
            (String.ofList (preview (decodeUtf8Lossy stdout)))) := by
        simp [verdict, hs, hd]
      rw [ho]
      exact classifies_of_fault hs hd
  | false =>
    have ho : verdict ending stdout stderr = .error (.process (failureDetail ending
        (decodeUtf8Lossy stdout) (decodeUtf8Lossy stderr))) := by
      simp [verdict, hs]
    rw [ho]
    exact classifies_of_failure hs

end LiveTemplate
