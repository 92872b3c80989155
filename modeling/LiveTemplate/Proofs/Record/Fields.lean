import LiveTemplate.Proofs.Record.Passing

namespace LiveTemplate.Record

variable {p q w : Payload} {f : Field} {s r : List Char} {a b : Reason}

/-- A record is what its fields hold. -/
theorem eq_of_content (h : ∀ f, content p f = content q f) : p = q := by
  have herror : p.error = q.error := by
    have he := h .error
    simp only [content] at he
    cases hp : p.error <;> cases hq : q.error <;> simp_all
  cases p
  cases q
  simp only [Payload.mk.injEq]
  exact ⟨Content.text.inj (h .parse), Content.text.inj (h .lex), Content.text.inj (h .ruby),
    Content.text.inj (h .html), Content.text.inj (h .linter), Content.text.inj (h .version),
    Content.number.inj (h .duration), Content.truth.inj (h .success), herror⟩

theorem scanWhole_reason {x : List Char × List Char} (h : scanWhole a s = .ok x) :
    scanWhole b s = .ok x := by
  cases s with
  | nil => cases h
  | cons c s => exact h

theorem scanFraction_reason {x : Option (List Char) × List Char} (h : scanFraction a s = .ok x) :
    scanFraction b s = .ok x := by
  unfold scanFraction at h ⊢
  split at h
  next rest =>
    cases hd : rest.takeWhile Char.isDigit with
    | nil =>
      rw [hd] at h
      dsimp only at h
      split at h <;> cases h
    | cons d ds =>
      rw [hd] at h
      exact h
  next => exact h

theorem scanExponent_reason {x : Option (Bool × List Char) × List Char}
    (h : scanExponent a s = .ok x) : scanExponent b s = .ok x := by
  cases s with
  | nil => exact h
  | cons c s =>
    rw [scanExponent] at h ⊢
    dsimp only at h ⊢
    split at h
    next hc =>
      rw [if_pos hc]
      cases hs : (exponentSign s).2 with
      | nil =>
        rw [hs] at h
        cases h
      | cons d r =>
        rw [hs] at h
        exact h
    next hc =>
      rw [if_neg hc]
      exact h

/-- Why a number is cut short matters only where it is. -/
theorem scanNumeral_reason {x : Numeral × List Char} (h : scanNumeral a s = .ok x) :
    scanNumeral b s = .ok x := by
  unfold scanNumeral at h ⊢
  dsimp only at h ⊢
  split at h
  next => cases h
  next hw =>
    rw [scanWhole_reason hw]
    dsimp only
    split at h
    next => cases h
    next hf =>
      rw [scanFraction_reason hf]
      dsimp only
      split at h
      next => cases h
      next he =>
        rw [scanExponent_reason he]
        exact h

theorem skipScalar_of_scanText {t : String} (h : scanText s = .ok (t, r)) :
    skipScalar s = .ok r := by
  unfold scanText at h
  split at h
  next rest =>
    obtain ⟨x, hx, he⟩ := map_ok h
    cases he
    exact skipString_of_scanString hx
  next => cases h

theorem skipScalar_of_scanBool {t : Bool} (h : scanBool s = .ok (t, r)) :
    skipScalar s = .ok r := by
  unfold scanBool at h
  split at h
  next =>
    obtain ⟨x, hx, he⟩ := map_ok h
    cases he
    exact hx
  next =>
    obtain ⟨x, hx, he⟩ := map_ok h
    cases he
    exact hx
  next => cases h

theorem skipScalar_of_scanOptionalText {t : Option String}
    (h : scanOptionalText s = .ok (t, r)) : skipScalar s = .ok r := by
  unfold scanOptionalText at h
  split at h
  next =>
    obtain ⟨x, hx, he⟩ := map_ok h
    cases he
    exact hx
  next =>
    obtain ⟨x, hx, he⟩ := map_ok h
    cases he
    exact skipScalar_of_scanText hx

theorem skipScalar_of_scanDuration {x : Binary64} (h : scanDuration s = .ok (x, r)) :
    skipScalar s = .ok r := by
  unfold scanDuration at h
  split at h
  next hc =>
    cases s with
    | nil => cases hc
    | cons c s =>
      unfold scanFloat at h
      split at h
      next => cases h
      next n rest hn =>
        have hrest : rest = r := by
          split at h <;> cases h
          rfl
        rw [skipScalar_of_startsNumeral hc, scanNumeral_reason hn, ← hrest]
        rfl
  next => cases h

theorem skipScalar_of_scanField (h : scanField p f s = .ok (q, r)) :
    skipScalar (skipSpace s) = .ok r := by
  cases f
  case duration =>
    obtain ⟨x, hx, he⟩ := map_ok h
    cases he
    exact skipScalar_of_scanDuration hx
  case success =>
    obtain ⟨x, hx, he⟩ := map_ok h
    cases he
    exact skipScalar_of_scanBool hx
  case error =>
    obtain ⟨x, hx, he⟩ := map_ok h
    cases he
    exact skipScalar_of_scanOptionalText hx
  all_goals
    obtain ⟨x, hx, he⟩ := map_ok h
    cases he
    exact skipScalar_of_scanText hx

theorem opened?_of_skipScalar {c : Char} (h : skipScalar (c :: s) = .ok r) : opened? c = none := by
  unfold opened?
  split
  next hc =>
    subst hc
    cases h
  next =>
    split
    next hc =>
      subst hc
      cases h
    next => rfl

/-- Where a field can be read, any reader may pass over its value to the same place. -/
theorem skipValue_of_scanField (h : scanField p f s = .ok (q, r)) : skipValue s = .ok r := by
  have hx := skipScalar_of_scanField h
  rw [skipValue, skipOpen_true]
  cases hs : skipSpace s with
  | nil =>
    rw [hs] at hx
    cases hx
  | cons c rest =>
    rw [hs] at hx
    simp only [opened?_of_skipScalar hx, hx]
    exact skipOpen_nil r

theorem skipValue_text (sp : Space) (v : Value) (h : EndsNumber s) :
    skipValue (sp.text ++ (v.text ++ s)) = .ok s := by
  rw [skipValue, skipOpen_true_space_append, v.skipOpen_text [] h, skipOpen_nil]

/-- A field is read to the end of its value, whatever is written there. -/
theorem eq_of_scanField {sp : Space} {v : Value} (hs : EndsNumber s)
    (h : scanField p f (sp.text ++ (v.text ++ s)) = .ok (q, r)) : r = s := by
  have hskip := skipValue_of_scanField h
  rw [skipValue_text sp v hs] at hskip
  exact (Except.ok.inj hskip).symm

theorem scanText_string {gs : List Glyph} {t : String} (h : Spells gs t.toList) (s : List Char) :
    scanText ((Value.string gs).text ++ s) = .ok (t, s) := by
  rw [Value.text, List.cons_append, scanText, scanString_quoted h]
  simp [Except.map]

theorem scanBool_bool (t : Bool) (s : List Char) :
    scanBool ((Value.bool t).text ++ s) = .ok (t, s) := by
  cases t <;> rfl

theorem scanOptionalText_string {gs : List Glyph} {t : String} (h : Spells gs t.toList)
    (s : List Char) : scanOptionalText ((Value.string gs).text ++ s) = .ok (some t, s) := by
  have htext := scanText_string h s
  rw [Value.text, List.cons_append] at htext ⊢
  rw [scanOptionalText, htext]
  · rfl
  · intro rest hrest
    cases hrest

theorem scanDuration_number {n : Number} {k : Nat} {x : Binary64} (hn : n.IsNat k)
    (hk : k ≤ 0x20000000000000) (hsign : x.isNegative = false)
    (hx : x.units = k * Binary64.unitsOfOne) (h : EndsNumber s) :
    scanDuration ((Value.number n).text ++ s) = .ok (x, s) := by
  obtain ⟨c, r, htext, hc⟩ := startsNumeral_text n
  have hread := scanFloat_text hn hk hsign hx h
  have hstart : (n.text ++ s).head?.any startsNumeral = true := by
    rw [htext]
    exact hc
  rw [Value.text, scanDuration, if_pos hstart, hread]

theorem skipSpace_value (sp : Space) (v : Value) (s : List Char) :
    skipSpace (sp.text ++ (v.text ++ s)) = v.text ++ s := by
  obtain ⟨c, r, htext, hspace, -⟩ := v.exists_text
  rw [htext, List.cons_append, skipSpace_space_cons hspace]

theorem content_of_scanField {g : Field} (h : scanField p f s = .ok (q, r)) (hg : g ≠ f) :
    content q g = content p g := by
  cases f
  all_goals
    obtain ⟨x, -, he⟩ := map_ok h
    cases he
    cases g <;> first | rfl | exact absurd rfl hg

/-- A value that is written for what a record holds in a field is read as that. -/
theorem scanField_text {v : Value} (h : v.Means (content w f)) (p : Payload) (sp : Space)
    (hs : EndsNumber s) : ∃ q, scanField p f (sp.text ++ (v.text ++ s)) = .ok (q, s) ∧
      content q f = content w f := by
  have hspace := skipSpace_value sp v s
  cases f
  case duration =>
    cases h with
    | number hn hk hsign hx =>
      refine ⟨{ p with duration := w.duration }, ?_, rfl⟩
      simp only [scanField, hspace, scanDuration_number hn hk hsign hx hs]
      rfl
  case success =>
    cases h with
    | bool =>
      refine ⟨{ p with success := w.success }, ?_, rfl⟩
      simp only [scanField, hspace, scanBool_bool]
      rfl
  case error =>
    cases hw : w.error with
    | none =>
      simp only [content, hw, Option.elim_none] at h
      cases h with
      | null =>
        refine ⟨{ p with error := none }, ?_, by simp only [content, hw]⟩
        simp only [scanField, hspace]
        rfl
    | some e =>
      simp only [content, hw, Option.elim_some] at h
      cases h with
      | string ht =>
        refine ⟨{ p with error := some e }, ?_, by simp only [content, hw]⟩
        simp only [scanField, hspace, scanOptionalText_string ht]
        rfl
  all_goals
    cases h with
    | string ht =>
      apply Exists.intro
      constructor
      · simp only [scanField, hspace, scanText_string ht]
        rfl
      · rfl

end LiveTemplate.Record
