import LiveTemplate.Proofs.Record.Numbers
import LiveTemplate.Proofs.Record.Tokens

namespace LiveTemplate.Record

variable {b : Bracket} {below : List Bracket} {s r : List Char} {c d : Char}

theorem skipOpen_true (below : List Bracket) (s : List Char) : skipOpen true below s =
    match skipSpace s with
    | [] => .error (.atEnd .endOfValue)
    | c :: rest =>
      match opened? c with
      | none => (skipScalar (c :: rest)).bind (skipOpen false below)
      | some b =>
        match skipSpace rest with
        | [] => .error (.atEnd b.atEnd)
        | d :: rest' =>
          if d = b.closing then skipOpen false below rest'
          else (skipToValue b (d :: rest')).bind (skipOpen true (b :: below)) := by
  rw [skipOpen.eq_def, if_pos rfl]
  generalize skipSpace s = t
  cases t with
  | nil => rfl
  | cons c rest =>
    dsimp only
    cases opened? c with
    | none =>
      dsimp only
      cases skipScalar (c :: rest) <;> rfl
    | some b =>
      dsimp only
      cases skipSpace rest with
      | nil => rfl
      | cons d rest' =>
        dsimp only
        split
        next => rfl
        next => cases skipToValue b (d :: rest') <;> rfl

theorem skipOpen_nil (s : List Char) : skipOpen false [] s = .ok s := by
  rw [skipOpen.eq_def, if_neg (by decide)]

theorem skipOpen_cons (b : Bracket) (below : List Bracket) (s : List Char) :
    skipOpen false (b :: below) s =
    match skipSpace s with
    | [] => .error (.atEnd b.atEnd)
    | c :: rest =>
      if c = b.closing then skipOpen false below rest
      else if c = ',' then (skipToValue b rest).bind (skipOpen true (b :: below))
      else .error (.within b.noComma (c :: rest)) := by
  rw [skipOpen.eq_def, if_neg (by decide)]
  dsimp only
  cases skipSpace s with
  | nil => rfl
  | cons c rest =>
    dsimp only
    split
    next => rfl
    next =>
      split
      next => cases skipToValue b rest <;> rfl
      next => rfl

theorem skipOpen_true_skipSpace (below : List Bracket) (s : List Char) :
    skipOpen true below (skipSpace s) = skipOpen true below s := by
  rw [skipOpen_true, skipOpen_true, skipSpace_skipSpace]

theorem skipOpen_true_space_append (below : List Bracket) (sp : Space) (s : List Char) :
    skipOpen true below (sp.text ++ s) = skipOpen true below s := by
  rw [skipOpen_true, skipOpen_true, skipSpace_space_append]

theorem skipOpen_scalar (hc : isSpace c = false) (ho : opened? c = none)
    (hx : skipScalar (c :: r) = .ok s) :
    skipOpen true below (c :: r) = skipOpen false below s := by
  rw [skipOpen_true, skipSpace_cons hc]
  simp only [ho, hx]
  rfl

theorem skipOpen_opening (hs : skipSpace s = d :: r) (hd : d ≠ b.closing) :
    skipOpen true below (b.opening :: s) =
      (skipToValue b (d :: r)).bind (skipOpen true (b :: below)) := by
  have hc : isSpace b.opening = false := by cases b <;> rfl
  have ho : opened? b.opening = some b := by cases b <;> rfl
  rw [skipOpen_true, skipSpace_cons hc]
  simp only [ho, hs, if_neg hd]

theorem isSpace_closing (b : Bracket) : isSpace b.closing = false := by
  cases b <;> rfl

theorem skipOpen_empty (sp : Space) (s : List Char) :
    skipOpen true below (b.opening :: (sp.text ++ b.closing :: s)) = skipOpen false below s := by
  have hc : isSpace b.opening = false := by cases b <;> rfl
  have ho : opened? b.opening = some b := by cases b <;> rfl
  rw [skipOpen_true, skipSpace_cons hc]
  simp only [ho, skipSpace_space_cons (isSpace_closing b), if_pos]

theorem skipOpen_closing (sp : Space) (s : List Char) :
    skipOpen false (b :: below) (sp.text ++ b.closing :: s) = skipOpen false below s := by
  rw [skipOpen_cons, skipSpace_space_cons (isSpace_closing b)]
  exact if_pos rfl

theorem skipOpen_comma (sp : Space) (s : List Char) :
    skipOpen false (b :: below) (sp.text ++ ',' :: s) =
      (skipToValue b s).bind (skipOpen true (b :: below)) := by
  have hc : ',' ≠ b.closing := by cases b <;> decide
  rw [skipOpen_cons, skipSpace_space_cons (by decide)]
  exact (if_neg hc).trans (if_pos rfl)

theorem startsNumeral_text (n : Number) :
    ∃ c r, n.text = c :: r ∧ startsNumeral c = true := by
  have hwhole : ∃ c r, n.whole.text = c :: r ∧ startsNumeral c = true := by
    cases n.whole with
    | zero => exact ⟨'0', [], rfl, rfl⟩
    | positive first rest =>
      refine ⟨_, _, rfl, ?_⟩
      rw [startsNumeral, isDigit_digitChar, Bool.or_true]
  obtain ⟨c, r, hw, hc⟩ := hwhole
  cases hn : n.negative with
  | true => exact ⟨'-', _, by simp [Number.text, hn]; rfl, rfl⟩
  | false => exact ⟨c, _, by simp [Number.text, hn, hw]; rfl, hc⟩

theorem ne_of_startsNumeral (h : startsNumeral c = true) (hd : startsNumeral d = false) :
    c ≠ d := by
  rintro rfl
  rw [hd] at h
  cases h

theorem isSpace_of_startsNumeral (h : startsNumeral c = true) : isSpace c = false := by
  have hne : ∀ d, startsNumeral d = false → c ≠ d := fun d => ne_of_startsNumeral h
  simp [isSpace, hne ' ' rfl, hne '\t' rfl, hne '\n' rfl, hne '\r' rfl]

theorem skipScalar_of_startsNumeral (hc : startsNumeral c = true) (s : List Char) :
    skipScalar (c :: s) = (scanNumeral .invalidNumber (c :: s)).map (·.2) := by
  rw [skipScalar, if_neg (ne_of_startsNumeral hc rfl), if_neg (ne_of_startsNumeral hc rfl),
    if_neg (ne_of_startsNumeral hc rfl), if_neg (ne_of_startsNumeral hc rfl), if_pos hc]

theorem skipScalar_number (n : Number) (h : EndsNumber s) : skipScalar (n.text ++ s) = .ok s := by
  obtain ⟨c, r, htext, hc⟩ := startsNumeral_text n
  have hread := scanNumeral_text .invalidNumber n h
  rw [htext, List.cons_append] at hread ⊢
  rw [skipScalar_of_startsNumeral hc, hread]
  rfl

theorem skipOpen_number (n : Number) (below : List Bracket) (h : EndsNumber s) :
    skipOpen true below (n.text ++ s) = skipOpen false below s := by
  obtain ⟨c, r, htext, hc⟩ := startsNumeral_text n
  have hskip := skipScalar_number n h
  have hopened : opened? c = none := by
    rw [opened?, if_neg (ne_of_startsNumeral hc rfl), if_neg (ne_of_startsNumeral hc rfl)]
  rw [htext, List.cons_append] at hskip ⊢
  exact skipOpen_scalar (isSpace_of_startsNumeral hc) hopened hskip

theorem skipScalar_string (gs : List Glyph) (s : List Char) :
    skipScalar ('"' :: (Glyph.quoted gs ++ s)) = .ok s :=
  skipString_quoted gs s

/-- A character that may follow a value after some space. -/
def FollowsValue (c : Char) : Prop := c = ',' ∨ c = ']' ∨ c = '\x7d'

theorem endsNumber_space_append (sp : Space) (h : FollowsValue c) (s : List Char) :
    EndsNumber (sp.text ++ c :: s) := by
  have hends : ∀ d : Char, isSpace d = true ∨ FollowsValue d →
      d.isDigit = false ∧ d ≠ '.' ∧ d ≠ 'e' ∧ d ≠ 'E' := by
    intro d hd
    have hcases : d = ' ' ∨ d = '\t' ∨ d = '\n' ∨ d = '\r' ∨ d = ',' ∨ d = ']' ∨ d = '\x7d' := by
      simpa [isSpace, FollowsValue, or_assoc] using hd
    rcases hcases with rfl | rfl | rfl | rfl | rfl | rfl | rfl <;> decide
  have hhead : ∀ d, (sp.text ++ c :: s).head? = some d → isSpace d = true ∨ FollowsValue d := by
    intro d hd
    cases sp with
    | nil =>
      cases hd
      exact Or.inr h
    | cons b sp =>
      cases hd
      exact Or.inl (isSpace_blank b)
  exact ⟨fun d hd => (hends d (hhead d hd)).1, fun hd => (hends '.' (hhead '.' hd)).2.1 rfl,
    fun d hd => (hends d (hhead d hd)).2.2⟩

theorem followsValue_closing (b : Bracket) : FollowsValue b.closing := by
  cases b with
  | list => exact Or.inr (Or.inl rfl)
  | object => exact Or.inr (Or.inr rfl)

/-- A value starts with a character of its own, which closes no list. -/
theorem Value.exists_text (v : Value) :
    ∃ c r, v.text = c :: r ∧ isSpace c = false ∧ c ≠ ']' := by
  cases v with
  | null => exact ⟨_, _, rfl, rfl, by decide⟩
  | bool b => cases b <;> exact ⟨_, _, rfl, rfl, by decide⟩
  | number n =>
    obtain ⟨c, r, htext, hc⟩ := startsNumeral_text n
    exact ⟨c, r, htext, isSpace_of_startsNumeral hc, ne_of_startsNumeral hc rfl⟩
  | string gs => exact ⟨_, _, rfl, rfl, by decide⟩
  | empty b inside => cases b <;> exact ⟨_, _, rfl, rfl, by decide⟩
  | full b items => cases b <;> exact ⟨_, _, by rw [text], rfl, by decide⟩

/-- Going on to the value behind what stands before it. -/
theorem skipToValue_lead (lead : Lead b) (below : List Bracket) (s : List Char) :
    (skipToValue b (lead.text ++ s)).bind (skipOpen true (b :: below)) =
      skipOpen true (b :: below) s := by
  cases lead with
  | element before => exact skipOpen_true_space_append _ before s
  | member before key afterKey beforeValue =>
    have hkey : skipToValue .object ((Lead.member before key afterKey beforeValue).text ++ s) =
        .ok (beforeValue.text ++ s) := by
      rw [Lead.text, List.append_assoc, List.cons_append, skipToValue,
        skipSpace_space_cons (by decide)]
      simp only [if_true, List.append_assoc, List.cons_append, skipString_quoted]
      exact scanColon_text afterKey _
    rw [hkey]
    exact skipOpen_true_space_append _ beforeValue s

theorem skipToValue_skipSpace (b : Bracket) (below : List Bracket) (s : List Char) :
    (skipToValue b (skipSpace s)).bind (skipOpen true (b :: below)) =
      (skipToValue b s).bind (skipOpen true (b :: below)) := by
  cases b with
  | list => exact skipOpen_true_skipSpace _ s
  | object => rw [skipToValue, skipToValue, skipSpace_skipSpace]

theorem Lead.exists_skipSpace (lead : Lead b) (v : Value) (s : List Char) :
    ∃ c r, skipSpace (lead.text ++ (v.text ++ s)) = c :: r ∧ c ≠ b.closing := by
  cases lead with
  | element before =>
    obtain ⟨c, r, htext, hspace, hc⟩ := v.exists_text
    rw [htext, List.cons_append, Lead.text, skipSpace_space_cons hspace]
    exact ⟨c, _, rfl, hc⟩
  | member before key afterKey beforeValue =>
    rw [Lead.text, List.append_assoc, List.cons_append, skipSpace_space_cons (by decide)]
    exact ⟨_, _, rfl, by decide⟩

theorem Items.exists_skipSpace {b : Bracket} (items : Items b) (s : List Char) :
    ∃ c r, skipSpace (items.text ++ s) = c :: r ∧ c ≠ b.closing := by
  cases items with
  | last lead v after =>
    rw [Items.text, List.append_assoc, List.append_assoc]
    exact lead.exists_skipSpace v _
  | more lead v after items =>
    rw [Items.text, List.append_assoc, List.append_assoc, List.append_assoc]
    exact lead.exists_skipSpace v _

mutual
/-- A value that is demanded is passed over. -/
theorem Value.skipOpen_text : ∀ (v : Value) (below : List Bracket) {s : List Char},
    EndsNumber s → skipOpen true below (v.text ++ s) = skipOpen false below s
  | .null, _, _, _ => skipOpen_scalar rfl rfl rfl
  | .bool true, _, _, _ => skipOpen_scalar rfl rfl rfl
  | .bool false, _, _, _ => skipOpen_scalar rfl rfl rfl
  | .number n, below, _, h => skipOpen_number n below h
  | .string gs, _, s, _ => skipOpen_scalar rfl rfl (skipScalar_string gs s)
  | .empty b inside, below, s, _ => by
    rw [Value.text, List.cons_append, List.append_assoc, List.singleton_append]
    exact skipOpen_empty inside s
  | .full b items, below, s, _ => by
    -- The scanner looks for the closing bracket first; there is a value before it.
    obtain ⟨c, r, hskip, hc⟩ := items.exists_skipSpace (b.closing :: s)
    have hitems := items.skipOpen_text below s
    rw [Value.text, List.cons_append, List.append_assoc, List.singleton_append,
      skipOpen_opening hskip hc, ← hskip, skipToValue_skipSpace]
    exact hitems

/-- The values inside a bracket and the bracket's end are passed over. -/
theorem Items.skipOpen_text : ∀ {b : Bracket} (items : Items b) (below : List Bracket)
    (s : List Char), (skipToValue b (items.text ++ b.closing :: s)).bind
      (skipOpen true (b :: below)) = skipOpen false below s
  | b, .last lead v after, below, s => by
    have hv := v.skipOpen_text (b :: below)
      (endsNumber_space_append after (followsValue_closing b) s)
    rw [Items.text, List.append_assoc, List.append_assoc, skipToValue_lead, hv, skipOpen_closing]
  | b, .more lead v after items, below, s => by
    have hv := v.skipOpen_text (b :: below) (endsNumber_space_append after (Or.inl rfl)
      (items.text ++ b.closing :: s))
    have hitems := items.skipOpen_text below s
    rw [Items.text, List.append_assoc, List.append_assoc, List.append_assoc, List.cons_append,
      skipToValue_lead, hv, skipOpen_comma]
    exact hitems
end

end LiveTemplate.Record
