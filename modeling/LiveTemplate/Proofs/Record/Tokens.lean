import LiveTemplate.Proofs.Record.Written

namespace LiveTemplate.Record

theorem isSpace_blank (b : Blank) : isSpace b.char = true := by
  cases b <;> rfl

theorem skipSpace_space_append (sp : Space) (s : List Char) :
    skipSpace (sp.text ++ s) = skipSpace s := by
  refine List.dropWhile_append_of_pos fun c hc => ?_
  obtain ⟨b, -, rfl⟩ := List.mem_map.mp hc
  exact isSpace_blank b

theorem skipSpace_cons {c : Char} (h : isSpace c = false) (s : List Char) :
    skipSpace (c :: s) = c :: s := by
  rw [skipSpace, List.dropWhile_cons_of_neg (by simp [h])]

theorem skipSpace_space_cons {c : Char} (h : isSpace c = false) (sp : Space) (s : List Char) :
    skipSpace (sp.text ++ c :: s) = c :: s := by
  rw [skipSpace_space_append, skipSpace_cons h]

theorem skipSpace_space (sp : Space) : skipSpace sp.text = [] := by
  rw [← List.append_nil sp.text, skipSpace_space_append]
  rfl

theorem skipSpace_skipSpace (s : List Char) : skipSpace (skipSpace s) = skipSpace s := by
  cases hs : skipSpace s with
  | nil => rfl
  | cons c r =>
    have hc := List.head_dropWhile_not isSpace (show s.dropWhile isSpace ≠ [] by
      rw [skipSpace] at hs
      simp [hs])
    refine skipSpace_cons ?_ r
    simpa [show s.dropWhile isSpace = c :: r from hs] using hc

theorem scanColon_text (sp : Space) (s : List Char) : scanColon (sp.text ++ ':' :: s) = .ok s := by
  rw [scanColon, skipSpace_space_cons (by decide)]
  exact if_pos rfl

theorem hexDigit?_char (d : HexDigit) : hexDigit? d.char = some d.value.val := by
  obtain ⟨value, upper⟩ := d
  revert value upper
  decide

theorem scanHex_text (u : CodeUnit) (s : List Char) : scanHex (u.text ++ s) = .ok (u.value, s) := by
  simp only [CodeUnit.text, List.cons_append, List.nil_append, scanHex, hexDigit?_char]
  rw [CodeUnit.value]
  congr 2
  omega

theorem scanUnicode_text {u : CodeUnit} (hh : ¬ u.IsHigh) (hl : ¬ u.IsLow) (s : List Char) :
    scanUnicode (u.text ++ s) = .ok (Char.ofNat u.value, s) := by
  simp only [scanUnicode, scanHex_text]
  exact (if_neg hl).trans (if_neg hh)

theorem scanUnicode_pair {u v : CodeUnit} (hu : u.IsHigh) (hv : v.IsLow) (s : List Char) :
    scanUnicode (u.text ++ '\\' :: 'u' :: (v.text ++ s)) = .ok (Char.ofNat
      (0x10000 + (u.value - 0xd800) * 0x400 + (v.value - 0xdc00)), s) := by
  have hn : ¬ u.IsLow := by
    obtain ⟨-, hle⟩ := hu
    rintro ⟨hge, -⟩
    omega
  have hsum : (u.value - 0xd800) * 0x400 + (v.value - 0xdc00) + 0x10000 =
      0x10000 + (u.value - 0xd800) * 0x400 + (v.value - 0xdc00) := by
    omega
  have hlow : scanLowSurrogate u.value ('\\' :: 'u' :: (v.text ++ s)) = .ok (Char.ofNat
      (0x10000 + (u.value - 0xd800) * 0x400 + (v.value - 0xdc00)), s) := by
    simp only [scanLowSurrogate, scanHex_text, hsum]
    exact if_pos hv
  simp only [scanUnicode, scanHex_text, hlow]
  exact (if_neg hn).trans (if_pos hu)

theorem escapeLetter?_letter (e : ShortEscape) : escapeLetter? e.letter = some e.char := by
  cases e <;> decide

theorem scanEscape_letter (number : Scan Char) (e : ShortEscape) (s : List Char) :
    scanEscape number (e.letter :: s) = .ok (e.char, s) := by
  have hu : e.letter ≠ 'u' := by
    cases e <;> decide
  simp only [scanEscape, if_neg hu, escapeLetter?_letter]

theorem scanEscape_number (number : Scan Char) (s : List Char) :
    scanEscape number ('u' :: s) = number s := by
  rw [scanEscape, if_pos rfl]

theorem scanEscape_unit {u : CodeUnit} (hh : ¬ u.IsHigh) (hl : ¬ u.IsLow) (s : List Char) :
    scanEscape scanUnicode ('u' :: (u.text ++ s)) = .ok (Char.ofNat u.value, s) := by
  rw [scanEscape_number, scanUnicode_text hh hl]

theorem scanEscape_pair {u v : CodeUnit} (hu : u.IsHigh) (hv : v.IsLow) (s : List Char) :
    scanEscape scanUnicode ('u' :: (u.text ++ '\\' :: 'u' :: (v.text ++ s))) = .ok (Char.ofNat
      (0x10000 + (u.value - 0xd800) * 0x400 + (v.value - 0xdc00)), s) := by
  rw [scanEscape_number, scanUnicode_pair hu hv]

theorem scanString_plain {c : Char} (h : c ≠ '"' ∧ c ≠ '\\' ∧ 0x20 ≤ c.toNat) (s : List Char) :
    scanString (c :: s) = (scanString s).map fun r => (c :: r.1, r.2) := by
  obtain ⟨hquote, hbackslash, hlow⟩ := h
  rw [scanString, if_neg hquote, if_neg hbackslash, if_neg (Nat.not_lt.mpr hlow)]
  cases scanString s <;> rfl

theorem scanString_escape {s r : List Char} {c : Char} (h : scanEscape scanUnicode s = .ok (c, r)) :
    scanString ('\\' :: s) = (scanString r).map fun r => (c :: r.1, r.2) := by
  rw [scanString, if_neg (by decide), if_pos rfl, h]
  dsimp only
  cases scanString r <;> rfl

theorem quoted_plain (c : Char) (h : c ≠ '"' ∧ c ≠ '\\' ∧ 0x20 ≤ c.toNat) (gs : List Glyph)
    (s : List Char) : Glyph.quoted (.plain c h :: gs) ++ s = c :: (Glyph.quoted gs ++ s) := by
  simp [Glyph.quoted, Glyph.text]

theorem quoted_short (e : ShortEscape) (gs : List Glyph) (s : List Char) :
    Glyph.quoted (.short e :: gs) ++ s = '\\' :: e.letter :: (Glyph.quoted gs ++ s) := by
  simp [Glyph.quoted, Glyph.text]

theorem quoted_unit (u : CodeUnit) (gs : List Glyph) (s : List Char) :
    Glyph.quoted (.unit u :: gs) ++ s = '\\' :: 'u' :: (u.text ++ (Glyph.quoted gs ++ s)) := by
  simp [Glyph.quoted, Glyph.text]

/-- A string is read as what it spells. -/
theorem scanString_quoted {gs : List Glyph} {t : List Char} (h : Spells gs t) (s : List Char) :
    scanString (Glyph.quoted gs ++ s) = .ok (t, s) := by
  induction h with
  | nil =>
    rw [Glyph.quoted, List.flatMap_nil, List.nil_append, List.singleton_append, scanString,
      if_pos rfl]
  | plain _ ih =>
    rw [quoted_plain, scanString_plain ‹_›, ih]
    rfl
  | short _ ih =>
    rw [quoted_short, scanString_escape (scanEscape_letter _ _ _), ih]
    rfl
  | unit hh hl _ ih =>
    rw [quoted_unit, scanString_escape (scanEscape_unit hh hl _), ih]
    rfl
  | pair hu hv _ ih =>
    rw [quoted_unit, quoted_unit, scanString_escape (scanEscape_pair hu hv _), ih]
    rfl

theorem skipString_plain {c : Char} (h : c ≠ '"' ∧ c ≠ '\\' ∧ 0x20 ≤ c.toNat) (s : List Char) :
    skipString (c :: s) = skipString s := by
  obtain ⟨hquote, hbackslash, hlow⟩ := h
  rw [skipString, if_neg hquote, if_neg hbackslash, if_neg (Nat.not_lt.mpr hlow)]

theorem skipString_escape {s r : List Char} {c : Char} (h : scanEscape skipUnicode s = .ok (c, r)) :
    skipString ('\\' :: s) = skipString r := by
  rw [skipString, if_neg (by decide), if_pos rfl, h]

theorem skipString_unit {s r : List Char} {n : Nat} (h : scanHex s = .ok (n, r)) :
    skipString ('\\' :: 'u' :: s) = skipString r := by
  refine skipString_escape (c := ' ') ?_
  rw [scanEscape_number, skipUnicode, h]
  rfl

/-- Any string is passed over, also one whose units are not paired. -/
theorem skipString_quoted (gs : List Glyph) (s : List Char) :
    skipString (Glyph.quoted gs ++ s) = .ok s := by
  induction gs with
  | nil =>
    rw [Glyph.quoted, List.flatMap_nil, List.nil_append, List.singleton_append, skipString,
      if_pos rfl]
  | cons g gs ih =>
    cases g with
    | plain c h => rw [quoted_plain, skipString_plain h, ih]
    | short e => rw [quoted_short, skipString_escape (scanEscape_letter _ _ _), ih]
    | unit u => rw [quoted_unit, skipString_unit (scanHex_text u _), ih]

theorem skipString_of_scanLowSurrogate {high : Nat} {s r : List Char} {c : Char}
    (h : scanLowSurrogate high s = .ok (c, r)) : skipString s = skipString r := by
  unfold scanLowSurrogate at h
  split at h
  next rest =>
    split at h
    next => cases h
    next low rest' hx =>
      split at h
      next =>
        simp only [Except.ok.injEq, Prod.mk.injEq] at h
        obtain ⟨-, rfl⟩ := h
        exact skipString_unit hx
      next => cases h
  all_goals cases h

theorem skipString_of_scanEscape {s r : List Char} {c : Char}
    (h : scanEscape scanUnicode s = .ok (c, r)) : skipString ('\\' :: s) = skipString r := by
  cases s with
  | nil => cases h
  | cons d s =>
    rw [scanEscape] at h
    split at h
    next hu =>
      subst hu
      unfold scanUnicode at h
      split at h
      next => cases h
      next n rest hx =>
        split at h
        next => cases h
        next =>
          split at h
          next => rw [skipString_unit hx, skipString_of_scanLowSurrogate h]
          next =>
            cases h
            exact skipString_unit hx
    next hu =>
      split at h
      next e he =>
        cases h
        refine skipString_escape (c := c) ?_
        rw [scanEscape, if_neg hu, he]
      next => cases h

/-- Where a string can be read, it can be passed over. -/
theorem skipString_of_scanString {s t r : List Char} (h : scanString s = .ok (t, r)) :
    skipString s = .ok r := by
  fun_induction scanString s generalizing t r with
  | case1 => cases h
  | case2 rest =>
    cases h
    rw [skipString, if_pos rfl]
  | case3 => cases h
  | case4 => cases h
  | case5 rest d rest' hx ds rest'' hr _ ih =>
    cases h
    rw [skipString_of_scanEscape hx, ih hr]
  | case6 => cases h
  | case7 => cases h
  | case8 c rest hquote hbackslash hlow ds rest' hr ih =>
    cases h
    rw [skipString_plain ⟨hquote, hbackslash, Nat.not_lt.mp hlow⟩, ih hr]

end LiveTemplate.Record
