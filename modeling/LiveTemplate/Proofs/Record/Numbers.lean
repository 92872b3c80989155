import LiveTemplate.Proofs.Decimal.Integers
import LiveTemplate.Proofs.Record.Written

namespace LiveTemplate.Record

/-- A text that does not start with a digit. -/
def NoDigit (s : List Char) : Prop := ∀ c, s.head? = some c → c.isDigit = false

/-- A text that cannot go on with a number. -/
structure EndsNumber (s : List Char) : Prop where
  noDigit : NoDigit s
  noPoint : s.head? ≠ some '.'
  noExponent : ∀ c, s.head? = some c → c ≠ 'e' ∧ c ≠ 'E'

/-- What is read of a number. -/
def Number.numeral (n : Number) : Numeral :=
  ⟨n.negative, n.whole.text, n.fraction.map Digits.text,
    n.exponent.map fun e => (e.sign.getD false, e.digits.text)⟩

variable {s : List Char} (atEnd : Reason)

theorem isDigit_digitChar (d : Fin 10) : (Nat.digitChar d.val).isDigit = true := by
  revert d
  decide

theorem isDigit_of_mem_digitsText {ds : List (Fin 10)} {c : Char} (h : c ∈ digitsText ds) :
    c.isDigit = true := by
  obtain ⟨d, -, rfl⟩ := List.mem_map.mp h
  exact isDigit_digitChar d

theorem noDigit_cons {c : Char} (h : c.isDigit = false) (s : List Char) : NoDigit (c :: s) := by
  intro d hd
  cases hd
  exact h

theorem NoDigit.takeWhile_eq (h : NoDigit s) : s.takeWhile Char.isDigit = [] := by
  cases s with
  | nil => rfl
  | cons c s => exact List.takeWhile_cons_of_neg (by simp [h c rfl])

theorem NoDigit.dropWhile_eq (h : NoDigit s) : s.dropWhile Char.isDigit = s := by
  cases s with
  | nil => rfl
  | cons c s => exact List.dropWhile_cons_of_neg (by simp [h c rfl])

theorem takeWhile_digitsText (ds : List (Fin 10)) (h : NoDigit s) :
    (digitsText ds ++ s).takeWhile Char.isDigit = digitsText ds := by
  rw [List.takeWhile_append_of_pos fun _ => isDigit_of_mem_digitsText, h.takeWhile_eq,
    List.append_nil]

theorem dropWhile_digitsText (ds : List (Fin 10)) (h : NoDigit s) :
    (digitsText ds ++ s).dropWhile Char.isDigit = s := by
  rw [List.dropWhile_append_of_pos fun _ => isDigit_of_mem_digitsText, h.dropWhile_eq]

theorem scanWhole_text (w : Whole) (h : NoDigit s) :
    scanWhole atEnd (w.text ++ s) = .ok (w.text, s) := by
  cases w with
  | zero =>
    have hs : s.head?.any Char.isDigit = false := by
      cases s with
      | nil => rfl
      | cons c s => exact h c rfl
    show scanWhole atEnd ('0' :: s) = _
    rw [scanWhole, if_pos rfl, hs]
    rfl
  | positive first rest =>
    have hdigit := isDigit_digitChar first.succ
    have hzero : Nat.digitChar first.succ.val ≠ '0' := by
      revert first
      decide
    show scanWhole atEnd (Nat.digitChar first.succ.val :: (digitsText rest ++ s)) = _
    rw [scanWhole, if_neg hzero, if_pos hdigit, takeWhile_digitsText rest h,
      dropWhile_digitsText rest h]
    rfl

theorem scanFraction_text (ds : Digits) (h : NoDigit s) :
    scanFraction atEnd ('.' :: (ds.text ++ s)) = .ok (some ds.text, s) := by
  rw [scanFraction, Digits.text, takeWhile_digitsText _ h, dropWhile_digitsText _ h]
  rfl

theorem scanFraction_of_noPoint (h : s.head? ≠ some '.') :
    scanFraction atEnd s = .ok (none, s) := by
  unfold scanFraction
  split
  next => exact absurd rfl h
  next => rfl

theorem exponentSign_signText (sign : Option Bool) (ds : Digits) (s : List Char) :
    exponentSign (signText sign ++ (ds.text ++ s)) = (sign.getD false, ds.text ++ s) := by
  rcases sign with _ | minus
  · have hdigit : ∀ d : Fin 10, Nat.digitChar d.val ≠ '+' ∧ Nat.digitChar d.val ≠ '-' := by decide
    show exponentSign (Nat.digitChar ds.first.val :: (digitsText ds.rest ++ s)) = _
    unfold exponentSign
    split
    next heq => exact absurd (List.cons.inj heq).1 (hdigit ds.first).1
    next heq => exact absurd (List.cons.inj heq).1 (hdigit ds.first).2
    next => rfl
  · cases minus <;> rfl

theorem scanExponent_text (e : Exponent) (h : NoDigit s) :
    scanExponent atEnd (e.text ++ s) = .ok (some (e.sign.getD false, e.digits.text), s) := by
  have hletter : (if e.upper then 'E' else 'e') = 'e' ∨ (if e.upper then 'E' else 'e') = 'E' := by
    cases e.upper <;> simp
  have hsign := exponentSign_signText e.sign e.digits s
  have hdigits : e.digits.text ++ s =
      Nat.digitChar e.digits.first.val :: (digitsText e.digits.rest ++ s) := rfl
  rw [Exponent.text, List.cons_append, List.append_assoc, scanExponent, if_pos hletter, hsign,
    hdigits]
  simp only [isDigit_digitChar, if_true, takeWhile_digitsText _ h, dropWhile_digitsText _ h]
  rfl

theorem scanExponent_of_none (h : ∀ c, s.head? = some c → c ≠ 'e' ∧ c ≠ 'E') :
    scanExponent atEnd s = .ok (none, s) := by
  cases s with
  | nil => rfl
  | cons c s =>
    obtain ⟨he, hE⟩ := h c rfl
    rw [scanExponent, if_neg (by simp [he, hE])]

/-- An exponent or its absence, and what follows it, end the digits before it. -/
theorem EndsNumber.exponent (h : EndsNumber s) (e : Option Exponent) :
    NoDigit (e.elim [] Exponent.text ++ s) ∧ (e.elim [] Exponent.text ++ s).head? ≠ some '.' ∧
      scanExponent atEnd (e.elim [] Exponent.text ++ s) =
        .ok (e.map fun e => (e.sign.getD false, e.digits.text), s) := by
  cases e with
  | none => exact ⟨h.noDigit, h.noPoint, scanExponent_of_none atEnd h.noExponent⟩
  | some e =>
    refine ⟨?_, ?_, scanExponent_text atEnd e h.noDigit⟩
    · refine noDigit_cons ?_ _
      cases e.upper <;> rfl
    · cases hu : e.upper <;> simp [Exponent.text, hu]

theorem scanFraction_elim (f : Option Digits) (h : NoDigit s) (hp : s.head? ≠ some '.') :
    NoDigit (f.elim [] ('.' :: ·.text) ++ s) ∧
      scanFraction atEnd (f.elim [] ('.' :: ·.text) ++ s) = .ok (f.map Digits.text, s) := by
  cases f with
  | none => exact ⟨h, scanFraction_of_noPoint atEnd hp⟩
  | some ds => exact ⟨noDigit_cons rfl _, scanFraction_text atEnd ds h⟩

theorem head?_whole (w : Whole) (s : List Char) : (w.text ++ s).head? ≠ some '-' := by
  cases w with
  | zero =>
    show some '0' ≠ some '-'
    decide
  | positive first rest =>
    have hminus : ∀ d : Fin 10, Nat.digitChar d.val ≠ '-' := by decide
    intro h
    exact hminus first.succ (Option.some.inj h)

/-- A number is read as it is written. -/
theorem scanNumeral_text (n : Number) (h : EndsNumber s) :
    scanNumeral atEnd (n.text ++ s) = .ok (n.numeral, s) := by
  obtain ⟨hnoDigit, hnoPoint, hexponent⟩ := h.exponent atEnd n.exponent
  obtain ⟨hnoDigit', hfraction⟩ := scanFraction_elim atEnd n.fraction hnoDigit hnoPoint
  have hwhole := scanWhole_text atEnd n.whole hnoDigit'
  have htext : n.text ++ s = (if n.negative then ['-'] else []) ++ (n.whole.text ++
      (n.fraction.elim [] ('.' :: ·.text) ++ (n.exponent.elim [] Exponent.text ++ s))) := by
    simp only [Number.text, List.append_assoc]
  rw [htext]
  cases hneg : n.negative with
  | true =>
    simp only [scanNumeral, if_true, List.singleton_append, List.head?_cons, List.tail_cons,
      hwhole, hfraction, hexponent, Number.numeral, hneg, decide_true]
  | false =>
    have hhead := head?_whole n.whole (n.fraction.elim [] ('.' :: ·.text) ++
      (n.exponent.elim [] Exponent.text ++ s))
    simp only [scanNumeral, Bool.false_eq_true, if_false, List.nil_append, hhead, hwhole,
      hfraction, hexponent, Number.numeral, hneg, decide_false]

theorem digitsValue_text (w : Whole) : digitsValue w.text = w.value := by
  have hdigit : ∀ d : Fin 10, (Nat.digitChar d.val).toNat - '0'.toNat = d.val := by decide
  rw [digitsValue, Whole.text, digitsText, List.foldl_map, Whole.value]
  simp only [hdigit]

/-- A natural number is read as itself. -/
theorem scanFloat_text {n : Number} {k : Nat} {x : Binary64} (hn : n.IsNat k)
    (hk : k ≤ 0x20000000000000) (hs : x.isNegative = false)
    (hx : x.units = k * Binary64.unitsOfOne) (h : EndsNumber s) :
    scanFloat (n.text ++ s) = .ok (x, s) := by
  obtain ⟨hnegative, hfraction, hexponent, hvalue⟩ := hn
  obtain ⟨y, hy, hsign, hunits⟩ := Binary64.ofDecimal?_natural hk
  have hxy : y = x := Binary64.eq_of_units hsign hs (hunits.trans hx.symm)
  have hread : n.numeral.toBinary64? = some x := by
    rw [← hxy, ← hy, ← hvalue, ← digitsValue_text]
    simp [Numeral.toBinary64?, Number.numeral, Numeral.digits, Numeral.decimalExponent, hnegative,
      hfraction, hexponent]
  simp only [scanFloat, scanNumeral_text _ n h, hread]

end LiveTemplate.Record
