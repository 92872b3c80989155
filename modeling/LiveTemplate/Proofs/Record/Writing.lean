import LiveTemplate.Proofs.Record.Written

namespace LiveTemplate.Record

def HexDigit.of (n : Nat) : HexDigit := ⟨Fin.ofNat 16 n, false⟩

def CodeUnit.of (n : Nat) : CodeUnit :=
  ⟨.of (n / 0x1000), .of (n / 0x100), .of (n / 0x10), .of n⟩

theorem CodeUnit.value_of {n : Nat} (h : n < 0x10000) : (CodeUnit.of n).value = n := by
  simp only [value, CodeUnit.of, HexDigit.of, Fin.val_ofNat]
  omega

theorem CodeUnit.isHigh_of {n : Nat} (h : n < 0x10000) :
    (CodeUnit.of n).IsHigh ↔ 0xd800 ≤ n ∧ n ≤ 0xdbff := by
  rw [IsHigh, value_of h]

theorem CodeUnit.isLow_of {n : Nat} (h : n < 0x10000) :
    (CodeUnit.of n).IsLow ↔ 0xdc00 ≤ n ∧ n ≤ 0xdfff := by
  rw [IsLow, value_of h]

/-- A character may be given by its number if that is a unit. -/
theorem spells_unit_cons {gs : List Glyph} {t : List Char} {c : Char} (hc : c.toNat < 0xd800)
    (h : Spells gs t) : Spells (.unit (.of c.toNat) :: gs) (c :: t) := by
  have hlt : c.toNat < 0x10000 := by omega
  have hunit := h.unit (u := .of c.toNat) (by rw [CodeUnit.isHigh_of hlt]; omega)
    (by rw [CodeUnit.isLow_of hlt]; omega)
  rwa [CodeUnit.value_of hlt, Char.ofNat_toNat] at hunit

/-- A character above the first 65536 may be given by two units. -/
theorem spells_pair_cons {gs : List Glyph} {t : List Char} {c : Char} (hc : 0xffff < c.toNat)
    (h : Spells gs t) : Spells (.unit (.of (0xd800 + (c.toNat - 0x10000) / 0x400)) ::
      .unit (.of (0xdc00 + (c.toNat - 0x10000) % 0x400)) :: gs) (c :: t) := by
  have hvalid : c.toNat < 0xd800 ∨ 0xdfff < c.toNat ∧ c.toNat < 0x110000 := c.valid
  have hhigh : 0xd800 + (c.toNat - 0x10000) / 0x400 < 0x10000 := by omega
  have hlow : 0xdc00 + (c.toNat - 0x10000) % 0x400 < 0x10000 := by omega
  have hpair := h.pair ((CodeUnit.isHigh_of hhigh).mpr (by omega))
    ((CodeUnit.isLow_of hlow).mpr (by omega))
  rw [CodeUnit.value_of hhigh, CodeUnit.value_of hlow] at hpair
  have hnumber : 0x10000 + (0xd800 + (c.toNat - 0x10000) / 0x400 - 0xd800) * 0x400 +
      (0xdc00 + (c.toNat - 0x10000) % 0x400 - 0xdc00) = c.toNat := by
    omega
  rwa [hnumber, Char.ofNat_toNat] at hpair

/-- A character as itself, or escaped where it cannot stand between quotes. -/
def Glyph.of (c : Char) : Glyph :=
  if h : c ≠ '"' ∧ c ≠ '\\' ∧ 0x20 ≤ c.toNat then .plain c h
  else if c = '"' then .short .quote
  else if c = '\\' then .short .backslash
  else .unit (.of c.toNat)

theorem spells_of_cons {gs : List Glyph} {t : List Char} (c : Char) (h : Spells gs t) :
    Spells (Glyph.of c :: gs) (c :: t) := by
  unfold Glyph.of
  split
  next => exact h.plain
  next hplain =>
    split
    next hquote =>
      subst hquote
      exact h.short
    next hquote =>
      split
      next hbackslash =>
        subst hbackslash
        exact h.short
      next hbackslash =>
        have hlow : c.toNat < 0x20 := by
          simpa [hquote, hbackslash] using hplain
        exact spells_unit_cons (by omega) h

/-- Every text can be spelled. -/
theorem spells_map_of (t : List Char) : Spells (t.map Glyph.of) t := by
  induction t with
  | nil => exact Spells.nil
  | cons c t ih => exact spells_of_cons c ih

theorem Whole.value_push (first : Fin 9) (rest : List (Fin 10)) (d : Fin 10) :
    (positive first (rest ++ [d])).value = (positive first rest).value * 10 + d.val := by
  simp [value, digits, List.foldl_append]

theorem Whole.exists_value (k : Nat) : ∃ w : Whole, w.value = k := by
  induction k using Nat.strongRecOn with
  | ind k ih =>
    by_cases hzero : k = 0
    · exact ⟨zero, hzero.symm⟩
    · by_cases hten : k < 10
      · refine ⟨positive ⟨k - 1, by omega⟩ [], ?_⟩
        show 0 * 10 + (k - 1 + 1) = k
        omega
      · obtain ⟨w, hw⟩ := ih (k / 10) (by omega)
        cases w with
        | zero =>
          have hzero' : (0 : Nat) = k / 10 := hw
          omega
        | positive first rest =>
          refine ⟨positive first (rest ++ [Fin.ofNat 10 k]), ?_⟩
          rw [value_push, hw, Fin.val_ofNat]
          omega

/-- A field under its plain name, with no space. -/
def Member.of (f : Field) (v : Value) : Member where
  before := []
  key := f.name.toList.map Glyph.of
  name := f.name.toList
  spells := spells_map_of f.name.toList
  afterKey := []
  beforeValue := []
  value := v
  after := []

theorem given_map_of (vs : Field → Value) (f : Field) :
    Member.given (Field.all.map fun g => Member.of g (vs g)) f = [vs f] := by
  cases f <;> rfl

variable {p : Payload} {k : Nat}

theorem exists_means (hk : k ≤ 0x20000000000000) (hs : p.duration.isNegative = false)
    (hx : p.duration.units = k * Binary64.unitsOfOne) (f : Field) :
    ∃ v : Value, v.Means (content p f) := by
  cases f
  case duration =>
    obtain ⟨w, hw⟩ := Whole.exists_value k
    exact ⟨.number ⟨false, w, none, none⟩, .number ⟨rfl, rfl, rfl, hw⟩ hk hs hx⟩
  case success => exact ⟨.bool p.success, .bool p.success⟩
  case error =>
    cases herror : p.error with
    | none =>
      simp only [content, herror]
      exact ⟨.null, .null⟩
    | some e =>
      simp only [content, herror]
      exact ⟨.string (e.toList.map Glyph.of), .string (spells_map_of e.toList)⟩
  all_goals exact ⟨.string _, .string (spells_map_of _)⟩

/-- Every record whose duration is a natural number up to 2⁵³ can be written. -/
theorem exists_writes (hk : k ≤ 0x20000000000000) (hs : p.duration.isNegative = false)
    (hx : p.duration.units = k * Binary64.unitsOfOne) : ∃ d : Document, d.Writes p := by
  obtain ⟨vs, hvs⟩ := Classical.skolem.mp (exists_means hk hs hx)
  refine ⟨⟨[], [], Field.all.map fun f => Member.of f (vs f), []⟩, fun f => ?_⟩
  exact Or.inl ⟨vs f, given_map_of vs f, hvs f⟩

end LiveTemplate.Record
