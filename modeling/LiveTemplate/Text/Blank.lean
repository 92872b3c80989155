namespace LiveTemplate

/-- The characters with the property `White_Space`. -/
def isWhite (c : Char) : Bool :=
  let n := c.toNat
  (0x09 ≤ n && n ≤ 0x0d) || n = 0x20 || n = 0x85 || n = 0xa0 || n = 0x1680 ||
    (0x2000 ≤ n && n ≤ 0x200a) || n = 0x2028 || n = 0x2029 || n = 0x202f || n = 0x205f || n = 0x3000

/-- A text without the white characters at either end. -/
def trimWhite (s : List Char) : List Char :=
  ((s.dropWhile isWhite).reverse.dropWhile isWhite).reverse

def isBlankText (s : List Char) : Bool := (trimWhite s).isEmpty

theorem dropWhile_eq_nil_iff_all {p : Char → Bool} {s : List Char} :
    s.dropWhile p = [] ↔ s.all p = true := by
  induction s with
  | nil => simp
  | cons c s ih => by_cases h : p c <;> simp [h, ih]

theorem isBlankText_iff {s : List Char} : isBlankText s = true ↔ s.all isWhite = true := by
  have hall : trimWhite s = [] ↔ s.all isWhite = true := by
    rw [trimWhite, List.reverse_eq_nil_iff, dropWhile_eq_nil_iff_all, List.all_reverse]
    constructor
    · intro h
      have hd : s.dropWhile isWhite = [] := by
        cases hs : s.dropWhile isWhite with
        | nil => rfl
        | cons c r =>
          have hc := List.head_dropWhile_not isWhite (show s.dropWhile isWhite ≠ [] by simp [hs])
          rw [hs] at h
          simp [hs] at hc h
          exact absurd h.1 (by simp [hc])
      exact dropWhile_eq_nil_iff_all.1 hd
    · intro h
      rw [dropWhile_eq_nil_iff_all.2 h]
      rfl
  rw [isBlankText, List.isEmpty_iff]
  exact hall

def trimmed (s : String) : String := String.ofList (trimWhite s.toList)

def isBlank (s : String) : Bool := isBlankText s.toList

end LiveTemplate
