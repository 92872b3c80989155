import LiveTemplate.Text.Utf8

namespace LiveTemplate

/-- The bytes of some characters. -/
def utf8 (s : List Char) : List UInt8 := s.flatMap String.utf8EncodeChar

theorem toNat_byte {n : Nat} (h : n < 256) : (UInt8.ofNat n).toNat = n :=
  UInt8.toNat_ofNat_of_lt h

namespace Utf8Head

variable {n : Nat}

theorem continued_cons {got low high bits need : Nat} {b : UInt8}
    (h : low ≤ b.toNat ∧ b.toNat ≤ high) (s : List UInt8) :
    continued got low high bits (need + 1) (b :: s) =
      continued (got + 1) 0x80 0xbf (bits * 64 + (b.toNat - 0x80)) need s := by
  rw [continued, if_pos h]

/-- A byte that goes on with a character holds six bits of it. -/
theorem toNat_continuation (n : Nat) : (UInt8.ofNat (n % 64 + 128)).toNat = n % 64 + 0x80 :=
  toNat_byte (by omega)

theorem read_one (h : n ≤ 0x7f) (s : List UInt8) :
    read (UInt8.ofNat n :: s) = char (Char.ofNat n) s := by
  have hfirst : (UInt8.ofNat n).toNat = n := toNat_byte (by omega)
  simp only [read, hfirst]
  rw [if_pos (by omega)]

theorem read_two (hlow : 0x7f < n) (hhigh : n ≤ 0x7ff) (s : List UInt8) :
    read (UInt8.ofNat (n / 64 % 32 + 192) :: UInt8.ofNat (n % 64 + 128) :: s) =
      char (Char.ofNat n) s := by
  have hfirst : (UInt8.ofNat (n / 64 % 32 + 192)).toNat = n / 64 + 0xc0 := by
    rw [toNat_byte (by omega)]
    omega
  have hbits : (n / 64 + 0xc0 - 0xc0) * 64 + (n % 64 + 0x80 - 0x80) = n := by omega
  have hsecond := toNat_continuation n
  simp only [read, hfirst]
  rw [if_neg (by omega), if_neg (by omega), if_pos (by omega), continued_cons (by omega), hsecond,
    hbits, continued]

/-- Three bytes never hold the number of a surrogate. -/
theorem read_three (hlow : 0x7ff < n) (hhigh : n ≤ 0xffff) (hs : n < 0xd800 ∨ 0xdfff < n)
    (s : List UInt8) : read (UInt8.ofNat (n / 4096 % 16 + 224) :: UInt8.ofNat (n / 64 % 64 + 128) ::
      UInt8.ofNat (n % 64 + 128) :: s) = char (Char.ofNat n) s := by
  have hfirst : (UInt8.ofNat (n / 4096 % 16 + 224)).toNat = n / 4096 + 0xe0 := by
    rw [toNat_byte (by omega)]
    omega
  have hbits : ((n / 4096 + 0xe0 - 0xe0) * 64 + (n / 64 % 64 + 0x80 - 0x80)) * 64 +
      (n % 64 + 0x80 - 0x80) = n := by omega
  have hsecond := toNat_continuation (n / 64)
  have hthird := toNat_continuation n
  -- The narrow ranges leave out the surrogates and what two bytes can hold.
  have hrange : (if n / 4096 + 0xe0 = 0xe0 then 0xa0 else 0x80) ≤ n / 64 % 64 + 0x80 ∧
      n / 64 % 64 + 0x80 ≤ if n / 4096 + 0xe0 = 0xed then 0x9f else 0xbf := by
    constructor <;> split <;> omega
  simp only [read, hfirst]
  rw [if_neg (by omega), if_neg (by omega), if_neg (by omega), if_pos (by omega),
    continued_cons (by rwa [hsecond]), hsecond, continued_cons (by omega), hthird, hbits, continued]

theorem read_four (hlow : 0xffff < n) (hhigh : n < 0x110000) (s : List UInt8) :
    read (UInt8.ofNat (n / 262144 % 8 + 240) :: UInt8.ofNat (n / 4096 % 64 + 128) ::
      UInt8.ofNat (n / 64 % 64 + 128) :: UInt8.ofNat (n % 64 + 128) :: s) =
      char (Char.ofNat n) s := by
  have hfirst : (UInt8.ofNat (n / 262144 % 8 + 240)).toNat = n / 262144 + 0xf0 := by
    rw [toNat_byte (by omega)]
    omega
  have hbits : (((n / 262144 + 0xf0 - 0xf0) * 64 + (n / 4096 % 64 + 0x80 - 0x80)) * 64 +
      (n / 64 % 64 + 0x80 - 0x80)) * 64 + (n % 64 + 0x80 - 0x80) = n := by omega
  have hsecond := toNat_continuation (n / 4096)
  have hthird := toNat_continuation (n / 64)
  have hfourth := toNat_continuation n
  have hrange : (if n / 262144 + 0xf0 = 0xf0 then 0x90 else 0x80) ≤ n / 4096 % 64 + 0x80 ∧
      n / 4096 % 64 + 0x80 ≤ if n / 262144 + 0xf0 = 0xf4 then 0x8f else 0xbf := by
    constructor <;> split <;> omega
  simp only [read, hfirst]
  rw [if_neg (by omega), if_neg (by omega), if_neg (by omega), if_neg (by omega),
    if_pos (by omega), continued_cons (by rwa [hsecond]), hsecond, continued_cons (by omega),
    hthird, continued_cons (by omega), hfourth, hbits, continued]

theorem read_utf8 (c : Char) (s : List UInt8) :
    read (String.utf8EncodeChar c ++ s) = char c s := by
  have hvalid : c.toNat < 0xd800 ∨ 0xdfff < c.toNat ∧ c.toNat < 0x110000 := c.valid
  have hread : read (String.utf8EncodeChar c ++ s) = char (Char.ofNat c.toNat) s := by
    rw [String.utf8EncodeChar.eq_1, show c.val.toNat = c.toNat from rfl]
    split
    next h1 => exact read_one h1 s
    next h1 =>
      split
      next h2 => exact read_two (by omega) h2 s
      next h2 =>
        split
        next h3 => exact read_three (by omega) h3 (by omega) s
        next h3 => exact read_four (by omega) (by omega) s
  rwa [Char.ofNat_toNat] at hread

end Utf8Head

theorem decodeUtf8Lossy_of_read {c : Char} {s r : List UInt8} (h : Utf8Head.read s = .char c r) :
    decodeUtf8Lossy s = c :: decodeUtf8Lossy r := by
  cases s with
  | nil => cases h
  | cons b s => rw [decodeUtf8Lossy, h]

/-- Every text comes through its bytes. -/
theorem decodeUtf8Lossy_utf8 (s : List Char) : decodeUtf8Lossy (utf8 s) = s := by
  induction s with
  | nil => rw [utf8, List.flatMap_nil, decodeUtf8Lossy]
  | cons c s ih =>
    have hread := Utf8Head.read_utf8 c (utf8 s)
    rw [utf8, List.flatMap_cons, ← utf8, decodeUtf8Lossy_of_read hread, ih]

end LiveTemplate
