namespace LiveTemplate

def byteLength : List Char → Nat
  | [] => 0
  | c :: rest => c.utf8Size + byteLength rest

/-- What stands at the head of some bytes. -/
inductive Utf8Head where
  | nothing
  | char (c : Char) (rest : List UInt8)
  /-- The first `length` bytes begin a character and the next byte cannot go on with it. -/
  | malformed (length : Nat) (rest : List UInt8)
  /-- The bytes end inside a character. -/
  | truncated

namespace Utf8Head

/-- Reads `need` continuation bytes, the first of them between `low` and `high`, after `got` bytes
whose bits are `bits`. -/
def continued (got : Nat) (low high bits : Nat) : Nat → List UInt8 → Utf8Head
  | 0, rest => char (Char.ofNat bits) rest
  | _ + 1, [] => truncated
  | need + 1, b :: rest =>
    if low ≤ b.toNat ∧ b.toNat ≤ high then
      continued (got + 1) 0x80 0xbf (bits * 64 + (b.toNat - 0x80)) need rest
    else malformed got (b :: rest)

def read : List UInt8 → Utf8Head
  | [] => nothing
  | b :: rest =>
    let n := b.toNat
    if n < 0x80 then char (Char.ofNat n) rest
    else if n < 0xc2 then malformed 1 rest
    else if n < 0xe0 then continued 1 0x80 0xbf (n - 0xc0) 1 rest
    else if n < 0xf0 then
      continued 1 (if n = 0xe0 then 0xa0 else 0x80) (if n = 0xed then 0x9f else 0xbf) (n - 0xe0) 2 rest
    else if n < 0xf5 then
      continued 1 (if n = 0xf0 then 0x90 else 0x80) (if n = 0xf4 then 0x8f else 0xbf) (n - 0xf0) 3 rest
    else malformed 1 rest

def rest : Utf8Head → List UInt8
  | nothing => []
  | char _ rest => rest
  | malformed _ rest => rest
  | truncated => []

theorem length_rest_continued (got low high bits need : Nat) (s : List UInt8) :
    (continued got low high bits need s).rest.length ≤ s.length := by
  induction need generalizing got low high bits s with
  | zero => simp [continued, rest]
  | succ need ih =>
    cases s with
    | nil => simp [continued, rest]
    | cons b s =>
      rw [continued]
      split
      · exact Nat.le_trans (ih _ _ _ _ _) (by simp)
      · simp [rest]

theorem length_rest_read (b : UInt8) (s : List UInt8) : (read (b :: s)).rest.length ≤ s.length := by
  simp only [read]
  repeat' split
  all_goals first | exact length_rest_continued _ _ _ _ _ _ | simp [rest]

end Utf8Head

/-- Why some bytes are not UTF-8: where the first bad piece starts, and its length unless the bytes
end inside it. -/
structure Utf8Fault where
  index : Nat
  length : Option Nat
  deriving DecidableEq, Repr

namespace Utf8Fault

def message (f : Utf8Fault) : String :=
  match f.length with
  | some n => "invalid utf-8 sequence of " ++ toString n ++ " bytes from index " ++ toString f.index
  | none => "incomplete utf-8 byte sequence from index " ++ toString f.index

end Utf8Fault

/-- Reads all of some bytes, of which `index` came before. -/
def decodeUtf8From (index : Nat) (s : List UInt8) : Except Utf8Fault (List Char) :=
  match s with
  | [] => .ok []
  | b :: tail =>
    match _h : Utf8Head.read (b :: tail) with
    | .nothing => .ok []
    | .char c rest =>
      match decodeUtf8From (index + c.utf8Size) rest with
      | .ok cs => .ok (c :: cs)
      | .error f => .error f
    | .malformed length _ => .error ⟨index, some length⟩
    | .truncated => .error ⟨index, none⟩
termination_by s.length
decreasing_by
  have hr := Utf8Head.length_rest_read b tail
  rw [_h] at hr
  simp only [Utf8Head.rest, List.length_cons] at *
  omega

/-- Reads bytes that have to be UTF-8. -/
def decodeUtf8 (s : List UInt8) : Except Utf8Fault (List Char) := decodeUtf8From 0 s

def replacementChar : Char := '\ufffd'

/-- Reads bytes as UTF-8 with a replacement character for each piece that is not. -/
def decodeUtf8Lossy (s : List UInt8) : List Char :=
  match s with
  | [] => []
  | b :: tail =>
    match _h : Utf8Head.read (b :: tail) with
    | .nothing => []
    | .char c rest => c :: decodeUtf8Lossy rest
    | .malformed _ rest => replacementChar :: decodeUtf8Lossy rest
    | .truncated => [replacementChar]
termination_by s.length
decreasing_by
  all_goals
    have hr := Utf8Head.length_rest_read b tail
    rw [_h] at hr
    simp only [Utf8Head.rest, List.length_cons] at *
    omega

end LiveTemplate
