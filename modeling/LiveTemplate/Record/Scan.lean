import LiveTemplate.Record.Fault

namespace LiveTemplate.Record

/-- Reads a value at the head of a text. -/
abbrev Scan (α : Type) := List Char → Except Fault (α × List Char)

/-- The space between tokens. -/
def isSpace (c : Char) : Bool := c = ' ' || c = '\t' || c = '\n' || c = '\r'

def skipSpace (s : List Char) : List Char := s.dropWhile isSpace

theorem skipSpace_length (s : List Char) : (skipSpace s).length ≤ s.length :=
  (List.dropWhile_sublist isSpace).length_le

/-- Reads the letters of a word that remain after its first. -/
def scanWord : List Char → List Char → Except Fault (List Char)
  | [], s => .ok s
  | _ :: _, [] => .error (.atEnd .endOfValue)
  | w :: word, c :: rest =>
    if c = w then scanWord word rest else .error (.within .noWord (c :: rest))

theorem scanWord_length {word s r : List Char} (h : scanWord word s = .ok r) :
    r.length ≤ s.length := by
  induction word generalizing s with
  | nil =>
    cases h
    exact Nat.le_refl _
  | cons w word ih =>
    cases s with
    | nil => cases h
    | cons c s =>
      rw [scanWord] at h
      split at h
      · exact Nat.le_succ_of_le (ih h)
      · cases h

/-- The value of a hexadecimal digit. -/
def hexDigit? (c : Char) : Option Nat :=
  if '0' ≤ c ∧ c ≤ '9' then some (c.toNat - '0'.toNat)
  else if 'a' ≤ c ∧ c ≤ 'f' then some (c.toNat - 'a'.toNat + 10)
  else if 'A' ≤ c ∧ c ≤ 'F' then some (c.toNat - 'A'.toNat + 10)
  else none

/-- The fault of an escape whose next four bytes are not hexadecimal digits. -/
def hexFault (s : List Char) : Fault :=
  if byteLength s < 4 then .atEnd .endOfString else ⟨.invalidEscape, byteLength s - 4⟩

/-- Reads the four digits of an escape. -/
def scanHex : Scan Nat
  | a :: b :: c :: d :: rest =>
    match hexDigit? a, hexDigit? b, hexDigit? c, hexDigit? d with
    | some a, some b, some c, some d => .ok (((a * 16 + b) * 16 + c) * 16 + d, rest)
    | _, _, _, _ => .error (hexFault (a :: b :: c :: d :: rest))
  | s => .error (hexFault s)

theorem scanHex_length {s r : List Char} {n : Nat} (h : scanHex s = .ok (n, r)) :
    r.length < s.length := by
  unfold scanHex at h
  split at h
  · split at h
    · cases h
      simp only [List.length_cons]
      omega
    · cases h
  · cases h

/-- Reads the second half of a pair of surrogates whose first half is `high`. -/
def scanLowSurrogate (high : Nat) : Scan Char
  | '\\' :: 'u' :: rest =>
    match scanHex rest with
    | .error f => .error f
    | .ok (low, rest) =>
      if 0xdc00 ≤ low ∧ low ≤ 0xdfff then
        .ok (Char.ofNat ((high - 0xd800) * 0x400 + (low - 0xdc00) + 0x10000), rest)
      else .error (.before .loneSurrogate rest)
  | '\\' :: [] => .error (.atEnd .endOfString)
  | '\\' :: rest => .error (.within .endOfHexEscape rest)
  | [] => .error (.atEnd .endOfString)
  | s => .error (.within .endOfHexEscape s)

theorem scanLowSurrogate_length {high : Nat} {s r : List Char} {c : Char}
    (h : scanLowSurrogate high s = .ok (c, r)) : r.length < s.length := by
  unfold scanLowSurrogate at h
  split at h
  next rest =>
    split at h
    · cases h
    next low rest' hx =>
      have hl := scanHex_length hx
      split at h
      · simp only [Except.ok.injEq, Prod.mk.injEq] at h
        obtain ⟨_, rfl⟩ := h
        simp only [List.length_cons]
        omega
      · cases h
  all_goals cases h

/-- Reads the character of an escape by its number, after `\u`. -/
def scanUnicode (s : List Char) : Except Fault (Char × List Char) :=
  match scanHex s with
  | .error f => .error f
  | .ok (n, rest) =>
    if 0xdc00 ≤ n ∧ n ≤ 0xdfff then .error (.before .loneSurrogate rest)
    else if 0xd800 ≤ n ∧ n ≤ 0xdbff then scanLowSurrogate n rest
    else .ok (Char.ofNat n, rest)

theorem scanUnicode_length {s r : List Char} {c : Char} (h : scanUnicode s = .ok (c, r)) :
    r.length < s.length := by
  unfold scanUnicode at h
  split at h
  · cases h
  next n rest hx =>
    have hl := scanHex_length hx
    split at h
    · cases h
    · split at h
      · exact Nat.lt_trans (scanLowSurrogate_length h) hl
      · cases h
        exact hl

/-- The character that an escape letter stands for. -/
def escapeLetter? (c : Char) : Option Char :=
  if c = '"' ∨ c = '\\' ∨ c = '/' then some c
  else if c = 'b' then some '\x08'
  else if c = 'f' then some '\x0c'
  else if c = 'n' then some '\n'
  else if c = 'r' then some '\r'
  else if c = 't' then some '\t'
  else none

/-- Reads an escape after its backslash; `number` reads one that is given by its number. -/
def scanEscape (number : Scan Char) : Scan Char
  | [] => .error (.atEnd .endOfString)
  | c :: rest =>
    if c = 'u' then number rest
    else
      match escapeLetter? c with
      | some d => .ok (d, rest)
      | none => .error (.within .invalidEscape (c :: rest))

theorem scanEscape_length {number : Scan Char}
    (hn : ∀ {s r : List Char} {c : Char}, number s = .ok (c, r) → r.length < s.length)
    {s r : List Char} {c : Char} (h : scanEscape number s = .ok (c, r)) : r.length < s.length := by
  cases s with
  | nil => cases h
  | cons d s =>
    rw [scanEscape] at h
    split at h
    · exact Nat.lt_succ_of_lt (hn h)
    · split at h
      · cases h
        simp
      · cases h

/-- Reads a string after its opening quote. -/
def scanString (s : List Char) : Except Fault (List Char × List Char) :=
  match s with
  | [] => .error (.atEnd .endOfString)
  | c :: rest =>
    if c = '"' then .ok ([], rest)
    else if c = '\\' then
      match _h : scanEscape scanUnicode rest with
      | .error f => .error f
      | .ok (d, rest') =>
        match scanString rest' with
        | .error f => .error f
        | .ok (ds, rest'') => .ok (d :: ds, rest'')
    else if c.toNat < 0x20 then .error (.before .controlCharacter rest)
    else
      match scanString rest with
      | .error f => .error f
      | .ok (ds, rest') => .ok (c :: ds, rest')
termination_by s.length
decreasing_by
  · have hl := scanEscape_length scanUnicode_length _h
    simp only [List.length_cons]
    omega
  · simp

theorem scanString_length {s r ds : List Char} (h : scanString s = .ok (ds, r)) :
    r.length < s.length := by
  fun_induction scanString s generalizing ds r with
  | case1 => cases h
  | case2 rest =>
    cases h
    simp
  | case3 => cases h
  | case4 => cases h
  | case5 rest d rest' hx ds' rest'' hr _ ih =>
    cases h
    have hl := scanEscape_length scanUnicode_length hx
    have hi := ih hr
    simp only [List.length_cons]
    omega
  | case6 => cases h
  | case7 => cases h
  | case8 c rest _ _ _ ds' rest' hr ih =>
    cases h
    have hi := ih hr
    simp only [List.length_cons]
    omega

/-- A number as it is written: the digits before and after the point and those of the exponent. -/
structure Numeral where
  negative : Bool
  whole : List Char
  fraction : Option (List Char)
  exponent : Option (Bool × List Char)
  deriving DecidableEq, Repr

/-- Reads the digits before the point. A zero stands alone. -/
def scanWhole (atEnd : Reason) : Scan (List Char)
  | [] => .error (.atEnd atEnd)
  | c :: rest =>
    if c = '0' then
      if rest.head?.any Char.isDigit then .error (.within .invalidNumber rest) else .ok ([c], rest)
    else if c.isDigit then .ok (c :: rest.takeWhile Char.isDigit, rest.dropWhile Char.isDigit)
    else .error (.within .invalidNumber (c :: rest))

/-- Reads the point and the digits after it, if there is a point. -/
def scanFraction (atEnd : Reason) : Scan (Option (List Char))
  | '.' :: rest =>
    match rest.takeWhile Char.isDigit with
    | [] =>
      if rest.isEmpty then .error (.atEnd atEnd) else .error (.within .invalidNumber rest)
    | digits => .ok (some digits, rest.dropWhile Char.isDigit)
  | s => .ok (none, s)

/-- The sign of an exponent, and what follows it. -/
def exponentSign : List Char → Bool × List Char
  | '+' :: rest => (false, rest)
  | '-' :: rest => (true, rest)
  | s => (false, s)

/-- Reads the exponent, if there is one. -/
def scanExponent (atEnd : Reason) : Scan (Option (Bool × List Char))
  | [] => .ok (none, [])
  | c :: rest =>
    if c = 'e' ∨ c = 'E' then
      let signed := exponentSign rest
      match signed.2 with
      | [] => .error (.atEnd atEnd)
      | d :: rest =>
        if d.isDigit then
          .ok (some (signed.1, d :: rest.takeWhile Char.isDigit), rest.dropWhile Char.isDigit)
        else .error (.within .invalidNumber (d :: rest))
    else .ok (none, c :: rest)

/-- Reads a number; a number that the end of the text cuts short has the fault `atEnd`. -/
def scanNumeral (atEnd : Reason) (s : List Char) : Except Fault (Numeral × List Char) :=
  let negative := s.head? = some '-'
  match scanWhole atEnd (if negative then s.tail else s) with
  | .error f => .error f
  | .ok (whole, s) =>
    match scanFraction atEnd s with
    | .error f => .error f
    | .ok (fraction, s) =>
      match scanExponent atEnd s with
      | .error f => .error f
      | .ok (exponent, s) => .ok (⟨negative, whole, fraction, exponent⟩, s)

theorem dropWhile_length (p : Char → Bool) (s : List Char) : (s.dropWhile p).length ≤ s.length :=
  (List.dropWhile_sublist p).length_le

theorem scanWhole_length {atEnd : Reason} {s r ds : List Char}
    (h : scanWhole atEnd s = .ok (ds, r)) : r.length < s.length := by
  cases s with
  | nil => cases h
  | cons c s =>
    have hl := dropWhile_length Char.isDigit s
    rw [scanWhole] at h
    repeat' split at h
    all_goals first
      | contradiction
      | (cases h; simp only [List.length_cons]; omega)

theorem scanFraction_length {atEnd : Reason} {s r : List Char} {ds : Option (List Char)}
    (h : scanFraction atEnd s = .ok (ds, r)) : r.length ≤ s.length := by
  unfold scanFraction at h
  split at h
  next rest =>
    have hl := dropWhile_length Char.isDigit rest
    repeat' split at h
    all_goals first
      | contradiction
      | (cases h; simp only [List.length_cons]; omega)
  next =>
    cases h
    exact Nat.le_refl _

theorem exponentSign_length (s : List Char) : (exponentSign s).2.length ≤ s.length := by
  unfold exponentSign
  split <;> simp

theorem scanExponent_length {atEnd : Reason} {s r : List Char} {e : Option (Bool × List Char)}
    (h : scanExponent atEnd s = .ok (e, r)) : r.length ≤ s.length := by
  cases s with
  | nil =>
    cases h
    exact Nat.le_refl _
  | cons c s =>
    have hs := exponentSign_length s
    simp only [scanExponent] at h
    split at h
    · split at h
      · cases h
      next d rest hd =>
        rw [hd] at hs
        have hl := dropWhile_length Char.isDigit rest
        split at h
        · cases h
          simp only [List.length_cons] at *
          omega
        · cases h
    · cases h
      exact Nat.le_refl _

theorem scanNumeral_length {atEnd : Reason} {s r : List Char} {n : Numeral}
    (h : scanNumeral atEnd s = .ok (n, r)) : r.length < s.length := by
  have ht : (if s.head? = some '-' then s.tail else s).length ≤ s.length := by
    split <;> simp
  simp only [scanNumeral] at h
  split at h
  · cases h
  next hw =>
    split at h
    · cases h
    next hf =>
      split at h
      · cases h
      next he =>
        cases h
        have h1 := scanWhole_length hw
        have h2 := scanFraction_length hf
        have h3 := scanExponent_length he
        omega

/-- The number that decimal digits denote. -/
def digitsValue (digits : List Char) : Nat :=
  digits.foldl (fun n c => n * 10 + (c.toNat - '0'.toNat)) 0

namespace Numeral

/-- The largest exponent that a numeral may spell out; a longer one ends the number at once. -/
def exponentLimit : Nat := 0x7fffffff

/-- All digits of a numeral, and how many of them stand after the point. -/
def digits (n : Numeral) : List Char := n.whole ++ n.fraction.getD []

def decimalExponent (n : Numeral) : Int :=
  let shift : Int :=
    match n.exponent with
    | none => 0
    | some (true, ds) => -(digitsValue ds : Int)
    | some (false, ds) => digitsValue ds
  shift - (n.fraction.getD []).length

/-- The nearest binary number, unless that is infinite. -/
def toBinary64? (n : Numeral) : Option Binary64 :=
  Binary64.ofDecimal? n.negative (digitsValue n.digits) n.decimalExponent

/-- The digits of an exponent that come after the one that takes it past the limit. -/
def pastLimit (ds : List Char) : Nat :=
  match (List.range ds.length).find? fun k => exponentLimit < digitsValue (ds.take (k + 1)) with
  | some k => ds.length - (k + 1)
  | none => 0

/-- The fault of a numeral too large for a binary number, which is followed by `rest`. -/
def rangeFault (n : Numeral) (rest : List Char) : Fault :=
  ⟨.numberOutOfRange, byteLength rest + (n.exponent.elim 0 fun e => pastLimit e.2)⟩

/-- The integer that a numeral without point and exponent denotes, if it fits in 64 bits; a negative
zero does not. -/
def toInt? (n : Numeral) : Option Int :=
  match n.fraction, n.exponent with
  | none, none =>
    let v := digitsValue n.whole
    if n.negative then
      if 0 < v ∧ v ≤ 0x8000000000000000 then some (-(v : Int)) else none
    else if v ≤ 0xffffffffffffffff then some v else none
  | _, _ => none

end Numeral

/-- Reads a binary number. -/
def scanFloat (s : List Char) : Except Fault (Binary64 × List Char) :=
  match scanNumeral .endOfValue s with
  | .error f => .error f
  | .ok (n, rest) =>
    match n.toBinary64? with
    | some x => .ok (x, rest)
    | none => .error (n.rangeFault rest)

theorem scanFloat_length {s r : List Char} {x : Binary64} (h : scanFloat s = .ok (x, r)) :
    r.length < s.length := by
  unfold scanFloat at h
  split at h
  · cases h
  next n rest hn =>
    split at h
    · cases h
      exact scanNumeral_length hn
    · cases h

/-- Whether a number starts with this character. -/
def startsNumeral (c : Char) : Bool := c = '-' || c.isDigit

/-- Reads a value of any kind and says what it is; of a list or an object only the bracket is
looked at. -/
def scanFound : Scan Found
  | [] => .error (.atEnd .endOfValue)
  | c :: rest =>
    if c = 'n' then (scanWord ['u', 'l', 'l'] rest).map (.null, ·)
    else if c = 't' then (scanWord ['r', 'u', 'e'] rest).map (.boolean true, ·)
    else if c = 'f' then (scanWord ['a', 'l', 's', 'e'] rest).map (.boolean false, ·)
    else if c = '"' then (scanString rest).map fun r => (.string r.1, r.2)
    else if c = '[' then .ok (.sequence, c :: rest)
    else if c = '{' then .ok (.map, c :: rest)
    else if startsNumeral c then
      match scanNumeral .endOfValue (c :: rest) with
      | .error f => .error f
      | .ok (n, rest) =>
        match n.toInt?, n.toBinary64? with
        | some i, _ => .ok (.integer i, rest)
        | none, some x => .ok (.float x, rest)
        | none, none => .error (n.rangeFault rest)
    else .error (.within .noValue (c :: rest))

/-- The fault of a value that should have been `wanted`. Its own faults come first. -/
def typeFault (wanted : String) (s : List Char) : Fault :=
  match scanFound s with
  | .error f => f
  | .ok (found, rest) => .before (.wrongType found wanted) rest

end LiveTemplate.Record
