import LiveTemplate.Record.Scan

namespace LiveTemplate.Record

/-- Passes over the four digits of an escape, which need not name a character. -/
def skipUnicode (s : List Char) : Except Fault (Char × List Char) :=
  (scanHex s).map fun r => (' ', r.2)

theorem skipUnicode_length {s r : List Char} {c : Char} (h : skipUnicode s = .ok (c, r)) :
    r.length < s.length := by
  unfold skipUnicode at h
  cases hx : scanHex s with
  | error f =>
    rw [hx] at h
    cases h
  | ok p =>
    rw [hx] at h
    cases h
    exact scanHex_length hx

/-- Passes over a string after its opening quote. -/
def skipString (s : List Char) : Except Fault (List Char) :=
  match s with
  | [] => .error (.atEnd .endOfString)
  | c :: rest =>
    if c = '"' then .ok rest
    else if c = '\\' then
      match _h : scanEscape skipUnicode rest with
      | .error f => .error f
      | .ok (_, rest') => skipString rest'
    else if c.toNat < 0x20 then .error (.before .controlCharacter (c :: rest))
    else skipString rest
termination_by s.length
decreasing_by
  · have hl := scanEscape_length skipUnicode_length _h
    simp only [List.length_cons]
    omega
  · simp

theorem skipString_length {s r : List Char} (h : skipString s = .ok r) : r.length < s.length := by
  fun_induction skipString s with
  | case1 => cases h
  | case2 rest =>
    cases h
    simp
  | case3 => cases h
  | case4 rest d rest' hx _ ih =>
    have hl := scanEscape_length skipUnicode_length hx
    have hi := ih h
    simp only [List.length_cons]
    omega
  | case5 => cases h
  | case6 c rest _ _ _ ih =>
    have hi := ih h
    simp only [List.length_cons]
    omega

/-- An open bracket. -/
inductive Bracket where
  | list
  | object
  deriving DecidableEq, Repr

namespace Bracket

def closing : Bracket → Char
  | list => ']'
  | object => '}'

def atEnd : Bracket → Reason
  | list => .endOfList
  | object => .endOfObject

def noComma : Bracket → Reason
  | list => .noCommaOrBracket
  | object => .noCommaOrBrace

end Bracket

/-- Reads the colon after a key. -/
def scanColon (s : List Char) : Except Fault (List Char) :=
  match skipSpace s with
  | [] => .error (.atEnd .endOfObject)
  | c :: rest => if c = ':' then .ok rest else .error (.within .noColon (c :: rest))

theorem scanColon_length {s r : List Char} (h : scanColon s = .ok r) : r.length < s.length := by
  have hs := skipSpace_length s
  unfold scanColon at h
  split at h
  · cases h
  next c rest hc =>
    rw [hc] at hs
    split at h
    · cases h
      exact hs
    · cases h

/-- Goes to the next value inside a bracket: in an object, past its key. -/
def skipToValue : Bracket → List Char → Except Fault (List Char)
  | .list, s => .ok s
  | .object, s =>
    match skipSpace s with
    | [] => .error (.atEnd .endOfObject)
    | c :: rest =>
      if c = '"' then (skipString rest).bind scanColon
      else .error (.within .keyNotString (c :: rest))

theorem skipToValue_length {b : Bracket} {s r : List Char} (h : skipToValue b s = .ok r) :
    r.length ≤ s.length := by
  cases b with
  | list =>
    cases h
    exact Nat.le_refl _
  | object =>
    have hs := skipSpace_length s
    simp only [skipToValue] at h
    split at h
    · cases h
    next c rest hc =>
      rw [hc] at hs
      split at h
      · cases hk : skipString rest with
        | error f =>
          rw [hk] at h
          cases h
        | ok after =>
          rw [hk] at h
          have h1 := skipString_length hk
          have h2 := scanColon_length (s := after) h
          simp only [List.length_cons] at hs
          omega
      · cases h

/-- Passes over a value without brackets. -/
def skipScalar : List Char → Except Fault (List Char)
  | [] => .error (.atEnd .endOfValue)
  | c :: rest =>
    if c = 'n' then scanWord ['u', 'l', 'l'] rest
    else if c = 't' then scanWord ['r', 'u', 'e'] rest
    else if c = 'f' then scanWord ['a', 'l', 's', 'e'] rest
    else if c = '"' then skipString rest
    else if startsNumeral c then (scanNumeral .invalidNumber (c :: rest)).map (·.2)
    else .error (.within .noValue (c :: rest))

theorem skipScalar_length {s r : List Char} (h : skipScalar s = .ok r) : r.length < s.length := by
  cases s with
  | nil => cases h
  | cons c s =>
    simp only [skipScalar] at h
    repeat' split at h
    · exact Nat.lt_succ_of_le (scanWord_length h)
    · exact Nat.lt_succ_of_le (scanWord_length h)
    · exact Nat.lt_succ_of_le (scanWord_length h)
    · exact Nat.lt_succ_of_lt (skipString_length h)
    · cases hn : scanNumeral .invalidNumber (c :: s) with
      | error f =>
        rw [hn] at h
        cases h
      | ok p =>
        rw [hn] at h
        cases h
        exact scanNumeral_length hn
    · cases h

/-- The bracket that a character opens. -/
def opened? (c : Char) : Option Bracket :=
  if c = '[' then some .list else if c = '{' then some .object else none

/-- Passes over what the open brackets still demand: a value and then the rest of each bracket, or
only the rest if `value` does not hold. -/
def skipOpen (value : Bool) (brackets : List Bracket) (s : List Char) : Except Fault (List Char) :=
  if value then
    match _hs : skipSpace s with
    | [] => .error (.atEnd .endOfValue)
    | c :: rest =>
      match opened? c with
      | none =>
        match _hx : skipScalar (c :: rest) with
        | .error f => .error f
        | .ok rest' => skipOpen false brackets rest'
      | some b =>
        match _hr : skipSpace rest with
        | [] => .error (.atEnd b.atEnd)
        | d :: rest' =>
          if d = b.closing then skipOpen false brackets rest'
          else
            match _hv : skipToValue b (d :: rest') with
            | .error f => .error f
            | .ok rest'' => skipOpen true (b :: brackets) rest''
  else
    match brackets with
    | [] => .ok s
    | b :: below =>
      match _hs : skipSpace s with
      | [] => .error (.atEnd b.atEnd)
      | c :: rest =>
        if c = b.closing then skipOpen false below rest
        else if c = ',' then
          match _hv : skipToValue b rest with
          | .error f => .error f
          | .ok rest' => skipOpen true (b :: below) rest'
        else .error (.within b.noComma (c :: rest))
termination_by s.length
decreasing_by
  · have h1 := skipSpace_length s
    have h2 := skipScalar_length _hx
    rw [_hs] at h1
    omega
  · have h1 := skipSpace_length s
    have h2 := skipSpace_length rest
    rw [_hs] at h1
    rw [_hr] at h2
    simp only [List.length_cons] at *
    omega
  · have h1 := skipSpace_length s
    have h2 := skipSpace_length rest
    have h3 := skipToValue_length _hv
    rw [_hs] at h1
    rw [_hr] at h2
    simp only [List.length_cons] at *
    omega
  · have h1 := skipSpace_length s
    rw [_hs] at h1
    simp only [List.length_cons] at *
    omega
  · have h1 := skipSpace_length s
    have h3 := skipToValue_length _hv
    rw [_hs] at h1
    simp only [List.length_cons] at *
    omega

/-- Passes over one value. -/
def skipValue (s : List Char) : Except Fault (List Char) := skipOpen true [] s

theorem skipOpen_length {value : Bool} {brackets : List Bracket} {s r : List Char}
    (h : skipOpen value brackets s = .ok r) : r.length ≤ s.length := by
  fun_induction skipOpen value brackets s with
  | case1 => cases h
  | case2 => cases h
  | case3 _ s c rest hs _ rest' hx ih =>
    have h1 := skipSpace_length s
    have h2 := skipScalar_length hx
    have hi := ih h
    rw [hs] at h1
    omega
  | case4 => cases h
  | case5 _ s c rest hs b _ rest' hr ih =>
    have h1 := skipSpace_length s
    have h2 := skipSpace_length rest
    have hi := ih h
    rw [hs] at h1
    rw [hr] at h2
    simp only [List.length_cons] at *
    omega
  | case6 => cases h
  | case7 _ s c rest hs b _ d rest' hr _ rest'' hv ih =>
    have h1 := skipSpace_length s
    have h2 := skipSpace_length rest
    have h3 := skipToValue_length hv
    have hi := ih h
    rw [hs] at h1
    rw [hr] at h2
    simp only [List.length_cons] at *
    omega
  | case8 =>
    cases h
    exact Nat.le_refl _
  | case9 => cases h
  | case10 _ s _ b below rest hs ih =>
    have h1 := skipSpace_length s
    have hi := ih h
    rw [hs] at h1
    simp only [List.length_cons] at *
    omega
  | case11 => cases h
  | case12 _ s _ b below rest rest' hv hs _ ih =>
    have h1 := skipSpace_length s
    have h3 := skipToValue_length hv
    have hi := ih h
    rw [hs] at h1
    simp only [List.length_cons] at *
    omega
  | case13 => cases h

end LiveTemplate.Record
