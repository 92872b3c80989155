import LiveTemplate.Analysis.Payload
import LiveTemplate.Record.Skip

namespace LiveTemplate.Record

inductive Field where
  | parse
  | lex
  | ruby
  | html
  | linter
  | version
  | duration
  | success
  | error
  deriving DecidableEq, Repr

namespace Field

/-- The fields in the order in which a list gives them. -/
def all : List Field := [parse, lex, ruby, html, linter, version, duration, success, error]

def name : Field → String
  | parse => "parse"
  | lex => "lex"
  | ruby => "ruby"
  | html => "html"
  | linter => "linter"
  | version => "version"
  | duration => "duration"
  | success => "success"
  | error => "error"

def ofName? (s : List Char) : Option Field := all.find? fun f => f.name.toList = s

end Field

def scanText : Scan String
  | '"' :: rest => (scanString rest).map fun r => (String.ofList r.1, r.2)
  | s => .error (typeFault "a string" s)

def scanDuration (s : List Char) : Except Fault (Binary64 × List Char) :=
  if s.head?.any startsNumeral then scanFloat s else .error (typeFault "f64" s)

def scanBool : Scan Bool
  | 't' :: rest => (scanWord ['r', 'u', 'e'] rest).map (true, ·)
  | 'f' :: rest => (scanWord ['a', 'l', 's', 'e'] rest).map (false, ·)
  | s => .error (typeFault "a boolean" s)

def scanOptionalText : Scan (Option String)
  | 'n' :: rest => (scanWord ['u', 'l', 'l'] rest).map (none, ·)
  | s => (scanText s).map fun r => (some r.1, r.2)

/-- Reads the value of a field into a record. -/
def scanField (p : Payload) (f : Field) (s : List Char) : Except Fault (Payload × List Char) :=
  let s := skipSpace s
  match f with
  | .parse => (scanText s).map fun r => ({ p with parse := r.1 }, r.2)
  | .lex => (scanText s).map fun r => ({ p with lex := r.1 }, r.2)
  | .ruby => (scanText s).map fun r => ({ p with ruby := r.1 }, r.2)
  | .html => (scanText s).map fun r => ({ p with html := r.1 }, r.2)
  | .linter => (scanText s).map fun r => ({ p with linter := r.1 }, r.2)
  | .version => (scanText s).map fun r => ({ p with version := r.1 }, r.2)
  | .duration => (scanDuration s).map fun r => ({ p with duration := r.1 }, r.2)
  | .success => (scanBool s).map fun r => ({ p with success := r.1 }, r.2)
  | .error => (scanOptionalText s).map fun r => ({ p with error := r.1 }, r.2)

theorem map_ok {α β ε : Type} {f : α → β} {x : Except ε α} {b : β} (h : x.map f = .ok b) :
    ∃ a, x = .ok a ∧ f a = b := by
  cases x with
  | error e => cases h
  | ok a => exact ⟨a, rfl, Except.ok.inj h⟩

theorem scanText_length {s r : List Char} {t : String} (h : scanText s = .ok (t, r)) :
    r.length < s.length := by
  unfold scanText at h
  split at h
  · obtain ⟨p, hp, he⟩ := map_ok h
    cases he
    exact Nat.lt_succ_of_lt (scanString_length hp)
  · cases h

theorem scanDuration_length {s r : List Char} {x : Binary64} (h : scanDuration s = .ok (x, r)) :
    r.length < s.length := by
  unfold scanDuration at h
  split at h
  · exact scanFloat_length h
  · cases h

theorem scanBool_length {s r : List Char} {b : Bool} (h : scanBool s = .ok (b, r)) :
    r.length < s.length := by
  unfold scanBool at h
  split at h
  · obtain ⟨p, hp, he⟩ := map_ok h
    cases he
    exact Nat.lt_succ_of_le (scanWord_length hp)
  · obtain ⟨p, hp, he⟩ := map_ok h
    cases he
    exact Nat.lt_succ_of_le (scanWord_length hp)
  · cases h

theorem scanOptionalText_length {s r : List Char} {t : Option String}
    (h : scanOptionalText s = .ok (t, r)) : r.length < s.length := by
  unfold scanOptionalText at h
  split at h
  · obtain ⟨p, hp, he⟩ := map_ok h
    cases he
    exact Nat.lt_succ_of_le (scanWord_length hp)
  · obtain ⟨p, hp, he⟩ := map_ok h
    cases he
    exact scanText_length hp

theorem scanField_length {p q : Payload} {f : Field} {s r : List Char}
    (h : scanField p f s = .ok (q, r)) : r.length < s.length := by
  refine Nat.lt_of_lt_of_le ?_ (skipSpace_length s)
  cases f
  case duration =>
    obtain ⟨v, hv, he⟩ := map_ok h
    cases he
    exact scanDuration_length hv
  case success =>
    obtain ⟨v, hv, he⟩ := map_ok h
    cases he
    exact scanBool_length hv
  case error =>
    obtain ⟨v, hv, he⟩ := map_ok h
    cases he
    exact scanOptionalText_length hv
  all_goals
    obtain ⟨v, hv, he⟩ := map_ok h
    cases he
    exact scanText_length hv

/-- Goes to the next key of an object and past its quote, or to the end of the object. -/
def nextKey (first : Bool) (s : List Char) : Except Fault (Option (List Char) × List Char) :=
  match skipSpace s with
  | [] => .error (.atEnd .endOfObject)
  | c :: rest =>
    if c = '}' then .ok (none, rest)
    else if first then
      if c = '"' then .ok (some rest, rest) else .error (.within .keyNotString (c :: rest))
    else if c = ',' then
      match skipSpace rest with
      | [] => .error (.atEnd .endOfValue)
      | d :: rest =>
        if d = '"' then .ok (some rest, rest)
        else if d = '}' then .error (.within .trailingComma (d :: rest))
        else .error (.within .keyNotString (d :: rest))
    else .error (.within .noCommaOrBrace (c :: rest))

theorem nextKey_length {first : Bool} {s r t : List Char} {k : Option (List Char)}
    (h : nextKey first s = .ok (k, r)) (ht : k = some t) : t.length < s.length := by
  have hs := skipSpace_length s
  unfold nextKey at h
  split at h
  · cases h
  next c rest hc =>
    rw [hc] at hs
    have hr := skipSpace_length rest
    split at h
    · cases h
      cases ht
    · split at h
      · split at h
        · cases h
          cases ht
          exact hs
        · cases h
      · split at h
        · split at h
          · cases h
          next d rest' hd =>
            rw [hd] at hr
            split at h
            · cases h
              cases ht
              simp only [List.length_cons] at *
              omega
            · split at h <;> cases h
        · cases h

/-- The fault of a known key that comes a second time: it is noticed after the space that follows
the key, and after the brace if that is what comes next. -/
def duplicateFault (f : Field) (s : List Char) : Fault :=
  match skipSpace s with
  | '}' :: rest => .before (.duplicateField f.name) rest
  | rest => .before (.duplicateField f.name) rest

/-- Reads one member after the quote of its key: a known one into the record, and which one it was. -/
def scanMember (p : Payload) (seen : List Field) (s : List Char) :
    Except Fault ((Payload × List Field) × List Char) :=
  match scanString s with
  | .error f => .error f
  | .ok (key, rest) =>
    match Field.ofName? key with
    | none =>
      match (scanColon rest).bind skipValue with
      | .error f => .error f
      | .ok rest => .ok ((p, seen), rest)
    | some f =>
      if f ∈ seen then .error (duplicateFault f rest)
      else
        match scanColon rest with
        | .error f => .error f
        | .ok rest => (scanField p f rest).map fun r => ((r.1, f :: seen), r.2)

theorem scanMember_length {p : Payload} {seen : List Field} {s r : List Char}
    {q : Payload × List Field} (h : scanMember p seen s = .ok (q, r)) : r.length < s.length := by
  unfold scanMember at h
  split at h
  · cases h
  next key rest hk =>
    have h1 := scanString_length hk
    split at h
    · split at h
      · cases h
      next rest' hc =>
        cases h
        cases hcolon : scanColon rest with
        | error f =>
          rw [hcolon] at hc
          cases hc
        | ok after =>
          rw [hcolon] at hc
          have h2 := scanColon_length hcolon
          have h3 := skipOpen_length (s := after) hc
          omega
    · split at h
      · cases h
      · split at h
        · cases h
        next rest' hc =>
          obtain ⟨v, hv, he⟩ := map_ok h
          cases he
          have h2 := scanColon_length hc
          have h3 := scanField_length hv
          omega

/-- Reads the members of an object after its opening brace. -/
def scanMembers (first : Bool) (p : Payload) (seen : List Field) (s : List Char) :
    Except Fault (Payload × List Char) :=
  match _hk : nextKey first s with
  | .error f => .error f
  | .ok (none, rest) => .ok (p, rest)
  | .ok (some rest, _) =>
    match _hm : scanMember p seen rest with
    | .error f => .error f
    | .ok ((p, seen), rest) => scanMembers false p seen rest
termination_by s.length
decreasing_by
  have h1 := nextKey_length _hk rfl
  have h2 := scanMember_length _hm
  omega

/-- Goes to the next element of a list, or to its closing bracket. -/
def nextElement (first : Bool) (s : List Char) : Except Fault (List Char) :=
  match skipSpace s with
  | [] => .error (.atEnd .endOfList)
  | c :: rest =>
    if c = ']' ∨ first then .ok (c :: rest)
    else if c = ',' then
      match skipSpace rest with
      | [] => .error (.atEnd .endOfValue)
      | d :: rest => if d = ']' then .error (.within .trailingComma (d :: rest)) else .ok (d :: rest)
    else .error (.within .noCommaOrBracket (c :: rest))

/-- Reads the closing bracket after the last field. -/
def scanListEnd (s : List Char) : Except Fault (List Char) :=
  match skipSpace s with
  | [] => .error (.atEnd .endOfList)
  | c :: rest =>
    if c = ']' then .ok rest
    else if c = ',' then
      match skipSpace rest with
      | ']' :: rest => .error (.within .trailingComma (']' :: rest))
      | rest => .error (.within .trailingCharacters rest)
    else .error (.within .trailingCharacters (c :: rest))

/-- Reads the elements of a list after its opening bracket as these fields in turn. -/
def scanElements (first : Bool) (p : Payload) : List Field → Scan Payload
  | [], s => (scanListEnd s).map (p, ·)
  | f :: fields, s =>
    match nextElement first s with
    | .error f => .error f
    | .ok s =>
      if s.head? = some ']' then .ok (p, s.tail)
      else
        match scanField p f s with
        | .error f => .error f
        | .ok (p, s) => scanElements false p fields s

/-- Reads a record. -/
def scanRecord (s : List Char) : Except Fault (Payload × List Char) :=
  match skipSpace s with
  | '{' :: rest => scanMembers true .empty [] rest
  | '[' :: rest => scanElements true .empty Field.all rest
  | s => .error (typeFault "struct AnalyzerPayload" s)

/-- Reads a text that is a record and nothing else but space. -/
def decode (s : List Char) : Except Fault Payload :=
  match scanRecord s with
  | .error f => .error f
  | .ok (p, rest) =>
    match skipSpace rest with
    | [] => .ok p
    | rest => .error (.within .trailingCharacters rest)

end LiveTemplate.Record
