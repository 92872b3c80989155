import LiveTemplate.Record.Decode

namespace LiveTemplate.Record

/-- A character of the space between tokens. -/
inductive Blank where
  | space
  | tab
  | lineFeed
  | carriageReturn
  deriving DecidableEq, Repr

def Blank.char : Blank → Char
  | space => ' '
  | tab => '\t'
  | lineFeed => '\n'
  | carriageReturn => '\r'

abbrev Space := List Blank

def Space.text (s : Space) : List Char := s.map Blank.char

structure HexDigit where
  value : Fin 16
  upper : Bool
  deriving DecidableEq, Repr

def HexDigit.char (d : HexDigit) : Char :=
  if d.upper then (Nat.digitChar d.value).toUpper else Nat.digitChar d.value

/-- A number of sixteen bits in four digits. -/
structure CodeUnit where
  first : HexDigit
  second : HexDigit
  third : HexDigit
  fourth : HexDigit
  deriving DecidableEq, Repr

namespace CodeUnit

def text (u : CodeUnit) : List Char := [u.first.char, u.second.char, u.third.char, u.fourth.char]

def value (u : CodeUnit) : Nat :=
  u.first.value * 0x1000 + u.second.value * 0x100 + u.third.value * 0x10 + u.fourth.value

def IsHigh (u : CodeUnit) : Prop := 0xd800 ≤ u.value ∧ u.value ≤ 0xdbff

def IsLow (u : CodeUnit) : Prop := 0xdc00 ≤ u.value ∧ u.value ≤ 0xdfff

end CodeUnit

/-- The escapes of two characters. -/
inductive ShortEscape where
  | quote
  | backslash
  | slash
  | backspace
  | formFeed
  | lineFeed
  | carriageReturn
  | tab
  deriving DecidableEq, Repr

namespace ShortEscape

def letter : ShortEscape → Char
  | quote => '"'
  | backslash => '\\'
  | slash => '/'
  | backspace => 'b'
  | formFeed => 'f'
  | lineFeed => 'n'
  | carriageReturn => 'r'
  | tab => 't'

def char : ShortEscape → Char
  | quote => '"'
  | backslash => '\\'
  | slash => '/'
  | backspace => '\x08'
  | formFeed => '\x0c'
  | lineFeed => '\n'
  | carriageReturn => '\r'
  | tab => '\t'

end ShortEscape

/-- What may stand between the quotes of a string. -/
inductive Glyph where
  | plain (c : Char) (h : c ≠ '"' ∧ c ≠ '\\' ∧ 0x20 ≤ c.toNat)
  | short (e : ShortEscape)
  | unit (u : CodeUnit)

namespace Glyph

def text : Glyph → List Char
  | plain c _ => [c]
  | short e => ['\\', e.letter]
  | unit u => '\\' :: 'u' :: u.text

/-- A string after its opening quote. -/
def quoted (gs : List Glyph) : List Char := gs.flatMap text ++ ['"']

end Glyph

/-- The characters that glyphs spell. A character above the first 65536 is given by two units, and
these stand for nothing without each other. -/
inductive Spells : List Glyph → List Char → Prop where
  | nil : Spells [] []
  | plain {c : Char} {h : c ≠ '"' ∧ c ≠ '\\' ∧ 0x20 ≤ c.toNat} {gs : List Glyph} {t : List Char}
    (ht : Spells gs t) : Spells (.plain c h :: gs) (c :: t)
  | short {e : ShortEscape} {gs : List Glyph} {t : List Char} (ht : Spells gs t) :
    Spells (.short e :: gs) (e.char :: t)
  | unit {u : CodeUnit} {gs : List Glyph} {t : List Char} (hh : ¬ u.IsHigh) (hl : ¬ u.IsLow)
    (ht : Spells gs t) : Spells (.unit u :: gs) (Char.ofNat u.value :: t)
  | pair {u v : CodeUnit} {gs : List Glyph} {t : List Char} (hu : u.IsHigh) (hv : v.IsLow)
    (ht : Spells gs t) : Spells (.unit u :: .unit v :: gs)
      (Char.ofNat (0x10000 + (u.value - 0xd800) * 0x400 + (v.value - 0xdc00)) :: t)

def digitsText (ds : List (Fin 10)) : List Char := ds.map fun d : Fin 10 => Nat.digitChar d.val

/-- At least one digit. -/
structure Digits where
  first : Fin 10
  rest : List (Fin 10)
  deriving DecidableEq, Repr

def Digits.text (ds : Digits) : List Char := digitsText (ds.first :: ds.rest)

/-- The digits before the point; the first of a positive number is one more than `first`. -/
inductive Whole where
  | zero
  | positive (first : Fin 9) (rest : List (Fin 10))
  deriving DecidableEq, Repr

namespace Whole

def digits : Whole → List (Fin 10)
  | zero => [0]
  | positive first rest => first.succ :: rest

def text (w : Whole) : List Char := digitsText w.digits

def value (w : Whole) : Nat := w.digits.foldl (fun n (d : Fin 10) => n * 10 + d.val) 0

end Whole

/-- An exponent, with its sign if that is written; a minus holds. -/
structure Exponent where
  upper : Bool
  sign : Option Bool
  digits : Digits
  deriving DecidableEq, Repr

def signText : Option Bool → List Char
  | none => []
  | some minus => [if minus then '-' else '+']

def Exponent.text (e : Exponent) : List Char :=
  (if e.upper then 'E' else 'e') :: (signText e.sign ++ e.digits.text)

structure Number where
  negative : Bool
  whole : Whole
  fraction : Option Digits
  exponent : Option Exponent
  deriving DecidableEq, Repr

namespace Number

def text (n : Number) : List Char :=
  (if n.negative then ['-'] else []) ++ n.whole.text ++ n.fraction.elim [] ('.' :: ·.text) ++
    n.exponent.elim [] (·.text)

/-- Written as a natural number. -/
def IsNat (n : Number) (k : Nat) : Prop :=
  n.negative = false ∧ n.fraction = none ∧ n.exponent = none ∧ n.whole.value = k

end Number

def Bracket.opening : Bracket → Char
  | list => '['
  | object => '\x7b'

/-- What stands before a value inside a bracket: in an object, its key as well. -/
inductive Lead : Bracket → Type where
  | element (before : Space) : Lead .list
  | member (before : Space) (key : List Glyph) (afterKey beforeValue : Space) : Lead .object

def Lead.text {b : Bracket} : Lead b → List Char
  | element before => before.text
  | member before key afterKey beforeValue =>
    before.text ++ '"' :: (Glyph.quoted key ++ afterKey.text ++ ':' :: beforeValue.text)

mutual
inductive Value where
  | null
  | bool (b : Bool)
  | number (n : Number)
  | string (gs : List Glyph)
  | empty (b : Bracket) (inside : Space)
  | full (b : Bracket) (items : Items b)

/-- The values inside a bracket, of which there are some. -/
inductive Items : Bracket → Type where
  | last {b : Bracket} (lead : Lead b) (v : Value) (after : Space) : Items b
  | more {b : Bracket} (lead : Lead b) (v : Value) (after : Space) (items : Items b) : Items b
end

mutual
def Value.text : Value → List Char
  | .null => ['n', 'u', 'l', 'l']
  | .bool true => ['t', 'r', 'u', 'e']
  | .bool false => ['f', 'a', 'l', 's', 'e']
  | .number n => n.text
  | .string gs => '"' :: Glyph.quoted gs
  | .empty b inside => b.opening :: (inside.text ++ [b.closing])
  | .full b items => b.opening :: (items.text ++ [b.closing])

def Items.text {b : Bracket} : Items b → List Char
  | .last lead v after => lead.text ++ v.text ++ after.text
  | .more lead v after items => lead.text ++ v.text ++ after.text ++ ',' :: items.text
end

/-- What a field of a record may hold. -/
inductive Content where
  | text (t : String)
  | number (x : Binary64)
  | truth (b : Bool)
  | nothing
  deriving DecidableEq, Repr

def content (p : Payload) : Field → Content
  | .parse => .text p.parse
  | .lex => .text p.lex
  | .ruby => .text p.ruby
  | .html => .text p.html
  | .linter => .text p.linter
  | .version => .text p.version
  | .duration => .number p.duration
  | .success => .truth p.success
  | .error => p.error.elim .nothing .text

/-- A value that is written for this content. A number is a natural one up to 2⁵³. -/
inductive Value.Means : Value → Content → Prop where
  | null : Means .null .nothing
  | bool (b : Bool) : Means (.bool b) (.truth b)
  | string {gs : List Glyph} {t : String} (h : Spells gs t.toList) : Means (.string gs) (.text t)
  | number {n : Number} {k : Nat} {x : Binary64} (hn : n.IsNat k) (hk : k ≤ 0x20000000000000)
    (hs : x.isNegative = false) (hx : x.units = k * Binary64.unitsOfOne) :
    Means (.number n) (.number x)

/-- A member of an object, under a key that spells a name. -/
structure Member where
  before : Space
  key : List Glyph
  name : List Char
  spells : Spells key name
  afterKey : Space
  beforeValue : Space
  value : Value
  after : Space

namespace Member

/-- A member after the quote that opens its key. -/
def afterQuote (m : Member) : List Char :=
  Glyph.quoted m.key ++ m.afterKey.text ++
    ':' :: (m.beforeValue.text ++ m.value.text ++ m.after.text)

def text (m : Member) : List Char := m.before.text ++ '"' :: m.afterQuote

/-- Members that go on after others. -/
def following (ms : List Member) : List Char := ms.flatMap fun m => ',' :: m.text

def textOf : List Member → List Char
  | [] => []
  | m :: ms => m.text ++ following ms

/-- The values under a field's name. -/
def given (ms : List Member) (f : Field) : List Value :=
  (ms.filter fun m => m.name = f.name.toList).map value

end Member

/-- An object and the space around it. -/
structure Document where
  before : Space
  inside : Space
  members : List Member
  after : Space

namespace Document

def text (d : Document) : List Char :=
  d.before.text ++ '\x7b' :: (d.inside.text ++ Member.textOf d.members ++ '\x7d' :: d.after.text)

def given (d : Document) (f : Field) : List Value := Member.given d.members f

/-- Each field of the record is written once, or left out and as an empty record has it. -/
def Writes (d : Document) (p : Payload) : Prop :=
  ∀ f : Field, (∃ v, d.given f = [v] ∧ v.Means (content p f)) ∨
    d.given f = [] ∧ content p f = content .empty f

end Document
end LiveTemplate.Record
