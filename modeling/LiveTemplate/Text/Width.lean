import LiveTemplate.Text.WidthTables

namespace LiveTemplate

def charWidth (c : Char) : Nat :=
  let n := c.toNat
  if n ≤ 0xa0 then 1
  else if n = 0x17a4 then 2
  else if n = 0x17d8 then 3
  else if zeroWidthRanges.contains c then 0
  else if wideRanges.contains c then 2
  else 1

/-- Asks for the picture form of the emoji before it. -/
def pictureSelector : Char := '\ufe0f'

/-- Asks for the text form of the emoji before it. -/
def textSelector : Char := '\ufe0e'

def zeroWidthJoiner : Char := '\u200d'

/-- Draws a key around the character before it. -/
def enclosingKeycap : Char := '\u20e3'

def tifinaghJoiner : Char := '\u2d7f'

def isSkinTone (c : Char) : Bool := 0x1f3fb ≤ c.toNat && c.toNat ≤ 0x1f3ff

def isRegionalIndicator (c : Char) : Bool := 0x1f1e6 ≤ c.toNat && c.toNat ≤ 0x1f1ff

/-- The invisible letters that follow a flag to name a region. -/
def isTagLetter (c : Char) : Bool := 0xe0061 ≤ c.toNat && c.toNat ≤ 0xe007a

/-- The invisible digits that follow a flag to name a region. -/
def isTagDigit (c : Char) : Bool := 0xe0030 ≤ c.toNat && c.toNat ≤ 0xe0039

/-- Whether an emoji has a picture form that a selector can ask for. -/
def hasPictureForm (c : Char) : Bool :=
  textEmojiRanges.contains c || textStyleRanges.contains c ||
    c.toNat = 0x1f21a || c.toNat = 0x1f22f

def isTifinaghConsonant (c : Char) : Bool :=
  (0x2d31 ≤ c.toNat && c.toNat ≤ 0x2d65) || c.toNat = 0x2d6f

/-- The Khmer letters that are written below the one before when a coeng sign precedes them. -/
def isCoengLetter (c : Char) : Bool :=
  let n := c.toNat
  (0x1780 ≤ n && n ≤ 0x1782) || (0x1784 ≤ n && n ≤ 0x1787) || (0x1789 ≤ n && n ≤ 0x178c) ||
    (0x178e ≤ n && n ≤ 0x1793) || (0x1795 ≤ n && n ≤ 0x1798) || (0x179b ≤ n && n ≤ 0x179d) ||
    n = 0x17a0 || n = 0x17a2 || n = 0x17a7 || n = 0x17ab || n = 0x17ac || n = 0x17af

/-- Whether two Arabic letters join across a character. -/
def joinsAcross (c : Char) : Bool := charWidth c = 0 && !joinBreakingRanges.contains c

/-- Whether a character may stand inside a sign of a script without a change to the sign. -/
def isTransparent (c : Char) : Bool :=
  let n := c.toNat
  n = 0x34f || (0x17b4 ≤ n && n ≤ 0x17b5) || (0x180b ≤ n && n ≤ 0x180d) || n = 0x180f ||
    n = 0x200d || (0xfe00 ≤ n && n ≤ 0xfe0f) || (0xe0100 ≤ n && n ≤ 0xe01ef)

/-- The end of a sign that is written with several characters. `joined` tells that a joiner has
been put in front. -/
inductive SignTail where
  | plain
  | lineFeed
  | skinTone
  | regional
  | regionals
  | picture
  | joinedPicture
  | joinedKeycap
  | joinedRegional
  | joinedRegionals (even : Bool)
  | tagLetters (count : Nat)
  | tagDigits (count : Nat)
  | alef
  | lamed (joined : Bool)
  | coengLetter
  | ya (joined : Bool)
  | vowelYa
  | tifinagh (joined : Bool)
  | tifinaghPair
  | lisuTone
  | oldTurkicI (joined : Bool)
  deriving DecidableEq, Repr

namespace SignTail

def isScript : SignTail → Bool
  | alef | lamed _ | coengLetter | ya _ | vowelYa | tifinagh _ | tifinaghPair | lisuTone
  | oldTurkicI _ => true
  | _ => false

/-- The sign that a character is the end of. -/
def of (c : Char) : SignTail :=
  let n := c.toNat
  if n = 0x5dc then lamed false
  else if isCoengLetter c then coengLetter
  else if n = 0x1a10 then ya false
  else if isTifinaghConsonant c then tifinagh false
  else if 0xa4fc ≤ n ∧ n ≤ 0xa4fd then lisuTone
  else if n = 0x10c03 then oldTurkicI false
  else if isRegionalIndicator c then regional
  else if isSkinTone c then skinTone
  else if alefRanges.contains c then alef
  else if pictureEmojiRanges.contains c then picture
  else plain

/-- The sign with a joiner in front. -/
def join : SignTail → SignTail
  | lamed _ => lamed true
  | ya _ => ya true
  | tifinagh _ => tifinagh true
  | oldTurkicI _ => oldTurkicI true
  | sign => sign

/-- What a character adds to the columns of a script sign that it belongs to, and the sign then. -/
def extendScript (c : Char) : SignTail → Option (Int × SignTail)
  | alef =>
    if lamRanges.contains c then some (0, plain)
    else if joinsAcross c then some (0, alef)
    else none
  | lamed true => if c.toNat = 0x5d0 then some (0, plain) else none
  | coengLetter => if c.toNat = 0x17d2 then some (-1, plain) else none
  | ya true => if c.toNat = 0x1a17 then some (0, vowelYa) else none
  | vowelYa => if c.toNat = 0x1a15 then some (0, plain) else none
  | tifinagh joined =>
    if c = tifinaghJoiner then some (1, tifinaghPair)
    else if joined && isTifinaghConsonant c then some (0, plain)
    else none
  | tifinaghPair => if isTifinaghConsonant c then some (-1, plain) else none
  | lisuTone => if 0xa4f8 ≤ c.toNat ∧ c.toNat ≤ 0xa4fb then some (0, plain) else none
  | oldTurkicI true => if c.toNat = 0x10c32 then some (0, plain) else none
  | _ => none

/-- What a character adds to the columns of an emoji with a joiner in front, and the end of the
sequence then. -/
def extendJoined (c : Char) : Option (Int × SignTail) :=
  if c = enclosingKeycap then some (0, joinedKeycap)
  else if isRegionalIndicator c then some (1, joinedRegional)
  else if isSkinTone c then some (0, skinTone)
  else if c.toNat = 0xe007f then some (0, tagLetters 0)
  else if pictureEmojiRanges.contains c then some (0, picture)
  else none

/-- What a character adds to the columns of the end of a flag's region name, and the end then. A
name has three to six letters, or three digits and at most four letters. -/
def extendTags (c : Char) : SignTail → Option (Int × SignTail)
  | tagLetters count =>
    if isTagLetter c && count < 6 then some (0, tagLetters (count + 1))
    else if isTagDigit c && count < 5 then some (0, tagDigits 1)
    else if c.toNat = 0x1f3f4 && 3 ≤ count then some (0, picture)
    else none
  | tagDigits count =>
    if isTagDigit c && count < 3 then some (0, tagDigits (count + 1))
    else if c.toNat = 0x1f3f4 && count = 3 then some (0, picture)
    else none
  | _ => none

/-- What a character adds to the columns of an emoji sequence that it belongs to, and the end of
the sequence then. -/
def extendEmoji (c : Char) : SignTail → Option (Int × SignTail)
  | skinTone =>
    if modifierBaseRanges.contains c then some (0, picture)
    else if c = zeroWidthJoiner then some (0, joinedPicture)
    else none
  | regional => if isRegionalIndicator c then some (1, regionals) else none
  | regionals =>
    if isRegionalIndicator c then some (1, regionals)
    else if c = zeroWidthJoiner then some (0, joinedPicture)
    else none
  | picture => if c = zeroWidthJoiner then some (0, joinedPicture) else none
  | joinedPicture => extendJoined c
  | joinedRegional => if isRegionalIndicator c then some (-1, joinedRegionals true) else none
  | joinedRegionals isEven =>
    if c = zeroWidthJoiner then some (0, joinedPicture)
    else if isRegionalIndicator c then
      some (if isEven then 3 else -1, joinedRegionals !isEven)
    else none
  | sign => extendTags c sign

end SignTail

/-- The form that a selector asks for. -/
inductive EmojiForm where
  | text
  | picture
  deriving DecidableEq, Repr

/-- What a text begins with: a selector, if one stands there, and a sign that can still grow. -/
structure Head where
  form : Option EmojiForm
  sign : SignTail
  deriving DecidableEq, Repr

namespace Head

def empty : Head := ⟨none, .plain⟩

/-- The head behind a selector. A sign of a script outlasts the selector, and an emoji sequence one
that asks for a picture. -/
def select (h : Head) (form : EmojiForm) : Head :=
  if h.sign.isScript ∨ (form = .picture ∧ (h.sign = .joinedPicture ∨ h.sign = .joinedKeycap)) then
    ⟨some form, h.sign⟩
  else ⟨some form, .plain⟩

/-- The head whose selector no emoji answers. -/
def unselect (h : Head) : Head :=
  match h.form with
  | none => h
  | some _ => ⟨none, if h.sign.isScript then h.sign else .plain⟩

/-- The columns of an emoji that takes its picture form: none if the next emoji is tied to it. -/
def pictureWidth (h : Head) : Int :=
  if h.sign = .joinedPicture ∨ h.sign = .joinedKeycap then 0 else 2

/-- What a character that is no selector adds to the columns of a text without one in front, and
the head then. -/
def prependSign (c : Char) (sign : SignTail) : Int × Head :=
  if sign.isScript && sign ≠ .alef && isTransparent c then
    (0, ⟨none, if c = zeroWidthJoiner then sign.join else sign⟩)
  else
    match (sign.extendScript c).or (sign.extendEmoji c) with
    | some (columns, sign) => (columns, ⟨none, sign⟩)
    | none => (charWidth c, ⟨none, .of c⟩)

/-- What a character adds to the columns of a text with this head, and the head then. -/
def prepend (c : Char) (h : Head) : Int × Head :=
  if h.form = some .picture ∧ hasPictureForm c then (h.pictureWidth, ⟨none, .picture⟩)
  else if c = '\n' then (1, ⟨none, .lineFeed⟩)
  else if c = '\r' then (if h.sign = .lineFeed then 0 else 1, empty)
  else if c.toNat ≤ 0xa0 then (1, empty)
  else if c = pictureSelector then (0, h.unselect.select .picture)
  else if c = textSelector then (0, h.unselect.select .text)
  else if h.form = some .text ∧ textStyleRanges.contains c then (1, empty)
  else prependSign c h.unselect.sign

end Head

def textWidth (s : List Char) : Nat :=
  (s.foldr (fun c (columns, head) =>
    let (added, head) := head.prepend c
    ((columns + added).toNat, head)) (0, Head.empty)).1

end LiveTemplate
