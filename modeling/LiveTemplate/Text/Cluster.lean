import LiveTemplate.Text.ClusterTables

namespace LiveTemplate

/-- What a code point is to the rules that divide a text into clusters. -/
inductive ClusterClass where
  | carriageReturn
  | lineFeed
  | control
  | extend
  | linker
  | nonJoiner
  | joiner
  | spacingMark
  | prepended
  | regional
  | leading
  | vowel
  | trailing
  | openSyllable
  | closedSyllable
  | pictograph
  | consonant
  | other
  deriving DecidableEq, Repr

namespace ClusterClass

/-- The class of a code point outside ASCII. -/
def ofWide (c : Char) : ClusterClass :=
  let n := c.toNat
  if n = 0x200d then joiner
  else if n = 0x200c then nonJoiner
  else if conjunctLinkerRanges.contains c then linker
  else if extendRanges.contains c then extend
  else if controlRanges.contains c then control
  else if spacingMarkRanges.contains c then spacingMark
  else if prependRanges.contains c then prepended
  else if 0x1f1e6 ≤ n ∧ n ≤ 0x1f1ff then regional
  else if (0x1100 ≤ n ∧ n ≤ 0x115f) ∨ (0xa960 ≤ n ∧ n ≤ 0xa97c) then leading
  else if (0x1160 ≤ n ∧ n ≤ 0x11a7) ∨ (0xd7b0 ≤ n ∧ n ≤ 0xd7c6) ∨ n = 0x16d63 ∨
      (0x16d67 ≤ n ∧ n ≤ 0x16d6a) then vowel
  else if (0x11a8 ≤ n ∧ n ≤ 0x11ff) ∨ (0xd7cb ≤ n ∧ n ≤ 0xd7fb) then trailing
  else if 0xac00 ≤ n ∧ n ≤ 0xd7a3 then
    if (n - 0xac00) % 28 = 0 then openSyllable else closedSyllable
  else if pictographRanges.contains c then pictograph
  else if conjunctConsonantRanges.contains c then consonant
  else other

def of (c : Char) : ClusterClass :=
  if c = '\r' then carriageReturn
  else if c = '\n' then lineFeed
  else if c.toNat < 0x20 ∨ c.toNat = 0x7f then control
  else if c.toNat < 0x80 then other
  else ofWide c

end ClusterClass

/-- What the code points of a cluster so far can still be tied to. -/
inductive Tie where
  | loose
  | flag
  | picture
  | pictureJoined
  | consonant
  | consonantLinked
  deriving DecidableEq, Repr

namespace Tie

/-- The tie after one more code point. -/
def step : Tie → ClusterClass → Tie
  | _, .pictograph => picture
  | _, .consonant => consonant
  | flag, .regional => loose
  | _, .regional => flag
  | picture, .extend => picture
  | picture, .linker => picture
  | picture, .nonJoiner => picture
  | picture, .joiner => pictureJoined
  | consonant, .extend => consonant
  | consonant, .joiner => consonant
  | consonant, .linker => consonantLinked
  | consonantLinked, .extend => consonantLinked
  | consonantLinked, .joiner => consonantLinked
  | consonantLinked, .linker => consonantLinked
  | _, _ => loose

/-- Whether the tie holds a code point of this class to what went before. -/
def holds : Tie → ClusterClass → Bool
  | flag, .regional => true
  | pictureJoined, .pictograph => true
  | consonantLinked, .consonant => true
  | _, _ => false

end Tie

/-- Whether the first of two classes stands apart from whatever follows it. -/
def ClusterClass.standsApart : ClusterClass → Bool
  | .carriageReturn => true
  | .lineFeed => true
  | .control => true
  | _ => false

/-- Whether a text is not divided between two neighbours of these classes. -/
def glued (last : ClusterClass) (tie : Tie) (next : ClusterClass) : Bool :=
  if last = .carriageReturn ∧ next = .lineFeed then true
  else if last.standsApart || next.standsApart then false
  else
    match last, next with
    | .leading, .leading | .leading, .vowel | .leading, .openSyllable | .leading, .closedSyllable
    | .openSyllable, .vowel | .openSyllable, .trailing | .vowel, .vowel | .vowel, .trailing
    | .closedSyllable, .trailing | .trailing, .trailing => true
    | _, .extend | _, .linker | _, .nonJoiner | _, .joiner | _, .spacingMark => true
    | .prepended, _ => true
    | _, _ => tie.holds next

/-- Divides what follows a code point of class `last`: the rest of its cluster, and the clusters
after it. -/
def divideClusters (last : ClusterClass) (tie : Tie) : List Char → List Char × List (List Char)
  | [] => ([], [])
  | c :: rest =>
    let next := ClusterClass.of c
    let divided := divideClusters next (tie.step next) rest
    if glued last tie next then (c :: divided.1, divided.2)
    else ([], (c :: divided.1) :: divided.2)

def clusters (s : List Char) : List (List Char) := (divideClusters .control .loose s).2

end LiveTemplate
