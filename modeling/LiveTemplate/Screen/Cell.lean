namespace LiveTemplate

inductive Colour where
  | rgb (red green blue : Nat)
  | darkGray
  deriving DecidableEq, Repr

/-- A byte as two hexadecimal digits. -/
def hexByte (n : Nat) : String :=
  let digits := Nat.toDigits 16 n
  String.ofList (List.replicate (2 - digits.length) '0' ++ digits)

def Colour.text : Colour → String
  | rgb red green blue => "#" ++ hexByte red ++ hexByte green ++ hexByte blue
  | darkGray => "DarkGray"

structure Style where
  foreground : Option Colour
  background : Option Colour
  bold : Bool
  deriving DecidableEq, Repr

namespace Style

def plain : Style := ⟨none, none, false⟩

def ink (c : Colour) : Style := ⟨some c, none, false⟩

def boldInk (c : Colour) : Style := ⟨some c, none, true⟩

def boldOn (ink paper : Colour) : Style := ⟨some ink, some paper, true⟩

/-- The ink, the paper and whether it is bold; a dash stands for what is left open. -/
def text (s : Style) : String :=
  (s.foreground.elim "-" Colour.text) ++ " " ++ (s.background.elim "-" Colour.text) ++
    (if s.bold then " bold" else "")

/-- A style laid over another: what it leaves open shows through. -/
def onto (upper lower : Style) : Style where
  foreground := upper.foreground <|> lower.foreground
  background := upper.background <|> lower.background
  bold := upper.bold || lower.bold

end Style

structure Cell where
  symbol : List Char
  style : Style
  deriving DecidableEq, Repr

/-- A cell on which nothing was drawn. -/
def Cell.blank : Cell := ⟨[' '], .plain⟩

/-- A stretch of text in one style. -/
structure Span where
  text : List Char
  style : Style
  deriving DecidableEq, Repr

/-- Rows of cells. -/
abbrev Grid := List (List Cell)

def blankRow (width : Nat) : List Cell := List.replicate width .blank

/-- Two grids of the same height side by side. -/
def beside (left right : Grid) : Grid := List.zipWith (· ++ ·) left right

end LiveTemplate
