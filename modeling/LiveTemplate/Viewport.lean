import LiveTemplate.Text.Lines

namespace LiveTemplate

/-- The largest 64-bit count. -/
def countLimit : Nat := 0xffffffffffffffff

/-- The number of lines that a page key moves. -/
def pageStride : Nat := 10

def maxOffset (lines height : Nat) : Nat := lines - height

/-- How far a pane has been scrolled down. -/
structure Scroll where
  offset : Nat
  deriving DecidableEq, Repr, Inhabited

namespace Scroll

def top : Scroll := ⟨0⟩

def clamp (s : Scroll) (lines height : Nat) : Scroll := ⟨min s.offset (maxOffset lines height)⟩

def down (s : Scroll) (step lines height : Nat) : Scroll :=
  clamp ⟨min (s.offset + step) countLimit⟩ lines height

def up (s : Scroll) (step : Nat) : Scroll := ⟨s.offset - step⟩

def pageDown (s : Scroll) (lines height : Nat) : Scroll := s.down pageStride lines height

def pageUp (s : Scroll) : Scroll := s.up pageStride

/-- The end of a text of `lines` lines. -/
def bottom (lines height : Nat) : Scroll := ⟨maxOffset lines height⟩

end Scroll

/-- Appends a text to the last of some lines. -/
def appendToLast (mark : List Char) : List (List Char) → List (List Char)
  | [] => []
  | [line] => [line ++ mark]
  | line :: rest => line :: appendToLast mark rest

/-- Says which lines of how many are shown. -/
def windowMark (first last total : Nat) : String :=
  " [" ++ toString first ++ "-" ++ toString last ++ " of " ++ toString total ++ " lines]"

/-- The lines that a pane of `height` rows shows. -/
def windowLines (all : List (List Char)) (offset height : Nat) : List (List Char) :=
  let start := min offset (maxOffset all.length height)
  let stop := min all.length (start + height)
  let shown := (all.drop start).take (stop - start)
  if height < all.length then
    appendToLast (windowMark (start + 1) stop all.length).toList shown
  else shown

/-- The part of a text that a pane of `height` rows shows; where something is hidden, the last row
says which part it is. -/
def visibleWindow (text : String) (offset height : Nat) : String :=
  if height = 0 then "" else String.ofList (joinLines (windowLines (splitLines text.toList) offset height))

end LiveTemplate
