namespace LiveTemplate

/-- A width and a height. -/
structure Size where
  width : Nat
  height : Nat
  deriving DecidableEq, Repr

namespace Size

/-- The rows of the help line. -/
def helpRows (s : Size) : Nat := if 4 ≤ s.height then 1 else 0

def leftPane (s : Size) : Size := ⟨(s.width + 1) / 2, s.height - s.helpRows⟩

def rightPane (s : Size) : Size := ⟨s.width / 2, s.height - s.helpRows⟩

/-- The rows of a pane's header. -/
def headerRows (s : Size) : Nat := if 2 ≤ s.height then 1 else 0

/-- The box of a pane. -/
def box (s : Size) : Size := ⟨s.width, s.height - s.headerRows⟩

/-- The inside of a box. -/
def inside (s : Size) : Size := ⟨s.width - 2, s.height - 2⟩

end Size
end LiveTemplate
