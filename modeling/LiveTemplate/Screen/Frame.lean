import LiveTemplate.Screen.Paragraph

namespace LiveTemplate

/-- A row of `width` cells between two ends. Where only one cell is left, it is the left end. -/
def edgeRow (left middle right : Char) (style : Style) (width : Nat) : List Cell :=
  match width with
  | 0 => []
  | 1 => [⟨[left], style⟩]
  | n + 2 => ⟨[left], style⟩ :: List.replicate n ⟨[middle], style⟩ ++ [⟨[right], style⟩]

/-- A row of the box around a row of its inside. -/
def sideRow (style : Style) (width : Nat) (inner : List Cell) : List Cell :=
  match width with
  | 0 => []
  | 1 => [⟨['│'], style⟩]
  | _ + 2 => ⟨['│'], style⟩ :: inner ++ [⟨['│'], style⟩]

/-- The clusters of a title. Line feeds have no place in it. -/
def titleClusters (s : List Char) : List (List Char) :=
  (clusters s).filter fun symbol => !symbol.contains '\n'

/-- Writes clusters over cells, from the first one on, as far as they fit into `room` columns. A
style laid over a cell keeps what it leaves open; the cells hidden under a wide symbol are blank. A
cluster without columns is put where the next one goes, and stays there if that one does not fit.
Returns the cells written, the room left, and the cells after them. -/
def overwrite (style : Style) : Nat → List (List Char) → List Cell → List Cell × Nat × List Cell
  | room, [], cells => ([], room, cells)
  | room, _ :: _, [] => ([], room, [])
  | room, symbol :: rest, cell :: below =>
    match symbolWidth symbol with
    | 0 => overwrite style room rest (⟨symbol, style.onto cell.style⟩ :: below)
    | n + 1 =>
      if room < n + 1 then ([], room, cell :: below)
      else
        let after := overwrite style (room - (n + 1)) rest (below.drop n)
        (⟨symbol, style.onto cell.style⟩ :: blankRow n ++ after.1, after.2)

/-- Writes spans over cells, one after the other, while there is room. -/
def overwriteSpans : Nat → List Span → List Cell → List Cell
  | _, [], cells => cells
  | room, span :: rest, cells =>
    if room = 0 then cells
    else
      let written := overwrite span.style room (titleClusters span.text) cells
      written.1 ++ overwriteSpans written.2.1 rest written.2.2

/-- The columns that some spans ask for. -/
def spansWidth : List Span → Nat
  | [] => 0
  | span :: rest => textWidth span.text + spansWidth rest

/-- The top line of a box with its title, which has the room between the corners. Like every length
on the screen, that of the title is counted modulo 65536. -/
def titleRow (style : Style) (width : Nat) (title : List Span) : List Cell :=
  let row := edgeRow '┌' '─' '┐' style width
  row.take 1 ++ overwriteSpans (min (spansWidth title % 65536) (width - 2)) title (row.drop 1)

/-- A box of the given size around rows that fill its inside. -/
def framed (style : Style) (title : List Span) (width height : Nat) (inner : Grid) : Grid :=
  match height with
  | 0 => []
  | 1 => [titleRow style width title]
  | _ + 2 =>
    titleRow style width title :: inner.map (sideRow style width) ++
      [edgeRow '└' '─' '┘' style width]

end LiveTemplate
