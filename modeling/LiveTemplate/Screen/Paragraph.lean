import LiveTemplate.Screen.Cell
import LiveTemplate.Text.Cluster
import LiveTemplate.Text.Width

namespace LiveTemplate

/-- The clusters of some spans, each with its style. -/
def styledClusters (spans : List Span) : List Cell :=
  spans.flatMap fun span => (clusters span.text).map (⟨·, span.style⟩)

/-- The columns of a cluster. Lengths on the screen are counted modulo 65536. -/
def symbolWidth (symbol : List Char) : Nat := textWidth symbol % 65536

/-- The cells of a cluster: its symbol and, where it is wide, the cells hidden under it. -/
def clusterCells (c : Cell) : List Cell :=
  match symbolWidth c.symbol with
  | 0 => []
  | n + 1 => c :: blankRow n

/-- The clusters of a line that are drawn in the `room` that is left of `width` columns. A cluster
wider than the whole line is left out. -/
def fitClusters (width : Nat) : Nat → List Cell → List Cell
  | _, [] => []
  | room, c :: rest =>
    let w := symbolWidth c.symbol
    if width < w then fitClusters width room rest
    else if room < w then []
    else clusterCells c ++ fitClusters width (room - w) rest

/-- One line of text in a row of `width` cells. -/
def drawLine (width : Nat) (line : List Span) : List Cell :=
  let drawn := fitClusters width width (styledClusters line)
  drawn ++ blankRow (width - drawn.length)

/-- Lines of text in a rectangle, from its top. -/
def drawLines (width height : Nat) (lines : List (List Span)) : Grid :=
  let rows := (lines.take height).map (drawLine width)
  rows ++ List.replicate (height - rows.length) (blankRow width)

theorem length_fitClusters (width room : Nat) (cs : List Cell) :
    (fitClusters width room cs).length ≤ room := by
  induction cs generalizing room with
  | nil => simp [fitClusters]
  | cons c cs ih =>
    simp only [fitClusters]
    split
    · exact ih room
    · split
      · simp
      · have hc : (clusterCells c).length = symbolWidth c.symbol := by
          unfold clusterCells
          split <;> simp_all [blankRow]
        have hr := ih (room - symbolWidth c.symbol)
        simp only [List.length_append]
        omega

/-- A drawn line fills its row exactly. -/
theorem length_drawLine (width : Nat) (line : List Span) : (drawLine width line).length = width := by
  have h := length_fitClusters width width (styledClusters line)
  simp only [drawLine, blankRow, List.length_append, List.length_replicate]
  omega

theorem length_drawLines (width height : Nat) (lines : List (List Span)) :
    (drawLines width height lines).length = height := by
  simp only [drawLines, List.length_append, List.length_map, List.length_take,
    List.length_replicate]
  omega

end LiveTemplate
