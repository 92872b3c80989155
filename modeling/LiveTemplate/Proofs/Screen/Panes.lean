import LiveTemplate.Proofs.Screen.Title
import LiveTemplate.Screen

namespace LiveTemplate

/-- Rows of the same width. -/
structure Fills (g : Grid) (width height : Nat) : Prop where
  height_eq : g.length = height
  width_eq : ∀ row ∈ g, row.length = width

/-- The cell in a column of a row. -/
def cellAt (g : Grid) (x y : Nat) : Option Cell := g[y]?.bind (·[x]?)

/-- The cells of a box, counted from its top left corner, have its border left, right and below, and
in the corners; `corner` tells when in the one on the top right. -/
structure Bordered (cell : Nat → Nat → Option Cell) (width height : Nat) (style : Style)
    (corner : Prop) : Prop where
  topLeft : cell 0 0 = some ⟨['┌'], style⟩
  topRight : cell (width - 1) 0 = some ⟨['┐'], style⟩ ↔ corner
  bottomLeft : cell 0 (height - 1) = some ⟨['└'], style⟩
  bottomRight : cell (width - 1) (height - 1) = some ⟨['┘'], style⟩
  left : ∀ y, 0 < y → y < height - 1 → cell 0 y = some ⟨['│'], style⟩
  right : ∀ y, 0 < y → y < height - 1 → cell (width - 1) y = some ⟨['│'], style⟩
  bottom : ∀ x, 0 < x → x < width - 1 → cell x (height - 1) = some ⟨['─'], style⟩

variable {g g' inner : Grid} {width width' height height' x y : Nat} {style : Style}
variable {title : List Span} {corner : Prop}

theorem Bordered.congr {cell cell' : Nat → Nat → Option Cell} (hw : 2 ≤ width) (hh : 2 ≤ height)
    (hcell : ∀ x y, x < width → y < height → cell' x y = cell x y)
    (h : Bordered cell width height style corner) :
    Bordered cell' width height style corner := by
  refine ⟨?_, ?_, ?_, ?_, fun y hy hlt => ?_, fun y hy hlt => ?_, fun x hx hlt => ?_⟩
  · rw [hcell _ _ (by omega) (by omega)]
    exact h.topLeft
  · rw [hcell _ _ (by omega) (by omega)]
    exact h.topRight
  · rw [hcell _ _ (by omega) (by omega)]
    exact h.bottomLeft
  · rw [hcell _ _ (by omega) (by omega)]
    exact h.bottomRight
  · rw [hcell _ _ (by omega) (by omega)]
    exact h.left y hy hlt
  · rw [hcell _ _ (by omega) (by omega)]
    exact h.right y hy hlt
  · rw [hcell _ _ (by omega) (by omega)]
    exact h.bottom x hx hlt

theorem fills_drawLines (width height : Nat) (lines : List (List Span)) :
    Fills (drawLines width height lines) width height := by
  refine ⟨length_drawLines width height lines, fun row hrow => ?_⟩
  rcases List.mem_append.mp hrow with hrow | hrow
  · obtain ⟨line, _, rfl⟩ := List.mem_map.mp hrow
    exact length_drawLine width line
  · rw [List.eq_of_mem_replicate hrow]
    exact List.length_replicate

theorem Fills.append (h : Fills g width height) (h' : Fills g' width height') :
    Fills (g ++ g') width (height + height') := by
  refine ⟨by rw [List.length_append, h.height_eq, h'.height_eq], fun row hrow => ?_⟩
  rcases List.mem_append.mp hrow with hrow | hrow
  · exact h.width_eq row hrow
  · exact h'.width_eq row hrow

theorem Fills.beside (h : Fills g width height) (h' : Fills g' width' height) :
    Fills (beside g g') (width + width') height := by
  refine ⟨?_, fun row hrow => ?_⟩
  · rw [LiveTemplate.beside, List.length_zipWith, h.height_eq, h'.height_eq, Nat.min_self]
  · rw [LiveTemplate.beside, List.mem_iff_getElem?] at hrow
    obtain ⟨i, hi⟩ := hrow
    rw [List.getElem?_zipWith_eq_some] at hi
    obtain ⟨left, right, hleft, hright, rfl⟩ := hi
    rw [List.length_append, h.width_eq left (List.mem_of_getElem? hleft),
      h'.width_eq right (List.mem_of_getElem? hright)]

theorem length_edgeRow (left middle right : Char) (style : Style) (width : Nat) :
    (edgeRow left middle right style width).length = width := by
  match width with
  | 0 => rfl
  | 1 => rfl
  | n + 2 => simp [edgeRow]

theorem length_sideRow {row : List Cell} (h : row.length = width - 2) :
    (sideRow style width row).length = width := by
  match width, h with
  | 0, _ => rfl
  | 1, _ => rfl
  | n + 2, h =>
    have hrow : row.length = n := h
    simp [sideRow, hrow]

/-- A box around rows that fill its inside fills its own place. -/
theorem fills_framed (style : Style) (title : List Span)
    (h : Fills inner (width - 2) (height - 2)) :
    Fills (framed style title width height inner) width height := by
  match height, h with
  | 0, _ => exact ⟨rfl, nofun⟩
  | 1, _ =>
    refine ⟨rfl, fun row hrow => ?_⟩
    cases List.mem_singleton.mp hrow
    exact length_titleRow style width title
  | n + 2, h =>
    have hinner : inner.length = n := h.height_eq
    refine ⟨by simp [framed, hinner], fun row hrow => ?_⟩
    rw [framed, List.cons_append, List.mem_cons, List.mem_append, List.mem_singleton] at hrow
    rcases hrow with rfl | hrow | rfl
    · exact length_titleRow style width title
    · obtain ⟨inside, hinside, rfl⟩ := List.mem_map.mp hrow
      exact length_sideRow (h.width_eq inside hinside)
    · exact length_edgeRow _ _ _ style width

theorem cellAt_append_left (h : y < g.length) : cellAt (g ++ g') x y = cellAt g x y := by
  rw [cellAt, List.getElem?_append_left h, cellAt]

theorem cellAt_append_right (h : Fills g width height) :
    cellAt (g ++ g') x (height + y) = cellAt g' x y := by
  rw [cellAt, List.getElem?_append_right (by rw [h.height_eq]; omega), h.height_eq,
    Nat.add_sub_cancel_left, cellAt]

theorem cellAt_beside_left (h : Fills g width height) (h' : Fills g' width' height)
    (hx : x < width) (hy : y < height) : cellAt (beside g g') x y = cellAt g x y := by
  have hleft : y < g.length := by rw [h.height_eq]; exact hy
  have hright : y < g'.length := by rw [h'.height_eq]; exact hy
  have hrow : x < (g[y]).length := by rw [h.width_eq _ (List.getElem_mem hleft)]; exact hx
  rw [cellAt, beside, List.getElem?_zipWith, List.getElem?_eq_getElem hleft,
    List.getElem?_eq_getElem hright, cellAt, List.getElem?_eq_getElem hleft]
  exact List.getElem?_append_left hrow

theorem cellAt_beside_right (h : Fills g width height) (h' : Fills g' width' height)
    (hy : y < height) : cellAt (beside g g') (width + x) y = cellAt g' x y := by
  have hleft : y < g.length := by rw [h.height_eq]; exact hy
  have hright : y < g'.length := by rw [h'.height_eq]; exact hy
  have hrow : (g[y]).length = width := h.width_eq _ (List.getElem_mem hleft)
  rw [cellAt, beside, List.getElem?_zipWith, List.getElem?_eq_getElem hleft,
    List.getElem?_eq_getElem hright, cellAt, List.getElem?_eq_getElem hright]
  refine (List.getElem?_append_right (by omega)).trans ?_
  rw [hrow, Nat.add_sub_cancel_left]
  rfl

theorem getElem?_edgeRow_left (left middle right : Char) (style : Style) (n : Nat) :
    (edgeRow left middle right style (n + 2))[0]? = some ⟨[left], style⟩ := rfl

theorem getElem?_edgeRow_right (left middle right : Char) (style : Style) (n : Nat) :
    (edgeRow left middle right style (n + 2))[n + 1]? = some ⟨[right], style⟩ := by
  simp [edgeRow]

theorem getElem?_edgeRow_middle (left middle right : Char) (style : Style) {n : Nat} (h : x < n) :
    (edgeRow left middle right style (n + 2))[x + 1]? = some ⟨[middle], style⟩ := by
  simp [edgeRow, List.getElem?_append_left, h]

theorem getElem?_sideRow_left (style : Style) (n : Nat) (row : List Cell) :
    (sideRow style (n + 2) row)[0]? = some ⟨['│'], style⟩ := rfl

theorem getElem?_sideRow_right (style : Style) {n : Nat} {row : List Cell} (h : row.length = n) :
    (sideRow style (n + 2) row)[n + 1]? = some ⟨['│'], style⟩ := by
  simp [sideRow, ← h]

theorem getElem?_framed_side (style : Style) (title : List Span) (width : Nat) {n : Nat}
    (h : inner.length = n) (hy : y < n) :
    ∃ row ∈ inner, (framed style title width (n + 2) inner)[y + 1]? =
      some (sideRow style width row) := by
  have hinner : y < inner.length := by omega
  refine ⟨inner[y], List.getElem_mem hinner, ?_⟩
  simp [framed, List.getElem?_append_left, hinner]

theorem getElem?_framed_last (style : Style) (title : List Span) (width : Nat) {n : Nat}
    (h : inner.length = n) :
    (framed style title width (n + 2) inner)[n + 1]? = some (edgeRow '└' '─' '┘' style width) := by
  simp [framed, ← h]

/-- A box around rows that fill its inside has its border, if its title leaves it the corner. -/
theorem bordered_framed (style : Style) (title : List Span) (hw : 2 ≤ width) (hh : 2 ≤ height)
    (h : Fills inner (width - 2) (height - 2))
    (hcorner : (titleRow style width title)[width - 1]? = some ⟨['┐'], style⟩ ↔ corner) :
    Bordered (cellAt (framed style title width height inner)) width height style corner := by
  obtain ⟨m, rfl⟩ := Nat.exists_eq_add_of_le' hw
  obtain ⟨n, rfl⟩ := Nat.exists_eq_add_of_le' hh
  have hinner : inner.length = n := h.height_eq
  have hlast := getElem?_framed_last style title (m + 2) hinner
  simp only [Nat.add_sub_cancel, Nat.add_succ_sub_one] at h hcorner ⊢
  have side : ∀ y, 0 < y → y < n + 1 → ∃ row ∈ inner,
      (framed style title (m + 2) (n + 2) inner)[y]? = some (sideRow style (m + 2) row) := by
    intro y hy hlt
    obtain ⟨k, rfl⟩ := Nat.exists_eq_add_one_of_ne_zero (Nat.ne_of_gt hy)
    exact getElem?_framed_side style title (m + 2) hinner (by omega)
  refine ⟨rfl, hcorner, ?_, ?_, fun y hy hlt => ?_, fun y hy hlt => ?_, fun x hx hlt => ?_⟩
  · rw [cellAt, Nat.add_succ_sub_one, hlast]
    exact getElem?_edgeRow_left _ _ _ style m
  · rw [cellAt, Nat.add_succ_sub_one, hlast]
    exact getElem?_edgeRow_right _ _ _ style m
  · obtain ⟨row, _, hrow⟩ := side y hy hlt
    rw [cellAt, hrow]
    exact getElem?_sideRow_left style m row
  · obtain ⟨row, hmem, hrow⟩ := side y hy hlt
    rw [cellAt, hrow]
    exact getElem?_sideRow_right style (h.width_eq row hmem)
  · obtain ⟨k, rfl⟩ := Nat.exists_eq_add_one_of_ne_zero (Nat.ne_of_gt hx)
    rw [cellAt, Nat.add_succ_sub_one, hlast]
    exact getElem?_edgeRow_middle _ _ _ style (by omega)

/-- Without a title the corner is free. -/
theorem getElem?_titleRow_nil (style : Style) (hw : 2 ≤ width) :
    (titleRow style width [])[width - 1]? = some ⟨['┐'], style⟩ := by
  obtain ⟨n, rfl⟩ := Nat.exists_eq_add_of_le' hw
  rw [Nat.add_succ_sub_one, getElem?_titleRow_last, overwriteSpans, getLast?_lineFrom]

namespace Size

theorem width_panes (size : Size) : size.leftPane.width + size.rightPane.width = size.width := by
  simp only [leftPane, rightPane]
  omega

theorem height_panes (size : Size) : size.leftPane.height + size.helpRows = size.height := by
  simp only [leftPane, helpRows]
  split <;> omega

theorem height_box (pane : Size) : pane.headerRows + pane.box.height = pane.height := by
  simp only [box, headerRows]
  split <;> omega

theorem headerRows_add_lt {pane : Size} (h : y < pane.box.height) :
    pane.headerRows + y < pane.height := by
  have := pane.height_box
  omega

end Size

namespace OutputPane

variable {p : OutputPane}

/-- A result that names the analyzer's version is shown. -/
def ShowsVersion (p : OutputPane) : Prop :=
  p.pending = false ∧ p.status = some .ready ∧ ∃ m, p.info = some m

/-- What the title can say where no version is shown. -/
def plainLabels : List String :=
  ["", "analyzing...", "waiting for input to settle", "ready"] ++
    [FailureKind.toolUnavailable, .processFailure, .malformedOutput, .ioFailure].map
      FailureKind.label

/-- The title goes up to the right corner of a box, and a cluster without columns stands in it where
it has used up the room before the corner. -/
def TakesCorner (p : OutputPane) (width : Nat) : Prop :=
  width ≤ spansWidth p.title % 65536 + 2 ∧
    EndsBare (p.title.flatMap fun span => titleClusters span.text) (width - 2)

theorem label_mem_plainLabels (h : ¬ p.ShowsVersion) : p.label ∈ plainLabels := by
  unfold label
  split
  · split <;> decide
  next hpending =>
    split
    next m hstatus hinfo =>
      exact absurd ⟨Bool.not_eq_true _ ▸ hpending, hstatus, m, hinfo⟩ h
    next => decide
    next kind _ => cases kind <;> decide
    next => decide
    next => decide

/-- The clusters of the pane's name take a column each. -/
theorem symbolWidth_name : ∀ symbol ∈ titleClusters " Output ".toList, symbolWidth symbol = 1 := by
  decide +kernel

theorem symbolWidth_plainLabels : ∀ label ∈ plainLabels,
    ∀ symbol ∈ titleClusters ("· " ++ label ++ " ").toList, symbolWidth symbol ≠ 0 := by
  decide +kernel

theorem clusters_point (text : List Char) :
    ∃ rest, clusters ('·' :: ' ' :: text) = ['·'] :: rest := by
  have hpoint : ClusterClass.of '·' = .other := by decide +kernel
  have hblank : ClusterClass.of ' ' = .other := by decide +kernel
  simp [clusters, divideClusters, hpoint, hblank, glued, ClusterClass.standsApart, Tie.step,
    Tie.holds]

/-- A label begins with a point, which takes a column. -/
theorem not_endsBare_label (label : String) :
    ¬ EndsBare (titleClusters ("· " ++ label ++ " ").toList) 0 := by
  have htext : ("· " ++ label ++ " ").toList = '·' :: ' ' :: (label.toList ++ [' ']) := by
    simp
  have hpoint : symbolWidth ['·'] = 0 + 1 := by decide +kernel
  obtain ⟨rest, hrest⟩ := clusters_point (label.toList ++ [' '])
  have hsymbols : titleClusters ("· " ++ label ++ " ").toList =
      ['·'] :: rest.filter fun symbol => !symbol.contains '\n' := by
    rw [titleClusters, htext, hrest]
    simp
  rw [hsymbols, endsBare_cons_of_wide hpoint]
  omega

/-- The symbols of a title with a label are those of the name and then those of the label. -/
theorem title_of_label (h : p.label ≠ "") : ∃ name label, p.title = [name, label] ∧
    name.text = " Output ".toList ∧ label.text = ("· " ++ p.label ++ " ").toList := by
  rw [title, if_neg h]
  exact ⟨_, _, rfl, rfl, rfl⟩

theorem title_of_no_label (h : p.label = "") : p.title = [⟨" Output ".toList, .plain⟩] := by
  rw [title, if_pos h]

theorem not_takesCorner (h : p.label ∈ plainLabels) : ¬ p.TakesCorner width := by
  rintro ⟨-, hends⟩
  have hname : ∀ symbol ∈ titleClusters " Output ".toList, symbolWidth symbol ≠ 0 :=
    fun symbol hs => by simp [symbolWidth_name symbol hs]
  refine not_endsBare_of_pos ?_ hends
  by_cases hlabel : p.label = ""
  · rw [title_of_no_label hlabel]
    simpa using hname
  · obtain ⟨name, label, htitle, hfirst, hsecond⟩ := title_of_label hlabel
    rw [htitle]
    simp only [List.flatMap_cons, List.flatMap_nil, List.append_nil, List.mem_append, hfirst,
      hsecond]
    rintro symbol (hs | hs)
    · exact hname symbol hs
    · exact symbolWidth_plainLabels p.label h symbol hs

/-- The name alone never takes the corner. -/
theorem corner_of_no_label (style : Style) {n : Nat} (h : p.label = "") :
    (titleRow style (n + 2) p.title)[n + 1]? = some ⟨['┐'], style⟩ := by
  have hlength := length_lineFrom style n
  rw [getElem?_titleRow_last, title_of_no_label h, ← getLast?_lineFrom]
  generalize hroom : min (spansWidth [⟨" Output ".toList, .plain⟩] % 65536) n = room
  by_cases hnone : room = 0
  · rw [hnone, overwriteSpans_zero]
  · rw [getLast?_overwriteSpans_singleton hnone (by omega)]
    refine getLast?_overwrite _ (by omega) fun hends => not_endsBare_of_pos ?_ hends.2
    intro symbol hs
    simp [symbolWidth_name symbol hs]

theorem corner_iff_of_label (style : Style) {n : Nat} (h : p.label ≠ "") :
    (titleRow style (n + 2) p.title)[n + 1]? = some ⟨['┐'], style⟩ ↔
      ¬ p.TakesCorner (n + 2) := by
  have hlength := length_lineFrom style n
  have hcorner : symbolWidth ['┐'] ≠ 0 := by decide +kernel
  obtain ⟨name, label, htitle, hfirst, hsecond⟩ := title_of_label h
  have hname : ∀ symbol ∈ titleClusters name.text, symbolWidth symbol = 1 := by
    rw [hfirst]
    exact symbolWidth_name
  have hlabel : ¬ EndsBare (titleClusters label.text) 0 := by
    rw [hsecond]
    exact not_endsBare_label p.label
  rw [getElem?_titleRow_last, TakesCorner, htitle]
  simp only [List.flatMap_cons, List.flatMap_nil, List.append_nil, Nat.add_sub_cancel,
    Nat.add_le_add_iff_right]
  constructor
  · rintro hkept ⟨hle, hends⟩
    rw [Nat.min_eq_right hle] at hkept
    obtain ⟨last, hlast, hbare⟩ :=
      getLast?_overwriteSpans_of_endsBare hname hlabel hlength.symm hends
    rw [hkept] at hlast
    cases hlast
    exact hcorner hbare
  · intro hfree
    rw [← getLast?_lineFrom]
    refine getLast?_overwriteSpans hname (by omega) fun hends => ?_
    have hle : n ≤ spansWidth [name, label] % 65536 := by omega
    rw [Nat.min_eq_right hle] at hends
    exact hfree ⟨hle, hends.2⟩

/-- The title leaves the right corner of its box alone unless it takes it. -/
theorem corner_iff (p : OutputPane) (style : Style) (hw : 2 ≤ width) :
    (titleRow style width p.title)[width - 1]? = some ⟨['┐'], style⟩ ↔
      ¬ p.TakesCorner width := by
  obtain ⟨n, rfl⟩ := Nat.exists_eq_add_of_le' hw
  by_cases h : p.label = ""
  · exact iff_of_true (corner_of_no_label style h) (not_takesCorner (by rw [h]; decide))
  · exact corner_iff_of_label style h

end OutputPane

theorem fills_header_box {box : Grid} {pane : Size} (header : List (List Span))
    (h : Fills box pane.box.width pane.box.height) :
    Fills (drawLines pane.width pane.headerRows header ++ box) pane.width pane.height := by
  rw [← pane.height_box]
  exact (fills_drawLines pane.width pane.headerRows header).append h

theorem EditorPane.fills_draw (e : Editor) (focused : Bool) (pane : Size) :
    Fills (EditorPane.draw e focused pane) pane.width pane.height :=
  fills_header_box _ (fills_framed _ _ (fills_drawLines _ _ _))

theorem OutputPane.fills_draw (p : OutputPane) (pane : Size) :
    Fills (p.draw pane) pane.width pane.height :=
  fills_header_box _ (fills_framed _ _ (fills_drawLines _ _ _))

/-- The box of a pane below its header. -/
theorem cellAt_header_box {box : Grid} {pane : Size} (header : List (List Span)) :
    cellAt (drawLines pane.width pane.headerRows header ++ box) x (pane.headerRows + y) =
      cellAt box x y :=
  cellAt_append_right (fills_drawLines pane.width pane.headerRows header)

theorem EditorPane.bordered_draw (e : Editor) (focused : Bool) {pane : Size}
    (hw : 2 ≤ pane.box.width) (hh : 2 ≤ pane.box.height) :
    Bordered (fun x y => cellAt (EditorPane.draw e focused pane) x (pane.headerRows + y))
      pane.box.width pane.box.height (Theme.editorBorder focused) True :=
  (bordered_framed _ _ hw hh (fills_drawLines _ _ _)
    (iff_true_intro (getElem?_titleRow_nil _ hw))).congr hw hh
    fun _ _ _ _ => cellAt_header_box _

theorem OutputPane.bordered_draw (p : OutputPane) {pane : Size}
    (hw : 2 ≤ pane.box.width) (hh : 2 ≤ pane.box.height) :
    Bordered (fun x y => cellAt (p.draw pane) x (pane.headerRows + y))
      pane.box.width pane.box.height (Theme.outputBorder p.focused)
      (¬ p.TakesCorner pane.box.width) :=
  (bordered_framed _ _ hw hh (fills_drawLines _ _ _) (p.corner_iff _ hw)).congr hw hh
    fun _ _ _ _ => cellAt_header_box _

end LiveTemplate
