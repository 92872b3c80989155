import LiveTemplate.Proofs.Editor.InsertionPoint

namespace LiveTemplate.Editor

def rows (e : Editor) : List (List Char) := (List.range e.lineCount).map e.line

/-- The rows are the text without the line feeds between them, and nothing but a line feed divides
them. -/
structure Reassembles (e : Editor) : Prop where
  plain : ∀ row, row < e.lineCount → '\n' ∉ e.line row
  joined : String.ofList (joinLines e.rows) = e.value
  one_le : 1 ≤ e.lineCount
  counted : e.lineCount = LiveTemplate.lineCount e.value
  measured : ∀ row, row < e.lineCount → e.lineLength row = (e.line row).length
  whole : ∀ before s after, e.text = before ++ s ++ after → '\n' ∉ s →
    before.count '\n' < e.lineCount ∧ s <:+: e.line (before.count '\n')

variable {e : Editor} {before s after : List Char}

theorem rows_eq (e : Editor) : e.rows = e.lines := by
  have hlength : e.rows.length = e.lines.length := by
    rw [rows, List.length_map, List.length_range, lineCount_eq]
  apply List.ext_getElem hlength
  intro row hrow hline
  have hlt : row < e.lineCount := by
    rw [lineCount_eq]
    exact hline
  have hrows : e.rows[row] = e.line row := by simp [rows]
  have hlines := getElem?_lines hlt
  rw [List.getElem?_eq_getElem hline] at hlines
  exact hrows.trans (Option.some.inj hlines).symm

theorem plain_line {row : Nat} (h : row < e.lineCount) : '\n' ∉ e.line row :=
  not_mem_of_mem_splitLines (List.mem_of_getElem? (getElem?_lines h))

theorem infix_line (h : e.text = before ++ s ++ after) (hs : '\n' ∉ s) :
    s <:+: e.line (before.count '\n') := by
  have hall : ∀ c ∈ s, decide (c ≠ '\n') = true := by
    intro c hc
    have hne : c ≠ '\n' := fun he => hs (he ▸ hc)
    simpa using hne
  rw [List.append_assoc] at h
  refine ⟨lastLine before, after.takeWhile (· ≠ '\n'), ?_⟩
  rw [line_of_split h, List.takeWhile_append_of_pos hall, List.append_assoc]

/-- Whatever text an editor has come to hold, its rows are what the text is made of. -/
theorem reassembles (e : Editor) : e.Reassembles where
  plain _ := plain_line
  joined := by
    rw [rows_eq, lines, joinLines_splitLines]
    rfl
  one_le := Nat.le_add_left 1 _
  counted := by
    rw [lineCount_eq, LiveTemplate.lineCount, value, String.toList_ofList, lines]
  measured row _ := e.lineLength_eq row
  whole before s after h hs := by
    have hcount := congrArg (List.count '\n') h
    rw [List.append_assoc, List.count_append] at hcount
    have hlt : before.count '\n' < e.lineCount := by
      rw [lineCount]
      omega
    exact ⟨hlt, infix_line h hs⟩

/-- Returns, tabs and feeds of other kinds and the separators of other standards stay in the row. -/
example : (ofText "a\rb\x0bc\x0cd\u0085e\u2028f\u2029g\n").rows =
    ["a\rb\x0bc\x0cd\u0085e\u2028f\u2029g".toList, []] := by
  decide

end LiveTemplate.Editor
