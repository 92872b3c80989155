import LiveTemplate.Proofs.Editor.SplitText
import LiveTemplate.Proofs.Screen.Drawing

namespace LiveTemplate

/-- The columns of the text before the cursor in its row. -/
def Editor.columnsBefore (e : Editor) : Nat := textWidth ((e.line e.row).take e.column)

namespace Session

/-- Drawn on a screen of this size, the cursor stands inside the box, in the row of the template
that it is in, behind the text before it, or in the last column where there is no room behind it.
`counted` is what columns are counted as. -/
structure PlacesCursor (counted : Nat → Nat) (s : Session) (size : Size) : Prop where
  place : ∃ before after, s.editor.Between before after ∧
    (s.draw size).2.cursor = some
      (1 + min (counted (textWidth (lastLine before))) (size.leftPane.box.inside.width - 1),
        size.leftPane.headerRows + 1 + (s.editor.row - (s.draw size).1.editor.top))
  inView : (s.draw size).1.editor.top ≤ s.editor.row ∧
    s.editor.row < (s.draw size).1.editor.top + size.leftPane.box.inside.height

end Session

theorem Editor.Between.columnsBefore_eq {e : Editor} {before after : List Char}
    (h : e.Between before after) : e.columnsBefore = textWidth (lastLine before) := by
  have hline : e.line e.row = lastLine before ++ after.takeWhile (· ≠ '\n') := by
    rw [h.row, Editor.line_of_split h.text]
  rw [Editor.columnsBefore, hline, h.column, List.take_left]

/-- Characters of one column each. -/
theorem textWidth_of_plain {s : List Char} (h : ∀ c ∈ s, c ≠ '\n' ∧ c ≠ '\r' ∧ c.toNat ≤ 0xa0) :
    textWidth s = s.length := by
  have hfold : s.foldr (fun c (p : Nat × Head) =>
      ((p.1 + (p.2.prepend c).1).toNat, (p.2.prepend c).2)) (0, Head.empty) =
        (s.length, Head.empty) := by
    induction s with
    | nil => rfl
    | cons c s ih =>
      obtain ⟨hfeed, hreturn, hlow⟩ := h c List.mem_cons_self
      have hrest := ih fun d hd => h d (List.mem_cons_of_mem c hd)
      have hadded : Head.empty.prepend c = (1, Head.empty) := by
        simp [Head.prepend, Head.empty, hfeed, hreturn, hlow]
      rw [List.foldr_cons, hrest, hadded]
      rfl
  exact congrArg Prod.fst hfold

namespace Session

variable {s : Session} {size : Size}

theorem cursor_draw (hfocus : s.focus = .editor) (hw : 0 < size.leftPane.box.inside.width)
    (hh : 0 < size.leftPane.box.inside.height) : (s.draw size).2.cursor = some
      (1 + min (s.editor.columnsBefore % 65536) (size.leftPane.box.inside.width - 1),
        size.leftPane.headerRows + 1 + (s.editor.row - (s.draw size).1.editor.top)) := by
  obtain ⟨top, htop⟩ := s.editor.exists_scrollTo size.leftPane.box.inside.height
  have heditor : (s.fit size).editor = { s.editor with top := top } := htop
  have hshown : (decide ((s.fit size).focus = .editor) = true) ∧
      0 < size.leftPane.box.inside.width ∧ 0 < size.leftPane.box.inside.height :=
    ⟨decide_eq_true hfocus, hw, hh⟩
  simp only [draw, screen, EditorPane.cursor?]
  rw [if_pos hshown, heditor]
  rfl

theorem inView_draw (hh : 0 < size.leftPane.box.inside.height) :
    (s.draw size).1.editor.top ≤ s.editor.row ∧
      s.editor.row < (s.draw size).1.editor.top + size.leftPane.box.inside.height :=
  s.editor.inView_scrollTo hh

/-- The cursor is placed by the columns as sixteen bits count them. -/
theorem placesCursor_counted (h : s.editor.Placed) (hfocus : s.focus = .editor)
    (hw : 0 < size.leftPane.box.inside.width) (hh : 0 < size.leftPane.box.inside.height) :
    s.PlacesCursor (· % 65536) size := by
  obtain ⟨before, after, hb⟩ := h
  refine ⟨⟨before, after, hb, ?_⟩, inView_draw hh⟩
  rw [cursor_draw hfocus hw hh, hb.columnsBefore_eq]

/-- It is placed by all its columns if these are fewer than 65536, or still fill the box as sixteen
bits count them. -/
theorem placesCursor_iff (h : s.editor.Placed) (hfocus : s.focus = .editor)
    (hw : 0 < size.leftPane.box.inside.width) (hh : 0 < size.leftPane.box.inside.height) :
    s.PlacesCursor (fun columns => columns) size ↔ s.editor.columnsBefore < 65536 ∨
      size.leftPane.box.inside.width - 1 ≤ s.editor.columnsBefore % 65536 := by
  have hcursor := cursor_draw hfocus hw hh
  constructor
  · rintro ⟨⟨before, after, hb, hplace⟩, -⟩
    rw [hcursor, ← hb.columnsBefore_eq] at hplace
    obtain ⟨hcolumn, -⟩ := Prod.mk.inj (Option.some.inj hplace)
    omega
  · intro hcounted
    obtain ⟨before, after, hb⟩ := h
    refine ⟨⟨before, after, hb, ?_⟩, inView_draw hh⟩
    have hcolumn : min (s.editor.columnsBefore % 65536) (size.leftPane.box.inside.width - 1) =
        min s.editor.columnsBefore (size.leftPane.box.inside.width - 1) := by
      omega
    rw [hcursor, hcolumn, hb.columnsBefore_eq]

/-- Where the cursor of a session is drawn: behind all of the text before it exactly if its columns
are fewer than 65536 or, as sixteen bits count them, still fill the box. -/
structure CursorSound (s : Session) (size : Size) : Prop where
  counted : s.PlacesCursor (· % 65536) size
  whole : s.PlacesCursor (fun columns => columns) size ↔ s.editor.columnsBefore < 65536 ∨
    size.leftPane.box.inside.width - 1 ≤ s.editor.columnsBefore % 65536

end Session

namespace World

/-- In every run the cursor in the editor is drawn behind the text before it, as far as sixteen bits
count its columns. -/
theorem places_cursor (clock : Clock) (initial : String) (debounce deadline : Nat)
    (analyzer : Analyzer) (steps : List Step) (size : Size)
    (hfocus : ((open_ clock initial debounce deadline analyzer).run steps).session.focus = .editor)
    (hw : 0 < size.leftPane.box.inside.width) (hh : 0 < size.leftPane.box.inside.height) :
    ((open_ clock initial debounce deadline analyzer).run steps).session.CursorSound size := by
  have hplaced := run_placed (w := open_ clock initial debounce deadline analyzer)
    (Editor.placed_ofText initial) steps
  exact ⟨Session.placesCursor_counted hplaced hfocus hw hh,
    Session.placesCursor_iff hplaced hfocus hw hh⟩

/-- Behind wide characters, in a row that has to be brought into view. -/
theorem places_cursor_wide :
    ((open_ .nanoseconds "" 100 10000 fun _ _ => .after 0 (.ok .empty)).run
        [.input (.paste "a\nb\nc\n日本語")]).session.focus = .editor ∧
      0 < (Size.mk 20 6).leftPane.box.inside.width ∧
      0 < (Size.mk 20 6).leftPane.box.inside.height ∧
      ((open_ .nanoseconds "" 100 10000 fun _ _ => .after 0 (.ok .empty)).run
        [.input (.paste "a\nb\nc\n日本語")]).session.PlacesCursor (fun columns => columns)
          ⟨20, 6⟩ := by
  have hfocus : ((open_ .nanoseconds "" 100 10000 fun _ _ => .after 0 (.ok .empty)).run
      [.input (.paste "a\nb\nc\n日本語")]).session.focus = .editor := by
    decide +kernel
  refine ⟨hfocus, by decide, by decide, ?_⟩
  refine (places_cursor .nanoseconds "" 100 10000 (fun _ _ => .after 0 (.ok .empty)) _ ⟨20, 6⟩
    hfocus (by decide) (by decide)).whole.mpr (Or.inl ?_)
  decide +kernel

/-- A line of so many columns. -/
def plainLine (columns : Nat) : String := String.ofList (List.replicate columns 'x')

theorem columnsBefore_plainLine (columns : Nat) :
    (Editor.ofText (plainLine columns)).columnsBefore = columns := by
  have hplain : ∀ c ∈ List.replicate columns 'x', c ≠ '\n' ∧ c ≠ '\r' ∧ c.toNat ≤ 0xa0 := by
    intro c hc
    rw [List.eq_of_mem_replicate hc]
    decide
  have hfeed : '\n' ∉ List.replicate columns 'x' := fun hm => (hplain _ hm).1 rfl
  have hreturns : joinPairs (List.replicate columns 'x') = List.replicate columns 'x' :=
    joinPairs_of_not_mem hfeed
  have hbetween := Editor.empty.between_setValue (plainLine columns)
  rw [plainLine, String.toList_ofList, hreturns] at hbetween
  refine hbetween.columnsBefore_eq.trans ?_
  rw [lastLine_of_not_mem hfeed, textWidth_of_plain hplain, List.length_replicate]

theorem placesCursor_plainLine (columns : Nat) (analyzer : Analyzer) :
    ((open_ .nanoseconds (plainLine columns) 100 10000 analyzer).run
      []).session.PlacesCursor (fun columns => columns) ⟨30, 6⟩ ↔
        columns < 65536 ∨ 12 ≤ columns % 65536 := by
  have hiff : ((open_ .nanoseconds (plainLine columns) 100 10000 analyzer).run
      []).session.PlacesCursor (fun columns => columns) ⟨30, 6⟩ ↔
        (Editor.ofText (plainLine columns)).columnsBefore < 65536 ∨
          12 ≤ (Editor.ofText (plainLine columns)).columnsBefore % 65536 :=
    Session.placesCursor_iff (Editor.placed_ofText (plainLine columns)) rfl (by decide)
      (by decide)
  rwa [columnsBefore_plainLine] at hiff

/-- At the end of a line of 65540 columns the cursor is drawn in the fifth column of the box, not in
the last. -/
theorem not_placesCursor_plainLine :
    ¬ ((open_ .nanoseconds (plainLine 65540) 100 10000 fun _ _ => .after 0 (.ok .empty)).run
      []).session.PlacesCursor (fun columns => columns) ⟨30, 6⟩ := by
  rw [placesCursor_plainLine]
  decide

end World
end LiveTemplate
