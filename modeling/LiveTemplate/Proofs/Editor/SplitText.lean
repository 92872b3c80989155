import LiveTemplate.Proofs.Editor.InsertionPoint
import Mathlib.Data.List.Induction
import Mathlib.Data.List.TakeWhile

namespace LiveTemplate

/-- A text with each carriage return and line feed made one line feed. -/
def joinPairs : List Char → List Char
  | [] => []
  | '\r' :: '\n' :: s => '\n' :: joinPairs s
  | c :: s => c :: joinPairs s

/-- What stands before the last row. -/
def upperRows (s : List Char) : List Char := (s.reverse.dropWhile (· ≠ '\n')).reverse

inductive Editor.Operation where
  | setValue (s : String)
  | insertChar (c : Char)
  | insert (s : String)
  | newline
  | backspace
  | delete
  | key (k : Key)
  | scrollTo (height : Nat)
  deriving DecidableEq, Repr

/-- A text in two parts, between which the insertion point is. -/
structure SplitText where
  before : List Char
  after : List Char
  deriving DecidableEq, Repr

namespace SplitText

def column (p : SplitText) : Nat := (lastLine p.before).length

def add (p : SplitText) (s : List Char) : SplitText := { p with before := p.before ++ s }

def backspace (p : SplitText) : SplitText × Bool :=
  if p.before = [] then (p, false) else ({ p with before := p.before.dropLast }, true)

def delete (p : SplitText) : SplitText × Bool :=
  match p.after with
  | [] => (p, false)
  | _ :: rest => ({ p with after := rest }, true)

def left (p : SplitText) : SplitText :=
  match p.before.getLast? with
  | none => p
  | some c => ⟨p.before.dropLast, c :: p.after⟩

def right (p : SplitText) : SplitText :=
  match p.after with
  | [] => p
  | c :: rest => ⟨p.before ++ [c], rest⟩

def home (p : SplitText) : SplitText := ⟨upperRows p.before, lastLine p.before ++ p.after⟩

def lineEnd (p : SplitText) : SplitText :=
  ⟨p.before ++ p.after.takeWhile (· ≠ '\n'), p.after.dropWhile (· ≠ '\n')⟩

/-- To the same column of the row above, or to its end if it is shorter. -/
def up (p : SplitText) : SplitText :=
  if '\n' ∈ p.before then
    let above := (upperRows p.before).dropLast
    ⟨upperRows above ++ (lastLine above).take p.column,
      (lastLine above).drop p.column ++ '\n' :: (lastLine p.before ++ p.after)⟩
  else p

/-- To the same column of the row below, or to its end if it is shorter. -/
def down (p : SplitText) : SplitText :=
  match p.after.dropWhile (· ≠ '\n') with
  | [] => p
  | _ :: below =>
    let row := below.takeWhile (· ≠ '\n')
    ⟨p.before ++ p.after.takeWhile (· ≠ '\n') ++ ['\n'] ++ row.take p.column,
      row.drop p.column ++ below.dropWhile (· ≠ '\n')⟩

/-- What a key does, and whether it edits the text. -/
def key (p : SplitText) (k : Key) : SplitText × Bool :=
  if k.modifiers.control ∨ k.modifiers.alt then (p, false)
  else
    match k.code with
    | .char c => (p.add [c], true)
    | .enter => (p.add ['\n'], true)
    | .backspace => p.backspace
    | .delete => p.delete
    | .left => (p.left, false)
    | .right => (p.right, false)
    | .up => (p.up, false)
    | .down => (p.down, false)
    | .home => (p.home, false)
    | .lineEnd => (p.lineEnd, false)
    | _ => (p, false)

/-- What an operation does, and what it answers if it answers. -/
def perform (p : SplitText) : Editor.Operation → SplitText × Option Bool
  | .setValue s => (⟨joinPairs s.toList, []⟩, none)
  | .insertChar c => (p.add [c], none)
  | .insert s => (p.add ((joinPairs s.toList).map fun c => if c = '\r' then '\n' else c), none)
  | .newline => (p.add ['\n'], none)
  | .backspace => p.backspace.map id some
  | .delete => p.delete.map id some
  | .key k => (p.key k).map id some
  | .scrollTo _ => (p, none)

def ofInitial : Option String → SplitText
  | none => ⟨[], []⟩
  | some s => ⟨joinPairs s.toList, []⟩

def run (p : SplitText) (ops : List Editor.Operation) : SplitText :=
  ops.foldl (fun p op => (p.perform op).1) p

end SplitText

theorem dropReturns_eq (s : List Char) : dropReturns s = joinPairs s := by
  fun_induction joinPairs s with
  | case1 => rfl
  | case2 s ih => simp [dropReturns, ih]
  | case3 c s hpair ih =>
    rw [dropReturns, ih, if_neg]
    rintro ⟨rfl, hs⟩
    obtain ⟨rest, rfl⟩ := List.head?_eq_some_iff.mp hs
    exact hpair rest rfl rfl

/-- A text without line feeds keeps every return. -/
theorem joinPairs_of_not_mem {s : List Char} (h : '\n' ∉ s) : joinPairs s = s := by
  fun_induction joinPairs s with
  | case1 => rfl
  | case2 s ih => exact absurd (by simp) h
  | case3 c s hpair ih => rw [ih (List.not_mem_of_not_mem_cons h)]

theorem upperRows_append_lastLine (s : List Char) : upperRows s ++ lastLine s = s := by
  rw [upperRows, lastLine, ← List.reverse_append, List.takeWhile_append_dropWhile,
    List.reverse_reverse]

theorem not_mem_takeWhile (s : List Char) : '\n' ∉ s.takeWhile (· ≠ '\n') := by
  intro h
  simpa using List.mem_takeWhile_imp h

theorem not_mem_lastLine (s : List Char) : '\n' ∉ lastLine s := by
  intro h
  exact not_mem_takeWhile s.reverse (List.mem_reverse.mp h)

theorem dropWhile_eq_nil_or_cons (s : List Char) :
    '\n' ∉ s ∧ s.dropWhile (· ≠ '\n') = [] ∨
      '\n' ∈ s ∧ ∃ rest, s.dropWhile (· ≠ '\n') = '\n' :: rest := by
  induction s with
  | nil => simp
  | cons c s ih =>
    by_cases hc : c = '\n'
    · simp [hc]
    · simpa [hc, Ne.symm hc] using ih

/-- What stands before the last row ends with a line feed, if there is any. -/
theorem upperRows_eq (s : List Char) : '\n' ∉ s ∧ upperRows s = [] ∨
    '\n' ∈ s ∧ ∃ above, upperRows s = above ++ ['\n'] := by
  rcases dropWhile_eq_nil_or_cons s.reverse with ⟨hm, hs⟩ | ⟨hm, rest, hs⟩
  · exact Or.inl ⟨by simpa using hm, by rw [upperRows, hs, List.reverse_nil]⟩
  · exact Or.inr ⟨by simpa using hm, rest.reverse, by rw [upperRows, hs, List.reverse_cons]⟩

theorem lastLine_upperRows (s : List Char) : lastLine (upperRows s) = [] := by
  rcases upperRows_eq s with ⟨_, hs⟩ | ⟨_, above, hs⟩
  · rw [hs]
    rfl
  · rw [hs, lastLine_append_of_mem (by simp)]
    rfl

theorem count_upperRows (s : List Char) : (upperRows s).count '\n' = s.count '\n' := by
  have h := congrArg (List.count '\n') (upperRows_append_lastLine s)
  rw [List.count_append, List.count_eq_zero_of_not_mem (not_mem_lastLine s)] at h
  exact h

namespace Editor

def perform (e : Editor) : Operation → Editor × Option Bool
  | .setValue s => (e.setValue s, none)
  | .insertChar c => (e.insertChar c, none)
  | .insert s => (e.insert s, none)
  | .newline => (e.newline, none)
  | .backspace => e.backspace.map id some
  | .delete => e.delete.map id some
  | .key k => (e.handleKey k).map id some
  | .scrollTo height => (e.scrollTo height, none)

def ofInitial : Option String → Editor
  | none => .empty
  | some s => .ofText s

def run (e : Editor) (ops : List Operation) : Editor := ops.foldl (fun e op => (e.perform op).1) e

/-- The cursor is in a row of the text and no further right than its end, and at the start of a row
that is not the start of the text there is a row above. -/
structure InBounds (e : Editor) : Prop where
  row_lt : e.row < e.lineCount
  column_le : e.column ≤ e.lineLength e.row
  position_le : e.position ≤ e.text.length
  row_pos : e.position ≠ 0 → e.column = 0 → 0 < e.row

/-- The cursor is at a split of the text, and the next operation answers what it answers there. -/
structure Follows (e : Editor) (p : SplitText) : Prop where
  between : e.Between p.before p.after
  inBounds : e.InBounds
  answer : ∀ op, (e.perform op).2 = (p.perform op).2

variable {e : Editor} {p : SplitText} {before after : List Char}

theorem between_setValue (e : Editor) (s : String) :
    (e.setValue s).Between (joinPairs s.toList) [] := by
  rw [← dropReturns_eq]
  let loaded : Editor := ⟨dropReturns s.toList, 0, 0, 0⟩
  have htext : loaded.text = dropReturns s.toList ++ [] := (List.append_nil _).symm
  have hlength : loaded.lineLength (loaded.lineCount - 1) =
      (lastLine (dropReturns s.toList)).length := by
    rw [lineLength_eq, lineCount, Nat.add_sub_cancel, line_of_split htext]
    simp
  exact ⟨htext, rfl, hlength⟩

theorem Between.toLeft (h : e.Between p.before p.after) :
    e.moveLeft.Between p.left.before p.left.after := by
  obtain ⟨before, after⟩ := p
  rcases List.eq_nil_or_concat before with rfl | ⟨front, c, rfl⟩
  · rw [h.moveLeft_of_start]
    exact h
  · rw [List.concat_eq_append] at h ⊢
    simpa [SplitText.left] using h.moveLeft

theorem Between.toRight (h : e.Between p.before p.after) :
    e.moveRight.Between p.right.before p.right.after := by
  obtain ⟨before, after⟩ := p
  cases after with
  | nil =>
    rw [h.moveRight_of_end]
    exact h
  | cons c after => exact h.moveRight

theorem Between.removeBefore (h : e.Between p.before p.after) :
    e.backspace.1.Between p.backspace.1.before p.backspace.1.after ∧
      e.backspace.2 = p.backspace.2 := by
  obtain ⟨before, after⟩ := p
  rcases List.eq_nil_or_concat before with rfl | ⟨front, c, rfl⟩
  · rw [h.backspace_of_start]
    exact ⟨h, rfl⟩
  · rw [List.concat_eq_append] at h ⊢
    obtain ⟨hanswer, hb⟩ := h.backspace
    simpa [SplitText.backspace, hanswer] using hb

theorem Between.removeAfter (h : e.Between p.before p.after) :
    e.delete.1.Between p.delete.1.before p.delete.1.after ∧ e.delete.2 = p.delete.2 := by
  obtain ⟨before, after⟩ := p
  cases after with
  | nil =>
    rw [h.delete_of_end]
    exact ⟨h, rfl⟩
  | cons c after =>
    obtain ⟨hanswer, hb⟩ := h.delete
    exact ⟨hb, hanswer⟩

theorem Between.toHome (h : e.Between p.before p.after) :
    { e with column := 0 }.Between p.home.before p.home.after := by
  refine ⟨?_, ?_, ?_⟩
  · show e.text = upperRows p.before ++ (lastLine p.before ++ p.after)
    rw [h.text, ← List.append_assoc, upperRows_append_lastLine]
  · exact h.row.trans (count_upperRows p.before).symm
  · show 0 = (lastLine (upperRows p.before)).length
    rw [lastLine_upperRows]
    rfl

theorem Between.toLineEnd (h : e.Between p.before p.after) :
    { e with column := e.lineLength e.row }.Between p.lineEnd.before p.lineEnd.after := by
  refine ⟨?_, ?_, ?_⟩
  · show e.text = p.before ++ p.after.takeWhile (· ≠ '\n') ++ p.after.dropWhile (· ≠ '\n')
    rw [h.text, List.append_assoc, List.takeWhile_append_dropWhile]
  · show e.row = (p.before ++ p.after.takeWhile (· ≠ '\n')).count '\n'
    rw [List.count_append, List.count_eq_zero_of_not_mem (not_mem_takeWhile p.after)]
    exact h.row
  · show e.lineLength e.row = (lastLine (p.before ++ p.after.takeWhile (· ≠ '\n'))).length
    rw [h.lineLength_row, lastLine_append_of_not_mem (not_mem_takeWhile p.after),
      List.length_append, h.column]

/-- To a row that stands between line feeds, or at an end of the text. -/
theorem between_moveToRow {above row below : List Char} (h : e.text = above ++ (row ++ below))
    (starts : lastLine above = []) (plain : '\n' ∉ row)
    (ends : below.takeWhile (· ≠ '\n') = []) :
    (e.moveToRow (above.count '\n')).Between (above ++ row.take e.column)
      (row.drop e.column ++ below) := by
  have hlt : above.count '\n' < e.lineCount := by
    rw [lineCount, h, List.count_append]
    omega
  have hrow : (row ++ below).takeWhile (· ≠ '\n') = row := by
    rw [List.takeWhile_append_of_pos, ends, List.append_nil]
    intro c hc
    have hne : c ≠ '\n' := fun he => plain (he ▸ hc)
    simpa using hne
  have hlength : e.lineLength (above.count '\n') = row.length := by
    rw [lineLength_eq, line_of_split h, starts, hrow, List.nil_append]
  have hfeed : '\n' ∉ row.take e.column := fun hm => plain (List.mem_of_mem_take hm)
  rw [Editor.moveToRow, if_pos hlt, hlength]
  refine ⟨?_, ?_, ?_⟩
  · show e.text = above ++ row.take e.column ++ (row.drop e.column ++ below)
    rw [h, List.append_assoc, ← List.append_assoc (row.take e.column), List.take_append_drop]
  · show above.count '\n' = (above ++ row.take e.column).count '\n'
    rw [List.count_append, List.count_eq_zero_of_not_mem hfeed, Nat.add_zero]
  · show min e.column row.length = (lastLine (above ++ row.take e.column)).length
    rw [lastLine_append_of_not_mem hfeed, starts, List.nil_append, List.length_take]

theorem Between.toUp (h : e.Between p.before p.after) :
    e.moveUp.Between p.up.before p.up.after := by
  rcases upperRows_eq p.before with ⟨hm, _⟩ | ⟨hm, above, habove⟩
  · have hrow : e.row = 0 := h.row.trans (List.count_eq_zero_of_not_mem hm)
    rw [Editor.moveUp, if_pos hrow, SplitText.up, if_neg hm]
    exact h
  · have hbefore : p.before = above ++ ['\n'] ++ lastLine p.before := by
      rw [← habove, upperRows_append_lastLine]
    have htext : e.text = upperRows above ++
        (lastLine above ++ '\n' :: (lastLine p.before ++ p.after)) := by
      rw [← List.append_assoc, upperRows_append_lastLine, h.text]
      conv_lhs => rw [hbefore]
      simp
    have hrow : e.row = (upperRows above).count '\n' + 1 := by
      rw [h.row, ← count_upperRows, habove, count_upperRows]
      simp
    have hup := between_moveToRow htext (lastLine_upperRows above) (not_mem_lastLine above)
      (by simp)
    rw [Editor.moveUp, if_neg (by omega), hrow, Nat.add_sub_cancel, SplitText.up, if_pos hm,
      habove, List.dropLast_concat, SplitText.column, ← h.column]
    exact hup

theorem Between.toDown (h : e.Between p.before p.after) :
    e.moveDown.Between p.down.before p.down.after := by
  have hafter := List.takeWhile_append_dropWhile (p := (· ≠ '\n')) (l := p.after)
  rcases dropWhile_eq_nil_or_cons p.after with ⟨hm, hd⟩ | ⟨hm, below, hd⟩
  · have hlast : ¬ e.row + 1 < e.lineCount := by
      rw [h.lineCount_eq, List.count_eq_zero_of_not_mem hm]
      omega
    rw [Editor.moveDown, Editor.moveToRow, if_neg hlast, SplitText.down, hd]
    exact h
  · rw [hd] at hafter
    have htext : e.text = p.before ++ p.after.takeWhile (· ≠ '\n') ++ ['\n'] ++
        (below.takeWhile (· ≠ '\n') ++ below.dropWhile (· ≠ '\n')) := by
      rw [List.takeWhile_append_dropWhile, h.text]
      conv_lhs => rw [← hafter]
      simp
    have hrow : e.row + 1 =
        (p.before ++ p.after.takeWhile (· ≠ '\n') ++ ['\n']).count '\n' := by
      rw [List.count_append, List.count_append,
        List.count_eq_zero_of_not_mem (not_mem_takeWhile p.after), h.row]
      rfl
    have hends : (below.dropWhile (· ≠ '\n')).takeWhile (· ≠ '\n') = [] := by
      rcases dropWhile_eq_nil_or_cons below with ⟨_, hb⟩ | ⟨_, rest, hb⟩
      · rw [hb]
        rfl
      · rw [hb]
        rfl
    have hstarts : lastLine (p.before ++ p.after.takeWhile (· ≠ '\n') ++ ['\n']) = [] := by
      rw [lastLine_append_of_mem (by simp)]
      rfl
    have hdown := between_moveToRow htext hstarts (not_mem_takeWhile below) hends
    rw [Editor.moveDown, hrow, SplitText.down, hd, SplitText.column, ← h.column]
    exact hdown

theorem Between.key (h : e.Between p.before p.after) (k : Key) :
    (e.handleKey k).1.Between (p.key k).1.before (p.key k).1.after ∧
      (e.handleKey k).2 = (p.key k).2 := by
  unfold handleKey SplitText.key
  by_cases hm : k.modifiers.control ∨ k.modifiers.alt
  · rw [if_pos (by simpa using hm), if_pos hm]
    exact ⟨h, rfl⟩
  · rw [if_neg (by simpa using hm), if_neg hm]
    cases k.code with
    | char c => exact ⟨h.insertChar c, rfl⟩
    | enter => exact ⟨h.insertChar '\n', rfl⟩
    | backspace => exact h.removeBefore
    | delete => exact h.removeAfter
    | left => exact ⟨h.toLeft, rfl⟩
    | right => exact ⟨h.toRight, rfl⟩
    | up => exact ⟨h.toUp, rfl⟩
    | down => exact ⟨h.toDown, rfl⟩
    | home => exact ⟨h.toHome, rfl⟩
    | lineEnd => exact ⟨h.toLineEnd, rfl⟩
    | pageUp | pageDown | tab | backTab | escape | insert | null | function _ | other =>
      exact ⟨h, rfl⟩

theorem Between.scrollTo (h : e.Between before after) (height : Nat) :
    (e.scrollTo height).Between before after := by
  obtain ⟨top, ht⟩ := e.exists_scrollTo height
  rw [ht]
  exact ⟨h.text, h.row, h.column⟩

/-- Every operation does to the editor what it does to the split, and answers the same. -/
theorem Between.perform (h : e.Between p.before p.after) (op : Operation) :
    (e.perform op).1.Between (p.perform op).1.before (p.perform op).1.after ∧
      (e.perform op).2 = (p.perform op).2 := by
  cases op with
  | setValue s => exact ⟨e.between_setValue s, rfl⟩
  | insertChar c => exact ⟨h.insertChar c, rfl⟩
  | insert s =>
    refine ⟨?_, rfl⟩
    have hi := h.insert s
    rw [unifyLineEnds, dropReturns_eq] at hi
    exact hi
  | newline => exact ⟨h.insertChar '\n', rfl⟩
  | backspace => exact ⟨h.removeBefore.1, congrArg some h.removeBefore.2⟩
  | delete => exact ⟨h.removeAfter.1, congrArg some h.removeAfter.2⟩
  | key k => exact ⟨(h.key k).1, congrArg some (h.key k).2⟩
  | scrollTo height => exact ⟨h.scrollTo height, rfl⟩

theorem Between.inBounds (h : e.Between before after) : e.InBounds := by
  refine ⟨?_, ?_, ?_, ?_⟩
  · rw [h.lineCount_eq]
    omega
  · rw [h.lineLength_row]
    omega
  · rw [h.position_eq, h.text, List.length_append]
    omega
  · intro hposition hcolumn
    rw [h.row]
    refine List.count_pos_iff.mpr ?_
    by_contra hm
    rw [h.column, lastLine_of_not_mem hm, ← h.position_eq] at hcolumn
    exact hposition hcolumn

theorem between_ofInitial (initial : Option String) : (ofInitial initial).Between
    (SplitText.ofInitial initial).before (SplitText.ofInitial initial).after := by
  cases initial with
  | none => exact ⟨rfl, rfl, rfl⟩
  | some s => exact between_setValue .empty s

theorem between_run (initial : Option String) (ops : List Operation) :
    ((ofInitial initial).run ops).Between ((SplitText.ofInitial initial).run ops).before
      ((SplitText.ofInitial initial).run ops).after := by
  induction ops using List.reverseRecOn with
  | nil => exact between_ofInitial initial
  | append_singleton ops op ih =>
    rw [run, SplitText.run, List.foldl_append, List.foldl_append]
    exact (ih.perform op).1

/-- After any operations the cursor is where they take the insertion point of the split text, and
it has not left the text. -/
theorem run_follows (initial : Option String) (ops : List Operation) :
    ((ofInitial initial).run ops).Follows ((SplitText.ofInitial initial).run ops) := by
  have h := between_run initial ops
  exact ⟨h, h.inBounds, fun op => (h.perform op).2⟩

end Editor
end LiveTemplate
