import LiveTemplate.Editor

namespace LiveTemplate

def lastLine (s : List Char) : List Char := (s.reverse.takeWhile (· ≠ '\n')).reverse

theorem lastLine_append_of_not_mem {s t : List Char} (h : '\n' ∉ t) :
    lastLine (s ++ t) = lastLine s ++ t := by
  have ht : ∀ c ∈ t.reverse, (decide (c ≠ '\n')) = true := by
    intro c hc
    have hne : c ≠ '\n' := fun he => h (he ▸ List.mem_reverse.mp hc)
    simpa using hne
  rw [lastLine, List.reverse_append, List.takeWhile_append_of_pos ht]
  simp [lastLine]

theorem lastLine_of_not_mem {s : List Char} (h : '\n' ∉ s) : lastLine s = s :=
  lastLine_append_of_not_mem (s := []) h

theorem lastLine_append_of_mem {s t : List Char} (h : '\n' ∈ t) :
    lastLine (s ++ t) = lastLine t := by
  have hne : (t.reverse.takeWhile (· ≠ '\n')).length ≠ t.reverse.length := by
    intro he
    have hall := (List.takeWhile_sublist (fun c : Char => decide (c ≠ '\n'))).eq_of_length he
    have hplain : t.reverse.all (fun c => decide (c ≠ '\n')) = true := hall ▸ List.all_takeWhile
    simpa using List.all_eq_true.mp hplain '\n' (List.mem_reverse.mpr h)
  rw [lastLine, List.reverse_append, List.takeWhile_append, if_neg hne, lastLine]

theorem lastLine_singleton (c : Char) : lastLine [c] = if c = '\n' then [] else [c] := by
  by_cases hc : c = '\n' <;> simp [lastLine, hc]

theorem lastLine_cons (c : Char) (s : List Char) :
    lastLine (c :: s) = if c = '\n' ∨ '\n' ∈ s then lastLine s else c :: s := by
  by_cases hs : '\n' ∈ s
  · simpa [hs] using lastLine_append_of_mem (s := [c]) hs
  · have h : lastLine (c :: s) = lastLine [c] ++ s :=
      lastLine_append_of_not_mem (s := [c]) hs
    rw [h, lastLine_singleton]
    by_cases hc : c = '\n'
    · simp [hc, lastLine_of_not_mem hs]
    · simp [hc, hs]

theorem rowStart_append (before after : List Char) :
    rowStart (before ++ after) (before.count '\n') + (lastLine before).length = before.length := by
  induction before with
  | nil => simp [rowStart, lastLine]
  | cons c s ih =>
    by_cases hc : c = '\n'
    · subst hc
      simp only [List.cons_append, List.count_cons_self, rowStart, if_true, lastLine_cons,
        true_or, List.length_cons]
      omega
    · have hcount : (c :: s).count '\n' = s.count '\n' := by simp [hc]
      rw [hcount, lastLine_cons]
      by_cases hs : '\n' ∈ s
      · obtain ⟨k, hk⟩ := Nat.exists_eq_add_one_of_ne_zero
          (Nat.ne_of_gt (List.count_pos_iff.mpr hs))
        rw [hk] at ih ⊢
        simp only [List.cons_append, rowStart, hc, if_false, hs, or_true, if_true,
          List.length_cons]
        omega
      · simp [List.count_eq_zero_of_not_mem hs, rowStart, hc, hs]

theorem getElem?_splitLines_append (before after : List Char) :
    (splitLines (before ++ after))[before.count '\n']? =
      some (lastLine before ++ after.takeWhile (· ≠ '\n')) := by
  induction before with
  | nil =>
    induction after with
    | nil => rfl
    | cons c s ih =>
      by_cases hc : c = '\n'
      · simp [splitLines, hc, lastLine]
      · simp only [List.nil_append, List.count_nil, lastLine, List.reverse_nil,
          List.takeWhile_nil] at ih
        simp [splitLines, hc, lastLine, ih]
  | cons c s ih =>
    by_cases hc : c = '\n'
    · subst hc
      simpa [splitLines, lastLine_cons] using ih
    · have hcount : (c :: s).count '\n' = s.count '\n' := by simp [hc]
      rw [hcount, List.cons_append, splitLines, if_neg hc, lastLine_cons]
      by_cases hs : '\n' ∈ s
      · obtain ⟨k, hk⟩ := Nat.exists_eq_add_one_of_ne_zero
          (Nat.ne_of_gt (List.count_pos_iff.mpr hs))
        rw [hk] at ih ⊢
        simpa [hs, hc, List.getElem?_modifyHead] using ih
      · rw [List.count_eq_zero_of_not_mem hs] at ih ⊢
        simp [hs, hc, ih, lastLine_of_not_mem hs]

theorem eraseIdx_between (before after : List Char) (c : Char) :
    (before ++ c :: after).eraseIdx before.length = before ++ after := by
  rw [List.eraseIdx_append_of_length_le (Nat.le_refl _)]
  simp

namespace Editor

/-- The cursor stands between two parts of the text. -/
structure Between (e : Editor) (before after : List Char) : Prop where
  text : e.text = before ++ after
  row : e.row = before.count '\n'
  column : e.column = (lastLine before).length

/-- The cursor stands somewhere in the text. -/
def Placed (e : Editor) : Prop := ∃ before after, e.Between before after

variable {e : Editor} {before after : List Char} {c : Char}

theorem line_of_split (h : e.text = before ++ after) :
    e.line (before.count '\n') = lastLine before ++ after.takeWhile (· ≠ '\n') := by
  rw [line_eq, lines, h, getElem?_splitLines_append, Option.getD_some]

theorem Between.position_eq (h : e.Between before after) : e.position = before.length := by
  rw [position, h.text, h.row, h.column]
  exact rowStart_append before after

theorem Between.take_position (h : e.Between before after) :
    e.text.take e.position = before := by
  simp [h.position_eq, h.text]

theorem Between.drop_position (h : e.Between before after) :
    e.text.drop e.position = after := by
  simp [h.position_eq, h.text]

theorem Between.lineLength_row (h : e.Between before after) :
    e.lineLength e.row = e.column + (after.takeWhile (· ≠ '\n')).length := by
  rw [lineLength_eq, h.row, line_of_split h.text, List.length_append, h.column]

theorem Between.lineCount_eq (h : e.Between before after) :
    e.lineCount = e.row + after.count '\n' + 1 := by
  rw [lineCount, h.text, h.row, List.count_append]

theorem Between.insertChar (h : e.Between before after) (c : Char) :
    (e.insertChar c).Between (before ++ [c]) after := by
  rw [Editor.insertChar, h.take_position, h.drop_position]
  by_cases hc : c = '\n'
  · rw [if_pos hc]
    refine ⟨by simp, by simp [h.row, hc], ?_⟩
    rw [lastLine_append_of_mem (by simp [hc]), lastLine_singleton, if_pos hc]
    rfl
  · have hm : '\n' ∉ [c] := by simpa using Ne.symm hc
    rw [if_neg hc]
    refine ⟨by simp, by simp [h.row, hc], ?_⟩
    rw [lastLine_append_of_not_mem hm]
    simp [h.column]

theorem Between.insert (h : e.Between before after) (s : String) :
    (e.insert s).Between (before ++ unifyLineEnds s.toList) after := by
  rw [Editor.insert, h.take_position, h.drop_position]
  by_cases hf : (unifyLineEnds s.toList).count '\n' = 0
  · rw [if_pos hf]
    refine ⟨rfl, by simp [h.row, hf], ?_⟩
    rw [lastLine_append_of_not_mem (List.count_eq_zero.mp hf)]
    simp [h.column]
  · have hm : '\n' ∈ unifyLineEnds s.toList := List.count_pos_iff.mp (by omega)
    rw [if_neg hf]
    refine ⟨rfl, by simp [h.row], ?_⟩
    rw [lastLine_append_of_mem hm, lastLine, List.length_reverse]

theorem Between.after_feed (h : e.Between (before ++ ['\n']) after) :
    e.column = 0 ∧ e.row = before.count '\n' + 1 ∧
      e.lineLength (e.row - 1) = (lastLine before).length := by
  have hrow : e.row = before.count '\n' + 1 := by simp [h.row]
  refine ⟨?_, hrow, ?_⟩
  · rw [h.column, lastLine_append_of_mem (by simp), lastLine_singleton]
    rfl
  · have ht : e.text = before ++ '\n' :: after := by simpa using h.text
    rw [lineLength_eq, hrow, Nat.add_sub_cancel, line_of_split ht]
    simp

theorem Between.after_char (h : e.Between (before ++ [c]) after) (hc : c ≠ '\n') :
    e.column = (lastLine before).length + 1 ∧ e.row = before.count '\n' := by
  have hm : '\n' ∉ [c] := by simpa using Ne.symm hc
  refine ⟨?_, by simp [h.row, hc]⟩
  rw [h.column, lastLine_append_of_not_mem hm]
  simp

theorem Between.backspace_of_start (h : e.Between [] after) : e.backspace = (e, false) := by
  simp [Editor.backspace, h.position_eq]

theorem Between.backspace (h : e.Between (before ++ [c]) after) :
    e.backspace.2 = true ∧ e.backspace.1.Between before after := by
  have hp : e.position = before.length + 1 := by simpa using h.position_eq
  have ht : e.text.eraseIdx (e.position - 1) = before ++ after := by
    rw [hp, h.text]
    simpa using eraseIdx_between before after c
  by_cases hc : c = '\n'
  · subst hc
    obtain ⟨hcolumn, hrow, hlen⟩ := h.after_feed
    have he : e.backspace = ({ e with
        text := e.text.eraseIdx (e.position - 1)
        row := e.row - 1
        column := e.lineLength (e.row - 1) }, true) := by
      simp [Editor.backspace, hp, hcolumn]
    rw [he]
    exact ⟨rfl, ht, by simp [hrow], hlen⟩
  · obtain ⟨hcolumn, hrow⟩ := h.after_char hc
    have he : e.backspace = ({ e with
        text := e.text.eraseIdx (e.position - 1)
        column := e.column - 1 }, true) := by
      simp [Editor.backspace, hp, hcolumn]
    rw [he]
    exact ⟨rfl, ht, hrow, by simp [hcolumn]⟩

theorem Between.delete_of_end (h : e.Between before []) : e.delete = (e, false) := by
  simp [Editor.delete, h.position_eq, h.text]

theorem Between.delete (h : e.Between before (c :: after)) :
    e.delete.2 = true ∧ e.delete.1.Between before after := by
  have hp : ¬ e.text.length ≤ e.position := by simp [h.position_eq, h.text]
  have ht : e.text.eraseIdx e.position = before ++ after := by
    rw [h.position_eq, h.text]
    exact eraseIdx_between before after c
  rw [Editor.delete, if_neg hp]
  exact ⟨rfl, ht, h.row, h.column⟩

theorem Between.moveLeft_of_start (h : e.Between [] after) : e.moveLeft = e := by
  have hrow : e.row = 0 := h.row
  have hcolumn : e.column = 0 := h.column
  simp [Editor.moveLeft, hrow, hcolumn]

theorem Between.moveLeft (h : e.Between (before ++ [c]) after) :
    e.moveLeft.Between before (c :: after) := by
  have ht : e.text = before ++ c :: after := by simpa using h.text
  by_cases hc : c = '\n'
  · subst hc
    obtain ⟨hcolumn, hrow, hlen⟩ := h.after_feed
    rw [Editor.moveLeft, if_neg (by omega), if_pos (by omega)]
    exact ⟨ht, by simp [hrow], hlen⟩
  · obtain ⟨hcolumn, hrow⟩ := h.after_char hc
    rw [Editor.moveLeft, if_pos (by omega)]
    exact ⟨ht, hrow, by simp [hcolumn]⟩

theorem Between.moveRight_of_end (h : e.Between before []) : e.moveRight = e := by
  have hlen := h.lineLength_row
  have hcount := h.lineCount_eq
  simp only [List.takeWhile_nil, List.length_nil, List.count_nil] at hlen hcount
  rw [Editor.moveRight, if_neg (by omega), if_neg (by omega)]

theorem Between.moveRight (h : e.Between before (c :: after)) :
    e.moveRight.Between (before ++ [c]) after := by
  have hlen := h.lineLength_row
  have hcount := h.lineCount_eq
  have ht : e.text = before ++ [c] ++ after := by simpa using h.text
  by_cases hc : c = '\n'
  · simp only [hc, List.takeWhile_cons, ne_eq, not_true, decide_false, Bool.false_eq_true,
      if_false, List.length_nil, List.count_cons_self] at hlen hcount
    rw [Editor.moveRight, if_neg (by omega), if_pos (by omega)]
    refine ⟨ht, by simp [h.row, hc], ?_⟩
    rw [lastLine_append_of_mem (by simp [hc]), lastLine_singleton, if_pos hc]
    rfl
  · have hm : '\n' ∉ [c] := by simpa using Ne.symm hc
    simp only [List.takeWhile_cons, ne_eq, hc, not_false_eq_true, decide_true, if_true,
      List.length_cons] at hlen
    rw [Editor.moveRight, if_pos (by omega)]
    refine ⟨ht, by simp [h.row, hc], ?_⟩
    rw [lastLine_append_of_not_mem hm]
    simp [h.column]

end Editor

/-- Every column of every row is a place in the text. -/
theorem exists_split {s : List Char} (row column : Nat) (hrow : row < (splitLines s).length)
    (hcolumn : column ≤ ((splitLines s)[row]?.getD []).length) :
    ∃ before after, s = before ++ after ∧ row = before.count '\n' ∧
      column = (lastLine before).length := by
  induction s generalizing row column with
  | nil =>
    have hz : row = 0 := by simpa [splitLines] using hrow
    subst hz
    exact ⟨[], [], rfl, rfl, by simpa [splitLines, lastLine] using hcolumn⟩
  | cons c s ih =>
    by_cases hc : c = '\n'
    · cases row with
      | zero => exact ⟨[], c :: s, rfl, rfl, by simpa [splitLines, hc, lastLine] using hcolumn⟩
      | succ row =>
        obtain ⟨before, after, ht, hr, hl⟩ := ih row column
          (by simpa [splitLines, hc] using hrow) (by simpa [splitLines, hc] using hcolumn)
        exact ⟨c :: before, after, by simp [ht], by simp [hc, hr], by simp [lastLine_cons, hc, hl]⟩
    · cases row with
      | zero =>
        cases column with
        | zero => exact ⟨[], c :: s, rfl, rfl, rfl⟩
        | succ column =>
          obtain ⟨first, rest, hs⟩ := List.exists_cons_of_ne_nil (splitLines_ne_nil s)
          obtain ⟨before, after, ht, hr, hl⟩ := ih 0 column
            (by simp [hs]) (by simpa [splitLines, hc, hs] using hcolumn)
          have hm : '\n' ∉ before := List.count_eq_zero.mp hr.symm
          rw [lastLine_of_not_mem hm] at hl
          exact ⟨c :: before, after, by simp [ht], by simp [hc, hr],
            by simp [lastLine_cons, hc, hm, hl]⟩
      | succ row =>
        obtain ⟨before, after, ht, hr, hl⟩ := ih (row + 1) column
          (by simpa [splitLines, hc] using hrow)
          (by simpa [splitLines, hc, List.getElem?_modifyHead] using hcolumn)
        have hm : '\n' ∈ before := List.count_pos_iff.mp (by omega)
        exact ⟨c :: before, after, by simp [ht], by simp [hc, hr],
          by simp [lastLine_cons, hm, hl]⟩

namespace Editor

variable {e f : Editor}

theorem placed_of_le (hrow : e.row < e.lineCount) (hcolumn : e.column ≤ e.lineLength e.row) :
    e.Placed := by
  rw [lineCount_eq] at hrow
  rw [lineLength_eq, line_eq] at hcolumn
  obtain ⟨before, after, ht, hr, hl⟩ := exists_split e.row e.column hrow hcolumn
  exact ⟨before, after, ht, hr, hl⟩

theorem Placed.row_lt (h : e.Placed) : e.row < e.lineCount := by
  obtain ⟨before, after, h⟩ := h
  have := h.lineCount_eq
  omega

theorem placed_ofText (s : String) : (ofText s).Placed := by
  apply placed_of_le
  · simp only [ofText, setValue, lineCount]
    omega
  · exact Nat.le_refl _

theorem Placed.moveToRow (h : e.Placed) (row : Nat) : (e.moveToRow row).Placed := by
  unfold Editor.moveToRow
  split
  next hr => exact placed_of_le hr (Nat.min_le_right _ _)
  next => exact h

theorem exists_scrollTo (e : Editor) (height : Nat) :
    ∃ top, e.scrollTo height = { e with top := top } := by
  unfold scrollTo
  split
  next => exact ⟨e.top, rfl⟩
  next =>
    split
    next => exact ⟨e.row, rfl⟩
    next =>
      split
      next => exact ⟨e.row + 1 - height, rfl⟩
      next => exact ⟨e.top, rfl⟩

theorem text_scrollTo (e : Editor) (height : Nat) : (e.scrollTo height).text = e.text := by
  obtain ⟨top, h⟩ := e.exists_scrollTo height
  rw [h]

theorem Placed.scrollTo (h : e.Placed) (height : Nat) : (e.scrollTo height).Placed := by
  obtain ⟨before, after, h⟩ := h
  obtain ⟨top, ht⟩ := e.exists_scrollTo height
  rw [ht]
  exact ⟨before, after, h.text, h.row, h.column⟩

theorem Placed.moveLeft (h : e.Placed) : e.moveLeft.Placed := by
  obtain ⟨before, after, h⟩ := h
  rcases List.eq_nil_or_concat before with rfl | ⟨before, c, rfl⟩
  · rw [h.moveLeft_of_start]
    exact ⟨[], after, h⟩
  · rw [List.concat_eq_append] at h
    exact ⟨before, c :: after, h.moveLeft⟩

theorem Placed.moveRight (h : e.Placed) : e.moveRight.Placed := by
  obtain ⟨before, after, h⟩ := h
  cases after with
  | nil =>
    rw [h.moveRight_of_end]
    exact ⟨before, [], h⟩
  | cons c after => exact ⟨before ++ [c], after, h.moveRight⟩

theorem Placed.moveUp (h : e.Placed) : e.moveUp.Placed := by
  unfold Editor.moveUp
  split
  next => exact h
  next => exact h.moveToRow (e.row - 1)

theorem text_moveToRow (e : Editor) (row : Nat) : (e.moveToRow row).text = e.text := by
  unfold moveToRow
  split <;> rfl

theorem text_moveUp (e : Editor) : e.moveUp.text = e.text := by
  unfold moveUp
  split
  next => rfl
  next => exact e.text_moveToRow (e.row - 1)

theorem text_moveLeft (e : Editor) : e.moveLeft.text = e.text := by
  unfold moveLeft
  split
  next => rfl
  next => split <;> rfl

theorem text_moveRight (e : Editor) : e.moveRight.text = e.text := by
  unfold moveRight
  split
  next => rfl
  next => split <;> rfl

theorem Between.text_ne {before after before' after' : List Char} (h : e.Between before after)
    (h' : f.Between before' after')
    (hl : before'.length + after'.length ≠ before.length + after.length) : f.text ≠ e.text := by
  intro he
  have hlen := congrArg List.length he
  rw [h.text, h'.text, List.length_append, List.length_append] at hlen
  exact hl hlen

theorem Placed.backspace (h : e.Placed) : e.backspace = (e, false) ∨
    (e.backspace.2 = true ∧ e.backspace.1.Placed ∧ e.backspace.1.text ≠ e.text) := by
  obtain ⟨before, after, h⟩ := h
  rcases List.eq_nil_or_concat before with rfl | ⟨before, c, rfl⟩
  · exact Or.inl h.backspace_of_start
  · rw [List.concat_eq_append] at h
    obtain ⟨hchanged, hb⟩ := h.backspace
    exact Or.inr ⟨hchanged, ⟨before, after, hb⟩, h.text_ne hb (by simp)⟩

theorem Placed.delete (h : e.Placed) : e.delete = (e, false) ∨
    (e.delete.2 = true ∧ e.delete.1.Placed ∧ e.delete.1.text ≠ e.text) := by
  obtain ⟨before, after, h⟩ := h
  cases after with
  | nil => exact Or.inl h.delete_of_end
  | cons c after =>
    obtain ⟨hchanged, hb⟩ := h.delete
    exact Or.inr ⟨hchanged, ⟨before, after, hb⟩, h.text_ne hb (by simp)⟩

theorem Placed.insertChar (h : e.Placed) (c : Char) :
    (e.insertChar c).Placed ∧ (e.insertChar c).text ≠ e.text := by
  obtain ⟨before, after, h⟩ := h
  exact ⟨⟨_, _, h.insertChar c⟩, h.text_ne (h.insertChar c) (by simp)⟩

end Editor

theorem dropReturns_ne_nil {s : List Char} (h : s ≠ []) : dropReturns s ≠ [] := by
  induction s with
  | nil => exact absurd rfl h
  | cons c s ih =>
    unfold dropReturns
    split
    next hc =>
      apply ih
      intro hs
      simp [hs] at hc
    next => simp

namespace Editor

variable {e f : Editor}

theorem Placed.insert (h : e.Placed) {s : String} (hs : s ≠ "") :
    (e.insert s).Placed ∧ (e.insert s).text ≠ e.text := by
  obtain ⟨before, after, h⟩ := h
  have hne : s.toList ≠ [] := by simpa using hs
  have hlen : 0 < (unifyLineEnds s.toList).length := by
    rw [unifyLineEnds, List.length_map]
    exact List.length_pos_iff.mpr (dropReturns_ne_nil hne)
  refine ⟨⟨_, _, h.insert s⟩, h.text_ne (h.insert s) ?_⟩
  rw [List.length_append]
  omega

/-- A key keeps the cursor in the text, and says so exactly when it changed the text. -/
theorem Placed.handleKey (h : e.Placed) (k : Key) : (e.handleKey k).1.Placed ∧
    ((e.handleKey k).2 = true ↔ (e.handleKey k).1.text ≠ e.text) := by
  have same : ∀ {f : Editor}, f.Placed → f.text = e.text →
      f.Placed ∧ (false = true ↔ f.text ≠ e.text) := by
    intro f hf ht
    exact ⟨hf, by simp [ht]⟩
  unfold Editor.handleKey
  split
  next => exact same h rfl
  next =>
    cases k.code with
    | char c =>
      obtain ⟨hp, ht⟩ := h.insertChar c
      exact ⟨hp, by simp [ht]⟩
    | enter =>
      obtain ⟨hp, ht⟩ := h.insertChar '\n'
      exact ⟨hp, by simp [newline, ht]⟩
    | backspace =>
      rcases h.backspace with he | ⟨hc, hp, ht⟩
      · simpa [he] using h
      · exact ⟨hp, by simp [hc, ht]⟩
    | delete =>
      rcases h.delete with he | ⟨hc, hp, ht⟩
      · simpa [he] using h
      · exact ⟨hp, by simp [hc, ht]⟩
    | left => exact same h.moveLeft e.text_moveLeft
    | right => exact same h.moveRight e.text_moveRight
    | up => exact same h.moveUp e.text_moveUp
    | down => exact same (h.moveToRow (e.row + 1)) (e.text_moveToRow (e.row + 1))
    | home => exact same (placed_of_le h.row_lt (Nat.zero_le _)) rfl
    | lineEnd => exact same (placed_of_le h.row_lt (Nat.le_refl _)) rfl
    | pageUp | pageDown | tab | backTab | escape | insert | null | function _ | other =>
      exact same h rfl

theorem text_backspace_of_unchanged (e : Editor) (h : e.backspace.2 = false) :
    e.backspace.1.text = e.text := by
  unfold backspace at h ⊢
  by_cases hp : e.position = 0
  · simp [hp]
  · simp only [hp, if_false] at h
    split at h <;> simp at h

theorem text_delete_of_unchanged (e : Editor) (h : e.delete.2 = false) :
    e.delete.1.text = e.text := by
  unfold delete at h ⊢
  by_cases hp : e.text.length ≤ e.position
  · simp [hp]
  · simp [hp] at h

theorem text_handleKey_of_unchanged (e : Editor) (k : Key) :
    (e.handleKey k).2 = false → (e.handleKey k).1.text = e.text := by
  unfold handleKey
  by_cases hm : (k.modifiers.control || k.modifiers.alt) = true
  · rw [if_pos hm]
    exact fun _ => rfl
  · rw [if_neg hm]
    cases k.code with
    | char c | enter => exact fun h => nomatch h
    | backspace => exact e.text_backspace_of_unchanged
    | delete => exact e.text_delete_of_unchanged
    | left => exact fun _ => e.text_moveLeft
    | right => exact fun _ => e.text_moveRight
    | up => exact fun _ => e.text_moveUp
    | down => exact fun _ => e.text_moveToRow (e.row + 1)
    | home | lineEnd | pageUp | pageDown | tab | backTab | escape | insert | null | function _
    | other => exact fun _ => rfl

/-- What an edit can leave: a key's text, if it changed, or one with some text inserted. -/
inductive Edit (e : Editor) : Editor → Prop where
  | key {k : Key} (changed : (e.handleKey k).2 = true) : Edit e (e.handleKey k).1
  | insert {s : String} (some : s ≠ "") : Edit e (e.insert s)

theorem Edit.placed (h : e.Edit f) (hp : e.Placed) : f.Placed := by
  cases h with
  | key changed => exact (hp.handleKey _).1
  | insert some => exact (hp.insert some).1

theorem Edit.text_ne (h : e.Edit f) (hp : e.Placed) : f.text ≠ e.text := by
  cases h with
  | key changed => exact (hp.handleKey _).2.mp changed
  | insert some => exact (hp.insert some).2

end Editor
end LiveTemplate
