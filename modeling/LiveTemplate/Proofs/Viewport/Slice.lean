import LiveTemplate.Proofs.Viewport.Window

namespace LiveTemplate

/-- The lines from `start` up to `stop`; none if that is no range of these lines. -/
def slice? (all : List (List Char)) (start stop : Nat) : Option (List (List Char)) :=
  if start ≤ stop ∧ stop ≤ all.length then some ((all.drop start).take (stop - start)) else none

/-- The lines in a window, where a sum can fail and lines are taken by a range of theirs. -/
def windowLines? (sum : Nat → Nat → Option Nat) (all : List (List Char)) (offset height : Nat) :
    Option (List (List Char)) := do
  let start := min offset (maxOffset all.length height)
  let stop := min all.length (← sum start height)
  let shown ← slice? all start stop
  if height < all.length then
    let first ← sum start 1
    return appendToLast (windowMark first stop all.length).toList shown
  else return shown

/-- The window of a text, where a sum can fail and lines are taken by a range of theirs. -/
def visibleWindow? (sum : Nat → Nat → Option Nat) (text : String) (offset height : Nat) :
    Option String :=
  if height = 0 then some ""
  else (windowLines? sum (splitLines text.toList) offset height).map fun lines =>
    String.ofList (joinLines lines)

/-- A sum of counts, if it is a 64-bit count. -/
def countSum? (m n : Nat) : Option Nat := if m + n ≤ countLimit then some (m + n) else none

/-- The number of lines above the window of a text. -/
def windowStart (text : String) (offset height : Nat) : Nat :=
  min offset (lineCount text - height)

/-- The window of a text shows `height` lines of it, if there are so many. -/
structure ExactSlice (text : String) (offset height : Nat) : Prop where
  empty : height = 0 → visibleWindow text offset height = ""
  length : 0 < height →
    (splitLines (visibleWindow text offset height).toList).length = min (lineCount text) height
  whole : lineCount text ≤ height → visibleWindow text offset height = text
  bounds : 0 < height → height < lineCount text →
    1 ≤ windowStart text offset height + 1 ∧
      windowStart text offset height + 1 ≤ windowStart text offset height + height ∧
      windowStart text offset height + height ≤ lineCount text
  lines : height < lineCount text → ∀ i < height, ∃ line,
    (splitLines text.toList)[windowStart text offset height + i]? = some line ∧
      (splitLines (visibleWindow text offset height).toList)[i]? = some
        (if i + 1 = height then
          line ++ (" [" ++ toString (windowStart text offset height + 1) ++ "-" ++
            toString (windowStart text offset height + height) ++ " of " ++
            toString (lineCount text) ++ " lines]").toList
        else line)
  /-- No sum is beyond a 64-bit count, and the range is one of the text's lines. -/
  counts : lineCount text ≤ countLimit → height ≤ countLimit →
    visibleWindow? countSum? text offset height = some (visibleWindow text offset height)

variable {all lines : List (List Char)} {offset height : Nat} {text : String}

theorem slice?_of_le {start stop : Nat} (hle : start ≤ stop) (hstop : stop ≤ all.length) :
    slice? all start stop = some ((all.drop start).take (stop - start)) :=
  if_pos ⟨hle, hstop⟩

/-- The sums do not pass the number of lines and of rows. -/
theorem windowLines?_eq {sum : Nat → Nat → Option Nat} (hh : height ≠ 0)
    (hsum : ∀ m n, m + n ≤ max all.length height → sum m n = some (m + n)) :
    windowLines? sum all offset height = some (windowLines all offset height) := by
  unfold windowLines? windowLines
  generalize hstart : min offset (maxOffset all.length height) = start
  have hle : start ≤ all.length - height := by
    rw [← hstart]
    exact Nat.min_le_right _ _
  have hstop : sum start height = some (start + height) := hsum _ _ (by omega)
  have hslice : slice? all start (min all.length (start + height)) =
      some ((all.drop start).take (min all.length (start + height) - start)) :=
    slice?_of_le (by omega) (Nat.min_le_left _ _)
  simp only [hstop, Option.bind_eq_bind, Option.bind_some, hslice]
  split
  next htall =>
    have hfirst : sum start 1 = some (start + 1) := hsum _ _ (by omega)
    rw [hfirst]
    rfl
  next => rfl

theorem visibleWindow?_eq {sum : Nat → Nat → Option Nat}
    (hsum : ∀ m n, m + n ≤ max (lineCount text) height → sum m n = some (m + n)) :
    visibleWindow? sum text offset height = some (visibleWindow text offset height) := by
  unfold visibleWindow? visibleWindow
  split
  next => rfl
  next hh =>
    rw [windowLines?_eq hh hsum]
    rfl

theorem windowLines_eq (all : List (List Char)) (offset height : Nat) :
    windowLines all offset height =
      linesFrom all (min offset (maxOffset all.length height)) height := by
  rw [← windowLines_eq_linesFrom (Nat.min_le_right _ _)]
  simp only [windowLines, Nat.min_assoc, Nat.min_self]

theorem not_mem_toDigits (n : Nat) : '\n' ∉ Nat.toDigits 10 n := by
  intro h
  have hdigit := Nat.isDigit_of_mem_toDigits (by decide) (by decide) h
  revert hdigit
  decide

theorem not_mem_windowMark (first last total : Nat) :
    '\n' ∉ (windowMark first last total).toList := by
  simp [windowMark, not_mem_toDigits]

theorem length_appendToLast (mark : List Char) (lines : List (List Char)) :
    (appendToLast mark lines).length = lines.length := by
  fun_induction appendToLast mark lines with
  | case1 => rfl
  | case2 => rfl
  | case3 line rest _ ih => rw [List.length_cons, ih, List.length_cons]

theorem getElem?_appendToLast (mark : List Char) (lines : List (List Char)) (i : Nat) :
    (appendToLast mark lines)[i]? =
      lines[i]?.map fun line => if i + 1 = lines.length then line ++ mark else line := by
  fun_induction appendToLast mark lines generalizing i with
  | case1 => rfl
  | case2 line => cases i <;> simp
  | case3 line rest hrest ih =>
    have hpos : rest.length ≠ 0 := fun hz => hrest (List.length_eq_zero_iff.mp hz)
    cases i with
    | zero => simp [hpos]
    | succ i => simpa using ih i

theorem not_mem_of_mem_appendToLast {mark line : List Char} (hmark : '\n' ∉ mark)
    (hlines : ∀ line ∈ lines, '\n' ∉ line) (h : line ∈ appendToLast mark lines) :
    '\n' ∉ line := by
  obtain ⟨i, hi⟩ := List.mem_iff_getElem?.mp h
  rw [getElem?_appendToLast, Option.map_eq_some_iff] at hi
  obtain ⟨shown, hshown, rfl⟩ := hi
  have hplain := hlines shown (List.mem_of_getElem? hshown)
  split
  next => simp [hplain, hmark]
  next => exact hplain

/-- A window cuts no line in two. -/
theorem not_mem_of_mem_linesFrom {line : List Char} (hall : ∀ line ∈ all, '\n' ∉ line)
    (h : line ∈ linesFrom all offset height) : '\n' ∉ line := by
  unfold linesFrom at h
  split at h
  next =>
    refine not_mem_of_mem_appendToLast (not_mem_windowMark _ _ _) (fun shown hs => ?_) h
    exact hall shown (List.mem_of_mem_drop (List.mem_of_mem_take hs))
  next => exact hall line h

theorem length_linesFrom (h : offset ≤ maxOffset all.length height) :
    (linesFrom all offset height).length = min all.length height := by
  unfold maxOffset at h
  unfold linesFrom
  split
  next =>
    rw [length_appendToLast, List.length_take, List.length_drop]
    omega
  next => omega

theorem splitLines_visibleWindow (text : String) (offset : Nat) (hh : 0 < height) :
    splitLines (visibleWindow text offset height).toList =
      linesFrom (splitLines text.toList) (windowStart text offset height) height := by
  have hstart : windowStart text offset height ≤
      maxOffset (splitLines text.toList).length height := Nat.min_le_right _ _
  rw [visibleWindow, if_neg (by omega), String.toList_ofList, windowLines_eq]
  refine splitLines_joinLines (fun hnil => ?_) fun line hline => ?_
  · have hlength := length_linesFrom hstart
    have hpos := List.length_pos_iff.mpr (splitLines_ne_nil text.toList)
    have hzero : (linesFrom (splitLines text.toList) (windowStart text offset height) height).length
        = 0 := congrArg List.length hnil
    omega
  · exact not_mem_of_mem_linesFrom (fun _ hl => not_mem_of_mem_splitLines hl) hline

/-- A line of a window that hides something. -/
theorem getElem?_linesFrom (h : offset ≤ maxOffset all.length height) (htall : height < all.length)
    {i : Nat} (hi : i < height) : ∃ line, all[offset + i]? = some line ∧
      (linesFrom all offset height)[i]? = some
        (if i + 1 = height then
          line ++ (windowMark (offset + 1) (offset + height) all.length).toList
        else line) := by
  unfold maxOffset at h
  have hlt : offset + i < all.length := by omega
  have hlength : ((all.drop offset).take height).length = height := by
    rw [List.length_take, List.length_drop]
    omega
  refine ⟨all[offset + i], List.getElem?_eq_getElem hlt, ?_⟩
  rw [linesFrom, if_pos htall, getElem?_appendToLast, hlength, List.getElem?_take_of_lt hi,
    List.getElem?_drop, List.getElem?_eq_getElem hlt, Option.map_some]

/-- The window of a text is a slice of its lines, the last one with a mark where something is
hidden. -/
theorem visibleWindow_exact (text : String) (offset height : Nat) :
    ExactSlice text offset height := by
  have hstart : windowStart text offset height ≤ lineCount text - height := Nat.min_le_right _ _
  refine ⟨fun hzero => ?_, fun hh => ?_, fun hfits => ?_, fun hh htall => ?_,
    fun htall i hi => ?_, fun htext hheight => ?_⟩
  · rw [visibleWindow, if_pos hzero]
  · rw [splitLines_visibleWindow text offset hh]
    exact length_linesFrom hstart
  · have hpos : 0 < lineCount text := List.length_pos_iff.mpr (splitLines_ne_nil text.toList)
    have hall : linesFrom (splitLines text.toList)
        (min offset (maxOffset (splitLines text.toList).length height)) height =
        splitLines text.toList := if_neg (Nat.not_lt.mpr hfits)
    rw [visibleWindow, if_neg (by omega), windowLines_eq, hall, joinLines_splitLines,
      String.ofList_toList]
  · omega
  · rw [splitLines_visibleWindow text offset (by omega)]
    exact getElem?_linesFrom hstart htall hi
  · refine visibleWindow?_eq fun m n hle => if_pos ?_
    omega

end LiveTemplate
