import LiveTemplate.Key
import LiveTemplate.Text.Lines

namespace LiveTemplate

/-- A text with each carriage return before a line feed left out, in one pass. -/
def dropReturns : List Char → List Char
  | [] => []
  | c :: rest =>
    if c = '\r' ∧ rest.head? = some '\n' then dropReturns rest else c :: dropReturns rest

/-- A text with every line end made a line feed. -/
def unifyLineEnds (s : List Char) : List Char :=
  (dropReturns s).map fun c => if c = '\r' then '\n' else c

/-- The position of the first character of a row. -/
def rowStart : List Char → Nat → Nat
  | _, 0 => 0
  | [], _ + 1 => 0
  | c :: rest, row + 1 => 1 + rowStart rest (if c = '\n' then row else row + 1)

/-- A row with the line feed that ends it, if one does. -/
def fullRow (s : List Char) (row : Nat) : List Char :=
  (s.take (rowStart s (row + 1))).drop (rowStart s row)

theorem fullRow_feed_zero (s : List Char) : fullRow ('\n' :: s) 0 = ['\n'] := by
  simp [fullRow, rowStart]

theorem fullRow_feed_succ (s : List Char) (row : Nat) :
    fullRow ('\n' :: s) (row + 1) = fullRow s row := by
  simp [fullRow, rowStart, Nat.add_comm 1]

theorem fullRow_cons_zero {c : Char} (h : c ≠ '\n') (s : List Char) :
    fullRow (c :: s) 0 = c :: fullRow s 0 := by
  simp [fullRow, rowStart, h, Nat.add_comm 1]

theorem fullRow_cons_succ {c : Char} (h : c ≠ '\n') (s : List Char) (row : Nat) :
    fullRow (c :: s) (row + 1) = fullRow s (row + 1) := by
  simp [fullRow, rowStart, h, Nat.add_comm 1]

/-- Every row but the last ends with a line feed. -/
theorem fullRow_eq (s : List Char) (row : Nat) : fullRow s row =
    (splitLines s)[row]?.getD [] ++ if row < s.count '\n' then ['\n'] else [] := by
  induction s generalizing row with
  | nil => cases row <;> simp [fullRow, splitLines]
  | cons c s ih =>
    by_cases hc : c = '\n'
    · subst hc
      cases row with
      | zero => simp [fullRow_feed_zero, splitLines]
      | succ row => simp [fullRow_feed_succ, splitLines, ih]
    · obtain ⟨first, rest, hs⟩ := List.exists_cons_of_ne_nil (splitLines_ne_nil s)
      cases row with
      | zero => simp [fullRow_cons_zero hc, splitLines, hc, ih, hs]
      | succ row => simp [fullRow_cons_succ hc, splitLines, hc, ih, hs]

structure Editor where
  text : List Char
  row : Nat
  column : Nat
  top : Nat
  deriving DecidableEq, Repr

namespace Editor

def empty : Editor := ⟨[], 0, 0, 0⟩

def value (e : Editor) : String := String.ofList e.text

def isEmpty (e : Editor) : Bool := e.text.isEmpty

def lines (e : Editor) : List (List Char) := splitLines e.text

def lineCount (e : Editor) : Nat := e.text.count '\n' + 1

/-- A row without its line feed. -/
def line (e : Editor) (row : Nat) : List Char :=
  let full := fullRow e.text row
  if full.getLast? = some '\n' then full.dropLast else full

/-- How long a row is without its line feed. -/
def lineLength (e : Editor) (row : Nat) : Nat :=
  let full := fullRow e.text row
  let length := full.length
  if 0 < length ∧ full[length - 1]? = some '\n' then length - 1 else length

theorem lineCount_eq (e : Editor) : e.lineCount = e.lines.length := (length_splitLines e.text).symm

/-- A row has no line feed left, and one past the end of the text is empty. -/
theorem line_eq (e : Editor) (row : Nat) : e.line row = e.lines[row]?.getD [] := by
  have hplain : '\n' ∉ e.lines[row]?.getD [] := by
    cases h : e.lines[row]? with
    | none => exact List.not_mem_nil
    | some line => exact not_mem_of_mem_splitLines (List.mem_of_getElem? h)
  rw [line, fullRow_eq, ← lines]
  split
  next => simp
  next =>
    rw [List.append_nil, if_neg]
    exact fun h => hplain (List.mem_of_getLast? h)

theorem getElem?_lines {e : Editor} {row : Nat} (h : row < e.lineCount) :
    e.lines[row]? = some (e.line row) := by
  rw [lineCount_eq] at h
  rw [line_eq, List.getElem?_eq_getElem h, Option.getD_some]

theorem lineLength_eq (e : Editor) (row : Nat) : e.lineLength row = (e.line row).length := by
  rw [lineLength, line, List.getLast?_eq_getElem?]
  split
  next h => rw [if_pos h.2, List.length_dropLast]
  next h =>
    rw [if_neg]
    intro hlast
    obtain ⟨hlt, -⟩ := List.getElem?_eq_some_iff.mp hlast
    exact h ⟨by omega, hlast⟩

def position (e : Editor) : Nat := rowStart e.text e.row + e.column

/-- Replaces the text and puts the cursor after it. -/
def setValue (_ : Editor) (s : String) : Editor :=
  let e : Editor := ⟨dropReturns s.toList, 0, 0, 0⟩
  let row := e.lineCount - 1
  { e with row := row, column := e.lineLength row }

def ofText (s : String) : Editor := empty.setValue s

/-- Brings the cursor's row into a view of `height` rows with the least scrolling. -/
def scrollTo (e : Editor) (height : Nat) : Editor :=
  if height = 0 then e
  else if e.row < e.top then { e with top := e.row }
  else if e.top + height ≤ e.row then { e with top := e.row + 1 - height }
  else e

def insertChar (e : Editor) (c : Char) : Editor :=
  let text := e.text.take e.position ++ c :: e.text.drop e.position
  if c = '\n' then { e with text := text, row := e.row + 1, column := 0 }
  else { e with text := text, column := e.column + 1 }

def newline (e : Editor) : Editor := e.insertChar '\n'

def insert (e : Editor) (s : String) : Editor :=
  let added := unifyLineEnds s.toList
  let text := e.text.take e.position ++ added ++ e.text.drop e.position
  let feeds := added.count '\n'
  let tail := added.reverse.takeWhile (· ≠ '\n')
  if feeds = 0 then { e with text := text, column := e.column + added.length }
  else { e with text := text, row := e.row + feeds, column := tail.length }

/-- Removes the character before the cursor, if there is one, and says whether there was. -/
def backspace (e : Editor) : Editor × Bool :=
  let at_ := e.position
  if at_ = 0 then (e, false)
  else
    let text := e.text.eraseIdx (at_ - 1)
    if 0 < e.column then ({ e with text := text, column := e.column - 1 }, true)
    else ({ e with text := text, row := e.row - 1, column := e.lineLength (e.row - 1) }, true)

/-- Removes the character after the cursor, if there is one, and says whether there was. -/
def delete (e : Editor) : Editor × Bool :=
  if e.text.length ≤ e.position then (e, false)
  else ({ e with text := e.text.eraseIdx e.position }, true)

def moveLeft (e : Editor) : Editor :=
  if 0 < e.column then { e with column := e.column - 1 }
  else if 0 < e.row then { e with row := e.row - 1, column := e.lineLength (e.row - 1) }
  else e

def moveRight (e : Editor) : Editor :=
  if e.column < e.lineLength e.row then { e with column := e.column + 1 }
  else if e.row + 1 < e.lineCount then { e with row := e.row + 1, column := 0 }
  else e

/-- Goes to another row, no further right than its end. -/
def moveToRow (e : Editor) (row : Nat) : Editor :=
  if row < e.lineCount then { e with row := row, column := min e.column (e.lineLength row) } else e

def moveUp (e : Editor) : Editor := if e.row = 0 then e else e.moveToRow (e.row - 1)

def moveDown (e : Editor) : Editor := e.moveToRow (e.row + 1)

/-- Applies an editing key and says whether it changed the text. Keys with control or alt are not
for the editor. -/
def handleKey (e : Editor) (k : Key) : Editor × Bool :=
  if k.modifiers.control || k.modifiers.alt then (e, false)
  else
    match k.code with
    | .char c => (e.insertChar c, true)
    | .enter => (e.newline, true)
    | .backspace => e.backspace
    | .delete => e.delete
    | .left => (e.moveLeft, false)
    | .right => (e.moveRight, false)
    | .up => (e.moveUp, false)
    | .down => (e.moveDown, false)
    | .home => ({ e with column := 0 }, false)
    | .lineEnd => ({ e with column := e.lineLength e.row }, false)
    | _ => (e, false)

end Editor
end LiveTemplate
