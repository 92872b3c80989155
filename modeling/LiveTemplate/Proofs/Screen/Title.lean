import LiveTemplate.Screen.Frame
import Mathlib.Data.List.Basic

namespace LiveTemplate

/-- The columns that some clusters take. -/
def columns : List (List Char) → Nat
  | [] => 0
  | symbol :: rest => symbolWidth symbol + columns rest

/-- A cluster without columns stands where the clusters before it have used up `room`. -/
def EndsBare (symbols : List (List Char)) (room : Nat) : Prop :=
  ∃ before symbol after, symbols = before ++ symbol :: after ∧ symbolWidth symbol = 0 ∧
    columns before = room

variable {symbols more : List (List Char)} {symbol : List Char} {room width : Nat}
variable {style : Style} {cells : List Cell}

theorem not_endsBare_nil : ¬ EndsBare [] room := by
  rintro ⟨before, symbol, after, h, _⟩
  simp at h

theorem endsBare_cons : EndsBare (symbol :: symbols) room ↔
    symbolWidth symbol = 0 ∧ room = 0 ∨
      symbolWidth symbol ≤ room ∧ EndsBare symbols (room - symbolWidth symbol) := by
  constructor
  · rintro ⟨before, bare, after, h, hbare, hroom⟩
    cases before with
    | nil =>
      obtain ⟨rfl, _⟩ := List.cons.inj h
      exact Or.inl ⟨hbare, hroom.symm⟩
    | cons first before =>
      obtain ⟨rfl, rfl⟩ := List.cons.inj h
      rw [columns] at hroom
      exact Or.inr ⟨by omega, before, bare, after, rfl, hbare, by omega⟩
  · rintro (⟨hbare, rfl⟩ | ⟨hle, before, bare, after, rfl, hbare, hroom⟩)
    · exact ⟨[], symbol, symbols, rfl, hbare, rfl⟩
    · refine ⟨symbol :: before, bare, after, rfl, hbare, ?_⟩
      rw [columns]
      omega

theorem endsBare_cons_of_bare (h : symbolWidth symbol = 0) :
    EndsBare (symbol :: symbols) room ↔ room = 0 ∨ EndsBare symbols room := by
  simp [endsBare_cons, h]

theorem endsBare_cons_of_wide {n : Nat} (h : symbolWidth symbol = n + 1) :
    EndsBare (symbol :: symbols) room ↔ n + 1 ≤ room ∧ EndsBare symbols (room - (n + 1)) := by
  simp [endsBare_cons, h]

/-- Clusters of one column each use up a column each. -/
theorem endsBare_append (h : ∀ symbol ∈ symbols, symbolWidth symbol = 1) :
    EndsBare (symbols ++ more) room ↔
      symbols.length ≤ room ∧ EndsBare more (room - symbols.length) := by
  induction symbols generalizing room with
  | nil => simp
  | cons symbol symbols ih =>
    have hroom : room - (0 + 1) - symbols.length = room - (symbols.length + 1) := by omega
    rw [List.cons_append, endsBare_cons_of_wide (h symbol List.mem_cons_self),
      ih fun s hs => h s (List.mem_cons_of_mem symbol hs), hroom, List.length_cons, ← and_assoc]
    exact and_congr_left fun _ => by omega

theorem not_endsBare_of_pos (h : ∀ symbol ∈ symbols, symbolWidth symbol ≠ 0) :
    ¬ EndsBare symbols room := by
  rintro ⟨before, symbol, after, rfl, hbare, _⟩
  exact h symbol (by simp) hbare

theorem overwrite_of_bare {cell : Cell} {below : List Cell} (h : symbolWidth symbol = 0) :
    overwrite style room (symbol :: symbols) (cell :: below) =
      overwrite style room symbols (⟨symbol, style.onto cell.style⟩ :: below) := by
  rw [overwrite, h]

theorem overwrite_of_fits {cell : Cell} {below : List Cell} {n : Nat}
    (h : symbolWidth symbol = n + 1) (hroom : n + 1 ≤ room) :
    overwrite style room (symbol :: symbols) (cell :: below) =
      (⟨symbol, style.onto cell.style⟩ :: blankRow n ++
          (overwrite style (room - (n + 1)) symbols (below.drop n)).1,
        (overwrite style (room - (n + 1)) symbols (below.drop n)).2) := by
  rw [overwrite, h]
  dsimp only
  rw [if_neg (by omega)]

theorem overwrite_of_full {cell : Cell} {below : List Cell} {n : Nat}
    (h : symbolWidth symbol = n + 1) (hroom : room < n + 1) :
    overwrite style room (symbol :: symbols) (cell :: below) = ([], room, cell :: below) := by
  rw [overwrite, h]
  dsimp only
  rw [if_pos hroom]

/-- What is written uses up room, and takes the place of as many cells. -/
theorem length_overwrite (style : Style) (symbols : List (List Char)) (h : room < cells.length) :
    (overwrite style room symbols cells).1.length + (overwrite style room symbols cells).2.1 =
        room ∧
      (overwrite style room symbols cells).1.length +
        (overwrite style room symbols cells).2.2.length = cells.length := by
  induction symbols generalizing room cells with
  | nil => simp [overwrite]
  | cons symbol symbols ih =>
    cases cells with
    | nil => exact absurd h (Nat.not_lt_zero room)
    | cons cell below =>
      rw [List.length_cons] at h
      cases hwidth : symbolWidth symbol with
      | zero =>
        rw [overwrite_of_bare hwidth]
        exact ih h
      | succ n =>
        by_cases hroom : n + 1 ≤ room
        · rw [overwrite_of_fits hwidth hroom]
          have hbelow : room - (n + 1) < (below.drop n).length := by
            rw [List.length_drop]
            omega
          have hrest := ih hbelow
          rw [List.length_drop] at hrest
          simp only [blankRow, List.length_append, List.length_cons, List.length_replicate]
          omega
        · rw [overwrite_of_full hwidth (by omega)]
          simp

/-- Clusters of one column each are written while there is room. -/
theorem room_overwrite (style : Style) (h : ∀ symbol ∈ symbols, symbolWidth symbol = 1)
    (hroom : room < cells.length) :
    (overwrite style room symbols cells).2.1 = room - symbols.length := by
  induction symbols generalizing room cells with
  | nil => rfl
  | cons symbol symbols ih =>
    have hwidth := h symbol List.mem_cons_self
    cases cells with
    | nil => exact absurd hroom (Nat.not_lt_zero room)
    | cons cell below =>
      rw [List.length_cons] at hroom ⊢
      by_cases hfull : room = 0
      · rw [overwrite_of_full hwidth (by omega)]
        dsimp only
        omega
      · rw [overwrite_of_fits hwidth (by omega)]
        have hbelow : room - (0 + 1) < (below.drop 0).length := by
          rw [List.drop_zero]
          omega
        have hrest := ih (fun s hs => h s (List.mem_cons_of_mem symbol hs)) hbelow
        dsimp only
        omega

theorem getLast?_drop_of_lt {n : Nat} (h : n < cells.length) :
    (cells.drop n).getLast? = cells.getLast? := by
  rw [List.getLast?_drop, if_neg (by omega)]

theorem getLast?_cons_of_ne_nil {cell : Cell} (h : cells ≠ []) :
    (cell :: cells).getLast? = cells.getLast? := by
  obtain ⟨next, rest, rfl⟩ := List.exists_cons_of_ne_nil h
  rfl

/-- The last cell stays, unless the room goes up to it and ends before a cluster without columns. -/
theorem getLast?_overwrite (style : Style) (h : room < cells.length)
    (hfree : ¬ (room + 1 = cells.length ∧ EndsBare symbols room)) :
    (overwrite style room symbols cells).2.2.getLast? = cells.getLast? := by
  induction symbols generalizing room cells with
  | nil => rfl
  | cons symbol symbols ih =>
    cases cells with
    | nil => exact absurd h (Nat.not_lt_zero room)
    | cons cell below =>
      rw [List.length_cons] at h hfree
      cases hwidth : symbolWidth symbol with
      | zero =>
        rw [endsBare_cons_of_bare hwidth] at hfree
        have hbelow : below ≠ [] := by
          rintro rfl
          rw [List.length_nil] at h hfree
          exact hfree ⟨by omega, Or.inl (by omega)⟩
        rw [overwrite_of_bare hwidth, ih h fun hends => hfree ⟨hends.1, Or.inr hends.2⟩,
          getLast?_cons_of_ne_nil hbelow, getLast?_cons_of_ne_nil hbelow]
      | succ n =>
        by_cases hroom : n + 1 ≤ room
        · rw [endsBare_cons_of_wide hwidth] at hfree
          have hlength : (below.drop n).length = below.length - n := List.length_drop
          have hbelow : below ≠ [] := by
            rintro rfl
            rw [List.length_nil] at h
            omega
          rw [overwrite_of_fits hwidth hroom]
          dsimp only
          rw [ih (by omega) fun hends => hfree ⟨by omega, hroom, hends.2⟩,
            getLast?_drop_of_lt (by omega), getLast?_cons_of_ne_nil hbelow]
        · rw [overwrite_of_full hwidth (by omega)]

/-- A cluster without columns in the last cell gives way only to another one. -/
theorem overwrite_bare_cell (style : Style) (symbols : List (List Char)) (cell : Cell)
    (h : symbolWidth cell.symbol = 0) :
    ∃ last, (overwrite style 0 symbols [cell]).2.2 = [last] ∧ symbolWidth last.symbol = 0 := by
  induction symbols generalizing cell with
  | nil => exact ⟨cell, rfl, h⟩
  | cons symbol symbols ih =>
    cases hwidth : symbolWidth symbol with
    | zero =>
      rw [overwrite_of_bare hwidth]
      exact ih _ hwidth
    | succ n =>
      rw [overwrite_of_full hwidth (Nat.succ_pos n)]
      exact ⟨cell, rfl, h⟩

/-- Where the room goes up to the last cell and ends before a cluster without columns, such a
cluster takes the last cell. -/
theorem getLast?_overwrite_of_endsBare (h : room + 1 = cells.length)
    (hends : EndsBare symbols room) :
    ∃ last, (overwrite style room symbols cells).2.2.getLast? = some last ∧
      symbolWidth last.symbol = 0 := by
  induction symbols generalizing room cells with
  | nil => exact absurd hends not_endsBare_nil
  | cons symbol symbols ih =>
    cases cells with
    | nil => cases h
    | cons cell below =>
      rw [List.length_cons] at h
      cases hwidth : symbolWidth symbol with
      | zero =>
        rw [overwrite_of_bare hwidth]
        rcases (endsBare_cons_of_bare hwidth).mp hends with rfl | hends
        · have hbelow : below = [] := List.eq_nil_of_length_eq_zero (by omega)
          subst hbelow
          obtain ⟨last, hlast, hbare⟩ :=
            overwrite_bare_cell style symbols ⟨symbol, style.onto cell.style⟩ hwidth
          exact ⟨last, by rw [hlast]; rfl, hbare⟩
        · exact ih h hends
      | succ n =>
        obtain ⟨hroom, hends⟩ := (endsBare_cons_of_wide hwidth).mp hends
        rw [overwrite_of_fits hwidth hroom]
        refine ih ?_ hends
        rw [List.length_drop]
        omega

theorem overwriteSpans_zero (spans : List Span) (cells : List Cell) :
    overwriteSpans 0 spans cells = cells := by
  cases spans <;> rfl

theorem overwriteSpans_cons (h : room ≠ 0) (span : Span) (spans : List Span)
    (cells : List Cell) : overwriteSpans room (span :: spans) cells =
      (overwrite span.style room (titleClusters span.text) cells).1 ++
        overwriteSpans (overwrite span.style room (titleClusters span.text) cells).2.1 spans
          (overwrite span.style room (titleClusters span.text) cells).2.2 := by
  rw [overwriteSpans, if_neg h]

theorem length_overwriteSpans (spans : List Span) (h : room = 0 ∨ room < cells.length) :
    (overwriteSpans room spans cells).length = cells.length := by
  induction spans generalizing room cells with
  | nil => rfl
  | cons span spans ih =>
    by_cases hroom : room = 0
    · rw [hroom, overwriteSpans_zero]
    · have hlength := length_overwrite span.style (titleClusters span.text)
        (h.resolve_left hroom)
      rw [overwriteSpans_cons hroom, List.length_append, ih (Or.inr (by omega))]
      omega

variable {name label : Span}

theorem getLast?_overwriteSpans_singleton (hroom : room ≠ 0) (h : room < cells.length) :
    (overwriteSpans room [label] cells).getLast? =
      (overwrite label.style room (titleClusters label.text) cells).2.2.getLast? := by
  have hlength := length_overwrite label.style (titleClusters label.text) h
  have hne : (overwrite label.style room (titleClusters label.text) cells).2.2 ≠ [] :=
    List.ne_nil_of_length_pos (by omega)
  rw [overwriteSpans_cons hroom, overwriteSpans, List.getLast?_append_of_ne_nil _ hne]

/-- The last cell stays under a name and a label, unless the room goes up to it and ends before a
cluster without columns. -/
theorem getLast?_overwriteSpans (hname : ∀ symbol ∈ titleClusters name.text, symbolWidth symbol = 1)
    (h : room < cells.length)
    (hfree : ¬ (room + 1 = cells.length ∧
      EndsBare (titleClusters name.text ++ titleClusters label.text) room)) :
    (overwriteSpans room [name, label] cells).getLast? = cells.getLast? := by
  by_cases hroom : room = 0
  · rw [hroom, overwriteSpans_zero]
  have hlength := length_overwrite name.style (titleClusters name.text) h
  have hleft := room_overwrite name.style hname h
  have hplain : ¬ EndsBare (titleClusters name.text) room :=
    not_endsBare_of_pos fun symbol hs => by simp [hname symbol hs]
  have hlast := getLast?_overwrite name.style h fun hends => hplain hends.2
  rw [endsBare_append hname] at hfree
  rw [overwriteSpans_cons hroom]
  generalize overwrite name.style room (titleClusters name.text) cells = written at *
  have hne : overwriteSpans written.2.1 [label] written.2.2 ≠ [] := by
    refine List.ne_nil_of_length_pos ?_
    rw [length_overwriteSpans [label] (Or.inr (by omega))]
    omega
  rw [List.getLast?_append_of_ne_nil _ hne, ← hlast]
  by_cases hfull : written.2.1 = 0
  · rw [hfull, overwriteSpans_zero]
  · rw [getLast?_overwriteSpans_singleton hfull (by omega)]
    refine getLast?_overwrite label.style (by omega) fun hends => ?_
    rw [hleft] at hends
    exact hfree ⟨by omega, by omega, hends.2⟩

/-- Where the room goes up to the last cell and ends in the label before a cluster without columns,
such a cluster takes the last cell. -/
theorem getLast?_overwriteSpans_of_endsBare
    (hname : ∀ symbol ∈ titleClusters name.text, symbolWidth symbol = 1)
    (hlabel : ¬ EndsBare (titleClusters label.text) 0) (h : room + 1 = cells.length)
    (hends : EndsBare (titleClusters name.text ++ titleClusters label.text) room) :
    ∃ last, (overwriteSpans room [name, label] cells).getLast? = some last ∧
      symbolWidth last.symbol = 0 := by
  obtain ⟨hle, hends⟩ := (endsBare_append hname).mp hends
  have hlt : (titleClusters name.text).length < room := by
    refine Nat.lt_of_le_of_ne hle fun heq => hlabel ?_
    rwa [heq, Nat.sub_self] at hends
  have hroom : room ≠ 0 := by omega
  have hroomy : room < cells.length := by omega
  have hlength := length_overwrite name.style (titleClusters name.text) hroomy
  have hleft := room_overwrite name.style hname hroomy
  rw [overwriteSpans_cons hroom]
  generalize overwrite name.style room (titleClusters name.text) cells = written at *
  have hne : overwriteSpans written.2.1 [label] written.2.2 ≠ [] := by
    refine List.ne_nil_of_length_pos ?_
    rw [length_overwriteSpans [label] (Or.inr (by omega))]
    omega
  rw [List.getLast?_append_of_ne_nil _ hne,
    getLast?_overwriteSpans_singleton (by omega) (by omega)]
  refine getLast?_overwrite_of_endsBare (by omega) ?_
  rwa [hleft]

/-- The top line without its left corner. -/
def lineFrom (style : Style) (n : Nat) : List Cell :=
  List.replicate n ⟨['─'], style⟩ ++ [⟨['┐'], style⟩]

theorem length_lineFrom (style : Style) (n : Nat) : (lineFrom style n).length = n + 1 := by
  simp [lineFrom]

theorem getLast?_lineFrom (style : Style) (n : Nat) :
    (lineFrom style n).getLast? = some ⟨['┐'], style⟩ := by
  rw [lineFrom, List.getLast?_concat]

theorem titleRow_eq (style : Style) (n : Nat) (title : List Span) :
    titleRow style (n + 2) title = ⟨['┌'], style⟩ ::
      overwriteSpans (min (spansWidth title % 65536) n) title (lineFrom style n) := rfl

theorem length_titleRow (style : Style) (width : Nat) (title : List Span) :
    (titleRow style width title).length = width := by
  match width with
  | 0 => simp [titleRow, edgeRow, overwriteSpans_zero]
  | 1 => simp [titleRow, edgeRow, overwriteSpans_zero]
  | n + 2 =>
    have hlength := length_lineFrom style n
    rw [titleRow_eq, List.length_cons, length_overwriteSpans title (Or.inr (by omega)), hlength]

theorem getElem?_titleRow_last (style : Style) (n : Nat) (title : List Span) :
    (titleRow style (n + 2) title)[n + 1]? =
      (overwriteSpans (min (spansWidth title % 65536) n) title (lineFrom style n)).getLast? := by
  have hlength := length_lineFrom style n
  rw [titleRow_eq, List.getElem?_cons_succ, List.getLast?_eq_getElem?,
    length_overwriteSpans title (Or.inr (by omega)), hlength, Nat.add_sub_cancel]

end LiveTemplate
