namespace LiveTemplate

/-- The lines of a text, without their line feeds. -/
def splitLines : List Char → List (List Char)
  | [] => [[]]
  | c :: rest => if c = '\n' then [] :: splitLines rest else (splitLines rest).modifyHead (c :: ·)

def joinLines : List (List Char) → List Char
  | [] => []
  | [line] => line
  | line :: rest => line ++ '\n' :: joinLines rest

theorem splitLines_ne_nil (s : List Char) : splitLines s ≠ [] := by
  induction s with
  | nil => simp [splitLines]
  | cons c s ih => by_cases h : c = '\n' <;> simp [splitLines, h, ih]

theorem length_splitLines (s : List Char) : (splitLines s).length = s.count '\n' + 1 := by
  induction s with
  | nil => simp [splitLines]
  | cons c s ih => by_cases h : c = '\n' <;> simp [splitLines, h, ih]

theorem joinLines_splitLines (s : List Char) : joinLines (splitLines s) = s := by
  induction s with
  | nil => rfl
  | cons c s ih =>
    cases hs : splitLines s with
    | nil => exact absurd hs (splitLines_ne_nil s)
    | cons line rest =>
      rw [hs] at ih
      by_cases h : c = '\n'
      · subst h
        simp [splitLines, hs, joinLines, ih]
      · cases rest with
        | nil => simpa [splitLines, h, hs, joinLines] using ih
        | cons next rest => simpa [splitLines, h, hs, joinLines] using ih

theorem not_mem_of_mem_splitLines {s line : List Char} (h : line ∈ splitLines s) :
    '\n' ∉ line := by
  induction s generalizing line with
  | nil => simp_all [splitLines]
  | cons c s ih =>
    by_cases hc : c = '\n'
    · rw [splitLines, if_pos hc] at h
      rcases List.mem_cons.mp h with rfl | h
      · exact List.not_mem_nil
      · exact ih h
    · obtain ⟨first, rest, hs⟩ := List.exists_cons_of_ne_nil (splitLines_ne_nil s)
      rw [splitLines, if_neg hc, hs, List.modifyHead_cons] at h
      rcases List.mem_cons.mp h with rfl | h
      · have hfirst : '\n' ∉ first := ih (by rw [hs]; exact List.mem_cons_self)
        simpa [Ne.symm hc] using hfirst
      · exact ih (by rw [hs]; exact List.mem_cons_of_mem first h)

theorem splitLines_of_not_mem {s : List Char} (h : '\n' ∉ s) : splitLines s = [s] := by
  induction s with
  | nil => rfl
  | cons c s ih =>
    have hc : c ≠ '\n' := fun he => h (he ▸ List.mem_cons_self)
    have hs : '\n' ∉ s := fun hm => h (List.mem_cons_of_mem c hm)
    simp [splitLines, hc, ih hs]

theorem splitLines_line_append {line : List Char} (h : '\n' ∉ line) (s : List Char) :
    splitLines (line ++ '\n' :: s) = line :: splitLines s := by
  induction line with
  | nil => simp [splitLines]
  | cons c line ih =>
    have hc : c ≠ '\n' := fun he => h (he ▸ List.mem_cons_self)
    have hline : '\n' ∉ line := fun hm => h (List.mem_cons_of_mem c hm)
    simp [splitLines, hc, ih hline]

/-- Lines that are joined are the lines of the text. -/
theorem splitLines_joinLines {lines : List (List Char)} (hne : lines ≠ [])
    (h : ∀ line ∈ lines, '\n' ∉ line) : splitLines (joinLines lines) = lines := by
  fun_induction joinLines lines with
  | case1 => exact absurd rfl hne
  | case2 line => exact splitLines_of_not_mem (h line List.mem_cons_self)
  | case3 line rest hrest ih =>
    have hlater : ∀ later ∈ rest, '\n' ∉ later :=
      fun later hl => h later (List.mem_cons_of_mem line hl)
    rw [splitLines_line_append (h line List.mem_cons_self), ih hrest hlater]

def lineCount (s : String) : Nat := (splitLines s.toList).length

end LiveTemplate
