import LiveTemplate.Viewport

namespace LiveTemplate

variable {all : List (List Char)} {offset height : Nat}

/-- The lines in a window that need not be moved up. -/
def linesFrom (all : List (List Char)) (offset height : Nat) : List (List Char) :=
  if height < all.length then
    appendToLast (windowMark (offset + 1) (offset + height) all.length).toList
      ((all.drop offset).take height)
  else all

theorem windowLines_eq_linesFrom (h : offset ≤ maxOffset all.length height) :
    windowLines all offset height = linesFrom all offset height := by
  unfold maxOffset at h
  have hstart : min offset (maxOffset all.length height) = offset := Nat.min_eq_left h
  unfold windowLines linesFrom
  rw [hstart]
  by_cases hlt : height < all.length
  · have hstop : min all.length (offset + height) = offset + height := by omega
    simp only [hlt, if_true, hstop, Nat.add_sub_cancel_left]
  · have hzero : offset = 0 := by omega
    have hstop : min all.length height = all.length := by omega
    simp [hlt, hzero, hstop]

theorem exists_appendToLast (mark line : List Char) (rest : List (List Char)) :
    ∃ more rest', appendToLast mark (line :: rest) = (line ++ more) :: rest' := by
  cases rest with
  | nil => exact ⟨mark, [], rfl⟩
  | cons next rest => exact ⟨[], appendToLast mark (next :: rest), by simp [appendToLast]⟩

theorem prefix_joinLines (line : List Char) (rest : List (List Char)) :
    line <+: joinLines (line :: rest) := by
  cases rest with
  | nil => exact List.prefix_refl line
  | cons next rest => exact List.prefix_append line _

/-- A window that need not be moved up starts with the line at its offset. -/
theorem prefix_joinLines_linesFrom (h : offset ≤ maxOffset all.length height) (hh : 0 < height)
    (hne : all ≠ []) : ∃ line, all[offset]? = some line ∧
      line <+: joinLines (linesFrom all offset height) := by
  have hpos := List.length_pos_iff.mpr hne
  unfold maxOffset at h
  unfold linesFrom
  by_cases htall : height < all.length
  · have hlt : offset < all.length := by omega
    obtain ⟨k, rfl⟩ := Nat.exists_eq_add_one_of_ne_zero (Nat.ne_of_gt hh)
    refine ⟨all[offset], List.getElem?_eq_getElem hlt, ?_⟩
    rw [if_pos htall, List.drop_eq_getElem_cons hlt, List.take_succ_cons]
    obtain ⟨more, rest, he⟩ := exists_appendToLast
      (windowMark (offset + 1) (offset + (k + 1)) all.length).toList all[offset]
      ((all.drop (offset + 1)).take k)
    rw [he]
    exact (List.prefix_append _ _).trans (prefix_joinLines _ rest)
  · have hzero : offset = 0 := by omega
    obtain ⟨line, rest, rfl⟩ := List.exists_cons_of_ne_nil hne
    rw [if_neg htall, hzero]
    exact ⟨line, rfl, prefix_joinLines line rest⟩

end LiveTemplate
