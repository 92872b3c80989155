import LiveTemplate.Proofs.Editor.SplitText
import Mathlib.Data.Nat.Dist

namespace LiveTemplate

/-- A difference of counts, if it is not below zero. -/
def difference? (m n : Nat) : Option Nat := if n ≤ m then some (m - n) else none

theorem difference?_of_le {m n : Nat} (h : n ≤ m) : difference? m n = some (m - n) := if_pos h

namespace Editor

/-- Brings the cursor's row into a view, where a difference can fail. -/
def scrollTo? (e : Editor) (height : Nat) : Option Editor :=
  if height = 0 then some e
  else if e.row < e.top then some { e with top := e.row }
  else if e.top + height ≤ e.row then
    (difference? (e.row + 1) height).map fun top => { e with top := top }
  else some e

/-- From `top` on, `height` rows have the cursor's among them. -/
def Shows (e : Editor) (height top : Nat) : Prop := top ≤ e.row ∧ e.row < top + height

/-- `r` is the editor scrolled no further than a view of `height` rows has to be. -/
structure ScrollsLeast (e : Editor) (height : Nat) (r : Editor) : Prop where
  text : r.text = e.text
  cursor : r.row = e.row ∧ r.column = e.column
  shows : 0 < height → e.Shows height r.top
  unmoved : height = 0 ∨ e.Shows height e.top → r = e
  nearest : 0 < height → ∀ top, e.Shows height top → top ≠ r.top →
    Nat.dist e.top r.top < Nat.dist e.top top
  again : r.scrollTo height = r
  found : e.scrollTo? height = some r

variable {e : Editor} {height top : Nat}

theorem scrollTo?_eq (e : Editor) (height : Nat) :
    e.scrollTo? height = some (e.scrollTo height) := by
  unfold scrollTo? scrollTo
  split
  next => rfl
  next =>
    split
    next => rfl
    next =>
      split
      next hbelow =>
        rw [difference?_of_le (by omega)]
        rfl
      next => rfl

theorem scrollTo_of_inView (htop : e.top ≤ e.row) (hrow : e.row < e.top + height) :
    e.scrollTo height = e := by
  unfold scrollTo
  rw [if_neg (Nat.not_lt.mpr htop), if_neg (Nat.not_le.mpr hrow), ite_self]

theorem row_scrollTo (e : Editor) (height : Nat) : (e.scrollTo height).row = e.row := by
  obtain ⟨top, h⟩ := e.exists_scrollTo height
  rw [h]

/-- After scrolling the cursor's row is in view. -/
theorem inView_scrollTo (e : Editor) (hh : 0 < height) : (e.scrollTo height).top ≤ e.row ∧
    e.row < (e.scrollTo height).top + height := by
  unfold scrollTo
  rw [if_neg (Nat.ne_of_gt hh)]
  split
  next => exact ⟨Nat.le_refl _, Nat.lt_add_of_pos_right hh⟩
  next =>
    split
    next =>
      dsimp only
      omega
    next => omega

theorem scrollTo_scrollTo (e : Editor) (height : Nat) :
    (e.scrollTo height).scrollTo height = e.scrollTo height := by
  rcases Nat.eq_zero_or_pos height with rfl | hh
  · rfl
  · obtain ⟨htop, hrow⟩ := e.inView_scrollTo hh
    rw [← row_scrollTo e height] at htop hrow
    exact scrollTo_of_inView htop hrow

theorem scrollTo_zero (e : Editor) : e.scrollTo 0 = e := if_pos rfl

theorem top_scrollTo_of_lt (hh : 0 < height) (h : e.row < e.top) :
    (e.scrollTo height).top = e.row := by
  rw [scrollTo, if_neg (Nat.ne_of_gt hh), if_pos h]

theorem top_scrollTo_of_le (hh : 0 < height) (h : e.top + height ≤ e.row) :
    (e.scrollTo height).top = e.row + 1 - height := by
  rw [scrollTo, if_neg (Nat.ne_of_gt hh), if_neg (by omega), if_pos h]

/-- The cursor's row and the last first row that still has it are the ends of what shows it, so the
one of them that is met first is the nearest. -/
theorem dist_scrollTo_lt (hh : 0 < height) (hshows : e.Shows height top)
    (hne : top ≠ (e.scrollTo height).top) :
    Nat.dist e.top (e.scrollTo height).top < Nat.dist e.top top := by
  obtain ⟨htop, hrow⟩ := hshows
  by_cases habove : e.row < e.top
  · rw [top_scrollTo_of_lt hh habove] at hne ⊢
    simp only [Nat.dist]
    omega
  · by_cases hbelow : e.top + height ≤ e.row
    · rw [top_scrollTo_of_le hh hbelow] at hne ⊢
      simp only [Nat.dist]
      omega
    · rw [scrollTo_of_inView (Nat.not_lt.mp habove) (Nat.not_le.mp hbelow)] at hne ⊢
      simp only [Nat.dist]
      omega

theorem scrollsLeast_scrollTo (e : Editor) (height : Nat) :
    e.ScrollsLeast height (e.scrollTo height) where
  text := e.text_scrollTo height
  cursor := by
    obtain ⟨top, h⟩ := e.exists_scrollTo height
    rw [h]
    exact ⟨rfl, rfl⟩
  shows := e.inView_scrollTo
  unmoved := by
    rintro (rfl | ⟨htop, hrow⟩)
    · exact e.scrollTo_zero
    · exact scrollTo_of_inView htop hrow
  nearest hh _ := dist_scrollTo_lt hh
  again := e.scrollTo_scrollTo height
  found := e.scrollTo?_eq height

/-- After any operations, earlier scrolling among them, a view of any height is scrolled no further
than it has to be. -/
theorem scrolls_least (initial : Option String) (ops : List Operation) (height : Nat) :
    ((ofInitial initial).run ops).ScrollsLeast height
      (((ofInitial initial).run ops).scrollTo height) :=
  scrollsLeast_scrollTo _ height

end Editor
end LiveTemplate
