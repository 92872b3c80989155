import LiveTemplate.Analysis.Payload

namespace LiveTemplate

/-- The text of a record that a tab shows. -/
def Payload.said (p : Payload) : Tab → String
  | .linter => p.linter
  | .parse => p.parse
  | .lex => p.lex
  | .ruby => p.ruby
  | .html => p.html

/-- How a text is shaped: which texts say nothing, what is shown for these, and the heading and the
width of its rule above all others. -/
structure Shape where
  SaysNothing : String → Prop
  nothing : String
  heading : String
  width : Nat
  separate : ¬ heading.toList <+: nothing.toList

namespace Shape

def tree : Shape :=
  ⟨fun s => s = "" ∨ s = "Parse failed", "❌ Parse failed", "🌳 Parse Result", 15, by decide⟩

def tokens : Shape :=
  ⟨fun s => s = "" ∨ s = "Lex failed", "❌ Lex failed", "📝 Lex Result", 13, by decide⟩

def ruby : Shape :=
  ⟨fun s => isBlank s ∨ s = "No Ruby code found", noRubyText, "💎 Extracted Ruby Code", 22,
    by decide⟩

def html : Shape :=
  ⟨fun s => isBlank s ∨ s = "No HTML found", noHtmlText, "🏷️  Extracted HTML", 18, by decide⟩

/-- Whether texts are shaped in this way. -/
structure Describes (s : Shape) (shape : String → String) : Prop where
  nothing : ∀ t, s.SaysNothing t → shape t = s.nothing
  under : ∀ t, ¬ s.SaysNothing t → shape t = underHeading s.heading s.width t

variable {s : Shape} {shape : String → String} {t u : String}

theorem underHeading_ne (s : Shape) (t : String) :
    underHeading s.heading s.width t ≠ s.nothing := by
  intro h
  refine s.separate ?_
  rw [← h]
  simp only [underHeading, String.toList_append, List.append_assoc]
  exact List.prefix_append _ _

theorem underHeading_inj {heading : String} {width : Nat}
    (h : underHeading heading width t = underHeading heading width u) : t = u := by
  have hl := congrArg String.toList h
  simp only [underHeading, String.toList_append] at hl
  exact String.toList_injective (List.append_cancel_left hl)

theorem Describes.eq_nothing_iff (h : s.Describes shape) :
    shape t = s.nothing ↔ s.SaysNothing t := by
  refine ⟨fun ht => Classical.byContradiction fun hn => ?_, h.nothing t⟩
  exact s.underHeading_ne t ((h.under t hn).symm.trans ht)

theorem Describes.eq_iff (h : s.Describes shape) :
    shape t = shape u ↔ t = u ∨ s.SaysNothing t ∧ s.SaysNothing u := by
  constructor
  · intro heq
    by_cases ht : s.SaysNothing t
    · have hu : shape u = s.nothing := heq ▸ h.nothing t ht
      exact Or.inr ⟨ht, h.eq_nothing_iff.mp hu⟩
    · have hu : ¬ s.SaysNothing u := by
        intro hu
        exact ht (h.eq_nothing_iff.mp (heq.trans (h.nothing u hu)))
      rw [h.under t ht, h.under u hu] at heq
      exact Or.inl (underHeading_inj heq)
  · rintro (rfl | ⟨ht, hu⟩)
    · rfl
    · rw [h.nothing t ht, h.nothing u hu]

theorem describes_tree : tree.Describes shapeTree :=
  ⟨fun _ h => if_pos h, fun _ h => if_neg h⟩

theorem describes_tokens : tokens.Describes shapeTokens :=
  ⟨fun _ h => if_pos h, fun _ h => if_neg h⟩

theorem describes_ruby : ruby.Describes shapeRuby :=
  ⟨fun _ h => if_pos h, fun _ h => if_neg h⟩

theorem describes_html : html.Describes shapeHtml :=
  ⟨fun _ h => if_pos h, fun _ h => if_neg h⟩

end Shape

/-- How the text of a tab is shaped; the linter's is not. -/
def Tab.shape? : Tab → Option Shape
  | linter => none
  | parse => some .tree
  | lex => some .tokens
  | ruby => some .ruby
  | html => some .html

theorem get_outputs_of_shape {t : Tab} {s : Shape} (h : t.shape? = some s) :
    ∃ shape, s.Describes shape ∧ ∀ p : Payload, p.outputs.get t = shape (p.said t) := by
  cases t with
  | linter => cases h
  | parse =>
    cases h
    exact ⟨shapeTree, Shape.describes_tree, fun _ => rfl⟩
  | lex =>
    cases h
    exact ⟨shapeTokens, Shape.describes_tokens, fun _ => rfl⟩
  | ruby =>
    cases h
    exact ⟨shapeRuby, Shape.describes_ruby, fun _ => rfl⟩
  | html =>
    cases h
    exact ⟨shapeHtml, Shape.describes_html, fun _ => rfl⟩

theorem get_outputs_of_no_shape {t : Tab} (h : t.shape? = none) (p : Payload) :
    p.outputs.get t = p.said t := by
  cases t with
  | linter => rfl
  | parse | lex | ruby | html => cases h

theorem get_outputs_eq_iff (p q : Payload) (t : Tab) : p.outputs.get t = q.outputs.get t ↔
    p.said t = q.said t ∨
      ∃ s, t.shape? = some s ∧ s.SaysNothing (p.said t) ∧ s.SaysNothing (q.said t) := by
  cases ht : t.shape? with
  | none =>
    rw [get_outputs_of_no_shape ht, get_outputs_of_no_shape ht]
    simp
  | some s =>
    obtain ⟨shape, hs, hget⟩ := get_outputs_of_shape ht
    rw [hget p, hget q, hs.eq_iff]
    simp

/-- Two records are shown alike exactly if under each tab they have the same text or both say
nothing. The fixed text of a tab is shown exactly for what says nothing there, and any other text
ends what is shown, below an empty line. -/
theorem outputs_tell :
    (∀ p q : Payload, p.outputs = q.outputs ↔ ∀ t : Tab, p.said t = q.said t ∨
      ∃ s, t.shape? = some s ∧ s.SaysNothing (p.said t) ∧ s.SaysNothing (q.said t)) ∧
    ∀ (p : Payload) (t : Tab) (s : Shape), t.shape? = some s →
      (p.outputs.get t = s.nothing ↔ s.SaysNothing (p.said t)) ∧
      (¬ s.SaysNothing (p.said t) → ∃ above, p.outputs.get t = above ++ "\n\n" ++ p.said t) := by
  refine ⟨fun p q => ?_, fun p t s ht => ?_⟩
  · constructor
    · intro h t
      exact (get_outputs_eq_iff p q t).mp (by rw [h])
    · intro h
      exact Outputs.ext_get fun t => (get_outputs_eq_iff p q t).mpr (h t)
  · obtain ⟨shape, hs, hget⟩ := get_outputs_of_shape ht
    rw [hget p]
    refine ⟨hs.eq_nothing_iff, fun hn => ?_⟩
    rw [hs.under _ hn]
    exact ⟨_, rfl⟩

end LiveTemplate
