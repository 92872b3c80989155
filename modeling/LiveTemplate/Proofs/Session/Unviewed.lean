import LiveTemplate.Proofs.Session.Reaction

namespace LiveTemplate

namespace Editor

/-- The editor seen from its first row. -/
def unscrolled (e : Editor) : Editor := { e with top := 0 }

variable (e : Editor)

theorem unscrolled_insertChar (c : Char) :
    (e.insertChar c).unscrolled = e.unscrolled.insertChar c := by
  unfold insertChar
  rw [apply_ite unscrolled]
  rfl

theorem unscrolled_insert (s : String) : (e.insert s).unscrolled = e.unscrolled.insert s := by
  unfold insert
  dsimp only
  rw [apply_ite unscrolled]
  rfl

theorem unscrolled_backspace :
    (e.backspace.1.unscrolled, e.backspace.2) = e.unscrolled.backspace := by
  have hposition : e.unscrolled.position = e.position := rfl
  have hcolumn : e.unscrolled.column = e.column := rfl
  unfold backspace
  rw [hposition, hcolumn]
  dsimp only
  split
  next => rfl
  next => split <;> rfl

theorem unscrolled_delete : (e.delete.1.unscrolled, e.delete.2) = e.unscrolled.delete := by
  have htext : e.unscrolled.text = e.text := rfl
  have hposition : e.unscrolled.position = e.position := rfl
  unfold delete
  rw [htext, hposition]
  split <;> rfl

theorem unscrolled_moveLeft : e.moveLeft.unscrolled = e.unscrolled.moveLeft := by
  unfold moveLeft
  rw [apply_ite unscrolled, apply_ite unscrolled]
  rfl

theorem unscrolled_moveRight : e.moveRight.unscrolled = e.unscrolled.moveRight := by
  unfold moveRight
  rw [apply_ite unscrolled, apply_ite unscrolled]
  rfl

theorem unscrolled_moveToRow (row : Nat) :
    (e.moveToRow row).unscrolled = e.unscrolled.moveToRow row := by
  unfold moveToRow
  rw [apply_ite unscrolled]
  rfl

theorem unscrolled_moveUp : e.moveUp.unscrolled = e.unscrolled.moveUp := by
  unfold moveUp
  rw [apply_ite unscrolled, unscrolled_moveToRow]
  rfl

/-- The first row in view has no part in what a key does. -/
theorem unscrolled_handleKey (k : Key) :
    ((e.handleKey k).1.unscrolled, (e.handleKey k).2) = e.unscrolled.handleKey k := by
  unfold handleKey
  split
  next => rfl
  next =>
    cases k.code with
    | char c => exact congrArg (·, true) (e.unscrolled_insertChar c)
    | enter => exact congrArg (·, true) (e.unscrolled_insertChar '\n')
    | backspace => exact e.unscrolled_backspace
    | delete => exact e.unscrolled_delete
    | left => exact congrArg (·, false) e.unscrolled_moveLeft
    | right => exact congrArg (·, false) e.unscrolled_moveRight
    | up => exact congrArg (·, false) e.unscrolled_moveUp
    | down => exact congrArg (·, false) (e.unscrolled_moveToRow (e.row + 1))
    | home | lineEnd | pageUp | pageDown | tab | backTab | escape | insert | null | function _
    | other => rfl

end Editor

/-- An input that changes only what is in view: the terminal's size, a key let go, what else the
terminal tells, and a key for the output pane that does not leave the session. -/
def Input.isView (focus : Focus) : Input → Bool
  | .resize _ _ | .other => true
  | .paste _ => false
  | .key k => k.motion = .release ||
      focus = .output && k.code ≠ .tab && k.code ≠ .char 'q' &&
        !(k.modifiers.control && (k.code = .char 'c' || k.code = .char 'r'))

namespace Session

/-- The session with its view reset. -/
def unviewed (s : Session) : Session :=
  { s with
    editor := s.editor.unscrolled
    tab := .linter
    scroll := .top
    size := (0, 0)
    outputHeight := 0 }

/-- What a session becomes and asks for, without its view. -/
def blind (p : Session × List Effect) : Session × List Effect := (p.1.unviewed, p.2)

variable (s : Session) (now : Nat)

theorem unviewed_select (tab : Tab) : (s.select tab).unviewed = s.unviewed := by
  unfold select
  split <;> rfl

theorem unviewed_fit (size : Size) : (s.fit size).unviewed = s.unviewed := by
  have htop : (s.editor.scrollTo size.leftPane.box.inside.height).unscrolled =
      s.editor.unscrolled := by
    obtain ⟨top, h⟩ := s.editor.exists_scrollTo size.leftPane.box.inside.height
    rw [h]
    rfl
  exact congrArg (fun e => { s.unviewed with editor := e }) htop

theorem blind_outputChar {c : Char} (hc : c ≠ 'q') :
    blind (s.handleOutputChar c) = (s.unviewed, []) := by
  have select : ∀ tab, blind (s.select tab, []) = (s.unviewed, []) :=
    fun tab => congrArg (·, []) (s.unviewed_select tab)
  unfold handleOutputChar
  rw [if_neg hc]
  split
  next => exact select _
  split
  next => exact select _
  split
  next => rfl
  split
  next => rfl
  split
  next => rfl
  split
  next => rfl
  split
  next => exact select _
  next => rfl

theorem blind_outputKey {k : Key} (hk : k.code ≠ .char 'q') :
    blind (s.handleOutputKey k) = (s.unviewed, []) := by
  unfold handleOutputKey
  cases hc : k.code with
  | char c =>
    rw [hc] at hk
    exact s.blind_outputChar fun he => hk (congrArg KeyCode.char he)
  | left | right => exact congrArg (·, []) (s.unviewed_select _)
  | up | down | pageUp | pageDown | home | lineEnd | enter | backspace | delete | tab | backTab
  | escape | insert | null | function _ | other => rfl

theorem blind_outputKey_of_q {k : Key} (hk : k.code = .char 'q') :
    blind (s.handleOutputKey k) = s.unviewed.leave := by
  unfold handleOutputKey handleOutputChar
  rw [hk]
  rfl

theorem blind_schedule : blind (s.schedule now) = blind (s.unviewed.schedule now) := by
  have hsnapshot : s.unviewed.snapshot now = s.snapshot now := rfl
  unfold schedule
  rw [hsnapshot]
  dsimp only
  split <;> rfl

theorem blind_refresh : blind (s.refresh now) = blind (s.unviewed.refresh now) := by
  have hsnapshot : s.unviewed.snapshot now = s.snapshot now := rfl
  unfold refresh
  rw [hsnapshot]
  dsimp only
  split <;> rfl

theorem blind_edited (e : Editor) :
    blind (s.edited e now) = blind (s.unviewed.edited e.unscrolled now) := by
  have h := blind_schedule { s with editor := e, generation := s.generation + 1 } now
  have h' := blind_schedule
    { s.unviewed with editor := e.unscrolled, generation := s.generation + 1 } now
  exact h.trans h'.symm

theorem blind_editorKey (k : Key) :
    blind (s.handleEditorKey k now) = blind (s.unviewed.handleEditorKey k now) := by
  have hkey : s.unviewed.editor.handleKey k =
      ((s.editor.handleKey k).1.unscrolled, (s.editor.handleKey k).2) :=
    (s.editor.unscrolled_handleKey k).symm
  unfold handleEditorKey
  rw [hkey]
  dsimp only
  split
  next => exact s.blind_edited now _
  next => rfl

theorem blind_key (k : Key) :
    blind (s.handleKey k now) = blind (s.unviewed.handleKey k now) := by
  have hfocus : s.unviewed.focus = s.focus := rfl
  unfold handleKey
  rw [hfocus]
  split
  next => rfl
  split
  next => exact s.blind_refresh now
  split
  next => rfl
  cases s.focus with
  | editor => exact s.blind_editorKey now k
  | output =>
    by_cases hk : k.code = .char 'q'
    · exact (s.blind_outputKey_of_q hk).trans (s.unviewed.blind_outputKey_of_q hk).symm
    · exact (s.blind_outputKey hk).trans (s.unviewed.blind_outputKey hk).symm

/-- The view has no part in what a session does with an input. -/
theorem blind_input (i : Input) :
    blind (s.handleInput i now) = blind (s.unviewed.handleInput i now) := by
  unfold handleInput
  cases i with
  | key k =>
    dsimp only
    split
    next => rfl
    next => exact s.blind_key now k
  | paste text =>
    have hfocus : s.unviewed.focus = s.focus := rfl
    dsimp only
    rw [hfocus]
    split
    next =>
      have hinsert : s.unviewed.editor.insert text = (s.editor.insert text).unscrolled :=
        (s.editor.unscrolled_insert text).symm
      rw [hinsert]
      exact s.blind_edited now _
    next => rfl
  | resize width height => rfl
  | other => rfl

theorem blind_event (e : Event) : blind (s.handleEvent e) = blind (s.unviewed.handleEvent e) := by
  unfold handleEvent
  cases e with
  | fired r =>
    have hgeneration : s.unviewed.generation = s.generation := rfl
    have hdispatched : s.unviewed.dispatched = s.dispatched := rfl
    dsimp only
    rw [hgeneration, hdispatched]
    split <;> rfl
  | completed r =>
    have hgeneration : s.unviewed.generation = s.generation := rfl
    dsimp only
    rw [hgeneration]
    split <;> rfl

/-- An input that changes only what is in view asks for nothing. -/
theorem blind_of_isView {s : Session} {i : Input} (h : i.isView s.focus) :
    blind (s.handleInput i now) = (s.unviewed, []) := by
  unfold handleInput
  cases i with
  | key k =>
    dsimp only
    split
    next => rfl
    next hmotion =>
      simp only [Input.isView, hmotion, Bool.or_eq_true, Bool.and_eq_true, decide_eq_true_eq,
        Bool.not_eq_true', Bool.and_eq_false_iff, Bool.or_eq_false_iff, decide_eq_false_iff_not,
        false_or] at h
      obtain ⟨⟨⟨hfocus, htab⟩, hq⟩, hchord⟩ := h
      have hplain : ∀ c, c = 'c' ∨ c = 'r' → ¬ (k.modifiers.control ∧ k.code = .char c) := by
        rintro c hc ⟨hcontrol, hcode⟩
        rcases hchord with hno | ⟨hnotc, hnotr⟩
        · rw [hcontrol] at hno
          cases hno
        · rcases hc with rfl | rfl
          · exact hnotc hcode
          · exact hnotr hcode
      unfold handleKey
      rw [if_neg (hplain 'c' (Or.inl rfl)), if_neg (hplain 'r' (Or.inr rfl)), if_neg htab, hfocus]
      exact s.blind_outputKey hq
  | paste text => cases h
  | resize width height => rfl
  | other => rfl

end Session
end LiveTemplate
