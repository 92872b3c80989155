import LiveTemplate.Proofs.Editor.InsertionPoint
import LiveTemplate.Screen

namespace LiveTemplate

namespace Input

/-- Control with `r` asks for an analysis now. -/
def refreshes : Input → Bool
  | .key k => k.motion ≠ .release && k.modifiers.control && k.code = .char 'r'
  | _ => false

/-- Control with `c` leaves, and so does `q` in the output pane. -/
def quits (focus : Focus) : Input → Bool
  | .key k => k.motion ≠ .release &&
      (k.modifiers.control && k.code = .char 'c' || focus = .output && k.code = .char 'q')
  | _ => false

end Input

namespace Session

/-- Two sessions that differ at most in what is in view. -/
structure SameWork (s t : Session) : Prop where
  text : t.editor.text = s.editor.text
  placed : s.editor.Placed → t.editor.Placed
  generation : t.generation = s.generation
  applied : t.applied = s.applied
  dispatched : t.dispatched = s.dispatched
  outputs : t.outputs = s.outputs
  inFlight : t.inFlight = s.inFlight
  status : t.status = s.status
  info : t.info = s.info
  quit : t.quit = s.quit

/-- What a session can make of an input. -/
inductive Reaction (s : Session) (now : Nat) (i : Input) : Session × List Effect → Prop where
  | leave (h : i.quits s.focus) : Reaction s now i s.leave
  | refresh (h : i.refreshes) : Reaction s now i (s.refresh now)
  | edit {e : Editor} (h : s.editor.Edit e) : Reaction s now i (s.edited e now)
  | view {t : Session} (h : s.SameWork t) : Reaction s now i (t, [])

theorem sameWork_view (s : Session) (focus : Focus) (tab : Tab) (scroll : Scroll)
    (size : Nat × Nat) (height : Nat) :
    s.SameWork { s with
      focus := focus
      tab := tab
      scroll := scroll
      size := size
      outputHeight := height } :=
  ⟨rfl, id, rfl, rfl, rfl, rfl, rfl, rfl, rfl, rfl⟩

theorem SameWork.refl (s : Session) : s.SameWork s :=
  ⟨rfl, id, rfl, rfl, rfl, rfl, rfl, rfl, rfl, rfl⟩

theorem sameWork_select (s : Session) (tab : Tab) : s.SameWork (s.select tab) := by
  unfold select
  split
  next => exact .refl s
  next => exact s.sameWork_view _ _ _ _ _

theorem sameWork_fit (s : Session) (size : Size) : s.SameWork (s.fit size) :=
  ⟨s.editor.text_scrollTo _, fun h => h.scrollTo _, rfl, rfl, rfl, rfl, rfl, rfl, rfl, rfl⟩

variable {s : Session} {now : Nat} {k : Key}

theorem reaction_outputChar {c : Char} (hk : k.motion ≠ .release) (hf : s.focus = .output)
    (hc : k.code = .char c) : s.Reaction now (.key k) (s.handleOutputChar c) := by
  unfold handleOutputChar
  by_cases hq : c = 'q'
  · rw [if_pos hq]
    exact .leave (by simp [Input.quits, hk, hf, hc, hq])
  · rw [if_neg hq]
    refine iteInduction (fun _ => .view (s.sameWork_select _)) fun _ => ?_
    refine iteInduction (fun _ => .view (s.sameWork_select _)) fun _ => ?_
    refine iteInduction (fun _ => .view (s.sameWork_view _ _ _ _ _)) fun _ => ?_
    refine iteInduction (fun _ => .view (s.sameWork_view _ _ _ _ _)) fun _ => ?_
    refine iteInduction (fun _ => .view (s.sameWork_view _ _ _ _ _)) fun _ => ?_
    refine iteInduction (fun _ => .view (s.sameWork_view _ _ _ _ _)) fun _ => ?_
    split
    next => exact .view (s.sameWork_select _)
    next => exact .view (.refl s)

theorem reaction_outputKey (hk : k.motion ≠ .release) (hf : s.focus = .output) :
    s.Reaction now (.key k) (s.handleOutputKey k) := by
  unfold handleOutputKey
  cases hc : k.code with
  | char c => exact reaction_outputChar hk hf hc
  | left | right => exact .view (s.sameWork_select _)
  | up | down | pageUp | pageDown | home | lineEnd => exact .view (s.sameWork_view _ _ _ _ _)
  | enter | backspace | delete | tab | backTab | escape | insert | null | function _ | other =>
    exact .view (.refl s)

theorem reaction_editorKey {i : Input} : s.Reaction now i (s.handleEditorKey k now) := by
  have ht : (s.editor.handleKey k).2 = false → (s.editor.handleKey k).1.text = s.editor.text :=
    s.editor.text_handleKey_of_unchanged k
  unfold handleEditorKey
  by_cases hc : (s.editor.handleKey k).2 = true
  · simp only [hc, if_true]
    exact .edit (.key hc)
  · simp only [hc]
    exact .view ⟨ht (by simpa using hc), fun hp => (hp.handleKey k).1, rfl, rfl, rfl, rfl, rfl,
      rfl, rfl, rfl⟩

theorem reaction_key (hk : k.motion ≠ .release) :
    s.Reaction now (.key k) (s.handleKey k now) := by
  unfold handleKey
  split
  next hc => exact .leave (by simp [Input.quits, hk, hc.1, hc.2])
  next =>
    split
    next hr => exact .refresh (by simp [Input.refreshes, hk, hr.1, hr.2])
    next =>
      split
      next => exact .view (s.sameWork_view _ _ _ _ _)
      next =>
        cases hf : s.focus with
        | editor => exact reaction_editorKey
        | output => exact reaction_outputKey hk hf

theorem reaction (s : Session) (i : Input) (now : Nat) :
    s.Reaction now i (s.handleInput i now) := by
  cases i with
  | key k =>
    unfold handleInput
    by_cases hk : k.motion = .release
    · simp only [hk, if_true]
      exact .view (.refl s)
    · simp only [hk, if_false]
      exact reaction_key hk
  | paste text =>
    unfold handleInput
    by_cases h : s.focus = .editor ∧ text ≠ ""
    · simp only [h, ne_eq, not_false_eq_true, and_self, if_true]
      exact .edit (.insert h.2)
    · simp only [h, if_false]
      exact .view (.refl s)
  | resize width height => exact .view (s.sameWork_view _ _ _ _ _)
  | other => exact .view (.refl s)

/-- What a session can make of an event. -/
inductive Answer (s : Session) : Event → Session × List Effect → Prop where
  | drop {r : Request}
      (outdated : r.generation ≠ s.generation ∨ s.dispatched = some r.generation) :
      Answer s (.fired r) (s, [])
  | launch {r : Request} (current : r.generation = s.generation)
      (fresh : s.dispatched ≠ some r.generation) : Answer s (.fired r) (s.dispatch r)
  | discard {r : Result} (outdated : r.generation ≠ s.generation) :
      Answer s (.completed r) ({ s with inFlight := s.inFlight - 1 }, [])
  | accept {r : Result} (current : r.generation = s.generation) :
      Answer s (.completed r) ({ s with inFlight := s.inFlight - 1 }.apply r, [])

theorem answer (s : Session) (e : Event) : s.Answer e (s.handleEvent e) := by
  cases e with
  | fired r =>
    unfold handleEvent
    dsimp only
    split
    next h => exact .drop h
    next h =>
      rw [not_or, Decidable.not_not] at h
      exact .launch h.1 h.2
  | completed r =>
    unfold handleEvent
    dsimp only
    split
    next h => exact .discard h
    next h => exact .accept (Decidable.not_not.mp h)

end Session
end LiveTemplate
