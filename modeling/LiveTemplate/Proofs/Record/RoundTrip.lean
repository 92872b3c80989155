import LiveTemplate.Proofs.Record.Fields
import LiveTemplate.Proofs.Record.Writing
import LiveTemplate.Proofs.Text.Utf8
import LiveTemplate.Tool.Verdict

namespace LiveTemplate.Record

variable {p q w : Payload} {seen : List Field} {f : Field} {m : Member} {ms : List Member}
  {s r : List Char} {c : Char}

theorem Field.ofName?_eq_some_iff {t : List Char} :
    Field.ofName? t = some f ↔ t = f.name.toList := by
  constructor
  · intro h
    have hfound := List.find?_some h
    exact (of_decide_eq_true hfound).symm
  · rintro rfl
    cases f <;> decide

theorem Field.ofName?_eq_none_iff {t : List Char} :
    Field.ofName? t = none ↔ ∀ f : Field, t ≠ f.name.toList := by
  constructor
  · intro h f hf
    rw [Field.ofName?_eq_some_iff.mpr hf] at h
    cases h
  · intro h
    cases hname : Field.ofName? t with
    | none => rfl
    | some f => exact absurd (Field.ofName?_eq_some_iff.mp hname) (h f)

theorem Field.name_injective {f g : Field} (h : f.name.toList = g.name.toList) : f = g := by
  have hf := Field.ofName?_eq_some_iff.mpr h
  rw [Field.ofName?_eq_some_iff.mpr rfl] at hf
  exact Option.some.inj hf

theorem Member.given_cons_of_eq (h : m.name = f.name.toList) :
    given (m :: ms) f = m.value :: given ms f := by
  rw [given, List.filter_cons_of_pos (by simp [h]), List.map_cons, given]

theorem Member.given_cons_of_ne (h : m.name ≠ f.name.toList) : given (m :: ms) f = given ms f := by
  rw [given, List.filter_cons_of_neg (by simp [h]), given]

theorem Member.given_cons_of_other {g : Field} (h : m.name = f.name.toList) (hg : g ≠ f) :
    given (m :: ms) g = given ms g :=
  given_cons_of_ne fun hn => hg (Field.name_injective (hn.symm.trans h))

theorem scanString_afterQuote (m : Member) (s : List Char) :
    scanString (m.afterQuote ++ s) = .ok (m.name,
      m.afterKey.text ++ ':' :: (m.beforeValue.text ++ (m.value.text ++ (m.after.text ++ s)))) := by
  rw [Member.afterQuote, List.append_assoc, List.append_assoc, scanString_quoted m.spells]
  simp only [List.cons_append, List.append_assoc]

/-- A member under a name of no field is passed over. -/
theorem scanMember_unknown (hname : Field.ofName? m.name = none) (hc : FollowsValue c)
    (p : Payload) (seen : List Field) (s : List Char) :
    scanMember p seen (m.afterQuote ++ c :: s) = .ok ((p, seen), m.after.text ++ c :: s) := by
  have hskip := skipValue_text m.beforeValue m.value (endsNumber_space_append m.after hc s)
  simp only [scanMember, scanString_afterQuote, hname, scanColon_text, Except.bind, hskip]

/-- A field that was read before is a fault. -/
theorem scanMember_seen (hname : Field.ofName? m.name = some f) (hf : f ∈ seen) (p : Payload)
    (s : List Char) : ∃ fault, scanMember p seen (m.afterQuote ++ s) = .error fault := by
  simp only [scanMember, scanString_afterQuote, hname, if_pos hf]
  exact ⟨_, rfl⟩

theorem scanMember_known (hname : Field.ofName? m.name = some f) (hf : f ∉ seen) (p : Payload)
    (s : List Char) : scanMember p seen (m.afterQuote ++ s) =
      (scanField p f (m.beforeValue.text ++ (m.value.text ++ (m.after.text ++ s)))).map
        fun r => ((r.1, f :: seen), r.2) := by
  simp only [scanMember, scanString_afterQuote, hname, if_neg hf, scanColon_text]

theorem nextKey_first (sp : Space) (s : List Char) :
    nextKey true (sp.text ++ '"' :: s) = .ok (some s, s) := by
  rw [nextKey, skipSpace_space_cons (by decide)]
  rfl

theorem nextKey_comma (sp sp' : Space) (s : List Char) :
    nextKey false (sp.text ++ ',' :: (sp'.text ++ '"' :: s)) = .ok (some s, s) := by
  rw [nextKey, skipSpace_space_cons (by decide)]
  simp only [skipSpace_space_cons (show isSpace '"' = false by decide)]
  rfl

theorem nextKey_brace (first : Bool) (sp : Space) (s : List Char) :
    nextKey first (sp.text ++ '\x7d' :: s) = .ok (none, s) := by
  rw [nextKey, skipSpace_space_cons (by decide)]
  exact if_pos rfl

theorem scanMembers_of_none {first : Bool} (h : nextKey first s = .ok (none, r)) :
    scanMembers first p seen s = .ok (p, r) := by
  rw [scanMembers.eq_def, h]

theorem scanMembers_of_some {first : Bool} {t : List Char} (h : nextKey first s = .ok (some t, r)) :
    scanMembers first p seen s =
      (scanMember p seen t).bind fun x => scanMembers false x.1.1 x.1.2 x.2 := by
  rw [scanMembers.eq_def, h]
  dsimp only
  cases scanMember p seen t <;> rfl

theorem Member.following_cons (m : Member) (ms : List Member) (s : List Char) :
    following (m :: ms) ++ s =
      ',' :: (m.before.text ++ '"' :: (m.afterQuote ++ (following ms ++ s))) := by
  simp [following, Member.text]

theorem Member.textOf_cons (m : Member) (ms : List Member) (s : List Char) :
    textOf (m :: ms) ++ s = m.before.text ++ '"' :: (m.afterQuote ++ (following ms ++ s)) := by
  simp [textOf, Member.text]

theorem Member.exists_following (ms : List Member) (s : List Char) :
    ∃ c r, following ms ++ '\x7d' :: s = c :: r ∧ FollowsValue c := by
  cases ms with
  | nil => exact ⟨_, s, rfl, Or.inr (Or.inr rfl)⟩
  | cons m ms => exact ⟨_, _, following_cons m ms _, Or.inl rfl⟩

/-- These members complete a record `p` to the record `w`: they give what `p` has not got. -/
def Completes (ms : List Member) (seen : List Field) (p w : Payload) : Prop :=
  ∀ f, (Member.given ms f = [] ∧ content p f = content w f) ∨
    f ∉ seen ∧ ∃ v, Member.given ms f = [v] ∧ v.Means (content w f)

theorem Completes.eq (h : Completes [] seen p w) : p = w := by
  refine eq_of_content fun f => ?_
  rcases h f with ⟨-, hf⟩ | ⟨-, v, hv, -⟩
  · exact hf
  · cases hv

theorem Completes.scanMember (h : Completes (m :: ms) seen p w) (hc : FollowsValue c)
    (s : List Char) : ∃ q seen', Record.scanMember p seen (m.afterQuote ++ c :: s) =
      .ok ((q, seen'), m.after.text ++ c :: s) ∧ Completes ms seen' q w := by
  cases hname : Field.ofName? m.name with
  | none =>
    have hgiven := Field.ofName?_eq_none_iff.mp hname
    refine ⟨p, seen, scanMember_unknown hname hc p seen s, fun f => ?_⟩
    have hf := h f
    rwa [Member.given_cons_of_ne (hgiven f)] at hf
  | some f =>
    have hf := Field.ofName?_eq_some_iff.mp hname
    obtain ⟨hseen, hms, hmeans⟩ : f ∉ seen ∧ Member.given ms f = [] ∧
        m.value.Means (content w f) := by
      have hgiven := h f
      rw [Member.given_cons_of_eq hf] at hgiven
      rcases hgiven with ⟨hnil, -⟩ | ⟨hseen, v, hv, hmeans⟩
      · cases hnil
      · obtain ⟨rfl, hnil⟩ := List.cons.inj hv
        exact ⟨hseen, hnil, hmeans⟩
    obtain ⟨q, hread, hq⟩ := scanField_text hmeans p m.beforeValue
      (endsNumber_space_append m.after hc s)
    -- What this member gave is in the record now, and the later ones do not give it again.
    refine ⟨q, f :: seen, ?_, fun g => ?_⟩
    · rw [scanMember_known hname hseen, hread]
      rfl
    · by_cases hg : g = f
      · subst hg
        exact Or.inl ⟨hms, hq⟩
      · have hgiven := h g
        rw [Member.given_cons_of_other hf hg, ← content_of_scanField hread hg] at hgiven
        rcases hgiven with hleft | ⟨hseen', hv⟩
        · exact Or.inl hleft
        · exact Or.inr ⟨by simp [hg, hseen'], hv⟩

/-- The rest of an object, read to its brace. -/
theorem Completes.scanMembers (h : Completes ms seen p w) (sp : Space) (s : List Char) :
    Record.scanMembers false p seen (sp.text ++ (Member.following ms ++ '\x7d' :: s)) =
      .ok (w, s) := by
  induction ms generalizing seen p sp with
  | nil =>
    rw [← h.eq]
    exact scanMembers_of_none (nextKey_brace false sp s)
  | cons m ms ih =>
    -- What follows a member ends a number, be it a comma or the brace.
    obtain ⟨c, r, hnext, hc⟩ := Member.exists_following ms s
    obtain ⟨q, seen', hread, hrest⟩ := h.scanMember hc r
    rw [Member.following_cons, scanMembers_of_some (nextKey_comma sp m.before _), hnext, hread,
      ← hnext]
    exact ih hrest m.after

/-- No field is given twice, nor one that was read before. -/
def Once (ms : List Member) (seen : List Field) : Prop :=
  ∀ f, (Member.given ms f).length ≤ 1 ∧ (f ∈ seen → Member.given ms f = [])

theorem once_of_scanMember {seen' : List Field} (hc : FollowsValue c)
    (h : scanMember p seen (m.afterQuote ++ c :: s) = .ok ((q, seen'), r)) :
    r = m.after.text ++ c :: s ∧ ∀ ms, Once ms seen' → Once (m :: ms) seen := by
  cases hname : Field.ofName? m.name with
  | none =>
    have hgiven := Field.ofName?_eq_none_iff.mp hname
    rw [scanMember_unknown hname hc] at h
    cases h
    refine ⟨rfl, fun ms hms f => ?_⟩
    rw [Member.given_cons_of_ne (hgiven f)]
    exact hms f
  | some f =>
    have hf := Field.ofName?_eq_some_iff.mp hname
    by_cases hseen : f ∈ seen
    · obtain ⟨fault, hfault⟩ := scanMember_seen hname hseen p (c :: s)
      rw [hfault] at h
      cases h
    · rw [scanMember_known hname hseen] at h
      obtain ⟨x, hx, he⟩ := map_ok h
      cases he
      -- The value may be of any kind: where it was read at all, it was read to its end.
      refine ⟨eq_of_scanField (endsNumber_space_append m.after hc s) hx, fun ms hms g => ?_⟩
      by_cases hg : g = f
      · subst hg
        have hnil := (hms g).2 List.mem_cons_self
        rw [Member.given_cons_of_eq hf, hnil]
        exact ⟨Nat.le_refl 1, fun hg => absurd hg hseen⟩
      · rw [Member.given_cons_of_other hf hg]
        exact ⟨(hms g).1, fun hmem => (hms g).2 (List.mem_cons_of_mem f hmem)⟩

theorem once_nil (seen : List Field) : Once [] seen := fun _ => ⟨Nat.zero_le 1, fun _ => rfl⟩

/-- Where a member and the rest of its object are read, and the rest has each field once, so have
both. -/
theorem once_cons_of_read {x : Payload × List Char}
    (h : ((scanMember p seen (m.afterQuote ++ (Member.following ms ++ '\x7d' :: s))).bind
      fun y => scanMembers false y.1.1 y.1.2 y.2) = .ok x)
    (hrest : ∀ q seen', scanMembers false q seen' (m.after.text ++
      (Member.following ms ++ '\x7d' :: s)) = .ok x → Once ms seen') : Once (m :: ms) seen := by
  obtain ⟨c, r, hnext, hc⟩ := Member.exists_following ms s
  rw [hnext] at h
  cases hread : scanMember p seen (m.afterQuote ++ c :: r) with
  | error fault =>
    rw [hread] at h
    cases h
  | ok y =>
    obtain ⟨⟨q, seen'⟩, r'⟩ := y
    obtain ⟨rfl, honce⟩ := once_of_scanMember hc hread
    rw [hread, ← hnext] at h
    exact honce ms (hrest q seen' h)

theorem once_of_scanMembers {sp : Space} {x : Payload × List Char}
    (h : scanMembers false p seen (sp.text ++ (Member.following ms ++ '\x7d' :: s)) = .ok x) :
    Once ms seen := by
  induction ms generalizing seen p sp with
  | nil => exact once_nil seen
  | cons m ms ih =>
    rw [Member.following_cons, scanMembers_of_some (nextKey_comma sp m.before _)] at h
    exact once_cons_of_read h fun _ _ => ih

theorem scanRecord_text (d : Document) : scanRecord d.text = scanMembers true .empty []
    (d.inside.text ++ (Member.textOf d.members ++ '\x7d' :: d.after.text)) := by
  rw [scanRecord, Document.text, skipSpace_space_cons (by decide), List.append_assoc]
  rfl

theorem scanMembers_textOf (sp : Space) (m : Member) (ms : List Member) (s : List Char) :
    scanMembers true p seen (sp.text ++ (Member.textOf (m :: ms) ++ s)) =
      (scanMember p seen (m.afterQuote ++ (Member.following ms ++ s))).bind
        fun x => scanMembers false x.1.1 x.1.2 x.2 := by
  have htext : sp.text ++ (Member.textOf (m :: ms) ++ s) = Space.text (sp ++ m.before) ++
      '"' :: (m.afterQuote ++ (Member.following ms ++ s)) := by
    rw [Member.textOf_cons, Space.text, Space.text, Space.text, List.map_append, List.append_assoc]
  rw [htext, scanMembers_of_some (nextKey_first _ _)]

theorem scanRecord_of_writes {d : Document} (h : d.Writes p) :
    scanRecord d.text = .ok (p, d.after.text) := by
  have hall : Completes d.members [] .empty p := by
    intro f
    rcases h f with ⟨v, hv, hmeans⟩ | ⟨hnil, hempty⟩
    · exact Or.inr ⟨List.not_mem_nil, v, hv, hmeans⟩
    · exact Or.inl ⟨hnil, hempty.symm⟩
  rw [scanRecord_text]
  cases hms : d.members with
  | nil =>
    rw [hms] at hall
    rw [← hall.eq]
    exact scanMembers_of_none (nextKey_brace true d.inside d.after.text)
  | cons m ms =>
    rw [hms] at hall
    obtain ⟨c, r, hnext, hc⟩ := Member.exists_following ms d.after.text
    obtain ⟨q, seen, hread, hrest⟩ := hall.scanMember hc r
    rw [scanMembers_textOf, hnext, hread, ← hnext]
    exact hrest.scanMembers m.after d.after.text

theorem once_of_scanRecord {d : Document} {x : Payload × List Char}
    (h : scanRecord d.text = .ok x) : Once d.members [] := by
  rw [scanRecord_text] at h
  cases hms : d.members with
  | nil => exact once_nil []
  | cons m ms =>
    rw [hms, scanMembers_textOf] at h
    exact once_cons_of_read h fun _ _ => once_of_scanMembers

theorem decode_of_writes {d : Document} (h : d.Writes p) : decode d.text = .ok p := by
  simp only [decode, scanRecord_of_writes h, skipSpace_space]

theorem decode_of_repeated {d : Document} (h : 1 < (d.given f).length) :
    ∃ fault, decode d.text = .error fault := by
  cases hread : scanRecord d.text with
  | error fault => exact ⟨fault, by simp only [decode, hread]⟩
  | ok x => exact absurd h (Nat.not_lt.mpr (once_of_scanRecord hread f).1)

theorem isWhite_blank (b : Blank) : isWhite b.char = true := by
  cases b <;> rfl

theorem isWhite_of_mem_space {sp : Space} (h : c ∈ sp.text) : isWhite c = true := by
  obtain ⟨b, -, rfl⟩ := List.mem_map.mp h
  exact isWhite_blank b

/-- An object without the space around it. -/
def Document.bare (d : Document) : Document := { d with before := [], after := [] }

theorem trimWhite_text (d : Document) : trimWhite d.text = d.bare.text := by
  have hend : d.inside.text ++ Member.textOf d.members ++ '\x7d' :: d.after.text =
      d.inside.text ++ Member.textOf d.members ++ ['\x7d'] ++ d.after.text := by simp
  rw [trimWhite, Document.text, List.dropWhile_append_of_pos fun _ => isWhite_of_mem_space,
    List.dropWhile_cons_of_neg (by decide), hend, ← List.cons_append, List.reverse_append,
    List.dropWhile_append_of_pos fun c hc => isWhite_of_mem_space (List.mem_reverse.mp hc),
    ← List.cons_append, List.reverse_append, List.reverse_singleton, List.singleton_append,
    List.dropWhile_cons_of_neg (by decide), List.reverse_cons, List.reverse_reverse]
  rfl

theorem verdict_of_writes {d : Document} (h : d.Writes p) (errors : List UInt8) :
    verdict (.exited 0) (utf8 d.text) errors = .ok p := by
  have hread : decode d.bare.text = .ok p := decode_of_writes h
  simp only [verdict, decodeUtf8Lossy_utf8, trimWhite_text, hread]
  rfl

theorem verdict_of_repeated {d : Document} (h : 1 < (d.given f).length) (errors : List UInt8) :
    ∃ message shown, verdict (.exited 0) (utf8 d.text) errors =
      .error (.malformed message shown) := by
  obtain ⟨fault, hread⟩ : ∃ fault, decode d.bare.text = .error fault := decode_of_repeated h
  simp only [verdict, decodeUtf8Lossy_utf8, trimWhite_text, hread]
  exact ⟨_, _, rfl⟩

namespace Document

/-- Two fields around a member that is none. -/
def sample : Document where
  before := []
  inside := []
  members := [
    Member.of .success (.bool true),
    { before := [.lineFeed]
      key := "rules".toList.map Glyph.of
      name := "rules".toList
      spells := spells_map_of "rules".toList
      afterKey := [.tab]
      beforeValue := [.space]
      value := .full .list (.more (.element []) (.number ⟨true, .zero, none, none⟩) []
        (.last (.element []) (.empty .object [.space]) []))
      after := [] },
    Member.of .error (.string [.unit (.of 0xd83d), .unit (.of 0xde00)])]
  after := [.carriageReturn, .lineFeed]

def sampleRecord : Payload := { Payload.empty with success := true, error := some "😀" }

theorem writes_sample : sample.Writes sampleRecord := by
  have hpair : Spells [.unit (.of 0xd83d), .unit (.of 0xde00)] "😀".toList :=
    spells_pair_cons (c := '😀') (by decide) Spells.nil
  intro f
  cases f
  case success => exact Or.inl ⟨.bool true, rfl, .bool true⟩
  case error => exact Or.inl ⟨_, rfl, .string hpair⟩
  all_goals exact Or.inr ⟨rfl, rfl⟩

/-- An object that gives a field twice, the second time under an escaped name. -/
def repeating : Document where
  before := []
  inside := []
  members := [
    Member.of .lex (.string []),
    { Member.of .lex .null with
      key := .unit (.of 'l'.toNat) :: "ex".toList.map Glyph.of
      spells := spells_unit_cons (by decide) (spells_map_of "ex".toList) }]
  after := []

end Document

/-- Whichever way a record is written, with other members among its fields or some fields left out,
it is read back, also from the bytes of an analyzer's output. An object that gives a field twice
does not write a record. -/
theorem decode_undoes_writing :
    (∀ (d : Document) (p : Payload), d.Writes p → decode d.text = .ok p ∧
      ∀ errors, verdict (.exited 0) (utf8 d.text) errors = .ok p) ∧
    ∀ (d : Document) (f : Field), 1 < (d.given f).length →
      (∃ fault, decode d.text = .error fault) ∧ ∀ errors, ∃ message shown,
        verdict (.exited 0) (utf8 d.text) errors = .error (.malformed message shown) :=
  ⟨fun _ _ h => ⟨decode_of_writes h, verdict_of_writes h⟩,
    fun _ _ h => ⟨decode_of_repeated h, verdict_of_repeated h⟩⟩

theorem decode_undoes_writing_sample :
    (Document.sample.text =
        ("\x7b\"success\":true,\n\"rules\"\t: [-0,\x7b \x7d],\"error\":\"\\ud83d\\ude00\"" ++
          "\x7d\r\n").toList ∧
      decode Document.sample.text = .ok Document.sampleRecord) ∧
    Document.repeating.text = "\x7b\"lex\":\"\",\"\\u006cex\":null\x7d".toList ∧
      ∃ fault, decode Document.repeating.text = .error fault :=
  ⟨⟨by decide, (decode_undoes_writing.1 Document.sample Document.sampleRecord
      Document.writes_sample).1⟩,
    by decide, (decode_undoes_writing.2 Document.repeating .lex (by decide)).1⟩

end LiveTemplate.Record
