import Mathlib.Data.List.Chain
import LiveLint.Proofs.Json.RoundTrip
import LiveLint.Text.Encoding

/-!
# Texts in what is read

What a process prints holds no halves of surrogate pairs once it is decoded (`whole_decode`). So a
half in a text that is read from it stands for an escape, and the reader has joined it with the
other half if that is the next escape: every text in the value is joined (`coherent_read`).
-/

namespace LiveLint

/-! ## Decoded output -/

/-- No code point of the text is half of a surrogate pair. -/
def Text.Whole (t : Text) : Prop := ∀ c ∈ t, c.isSurrogate = false

namespace CodePoint

/-- The second half of a pair is a surrogate. -/
theorem not_low_of_whole {c : CodePoint} (h : c.isSurrogate = false) :
    c.isLowSurrogate = false := by
  simp only [isSurrogate, isLowSurrogate, Bool.and_eq_false_iff, decide_eq_false_iff_not] at h ⊢
  omega

/-- The first half of a pair is a surrogate. -/
theorem not_high_of_whole {c : CodePoint} (h : c.isSurrogate = false) :
    c.isHighSurrogate = false := by
  simp only [isSurrogate, isHighSurrogate, Bool.and_eq_false_iff, decide_eq_false_iff_not] at h ⊢
  omega

/-- No code point outside the range of the surrogates is one. -/
theorem isSurrogate_ofNat {n : Nat} (h : ¬ (0xD800 ≤ n ∧ n ≤ 0xDFFF)) :
    (ofNat n).isSurrogate = false := by
  unfold ofNat
  split
  · simpa [isSurrogate] using h
  · rfl

/-- A pair stands for no surrogate. -/
theorem isSurrogate_ofSurrogates (high low : CodePoint) :
    (ofSurrogates high low).isSurrogate = false := isSurrogate_ofNat (by omega)

end CodePoint

namespace Utf8

/-- However the code point goes on, it will be no surrogate. -/
structure Begun.Whole (b : Begun) : Prop where
  owed : 1 ≤ b.owed
  low : 0x80 ≤ b.low
  high : b.high ≤ 0xBF
  whole : ∀ v, v / 64 ^ b.owed = b.bits → b.low ≤ 0x80 + v / 64 ^ (b.owed - 1) % 64 →
    0x80 + v / 64 ^ (b.owed - 1) % 64 ≤ b.high → ¬ (0xD800 ≤ v ∧ v ≤ 0xDFFF)

end Utf8

/-! ## Values with joined texts -/

namespace Json

/-- A value that can be read, in which every text is joined. -/
inductive Coherent : Value → Prop
  | null : Coherent .null
  | bool (b : Bool) : Coherent (.bool b)
  | int (n : Int) : Coherent (.int n)
  | float (x : Double) : Coherent (.float x)
  | text {t : Text} (h : t.Joined) : Coherent (.text t)
  | list {items : List Value} (h : ∀ v ∈ items, Coherent v) : Coherent (.list items)
  | table {entries : Table} (h : ∀ p ∈ entries, Coherent p.2) : Coherent (.table entries)

/-- The values of a table are coherent. -/
def CoherentTable (entries : Table) : Prop := ∀ p ∈ entries, Coherent p.2

/-- A coherent value under any key leaves the table coherent. -/
theorem CoherentTable.insert {entries : Table} (h : CoherentTable entries) {v : Value}
    (hv : Coherent v) (key : Text) : CoherentTable (Table.insert key v entries) := by
  intro p hp
  rcases Table.mem_insert hp with heq | hmem
  · exact heq ▸ hv
  · exact h p hmem

/-- The values that an open list or table holds so far are coherent. -/
def CoherentFrame : Frame → Prop
  | .list items => ∀ v ∈ items, Coherent v
  | .table entries _ => CoherentTable entries

/-- A text that is read from its end on is joined. -/
def JoinedBack (t : Text) : Prop :=
  t.IsChain fun b a => ¬ (a.isHighSurrogate = true ∧ b.isLowSurrogate = true)

/-- What is joined from its end on is joined. -/
theorem JoinedBack.joined {t : Text} (h : JoinedBack t) : Text.Joined t.reverse :=
  List.isChain_reverse.2 h

/-- A code point may follow unless it completes a pair. -/
theorem JoinedBack.cons {t : Text} (h : JoinedBack t) {c : CodePoint}
    (hapart : ∀ b rest, t = b :: rest → b.isHighSurrogate = true → c.isLowSurrogate = false) :
    JoinedBack (c :: t) := by
  refine List.isChain_cons.2 ⟨fun b hb => ?_, h⟩
  obtain ⟨rest, rfl⟩ := List.head?_eq_some_iff.1 hb
  rintro ⟨hhigh, hlow⟩
  rw [hapart b rest rfl hhigh] at hlow
  cases hlow

/-- The string is joined so far, and a first half at its end is known to be there. -/
structure CoherentString (s : StringState) : Prop where
  entries : ∀ entries, s.purpose = .key entries → CoherentTable entries
  joined : JoinedBack s.read
  pending : ∀ c rest, s.read = c :: rest → c.isHighSurrogate = true → s.pendingHigh = true

/-- What the place in the text holds is coherent. -/
def CoherentPlace : Place → Prop
  | .key entries | .colon entries _ => CoherentTable entries
  | .string s => CoherentString s
  | .literal _ v => Coherent v
  | _ => True

/-- All that was read so far is coherent. -/
structure CoherentReader (r : Reader) : Prop where
  frames : ∀ f ∈ r.stack, CoherentFrame f
  result : ∀ v, r.result = some v → Coherent v
  place : CoherentPlace r.place

open Reader

variable {r : Reader} {c : CodePoint}

/-- Nothing that was read at the start is out of place. -/
theorem coherent_start : CoherentReader start := ⟨nofun, nofun, trivial⟩

/-- The reader at another place. -/
theorem CoherentReader.at (h : CoherentReader r) {place : Place} (hplace : CoherentPlace place) :
    CoherentReader { r with place } := ⟨h.frames, h.result, hplace⟩

/-- Leaving a list or a table leaves what is around it coherent. -/
theorem CoherentReader.pop (h : CoherentReader r) {f : Frame} {rest : List Frame}
    (hstack : r.stack = f :: rest) (place : Place) (hplace : CoherentPlace place) :
    CoherentReader ⟨rest, r.result, place⟩ :=
  ⟨fun g hg => h.frames g (hstack ▸ List.mem_cons_of_mem f hg), h.result, hplace⟩

/-- A new list or table has nothing in it yet that could be out of place. -/
theorem CoherentReader.open (h : CoherentReader r) {f : Frame} (hf : CoherentFrame f)
    {place : Place} (hplace : CoherentPlace place) :
    CoherentReader ⟨f :: r.stack, r.result, place⟩ :=
  ⟨List.forall_mem_cons.2 ⟨hf, h.frames⟩, h.result, hplace⟩

/-- A coherent value can be put where it belongs. -/
theorem CoherentReader.push (h : CoherentReader r) {v : Value} (hv : Coherent v) :
    CoherentReader (r.push v) := by
  unfold Reader.push
  split
  case h_1 => exact ⟨nofun, fun w hw => by cases hw; exact hv, trivial⟩
  case h_2 items rest hstack =>
    have hitems : ∀ w ∈ items, Coherent w := h.frames (.list items) (hstack ▸ List.mem_cons_self)
    have hmore : CoherentFrame (.list (v :: items)) := List.forall_mem_cons.2 ⟨hv, hitems⟩
    exact (h.pop hstack .after trivial).open hmore trivial
  case h_3 entries key rest hstack =>
    have hentries : CoherentTable entries :=
      h.frames (.table entries key) (hstack ▸ List.mem_cons_self)
    have hmore : CoherentFrame (.table (Table.insert key v entries) key) := hentries.insert hv key
    exact (h.pop hstack .after trivial).open hmore trivial

/-- A step that succeeds leads to a coherent reader. -/
def Leads (out : Except Error Reader) : Prop := ∀ r, out = .ok r → CoherentReader r

/-- A coherent reader may stay as it is. -/
theorem leads_ok (h : CoherentReader r) : Leads (.ok r) := fun r' heq => by
  cases heq
  exact h

/-- An error leads nowhere. -/
theorem leads_error (e : Error) : Leads (.error e) := fun _ heq => by cases heq

/-- Two steps lead to a coherent reader if each does. -/
theorem Leads.bind {out : Except Error Reader} (h : Leads out) {f : Reader → Except Error Reader}
    (hf : ∀ r, CoherentReader r → Leads (f r)) : Leads (out.bind f) := by
  cases out with
  | error e => exact leads_error e
  | ok r => exact hf r (h r rfl)

/-! ### Strings -/

/-- A string that was just opened holds nothing. -/
theorem coherentString_start {purpose : Purpose}
    (h : ∀ entries, purpose = .key entries → CoherentTable entries) :
    CoherentString ⟨purpose, [], false, .between⟩ where
  entries := h
  joined := .nil
  pending _ _ hread := by cases hread

/-- A string stays coherent at every place in it. -/
theorem CoherentString.at {s : StringState} (h : CoherentString s) (place : StringPlace) :
    CoherentString { s with place } := ⟨h.entries, h.joined, h.pending⟩

/-- A code point that is no surrogate. -/
theorem CoherentString.plain {s : StringState} (h : CoherentString s) {c : CodePoint}
    (hc : c.isSurrogate = false) (place : StringPlace) :
    CoherentString { s with read := c :: s.read, pendingHigh := false, place } where
  entries := h.entries
  joined := h.joined.cons fun _ _ _ _ => CodePoint.not_low_of_whole hc
  pending b rest hread hhigh := by
    cases hread
    rw [CodePoint.not_high_of_whole hc] at hhigh
    cases hhigh

/-- A unit, which is joined to the half before it or stands for itself. -/
theorem CoherentString.addUnit {s : StringState} (h : CoherentString s) (unit : CodePoint) :
    CoherentString (addUnit s unit) := by
  have hself (hapart : ∀ b rest, s.read = b :: rest → b.isHighSurrogate = true →
      unit.isLowSurrogate = false) : CoherentString
        { s with read := unit :: s.read, pendingHigh := unit.isHighSurrogate, place := .unit } := by
    refine ⟨h.entries, h.joined.cons hapart, fun b rest hread hhigh => ?_⟩
    cases hread
    exact hhigh
  unfold Reader.addUnit
  split
  case h_1 high read hpending hread =>
    have hbefore : JoinedBack (high :: read) := hread ▸ h.joined
    split_ifs with hlow
    · have hpair : (CodePoint.ofSurrogates high unit).isSurrogate = false :=
        CodePoint.isSurrogate_ofSurrogates high unit
      refine ⟨h.entries, ?_, fun b rest heq hhigh => ?_⟩
      · exact JoinedBack.cons hbefore.tail fun _ _ _ _ => CodePoint.not_low_of_whole hpair
      · cases heq
        rw [CodePoint.not_high_of_whole hpair] at hhigh
        cases hhigh
    · exact hself fun _ _ _ _ => by simpa using hlow
  case h_2 hother =>
    refine hself fun b rest hread hhigh => ?_
    exact absurd hread (hother b rest (h.pending b rest hread hhigh))

/-! ### Steps -/

/-- The start of a value leads to a coherent reader. -/
theorem CoherentReader.stepValue (h : CoherentReader r) (c : CodePoint) :
    Leads (r.stepValue c) := by
  have hlist : CoherentFrame (.list []) := fun v hv => absurd hv List.not_mem_nil
  have hstring : CoherentPlace (.string ⟨.value, [], false, .between⟩) :=
    coherentString_start fun _ hkey => by cases hkey
  unfold Reader.stepValue
  dsimp only
  split
  · exact leads_ok (h.at trivial)
  · exact leads_ok (h.at trivial)
  · split_ifs
    · exact leads_ok (h.at hstring)
    · exact leads_ok (h.open hlist trivial)
    · exact leads_ok (h.at trivial)
    · exact leads_ok (h.at trivial)
    · exact leads_ok (h.at Coherent.null)
    · exact leads_ok (h.at (Coherent.bool true))
    · exact leads_ok (h.at (Coherent.bool false))
    · exact leads_ok (h.at (Coherent.float _))
    · exact leads_ok (h.at (Coherent.float _))
    · exact leads_error _

/-- What stands behind a value leads to a coherent reader. -/
theorem CoherentReader.stepAfter (h : CoherentReader r) (c : CodePoint) :
    Leads (r.stepAfter c) := by
  unfold Reader.stepAfter
  split
  · exact leads_ok (h.at trivial)
  split
  case h_1 => exact leads_error _
  case h_2 items rest hstack =>
    have hitems : ∀ v ∈ items, Coherent v := h.frames (.list items) (hstack ▸ List.mem_cons_self)
    split_ifs
    · exact leads_ok (h.at trivial)
    · exact leads_ok ((h.pop hstack _ h.place).push
        (.list fun v hv => hitems v (List.mem_reverse.1 hv)))
    · exact leads_error _
  case h_3 entries key rest hstack =>
    have hentries : CoherentTable entries :=
      h.frames (.table entries key) (hstack ▸ List.mem_cons_self)
    split_ifs
    · exact leads_ok (h.pop hstack _ hentries)
    · exact leads_ok ((h.pop hstack _ h.place).push (.table hentries))
    · exact leads_error _

/-- A string that ends is a coherent value or a key. -/
theorem CoherentReader.endString (h : CoherentReader r) {s : StringState} (hs : CoherentString s) :
    CoherentReader (r.endString s) := by
  unfold Reader.endString
  split
  case h_1 => exact h.push (.text hs.joined.joined)
  case h_2 entries hpurpose => exact h.at (hs.entries entries hpurpose)

/-- No escape of one letter stands for a surrogate. -/
theorem whole_escaped : ∀ {c e : CodePoint}, escaped? c = some e → e.isSurrogate = false := by
  intro c e h
  unfold escaped? at h
  split at h
  all_goals first
    | cases h; rfl
    | cases h

/-- A code point that is no surrogate leads to a coherent string. -/
theorem CoherentReader.stepString (h : CoherentReader r) {s : StringState} (hs : CoherentString s)
    {c : CodePoint} (hc : c.isSurrogate = false) : Leads (r.stepString s c) := by
  have hbetween : Leads (r.stepBetween s c) := by
    unfold Reader.stepBetween
    split_ifs
    · exact leads_ok (h.endString hs)
    · exact leads_ok (h.at (hs.at .escape))
    · exact leads_error _
    · exact leads_ok (h.at (hs.plain hc .between))
  unfold Reader.stepString
  split
  · exact hbetween
  · exact hbetween
  · split_ifs
    · exact leads_ok (h.at (hs.at (.unicode 4 0)))
    · split
      case h_1 e he => exact leads_ok (h.at (hs.plain (whole_escaped he) .between))
      case h_2 => exact leads_error _
  · split
    case h_1 => exact leads_error _
    case h_2 =>
      dsimp only
      split_ifs
      · exact leads_ok (h.at (hs.addUnit _))
      · exact leads_ok (h.at (hs.at _))

/-- An integer is coherent. -/
theorem coherent_integer? {n : NumberState} {v : Value} (h : n.integer? = .ok v) : Coherent v := by
  unfold NumberState.integer? at h
  split at h
  · cases h
  · cases h
    exact .int _

/-- A number is coherent. -/
theorem coherent_finish {n : NumberState} {v : Value} {complete : Bool}
    (h : n.finish = .ok (v, complete)) : Coherent v := by
  have hinteger {complete' : Bool} (h : n.integer?.map (·, complete') = .ok (v, complete)) :
      Coherent v := by
    cases hn : n.integer? with
    | error e =>
      rw [hn] at h
      cases h
    | ok w =>
      rw [hn] at h
      cases h
      exact coherent_integer? hn
  unfold NumberState.finish at h
  split at h
  · cases h
  · exact hinteger h
  · exact hinteger h
  · exact hinteger h
  · cases h
    exact .float _
  · split_ifs at h
    · exact hinteger h
    · cases h
      exact .float _
  · split_ifs at h
    · exact hinteger h
    · cases h
      exact .float _
  · cases h
    exact .float _

/-- A number that ends leads to a coherent reader. -/
theorem CoherentReader.endNumber (h : CoherentReader r) (n : NumberState) :
    Leads (r.endNumber n) := by
  unfold Reader.endNumber
  cases hn : n.finish with
  | error e => exact leads_error e
  | ok out =>
    obtain ⟨v, complete⟩ := out
    cases complete with
    | true => exact leads_ok (h.push (coherent_finish hn))
    | false => exact leads_error _

/-- A code point that is no surrogate leads to a coherent reader. -/
theorem CoherentReader.step (h : CoherentReader r) {c : CodePoint} (hc : c.isSurrogate = false) :
    Leads (r.step c) := by
  have hplace := h.place
  unfold Reader.step
  split
  case h_1 =>
    split
    · exact leads_ok h
    · exact h.stepValue c
  -- An empty list closes its frame, which leaves the frames below it as they were.
  case h_2 =>
    split_ifs
    · exact leads_ok h
    · have hpopped : CoherentReader { r with stack := r.stack.tail } :=
        ⟨fun f hf => h.frames f (List.mem_of_mem_tail hf), h.result, h.place⟩
      exact leads_ok (hpopped.push (.list fun v hv => absurd hv List.not_mem_nil))
    · exact h.stepValue c
  case h_3 =>
    split_ifs
    · exact leads_ok h
    · refine leads_ok (h.at (coherentString_start fun entries hkey => ?_))
      cases hkey
      exact fun p hp => absurd hp List.not_mem_nil
    · exact leads_ok (h.push (.table fun p hp => absurd hp List.not_mem_nil))
    · exact leads_error _
  case h_4 entries heq =>
    rw [heq] at hplace
    split_ifs
    · exact leads_ok h
    · refine leads_ok (h.at (coherentString_start fun entries' hkey => ?_))
      cases hkey
      exact hplace
    · exact leads_error _
  case h_5 entries key heq =>
    rw [heq] at hplace
    split_ifs
    · exact leads_ok h
    · exact leads_ok (h.open (f := .table entries key) hplace trivial)
    · exact leads_error _
  case h_6 => exact h.stepAfter c
  case h_7 s heq =>
    rw [heq] at hplace
    exact h.stepString hplace hc
  -- A number is not over until something else comes, which is then read after the value.
  case h_8 n heq =>
    split
    case h_1 => exact leads_ok (h.at trivial)
    case h_2 =>
      split
      · exact leads_ok (h.at (Coherent.float _))
      · exact (h.endNumber n).bind fun r hr => hr.stepAfter c
  case h_9 rest v heq =>
    rw [heq] at hplace
    have hv : Coherent v := hplace
    split
    · exact (h.push hv).stepAfter c
    · split_ifs
      · exact leads_ok (h.push hv)
      · exact leads_error _
    · split_ifs
      · exact leads_ok (h.at hv)
      · exact leads_error _

/-- A text without surrogates leads to a coherent reader. -/
theorem CoherentReader.run (h : CoherentReader r) {t : Text} (ht : t.Whole) : Leads (r.run t) := by
  induction t generalizing r with
  | nil => exact leads_ok h
  | cons c rest ih =>
    exact (h.step (ht c List.mem_cons_self)).bind
      fun r hr => ih hr fun c' hc' => ht c' (List.mem_cons_of_mem c hc')

/-- What a coherent reader has read is coherent. -/
theorem CoherentReader.finish (h : CoherentReader r) {v : Value} (hv : r.finish = .ok v) :
    Coherent v := by
  have hdone {r : Reader} (h : CoherentReader r)
      (hv : ({ r with place := .after } : Reader).finish = .ok v) : Coherent v := by
    unfold Reader.finish at hv
    dsimp only at hv
    split at hv
    case h_1 w _ hresult =>
      cases hv
      exact h.result v hresult
    case h_2 => cases hv
  unfold Reader.finish at hv
  cases hplace : r.place with
  | number n =>
    rw [hplace] at hv
    dsimp only at hv
    cases hn : r.endNumber n with
    | error e =>
      rw [hn] at hv
      cases hv
    | ok r' =>
      rw [hn] at hv
      exact hdone (h.endNumber n r' hn) hv
  | after =>
    rw [hplace] at hv
    exact hdone h hv
  | string s =>
    rw [hplace] at hv
    dsimp only at hv
    split at hv <;> cases hv
  | _ =>
    rw [hplace] at hv
    cases hv

/-- All texts in a value that is read from a text without surrogates are joined. -/
theorem coherent_read {t : Text} (ht : t.Whole) {v : Value} (h : read t = .ok v) : Coherent v := by
  unfold read at h
  split at h
  · split_ifs at h
    cases hr : start.run (_ :: _) with
    | error e =>
      rw [hr] at h
      cases h
    | ok r =>
      rw [hr] at h
      exact (coherent_start.run ht r hr).finish h
  · cases h

end Json

end LiveLint
