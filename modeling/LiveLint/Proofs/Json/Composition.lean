import Mathlib.Data.List.Basic
import LiveLint.Json.Reader

/-!
# Reading JSON is compositional

A text that is read as a value on its own is read as the same value where it stands in a list or a
table (`run_value`), and a quoted text is read as the same text where it is a key (`run_key`). So a
list is read as the list of what its items are read as (`read_listText`), and a table as what its
members put into it one after the other (`SpellsTable.read`); of members with one key the last
counts (`Member.get?_addTo`).

Both are simulations: the reader that stands above open frames follows, code point by code point,
the one that has the text to itself, until that one has read its value.

Where the stack ends, `load` gives an error of its own and otherwise what `read` gives
(`load_eq_read`); what follows a value has no part in it (`Reader.exceeds_closed`).
-/

namespace LiveLint

namespace Json

namespace Reader

/-- Reading goes on with the second part from where the first one led. -/
theorem run_append (r : Reader) (a b : Text) : r.run (a ++ b) = (r.run a).bind (·.run b) := by
  induction a generalizing r with
  | nil => rfl
  | cons c a ih =>
    show (r.step c).bind (fun q => q.run (a ++ b)) = ((r.step c).bind fun q => q.run a).bind _
    cases r.step c with
    | error e => rfl
    | ok q => exact ih q

/-- Reading does the first step and goes on from there. -/
theorem run_cons {r q : Reader} {c : CodePoint} (h : r.step c = .ok q) (t : Text) :
    r.run (c :: t) = q.run t := by
  show (r.step c).bind (fun q => q.run t) = _
  rw [h]
  rfl

/-- The reader waits: blanks leave it as it is. -/
def Waits (r : Reader) : Prop := ∀ c, isSpace c = true → r.step c = .ok r

/-- Blanks leave a waiting reader as it is. -/
theorem Waits.run_append {r : Reader} (h : r.Waits) {blanks : Text}
    (hblanks : ∀ c ∈ blanks, isSpace c = true) (t : Text) : r.run (blanks ++ t) = r.run t := by
  induction blanks with
  | nil => rfl
  | cons c blanks ih =>
    rw [List.cons_append, run_cons (h c (hblanks c (by simp)))]
    exact ih fun d hd => hblanks d (by simp [hd])

/-- A waiting reader starts with what is behind the blanks. -/
theorem Waits.run_dropWhile {r : Reader} (h : r.Waits) (t : Text) :
    r.run t = r.run (t.dropWhile isSpace) := by
  conv_lhs => rw [← List.takeWhile_append_dropWhile (p := isSpace) (l := t)]
  exact h.run_append (List.all_eq_true.mp List.all_takeWhile) _

/-- A reader that is to read a value waits. -/
theorem waits_value (stack : List Frame) (res : Option Value) : Waits ⟨stack, res, .value⟩ :=
  fun c hc => by simp only [step, hc, if_true]

/-- A reader that has read nothing yet waits. -/
theorem waits_start : start.Waits := waits_value [] none

/-- A reader behind an opening bracket waits. -/
theorem waits_firstItem (stack : List Frame) (res : Option Value) :
    Waits ⟨stack, res, .firstItem⟩ :=
  fun c hc => by simp only [step, hc, if_true]

/-- A reader behind an opening brace waits. -/
theorem waits_firstKey (stack : List Frame) (res : Option Value) : Waits ⟨stack, res, .firstKey⟩ :=
  fun c hc => by simp only [step, hc, if_true]

/-- A reader that is to read a key waits. -/
theorem waits_key (stack : List Frame) (res : Option Value) (entries : Table) :
    Waits ⟨stack, res, .key entries⟩ :=
  fun c hc => by simp only [step, hc, if_true]

/-! ## A value above open frames -/

/-- The second reader is the first one with more frames below its own. Once the first has read its
value, the second has put this value into the innermost of these frames. -/
inductive Above (base : List Frame) : Reader → Reader → Prop where
  | opened {stack : List Frame} {place : Place}
      (inside : stack = [] → place ≠ .after ∧ place ≠ .firstItem) :
      Above base ⟨stack, none, place⟩ ⟨stack ++ base, none, place⟩
  | closed (v : Value) : Above base ⟨[], some v, .after⟩ (push ⟨base, none, .after⟩ v)

variable {base : List Frame}

/-- A value goes where the frames say, wherever the reader stood. -/
theorem push_place (r : Reader) (p : Place) (v : Value) : push { r with place := p } v = push r v := by
  rcases r with ⟨_ | ⟨_ | _, _⟩, _, _⟩ <;> rfl

/-- A value closes the first reader exactly when it goes below the frames that it opened. -/
theorem Above.push (stack : List Frame) (p : Place) (v : Value) :
    Above base (Reader.push ⟨stack, none, p⟩ v) (Reader.push ⟨stack ++ base, none, p⟩ v) := by
  match stack with
  | [] =>
    rw [← push_place ⟨[] ++ base, none, p⟩ .after v]
    exact .closed v
  | .list _ :: _ => exact .opened (by simp)
  | .table _ _ :: _ => exact .opened (by simp)

/-- How a value begins does not depend on the frames around it. -/
theorem stepValue_append (stack : List Frame) (p : Place) (c : CodePoint) :
    stepValue ⟨stack ++ base, none, p⟩ c
      = (stepValue ⟨stack, none, p⟩ c).map fun q => { q with stack := q.stack ++ base } := by
  simp only [stepValue]
  split
  · rfl
  · rfl
  · simp only [apply_ite (Except.map fun q : Reader => { q with stack := q.stack ++ base })]
    rfl

/-- A reader that has begun a value is inside it. -/
theorem stepValue_inside {stack : List Frame} {p : Place} {q : Reader} {c : CodePoint}
    (h : stepValue ⟨stack, none, p⟩ c = .ok q) :
    q.result = none ∧ (q.stack = [] → q.place ≠ .after ∧ q.place ≠ .firstItem) := by
  simp only [stepValue] at h
  repeat' split at h
  all_goals cases h
  all_goals simp

/-- The first step into a value is made above other frames as well. -/
theorem stepValue_above {stack : List Frame} {p : Place} {q : Reader} {c : CodePoint}
    (h : stepValue ⟨stack, none, p⟩ c = .ok q) :
    ∃ q', stepValue ⟨stack ++ base, none, p⟩ c = .ok q' ∧ Above base q q' := by
  obtain ⟨hresult, inside⟩ := stepValue_inside h
  rw [stepValue_append, h]
  obtain ⟨stack', result, place⟩ := q
  obtain rfl : result = none := hresult
  exact ⟨_, rfl, .opened inside⟩

/-- A string ends above other frames as it does alone. -/
theorem endString_above (stack : List Frame) (p : Place) (s : StringState) :
    Above base (endString ⟨stack, none, p⟩ s) (endString ⟨stack ++ base, none, p⟩ s) := by
  match hs : s.purpose with
  | .value => simpa only [endString, hs] using Above.push stack p _
  | .key entries => simpa only [endString, hs] using Above.opened (by simp)

/-- A string is read above other frames as it is alone. -/
theorem stepBetween_above {stack : List Frame} {p : Place} {s : StringState} {q : Reader}
    {c : CodePoint} (h : stepBetween ⟨stack, none, p⟩ s c = .ok q) :
    ∃ q', stepBetween ⟨stack ++ base, none, p⟩ s c = .ok q' ∧ Above base q q' := by
  simp only [stepBetween] at h ⊢
  split_ifs at h ⊢ <;> cases h
  · exact ⟨_, rfl, endString_above ..⟩
  all_goals exact ⟨_, rfl, .opened (by simp)⟩

/-- A string with its escapes is read above other frames as it is alone. -/
theorem stepString_above {stack : List Frame} {p : Place} {s : StringState} {q : Reader}
    {c : CodePoint} (h : stepString ⟨stack, none, p⟩ s c = .ok q) :
    ∃ q', stepString ⟨stack ++ base, none, p⟩ s c = .ok q' ∧ Above base q q' := by
  match hplace : s.place with
  | .between | .unit =>
    simp only [stepString, hplace] at h ⊢
    exact stepBetween_above h
  | .escape =>
    simp only [stepString, hplace] at h ⊢
    split_ifs at h ⊢
    · cases h; exact ⟨_, rfl, .opened (by simp)⟩
    · split at h <;> cases h
      exact ⟨_, rfl, .opened (by simp)⟩
  | .unicode owed bits =>
    simp only [stepString, hplace] at h ⊢
    split at h
    · cases h
    · split_ifs at h ⊢ <;> cases h <;> exact ⟨_, rfl, .opened (by simp)⟩

/-- Blanks behind a value change nothing. -/
theorem stepAfter_blank {r : Reader} {c : CodePoint} (hr : r.place = .after)
    (hc : isSpace c = true) : r.stepAfter c = .ok r := by
  rw [stepAfter, if_pos hc, ← hr]

/-- A reader that has read its value waits. -/
theorem waits_closed (v : Value) : Waits ⟨[], some v, .after⟩ := fun _ => stepAfter_blank rfl

/-- Behind every value the reader stands after one. -/
theorem push_after (r : Reader) (v : Value) : (r.push v).place = .after := by
  rcases r with ⟨_ | ⟨_ | _, _⟩, _, _⟩ <;> rfl

/-- After a value, both readers agree on what may follow inside the frames of the first. -/
theorem stepAfter_above {r r' q : Reader} {c : CodePoint} (hr : Above base r r')
    (hplace : r.place = .after) (h : r.stepAfter c = .ok q) :
    ∃ q', r'.stepAfter c = .ok q' ∧ Above base q q' := by
  cases hr with
  | closed v =>
    have hspace : isSpace c = true := by
      by_contra hc
      simp [stepAfter, hc] at h
    rw [stepAfter_blank hplace hspace] at h
    cases h
    exact ⟨_, stepAfter_blank (push_after _ v) hspace, .closed v⟩
  | opened inside =>
    rename_i stack place
    obtain rfl : place = .after := hplace
    by_cases hspace : isSpace c = true
    · rw [stepAfter_blank rfl hspace] at h
      cases h
      exact ⟨_, stepAfter_blank rfl hspace, .opened inside⟩
    · simp only [stepAfter, if_neg hspace] at h ⊢
      match stack with
      | [] => exact absurd rfl (inside rfl).1
      | .list items :: rest =>
        simp only [List.cons_append] at h ⊢
        split_ifs at h ⊢ <;> cases h
        · exact ⟨_, rfl, .opened (by simp)⟩
        · exact ⟨_, rfl, Above.push rest _ _⟩
      | .table entries key :: rest =>
        simp only [List.cons_append] at h ⊢
        split_ifs at h ⊢ <;> cases h
        · exact ⟨_, rfl, .opened (by simp)⟩
        · exact ⟨_, rfl, Above.push rest _ _⟩

/-- A number that ends where the reader stands is read as its value. -/
theorem endNumber_ok {r q : Reader} {n : NumberState} (h : r.endNumber n = .ok q) :
    ∃ v, n.finish = .ok (v, true) ∧ q = r.push v := by
  unfold endNumber at h
  match hn : n.finish with
  | .error e => rw [hn] at h; cases h
  | .ok (v, false) => rw [hn] at h; cases h
  | .ok (v, true) => rw [hn] at h; cases h; exact ⟨v, rfl, rfl⟩

/-- A number that is complete is the value that was read. -/
theorem endNumber_of_finish (r : Reader) {n : NumberState} {v : Value}
    (h : n.finish = .ok (v, true)) : r.endNumber n = .ok (r.push v) := by
  rw [endNumber, h]
  rfl

/-- The reader above open frames keeps up with the one that has the text to itself. -/
theorem step_above {r r' q : Reader} {c : CodePoint} (hr : Above base r r') (h : r.step c = .ok q) :
    ∃ q', r'.step c = .ok q' ∧ Above base q q' := by
  -- A closed reader has its value already: the frames below take it only when the text goes on.
  cases hr with
  | closed v =>
    obtain ⟨q', hq', hq⟩ := stepAfter_above (.closed v) rfl h
    refine ⟨q', ?_, hq⟩
    rw [step, push_after]
    exact hq'
  | opened inside =>
    rename_i stack place
    match place with
    | .value =>
      simp only [step] at h ⊢
      split_ifs at h ⊢
      · cases h; exact ⟨_, rfl, .opened inside⟩
      · exact stepValue_above h
    | .firstItem =>
      obtain ⟨f, rest, rfl⟩ := List.exists_cons_of_ne_nil fun hs => (inside hs).2 rfl
      simp only [step] at h ⊢
      split_ifs at h ⊢
      · cases h; exact ⟨_, rfl, .opened inside⟩
      · cases h; exact ⟨_, rfl, Above.push rest _ _⟩
      · exact stepValue_above h
    | .firstKey =>
      simp only [step] at h ⊢
      split_ifs at h ⊢ <;> cases h
      · exact ⟨_, rfl, .opened inside⟩
      · exact ⟨_, rfl, .opened (by simp)⟩
      · exact ⟨_, rfl, Above.push stack _ _⟩
    | .key entries =>
      simp only [step] at h ⊢
      split_ifs at h ⊢ <;> cases h
      · exact ⟨_, rfl, .opened inside⟩
      · exact ⟨_, rfl, .opened (by simp)⟩
    | .colon entries key =>
      simp only [step] at h ⊢
      split_ifs at h ⊢ <;> cases h
      · exact ⟨_, rfl, .opened inside⟩
      · exact ⟨_, rfl, .opened (by simp)⟩
    | .after => exact stepAfter_above (.opened inside) rfl h
    | .string s => exact stepString_above h
    | .number n =>
      simp only [step] at h ⊢
      match hn : extendNumber n c with
      | some n' =>
        rw [hn] at h
        cases h
        exact ⟨_, rfl, .opened (by simp)⟩
      -- What does not extend a number ends it, and is then read as what follows a value.
      | none =>
        rw [hn] at h
        dsimp only at h ⊢
        split_ifs at h ⊢
        · cases h; exact ⟨_, rfl, .opened (by simp)⟩
        · match hend : endNumber ⟨stack, none, .number n⟩ n with
          | .error e => rw [hend] at h; cases h
          | .ok r =>
            obtain ⟨v, hv, rfl⟩ := endNumber_ok hend
            rw [hend] at h
            rw [endNumber_of_finish _ hv]
            exact stepAfter_above (Above.push stack _ v) (push_after _ v) h
    | .literal rest v =>
      simp only [step] at h ⊢
      match rest with
      | [] => exact stepAfter_above (Above.push stack _ v) (push_after _ v) h
      | [x] =>
        dsimp only at h ⊢
        split_ifs at h ⊢
        cases h
        exact ⟨_, rfl, Above.push stack _ v⟩
      | x :: y :: rest =>
        dsimp only at h ⊢
        split_ifs at h ⊢
        cases h
        exact ⟨_, rfl, .opened (by simp)⟩

/-- A text is read above other frames as it is alone. -/
theorem run_above {t : Text} {r r' q : Reader} (hr : Above base r r') (h : r.run t = .ok q) :
    ∃ q', r'.run t = .ok q' ∧ Above base q q' := by
  induction t generalizing r r' with
  | nil =>
    cases h
    exact ⟨r', rfl, hr⟩
  | cons c t ih =>
    match hstep : r.step c with
    | .error e =>
      rw [run, hstep] at h
      cases h
    | .ok r₁ =>
      obtain ⟨r₁', hstep', hr₁⟩ := step_above hr hstep
      rw [run_cons hstep] at h
      rw [run_cons hstep']
      exact ih hr₁ h

/-- What stands right after a value inside a list or a table. -/
def IsDelimiter (c : CodePoint) : Prop :=
  c = CodePoint.ofChar ',' ∨ c = CodePoint.ofChar ']' ∨ c = CodePoint.ofChar '\x7d'

/-- No number goes on with a comma, a bracket or a brace. -/
theorem extendNumber_delimiter {n : NumberState} {c : CodePoint} (hc : IsDelimiter c) :
    extendNumber n c = none := by
  unfold extendNumber
  rcases hc with rfl | rfl | rfl <;> cases n.place <;> rfl

/-- A delimiter ends a number, and is then read behind it. -/
theorem step_number_delimiter {stack : List Frame} {res : Option Value} {n : NumberState}
    {c : CodePoint} {v : Value} (hc : IsDelimiter c) (hn : n.finish = .ok (v, true)) :
    (⟨stack, res, .number n⟩ : Reader).step c
      = (push ⟨stack, res, .number n⟩ v).stepAfter c := by
  have hminus : ¬ (n.place = .minus ∧ c = CodePoint.ofChar 'I') := by
    rintro ⟨hplace, -⟩
    rw [NumberState.finish, hplace] at hn
    cases hn
  simp only [step, extendNumber_delimiter hc, Bool.and_eq_true, decide_eq_true_eq, if_neg hminus]
  rw [endNumber_of_finish _ hn]
  rfl

/-- Where the text of a value ends, the reader above open frames goes on as after that value. -/
theorem step_after_value {r r' : Reader} {v : Value} {c : CodePoint} (hr : Above base r r')
    (hv : r.finish = .ok v) (hc : IsDelimiter c) :
    r'.step c = (push ⟨base, none, .after⟩ v).stepAfter c := by
  cases hr with
  | closed w =>
    cases hv
    rw [step, push_after]
  | opened inside =>
    rename_i stack place
    match place with
    | .number n =>
      simp only [finish] at hv
      match hend : endNumber ⟨stack, none, .number n⟩ n with
      | .error e => rw [hend] at hv; cases hv
      | .ok r =>
        obtain ⟨w, hw, rfl⟩ := endNumber_ok hend
        rw [hend] at hv
        match stack with
        | [] =>
          cases hv
          rw [List.nil_append, step_number_delimiter hc hw, ← push_place _ .after]
        | .list _ :: _ | .table _ _ :: _ => cases hv
    | .after =>
      match stack with
      | [] => exact absurd rfl (inside rfl).1
      | _ :: _ => cases hv
    | .string s =>
      simp only [finish] at hv
      split at hv <;> cases hv
    | .value | .firstItem | .firstKey | .key _ | .colon _ _ | .literal _ _ => cases hv

/-! ## A quoted text as a key -/

/-- The first reader reads a text, and the second the same text as the key of a table. -/
inductive AsKey (stack : List Frame) (entries : Table) : Reader → Reader → Prop where
  | inside (read : Text) (pendingHigh : Bool) (place : StringPlace) :
      AsKey stack entries ⟨[], none, .string ⟨.value, read, pendingHigh, place⟩⟩
        ⟨stack, none, .string ⟨.key entries, read, pendingHigh, place⟩⟩
  | closed (key : Text) :
      AsKey stack entries ⟨[], some (.text key), .after⟩ ⟨stack, none, .colon entries key⟩

variable {stack : List Frame} {entries : Table}

/-- What a text is for plays no part in joining the halves of a pair. -/
theorem addUnit_eq (read : Text) (pendingHigh : Bool) (place : StringPlace) (unit : CodePoint) :
    ∃ read' pendingHigh', ∀ purpose,
      addUnit ⟨purpose, read, pendingHigh, place⟩ unit = ⟨purpose, read', pendingHigh', .unit⟩ := by
  match pendingHigh, read with
  | true, high :: read =>
    by_cases hlow : unit.isLowSurrogate = true
    · exact ⟨.ofSurrogates high unit :: read, false, fun _ => if_pos hlow⟩
    · exact ⟨unit :: high :: read, unit.isHighSurrogate, fun _ => if_neg hlow⟩
  | true, [] | false, _ => exact ⟨_ :: _, unit.isHighSurrogate, fun _ => rfl⟩

/-- A step that reads a text reads the same text as a key. -/
theorem step_asKey {r r' q : Reader} {c : CodePoint} (hr : AsKey stack entries r r')
    (h : r.step c = .ok q) : ∃ q', r'.step c = .ok q' ∧ AsKey stack entries q q' := by
  cases hr with
  | closed key =>
    have hspace : isSpace c = true := by
      by_contra hc
      simp [step, stepAfter, hc] at h
    rw [step, stepAfter_blank rfl hspace] at h
    cases h
    exact ⟨_, by simp only [step, hspace, if_true], .closed key⟩
  | inside read pendingHigh place =>
    match place with
    | .between | .unit =>
      simp only [step, stepString, stepBetween] at h ⊢
      split_ifs at h ⊢ <;> cases h
      · exact ⟨_, rfl, .closed _⟩
      all_goals exact ⟨_, rfl, .inside ..⟩
    | .escape =>
      simp only [step, stepString] at h ⊢
      split_ifs at h ⊢
      · cases h; exact ⟨_, rfl, .inside ..⟩
      · split at h <;> cases h
        exact ⟨_, rfl, .inside ..⟩
    | .unicode owed bits =>
      simp only [step, stepString] at h ⊢
      split at h
      · cases h
      · split_ifs at h ⊢ <;> cases h
        · obtain ⟨read', pendingHigh', hunit⟩ :=
            addUnit_eq read pendingHigh (.unicode owed bits) (.ofNat (bits * 16 + _))
          refine ⟨_, rfl, ?_⟩
          rw [hunit, hunit]
          exact .inside ..
        · exact ⟨_, rfl, .inside ..⟩

/-- What reads a text reads the same text as a key. -/
theorem run_asKey {t : Text} {r r' q : Reader} (hr : AsKey stack entries r r')
    (h : r.run t = .ok q) : ∃ q', r'.run t = .ok q' ∧ AsKey stack entries q q' := by
  induction t generalizing r r' with
  | nil =>
    cases h
    exact ⟨r', rfl, hr⟩
  | cons c t ih =>
    match hstep : r.step c with
    | .error e =>
      rw [run, hstep] at h
      cases h
    | .ok r₁ =>
      obtain ⟨r₁', hstep', hr₁⟩ := step_asKey hr hstep
      rw [run_cons hstep] at h
      rw [run_cons hstep']
      exact ih hr₁ h

/-- A text that is closed as a value is closed as a key. -/
theorem AsKey.finish {r r' : Reader} {key : Text} (hr : AsKey stack entries r r')
    (h : r.finish = .ok (.text key)) : r' = ⟨stack, none, .colon entries key⟩ := by
  cases hr with
  | closed k => cases h; rfl
  | inside read pendingHigh place => cases place <;> cases h

end Reader

/-! ## Whole texts -/

open Reader

/-- A text is read by running through it. -/
theorem read_eq_ok_iff {t : Text} {v : Value} :
    read t = .ok v ↔ ∃ r, start.run t = .ok r ∧ r.finish = .ok v := by
  match t with
  | [] => exact ⟨nofun, by rintro ⟨_, hr, hv⟩; cases hr; cases hv⟩
  | c :: rest =>
    by_cases hmark : c.val = 0xFEFF
    · -- the mark is refused in either way: no value starts with it
      have hstep : start.step c = .error .valueExpected := by
        obtain rfl : c = CodePoint.ofNat 0xFEFF := CodePoint.ext_val hmark
        rfl
      simp only [read, if_pos hmark, run, hstep]
      exact ⟨nofun, by rintro ⟨_, hr, -⟩; cases hr⟩
    · simp only [read, if_neg hmark]
      match hrun : start.run (c :: rest) with
      | .error e => exact ⟨nofun, by rintro ⟨_, hr, -⟩; cases hr⟩
      | .ok r => exact ⟨fun h => ⟨r, rfl, h⟩, by rintro ⟨_, hr, hv⟩; cases hr; exact hv⟩

/-- A text that reads as a value does so inside a list or a table too, up to the delimiter. -/
theorem run_value {t : Text} {v : Value} (h : read t = .ok v) (base : List Frame) {c : CodePoint}
    (hc : IsDelimiter c) (rest : Text) :
    (⟨base, none, .value⟩ : Reader).run (t ++ c :: rest)
      = ((push ⟨base, none, .after⟩ v).stepAfter c).bind (·.run rest) := by
  obtain ⟨r, hrun, hfinish⟩ := read_eq_ok_iff.mp h
  have hstart : Above base start ⟨base, none, .value⟩ := .opened (by simp)
  obtain ⟨r', hrun', hr⟩ := run_above hstart hrun
  rw [run_append, show (⟨base, none, .value⟩ : Reader).run t = .ok r' from hrun']
  show (r'.step c).bind _ = _
  rw [step_after_value hr hfinish hc]

/-- The first item of a list is read as any other, since no value starts with the end of a list. -/
theorem run_firstItem {t : Text} {v : Value} (h : read t = .ok v) (stack : List Frame)
    (rest : Text) :
    (⟨stack, none, .firstItem⟩ : Reader).run (t ++ rest)
      = (⟨stack, none, .value⟩ : Reader).run (t ++ rest) := by
  obtain ⟨r, hrun, hfinish⟩ := read_eq_ok_iff.mp h
  rw [waits_start.run_dropWhile t] at hrun
  rw [run_append, run_append, (waits_firstItem stack none).run_dropWhile t,
    (waits_value stack none).run_dropWhile t]
  match ht : t.dropWhile isSpace with
  | [] =>
    rw [ht] at hrun
    cases hrun
    cases hfinish
  | c :: u =>
    have hspace : ¬ isSpace c = true := by
      have := List.head?_dropWhile_not isSpace t
      rw [ht] at this
      exact Bool.eq_false_iff.mp this
    have hend : c ≠ CodePoint.ofChar ']' := by
      rintro rfl
      rw [ht] at hrun
      cases hrun
    have hstep : (⟨stack, none, .firstItem⟩ : Reader).step c
        = (⟨stack, none, .value⟩ : Reader).step c := by
      simp only [step, if_neg hspace, if_neg hend]
      rfl
    simp only [run, hstep]

/-- A text starts with a quotation mark, apart from blanks. -/
def Quoted (t : Text) : Prop := ∃ u, t.dropWhile isSpace = CodePoint.ofChar '"' :: u

/-- A text that reads as a text is read as a key too. -/
theorem run_key {t key : Text} (h : read t = .ok (.text key)) (hquoted : Quoted t)
    (stack : List Frame) (entries : Table) :
    (⟨stack, none, .key entries⟩ : Reader).run t = .ok ⟨stack, none, .colon entries key⟩ := by
  obtain ⟨r, hrun, hfinish⟩ := read_eq_ok_iff.mp h
  obtain ⟨u, ht⟩ := hquoted
  rw [waits_start.run_dropWhile t, ht] at hrun
  rw [(waits_key stack none entries).run_dropWhile t, ht]
  obtain ⟨r', hrun', hr⟩ := run_asKey (.inside [] false .between) hrun
  rw [← hr.finish hfinish]
  exact hrun'

/-- The first key of a table is read as any other. -/
theorem run_firstKey {t : Text} (hquoted : Quoted t) (stack : List Frame) (rest : Text) :
    (⟨stack, none, .firstKey⟩ : Reader).run (t ++ rest)
      = (⟨stack, none, .key []⟩ : Reader).run (t ++ rest) := by
  obtain ⟨u, ht⟩ := hquoted
  rw [run_append, run_append, (waits_firstKey stack none).run_dropWhile t,
    (waits_key stack none []).run_dropWhile t, ht]
  rfl

/-! ## Lists and tables -/

/-- The text of a list with these texts as items. -/
def listText (items : List Text) : Text :=
  CodePoint.ofChar '[' :: (Text.joinWith "," items ++ [CodePoint.ofChar ']'])

/-- A member of a table: a key and a value, each with the text that is read as it. -/
structure Member where
  keyText : Text
  key : Text
  valueText : Text
  value : Value
  quoted : Quoted keyText
  reads_key : read keyText = .ok (.text key)
  reads_value : read valueText = .ok value

namespace Member

/-- The text of a member. -/
def text (m : Member) : Text := m.keyText ++ CodePoint.ofChar ':' :: m.valueText

/-- Puts members into a table, one after the other. -/
def addTo (entries : Table) (members : List Member) : Table :=
  members.foldl (fun t m => Table.insert m.key m.value t) entries

/-- The value of the last member with this key. -/
def last? (key : Text) (members : List Member) : Option Value :=
  ((members.filter (·.key = key)).getLast?).map (·.value)

/-- The last member of a key is the one that counts. -/
theorem get?_addTo (key : Text) (entries : Table) (members : List Member) :
    Table.get? key (addTo entries members)
      = (last? key members).or (Table.get? key entries) := by
  induction members generalizing entries with
  | nil => rfl
  | cons m members ih =>
    show Table.get? key (addTo (Table.insert m.key m.value entries) members) = _
    rw [ih, Table.get?_insert]
    by_cases hkey : m.key = key
    · have hlast : last? key (m :: members) = some ((last? key members).getD m.value) := by
        rw [last?, List.filter_cons_of_pos (by simpa using hkey), List.getLast?_cons, last?]
        cases (members.filter (·.key = key)).getLast? <;> rfl
      rw [if_pos hkey, hlast]
      cases last? key members <;> rfl
    · have hlast : last? key (m :: members) = last? key members := by
        rw [last?, List.filter_cons_of_neg (by simpa using hkey), last?]
      rw [if_neg hkey, hlast]

end Member

/-- The text of a table with these members. -/
def tableText (members : List Member) : Text :=
  CodePoint.ofChar '\x7b' :: (Text.joinWith "," (members.map Member.text)
    ++ [CodePoint.ofChar '\x7d'])

/-- A comma stands between the first text and the others. -/
theorem joinWith_comma (a b : Text) (rest : List Text) :
    Text.joinWith "," (a :: b :: rest)
      = a ++ CodePoint.ofChar ',' :: Text.joinWith "," (b :: rest) := by
  rw [Text.joinWith_cons_cons, List.append_assoc]
  rfl

/-- The items of a list are read one after the other, up to the closing bracket. -/
theorem run_items {items : List Text} {values : List Value}
    (h : List.Forall₂ (fun t v => read t = .ok v) items values) (hne : items ≠ [])
    (before : List Value) :
    (⟨[.list before], none, .value⟩ : Reader).run
        (Text.joinWith "," items ++ [CodePoint.ofChar ']'])
      = .ok ⟨[], some (.list (before.reverse ++ values)), .after⟩ := by
  induction h generalizing before with
  | nil => exact absurd rfl hne
  | @cons t v items values hread hrest ih =>
    match items, values, hrest with
    | [], _, .nil =>
      rw [Text.joinWith_singleton, run_value hread _ (.inr (.inl rfl)), ← List.reverse_cons]
      rfl
    | t' :: items, _, _ =>
      rw [joinWith_comma, List.append_assoc, List.cons_append, run_value hread _ (.inl rfl)]
      show Reader.run ⟨[.list (v :: before)], none, .value⟩ _ = _
      rw [ih (by simp) (v :: before), List.reverse_cons, List.append_assoc, List.singleton_append]

/-- A list is read as the list of its items. -/
theorem read_listText {items : List Text} {values : List Value}
    (h : List.Forall₂ (fun t v => read t = .ok v) items values) :
    read (listText items) = .ok (.list values) := by
  refine read_eq_ok_iff.mpr ⟨⟨[], some (.list values), .after⟩, ?_, rfl⟩
  rw [listText, run_cons (q := ⟨[.list []], none, .firstItem⟩) rfl]
  match items, values, h with
  | [], _, .nil => rfl
  | t :: items, v :: values, .cons hread hrest =>
    have hfirst : ∃ rest, Text.joinWith "," (t :: items) ++ [CodePoint.ofChar ']'] = t ++ rest := by
      match items with
      | [] => exact ⟨_, by rw [Text.joinWith_singleton]⟩
      | _ :: _ => exact ⟨_, by rw [joinWith_comma, List.append_assoc]⟩
    obtain ⟨rest, hrest'⟩ := hfirst
    rw [hrest', run_firstItem hread, ← hrest', run_items (.cons hread hrest) (by simp) []]
    rfl

/-- The members of a table are read one after the other, up to the closing brace. -/
theorem run_members {members : List Member} (hne : members ≠ []) (entries : Table) :
    (⟨[], none, .key entries⟩ : Reader).run
        (Text.joinWith "," (members.map Member.text) ++ [CodePoint.ofChar '\x7d'])
      = .ok ⟨[], some (.table (Member.addTo entries members)), .after⟩ := by
  induction members generalizing entries with
  | nil => exact absurd rfl hne
  | cons m members ih =>
    -- the key, and the colon after it
    have hkey (rest : Text) : (⟨[], none, .key entries⟩ : Reader).run (m.text ++ rest)
        = (⟨[.table entries m.key], none, .value⟩ : Reader).run (m.valueText ++ rest) := by
      rw [Member.text, List.append_assoc, run_append, run_key m.reads_key m.quoted [] entries]
      rfl
    match members with
    | [] =>
      rw [List.map_singleton, Text.joinWith_singleton, hkey,
        run_value m.reads_value _ (.inr (.inr rfl))]
      rfl
    | m' :: members =>
      rw [List.map_cons, List.map_cons, joinWith_comma, List.append_assoc, hkey, List.cons_append,
        run_value m.reads_value _ (.inl rfl)]
      exact ih (by simp) (Table.insert m.key m.value entries)

/-- The text is that of a table with these members, with blanks around it. -/
def SpellsTable (t : Text) (members : List Member) : Prop :=
  ∃ lead trail : Text, (∀ c ∈ lead, isSpace c = true) ∧ (∀ c ∈ trail, isSpace c = true) ∧
    t = lead ++ (tableText members ++ trail)

/-- A table is read as what its members put into it. -/
theorem SpellsTable.read {t : Text} {members : List Member} (h : SpellsTable t members) :
    Json.read t = .ok (.table (Member.addTo [] members)) := by
  obtain ⟨lead, trail, hlead, htrail, rfl⟩ := h
  have htable : start.run (tableText members)
      = .ok ⟨[], some (.table (Member.addTo [] members)), .after⟩ := by
    rw [tableText, run_cons (q := ⟨[], none, .firstKey⟩) rfl]
    match members with
    | [] => rfl
    | m :: members =>
      have hfirst : ∃ rest, Text.joinWith "," ((m :: members).map Member.text)
          ++ [CodePoint.ofChar '\x7d'] = m.keyText ++ rest := by
        match members with
        | [] =>
          exact ⟨_, by
            rw [List.map_singleton, Text.joinWith_singleton, Member.text, List.append_assoc]⟩
        | _ :: _ =>
          exact ⟨_, by
            rw [List.map_cons, List.map_cons, joinWith_comma, Member.text, List.append_assoc,
              List.append_assoc]⟩
      obtain ⟨rest, hrest⟩ := hfirst
      rw [hrest, run_firstKey m.quoted, ← hrest]
      exact run_members (by simp) []
  refine read_eq_ok_iff.mpr ⟨⟨[], some (.table (Member.addTo [] members)), .after⟩, ?_, rfl⟩
  rw [waits_start.run_append hlead, run_append, htable]
  show Reader.run _ trail = _
  rw [← List.append_nil trail, (waits_closed _).run_append htrail]
  rfl

/-! ## The end of the stack -/

/-- A text is read as what it stands for, unless the stack ends before. -/
theorem load_eq_read {levels : Nat} {t : Text} (h : load levels t ≠ .error .tooDeep) :
    load levels t = read t := by
  unfold load at h ⊢
  split at h
  · exact absurd rfl h
  · rename_i hwithin
    exact if_neg hwithin

/-- The stack does not end in a text that is read as a value. -/
theorem load_eq_ok_iff {levels : Nat} {t : Text} {v : Value} :
    load levels t = .ok v ↔ start.exceeds levels t = false ∧ read t = .ok v := by
  unfold load
  split
  case isTrue hdeep => simp [hdeep]
  case isFalse hwithin => simp [hwithin]

-- Two lists, one in the other, take two levels.
example : load 2 "[[]]" = .ok (.list [.list []]) ∧ load 1 "[[]]" = .error .tooDeep := ⟨rfl, rfl⟩

/-- A reader that gets through the first part of a text meets the end of the stack, if at all, in
the second part. -/
theorem Reader.exceeds_append {levels : Nat} {r q : Reader} {t : Text} (hrun : r.run t = .ok q)
    (h : r.exceeds levels t = false) (more : Text) :
    r.exceeds levels (t ++ more) = q.exceeds levels more := by
  induction t generalizing r with
  | nil =>
    cases hrun
    rfl
  | cons c t ih =>
    cases hstep : r.step c with
    | error e =>
      rw [Reader.run, hstep] at hrun
      cases hrun
    | ok next =>
      rw [run_cons hstep] at hrun
      simp only [exceeds, hstep, Bool.or_eq_false_iff] at h
      simp only [List.cons_append, exceeds, hstep, h.1, Bool.false_or]
      exact ih hrun h.2

/-- Whatever stands behind a value takes no levels of the stack. -/
theorem Reader.exceeds_closed (levels : Nat) (v : Value) (t : Text) :
    (⟨[], some v, .after⟩ : Reader).exceeds levels t = false := by
  induction t with
  | nil => rfl
  | cons c t ih =>
    unfold exceeds
    by_cases hspace : isSpace c = true
    · rw [waits_closed v c hspace]
      simpa [level, lookupLevels] using ih
    · have hstep : (⟨[], some v, .after⟩ : Reader).step c = .error .extraData := by
        simp [step, stepAfter, hspace]
      rw [hstep]
      simp [level, Error.levels]

end Json

end LiveLint
