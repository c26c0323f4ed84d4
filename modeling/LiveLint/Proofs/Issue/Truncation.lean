import Mathlib.Data.List.DropRight
import LiveLint.Issue.Output
import LiveLint.Proofs.Json.Composition

/-!
# Output that was cut off

A linter that is killed while it prints leaves the beginning of a list. Such a beginning is never
taken for a report, and neither is a report with something behind it
(`cut_or_continued_output_refused`).

What carries this is that the text of a list delimits itself. A reader that has read a list takes
blanks alone after it (`run_closed`). A reader that could stop somewhere before the end of the text
either has read a value already, and takes blanks alone as well, or it stands in a number outside of
all brackets, from where no list can be reached (`Scalar.run`).
-/

namespace LiveLint

/-! ## Texts without blank ends -/

namespace Text

/-- Nothing is cut off a text that starts with something else. -/
theorem trimLeft_of_head {p : CodePoint → Bool} {t : Text}
    (h : ∀ c, t.head? = some c → p c = false) : trimLeft p t = t := by
  match t with
  | [] => rfl
  | c :: t => exact List.dropWhile_cons_of_neg (by simp [h c rfl])

/-- A code point that is kept keeps all that stands before it. -/
theorem trimRight_append {p : CodePoint → Bool} {more : Text} (h : trimRight p more ≠ [])
    (t : Text) : trimRight p (t ++ more) = t ++ trimRight p more := by
  have hkept : ¬ (more.reverse.dropWhile p).isEmpty = true := by
    rw [List.isEmpty_iff]
    exact fun hnil => h (List.reverse_eq_nil_iff.mpr hnil)
  rw [trimRight, List.reverse_append, List.dropWhile_append, if_neg hkept, List.reverse_append,
    List.reverse_reverse, trimRight]

/-- What ends a trimmed text is kept. -/
theorem of_getLast_trimRight {p : CodePoint → Bool} {t : Text} {c : CodePoint}
    (h : (trimRight p t).getLast? = some c) : p c = false := by
  have hne : trimRight p t ≠ [] := by
    intro hnil
    rw [hnil] at h
    cases h
  rw [List.getLast?_eq_some_getLast hne, Option.some.injEq] at h
  have hkept : ¬ p ((trimRight p t).getLast hne) = true := List.rdropWhile_last_not p t hne
  rwa [h, Bool.not_eq_true] at hkept

/-- A text that is not blank has something left when it is trimmed. -/
theorem exists_mem_trimRight {t : Text} (h : t.isBlank = false) :
    ∃ c ∈ trimRight CodePoint.isBlank t, c.isBlank = false := by
  have hne : trimRight CodePoint.isBlank t ≠ [] := by
    intro hnil
    rw [isBlank, List.all_eq_true.mpr (List.rdropWhile_eq_nil_iff.mp hnil)] at h
    cases h
  have hlast := List.getLast?_eq_some_getLast hne
  exact ⟨_, List.mem_of_getLast? hlast, of_getLast_trimRight hlast⟩

/-- A stripped text does not start with a blank. -/
theorem not_isBlank_of_head_strip {t : Text} {c : CodePoint} (h : t.strip.head? = some c) :
    c.isBlank = false := by
  obtain ⟨rest, hrest⟩ : t.strip <+: t.dropWhile CodePoint.isBlank := List.rdropWhile_prefix _ _
  have hkept := List.head?_dropWhile_not CodePoint.isBlank t
  rw [← hrest, List.head?_append, h] at hkept
  exact hkept

/-- The beginning of a stripped text has no blanks before it. -/
theorem strip_of_append_eq {t part rest : Text} (h : t.strip = part ++ rest) :
    part.strip = trimRight CodePoint.isBlank part := by
  have hhead : ∀ c, part.head? = some c → c.isBlank = false := fun c hc =>
    not_isBlank_of_head_strip (t := t) (by rw [h, List.head?_append, hc]; rfl)
  rw [strip, trim, trimLeft_of_head hhead]

/-- A stripped text with something behind it keeps all but the blanks at the end. -/
theorem strip_append {t more : Text} (ht : t.strip ≠ []) (hmore : more.isBlank = false) :
    strip (t.strip ++ more) = t.strip ++ trimRight CodePoint.isBlank more := by
  have hhead : ∀ c, (t.strip ++ more).head? = some c → c.isBlank = false := by
    intro c hc
    refine not_isBlank_of_head_strip (t := t) ?_
    obtain ⟨d, u, hdu⟩ := List.exists_cons_of_ne_nil ht
    rw [hdu] at hc ⊢
    exact hc
  obtain ⟨c, hc, -⟩ := exists_mem_trimRight hmore
  rw [strip, trim, trimLeft_of_head hhead, trimRight_append (List.ne_nil_of_mem hc)]

end Text

/-! ## The text of a list delimits itself -/

namespace Json

/-- White space between the parts of a JSON text is blank. -/
theorem not_isSpace_of_not_isBlank {c : CodePoint} (h : c.isBlank = false) : isSpace c = false := by
  rw [Bool.eq_false_iff, ne_eq, isSpace]
  simp only [Bool.or_eq_true, decide_eq_true_eq]
  rintro (((hc | hc) | hc) | hc) <;> rw [CodePoint.isBlank, hc] at h <;> cases h

namespace Reader

/-- A reader that has read a value takes nothing but blanks. -/
theorem run_closed {v : Value} {t : Text} (h : ∃ c ∈ t, isSpace c = false) :
    (⟨[], some v, .after⟩ : Reader).run t = .error .extraData := by
  induction t with
  | nil => simp at h
  | cons c t ih =>
    by_cases hspace : isSpace c = true
    · rw [run_cons (waits_closed v c hspace)]
      simp only [List.mem_cons, exists_eq_or_imp, hspace, Bool.true_eq_false, false_or] at h
      exact ih h
    · have hstep : (⟨[], some v, .after⟩ : Reader).step c = .error .extraData := by
        simp [step, stepAfter, hspace]
      rw [run, hstep]
      rfl

/-- Outside of all brackets, the reader is reading or has read what is no list. -/
inductive Scalar : Reader → Prop where
  | number (result : Option Value) (n : NumberState) : Scalar ⟨[], result, .number n⟩
  | literal (result : Option Value) (rest : Text) {v : Value} (h : ∀ items, v ≠ .list items) :
    Scalar ⟨[], result, .literal rest v⟩
  | read {v : Value} (h : ∀ items, v ≠ .list items) : Scalar ⟨[], some v, .after⟩

/-- An integer is no list. -/
theorem integer_ne_list {n : NumberState} {v : Value} (h : n.integer? = .ok v)
    (items : List Value) : v ≠ .list items := by
  unfold NumberState.integer? at h
  split_ifs at h <;> cases h <;> simp

/-- A number is no list. -/
theorem number_ne_list {n : NumberState} {v : Value} (h : n.finish = .ok (v, true))
    (items : List Value) : v ≠ .list items := by
  have hmap {complete : Bool} (h : n.integer?.map (·, complete) = .ok (v, true)) :
      v ≠ .list items := by
    match hinteger : n.integer? with
    | .error e => rw [hinteger] at h; cases h
    | .ok w =>
      rw [hinteger] at h
      cases h
      exact integer_ne_list hinteger items
  unfold NumberState.finish at h
  split at h
  · cases h
  · exact hmap h
  · exact hmap h
  · exact hmap h
  · cases h
    exact nofun
  · split_ifs at h
    · exact hmap h
    · cases h
  · split_ifs at h
    · exact hmap h
    · cases h
  · cases h
    exact nofun

/-- Behind a value that is no list nothing but blanks is read. -/
theorem Scalar.stepAfter {v : Value} (hv : ∀ items, v ≠ .list items) {r : Reader} {c : CodePoint}
    (h : (⟨[], some v, .after⟩ : Reader).stepAfter c = .ok r) : Scalar r := by
  simp only [Reader.stepAfter] at h
  split_ifs at h
  cases h
  exact .read hv

/-- A code point leaves such a reader outside of all brackets. -/
theorem Scalar.step {r q : Reader} (hr : Scalar r) {c : CodePoint} (h : r.step c = .ok q) :
    Scalar q := by
  cases hr with
  | number result n =>
    simp only [Reader.step] at h
    split at h
    · cases h
      exact .number result _
    · split_ifs at h
      · cases h
        exact .literal result _ (by simp)
      · cases hend : endNumber ⟨[], result, .number n⟩ n with
        | error e => rw [hend] at h; cases h
        | ok r =>
          obtain ⟨v, hv, rfl⟩ := endNumber_ok hend
          rw [hend] at h
          exact Scalar.stepAfter (number_ne_list hv) h
  | literal result rest hv =>
    simp only [Reader.step] at h
    split at h
    · exact Scalar.stepAfter hv h
    · split_ifs at h
      cases h
      exact .read hv
    · split_ifs at h
      cases h
      exact .literal result _ hv
  | read hv => exact Scalar.stepAfter hv h

/-- A text leaves such a reader outside of all brackets. -/
theorem Scalar.run {r q : Reader} (hr : Scalar r) {t : Text} (h : r.run t = .ok q) : Scalar q := by
  induction t generalizing r with
  | nil => cases h; exact hr
  | cons c t ih =>
    match hstep : r.step c with
    | .error e => rw [Reader.run, hstep] at h; cases h
    | .ok r₁ =>
      rw [run_cons hstep] at h
      exact ih (hr.step hstep) h

/-- A text may end after a value, or in a number outside of all brackets. -/
theorem finish_cases {r : Reader} {v : Value} (h : r.finish = .ok v) :
    r = ⟨[], some v, .after⟩ ∨
      ∃ result n, r = ⟨[], result, .number n⟩ ∧ n.finish = .ok (v, true) := by
  obtain ⟨stack, result, place⟩ := r
  cases place with
  | after =>
    rcases stack with _ | ⟨frame, stack⟩
    · cases result with
      | some w => cases h; exact .inl rfl
      | none => cases h
    · cases h
  | number n =>
    simp only [finish] at h
    cases hend : endNumber ⟨stack, result, .number n⟩ n with
    | error e => rw [hend] at h; cases h
    | ok r =>
      obtain ⟨w, hw, rfl⟩ := endNumber_ok hend
      rw [hend] at h
      rcases stack with _ | ⟨_ | _, stack⟩
      · cases h; exact .inr ⟨result, n, rfl, hw⟩
      all_goals cases h
  | string s =>
    simp only [finish] at h
    split at h <;> cases h
  | _ => cases h

/-- A text that is read as a list ends with the list. -/
theorem finish_eq_list {r : Reader} {items : List Value} (h : r.finish = .ok (.list items)) :
    r = ⟨[], some (.list items), .after⟩ := by
  rcases finish_cases h with hclosed | ⟨result, n, -, hn⟩
  · exact hclosed
  · exact absurd rfl (number_ne_list hn items)

/-- Outside of all brackets no list is reached any more. -/
theorem Scalar.finish_ne_list {r : Reader} (hr : Scalar r) (items : List Value) :
    r.finish ≠ .ok (.list items) := by
  intro h
  rw [finish_eq_list h] at hr
  cases hr with
  | read hv => exact hv items rfl

end Reader

open Reader

/-- A text that goes on, after the text of a list, with more than blanks is refused. -/
theorem read_append_of_list {t more : Text} {items : List Value} (h : read t = .ok (.list items))
    (hmore : ∃ c ∈ more, isSpace c = false) : read (t ++ more) = .error .extraData := by
  obtain ⟨r, hrun, hfinish⟩ := read_eq_ok_iff.mp h
  rw [finish_eq_list hfinish] at hrun
  have hfail : start.run (t ++ more) = .error .extraData := by
    rw [Reader.run_append, hrun]
    exact run_closed hmore
  match t with
  | [] => cases h
  | c :: t =>
    have hmark : ¬ c.val = 0xFEFF := by
      intro hmark
      rw [read, if_pos hmark] at h
      cases h
    rw [List.cons_append, read, if_neg hmark, ← List.cons_append, hfail]
    rfl

/-- Where the text of a list is followed by more than blanks, the list is read to its end first, so
that the stack has held. -/
theorem load_append_of_list {levels : Nat} {t more : Text} {items : List Value}
    (h : load levels t = .ok (.list items)) (hmore : ∃ c ∈ more, isSpace c = false) :
    load levels (t ++ more) = .error .extraData := by
  obtain ⟨hwithin, hread⟩ := load_eq_ok_iff.mp h
  obtain ⟨r, hrun, hfinish⟩ := read_eq_ok_iff.mp hread
  rw [finish_eq_list hfinish] at hrun
  have hwithin' : start.exceeds levels (t ++ more) = false := by
    rw [exceeds_append hrun hwithin, exceeds_closed]
  rw [load, hwithin', if_neg Bool.false_ne_true]
  exact read_append_of_list hread hmore

/-- A text that can be continued to that of a list, by more than blanks, is no value itself. -/
theorem read_of_append_list {t more : Text} {items : List Value}
    (h : read (t ++ more) = .ok (.list items)) (hmore : ∃ c ∈ more, isSpace c = false) :
    ∃ e, read t = .error e := by
  match hread : read t with
  | .error e => exact ⟨e, rfl⟩
  | .ok v =>
    obtain ⟨r, hrun, hfinish⟩ := read_eq_ok_iff.mp hread
    obtain ⟨q, hrun', hfinish'⟩ := read_eq_ok_iff.mp h
    have hrest : r.run more = .ok q := by
      rw [Reader.run_append, hrun] at hrun'
      exact hrun'
    rcases finish_cases hfinish with rfl | ⟨result, n, rfl, -⟩
    · rw [run_closed hmore] at hrest
      cases hrest
    · exact absurd hfinish' (((Scalar.number result n).run hrest).finish_ne_list items)

end Json

/-! ## Outputs -/

namespace LinterOutput

/-- Nothing is taken from the output: it is refused as a text that is no JSON, for an integer that
is too long, or because the stack has come to its end. -/
def IsUnreadable (parser : OutputParser) (o : LinterOutput) : Prop :=
  ∃ failure, o.issues parser = .error failure ∧
    ((∃ e, failure = .lint (.parse (.invalidJson e) (some o.stdout.strip))) ∨
      (∃ digits, failure = .fault (.numeral (.tooLong digits))) ∨ failure = .fault .stackExhausted)

/-- Output that is no JSON is unreadable, however far the stack goes. -/
theorem isUnreadable_of_read {parser : OutputParser} {o : LinterOutput} {e : Json.Error}
    (hprinted : o.stdout.strip ≠ []) (h : Json.read o.stdout.strip = .error e) :
    IsUnreadable parser o := by
  have hne : o.stdout.strip.isEmpty = false := by simpa using hprinted
  have hload : ∃ e, Json.load parser.levels o.stdout.strip = .error e := by
    by_cases hdeep : Json.load parser.levels o.stdout.strip = .error .tooDeep
    · exact ⟨_, hdeep⟩
    · exact ⟨e, (Json.load_eq_read hdeep).trans h⟩
  obtain ⟨e, he⟩ := hload
  simp only [IsUnreadable, issues, hne, he]
  cases e with
  | integerTooLong digits => exact ⟨_, rfl, .inr (.inl ⟨digits, rfl⟩)⟩
  | tooDeep => exact ⟨_, rfl, .inr (.inr rfl)⟩
  | _ => exact ⟨_, rfl, .inl ⟨_, rfl⟩⟩

/-- What issues are taken from is a list. -/
theorem load_of_issues {parser : OutputParser} {o : LinterOutput} {found : List Issue}
    (hprinted : o.stdout.strip ≠ []) (h : o.issues parser = .ok found) :
    ∃ items, Json.load parser.levels o.stdout.strip = .ok (.list items) := by
  have hne : o.stdout.strip.isEmpty = false := by simpa using hprinted
  simp only [issues, hne] at h
  match hread : Json.load parser.levels o.stdout.strip with
  | .ok (.list items) => exact ⟨items, rfl⟩
  | .error e => cases e <;> simp [hread] at h
  | .ok .null | .ok (.bool _) | .ok (.int _) | .ok (.float _) | .ok (.text _) | .ok (.moment _)
  | .ok (.table _) => simp [hread] at h

/-- When output is taken, nothing is taken from a proper beginning of it, nor from it with more than
blanks behind it, whatever the exit status. -/
theorem cut_or_continued_output_refused {parser : OutputParser} {o : LinterOutput}
    {found : List Issue} (htaken : o.issues parser = .ok found) (hprinted : o.stdout.strip ≠ [])
    (severity : Severity) (exitCode : Option Int) (stderr : Text) :
    (∀ part : Text, part <+: o.stdout.strip → part ≠ o.stdout.strip → part.isBlank = false →
      ∀ levels, IsUnreadable ⟨severity, levels⟩ { stdout := part, exitCode, stderr }) ∧
    ∀ more : Text, more.isBlank = false →
      issues ⟨severity, parser.levels⟩ { stdout := o.stdout.strip ++ more, exitCode, stderr }
        = .error (.lint (.parse (.invalidJson .extraData)
            (some (o.stdout.strip ++ Text.trimRight CodePoint.isBlank more)))) := by
  obtain ⟨items, hload⟩ := load_of_issues hprinted htaken
  have hlist := (Json.load_eq_ok_iff.mp hload).2
  refine ⟨fun part hpart hproper hkept levels => ?_, fun more hmore => ?_⟩
  · obtain ⟨rest, hrest⟩ := hpart
    have hstrip : part.strip = Text.trimRight CodePoint.isBlank part :=
      Text.strip_of_append_eq hrest.symm
    obtain ⟨blanks, hblanks⟩ : part.strip <+: part := hstrip ▸ List.rdropWhile_prefix _ _
    obtain ⟨c, hc, -⟩ := Text.exists_mem_trimRight hkept
    -- The last code point of the whole was cut off, and it is not blank.
    have hlost : ∃ c ∈ blanks ++ rest, Json.isSpace c = false := by
      have hne : rest ≠ [] := by
        rintro rfl
        exact hproper (by simpa using hrest)
      have hlast : o.stdout.strip.getLast? = some (rest.getLast hne) := by
        rw [← hrest, List.getLast?_append, List.getLast?_eq_some_getLast hne]
        rfl
      exact ⟨rest.getLast hne, by simp,
        Json.not_isSpace_of_not_isBlank (Text.of_getLast_trimRight hlast)⟩
    have hwhole : Json.read (part.strip ++ (blanks ++ rest)) = .ok (.list items) := by
      rw [← List.append_assoc, hblanks, hrest, hlist]
    obtain ⟨e, he⟩ := Json.read_of_append_list hwhole hlost
    exact isUnreadable_of_read (o := { stdout := part, exitCode, stderr })
      (hstrip ▸ List.ne_nil_of_mem hc) he
  · have hstrip := Text.strip_append hprinted hmore
    obtain ⟨c, hc, hcblank⟩ := Text.exists_mem_trimRight hmore
    have hread := Json.load_append_of_list hload
      ⟨c, hc, Json.not_isSpace_of_not_isBlank hcblank⟩
    have hne : (o.stdout.strip ++ Text.trimRight CodePoint.isBlank more).isEmpty = false := by
      simp [hprinted]
    simp only [issues, hstrip, hne, hread]
    rfl

/-- One issue, with blanks around it. -/
def printedIssue : Text :=
  " [\x7b\"line\": 1, \"start_column\": 2, \"end_column\": 4, \"message\": \"a [b]\"\x7d]\n"

/-- The list is cut off behind a bracket that stands in a text, and a second list is put behind the
whole. -/
theorem printed_issue_cut_or_doubled :
    issues {} { stdout := printedIssue, exitCode := some 0, stderr := [] }
        = .ok [⟨1, 2, 4, "a [b]", .warning, none⟩] ∧ printedIssue.strip ≠ [] ∧
      IsUnreadable {}
        { stdout := printedIssue.strip.take 65, exitCode := some 0, stderr := [] } ∧
      issues {} { stdout := printedIssue.strip ++ "\n[]\n", exitCode := some 0, stderr := [] }
        = .error (.lint (.parse (.invalidJson .extraData) (some (printedIssue.strip ++ "\n[]")))) := by
  have htaken : issues {} { stdout := printedIssue, exitCode := some 0, stderr := [] }
      = .ok [⟨1, 2, 4, "a [b]", .warning, none⟩] := rfl
  have hprinted : printedIssue.strip ≠ [] := by decide +kernel
  obtain ⟨hcut, hcontinued⟩ := cut_or_continued_output_refused
    (o := { stdout := printedIssue, exitCode := some 0, stderr := [] }) htaken hprinted
    .warning (some 0) []
  exact ⟨htaken, hprinted,
    hcut _ (List.take_prefix 65 _) (by decide +kernel) (by decide +kernel) _,
    hcontinued "\n[]\n" (by decide +kernel)⟩

end LinterOutput

end LiveLint
