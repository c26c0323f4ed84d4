import LiveLint.Proofs.Issue.AllOrNothing
import LiveLint.Proofs.Json.RoundTrip
import LiveLint.Proofs.Text.Words

/-!
# Refused output is quoted on one line

An error about linter output is told on one line, however many lines the output has, and holds the
output as it was (`LinterOutput.refusals_quote_one_line`). There are three places at which output is
refused (`LinterOutput.Refusal`), and in all of them what is kept of the output is quoted as an
excerpt: its words with single spaces between them, up to a limit (`Excerpted`).

Such words stay of that form when they are cut and dots are put behind the cut, also where the cut
is next to a space, and the excerpt of an excerpt is the excerpt.
-/

namespace LiveLint

/-- A text breaks into lines here. -/
def CodePoint.isLineBreak (c : CodePoint) : Bool :=
  inIntervals [(0xA, 0xD), (0x1C, 0x1E), (0x85, 0x85), (0x2028, 0x2029)] c.val

namespace Text

/-- The text does not break into lines. -/
def OneLine (t : Text) : Prop := ∀ c ∈ t, c.isLineBreak = false

instance (t : Text) : Decidable t.OneLine :=
  inferInstanceAs (Decidable (∀ c ∈ t, c.isLineBreak = false))

/-- Two texts on one line stay on one line. -/
theorem OneLine.append {s t : Text} (hs : s.OneLine) (ht : t.OneLine) : (s ++ t).OneLine :=
  List.forall_mem_append.2 ⟨hs, ht⟩

/-- Integers are written on one line. -/
theorem oneLine_ofInt (n : Int) : (ofInt n).OneLine := by
  intro c hc
  obtain ⟨hlow, hhigh⟩ := Json.printable_of_mem_ofInt hc
  simp only [CodePoint.isLineBreak, inIntervals, List.any_cons, List.any_nil, Bool.or_false,
    Bool.or_eq_false_iff, Bool.and_eq_false_iff, decide_eq_false_iff_not]
  omega

/-- Where single spaces are all that separates words, nothing breaks. -/
theorem Lined.oneLine {t : Text} (h : t.Lined) : t.OneLine := by
  intro c hc
  have hbreak : c.isLineBreak = true → c.isBlank = true := by
    simp only [CodePoint.isLineBreak, CodePoint.isBlank, inIntervals, blankIntervals, List.any_cons,
      List.any_nil, Bool.or_false, Bool.or_eq_true, Bool.and_eq_true, decide_eq_true_eq]
    omega
  rw [Bool.eq_false_iff]
  intro hc'
  rw [h.eq_space_of_isBlank c hc (hbreak hc')] at hc'
  exact absurd hc' (by decide)

end Text

/-! ## Excerpts -/

section

open Text (FallsInto Lined IsWord joinWith blankWords)

/-- What an error quotes of the text that it keeps. -/
inductive Excerpted : Option Text → Text → Prop
  | nothing : Excerpted none "<empty>"
  /-- The words of the text, with single spaces between them. -/
  | whole {t : Text} {ws : List Text} (hne : t ≠ []) (hws : FallsInto CodePoint.isBlank t ws)
      (hshort : (joinWith " " ws).length ≤ 200) : Excerpted (some t) (joinWith " " ws)
  /-- The beginning of what is longer, with dots behind it. -/
  | cut {t : Text} {ws : List Text} (hws : FallsInto CodePoint.isBlank t ws)
      (hlong : 200 < (joinWith " " ws).length) :
      Excerpted (some t) ((joinWith " " ws).take 200 ++ "...")

variable {t : Text}

/-- The excerpt of a short text is its words with single blanks between them. -/
theorem excerpt_of_short (hne : t ≠ []) (h : (joinWith " " (blankWords t)).length ≤ 200) :
    excerpt (some t) = joinWith " " (blankWords t) := by
  cases t with
  | nil => exact absurd rfl hne
  | cons c t => exact if_pos h

/-- The excerpt of a long text is cut after two hundred code points. -/
theorem excerpt_of_long (h : 200 < (joinWith " " (blankWords t)).length) :
    excerpt (some t) = (joinWith " " (blankWords t)).take 200 ++ "..." := by
  cases t with
  | nil => exact absurd h (by decide)
  | cons c t => exact if_neg (Nat.not_le.2 h)

/-- What is quoted of a text that is kept is its excerpt. -/
theorem excerpted_iff {kept : Option Text} (hkept : kept ≠ some []) {quote : Text} :
    Excerpted kept quote ↔ quote = excerpt kept := by
  constructor
  · intro h
    cases h with
    | nothing => rfl
    | whole hne hws hshort =>
      obtain rfl := hws.words_eq
      exact (excerpt_of_short hne hshort).symm
    | cut hws hlong =>
      obtain rfl := hws.words_eq
      exact (excerpt_of_long hlong).symm
  · rintro rfl
    match kept with
    | none => exact .nothing
    | some t =>
      have hne : t ≠ [] := fun hnil => hkept (congrArg some hnil)
      have hws := Text.fallsInto_words CodePoint.isBlank t
      by_cases h : (joinWith " " (blankWords t)).length ≤ 200
      · rw [excerpt_of_short hne h]
        exact .whole hne hws h
      · rw [excerpt_of_long (Nat.not_le.1 h)]
        exact .cut hws (Nat.not_le.1 h)

/-- An excerpt is two hundred code points long at most, and three points more where it is cut. -/
theorem length_excerpt_le (kept : Option Text) : (excerpt kept).length ≤ 203 := by
  match kept with
  | none | some [] => decide
  | some (c :: t) =>
    by_cases h : (joinWith " " (blankWords (c :: t))).length ≤ 200
    · rw [excerpt_of_short (List.cons_ne_nil c t) h]
      omega
    · have hdots : (Text.ofString "...").length = 3 := by decide
      rw [excerpt_of_long (Nat.not_le.1 h), List.length_append, hdots, List.length_take]
      omega

/-- An excerpt has words with single spaces between them, if the text has words at all. -/
theorem lined_excerpt (h : ∃ c ∈ t, c.isBlank = false) : Lined (excerpt (some t)) := by
  have hfalls := Text.fallsInto_words CodePoint.isBlank t
  have hflat : Lined (joinWith " " (blankWords t)) :=
    Text.lined_joinWith (hfalls.ne_nil h) hfalls.isWord
  have hdots : IsWord "..." := by
    unfold IsWord
    decide
  by_cases hshort : (joinWith " " (blankWords t)).length ≤ 200
  · obtain ⟨c, hc, -⟩ := h
    rw [excerpt_of_short (List.ne_nil_of_mem hc) hshort]
    exact hflat
  · rw [excerpt_of_long (Nat.not_le.1 hshort)]
    exact hflat.cut 200 hdots

/-- Of a text without words nothing is left to break. -/
theorem oneLine_excerpt (kept : Option Text) : (excerpt kept).OneLine := by
  match kept with
  | none | some [] => decide
  | some (c :: t) =>
    by_cases h : ∃ d ∈ c :: t, d.isBlank = false
    · exact (lined_excerpt h).oneLine
    · have hnone : blankWords (c :: t) = [] := by
        refine (FallsInto.gap fun d hd => ?_).words_eq
        rw [← Bool.not_eq_false]
        exact fun hd' => h ⟨d, hd, hd'⟩
      have hempty : excerpt (some (c :: t)) = [] := by
        rw [excerpt_of_short (List.cons_ne_nil c t) (by rw [hnone]; decide), hnone]
        rfl
      rw [hempty]
      decide

/-- What a text with words is quoted as is quoted as it is. -/
theorem excerpt_excerpt (h : ∃ c ∈ t, c.isBlank = false) :
    excerpt (some (excerpt (some t))) = excerpt (some t) := by
  have hline := lined_excerpt h
  have hflat : joinWith " " (blankWords (excerpt (some t))) = excerpt (some t) :=
    hline.joinWith_words
  have hne : excerpt (some t) ≠ [] := fun hnil =>
    hline.words_ne_nil (by rw [hnil]; rfl)
  by_cases hshort : (excerpt (some t)).length ≤ 200
  · rw [excerpt_of_short hne (by rwa [hflat]), hflat]
  · have hlong : 200 < (joinWith " " (blankWords t)).length := by
      by_contra hfits
      obtain ⟨c, hc, -⟩ := h
      rw [excerpt_of_short (List.ne_nil_of_mem hc) (Nat.not_lt.1 hfits)] at hshort
      exact hfits (Nat.not_le.1 hshort)
    have hcut := excerpt_of_long hlong
    have htake : (excerpt (some t)).take 200 = (joinWith " " (blankWords t)).take 200 := by
      rw [hcut, List.take_append_of_le_length (by rw [List.length_take]; omega), List.take_take,
        Nat.min_self]
    rw [excerpt_of_long (by rw [hflat]; exact Nat.not_le.1 hshort), hflat, htake, ← hcut]

end

/-! ## Refused output -/

/-- The text that an error about output keeps. -/
def LintError.kept : LintError → Option Text
  | .parse _ output | .malformedIssue _ _ output => output
  | _ => none

namespace LinterOutput

variable {parser : OutputParser} {o : LinterOutput} {e : LintError}

/-- The errors with which output is refused. -/
inductive Refusal (o : LinterOutput) : LintError → Prop
  /-- Nothing was printed, and the linter failed. -/
  | blank (h : o.stdout.strip = []) (status : Int) :
      Refusal o (.parse (.noOutput status) (if o.stderr.isEmpty then none else some o.stderr))
  /-- What was printed is no JSON, or no list. -/
  | noList (h : o.stdout.strip ≠ []) {cause : ParseCause} (hcause : cause.message.OneLine) :
      Refusal o (.parse cause (some o.stdout.strip))
  /-- An issue is malformed. -/
  | malformed (h : o.stdout.strip ≠ []) (index : Int) {missing : List Text}
      (hmissing : ∀ field ∈ missing, field ∈ fields) :
      Refusal o (.malformedIssue index missing (some o.stdout))

/-- The names of kinds have no line breaks. -/
theorem oneLine_kindName (v : Value) : v.kindName.OneLine := by
  unfold Value.kindName
  split <;> decide

/-- Output is refused in one of three ways. -/
theorem refusal_of_issues (h : o.issues parser = .error (.lint e)) : Refusal o e := by
  unfold issues at h
  dsimp only at h
  split at h
  · rename_i hblank
    split at h
    · cases h
      exact .blank (List.isEmpty_iff.1 hblank) _
    · cases h
  rename_i hblank
  have hprinted : o.stdout.strip ≠ [] := fun hnil => hblank (List.isEmpty_iff.2 hnil)
  split at h
  · cases h
  · cases h
  case h_3 cause hshort hwithin hload =>
    cases h
    refine .noList hprinted (Text.OneLine.append (by decide) ?_)
    -- An integer that is too long was excluded above, and the texts of the other causes are fixed.
    cases cause
    case integerTooLong digits => exact absurd rfl (hshort digits)
    all_goals decide
  case h_4 items _ =>
    split at h
    · cases h
    · rename_i hfrom
      cases h
      obtain ⟨before, item, after, -, -, -, rfl⟩ := issuesFrom_eq_error hfrom
      exact .malformed hprinted _ fun field hfield => List.mem_of_mem_filter hfield
  case h_5 v _ _ =>
    cases h
    exact .noList hprinted (Text.OneLine.append (by decide) (oneLine_kindName v))

/-- Every refusal says that output cannot be parsed. -/
theorem Refusal.isParse (h : Refusal o e) : Text.ofString "ParseError" ∈ e.kinds := by
  cases h <;> simp [LintError.kinds]

/-- No refusal keeps an empty text. -/
theorem Refusal.kept_ne (h : Refusal o e) : e.kept ≠ some [] := by
  cases h with
  | blank =>
    unfold LintError.kept
    dsimp only
    split
    · nofun
    · rename_i hsome
      exact fun hkept => hsome (List.isEmpty_iff.2 (Option.some.inj hkept))
  | noList h => exact fun hkept => h (Option.some.inj hkept)
  | malformed h =>
    intro hkept
    rw [Option.some.inj hkept] at h
    exact h rfl

/-- A refusal says its reason on one line, and quotes an excerpt of what it keeps. -/
theorem Refusal.exists_reason (h : Refusal o e) :
    ∃ reason : Text, e.message = reason ++ " (output: " ++ excerpt e.kept ++ ")" ∧
      reason.OneLine := by
  cases h with
  | blank _ status =>
    refine ⟨_, rfl, Text.OneLine.append (Text.OneLine.append ?_ (Text.oneLine_ofInt status)) ?_⟩
    · decide
    · decide
  | noList _ hcause => exact ⟨_, rfl, hcause⟩
  | @malformed _ index missing hmissing =>
    refine ⟨_, rfl, Text.OneLine.append (Text.OneLine.append (Text.OneLine.append ?_
      (Text.oneLine_ofInt index)) ?_) ?_⟩
    · decide
    · decide
    · intro c hc
      have hfields : ∀ field ∈ fields, Text.OneLine field := by decide
      have hcomma : Text.OneLine ", " := by decide
      obtain hsep | ⟨field, hfield, hcf⟩ := Json.mem_joinWith hc
      · exact hcomma c hsep
      · exact hfields field (hmissing field hfield) c hcf

/-- What an error says of the output that it refuses: it is told on one line, which quotes an
excerpt of what is kept, and all the evidence is kept. -/
structure Tells (o : LinterOutput) (e : LintError) : Prop where
  isParse : Text.ofString "ParseError" ∈ e.kinds
  oneLine : e.message.OneLine
  quotes : ∃ reason : Text, e.message = reason ++ " (output: " ++ excerpt e.kept ++ ")"
  excerpted : ∀ quote, Excerpted e.kept quote ↔ quote = excerpt e.kept
  short : (excerpt e.kept).length ≤ 203
  /-- Where nothing was printed, standard error is kept, if there is any. -/
  blank : (∀ c ∈ o.stdout, c.isBlank = true) →
    e.kept = if o.stderr = [] then none else some o.stderr
  /-- What was printed is kept, up to blank margins. -/
  printed : (∃ c ∈ o.stdout, c.isBlank = false) →
    ∃ before output after, o.stdout = before ++ output ++ after ∧ e.kept = some output ∧
      (∀ c ∈ before, c.isBlank = true) ∧ ∀ c ∈ after, c.isBlank = true

/-- A refusal tells all that is to be told of the output. -/
theorem Refusal.tells (h : Refusal o e) : Tells o e where
  isParse := h.isParse
  oneLine := by
    obtain ⟨reason, hmessage, hreason⟩ := h.exists_reason
    have hopen : Text.OneLine " (output: " := by decide
    have hclose : Text.OneLine ")" := by decide
    rw [hmessage]
    exact ((hreason.append hopen).append (oneLine_excerpt e.kept)).append hclose
  quotes := h.exists_reason.imp fun _ => And.left
  excerpted _ := excerpted_iff h.kept_ne
  short := length_excerpt_le e.kept
  blank hblank := by
    have hnone := Text.strip_eq_nil_iff.2 hblank
    cases h with
    | blank => simp only [LintError.kept, List.isEmpty_iff]
    | noList hprinted | malformed hprinted => exact absurd hnone hprinted
  printed hprinted := by
    cases h with
    | blank hnone =>
      obtain ⟨c, hc, hfalse⟩ := hprinted
      exact absurd (hfalse.symm.trans (Text.strip_eq_nil_iff.1 hnone c hc)) Bool.false_ne_true
    | noList =>
      obtain ⟨before, after, hout, hbefore, hafter⟩ := o.stdout.exists_margins
      exact ⟨before, _, after, hout, rfl, hbefore, hafter⟩
    | malformed =>
      have hnone : ∀ c ∈ ([] : Text), c.isBlank = true := fun c hc => absurd hc List.not_mem_nil
      refine ⟨[], o.stdout, [], ?_, rfl, hnone, hnone⟩
      rw [List.nil_append, List.append_nil]

/-- The excerpt of a text with words begins with a word, has no two blanks next to each other, and
is an excerpt of itself. -/
structure Settles (t : Text) : Prop where
  again : excerpt (some (excerpt (some t))) = excerpt (some t)
  head : ∀ c ∈ (excerpt (some t)).head?, c.isBlank = false
  apart : (excerpt (some t)).IsChain fun a b => ¬ (a.isBlank = true ∧ b.isBlank = true)

/-- Output that cannot be read is quoted on one line and kept as it is, and excerpts are settled. -/
theorem refusals_quote_one_line :
    (∀ (parser : OutputParser) (o : LinterOutput) (e : LintError),
      o.issues parser = .error (.lint e) → Tells o e) ∧
    ∀ t : Text, (∃ c ∈ t, c.isBlank = false) → Settles t := by
  refine ⟨fun parser o e h => (refusal_of_issues h).tells, fun t ht => ?_⟩
  have hline := lined_excerpt ht
  exact ⟨excerpt_excerpt ht, hline.head_not_isBlank, hline.isChain_not_isBlank⟩

/-- A hundred and fifty lines with one letter each, after a failing exit. -/
def manyLines : LinterOutput where
  stdout := (List.replicate 150 (Text.ofString "x\r\n")).flatten
  exitCode := some 1
  stderr := "no such dialect"

/-- The excerpt of the lines is cut behind a space. -/
theorem many_lines_quoted_on_one :
    let e : LintError := .parse (.invalidJson .valueExpected) (some manyLines.stdout.strip)
    let quote : Text := (List.replicate 100 (Text.ofString "x ")).flatten ++ "..."
    manyLines.issues {} = .error (.lint e) ∧ Tells manyLines e ∧
      e.message = Text.ofString "Linter output is not valid JSON: Expecting value (output: "
        ++ quote ++ ")" ∧
      (∃ c ∈ manyLines.stdout, c.isBlank = false) ∧ Settles manyLines.stdout := by
  intro e quote
  have hrefused : manyLines.issues {} = .error (.lint e) := rfl
  have hprinted : ∃ c ∈ manyLines.stdout, c.isBlank = false :=
    ⟨CodePoint.ofChar 'x', by decide +kernel, by decide⟩
  exact ⟨hrefused, refusals_quote_one_line.1 {} manyLines e hrefused, by decide +kernel,
    hprinted, refusals_quote_one_line.2 manyLines.stdout hprinted⟩

end LinterOutput

end LiveLint
