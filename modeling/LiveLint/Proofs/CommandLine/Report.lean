import LiveLint.CommandLine.Check
import LiveLint.Proofs.Console.Colourless
import LiveLint.Proofs.Console.Markup
import LiveLint.Proofs.Json.RoundTrip

/-!
# Reports are verbatim unless the label is marked up

Without colours a report shows labels and messages as they are: always in the lines of the
diagnostics, and in the heading exactly if markup finds nothing in the label
(`Check.ColourlessReport`). The lines are made of styled text, which is not read again. The heading
is made of a title, which is.
-/

namespace LiveLint

namespace Check

open Printing

variable {c : Console} {label : Text} {d : Diagnostic} {ds : List Diagnostic}

/-! ## What a report says -/

/-- The number of a line or a column, if there is one. -/
def place (n : Option Int) : Text := (n.map Text.ofInt).getD "None"

/-- What is said of a diagnostic. -/
def row (label : Text) (d : Diagnostic) : Text :=
  label ++ ":" ++ place d.line ++ ":" ++ place d.column ++ ": " ++ d.severity.name ++ " " ++ d.message
    ++ " [" ++ Text.ofNat d.range.start ++ ":" ++ Text.ofNat d.range.stop ++ "]"

def rows (label : Text) (ds : List Diagnostic) : Text := ds.flatMap fun d => row label d ++ "\n"

/-- The label between dashes, below a blank line. -/
def title (label : Text) : Text := Text.ofString "\n--- " ++ label ++ " ---"

/-- A report with every label and message character for character. -/
def verbatim (label : Text) (ds : List Diagnostic) : Text := title label ++ "\n" ++ rows label ds

/-- How a report without colours comes out. -/
structure ColourlessReport (c : Console) (label : Text) (ds : List Diagnostic) : Prop where
  /-- It is verbatim if markup finds nothing in the label, and there is room for anything at all. -/
  verbatim_iff : Prints (report c label ds) (.ok ()) (verbatim label ds) ↔
    c.width ≠ 0 ∧ Markup.IsPlain label
  /-- The diagnostics are, whatever became of the heading, -/
  rows : ∀ t, c.width ≠ 0 → Prints (c.heading label) (.ok ()) t →
    Prints (report c label ds) (.ok ()) (t ++ Check.rows label ds)
  /-- unless it fails. -/
  fault : ∀ f t, Prints (c.heading label) (.error f) t → Prints (report c label ds) (.error f) t

/-! ## Lines -/

/-- The style of a severity is always one that can be shown. -/
theorem showable_line (label : Text) (d : Diagnostic) : (line label d).Showable := by
  have hstyle (s : Severity) : ∃ style, Theme.style s.colour.name = .ok style := by
    have hok : (Theme.style s.colour.name).toBool = true := by cases s <;> decide +kernel
    cases h : Theme.style s.colour.name with
    | ok style => exact ⟨style, rfl⟩
    | error e =>
      rw [h] at hok
      cases hok
  obtain ⟨style, hstyle⟩ := hstyle d.severity
  exact (((StyledText.showable_plain _).append (StyledText.showable_inStyle hstyle _)).append
    (StyledText.showable_plain _))

/-- A line or column is shown as it is. -/
theorem shows_place (n : Option Int) : StyledText.Shows (place n) := by
  cases n with
  | none => decide
  | some n =>
    intro x hx
    obtain ⟨hlow, hhigh⟩ := Json.printable_of_mem_ofInt hx
    exact StyledText.isShown_of_le hlow (by omega)

/-- A row is shown as it is if its label and its message are. -/
theorem shows_row (hlabel : StyledText.Shows label) (hmessage : StyledText.Shows d.message) :
    StyledText.Shows (row label d) := by
  have hname : StyledText.Shows d.severity.name := by cases d.severity <;> decide
  have hnat (n : Nat) : StyledText.Shows (Text.ofNat n) := shows_place (some (.ofNat n))
  have hcolon : StyledText.Shows ":" := by decide
  have hplace := (((hlabel.append hcolon).append (shows_place d.line)).append hcolon).append
    (shows_place d.column)
  have hbefore := (hplace.append (by decide : StyledText.Shows ": ")).append hname
  have hmiddle := (hbefore.append (by decide : StyledText.Shows " ")).append hmessage
  have hstart := (hmiddle.append (by decide : StyledText.Shows " [")).append (hnat d.range.start)
  have hstop := (hstart.append hcolon).append (hnat d.range.stop)
  exact hstop.append (by decide : StyledText.Shows "]")

/-- What is printed of a diagnostic is its row. -/
theorem text_line (hlabel : StyledText.Shows label) (hmessage : StyledText.Shows d.message) :
    (line label d).text = row label d := by
  have hclean : (line label d).text = StyledText.clean (row label d) := by
    simp only [line, row, StyledText.text_append, StyledText.plain, StyledText.inStyle,
      StyledText.clean, List.filter_append, List.append_assoc]
    rfl
  rw [hclean, (shows_row hlabel hmessage).clean]

/-- Without colours the rows come out as they are, one line for each diagnostic. -/
theorem prints_rows (hcolour : c.colour = false) (hwidth : c.width ≠ 0)
    (hlabel : StyledText.Shows label) (hmessages : ∀ d ∈ ds, StyledText.Shows d.message) :
    Prints (ds.forM fun d => c.print (line label d)) (.ok ()) (rows label ds) := by
  have hcolours : c.showsColours = false := by rw [Console.showsColours, hcolour, Bool.false_and]
  induction ds with
  | nil => exact prints_pure ()
  | cons d ds ih =>
    rw [List.forall_mem_cons] at hmessages
    have hline := text_line hlabel hmessages.1
    have hfirst := Console.prints_text hcolours hwidth (showable_line label d)
      (hline ▸ shows_row hlabel hmessages.1)
    rw [hline] at hfirst
    exact hfirst.bind (ih hmessages.2)

/-! ## Headings -/

/-- The dashes around a heading are no markup, so that only the label can be. -/
theorem isPlain_title_iff : Markup.IsPlain (title label) ↔ Markup.IsPlain label := by
  have hbefore : ∀ x ∈ Text.ofString "\n--- ", Markup.isMark x = false := by decide
  have hafter : ∀ x ∈ CodePoint.ofChar ' ' :: Text.ofString "---",
      Markup.isMark x = false ∧ x ≠ Markup.closeBracket := by decide
  exact Markup.isPlain_between_iff hbefore (by decide) hafter

/-- Without colours a heading is the title, read as markup. -/
theorem heading_eq (hcolour : c.colour = false) (label : Text) :
    c.heading label = (c.marked (title label) >>= c.print) := by
  rw [Console.heading, if_neg (Bool.eq_false_iff.1 hcolour)]
  rfl

/-- A heading with faulty markup fails before anything is printed. -/
theorem heading_fails (hcolour : c.colour = false) {e : Markup.Error}
    (h : Markup.read (title label) = .error e) :
    Prints (c.heading label) (.error (.ofMarkup e)) [] := by
  have hfault : Prints (c.marked (title label)) (.error (.ofMarkup e)) [] := by
    rw [Console.marked, h]
    exact prints_throw _
  rw [heading_eq hcolour]
  exact hfault.bind_error

/-- A heading is printed as it is exactly on a console with cells and for a label without markup. -/
theorem prints_heading_iff (hcolour : c.colour = false) (hlabel : StyledText.Shows label) :
    Prints (c.heading label) (.ok ()) (title label ++ "\n")
      ↔ c.width ≠ 0 ∧ Markup.IsPlain label := by
  have hcolours : c.showsColours = false := by rw [Console.showsColours, hcolour, Bool.false_and]
  have hshows : StyledText.Shows (title label) :=
    ((by decide : StyledText.Shows "\n--- ").append hlabel).append
      (by decide : StyledText.Shows " ---")
  have hmarked {r : StyledText} (h : Markup.read (title label) = .ok r) :
      Prints (c.marked (title label)) (.ok r) [] := by
    rw [Console.marked, h, hcolours]
    exact prints_pure r
  rw [← isPlain_title_iff]
  constructor
  · intro h
    cases hread : Markup.read (title label) with
    | error e => cases ((heading_fails hcolour hread).unique h).1
    | ok r =>
      rw [heading_eq hcolour] at h
      obtain ⟨hwithin, hplain⟩ := Markup.text_of_read hread
      obtain ⟨ended, printed, hprint, -, hnone⟩ := c.writes_print r
      obtain ⟨rfl, hprinted⟩ := ((hmarked hread).bind hprint).unique h
      rw [List.nil_append] at hprinted
      have hwidth : c.width ≠ 0 := by
        intro hzero
        rw [hnone hzero] at hprinted
        exact List.append_ne_nil_of_right_ne_nil _ (List.cons_ne_nil _ _) hprinted.symm
      -- Markup adds no blanks, so that the tabs of a label cannot come from it.
      have htab : StyledText.tab ∉ r.text := fun hmem =>
        (hshows _ (hwithin.blank_mem _ hmem (by decide))).2.1 rfl
      have htext := Console.text_of_prints hcolours hwidth htab hprint
      exact ⟨hwidth, hplain (List.append_cancel_right (htext.symm.trans hprinted))⟩
  · rintro ⟨hwidth, hplain⟩
    have hread := Markup.read_of_isPlain hplain
    rw [hshows.clean] at hread
    have hprint := Console.prints_text hcolours hwidth
      (t := ⟨title label, []⟩) (fun s hs => absurd hs List.not_mem_nil) hshows
    rw [heading_eq hcolour]
    exact (hmarked hread).bind hprint

/-! ## Reports -/

/-- A report on diagnostics is a heading and then a line for each. -/
theorem report_eq (c : Console) (label : Text) (hne : ds ≠ []) :
    report c label ds
      = (c.heading label >>= fun _ => ds.forM fun d => c.print (line label d)) := by
  rw [report, if_neg (by simpa using hne)]

/-- Below whatever the heading shows, the diagnostics are told verbatim. -/
theorem prints_report (hcolour : c.colour = false) (hwidth : c.width ≠ 0) (hne : ds ≠ [])
    (hlabel : StyledText.Shows label) (hmessages : ∀ d ∈ ds, StyledText.Shows d.message) {t : Text}
    (h : Prints (c.heading label) (.ok ()) t) :
    Prints (report c label ds) (.ok ()) (t ++ rows label ds) := by
  rw [report_eq c label hne]
  exact h.bind (prints_rows hcolour hwidth hlabel hmessages)

/-- A report fails where its heading does, and prints no more. -/
theorem report_fails (hne : ds ≠ []) {f : Fault} {t : Text}
    (h : Prints (c.heading label) (.error f) t) : Prints (report c label ds) (.error f) t := by
  rw [report_eq c label hne]
  exact h.bind_error

/-- What is printed verbatim has a verbatim heading. -/
theorem prints_heading_of_verbatim (hcolour : c.colour = false) (hne : ds ≠ [])
    (hlabel : StyledText.Shows label) (hmessages : ∀ d ∈ ds, StyledText.Shows d.message)
    (h : Prints (report c label ds) (.ok ()) (verbatim label ds)) :
    Prints (c.heading label) (.ok ()) (title label ++ "\n") := by
  have hlines (_ : Unit) := Console.writes_forM (fun d => c.writes_print (line label d)) ds
  rw [report_eq c label hne] at h
  have hwidth : c.width ≠ 0 := by
    intro hzero
    obtain ⟨ended, printed, hprints, -, hnone⟩ := (c.writes_heading label).bind hlines
    obtain ⟨-, hprinted⟩ := h.unique hprints
    rw [hnone hzero, verbatim, title, List.append_assoc, List.append_assoc] at hprinted
    cases hprinted
  obtain ⟨_, t, printed, hheading, hprinted, hall⟩ := (c.writes_heading label).bind_inv hlines h
  obtain ⟨-, rfl⟩ := hprinted.unique (prints_rows hcolour hwidth hlabel hmessages)
  rw [List.append_cancel_right hall]
  exact hheading

/-- Printable code points are shown as they are. -/
theorem shows_of_isPrintable {t : Text} (h : ∀ x ∈ t, x.isPrintable = true) : StyledText.Shows t :=
  fun x hx => StyledText.isShown_of_isPrintable (h x hx)

/-- Whatever printable characters the label and the messages consist of, without colours a report
has its lines verbatim, and is verbatim as a whole exactly if markup finds nothing in the label. -/
theorem report_verbatim_unless_marked_up (hcolour : c.colour = false) (hne : ds ≠ [])
    (hlabel : ∀ x ∈ label, x.isPrintable = true)
    (hmessages : ∀ d ∈ ds, ∀ x ∈ d.message, x.isPrintable = true) : ColourlessReport c label ds := by
  have hlabel := shows_of_isPrintable hlabel
  have hmessages : ∀ d ∈ ds, StyledText.Shows d.message := fun d hd =>
    shows_of_isPrintable (hmessages d hd)
  have hheading := prints_heading_iff hcolour hlabel
  refine ⟨⟨fun h => ?_, fun ⟨hwidth, hplain⟩ => ?_⟩, fun t hwidth h => ?_, fun f t h => ?_⟩
  · exact hheading.1 (prints_heading_of_verbatim hcolour hne hlabel hmessages h)
  · exact prints_report hcolour hwidth hne hlabel hmessages (hheading.2 ⟨hwidth, hplain⟩)
  · exact prints_report hcolour hwidth hne hlabel hmessages h
  · exact report_fails hne h

/-- Brackets, backslashes and colons that mean nothing in the label, and tags and names of emoji in
the message: all are told as they are. -/
theorem awkward_report_verbatim :
    let c : Console := { colour := false, emoji := false, terminal := false }
    let label : Text := "q[1]\\a: b.sql"
    let d : Diagnostic :=
      { range := ⟨7, 8, by decide⟩, severity := .warning, message := "LT01: [b]a[/b] \\[c] :zap:"
        code := none, line := some 1, column := none }
    let told : Text :=
      "\n--- q[1]\\a: b.sql ---\nq[1]\\a: b.sql:1:None: warning LT01: [b]a[/b] \\[c] :zap: [7:8]\n"
    (c.colour = false ∧ [d] ≠ [] ∧ (∀ x ∈ label, x.isPrintable = true) ∧
      ∀ d' ∈ [d], ∀ x ∈ d'.message, x.isPrintable = true) ∧
      ColourlessReport c label [d] ∧ Prints (report c label [d]) (.ok ()) told := by
  intro c label d told
  have hlabel : ∀ x ∈ label, x.isPrintable = true := by decide +kernel
  have hmessages : ∀ d' ∈ [d], ∀ x ∈ d'.message, x.isPrintable = true := by decide +kernel
  have hne : [d] ≠ [] := List.cons_ne_nil d []
  have hreport : ColourlessReport c label [d] :=
    report_verbatim_unless_marked_up rfl hne hlabel hmessages
  have hread : Markup.read label = .ok ⟨label, []⟩ := by decide +kernel
  have hplain : Markup.IsPlain label := (Markup.text_of_read hread).2 rfl
  have htold : verbatim label [d] = told := by decide +kernel
  exact ⟨⟨rfl, hne, hlabel, hmessages⟩, hreport,
    htold ▸ hreport.verbatim_iff.2 ⟨by decide, hplain⟩⟩

/-- A label with a closing tag, of which nothing is told at all. -/
theorem closing_tag_in_label_fails :
    let c : Console := { colour := false, emoji := false, terminal := false }
    let label : Text := "q[/b].sql"
    let d : Diagnostic :=
      { range := ⟨7, 8, by decide⟩, severity := .warning, message := "LT01: a", code := none
        line := some 1, column := some 8 }
    (c.colour = false ∧ [d] ≠ [] ∧ (∀ x ∈ label, x.isPrintable = true) ∧
      ∀ d' ∈ [d], ∀ x ∈ d'.message, x.isPrintable = true) ∧
      (report c label [d]).output = (.error (.markup (.unopened "[/b]" 6)), []) ∧
      ¬ Prints (report c label [d]) (.ok ()) (verbatim label [d]) := by
  intro c label d
  have hread : Markup.read (title label) = .error (.unopened "[/b]" 6) := by decide +kernel
  have hne : [d] ≠ [] := List.cons_ne_nil d []
  have hfails := report_fails hne (heading_fails (c := c) rfl hread)
  refine ⟨⟨rfl, hne, by decide +kernel, by decide +kernel⟩, hfails.output, fun h => ?_⟩
  cases (hfails.unique h).1

end Check

end LiveLint
