import Mathlib.Data.List.Forall2
import LiveLint.Issue.Output
import LiveLint.Proofs.Json.Composition

/-!
# Linter output is read all or nothing

Printed output that is one JSON value, or no JSON at all, is either taken as a whole or refused as a
whole (`issues_all_or_nothing`). It is taken when it is a list of which every item provides the four
fields of an issue, and then each item gives one issue. Otherwise it is refused with an error that
says what was wrong; in a list that is the first item that does not provide its fields.

What an item provides is said here by the kinds of its fields alone. The reader asks for the fields
one by one, and `issueOfItem_eq_ok_iff` and `issueOfItem_eq_error_iff` say that it is the same.
-/

namespace LiveLint

/-- The fields of an issue are accepted where issues are built from fields, and make that issue. -/
theorem Issue.ofTable_toValue (i : Issue) : ∃ t, i.toValue = .table t ∧ Issue.ofTable t = .ok i := by
  refine ⟨_, rfl, ?_⟩
  obtain ⟨line, startColumn, endColumn, message, severity, code⟩ := i
  cases severity <;> cases code <;> rfl

namespace LinterOutput

/-- The fields of an issue, in the order in which they are missed. -/
def fields : List Text := integerFields ++ [messageField]

/-- The item holds the field, and with a value of its kind: a text for the message, an integer,
which a truth value is not, for the others. -/
def provides (item : Value) (field : Text) : Bool :=
  match item.field? field with
  | some (.int _) => field ≠ messageField
  | some (.text _) => field = messageField
  | _ => false

/-- The item provides all fields of an issue. -/
def IsIssue (item : Value) : Prop := ∀ field ∈ fields, provides item field = true

instance (item : Value) : Decidable (IsIssue item) :=
  inferInstanceAs (Decidable (∀ field ∈ fields, provides item field = true))

/-- The issue says what the item says, with the reader's severity and the rule code of the
message. -/
structure Reports (severity : Severity) (item : Value) (issue : Issue) : Prop where
  line : item.field? "line" = some (.int issue.line)
  startColumn : item.field? "start_column" = some (.int issue.startColumn)
  endColumn : item.field? "end_column" = some (.int issue.endColumn)
  message : item.field? messageField = some (.text issue.message)
  severity : issue.severity = severity
  code : issue.code = RuleCode.ofMessage? issue.message

/-! ## One item -/

/-- All fields but the message are provided by integers. -/
theorem provides_integer {item : Value} {field : Text} (h : field ≠ messageField) :
    provides item field = ((item.field? field).bind Value.int?).isSome := by
  simp only [provides]
  cases item.field? field with
  | none => rfl
  | some v => cases v <;> simp [Value.int?, h]

/-- The message is provided by a text. -/
theorem provides_message (item : Value) :
    provides item messageField = ((item.field? messageField).bind Value.text?).isSome := by
  simp only [provides]
  cases item.field? messageField with
  | none => rfl
  | some v => cases v <;> simp [Value.text?]

/-- A field gives an integer exactly if it holds that integer. -/
theorem integer_eq_some_iff {item : Value} {field : Text} {n : Int} :
    (item.field? field).bind Value.int? = some n ↔ item.field? field = some (.int n) := by
  cases item.field? field with
  | none => simp
  | some v => cases v <;> simp [Value.int?]

/-- A field gives a text exactly if it holds that text. -/
theorem text_eq_some_iff {item : Value} {field t : Text} :
    (item.field? field).bind Value.text? = some t ↔ item.field? field = some (.text t) := by
  cases item.field? field with
  | none => simp
  | some v => cases v <;> simp [Value.text?]

/-- The message is none of the integer fields. -/
theorem integerFields_ne_messageField : ∀ field ∈ integerFields, field ≠ messageField := by
  decide

/-- The missing fields are those that the table does not provide. -/
theorem missingFields_eq (t : Table) :
    missingFields t = fields.filter fun field => !provides (.table t) field := by
  have hintegers : integerFields.filter (fun field => !hasInteger t field)
      = integerFields.filter fun field => !provides (.table t) field :=
    List.filter_congr fun field hfield => by
      rw [provides_integer (integerFields_ne_messageField field hfield)]
      rfl
  rw [missingFields, fields, List.filter_append, hintegers, List.filter_singleton,
    provides_message]
  congr 1
  show (if ((Table.get? messageField t).bind Value.text?).isSome = true then _ else _) = _
  cases h : ((Table.get? messageField t).bind Value.text?).isSome <;> simp [Value.field?, h]

/-- What an issue is reported of provides all its fields. -/
theorem Reports.isIssue {severity : Severity} {item : Value} {issue : Issue}
    (h : Reports severity item issue) : IsIssue item := by
  intro field hfield
  simp only [fields, integerFields, List.cons_append, List.nil_append, List.mem_cons,
    List.not_mem_nil, or_false] at hfield
  obtain rfl | rfl | rfl | rfl := hfield
  · simp only [provides, h.line]; decide
  · simp only [provides, h.startColumn]; decide
  · simp only [provides, h.endColumn]; decide
  · simp only [provides, h.message]; decide

/-- An item with all its fields can be reported. -/
theorem IsIssue.exists_reports {item : Value} (h : IsIssue item) (severity : Severity) :
    ∃ issue, Reports severity item issue := by
  have hinteger (field : Text) (hfield : field ∈ integerFields) :
      ∃ n, item.field? field = some (.int n) := by
    have hprovided := h field (List.mem_append_left _ hfield)
    rw [provides_integer (integerFields_ne_messageField field hfield)] at hprovided
    obtain ⟨n, hn⟩ := Option.isSome_iff_exists.mp hprovided
    exact ⟨n, integer_eq_some_iff.mp hn⟩
  have hprovided := h messageField (by simp [fields])
  rw [provides_message] at hprovided
  obtain ⟨message, hmessage⟩ := Option.isSome_iff_exists.mp hprovided
  obtain ⟨line, hline⟩ := hinteger "line" (by decide)
  obtain ⟨startColumn, hstart⟩ := hinteger "start_column" (by decide)
  obtain ⟨endColumn, hend⟩ := hinteger "end_column" (by decide)
  exact ⟨⟨line, startColumn, endColumn, message, severity, RuleCode.ofMessage? message⟩,
    hline, hstart, hend, text_eq_some_iff.mp hmessage, rfl, rfl⟩

/-- The issue of an item is read off its fields, and only where all of them are provided. -/
theorem issueOfItem_eq_ok_iff {severity : Severity} {item : Value} {issue : Issue} :
    issueOfItem severity item = .ok issue ↔ Reports severity item issue := by
  match item with
  | .table t =>
    constructor
    · intro h
      simp only [issueOfItem] at h
      split at h
      case h_1 hline hstart hend hmessage =>
        cases h
        exact ⟨integer_eq_some_iff.mp hline, integer_eq_some_iff.mp hstart,
          integer_eq_some_iff.mp hend, text_eq_some_iff.mp hmessage, rfl, rfl⟩
      case h_2 => cases h
    · rintro ⟨hline, hstart, hend, hmessage, hseverity, hcode⟩
      have hinteger {field : Text} {n : Int} (h : Value.field? field (.table t) = some (.int n)) :
          (Table.get? field t).bind Value.int? = some n := integer_eq_some_iff.mpr h
      have htext : (Table.get? messageField t).bind Value.text? = some issue.message :=
        text_eq_some_iff.mpr hmessage
      simp only [issueOfItem, hinteger hline, hinteger hstart, hinteger hend, htext]
      rw [← hseverity, ← hcode]
  | .null | .bool _ | .int _ | .float _ | .text _ | .moment _ | .list _ =>
    exact ⟨nofun, fun h => nomatch h.line⟩

/-- An item that is no issue is refused with exactly the fields that it does not provide. -/
theorem issueOfItem_of_not_isIssue {item : Value} (h : ¬ IsIssue item) (severity : Severity) :
    issueOfItem severity item = .error (fields.filter fun field => !provides item field) := by
  match hissue : issueOfItem severity item with
  | .ok issue => exact absurd (issueOfItem_eq_ok_iff.mp hissue).isIssue h
  | .error missing =>
    match item with
    | .table t =>
      simp only [issueOfItem] at hissue
      split at hissue <;> cases hissue
      rw [missingFields_eq]
    | .null | .bool _ | .int _ | .float _ | .text _ | .moment _ | .list _ =>
      cases hissue
      rfl

/-! ## All items -/

variable {severity : Severity} {stdout : Text}

/-- Items are taken as a whole: one issue for each, in their order. -/
theorem issuesFrom_eq_ok_iff {start : Nat} {items : List Value} {found : List Issue} :
    issuesFrom severity stdout start items = .ok found
      ↔ List.Forall₂ (Reports severity) items found := by
  induction items generalizing start found with
  | nil =>
    cases found with
    | nil => exact ⟨fun _ => .nil, fun _ => rfl⟩
    | cons issue found => exact ⟨nofun, nofun⟩
  | cons item items ih =>
    rw [issuesFrom]
    match hitem : issueOfItem severity item with
    | .error missing =>
      refine ⟨nofun, fun h => ?_⟩
      cases h with
      | cons hreports _ => rw [issueOfItem_eq_ok_iff.mpr hreports] at hitem; cases hitem
    | .ok issue =>
      constructor
      · intro h
        match hrest : issuesFrom severity stdout (start + 1) items with
        | .error e => rw [hrest] at h; cases h
        | .ok rest =>
          rw [hrest] at h
          cases h
          exact .cons (issueOfItem_eq_ok_iff.mp hitem) (ih.mp hrest)
      · intro h
        cases h with
        | cons hreports hrest =>
          rw [issueOfItem_eq_ok_iff.mpr hreports] at hitem
          cases hitem
          show (issuesFrom severity stdout (start + 1) items).map _ = _
          rw [ih.mpr hrest]
          rfl

/-- Items are refused for the first one that is no issue. -/
theorem issuesFrom_eq_error {start : Nat} {items : List Value} {e : LintError}
    (h : issuesFrom severity stdout start items = .error e) :
    ∃ before item after, items = before ++ item :: after ∧ (∀ i ∈ before, IsIssue i) ∧
      ¬ IsIssue item ∧
      e = .malformedIssue (start + before.length : Nat)
        (fields.filter fun field => !provides item field) (some stdout) := by
  induction items generalizing start with
  | nil => cases h
  | cons item items ih =>
    by_cases hitem : IsIssue item
    · obtain ⟨issue, hreports⟩ := hitem.exists_reports severity
      rw [issuesFrom, issueOfItem_eq_ok_iff.mpr hreports] at h
      match hrest : issuesFrom severity stdout (start + 1) items with
      | .ok rest => rw [hrest] at h; cases h
      | .error e' =>
        rw [hrest] at h
        cases h
        obtain ⟨before, bad, after, rfl, hbefore, hbad, rfl⟩ := ih hrest
        refine ⟨item :: before, bad, after, rfl, ?_, hbad, ?_⟩
        · exact List.forall_mem_cons.mpr ⟨hitem, hbefore⟩
        · rw [List.length_cons, Nat.add_right_comm, Nat.add_assoc]
    · rw [issuesFrom, issueOfItem_of_not_isIssue hitem] at h
      cases h
      exact ⟨[], item, items, rfl, by simp, hitem, rfl⟩

/-- Items of which issues are reported are issues, all of them. -/
theorem isIssue_of_reports {items : List Value} {found : List Issue}
    (h : List.Forall₂ (Reports severity) items found) : ∀ item ∈ items, IsIssue item := by
  induction h with
  | nil => simp
  | cons hreports _ ih => exact List.forall_mem_cons.mpr ⟨hreports.isIssue, ih⟩

/-! ## Whole outputs -/

/-- The items of the linter's list; there is none when the output is blank. -/
inductive Lists (o : LinterOutput) : List Value → Prop
  | blank (h : o.stdout.strip = []) : Lists o []
  | array {items : List Value} (h : Json.read o.stdout.strip = .ok (.list items)) : Lists o items

/-- Issues that are taken are those of the items, one by one. -/
theorem lists_of_issues {parser : OutputParser} {o : LinterOutput} {found : List Issue}
    (h : o.issues parser = .ok found) :
    ∃ items, o.Lists items ∧ List.Forall₂ (Reports parser.severity) items found := by
  unfold issues at h
  dsimp only at h
  split at h
  · rename_i hblank
    split at h
    · cases h
    · cases h
      exact ⟨[], .blank (List.isEmpty_iff.1 hblank), .nil⟩
  split at h
  · cases h
  · cases h
  · cases h
  case h_4 items hload =>
    split at h
    case h_1 found' hfound =>
      cases h
      exact ⟨items, .array (Json.load_eq_ok_iff.1 hload).2, issuesFrom_eq_ok_iff.1 hfound⟩
    case h_2 => cases h
  · cases h

/-- The three ends of reading printed output. -/
inductive Verdict (severity : Severity) (o : LinterOutput) : Except Failure (List Issue) → Prop where
  /-- The output is a list of issues. -/
  | taken {items : List Value} {found : List Issue}
      (list : Json.read o.stdout.strip = .ok (.list items))
      (reports : List.Forall₂ (Reports severity) items found) : Verdict severity o (.ok found)
  /-- The output is a list in which `bad` is the first item that is no issue. -/
  | blamed {before after : List Value} {bad : Value}
      (list : Json.read o.stdout.strip = .ok (.list (before ++ bad :: after)))
      (good : ∀ item ∈ before, IsIssue item) (isBad : ¬ IsIssue bad) :
      Verdict severity o (.error (.lint (.malformedIssue before.length
        (fields.filter fun field => !provides bad field) (some o.stdout))))
  /-- The output is no list. -/
  | noList (cause : ParseCause)
      (noList : ∀ items, Json.read o.stdout.strip ≠ .ok (.list items)) :
      Verdict severity o (.error (.lint (.parse cause (some o.stdout.strip))))

/-- When something is printed, and reading it comes to no limit, it has these ends. -/
theorem verdict_issues {parser : OutputParser} {o : LinterOutput} (hprinted : o.stdout.strip ≠ [])
    (hload : ∀ e, Json.load parser.levels o.stdout.strip = .error e → e.isOfSyntax) :
    Verdict parser.severity o (o.issues parser) := by
  have hne : o.stdout.strip.isEmpty = false := by simpa using hprinted
  have hread := Json.load_eq_read (t := o.stdout.strip) fun hdeep =>
    Bool.false_ne_true (hload _ hdeep)
  rw [hread] at hload
  simp only [issues, hne, hread]
  match hjson : Json.read o.stdout.strip with
  | .error e =>
    have hnoList : ∀ items, Json.read o.stdout.strip ≠ .ok (.list items) := by simp [hjson]
    have hsyntax := hload e hjson
    cases e
    case integerTooLong | tooDeep => cases hsyntax
    all_goals exact .noList _ hnoList
  | .ok (.list items) =>
    match hfrom : issuesFrom parser.severity o.stdout 0 items with
    | .ok found =>
      simp only [hfrom]
      exact .taken hjson (issuesFrom_eq_ok_iff.mp hfrom)
    | .error e =>
      obtain ⟨before, bad, after, rfl, hgood, hbad, rfl⟩ := issuesFrom_eq_error hfrom
      simp only [hfrom, Nat.zero_add]
      exact .blamed hjson hgood hbad
  | .ok .null | .ok (.bool _) | .ok (.int _) | .ok (.float _) | .ok (.text _) | .ok (.moment _)
  | .ok (.table _) => exact .noList _ (by simp [hjson])

namespace Verdict

variable {severity : Severity} {o : LinterOutput} {result : Except Failure (List Issue)}

/-- Issues are taken exactly from a list in which every item is one. -/
theorem taken_iff (h : Verdict severity o result) : (∃ found, result = .ok found) ↔
    ∃ items, Json.read o.stdout.strip = .ok (.list items) ∧ ∀ item ∈ items, IsIssue item := by
  cases h with
  | @taken items found list reports =>
    exact ⟨fun _ => ⟨items, list, isIssue_of_reports reports⟩, fun _ => ⟨found, rfl⟩⟩
  | @blamed before after bad list good isBad =>
    refine ⟨nofun, ?_⟩
    rintro ⟨items, list', hall⟩
    rw [list] at list'
    cases list'
    exact absurd (hall bad (by simp)) isBad
  | noList cause noList =>
    exact ⟨nofun, fun ⟨items, list, _⟩ => absurd list (noList items)⟩

/-- The issues that are taken are those of the items, in their order. -/
theorem reported {found : List Issue} (h : Verdict severity o (.ok found)) :
    ∃ items, Json.read o.stdout.strip = .ok (.list items) ∧
      List.Forall₂ (Reports severity) items found := by
  cases h with
  | taken list reports => exact ⟨_, list, reports⟩

/-- Refused output is refused as output that cannot be parsed. -/
theorem refused {failure : Failure} (h : Verdict severity o (.error failure)) :
    ∃ e, failure = .lint e ∧ Text.ofString "ParseError" ∈ e.kinds := by
  cases h <;> exact ⟨_, rfl, by simp [LintError.kinds]⟩

/-- The item that is blamed is the first that is no issue, with the fields that it lacks. -/
theorem first_blamed {items : List Value} {failure : Failure}
    (h : Verdict severity o (.error failure))
    (hlist : Json.read o.stdout.strip = .ok (.list items)) :
    ∃ (index : Nat) (item : Value), items[index]? = some item ∧ ¬ IsIssue item ∧
      (∀ earlier < index, ∀ i, items[earlier]? = some i → IsIssue i) ∧
      failure = .lint (.malformedIssue index
        (fields.filter fun field => !provides item field) (some o.stdout)) := by
  cases h with
  | @blamed before after bad list good isBad =>
    rw [hlist] at list
    cases list
    refine ⟨before.length, bad, by simp, isBad, fun earlier hearlier i hi => ?_, rfl⟩
    rw [List.getElem?_append_left hearlier] at hi
    exact good i (List.mem_of_getElem? hi)
  | noList cause noList => exact absurd hlist (noList items)

end Verdict

/-- The output is read all or nothing, with the severity of the parser for every issue. -/
structure AllOrNothing (parser : OutputParser) (o : LinterOutput) : Prop where
  /-- It is taken exactly when it is a list of issues. -/
  taken_iff : (∃ found, o.issues parser = .ok found) ↔
    ∃ items, Json.read o.stdout.strip = .ok (.list items) ∧ ∀ item ∈ items, IsIssue item
  /-- When it is taken, each item is reported, in order and as it is. -/
  reported : ∀ found, o.issues parser = .ok found →
    ∃ items, Json.read o.stdout.strip = .ok (.list items) ∧
      List.Forall₂ (Reports parser.severity) items found
  /-- When it is refused, the error is one of parsing and no other. -/
  refused : ∀ failure, o.issues parser = .error failure →
    ∃ e, failure = .lint e ∧ Text.ofString "ParseError" ∈ e.kinds
  /-- A list is refused for its first item that is no issue. The error names the fields that this
  item does not provide, and holds the output as it was printed. -/
  blamed : ∀ items failure, Json.read o.stdout.strip = .ok (.list items) →
    o.issues parser = .error failure →
    ∃ (index : Nat) (item : Value), items[index]? = some item ∧ ¬ IsIssue item ∧
      (∀ earlier < index, ∀ i, items[earlier]? = some i → IsIssue i) ∧
      failure = .lint (.malformedIssue index
        (fields.filter fun field => !provides item field) (some o.stdout))
  /-- Neither the exit status nor the standard error has a part in it. -/
  independent : ∀ exitCode stderr,
    issues parser { stdout := o.stdout, exitCode, stderr } = o.issues parser
  /-- Validation refuses none of the issues. -/
  validated : ∀ found, o.issues parser = .ok found → ∀ issue ∈ found,
    ∃ t, issue.toValue = .table t ∧ Issue.ofTable t = .ok issue
  /-- In a list of tables, the last member with a key is the one that counts. -/
  last_counts : ∀ texts tables, o.stdout.strip = Json.listText texts →
    List.Forall₂ Json.SpellsTable texts tables →
    ∃ items, Json.read o.stdout.strip = .ok (.list items) ∧
      List.Forall₂ (fun members item => ∀ key, item.field? key = Json.Member.last? key members)
        tables items

/-- Tables are read one by one, and of equal keys the last one counts. -/
theorem forall₂_fields {texts : List Text} {tables : List (List Json.Member)}
    (h : List.Forall₂ Json.SpellsTable texts tables) :
    ∃ items, List.Forall₂ (fun t v => Json.read t = .ok v) texts items ∧
      List.Forall₂ (fun members item => ∀ key, item.field? key = Json.Member.last? key members)
        tables items := by
  induction h with
  | nil => exact ⟨[], .nil, .nil⟩
  | @cons t members texts tables ht _ ih =>
    obtain ⟨items, hread, hfields⟩ := ih
    refine ⟨.table (Json.Member.addTo [] members) :: items, .cons ht.read hread, .cons ?_ hfields⟩
    intro key
    rw [Value.field?, Json.Member.get?_addTo, Table.get?, Option.or_none]

/-- Printed output is taken as a whole or refused as a whole, whatever the exit status. -/
theorem issues_all_or_nothing (parser : OutputParser) (o : LinterOutput)
    (hprinted : o.stdout.strip ≠ [])
    (hload : ∀ e, Json.load parser.levels o.stdout.strip = .error e → e.isOfSyntax) :
    AllOrNothing parser o := by
  have hverdict : Verdict parser.severity o (o.issues parser) := verdict_issues hprinted hload
  constructor
  case taken_iff => exact hverdict.taken_iff
  case reported => exact fun found h => (h ▸ hverdict).reported
  case refused => exact fun failure h => (h ▸ hverdict).refused
  case blamed => exact fun items failure hlist h => (h ▸ hverdict).first_blamed hlist
  case independent =>
    intro exitCode stderr
    have hne : o.stdout.strip.isEmpty = false := by simpa using hprinted
    simp only [issues, hne]
    rfl
  case validated => exact fun _ _ issue _ => issue.ofTable_toValue
  case last_counts =>
    intro texts tables htext htables
    obtain ⟨items, hitems, hfields⟩ := forall₂_fields htables
    exact ⟨items, by rw [htext]; exact Json.read_listText hitems, hfields⟩

/-- One issue whose line is given twice, after a failing exit. -/
def repeatedLine : LinterOutput where
  stdout := "[\x7b\"line\": 1, \"start_column\": 2, \"end_column\": 4, \"message\": \"x\", \"line\": 3\x7d]"
  exitCode := some 1
  stderr := []

/-- An issue with its line given twice is reported with the second one. -/
theorem repeated_line_reported_last :
    repeatedLine.stdout.strip ≠ [] ∧
      (∀ e, Json.load 3 repeatedLine.stdout.strip = .error e → e.isOfSyntax) ∧
      AllOrNothing ⟨.warning, 3⟩ repeatedLine ∧
      repeatedLine.issues ⟨.warning, 3⟩ = .ok [⟨3, 2, 4, "x", .warning, none⟩] := by
  have hprinted : repeatedLine.stdout.strip ≠ [] := by decide +kernel
  have hload : ∀ e, Json.load 3 repeatedLine.stdout.strip = .error e → e.isOfSyntax := by
    have hlist : ∃ items, Json.load 3 repeatedLine.stdout.strip = .ok (.list items) := ⟨_, rfl⟩
    obtain ⟨items, hitems⟩ := hlist
    simp [hitems]
  exact ⟨hprinted, hload, issues_all_or_nothing ⟨.warning, 3⟩ repeatedLine hprinted hload, rfl⟩

end LinterOutput

end LiveLint
