import LiveLint.Proofs.Issue.Reported
import LiveLint.Proofs.Position.Places

/-!
# From linter output to the host's diagnostics

A host that reads the diagnostics as JSON gets one object for each item of the linter's list, in the
same order, with the message of the item and the code in front of it, a range inside of the text and
a place that exists there (`LinterOutput.exchanged_issues_are_those_printed`). What the linter
printed as escapes comes back as the code points that they stand for, halves of surrogate pairs
included.
-/

namespace LiveLint

namespace LinterOutput

/-- The object of a host tells of an item of the linter. -/
structure Carries (severity : Severity) (u : OffsetUnit) (t : Text) (item object : Value) : Prop where
  message : ∃ m, item.field? messageField = some (.text m) ∧
    object.field? "message" = some (.text m) ∧
      object.field? "code" = some (Value.ofOption .text (RuleCode.ofMessage? m))
  severity : object.field? "severity" = some (.text severity.name)
  range : ∃ start stop : Nat,
    object.field? "range" = some (.table [("start", .int start), ("end", .int stop)]) ∧
      start ≤ stop ∧ stop ≤ u.measure t
  place : ∃ line column : Nat, object.field? "line" = some (.int line) ∧
    object.field? "column" = some (.int column) ∧ Position.Exists t line column

/-- The diagnostic of an issue carries what the item of the issue says. -/
theorem Reports.carries {severity : Severity} {item : Value} {i : Issue}
    (h : Reports severity item i) {m : Mapper} (hm : m.Sane) (t : Text) :
    Carries severity m.unit t item ((m.toDiagnostic t i).1).toValue := by
  rw [(hm.toDiagnostic_eq t i).1]
  refine ⟨⟨i.message, h.message, rfl, ?_⟩, ?_, ⟨_, _, rfl, ?_, ?_⟩, ⟨_, _, rfl, rfl, ?_⟩⟩
  · rw [← h.code]
    rfl
  · rw [← h.severity]
    rfl
  · exact (Position.range m.unit t _ _).start_le_stop
  · exact Position.offset_le_measure m.unit t _
  · exact Position.exists_clamp t i.line i.startColumn

/-- Nothing is lost or altered between the linter's list and the host's. -/
theorem exchanged_issues_are_those_printed {parser : OutputParser} {o : LinterOutput}
    (hwhole : o.stdout.Whole) {found : List Issue} (h : o.issues parser = .ok found)
    {m : Mapper} (hm : m.Sane) {t : Text} (ht : t.Addressable) (indent : Option Int) :
    ∃ items objects, o.Lists items ∧
      Json.read (Diagnostic.writeAll (m.toDiagnostics t found).1 indent) = .ok (.list objects) ∧
        List.Forall₂ (Carries parser.severity m.unit t) items objects := by
  obtain ⟨items, hitems, hreports⟩ := lists_of_issues h
  have hjoined := joined_of_issues hwhole h
  have hexchangeable : ∀ d ∈ (m.toDiagnostics t found).1, d.Exchangeable := by
    rw [hm.toDiagnostics]
    intro d hd
    obtain ⟨i, hi, rfl⟩ := List.mem_map.1 hd
    exact exchangeable_toDiagnostic m.unit ht (hjoined i hi).1 (hjoined i hi).2
  refine ⟨items, _, hitems,
    (Diagnostic.portable_toValues hexchangeable).read_writeAt (.ofIndent indent) 0, ?_⟩
  rw [hm.toDiagnostics, List.map_map, List.forall₂_map_right_iff]
  exact hreports.imp fun item i hreport => hreport.carries (Mapper.sane_fresh m.unit) t

/-- An issue far behind the text, in whose message a pair and a half of one are escaped. -/
def escapedIssue : Text :=
  "[\x7b\"line\": 9, \"start_column\": -1, \"end_column\": 0, \"message\": \"AM04: \\ud83d\\ude00\\udc00\"\x7d]"

/-- The message with the code point of the pair, and the half. -/
def joinedMessage : Text := Text.ofString "AM04: 😀" ++ [.ofNat 0xDC00]

/-- A pair of surrogates that is escaped in the output comes out as its code point, and half of one
stays. -/
theorem escaped_message_exchanged :
    let o : LinterOutput := { stdout := escapedIssue, exitCode := some 1, stderr := [] }
    let found : List Issue := [⟨9, -1, 0, joinedMessage, .error, some "AM04"⟩]
    let m : Mapper := { unit := .utf16 }
    o.stdout.Whole ∧ o.issues { severity := .error } = .ok found ∧ ∃ items objects, o.Lists items ∧
      Json.read (Diagnostic.writeAll (m.toDiagnostics "a" found).1 (some 2)) = .ok (.list objects) ∧
        List.Forall₂ (Carries .error .utf16 "a") items objects := by
  intro o found m
  have hwhole : o.stdout.Whole := by
    have hchars : ∀ c ∈ escapedIssue, c.isSurrogate = false := by decide +kernel
    exact hchars
  have hfound : o.issues { severity := .error } = .ok found := by
    have htaken : (issues { severity := .error } ⟨escapedIssue, some 1, []⟩).toOption = some found := by
      decide +kernel
    cases hissues : issues { severity := .error } ⟨escapedIssue, some 1, []⟩ with
    | ok found' =>
      rw [hissues] at htaken
      exact congrArg Except.ok (Option.some.inj htaken)
    | error e =>
      rw [hissues] at htaken
      cases htaken
  have ht : Text.Addressable "a" := Nat.one_lt_pow (by decide) (by decide)
  exact ⟨hwhole, hfound, exchanged_issues_are_those_printed hwhole hfound (Mapper.sane_fresh .utf16)
    ht (some 2)⟩

end LinterOutput

end LiveLint
