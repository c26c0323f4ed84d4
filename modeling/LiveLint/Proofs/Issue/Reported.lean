import Mathlib.Data.Nat.Digits.Defs
import LiveLint.Proofs.Desk.Faithful
import LiveLint.Proofs.Issue.RuleCode
import LiveLint.Proofs.Issue.Serialization
import LiveLint.Proofs.Json.Joined
import LiveLint.Proofs.Position.Places

/-!
# Reported diagnostics can be exchanged

What a linter's output is turned into can be written as JSON and read back: the messages come from
what was read (`LinterOutput.joined_of_issues`), and the numbers are those of places in the text,
which has to be shorter than the longest numeral allows (`Check.Reports.exchangeable`).
-/

namespace LiveLint

/-! ## Messages and codes -/

/-- A text without surrogates has none when its margins are cut off. -/
theorem Text.Whole.strip {t : Text} (h : t.Whole) : t.strip.Whole := by
  intro c hc
  have hright : c ∈ (t.dropWhile CodePoint.isBlank).reverse :=
    (List.dropWhile_sublist _).mem (List.mem_reverse.1 hc)
  exact h c ((List.dropWhile_sublist _).mem (List.mem_reverse.1 hright))

namespace LinterOutput

/-- The texts of an issue are joined. -/
theorem Reports.joined {severity : Severity} {item : Value} {issue : Issue}
    (h : Reports severity item issue) (hitem : Json.Coherent item) :
    issue.message.Joined ∧ ∀ code ∈ issue.code, code.Joined := by
  have hmessage : issue.message.Joined := by
    cases hitem with
    | table hentries =>
      cases hentries _ (Table.mem_of_get? h.message) with
      | text hjoined => exact hjoined
    | _ => cases h.message
  refine ⟨hmessage, fun code hcode => ?_⟩
  rw [h.code] at hcode
  exact List.IsChain.prefix hmessage (RuleCode.prefix_of_opens (RuleCode.opens_of_ofMessage? hcode))

/-- Issues of items whose texts hold no pair of surrogates have none in theirs. -/
theorem joined_of_reports {severity : Severity} {items : List Value} {found : List Issue}
    (h : List.Forall₂ (Reports severity) items found) (hitems : ∀ item ∈ items, Json.Coherent item) :
    ∀ issue ∈ found, issue.message.Joined ∧ ∀ code ∈ issue.code, code.Joined := by
  induction h with
  | nil => exact fun issue hissue => absurd hissue List.not_mem_nil
  | cons hreport _ ih =>
    rw [List.forall_mem_cons] at hitems ⊢
    exact ⟨hreport.joined hitems.1, ih hitems.2⟩

/-- Where the output has no surrogates no issue has a pair of them. -/
theorem joined_of_issues {parser : OutputParser} {o : LinterOutput} (hwhole : o.stdout.Whole)
    {found : List Issue} (h : o.issues parser = .ok found) :
    ∀ issue ∈ found, issue.message.Joined ∧ ∀ code ∈ issue.code, code.Joined := by
  obtain ⟨items, hitems, hreports⟩ := lists_of_issues h
  refine joined_of_reports hreports ?_
  cases hitems with
  | blank => exact fun _ hitem => absurd hitem List.not_mem_nil
  | array hread =>
    cases Json.coherent_read hwhole.strip hread with
    | list hitems => exact hitems

end LinterOutput

/-! ## Places in the text -/

/-- No unit measures a code point as more than four. -/
theorem OffsetUnit.measure_le (u : OffsetUnit) (t : Text) : u.measure t ≤ 4 * t.length := by
  induction t with
  | nil => exact Nat.zero_le _
  | cons c rest ih =>
    have hwidth : u.width c ≤ 4 := by
      cases u <;> simp only [OffsetUnit.width] <;> (try split_ifs) <;> omega
    rw [OffsetUnit.measure, List.length_cons]
    omega

/-- The offset of a place is at most four times the length of the text. -/
theorem Position.offset_le (u : OffsetUnit) (t : Text) (i : Nat) :
    Position.offset u t i ≤ 4 * t.length := (offset_le_measure u t i).trans (u.measure_le t)

/-- A number with few digits can be read back. -/
theorem Json.short_of_lt {n : Nat} (h : n < 10 ^ Numeral.maxDigits) : Json.Short n :=
  Nat.toDigits_length 10 n Numeral.maxDigits (by decide) h

/-- The offsets in the text have fewer digits than a numeral may have. -/
def Text.Addressable (t : Text) : Prop := t.length < 10 ^ (Numeral.maxDigits - 1)

/-- The diagnostic of an issue whose texts are joined. -/
theorem exchangeable_toDiagnostic (u : OffsetUnit) {t : Text} (ht : t.Addressable) {i : Issue}
    (hmessage : i.message.Joined) (hcode : ∀ code ∈ i.code, code.Joined) :
    ((({ unit := u } : Mapper).toDiagnostic t i).1).Exchangeable := by
  have hcount := Line.length_ofText_le t
  obtain ⟨hline, hcolumn⟩ := Position.clamp_le (Line.aligned_ofText t) i.line i.startColumn
  have hshort {n : Nat} (hn : n ≤ 4 * t.length + 1) : Json.Short n := by
    refine Json.short_of_lt ?_
    have hpower : 10 ^ Numeral.maxDigits = 10 ^ (Numeral.maxDigits - 1) * 10 :=
      (pow_sub_one_mul (by decide) 10).symm
    unfold Text.Addressable at ht
    generalize 10 ^ (Numeral.maxDigits - 1) = limit at ht hpower
    rw [hpower]
    omega
  have hoffset (n : Nat) : Position.offset u t n ≤ 4 * t.length + 1 :=
    (Position.offset_le u t n).trans (Nat.le_succ _)
  rw [((Mapper.sane_fresh u).toDiagnostic_eq t i).1]
  constructor
  case start => exact hshort (hoffset _)
  case stop => exact hshort (hoffset _)
  case line =>
    intro n hn
    cases hn
    exact hshort (hline.trans (by omega))
  case column =>
    intro n hn
    cases hn
    exact hshort (hcolumn.trans (by omega))
  case message => exact hmessage
  case code => exact hcode

end LiveLint
