import Mathlib.Data.List.Forall2
import LiveLint.Proofs.Results
import LiveLint.Validation

/-!
# Checks and their problems

A check that is made of others succeeds when all of them do, and otherwise it has the problems of
all (`Checked.sequence_eq_ok_iff`, `Checked.problems_sequence`). What is refused as no text and as
no choice is refused for one reason.
-/

namespace LiveLint

variable {α β : Type}

namespace Checked

/-! ## Checks that succeed -/

/-- Naming the field changes where problems are, but not what is accepted. -/
theorem inField_eq_ok_iff {field : Text} {x : Checked α} {a : α} :
    inField field x = .ok a ↔ x = .ok a := by
  cases x with
  | ok b => rfl
  | error ps => exact ⟨nofun, nofun⟩

/-- Both the function and its argument have to be accepted. -/
theorem apply_eq_ok_iff {f : Checked (α → β)} {x : Checked α} {b : β} :
    apply f x = .ok b ↔ ∃ g a, f = .ok g ∧ x = .ok a ∧ g a = b := by
  constructor
  · intro h
    unfold apply at h
    split at h
    · exact ⟨_, _, rfl, rfl, Except.ok.inj h⟩
    · cases h
  · rintro ⟨g, a, rfl, rfl, rfl⟩
    rfl

/-- All checks of a list succeed, each with its own result. -/
theorem sequence_eq_ok_iff {xs : List (Checked α)} {as : List α} :
    sequence xs = .ok as ↔ List.Forall₂ (fun x a => x = .ok a) xs as := by
  induction xs generalizing as with
  | nil =>
    rw [List.forall₂_nil_left_iff]
    exact ⟨fun h => (Except.ok.inj h).symm, fun h => h ▸ rfl⟩
  | cons x xs ih =>
    rw [List.forall₂_cons_left_iff, sequence, apply_eq_ok_iff]
    constructor
    · rintro ⟨g, rest, hg, hrest, rfl⟩
      obtain ⟨a, rfl, rfl⟩ := map_eq_ok_iff.1 hg
      exact ⟨a, rest, rfl, ih.1 hrest, rfl⟩
    · rintro ⟨a, rest, rfl, hrest, rfl⟩
      exact ⟨List.cons a, rest, rfl, ih.2 hrest, rfl⟩

/-- A list is accepted exactly if each of its items is. -/
theorem exists_sequence_iff {xs : List (Checked α)} :
    (∃ as, sequence xs = .ok as) ↔ ∀ x ∈ xs, ∃ a, x = .ok a := by
  simp only [sequence_eq_ok_iff]
  induction xs with
  | nil => exact ⟨fun _ x hx => absurd hx List.not_mem_nil, fun _ => ⟨[], .nil⟩⟩
  | cons x xs ih =>
    rw [List.forall_mem_cons, ← ih]
    constructor
    · rintro ⟨_, hx | ⟨hx, hxs⟩⟩
      exact ⟨⟨_, hx⟩, ⟨_, hxs⟩⟩
    · rintro ⟨⟨a, hx⟩, ⟨as, hxs⟩⟩
      exact ⟨a :: as, .cons hx hxs⟩

/-! ## Problems -/

/-- The problems of the function come before those of its argument. -/
theorem problems_apply (f : Checked (α → β)) (x : Checked α) :
    (apply f x).problems = f.problems ++ x.problems := by
  cases f <;> cases x <;> simp [apply, problems]

/-- Changing what is accepted changes no problems. -/
theorem problems_map (x : Checked α) (g : α → β) :
    problems (x.map g) = x.problems := by
  cases x <;> rfl

/-- The problems of a list are those of its items in order. -/
theorem problems_sequence (xs : List (Checked α)) :
    (sequence xs).problems = xs.flatMap problems := by
  induction xs with
  | nil => rfl
  | cons x xs ih =>
    rw [sequence, problems_apply, problems_map, ih, List.flatMap_cons]

/-- One refusal is enough, and the problems of all checks are told. -/
theorem sequence_eq_error {xs : List (Checked α)} {ps : List Problem}
    (h : Except.error ps ∈ xs) : sequence xs = .error (xs.flatMap problems) := by
  rw [← problems_sequence]
  cases hxs : sequence xs with
  | error _ => rfl
  | ok as =>
    obtain ⟨i, hi⟩ := List.get_of_mem h
    obtain ⟨hlength, hok⟩ := List.forall₂_iff_get.1 (sequence_eq_ok_iff.1 hxs)
    cases hi.symm.trans (hok i i.2 (hlength ▸ i.2))

end Checked

namespace Validation

/-! ## Texts, choices and values that may be null -/

/-- Only a text is accepted as a text, and it stays what it is. -/
theorem text_eq_ok_iff {v : Value} {t : Text} : Validation.text v = .ok t ↔ v = .text t := by
  constructor
  · intro h
    cases v with
    | text t' =>
      cases h
      rfl
    | _ => cases h
  · rintro rfl
    rfl

/-- A choice is the one that a text names, or it is refused for one reason. -/
theorem choice_cases (all : List α) (name : α → Text) (v : Value) :
    (∃ a, v = .text (name a) ∧ choice all name v = .ok a) ∨
      ∃ complaint, choice all name v = Checked.refuse complaint := by
  cases v with
  | text t =>
    unfold choice unicode
    dsimp only
    split
    · exact .inr ⟨_, rfl⟩
    · split
      · rename_i a hfound
        have hname : name a = t :=
          eq_of_beq (List.find?_some (p := fun a => name a == t) hfound)
        exact .inl ⟨a, congrArg Value.text hname.symm, rfl⟩
      · exact .inr ⟨_, rfl⟩
  | _ => exact .inr ⟨_, rfl⟩

/-- What a nullable check accepts is null or accepted by the check itself. -/
theorem mem_of_nullable {check : Value → Checked α} {v : Value} {o : Option α}
    (h : nullable check v = .ok o) {a : α} (ha : a ∈ o) : check v = .ok a := by
  unfold nullable at h
  split at h
  · cases h
    cases ha
  · obtain ⟨b, hb, rfl⟩ := map_eq_ok_iff.1 h
    cases ha
    exact hb

/-- An optional value is read back if the value is, where there is one. -/
theorem nullable_ofOption (check : Value → Checked α) (encode : α → Value)
    (hnull : ∀ a, encode a ≠ .null) {o : Option α} (h : ∀ a ∈ o, check (encode a) = .ok a) :
    nullable check (Value.ofOption encode o) = .ok o := by
  cases o with
  | none => rfl
  | some a =>
    have hencode : Value.ofOption encode (some a) = encode a := rfl
    rw [hencode, nullable, h a rfl]
    · rfl
    · exact fun hnone => hnull a hnone

end Validation

end LiveLint
