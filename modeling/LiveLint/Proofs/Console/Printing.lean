import Mathlib.Data.List.TakeWhile
import LiveLint.Console.Basic

/-!
# What is printed

A computation that prints does so behind what was printed before, whatever that is (`Prints`). What
prints on a console raises no other faults than those of text that cannot be shown or written, and
on a console without cells it prints nothing at all (`Console.Writes`). A line that was printed
without a fault stands in the output as it is shown (`Console.prints_print`).
-/

namespace LiveLint

/-- The fault of text that cannot be shown or written. -/
def Fault.isOfPrinting : Fault → Bool
  | .numeral _ | .markup _ | .unprintable _ => true
  | _ => false

/-- The faults of markup are faults of printing. -/
theorem Fault.isOfPrinting_ofMarkup (e : Markup.Error) : (Fault.ofMarkup e).isOfPrinting := by
  cases e <;> rfl

namespace Printing

variable {α β : Type} {p : Printing α} {next : α → Printing β} {r : Except Fault β} {t t' : Text}

/-- The computation ends with `r`, and prints `t` behind what was printed before. -/
def Prints (p : Printing α) (r : Except Fault α) (t : Text) : Prop :=
  ∀ out, p.run.run out = (r, out ++ t)

/-- The output of a computation that starts with none is what it prints. -/
theorem Prints.output {r : Except Fault α} (h : Prints p r t) : p.output = (r, t) := h []

/-- A computation ends in one way and prints one thing. -/
theorem Prints.unique {r r' : Except Fault α} (h : Prints p r t) (h' : Prints p r' t') :
    r = r' ∧ t = t' := Prod.mk.inj ((h []).symm.trans (h' []))

/-- A mere result prints nothing. -/
theorem prints_pure (a : α) : Prints (pure a) (.ok a) [] := by
  intro out
  rw [List.append_nil]
  rfl

/-- A mere fault prints nothing. -/
theorem prints_throw (f : Fault) : Prints (throw f : Printing α) (.error f) [] := by
  intro out
  rw [List.append_nil]
  rfl

/-- Putting a text out prints it. -/
theorem prints_put (t : Text) : Prints (put t) (.ok ()) t := fun _ => rfl

/-- A composition goes on from the output of its first part, unless that ends with a fault. -/
theorem run_bind (p : Printing α) (next : α → Printing β) (out : Text) :
    (p >>= next).run.run out
      = match p.run.run out with
        | (.ok a, out) => (next a).run.run out
        | (.error f, out) => (.error f, out) := by
  have hbind : (p >>= next).run.run out
      = (ExceptT.bindCont next (p.run.run out).1).run (p.run.run out).2 := rfl
  rw [hbind]
  rcases p.run.run out with ⟨f | a, out'⟩ <;> rfl

/-- Both parts of a composition print, the second behind the first. -/
theorem Prints.bind {a : α} (h : Prints p (.ok a) t) (hnext : Prints (next a) r t') :
    Prints (p >>= next) r (t ++ t') := by
  intro out
  rw [run_bind, h out, ← List.append_assoc]
  exact hnext (out ++ t)

/-- A result that is given afterwards prints nothing more. -/
theorem Prints.then_pure {a : α} (h : Prints p (.ok a) t) (b : β) :
    Prints (p >>= fun _ => pure b) (.ok b) t := by
  intro out
  rw [run_bind, h out]
  rfl

/-- Nothing follows a part that ends with a fault. -/
theorem Prints.bind_error {f : Fault} (h : Prints p (.error f) t) :
    Prints (p >>= next) (.error f) t := by
  intro out
  rw [run_bind, h out]

/-- What is found without printing prints nothing, whether it is a result or a fault. -/
theorem prints_lift (r : Except Fault α) : Prints (liftM r : Printing α) r [] := by
  intro out
  rw [List.append_nil]
  rfl

/-- A text with surrogates is not printed at all, any other is printed as it is. -/
theorem prints_write (t : Text) :
    (∃ f : Fault, f.isOfPrinting ∧ Prints (write t) (.error f) []) ∨
      Prints (write t) (.ok ()) t := by
  unfold write
  cases Utf8.surrogates? t with
  | none => exact .inr (prints_put t)
  | some s => exact .inl ⟨_, rfl, prints_throw _⟩

/-- A text without surrogates can be written. -/
theorem prints_write_of_forall {t : Text} (h : ∀ c ∈ t, c.isSurrogate = false) :
    Prints (write t) (.ok ()) t := by
  have hnone : Utf8.surrogates? t = none := by
    have hdropped : t.dropWhile (fun c => !c.isSurrogate) = [] :=
      List.dropWhile_eq_nil_iff.2 fun c hc => by rw [h c hc]; rfl
    simp [Utf8.surrogates?, hdropped]
  unfold write
  rw [hnone]
  exact prints_put t

/-- Texts in ASCII can be written. -/
theorem prints_write_of_ascii {t : Text} (h : ∀ c ∈ t, c.val < 0x80) :
    Prints (write t) (.ok ()) t := by
  refine prints_write_of_forall fun c hc => ?_
  have hlt := h c hc
  simp only [CodePoint.isSurrogate, Bool.and_eq_false_iff, decide_eq_false_iff_not]
  omega

end Printing

namespace Console

open Printing

variable {α β : Type} {c : Console} {p : Printing α} {next : α → Printing β}

/-- The computation prints something and ends, perhaps with a fault of printing, and on a console
without cells it prints nothing. -/
def Writes (c : Console) (p : Printing α) : Prop :=
  ∃ r t, Prints p r t ∧ (∀ f, r = .error f → f.isOfPrinting) ∧ (c.width = 0 → t = [])

/-- A mere result is allowed on any console. -/
theorem writes_pure (c : Console) (a : α) : c.Writes (pure a) :=
  ⟨_, _, prints_pure a, nofun, fun _ => rfl⟩

/-- A fault of printing may end what is written. -/
theorem writes_throw (c : Console) {f : Fault} (h : f.isOfPrinting) :
    c.Writes (throw f : Printing α) :=
  ⟨_, _, prints_throw f, fun _ hf => by cases hf; exact h, fun _ => rfl⟩

/-- Writing twice is writing. -/
theorem Writes.bind (h : c.Writes p) (hnext : ∀ a, c.Writes (next a)) : c.Writes (p >>= next) := by
  obtain ⟨r, t, hp, hfault, hnone⟩ := h
  cases r with
  | error f => exact ⟨_, _, hp.bind_error, fun g hg => by cases hg; exact hfault f rfl, hnone⟩
  | ok a =>
    obtain ⟨r', t', hthen, hfault', hnone'⟩ := hnext a
    exact ⟨_, _, hp.bind hthen, hfault', fun hwidth => by rw [hnone hwidth, hnone' hwidth]; rfl⟩

/-- Writing for every item of a list is writing. -/
theorem writes_forM {ι : Type} {f : ι → Printing Unit} (h : ∀ i, c.Writes (f i)) (is : List ι) :
    c.Writes (is.forM f) := by
  induction is with
  | nil => exact c.writes_pure ()
  | cons i is ih => exact (h i).bind fun _ => ih

/-- What ends without a fault does so in its parts. -/
theorem Writes.bind_inv (h : c.Writes p) (hnext : ∀ a, c.Writes (next a)) {b : β} {t : Text}
    (hprints : Prints (p >>= next) (.ok b) t) :
    ∃ a t₁ t₂, Prints p (.ok a) t₁ ∧ Prints (next a) (.ok b) t₂ ∧ t = t₁ ++ t₂ := by
  obtain ⟨r, t₁, hp, -⟩ := h
  cases r with
  | error f => cases (hp.bind_error.unique hprints).1
  | ok a =>
    obtain ⟨r', t₂, hthen, -⟩ := hnext a
    obtain ⟨rfl, rfl⟩ := (hp.bind hthen).unique hprints
    exact ⟨a, t₁, t₂, hp, hthen, rfl⟩

/-- Something is printed, and then the computation is over. -/
theorem Writes.then_pure (h : c.Writes p) (b : β) :
    ∃ t, (c.width = 0 → t = []) ∧
      ((∃ f : Fault, f.isOfPrinting ∧ Prints (p >>= fun _ => pure b) (.error f) t) ∨
        ∃ a, Prints p (.ok a) t ∧ Prints (p >>= fun _ => pure b) (.ok b) t) := by
  obtain ⟨r, t, hp, hfault, hnone⟩ := h
  refine ⟨t, hnone, ?_⟩
  cases r with
  | error f => exact .inl ⟨f, hfault f rfl, hp.bind_error⟩
  | ok a => exact .inr ⟨a, hp, hp.then_pure b⟩

/-- Nothing is printed on a console without cells. -/
theorem print_of_width_eq_zero (h : c.width = 0) (t : StyledText) : c.print t = pure () := if_pos h

/-- A line that is printed without a fault is printed as it is shown. -/
theorem prints_print (h : c.width ≠ 0) (t : StyledText) :
    (∃ f : Fault, f.isOfPrinting ∧ Prints (c.print t) (.error f) []) ∨
      ∃ shown, t.print c.showsColours = .ok shown ∧ Prints (c.print t) (.ok ()) (shown ++ "\n") := by
  unfold print
  rw [if_neg h]
  cases t.print c.showsColours with
  | error e => exact .inl ⟨_, rfl, prints_throw _⟩
  | ok shown =>
    cases hencoded : c.encoded with
    | false => exact .inr ⟨shown, rfl, prints_put _⟩
    | true => exact (prints_write _).imp_right fun h => ⟨shown, rfl, h⟩

/-- Printing styled text is writing. -/
theorem writes_print (c : Console) (t : StyledText) : c.Writes (c.print t) := by
  by_cases hwidth : c.width = 0
  · rw [print_of_width_eq_zero hwidth]
    exact c.writes_pure ()
  · rcases prints_print hwidth t with ⟨f, hf, hfault⟩ | ⟨shown, -, hline⟩
    · exact ⟨_, _, hfault, fun g hg => by cases hg; exact hf, fun _ => rfl⟩
    · exact ⟨_, _, hline, nofun, fun hnone => absurd hnone hwidth⟩

/-- Printing a notice is writing. -/
theorem writes_notify (c : Console) (n : Notice) (message : Text) : c.Writes (c.notify n message) :=
  c.writes_print _

/-- Printing text with markup is writing. -/
theorem writes_marked (c : Console) (t : Text) : c.Writes (c.marked t) := by
  unfold marked
  split
  case h_1 e _ => exact c.writes_throw (Fault.isOfPrinting_ofMarkup e)
  case h_2 => exact c.writes_pure _

/-- Printing a heading is writing. -/
theorem writes_heading (c : Console) (title : Text) : c.Writes (c.heading title) := by
  unfold heading
  split
  · refine (c.writes_print _).bind fun _ => ?_
    split
    · exact c.writes_print _
    · exact (c.writes_marked title).bind fun _ => c.writes_print _
  · exact (c.writes_marked _).bind fun _ => c.writes_print _

end Console

end LiveLint
