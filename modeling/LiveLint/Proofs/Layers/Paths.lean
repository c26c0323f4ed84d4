import Mathlib.Data.List.Basic
import LiveLint.Path

/-!
# Paths and their texts

A path that was read from a text has names that a text can show: none is empty, none is a point, and
none has a slash in it (`Path.Proper`). Following names and joining paths keeps that, and the text
of such a path is read as the path again (`Path.ofText_text`).
-/

namespace LiveLint

namespace Text

variable {p : CodePoint → Bool}

/-- Splitting is the splitting of lists. -/
theorem splitOn_eq_splitOnP (t : Text) : splitOn p t = t.splitOnP p := by
  induction t with
  | nil => rw [splitOn, List.splitOnP_nil]
  | cons c t ih =>
    rw [splitOn, ih, List.splitOnP_cons_eq_if_modifyHead]
    cases hpieces : t.splitOnP p with
    | nil => exact absurd hpieces (List.splitOnP_ne_nil p t)
    | cons piece pieces => rfl

/-- A text without separators is its only word. -/
theorem words_of_forall {t : Text} (hne : t ≠ []) (h : ∀ c ∈ t, p c = false) : words p t = [t] := by
  rw [words, splitOn_eq_splitOnP, List.splitOnP_eq_singleton h]
  exact List.filter_cons_of_pos (by cases t <;> trivial)

/-- A separator ends the words before it, and others begin behind it. -/
theorem words_append_cons (s t : Text) {c : CodePoint} (hc : p c) :
    words p (s ++ c :: t) = words p s ++ words p t := by
  simp only [words, splitOn_eq_splitOnP]
  rw [List.splitOnP_append_cons s t hc, List.filter_append]

/-- A separator in front separates nothing. -/
theorem words_cons (t : Text) {c : CodePoint} (hc : p c) : words p (c :: t) = words p t :=
  words_append_cons [] t hc

/-- No part of a split text has a separator in it. -/
theorem forall_mem_splitOn (t : Text) : ∀ w ∈ splitOn p t, ∀ c ∈ w, p c = false := by
  induction t with
  | nil =>
    rw [splitOn, List.forall_mem_singleton]
    exact fun c hc => absurd hc List.not_mem_nil
  | cons c t ih =>
    unfold splitOn
    cases hpieces : splitOn p t with
    | nil =>
      rw [splitOn_eq_splitOnP] at hpieces
      exact absurd hpieces (List.splitOnP_ne_nil p t)
    | cons piece pieces =>
      rw [hpieces, List.forall_mem_cons] at ih
      dsimp only
      split
      · rw [List.forall_mem_cons, List.forall_mem_cons]
        exact ⟨fun c hc => absurd hc List.not_mem_nil, ih⟩
      · rename_i hc
        rw [List.forall_mem_cons, List.forall_mem_cons]
        exact ⟨⟨Bool.not_eq_true _ ▸ hc, ih.1⟩, ih.2⟩

end Text

namespace Path

/-- The name shows in the text of a path as what it is. -/
def ProperName (n : Text) : Prop := n ≠ [] ∧ (∀ c ∈ n, c ≠ slash) ∧ n ≠ Text.ofString "."

/-- Every name of the path shows in its text. -/
def Proper (p : Path) : Prop := ∀ n ∈ p.names, ProperName n

/-- The names of a path that is read from a text are proper. -/
theorem proper_ofText (t : Text) : (ofText t).Proper := by
  intro n hn
  rw [ofText, List.mem_filter, Text.words, List.mem_filter] at hn
  obtain ⟨⟨hsplit, hempty⟩, hpoint⟩ := hn
  refine ⟨?_, fun c hc => ?_, ?_⟩
  · rintro rfl
    cases hempty
  · exact of_decide_eq_false (Text.forall_mem_splitOn t n hsplit c hc)
  · rintro rfl
    cases hpoint

section

variable {p q : Path}

/-- Two paths with proper names have proper names together. -/
theorem Proper.join (hp : p.Proper) (hq : q.Proper) : (p.join q).Proper := by
  unfold Path.join
  split
  · exact hq
  · exact List.forall_mem_append.2 ⟨hp, hq⟩

/-- A path that is resolved keeps to proper names. -/
theorem Proper.resolve {here : Path} (hhere : here.Proper) (hp : p.Proper) :
    (Path.resolve here p).Proper := by
  have hfollow {names : List Text} (hnames : ∀ n ∈ names, ProperName n) {done : List Text}
      (hdone : ∀ n ∈ done, ProperName n) : ∀ n ∈ names.foldl follow done, ProperName n := by
    induction names generalizing done with
    | nil => exact hdone
    | cons name names ih =>
      rw [List.forall_mem_cons] at hnames
      refine ih hnames.2 ?_
      unfold follow
      split
      · exact fun n hn => hdone n (List.dropLast_subset done hn)
      · rw [List.forall_mem_append, List.forall_mem_singleton]
        exact ⟨hdone, hnames.1⟩
  exact hfollow (hhere.join hp) fun n hn => absurd hn List.not_mem_nil

/-- Names with slashes between them fall into the names again. -/
theorem words_joinWith {names : List Text} (h : ∀ n ∈ names, ProperName n) :
    Text.words (· = slash) (Text.joinWith [slash] names) = names := by
  induction names with
  | nil => rfl
  | cons n names ih =>
    rw [List.forall_mem_cons] at h
    obtain ⟨⟨hne, hslash, -⟩, hnames⟩ := h
    have hname : Text.words (· = slash) n = [n] :=
      Text.words_of_forall hne fun c hc => decide_eq_false (hslash c hc)
    cases names with
    | nil => rw [Text.joinWith_singleton, hname]
    | cons n' names =>
      rw [Text.joinWith_cons_cons, List.append_assoc, List.singleton_append,
        Text.words_append_cons n _ (decide_eq_true rfl), hname, ih hnames, List.singleton_append]

/-- A root in front of names is told apart from them. -/
theorem rootOf_append {names : List Text} (h : ∀ n ∈ names, ProperName n) (root : PathRoot) :
    rootOf (rootText root ++ Text.joinWith [slash] names) = root := by
  have hfirst : (Text.joinWith [slash] names).takeWhile (· = slash) = [] := by
    cases names with
    | nil => rfl
    | cons n names =>
      obtain ⟨⟨hne, hslash, -⟩, -⟩ := List.forall_mem_cons.1 h
      obtain ⟨c, n, rfl⟩ := List.exists_cons_of_ne_nil hne
      have hc (t : Text) : (c :: t).takeWhile (· = slash) = [] :=
        List.takeWhile_cons_of_neg (of_decide_eq_true.mt (hslash c List.mem_cons_self))
      cases names with
      | nil => rw [Text.joinWith_singleton, hc]
      | cons n' names => rw [Text.joinWith_cons_cons, List.cons_append, List.cons_append, hc]
  have hroot : ∀ c ∈ rootText root, decide (c = slash) = true := by
    cases root <;> decide
  rw [rootOf, List.takeWhile_append_of_pos hroot, hfirst]
  cases root <;> rfl

/-- The text of a path is read as the path. -/
theorem ofText_text (h : p.Proper) : ofText p.text = p := by
  obtain ⟨root, names⟩ := p
  unfold text
  split
  · rename_i hhere
    obtain ⟨rfl, rfl⟩ := hhere
    rfl
  · have hnames : names.filter (fun n => !n.sameAs ".") = names := by
      refine List.filter_eq_self.2 fun n hn => ?_
      rw [Text.sameAs, Bool.not_eq_true', beq_eq_false_iff_ne]
      exact (h n hn).2.2
    have hwords : Text.words (· = slash) (rootText root ++ Text.joinWith [slash] names) = names := by
      have hslash (t : Text) : Text.words (· = slash) (slash :: t) = Text.words (· = slash) t :=
        Text.words_cons t (decide_eq_true rfl)
      cases root with
      | relative => exact words_joinWith h
      | absolute => exact (hslash _).trans (words_joinWith h)
      | double => exact (hslash _).trans ((hslash _).trans (words_joinWith h))
    dsimp only
    rw [ofText, rootOf_append h, hwords, hnames]

end

end Path

end LiveLint
