import Mathlib.Data.List.Chain
import Mathlib.Data.List.DropRight
import LiveLint.Proofs.Layers.Paths
import LiveLint.Text.Blank

/-!
# The words of a text

A text falls into gaps and words in one way (`Text.FallsInto`), and `Text.words` finds the words.
Where single spaces stand between the words and nothing around them (`Text.Lined`), the words joined
again are the text itself, and such a text stays of that kind when it is cut and a word is put
behind the cut (`Lined.cut`).
-/

namespace LiveLint

namespace Text

variable {p : CodePoint → Bool} {t w : Text} {ws : List Text}

/-- The text consists of the words `ws` with gaps before, between and after them, where the
characters of the gaps are those that satisfy `p`. -/
inductive FallsInto (p : CodePoint → Bool) : Text → List Text → Prop
  | gap {gap : Text} (hgap : ∀ c ∈ gap, p c = true) : FallsInto p gap []
  | word {gap w rest : Text} {ws : List Text} (hgap : ∀ c ∈ gap, p c = true) (hne : w ≠ [])
      (hw : ∀ c ∈ w, p c = false) (hend : ∀ c ∈ rest.head?, p c = true)
      (hrest : FallsInto p rest ws) : FallsInto p (gap ++ w ++ rest) (w :: ws)

/-- A gap in front of a text adds no word. -/
theorem words_gap_append {gap : Text} (hgap : ∀ c ∈ gap, p c = true) (t : Text) :
    words p (gap ++ t) = words p t := by
  induction gap with
  | nil => rfl
  | cons c gap ih =>
    rw [List.forall_mem_cons] at hgap
    rw [List.cons_append, words_cons _ hgap.1, ih hgap.2]

/-- A word that ends where a gap begins, or with the text, is the first one. -/
theorem words_word_append {rest : Text} (hne : w ≠ []) (hw : ∀ c ∈ w, p c = false)
    (hend : ∀ c ∈ rest.head?, p c = true) : words p (w ++ rest) = w :: words p rest := by
  cases rest with
  | nil =>
    rw [List.append_nil, words_of_forall hne hw]
    rfl
  | cons c rest =>
    have hc : p c = true := hend c rfl
    rw [words_append_cons w rest hc, words_of_forall hne hw, words_cons rest hc,
      List.singleton_append]

/-- A text falls into its words and into nothing else. -/
theorem FallsInto.words_eq (h : FallsInto p t ws) : words p t = ws := by
  induction h with
  | @gap gap hgap =>
    have hnone := words_gap_append hgap []
    rwa [List.append_nil] at hnone
  | word hgap hne hw hend _ ih =>
    rw [List.append_assoc, words_gap_append hgap, words_word_append hne hw hend, ih]

/-- One more character in front belongs to the first gap, to the first word, or is a word. -/
theorem FallsInto.exists_cons (h : FallsInto p t ws) (c : CodePoint) :
    ∃ ws', FallsInto p (c :: t) ws' := by
  cases hc : p c with
  | true =>
    cases h with
    | gap hgap => exact ⟨[], .gap (List.forall_mem_cons.2 ⟨hc, hgap⟩)⟩
    | @word gap w rest ws hgap hne hw hend hrest =>
      exact ⟨w :: ws, .word (List.forall_mem_cons.2 ⟨hc, hgap⟩) hne hw hend hrest⟩
  | false =>
    have hnil : ∀ d ∈ ([] : Text), p d = true := fun d hd => absurd hd List.not_mem_nil
    by_cases hhead : ∀ d ∈ t.head?, p d = true
    · have hw : ∀ d ∈ [c], p d = false := List.forall_mem_singleton.2 hc
      exact ⟨[c] :: ws, .word hnil (List.cons_ne_nil c []) hw hhead h⟩
    · cases h with
      | gap hgap => exact absurd (fun d hd => hgap d (List.mem_of_mem_head? hd)) hhead
      | @word gap w rest ws hgap hne hw hend hrest =>
        cases gap with
        | nil =>
          have hcw : ∀ d ∈ c :: w, p d = false := List.forall_mem_cons.2 ⟨hc, hw⟩
          exact ⟨(c :: w) :: ws, .word hnil (List.cons_ne_nil c w) hcw hend hrest⟩
        | cons g gap =>
          refine absurd ?_ hhead
          rintro _ ⟨⟩
          exact hgap g List.mem_cons_self

/-- Every text falls into its words. -/
theorem fallsInto_words (p : CodePoint → Bool) (t : Text) : FallsInto p t (words p t) := by
  have hsome : ∃ ws, FallsInto p t ws := by
    induction t with
    | nil => exact ⟨[], .gap fun c hc => absurd hc List.not_mem_nil⟩
    | cons c t ih => exact ih.elim fun _ h => h.exists_cons c
  obtain ⟨ws, h⟩ := hsome
  exact h.words_eq ▸ h

/-- The words into which a text falls are not empty and have no separator in them. -/
theorem FallsInto.isWord (h : FallsInto p t ws) : ∀ w ∈ ws, w ≠ [] ∧ ∀ c ∈ w, p c = false := by
  induction h with
  | gap => exact fun w hw => absurd hw List.not_mem_nil
  | word _ hne hw _ _ ih => exact List.forall_mem_cons.2 ⟨⟨hne, hw⟩, ih⟩

/-- The words into which a text falls are made of its characters. -/
theorem FallsInto.subset (h : FallsInto p t ws) : ∀ w ∈ ws, w ⊆ t := by
  induction h with
  | gap => exact fun w hw => absurd hw List.not_mem_nil
  | word _ _ _ _ _ ih =>
    refine List.forall_mem_cons.2 ⟨fun c hc => ?_, fun v hv c hc => ?_⟩
    · exact List.mem_append_left _ (List.mem_append_right _ hc)
    · exact List.mem_append_right _ (ih v hv hc)

/-- A text with something else than gaps has a word. -/
theorem FallsInto.ne_nil (h : FallsInto p t ws) (hne : ∃ c ∈ t, p c = false) : ws ≠ [] := by
  rintro rfl
  obtain ⟨c, hc, hp⟩ := hne
  cases h with
  | gap hgap => exact Bool.false_ne_true (hp.symm.trans (hgap c hc))

/-! ## Words with single spaces between them -/

/-- The space. -/
def space : CodePoint := .ofChar ' '

/-- The text is something without blanks. -/
def IsWord (w : Text) : Prop := w ≠ [] ∧ ∀ c ∈ w, c.isBlank = false

/-- The text consists of words with single spaces between them. -/
inductive Lined : Text → Prop
  | word {w : Text} (hw : IsWord w) : Lined w
  | cons {w t : Text} (hw : IsWord w) (ht : Lined t) : Lined (w ++ space :: t)

theorem isBlank_space : space.isBlank = true := by decide

/-- Words joined by spaces are of that kind. -/
theorem lined_joinWith (hne : ws ≠ []) (h : ∀ w ∈ ws, IsWord w) : Lined (joinWith [space] ws) := by
  induction ws with
  | nil => exact absurd rfl hne
  | cons w ws ih =>
    rw [List.forall_mem_cons] at h
    cases ws with
    | nil =>
      rw [joinWith_singleton]
      exact .word h.1
    | cons w' ws =>
      rw [joinWith_cons_cons, List.append_assoc, List.singleton_append]
      exact .cons h.1 (ih (List.cons_ne_nil w' ws) h.2)

namespace Lined

/-- A lined text has a word. -/
theorem words_ne_nil (h : Lined t) : blankWords t ≠ [] := by
  cases h with
  | word hw =>
    rw [blankWords, words_of_forall hw.1 hw.2]
    exact List.cons_ne_nil _ _
  | cons hw ht =>
    rw [blankWords, words_append_cons _ _ isBlank_space, words_of_forall hw.1 hw.2]
    exact List.cons_ne_nil _ _

/-- The words joined again are the text. -/
theorem joinWith_words (h : Lined t) : joinWith [space] (blankWords t) = t := by
  induction h with
  | word hw => rw [blankWords, words_of_forall hw.1 hw.2, joinWith_singleton]
  | @cons w t hw ht ih =>
    obtain ⟨v, vs, hvs⟩ := List.exists_cons_of_ne_nil ht.words_ne_nil
    rw [hvs] at ih
    rw [blankWords, words_append_cons _ _ isBlank_space, words_of_forall hw.1 hw.2, ← blankWords,
      hvs, List.singleton_append, joinWith_cons_cons, ih, List.append_assoc, List.singleton_append]

/-- A lined text does not start with a blank. -/
theorem head_not_isBlank (h : Lined t) : ∀ c ∈ t.head?, c.isBlank = false := by
  have hword {w : Text} (hw : IsWord w) (rest : Text) : ∀ c ∈ (w ++ rest).head?, c.isBlank = false := by
    obtain ⟨c, w, rfl⟩ := List.exists_cons_of_ne_nil hw.1
    rintro _ ⟨⟩
    exact hw.2 c List.mem_cons_self
  cases h with
  | word hw => exact List.append_nil t ▸ hword hw []
  | cons hw ht => exact hword hw _

/-- No two blanks stand next to each other. -/
theorem isChain_not_isBlank (h : Lined t) :
    t.IsChain fun a b => ¬ (a.isBlank = true ∧ b.isBlank = true) := by
  have hword {w : Text} (hw : IsWord w) :
      w.IsChain fun a b => ¬ (a.isBlank = true ∧ b.isBlank = true) := by
    refine List.Pairwise.isChain (List.pairwise_of_forall_mem_list fun a ha b _ hab => ?_)
    exact Bool.false_ne_true ((hw.2 a ha).symm.trans hab.1)
  induction h with
  | word hw => exact hword hw
  | @cons w t hw ht ih =>
    refine List.isChain_append.2 ⟨hword hw, List.isChain_cons.2 ⟨fun b hb hab => ?_, ih⟩, ?_⟩
    · exact Bool.false_ne_true ((ht.head_not_isBlank b hb).symm.trans hab.2)
    · intro a ha b _ hab
      exact Bool.false_ne_true ((hw.2 a (List.mem_of_getLast? ha)).symm.trans hab.1)

/-- Of what is blank there are spaces only. -/
theorem eq_space_of_isBlank (h : Lined t) : ∀ c ∈ t, c.isBlank = true → c = space := by
  have hword {w : Text} (hw : IsWord w) : ∀ c ∈ w, c.isBlank = true → c = space :=
    fun c hc hblank => absurd ((hw.2 c hc).symm.trans hblank) Bool.false_ne_true
  induction h with
  | word hw => exact hword hw
  | cons hw _ ih =>
    exact List.forall_mem_append.2 ⟨hword hw, List.forall_mem_cons.2 ⟨fun _ => rfl, ih⟩⟩

/-- Cut anywhere, also right before or behind a space, and with a word behind the cut, the text is
still of that kind. -/
theorem cut (h : Lined t) (n : Nat) (hw : IsWord w) : Lined (t.take n ++ w) := by
  have hcut {v : Text} (hv : IsWord v) (n : Nat) : Lined (v.take n ++ w) :=
    .word ⟨List.append_ne_nil_of_right_ne_nil _ hw.1,
      List.forall_mem_append.2 ⟨fun c hc => hv.2 c (List.mem_of_mem_take hc), hw.2⟩⟩
  induction h generalizing n with
  | word hv => exact hcut hv n
  | @cons v t hv _ ih =>
    rw [List.take_append]
    cases hmore : n - v.length with
    | zero =>
      rw [List.take_zero, List.append_nil]
      exact hcut hv n
    | succ m =>
      have hwhole : v.take n = v := List.take_of_length_le (by omega)
      rw [hwhole, List.take_succ_cons, List.append_assoc, List.cons_append]
      exact .cons hv (ih m)

end Lined

/-! ## Blank margins -/

/-- A text is what is left of it when it is stripped, between blank margins. -/
theorem exists_margins (t : Text) :
    ∃ before after, t = before ++ t.strip ++ after ∧ (∀ c ∈ before, c.isBlank = true) ∧
      ∀ c ∈ after, c.isBlank = true := by
  refine ⟨t.takeWhile CodePoint.isBlank,
    (t.dropWhile CodePoint.isBlank).rtakeWhile CodePoint.isBlank, ?_,
    fun c hc => List.mem_takeWhile_imp hc, fun c hc => List.mem_rtakeWhile_imp hc⟩
  have hright : t.strip ++ (t.dropWhile CodePoint.isBlank).rtakeWhile CodePoint.isBlank
      = t.dropWhile CodePoint.isBlank := List.rdropWhile_append_rtakeWhile
  rw [List.append_assoc, hright, List.takeWhile_append_dropWhile]

/-- Stripping leaves nothing exactly of a text that is all blanks. -/
theorem strip_eq_nil_iff {t : Text} : t.strip = [] ↔ ∀ c ∈ t, c.isBlank = true := by
  constructor
  · intro h
    obtain ⟨before, after, ht, hbefore, hafter⟩ := t.exists_margins
    rw [h, List.append_nil] at ht
    rw [ht]
    exact List.forall_mem_append.2 ⟨hbefore, hafter⟩
  · intro h
    have hleft : t.dropWhile CodePoint.isBlank = [] := List.dropWhile_eq_nil_iff.2 h
    rw [strip, trim, trimLeft, hleft]
    rfl

end Text

end LiveLint
