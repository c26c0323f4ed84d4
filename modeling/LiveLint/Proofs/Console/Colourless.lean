import LiveLint.Proofs.Console.Printing
import LiveLint.Proofs.Layers.Paths
import LiveLint.Proofs.Results
import LiveLint.Text.Quoted

/-!
# Printing without colours

Styled text is cut into lines and segments on its way to a console. Where styles are not shown the
pieces put together again are the text (`StyledText.text_of_print`), whatever the spans are, if
there are no tabs in it; and there is such a text if every span asks for a style that there is
(`StyledText.Showable`). A console prints it as it is if it can be written (`Console.prints_text`).
-/

namespace LiveLint

namespace Text

/-- The pieces joined again are the text. -/
theorem joinWith_splitOn (c : CodePoint) (t : Text) : joinWith [c] (splitOn (· = c) t) = t := by
  rw [splitOn_eq_splitOnP]
  exact List.intercalate_splitOn c

/-- What is joined holds every code point of its parts. -/
theorem subset_joinWith {sep w : Text} {ws : List Text} (hw : w ∈ ws) : w ⊆ joinWith sep ws := by
  intro c hc
  induction ws with
  | nil => cases hw
  | cons v vs ih =>
    cases vs with
    | nil =>
      obtain rfl := List.mem_singleton.1 hw
      rwa [joinWith_singleton]
    | cons v' vs =>
      rw [joinWith_cons_cons]
      rcases List.mem_cons.1 hw with rfl | hw
      · exact List.mem_append_left _ (List.mem_append_left _ hc)
      · exact List.mem_append_right _ (ih hw)

end Text

namespace StyledText

variable {t line : StyledText} {shown : Text}

/-- A console shows the code point as it is. -/
def IsShown (c : CodePoint) : Prop :=
  isDropped c = false ∧ c ≠ tab ∧ c.isSurrogate = false

instance (c : CodePoint) : Decidable (IsShown c) :=
  inferInstanceAs (Decidable (isDropped c = false ∧ c ≠ tab ∧ c.isSurrogate = false))

/-- Controls and halves of surrogate pairs apart, every code point is shown. -/
theorem isShown_of_le {c : CodePoint} (hlow : 0x20 ≤ c.val)
    (hwhole : ¬ (0xD800 ≤ c.val ∧ c.val ≤ 0xDFFF)) : IsShown c := by
  refine ⟨?_, ?_, ?_⟩
  · simp only [isDropped, Bool.or_eq_false_iff, decide_eq_false_iff_not]
    omega
  · rintro rfl
    exact absurd hlow (by decide)
  · simp only [CodePoint.isSurrogate, Bool.and_eq_false_iff, decide_eq_false_iff_not]
    omega

/-- Printable code points are shown, as control codes are not among them. -/
theorem isShown_of_isPrintable {c : CodePoint} (hc : c.isPrintable = true) : IsShown c := by
  have hout {r : Nat × Nat} (hr : r ∈ unprintableIntervals) : ¬ (r.1 ≤ c.val ∧ c.val ≤ r.2) := by
    rintro ⟨hlow, hhigh⟩
    have hin : inIntervals unprintableIntervals c.val = true :=
      List.any_eq_true.2 ⟨r, hr, by simp [hlow, hhigh]⟩
    rw [CodePoint.isPrintable, hin] at hc
    cases hc
  have hcontrol := hout (r := (0x0, 0x1F)) List.mem_cons_self
  have hhalf := hout (r := (0xD7FC, 0xF8FF)) (by decide +kernel)
  exact isShown_of_le (by omega) (by omega)

/-- A console shows the text as it is. -/
def Shows (t : Text) : Prop := ∀ c ∈ t, IsShown c

instance (t : Text) : Decidable (Shows t) := inferInstanceAs (Decidable (∀ c ∈ t, IsShown c))

/-- Texts that are shown are shown one behind the other. -/
theorem Shows.append {t t' : Text} (h : Shows t) (h' : Shows t') : Shows (t ++ t') :=
  List.forall_mem_append.2 ⟨h, h'⟩

/-- Cleaning leaves a text that is shown alone. -/
theorem Shows.clean {t : Text} (h : Shows t) : clean t = t :=
  List.filter_eq_self.2 fun c hc => by rw [(h c hc).1]; rfl

/-- Every span asks for a style that there is. -/
def Showable (t : StyledText) : Prop :=
  ∀ s ∈ t.spans, ∃ style, Theme.style s.definition = .ok style

/-- The text of two pieces of styled text is that of both. -/
theorem text_append (a b : StyledText) : (a ++ b).text = a.text ++ b.text := by
  change (append a b).text = _
  unfold append
  split
  case isTrue hempty => rw [List.isEmpty_iff.1 hempty, List.append_nil]
  case isFalse => rfl

/-- Two showable pieces are showable together. -/
theorem Showable.append {a b : StyledText} (ha : a.Showable) (hb : b.Showable) :
    (a ++ b).Showable := by
  change (StyledText.append a b).Showable
  unfold StyledText.append
  split
  case isTrue => exact ha
  case isFalse =>
    refine List.forall_mem_append.2 ⟨ha, fun s hs => ?_⟩
    obtain ⟨unmoved, hunmoved, rfl⟩ := List.mem_map.1 hs
    exact hb unmoved hunmoved

/-- Plain text asks for no style. -/
theorem showable_plain (t : Text) : (plain t).Showable := fun _ hs => absurd hs List.not_mem_nil

/-- Text in one style is showable if there is that style. -/
theorem showable_inStyle {definition : Text} {style : Style}
    (h : Theme.style definition = .ok style) (t : Text) : (inStyle definition t).Showable := by
  intro s hs
  unfold inStyle at hs
  dsimp only at hs
  split at hs
  · cases hs
  · obtain rfl := List.mem_singleton.1 hs
    exact ⟨style, h⟩

/-! ## Segments -/

/-- What stands between places in order is all from the first place on. -/
theorem flatMap_between (t : StyledText) {place : Nat} {places : List Nat}
    (h : (place :: places).Pairwise (· ≤ ·)) :
    (t.between (place :: places)).flatMap (fun b => (t.text.drop b.1).take (b.2 - b.1))
      = t.text.drop place := by
  induction places generalizing place with
  | nil =>
    rw [between]
    split
    case isTrue =>
      rw [List.flatMap_singleton]
      exact List.take_of_length_le (List.length_drop ▸ Nat.le_refl _)
    case isFalse hge => rw [List.drop_of_length_le (Nat.not_lt.1 hge), List.flatMap_nil]
  | cons next places ih =>
    obtain ⟨hplace, hnext⟩ := List.pairwise_cons.1 h
    have hle : place ≤ next := hplace next List.mem_cons_self
    rw [between]
    split
    case isTrue =>
      rw [List.flatMap_cons, ih hnext]
      have hrest : t.text.drop next = (t.text.drop place).drop (next - place) := by
        rw [List.drop_drop, Nat.add_sub_cancel' hle]
      rw [hrest, List.take_append_drop]
    case isFalse hge =>
      rw [ih hnext, Nat.le_antisymm hle (Nat.not_lt.1 hge)]

/-- The segments of a text are all of it. -/
theorem text_of_segments {segments : List (Text × Style)} (h : t.segments = .ok segments) :
    segments.flatMap Prod.fst = t.text := by
  obtain ⟨spans, -, h⟩ := bind_eq_ok_iff.1 h
  obtain rfl := Except.ok.inj h
  have hperm := List.mergeSort_perm (0 :: t.spans.flatMap fun s => [s.start, s.stop]) (· ≤ ·)
  have hsorted : ((0 :: t.spans.flatMap fun s => [s.start, s.stop]).mergeSort (· ≤ ·)).Pairwise
      (· ≤ ·) := by
    refine (List.pairwise_mergeSort (fun _ _ _ => ?_) (fun _ _ => ?_) _).imp of_decide_eq_true
    · simpa using Nat.le_trans
    · simpa using Nat.le_total _ _
  cases hplaces : (0 :: t.spans.flatMap fun s => [s.start, s.stop]).mergeSort (· ≤ ·) with
  | nil => exact absurd (hplaces ▸ hperm).nil_eq (List.cons_ne_nil _ _).symm
  | cons place places =>
    rw [hplaces] at hsorted hperm
    obtain rfl : place = 0 := by
      rcases List.mem_cons.1 (hperm.mem_iff.2 List.mem_cons_self) with h | h
      · exact h.symm
      · exact Nat.le_zero.1 ((List.pairwise_cons.1 hsorted).1 0 h)
    have hall := t.flatMap_between hsorted
    rw [List.flatMap_map]
    exact hall

/-- Showable text can be taken apart into segments. -/
theorem Showable.exists_segments (h : t.Showable) : ∃ segments, t.segments = .ok segments := by
  have hspans {spans : List Span} (h : ∀ s ∈ spans, ∃ style, Theme.style s.definition = .ok style) :
      ∃ found, (spans.mapM fun s => return (s, ← Theme.style s.definition)) = .ok found := by
    induction spans with
    | nil => exact ⟨[], rfl⟩
    | cons s spans ih =>
      rw [List.forall_mem_cons] at h
      obtain ⟨style, hstyle⟩ := h.1
      obtain ⟨found, hfound⟩ := ih h.2
      refine ⟨(s, style) :: found, ?_⟩
      rw [List.mapM_cons, hstyle, hfound]
      rfl
  obtain ⟨found, hfound⟩ := hspans h
  exact ⟨_, bind_eq_ok_iff.2 ⟨found, hfound, rfl⟩⟩

/-! ## Lines -/

/-- A line without tabs that is printed without colours is its own text. -/
theorem text_of_printLine (h : t.printLine false = .ok shown) (htab : tab ∉ t.text) :
    shown = t.text := by
  have hexpand : t.expandTabs = t := if_neg (by simpa using htab)
  rw [printLine, hexpand] at h
  obtain ⟨segments, hsegments, h⟩ := bind_eq_ok_iff.1 h
  obtain rfl := Except.ok.inj h
  exact text_of_segments hsegments

/-- A showable line without tabs is printed as its own text. -/
theorem Showable.printLine (h : t.Showable) (htab : tab ∉ t.text) :
    t.printLine false = .ok t.text := by
  have hexpand : t.expandTabs = t := if_neg (by simpa using htab)
  obtain ⟨segments, hsegments⟩ := h.exists_segments
  rw [StyledText.printLine, hexpand, hsegments, ← text_of_segments hsegments]
  rfl

/-- The pieces of a styled text have the texts into which it was split. -/
theorem map_text_piecesFrom (spans : List Span) (gap position : Nat) (ts : List Text) :
    (piecesFrom spans gap position ts).map text = ts := by
  induction ts generalizing position with
  | nil => rfl
  | cons t ts ih => rw [piecesFrom, List.map_cons, ih]

/-- The lines of a styled text, joined again, are its text. -/
theorem joinWith_lines (t : StyledText) : Text.joinWith [newline] (t.lines.map text) = t.text := by
  unfold lines
  split
  case isTrue => rw [map_text_piecesFrom, Text.joinWith_splitOn]
  case isFalse => exact Text.joinWith_singleton _ _

/-- A text without tabs has no line with one. -/
theorem tab_notMem_lines (htab : tab ∉ t.text) : ∀ line ∈ t.lines, tab ∉ line.text := by
  intro line hline hmem
  have htext : tab ∈ Text.joinWith [newline] (t.lines.map text) :=
    Text.subset_joinWith (List.mem_map_of_mem hline) hmem
  rw [joinWith_lines] at htext
  exact htab htext

/-- Lines without tabs that are printed without colours are their own texts. -/
theorem texts_of_mapM {ts : List StyledText} {shown : List Text}
    (h : ts.mapM (printLine false) = .ok shown) (htab : ∀ t ∈ ts, tab ∉ t.text) :
    shown = ts.map text := by
  induction ts generalizing shown with
  | nil =>
    cases h
    rfl
  | cons t ts ih =>
    rw [List.forall_mem_cons] at htab
    rw [List.mapM_cons] at h
    obtain ⟨first, hfirst, h⟩ := bind_eq_ok_iff.1 h
    obtain ⟨rest, hrest, h⟩ := bind_eq_ok_iff.1 h
    obtain rfl := Except.ok.inj h
    rw [text_of_printLine hfirst htab.1, ih hrest htab.2, List.map_cons]

/-- Without styles a text is printed as it is, if it is printed at all. -/
theorem text_of_print (h : t.print false = .ok shown) (htab : tab ∉ t.text) : shown = t.text := by
  obtain ⟨lines, hlines, h⟩ := bind_eq_ok_iff.1 h
  obtain rfl := Except.ok.inj h
  rw [texts_of_mapM hlines (tab_notMem_lines htab), joinWith_lines]

/-- The lines of a showable text are showable. -/
theorem Showable.lines (h : t.Showable) : ∀ line ∈ t.lines, line.Showable := by
  have hpieces (gap : Nat) (ts : List Text) (position : Nat) :
      ∀ line ∈ piecesFrom t.spans gap position ts, line.Showable := by
    induction ts generalizing position with
    | nil => exact fun line hline => absurd hline List.not_mem_nil
    | cons piece ts ih =>
      refine List.forall_mem_cons.2 ⟨fun s hs => ?_, ih _⟩
      obtain ⟨whole, hwhole, hs⟩ := List.mem_filterMap.1 hs
      unfold Span.within? at hs
      dsimp only at hs
      split at hs
      · cases hs
        exact h whole hwhole
      · cases hs
  unfold StyledText.lines
  split
  · exact hpieces 1 _ 0
  · exact List.forall_mem_singleton.2 h

/-- A showable text without tabs is printed as its own text. -/
theorem Showable.print (h : t.Showable) (htab : tab ∉ t.text) : t.print false = .ok t.text := by
  have hlines {ts : List StyledText} (h : ∀ t ∈ ts, t.Showable) (htab : ∀ t ∈ ts, tab ∉ t.text) :
      ts.mapM (StyledText.printLine false) = .ok (ts.map text) := by
    induction ts with
    | nil => rfl
    | cons t ts ih =>
      rw [List.forall_mem_cons] at h htab
      rw [List.mapM_cons, h.1.printLine htab.1, ih h.2 htab.2]
      rfl
  rw [StyledText.print, hlines h.lines (tab_notMem_lines htab), ← joinWith_lines t]
  rfl

end StyledText

namespace Console

open Printing

variable {c : Console} {t : StyledText}

/-- Without colours a console prints text as it is. -/
theorem prints_text (hcolours : c.showsColours = false) (hwidth : c.width ≠ 0) (h : t.Showable)
    (hshown : StyledText.Shows t.text) :
    Prints (c.print t) (.ok ()) (t.text ++ "\n") := by
  unfold print
  rw [if_neg hwidth, hcolours, h.print fun htab => (hshown _ htab).2.1 rfl]
  dsimp only
  split
  case isTrue =>
    have hbreak : ∀ x ∈ Text.ofString "\n", x.isSurrogate = false := by decide
    exact prints_write_of_forall
      (List.forall_mem_append.2 ⟨fun x hx => (hshown x hx).2.2, hbreak⟩)
  case isFalse => exact prints_put _

/-- What is printed there without a fault is the text. -/
theorem text_of_prints {shown : Text} (hcolours : c.showsColours = false) (hwidth : c.width ≠ 0)
    (htab : StyledText.tab ∉ t.text) (h : Prints (c.print t) (.ok ()) shown) :
    shown = t.text ++ "\n" := by
  rcases prints_print hwidth t with ⟨f, -, hfault⟩ | ⟨line, hline, hprints⟩
  · cases (hfault.unique h).1
  · rw [hcolours] at hline
    rw [← StyledText.text_of_print hline htab]
    exact (h.unique hprints).2

end Console

end LiveLint
