import LiveLint.Console.Markup
import LiveLint.Proofs.Text.Words

/-!
# Emoji in titles

A title is read by its marks: opening brackets, backslashes and colons. Reading adds no mark and no
blank (`Markup.Within`), because no symbol of an emoji holds one (`Emoji.forall_mem_symbol`). So
where the name of an emoji is replaced there are fewer marks, and where there are not, nothing is
replaced (`Emoji.reads_expand`).
-/

namespace LiveLint

namespace Markup

/-- Opening brackets, backslashes and colons. -/
def isMark (c : CodePoint) : Bool := c.is '[' || c.is '\\' || c.is ':'

/-- How many marks a text holds. -/
def marks (t : Text) : Nat := t.countP isMark

/-- What is shown of a text has no marks besides those of the text, and no blanks. -/
structure Within (t shown : Text) : Prop where
  marks_le : marks shown ≤ marks t
  blank_mem : ∀ c ∈ shown, c.isBlank = true → c ∈ t

/-- Besides, where no mark is lost the text is shown as it is. -/
structure Reads (t shown : Text) : Prop extends Within t shown where
  eq_of_marks_le : marks t ≤ marks shown → shown = t

variable {t t' t'' shown shown' : Text}

/-- Marks add up over the parts of a text. -/
theorem marks_append (t t' : Text) : marks (t ++ t') = marks t + marks t' := List.countP_append

/-- A mark in front is one mark more. -/
theorem marks_cons_of_isMark {c : CodePoint} (hc : isMark c = true) (t : Text) :
    marks (c :: t) = marks t + 1 := List.countP_cons_of_pos hc

/-- A text in which nothing is a mark has none. -/
theorem marks_eq_zero (h : ∀ c ∈ t, isMark c = false) : marks t = 0 :=
  List.countP_eq_zero.2 fun c hc => Bool.eq_false_iff.1 (h c hc)

/-- What is within something within a text is within the text. -/
theorem Within.trans (h : Within t t') (h' : Within t' t'') : Within t t'' where
  marks_le := h'.marks_le.trans h.marks_le
  blank_mem c hc hblank := h.blank_mem c (h'.blank_mem c hc hblank) hblank

/-- Parts that are within the parts of a text are within the text. -/
theorem Within.append (h : Within t shown) (h' : Within t' shown') :
    Within (t ++ t') (shown ++ shown') where
  marks_le := by
    rw [marks_append, marks_append]
    exact Nat.add_le_add h.marks_le h'.marks_le
  blank_mem c hc hblank := (List.mem_append.1 hc).elim
    (fun hc => List.mem_append_left t' (h.blank_mem c hc hblank))
    fun hc => List.mem_append_right t (h'.blank_mem c hc hblank)

/-- Leaving code points out brings in neither marks nor blanks. -/
theorem within_of_sublist (h : shown.Sublist t) : Within t shown where
  marks_le := h.countP_le
  blank_mem _ hc _ := h.subset hc

/-- A text that is shown as it is reads itself. -/
theorem Reads.refl (t : Text) : Reads t t where
  toWithin := within_of_sublist (List.Sublist.refl t)
  eq_of_marks_le _ := rfl

/-- Readings can be made one after the other. -/
theorem Reads.trans (h : Reads t t') (h' : Reads t' t'') : Reads t t'' where
  toWithin := h.toWithin.trans h'.toWithin
  eq_of_marks_le hle := by
    have hsame := h.eq_of_marks_le (hle.trans h'.marks_le)
    rw [h'.eq_of_marks_le (h.marks_le.trans hle), hsame]

/-- Two texts are read next to each other by their own readings. -/
theorem Reads.append (h : Reads t shown) (h' : Reads t' shown') :
    Reads (t ++ t') (shown ++ shown') where
  toWithin := h.toWithin.append h'.toWithin
  eq_of_marks_le hle := by
    rw [marks_append, marks_append] at hle
    have hfirst := h.marks_le
    have hsecond := h'.marks_le
    rw [h.eq_of_marks_le (by omega), h'.eq_of_marks_le (by omega)]

/-- A code point in front is read as itself. -/
theorem Reads.cons (c : CodePoint) (h : Reads t shown) : Reads (c :: t) (c :: shown) :=
  (Reads.refl [c]).append h

/-- What has fewer marks and no new blanks is read within the text. -/
theorem reads_of_marks_lt (h : Within t shown) (hlt : marks shown < marks t) : Reads t shown where
  toWithin := h
  eq_of_marks_le hle := absurd hlt (Nat.not_lt.2 hle)

end Markup

namespace Emoji

open Markup

/-! ## The table -/

/-- The strings consist of these characters. -/
inductive Spells : List String → List (List Char) → Prop
  | nil : Spells [] []
  | cons {cs : List Char} {lines : List String} {css : List (List Char)} (h : Spells lines css) :
      Spells (String.ofList cs :: lines) (cs :: css)

/-- What all characters have that are spelled out, those of the strings have. -/
theorem Spells.forall_mem {lines : List String} {css : List (List Char)} {p : Char → Bool}
    (h : Spells lines css) (hall : (css.all fun cs => cs.all p) = true) :
    ∀ line ∈ lines, ∀ c ∈ line.toList, p c = true := by
  induction h with
  | nil => exact fun line hline => absurd hline List.not_mem_nil
  | cons h ih =>
    rw [List.all_cons, Bool.and_eq_true] at hall
    refine List.forall_mem_cons.2 ⟨fun c hc => ?_, ih hall.2⟩
    rw [String.toList_ofList] at hc
    exact List.all_eq_true.1 hall.1 c hc

set_option maxRecDepth 20000 in
/-- No line of the table holds a mark. The characters of the lines are found by unification: to take
them from the strings by evaluation would take a hundred times as long. -/
theorem isMark_emojiLines :
    ∀ line ∈ emojiLines, ∀ c ∈ line.toList, (!isMark (CodePoint.ofChar c)) = true := by
  apply Spells.forall_mem
  · simp only [emojiLines]
    repeat apply Spells.cons
    exact Spells.nil
  · decide +kernel

/-- The symbol in a pair is one of the words of the table. -/
theorem mem_of_mem_pairs {e : Text × Text} {ws : List Text} (h : e ∈ pairs ws) : e.2 ∈ ws := by
  induction ws using pairs.induct with
  | case1 name symbol rest ih =>
    rcases List.mem_cons.1 h with rfl | h
    · exact List.mem_cons_of_mem _ List.mem_cons_self
    · exact List.mem_cons_of_mem _ (List.mem_cons_of_mem _ (ih h))
  | case2 ws hws =>
    rw [pairs.eq_2 ws hws] at h
    exact absurd h List.not_mem_nil

/-- A symbol holds no mark and no blank. -/
theorem forall_mem_symbol {name symbol : Text} (h : symbol? name = some symbol) :
    ∀ c ∈ symbol, isMark c = false ∧ c.isBlank = false := by
  rw [symbol?, Option.map_eq_some_iff] at h
  obtain ⟨e, hfind, rfl⟩ := h
  have hall : e ∈ all := List.mem_of_find?_eq_some hfind
  rw [all, List.mem_flatMap] at hall
  obtain ⟨line, hline, he⟩ := hall
  have hfalls := Text.fallsInto_words CodePoint.isBlank (Text.ofString line)
  have hword := mem_of_mem_pairs he
  intro c hc
  obtain ⟨x, hx, rfl⟩ := List.mem_map.1 (hfalls.subset e.2 hword hc)
  exact ⟨by simpa using isMark_emojiLines line hline x hx,
    (hfalls.isWord e.2 hword).2 _ hc⟩

/-- Neither does a symbol of which one of the two forms is asked for. -/
theorem forall_mem_named {body shown : Text} (h : named? body = some shown) :
    ∀ c ∈ shown, isMark c = false ∧ c.isBlank = false := by
  unfold named? at h
  split at h
  case h_1 name selector hform =>
    obtain ⟨symbol, hsymbol, rfl⟩ := Option.map_eq_some_iff.1 h
    refine List.forall_mem_append.2 ⟨forall_mem_symbol hsymbol, List.forall_mem_singleton.2 ?_⟩
    obtain ⟨f, hf, hselector⟩ := List.exists_of_findSome?_eq_some hform
    obtain ⟨_, -, heq⟩ := Option.map_eq_some_iff.1 hselector
    obtain rfl : f.2 = selector := congrArg Prod.snd heq
    have hforms : ∀ f ∈ forms, isMark f.2 = false ∧ f.2.isBlank = false := by decide
    exact hforms f hf
  case h_2 => exact forall_mem_symbol h

/-! ## Reading -/

/-- What was read since a colon, with the colon. -/
def pending : Option Text → Text
  | none => []
  | some body => colon :: body.reverse

theorem isMark_colon : isMark colon = true := rfl

theorem expandFrom_none_cons (c : CodePoint) (rest : Text) :
    expandFrom none (c :: rest)
      = if c = colon then expandFrom (some []) rest else c :: expandFrom none rest := rfl

theorem expandFrom_some_cons (body : Text) (c : CodePoint) (rest : Text) :
    expandFrom (some body) (c :: rest)
      = if c = colon then
          (named? body.reverse).getD (colon :: body.reverse ++ [colon]) ++ expandFrom none rest
        else if c.isBlank then colon :: body.reverse ++ c :: expandFrom none rest
        else expandFrom (some (c :: body)) rest := rfl

/-- Replacing emoji reads what is held back and what is still to come. -/
theorem reads_expandFrom (held : Option Text) (t : Text) :
    Reads (pending held ++ t) (expandFrom held t) := by
  induction t generalizing held with
  | nil =>
    rw [List.append_nil]
    cases held <;> exact Reads.refl _
  | cons c rest ih =>
    cases held with
    | none =>
      rw [expandFrom_none_cons]
      split
      case isTrue hcolon =>
        subst hcolon
        exact ih (some [])
      case isFalse => exact (ih none).cons c
    | some body =>
      rw [expandFrom_some_cons]
      split
      case isTrue hcolon =>
        subst hcolon
        have hsource : pending (some body) ++ colon :: rest
            = (colon :: body.reverse ++ [colon]) ++ rest := by
          rw [pending, List.append_assoc, List.singleton_append]
        rw [hsource]
        refine Reads.append ?_ (ih none)
        cases hname : named? body.reverse with
        | none => exact Reads.refl _
        | some shown =>
          -- The two colons of a name are lost with it, since no emoji has marks in it.
          have hshown := forall_mem_named hname
          refine reads_of_marks_lt ⟨?_, ?_⟩ ?_
          · rw [Option.getD_some, marks_eq_zero fun c hc => (hshown c hc).1]
            exact Nat.zero_le _
          · exact fun c hc hblank => absurd ((hshown c hc).2.symm.trans hblank) Bool.false_ne_true
          · rw [Option.getD_some, marks_eq_zero fun c hc => (hshown c hc).1, List.cons_append,
              marks_cons_of_isMark isMark_colon]
            exact Nat.succ_pos _
      case isFalse =>
        split
        case isTrue => exact (Reads.refl _).append ((ih none).cons c)
        case isFalse =>
          have hread := ih (some (c :: body))
          rwa [pending, List.reverse_cons, List.cons_append, List.append_assoc,
            List.singleton_append] at hread

/-- Replacing emoji is a reading of the text. -/
theorem reads_expand (t : Text) : Reads t (expand t) := reads_expandFrom none t

/-- A blank ends what was read since a colon. -/
theorem expandFrom_append_cons {c : CodePoint} (hc : c.isBlank = true) (held : Option Text)
    (t rest : Text) :
    expandFrom held (t ++ c :: rest) = expandFrom held t ++ c :: expandFrom none rest := by
  have hcolon : c ≠ colon := by
    rintro rfl
    exact absurd hc (by decide)
  induction t generalizing held with
  | nil =>
    cases held with
    | none => exact (expandFrom_none_cons c rest).trans (if_neg hcolon)
    | some body => exact (expandFrom_some_cons body c rest).trans ((if_neg hcolon).trans (if_pos hc))
  | cons d t ih =>
    rw [List.cons_append]
    cases held with
    | none =>
      rw [expandFrom_none_cons, expandFrom_none_cons]
      split
      case isTrue => exact ih (some [])
      case isFalse => rw [ih none, List.cons_append]
    | some body =>
      rw [expandFrom_some_cons, expandFrom_some_cons]
      split
      case isTrue => rw [ih none, List.append_assoc]
      case isFalse =>
        split
        case isTrue => rw [ih none, ← List.cons_append, List.append_assoc]
        case isFalse => exact ih (some (d :: body))

/-- No name goes on beyond a line. -/
theorem expand_between {before after : Text} {c : CodePoint} (hbefore : colon ∉ before)
    (hc : c.isBlank = true) (hafter : colon ∉ after) (t : Text) :
    expand (before ++ t ++ c :: after) = before ++ expand t ++ c :: after := by
  have hfirst : expand (before ++ t ++ c :: after) = before ++ expand (t ++ c :: after) := by
    rw [List.append_assoc]
    induction before with
    | nil => rfl
    | cons d before ih =>
      rw [List.mem_cons, not_or] at hbefore
      rw [List.cons_append, expand, expandFrom_none_cons, if_neg (Ne.symm hbefore.1), ← expand,
        ih hbefore.2, List.cons_append]
  have hlast : expandFrom none after = after := expand_of_colon_notMem hafter
  rw [hfirst, expand, expandFrom_append_cons hc, hlast, ← expand, List.append_assoc]

end Emoji

end LiveLint
