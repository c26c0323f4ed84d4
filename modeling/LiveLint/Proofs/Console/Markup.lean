import LiveLint.Proofs.Console.Emoji
import LiveLint.Proofs.Results

/-!
# Titles that markup leaves alone

A title is shown as it is written if there is nothing in it for markup to read (`Markup.IsPlain`):
no tag, no opening bracket behind a backslash and no name of an emoji. It is shown so only then
(`Markup.text_of_read`): a tag loses its brackets, or one of the backslashes that make it plain
text, and reading puts no marks in their place.
-/

namespace LiveLint

namespace Markup

variable {t body after : Text}

/-- A tag is written somewhere in the text. -/
def HasTag (t : Text) : Prop :=
  ∃ c body, startsTag c = true ∧ (∀ d ∈ body, insideTag d = true) ∧
    openBracket :: (c :: body) ++ [closeBracket] <:+: t

/-- Markup finds nothing in the text. -/
structure IsPlain (t : Text) : Prop where
  no_tag : ¬ HasTag t
  no_escape : ¬ [backslash, openBracket] <:+: t
  no_emoji : Emoji.expand t = t

theorem isMark_openBracket : isMark openBracket = true := rfl

theorem isMark_backslash : isMark backslash = true := rfl

/-! ## Backslashes in front of brackets -/

/-- Leaving out backslashes in front of brackets is a reading of the text. -/
theorem reads_unescape (t : Text) : Reads t (unescape t) := by
  induction t using unescape.induct with
  | case1 => exact Reads.refl []
  | case2 c => exact Reads.refl [c]
  | case3 c d rest hescape ih =>
    obtain ⟨rfl, rfl⟩ := hescape
    rw [unescape, if_pos ⟨rfl, rfl⟩]
    have hdropped := within_of_sublist (List.sublist_cons_self backslash (openBracket :: rest))
    have hrest := ih.cons openBracket
    refine reads_of_marks_lt (hdropped.trans hrest.toWithin) ?_
    rw [marks_cons_of_isMark isMark_backslash]
    exact Nat.lt_succ_of_le hrest.marks_le
  | case4 c d rest hne ih =>
    rw [unescape, if_neg hne]
    exact ih.cons c

/-- A text stays as it is exactly if it has no bracket behind a backslash. -/
theorem unescape_eq_iff : unescape t = t ↔ ¬ [backslash, openBracket] <:+: t := by
  induction t using unescape.induct with
  | case1 => exact iff_of_true rfl fun h => absurd (List.infix_nil.1 h) (List.cons_ne_nil _ _)
  | case2 c =>
    refine iff_of_true rfl fun h => ?_
    exact absurd h.length_le (Nat.not_le.2 (Nat.lt_succ_self 1))
  | case3 c d rest hescape _ =>
    obtain ⟨rfl, rfl⟩ := hescape
    have hescape : [backslash, openBracket] <:+: backslash :: openBracket :: rest :=
      (List.prefix_append [backslash, openBracket] rest).isInfix
    refine iff_of_false (fun h => ?_) (not_not_intro hescape)
    rw [unescape, if_pos ⟨rfl, rfl⟩] at h
    cases h
  | case4 c d rest hne ih =>
    have hfirst : ¬ [backslash, openBracket] <+: c :: d :: rest := by
      rw [List.cons_prefix_cons, List.cons_prefix_cons]
      rintro ⟨hc, hd, -⟩
      exact hne ⟨hc.symm, hd.symm⟩
    rw [unescape, if_neg hne, List.cons.injEq, and_iff_right rfl, ih,
      List.infix_cons_iff (a := c), or_iff_right hfirst]

/-! ## Tags -/

/-- A tag that is written at the start of a text is found there. -/
theorem tagAt?_written {c : CodePoint} (hc : startsTag c = true)
    (hbody : ∀ d ∈ body, insideTag d = true) (after : Text) :
    tagAt? (openBracket :: (c :: body) ++ closeBracket :: after) = some (0, c :: body, after) := by
  have hend : ∀ d ∈ (closeBracket :: after).head?, insideTag d = false := by
    rintro _ ⟨⟩
    rfl
  have hdrop := Text.dropWhile_run hbody hend
  have htake := Text.takeWhile_run hbody hend
  have hrest : tagBody? (c :: (body ++ closeBracket :: after)) = some (c :: body, after) := by
    rw [tagBody?, if_pos hc, hdrop, htake]
    rfl
  have hfirst : ((openBracket :: (c :: body) ++ closeBracket :: after).dropWhile
      fun d => decide (d = backslash)) = openBracket :: (c :: body) ++ closeBracket :: after := rfl
  rw [tagAt?, hfirst, List.cons_append]
  dsimp only
  rw [if_pos rfl, List.cons_append, hrest]
  rfl

/-- The body of a tag is what stands in front of the closing bracket. -/
theorem eq_of_tagBody? (h : tagBody? t = some (body, after)) :
    t = body ++ closeBracket :: after ∧
      ∃ c rest, body = c :: rest ∧ startsTag c = true ∧ ∀ d ∈ rest, insideTag d = true := by
  cases t with
  | nil => cases h
  | cons c rest =>
    rw [tagBody?] at h
    split at h
    case isFalse => cases h
    case isTrue hc =>
      split at h
      case h_1 => cases h
      case h_2 d tail htail =>
        split at h
        case isFalse => cases h
        case isTrue hd =>
          cases h
          subst hd
          refine ⟨?_, c, _, rfl, hc, fun d hd => List.mem_takeWhile_imp hd⟩
          rw [List.cons_append, ← htail, List.takeWhile_append_dropWhile]

/-- A tag that is found is written there, behind the backslashes that were counted. -/
theorem eq_of_tagAt? {n : Nat} (h : tagAt? t = some (n, body, after)) :
    t = List.replicate n backslash ++ (openBracket :: body ++ closeBracket :: after) ∧
      ∃ c rest, body = c :: rest ∧ startsTag c = true ∧ ∀ d ∈ rest, insideTag d = true := by
  rw [tagAt?] at h
  split at h
  case h_1 => cases h
  case h_2 c rest hrest =>
    split at h
    case isFalse => cases h
    case isTrue hc =>
      obtain ⟨r, hbody, hr⟩ := Option.map_eq_some_iff.1 h
      cases hr
      subst hc
      obtain ⟨rfl, hwell⟩ := eq_of_tagBody? hbody
      refine ⟨?_, hwell⟩
      have hbackslashes : ∀ d ∈ t.takeWhile (fun d => decide (d = backslash)), d = backslash := by
        intro d hd
        have hd := List.mem_takeWhile_imp hd
        exact of_decide_eq_true hd
      rw [← List.eq_replicate_of_mem hbackslashes, List.cons_append, ← hrest,
        List.takeWhile_append_dropWhile]

/-- A token as it is written. -/
def Token.written : Token → Text
  | .point c => [c]
  | .tag found => List.replicate found.backslashes backslash ++ found.written

/-- A tag at the start of a text is its first token, and the other tokens follow. -/
theorem tokensFrom_of_tagAt? {n : Nat} (h : tagAt? t = some (n, body, after)) (position : Nat) :
    tokensFrom position t
      = .tag ⟨position, n, body⟩ :: tokensFrom (position + n + body.length + 2) after := by
  rw [tokensFrom]
  split
  case h_1 h' =>
    cases h.symm.trans h'
    rfl
  case h_2 h' => cases h.symm.trans h'

/-- Where no tag starts the first token is a single code point. -/
theorem tokensFrom_cons {c : CodePoint} (h : tagAt? (c :: t) = none) (position : Nat) :
    tokensFrom position (c :: t) = .point c :: tokensFrom (position + 1) t := by
  rw [tokensFrom]
  split
  case h_1 h' => cases h.symm.trans h'
  case h_2 => rfl

/-- There are no tokens in an empty text. -/
theorem tokensFrom_nil (position : Nat) : tokensFrom position [] = [] := by
  rw [tokensFrom]
  rfl

/-- The tokens of a text, written one after the other, are the text. -/
theorem written_tokensFrom (position : Nat) (t : Text) :
    (tokensFrom position t).flatMap Token.written = t := by
  induction position, t using tokensFrom.induct with
  | case1 position t n body after h ih =>
    rw [tokensFrom_of_tagAt? h, List.flatMap_cons, ih]
    obtain ⟨rfl, -⟩ := eq_of_tagAt? h
    rw [Token.written, Tag.written, List.append_assoc, List.append_assoc, List.singleton_append]
  | case2 position h => rw [tokensFrom_nil, List.flatMap_nil]
  | case3 position c rest h ih =>
    rw [tokensFrom_cons h, List.flatMap_cons, ih]
    rfl

/-- A text has a tag if one is found at its start. -/
theorem hasTag_of_tagAt? {n : Nat} (h : tagAt? t = some (n, body, after)) : HasTag t := by
  obtain ⟨rfl, c, rest, rfl, hc, hrest⟩ := eq_of_tagAt? h
  refine ⟨c, rest, hc, hrest, List.replicate n backslash, after, ?_⟩
  rw [List.append_assoc, List.append_assoc, List.singleton_append]

/-- A tag stays one with a code point in front of the text. -/
theorem HasTag.cons (h : HasTag t) (c : CodePoint) : HasTag (c :: t) := by
  obtain ⟨d, body, hd, hbody, htag⟩ := h
  exact ⟨d, body, hd, hbody, htag.trans (List.suffix_cons c t).isInfix⟩

/-- A text with a tag has a tag among its tokens. -/
theorem tag_mem_tokensFrom (h : HasTag t) (position : Nat) :
    ∃ tag, Token.tag tag ∈ tokensFrom position t := by
  induction position, t using tokensFrom.induct with
  | case1 position t n body after htag _ =>
    rw [tokensFrom_of_tagAt? htag]
    exact ⟨_, List.mem_cons_self⟩
  | case2 position =>
    obtain ⟨c, body, -, -, htag⟩ := h
    exact absurd (List.infix_nil.1 htag) (List.cons_ne_nil _ _)
  | case3 position c rest hnone ih =>
    obtain ⟨d, body, hd, hbody, htag⟩ := h
    rcases List.infix_cons_iff.1 htag with ⟨after, hfront⟩ | hrest
    · rw [List.append_assoc, List.singleton_append] at hfront
      rw [← hfront, tagAt?_written hd hbody] at hnone
      cases hnone
    · obtain ⟨tag, hmem⟩ := ih ⟨d, body, hd, hbody, hrest⟩
      rw [tokensFrom_cons hnone]
      exact ⟨tag, List.mem_cons_of_mem _ hmem⟩

/-- A text without tags consists of code points. -/
theorem tokensFrom_eq_map (h : ¬ HasTag t) (position : Nat) :
    tokensFrom position t = t.map .point := by
  induction t generalizing position with
  | nil => exact tokensFrom_nil position
  | cons c rest ih =>
    have hnone : tagAt? (c :: rest) = none := by
      refine Option.eq_none_iff_forall_not_mem.2 fun found hfound => ?_
      exact h (hasTag_of_tagAt? (show _ = some (found.1, found.2.1, found.2.2) from hfound))
    rw [tokensFrom_cons hnone, ih fun hrest => h (hrest.cons c)]
    rfl

/-! ## Reading -/

/-- What is shown of a text reads it. -/
theorem reads_shown (t : Text) : Reads t (shown t) :=
  (reads_unescape t).trans (Emoji.reads_expand (unescape t))

/-- What is shown without control codes is within the text as well. -/
theorem within_shown (t : Text) : Within t (StyledText.clean (shown t)) :=
  (reads_shown t).toWithin.trans (within_of_sublist List.filter_sublist)

/-- Closing a tag changes no text. -/
theorem Progress.text_finish {s s' : Progress} {tag : OpenTag} {others : List OpenTag}
    (h : s.finish tag others = .ok s') : s'.text = s.text := by
  obtain ⟨definition, -, hs⟩ := bind_eq_ok_iff.1 h
  cases hs
  rfl

/-- A tag adds no text. -/
theorem Progress.text_follow {s s' : Progress} {tag : Tag} (h : s.follow tag = .ok s') :
    s'.text = s.text := by
  unfold Progress.follow at h
  split at h
  case h_2 =>
    cases h
    rfl
  case h_1 c rest _ =>
    split at h
    case isFalse =>
      obtain ⟨name, -, hs⟩ := bind_eq_ok_iff.1 h
      cases hs
      rfl
    case isTrue =>
      split at h
      case isTrue =>
        split at h
        case h_1 => cases h
        case h_2 => exact Progress.text_finish h
      case isFalse =>
        obtain ⟨name, -, hs⟩ := bind_eq_ok_iff.1 h
        split at hs
        case h_1 => cases hs
        case h_2 => exact Progress.text_finish hs

/-- What is shown in the place of a tag has fewer marks than the tag: its brackets are lost or,
where it is plain text, a backslash in front of it. -/
theorem tag_loses {s s' : Progress} {tag : Tag}
    (h : s.step (if tag.isEscaped then .plain tag.written else .tag tag) = .ok s') :
    ∃ added, s'.text = s.text ++ added ∧
      Within (Token.tag tag).written (StyledText.clean (shown tag.literal) ++ added) ∧
      marks (StyledText.clean (shown tag.literal) ++ added) < marks (Token.tag tag).written := by
  have hbackslashes (n : Nat) : marks (List.replicate n backslash) = n := by
    rw [marks, List.countP_replicate, if_pos isMark_backslash]
  have hhalf : tag.literal.Sublist (List.replicate tag.backslashes backslash) :=
    (List.replicate_sublist_replicate backslash).2 (Nat.div_le_self _ _)
  have hliteral := (within_of_sublist hhalf).trans (within_shown tag.literal)
  have hfew : marks (StyledText.clean (shown tag.literal)) ≤ tag.backslashes / 2 :=
    (within_shown tag.literal).marks_le.trans_eq (hbackslashes _)
  split at h
  case isTrue hescaped =>
    obtain rfl := Except.ok.inj h
    refine ⟨_, rfl, hliteral.append (within_shown tag.written), ?_⟩
    have hodd : tag.backslashes % 2 = 1 := of_decide_eq_true hescaped
    have hwritten := (within_shown tag.written).marks_le
    rw [Token.written, marks_append, marks_append, hbackslashes]
    omega
  case isFalse =>
    refine ⟨[], ?_, hliteral.append (within_of_sublist (List.nil_sublist _)), ?_⟩
    · rw [List.append_nil]
      exact Progress.text_follow h
    · have hbracket : 0 < marks tag.written := List.countP_pos_iff.2
        ⟨openBracket, List.mem_append_left _ List.mem_cons_self, isMark_openBracket⟩
      rw [Token.written, List.append_nil, marks_append, hbackslashes]
      omega

/-- The pieces are gone through one by one, as long as each can be. -/
theorem Progress.foldlM_cons {s s' : Progress} {p : Piece} {ps : List Piece}
    (h : (p :: ps).foldlM Progress.step s = .ok s') :
    ∃ next, s.step p = .ok next ∧ ps.foldlM Progress.step next = .ok s' := by
  rw [List.foldlM_cons] at h
  exact bind_eq_ok_iff.1 h

/-- What tokens show behind plain text that is held. The induction is on the tokens; a tag reads
what was held before it. -/
theorem shown_of_pieces {held : Text} {tokens : List Token} {s s' : Progress}
    (h : (pieces held tokens).foldlM Progress.step s = .ok s') :
    ∃ added, s'.text = s.text ++ added ∧
      Within (held.reverse ++ tokens.flatMap Token.written) added ∧
      (marks (held.reverse ++ tokens.flatMap Token.written) ≤ marks added →
        (∀ tag, Token.tag tag ∉ tokens) ∧
          added = StyledText.clean (shown (held.reverse ++ tokens.flatMap Token.written))) := by
  induction tokens generalizing held s with
  | nil =>
    rw [List.flatMap_nil, List.append_nil]
    obtain rfl := Except.ok.inj h
    exact ⟨_, rfl, within_shown _, fun _ => ⟨fun _ => List.not_mem_nil, rfl⟩⟩
  | cons token rest ih =>
    cases token with
    | point c =>
      obtain ⟨added, htext, hwithin, hsame⟩ := ih h
      have hheld : (c :: held).reverse ++ rest.flatMap Token.written
          = held.reverse ++ (Token.point c :: rest).flatMap Token.written := by
        rw [List.reverse_cons, List.append_assoc, List.flatMap_cons, Token.written]
      rw [hheld] at hwithin hsame
      refine ⟨added, htext, hwithin, fun hle => ?_⟩
      obtain ⟨hnone, hadded⟩ := hsame hle
      exact ⟨fun tag hmem => (List.mem_cons.1 hmem).elim nofun (hnone tag), hadded⟩
    | tag tag =>
      rw [pieces] at h
      obtain ⟨s₁, hplain, h₁⟩ := Progress.foldlM_cons h
      obtain ⟨s₂, hliteral, h₂⟩ := Progress.foldlM_cons h₁
      obtain ⟨s₃, htag, h₃⟩ := Progress.foldlM_cons h₂
      obtain rfl := Except.ok.inj hplain
      obtain rfl := Except.ok.inj hliteral
      obtain ⟨own, hown, hwithin, hlt⟩ := tag_loses htag
      obtain ⟨added, hadded, hrest, -⟩ := ih h₃
      have hheld := within_shown held.reverse
      rw [List.flatMap_cons]
      refine ⟨_, ?_, hheld.append (hwithin.append hrest), fun hle => ?_⟩
      · rw [hadded, hown]
        simp only [List.append_assoc]
      -- Each part keeps at most its marks and the tag keeps fewer, so the whole cannot keep all of
      -- them.
      · have hheld_le := hheld.marks_le
        have hrest_le := hrest.marks_le
        rw [marks_append, marks_append, marks_append, marks_append] at hle
        simp only [List.reverse_nil, List.nil_append] at hrest_le
        omega

/-- A title that is shown as it is written is plain, and no title is shown with blanks of which it
has none. -/
theorem text_of_read {r : StyledText} (h : read t = .ok r) :
    Within t r.text ∧ (r.text = t → IsPlain t) := by
  obtain ⟨s, hfold, hs⟩ := bind_eq_ok_iff.1 h
  obtain rfl : s.result = r := Except.ok.inj hs
  obtain ⟨added, htext, hwithin, hsame⟩ := shown_of_pieces hfold
  rw [List.reverse_nil, List.nil_append, written_tokensFrom] at hwithin hsame
  obtain rfl : s.text = added := htext
  refine ⟨hwithin, fun heq => ?_⟩
  have heq : s.text = t := heq
  obtain ⟨hnone, hclean⟩ := hsame (le_of_eq (congrArg marks heq.symm))
  have hmarks : marks t ≤ marks (shown t) :=
    calc marks t = marks (StyledText.clean (shown t)) := by rw [← hclean, heq]
      _ ≤ marks (shown t) := (within_of_sublist List.filter_sublist).marks_le
  have hshown := (reads_shown t).eq_of_marks_le hmarks
  have hunescape : unescape t = t := (reads_unescape t).eq_of_marks_le
    (hmarks.trans (Emoji.reads_expand (unescape t)).marks_le)
  refine ⟨fun htag => ?_, unescape_eq_iff.1 hunescape, ?_⟩
  · obtain ⟨tag, hmem⟩ := tag_mem_tokensFrom htag 0
    exact hnone tag hmem
  · rw [shown, hunescape] at hshown
    exact hshown

/-- Code points without tags make one plain piece. -/
theorem pieces_map_point (held t : Text) :
    pieces held (t.map .point) = [.plain (held.reverse ++ t)] := by
  induction t generalizing held with
  | nil => rw [List.map_nil, pieces, List.append_nil]
  | cons c t ih =>
    rw [List.map_cons, pieces, ih, List.reverse_cons, List.append_assoc, List.singleton_append]

/-- A plain title is shown as it is written, without the characters that are never shown. -/
theorem read_of_isPlain (h : IsPlain t) : read t = .ok ⟨StyledText.clean t, []⟩ := by
  have hshown : shown t = t := by rw [shown, unescape_eq_iff.2 h.no_escape, h.no_emoji]
  rw [read, tokensFrom_eq_map h.no_tag, pieces_map_point, List.reverse_nil, List.nil_append]
  have hstep : [Piece.plain t].foldlM Progress.step {}
      = .ok { text := StyledText.clean (shown t) } := rfl
  refine bind_eq_ok_iff.2 ⟨_, hstep, ?_⟩
  rw [hshown]
  exact congrArg (fun spans => Except.ok (StyledText.mk (StyledText.clean t) spans))
    List.mergeSort_nil

/-! ## Around a title -/

section

variable {before w : Text} {x y : CodePoint}

/-- Nothing can begin in a part that lacks its first code point. -/
theorem infix_append_left_iff (hx : x ∉ before) : x :: w <:+: before ++ t ↔ x :: w <:+: t := by
  induction before with
  | nil => rfl
  | cons c before ih =>
    rw [List.mem_cons, not_or] at hx
    have hfirst : ¬ x :: w <+: c :: (before ++ t) := fun h => hx.1 (List.cons_prefix_cons.1 h).1
    rw [List.cons_append, List.infix_cons_iff, or_iff_right hfirst, ih hx.2]

/-- Nothing can end in a part that lacks its last code point. -/
theorem infix_append_right_iff (hy : y ∉ after) : w ++ [y] <:+: t ++ after ↔ w ++ [y] <:+: t := by
  have hmirrored : y ∉ after.reverse := fun h => hy (List.mem_reverse.1 h)
  rw [← List.reverse_infix, List.reverse_concat, List.reverse_append,
    infix_append_left_iff hmirrored, ← List.reverse_concat, List.reverse_infix]

/-- What stands between `x` and `y` is in the middle, if `x` is not before it and `y` not behind
it. -/
theorem infix_between_iff (hx : x ∉ before) (hy : y ∉ after) :
    x :: w ++ [y] <:+: before ++ t ++ after ↔ x :: w ++ [y] <:+: t := by
  rw [infix_append_right_iff hy, List.cons_append, infix_append_left_iff hx]

end

/-- A title is as plain as what stands in its middle, if there is no mark around it. -/
theorem isPlain_between_iff {before : Text} {c : CodePoint} (hbefore : ∀ x ∈ before, isMark x = false)
    (hc : c.isBlank = true) (hafter : ∀ x ∈ c :: after, isMark x = false ∧ x ≠ closeBracket) :
    IsPlain (before ++ t ++ c :: after) ↔ IsPlain t := by
  have hfree {x : CodePoint} (hx : isMark x = true) : x ∉ before := fun h =>
    Bool.false_ne_true ((hbefore x h).symm.trans hx)
  have hfree' {x : CodePoint} (hx : isMark x = true) : x ∉ c :: after := fun h =>
    Bool.false_ne_true ((hafter x h).1.symm.trans hx)
  have htag : HasTag (before ++ t ++ c :: after) ↔ HasTag t := by
    refine exists_congr fun d => exists_congr fun body => and_congr_right' (and_congr_right' ?_)
    exact infix_between_iff (hfree isMark_openBracket) fun h => (hafter _ h).2 rfl
  have hescape : [backslash, openBracket] <:+: before ++ t ++ c :: after
      ↔ [backslash, openBracket] <:+: t :=
    infix_between_iff (w := []) (hfree isMark_backslash) (hfree' isMark_openBracket)
  have hemoji : Emoji.expand (before ++ t ++ c :: after) = before ++ t ++ c :: after
      ↔ Emoji.expand t = t := by
    rw [Emoji.expand_between (hfree Emoji.isMark_colon) hc
        fun h => hfree' Emoji.isMark_colon (List.mem_cons_of_mem c h),
      List.append_left_inj, List.append_right_inj]
  constructor
  · rintro ⟨hno_tag, hno_escape, hno_emoji⟩
    exact ⟨mt htag.2 hno_tag, mt hescape.2 hno_escape, hemoji.1 hno_emoji⟩
  · rintro ⟨hno_tag, hno_escape, hno_emoji⟩
    exact ⟨mt htag.1 hno_tag, mt hescape.1 hno_escape, hemoji.2 hno_emoji⟩

end Markup

end LiveLint
