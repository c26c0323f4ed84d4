import LiveLint.Position.Mapper
import LiveLint.Proofs.Position.Layout
import LiveLint.Text.Utf16
import LiveLint.Text.Utf8

/-!
# What a reported range selects

A host that addresses its buffer by UTF-8 bytes or UTF-16 units cuts the encoded text at the offsets
it is told. What it cuts out is the encoded form of the code points that the range covers, in every
unit alike, and the cuts fall between code points (`encode_slice`). Where the linter's coordinates
exist, these code points are those of its line from one column up to the other
(`range_selects_pointed_characters`).

Offsets are sums of the sizes of code points, and a size is the length of an encoded code point
(`length_encode`); so an offset is the length of the encoded text in front of it, and the rest is
taking and dropping.
-/

namespace LiveLint

namespace OffsetUnit

/-- What an encoded text consists of. -/
def Code : OffsetUnit → Type
  | .codePoint => CodePoint
  | .utf8 => UInt8
  | .utf16 => UInt16

/-- A text as a host that counts in this unit holds it. -/
def encode : (u : OffsetUnit) → Text → List u.Code
  | .codePoint, t => t
  | .utf8, t => Utf8.encode t
  | .utf16, t => Utf16.encode t

/-- An offset is between two encoded code points, or at an end of the text. -/
def Between (u : OffsetUnit) (t : Text) (n : Nat) : Prop :=
  ∃ front back, t = front ++ back ∧ (u.encode front).length = n

/-- Texts are encoded one behind the other. -/
theorem encode_append (u : OffsetUnit) (a b : Text) :
    u.encode (a ++ b) = u.encode a ++ u.encode b := by
  cases u with
  | codePoint => rfl
  | utf8 => exact List.flatMap_append
  | utf16 => exact List.flatMap_append

/-- A code point is encoded in as many bytes as it is wide. -/
theorem length_utf8 (c : CodePoint) : c.utf8.length = OffsetUnit.utf8.width c := by
  simp only [CodePoint.utf8, width]
  split_ifs <;> rfl

/-- A code point is encoded in as many code units as it is wide. -/
theorem length_utf16 (c : CodePoint) : c.utf16.length = OffsetUnit.utf16.width c := by
  simp only [CodePoint.utf16, width]
  split_ifs <;> rfl

/-- The size of a text is the length of its encoded form. -/
theorem length_encode (u : OffsetUnit) (t : Text) : (u.encode t).length = u.measure t := by
  induction t with
  | nil => cases u <;> rfl
  | cons c t ih =>
    have hcons : u.encode (c :: t) = u.encode [c] ++ u.encode t := u.encode_append [c] t
    have hhead : (u.encode [c]).length = u.width c := by
      cases u with
      | codePoint => rfl
      | utf8 =>
        show (Utf8.encode [c]).length = _
        rw [Utf8.encode, List.flatMap_singleton, length_utf8]
      | utf16 =>
        show (Utf16.encode [c]).length = _
        rw [Utf16.encode, List.flatMap_singleton, length_utf16]
    rw [hcons, List.length_append, hhead, ih, measure]

end OffsetUnit

namespace Position

/-- An offset is the length of what is encoded in front of it. -/
theorem length_encode_take (u : OffsetUnit) (t : Text) (i : Nat) :
    (u.encode (t.take i)).length = offset u t i := u.length_encode (t.take i)

/-- The offset of an index is between two encoded code points. -/
theorem between_offset (u : OffsetUnit) (t : Text) (i : Nat) : u.Between t (offset u t i) :=
  ⟨t.take i, t.drop i, (List.take_append_drop i t).symm, length_encode_take u t i⟩

/-- What follows an offset is what follows the index, encoded. -/
theorem drop_encode (u : OffsetUnit) (t : Text) (i : Nat) :
    (u.encode t).drop (offset u t i) = u.encode (t.drop i) := by
  have h : u.encode t = u.encode (t.take i) ++ u.encode (t.drop i) := by
    rw [← u.encode_append, List.take_append_drop]
  rw [h, ← length_encode_take, List.drop_left]

/-- Cutting the encoded text between two offsets gives the encoded form of what is between the
indices. -/
theorem encode_slice (u : OffsetUnit) (t : Text) {i j : Nat} (h : i ≤ j) :
    ((u.encode t).drop (offset u t i)).take (offset u t j - offset u t i)
      = u.encode ((t.drop i).take (j - i)) := by
  have hlength : offset u t j - offset u t i = (u.encode ((t.drop i).take (j - i))).length := by
    have hsum : offset u t j = offset u t i + u.measure ((t.drop i).take (j - i)) := by
      rw [offset, ← t.take_append_take_drop h, u.measure_append]
      rfl
    rw [u.length_encode]
    omega
  have hrest : u.encode (t.drop i)
      = u.encode ((t.drop i).take (j - i)) ++ u.encode ((t.drop i).drop (j - i)) := by
    rw [← u.encode_append, List.take_append_drop]
  rw [drop_encode, hrest, hlength, List.take_left]

/-- In code points a text is cut as at the indices themselves, wherever these are. -/
theorem slice_codePoint (t : Text) {i j : Nat} (h : i ≤ j) :
    (t.drop (offset .codePoint t i)).take (offset .codePoint t j - offset .codePoint t i)
      = (t.drop i).take (j - i) := encode_slice .codePoint t h

/-! ## Coordinates that exist -/

/-- An existing line and column stand for the index that the line begins at and the columns before
this one. -/
theorem index_of_line {L : Layout} {line : Text} {l c : Int} {before : Text} {length : Nat}
    (hspan : (L.spans 0)[l.toNat - 1]?
      = some ⟨0 + before.length, 0 + before.length + line.length⟩)
    (hl : 1 ≤ l) (hc : 1 ≤ c)
    (hc' : c ≤ line.length + 1) :
    index length (L.spans 0) l c = before.length + (c - 1).toNat := by
  have hl' : ¬ l < 1 := by omega
  have hc'' : ¬ c < 1 := by omega
  simp only [index, hl', hspan, hc'', if_false]
  omega

/-- Between two columns of a line there are its code points. -/
theorem slice_line (before line after : Text) {a b : Nat} (h : b ≤ line.length) (hab : a ≤ b) :
    ((before ++ line ++ after).drop (before.length + a)).take (before.length + b - (before.length + a))
      = (line.drop a).take (b - a) := by
  have hlength : before.length + b - (before.length + a) = b - a := by omega
  have hdrop : (before ++ line ++ after).drop (before.length + a) = line.drop a ++ after := by
    rw [List.append_assoc, List.drop_length_add_append, List.drop_append_of_le_length (by omega)]
  rw [hlength, hdrop, List.take_append_of_le_length (by rw [List.length_drop]; omega)]

end Position

open Position in
/-- A host that cuts its encoded text at the reported offsets gets the encoded form of the code
points that the range covers, and does not cut a code point in two. If the linter pointed at an
existing line, and at columns in or right behind it that are in order, these code points are those
of the line from the one column up to the other. -/
theorem Mapper.range_selects_pointed_characters (u : OffsetUnit) (text : Text) (i : Issue) :
    let points := (({ unit := .codePoint } : Mapper).resolveRange text i).1
    let range := (({ unit := u } : Mapper).resolveRange text i).1
    let covered := (text.drop points.start).take (points.stop - points.start)
    ((u.encode text).drop range.start).take (range.stop - range.start) = u.encode covered ∧
    u.Between text range.start ∧ u.Between text range.stop ∧
    ∃ L : Layout, (∀ L' : Layout, L'.text = text ∧ L'.Proper ↔ L' = L) ∧
      ∀ line, 1 ≤ i.line → L.lines[(i.line - 1).toNat]? = some line →
        1 ≤ i.startColumn → i.startColumn ≤ i.endColumn → i.endColumn ≤ line.length + 1 →
          covered
            = (line.drop (i.startColumn - 1).toNat).take (i.endColumn - i.startColumn).toNat := by
  intro points range covered
  let start := index text.length (Line.ofText text) i.line i.startColumn
  let stop := max start (index text.length (Line.ofText text) i.line i.endColumn)
  have horder : start ≤ stop := Nat.le_max_left _ _
  -- In code points the offsets are the indices, as far as the text goes.
  have hcovered : covered = (text.drop start).take (stop - start) := slice_codePoint text horder
  refine ⟨?_, between_offset u text start, between_offset u text stop, Layout.ofText text, ?_, ?_⟩
  · rw [hcovered]
    exact encode_slice u text horder
  · intro L'
    constructor
    · rintro ⟨rfl, hproper⟩
      exact hproper.eq_ofText
    · rintro rfl
      exact ⟨Layout.text_ofText text, Layout.proper_ofText text⟩
  · intro line hline hfound hfirst hcolumns hlast
    obtain ⟨before, after, htext, hspan⟩ := Layout.exists_around hfound 0
    have hn : (i.line - 1).toNat = i.line.toNat - 1 := by omega
    have hindex {c : Int} (hc : 1 ≤ c) (hc' : c ≤ line.length + 1) :
        index text.length (Line.ofText text) i.line c = before.length + (c - 1).toNat := by
      rw [hn] at hspan
      rw [Layout.lineBounds_eq_spans]
      exact index_of_line hspan hline hc hc'
    have hstart : start = before.length + (i.startColumn - 1).toNat :=
      hindex hfirst (by omega)
    have hstop : stop = before.length + (i.endColumn - 1).toNat := by
      have hend := hindex (c := i.endColumn) (by omega) hlast
      simp only [stop, hstart, hend]
      omega
    have hwidth : (i.endColumn - i.startColumn).toNat
        = (i.endColumn - 1).toNat - (i.startColumn - 1).toNat := by omega
    rw [Layout.text_ofText] at htext
    rw [hcovered, hstart, hstop, htext, hwidth]
    exact slice_line before line after (by omega) (by omega)

/-- On the second line, behind a CR LF: an emoji between two letters and half of a surrogate
pair. -/
theorem Mapper.emoji_selected_in_utf16 :
    let half : CodePoint := ⟨0xD83D, by decide⟩
    let text : Text := Text.ofString "a\r\nx😀y" ++ [half]
    let i : Issue := ⟨2, 2, 3, [], .warning, none⟩
    let range := (({ unit := .utf16 } : Mapper).resolveRange text i).1
    (range.start, range.stop) = (4, 6) ∧
      ((OffsetUnit.utf16.encode text).drop range.start).take (range.stop - range.start)
        = OffsetUnit.utf16.encode (Text.ofString "😀") := by
  intro half text i range
  obtain ⟨hencoded, -, -, L, hL, hcovered⟩ := range_selects_pointed_characters .utf16 text i
  have hline : L.lines[(i.line - 1).toNat]? = some (Text.ofString "x😀y" ++ [half]) := by
    rw [← (hL (Layout.ofText text)).1 ⟨Layout.text_ofText text, Layout.proper_ofText text⟩]
    decide
  have hpoints := hcovered _ (by decide) hline (by decide) (by decide) (by decide)
  refine ⟨by decide, ?_⟩
  rw [hencoded, hpoints]
  rfl

end LiveLint
