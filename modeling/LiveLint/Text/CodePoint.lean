/-!
# Code points

A buffer under an editor's hands is a sequence of Unicode code points, and it may hold halves of
surrogate pairs that no Unicode string admits. `CodePoint` is any number below `0x110000`,
surrogates included; `Char` is the part of it that core's strings can hold.
-/

namespace LiveLint

/-- A Unicode code point, surrogates included. -/
structure CodePoint where
  /-- The number of the code point. -/
  val : Nat
  lt : val < 0x110000
deriving DecidableEq

namespace CodePoint

/-- Code points with the same number are equal. -/
theorem ext_val {a b : CodePoint} (h : a.val = b.val) : a = b := by
  cases a; cases b; cases h; rfl

/-- Characters are below the end of all code points. -/
theorem char_toNat_lt (c : Char) : c.toNat < 0x110000 := by
  have h := c.valid
  have e : c.toNat = c.val.toNat := rfl
  simp [UInt32.isValidChar, Nat.isValidChar] at h
  omega

/-- The code point of a character. -/
def ofChar (c : Char) : CodePoint := ⟨c.toNat, char_toNat_lt c⟩

/-- The code point is that of a character. -/
def is (c : CodePoint) (x : Char) : Bool := c.val == x.toNat

/-- To be a character is to be the code point of it. -/
theorem is_iff {c : CodePoint} {x : Char} : c.is x = true ↔ c = ofChar x := by
  rw [is, beq_iff_eq]
  exact ⟨fun h => ext_val h, fun h => congrArg val h⟩

/-- Not to be a character is to differ from its code point. -/
theorem is_eq_false_iff {c : CodePoint} {x : Char} : c.is x = false ↔ c ≠ ofChar x := by
  rw [Bool.eq_false_iff, ne_eq, is_iff]

/-- The code point with number `n`, or U+FFFD where there is none. -/
def ofNat (n : Nat) : CodePoint :=
  if h : n < 0x110000 then ⟨n, h⟩ else ⟨0xFFFD, by omega⟩

instance : Coe Char CodePoint := ⟨ofChar⟩

instance : Inhabited CodePoint := ⟨⟨0, by omega⟩⟩

/-- Code points are ordered by their numbers. -/
instance : LT CodePoint := ⟨fun a b => a.val < b.val⟩

instance (a b : CodePoint) : Decidable (a < b) := inferInstanceAs (Decidable (a.val < b.val))

/-- The first half of a surrogate pair. -/
def isHighSurrogate (c : CodePoint) : Bool := 0xD800 ≤ c.val && c.val ≤ 0xDBFF

/-- The second half of a surrogate pair. -/
def isLowSurrogate (c : CodePoint) : Bool := 0xDC00 ≤ c.val && c.val ≤ 0xDFFF

/-- Either half of a surrogate pair. -/
def isSurrogate (c : CodePoint) : Bool := 0xD800 ≤ c.val && c.val ≤ 0xDFFF

/-- The code point that the pair `high`, `low` stands for. -/
def ofSurrogates (high low : CodePoint) : CodePoint :=
  ofNat (0x10000 + (high.val % 0x400) * 0x400 + low.val % 0x400)

/-- Replacement character: stands for input that could not be decoded. -/
def replacement : CodePoint := ⟨0xFFFD, by omega⟩

/-- The character with this number; a surrogate has none and gives U+FFFD. -/
def toChar (c : CodePoint) : Char := if c.isSurrogate then '\uFFFD' else Char.ofNat c.val

end CodePoint

/-- `table` lists closed intervals; membership of `n` in one of them. -/
def inIntervals (table : List (Nat × Nat)) (n : Nat) : Bool :=
  table.any fun r => r.1 ≤ n && n ≤ r.2

end LiveLint
