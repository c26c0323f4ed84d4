import LiveLint.Text.CodePoint

/-!
# Text

`Text` is a list of code points. It is the one type of strings of this library: buffers, linter
output, messages and file names are texts, and reasoning about them is reasoning about lists.
A string literal is accepted wherever a text is expected.
-/

namespace LiveLint

/-- A sequence of code points. -/
abbrev Text := List CodePoint

namespace Text

/-- The code points of a string. -/
def ofString (s : String) : Text := s.toList.map CodePoint.ofChar

instance : Coe String Text := ⟨ofString⟩

/-- The string of a text; halves of surrogate pairs become U+FFFD. -/
def toString (t : Text) : String := String.ofList (t.map CodePoint.toChar)

/-- A natural number in decimal. -/
def ofNat (n : Nat) : Text := (Nat.toDigits 10 n).map CodePoint.ofChar

/-- An integer in decimal, with a minus sign when it is negative. -/
def ofInt : Int → Text
  | .ofNat n => ofNat n
  | .negSucc n => CodePoint.ofChar '-' :: ofNat (n + 1)

section

variable {p : CodePoint → Bool} {run rest : Text}

/-- A run in front of a text is taken from it when the text does not go on with the run. -/
theorem takeWhile_run (hrun : ∀ c ∈ run, p c = true) (hrest : ∀ c ∈ rest.head?, p c = false) :
    (run ++ rest).takeWhile p = run := by
  rw [List.takeWhile_append_of_pos hrun]
  cases rest with
  | nil => rw [List.takeWhile_nil, List.append_nil]
  | cons c rest =>
    have hc : ¬ p c = true := Bool.eq_false_iff.1 (hrest c rfl)
    rw [List.takeWhile_cons_of_neg hc, List.append_nil]

/-- What is dropped in front is one run, if it does not go on behind it. -/
theorem dropWhile_run (hrun : ∀ c ∈ run, p c = true) (hrest : ∀ c ∈ rest.head?, p c = false) :
    (run ++ rest).dropWhile p = rest := by
  rw [List.dropWhile_append_of_pos hrun]
  cases rest with
  | nil => rfl
  | cons c rest => exact List.dropWhile_cons_of_neg (Bool.eq_false_iff.1 (hrest c rfl))

end

/-- Drops the code points that satisfy `p` from the front. -/
def trimLeft (p : CodePoint → Bool) (t : Text) : Text := t.dropWhile p

/-- Drops the code points that satisfy `p` from the end. -/
def trimRight (p : CodePoint → Bool) (t : Text) : Text := (t.reverse.dropWhile p).reverse

/-- Drops the code points that satisfy `p` from both ends. -/
def trim (p : CodePoint → Bool) (t : Text) : Text := trimRight p (trimLeft p t)

/-- The maximal runs of code points that do not satisfy `p`. -/
def splitOn (p : CodePoint → Bool) : Text → List Text
  | [] => [[]]
  | c :: rest =>
    match splitOn p rest with
    | [] => [[c]]
    | piece :: pieces => if p c then [] :: piece :: pieces else (c :: piece) :: pieces

/-- The non-empty pieces between code points that satisfy `p`. -/
def words (p : CodePoint → Bool) (t : Text) : List Text :=
  (splitOn p t).filter fun w => !w.isEmpty

/-- The pieces `ts` with `sep` between neighbours. -/
def joinWith (sep : Text) (ts : List Text) : Text := (ts.intersperse sep).flatten

/-- A single text needs no separator. -/
theorem joinWith_singleton (sep a : Text) : joinWith sep [a] = a := by
  simp only [joinWith, List.intersperse_singleton, List.flatten_singleton]

/-- The first separator stands between the first text and the others joined. -/
theorem joinWith_cons_cons (sep a b : Text) (rest : List Text) :
    joinWith sep (a :: b :: rest) = a ++ sep ++ joinWith sep (b :: rest) := by
  simp only [joinWith, List.intersperse_cons_cons, List.flatten_cons, List.append_assoc]

/-- Both texts hold the same code points. -/
def sameAs (t : Text) (s : String) : Bool := t == ofString s

/-- Lexicographic order by code point. -/
def le (a b : Text) : Bool :=
  match a, b with
  | [], _ => true
  | _ :: _, [] => false
  | x :: xs, y :: ys => if x.val < y.val then true else if y.val < x.val then false else le xs ys

/-- What follows `p` in `t`, when `t` starts with `p`. -/
def dropPrefix? (p : Text) (t : Text) : Option Text :=
  match p, t with
  | [], t => some t
  | _ :: _, [] => none
  | x :: xs, y :: ys => if x = y then dropPrefix? xs ys else none

/-- `t` starts with `p`. -/
def startsWith (p : Text) (t : Text) : Bool := (dropPrefix? p t).isSome

end Text

end LiveLint
