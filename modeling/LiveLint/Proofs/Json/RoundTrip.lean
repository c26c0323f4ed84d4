import Mathlib.Data.List.Chain
import Mathlib.Data.List.Forall2
import Mathlib.Tactic.IntervalCases
import LiveLint.Json.Writer
import LiveLint.Proofs.Issue.Truncation
import LiveLint.Proofs.Json.Composition

/-!
# What is written as JSON is read back

A value of truth values, integers, texts, lists and tables is read from the text that it is written
as, at every level of nesting and in every layout (`Portable.read_writeAt`). Two limits belong to
the reader: an integer has 4300 digits at most, and a text has no first half of a surrogate pair
right before a second half (`Text.Joined`), since the escapes of two such halves are read as one
code point.

What is written is printable ASCII, apart from the line breaks of the layout
(`Portable.allows_of_mem_writeAt`).
-/

namespace LiveLint

/-- No first half of a surrogate pair stands directly before a second half. -/
def Text.Joined (t : Text) : Prop :=
  t.IsChain fun a b => ¬ (a.isHighSurrogate = true ∧ b.isLowSurrogate = true)

instance (t : Text) : Decidable t.Joined := by
  unfold Text.Joined
  infer_instance

/-- The halves of the surrogate pair of a code point beyond the sixteen-bit range. -/
theorem CodePoint.halves {c : CodePoint} (hlarge : 0x10000 ≤ c.val) :
    (ofNat (0xD800 + (c.val - 0x10000) / 0x400)).isHighSurrogate = true ∧
      (ofNat (0xDC00 + (c.val - 0x10000) % 0x400)).isLowSurrogate = true ∧
      (ofNat (0xD800 + (c.val - 0x10000) / 0x400)).isLowSurrogate = false ∧
      ofSurrogates (ofNat (0xD800 + (c.val - 0x10000) / 0x400))
        (ofNat (0xDC00 + (c.val - 0x10000) % 0x400)) = c := by
  have hlt := c.lt
  have hval {n : Nat} (hn : n < 0x110000) : (ofNat n).val = n := by
    rw [ofNat, dif_pos hn]
  have hhigh := hval (n := 0xD800 + (c.val - 0x10000) / 0x400) (by omega)
  have hlow := hval (n := 0xDC00 + (c.val - 0x10000) % 0x400) (by omega)
  refine ⟨?_, ?_, ?_, ?_⟩
  · simp only [isHighSurrogate, hhigh, Bool.and_eq_true, decide_eq_true_eq]
    omega
  · simp only [isLowSurrogate, hlow, Bool.and_eq_true, decide_eq_true_eq]
    omega
  · simp only [isLowSurrogate, hhigh, Bool.and_eq_false_iff, decide_eq_false_iff_not]
    omega
  · apply ext_val
    rw [ofSurrogates, hhigh, hlow, hval]
    all_goals omega

namespace Json

open Reader

/-! ## Escapes of sixteen-bit units -/

/-- A hexadecimal digit, as it is written. -/
def hexDigit (d : Nat) : CodePoint := .ofChar d.digitChar

/-- A hexadecimal digit that is written is read as itself. -/
theorem hexDigit?_hexDigit : ∀ d < 16, (hexDigit d).hexDigit? = some d := by decide

/-- A code unit is escaped by four hexadecimal digits. -/
theorem unitEscape_eq {n : Nat} (hn : n < 0x10000) :
    unitEscape n = CodePoint.ofChar '\\' :: CodePoint.ofChar 'u' ::
      [hexDigit (n / 4096), hexDigit (n / 256 % 16), hexDigit (n / 16 % 16), hexDigit (n % 16)] := by
  -- Each division by the base takes one digit off, and the missing ones are zeros.
  have hbase : 1 < 16 := by omega
  have hdigits : List.replicate (4 - (Nat.toDigits 16 n).length) '0' ++ Nat.toDigits 16 n
      = [(n / 4096).digitChar, (n / 256 % 16).digitChar, (n / 16 % 16).digitChar,
          (n % 16).digitChar] := by
    have hdiv (m k : Nat) : n / m / k = n / (m * k) := Nat.div_div_eq_div_mul n m k
    rw [Nat.toDigits_eq_if hbase]
    split_ifs with h₁
    · have hzero : n / 4096 = 0 ∧ n / 256 % 16 = 0 ∧ n / 16 % 16 = 0 ∧ n % 16 = n := by omega
      simp [hzero]
    rw [Nat.toDigits_eq_if hbase]
    split_ifs with h₂
    · have hzero : n / 4096 = 0 ∧ n / 256 % 16 = 0 ∧ n / 16 % 16 = n / 16 := by omega
      simp [hzero]
    rw [Nat.toDigits_eq_if hbase, hdiv]
    split_ifs with h₃
    · have hzero : n / 4096 = 0 ∧ n / 256 % 16 = n / 256 := by omega
      simp [hzero]
    rw [hdiv, Nat.toDigits_of_lt_base (by omega)]
    simp
  simp only [unitEscape, hdigits]
  rfl

/-! ## Texts -/

/-- The reader stands between two code points of a text, after having read some, latest first;
`pending` tells that the latest is the first half of a pair that came from an escape. -/
inductive Within (base : Reader) (purpose : Purpose) (read : Text) (pending : Bool) : Reader → Prop
  | between : Within base purpose read pending
      { base with place := .string ⟨purpose, read, pending, .between⟩ }
  | unit : Within base purpose read pending
      { base with place := .string ⟨purpose, read, pending, .unit⟩ }

section

variable {base r : Reader} {purpose : Purpose} {read : Text} {pending : Bool}

/-- Between two code points the reader reads the next one. -/
theorem Within.step (h : Within base purpose read pending r) (c : CodePoint) :
    r.step c = stepBetween r ⟨purpose, read, pending, .between⟩ c := by
  cases h <;> rfl

/-- A digit of an escape that is not the last. -/
theorem step_hexDigit {d : Nat} (hd : d < 16) (owed bits : Nat) :
    ({ base with place := .string ⟨purpose, read, pending, .unicode (owed + 2) bits⟩ } : Reader).step
        (hexDigit d)
      = .ok { base with
          place := .string ⟨purpose, read, pending, .unicode (owed + 1) (bits * 16 + d)⟩ } := by
  have howed : ¬ owed + 2 ≤ 1 := by omega
  simp only [Reader.step, stepString, hexDigit?_hexDigit d hd, if_neg howed]
  rfl

/-- The last hexadecimal digit completes the code unit. -/
theorem step_hexDigit_last {d : Nat} (hd : d < 16) (bits : Nat) :
    ({ base with place := .string ⟨purpose, read, pending, .unicode 1 bits⟩ } : Reader).step
        (hexDigit d)
      = .ok { base with
          place := .string (addUnit ⟨purpose, read, pending, .unicode 1 bits⟩
            (.ofNat (bits * 16 + d))) } := by
  simp only [Reader.step, stepString, hexDigit?_hexDigit d hd]
  rfl

/-- The reader takes the unit of an escape. -/
theorem Within.run_unitEscape (h : Within base purpose read pending r) {n : Nat}
    (hn : n < 0x10000) :
    ∃ place, r.run (unitEscape n)
      = .ok { base with place := .string (addUnit ⟨purpose, read, pending, place⟩ (.ofNat n)) } := by
  have hbits : ((0 * 16 + n / 4096) * 16 + n / 256 % 16) * 16 + n / 16 % 16 = n / 16 := by omega
  have hlast : n / 16 * 16 + n % 16 = n := by omega
  have hbegin : r.run (unitEscape n)
      = ({ base with place := .string ⟨purpose, read, pending, .unicode 4 0⟩ } : Reader).run
          [hexDigit (n / 4096), hexDigit (n / 256 % 16), hexDigit (n / 16 % 16),
            hexDigit (n % 16)] := by
    rw [unitEscape_eq hn]
    cases h <;> rfl
  refine ⟨.unicode 1 (n / 16), ?_⟩
  rw [hbegin, run_cons (step_hexDigit (by omega) 2 0), run_cons (step_hexDigit (by omega) 1 _),
    run_cons (step_hexDigit (by omega) 0 _), hbits, run_cons (step_hexDigit_last (by omega) _),
    hlast]
  rfl

/-- A unit that does not go with the one before it stands for itself. -/
theorem addUnit_of_apart {place : StringPlace} {unit : CodePoint}
    (hunit : pending = true → unit.isLowSurrogate = false) :
    addUnit ⟨purpose, read, pending, place⟩ unit
      = ⟨purpose, unit :: read, unit.isHighSurrogate, .unit⟩ := by
  match pending, read with
  | true, high :: read => exact if_neg (by rw [hunit rfl]; exact Bool.false_ne_true)
  | true, [] | false, _ => rfl

/-- The halves of a pair are joined. -/
theorem addUnit_of_pair {high low : CodePoint} {place : StringPlace}
    (hlow : low.isLowSurrogate = true) :
    addUnit ⟨purpose, high :: read, true, place⟩ low
      = ⟨purpose, .ofSurrogates high low :: read, false, .unit⟩ :=
  if_pos hlow

/-- A code point with an escape of its own. -/
theorem Within.run_named (h : Within base purpose read pending r) {letter c : CodePoint}
    (hletter : letter ≠ CodePoint.ofChar 'u') (hc : escaped? letter = some c) :
    r.run [CodePoint.ofChar '\\', letter]
      = .ok { base with place := .string ⟨purpose, c :: read, false, .between⟩ } := by
  have hslash : r.step (CodePoint.ofChar '\\')
      = .ok { base with place := .string ⟨purpose, read, pending, .escape⟩ } := by
    cases h <;> rfl
  have hnamed : ({ base with place := .string ⟨purpose, read, pending, .escape⟩ } : Reader).step
      letter = .ok { base with place := .string ⟨purpose, c :: read, false, .between⟩ } := by
    simp only [Reader.step, stepString, if_neg hletter, hc]
  rw [run_cons hslash, run_cons hnamed]
  rfl

/-- A code point that is written as it is. -/
theorem Within.run_plain (h : Within base purpose read pending r) {c : CodePoint}
    (hquote : c ≠ CodePoint.ofChar '"') (hslash : c ≠ CodePoint.ofChar '\\')
    (hprintable : 0x20 ≤ c.val) :
    r.run [c] = .ok { base with place := .string ⟨purpose, c :: read, false, .between⟩ } := by
  have hstep : r.step c
      = .ok { base with place := .string ⟨purpose, c :: read, false, .between⟩ } := by
    rw [h.step, stepBetween, if_neg hquote, if_neg hslash, if_neg (Nat.not_lt.2 hprintable)]
    cases h <;> rfl
  rw [run_cons hstep]
  rfl

/-- A code point in a single unit, which may be half of a pair whose other half is not there. -/
theorem Within.run_unit (h : Within base purpose read pending r) {c : CodePoint}
    (hsmall : c.val < 0x10000) (hc : pending = true → c.isLowSurrogate = false) :
    r.run (unitEscape c.val)
      = .ok { base with place := .string ⟨purpose, c :: read, c.isHighSurrogate, .unit⟩ } := by
  obtain ⟨place, hrun⟩ := h.run_unitEscape hsmall
  have hunit : CodePoint.ofNat c.val = c := by
    rw [CodePoint.ofNat, dif_pos c.lt]
  rw [hrun, hunit, addUnit_of_apart hc]

/-- The two units of a pair. -/
theorem Within.run_pair (h : Within base purpose read pending r) {n m : Nat} (hn : n < 0x10000)
    (hm : m < 0x10000) (hhigh : (CodePoint.ofNat n).isHighSurrogate = true)
    (hapart : (CodePoint.ofNat n).isLowSurrogate = false)
    (hlow : (CodePoint.ofNat m).isLowSurrogate = true) :
    r.run (unitEscape n ++ unitEscape m)
      = .ok { base with
          place := .string
            ⟨purpose, .ofSurrogates (.ofNat n) (.ofNat m) :: read, false, .unit⟩ } := by
  obtain ⟨place, hfirst⟩ := h.run_unitEscape hn
  rw [addUnit_of_apart fun _ => hapart, hhigh] at hfirst
  have hunit : Within base purpose (CodePoint.ofNat n :: read) true _ := .unit
  obtain ⟨place', hsecond⟩ := hunit.run_unitEscape hm
  rw [addUnit_of_pair hlow] at hsecond
  rw [run_append, hfirst]
  exact hsecond

/-- The reader reads one code point as it is written. -/
theorem Within.run_writePoint (h : Within base purpose read pending r) (c : CodePoint)
    (hc : pending = true → c.isLowSurrogate = false) :
    ∃ r' pending', r.run (writePoint c) = .ok r' ∧
      Within base purpose (c :: read) pending' r' ∧
      (pending' = true → c.isHighSurrogate = true) := by
  have hnot : false = true → c.isHighSurrogate = true := fun hfalse => absurd hfalse (by decide)
  have hnamed (letter : CodePoint) (hletter : letter ≠ CodePoint.ofChar 'u')
      (hescaped : escaped? letter = some c) :
      ∃ r' pending', r.run [CodePoint.ofChar '\\', letter] = .ok r' ∧
        Within base purpose (c :: read) pending' r' ∧
        (pending' = true → c.isHighSurrogate = true) :=
    ⟨_, false, h.run_named hletter hescaped, .between, hnot⟩
  -- The conditions of the writer name some code points by their number only.
  have hnumber {n : Nat} (hn : n < 0x110000) (hval : c.val = n) : c = ⟨n, hn⟩ :=
    CodePoint.ext_val hval
  unfold writePoint
  split_ifs with hquote hslash hlf hcr htab hbs hff hplain hsmall
  · exact hnamed (CodePoint.ofChar '"') (by decide) (by rw [hquote]; rfl)
  · exact hnamed (CodePoint.ofChar '\\') (by decide) (by rw [hslash]; rfl)
  · exact hnamed (CodePoint.ofChar 'n') (by decide) (hnumber (by decide) hlf ▸ rfl)
  · exact hnamed (CodePoint.ofChar 'r') (by decide) (hnumber (by decide) hcr ▸ rfl)
  · exact hnamed (CodePoint.ofChar 't') (by decide) (hnumber (by decide) htab ▸ rfl)
  · exact hnamed (CodePoint.ofChar 'b') (by decide) (hnumber (by decide) hbs ▸ rfl)
  · exact hnamed (CodePoint.ofChar 'f') (by decide) (hnumber (by decide) hff ▸ rfl)
  · simp only [Bool.and_eq_true, decide_eq_true_eq] at hplain
    exact ⟨_, false, h.run_plain hquote hslash hplain.1, .between, hnot⟩
  · exact ⟨_, _, h.run_unit hsmall hc, .unit, id⟩
  · obtain ⟨hhigh, hlow, hapart, hpair⟩ := CodePoint.halves (Nat.le_of_not_lt hsmall)
    have hlt := c.lt
    have hrun := h.run_pair (by omega) (by omega) hhigh hapart hlow
    rw [hpair] at hrun
    exact ⟨_, false, hrun, .unit, hnot⟩

/-- The reader reads a text as it is written. -/
theorem Within.run_body (h : Within base purpose read pending r) {t : Text} (ht : t.Joined)
    (hfirst : pending = true → ∀ c ∈ t.head?, c.isLowSurrogate = false) :
    ∃ r' pending', r.run (t.flatMap writePoint) = .ok r' ∧
      Within base purpose (t.reverse ++ read) pending' r' := by
  induction t generalizing r read pending with
  | nil => exact ⟨r, pending, rfl, h⟩
  | cons c t ih =>
    obtain ⟨r₁, pending₁, hrun, hwithin, hhigh⟩ := h.run_writePoint c fun hp => hfirst hp c rfl
    have hnext : pending₁ = true → ∀ d ∈ t.head?, d.isLowSurrogate = false := by
      intro hp d hd
      obtain ⟨rest, rfl⟩ : ∃ rest, t = d :: rest := by
        cases t <;> cases hd
        exact ⟨_, rfl⟩
      have hapart := (List.isChain_cons_cons.1 ht).1
      rw [Bool.eq_false_iff]
      exact fun hlow => hapart ⟨hhigh hp, hlow⟩
    obtain ⟨r₂, pending₂, hrest, hend⟩ := ih hwithin ht.tail hnext
    refine ⟨r₂, pending₂, ?_, ?_⟩
    · rw [List.flatMap_cons, run_append, hrun]
      exact hrest
    · rw [List.reverse_cons, List.append_assoc]
      exact hend

end

/-- A joined text is read as it was written. -/
theorem read_writeText {t : Text} (ht : t.Joined) : read (writeText t) = .ok (.text t) := by
  have hstart : start.step (CodePoint.ofChar '"')
      = .ok { start with place := .string ⟨.value, [], false, .between⟩ } := rfl
  have hbegun : Within start .value [] false _ := .between
  obtain ⟨r, pending, hrun, hwithin⟩ :=
    hbegun.run_body ht fun hfalse => absurd hfalse Bool.false_ne_true
  rw [List.append_nil] at hwithin
  have hend : r.step (CodePoint.ofChar '"') = .ok ⟨[], some (.text t), .after⟩ := by
    rw [hwithin.step, stepBetween, if_pos rfl, endString, List.reverse_reverse]
    cases hwithin <;> rfl
  refine read_eq_ok_iff.2 ⟨⟨[], some (.text t), .after⟩, ?_, rfl⟩
  rw [writeText, List.cons_append, run_cons hstart, run_append, hrun]
  exact run_cons hend []

/-- A text is written between quotation marks. -/
theorem quoted_writeText (t : Text) : Quoted (writeText t) := ⟨_, rfl⟩

/-! ## Integers -/

/-- A decimal digit, as it is written. -/
def decimalDigit (d : Nat) : CodePoint := .ofChar d.digitChar

/-- A decimal digit that is written is read as itself. -/
theorem asciiDigit?_decimalDigit : ∀ d < 10, (decimalDigit d).asciiDigit? = some d := by decide

/-- An integer of which some digits were read, latest first. -/
def numberAt (base : Reader) (negative : Bool) (digits : List Nat) : Reader :=
  { base with place := .number ⟨negative, digits, [], false, [], .integer⟩ }

/-- A digit is added to the number so far. -/
theorem step_digit {base : Reader} {negative : Bool} {digits : List Nat} {d : Nat} (hd : d < 10) :
    (numberAt base negative digits).step (decimalDigit d)
      = .ok (numberAt base negative (d :: digits)) := by
  have hdigit := asciiDigit?_decimalDigit d hd
  have hextend : extendNumber ⟨negative, digits, [], false, [], .integer⟩ (decimalDigit d)
      = some ⟨negative, d :: digits, [], false, [], .integer⟩ := by
    simp only [extendNumber, hdigit]
  simp only [numberAt, Reader.step, hextend]

/-- A digit at the end counts once, and those before it ten times. -/
theorem decimalValue_concat (digits : List Nat) (d : Nat) :
    decimalValue (digits ++ [d]) = 10 * decimalValue digits + d := by
  simp [decimalValue]

/-- Where the first digit begins an integer, so do all of them. -/
theorem run_ofNat {base r : Reader} {negative : Bool}
    (hfirst : ∀ d, 0 < d → d < 10 → r.step (decimalDigit d) = .ok (numberAt base negative [d]))
    {n : Nat} (hn : 0 < n) :
    ∃ digits, r.run (Text.ofNat n) = .ok (numberAt base negative digits) ∧
      decimalValue digits.reverse = n ∧ digits.length = (Nat.toDigits 10 n).length := by
  induction n using Nat.strongRecOn with
  | ind n ih =>
    by_cases hsmall : n < 10
    · refine ⟨[n], ?_, ?_, ?_⟩
      · have htext : Text.ofNat n = [decimalDigit n] := by
          rw [Text.ofNat, Nat.toDigits_of_lt_base hsmall]
          rfl
        rw [htext]
        exact run_cons (hfirst n hn hsmall) []
      · simp [decimalValue]
      · rw [Nat.toDigits_of_lt_base hsmall]
        rfl
    · -- The last digit comes after those of a tenth of the number.
      have hdigits : Nat.toDigits 10 n = Nat.toDigits 10 (n / 10) ++ [(n % 10).digitChar] :=
        Nat.toDigits_of_base_le (by omega) (by omega)
      obtain ⟨digits, hrun, hvalue, hlength⟩ := ih (n / 10) (by omega) (by omega)
      refine ⟨n % 10 :: digits, ?_, ?_, ?_⟩
      · have htext : Text.ofNat n = Text.ofNat (n / 10) ++ [decimalDigit (n % 10)] := by
          rw [Text.ofNat, hdigits, List.map_append]
          rfl
        rw [htext, run_append, hrun]
        exact run_cons (step_digit (by omega)) []
      · rw [List.reverse_cons, decimalValue_concat, hvalue]
        omega
      · rw [hdigits, List.length_cons, List.length_append, hlength]
        rfl

/-- The integer is written with no more digits than a numeral may have. -/
def Short (n : Int) : Prop := (Nat.toDigits 10 n.natAbs).length ≤ Numeral.maxDigits

instance (n : Int) : Decidable (Short n) := by
  unfold Short
  infer_instance

/-- A number with few digits is the integer of its digits. -/
theorem finish_numberAt {negative : Bool} {digits : List Nat}
    (hlength : digits.length ≤ Numeral.maxDigits) :
    (numberAt start negative digits).finish
      = .ok (.int (if negative then -(decimalValue digits.reverse : Int)
          else decimalValue digits.reverse)) := by
  have hinteger : NumberState.integer? ⟨negative, digits, [], false, [], .integer⟩
      = .ok (.int (if negative then -(decimalValue digits.reverse : Int)
          else decimalValue digits.reverse)) := by
    rw [NumberState.integer?, if_neg (Nat.not_lt.2 hlength)]
  have hfinish : NumberState.finish ⟨negative, digits, [], false, [], .integer⟩
      = .ok (.int (if negative then -(decimalValue digits.reverse : Int)
          else decimalValue digits.reverse), true) := by
    simp only [NumberState.finish, hinteger]
    rfl
  simp only [finish, numberAt, endNumber_of_finish _ hfinish]
  rfl

/-- An integer with few digits is read as it was written. -/
theorem read_ofInt {n : Int} (hn : Short n) : read (Text.ofInt n) = .ok (.int n) := by
  have hfirst (d : Nat) (hpos : 0 < d) (hd : d < 10) :
      start.step (decimalDigit d) = .ok (numberAt start false [d]) := by
    interval_cases d <;> rfl
  have hminus (d : Nat) (hpos : 0 < d) (hd : d < 10) :
      ({ start with place := .number ⟨true, [], [], false, [], .minus⟩ } : Reader).step
        (decimalDigit d) = .ok (numberAt start true [d]) := by
    interval_cases d <;> rfl
  rw [read_eq_ok_iff]
  match n with
  | .ofNat 0 => exact ⟨_, rfl, rfl⟩
  | .ofNat (k + 1) =>
    obtain ⟨digits, hrun, hvalue, hlength⟩ := run_ofNat hfirst (Nat.succ_pos k)
    refine ⟨_, hrun, ?_⟩
    rw [finish_numberAt (hlength ▸ hn), hvalue]
    rfl
  | .negSucc k =>
    obtain ⟨digits, hrun, hvalue, hlength⟩ := run_ofNat hminus (Nat.succ_pos k)
    refine ⟨numberAt start true digits, ?_, ?_⟩
    · rw [Text.ofInt, run_cons rfl]
      exact hrun
    · rw [finish_numberAt (hlength ▸ hn), hvalue]
      rfl

/-! ## Blanks around a text -/

/-- All of it is white space between the parts of a JSON text. -/
def Blank (t : Text) : Prop := ∀ c ∈ t, isSpace c = true

instance (t : Text) : Decidable (Blank t) := by
  unfold Blank
  infer_instance

/-- No number goes on with a blank. -/
theorem extendNumber_blank {n : NumberState} {c : CodePoint} (hc : isSpace c = true) :
    extendNumber n c = none := by
  simp only [isSpace, Bool.or_eq_true, decide_eq_true_eq] at hc
  have hcases : c = ⟨0x20, by decide⟩ ∨ c = ⟨0x9, by decide⟩ ∨ c = ⟨0xA, by decide⟩ ∨
      c = ⟨0xD, by decide⟩ := by
    rcases hc with ((h | h) | h) | h
    · exact .inl (CodePoint.ext_val h)
    · exact .inr (.inl (CodePoint.ext_val h))
    · exact .inr (.inr (.inl (CodePoint.ext_val h)))
    · exact .inr (.inr (.inr (CodePoint.ext_val h)))
  unfold extendNumber
  rcases hcases with rfl | rfl | rfl | rfl <;> cases n.place <;> rfl

/-- Blanks after a value change nothing. -/
theorem run_blank_of_finish {r : Reader} {v : Value} (h : r.finish = .ok v) {blanks : Text}
    (hblanks : Blank blanks) : ∃ r', r.run blanks = .ok r' ∧ r'.finish = .ok v := by
  cases blanks with
  | nil => exact ⟨r, rfl, h⟩
  | cons c blanks =>
    have hc := hblanks c List.mem_cons_self
    suffices hstep : r.step c = .ok ⟨[], some v, .after⟩ by
      refine ⟨⟨[], some v, .after⟩, ?_, rfl⟩
      rw [run_cons hstep, ← List.append_nil blanks,
        (waits_closed v).run_append fun d hd => hblanks d (List.mem_cons_of_mem c hd)]
      rfl
    rcases finish_cases h with rfl | ⟨result, n, rfl, hn⟩
    · exact waits_closed v c hc
    · have hminus : ¬ (n.place = .minus ∧ c = CodePoint.ofChar 'I') := by
        rintro ⟨-, rfl⟩
        exact absurd hc (by decide)
      simp only [Reader.step, extendNumber_blank hc, Bool.and_eq_true, decide_eq_true_eq,
        if_neg hminus]
      rw [endNumber_of_finish _ hn]
      exact waits_closed v c hc

/-- Blanks around a text do not change what is read. -/
theorem read_padded {lead t trail : Text} {v : Value} (h : read t = .ok v) (hlead : Blank lead)
    (htrail : Blank trail) : read (lead ++ t ++ trail) = .ok v := by
  obtain ⟨r, hrun, hfinish⟩ := read_eq_ok_iff.1 h
  obtain ⟨r', hblank, hfinish'⟩ := run_blank_of_finish hfinish htrail
  refine read_eq_ok_iff.2 ⟨r', ?_, hfinish'⟩
  rw [List.append_assoc, waits_start.run_append hlead, run_append, hrun]
  exact hblank

/-- Blanks in front do not change that a text is a key. -/
theorem Quoted.padded {lead t : Text} (h : Quoted t) (hlead : Blank lead) : Quoted (lead ++ t) := by
  obtain ⟨u, hu⟩ := h
  exact ⟨u, by rw [List.dropWhile_append_of_pos hlead, hu]⟩

/-! ## Layouts -/

/-- Texts with blanks before the first, between any two, and after the last. -/
def spaced (gap trail : Text) : Text → List Text → List Text
  | _, [] => []
  | lead, [t] => [lead ++ t ++ trail]
  | lead, t :: t' :: rest => (lead ++ t) :: spaced gap trail gap (t' :: rest)

/-- Blanks after a comma may as well belong to what follows. -/
theorem joinWith_spaced {gap trail : Text} (lead : Text) {ts : List Text} (hne : ts ≠ []) :
    Text.joinWith "," (spaced gap trail lead ts)
      = lead ++ Text.joinWith (CodePoint.ofChar ',' :: gap) ts ++ trail := by
  induction ts generalizing lead with
  | nil => exact absurd rfl hne
  | cons t ts ih =>
    cases ts with
    | nil => simp only [spaced, Text.joinWith_singleton]
    | cons t' rest =>
      have hrest := ih gap (List.cons_ne_nil t' rest)
      obtain ⟨u, us, hspaced⟩ : ∃ u us, spaced gap trail gap (t' :: rest) = u :: us := by
        cases rest <;> exact ⟨_, _, rfl⟩
      rw [spaced, hspaced, joinWith_comma, ← hspaced, hrest, Text.joinWith_cons_cons]
      simp only [List.append_assoc, List.cons_append]

/-- The blanks that a layout puts after a comma. -/
def Layout.gap (layout : Layout) (level : Nat) : Text :=
  match layout with
  | .line => " "
  | .indented _ => layout.break level

/-- A separator is a comma with a gap behind it. -/
theorem Layout.separator_eq (layout : Layout) (level : Nat) :
    layout.separator level = CodePoint.ofChar ',' :: layout.gap level := by
  cases layout <;> rfl

/-- A line break and its indent are blank. -/
theorem Layout.blank_break (layout : Layout) (level : Nat) : Blank (layout.break level) := by
  cases layout with
  | line => exact fun c hc => absurd hc List.not_mem_nil
  | indented width =>
    intro c hc
    rcases List.mem_cons.1 hc with rfl | hc
    · rfl
    · rw [List.eq_of_mem_replicate hc]
      rfl

/-- The gap behind a comma is blank. -/
theorem Layout.blank_gap (layout : Layout) (level : Nat) : Blank (layout.gap level) := by
  cases layout with
  | line => exact of_decide_eq_true rfl
  | indented width => exact Layout.blank_break (.indented width) level

/-- What stands between brackets is the same with the blanks taken to the items. -/
theorem enclose_eq (layout : Layout) (level : Nat) (left right : Char) (items : List Text) :
    enclose layout level left right items
      = CodePoint.ofChar left :: (Text.joinWith ","
          (spaced (layout.gap (level + 1)) (layout.break level) (layout.break (level + 1)) items)
        ++ [CodePoint.ofChar right]) := by
  cases items with
  | nil => rfl
  | cons t ts =>
    rw [joinWith_spaced _ (List.cons_ne_nil t ts), ← Layout.separator_eq]
    simp only [enclose, List.isEmpty_cons, Bool.false_eq_true, if_false, List.append_assoc,
      List.cons_append]

/-! ## Lists and tables -/

/-- Items are read as before with blanks around them. -/
theorem forall₂_spaced {gap trail lead : Text} (hgap : Blank gap) (htrail : Blank trail)
    (hlead : Blank lead) {ts : List Text} {vs : List Value}
    (h : List.Forall₂ (fun t v => read t = .ok v) ts vs) :
    List.Forall₂ (fun t v => read t = .ok v) (spaced gap trail lead ts) vs := by
  induction h generalizing lead with
  | nil => exact .nil
  | @cons t v ts vs hread hrest ih =>
    cases hrest with
    | nil => exact .cons (read_padded hread hlead htrail) .nil
    | cons hread' hrest' =>
      refine .cons ?_ (ih hgap)
      rw [← List.append_nil (lead ++ t)]
      exact read_padded hread hlead fun c hc => absurd hc List.not_mem_nil

/-- The text of an entry of a table. -/
def entryText (key valueText : Text) : Text :=
  writeText key ++ Text.ofString ": " ++ valueText

/-- Entries with blanks around them are members of a table. -/
theorem exists_members {gap trail lead : Text} (hgap : Blank gap) (htrail : Blank trail)
    (hlead : Blank lead) (write : Value → Text) {entries : Table}
    (hkeys : ∀ p ∈ entries, p.1.Joined) (h : ∀ p ∈ entries, read (write p.2) = .ok p.2) :
    ∃ members : List Member,
      members.map Member.text
        = spaced gap trail lead (entries.map fun p => entryText p.1 (write p.2)) ∧
      members.map (fun m => (m.key, m.value)) = entries := by
  induction entries generalizing lead with
  | nil => exact ⟨[], rfl, rfl⟩
  | cons p entries ih =>
    have hkey : read (lead ++ writeText p.1) = .ok (.text p.1) := by
      rw [← List.append_nil (lead ++ writeText p.1)]
      exact read_padded (read_writeText (hkeys p List.mem_cons_self)) hlead
        fun c hc => absurd hc List.not_mem_nil
    have hquoted : Quoted (lead ++ writeText p.1) := (quoted_writeText p.1).padded hlead
    have hspace : Blank " " := of_decide_eq_true rfl
    have hvalue {after : Text} (hafter : Blank after) :
        read (Text.ofString " " ++ write p.2 ++ after) = .ok p.2 :=
      read_padded (h p List.mem_cons_self) hspace hafter
    obtain ⟨members, htexts, hentries⟩ := ih hgap (fun q hq => hkeys q (List.mem_cons_of_mem p hq))
      fun q hq => h q (List.mem_cons_of_mem p hq)
    -- Only the last entry has the blanks at the end.
    cases entries with
    | nil =>
      refine ⟨[⟨_, p.1, _, p.2, hquoted, hkey, hvalue htrail⟩], ?_, rfl⟩
      simp only [List.map_cons, List.map_nil, Member.text, spaced, entryText, List.append_assoc]
      rfl
    | cons q entries =>
      have hnone : Blank [] := fun c hc => absurd hc List.not_mem_nil
      refine ⟨⟨_, p.1, _, p.2, hquoted, hkey, hvalue hnone⟩ :: members, ?_, ?_⟩
      · rw [List.map_cons, htexts]
        simp only [List.map_cons, Member.text, spaced, entryText, List.append_assoc,
          List.append_nil]
        rfl
      · rw [List.map_cons, hentries]

/-- A new key is put at the end of a table. -/
theorem insert_of_notMem {key : Text} (value : Value) {t : Table} (h : key ∉ t.keys) :
    Table.insert key value t = t ++ [(key, value)] := by
  induction t with
  | nil => rfl
  | cons p t ih =>
    rw [Table.keys, List.map_cons, List.mem_cons, not_or] at h
    rw [Table.insert, if_neg (Ne.symm h.1), ih h.2]
    rfl

/-- Members with different keys are the entries of their table, in order. -/
theorem addTo_of_nodup {entries : Table} {members : List Member}
    (h : (entries.keys ++ members.map Member.key).Nodup) :
    Member.addTo entries members = entries ++ members.map fun m => (m.key, m.value) := by
  induction members generalizing entries with
  | nil => simp [Member.addTo]
  | cons m members ih =>
    have hnew : m.key ∉ entries.keys := by
      intro hmem
      rw [List.map_cons, List.nodup_append] at h
      exact h.2.2 m.key hmem m.key List.mem_cons_self rfl
    have hrest : ((entries ++ [(m.key, m.value)]).keys ++ members.map Member.key).Nodup := by
      simpa [Table.keys] using h
    change Member.addTo (Table.insert m.key m.value entries) members = _
    rw [insert_of_notMem m.value hnew, ih hrest, List.map_cons, List.append_assoc]
    rfl

/-! ## Values -/

/-- A value that is read as it was written. -/
inductive Portable : Value → Prop
  | null : Portable .null
  | bool (b : Bool) : Portable (.bool b)
  | int {n : Int} (h : Short n) : Portable (.int n)
  | text {t : Text} (h : t.Joined) : Portable (.text t)
  | list {items : List Value} (h : ∀ v ∈ items, Portable v) : Portable (.list items)
  | table {entries : Table} (hkeys : entries.keys.Nodup) (hjoined : ∀ p ∈ entries, p.1.Joined)
      (h : ∀ p ∈ entries, Portable p.2) : Portable (.table entries)

/-- Items are written one by one. -/
theorem writeItems_eq_map (layout : Layout) (level : Nat) (items : List Value) :
    writeItems layout level items = items.map (writeAt layout level) := by
  induction items with
  | nil => rfl
  | cons v items ih => rw [writeItems, ih, List.map_cons]

/-- Entries are written one by one. -/
theorem writeEntries_eq_map (layout : Layout) (level : Nat) (entries : Table) :
    writeEntries layout level entries
      = entries.map fun p => entryText p.1 (writeAt layout level p.2) := by
  induction entries with
  | nil => rfl
  | cons p entries ih => rw [writeEntries, ih, List.map_cons, entryText]

/-- What is written at any level and in any layout is read back. -/
theorem Portable.read_writeAt {v : Value} (h : Portable v) (layout : Layout) (level : Nat) :
    read (writeAt layout level v) = .ok v := by
  induction h generalizing level with
  | null =>
    rw [writeAt]
    rfl
  | bool b => cases b <;> (rw [writeAt]; rfl)
  | int hshort =>
    rw [writeAt]
    exact read_ofInt hshort
  | text hjoined =>
    rw [writeAt]
    exact read_writeText hjoined
  | @list items _ ih =>
    have hitems : List.Forall₂ (fun t v => read t = .ok v)
        (items.map (writeAt layout (level + 1))) items := by
      rw [List.forall₂_map_left_iff, List.forall₂_same]
      exact fun v hv => ih v hv (level + 1)
    rw [writeAt, writeItems_eq_map, enclose_eq]
    exact read_listText (forall₂_spaced (layout.blank_gap _) (layout.blank_break _)
      (layout.blank_break _) hitems)
  | @table entries hkeys hjoined _ ih =>
    obtain ⟨members, htexts, hentries⟩ := exists_members (layout.blank_gap (level + 1))
      (layout.blank_break level) (layout.blank_break (level + 1)) (writeAt layout (level + 1))
      hjoined fun p hp => ih p hp (level + 1)
    have htable : writeAt layout level (.table entries) = tableText members := by
      rw [writeAt, writeEntries_eq_map, enclose_eq, ← htexts]
      rfl
    -- The keys are distinct, so no member replaces one that was read before it.
    have hkeys' : (Table.keys [] ++ members.map Member.key).Nodup := by
      have hsame : members.map Member.key = entries.keys := by
        rw [← hentries, Table.keys, List.map_map]
        rfl
      rw [hsame]
      exact hkeys
    have hnone : Blank [] := fun c hc => absurd hc List.not_mem_nil
    have hspells : SpellsTable (tableText members) members :=
      ⟨[], [], hnone, hnone, by rw [List.nil_append, List.append_nil]⟩
    rw [htable, hspells.read, addTo_of_nodup hkeys', hentries]
    rfl

/-! ## The characters of what is written -/

/-- Printable ASCII. -/
def Printable (c : CodePoint) : Prop := 0x20 ≤ c.val ∧ c.val < 0x7F

instance (c : CodePoint) : Decidable (Printable c) := by
  unfold Printable
  infer_instance

/-- Escaped code units are printable. -/
theorem printable_of_mem_unitEscape {n : Nat} (hn : n < 0x10000) {c : CodePoint}
    (hc : c ∈ unitEscape n) : Printable c := by
  have hdigit : ∀ d < 16, Printable (hexDigit d) := by decide
  rw [unitEscape_eq hn] at hc
  simp only [List.mem_cons, List.not_mem_nil, or_false] at hc
  rcases hc with rfl | rfl | rfl | rfl | rfl | rfl
  · decide
  · decide
  all_goals
    apply hdigit
    omega

/-- What is written for a code point is printable. -/
theorem printable_of_mem_writePoint {p c : CodePoint} (hc : c ∈ writePoint p) : Printable c := by
  have hnamed {name : Text} (hname : ∀ d ∈ name, Printable d) (hmem : c ∈ name) : Printable c :=
    hname c hmem
  unfold writePoint at hc
  split_ifs at hc with hquote hslash hlf hcr htab hbs hff hplain hsmall
  iterate 7
    · exact hnamed (by decide) hc
  · simp only [Bool.and_eq_true, decide_eq_true_eq] at hplain
    rw [List.mem_singleton.1 hc]
    exact hplain
  · exact printable_of_mem_unitEscape hsmall hc
  · have hlt := p.lt
    rcases List.mem_append.1 hc with hc | hc
    · exact printable_of_mem_unitEscape (by omega) hc
    · exact printable_of_mem_unitEscape (by omega) hc

/-- What is written for a text is printable. -/
theorem printable_of_mem_writeText {t : Text} {c : CodePoint} (hc : c ∈ writeText t) :
    Printable c := by
  have hquote : Printable (CodePoint.ofChar '"') := by decide
  simp only [writeText, List.cons_append, List.mem_cons, List.mem_append, List.mem_flatMap,
    List.not_mem_nil, or_false] at hc
  rcases hc with rfl | ⟨p, -, hp⟩ | rfl
  · exact hquote
  · exact printable_of_mem_writePoint hp
  · exact hquote

/-- What is written for an integer is printable. -/
theorem printable_of_mem_ofInt {n : Int} {c : CodePoint} (hc : c ∈ Text.ofInt n) : Printable c := by
  have hnat {k : Nat} (hk : c ∈ Text.ofNat k) : Printable c := by
    obtain ⟨d, hd, rfl⟩ := List.mem_map.1 hk
    have hdigit := Nat.isDigit_of_mem_toDigits (by decide) (Nat.le_refl 10) hd
    simp only [Char.isDigit, Bool.and_eq_true, decide_eq_true_eq] at hdigit
    obtain ⟨hlow, hhigh⟩ := hdigit
    have hlow : 48 ≤ d.toNat := hlow
    have hhigh : d.toNat ≤ 57 := hhigh
    change 0x20 ≤ d.toNat ∧ d.toNat < 0x7F
    omega
  cases n with
  | ofNat k => exact hnat hc
  | negSucc k =>
    rcases List.mem_cons.1 hc with rfl | hc
    · decide
    · exact hnat hc

/-- What a layout may have in a text: printable ASCII, and line breaks where it lays out lines. -/
def Layout.Allows (layout : Layout) (c : CodePoint) : Prop :=
  Printable c ∨ c = CodePoint.ofChar '\n' ∧ layout ≠ .line

/-- A layout allows its own line breaks. -/
theorem Layout.allows_of_mem_break {layout : Layout} {level : Nat} {c : CodePoint}
    (hc : c ∈ layout.break level) : layout.Allows c := by
  cases layout with
  | line => exact absurd hc List.not_mem_nil
  | indented width =>
    rcases List.mem_cons.1 hc with rfl | hc
    · exact .inr ⟨rfl, nofun⟩
    · rw [List.eq_of_mem_replicate hc]
      exact .inl (by decide)

/-- A layout allows its own separators. -/
theorem Layout.allows_of_mem_separator {layout : Layout} {level : Nat} {c : CodePoint}
    (hc : c ∈ layout.separator level) : layout.Allows c := by
  rw [Layout.separator_eq] at hc
  rcases List.mem_cons.1 hc with rfl | hc
  · exact .inl (by decide)
  · cases layout with
    | line =>
      rw [List.mem_singleton.1 hc]
      exact .inl (by decide)
    | indented width => exact Layout.allows_of_mem_break hc

/-- What is joined comes from the separator or from one of the texts. -/
theorem mem_joinWith {sep : Text} {ts : List Text} {c : CodePoint}
    (hc : c ∈ Text.joinWith sep ts) : c ∈ sep ∨ ∃ t ∈ ts, c ∈ t := by
  induction ts with
  | nil => exact absurd hc List.not_mem_nil
  | cons t ts ih =>
    cases ts with
    | nil =>
      rw [Text.joinWith_singleton] at hc
      exact .inr ⟨t, List.mem_cons_self, hc⟩
    | cons t' rest =>
      rw [Text.joinWith_cons_cons, List.append_assoc, List.mem_append, List.mem_append] at hc
      rcases hc with hc | hc | hc
      · exact .inr ⟨t, List.mem_cons_self, hc⟩
      · exact .inl hc
      · obtain hsep | ⟨u, hu, hcu⟩ := ih hc
        · exact .inl hsep
        · exact .inr ⟨u, List.mem_cons_of_mem t hu, hcu⟩

/-- What is enclosed is allowed if the brackets are printable and the items allowed. -/
theorem Layout.allows_of_mem_enclose {layout : Layout} {level : Nat} {left right : Char}
    {items : List Text} {c : CodePoint} (hleft : Printable (.ofChar left))
    (hright : Printable (.ofChar right)) (hitems : ∀ t ∈ items, ∀ d ∈ t, layout.Allows d)
    (hc : c ∈ enclose layout level left right items) : layout.Allows c := by
  unfold enclose at hc
  split_ifs at hc
  · simp only [List.mem_cons, List.not_mem_nil, or_false] at hc
    rcases hc with rfl | rfl
    · exact .inl hleft
    · exact .inl hright
  · simp only [List.cons_append, List.mem_cons, List.mem_append, List.not_mem_nil,
      or_false] at hc
    rcases hc with rfl | ((hbreak | hjoined) | hbreak) | rfl
    · exact .inl hleft
    · exact allows_of_mem_break hbreak
    · obtain hsep | ⟨t, ht, hct⟩ := mem_joinWith hjoined
      · exact allows_of_mem_separator hsep
      · exact hitems t ht c hct
    · exact allows_of_mem_break hbreak
    · exact .inl hright

/-- What is written at any level has no other characters than its layout allows. -/
theorem Portable.allows_of_mem_writeAt {v : Value} (h : Portable v) {layout : Layout} {level : Nat}
    {c : CodePoint} (hc : c ∈ writeAt layout level v) : layout.Allows c := by
  induction h generalizing level c with
  | null =>
    have hword : ∀ d ∈ Text.ofString "null", Printable d := by decide
    rw [writeAt] at hc
    exact .inl (hword c hc)
  | bool b =>
    have hword : ∀ d ∈ Text.ofString "true" ++ Text.ofString "false", Printable d := by decide
    cases b with
    | true =>
      rw [writeAt] at hc
      exact .inl (hword c (List.mem_append_left _ hc))
    | false =>
      rw [writeAt] at hc
      exact .inl (hword c (List.mem_append_right _ hc))
  | int hshort =>
    rw [writeAt] at hc
    exact .inl (printable_of_mem_ofInt hc)
  | text hjoined =>
    rw [writeAt] at hc
    exact .inl (printable_of_mem_writeText hc)
  | list _ ih =>
    rw [writeAt, writeItems_eq_map] at hc
    refine Layout.allows_of_mem_enclose (by decide) (by decide) ?_ hc
    intro t ht d hd
    obtain ⟨v, hv, rfl⟩ := List.mem_map.1 ht
    exact ih v hv hd
  | table _ _ _ ih =>
    have hcolon : ∀ d ∈ Text.ofString ": ", Printable d := by decide
    rw [writeAt, writeEntries_eq_map] at hc
    refine Layout.allows_of_mem_enclose (by decide) (by decide) ?_ hc
    intro t ht d hd
    obtain ⟨p, hp, rfl⟩ := List.mem_map.1 ht
    rw [entryText, List.mem_append, List.mem_append] at hd
    rcases hd with (hkey | hd) | hvalue
    · exact .inl (printable_of_mem_writeText hkey)
    · exact .inl (hcolon d hd)
    · exact ih p hp hvalue

end Json

end LiveLint
