import LiveLint.Number.Binary

/-!
# Values

The data that configuration files, linter output and hosts exchange: scalars, lists, and tables that
keep the order of their keys. A table holds each key once.
-/

namespace LiveLint

/-- A calendar date. -/
structure Date where
  year : Nat
  month : Nat
  day : Nat
deriving DecidableEq

/-- A time of day. -/
structure Time where
  hour : Nat
  minute : Nat
  second : Nat
  microsecond : Nat
deriving DecidableEq

/-- A date, a time of day, or both; a full one may give its distance from universal time in
minutes. -/
inductive Moment where
  | date (d : Date)
  | time (t : Time)
  | dateTime (d : Date) (t : Time) (offset : Option Int)
deriving DecidableEq

/-- A dynamic value. -/
inductive Value where
  | null
  | bool (b : Bool)
  | int (n : Int)
  | float (x : Double)
  | text (t : Text)
  | moment (m : Moment)
  | list (items : List Value)
  | table (entries : List (Text × Value))

/-- The entries of a table, in order. -/
abbrev Table := List (Text × Value)

namespace Table

/-- The value under a key. -/
def get? (key : Text) : Table → Option Value
  | [] => none
  | (k, v) :: rest => if k = key then some v else get? key rest

/-- Puts a value under a key: in place of the one that is there, or at the end. -/
def insert (key : Text) (value : Value) : Table → Table
  | [] => [(key, value)]
  | (k, v) :: rest => if k = key then (k, value) :: rest else (k, v) :: insert key value rest

/-- An entry is found under its own key, and all others stay as they were. -/
theorem get?_insert (key k : Text) (v : Value) (t : Table) :
    get? key (insert k v t) = if k = key then some v else get? key t := by
  induction t with
  | nil => rfl
  | cons p t ih =>
    obtain ⟨k', v'⟩ := p
    by_cases hk : k' = k
    · subst hk
      by_cases hkey : k' = key <;> simp [insert, get?, hkey]
    · by_cases hkey : k' = key
      · subst hkey
        simp [insert, get?, hk, Ne.symm hk]
      · simp [insert, get?, hk, hkey, ih]

/-- The keys of a table, in order. -/
def keys (t : Table) : List Text := t.map Prod.fst

theorem keys_cons (k : Text) (v : Value) (t : Table) : keys ((k, v) :: t) = k :: keys t := rfl

/-- What is found under a key is an entry of the table. -/
theorem mem_of_get? {key : Text} {t : Table} {v : Value} (h : get? key t = some v) :
    (key, v) ∈ t := by
  induction t with
  | nil => cases h
  | cons entry rest ih =>
    obtain ⟨k, w⟩ := entry
    unfold get? at h
    split at h
    · rename_i hk
      cases h
      exact hk ▸ List.mem_cons_self
    · exact List.mem_cons_of_mem _ (ih h)

/-- Nothing is found exactly under the keys that the table lacks. -/
theorem get?_eq_none_iff {key : Text} {t : Table} : get? key t = none ↔ key ∉ t.keys := by
  induction t with
  | nil => exact ⟨fun _ => List.not_mem_nil, fun _ => rfl⟩
  | cons entry rest ih =>
    obtain ⟨k, v⟩ := entry
    rw [keys_cons, List.mem_cons, not_or, ← ih]
    by_cases hk : k = key
    · simp [get?, hk]
    · simp [get?, hk, Ne.symm hk]

/-- Where each key stands once, what is found under a key is what the table holds there. -/
theorem get?_eq_some_iff {t : Table} (ht : t.keys.Nodup) {k : Text} {v : Value} :
    get? k t = some v ↔ (k, v) ∈ t := by
  refine ⟨mem_of_get?, fun h => ?_⟩
  induction t with
  | nil => cases h
  | cons entry rest ih =>
    obtain ⟨k', v'⟩ := entry
    obtain ⟨hk', hrest⟩ := List.nodup_cons.1 ht
    rcases List.mem_cons.1 h with heq | hmem
    · cases heq
      rw [get?, if_pos rfl]
    · have hk : k' ≠ k := by
        rintro rfl
        exact hk' (List.mem_map.2 ⟨(k', v), hmem, rfl⟩)
      rw [get?, if_neg hk]
      exact ih hrest hmem

/-- A new key comes last, and a known one keeps its place. -/
theorem keys_insert (k : Text) (v : Value) (t : Table) :
    keys (insert k v t) = if k ∈ keys t then keys t else keys t ++ [k] := by
  induction t with
  | nil => rfl
  | cons entry rest ih =>
    obtain ⟨k', v'⟩ := entry
    rw [keys_cons, insert]
    by_cases hk : k' = k
    · rw [if_pos hk, if_pos (hk ▸ List.mem_cons_self)]
      rfl
    · rw [if_neg hk, keys_cons, ih]
      by_cases hmem : k ∈ keys rest
      · rw [if_pos hmem, if_pos (List.mem_cons_of_mem k' hmem)]
      · rw [if_neg hmem, if_neg fun h => (List.mem_cons.1 h).elim (fun h => hk h.symm) hmem]
        rfl

/-- Inserting brings in one value, and every other entry was there before. -/
theorem mem_insert {k : Text} {v : Value} {t : Table} {p : Text × Value} (h : p ∈ insert k v t) :
    p.2 = v ∨ p ∈ t := by
  induction t with
  | nil => exact .inl (congrArg Prod.snd (List.mem_singleton.1 h))
  | cons entry rest ih =>
    obtain ⟨k', v'⟩ := entry
    unfold insert at h
    split at h
    · rcases List.mem_cons.1 h with rfl | h
      · exact .inl rfl
      · exact .inr (List.mem_cons_of_mem _ h)
    · rcases List.mem_cons.1 h with rfl | h
      · exact .inr List.mem_cons_self
      · exact (ih h).imp_right (List.mem_cons_of_mem _)

end Table

namespace Text

/-- `n` in decimal, padded with zeros to `width`. -/
def padded (width n : Nat) : Text :=
  let digits := Nat.toDigits 10 n
  (List.replicate (width - digits.length) '0' ++ digits).map CodePoint.ofChar

end Text

/-- Year, month and day. -/
def Date.iso (d : Date) : Text :=
  Text.padded 4 d.year ++ "-" ++ Text.padded 2 d.month ++ "-" ++ Text.padded 2 d.day

/-- Hours, minutes, seconds, and six digits of a fraction that is not zero. -/
def Time.iso (t : Time) : Text :=
  let clock := Text.padded 2 t.hour ++ ":" ++ Text.padded 2 t.minute ++ ":" ++ Text.padded 2 t.second
  if t.microsecond = 0 then clock else clock ++ "." ++ Text.padded 6 t.microsecond

/-- A distance from universal time in hours and minutes. -/
def offsetText (minutes : Int) : Text :=
  let sign : Text := if minutes < 0 then "-" else "+"
  sign ++ Text.padded 2 (minutes.natAbs / 60) ++ ":" ++ Text.padded 2 (minutes.natAbs % 60)

/-- A moment in the ISO 8601 form. -/
def Moment.iso : Moment → Text
  | .date d => d.iso
  | .time t => t.iso
  | .dateTime d t offset =>
    d.iso ++ "T" ++ t.iso ++ ((offset.map offsetText).getD [])

namespace Value

/-- The kind of a value, as messages about a wrong kind name it. -/
def kindName : Value → Text
  | .null => "NoneType"
  | .bool _ => "bool"
  | .int _ => "int"
  | .float _ => "float"
  | .text _ => "str"
  | .moment (.date _) => "date"
  | .moment (.time _) => "time"
  | .moment (.dateTime ..) => "datetime"
  | .list _ => "list"
  | .table _ => "dict"

/-- The field of a table; nothing else has fields. -/
def field? (key : Text) : Value → Option Value
  | .table entries => Table.get? key entries
  | _ => none

/-- The text of a text value. -/
def text? : Value → Option Text
  | .text t => some t
  | _ => none

/-- The integer of an integer value; a truth value is none. -/
def int? : Value → Option Int
  | .int n => some n
  | _ => none

/-- An optional value, with null for none. -/
def ofOption (encode : α → Value) : Option α → Value
  | none => .null
  | some a => encode a

end Value

end LiveLint
