import LiveLint.Settings.Basic

/-!
# References to variables

A text may refer to a variable of the environment as `$NAME` or `${name}`. It falls into tokens from
left to right, each a reference or a single code point; a reference to a known variable is replaced
by its value, and all else stays as it is. Replaced text is not looked at again.
-/

namespace LiveLint

namespace Expansion

/-- A piece of a text. -/
inductive Token where
  /-- A reference to a variable, with or without braces. -/
  | reference (braced : Bool) (name : Text)
  | literal (c : CodePoint)

/-- The first code point of a name without braces. -/
def startsName (c : CodePoint) : Bool := c.isAsciiLetter || c.is '_'

/-- A later code point of a name without braces. -/
def continuesName (c : CodePoint) : Bool := startsName c || c.isAsciiDigit

/-- A code point inside braces. -/
def insideBraces (c : CodePoint) : Bool := !c.is '\x7d'

/-- A name up to the closing brace, and what follows the brace. -/
def braced? (t : Text) : Option (Text × Text) :=
  match t.dropWhile insideBraces with
  | [] => none
  | _ :: after =>
    if (t.takeWhile insideBraces).isEmpty then none else some (t.takeWhile insideBraces, after)

/-- A reference in front of a text, and what follows it. -/
def reference? : Text → Option (Token × Text)
  | c :: d :: rest =>
    if !c.is '$' then none
    else if d.is '\x7b' then (braced? rest).map fun r => (.reference true r.1, r.2)
    else if startsName d then
      some (.reference false (d :: rest.takeWhile continuesName), rest.dropWhile continuesName)
    else none
  | _ => none

/-- What follows the closing brace is shorter than what stood behind the opening one. -/
theorem length_lt_of_braced? {t name after : Text} (h : braced? t = some (name, after)) :
    after.length < t.length := by
  have le : _ ≤ t.length := (List.dropWhile_sublist insideBraces).length_le
  unfold braced? at h
  split at h
  · simp at h
  · rename_i e
    rw [e] at le
    split at h
    · simp at h
    · simp only [Option.some.injEq, Prod.mk.injEq] at h
      rw [← h.2]
      rw [List.length_cons] at le
      omega

/-- What follows a reference is shorter than the text with it, so that taking tokens ends. -/
theorem length_lt_of_reference? {t after : Text} {token : Token}
    (h : reference? t = some (token, after)) : after.length < t.length := by
  match t with
  | [] | [_] => simp [reference?] at h
  | c :: d :: rest =>
    have le : _ ≤ rest.length := (List.dropWhile_sublist continuesName).length_le
    simp only [reference?] at h
    simp only [List.length_cons]
    split at h
    · simp at h
    · split at h
      · rw [Option.map_eq_some_iff] at h
        obtain ⟨⟨name, after'⟩, hb, he⟩ := h
        have lt := length_lt_of_braced? hb
        simp only [Prod.mk.injEq] at he
        rw [← he.2]; omega
      · split at h
        · simp only [Option.some.injEq, Prod.mk.injEq] at h
          rw [← h.2]; omega
        · simp at h

/-- The tokens of a text. -/
def tokens (t : Text) : List Token :=
  match h : reference? t with
  | some (token, after) =>
    have := length_lt_of_reference? h
    token :: tokens after
  | none =>
    match t with
    | [] => []
    | c :: rest => .literal c :: tokens rest
termination_by t.length

/-- The text of a token. -/
def Token.source : Token → Text
  | .reference true name => Text.ofString "$\x7b" ++ name ++ "\x7d"
  | .reference false name => Text.ofString "$" ++ name
  | .literal c => [c]

/-- What stands for a token in an environment. -/
def Token.expand (env : Environment) : Token → Text
  | .reference braced name => (env.get? name).getD (Token.source (.reference braced name))
  | .literal c => [c]

/-- A text with its references replaced. -/
def expandText (env : Environment) (t : Text) : Text := (tokens t).flatMap (Token.expand env)

mutual

/-- A value with the references in all its texts replaced; keys stay as they are. -/
def expandValue (env : Environment) : Value → Value
  | .text t => .text (expandText env t)
  | .list items => .list (expandItems env items)
  | .table entries => .table (expandEntries env entries)
  | v => v

/-- The items of a list, expanded. -/
def expandItems (env : Environment) : List Value → List Value
  | [] => []
  | v :: rest => expandValue env v :: expandItems env rest

/-- The values of a table, expanded. -/
def expandEntries (env : Environment) : List (Text × Value) → List (Text × Value)
  | [] => []
  | (k, v) :: rest => (k, expandValue env v) :: expandEntries env rest

end

/-- There is a reference in the text. -/
def refers : Text → Bool
  | [] => false
  | c :: rest => (reference? (c :: rest)).isSome || refers rest

mutual

/-- The levels of the stack that the expansion of a value takes: two for every list and table that
stand in one another, and a few for what is innermost. To look for a variable, or to find out that a
value is no text, takes more than to look through a text. -/
def levels : Value → Nat
  | .text t => if refers t then 5 else 3
  | .list items => max 5 (levelsOfItems items + 2)
  | .table entries => max 5 (levelsOfEntries entries + 2)
  | _ => 5

/-- The levels that the expansion of the items of a list takes. -/
def levelsOfItems : List Value → Nat
  | [] => 0
  | v :: rest => max (levels v) (levelsOfItems rest)

/-- The levels that the expansion of the values of a table takes. -/
def levelsOfEntries : List (Text × Value) → Nat
  | [] => 0
  | (_, v) :: rest => max (levels v) (levelsOfEntries rest)

end

/-- A list is expanded item by item. -/
theorem expandItems_eq_map (env : Environment) (items : List Value) :
    expandItems env items = items.map (expandValue env) := by
  induction items with
  | nil => rw [expandItems, List.map_nil]
  | cons v rest ih => rw [expandItems, List.map_cons, ih]

/-- A table is expanded value by value. -/
theorem expandEntries_eq_map (env : Environment) (entries : List (Text × Value)) :
    expandEntries env entries = entries.map fun e => (e.1, expandValue env e.2) := by
  induction entries with
  | nil => rw [expandEntries, List.map_nil]
  | cons e rest ih =>
    obtain ⟨k, v⟩ := e
    rw [expandEntries, List.map_cons, ih]

/-- Expansion leaves the keys of a table and their order alone. -/
theorem keys_expandEntries (env : Environment) (t : Table) :
    Table.keys (expandEntries env t) = t.keys := by
  rw [expandEntries_eq_map, Table.keys, List.map_map]
  rfl

end Expansion

end LiveLint
