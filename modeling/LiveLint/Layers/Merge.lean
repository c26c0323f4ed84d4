import LiveLint.Value

/-!
# Merging tables

A table laid over another one. Where both have a table under a key the two are merged; otherwise
what lies on top counts. Keys keep the order of the lower table, and new ones follow.
-/

namespace LiveLint

mutual

/-- What is under a key when `value` is laid over `old`. -/
def Value.overlay (old : Option Value) : Value → Value
  | .table entries =>
    match old with
    | some (.table base) => .table (Table.overlay base entries)
    | _ => .table entries
  | value => value

/-- The table with entries laid over `base`. -/
def Table.overlay (base : List (Text × Value)) : List (Text × Value) → List (Text × Value)
  | [] => base
  | (k, v) :: rest => Table.overlay (Table.insert k (Value.overlay (Table.get? k base) v) base) rest

end

end LiveLint
