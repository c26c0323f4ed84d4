import LiveLint.Toml.Lexeme

/-!
# TOML documents

A document is a sequence of statements: values under keys, and headers of tables and of items of
lists of tables. The statements are read one by one and applied in order to the table that the
document describes. Marks on paths of keys remember what may not be opened or extended again.
-/

namespace LiveLint

namespace Toml

/-- A path of keys from the root of a document. -/
abbrev KeyPath := List Text

/-- What may not be done any more with what is under a path. -/
inductive Mark where
  /-- A table that was written out and cannot be opened by a header. -/
  | opened (path : KeyPath)
  /-- A value that was written inline: nothing in it can be changed. -/
  | frozen (path : KeyPath)
deriving DecidableEq

/-- The marks of a document. -/
abbrev Marks := List Mark

namespace Marks

/-- The table under a path was written out. -/
def isOpened (ms : Marks) (path : KeyPath) : Bool := ms.contains (.opened path)

/-- The path leads to an inline value or into one. -/
def isFrozen (ms : Marks) (path : KeyPath) : Bool :=
  ms.any fun
    | .frozen p => p.isPrefixOf path
    | .opened _ => false

/-- Forgets the marks of a path and all below it. -/
def release (ms : Marks) (path : KeyPath) : Marks :=
  ms.filter fun
    | .opened p | .frozen p => !path.isPrefixOf p

end Marks

/-- Changes the table under a path, which is created where it does not exist. With `throughLists` a
list of tables stands for its last item. -/
def changeAt (throughLists : Bool) (change : Table → Except Error Table) :
    KeyPath → Table → Except Error Table
  | [], t => change t
  | k :: path, t =>
    match Table.get? k t with
    | none => do return Table.insert k (.table (← changeAt throughLists change path [])) t
    | some (.table sub) => do
      return Table.insert k (.table (← changeAt throughLists change path sub)) t
    | some (.list items) =>
      match throughLists, items.getLast? with
      | true, some (.table sub) => do
        let sub ← changeAt throughLists change path sub
        return Table.insert k (.list (items.dropLast ++ [.table sub])) t
      | _, _ => malformed
    | some _ => malformed

/-- Puts a value under a new key. -/
def insertNew (k : Text) (v : Value) (t : Table) : Except Error Table :=
  if (Table.get? k t).isSome then malformed else .ok (Table.insert k v t)

/-- Adds an empty table to the list under a key. -/
def appendItem (k : Text) (t : Table) : Except Error Table :=
  match Table.get? k t with
  | none => .ok (Table.insert k (.list [.table []]) t)
  | some (.list items) => .ok (Table.insert k (.list (items ++ [.table []])) t)
  | some _ => malformed

/-- A list or table: what cannot be changed once it is written inline. -/
def isCompound : Value → Bool
  | .list _ | .table _ => true
  | _ => false

/-! ## Values -/

/-- An inline table under construction. -/
structure InlineTable where
  entries : Table
  marks : Marks

/-- Adds a value under a path of keys. -/
def InlineTable.add (t : InlineTable) (path : KeyPath) (v : Value) : Except Error InlineTable := do
  if t.marks.isFrozen path then malformed
  else
    let entries ← changeAt false (insertNew (path.getLast?.getD []) v) path.dropLast t.entries
    return ⟨entries, if isCompound v then .frozen path :: t.marks else t.marks⟩

mutual

/-- Reads a value, with so many levels of the stack left. A list takes two of them, and an inline
table three, or one if it is empty; what texts, numbers and words take is not counted. -/
def value : (fuel levels : Nat) → Text → Except Error (Value × Text)
  | 0, _, _ => malformed
  | fuel + 1, levels, t =>
    match string? t with
    | some r => r.map fun r => (.text r.1, r.2)
    | none =>
      if let some after := Text.dropPrefix? "true" t then .ok (.bool true, after)
      else if let some after := Text.dropPrefix? "false" t then .ok (.bool false, after)
      else if let some after := char? '[' t then
        if levels < 2 then .error .tooDeep
        else do
          let after ← skipFiller (t.length + 1) after
          match char? ']' after with
          | some rest => return (.list [], rest)
          | none => listItems fuel (levels - 2) [] after
      else if let some after := char? '\x7b' t then
        match char? '\x7d' (skipBlank after) with
        | some rest => if levels < 1 then .error .tooDeep else .ok (.table [], rest)
        | none =>
          if levels < 3 then .error .tooDeep
          else inlineEntries fuel (levels - 3) ⟨[], []⟩ (skipBlank after)
      else
        match moment? t with
        | some r => r.map fun r => (.moment r.1, r.2)
        | none => (number? t).getD malformed
termination_by structural fuel => fuel

/-- Reads the items of a list after those that were read, latest first. -/
def listItems : (fuel levels : Nat) → List Value → Text → Except Error (Value × Text)
  | 0, _, _, _ => malformed
  | fuel + 1, levels, read, t => do
    let (v, after) ← value fuel levels t
    let after ← skipFiller (t.length + 1) after
    match char? ']' after, char? ',' after with
    | some rest, _ => return (.list (v :: read).reverse, rest)
    | none, none => malformed
    | none, some rest =>
      let after ← skipFiller (t.length + 1) rest
      match char? ']' after with
      | some rest => return (.list (v :: read).reverse, rest)
      | none => listItems fuel levels (v :: read) after
termination_by structural fuel => fuel

/-- Reads the entries of an inline table after those that were read. -/
def inlineEntries : (fuel levels : Nat) → InlineTable → Text → Except Error (Value × Text)
  | 0, _, _, _ => malformed
  | fuel + 1, levels, read, t => do
    let ((path, v), after) ← assignment fuel levels t
    let read ← read.add path v
    let after := skipBlank after
    match char? '\x7d' after, char? ',' after with
    | some rest, _ => return (.table read.entries, rest)
    | none, none => malformed
    | none, some rest => inlineEntries fuel levels read (skipBlank rest)
termination_by structural fuel => fuel

/-- Reads a key, an equals sign and a value. -/
def assignment : (fuel levels : Nat) → Text → Except Error ((KeyPath × Value) × Text)
  | 0, _, _ => malformed
  | fuel + 1, levels, t => do
    let (path, after) ← key (t.length + 1) t
    match char? '=' after with
    | none => malformed
    | some rest =>
      let (v, after) ← value fuel levels (skipBlank rest)
      return ((path, v), after)
termination_by structural fuel => fuel

end

/-! ## Statements -/

/-- A statement of a document. -/
inductive Statement where
  | assign (path : KeyPath) (v : Value)
  | openTable (path : KeyPath)
  | openItem (path : KeyPath)

/-- Reads the statement at the start of a line that is neither blank nor a comment. -/
def statement (levels : Nat) (t : Text) : Except Error (Statement × Text) :=
  let header (close : Text) (make : KeyPath → Statement) (after : Text) : Except Error (Statement × Text) := do
    let (path, after) ← key (t.length + 1) (skipBlank after)
    match Text.dropPrefix? close after with
    | some rest => return (make path, rest)
    | none => malformed
  if let some after := Text.dropPrefix? "[[" t then header "]]" .openItem after
  else if let some after := char? '[' t then header "]" .openTable after
  else (assignment (2 * t.length + 2) levels t).map fun r => (.assign r.1.1 r.1.2, r.2)

/-- What follows a statement up to the end of its line. -/
def endLine (t : Text) : Except Error Text := do
  match ← skipComment (skipBlank t) with
  | [] => return []
  | c :: rest => if c.is '\n' then return rest else malformed

/-- The statements of a text up to the first that cannot be read, and the error there. -/
def statements (levels : Nat) : Nat → Text → List Statement × Option Error
  | 0, _ => ([], none)
  | fuel + 1, t =>
    match skipBlank t with
    | [] => ([], none)
    | c :: rest =>
      if c.is '\n' then statements levels fuel rest
      else if c.is '#' then
        match endLine (c :: rest) with
        | .ok after => statements levels fuel after
        | .error e => ([], some e)
      else
        match statement levels (c :: rest) with
        | .error e => ([], some e)
        | .ok (s, after) =>
          match endLine after with
          | .error e => ([s], some e)
          | .ok after =>
            let (ss, e) := statements levels fuel after
            (s :: ss, e)

/-! ## Documents -/

/-- The table that the statements so far describe. `pending` are the tables that keys with points
have created since the last header; the next header marks them. -/
structure Document where
  table : Table := []
  marks : Marks := []
  pending : List KeyPath := []
  header : KeyPath := []

namespace Document

/-- The document before a header. -/
def beforeHeader (d : Document) : Document :=
  { d with marks := d.pending.map .opened ++ d.marks, pending := [] }

/-- Applies a statement. -/
def apply (d : Document) : Statement → Except Error Document
  | .openTable path => do
    let d := d.beforeHeader
    if d.marks.isOpened path || d.marks.isFrozen path then malformed
    else
      return { d with
        table := ← changeAt true .ok path d.table
        marks := .opened path :: d.marks
        header := path }
  | .openItem path => do
    let d := d.beforeHeader
    if d.marks.isFrozen path then malformed
    else
      return { d with
        table := ← changeAt true (appendItem (path.getLast?.getD [])) path.dropLast d.table
        marks := .opened path :: d.marks.release path
        header := path }
  | .assign path v => do
    let full := d.header ++ path
    let between := (List.range (path.length - 1)).map fun i => d.header ++ path.take (i + 1)
    if between.any d.marks.isOpened || d.marks.isFrozen full.dropLast then malformed
    else
      return { d with
        table := ← changeAt true (insertNew (full.getLast?.getD []) v) full.dropLast d.table
        marks := if isCompound v then .frozen full :: d.marks else d.marks
        pending := between ++ d.pending }

end Document

/-- The table that a text describes, with so many levels of the stack left. -/
def read (levels : Nat) (t : Text) : Except Error Table := do
  let t := joinLineEnds t
  let (ss, e) := statements levels (t.length + 1) t
  let d ← ss.foldlM Document.apply {}
  match e with
  | some e => .error e
  | none => return d.table

end Toml

end LiveLint
