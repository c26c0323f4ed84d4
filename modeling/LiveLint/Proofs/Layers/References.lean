import Mathlib.Data.List.DropRight
import Mathlib.Data.Option.Basic
import LiveLint.Layers.Expansion

/-!
# References are replaced once

A text splits into references and single code points in one way (`Expansion.Splits`): a reference is
read wherever one begins, with the name up to the first closing brace or, without braces, with the
longest name. Expansion replaces the references of known names in this split and nothing else, so
that what was put in is not read again (`Expansion.references_replaced_once`).

In nested data that happens to every text at any depth, while all else stays in its place. A place
is given by the numbers of the items and entries that lead to it (`Value.at?`), and whatever has the
expanded texts at all places is the expanded value (`Expansion.eq_expandValue`).
-/

namespace LiveLint

/-! ## Places in nested data -/

namespace Value

/-- The item of a list, or the value of an entry of a table, by its number. -/
def child? : Value → Nat → Option Value
  | .list items, i => items[i]?
  | .table entries, i => (entries[i]?).map Prod.snd
  | _, _ => none

/-- What stands in a value at the place that the numbers lead to. -/
def at? (v : Value) : List Nat → Option Value
  | [] => some v
  | i :: path => (v.child? i).bind fun w => w.at? path

/-- What lies in a value is smaller than the value. -/
theorem sizeOf_lt_of_child? {v w : Value} {i : Nat} (h : v.child? i = some w) :
    sizeOf w < sizeOf v := by
  cases v with
  | list items =>
    have hlt := List.sizeOf_lt_of_mem (List.mem_of_getElem? h)
    rw [Value.list.sizeOf_spec]
    omega
  | table entries =>
    obtain ⟨⟨k, u⟩, hentry, rfl⟩ := Option.map_eq_some_iff.1 h
    have hlt := List.sizeOf_lt_of_mem (List.mem_of_getElem? hentry)
    rw [Prod.mk.sizeOf_spec] at hlt
    rw [Value.table.sizeOf_spec]
    dsimp only
    omega
  | _ => cases h

/-- What passes from the items and entries to the value holds of every value. -/
theorem induction_on {P : Value → Prop} (v : Value)
    (h : ∀ v, (∀ i w, v.child? i = some w → P w) → P v) : P v :=
  (measure fun v : Value => sizeOf v).wf.induction v fun v ih =>
    h v fun _ w hw => ih w (sizeOf_lt_of_child? hw)

end Value

namespace Expansion

/-! ## References -/

/-- The name that a token refers to. -/
def Token.name? : Token → Option Text
  | .reference _ name => some name
  | .literal _ => none

/-- What can be referred to: in braces anything without a closing brace, else an ordinary name. -/
inductive Name : Bool → Text → Prop
  | braced {name : Text} (hne : name ≠ []) (h : ∀ c ∈ name, insideBraces c) : Name true name
  | bare {c : CodePoint} {rest : Text} (hc : startsName c) (h : ∀ d ∈ rest, continuesName d) :
    Name false (c :: rest)

/-- The text begins with a reference to the name, and `rest` follows. Without braces the name is as
long as it can be. -/
structure Refers (t : Text) (braced : Bool) (name rest : Text) : Prop where
  proper : Name braced name
  text : t = (Token.reference braced name).source ++ rest
  longest : braced = false → ∀ c ∈ rest.head?, continuesName c = false

/-- A text is split from left to right: a reference where one begins, else a single code point. -/
inductive Splits : Text → List Token → Prop
  | nil : Splits [] []
  | reference {t name rest : Text} {braced : Bool} {tokens : List Token}
      (h : Refers t braced name rest) (hrest : Splits rest tokens) :
    Splits t (.reference braced name :: tokens)
  | literal {c : CodePoint} {rest : Text} {tokens : List Token}
      (h : ∀ braced name after, ¬ Refers (c :: rest) braced name after)
      (hrest : Splits rest tokens) : Splits (c :: rest) (.literal c :: tokens)

/-- The text has a reference to the name. -/
def Mentions (t name : Text) : Prop :=
  ∃ tokens, Splits t tokens ∧ ∃ token ∈ tokens, token.name? = some name

theorem startsName_openBrace : startsName (.ofChar '\x7b') = false := by decide

theorem insideBraces_closeBrace : insideBraces (.ofChar '\x7d') = false := by decide

/-- A reference in braces is written with a dollar sign and both braces. -/
theorem source_braced (name rest : Text) :
    (Token.reference true name).source ++ rest
      = .ofChar '$' :: .ofChar '\x7b' :: (name ++ .ofChar '\x7d' :: rest) := by
  change (Text.ofString "$\x7b" ++ name ++ Text.ofString "\x7d") ++ rest = _
  rw [List.append_assoc, List.append_assoc]
  rfl

/-- A reference without braces is written with a dollar sign in front. -/
theorem source_bare (name rest : Text) :
    (Token.reference false name).source ++ rest = .ofChar '$' :: (name ++ rest) := rfl

/-- What `braced?` reads ends at the first closing brace. -/
theorem braced?_eq_some_iff {t name rest : Text} :
    braced? t = some (name, rest) ↔ Name true name ∧ t = name ++ .ofChar '\x7d' :: rest := by
  constructor
  · intro h
    unfold braced? at h
    split at h
    case h_1 => cases h
    case h_2 c after hdrop =>
      split at h
      case isTrue => cases h
      case isFalse hempty =>
        cases h
        have hc : insideBraces c = false := by
          have hhead := List.head?_dropWhile_not insideBraces t
          rw [hdrop] at hhead
          exact hhead
        have hclose : c = .ofChar '\x7d' := CodePoint.is_iff.1 (by simpa [insideBraces] using hc)
        refine ⟨.braced (fun hnil => hempty (List.isEmpty_iff.2 hnil))
          fun d hd => List.mem_takeWhile_imp hd, ?_⟩
        rw [← hclose, ← hdrop, List.takeWhile_append_dropWhile]
  · rintro ⟨⟨hne, hname⟩, rfl⟩
    have hclose : ∀ c ∈ (CodePoint.ofChar '\x7d' :: rest).head?, insideBraces c = false := by
      rintro _ ⟨⟩
      exact insideBraces_closeBrace
    have hempty : ¬ name.isEmpty = true := fun h => hne (List.isEmpty_iff.1 h)
    rw [braced?, Text.dropWhile_run hname hclose, Text.takeWhile_run hname hclose]
    dsimp only
    rw [if_neg hempty]

/-- A reference is read where one begins, and no other. -/
theorem reference?_eq_some_iff {t rest : Text} {token : Token} :
    reference? t = some (token, rest) ↔
      ∃ braced name, token = .reference braced name ∧ Refers t braced name rest := by
  constructor
  · intro h
    unfold reference? at h
    split at h
    case h_2 => cases h
    case h_1 c d after =>
      split at h
      case isTrue => cases h
      case isFalse hdollar =>
        have hc : c = .ofChar '$' := CodePoint.is_iff.1 (by simpa using hdollar)
        subst hc
        split at h
        case isTrue hbrace =>
          have hd : d = .ofChar '\x7b' := CodePoint.is_iff.1 hbrace
          subst hd
          obtain ⟨⟨name, rest'⟩, hread, ⟨⟩⟩ := Option.map_eq_some_iff.1 h
          obtain ⟨hname, rfl⟩ := braced?_eq_some_iff.1 hread
          exact ⟨true, name, rfl, hname, (source_braced name rest').symm, nofun⟩
        case isFalse =>
          split at h
          case isTrue hstart =>
            cases h
            refine ⟨false, _, rfl, .bare hstart fun e he => List.mem_takeWhile_imp he, ?_, ?_⟩
            · rw [source_bare, List.cons_append, List.takeWhile_append_dropWhile]
            · intro _ e he
              have hhead := List.head?_dropWhile_not continuesName after
              rw [Option.mem_def.1 he] at hhead
              exact hhead
          case isFalse => cases h
  · rintro ⟨braced, name, rfl, hname, rfl, hlongest⟩
    cases hname with
    | braced hne hname =>
      have hread : braced? (name ++ .ofChar '\x7d' :: rest) = some (name, rest) :=
        braced?_eq_some_iff.2 ⟨.braced hne hname, rfl⟩
      rw [source_braced, reference?, hread]
      rfl
    | @bare c more hstart hmore =>
      -- No name starts with a brace, so this is not read as the other form.
      have hbrace : c.is '\x7b' = false := by
        refine CodePoint.is_eq_false_iff.2 ?_
        rintro rfl
        rw [startsName_openBrace] at hstart
        cases hstart
      have hdollar : (!(CodePoint.ofChar '$').is '$') = false := rfl
      rw [source_bare, List.cons_append, reference?, hdollar, hbrace, hstart,
        Text.takeWhile_run hmore (hlongest rfl), Text.dropWhile_run hmore (hlongest rfl)]
      rfl

/-- No reference is found exactly where none begins. -/
theorem reference?_eq_none_iff {t : Text} :
    reference? t = none ↔ ∀ braced name rest, ¬ Refers t braced name rest := by
  rw [Option.eq_none_iff_forall_ne_some]
  constructor
  · intro h braced name rest hrefers
    exact h (.reference braced name, rest)
      (reference?_eq_some_iff.2 ⟨braced, name, rfl, hrefers⟩)
  · rintro h ⟨token, rest⟩ hread
    obtain ⟨braced, name, -, hrefers⟩ := reference?_eq_some_iff.1 hread
    exact h braced name rest hrefers

/-! ## The split of a text -/

/-- A reference in front of a text is its first token. -/
theorem tokens_of_some {t rest : Text} {token : Token} (h : reference? t = some (token, rest)) :
    tokens t = token :: tokens rest := by
  rw [tokens]
  split
  case h_1 token' rest' h' =>
    cases h.symm.trans h'
    rfl
  case h_2 h' => cases h.symm.trans h'

/-- Where no reference begins the first token is one code point. -/
theorem tokens_of_none {c : CodePoint} {rest : Text} (h : reference? (c :: rest) = none) :
    tokens (c :: rest) = .literal c :: tokens rest := by
  rw [tokens]
  split
  case h_1 h' => cases h.symm.trans h'
  case h_2 => rfl

/-- The tokens of a text are a way to split it. -/
theorem splits_tokens (t : Text) : Splits t (tokens t) := by
  fun_induction tokens t with
  | case1 t token rest h _ ih =>
    obtain ⟨braced, name, rfl, hrefers⟩ := reference?_eq_some_iff.1 h
    exact .reference hrefers ih
  | case2 => exact .nil
  | case3 c rest h ih => exact .literal (reference?_eq_none_iff.1 h) ih

/-- There is only one way to split a text. -/
theorem Splits.eq_tokens {t : Text} {ts : List Token} (h : Splits t ts) : ts = tokens t := by
  induction h with
  | nil => rw [tokens]; rfl
  | reference h _ ih =>
    rw [tokens_of_some (reference?_eq_some_iff.2 ⟨_, _, rfl, h⟩), ih]
  | literal h _ ih => rw [tokens_of_none (reference?_eq_none_iff.2 h), ih]

/-- A text mentions the names that its tokens refer to. -/
theorem mentions_iff {t name : Text} :
    Mentions t name ↔ ∃ token ∈ tokens t, token.name? = some name := by
  constructor
  · rintro ⟨ts, hsplits, htoken⟩
    exact hsplits.eq_tokens ▸ htoken
  · exact fun htoken => ⟨tokens t, splits_tokens t, htoken⟩

/-- Nothing of the text is lost in the split. -/
theorem Splits.source {t : Text} {ts : List Token} (h : Splits t ts) :
    ts.flatMap Token.source = t := by
  induction h with
  | nil => rfl
  | reference h _ ih => rw [List.flatMap_cons, ih, h.text]
  | literal _ _ ih => rw [List.flatMap_cons, ih]; rfl

/-! ## Replacing -/

variable (env : Environment)

/-- A known reference gives its value, and all else is what it was. -/
theorem Token.expand_eq (token : Token) :
    token.expand env = ((token.name?).bind env.get?).getD token.source := by
  cases token <;> rfl

/-- A code point that begins no reference stays. -/
theorem expandText_of_none {c : CodePoint} {rest : Text} (h : reference? (c :: rest) = none) :
    expandText env (c :: rest) = c :: expandText env rest := by
  rw [expandText, tokens_of_none h]
  rfl

/-- A code point that is no dollar sign stays. -/
theorem expandText_of_ne_dollar {c : CodePoint} (h : c ≠ .ofChar '$') (rest : Text) :
    expandText env (c :: rest) = c :: expandText env rest := by
  refine expandText_of_none env ?_
  have hc : c.is '$' = false := CodePoint.is_eq_false_iff.2 h
  cases rest with
  | nil => rfl
  | cons d rest => rw [reference?, hc]; rfl

/-- A dollar sign that neither a brace nor a name follows. -/
theorem expandText_stray {t : Text}
    (h : ∀ c ∈ t.head?, c ≠ .ofChar '\x7b' ∧ startsName c = false) :
    expandText env (.ofChar '$' :: t) = .ofChar '$' :: expandText env t := by
  refine expandText_of_none env ?_
  cases t with
  | nil => rfl
  | cons c t =>
    obtain ⟨hbrace, hstart⟩ := h c rfl
    have hc : c.is '\x7b' = false := CodePoint.is_eq_false_iff.2 hbrace
    have hdollar : (!(CodePoint.ofChar '$').is '$') = false := rfl
    rw [reference?, hdollar, hc, hstart]
    rfl

/-- An opening brace that is followed by no name in braces. -/
theorem expandText_openBrace {t : Text} (h : braced? t = none) :
    expandText env (.ofChar '$' :: .ofChar '\x7b' :: t)
      = .ofChar '$' :: .ofChar '\x7b' :: expandText env t := by
  have hnone : reference? (.ofChar '$' :: .ofChar '\x7b' :: t) = none := by
    rw [reference?, h]
    rfl
  rw [expandText_of_none env hnone, expandText_of_ne_dollar env (by decide)]

/-- Only the variables that are mentioned matter. -/
theorem expandText_congr {env env' : Environment} {t : Text}
    (h : ∀ name, Mentions t name → env.get? name = env'.get? name) :
    expandText env t = expandText env' t := by
  refine List.flatMap_congr fun token htoken => ?_
  rw [Token.expand_eq, Token.expand_eq]
  cases hname : token.name? with
  | none => rfl
  | some name =>
    have hmentions : Mentions t name := mentions_iff.2 ⟨token, htoken, hname⟩
    rw [Option.bind_some, Option.bind_some, h name hmentions]

/-- Without a known reference a text stays as it is. -/
theorem expandText_eq_self {t : Text} (h : ∀ name, Mentions t name → env.get? name = none) :
    expandText env t = t := by
  have hunknown : expandText env t = expandText [] t := expandText_congr h
  rw [hunknown]
  conv_rhs => rw [← (splits_tokens t).source]
  refine List.flatMap_congr fun token _ => ?_
  rw [Token.expand_eq]
  cases token <;> rfl

/-- The references of a text are replaced once, and nothing else is. -/
structure ReplacedOnce (t : Text) : Prop where
  /-- The text has one split. -/
  split : ∃! ts, Splits t ts
  /-- The result is that of its tokens: a known reference gives its value, all else what it was. -/
  result : ∀ ts, Splits t ts → t = ts.flatMap Token.source ∧
    expandText env t = ts.flatMap fun token => ((token.name?).bind env.get?).getD token.source
  /-- Of the environment only the variables count to which the text refers. -/
  dependence : ∀ env' : Environment,
    (∀ name, Mentions t name → env.get? name = env'.get? name) →
      expandText env t = expandText env' t
  /-- A dollar sign stays that is followed by neither a brace nor a name. -/
  stray : (∀ c ∈ t.head?, c ≠ CodePoint.ofChar '\x7b' ∧ startsName c = false) →
    expandText env (Text.ofString "$" ++ t) = Text.ofString "$" ++ expandText env t
  /-- Braces without a name stay. -/
  nameless : expandText env (Text.ofString "$\x7b\x7d" ++ t)
    = Text.ofString "$\x7b\x7d" ++ expandText env t
  /-- An opening brace stays that is never closed. -/
  unclosed : (∀ c ∈ t, c ≠ CodePoint.ofChar '\x7d') →
    expandText env (Text.ofString "$\x7b" ++ t) = Text.ofString "$\x7b" ++ expandText env t

/-- The references of a text are replaced once. -/
theorem replacedOnce (t : Text) : ReplacedOnce env t where
  split := ⟨tokens t, splits_tokens t, fun ts h => h.eq_tokens⟩
  result ts h := by
    refine ⟨h.source.symm, ?_⟩
    rw [h.eq_tokens, expandText]
    exact List.flatMap_congr fun token _ => token.expand_eq env
  dependence env' h := expandText_congr h
  stray h := expandText_stray env h
  nameless := by
    have hnone : braced? (.ofChar '\x7d' :: t) = none := rfl
    exact (expandText_openBrace env hnone).trans
      (congrArg _ (congrArg _ (expandText_of_ne_dollar env (by decide) t)))
  unclosed h := by
    refine expandText_openBrace env (Option.eq_none_iff_forall_ne_some.2 ?_)
    rintro ⟨name, rest⟩ hread
    obtain ⟨-, rfl⟩ := braced?_eq_some_iff.1 hread
    exact h _ (List.mem_append_right _ List.mem_cons_self) rfl

/-- A value that looks like a reference stays, and so do an unknown reference and empty braces. -/
example : expandText [("A", "$B"), ("B", "2")] "$A$\x7bB\x7d$C$\x7b\x7d"
    = "$B2$C$\x7b\x7d" := by
  decide +kernel

/-! ## Nested data -/

/-- What stands at a place before and after: a text is expanded, a list has as many items, a table
has the same keys in the same order, and anything else is the same. -/
inductive Replaced : Value → Value → Prop
  | text (t : Text) : Replaced (.text t) (.text (expandText env t))
  | list {items items' : List Value} (h : items'.length = items.length) :
    Replaced (.list items) (.list items')
  | table {entries entries' : Table} (h : entries'.keys = entries.keys) :
    Replaced (.table entries) (.table entries')
  | null : Replaced .null .null
  | bool (b : Bool) : Replaced (.bool b) (.bool b)
  | int (n : Int) : Replaced (.int n) (.int n)
  | float (x : Double) : Replaced (.float x) (.float x)
  | moment (m : Moment) : Replaced (.moment m) (.moment m)

/-- A value is expanded as what stands at its places is. -/
theorem replaced_expandValue (v : Value) : Replaced env v (expandValue env v) := by
  cases v with
  | text t => exact .text t
  | list items => exact .list (by rw [expandItems_eq_map, List.length_map])
  | table entries => exact .table (keys_expandEntries env entries)
  | null => exact .null
  | bool b => exact .bool b
  | int n => exact .int n
  | float x => exact .float x
  | moment m => exact .moment m

/-- The items of an expanded value are the expanded items. -/
theorem child?_expandValue (v : Value) (i : Nat) :
    (expandValue env v).child? i = (v.child? i).map (expandValue env) := by
  cases v with
  | list items => rw [expandValue, expandItems_eq_map]; exact List.getElem?_map
  | table entries =>
    rw [expandValue, expandEntries_eq_map]
    change ((entries.map fun e => (e.1, expandValue env e.2))[i]?).map Prod.snd
      = ((entries[i]?).map Prod.snd).map (expandValue env)
    rw [List.getElem?_map, Option.map_map, Option.map_map]
    rfl
  | _ => rfl

/-- What stands at a place of an expanded value is expanded. -/
theorem at?_expandValue (v : Value) (path : List Nat) :
    (expandValue env v).at? path = (v.at? path).map (expandValue env) := by
  induction path generalizing v with
  | nil => rfl
  | cons i path ih =>
    rw [Value.at?, Value.at?, child?_expandValue]
    cases v.child? i with
    | none => rfl
    | some w => exact ih w

/-- At every place there is something before exactly if there is after, and it was expanded. -/
theorem replaced_at? (v : Value) (path : List Nat) :
    Option.Rel (Replaced env) (v.at? path) ((expandValue env v).at? path) := by
  rw [at?_expandValue]
  cases v.at? path with
  | none => exact .none
  | some w => exact .some (replaced_expandValue env w)

/-- What stands in a value, place by place, is all that there is of it. -/
theorem eq_expandValue {v w : Value}
    (h : ∀ path, Option.Rel (Replaced env) (v.at? path) (w.at? path)) : w = expandValue env v := by
  induction v using Value.induction_on generalizing w with
  | h v ih =>
    have hroot : Replaced env v w := by
      cases h [] with
      | some hroot => exact hroot
    -- The children have the expanded texts at all their places, and are known by induction.
    have hchild : ∀ i, w.child? i = (v.child? i).map (expandValue env) := by
      intro i
      have hi : ∀ path, Option.Rel (Replaced env) ((v.child? i).bind fun u => u.at? path)
          ((w.child? i).bind fun u => u.at? path) := fun path => h (i :: path)
      cases hv : v.child? i with
      | none =>
        rw [hv] at hi
        cases hw : w.child? i with
        | none => rfl
        | some w' => rw [hw] at hi; cases hi []
      | some v' =>
        rw [hv] at hi
        cases hw : w.child? i with
        | none => rw [hw] at hi; cases hi []
        | some w' => rw [hw] at hi; rw [ih i v' hv hi, Option.map_some]
    cases hroot with
    | @list items items' =>
      refine congrArg Value.list (List.ext_getElem? fun i => ?_)
      exact (hchild i).trans (child?_expandValue env (.list items) i).symm
    | @table entries entries' hkeys =>
      -- A table is its keys and its values, and both are those of the expanded one.
      have hvalues : entries'.map Prod.snd = (expandEntries env entries).map Prod.snd := by
        refine List.ext_getElem? fun i => ?_
        have hi := child?_expandValue env (.table entries) i
        rw [List.getElem?_map, List.getElem?_map]
        exact (hchild i).trans hi.symm
      have hkeys' := hkeys.trans (keys_expandEntries env entries).symm
      exact congrArg Value.table
        ((List.zip_of_prod hkeys' hvalues).trans (List.zip_of_prod rfl rfl).symm)
    | _ => rfl

/-- Some text at some depth refers to the name. -/
def MentionedIn (v : Value) (name : Text) : Prop :=
  ∃ path t, v.at? path = some (.text t) ∧ Mentions t name

/-- Where expansion leaves a text as it is, nothing is put in its place. -/
theorem Replaced.of_unchanged {v : Value} (h : ∀ t, v = .text t → expandText env t = t) :
    Replaced env v v := by
  cases v with
  | text t =>
    have htext : Replaced env (.text t) (.text (expandText env t)) := .text t
    rwa [h t rfl] at htext
  | list items => exact .list rfl
  | table entries => exact .table rfl
  | null => exact .null
  | bool b => exact .bool b
  | int n => exact .int n
  | float x => exact .float x
  | moment m => exact .moment m

/-- Data that refers to nothing known stays as it is. -/
theorem expandValue_eq_self {v : Value}
    (h : ∀ name, MentionedIn v name → env.get? name = none) : expandValue env v = v := by
  refine (eq_expandValue env fun path => ?_).symm
  cases hv : v.at? path with
  | none => exact .none
  | some u =>
    refine .some (Replaced.of_unchanged env ?_)
    rintro t rfl
    exact expandText_eq_self env fun name hname => h name ⟨path, t, hv, hname⟩

/-- In nested data the references of every text are replaced, at any depth, and nothing else is. -/
structure ReplacedThroughout (data : Table) : Prop where
  /-- Each place of the data is one of the result, and what stands there is expanded. -/
  places : ∀ path, Option.Rel (Replaced env) ((Value.table data).at? path)
    ((Value.table (expandEntries env data)).at? path)
  /-- Nothing else has that at all places. -/
  determined : ∀ result : Table,
    (∀ path, Option.Rel (Replaced env) ((Value.table data).at? path)
      ((Value.table result).at? path)) → result = expandEntries env data
  /-- Data that refers to nothing known stays as it is. -/
  unreferenced : (∀ name, MentionedIn (.table data) name → env.get? name = none) →
    expandEntries env data = data

/-- The references in nested data are replaced throughout. -/
theorem replacedThroughout (data : Table) : ReplacedThroughout env data where
  places path := replaced_at? env (.table data) path
  determined _ h := Value.table.inj (eq_expandValue env h)
  unreferenced h := Value.table.inj (expandValue_eq_self env (v := .table data) h)

/-- Expansion replaces the references of known names in the one split of a text, and does so for all
texts of nested data and for nothing else. -/
theorem references_replaced_once (env : Environment) :
    (∀ t, ReplacedOnce env t) ∧ ∀ data, ReplacedThroughout env data :=
  ⟨replacedOnce env, replacedThroughout env⟩

end Expansion

end LiveLint
