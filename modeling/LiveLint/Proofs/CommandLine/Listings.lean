import LiveLint.CommandLine.Program

/-!
# Every parameter with help is listed once

Help lists the parameters that have any, each once (`Listing.every_parameter_listed_once`):
arguments as they were declared, and the others in the order of their keys, where parameters with
one key stay as they were declared. A key is what is left of a name (`Parameter.Primary`), and keys
are compared by their code points (`Text.Precedes`).

Sorting merges halves, and a merge keeps what is in order already; so the parameters with one key,
which are in order in any arrangement, come through as they are (`filter_mergeSort`).
-/

namespace LiveLint

namespace Text

/-- The first text is the beginning of the second, or has the lower code point where they differ
first. -/
def Precedes (a b : Text) : Prop :=
  a <+: b ∨ ∃ (common : Text) (c d : CodePoint) (a' b' : Text),
    a = common ++ c :: a' ∧ b = common ++ d :: b' ∧ c.val < d.val

/-- Texts are compared at the first place where they differ. -/
theorem le_cons_cons {c d : CodePoint} {a b : Text} :
    le (c :: a) (d :: b) = true ↔ c.val < d.val ∨ c = d ∧ le a b = true := by
  rw [le]
  split
  case isTrue hlt => exact iff_of_true rfl (.inl hlt)
  case isFalse hge =>
    split
    case isTrue hgt =>
      refine iff_of_false Bool.false_ne_true ?_
      rintro (hlt | ⟨rfl, -⟩)
      · exact hge hlt
      · exact hge hgt
    case isFalse hle =>
      have hcd : c = d := CodePoint.ext_val (by omega)
      exact ⟨fun h => .inr ⟨hcd, h⟩, fun h => (h.resolve_left hge).2⟩

/-- The comparison of the listing is the lexicographic order of code points. -/
theorem le_iff {a b : Text} : le a b = true ↔ Precedes a b := by
  induction a generalizing b with
  | nil => exact iff_of_true (by cases b <;> rfl) (.inl List.nil_prefix)
  | cons c a ih =>
    cases b with
    | nil =>
      refine iff_of_false Bool.false_ne_true ?_
      rintro (hbegins | ⟨common, c', d', a', b', -, hb, -⟩)
      · cases List.prefix_nil.1 hbegins
      · exact absurd hb.symm (List.append_ne_nil_of_right_ne_nil _ (List.cons_ne_nil _ _))
    | cons d b =>
      rw [le_cons_cons, ih]
      constructor
      · rintro (hlt | ⟨rfl, hbegins | ⟨common, c', d', a', b', rfl, rfl, hlt⟩⟩)
        · exact .inr ⟨[], c, d, a, b, rfl, rfl, hlt⟩
        · exact .inl (List.cons_prefix_cons.2 ⟨rfl, hbegins⟩)
        · exact .inr ⟨c :: common, c', d', a', b', rfl, rfl, hlt⟩
      · rintro (hbegins | ⟨common, c', d', a', b', ha, hb, hlt⟩)
        · obtain ⟨rfl, htail⟩ := List.cons_prefix_cons.1 hbegins
          exact .inr ⟨rfl, .inl htail⟩
        · cases common with
          | nil =>
            cases ha
            cases hb
            exact .inl hlt
          | cons e common =>
            cases ha
            cases hb
            exact .inr ⟨rfl, .inr ⟨common, c', d', a', b', rfl, rfl, hlt⟩⟩

/-- The order of texts is transitive. -/
theorem le_trans {a b c : Text} (hab : le a b = true) (hbc : le b c = true) : le a c = true := by
  induction a generalizing b c with
  | nil => cases c <;> rfl
  | cons x a ih =>
    cases b with
    | nil => cases hab
    | cons y b =>
      cases c with
      | nil => cases hbc
      | cons z c =>
        rw [le_cons_cons] at hab hbc ⊢
        rcases hab with hxy | ⟨rfl, hab⟩
        · rcases hbc with hyz | ⟨rfl, -⟩
          · exact .inl (Nat.lt_trans hxy hyz)
          · exact .inl hxy
        · exact hbc.imp_right fun h => ⟨h.1, ih hab h.2⟩

/-- Any two texts can be compared. -/
theorem le_total (a b : Text) : (le a b || le b a) = true := by
  rw [Bool.or_eq_true]
  induction a generalizing b with
  | nil => exact .inl (by cases b <;> rfl)
  | cons x a ih =>
    cases b with
    | nil => exact .inr rfl
    | cons y b =>
      rw [le_cons_cons, le_cons_cons]
      rcases Nat.lt_trichotomy x.val y.val with hlt | heq | hgt
      · exact .inl (.inl hlt)
      · have hxy := CodePoint.ext_val heq
        exact (ih b).imp (fun h => .inr ⟨hxy, h⟩) fun h => .inr ⟨hxy.symm, h⟩
      · exact .inr (.inl hgt)

/-- Every text comes before itself in the weak sense. -/
theorem le_refl (a : Text) : le a a = true := by
  simpa using le_total a a

/-- Starting with a text is having it as a prefix. -/
theorem startsWith_iff {p t : Text} : startsWith p t = true ↔ p <+: t := by
  have hsome : ∀ {rest}, dropPrefix? p t = some rest ↔ p ++ rest = t := by
    induction p generalizing t with
    | nil => exact ⟨fun h => (Option.some.inj h).symm, fun h => congrArg some h.symm⟩
    | cons x p ih =>
      intro rest
      cases t with
      | nil => exact iff_of_false nofun nofun
      | cons y t =>
        rw [dropPrefix?, List.cons_append, List.cons.injEq]
        split
        case isTrue hxy => rw [ih, and_iff_right hxy]
        case isFalse hxy => exact iff_of_false nofun fun h => hxy h.1
  rw [startsWith, Option.isSome_iff_exists]
  exact exists_congr fun _ => hsome

end Text

/-! ## Keys -/

namespace Parameter

/-- A dash. -/
def dash : CodePoint := .ofChar '-'

/-- The name that a parameter is known by. -/
inductive Primary (p : Parameter) : Text → Prop
  /-- The first name with two dashes. -/
  | long {before after : List Text} {name : Text}
      (hnames : p.names ++ p.unsetNames = before ++ name :: after) (hlong : [dash, dash] <+: name)
      (hbefore : ∀ n ∈ before, ¬ [dash, dash] <+: n) : Primary p name
  /-- The first name, where none has two dashes. -/
  | first {after : List Text} {name : Text} (hnames : p.names ++ p.unsetNames = name :: after)
      (hne : name ≠ []) (hshort : ∀ n ∈ p.names ++ p.unsetNames, ¬ [dash, dash] <+: n) :
      Primary p name
  /-- What the parameter is called, where it has no name or the first one is empty. -/
  | called (hnone : ∀ name ∈ (p.names ++ p.unsetNames).head?, name = [])
      (hshort : ∀ n ∈ p.names ++ p.unsetNames, ¬ [dash, dash] <+: n) :
      Primary p (p.name.getD [])

/-- The key is the name that the parameter is known by, without dashes in front and in small
letters. -/
def SortedBy (p : Parameter) (key : Text) : Prop :=
  ∃ dashes rest : Text, Primary p (dashes ++ rest) ∧ (∀ c ∈ dashes, c = dash) ∧
    rest.head? ≠ some dash ∧ key = rest.lower

/-- A long name is one with two dashes in front. -/
theorem isLong_iff {name : Text} : isLong name = true ↔ [dash, dash] <+: name := Text.startsWith_iff

/-- No long name is found exactly if no name has two dashes in front. -/
theorem find?_isLong_eq_none {names : List Text} :
    names.find? isLong = none ↔ ∀ n ∈ names, ¬ [dash, dash] <+: n := by
  simp only [List.find?_eq_none, isLong_iff]

/-- The name that a parameter is known by is there, and it is one. -/
theorem primary_iff {p : Parameter} {name : Text} : Primary p name ↔ name = p.primaryName := by
  unfold primaryName
  dsimp only
  constructor
  · rintro (⟨hnames, hlong, hbefore⟩ | ⟨hnames, hne, hshort⟩ | ⟨hnone, hshort⟩)
    -- The first long name, else the first name, else what it is called.
    · have hnone := find?_isLong_eq_none.2 hbefore
      rw [hnames, List.find?_append, hnone, Option.none_or,
        List.find?_cons_of_pos (isLong_iff.2 hlong)]
    · rw [find?_isLong_eq_none.2 hshort, hnames]
      obtain ⟨c, rest, rfl⟩ := List.exists_cons_of_ne_nil hne
      rfl
    · rw [find?_isLong_eq_none.2 hshort]
      cases hhead : (p.names ++ p.unsetNames).head? with
      | none => rfl
      | some name =>
        cases hnone name hhead
        rfl
  · rintro rfl
    split
    case h_1 name hfind =>
      obtain ⟨hlong, before, after, hnames, hbefore⟩ := List.find?_eq_some_iff_append.1 hfind
      refine .long hnames (isLong_iff.1 hlong) (find?_isLong_eq_none.1 ?_)
      exact List.find?_eq_none.2 fun n hn hlong => by simpa [hlong] using hbefore n hn
    case h_2 hfind =>
      have hshort := find?_isLong_eq_none.1 hfind
      split
      case h_1 c rest hhead =>
        obtain ⟨after, hnames⟩ := List.head?_eq_some_iff.1 hhead
        exact .first hnames (List.cons_ne_nil c rest) hshort
      case h_2 hhead =>
        refine .called (fun name hname => ?_) hshort
        cases name with
        | nil => rfl
        | cons c rest => exact absurd hname (hhead c rest)

/-- A parameter is sorted by one key only. -/
theorem sortedBy_iff {key : Text} (p : Parameter) : p.SortedBy key ↔ key = p.sortKey := by
  constructor
  · rintro ⟨dashes, rest, hprimary, hdashes, hrest, rfl⟩
    have htrim : Text.trimLeft (· = CodePoint.ofChar '-') p.primaryName = rest := by
      rw [← primary_iff.1 hprimary, Text.trimLeft,
        List.dropWhile_append_of_pos fun c hc => by exact decide_eq_true (hdashes c hc)]
      cases rest with
      | nil => rfl
      | cons c rest =>
        exact List.dropWhile_cons_of_neg fun hc => hrest (congrArg some (of_decide_eq_true hc))
    rw [sortKey, htrim]
  · rintro rfl
    refine ⟨p.primaryName.takeWhile (· = dash), p.primaryName.dropWhile (· = dash), ?_, ?_, ?_, rfl⟩
    · rw [List.takeWhile_append_dropWhile]
      exact primary_iff.2 rfl
    · exact fun c hc => of_decide_eq_true (List.all_eq_true.1 List.all_takeWhile c hc)
    · intro hhead
      have hnot := List.head?_dropWhile_not (fun c => decide (c = dash)) p.primaryName
      rw [hhead] at hnot
      exact absurd hnot (by decide)

end Parameter

namespace Listing

open Parameter

/-- The parameter is listed as an argument. -/
def isListedArgument (p : Parameter) : Bool := p.help.isSome && p.isArgument

/-- The parameter is listed as an option. -/
def isListedOption (p : Parameter) : Bool := p.help.isSome && !p.isArgument

/-- The rows of help, section by section. -/
def rows (l : Listing) : List (Text × Text) :=
  l.sections.flatMap fun s => s.2.filterMap Parameter.help

/-- A row as help writes it. -/
def rowText (row : Text × Text) : Text := Text.ofString "  " ++ row.1 ++ "  " ++ row.2 ++ "\n"

/-- A section as help writes it: its title, and the rows of its parameters below. -/
def sectionText (s : Text × List Parameter) : Text :=
  s.1 ++ ":\n" ++ (s.2.filterMap Parameter.help).flatMap rowText

/-- Help lists every parameter that has help once. -/
structure Listed (ps : List Parameter) : Prop where
  /-- The sections are what is written. -/
  written : Program.helpText (ofParameters ps) = (ofParameters ps).sections.flatMap sectionText
  /-- Every row that there is, and no row twice. -/
  rows_perm : (ofParameters ps).rows.Perm (ps.filterMap Parameter.help)
  /-- A section is there if it has a row. -/
  sections : ∀ title listed, (title, listed) ∈ (ofParameters ps).sections ↔ listed ≠ [] ∧
    (title = ("Arguments" : Text) ∧ listed = (ofParameters ps).arguments ∨
      title = ("Options" : Text) ∧ listed = (ofParameters ps).options)
  /-- Arguments come first, -/
  order : ((ofParameters ps).sections.map Prod.fst).Sublist ["Arguments", "Options"]
  /-- as they were declared. -/
  arguments : (ofParameters ps).arguments = ps.filter isListedArgument
  options : (ofParameters ps).options.Perm (ps.filter isListedOption)
  /-- Options are in the order of their keys, -/
  sorted : (ofParameters ps).options.Pairwise fun p q => Text.Precedes p.sortKey q.sortKey
  key : ∀ p ∈ ps, ∀ key, p.SortedBy key ↔ key = p.sortKey
  /-- and as they were declared where they have one key. -/
  ties : ∀ key, ((ofParameters ps).options.filter fun p => p.sortKey = key)
    = (ps.filter isListedOption).filter fun p => p.sortKey = key

/-- The help of a listing is that of its sections one after the other. -/
theorem helpText_eq (l : Listing) : Program.helpText l = l.sections.flatMap sectionText := by
  unfold Program.helpText
  congr 1
  funext s
  refine congrArg (s.1 ++ ":\n" ++ ·) ?_
  induction s.2 with
  | nil => rfl
  | cons p ps ih =>
    rw [List.flatMap_cons, ih, List.filterMap_cons]
    cases p.help <;> rfl

/-- The arguments are listed in the order in which they were declared. -/
theorem arguments_ofParameters (ps : List Parameter) :
    (ofParameters ps).arguments = ps.filter isListedArgument := by
  simp only [ofParameters, List.filter_filter]
  exact List.filter_congr fun p _ => Bool.and_comm _ _

/-- The options are sorted by their keys, and those with equal keys stay in order. -/
theorem options_ofParameters (ps : List Parameter) :
    (ofParameters ps).options
      = (ps.filter isListedOption).mergeSort fun p q => Text.le p.sortKey q.sortKey := by
  simp only [ofParameters, List.filter_filter]
  exact congrArg (List.mergeSort · _) (List.filter_congr fun p _ => Bool.and_comm _ _)

/-- Sorting leaves the parameters with one key as they are. -/
theorem filter_mergeSort (ps : List Parameter) (key : Text) :
    (ps.mergeSort fun p q => Text.le p.sortKey q.sortKey).filter (fun p => p.sortKey = key)
      = ps.filter fun p => p.sortKey = key := by
  have hpairwise : (ps.filter fun p => p.sortKey = key).Pairwise
      fun p q => Text.le p.sortKey q.sortKey = true := by
    refine List.pairwise_of_forall_mem_list fun p hp q hq => ?_
    rw [of_decide_eq_true (List.mem_filter.1 hp).2, of_decide_eq_true (List.mem_filter.1 hq).2]
    exact Text.le_refl key
  have hkept := List.sublist_mergeSort
    (fun p q r : Parameter => Text.le_trans (a := p.sortKey) (b := q.sortKey) (c := r.sortKey))
    (fun p q => Text.le_total p.sortKey q.sortKey) hpairwise List.filter_sublist
  have hsame := hkept.filter fun p => p.sortKey = key
  simp only [List.filter_filter, Bool.and_self] at hsame
  exact (hsame.eq_of_length ((List.mergeSort_perm ps _).filter _).length_eq.symm).symm

/-- A section without a row adds none. -/
theorem rows_eq (l : Listing) :
    l.rows = l.arguments.filterMap Parameter.help ++ l.options.filterMap Parameter.help := by
  obtain ⟨_ | ⟨a, as⟩, _ | ⟨o, os⟩⟩ := l
  · rfl
  · exact List.append_nil _
  · rfl
  · exact congrArg (_ ++ ·) (List.append_nil _)

/-- The rows are the helps of all parameters that have one, each once. -/
theorem rows_perm (ps : List Parameter) :
    (ofParameters ps).rows.Perm (ps.filterMap Parameter.help) := by
  have hshown : (ps.filter fun p => p.help.isSome).filterMap Parameter.help
      = ps.filterMap Parameter.help := by
    rw [List.filterMap_filter]
    congr 1
    funext p
    cases p.help <;> rfl
  rw [rows_eq, ← List.filterMap_append, ← hshown]
  have hparts := List.filter_append_perm (fun p : Parameter => p.isArgument)
    (ps.filter fun p => p.help.isSome)
  exact (((List.mergeSort_perm _ _).append_left _).trans hparts).filterMap Parameter.help

/-- A section is listed with its title exactly if it is not empty. -/
theorem mem_sections {l : Listing} {title : Text} {listed : List Parameter} :
    (title, listed) ∈ l.sections ↔ listed ≠ [] ∧
      (title = ("Arguments" : Text) ∧ listed = l.arguments ∨
        title = ("Options" : Text) ∧ listed = l.options) := by
  rw [sections, List.mem_filter, List.mem_cons, List.mem_singleton, Prod.mk.injEq, Prod.mk.injEq,
    and_comm, Bool.not_eq_true', List.isEmpty_eq_false_iff]

/-- Whatever the parameters of a command are, help lists each that has help once: arguments as they
were declared, then the others in the order of their keys, and as they were declared where they have
one key. -/
theorem every_parameter_listed_once (ps : List Parameter) : Listed ps where
  written := helpText_eq _
  rows_perm := rows_perm ps
  sections _ _ := mem_sections
  order := List.filter_sublist.map Prod.fst
  arguments := arguments_ofParameters ps
  options := options_ofParameters ps ▸ List.mergeSort_perm _ _
  sorted := by
    rw [options_ofParameters]
    refine (List.pairwise_mergeSort
      (fun p q r : Parameter => Text.le_trans (a := p.sortKey) (b := q.sortKey) (c := r.sortKey))
      (fun p q => Text.le_total p.sortKey q.sortKey) _).imp fun hle => Text.le_iff.1 hle
  key p _ _ := p.sortedBy_iff
  ties key := options_ofParameters ps ▸ filter_mergeSort _ key

end Listing

end LiveLint
