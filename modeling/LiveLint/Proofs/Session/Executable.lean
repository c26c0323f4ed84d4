import LiveLint.Proofs.Layers.Paths
import LiveLint.Session.Basic
import LiveLint.Session.SearchPath

/-!
# Which program is run

The executable of a command is looked up once, in the current directory, and the process may be in
another one. The lookup finds an executable as `SearchPath.Finds` says, and what the arguments of a
process are is then settled (`SearchPath.executable_fixed_unless_relative`): the program that was
looked up is the one that is run, wherever the process is, exactly if the lookup does not wander
(`SearchPath.Wanders`). It wanders for a relative name with a slash in it and for a name that is
first held by a relative directory of the search path. Then the executable stays a relative path
(`SearchPath.relative_name_stays_relative`).
-/

namespace LiveLint

namespace Path

/-- A path is absolute if its text starts with a slash. -/
theorem isAbsolute_ofText_iff {t : Text} : (ofText t).isAbsolute = true ↔ t.head? = some slash := by
  have hroot : (ofText t).isAbsolute = true ↔ (t.takeWhile (· = slash)).length ≠ 0 := by
    unfold ofText isAbsolute rootOf
    dsimp only
    split <;> rename_i hlength <;> simp_all
  rw [hroot, ne_eq, List.length_eq_zero_iff]
  cases t with
  | nil => exact iff_of_false (not_not_intro rfl) nofun
  | cons c t =>
    rw [List.head?_cons, Option.some.injEq, List.takeWhile_cons]
    by_cases hc : c = slash <;> simp [hc]

/-- The text of an absolute path shows that it is one. -/
theorem isAbsolute_text {t : Text} (h : (ofText t).isAbsolute = true) :
    (ofText (ofText t).text).isAbsolute = true := by
  rwa [ofText_text (proper_ofText t)]

/-- A path is seen as the same from every directory exactly if it is absolute. -/
theorem forall_join_eq_iff {p : Path} (here : Path) :
    (∀ names, Path.join ⟨.absolute, names⟩ p = here.join p) ↔ p.isAbsolute = true := by
  cases hp : p.isAbsolute with
  | true =>
    refine iff_of_true (fun names => ?_) rfl
    simp only [join, hp, if_true]
  | false =>
    refine iff_of_false (fun hall => ?_) Bool.false_ne_true
    have hdeeper := congrArg (fun q => q.names.length) (hall ([] :: here.names))
    simp only [join, hp, Bool.false_eq_true, if_false, List.length_append, List.length_cons]
      at hdeeper
    omega

end Path

namespace SearchPath

variable {s : SearchPath} {name found entry : Text}

/-- The search finds `found` for the name. -/
inductive Finds (s : SearchPath) (name : Text) : Text → Prop
  /-- A name with a slash is a path. -/
  | path (hslash : Path.slash ∈ name) (hruns : s.runs name = true) : Finds s name name
  /-- Any other name is looked for in the search path, and the first directory that holds it
  counts. -/
  | entry {before after : List Text} {entry : Text} (hbare : Path.slash ∉ name)
      (hentries : s.entries = before ++ entry :: after)
      (hbefore : ∀ e ∈ before, s.runs (inEntry e name) = false)
      (hruns : s.runs (inEntry entry name) = true) : Finds s name (inEntry entry name)

/-- What is found for the name depends on the directory from which it is seen. -/
inductive Wanders (s : SearchPath) (name : Text) : Prop
  /-- The name is a relative path. -/
  | path (hslash : Path.slash ∈ name) (hrelative : name.head? ≠ some Path.slash)
  /-- The first directory that holds the name is a relative one. -/
  | entry {before after : List Text} {entry : Text} (hbare : Path.slash ∉ name)
      (hentries : s.entries = before ++ entry :: after)
      (hbefore : ∀ e ∈ before, s.runs (inEntry e name) = false)
      (hruns : s.runs (inEntry entry name) = true) (hrelative : entry.head? ≠ some Path.slash)

/-- What is found is what the search finds. -/
theorem find_eq_some_iff : s.find name = some found ↔ s.Finds name found := by
  unfold find
  split
  case isTrue hslash =>
    have hslash : Path.slash ∈ name := List.contains_iff_mem.1 hslash
    split
    case isTrue hruns =>
      constructor
      · rintro ⟨⟩
        exact .path hslash hruns
      · rintro (_ | ⟨hbare, -, -, -⟩)
        · rfl
        · exact absurd hslash hbare
    case isFalse hstuck =>
      refine iff_of_false nofun ?_
      rintro (⟨-, hruns⟩ | ⟨hbare, -, -, -⟩)
      · exact hstuck hruns
      · exact absurd hslash hbare
  case isFalse hbare =>
    have hbare : Path.slash ∉ name := fun h => hbare (List.contains_iff_mem.2 h)
    rw [List.find?_map, Option.map_eq_some_iff]
    constructor
    · rintro ⟨entry, hentry, rfl⟩
      obtain ⟨hruns, before, after, hentries, hbefore⟩ := List.find?_eq_some_iff_append.1 hentry
      refine .entry hbare hentries (fun e he => ?_) hruns
      exact Bool.eq_false_iff.2 fun hholds => by simpa [hholds] using hbefore e he
    · rintro (⟨hslash, -⟩ | ⟨-, hentries, hbefore, hruns⟩)
      · exact absurd hslash hbare
      · refine ⟨_, List.find?_eq_some_iff_append.2 ⟨hruns, _, _, hentries, fun e he => ?_⟩, rfl⟩
        rw [Function.comp_apply, hbefore e he]
        rfl

/-- The search finds one program for a name at most. -/
theorem Finds.unique {found' : Text} (h : s.Finds name found) (h' : s.Finds name found') :
    found = found' :=
  Option.some.inj ((find_eq_some_iff.2 h).symm.trans (find_eq_some_iff.2 h'))

/-- What is found can be run. -/
theorem Finds.runs (h : s.Finds name found) : s.runs found = true := by
  cases h with
  | path _ hruns => exact hruns
  | entry _ _ _ hruns => exact hruns

/-- A name in a directory is an absolute path if the directory is one. -/
theorem head_inEntry (hbare : Path.slash ∉ name) :
    (inEntry entry name).head? = some Path.slash ↔ entry.head? = some Path.slash := by
  unfold inEntry
  cases entry with
  | nil =>
    refine iff_of_false (fun h => ?_) nofun
    exact hbare (List.mem_of_mem_head? h)
  | cons c entry => split <;> rfl

/-- What is found is a relative path exactly if the lookup wanders; of absolute names it never
does. -/
theorem Finds.isAbsolute_iff (h : s.Finds name found) :
    (Path.ofText found).isAbsolute = true ↔ ¬ s.Wanders name := by
  rw [Path.isAbsolute_ofText_iff, ← not_iff_not, not_not]
  constructor
  · intro hrelative
    cases h with
    | path hslash hruns => exact .path hslash hrelative
    | entry hbare hentries hbefore hruns =>
      exact .entry hbare hentries hbefore hruns fun hhead =>
        hrelative ((head_inEntry hbare).2 hhead)
  · intro hwanders
    cases hwanders with
    | path hslash hrelative =>
      cases h with
      | path => exact hrelative
      | entry hbare => exact absurd hslash hbare
    | entry hbare hentries hbefore hruns hrelative =>
      rw [h.unique (.entry hbare hentries hbefore hruns)]
      exact fun hhead => hrelative ((head_inEntry hbare).1 hhead)

/-- An absolute path does not depend on any directory. -/
theorem not_wanders_of_isAbsolute (h : (Path.ofText name).isAbsolute = true) : ¬ s.Wanders name := by
  rw [Path.isAbsolute_ofText_iff] at h
  rintro (⟨-, hrelative⟩ | ⟨hbare, -, -, -, -⟩)
  · exact hrelative h
  · exact hbare (List.mem_of_mem_head? h)

/-- A process runs the same program wherever it is, and whatever its search path, exactly if the
program is an absolute path. -/
theorem forall_tried_eq_iff (here : Path) (program : Text) :
    (∀ (entries : List Text) (o : SessionOptions),
      tried entries (o.workplace here) program = [here.join (Path.ofText program)])
    ↔ (Path.ofText program).isAbsolute = true := by
  rw [← Path.forall_join_eq_iff here]
  unfold tried
  constructor
  · intro hall names
    by_cases hslash : program.contains Path.slash = true
    · have hthere := hall [] { directory := some ⟨.absolute, names⟩ }
      rw [if_pos hslash] at hthere
      exact List.singleton_inj.1 hthere
    · -- Without a slash the file is looked for in a search path, and there may be none.
      have hnone := hall [] {}
      rw [if_neg hslash] at hnone
      cases hnone
  · intro hall entries o
    have habsolute := (Path.forall_join_eq_iff here).1 hall
    have hslash : program.contains Path.slash = true := by
      rw [List.contains_iff_mem]
      exact List.mem_of_mem_head? (Path.isAbsolute_ofText_iff.1 habsolute)
    rw [if_pos hslash]
    simp only [Path.join, habsolute, if_true]

/-! ## The arguments of a process -/

variable {arguments rest : List Text} {program : Text} {here : Path}

/-- An absolute path is taken as it is. -/
theorem processArguments_of_isAbsolute (h : (Path.ofText name).isAbsolute = true) :
    processArguments s.find (name :: rest) = .ok ((Path.ofText name).text :: rest) := if_pos h

/-- Any other name is replaced by what is found for it. -/
theorem processArguments_of_find (h : (Path.ofText name).isAbsolute = false) :
    processArguments s.find (name :: rest) =
      match s.find name with
      | some found => .ok (found :: rest)
      | none => .error (.executableNotFound name) := if_neg (Bool.eq_false_iff.1 h)

/-- What a command with the executable `name` runs, when the program is looked up in the directory
`here`. -/
structure Runs (s : SearchPath) (here : Path) (name program : Text) : Prop where
  /-- An absolute path is taken as it is, and any other name is found. -/
  checked : name.head? = some Path.slash ∧ Path.ofText program = Path.ofText name ∨
    name.head? ≠ some Path.slash ∧ s.Finds name program ∧ s.runs program = true
  isAbsolute_iff : (Path.ofText program).isAbsolute = true ↔ ¬ s.Wanders name
  /-- The program is the one that was looked up, whatever the directory and the search path of the
  process are. -/
  fixed_iff : (∀ (entries : List Text) (o : SessionOptions),
      tried entries (o.workplace here) program = [here.join (Path.ofText program)])
    ↔ ¬ s.Wanders name

/-- There are three ends of settling the arguments of a process. -/
inductive Settles (s : SearchPath) (here : Path) : List Text → Except Fault (List Text) → Prop
  | nothing : Settles s here [] (.error .noArguments)
  | missing {name : Text} {rest : List Text} (hrelative : name.head? ≠ some Path.slash)
      (hmissing : ∀ found, ¬ s.Finds name found) :
      Settles s here (name :: rest) (.error (.executableNotFound name))
  | runs {name program : Text} {rest : List Text} (hruns : s.Runs here name program) :
      Settles s here (name :: rest) (.ok (program :: rest))

/-- A command with an absolute path runs the program at that path. -/
theorem runs_of_isAbsolute (h : (Path.ofText name).isAbsolute = true) :
    s.Runs here name (Path.ofText name).text := by
  have hsame : Path.ofText (Path.ofText name).text = Path.ofText name :=
    Path.ofText_text (Path.proper_ofText name)
  have habsolute := Path.isAbsolute_text h
  have hstays := s.not_wanders_of_isAbsolute h
  exact ⟨.inl ⟨Path.isAbsolute_ofText_iff.1 h, hsame⟩, iff_of_true habsolute hstays,
    (forall_tried_eq_iff here _).trans (iff_of_true habsolute hstays)⟩

/-- A command with another name runs what is found for it. -/
theorem Finds.leads (h : s.Finds name program) (hrelative : name.head? ≠ some Path.slash) :
    s.Runs here name program :=
  ⟨.inr ⟨hrelative, h, h.runs⟩, h.isAbsolute_iff,
    (forall_tried_eq_iff here program).trans h.isAbsolute_iff⟩

/-- The arguments of a process are settled in one of the three ways. -/
theorem settles (s : SearchPath) (here : Path) (arguments : List Text) :
    s.Settles here arguments (processArguments s.find arguments) := by
  cases arguments with
  | nil => exact .nothing
  | cons name rest =>
    cases h : (Path.ofText name).isAbsolute with
    | true =>
      rw [processArguments_of_isAbsolute h]
      exact .runs (runs_of_isAbsolute h)
    | false =>
      have hrelative : name.head? ≠ some Path.slash := by
        rw [ne_eq, ← Path.isAbsolute_ofText_iff, h]
        exact Bool.false_ne_true
      rw [processArguments_of_find h]
      cases hfind : s.find name with
      | none =>
        refine .missing hrelative fun found hfound => ?_
        cases hfind.symm.trans (find_eq_some_iff.2 hfound)
      | some found => exact .runs ((find_eq_some_iff.1 hfind).leads hrelative)

/-- A session that is started asks for a process with the settled arguments; where the process is to
be had no part in settling them. -/
theorem start_of_processArguments {κ : Type} {session : Session κ} (ticket : Nat)
    (environment : Environment) (hpending : session.status = .pending)
    (hargs : processArguments s.find session.command = .ok (program :: rest)) :
    (session.start ticket ⟨s.find, environment⟩).2 = [.spawn ticket (program :: rest)
      session.options.directory (session.options.childEnvironment environment)] := by
  have hcanceled : session.status ≠ .canceled := by rw [hpending]; nofun
  unfold Session.start
  rw [if_neg hcanceled, if_neg (not_not_intro hpending)]
  dsimp only
  rw [hargs]

/-- The executable of a command is settled when the command is looked up. -/
structure Settled (s : SearchPath) (here : Path) (arguments : List Text) : Prop where
  empty_iff : processArguments s.find arguments = .error .noArguments ↔ arguments = []
  notFound_iff : ∀ name, processArguments s.find arguments = .error (.executableNotFound name) ↔
    ∃ rest, arguments = name :: rest ∧ name.head? ≠ some Path.slash ∧ ∀ found, ¬ s.Finds name found
  /-- There are no other ends, and where there is a program it is the one that was looked up, unless
  the lookup wanders. -/
  settles : s.Settles here arguments (processArguments s.find arguments)
  /-- Sessions run the program so settled in their directory, whatever that is. -/
  asks : ∀ (κ : Type) (session : Session κ) (ticket : Nat) (environment : Environment)
    (program : Text) (rest : List Text), session.status = .pending → session.command = arguments →
    processArguments s.find arguments = .ok (program :: rest) →
    (session.start ticket ⟨s.find, environment⟩).2 = [.spawn ticket (program :: rest)
      session.options.directory (session.options.childEnvironment environment)]

/-- The executable of a process is settled when it is looked up, and it is the same program from
every directory exactly if the lookup does not wander. -/
theorem executable_fixed_unless_relative (s : SearchPath) (here : Path) (arguments : List Text) :
    s.Settled here arguments := by
  have hends := settles s here arguments
  constructor
  case empty_iff =>
    constructor
    · intro h
      rw [h] at hends
      cases hends
      rfl
    · rintro rfl
      rfl
  case notFound_iff =>
    intro name
    constructor
    · intro h
      rw [h] at hends
      cases hends with
      | missing hrelative hmissing => exact ⟨_, rfl, hrelative, hmissing⟩
    · rintro ⟨rest, rfl, hrelative, hmissing⟩
      have hfalse : (Path.ofText name).isAbsolute = false := by
        rw [Bool.eq_false_iff, ne_eq, Path.isAbsolute_ofText_iff]
        exact hrelative
      have hnone : s.find name = none :=
        Option.eq_none_iff_forall_not_mem.2 fun found hfound =>
          hmissing found (find_eq_some_iff.1 hfound)
      rw [processArguments_of_find hfalse, hnone]
  case settles => exact hends
  case asks =>
    rintro κ session ticket environment program rest hpending rfl hargs
    exact start_of_processArguments ticket environment hpending hargs

/-- A program in the current directory, which no search path names. -/
def inProject : SearchPath where
  entries := ["/usr/bin"]
  runs := (· == Text.ofString "./sqlfluff")

/-- The program is found in the directory of the project, and a process elsewhere runs another
file of the same name. -/
theorem relative_name_stays_relative :
    let here := Path.ofText "/project"
    let o : SessionOptions := { directory := some (Path.ofText "/elsewhere") }
    processArguments inProject.find ["./sqlfluff", "lint"] = .ok ["./sqlfluff", "lint"] ∧
      (Path.ofText "./sqlfluff").isAbsolute = false ∧ inProject.runs "./sqlfluff" = true ∧
      here.join (Path.ofText "./sqlfluff") = Path.ofText "/project/sqlfluff" ∧
      tried inProject.entries (o.workplace here) "./sqlfluff"
        = [Path.ofText "/elsewhere/sqlfluff"] := by
  intro here o
  exact ⟨rfl, by decide, by decide, by decide, by decide⟩

end SearchPath

end LiveLint
