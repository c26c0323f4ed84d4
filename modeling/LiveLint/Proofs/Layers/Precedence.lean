import LiveLint.Proofs.Layers.Merge
import LiveLint.Proofs.Layers.Paths

/-!
# Which layer counts

Loading lays the contributions of the sources over one another, and the overrides that are given on
top (`Layers.load_eq_ok_iff`). So for a field other than the directory and the variables the
settings are those of the last layer that has it; a variable is that of the last layer that has it,
among the layers since the last one without a table of variables; and a directory is seen from the
root (`Layers.Precedence`).
-/

namespace LiveLint

/-! ## Variables -/

namespace Environment

/-- The first variable of a name is the one that counts. -/
theorem get?_cons (k : Text) (e : Text × Text) (vs : Environment) :
    get? k (e :: vs) = if e.1 = k then some e.2 else get? k vs := by
  rw [get?, List.find?_cons]
  by_cases hk : e.1 = k
  · rw [if_pos hk, beq_iff_eq.2 hk]
    rfl
  · rw [if_neg hk, beq_eq_false_iff_ne.2 hk]
    rfl

/-- A table of variables has the texts of the variables. -/
theorem get?_map_text (k : Text) (vs : Environment) :
    Table.get? k (vs.map fun e => (e.1, .text e.2)) = (vs.get? k).map .text := by
  induction vs with
  | nil => rfl
  | cons e rest ih =>
    rw [List.map_cons, Table.get?, get?_cons, ih]
    by_cases hk : e.1 = k
    · rw [if_pos hk, if_pos hk, Option.map_some]
    · rw [if_neg hk, if_neg hk]

end Environment

/-- No field but that of the variables takes a table. -/
theorem Settings.Puts.not_isTable {f : Settings.Field} {v : Value} {put : Settings → Settings}
    (h : Settings.Puts f v put) (hf : f ≠ .environment) : v.isTable = false := by
  cases v with
  | table t => rcases h with h | h | h | h | h | h | h <;> first | cases h | exact absurd rfl hf
  | _ => rfl

namespace Layers

/-! ## What is loaded -/

/-- The tables of the sources, laid over a table. -/
def mergeOver (stack : Stack) (tree : FileTree) (env : Environment) (base : Table)
    (sources : List Source) : Except Fault Table :=
  sources.foldlM (fun t s => do return Table.overlay t (← s.load stack tree env)) base

section

variable {stack : Stack} {tree : FileTree} {env : Environment}

/-- Merging is laying the sources over an empty table. -/
theorem merge_eq_mergeOver (sources : List Source) :
    merge stack tree env sources = mergeOver stack tree env [] sources := rfl

/-- The first source is laid over the table, and the others over that. -/
theorem mergeOver_cons (base : Table) (s : Source) (sources : List Source) :
    mergeOver stack tree env base (s :: sources)
      = s.load stack tree env >>= fun t =>
        mergeOver stack tree env (Table.overlay base t) sources := by
  rw [mergeOver, List.foldlM_cons]
  cases s.load stack tree env <;> rfl

/-- Sources can be laid over a table exactly if each of them contributes. -/
theorem mergeOver_eq_ok_iff {base t : Table} {sources : List Source} :
    mergeOver stack tree env base sources = .ok t ↔
      ∃ fragments, List.Forall₂ (fun s f => s.load stack tree env = .ok f) sources fragments ∧
        fragments.foldl Table.overlay base = t := by
  induction sources generalizing base with
  | nil =>
    constructor
    · intro h
      exact ⟨[], .nil, Except.ok.inj h⟩
    · rintro ⟨_, ⟨⟩, rfl⟩
      rfl
  | cons s sources ih =>
    rw [mergeOver_cons, bind_eq_ok_iff]
    constructor
    · rintro ⟨f, hf, hrest⟩
      obtain ⟨fragments, hfragments, hpile⟩ := ih.1 hrest
      exact ⟨f :: fragments, .cons hf hfragments, hpile⟩
    · rintro ⟨_, hall, hpile⟩
      cases hall with
      | cons hf hfragments => exact ⟨_, hf, ih.2 ⟨_, hfragments, hpile⟩⟩

/-- Sources are merged to the pile of what they contribute. -/
theorem merge_eq_ok_iff {sources : List Source} {t : Table} :
    merge stack tree env sources = .ok t ↔
      ∃ fragments, List.Forall₂ (fun s f => s.load stack tree env = .ok f) sources fragments ∧
        pile fragments = t := mergeOver_eq_ok_iff

end

/-- Settings are loaded when there are sources, all of them and the root are found, and what lies
on top of one another is accepted. -/
theorem load_eq_ok_iff {stack : Stack} {tree : FileTree} {env : Environment} {root : Path}
    {sources : List Source} {overrides : Table} {c : Settings} :
    load stack tree env root sources overrides = .ok c ↔
      sources ≠ [] ∧ ∃ r fragments, resolve tree root = .ok r ∧
        List.Forall₂ (fun s f => s.load stack tree env = .ok f) sources fragments ∧
          Settings.ofTable (anchor r (pile (fragments ++ [given overrides]))) = .ok c := by
  cases hsources : sources with
  | nil => exact ⟨nofun, fun h => absurd rfl h.1⟩
  | cons s rest =>
    rw [← hsources]
    have hload : load stack tree env root sources overrides = (do
        let r ← resolve tree root
        let t ← merge stack tree env sources
        Settings.ofValue (.table (anchor r (Table.overlay t (given overrides))))) := by
      rw [hsources]
      rfl
    rw [hload, bind_eq_ok_iff]
    constructor
    · rintro ⟨r, hr, hrest⟩
      obtain ⟨t, ht, hvalue⟩ := bind_eq_ok_iff.1 hrest
      obtain ⟨fragments, hfragments, rfl⟩ := merge_eq_ok_iff.1 ht
      refine ⟨hsources ▸ List.cons_ne_nil s rest, r, fragments, hr, hfragments, ?_⟩
      rw [pile_concat]
      exact Settings.ofValue_table_eq_ok_iff.1 hvalue
    · rintro ⟨-, r, fragments, hr, hfragments, htable⟩
      rw [pile_concat] at htable
      refine ⟨r, hr, bind_eq_ok_iff.2 ⟨_, merge_eq_ok_iff.2 ⟨fragments, hfragments, rfl⟩, ?_⟩⟩
      exact Settings.ofValue_table_eq_ok_iff.2 htable

/-! ## The directory -/

open Settings (Field)

/-- A text that names a directory, seen from a root. -/
def seenFrom (r : Path) (d : Text) : Path :=
  if (Path.ofText d).isAbsolute then Path.ofText d else r.join (Path.ofText d)

/-- A directory that is seen from an absolute root is absolute. -/
theorem isAbsolute_seenFrom {r : Path} (hr : r.isAbsolute) (d : Text) :
    (seenFrom r d).isAbsolute := by
  unfold seenFrom
  split
  · assumption
  · rename_i hd
    rw [Path.join, if_neg hd]
    exact hr

/-- Only the directory is seen from the root. -/
theorem get?_anchor_of_ne {key : Text} (hkey : key ≠ Field.directory.key) (r : Path) (t : Table) :
    Table.get? key (anchor r t) = Table.get? key t := by
  unfold anchor
  dsimp only
  split
  · split
    · rfl
    · rw [Table.get?_insert, if_neg hkey.symm]
  · rfl

/-- A directory is replaced by a text of what it is, seen from the root. -/
theorem get?_anchor_text {r : Path} (hr : r.Proper) {t : Table} {d : Text}
    (hd : Table.get? Field.directory.key t = some (.text d)) :
    ∃ d', Table.get? Field.directory.key (anchor r t) = some (.text d') ∧
      Path.ofText d' = seenFrom r d := by
  unfold anchor seenFrom
  dsimp only
  rw [hd]
  dsimp only
  split
  · exact ⟨d, hd, rfl⟩
  · refine ⟨_, (Table.get?_insert _ _ _ t).trans (if_pos rfl), ?_⟩
    exact Path.ofText_text (hr.join (Path.proper_ofText d))

/-- A directory that is no text is not seen from anywhere. -/
theorem anchor_of_not_text {r : Path} {t : Table}
    (h : ∀ d, Table.get? Field.directory.key t ≠ some (.text d)) : anchor r t = t := by
  unfold anchor
  dsimp only
  split
  · rename_i d hd
    exact absurd hd (h d)
  · rfl

/-! ## The layers that count -/

/-- What the last layer that has the key has there. -/
def last? (key : Text) (layers : List Table) : Option Value := (valuesAt key layers).getLast?

/-- What the last layer that has the variable has for it, among those since the last one that has
something else than a table of variables. -/
def lastVariable? (name : Text) (layers : List Table) : Option Value :=
  let key := Field.environment.key
  ((since key layers).filterMap fun t => (Table.get? key t).bind (Value.field? name)).getLast?

/-- A value gives a directory: none, or what is made of its text. -/
inductive Directs (place : Text → Path) : Option Value → Option Path → Prop
  | absent : Directs place none none
  | null : Directs place (some .null) none
  | text (d : Text) : Directs place (some (.text d)) (some (place d))

/-- A text gives the directory that is made of it. -/
theorem directs_text_iff {place : Text → Path} {d : Text} {p : Option Path} :
    Directs place (some (.text d)) p ↔ p = some (place d) := by
  constructor
  · rintro ⟨⟩
    rfl
  · rintro rfl
    exact .text d

/-- Without a text it does not matter what is made of texts. -/
theorem Directs.of_not_text {place place' : Text → Path} {v? : Option Value} {p : Option Path}
    (h : Directs place v? p) (hv : ∀ d, v? ≠ some (.text d)) : Directs place' v? p := by
  cases h with
  | absent => exact .absent
  | null => exact .null
  | text d => exact absurd rfl (hv d)

/-- The directory is absolute if every text gives an absolute one. -/
theorem Directs.isAbsolute {place : Text → Path} (hplace : ∀ d, (place d).isAbsolute)
    {v? : Option Value} {p : Option Path} (h : Directs place v? p) : ∀ q ∈ p, q.isAbsolute := by
  cases h with
  | absent | null => exact nofun
  | text d =>
    intro q hq
    exact Option.some.inj hq ▸ hplace d

/-- The settings that layers amount to, with the root `r`. -/
structure Precedence (r : Path) (layers : List Table) (c : Settings) : Prop where
  field (f : Field) (hdirectory : f ≠ .directory) (henvironment : f ≠ .environment) :
    f.Reads {} (last? f.key layers) c
  directory : Directs (seenFrom r) (last? Field.directory.key layers) c.directory
  environment (name : Text) : (c.environment.get? name).map .text = lastVariable? name layers

/-! ### What the fields read -/

/-- What a field reads from layers is what the last one has, unless it is a table. -/
theorem getLast?_of_reads {f : Field} (hf : f ≠ .environment) {vs : List Value} {s c : Settings}
    (h : f.Reads s (pileValues vs) c) : pileValues vs = vs.getLast? := by
  refine pileValues_eq_getLast? fun v hv => ?_
  rw [hv] at h
  obtain ⟨put, hput, -⟩ := h
  exact hput.not_isTable hf

/-- The directory of the settings is the one that the value gives. -/
theorem directs_of_reads {v? : Option Value} {c : Settings} (h : Field.directory.Reads {} v? c) :
    Directs Path.ofText v? c.directory := by
  rcases v? with _ | v
  · have hc : c.directory = none := h
    exact hc ▸ .absent
  · obtain ⟨put, hput, hsame⟩ := h
    cases hput with
    | directory ha =>
      have hc : c.directory = _ := hsame
      rw [hc]
      cases v with
      | null =>
        cases ha
        exact .null
      | text d =>
        cases ha
        exact .text d
      | _ => cases ha

/-- The variables of the settings are those that the value holds. -/
theorem field?_of_reads {v? : Option Value} {c : Settings} (h : Field.environment.Reads {} v? c)
    (name : Text) : v?.bind (Value.field? name) = (c.environment.get? name).map .text := by
  rcases v? with _ | v
  · have hc : c.environment = [] := h
    rw [hc]
    rfl
  · obtain ⟨put, hput, hsame⟩ := h
    cases hput with
    | environment ha =>
      have hc : c.environment = _ := hsame
      rw [Settings.checkEnvironment_eq_ok_iff.1 ha, hc]
      exact Environment.get?_map_text name _

section

variable {layers : List Table} (hlayers : ∀ t ∈ layers, t.Distinct)

include hlayers

/-- What a pile has under a key depends on what the layers have there. -/
theorem get?_pile_of_distinct (key : Text) :
    Table.get? key (pile layers) = pileValues (valuesAt key layers) :=
  get?_pile (fun t ht => (hlayers t ht).nodup) key

/-- The directory of the settings is that of the last layer, seen from the root. -/
theorem directs_of_reads_anchor {r : Path} (hr : r.Proper) {c : Settings}
    (h : Field.directory.Reads {} (Table.get? Field.directory.key (anchor r (pile layers))) c) :
    Directs (seenFrom r) (last? Field.directory.key layers) c.directory := by
  have hget := get?_pile_of_distinct hlayers Field.directory.key
  by_cases htext : ∃ d, Table.get? Field.directory.key (pile layers) = some (.text d)
  · obtain ⟨d, hd⟩ := htext
    obtain ⟨d', hd', hseen⟩ := get?_anchor_text hr hd
    have hlast : last? Field.directory.key layers = some (.text d) := by
      rw [hget] at hd
      refine (pileValues_eq_getLast? fun v hv => ?_).symm.trans hd
      cases hv.symm.trans hd
      rfl
    rw [hd'] at h
    rw [hlast, directs_text_iff, ← hseen]
    exact directs_text_iff.1 (directs_of_reads h)
  · rw [not_exists] at htext
    rw [anchor_of_not_text htext, hget] at h
    rw [hget] at htext
    have hlast : last? Field.directory.key layers = _ := (getLast?_of_reads (by decide) h).symm
    rw [hlast]
    exact (directs_of_reads h).of_not_text htext

/-- A variable of the settings is that of the last layer that has it. -/
theorem lastVariable?_of_reads {c : Settings}
    (h : Field.environment.Reads {} (Table.get? Field.environment.key (pile layers)) c)
    (name : Text) : (c.environment.get? name).map .text = lastVariable? name layers := by
  have hpile := field?_pile hlayers Field.environment.key name
  rw [field?_of_reads h] at hpile
  refine hpile.trans (pileValues_eq_getLast? fun v hv => ?_)
  rw [← hpile] at hv
  obtain ⟨t, -, rfl⟩ := Option.map_eq_some_iff.1 hv
  rfl

/-- Settings that are read from a pile of layers are those that the layers amount to. -/
theorem precedence_of_ofTable {r : Path} (hr : r.Proper) {c : Settings}
    (h : Settings.ofTable (anchor r (pile layers)) = .ok c) : Precedence r layers c := by
  have hreads := (Settings.ofTable_eq_ok_iff.1 h).2
  have hfield (f : Field) (hf : f ≠ .directory) :
      f.Reads {} (Table.get? f.key (pile layers)) c := by
    rw [← get?_anchor_of_ne (Settings.Field.key_injective.ne hf) r]
    exact hreads f
  refine ⟨fun f hdirectory henvironment => ?_, directs_of_reads_anchor hlayers hr (hreads .directory),
    lastVariable?_of_reads hlayers (hfield .environment (by decide))⟩
  have hread := hfield f hdirectory
  rw [get?_pile_of_distinct hlayers] at hread
  rwa [getLast?_of_reads henvironment hread] at hread

end

/-! ## Overrides -/

/-- An override that is null counts as absent. -/
theorem get?_given {overrides : Table} (h : overrides.keys.Nodup) (k : Text) :
    Table.get? k (given overrides)
      = match Table.get? k overrides with
        | some .null => none
        | v? => v? := by
  induction overrides with
  | nil => rfl
  | cons entry rest ih =>
    obtain ⟨k', v⟩ := entry
    obtain ⟨hk', hrest⟩ := List.nodup_cons.1 h
    specialize ih hrest
    by_cases hk : k' = k
    · have hnone : Table.get? k rest = none := Table.get?_eq_none_iff.2 (hk ▸ hk')
      rw [hnone] at ih
      rw [Table.get?, if_pos hk]
      cases v with
      | null => exact ih
      | _ => exact if_pos hk
    · rw [Table.get?, if_neg hk, ← ih]
      cases v with
      | null => rfl
      | _ => exact if_neg hk

/-- An override that is null leaves the layers as they are. -/
theorem valuesAt_given {overrides : Table} (h : overrides.keys.Nodup) {k : Text}
    (hk : Table.get? k overrides = some .null) (fragments : List Table) :
    valuesAt k (fragments ++ [given overrides]) = valuesAt k fragments := by
  have hnone : Table.get? k (given overrides) = none := by rw [get?_given h, hk]
  rw [valuesAt, List.filterMap_append, List.filterMap_cons_none hnone, List.filterMap_nil,
    List.append_nil]
  rfl

/-! ## Loading -/

/-- The paths are as they are read, and tables hold each key once. -/
structure WellFormed (tree : FileTree) (root : Path) (sources : List Source) (overrides : Table) :
    Prop where
  root : root.Proper
  here : tree.here.Proper
  sources : ∀ s ∈ sources, s.Distinct
  overrides : overrides.Distinct

/-- What distinct sources contribute is distinct. -/
theorem distinct_fragments {stack : Stack} {tree : FileTree} {env : Environment}
    {sources : List Source} {fragments : List Table} (hsources : ∀ s ∈ sources, s.Distinct)
    (h : List.Forall₂ (fun s f => s.load stack tree env = .ok f) sources fragments) :
    ∀ t ∈ fragments, t.Distinct := by
  induction h with
  | nil => exact fun _ ht => absurd ht List.not_mem_nil
  | cons hload _ ih =>
    rw [List.forall_mem_cons] at hsources ⊢
    exact ⟨Source.distinct_load hsources.1 stack tree env _ hload, ih hsources.2⟩

/-- Settings that are loaded are those of the last layers, with overrides that are not null on top
of the contributions of the sources. The directory, if there is one, is absolute. -/
theorem loaded_by_precedence {stack : Stack} {tree : FileTree} {env : Environment} {root : Path}
    {sources : List Source} {overrides : Table} {c : Settings}
    (hwell : WellFormed tree root sources overrides)
    (h : load stack tree env root sources overrides = .ok c) :
    ∃ r fragments, resolve tree root = .ok r ∧
      List.Forall₂ (fun s f => s.load stack tree env = .ok f) sources fragments ∧
        Precedence r (fragments ++ [given overrides]) c ∧
          (∀ p ∈ c.directory, p.isAbsolute) ∧
            ∀ k, Table.get? k overrides = some .null →
              valuesAt k (fragments ++ [given overrides]) = valuesAt k fragments := by
  obtain ⟨-, r, fragments, hr, hfragments, htable⟩ := load_eq_ok_iff.1 h
  have hresolved : r = Path.resolve tree.here root := by
    unfold resolve at hr
    split at hr
    · cases hr
    · exact (Except.ok.inj hr).symm
  have hproper : r.Proper := hresolved ▸ hwell.here.resolve hwell.root
  have habsolute : r.isAbsolute := hresolved ▸ rfl
  have hdistinct : ∀ t ∈ fragments ++ [given overrides], t.Distinct := by
    rw [List.forall_mem_append, List.forall_mem_singleton]
    exact ⟨distinct_fragments hwell.sources hfragments,
      hwell.overrides.sublist List.filter_sublist⟩
  have hprecedence := precedence_of_ofTable hdistinct hproper htable
  exact ⟨r, fragments, hr, hfragments, hprecedence,
    hprecedence.directory.isAbsolute (isAbsolute_seenFrom habsolute),
    fun k hk => valuesAt_given hwell.overrides.nodup hk fragments⟩

/-- The settings of a team, and of one member who sees only to a variable and the directory. -/
def layeredSources : List Source :=
  [.defaults,
   .fixed "team" [("dialect", .text "hive"), ("cwd", .text "/srv"),
    ("env", .table [("A", .text "1"), ("B", .text "2")])],
   .fixed "own" [("env", .table [("B", .text "3")]), ("cwd", .text "sql")]]

/-- The caller asks for an executable, and for no dialect of its own. -/
def layeredOverrides : Table := [("dialect", .null), ("executable", .text " fluff ")]

def layeredSettings : Settings :=
  { executable := "fluff"
    dialect := .hive
    directory := some (Path.ofText "/w/sql")
    environment := [("A", "1"), ("B", "3")] }

/-- The sources of the team and of the member hold each key once. -/
theorem distinct_layeredSources : ∀ s ∈ layeredSources, s.Distinct := by
  have htexts {t : Table} (hkeys : t.keys.Nodup) (h : ∀ e ∈ t, ∃ a, e.2 = .text a) :
      t.Distinct := by
    refine .table hkeys fun e he => ?_
    obtain ⟨a, ha⟩ := h e he
    exact ha ▸ .text a
  simp only [layeredSources, List.forall_mem_cons]
  refine ⟨trivial, .table (by decide) ?_, .table (by decide) ?_, nofun⟩
  · simp only [List.forall_mem_cons]
    refine ⟨.text _, .text _, htexts (by decide) ?_, nofun⟩
    simp
  · simp only [List.forall_mem_cons]
    refine ⟨htexts (by decide) ?_, .text _, nofun⟩
    simp

/-- Overrides come before the member, and the member before the team. -/
theorem layered_settings_loaded :
    let tree : FileTree := ⟨[], Path.ofText "/w"⟩
    load .usual tree [] (Path.ofText ".") layeredSources layeredOverrides = .ok layeredSettings ∧
      ∃ r fragments, resolve tree (Path.ofText ".") = .ok r ∧
        Precedence r (fragments ++ [given layeredOverrides]) layeredSettings ∧
          valuesAt Field.dialect.key (fragments ++ [given layeredOverrides])
            = valuesAt Field.dialect.key fragments := by
  intro tree
  have hload : load .usual tree [] (Path.ofText ".") layeredSources layeredOverrides
      = .ok layeredSettings := rfl
  have hoverrides : layeredOverrides.Distinct := by
    refine .table (by decide) ?_
    simp only [layeredOverrides, List.forall_mem_cons]
    exact ⟨.null, .text _, nofun⟩
  have hwell : WellFormed tree (Path.ofText ".") layeredSources layeredOverrides :=
    ⟨Path.proper_ofText ".", Path.proper_ofText "/w", distinct_layeredSources, hoverrides⟩
  obtain ⟨r, fragments, hr, -, hprecedence, -, hnull⟩ := loaded_by_precedence hwell hload
  exact ⟨hload, r, fragments, hr, hprecedence, hnull _ rfl⟩

end Layers

end LiveLint
