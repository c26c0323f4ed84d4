import LiveLint.Proofs.Layers.Precedence
import LiveLint.Proofs.Settings.Runnable

/-!
# How loading fails

The settings of a project are loaded, or the fault is one of the configuration, but for a source
that is spoilt (`Source.Spoilt`): its file is not in UTF-8, has an integer of too many digits in it,
or is nested deeper than the stack goes, or the table in it is too deep for its references to be
replaced. That fault escapes as it is (`Layers.loadProject_fails_as_configuration_unless_spoilt`). A
spoilt file of settings does so only where the project file before it could be loaded.
-/

namespace LiveLint

/-! ## Faults of one kind -/

/-- Whatever fault there is, it is of this kind. -/
def Raises (kind : Fault → Bool) {α : Type} (r : Except Fault α) : Prop :=
  ∀ f, r = .error f → kind f

section

variable {α β : Type} {kind : Fault → Bool}

/-- A result raises nothing. -/
theorem raises_ok (a : α) : Raises kind (.ok a) := nofun

/-- A fault of the kind is one of the kind. -/
theorem raises_error {f : Fault} (h : kind f) : Raises kind (.error f : Except Fault α) := by
  rintro _ ⟨⟩
  exact h

/-- A composition raises what its parts raise. -/
theorem Raises.bind {r : Except Fault α} (h : Raises kind r) {next : α → Except Fault β}
    (hnext : ∀ a, Raises kind (next a)) : Raises kind (r >>= next) := by
  cases r with
  | error f => exact raises_error (h f rfl)
  | ok a => exact hnext a

/-- Steps that raise one kind of fault raise it one after the other as well. -/
theorem raises_foldlM {ι : Type} {step : β → ι → Except Fault β}
    (h : ∀ b i, Raises kind (step b i)) (is : List ι) (b : β) : Raises kind (is.foldlM step b) := by
  induction is generalizing b with
  | nil => exact raises_ok b
  | cons i is ih =>
    rw [List.foldlM_cons]
    exact (h b i).bind fun b => ih b

/-- A fault of one kind is one of every wider kind. -/
theorem Raises.mono {r : Except Fault α} {kind' : Fault → Bool} (h : Raises kind r)
    (himp : ∀ f, kind f → kind' f) : Raises kind' r := fun f hf => himp f (h f hf)

/-- A fault of another kind than what follows raises comes from the first part. -/
theorem bind_eq_error_of_raises {r : Except Fault α} {next : α → Except Fault β}
    (hnext : ∀ a, Raises kind (next a)) {f : Fault} (hf : ¬kind f) :
    r >>= next = .error f ↔ r = .error f := by
  rw [bind_eq_error_iff]
  constructor
  · rintro (h | ⟨a, -, h⟩)
    · exact h
    · exact absurd (hnext a f h) hf
  · exact .inl

end

/-- Settings are made of a value, or the configuration is not valid. -/
theorem Settings.raises_ofValue (v : Value) : Raises Fault.isConfiguration (ofValue v) := by
  unfold ofValue
  split
  case h_1 t =>
    cases ofTable t with
    | ok settings => exact raises_ok settings
    | error problems => exact raises_error rfl
  case h_2 => exact raises_error rfl

/-- A project file has a section or none, or what it has is no table. -/
theorem Source.raises_section? (path : Path) (t : Table) :
    Raises Fault.isConfiguration (section? path t) := by
  unfold section?
  split
  · split
    · exact raises_ok _
    · exact raises_ok _
    · exact raises_error rfl
  · exact raises_ok _

/-! ## Spoilt sources -/

/-- A file cannot be read for a fault that no mistake in a document is told as. -/
inductive Garbled (stack : Stack) (tree : FileTree) (path : Path) : Fault → Prop
  | undecodable {content : Bytes} {e : Utf8.Error} (hfile : tree.file? path = .ok (some content))
    (htext : Utf8.decode content = .error e) : Garbled stack tree path (.undecodable e)
  | integer {content : Bytes} {text : Text} {digits : Nat}
    (hfile : tree.file? path = .ok (some content)) (htext : Utf8.decode content = .ok text)
    (hread : Toml.read stack.document text = .error (.integerTooLong digits)) :
    Garbled stack tree path (.numeral (.tooLong digits))
  | deep {content : Bytes} {text : Text} (hfile : tree.file? path = .ok (some content))
    (htext : Utf8.decode content = .ok text)
    (hread : Toml.read stack.document text = .error .tooDeep) :
    Garbled stack tree path .stackExhausted

/-- A source does not contribute for a fault that no mistake in a document is told as: its file is
garbled, or the table of settings in it goes deeper than the stack. -/
inductive Source.Spoilt (stack : Stack) (tree : FileTree) : Source → Fault → Prop
  | document {path : Path} {f : Fault} (h : Garbled stack tree path f) :
    Spoilt stack tree (.document path) f
  | projectFile {path : Path} {f : Fault} (h : Garbled stack tree path f) :
    Spoilt stack tree (.projectFile path) f
  | deepDocument {path : Path} {t : Table} (hread : readFile stack tree path = .ok t)
    (hdeep : stack.expansion < Expansion.levelsOfEntries t) :
    Spoilt stack tree (.document path) .stackExhausted
  | deepSection {path : Path} {t s : Table} (hread : readFile stack tree path = .ok t)
    (hsection : section? path t = .ok s) (hdeep : stack.expansion < Expansion.levelsOfEntries s) :
    Spoilt stack tree (.projectFile path) .stackExhausted

/-- The path can be followed, and a file at its end is opened. -/
structure FileTree.Opens (tree : FileTree) (path : Path) : Prop where
  short : tree.isTooLong path = false
  unlocked : ∃ content, tree.file? path = .ok content

section

variable {stack : Stack} {tree : FileTree} {path : Path} {f : Fault}

/-- The fault of a garbled file is none of the configuration. -/
theorem Garbled.not_isConfiguration (h : Garbled stack tree path f) : ¬f.isConfiguration := by
  cases h <;> exact Bool.false_ne_true

/-- The fault of a spoilt source is none of the configuration. -/
theorem Source.Spoilt.not_isConfiguration {s : Source} (h : s.Spoilt stack tree f) :
    ¬f.isConfiguration := by
  cases h with
  | document h | projectFile h => exact h.not_isConfiguration
  | deepDocument | deepSection => exact Bool.false_ne_true

/-- A file that is opened fails with a fault that is none of the configuration exactly if it is
garbled. -/
theorem Source.readFile_eq_error_iff (hopens : tree.Opens path) (hf : ¬f.isConfiguration) :
    readFile stack tree path = .error f ↔ Garbled stack tree path f := by
  obtain ⟨content, hcontent⟩ := hopens.unlocked
  rw [readFile, hopens.short, if_neg Bool.false_ne_true]
  constructor
  · intro h
    split at h
    -- The file is open to readers, so it is not one that the system keeps locked.
    · rename_i hlocked
      cases hcontent.symm.trans hlocked
    · cases h
    rename_i content hfile
    split at h
    · rename_i e htext
      cases h
      exact .undecodable hfile htext
    rename_i text htext
    split at h
    · cases h
    · cases h
      exact absurd rfl hf
    · rename_i digits hread
      cases h
      exact .integer hfile htext hread
    · rename_i hread
      cases h
      exact .deep hfile htext hread
  · intro h
    cases h with
    | undecodable hfile htext => rw [hfile]; dsimp only; rw [htext]
    | integer hfile htext hread | deep hfile htext hread =>
      rw [hfile]; dsimp only; rw [htext]; dsimp only; rw [hread]

/-- References are replaced unless the table goes deeper than the stack. -/
theorem Source.expand_eq_error_iff {env : Environment} {t : Table} :
    expand stack env t = .error f ↔
      stack.expansion < Expansion.levelsOfEntries t ∧ f = .stackExhausted := by
  unfold expand
  split
  case isTrue hdeep => simp [hdeep, eq_comm]
  case isFalse hflat => simp [hflat]

/-- A document fails with a fault that is none of the configuration exactly if it is spoilt. -/
theorem Source.load_document_eq_error_iff (hopens : tree.Opens path) (hf : ¬f.isConfiguration)
    (env : Environment) :
    (Source.document path).load stack tree env = .error f ↔
      (Source.document path).Spoilt stack tree f := by
  change readFile stack tree path >>= expand stack env = _ ↔ _
  rw [bind_eq_error_iff, readFile_eq_error_iff hopens hf]
  constructor
  · rintro (hgarbled | ⟨t, hread, hexpand⟩)
    · exact .document hgarbled
    · obtain ⟨hdeep, rfl⟩ := expand_eq_error_iff.1 hexpand
      exact .deepDocument hread hdeep
  · intro h
    cases h with
    | document hgarbled => exact .inl hgarbled
    | deepDocument hread hdeep => exact .inr ⟨_, hread, expand_eq_error_iff.2 ⟨hdeep, rfl⟩⟩

/-- A project file fails with a fault that is none of the configuration exactly if it is spoilt. -/
theorem Source.load_projectFile_eq_error_iff (hopens : tree.Opens path) (hf : ¬f.isConfiguration)
    (env : Environment) :
    (Source.projectFile path).load stack tree env = .error f ↔
      (Source.projectFile path).Spoilt stack tree f := by
  change readFile stack tree path >>= (fun t => section? path t >>= expand stack env) = _ ↔ _
  simp only [bind_eq_error_iff, readFile_eq_error_iff hopens hf]
  constructor
  · rintro (hgarbled | ⟨t, hread, hmistake | ⟨s, hsection, hexpand⟩⟩)
    · exact .projectFile hgarbled
    · exact absurd (raises_section? path t f hmistake) hf
    · obtain ⟨hdeep, rfl⟩ := expand_eq_error_iff.1 hexpand
      exact .deepSection hread hsection hdeep
  · intro h
    cases h with
    | projectFile hgarbled => exact .inl hgarbled
    | deepSection hread hsection hdeep =>
      exact .inr ⟨_, hread, .inr ⟨_, hsection, expand_eq_error_iff.2 ⟨hdeep, rfl⟩⟩⟩

end

namespace Layers

/-- The root and both files of the project can be looked up, and the files that exist be opened. -/
structure Readable (tree : FileTree) (root : Path) : Prop where
  resolved : ∃ r, resolve tree root = .ok r
  project : tree.Opens (projectFile root)
  settings : tree.Opens (settingsFile root)

/-- The fault of a spoilt source that is reached. -/
inductive Escapes (stack : Stack) (tree : FileTree) (env : Environment) (root : Path) : Fault → Prop
  | project {f : Fault} (h : (Source.projectFile (projectFile root)).Spoilt stack tree f) :
    Escapes stack tree env root f
  | settings {t : Table} {f : Fault}
    (hproject : (Source.projectFile (projectFile root)).load stack tree env = .ok t)
    (h : (Source.document (settingsFile root)).Spoilt stack tree f) :
    Escapes stack tree env root f

section

variable {stack : Stack} {tree : FileTree} {env : Environment} {root : Path} {f : Fault}

/-- The fault of a source that is reached is none of the configuration. -/
theorem Escapes.not_isConfiguration (h : Escapes stack tree env root f) : ¬f.isConfiguration := by
  cases h with
  | project h => exact h.not_isConfiguration
  | settings _ h => exact h.not_isConfiguration

/-- Merging the sources fails with such a fault exactly if a spoilt one is reached. -/
theorem merge_projectSources_eq_error_iff (h : Readable tree root) (hf : ¬f.isConfiguration) :
    merge stack tree env (projectSources root) = .error f ↔ Escapes stack tree env root f := by
  simp only [merge_eq_mergeOver, projectSources, mergeOver_cons, bind_eq_error_iff,
    Source.load_projectFile_eq_error_iff h.project hf,
    Source.load_document_eq_error_iff h.settings hf]
  constructor
  · rintro (hdefaults | ⟨_, -, hspoilt | ⟨own, hown, hspoilt | ⟨_, -, hrest⟩⟩⟩)
    · cases hdefaults
    · exact .project hspoilt
    · exact .settings hown hspoilt
    · cases hrest
  · intro hescapes
    refine .inr ⟨_, rfl, ?_⟩
    cases hescapes with
    | project hspoilt => exact .inl hspoilt
    | settings hown hspoilt => exact .inr ⟨_, hown, .inl hspoilt⟩

/-- Loading fails with such a fault exactly if merging does, as nothing else in it raises one. -/
theorem loadProject_eq_error_iff (h : Readable tree root) (hf : ¬f.isConfiguration)
    (overrides : Table) :
    loadProject stack tree env root overrides = .error f ↔ Escapes stack tree env root f := by
  obtain ⟨r, hr⟩ := h.resolved
  have hload : loadProject stack tree env root overrides = (do
      let t ← merge stack tree env (projectSources root)
      Settings.ofValue (.table (anchor r (Table.overlay t (given overrides))))) := by
    change (resolve tree root >>= fun r => _) = _
    rw [hr]
    rfl
  rw [hload, bind_eq_error_of_raises (fun _ => Settings.raises_ofValue _) hf]
  exact merge_projectSources_eq_error_iff h hf

/-- Settings that were loaded can be run with. -/
theorem runnable_of_loadProject {overrides : Table} {s : Settings}
    (h : loadProject stack tree env root overrides = .ok s) : s.Runnable := by
  obtain ⟨-, r, fragments, -, -, htable⟩ := load_eq_ok_iff.1 h
  exact Settings.runnable_of_ofTable htable

/-- Loading gives settings that can be run with, or a fault of the configuration, exactly if no
spoilt source is reached; the fault of one that is reached escapes as it is. -/
theorem loadProject_fails_as_configuration_unless_spoilt (stack : Stack) (h : Readable tree root)
    (env : Environment) (overrides : Table) :
    (((∃ s, loadProject stack tree env root overrides = .ok s ∧ s.Runnable) ∨
        ∃ f, loadProject stack tree env root overrides = .error f ∧ f.isConfiguration) ↔
      ¬∃ f, Escapes stack tree env root f) ∧
      ∀ f, Escapes stack tree env root f → loadProject stack tree env root overrides = .error f := by
  have hescapes (f : Fault) (hf : Escapes stack tree env root f) :
      loadProject stack tree env root overrides = .error f :=
    (loadProject_eq_error_iff h hf.not_isConfiguration overrides).2 hf
  refine ⟨⟨?_, fun hnone => ?_⟩, hescapes⟩
  · rintro (⟨s, hs, -⟩ | ⟨f, hf, hkind⟩) ⟨g, hg⟩
    · cases hs.symm.trans (hescapes g hg)
    · cases hf.symm.trans (hescapes g hg)
      exact hg.not_isConfiguration hkind
  · cases hload : loadProject stack tree env root overrides with
    | ok s => exact .inl ⟨s, rfl, runnable_of_loadProject hload⟩
    | error f =>
      by_cases hf : f.isConfiguration
      · exact .inr ⟨f, rfl, hf⟩
      · exact absurd ⟨f, (loadProject_eq_error_iff h hf overrides).1 hload⟩ hnone

end

/-- A project with a mistake in its project file, so that its garbled settings are not reached. -/
def mistakenTree : FileTree :=
  ⟨[([Text.ofString "pyproject.toml"], .file [0x3D]),
    ([Text.ofString ".sqlqa.toml"], .file [0xFF])], Path.ofText "/"⟩

/-- The mistake in the project file is told, and the garbled settings behind it are not. -/
theorem mistake_told_before_garbled_settings :
    (∃ f, Garbled .usual mistakenTree (settingsFile (Path.ofText ".")) f) ∧
      ((∃ s, loadProject .usual mistakenTree [] (Path.ofText ".") [] = .ok s ∧ s.Runnable) ∨
        ∃ f, loadProject .usual mistakenTree [] (Path.ofText ".") [] = .error f ∧
          f.isConfiguration) := by
  have hload : loadProject .usual mistakenTree [] (Path.ofText ".") []
      = .error (.unreadableConfig "pyproject.toml") := rfl
  have hreadable : Readable mistakenTree (Path.ofText ".") :=
    ⟨⟨_, rfl⟩, ⟨rfl, _, rfl⟩, ⟨rfl, _, rfl⟩⟩
  obtain ⟨hiff, hescapes⟩ :=
    loadProject_fails_as_configuration_unless_spoilt .usual hreadable [] []
  refine ⟨⟨_, .undecodable rfl rfl⟩, hiff.2 ?_⟩
  rintro ⟨f, hf⟩
  cases hload.symm.trans (hescapes f hf)
  exact hf.not_isConfiguration rfl

/-- A project whose settings are one byte that starts no character. -/
def strayTree : FileTree := ⟨[([Text.ofString ".sqlqa.toml"], .file [0xFF])], Path.ofText "/"⟩

/-- The byte that starts no character escapes as the fault of decoding. -/
theorem stray_byte_escapes :
    Readable strayTree (Path.ofText ".") ∧
      ¬((∃ s, loadProject .usual strayTree [] (Path.ofText ".") [] = .ok s ∧ s.Runnable) ∨
        ∃ f, loadProject .usual strayTree [] (Path.ofText ".") [] = .error f ∧
          f.isConfiguration) := by
  have hload : loadProject .usual strayTree [] (Path.ofText ".") []
      = .error (.undecodable ⟨0xFF, 0, 1, .invalidStart⟩) := rfl
  refine ⟨⟨⟨_, rfl⟩, ⟨rfl, _, rfl⟩, ⟨rfl, _, rfl⟩⟩, ?_⟩
  rintro (⟨s, hs, -⟩ | ⟨f, hf, hkind⟩)
  · cases hload.symm.trans hs
  · cases hload.symm.trans hf
    cases hkind

/-- A project whose settings are the number 1 under the key `b` of a table `a`. -/
def nestedTree : FileTree :=
  ⟨[([Text.ofString ".sqlqa.toml"], .file [0x61, 0x2E, 0x62, 0x3D, 0x31])], Path.ofText "/"⟩

-- The reader takes a table under a key with points at any depth, but its references are not
-- replaced.
example : loadProject ⟨0, 0, 6⟩ nestedTree [] (Path.ofText ".") [] = .error .stackExhausted := rfl

end Layers

end LiveLint
