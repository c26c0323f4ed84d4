import LiveLint.CommandLine.Check
import LiveLint.Proofs.Layers.Failures

/-!
# What cannot be read

The faults with which a command fails to find out how wide its console is, what its configuration
and what its document is. Those of the configuration itself are told as such; the others are those
of text that is not in UTF-8, of numbers with too many digits, of tables that go deeper than the
stack, of files that the system does not open, and of paths that lead nowhere (`Fault.isOfReading`).
-/

namespace LiveLint

/-- The fault of something that cannot be found or read. -/
def Fault.isOfReading : Fault → Bool
  | .undecodable _ | .numeral _ | .stackExhausted => true
  | .unopened _ | .nameTooLong _ | .nullInPath | .unencodable _ | .unknownHome => true
  | _ => false

/-- The fault of a configuration, or of something else that cannot be found or read. -/
def Fault.isOfLoading (f : Fault) : Bool := f.isConfiguration || f.isOfReading

/-- Every fault of the configuration is one of loading. -/
theorem Fault.isOfLoading_of_isConfiguration {f : Fault} (h : f.isConfiguration) :
    f.isOfLoading := by
  rw [isOfLoading, h, Bool.true_or]

/-! ## Configuration -/

/-- The table of a file cannot be had for no other reason. -/
theorem Source.raises_readFile (stack : Stack) (tree : FileTree) (path : Path) :
    Raises Fault.isOfLoading (readFile stack tree path) := by
  unfold readFile
  split
  · exact raises_error rfl
  split
  · exact raises_error rfl
  · exact raises_ok _
  split
  · exact raises_error rfl
  split
  · exact raises_ok _
  -- The errors of the reader, one by one.
  · exact raises_error rfl
  · exact raises_error rfl
  · exact raises_error rfl

/-- References are replaced unless the stack ends before the table does. -/
theorem Source.raises_expand (stack : Stack) (env : Environment) (t : Table) :
    Raises Fault.isOfLoading (expand stack env t) := by
  unfold expand
  split
  · exact raises_error rfl
  · exact raises_ok _

/-- A source contributes, or its fault is one of loading. -/
theorem Source.raises_load (stack : Stack) (tree : FileTree) (env : Environment) (s : Source) :
    Raises Fault.isOfLoading (s.load stack tree env) := by
  have hsection (path : Path) (t : Table) : Raises Fault.isOfLoading (section? path t) :=
    (raises_section? path t).mono fun _ => Fault.isOfLoading_of_isConfiguration
  cases s with
  | defaults => exact raises_ok _
  | fixed name table => exact raises_ok table
  | document path => exact (raises_readFile stack tree path).bind (raises_expand stack env)
  | projectFile path =>
    exact (raises_readFile stack tree path).bind fun t =>
      (hsection path t).bind (raises_expand stack env)

/-- A path that the system does not take is one of the things that cannot be read. -/
theorem Fault.isOfReading_of_ofPath? {path : Text} {f : Fault} (h : Fault.ofPath? path = some f) :
    f.isOfReading := by
  unfold Fault.ofPath? at h
  split at h
  · cases h
    rfl
  · split at h
    · cases h
      rfl
    · cases h

/-- Following a path to its end fails with a fault of reading only. -/
theorem Layers.isOfReading_of_faultFrom? {done names : List Text} {f : Fault}
    (h : Layers.faultFrom? done names = some f) : f.isOfReading := by
  induction names generalizing done with
  | nil => cases h
  | cons name rest ih =>
    rcases Option.or_eq_some_iff.1 h with hnow | ⟨-, hlater⟩
    · exact Fault.isOfReading_of_ofPath? hnow
    · exact ih hlater

/-- The settings of a project are loaded, or the fault is one of loading. -/
theorem Layers.raises_loadProject (stack : Stack) (tree : FileTree) (env : Environment)
    (root : Path) (overrides : Table) :
    Raises Fault.isOfLoading (loadProject stack tree env root overrides) := by
  have hresolve : Raises Fault.isOfLoading (Layers.resolve tree root) := by
    unfold Layers.resolve
    split
    case h_1 f hf =>
      exact raises_error (by rw [Fault.isOfLoading, isOfReading_of_faultFrom? hf, Bool.or_true])
    case h_2 => exact raises_ok _
  have hvalue (v : Value) : Raises Fault.isOfLoading (Settings.ofValue v) :=
    (Settings.raises_ofValue v).mono fun _ => Fault.isOfLoading_of_isConfiguration
  refine hresolve.bind fun root => ?_
  refine (raises_foldlM (fun t s => ?_) _ _).bind fun t => hvalue _
  exact (Source.raises_load stack tree env s).bind fun _ => raises_ok _

/-! ## The surroundings of a command -/

namespace Surroundings

variable (s : Surroundings)

/-- A variable holds a number, or one with too many digits. -/
theorem raises_number? (name : Text) : Raises Fault.isOfReading (s.number? name) := by
  unfold number?
  split
  · exact raises_ok _
  · exact raises_ok _
  · split
    · split
      · exact raises_ok _
      · exact raises_error rfl
    · exact raises_ok _

/-- The width of the console is known, or one of its variables has too many digits. -/
theorem raises_width : Raises Fault.isOfReading s.width :=
  (s.raises_number? "COLUMNS").bind fun _ => (s.raises_number? "LINES").bind fun _ => raises_ok _

/-- A document is text, or its bytes are not in UTF-8. -/
theorem raises_document (bytes : Bytes) : Raises Fault.isOfReading (document bytes) := by
  unfold document
  split
  · exact raises_ok _
  · exact raises_error rfl

/-- A leading `~` is replaced, or nobody knows the home directory that it stands for. -/
theorem raises_expandHome (p : Path) : Raises Fault.isOfReading (s.expandHome p) := by
  have hhome : Raises Fault.isOfReading s.home := by
    unfold home
    split
    · exact raises_ok _
    · split
      · exact raises_error rfl
      · exact raises_ok _
  have hperson (person : Text) : Raises Fault.isOfReading (s.homeOf person) := by
    unfold homeOf
    split
    · exact hhome
    · split
      · exact raises_ok _
      · exact raises_error rfl
  unfold expandHome
  split
  · split
    · exact (hperson _).bind fun _ => raises_ok _
    · exact raises_ok _
  · exact raises_ok _

end Surroundings

/-- The document is read or not found, or the fault is one of reading. -/
theorem Check.raises_readSource (s : Surroundings) (a : Arguments) :
    Raises Fault.isOfReading (readSource s a) := by
  unfold readSource
  split
  · exact (Surroundings.raises_document s.input).bind fun _ => raises_ok _
  · refine (s.raises_expandHome _).bind fun found => ?_
    dsimp only
    split
    · exact raises_error rfl
    · split
      · exact raises_error rfl
      · exact raises_ok _
      · exact (Surroundings.raises_document _).bind fun _ => raises_ok _

end LiveLint
