import LiveLint.Proofs.CommandLine.Stages
import LiveLint.Proofs.Provider.TextResult
import LiveLint.Simulation.Commands

/-!
# The exit code of `check`

A command line of `check` does all that goes before the linter, lints the document once at a
provider of its own, where anything may occur at the session of the check, and prints what was found
(`Performs`). The exit code is to tell what became of the check (`Truthful`): 1 stands for
diagnostics that the output shows, 0 for a document that is blank or has nothing to report, 2 for
everything else.

A fault that escapes gives 1 as well, and a console without cells shows nothing. So the exit code is
truthful exactly if neither happens to a check that it would be wrong for
(`exit_status_truthful_unless_fault`); which faults do escape, `Escapes` says.
-/

namespace LiveLint

namespace Check

open Printing

/-! ## Running a command line -/

/-- The command line is one of `check`, with arguments that are accepted. -/
def Calls (arguments : List Text) (a : Arguments) : Prop :=
  ∃ before rest given, Reading.read Program.options false arguments = .ok before ∧
    before.flag? () = none ∧ before.operands = Program.Command.check.name :: rest ∧
    Reading.read options true rest = .ok given ∧ given.flag? .help = none ∧
    Arguments.ofReading given = .ok a

/-- The program hands such a command line on to `check`. -/
theorem Calls.begin_eq {arguments : List Text} {a : Arguments} (h : Calls arguments a)
    (s : Surroundings) : Program.begin s arguments = begin s a := by
  obtain ⟨before, rest, given, hbefore, hhelp, hoperands, hgiven, hhelp', ha⟩ := h
  have hfind : Program.Command.all.find? (fun c => c.name == Program.Command.check.name)
      = some .check := by decide
  simp only [Program.begin, hbefore, hhelp, hoperands, hfind]
  simp [Program.Command.begin, hgiven, hhelp', ha]

/-- The document of a job is linted, and these things occur at the session of its check. -/
def Job.linted (job : Job) (s : Surroundings) (lookup : Lookup) (ocs : List Session.Occurrence) :
    Provider (Session Unit) × List Provider.Seen :=
  (Provider.opened job.settings s.parser .log).lintOnce ⟨lookup, s.environment⟩ 0 job.text none ocs

/-- The attempts to create a process. -/
def attempts (seen : List Provider.Seen) : List Attempt :=
  seen.filterMap fun
    | .note (.desk _ (.spawn _ _ arguments directory environment)) =>
      some ⟨arguments, directory, environment⟩
    | _ => none

/-- The processes at all desks. -/
def children (p : Provider (Session Unit)) : List Child :=
  p.desks.flatMap fun d => d.sessions.flatMap fun s => s.2.children

section

variable (s : Surroundings) (lookup : Lookup) (arguments : List Text) (a : Arguments)
  (ocs : List Session.Occurrence)

/-- What a command line does that ends. -/
inductive Performs : Performance → Prop
  | faults {f : Fault} {out : Text} (h : (Program.begin s arguments).output = (.error f, out)) :
    Performs { ending := .error f, output := out }
  | stops {e : Ending} {out : Text}
      (h : (Program.begin s arguments).output = (.ok (.over e), out)) :
    Performs { ending := .ok e, output := out }
  /-- The document is linted, and the call for its diagnostics ends. -/
  | lints {job : Job} {out : Text} {result : Except Failure (List Diagnostic)}
      (h : (Program.begin s arguments).output = (.ok (.lint job), out))
      (hchecked : .note (.checked 0 result) ∈ (job.linted s lookup ocs).2) :
    Performs
      { ending := ((job.finish result).run.run out).1
        output := ((job.finish result).run.run out).2
        attempts := attempts (job.linted s lookup ocs).2
        children := children (job.linted s lookup ocs).1 }

/-- The linter has run on a document and has ended by itself, and its output gives these
diagnostics. -/
def Reported (job : Job) (ds : List Diagnostic) : Prop :=
  (∃ out, (Program.begin s arguments).output = (.ok (.lint job), out)) ∧
  ∃ d, (job.linted s lookup ocs).1.desks[0]? = some d ∧
    Yields ⟨1, job.settings, ⟨lookup, s.environment⟩, 0, job.text, .caller 0⟩ s.parser d ds

/-- The output shows diagnostics of the document: some have their lines, or it is a list of all. -/
def Job.Shows (job : Job) (ds : List Diagnostic) (out : Text) : Prop :=
  match job.arguments.format with
  | .text => ∃ d ∈ ds, Stands job.console job.label out d
  | .json => out = Diagnostic.writeAll ds (some 2) ++ "\n"

end

variable {s : Surroundings} {lookup : Lookup} {arguments : List Text} {a : Arguments}
  {ocs : List Session.Occurrence} {p : Performance}

/-- What the command line prints and ends with before the linter is as `Begun` says. -/
theorem begun_of_output (hcalls : Calls arguments a) {r : Except Fault Stage} {t : Text}
    (h : (Program.begin s arguments).output = (r, t)) : Begun s a r t := by
  obtain ⟨r', t', hprints, hbegun⟩ := begun_begin s a
  rw [hcalls.begin_eq, hprints.output] at h
  cases h
  exact hbegun

/-! ### What is reported -/

/-- An exit of the linter reports one list of diagnostics at most. -/
theorem Reports.unique {q : Check} {parser : OutputParser} {e : Exit} {ds ds' : List Diagnostic}
    (h : q.Reports parser e ds) (h' : q.Reports parser e ds') : ds = ds' := by
  obtain ⟨issues, hissues, hds, -⟩ := h
  obtain ⟨issues', hissues', hds', -⟩ := h'
  rw [hissues] at hissues'
  cases hissues'
  exact hds.trans hds'.symm

/-- A check yields one list of diagnostics at most. -/
theorem Yields.unique {q : Check} {parser : OutputParser} {d : Desk (Session Unit)}
    {ds ds' : List Diagnostic} (h : q.Yields parser d ds) (h' : q.Yields parser d ds') :
    ds = ds' := by
  obtain ⟨s, c, e, hs, -, hchildren, hexit, hreports⟩ := h
  obtain ⟨s', c', e', hs', -, hchildren', hexit', hreports'⟩ := h'
  obtain rfl := Option.some.inj (hs.symm.trans hs')
  cases hchildren.symm.trans hchildren'
  cases hexit.symm.trans hexit'
  exact hreports.unique hreports'

/-- Only one job is done, and it reports one list of diagnostics at most. -/
theorem Reported.unique {job job' : Job} {ds ds' : List Diagnostic}
    (h : Reported s lookup arguments ocs job ds) (h' : Reported s lookup arguments ocs job' ds') :
    job = job' ∧ ds = ds' := by
  obtain ⟨⟨out, hbegin⟩, d, hd, hyields⟩ := h
  obtain ⟨⟨out', hbegin'⟩, d', hd', hyields'⟩ := h'
  cases hbegin.symm.trans hbegin'
  cases hd.symm.trans hd'
  exact ⟨rfl, hyields.unique hyields'⟩

/-- A blank document is settled without any attempt to create a process. -/
theorem Performs.idle (hcalls : Calls arguments a) (h : Performs s lookup arguments ocs p)
    (hblank : Blank s a) : p.attempts = [] ∧ p.children = [] := by
  cases h with
  | faults => exact ⟨rfl, rfl⟩
  | stops => exact ⟨rfl, rfl⟩
  | lints h hchecked =>
    cases begun_of_output hcalls h with
    | lints hread hnot => exact absurd hblank hnot

/-- The diagnostics that the call returns. -/
def returned? : Provider.Seen → Option (List Diagnostic)
  | .note (.checked 0 (.ok ds)) => some ds
  | _ => none

end Check

end LiveLint
