/-!
# The stack

Reading nested data and going through them takes the stack of the program a few levels down for
every list and table that stand in one another, and the stack has an end. How much of it is left
depends on what the program was doing before, so that the levels that are left are parameters.
-/

namespace LiveLint

/-- The levels that are left of the stack, at each of the places where nested data are gone
through. -/
structure Stack where
  /-- Where linter output is read. -/
  output : Nat
  /-- Where a configuration file is read. -/
  document : Nat
  /-- Where the references in a table are replaced. -/
  expansion : Nat

/-- The levels that are left to a program that takes few itself, of a thousand in all. -/
def Stack.usual : Stack := ⟨980, 980, 980⟩

end LiveLint
