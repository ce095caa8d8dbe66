import FormLine.Check.Problem
import FormLine.CommandLine.Directive
import FormLine.Settings
/-!
# Faults

A command breaks off on a fault that it does not handle: a value that it cannot use, an explanation
that cannot be expanded, or a form whose own values are not as expected. Everything that it has logged
before stays.
-/

namespace FormLine

/-- Why a command breaks off. -/
inductive Fault where
  | unusable (e : Settings.Unusable)
  | unexplained (e : CommandLine.DirectiveError)
  | problems (ps : List Problem)
  deriving Repr

/-- What is said of it. -/
def Fault.message : Fault → String
  | unusable e => e.message
  | unexplained e => e.message
  | problems ps => problemsMessage ps

end FormLine
