/-!
# Spans

A span is a place in the host's source text. It is never looked into: it
only travels from a declaration to the diagnostics about it.
-/

namespace ActionRelay

/-- A place in the host's source text. -/
structure Span where
  start : Nat := 0
  stop : Nat := 0
deriving DecidableEq, Inhabited

end ActionRelay
