import ActionRelay.Span
/-!
# Diagnostics

What can be wrong with an annotated declaration, where, and in which words.
Failures of other origin are turned into diagnostics by `Diagnostic.ofFailure`.
-/

namespace ActionRelay

/-- What went wrong. -/
inductive Fault where
  /-- The annotated declaration is no struct. -/
  | notStruct
  /-- The struct does not take part in the reducer capability. -/
  | notReducer
  /-- The struct does not hold exactly one action enum. -/
  | actionRequired
  /-- The exclusion attribute stands on something that is no case. -/
  | misplacedExclusion
  /-- A payload has no name and its type gives none. -/
  | unnamedPayload (caseName : String) (index : Nat)
  /-- A failure of another origin. -/
  | unknown (text : String)
deriving DecidableEq

namespace Fault

/-- A name for the kind of fault that does not depend on its message. -/
def code : Fault → String
  | notStruct => "invalid-root-node-type"
  | notReducer => "reducer-conformance-not-found"
  | actionRequired => "nested-action-required"
  | misplacedExclusion => "incorrect-attribute-usage"
  | unnamedPayload _ _ => "unsupported-parameter"
  | unknown _ => "unknown"

/-- What is said about the fault. -/
def message : Fault → String
  | notStruct => "action dispatch needs to be applied to a struct"
  | notReducer =>
    "action dispatch requires conformance to the reducer capability in the declaration"
  | actionRequired =>
    "action dispatch requires the Action enum to be nested inside the reducer"
  | misplacedExclusion =>
    "the dispatch exclusion attribute can only be attached to an enum case"
  | unnamedPayload caseName index =>
    "cannot derive a parameter name for payload #" ++ Nat.repr index ++ " of case `"
      ++ caseName ++ "`"
  | unknown text => "unknown error: " ++ text

end Fault

/-- A fault at a place in the host's source text. -/
structure Diagnostic where
  fault : Fault
  span : Span
deriving DecidableEq

/-- A renderer gave up. -/
inductive RenderError where
  | formatting
deriving DecidableEq

/-- What is said about a renderer that gave up. -/
def RenderError.message : RenderError → String
  | formatting => "an error occurred when formatting an argument"

/-- Anything that can go wrong, with or without a place. -/
inductive Failure where
  | located (diagnostic : Diagnostic)
  | bare (fault : Fault)
  | rendering (error : RenderError)
  /-- A failure of which only its text is known. -/
  | foreign (text : String)
deriving DecidableEq

/-- What is said about a failure. -/
def Failure.message : Failure → String
  | located diagnostic => diagnostic.fault.message
  | bare fault => fault.message
  | rendering error => error.message
  | foreign text => text

namespace Diagnostic

/-- What is said about the diagnostic, without its place. -/
def message (diagnostic : Diagnostic) : String :=
  diagnostic.fault.message

/-- The diagnostic of a failure: one that has a place keeps it, every other
one is put at `span`, and what is not known to be a fault is an unknown
one. -/
def ofFailure (failure : Failure) (span : Span) : Diagnostic :=
  match failure with
  | .located diagnostic => diagnostic
  | .bare fault => ⟨fault, span⟩
  | .rendering error => ⟨.unknown error.message, span⟩
  | .foreign text => ⟨.unknown text, span⟩

/-- The line that reports the diagnostic to a user. -/
def line (diagnostic : Diagnostic) : String :=
  "error[" ++ diagnostic.fault.code ++ "]: " ++ diagnostic.message ++ " at "
    ++ Nat.repr diagnostic.span.start ++ ".." ++ Nat.repr diagnostic.span.stop

end Diagnostic

end ActionRelay
