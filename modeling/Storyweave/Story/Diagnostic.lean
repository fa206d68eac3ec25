/-!
# Diagnostics

What went wrong, or was papered over, while a story was made.
-/

namespace Storyweave.Story

inductive DiagnosticKind where
  | malformedSource
  | unknownKernel
  | missingTemplateCategory
  | invalidArgumentShape
  | recursionLimitExceeded
deriving DecidableEq, Repr

/-- The name of a kind of diagnostic. -/
def DiagnosticKind.name : DiagnosticKind → String
  | .malformedSource => "syntax"
  | .unknownKernel => "unknown_kernel"
  | .missingTemplateCategory => "missing_template_category"
  | .invalidArgumentShape => "invalid_argument_shape"
  | .recursionLimitExceeded => "recursion_limit_exceeded"

structure Diagnostic where
  kind : DiagnosticKind
  /-- The kernel or template category involved, if any. -/
  subject : Option String
  message : String
deriving DecidableEq, Repr

/-- A diagnostic on one line. -/
def Diagnostic.describe (d : Diagnostic) : String :=
  match d.subject with
  | some subject => "[" ++ d.kind.name ++ "] " ++ subject ++ ": " ++ d.message
  | none => "[" ++ d.kind.name ++ "] " ++ d.message

end Storyweave.Story
