import Retouch.Analysis.ClassName
import Retouch.ComponentId

/-!
# Requests and reports

What an update asks for, and what the operations answer.
-/

namespace Retouch

/-- What to change about an element; what is left out stays as it is. -/
structure Updates where
  className : Option Text
  textContent : Option Text
  deriving DecidableEq

/-- The answer to an analysis. -/
structure AnalysisReport where
  success : Bool
  componentId : Text
  tag : Option Text
  className : Option ClassName
  textContent : Option TextContent
  placement : Option Placement
  error : Option Text
  errorKind : Option FailureKind
  diagnostics : Option Diagnostics
  deriving DecidableEq

/-- The answer to a change. -/
structure MutationReport where
  success : Bool
  filePath : Option Text
  changed : Bool
  error : Option Text
  errorKind : Option FailureKind
  diagnostics : Option Diagnostics
  deriving DecidableEq

namespace AnalysisReport

/-- The answer to an analysis that has found an element. -/
def found (id tag : Text) (className : ClassName) (textContent : TextContent) (placement : Placement) :
    AnalysisReport :=
  ⟨true, id, some tag, some className, some textContent, some placement, none, none, none⟩

/-- The answer to an analysis that has failed. -/
def failed (id : Text) (failure : Failure) : AnalysisReport :=
  ⟨false, id, none, none, none, none, some failure.message, some failure.kind, failure.diagnostics?⟩

end AnalysisReport

namespace MutationReport

/-- The answer to a change that has succeeded. -/
def done (path : Path) (changed : Bool) : MutationReport :=
  ⟨true, some path.toText, changed, none, none, none⟩

/-- The answer to a change that has failed. -/
def failed (failure : Failure) : MutationReport :=
  ⟨false, none, false, some failure.message, some failure.kind, failure.diagnostics?⟩

end MutationReport

end Retouch
