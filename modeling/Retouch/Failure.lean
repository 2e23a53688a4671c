import Retouch.Analysis.Placement
import Retouch.Analysis.TextContent
import Retouch.Store.Error

/-!
# Failures

Every way in which an operation can fail, the kind under which it is reported, and its wording.
-/

namespace Retouch

/-- The kinds of failures. -/
inductive FailureKind where
  | invalidComponentId
  | pathOutsideRoot
  | unsupportedFile
  | fileRead
  | parse
  | notFound
  | dynamicValue
  | unsafeDeletion
  | serialization
  | write
  | internal
  deriving DecidableEq

namespace FailureKind

/-- All kinds of failures. -/
def all : List FailureKind := [
  .invalidComponentId, .pathOutsideRoot, .unsupportedFile, .fileRead, .parse, .notFound, .dynamicValue,
  .unsafeDeletion, .serialization, .write, .internal]

/-- The code of a kind. -/
def code : FailureKind → String
  | .invalidComponentId => "invalid_component_id"
  | .pathOutsideRoot => "path_outside_root"
  | .unsupportedFile => "unsupported_file"
  | .fileRead => "file_read_error"
  | .parse => "parse_error"
  | .notFound => "not_found"
  | .dynamicValue => "dynamic_value"
  | .unsafeDeletion => "unsafe_deletion"
  | .serialization => "serialization_error"
  | .write => "write_error"
  | .internal => "internal_error"

end FailureKind

/-- An element near a position that was looked for. -/
structure NearbyElement where
  line : Int
  column : Int
  tag : Text
  deriving DecidableEq

/-- What a search without success has seen. -/
structure Diagnostics where
  scanned : Int
  nearby : List NearbyElement
  deriving DecidableEq

/-- Why an operation has failed. -/
inductive Failure where
  | invalidId (id : Text)
  | outsideRoot (path : Text) (root : Path)
  | unsupported (extension : Text)
  | unreadable (path : Path) (error : StoreError)
  | notUtf8 (path : Path) (error : Utf8.DecodeError)
  | unparsable (path : Option Path) (fault : SyntaxFault)
  | notFound (line column : Int) (diagnostics : Diagnostics)
  | dynamicClassName (tag : Text)
  | dynamicText (tag : Text) (reason : TextContent.Reason)
  | unsafeDeletion (reason : Placement.Reason)
  | noPlaceForText (tag : Text)
  | rootRemoval
  | overlap (offset : Nat)
  | outputUnparsable (path : Path) (fault : SyntaxFault)
  | unwritable (path : Path) (error : StoreError)
  | unexpected (defect : Defect)
  deriving DecidableEq

namespace Failure

/-- The kind under which a failure is reported. -/
def kind : Failure → FailureKind
  | .invalidId _ => .invalidComponentId
  | .outsideRoot _ _ => .pathOutsideRoot
  | .unsupported _ => .unsupportedFile
  | .unreadable _ _ | .notUtf8 _ _ => .fileRead
  | .unparsable _ _ => .parse
  | .notFound _ _ _ => .notFound
  | .dynamicClassName _ | .dynamicText _ _ => .dynamicValue
  | .unsafeDeletion _ => .unsafeDeletion
  | .noPlaceForText _ | .rootRemoval | .overlap _ | .outputUnparsable _ _ => .serialization
  | .unwritable _ _ => .write
  | .unexpected _ => .internal

/-- What a failed search has seen. -/
def diagnostics? : Failure → Option Diagnostics
  | .notFound _ _ diagnostics => some diagnostics
  | _ => none

/-- How an element near a position is worded. -/
def describe (element : NearbyElement) : Text :=
  "<" ++ element.tag ++ "> at " ++ Text.ofInt element.line ++ ":" ++ Text.ofInt element.column

/-- How a failure is worded. -/
def message : Failure → Text
  | .invalidId id => "Invalid component ID format: " ++ id
  | .outsideRoot path root => "Path " ++ path ++ " resolves outside of " ++ root.toText
  | .unsupported extension =>
    "Unsupported file extension: " ++ if extension.isEmpty then Text.ofString "(none)" else extension
  | .unreadable path error => "Failed to read file " ++ path.toText ++ ": " ++ error.message
  | .notUtf8 path error =>
    "Failed to read file " ++ path.toText ++ ": not valid UTF-8 (" ++ error.message ++ ")"
  | .unparsable none fault => fault.message
  | .unparsable (some path) fault => "Failed to parse " ++ path.toText ++ ": " ++ fault.message
  | .notFound line column ⟨scanned, nearby⟩ =>
    let detail : Text :=
      if nearby.isEmpty then "Total JSX elements found: " ++ Text.ofInt scanned
      else "Found " ++ Text.ofNat nearby.length ++ " nearby elements: " ++
        Text.join ", " (nearby.map describe)
    "Component not found at " ++ Text.ofInt line ++ ":" ++ Text.ofInt column ++ ". " ++ detail
  | .dynamicClassName tag =>
    "className of <" ++ tag ++ "> is computed by an expression and cannot be edited"
  | .dynamicText tag reason =>
    "Text content of <" ++ tag ++ "> cannot be edited: " ++ Text.ofString reason.code
  | .unsafeDeletion reason => "Element cannot be deleted safely: " ++ Text.ofString reason.code
  | .noPlaceForText tag => "Cannot set children of <" ++ tag ++ ">"
  | .rootRemoval => "Cannot remove the root node"
  | .overlap offset => "Overlapping edits at byte " ++ Text.ofNat offset
  | .outputUnparsable path fault =>
    "Edited source for " ++ path.toText ++ " no longer parses: " ++ fault.message
  | .unwritable path error => "Failed to write file " ++ path.toText ++ ": " ++ error.message
  | .unexpected _ => "Unexpected error"

end Failure

/-- An operation that meets a defect fails. -/
instance : MonadLift (Except Defect) (Except Failure) where
  monadLift result := result.mapError .unexpected

end Retouch
