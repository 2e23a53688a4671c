import Retouch.Path
import Retouch.Text.Quote

/-!
# Errors of stores

Why a file could not be read or written.
-/

namespace Retouch

/-- Why an operating system does not do what it is asked for. -/
inductive SystemError where
  | noSuchFile
  | notADirectory
  | busy
  | isADirectory
  | nameTooLong
  | tooManyLinks
  | fileExists
  /-- Any other error that it reports. -/
  | other (number : Nat) (words : String)
  /-- It cannot even be asked: the path has code points without bytes. -/
  | unnameable (error : Utf8.EncodeError)
  deriving DecidableEq

namespace SystemError

/-- How an error that is reported by a number is worded. -/
def numbered (number : Nat) (words : String) (path : Path) : Text :=
  "[Errno " ++ Text.ofNat number ++ "] " ++ Text.ofString words ++ ": " ++ Text.shown path.toText

/-- How an error about a path is worded. -/
def message (path : Path) : SystemError → Text
  | .noSuchFile => numbered 2 "No such file or directory" path
  | .notADirectory => numbered 20 "Not a directory" path
  | .busy => numbered 16 "Device or resource busy" path
  | .isADirectory => numbered 21 "Is a directory" path
  | .nameTooLong => numbered 36 "File name too long" path
  | .tooManyLinks => numbered 40 "Too many levels of symbolic links" path
  | .fileExists => numbered 17 "File exists" path
  | .other number words => numbered number words path
  | .unnameable error => error.message

end SystemError

/-- Why a store refuses to read or to write. -/
inductive StoreError where
  /-- A store in memory has no such file. -/
  | absent (path : Path)
  /-- A store in memory takes no writes. -/
  | refused (path : Path)
  /-- The operating system does not do what it is asked for. -/
  | system (error : SystemError) (path : Path)
  /-- The path holds the code point zero. -/
  | nulInPath
  deriving DecidableEq

/-- How the error of a store is worded. -/
def StoreError.message : StoreError → Text
  | .absent path => "No such file: '" ++ path.toText ++ "'"
  | .refused path => "Write refused for '" ++ path.toText ++ "'"
  | .system error path => error.message path
  | .nulInPath => "embedded null byte"

/-- Why the operating system cannot be given a path: it has code points without bytes, or one is
zero. -/
def Path.refusal? (path : Path) : Option StoreError :=
  match path.nameError? with
  | some error => some (.system (.unnameable error) path)
  | none => if path.holdsNul then some .nulInPath else none

end Retouch
