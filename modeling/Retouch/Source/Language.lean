import Retouch.Text.Case

/-!
# Languages

The extension of a file's name, whatever its case, decides the language of its source code.
-/

namespace Retouch

/-- The languages whose source code can hold markup. -/
inductive Language where
  | javascript
  | typescript
  | tsx
  deriving DecidableEq

namespace Language

/-- The name of a language. -/
def name : Language → String
  | .javascript => "javascript"
  | .typescript => "typescript"
  | .tsx => "tsx"

/-- The language that has a name. -/
def ofName? : String → Option Language
  | "javascript" => some .javascript
  | "typescript" => some .typescript
  | "tsx" => some .tsx
  | _ => none

/-- The extensions of file names, in small letters, and their languages. -/
def extensions : List (Text × Language) := [
  (".cjs", .javascript), (".js", .javascript), (".jsx", .javascript), (".mjs", .javascript),
  (".cts", .typescript), (".mts", .typescript), (".ts", .typescript), (".tsx", .tsx)]

/-- The language of files with an extension. -/
def ofExtension? (extension : Text) : Option Language :=
  extensions.lookup (Text.toLower extension)

end Language

end Retouch
