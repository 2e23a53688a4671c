import Retouch.Defect
import Retouch.Store.Error

/-!
# Stores

What an editor needs of the place where source files live: paths are resolved, files are read and
written. Writing gives back the store after the attempt, whether it succeeded or not.
-/

namespace Retouch

/-- A place where source files live. -/
class Store (σ : Type) where
  /-- The path of the same file without detours. -/
  resolve : σ → Path → Except Defect Path
  /-- The content of a file. -/
  read : σ → Path → Except StoreError Bytes
  /-- Gives a file a content. -/
  write : σ → Path → Bytes → Except StoreError Unit × σ

end Retouch
