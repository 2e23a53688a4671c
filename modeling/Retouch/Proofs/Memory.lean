import Mathlib
import Retouch.Store.Memory

/-!
# Files in memory

A file that is given a content has it afterwards and every other file is as it was. If there was a
file at the path, the paths of all files stay the same and in the same order.
-/

namespace Retouch.MemoryStore

/-- The paths of the files of a store, in the order in which they were added. -/
def paths (store : MemoryStore) : List Path :=
  store.files.map (·.1)

/-- What is read from a file is what it holds. -/
lemma get?_of_read {store : MemoryStore} {path : Path} {bytes : Bytes}
    (read : Store.read store path = .ok bytes) : store.get? path = some bytes := by
  change store.read path = .ok bytes at read
  unfold MemoryStore.read at read
  split at read
  · rename_i held found
    cases read
    exact found
  · cases read

/-- A file that is given a content has it. -/
lemma lookup_setFile (path : Path) (data : Bytes) (files : List (Path × Bytes)) :
    (setFile path data files).lookup path = some data := by
  induction files with
  | nil => simp [setFile]
  | cons file files ih =>
    obtain ⟨other, old⟩ := file
    by_cases same : other = path
    · simp [setFile, same]
    · simp [setFile, same, List.lookup_cons, beq_false_of_ne (Ne.symm same), ih]

/-- A file keeps its content when another one is given one. -/
lemma lookup_setFile_of_ne {path other : Path} (ne : other ≠ path) (data : Bytes)
    (files : List (Path × Bytes)) :
    (setFile path data files).lookup other = files.lookup other := by
  induction files with
  | nil => simp [setFile, ne]
  | cons file files ih =>
    obtain ⟨first, old⟩ := file
    by_cases same : first = path
    · simp [setFile, same, List.lookup_cons, beq_false_of_ne ne]
    · simp [setFile, same, List.lookup_cons, ih]

/-- A file that exists is given a content where it stands. -/
lemma map_fst_setFile {path : Path} {files : List (Path × Bytes)} {old : Bytes}
    (held : files.lookup path = some old) (data : Bytes) :
    (setFile path data files).map (·.1) = files.map (·.1) := by
  induction files with
  | nil => cases held
  | cons file files ih =>
    obtain ⟨other, content⟩ := file
    by_cases same : other = path
    · simp [setFile, same]
    · rw [List.lookup_cons, beq_false_of_ne (Ne.symm same)] at held
      simpa [setFile, same] using ih held

/-- The store after a write that was carried out. -/
def written (store : MemoryStore) (path : Path) (data : Bytes) : MemoryStore :=
  { store.put path data with writes := store.writes ++ [path] }

/-- A write is refused and changes nothing, or it is carried out. -/
lemma write_cases (store : MemoryStore) (path : Path) (data : Bytes) :
    store.write path data = (.error (.refused path), store) ∨
      store.write path data = (.ok (), store.written path data) := by
  unfold write written
  split
  · exact .inl rfl
  · exact .inr rfl

/-- A written file holds what was written. -/
@[simp]
lemma get?_written (store : MemoryStore) (path : Path) (data : Bytes) :
    (store.written path data).get? path = some data :=
  lookup_setFile path data store.files

/-- Files that are not written keep their content. -/
lemma get?_written_of_ne (store : MemoryStore) {path other : Path} (ne : other ≠ path)
    (data : Bytes) : (store.written path data).get? other = store.get? other :=
  lookup_setFile_of_ne ne data store.files

/-- Writing a file that exists adds no path and takes none away. -/
lemma paths_written {store : MemoryStore} {path : Path} {old : Bytes}
    (held : store.get? path = some old) (data : Bytes) :
    (store.written path data).paths = store.paths :=
  map_fst_setFile held data

end Retouch.MemoryStore
