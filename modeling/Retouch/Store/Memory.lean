import Retouch.Store.Basic

/-!
# Stores in memory

Files under their paths, a log of the writes, and a switch that refuses further ones. Paths are
resolved by their wording alone, and relative ones are seen from the working directory.
-/

namespace Retouch

/-- A store in memory. -/
structure MemoryStore where
  files : List (Path × Bytes)
  writes : List Path
  refusesWrites : Bool
  /-- The working directory, from which relative paths are seen. -/
  here : Directory

namespace MemoryStore

/-- Gives a file among files a content. -/
def setFile (path : Path) (data : Bytes) : List (Path × Bytes) → List (Path × Bytes)
  | [] => [(path, data)]
  | (other, old) :: files =>
    if other = path then (path, data) :: files else (other, old) :: setFile path data files

/-- A store with the given files, in which the working directory is the topmost one; of several
files at one path the last counts. -/
def ofFiles (files : List (Path × Bytes)) : MemoryStore :=
  ⟨files.foldl (fun done (path, data) => setFile path data done) [], [], false, .top⟩

/-- Puts a file into a store without a record of it. -/
def put (store : MemoryStore) (path : Path) (data : Bytes) : MemoryStore :=
  { store with files := setFile path data store.files }

/-- The content of a file, if there is one. -/
def get? (store : MemoryStore) (path : Path) : Option Bytes :=
  store.files.lookup path

/-- Reads a file. -/
def read (store : MemoryStore) (path : Path) : Except StoreError Bytes :=
  match store.get? path with
  | some data => .ok data
  | none => .error (.absent path)

/-- Writes a file and records it, unless writes are refused. -/
def write (store : MemoryStore) (path : Path) (data : Bytes) : Except StoreError Unit × MemoryStore :=
  if store.refusesWrites then (.error (.refused path), store)
  else (.ok (), { store.put path data with writes := store.writes ++ [path] })

/-- Resolves a path by its wording, seen from the working directory. -/
def resolve (store : MemoryStore) (path : Path) : Except Defect Path :=
  if path.holdsNul then .error .nulInPath
  else match path.nameError? with
    | some error => .error (.unencodable error)
    | none => .ok (store.here.path.join path).collapse

instance : Store MemoryStore where
  resolve := resolve
  read := read
  write := write

/-- The files whose content differs from what it was in another store. -/
def changedSince (before after : MemoryStore) : List (Path × Bytes) :=
  after.files.filter fun (path, data) => before.get? path ≠ some data

end MemoryStore

end Retouch
