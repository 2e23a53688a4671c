import Mathlib
import Retouch.Store.Disk

/-!
# Ways on a disk

The operating system follows a path component by component (`Disk.Walk`): it goes up, into a
directory, or along a link, and what is neither a directory nor a link ends the way. Where it ends
is decided by the places that it looks at, so on a disk that has the same entries there it ends at
the same place (`Disk.Walk.agree`). A file that comes to stand on the way bars it
(`Disk.Walk.barred`).
-/

namespace Retouch.Disk

/-- The first entry is found under its own key, and the others under every other key. -/
lemma lookup_cons (key held : List Text) (old : Entry) (entries : List (List Text × Entry)) :
    ((held, old) :: entries).lookup key = if key = held then some old else entries.lookup key := by
  rw [List.lookup_cons]
  by_cases same : key = held
  · simp [same]
  · simp [same, beq_false_of_ne same]

/-- A new entry is found at its place, and everywhere else what was there before. -/
lemma lookup_setEntry (place key : List Text) (entry : Entry) (entries : List (List Text × Entry)) :
    (setEntry place entry entries).lookup key =
      if key = place then some entry else entries.lookup key := by
  induction entries with
  | nil => rw [setEntry, lookup_cons]
  | cons first entries ih =>
    obtain ⟨held, old⟩ := first
    by_cases replaced : held = place
    · rw [setEntry, if_pos replaced, lookup_cons, lookup_cons, replaced]
      split_ifs <;> rfl
    · rw [setEntry, if_neg replaced, lookup_cons, lookup_cons, ih]
      split_ifs with first second
      · exact absurd (first.symm.trans second) replaced
      all_goals rfl

section Entries

variable {disk : Disk} {place key : List Text} {entry : Entry}

/-- Below the topmost directory, what stands at a place is what is recorded for it. -/
lemma entry?_below (below : place ≠ []) : disk.entry? place = disk.entries.lookup place :=
  if_neg below

/-- Below the topmost directory, what is put at a place stands there. -/
lemma entry?_set (below : place ≠ []) : entry? (disk.set place entry) place = some entry := by
  rw [entry?_below below, set, lookup_setEntry, if_pos rfl]

/-- A new entry changes nothing at any other place. -/
lemma entry?_set_of_ne (ne : key ≠ place) :
    entry? (disk.set place entry) key = disk.entry? key := by
  unfold entry? set
  rw [lookup_setEntry, if_neg ne]

end Entries

/-- A component that can be followed: not too long, and not the way up. -/
structure IsStep (part : Text) : Prop where
  ne_up : part ≠ Path.up
  short : byteSize part ≤ nameLimit

/-- Nothing leads on from a place: nothing stands there, or a file does. -/
def Ends (disk : Disk) (place : List Text) : Prop :=
  ∀ entry, disk.entry? place = some entry → ∃ data mode, entry = .file data mode

/-- From a place, following components and at most so many links, the way leads over the places seen
to its stop. -/
inductive Walk (disk : Disk) :
    Nat → List Text → List Text → List (List Text) → List Text → Prop where
  | stop {links place} :
    Walk disk links place [] [] place
  | up {links place rest seen stop} :
    Walk disk links place.dropLast rest seen stop →
    Walk disk links place (Path.up :: rest) seen stop
  | into {links place part rest mode seen stop} :
    IsStep part →
    disk.entry? (place ++ [part]) = some (.directory mode) →
    Walk disk links (place ++ [part]) rest seen stop →
    Walk disk links place (part :: rest) ((place ++ [part]) :: seen) stop
  | turn {links place part rest target seen stop} :
    IsStep part →
    disk.entry? (place ++ [part]) = some (.link target) →
    Walk disk links (if target.isAbsolute then [] else place) (target.components ++ rest) seen
      stop →
    Walk disk (links + 1) place (part :: rest) ((place ++ [part]) :: seen) stop
  | last {links place part} :
    IsStep part →
    disk.Ends (place ++ [part]) →
    Walk disk links place [part] [place ++ [part]] (place ++ [part])

variable {disk other : Disk} {links : Nat} {place rest stop : List Text} {part name : Text}
  {seen : List (List Text)} {found : Option Entry}

/-- A way without components ends where it begins. -/
lemma enterAll_nil : disk.enterAll links place [] = .ok (place, disk.entry? place) := by
  rw [enterAll, enter]

/-- Two dots lead to the directory above. -/
lemma enterAll_up :
    disk.enterAll links place (Path.up :: rest) = disk.enterAll links place.dropLast rest := by
  rw [enterAll, enter, if_pos rfl, enterAll]

/-- A name that is too long leads nowhere. -/
lemma enterAll_long (ne : part ≠ Path.up) (long : nameLimit < byteSize part) :
    disk.enterAll links place (part :: rest) = .error .nameTooLong := by
  rw [enterAll, enter, if_neg ne, if_pos long]

/-- The name of a directory leads into it. -/
lemma enterAll_into {mode : Nat} (step : IsStep part)
    (held : disk.entry? (place ++ [part]) = some (.directory mode)) :
    disk.enterAll links place (part :: rest) = disk.enterAll links (place ++ [part]) rest := by
  rw [enterAll, enter, if_neg step.ne_up, if_neg (Nat.not_lt.2 step.short), held, enterAll]

/-- The name of a link leads to where its target leads, and takes one of the links that may be
followed. -/
lemma enterAll_turn {target : Path} (step : IsStep part)
    (held : disk.entry? (place ++ [part]) = some (.link target)) :
    disk.enterAll (links + 1) place (part :: rest) =
      disk.enterAll links (if target.isAbsolute then [] else place)
        (target.components ++ rest) := by
  rw [enterAll, enter, if_neg step.ne_up, if_neg (Nat.not_lt.2 step.short), held]
  rfl

/-- The name of a link leads nowhere once no more links may be followed. -/
lemma enterAll_tooMany {target : Path} (step : IsStep part)
    (held : disk.entry? (place ++ [part]) = some (.link target)) :
    disk.enterAll 0 place (part :: rest) = .error .tooManyLinks := by
  rw [enterAll, enter, if_neg step.ne_up, if_neg (Nat.not_lt.2 step.short), held]
  rfl

/-- What ends the way is reached as the last component, and is in the way as any other. -/
lemma enterAll_ends (step : IsStep part) (ends : disk.Ends (place ++ [part])) :
    disk.enterAll links place (part :: rest) =
      if rest.isEmpty then .ok (place ++ [part], disk.entry? (place ++ [part]))
      else .error
        (if (disk.entry? (place ++ [part])).isSome then .notADirectory else .noSuchFile) := by
  rw [enterAll, enter, if_neg step.ne_up, if_neg (Nat.not_lt.2 step.short)]
  cases held : disk.entry? (place ++ [part]) with
  | none => rfl
  | some entry =>
    obtain ⟨data, mode, rfl⟩ := ends entry held
    rfl

/-- A way ends at a place, unless a directory or a link stands there. -/
lemma ends_or_leads (disk : Disk) (place : List Text) :
    disk.Ends place ∨ (∃ mode, disk.entry? place = some (.directory mode)) ∨
      ∃ target, disk.entry? place = some (.link target) := by
  cases held : disk.entry? place with
  | none => exact .inl fun entry same => by simp [held] at same
  | some entry =>
    cases entry with
    | file data mode =>
      refine .inl fun entry same => ⟨data, mode, ?_⟩
      simpa [held, eq_comm] using same
    | directory mode => exact .inr (.inl ⟨mode, rfl⟩)
    | link target => exact .inr (.inr ⟨target, rfl⟩)

/-- Walking gets to the end of a way, if there is one. -/
lemma Walk.enterAll (walk : Walk disk links place rest seen stop) :
    disk.enterAll links place rest = .ok (stop, disk.entry? stop) := by
  induction walk with
  | stop => exact enterAll_nil
  | up _ ih => rw [enterAll_up, ih]
  | into step held _ ih => rw [enterAll_into step held, ih]
  | turn step held _ ih => rw [enterAll_turn step held, ih]
  | last step ends => rw [enterAll_ends step ends, List.isEmpty_nil, if_pos rfl]

/-- A way that the operating system can follow is a walk. -/
lemma exists_walk (reached : disk.enterAll links place rest = .ok (stop, found)) :
    found = disk.entry? stop ∧ ∃ seen, Walk disk links place rest seen stop := by
  -- the outer induction is on the links that are left, the inner one on the components up to the
  -- next link
  induction links using Nat.strongRecOn generalizing place rest with
  | ind links fewer =>
    induction rest generalizing place with
    | nil =>
      rw [enterAll_nil] at reached
      cases reached
      exact ⟨rfl, [], .stop⟩
    | cons part rest ih =>
      by_cases up : part = Path.up
      · subst up
        rw [enterAll_up] at reached
        obtain ⟨same, seen, walk⟩ := ih reached
        exact ⟨same, seen, .up walk⟩
      by_cases long : nameLimit < byteSize part
      · rw [enterAll_long up long] at reached
        cases reached
      have step : IsStep part := ⟨up, Nat.not_lt.1 long⟩
      rcases disk.ends_or_leads (place ++ [part]) with ends | ⟨mode, held⟩ | ⟨target, held⟩
      · rw [enterAll_ends step ends] at reached
        cases rest with
        | nil =>
          cases reached
          exact ⟨rfl, _, .last step ends⟩
        | cons _ _ => cases reached
      · rw [enterAll_into step held] at reached
        obtain ⟨same, seen, walk⟩ := ih reached
        exact ⟨same, _, .into step held walk⟩
      · cases links with
        | zero =>
          rw [enterAll_tooMany step held] at reached
          cases reached
        | succ links =>
          rw [enterAll_turn step held] at reached
          obtain ⟨same, seen, walk⟩ := fewer links (Nat.lt_succ_self links) reached
          exact ⟨same, _, .turn step held walk⟩

/-- Walking gets to the end of a way and nowhere else. -/
lemma enterAll_eq_ok :
    disk.enterAll links place rest = .ok (stop, found) ↔
      found = disk.entry? stop ∧ ∃ seen, Walk disk links place rest seen stop := by
  refine ⟨exists_walk, ?_⟩
  rintro ⟨rfl, seen, walk⟩
  exact walk.enterAll

namespace Walk

/-- Where the disks agree on all places that a way leads over, it is the same way on both. -/
lemma agree (walk : Walk disk links place rest seen stop)
    (same : ∀ key ∈ seen, other.entry? key = disk.entry? key) :
    Walk other links place rest seen stop := by
  induction walk with
  | stop => exact .stop
  | up _ ih => exact .up (ih same)
  | into step held _ ih =>
    rw [← same _ List.mem_cons_self] at held
    exact .into step held (ih fun key mem => same key (List.mem_cons_of_mem _ mem))
  | turn step held _ ih =>
    rw [← same _ List.mem_cons_self] at held
    exact .turn step held (ih fun key mem => same key (List.mem_cons_of_mem _ mem))
  | last step ends =>
    refine .last step fun entry held => ends entry ?_
    rwa [← same _ List.mem_cons_self]

/-- What leads nowhere is seen at most at the end of a way. -/
lemma off {key : List Text} (walk : Walk disk links place rest seen stop) (ends : disk.Ends key)
    (ne : key ≠ stop) : key ∉ seen := by
  induction walk with
  | stop => exact List.not_mem_nil
  | up _ ih => exact ih ne
  | into _ held _ ih =>
    rw [List.mem_cons, not_or]
    refine ⟨?_, ih ne⟩
    rintro rfl
    obtain ⟨_, _, file⟩ := ends _ held
    cases file
  | turn _ held _ ih =>
    rw [List.mem_cons, not_or]
    refine ⟨?_, ih ne⟩
    rintro rfl
    obtain ⟨_, _, file⟩ := ends _ held
    cases file
  | last _ _ => simpa using ne

/-- A way that ends in a directory can be followed further, to something in it that leads
nowhere. -/
lemma append {mode : Nat} (walk : Walk disk links place rest seen stop)
    (held : disk.entry? stop = some (.directory mode)) (step : IsStep name)
    (ends : disk.Ends (stop ++ [name])) :
    Walk disk links place (rest ++ [name]) (seen ++ [stop ++ [name]]) (stop ++ [name]) := by
  induction walk with
  | stop => exact .last step ends
  | up _ ih => exact .up (ih held ends)
  | into first below _ ih => exact .into first below (ih held ends)
  | turn first link _ ih =>
    have further := ih held ends
    rw [List.append_assoc] at further
    exact .turn first link further
  | last _ closed =>
    obtain ⟨_, _, file⟩ := closed _ held
    cases file

/-- A file that comes to stand where a way leads over something else than a directory bars it. -/
lemma barred {key : List Text} {data : Bytes} {mode : Nat}
    (walk : Walk disk links place rest seen stop) (mem : key ∈ seen)
    (notDirectory : ∀ mode, disk.entry? key ≠ some (.directory mode))
    (elsewhere : ∀ place, place ≠ key → other.entry? place = disk.entry? place)
    (barrier : other.entry? key = some (.file data mode)) (name : Text) :
    other.enterAll links place (rest ++ [name]) = .error .notADirectory := by
  have ends : other.Ends key := by
    intro entry held
    exact ⟨data, mode, Option.some.inj (held.symm.trans barrier)⟩
  induction walk with
  | stop => cases mem
  | up _ ih => exact enterAll_up.trans (ih mem)
  | @into _ place part rest _ _ _ step held _ ih =>
    have ne : place ++ [part] ≠ key := by
      rintro rfl
      exact notDirectory _ held
    rw [← elsewhere _ ne] at held
    refine (enterAll_into step held).trans (ih ?_)
    exact (List.mem_cons.1 mem).resolve_left (Ne.symm ne)
  | @turn _ place part rest target _ _ step held _ ih =>
    by_cases here : place ++ [part] = key
    · rw [← here] at ends barrier
      rw [List.cons_append, enterAll_ends step ends, barrier]
      simp
    · rw [← elsewhere _ here] at held
      rw [List.cons_append, enterAll_turn step held, ← List.append_assoc]
      exact ih ((List.mem_cons.1 mem).resolve_left (Ne.symm here))
  | @last _ place part step _ =>
    rw [List.mem_singleton.1 mem] at ends barrier
    rw [List.singleton_append, enterAll_ends step ends, barrier]
    rfl

end Walk

variable {path : Path} {folder : List Text}

/-- A path leads to a place exactly if it is short enough and a way along its components ends there.
-/
lemma look_eq_ok :
    disk.look path = .ok (stop, found) ↔
      byteSize path.toText ≤ pathLimit ∧ found = disk.entry? stop ∧
        ∃ seen, Walk disk linkLimit [] path.components seen stop := by
  rw [look]
  by_cases long : pathLimit < byteSize path.toText
  · simp [long]
  · simp only [long, if_false, Nat.not_lt.1 long, true_and, enterAll_eq_ok]

/-- A path is that of a directory exactly if one stands where it leads. -/
lemma directory_eq_ok :
    disk.directory path = .ok folder ↔
      ∃ mode, disk.look path = .ok (folder, some (.directory mode)) := by
  unfold directory
  split <;> simp_all

/-- A path names a place in the directory that leads to it. -/
lemma slot_eq_ok :
    disk.slot path = .ok place ↔
      byteSize path.toText ≤ pathLimit ∧ path.components ≠ [] ∧ IsStep path.name ∧
        ∃ folder, disk.directory path.parent = .ok folder ∧ place = folder ++ [path.name] := by
  constructor
  · intro named
    unfold slot at named
    split at named
    · cases named
    rename_i short
    split at named
    · cases named
    rename_i folder led
    split at named
    · cases named
    rename_i regular
    split at named
    · cases named
    rename_i shortName
    rw [not_or, List.isEmpty_iff] at regular
    cases named
    exact ⟨Nat.not_lt.1 short, regular.1, ⟨regular.2, Nat.not_lt.1 shortName⟩, folder, led, rfl⟩
  · rintro ⟨short, filled, step, folder, led, rfl⟩
    have regular : ¬ (path.components.isEmpty ∨ path.name = Path.up) := by
      rw [not_or, List.isEmpty_iff]
      exact ⟨filled, step.ne_up⟩
    simp only [slot, led, if_neg (Nat.not_lt.2 short), if_neg regular,
      if_neg (Nat.not_lt.2 step.short)]

end Retouch.Disk
