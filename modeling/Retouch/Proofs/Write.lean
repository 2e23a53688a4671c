import Mathlib
import Retouch.Proofs.Numeral
import Retouch.Proofs.Walk

/-!
# Writing all or nothing

A file is written under a temporary name first. That file stands where nothing stood, so no way led
over it and none is changed by it (`Disk.Aside`): the path names the same place and leads to
something of the same mode as before. Removing the file brings back the disk as it was, and moving
it replaces one entry. Whatever the operating system refuses, a write therefore changes one entry or
nothing (`Disk.write_all_or_nothing`).
-/

namespace Retouch.Disk

variable {disk other : Disk} {key place folder stop : List Text} {path : Path} {entry : Entry}
    {data : Bytes} {mode : Nat}

/-! ## Putting and removing -/

/-- Of two entries for one place the second one stays. -/
lemma set_set (disk : Disk) (place : List Text) (first second : Entry) :
    (disk.set place first).set place second = disk.set place second := by
  have entries (held : List (List Text × Entry)) :
      setEntry place second (setEntry place first held) = setEntry place second held := by
    induction held with
    | nil => simp [setEntry]
    | cons head held ih =>
      obtain ⟨at', old⟩ := head
      by_cases here : at' = place
      · simp [setEntry, here]
      · simp [setEntry, here, ih]
  exact congrArg Disk.mk (entries disk.entries)

/-- Where nothing stood, putting something and removing it again leaves the disk as it was. -/
lemma erase_set (below : key ≠ []) (free : disk.entry? key = none) (entry : Entry) :
    (disk.set key entry).erase key = disk := by
  have entries (held : List (List Text × Entry)) (absent : held.lookup key = none) :
      (setEntry key entry held).filter (fun other => other.1 ≠ key) = held := by
    induction held with
    | nil => simp [setEntry]
    | cons head held ih =>
      obtain ⟨at', old⟩ := head
      rw [lookup_cons] at absent
      split at absent
      · cases absent
      · rename_i ne
        rw [setEntry, if_neg (Ne.symm ne),
          List.filter_cons_of_pos (by simpa using Ne.symm ne), ih absent]
  rw [entry?_below below] at free
  exact congrArg Disk.mk (entries disk.entries free)

/-! ## A file on the side -/

/-- Disks that are the same but for one place, where on both of them nothing stands or a file. -/
structure Aside (key : List Text) (disk other : Disk) : Prop where
  elsewhere : ∀ place, place ≠ key → other.entry? place = disk.entry? place
  before : disk.Ends key
  after : other.Ends key

/-- A way ends where nothing stands. -/
lemma ends_of_free (free : disk.entry? key = none) : disk.Ends key := by
  intro entry held
  rw [free] at held
  cases held

/-- A way ends at a file. -/
lemma ends_of_file (held : disk.entry? key = some (.file data mode)) : disk.Ends key :=
  fun _ again => ⟨data, mode, Option.some.inj (again.symm.trans held)⟩

/-- A file that is put where nothing stood makes no difference elsewhere. -/
lemma aside_set (below : key ≠ []) (free : disk.entry? key = none) (data : Bytes) (mode : Nat) :
    Aside key disk (disk.set key (.file data mode)) where
  elsewhere _ ne := entry?_set_of_ne ne
  before := ends_of_free free
  after := ends_of_file (entry?_set below)

namespace Aside

/-- Neither of two disks that differ at one place comes first. -/
lemma symm (aside : Aside key disk other) : Aside key other disk :=
  ⟨fun place ne => (aside.elsewhere place ne).symm, aside.after, aside.before⟩

/-- A path that leads elsewhere leads there on both disks. -/
lemma look (aside : Aside key disk other) {found : Option Entry} (ne : key ≠ stop)
    (led : disk.look path = .ok (stop, found)) : other.look path = .ok (stop, found) := by
  obtain ⟨short, rfl, seen, walk⟩ := look_eq_ok.1 led
  refine look_eq_ok.2 ⟨short, (aside.elsewhere stop (Ne.symm ne)).symm, seen,
    walk.agree fun place mem => ?_⟩
  refine aside.elsewhere place ?_
  rintro rfl
  exact walk.off aside.before ne mem

/-- A path to a directory leads to it on both disks. -/
lemma directory (aside : Aside key disk other) (led : disk.directory path = .ok folder) :
    other.directory path = .ok folder := by
  obtain ⟨mode, led⟩ := directory_eq_ok.1 led
  have held := (look_eq_ok.1 led).2.1
  refine directory_eq_ok.2 ⟨mode, aside.look ?_ led⟩
  rintro rfl
  obtain ⟨_, _, file⟩ := aside.before _ held.symm
  cases file

/-- A path names the same place on both disks. -/
lemma slot_iff (aside : Aside key disk other) :
    other.slot path = .ok place ↔ disk.slot path = .ok place := by
  have forth {first second : Disk} (between : Aside key first second)
      (named : first.slot path = .ok place) :
      second.slot path = .ok place := by
    obtain ⟨short, filled, step, folder, led, same⟩ := slot_eq_ok.1 named
    exact slot_eq_ok.2 ⟨short, filled, step, folder, between.directory led, same⟩
  exact ⟨forth aside.symm, forth aside⟩

end Aside

/-- A path has the mode of what stands where it leads. -/
lemma mode?_eq_some :
    disk.mode? path = some mode ↔
      ∃ stop entry, disk.look path = .ok (stop, some entry) ∧ entry.mode = mode := by
  unfold mode?
  split <;> simp_all

/-- The temporary file does not change which mode is kept: a path that led to nothing may lead to
it, but it has the mode of new files. -/
lemma modeToKeep_set (below : key ≠ []) (free : disk.entry? key = none) (faults : Faults) :
    (disk.set key (.file data newMode)).modeToKeep faults path = disk.modeToKeep faults path := by
  have aside := aside_set below free data newMode
  have kept : ((disk.set key (.file data newMode)).mode? path).getD newMode =
      (disk.mode? path).getD newMode := by
    cases before : disk.mode? path with
    | some mode =>
      obtain ⟨stop, entry, led, same⟩ := mode?_eq_some.1 before
      have ne : key ≠ stop := by
        rintro rfl
        cases (look_eq_ok.1 led).2.1.trans free
      rw [mode?_eq_some.2 ⟨stop, entry, aside.look ne led, same⟩]
    | none =>
      -- The path may lead to something now, but then it leads to the temporary file.
      cases after : (disk.set key (.file data newMode)).mode? path with
      | none => rfl
      | some mode =>
        obtain ⟨stop, entry, led, same⟩ := mode?_eq_some.1 after
        by_cases here : key = stop
        · have held := (look_eq_ok.1 led).2.1
          rw [← here, entry?_set below, Option.some.injEq] at held
          rw [← same, held]
          rfl
        · rw [mode?_eq_some.2 ⟨stop, entry, aside.symm.look here led, same⟩] at before
          cases before
  rw [modeToKeep, modeToKeep, kept]

/-! ## Writing -/

/-- The topmost directory has no name. -/
lemma below_of_slot (named : disk.slot path = .ok place) : place ≠ [] := by
  obtain ⟨_, _, _, _, _, rfl⟩ := slot_eq_ok.1 named
  exact List.append_ne_nil_of_right_ne_nil _ (List.cons_ne_nil _ _)

/-- A temporary name is longer than the name that it is for. -/
lemma temporaryName_ne (path : Path) (random : Text) : temporaryName path random ≠ path.name := by
  intro same
  have lengths := congrArg List.length same
  simp [temporaryName, Text.ofString] at lengths
  omega

/-- Nothing has the temporary name where the temporary file is created. -/
def Fresh (disk : Disk) (path : Path) (random : Text) : Prop :=
  ∀ key, disk.slot (temporaryPath path random) = .ok key → disk.entry? key = none

/-- A write that nothing stands against: the operating system can be given both paths and refuses no
step, the temporary file can be created, and the path names a place where no directory stands. -/
structure Admits (disk : Disk) (faults : Faults) (random : Text) (path : Path)
    (place : List Text) : Prop where
  given : path.refusal? = none
  create : faults.create = none
  fill : faults.fill = none
  move : faults.move = none
  givenAside : (temporaryPath path random).refusal? = none
  aside : ∃ key, disk.slot (temporaryPath path random) = .ok key
  named : disk.slot path = .ok place
  noDirectory : ∀ mode, disk.entry? place ≠ some (.directory mode)

section Steps

variable {faults : Faults} {random : Text}

/-- The temporary file stands elsewhere than the file that it is for. -/
lemma place_ne (aside : disk.slot (temporaryPath path random) = .ok key)
    (named : disk.slot path = .ok place) : place ≠ key := by
  obtain ⟨_, _, _, _, _, rfl⟩ := slot_eq_ok.1 aside
  obtain ⟨_, _, _, _, _, rfl⟩ := slot_eq_ok.1 named
  intro same
  have last : path.name = (temporaryPath path random).name :=
    (List.append_inj' same rfl).2 |> List.singleton_inj.1
  refine temporaryName_ne path random (Eq.trans ?_ last.symm)
  simp [Path.name, temporaryPath]

/-- A file is created where nothing stands. -/
lemma create_of_free (named : disk.slot path = .ok key) (free : disk.entry? key = none) :
    disk.create path = .ok (key, disk.set key (.file [] newMode)) := by
  simp [create, named, free]

/-- A file that stands where nothing stood is moved to a place where no directory stands. -/
lemma move_of_named (below : key ≠ []) (free : disk.entry? key = none)
    (named : disk.slot path = .ok place) (ne : place ≠ key)
    (noDirectory : ∀ mode, disk.entry? place ≠ some (.directory mode)) :
    (disk.set key (.file data mode)).move key path = .ok (disk.set place (.file data mode)) := by
  have still : (disk.set key (.file data mode)).slot path = .ok place :=
    (aside_set below free data mode).slot_iff.2 named
  have target : entry? (disk.set key (.file data mode)) place = disk.entry? place :=
    entry?_set_of_ne ne
  simp only [move, still, target, entry?_set below]
  rw [erase_set below free]

/-- A file is not moved to a path that names no place, or that of a directory. -/
lemma move_refused (below : key ≠ []) (free : disk.entry? key = none)
    (aside : disk.slot (temporaryPath path random) = .ok key)
    (against : ∀ place, disk.slot path = .ok place →
      ∃ mode, disk.entry? place = some (.directory mode))
    (data : Bytes) (mode : Nat) :
    ∃ error, (disk.set key (.file data mode)).move key path = .error error := by
  cases named : (disk.set key (.file data mode)).slot path with
  | error error => exact ⟨error, by simp [move, named]⟩
  | ok place =>
    have before := (aside_set below free data mode).slot_iff.1 named
    obtain ⟨held, directory⟩ := against place before
    have target : entry? (disk.set key (.file data mode)) place = disk.entry? place :=
      entry?_set_of_ne (place_ne aside before)
    exact ⟨.isADirectory, by simp only [move, named, target, directory]⟩

/-- Where it is moved is decided by the disk as it was: the temporary file is in nobody's way. -/
lemma move_cases (below : key ≠ []) (free : disk.entry? key = none)
    (aside : disk.slot (temporaryPath path random) = .ok key) (data : Bytes) (mode : Nat) :
    (∃ place, disk.slot path = .ok place ∧ (∀ mode, disk.entry? place ≠ some (.directory mode)) ∧
      (disk.set key (.file data mode)).move key path = .ok (disk.set place (.file data mode))) ∨
    (∀ place, disk.slot path = .ok place → ∃ mode, disk.entry? place = some (.directory mode)) ∧
      ∃ error, (disk.set key (.file data mode)).move key path = .error error := by
  by_cases against : ∀ place, disk.slot path = .ok place →
      ∃ mode, disk.entry? place = some (.directory mode)
  · exact .inr ⟨against, move_refused below free aside against data mode⟩
  · push Not at against
    obtain ⟨place, named, noDirectory⟩ := against
    exact .inl ⟨place, named, noDirectory,
      move_of_named below free named (place_ne aside named) noDirectory⟩

/-- Removing the temporary file brings back the disk as it was. -/
lemma clear_set (removable : faults.remove = false) (below : key ≠ [])
    (free : disk.entry? key = none) (entry : Entry) :
    faults.clear key (disk.set key entry) = disk := by
  simp [Faults.clear, removable, erase_set below free]

/-- What a write comes to: if nothing stands against it, one entry is changed, and otherwise it
fails and the disk is as it was. -/
inductive ComesTo (faults : Faults) (random : Text) (path : Path) (data : Bytes) (disk : Disk) :
    Except StoreError Unit × Disk → Prop where
  | replaced {place : List Text} :
    disk.Admits faults random path place →
    ComesTo faults random path data disk
      (.ok (), disk.set place (.file data (disk.modeToKeep faults path)))
  | kept {error : StoreError} :
    (∀ place, ¬ disk.Admits faults random path place) →
    ComesTo faults random path data disk (.error error, disk)

/-- The temporary file that a write has created is moved to where the path names a place, and every
failure removes it again. -/
lemma comesTo_of_created (removable : faults.remove = false)
    (givenAside : (temporaryPath path random).refusal? = none) (create : faults.create = none)
    (aside : disk.slot (temporaryPath path random) = .ok key) (free : disk.entry? key = none)
    (data : Bytes) :
    ComesTo faults random path data disk (writeThrough faults random disk path data) := by
  have below := below_of_slot aside
  simp only [writeThrough, givenAside, create, create_of_free aside free, Faults.meet, set_set,
    modeToKeep_set below free, clear_set removable below free]
  cases fill : faults.fill with
  | some fault =>
    refine .kept fun place admits => ?_
    cases admits.fill.symm.trans fill
  | none =>
    cases given : path.refusal? with
    | some error =>
      refine .kept fun place admits => ?_
      cases admits.given.symm.trans given
    | none =>
      cases move : faults.move with
      | some error =>
        refine .kept fun place admits => ?_
        cases admits.move.symm.trans move
      | none =>
        rcases move_cases below free aside data (disk.modeToKeep faults path) with
          ⟨place, named, noDirectory, moved⟩ | ⟨against, error, refused⟩
        · simp only [moved]
          exact .replaced
            ⟨given, create, fill, move, givenAside, ⟨key, aside⟩, named, noDirectory⟩
        · simp only [refused]
          refine .kept fun place admits => ?_
          obtain ⟨mode, held⟩ := against place admits.named
          exact admits.noDirectory mode held

/-- A write that something stands against leaves the disk as it was, and one that nothing stands
against changes one entry. -/
lemma comesTo_writeThrough (removable : faults.remove = false) (fresh : disk.Fresh path random)
    (data : Bytes) :
    ComesTo faults random path data disk (writeThrough faults random disk path data) := by
  cases givenAside : (temporaryPath path random).refusal? with
  | some error =>
    rw [writeThrough, givenAside]
    refine .kept fun place admits => ?_
    cases admits.givenAside.symm.trans givenAside
  | none =>
    cases create : faults.create with
    | some error =>
      rw [writeThrough, givenAside, create]
      refine .kept fun place admits => ?_
      cases admits.create.symm.trans create
    | none =>
      cases aside : disk.slot (temporaryPath path random) with
      | error error =>
        simp only [writeThrough, givenAside, create, Disk.create, aside, Faults.meet]
        refine .kept fun place admits => ?_
        obtain ⟨key, named⟩ := admits.aside
        cases named.symm.trans aside
      | ok key =>
        exact comesTo_of_created removable givenAside create aside (fresh key aside) data

end Steps

/-! ## Reading what was written -/

/-- The way that a path leads goes over a place. -/
def LeadsOver (disk : Disk) (path : Path) (key : List Text) : Prop :=
  ∃ seen stop, Walk disk linkLimit [] path.components seen stop ∧ key ∈ seen

/-- The components of a path are those of its directory, and its name. -/
lemma components_eq (filled : path.components ≠ []) :
    path.parent.components ++ [path.name] = path.components := by
  have last : path.name = path.components.getLast filled := by
    rw [Path.name, List.getLastD_eq_getLast?, List.getLast?_eq_some_getLast filled,
      Option.getD_some]
  rw [last]
  exact List.dropLast_concat_getLast filled

/-- A file that replaces what a path names is read under the path, unless it bars the way to
itself. -/
lemma read_replaced (given : path.refusal? = none) (named : disk.slot path = .ok place)
    (noDirectory : ∀ mode, disk.entry? place ≠ some (.directory mode)) :
    (disk.set place (.file data mode)).read path = .ok data ↔
      ¬ disk.LeadsOver path.parent place := by
  have now : entry? (disk.set place (.file data mode)) place = some (.file data mode) :=
    entry?_set (below_of_slot named)
  have elsewhere (key : List Text) (ne : key ≠ place) :
      entry? (disk.set place (.file data mode)) key = disk.entry? key := entry?_set_of_ne ne
  obtain ⟨short, filled, step, folder, led, rfl⟩ := slot_eq_ok.1 named
  obtain ⟨held, led⟩ := directory_eq_ok.1 led
  obtain ⟨_, directory, seen, walk⟩ := look_eq_ok.1 led
  constructor
  · rintro read ⟨_, _, way, mem⟩
    have barred := way.barred mem noDirectory elsewhere now path.name
    rw [components_eq filled] at barred
    rw [Disk.read, given, look, if_neg (Nat.not_lt.2 short), barred] at read
    cases read
  · intro off
    -- The way to the directory is as it was, and the file is one step further.
    have same : ∀ key ∈ seen, entry? (disk.set (folder ++ [path.name]) (.file data mode)) key =
        disk.entry? key := by
      intro key mem
      refine elsewhere key ?_
      rintro rfl
      exact off ⟨seen, folder, walk, mem⟩
    have home : entry? (disk.set (folder ++ [path.name]) (.file data mode)) folder =
        some (.directory held) :=
      (elsewhere folder (by simp)).trans directory.symm
    have further := (walk.agree same).append home step (ends_of_file now)
    rw [components_eq filled] at further
    rw [Disk.read, given, look_eq_ok.2 ⟨short, now.symm, _, further⟩]

/-- The way to a directory goes over something else in it only if that is a link. -/
lemma link_of_leadsOver (named : disk.slot path = .ok place)
    (noDirectory : ∀ mode, disk.entry? place ≠ some (.directory mode))
    (crosses : disk.LeadsOver path.parent place) :
    ∃ target, disk.entry? place = some (.link target) := by
  obtain ⟨_, _, _, folder, led, rfl⟩ := slot_eq_ok.1 named
  obtain ⟨mode, led⟩ := directory_eq_ok.1 led
  obtain ⟨_, _, way⟩ := look_eq_ok.1 led
  obtain ⟨seen, stop, walk, mem⟩ := crosses
  -- What leads nowhere is not on the way to its own directory.
  rcases disk.ends_or_leads (folder ++ [path.name]) with ends | ⟨mode, directory⟩ | link
  · obtain ⟨_, way⟩ := way
    have same : stop = folder := by
      have reached := walk.enterAll.symm.trans way.enterAll
      simp only [Except.ok.injEq, Prod.mk.injEq] at reached
      exact reached.1
    exact absurd mem (walk.off ends (by simp [same]))
  · exact absurd directory (noDirectory mode)
  · exact link

/-! ## Fresh names -/

/-- The names that things on a disk have in their directories. -/
def names (disk : Disk) : List Text :=
  disk.entries.map fun held => held.1.getLastD []

/-- Different digits make different temporary names. -/
lemma temporaryName_injective (path : Path) :
    Function.Injective fun n => temporaryName path (Text.hex 8 n) := by
  intro m n same
  have digits : Text.hex 8 m = Text.hex 8 n := by simpa [temporaryName] using same
  rw [← Text.hexNumber_hex 8 m, digits, Text.hexNumber_hex]

/-- The digits that are chosen make a temporary name that nothing on the disk has. -/
lemma freshDigits_not_mem (disk : Disk) (path : Path) :
    temporaryName path (disk.freshDigits path) ∉ disk.names := by
  change temporaryName path
    ((((List.range (disk.names.length + 1)).map (Text.hex 8)).find? fun digits =>
    !disk.names.contains (temporaryName path digits)).getD (Text.hex 8 0)) ∉ disk.names
  cases found : ((List.range (disk.names.length + 1)).map (Text.hex 8)).find? fun digits =>
      !disk.names.contains (temporaryName path digits) with
  | some digits => simpa using List.find?_some found
  | none =>
    -- More numbers would make names that are taken than names are taken.
    have taken : (List.range (disk.names.length + 1)).map
        (fun n => temporaryName path (Text.hex 8 n)) ⊆ disk.names := by
      intro name mem
      obtain ⟨n, listed, rfl⟩ := List.mem_map.1 mem
      simpa using List.find?_eq_none.1 found (Text.hex 8 n) (List.mem_map_of_mem listed)
    have distinct : ((List.range (disk.names.length + 1)).map
        fun n => temporaryName path (Text.hex 8 n)).Nodup :=
      List.nodup_range.map (temporaryName_injective path)
    have fits := (List.subperm_of_subset distinct taken).length_le
    rw [List.length_map, List.length_range] at fits
    omega

/-- The digits that are chosen are fresh. -/
lemma fresh_freshDigits (disk : Disk) (path : Path) : disk.Fresh path (disk.freshDigits path) := by
  intro key named
  rw [entry?_below (below_of_slot named)]
  obtain ⟨_, _, _, folder, _, rfl⟩ := slot_eq_ok.1 named
  cases held :
    disk.entries.lookup (folder ++ [(temporaryPath path (disk.freshDigits path)).name]) with
  | none => rfl
  | some entry =>
    obtain ⟨front, back, split, _⟩ := List.lookup_eq_some_iff.1 held
    refine absurd ?_ (disk.freshDigits_not_mem path)
    rw [names, split]
    simp [temporaryPath, Path.name]

/-! ## All or nothing -/

/-- One disk is another on which a file has replaced what a path names. It has the mode of what the
path led to, if that could be copied, and is read under the path unless the way to its directory
goes over the link that it has replaced. -/
structure Replaced (faults : Faults) (path : Path) (data : Bytes) (place : List Text)
    (before after : Disk) : Prop where
  named : before.slot path = .ok place
  held : after.entry? place =
      some (.file data (if faults.copyMode then 0o600 else (before.mode? path).getD 0o600))
  elsewhere : ∀ other, other ≠ place → after.entry? other = before.entry? other
  read : after.read path = .ok data ↔ ¬ before.LeadsOver path.parent place
  link : before.LeadsOver path.parent place → ∃ target, before.entry? place = some (.link target)

/-- A write that replaces what its path names if nothing stands against it, and otherwise fails and
leaves the disk as it was. The temporary file is gone in either case. -/
structure AllOrNothing (faults : Faults) (random : Text) (path : Path) (data : Bytes)
    (before : Disk) (outcome : Except StoreError Unit × Disk) : Prop where
  succeeds : outcome.1 = .ok () ↔ ∃ place, before.Admits faults random path place
  all : outcome.1 = .ok () → ∃ place, Replaced faults path data place before outcome.2
  nothing : ∀ error, outcome.1 = .error error → outcome.2 = before
  clean : ∀ key, before.slot (temporaryPath path random) = .ok key → entry? outcome.2 key = none

section Outcome

variable {faults : Faults} {random : Text}

/-- A write that nothing stands against replaces the file. -/
lemma Admits.replaced (admits : disk.Admits faults random path place) (data : Bytes) :
    Replaced faults path data place disk
      (disk.set place (.file data (disk.modeToKeep faults path))) where
  named := admits.named
  held := entry?_set (below_of_slot admits.named)
  elsewhere _ ne := entry?_set_of_ne ne
  read := read_replaced admits.given admits.named admits.noDirectory
  link := link_of_leadsOver admits.named admits.noDirectory

/-- A write replaces the file, or it leaves the disk as it is. -/
lemma allOrNothing_writeThrough (removable : faults.remove = false) (fresh : disk.Fresh path random)
    (data : Bytes) :
    AllOrNothing faults random path data disk (writeThrough faults random disk path data) := by
  have outcome := comesTo_writeThrough removable fresh data
  generalize writeThrough faults random disk path data = result at outcome ⊢
  cases outcome with
  | @replaced place admits =>
    refine ⟨iff_of_true rfl ⟨place, admits⟩, fun _ => ⟨place, admits.replaced data⟩,
      fun _ failed => ?_, fun key aside => ?_⟩
    · cases failed
    · rw [entry?_set_of_ne (place_ne aside admits.named).symm]
      exact fresh key aside
  | kept never =>
    refine ⟨iff_of_false (fun done => ?_) (not_exists.2 never), fun done => ?_,
      fun _ _ => rfl, fresh⟩
    · cases done
    · cases done

end Outcome

/-- Whatever the operating system refuses, a write is all or nothing, provided that the temporary
name is fresh and that the temporary file can be removed. -/
theorem write_all_or_nothing (disk : Disk) (path : Path) (data : Bytes) :
    (∀ faults random, faults.remove = false → disk.Fresh path random →
      AllOrNothing faults random path data disk (writeThrough faults random disk path data)) ∧
    AllOrNothing .none (disk.freshDigits path) path data disk (disk.write path data) :=
  ⟨fun _ _ removable fresh => allOrNothing_writeThrough removable fresh data,
    allOrNothing_writeThrough rfl (disk.fresh_freshDigits path) data⟩

namespace Sample

/-- A directory with a file of a mode of its own, and a link to the directory. -/
def linked : Disk :=
  ⟨[(["d"], .directory), (["d", "a"], .file [1, 2] 0o640), (["l"], .link ⟨.here, ["d"]⟩)]⟩

/-- The file, over the link. -/
def file : Path :=
  ⟨.slash, ["l", "a"]⟩

/-- A disk that is full after one more byte. -/
def full : Faults :=
  { Faults.none with fill := some (1, .other 28 "No space left on device") }

/-- Nothing on the disk has the temporary name for the file. -/
lemma fresh_file : linked.Fresh file "x" := by
  intro key named
  have place : linked.slot (temporaryPath file "x") = .ok ["d", ".a.x.tmp"] := by decide +kernel
  cases named.symm.trans place
  decide +kernel

end Sample

/-- On a full disk nothing changes, and otherwise a file behind a link is replaced and keeps its
mode. -/
theorem write_all_or_nothing_sample :
    (Sample.full.remove = false ∧ Sample.linked.Fresh Sample.file "x" ∧
      (writeThrough Sample.full "x" Sample.linked Sample.file [3, 4]).2 = Sample.linked) ∧
    Replaced .none Sample.file [3, 4] ["d", "a"] Sample.linked
      (Sample.linked.write Sample.file [3, 4]).2 ∧
    Sample.linked.mode? Sample.file = some 0o640 := by
  obtain ⟨refused, written⟩ := write_all_or_nothing Sample.linked Sample.file [3, 4]
  have failed : (writeThrough Sample.full "x" Sample.linked Sample.file [3, 4]).1 =
      .error (.system (.other 28 "No space left on device") Sample.file) := by decide +kernel
  have kept := (refused Sample.full "x" rfl Sample.fresh_file).nothing _ failed
  obtain ⟨place, replaced⟩ := written.all (by decide +kernel)
  have named : Sample.linked.slot Sample.file = .ok ["d", "a"] := by decide +kernel
  cases replaced.named.symm.trans named
  exact ⟨⟨rfl, Sample.fresh_file, kept⟩, replaced, by decide +kernel⟩

-- What two dots take back is not in the path of the temporary file. It is created here, and goes
-- again when the path turns out to hold a lone surrogate, which has no bytes in a name.
example : (Sample.linked.write ⟨.slash, ["d", [0xD800], "..", "a"]⟩ [3]).2 = Sample.linked :=
  rfl

/-- A file that is written over a link on the way to itself is not read under its path. -/
theorem write_bars_own_path :
    let path : Path := ⟨.slash, ["l", "..", "l"]⟩
    (Sample.linked.write path [3]).1 = .ok () ∧
      entry? (Sample.linked.write path [3]).2 ["l"] = some (.file [3] 0o755) ∧
      (Sample.linked.write path [3]).2.read path = .error (.system .notADirectory path) := by
  decide +kernel

end Retouch.Disk
