import Mathlib
import Retouch.Proofs.Memory
import Retouch.Proofs.Outcome
import Retouch.Proofs.Tree

/-!
# Sessions on a store in memory

The effect of a request on a store in memory is one of two: the store is kept and no change is
reported, or one existing file is written (`Effect`). What a session does to a store follows by
induction from what an effect does: no operation leaves anything half done
(`Editor.session_atomic`), and with verification switched on nothing that does not parse is ever
written (`Editor.session_parsable`).
-/

namespace Retouch

/-- What a change has done to a store in memory, judged by its report: nothing, unless it reports a
change. If it does, the one file that it names held the source code of the plan before and holds the
edited source code now, and nothing else is different but the log of writes. -/
structure MutationReport.Accounts (report : MutationReport)
    (plans : Path → Document → List Edit → Prop) (before after : MemoryStore) : Prop where
  kept : report.success = false ∨ report.changed = false → after = before
  wrote : report.changed = true →
    report.success = true ∧ ∃ path document edits bytes,
      report.filePath = some path.toText ∧ plans path document edits ∧
      before.get? path = some document.source ∧
      Edit.render document.source edits = .ok bytes ∧ after.get? path = some bytes ∧
      (∀ other, other ≠ path → after.get? other = before.get? other) ∧
      after.writes = before.writes ++ [path] ∧ after.refusesWrites = before.refusesWrites

/-- Source code that parses in the language of its path: no node of its tree is an error or
missing. -/
def Editor.Parsable (editor : Editor) (path : Path) (bytes : Bytes) : Prop :=
  ∃ language, Language.ofPath path = .ok language ∧
    ∀ node ∈ (editor.grammar language bytes).preorder, node.kind ≠ .error ∧ node.missing = false

namespace Editor

variable {editor : Editor} {root : Path}

/-- What a request does to a store in memory. -/
inductive Effect (editor : Editor) (root : Path) (before : MemoryStore) (request : Request) :
    Answer → MemoryStore → Prop where
  | kept {answer : Answer} :
    answer.changed = false →
    Effect editor root before request answer before
  | wrote {path : Path} {document : Document} {edits : List Edit} {bytes : Bytes} :
    editor.Plans before root request path document edits →
    editor.output path document edits = .ok bytes →
    Effect editor root before request (.mutation (.done path true)) (before.written path bytes)

/-- The file that a plan changes exists. -/
lemma Plans.held {store : MemoryStore} {request : Request} {path : Path} {document : Document}
    {edits : List Edit} (plans : editor.Plans store root request path document edits) :
    store.get? path = some document.source :=
  MemoryStore.get?_of_read plans.read

/-- Edits are carried out and written, or nothing happens to a store in memory. -/
lemma commit_cases (editor : Editor) (store : MemoryStore) (path : Path) (document : Document)
    (edits : List Edit) :
    (∃ failure, editor.commit store path document edits = (.failed failure, store)) ∨
      ∃ bytes, editor.output path document edits = .ok bytes ∧
        editor.commit store path document edits = (.done path true, store.written path bytes) := by
  unfold commit
  split
  · exact .inl ⟨_, rfl⟩
  · rename_i bytes output
    rcases store.write_cases path bytes with refused | wrote
    · exact .inl ⟨.unwritable path (.refused path), by simp [Store.write, refused]⟩
    · exact .inr ⟨bytes, output, by simp [Store.write, wrote]⟩

/-- Carrying out a plan has one of the two effects. -/
lemma Plans.effect {store : MemoryStore} {request : Request} {path : Path} {document : Document}
    {edits : List Edit} (plans : editor.Plans store root request path document edits) :
    Effect editor root store request (.mutation (editor.commit store path document edits).1)
      (editor.commit store path document edits).2 := by
  rcases commit_cases editor store path document edits with
    ⟨failure, failed⟩ | ⟨bytes, output, done⟩
  · rw [failed]
    exact .kept rfl
  · rw [done]
    exact .wrote plans output

/-- Every request has one of the two effects. -/
lemma answer_effect (editor : Editor) (root : Path) (store : MemoryStore) (request : Request) :
    Effect editor root store request (editor.answer root store request).1
      (editor.answer root store request).2 := by
  cases request with
  | analyze id => exact .kept rfl
  | update id updates =>
    rcases update_cases editor store root id updates with
      ⟨report, unchanged, h⟩ | ⟨_, _, _, plans, h⟩
    · simp only [answer, h]
      exact .kept unchanged
    · simp only [answer, h]
      exact plans.effect
  | delete id =>
    rcases delete_cases editor store root id with ⟨report, unchanged, h⟩ | ⟨_, _, _, plans, h⟩
    · simp only [answer, h]
      exact .kept unchanged
    · simp only [answer, h]
      exact plans.effect

/-- An effect is accounted for by the report on it. -/
lemma Effect.accounts {before after : MemoryStore} {request : Request} {report : MutationReport}
    (effect : Effect editor root before request (.mutation report) after) :
    report.Accounts (editor.Plans before root request) before after := by
  cases effect with
  | kept unchanged =>
    exact ⟨fun _ => rfl, fun changed => absurd (unchanged.symm.trans changed) Bool.false_ne_true⟩
  | @wrote path document edits bytes plans output =>
    refine ⟨fun h => ?_, fun _ => ⟨rfl, path, document, edits, bytes, rfl, plans, plans.held, ?_⟩⟩
    · rcases h with h | h <;> cases h
    · exact ⟨(output_eq_ok output).1, before.get?_written path bytes,
        fun other ne => before.get?_written_of_ne ne bytes, rfl, rfl⟩

/-- Effects neither add files nor take them away. -/
lemma Effect.paths {before after : MemoryStore} {request : Request} {answer : Answer}
    (effect : Effect editor root before request answer after) : after.paths = before.paths := by
  cases effect with
  | kept _ => rfl
  | wrote plans _ => exact MemoryStore.paths_written plans.held _

/-- The log of writes grows by one if a change is reported, and not at all otherwise. -/
lemma Effect.writes_length {before after : MemoryStore} {request : Request} {answer : Answer}
    (effect : Effect editor root before request answer after) :
    after.writes.length = before.writes.length + if answer.changed then 1 else 0 := by
  cases effect with
  | kept unchanged => simp [unchanged]
  | wrote _ _ => simp [MemoryStore.written, Answer.changed, MutationReport.done]

/-- With verification switched on, what an effect puts into a file parses. -/
lemma Effect.parsable {before after : MemoryStore} {request : Request} {answer : Answer}
    (verified : editor.settings.verifyOutput = true)
    (effect : Effect editor root before request answer after) {path : Path} {bytes : Bytes}
    (held : after.get? path = some bytes) :
    before.get? path = some bytes ∨ editor.Parsable path bytes := by
  cases effect with
  | kept _ => exact .inl held
  | @wrote target document edits written plans output =>
    by_cases same : path = target
    · subst same
      rw [MemoryStore.get?_written, Option.some.injEq] at held
      subst held
      have clean := (output_eq_ok output).2 verified
      refine .inr ⟨document.language, plans.language, fun node mem => ?_⟩
      -- a tree without a fault has no node that is one
      have sound : node.isFault ≠ true := fun fault =>
        absurd ((Node.hasFault_iff _).2 ⟨node, mem, fault⟩) (by simp [clean])
      simpa [Node.isFault, not_or] using sound
    · rw [before.get?_written_of_ne same] at held
      exact .inl held

/-- What every effect preserves holds after a session if it held before. -/
lemma session_invariant (inv : MemoryStore → Prop)
    (step : ∀ {before after : MemoryStore} {request : Request} {answer : Answer},
      Effect editor root before request answer after → inv before → inv after)
    {store : MemoryStore} (start : inv store) (requests : List Request) :
    inv (editor.session root store requests).2 := by
  induction requests generalizing store with
  | nil => exact start
  | cons request requests ih => exact ih (step (answer_effect editor root store request) start)

/-- After a session the log of writes has grown by the number of reported changes. -/
lemma session_writes_length (editor : Editor) (root : Path) (store : MemoryStore)
    (requests : List Request) :
    (editor.session root store requests).2.writes.length =
      store.writes.length + (editor.session root store requests).1.countP (·.changed) := by
  induction requests generalizing store with
  | nil => rfl
  | cons request requests ih =>
    have first := (answer_effect editor root store request).writes_length
    simp only [session, List.countP_cons, ih, first]
    omega

/-- Updates whose parts are of any form are refused without a trace, or they are updates. -/
lemma callUpdate_accounts (editor : Editor) (root : Path) (store : MemoryStore) (id : Text)
    (updates : Value) :
    (editor.callUpdate store root (.text id) updates).1.Accounts
      (fun path document edits => ∃ checked, Updates.check updates = .valid checked ∧
        editor.Plans store root (.update id checked) path document edits)
      store (editor.callUpdate store root (.text id) updates).2 := by
  unfold callUpdate
  cases check : Updates.check updates with
  | invalid issues => exact ⟨fun _ => rfl, nofun⟩
  | valid checked =>
    have accounts := (answer_effect editor root store (.update id checked)).accounts
    refine ⟨accounts.kept, fun changed => ?_⟩
    obtain ⟨success, path, document, edits, bytes, named, plans, rest⟩ := accounts.wrote changed
    exact ⟨success, path, document, edits, bytes, named, ⟨checked, rfl, plans⟩, rest⟩

/-- No operation leaves anything half done. An analysis never changes a store. An update or a
deletion that fails or reports no change leaves files and log as they were, and one that reports a
change has replaced the content of the one file that it names, which existed, by the edited content,
and has logged that path. So a session of any length keeps the paths of all files, and its log grows
by the number of changes that it reports. -/
theorem session_atomic (editor : Editor) (root : Path) (store : MemoryStore) :
    (∀ id, (editor.answer root store (.analyze id)).2 = store) ∧
      (∀ id updates, (editor.update store root id updates).1.Accounts
        (editor.Plans store root (.update id updates)) store
          (editor.update store root id updates).2) ∧
      (∀ id updates, (editor.callUpdate store root (.text id) updates).1.Accounts
        (fun path document edits => ∃ checked, Updates.check updates = .valid checked ∧
          editor.Plans store root (.update id checked) path document edits)
        store (editor.callUpdate store root (.text id) updates).2) ∧
      (∀ id, (editor.delete store root id).1.Accounts
        (editor.Plans store root (.delete id)) store (editor.delete store root id).2) ∧
      ∀ requests, (editor.session root store requests).2.paths = store.paths ∧
        (editor.session root store requests).2.writes.length =
          store.writes.length + (editor.session root store requests).1.countP (·.changed) := by
  refine ⟨fun id => rfl, fun id updates => ?_, callUpdate_accounts editor root store, fun id => ?_,
    fun requests => ⟨?_, session_writes_length editor root store requests⟩⟩
  · exact (answer_effect editor root store (.update id updates)).accounts
  · exact (answer_effect editor root store (.delete id)).accounts
  · exact session_invariant (fun last => last.paths = store.paths)
      (fun effect same => effect.paths.trans same) rfl requests

/-- With verification switched on nothing that does not parse is ever written: after every step of a
session every file holds what it held at the start of the session, or source code that parses in the
language of its own path. -/
theorem session_parsable (editor : Editor) (root : Path) (store : MemoryStore)
    (verified : editor.settings.verifyOutput = true) (requests : List Request) (steps : Nat)
    {path : Path} {bytes : Bytes}
    (held : (editor.session root store (requests.take steps)).2.get? path = some bytes) :
    store.get? path = some bytes ∨ editor.Parsable path bytes := by
  -- the invariant speaks of all files at once, since each step may write another one
  refine session_invariant
    (fun last => ∀ path bytes, last.get? path = some bytes →
      store.get? path = some bytes ∨ editor.Parsable path bytes)
    (fun effect before path bytes held => ?_) (fun _ _ held => .inl held)
      (requests.take steps) path bytes held
  rcases effect.parsable verified held with kept | parsable
  · exact before path bytes kept
  · exact .inr parsable

/-- After an update, an analysis and a deletion that is refused, the file of the sample holds
something else than at the start, and it parses. -/
theorem session_parsable_sample :
    Sample.editor.settings.verifyOutput = true ∧
      (Sample.editor.session Sample.root Sample.store
          ([.update "page.tsx:1:0" ⟨some "c", some "z"⟩, .analyze "page.tsx:1:0",
            .delete "page.tsx:9:0"].take 3)).2.get? Sample.path =
        some (Placement.word "<p className=\"c\">z</p>;\n<b />;") ∧
      Sample.store.get? Sample.path ≠ some (Placement.word "<p className=\"c\">z</p>;\n<b />;") ∧
      (Sample.store.get? Sample.path = some (Placement.word "<p className=\"c\">z</p>;\n<b />;") ∨
        Sample.editor.Parsable Sample.path
          (Placement.word "<p className=\"c\">z</p>;\n<b />;")) := by
  have held : (Sample.editor.session Sample.root Sample.store
      ([.update "page.tsx:1:0" ⟨some "c", some "z"⟩, .analyze "page.tsx:1:0",
        .delete "page.tsx:9:0"].take 3)).2.get? Sample.path =
      some (Placement.word "<p className=\"c\">z</p>;\n<b />;") := by decide +kernel
  exact ⟨rfl, held, by decide +kernel,
    session_parsable Sample.editor Sample.root Sample.store rfl
      [.update "page.tsx:1:0" ⟨some "c", some "z"⟩, .analyze "page.tsx:1:0",
        .delete "page.tsx:9:0"] 3 held⟩

end Editor

end Retouch
