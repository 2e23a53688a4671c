import Retouch.Editor
import Retouch.Model.Schema
import Retouch.Store.Memory

/-!
# Sessions

Requests to an editor, one after the other on one store. The parts of a call from outside may be of
any form, so they are checked first.
-/

namespace Retouch

/-- A request to an editor. -/
inductive Request where
  | analyze (id : Text)
  | update (id : Text) (updates : Updates)
  | delete (id : Text)

/-- The answer to a request. -/
inductive Answer where
  | analysis (report : AnalysisReport)
  | mutation (report : MutationReport)

namespace Answer

/-- Decides whether a request has changed a file. -/
def changed : Answer → Bool
  | .analysis _ => false
  | .mutation report => report.changed

/-- Writes an answer. -/
def dump (style : Style) : Answer → Value
  | .analysis report => report.dump style
  | .mutation report => report.dump style

end Answer

namespace Editor

variable {σ : Type} [Store σ]

/-- Answers a request. -/
def answer (editor : Editor) (root : Path) (store : σ) : Request → Answer × σ
  | .analyze id => (.analysis (editor.analyze store root id), store)
  | .update id updates =>
    let (report, after) := editor.update store root id updates
    (.mutation report, after)
  | .delete id =>
    let (report, after) := editor.delete store root id
    (.mutation report, after)

/-- Answers requests one after the other. -/
def session (editor : Editor) (root : Path) (store : σ) : List Request → List Answer × σ
  | [] => ([], store)
  | request :: requests =>
    let (first, after) := editor.answer root store request
    let (others, last) := editor.session root after requests
    (first :: others, last)

/-- The name of the part of a call that holds an identifier. -/
def idKey : String := "component_id"

/-- Calls an analysis. An identifier that is no text cannot even be reported back. -/
def callAnalyze (editor : Editor) (store : σ) (root : Path) : (id : Value) → Except (List Issue) AnalysisReport
  | .text id => .ok (editor.analyze store root id)
  | _ => .error [⟨.stringType, [.key idKey]⟩]

/-- Calls an update. -/
def callUpdate (editor : Editor) (store : σ) (root : Path) (id updates : Value) : MutationReport × σ :=
  match Updates.check updates, id with
  | .invalid issues, _ => (.failed (.unexpected (.invalidUpdates issues)), store)
  | .valid updates, .text id => editor.update store root id updates
  | .valid _, _ => (.failed (.unexpected .idNotText), store)

/-- Calls a deletion. -/
def callDelete (editor : Editor) (store : σ) (root : Path) : (id : Value) → MutationReport × σ
  | .text id => editor.delete store root id
  | _ => (.failed (.unexpected .idNotText), store)

end Editor

end Retouch
