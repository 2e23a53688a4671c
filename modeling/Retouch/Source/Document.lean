import Retouch.Defect
import Retouch.Source.Basic
import Retouch.Source.Language
import Retouch.Tree.Place

/-!
# Parsed source code

A grammar gives source code in a language its syntax tree. Source code whose tree holds a fault is
refused with the position of the first one.
-/

namespace Retouch

/-- What gives source code in each language its syntax tree. -/
abbrev Grammar := Language → Bytes → Node

/-- Source code with its syntax tree. -/
structure Document where
  source : Bytes
  root : Node
  language : Language

/-- The first fault of source code: what is missing, or nothing if something is amiss, and where. -/
structure SyntaxFault where
  missing : Option Kind
  position : Position
  deriving DecidableEq

/-- How a fault is worded. -/
def SyntaxFault.message (fault : SyntaxFault) : Text :=
  let what : Text := match fault.missing with
    | some kind => "missing '" ++ Text.ofString kind.name ++ "'"
    | none => "syntax error"
  what ++ " at " ++ fault.position.message

namespace Document

/-- Parses source code. -/
def parse (grammar : Grammar) (language : Language) (source : Bytes) : Except SyntaxFault Document :=
  let root := grammar language source
  if root.hasFault then
    let fault := root.firstFault?.getD root
    .error ⟨if fault.missing then some fault.kind else none, Bytes.position source fault.start⟩
  else .ok ⟨source, root, language⟩

/-- The bytes of a node. -/
def bytes (document : Document) (node : Node) : Bytes :=
  Bytes.slice document.source node.start node.stop

/-- The text between two offsets. -/
def textBetween (document : Document) (start stop : Nat) : Except Defect Text :=
  (Utf8.decode (Bytes.slice document.source start stop)).mapError .undecodable

/-- The text of a node. -/
def text (document : Document) (node : Node) : Except Defect Text :=
  document.textBetween node.start node.stop

/-- The position of a node. -/
def position (document : Document) (node : Node) : Position :=
  Bytes.position document.source node.start

end Document

end Retouch
