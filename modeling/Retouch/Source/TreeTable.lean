import Retouch.Source.Document
import Retouch.Tree.Rows

/-!
# Tables of syntax trees

Trees come from outside, each under the language and the fingerprint of its source code.
-/

namespace Retouch

/-- The 64-bit Fowler–Noll–Vo fingerprint of bytes: each byte is mixed in by exclusive or, then the
fingerprint is multiplied by the prime of the method. -/
def Bytes.fingerprint (bytes : Bytes) : UInt64 :=
  bytes.foldl (fun h b => (h ^^^ b.toUInt64) * 0x100000001B3) 0xCBF29CE484222325

/-- Syntax trees under the keys of their source code. -/
abbrev TreeTable := List (Text × Node)

namespace TreeTable

/-- The key of source code in a language. -/
def key (language : Language) (source : Bytes) : Text :=
  Text.ofString language.name ++ ":" ++ Text.hex 16 (Bytes.fingerprint source).toNat

/-- The grammar that looks trees up in a table. -/
def grammar (table : TreeTable) : Grammar :=
  fun language source => (table.lookup (key language source)).getD Node.unknown

end TreeTable

end Retouch
