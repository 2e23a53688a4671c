import Retouch.Text.Utf8

/-!
# Recognizing encodings

The bytes of a data text tell how they are to be read: by a mark of the byte order at their start,
or by where the zero bytes among the first four stand, since such a text begins with ASCII
characters.
-/

namespace Retouch

/-- The order of the bytes of a unit. -/
inductive ByteOrder where
  | bigFirst
  | littleFirst
  deriving DecidableEq

/-- How a text is encoded, and how many bytes before it are a mark. -/
inductive Encoding where
  | utf8 (mark : Nat)
  | utf16 (order : ByteOrder) (mark : Nat)
  | utf32 (order : ByteOrder) (mark : Nat)
  deriving DecidableEq

namespace Encoding

/-- The encoding that the zero bytes among the first ones show. -/
def ofZeros : Bytes → Encoding
  | [0, _] => .utf16 .bigFirst 0
  | [_, 0] => .utf16 .littleFirst 0
  | a :: b :: c :: d :: _ =>
    if a = 0 then if b = 0 then .utf32 .bigFirst 0 else .utf16 .bigFirst 0
    else if b = 0 then if c = 0 ∧ d = 0 then .utf32 .littleFirst 0 else .utf16 .littleFirst 0
    else .utf8 0
  | _ => .utf8 0

/-- The encoding of a text. -/
def detect (bytes : Bytes) : Encoding :=
  if [0x00, 0x00, 0xFE, 0xFF].isPrefixOf bytes then .utf32 .bigFirst 4
  else if [0xFF, 0xFE, 0x00, 0x00].isPrefixOf bytes then .utf32 .littleFirst 4
  else if [0xFE, 0xFF].isPrefixOf bytes then .utf16 .bigFirst 2
  else if [0xFF, 0xFE].isPrefixOf bytes then .utf16 .littleFirst 2
  else if [0xEF, 0xBB, 0xBF].isPrefixOf bytes then .utf8 3
  else ofZeros bytes

/-- The number of bytes, the least significant one first. -/
def ofLittle : Bytes → Nat
  | [] => 0
  | b :: bytes => b.toNat + 256 * ofLittle bytes

/-- The number that bytes make up. -/
def unit (order : ByteOrder) (bytes : Bytes) : Nat :=
  match order with
  | .bigFirst => ofLittle bytes.reverse
  | .littleFirst => ofLittle bytes

/-- The units of two bytes, if none is cut off. -/
def units16? (order : ByteOrder) : Bytes → Option (List Nat)
  | [] => some []
  | [_] => none
  | a :: b :: rest => (units16? order rest).map (unit order [a, b] :: ·)

/-- The units of four bytes, if none is cut off. -/
def units32? (order : ByteOrder) : Bytes → Option (List Nat)
  | [] => some []
  | a :: b :: c :: d :: rest => (units32? order rest).map (unit order [a, b, c, d] :: ·)
  | _ => none

/-- The text of sixteen-bit units: surrogates in pairs are one character. -/
def ofUnits16 : List Nat → Text
  | [] => []
  | [n] => [Fin.ofNat _ n]
  | high :: low :: rest =>
    if 0xD800 ≤ high ∧ high ≤ 0xDBFF ∧ 0xDC00 ≤ low ∧ low ≤ 0xDFFF then
      Fin.ofNat _ (0x10000 + (high - 0xD800) * 0x400 + (low - 0xDC00)) :: ofUnits16 rest
    else Fin.ofNat _ high :: ofUnits16 (low :: rest)

/-- The code point of a unit of four bytes. -/
def ofUnit32? (n : Nat) : Option CodePoint :=
  if h : n < 0x110000 then some ⟨n, h⟩ else none

/-- Reads bytes as a text in the encoding that they show. -/
def decode? (bytes : Bytes) : Option Text :=
  match detect bytes with
  | .utf8 mark => (Utf8.decode (bytes.drop mark)).toOption
  | .utf16 order mark => (units16? order (bytes.drop mark)).map ofUnits16
  | .utf32 order mark => (units32? order (bytes.drop mark)).bind (List.mapM ofUnit32?)

end Encoding

end Retouch
