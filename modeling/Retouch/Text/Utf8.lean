import Retouch.Text.Basic

/-!
# UTF-8

A byte sequence is cut into pieces: characters, and stretches that begin no character. A stretch is
as long as some character could still have begun like it. Reading a text is refused at the first
such stretch; the forgiving reading puts a replacement character in place of each.
-/

namespace Retouch.Utf8

/-- Why a stretch of bytes is no character. -/
inductive Reason where
  | invalidStart
  | invalidContinuation
  | unexpectedEnd
  deriving DecidableEq

/-- How a reason is worded. -/
def Reason.message : Reason → Text
  | .invalidStart => "invalid start byte"
  | .invalidContinuation => "invalid continuation byte"
  | .unexpectedEnd => "unexpected end of data"

/-- A piece of a byte sequence. -/
inductive Piece where
  | char (c : CodePoint) (size : Nat)
  | bad (size : Nat) (reason : Reason)
  deriving DecidableEq

/-- A character that has begun: its bits so far, the bytes read, the bytes missing, and the range of
the next byte. -/
structure Begun where
  bits : Nat
  size : Nat
  missing : Nat
  low : Nat
  high : Nat
  deriving DecidableEq

/-- What a byte means at the start of a character. -/
inductive Lead where
  | char (c : CodePoint)
  | begun (state : Begun)
  | invalid

/-- The role of a byte at the start of a character. The range of the second byte excludes overlong
forms, surrogates and numbers above the last code point. -/
def lead (b : UInt8) : Lead :=
  let n := b.toNat
  if n < 0x80 then .char (Fin.ofNat _ n)
  else if n < 0xC2 then .invalid
  else if n < 0xE0 then .begun ⟨n - 0xC0, 1, 1, 0x80, 0xBF⟩
  else if n < 0xF0 then
    .begun ⟨n - 0xE0, 1, 2, if n = 0xE0 then 0xA0 else 0x80, if n = 0xED then 0x9F else 0xBF⟩
  else if n < 0xF5 then
    .begun ⟨n - 0xF0, 1, 3, if n = 0xF0 then 0x90 else 0x80, if n = 0xF4 then 0x8F else 0xBF⟩
  else .invalid

/-- Reads a byte where no character has begun. -/
def start (b : UInt8) : List Piece × Option Begun :=
  match lead b with
  | .char c => ([.char c 1], none)
  | .begun state => ([], some state)
  | .invalid => ([.bad 1 .invalidStart], none)

/-- Reads a byte: the pieces that it completes, and the character that is begun after it. -/
def step (state : Option Begun) (b : UInt8) : List Piece × Option Begun :=
  match state with
  | none => start b
  | some s =>
    if s.low ≤ b.toNat ∧ b.toNat ≤ s.high then
      let bits := s.bits * 64 + b.toNat % 64
      if s.missing ≤ 1 then ([.char (Fin.ofNat _ bits) (s.size + 1)], none)
      else ([], some ⟨bits, s.size + 1, s.missing - 1, 0x80, 0xBF⟩)
    else
      let (out, next) := start b
      (.bad s.size .invalidContinuation :: out, next)

/-- The pieces of a byte sequence that continues the given character. -/
def piecesFrom (state : Option Begun) : Bytes → List Piece
  | [] => match state with
    | none => []
    | some s => [.bad s.size .unexpectedEnd]
  | b :: bytes =>
    let (out, next) := step state b
    out ++ piecesFrom next bytes

/-- The pieces of a byte sequence. -/
def pieces (bytes : Bytes) : List Piece :=
  piecesFrom none bytes

/-- Where and why a byte sequence is not a text: the offset, the size and the first byte of the
first stretch that is no character. -/
structure DecodeError where
  offset : Nat
  size : Nat
  byte : UInt8
  reason : Reason
  deriving DecidableEq

/-- Reads pieces as a text, given the bytes from the first piece on and their offset. -/
def readPieces (offset : Nat) (bytes : Bytes) : List Piece → Except DecodeError Text
  | [] => .ok []
  | .char c size :: rest => (readPieces (offset + size) (bytes.drop size) rest).map (c :: ·)
  | .bad size reason :: _ => .error ⟨offset, size, bytes.headD 0, reason⟩

/-- Reads a byte sequence as a text. -/
def decode (bytes : Bytes) : Except DecodeError Text :=
  readPieces 0 bytes (pieces bytes)

/-- Reads a byte sequence as a text, with a replacement character for each stretch that is none. -/
def decodeForgiving (bytes : Bytes) : Text :=
  (pieces bytes).map fun
    | .char c _ => c
    | .bad _ _ => 0xFFFD

/-- The bytes of a code point. -/
def encodeCodePoint (c : CodePoint) : Bytes :=
  let n := c.val
  if n < 0x80 then [UInt8.ofNat n]
  else if n < 0x800 then [UInt8.ofNat (0xC0 + n / 64), UInt8.ofNat (0x80 + n % 64)]
  else if n < 0x10000 then
    [UInt8.ofNat (0xE0 + n / 4096), UInt8.ofNat (0x80 + n / 64 % 64), UInt8.ofNat (0x80 + n % 64)]
  else
    [UInt8.ofNat (0xF0 + n / 262144), UInt8.ofNat (0x80 + n / 4096 % 64),
      UInt8.ofNat (0x80 + n / 64 % 64), UInt8.ofNat (0x80 + n % 64)]

/-- The first lone surrogates of a text, which have no bytes: where they stand, how many they are,
and the first of them. -/
structure EncodeError where
  position : Nat
  size : Nat
  first : CodePoint
  deriving DecidableEq

/-- The first code points of a text that have no bytes, given which ones have. -/
def encodeErrorBy? (hasBytes : CodePoint → Bool) (t : Text) : Option EncodeError :=
  match t.dropWhile hasBytes with
  | [] => none
  | c :: rest =>
    some ⟨t.length - (rest.length + 1), 1 + (rest.takeWhile fun c => !hasBytes c).length, c⟩

/-- The first lone surrogates of a text. -/
def encodeError? (t : Text) : Option EncodeError :=
  encodeErrorBy? (fun c => !c.isSurrogate) t

/-- The bytes of a text, or why it has none. -/
def encode (t : Text) : Except EncodeError Bytes :=
  match encodeError? t with
  | some error => .error error
  | none => .ok (t.flatMap encodeCodePoint)

/-- The bytes of a text, if it has any. -/
def encode? (t : Text) : Option Bytes :=
  (encode t).toOption

/-- How the refusal of a text is worded. -/
def EncodeError.message (e : EncodeError) : Text :=
  if e.size ≤ 1 then
    "'utf-8' codec can't encode character '\\u" ++ Text.hex 4 e.first.val ++ "' in position " ++
      Text.ofNat e.position ++ ": surrogates not allowed"
  else
    "'utf-8' codec can't encode characters in position " ++ Text.ofNat e.position ++ "-" ++
      Text.ofNat (e.position + e.size - 1) ++ ": surrogates not allowed"

/-- How the refusal of a byte sequence is worded. -/
def DecodeError.message (e : DecodeError) : Text :=
  if e.size ≤ 1 then
    "'utf-8' codec can't decode byte 0x" ++ Text.hex 2 e.byte.toNat ++ " in position " ++
      Text.ofNat e.offset ++ ": " ++ e.reason.message
  else
    "'utf-8' codec can't decode bytes in position " ++ Text.ofNat e.offset ++ "-" ++
      Text.ofNat (e.offset + e.size - 1) ++ ": " ++ e.reason.message

end Retouch.Utf8
