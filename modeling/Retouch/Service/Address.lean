import Retouch.Text.Utf8

/-!
# Addresses of requests

The path that a request asks for. An address may begin with a scheme and a host and end with a query
and a fragment; dots in its path lead nowhere or up, and a percent sign with two digits stands for a
byte.
-/

namespace Retouch.Address

/-- The code points of schemes after the first. -/
def isSchemePart (c : CodePoint) : Bool :=
  c.isAsciiLetter || c.isAsciiDigit || c == '+' || c == '.' || c == '-'

/-- The address after its scheme, if it begins with one. -/
def afterScheme? (t : Text) : Option Text :=
  let scheme := t.takeWhile isSchemePart
  match scheme, t.drop scheme.length with
  | [], c :: rest => if c = ':' then some rest else none
  | first :: _, c :: rest => if first.isAsciiLetter ∧ c = ':' then some rest else none
  | _, [] => none

/-- The host after two slashes and what follows it. -/
def splitHost? : Text → Option (Text × Text)
  | a :: b :: rest =>
    if a = '/' ∧ b = '/' then
      let host := rest.takeWhile fun (c : CodePoint) => c != '/' && c != '?' && c != '#'
      some (host, rest.drop host.length)
    else none
  | _ => none

/-- The path before the query and the fragment. -/
def beforeQuery (t : Text) : Text :=
  t.takeWhile fun (c : CodePoint) => c != '?' && c != '#'

/-- The path on the host. An address without a scheme or without a host has its path below the
topmost one. -/
def rawPath (address : Text) : Text :=
  let scheme? := afterScheme? address
  let rest := scheme?.getD address
  let host? := splitHost? rest
  let path := beforeQuery ((host?.map (·.2)).getD rest)
  if scheme?.isSome ∧ host?.any fun (host, _) => !host.isEmpty then path
  else "/" ++ path.dropWhile fun (c : CodePoint) => c == '/'

/-- The parts of a path without the dots among them: one dot is left out, and two take back the part
before, but never the start. -/
def withoutDots (parts : List Text) : List Text :=
  parts.foldl (fun done part =>
    if part = Text.ofString "." then done
    else if part = Text.ofString ".." then if done = [[]] then done else done.dropLast
    else done ++ [part]) []

/-- A path without parts that are dots. -/
def normalize (path : Text) : Text :=
  match Text.join "/" (withoutDots (Text.split '/' path)) with
  | [] => "/"
  | c :: t => c :: t

/-- The byte of two hexadecimal digits. -/
def byte? (high low : CodePoint) : Option UInt8 :=
  match high.hexValue?, low.hexValue? with
  | some high, some low => some (UInt8.ofNat (high * 16 + low))
  | _, _ => none

/-- The bytes that a path stands for after passing over some code points. -/
def bytesAfter : (passed : Nat) → Text → Bytes
  | _, [] => []
  | passed + 1, _ :: t => bytesAfter passed t
  | 0, c :: t =>
    match c == '%', t with
    | true, a :: b :: _ =>
      match byte? a b with
      | some byte => byte :: bytesAfter 2 t
      | none => Utf8.encodeCodePoint c ++ bytesAfter 0 t
    | _, _ => Utf8.encodeCodePoint c ++ bytesAfter 0 t

/-- The path that an address asks for. -/
def path (address : Text) : Text :=
  Utf8.decodeForgiving (bytesAfter 0 (normalize (rawPath address)))

end Retouch.Address
