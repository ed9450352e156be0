import RequestGuard.Text.Basic
import RequestGuard.Text.Utf8

/-!
# Percent encoding

The characters that a part of an address may not hold are written as the bytes of
the character, each as a percent sign and two hexadecimal digits.  Every part has
its own set of such characters; no part holds a character above 126.
-/

namespace RequestGuard
namespace Url
namespace Percent

section Sets

/-- A control character, or one above 126. -/
def control (c : Char) : Bool :=
  c.toNat < 32 || 126 < c.toNat

/-- What a fragment may not hold. -/
def fragment (c : Char) : Bool :=
  control c || [' ', '"', '<', '>', '`'].contains c

/-- What a query may not hold. -/
def query (c : Char) : Bool :=
  control c || [' ', '"', '#', '<', '>'].contains c

/-- What the query of a special address may not hold. -/
def specialQuery (c : Char) : Bool :=
  query c || c == '\''

/-- What a path may not hold. -/
def path (c : Char) : Bool :=
  fragment c || ['#', '?', '\x7b', '\x7d'].contains c

/-- What a user name or a password may not hold. -/
def userinfo (c : Char) : Bool :=
  path c || ['/', ':', ';', '=', '@', '[', '\\', ']', '^', '|'].contains c

end Sets

/-- A byte as a percent sign and two hexadecimal digits. -/
def encodeByte (b : UInt8) : List Char :=
  ['%', Text.hexDigitUpper (b.toNat / 16), Text.hexDigitUpper (b.toNat % 16)]

/-- A text with the characters of a set encoded. -/
def encode (inSet : Char → Bool) (cs : List Char) : List Char :=
  cs.flatMap fun c => if inSet c then (Text.Utf8.encodeChar c).flatMap encodeByte else [c]

/-- The bytes of a text, with each percent sign and two digits read as one byte. -/
def decode : List Char → List UInt8
  | [] => []
  | c :: rest =>
    if c = '%' then
      match rest with
      | a :: b :: more =>
        match Text.hexValue? a, Text.hexValue? b with
        | some x, some y => UInt8.ofNat (16 * x + y) :: decode more
        | _, _ => 0x25 :: decode (a :: b :: more)
      | other => 0x25 :: decode other
    else Text.Utf8.encodeChar c ++ decode rest
termination_by cs => cs.length

end Percent
end Url
end RequestGuard
