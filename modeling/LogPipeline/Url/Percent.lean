import LogPipeline.Text.Utf8

/-!
# Percent encoding

An octet that may not stand for itself in some part of a URL is written as `%` and two digits. What
may stand for itself depends on the part.
-/

namespace LogPipeline.Url

/-- An upper-case hexadecimal digit. -/
def upperHexDigit (n : Nat) : Char := (Nat.digitChar n).toUpper

/-- An octet as `%` and two digits. -/
def percentOctet (b : UInt8) : List Char :=
  ['%', upperHexDigit (b.toNat / 16), upperHexDigit (b.toNat % 16)]

/-- A character, by its octets if it is reserved. -/
def percentChar (reserved : Char → Bool) (c : Char) : List Char :=
  if reserved c then (String.utf8EncodeChar c).flatMap percentOctet else [c]

/-- A text with its reserved characters written by their octets. -/
def percentEncode (reserved : Char → Bool) (cs : List Char) : List Char :=
  cs.flatMap (percentChar reserved)

/-- The value of a hexadecimal digit in either case. -/
def hexValue? (b : UInt8) : Option Nat :=
  let n := b.toNat
  if 48 ≤ n && n ≤ 57 then some (n - 48)
  else if 97 ≤ n && n ≤ 102 then some (n - 87)
  else if 65 ≤ n && n ≤ 70 then some (n - 55)
  else none

/-- The octets of a text; a `%` without two digits behind it stands for itself. -/
def percentDecode : Bytes → Bytes
  | [] => []
  | [a] => [a]
  | [a, b] => [a, b]
  | a :: b :: c :: rest =>
    if a == 0x25 then
      match hexValue? b, hexValue? c with
      | some x, some y => UInt8.ofNat (x * 16 + y) :: percentDecode rest
      | _, _ => a :: percentDecode (b :: c :: rest)
    else a :: percentDecode (b :: c :: rest)

/-! ## What is reserved -/

/-- Control characters and all that is not ASCII. -/
def reservedAlways (c : Char) : Bool := c.toNat < 0x20 || 0x7f ≤ c.toNat

def reservedInFragment (c : Char) : Bool :=
  reservedAlways c || [' ', '"', '<', '>', '\x60'].contains c

def reservedInPath (c : Char) : Bool :=
  reservedInFragment c || ['#', '?', '\x7b', '\x7d'].contains c

def reservedInUser (c : Char) : Bool :=
  reservedInPath c || ['/', ':', ';', '=', '@', '[', '\\', ']', '^', '|'].contains c

def reservedInQuery (c : Char) : Bool :=
  reservedAlways c || [' ', '"', '#', '<', '>'].contains c

/-- In the queries of the well-known schemes the apostrophe is reserved too. -/
def reservedInSpecialQuery (c : Char) : Bool := reservedInQuery c || c == '\''

end LogPipeline.Url
