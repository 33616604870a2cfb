/-!
# UTF-8

Texts as octets and back. `utf8Scan` reads octets as characters, with one `none` for each longest
run of octets that begins a character but cannot go on; `utf8Decode?` accepts only octets without
such a run, `utf8Lossy` puts the replacement character in its place.
-/

namespace LogPipeline

/-- A sequence of octets. -/
abbrev Bytes := List UInt8

namespace Text

/-- The octets of a text. -/
def utf8 (s : String) : Bytes := s.toList.flatMap String.utf8EncodeChar

/-- Whether an octet continues a character. -/
def isTail (b : UInt8) : Bool := 0x80 ≤ b && b ≤ 0xbf

/-- Whether `b` may follow `a` in a character of three octets. -/
def opensThree (a b : UInt8) : Bool :=
  (a == 0xe0 && 0xa0 ≤ b && b ≤ 0xbf) || (0xe1 ≤ a && a ≤ 0xec && isTail b) ||
  (a == 0xed && 0x80 ≤ b && b ≤ 0x9f) || (0xee ≤ a && a ≤ 0xef && isTail b)

/-- Whether `b` may follow `a` in a character of four octets. -/
def opensFour (a b : UInt8) : Bool :=
  (a == 0xf0 && 0x90 ≤ b && b ≤ 0xbf) || (0xf1 ≤ a && a ≤ 0xf3 && isTail b) ||
  (a == 0xf4 && 0x80 ≤ b && b ≤ 0x8f)

/-- The character whose code point is `lead`, the value bits of the first octet, followed by six
bits of each further octet. -/
def assemble (lead : Nat) (tails : Bytes) : Char :=
  Char.ofNat (tails.foldl (fun n b => n * 64 + b.toNat % 64) lead)

/-- The character that begins with the octet `a`, and how many of the octets after it belong to it;
`none` if they encode no character. -/
def utf8Head (a : UInt8) (rest : Bytes) : Option Char × Nat :=
  if a < 0x80 then (some (Char.ofNat a.toNat), 0)
  else match rest with
    | [] => (none, 0)
    | b :: rest =>
      if 0xc2 ≤ a && a ≤ 0xdf && isTail b then (some (assemble (a.toNat % 32) [b]), 1)
      else if opensThree a b then
        match rest with
        | [] => (none, 1)
        | c :: _ => if isTail c then (some (assemble (a.toNat % 16) [b, c]), 2) else (none, 1)
      else if opensFour a b then
        match rest with
        | [] => (none, 1)
        | [c] => (none, if isTail c then 2 else 1)
        | c :: d :: _ =>
          if isTail c && isTail d then (some (assemble (a.toNat % 8) [b, c, d]), 3)
          else (none, if isTail c then 2 else 1)
      else (none, 0)

/-- `utf8Scan` after passing over `skip` octets. -/
def utf8ScanFrom : Nat → Bytes → List (Option Char)
  | _, [] => []
  | 0, a :: rest => (utf8Head a rest).1 :: utf8ScanFrom (utf8Head a rest).2 rest
  | skip + 1, _ :: rest => utf8ScanFrom skip rest

/-- The characters of an octet sequence, with `none` for each ill-formed run. -/
def utf8Scan (bytes : Bytes) : List (Option Char) := utf8ScanFrom 0 bytes

/-- The text that the octets encode, if they encode one. -/
def utf8Decode? (bytes : Bytes) : Option String :=
  ((utf8Scan bytes).mapM id).map String.ofList

/-- The text of the octets, with U+FFFD for each ill-formed run. -/
def utf8Lossy (bytes : Bytes) : String :=
  String.ofList ((utf8Scan bytes).map (·.getD '\ufffd'))

end Text

end LogPipeline
