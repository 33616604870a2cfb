import LogPipeline.Url.Basic
import LogPipeline.Url.Domain.Basic

/-!
# Hosts

The host of a URL with a well-known scheme is an IPv6 address in brackets, an IPv4 address, which
may be written in several ways, or a domain name. That of any other URL is an IPv6 address or a
text of its own.
-/

namespace LogPipeline.Url

/-! ## IPv4 -/

/-- The value of digits in a base, if all of them are digits of it. -/
def digitsIn? (base : Nat) (cs : List Char) : Option Nat :=
  cs.foldlM (fun n c =>
    match hexValue? (UInt8.ofNat c.toNat) with
    | some d => if d < base && c.toNat < 0x80 then some (n * base + d) else none
    | none => none) 0

/-- One number of an IPv4 address: hexadecimal after `0x`, octal after `0`, or decimal. -/
def ipv4Number? : List Char → Option Nat
  | [] => none
  | '0' :: 'x' :: digits | '0' :: 'X' :: digits => digitsIn? 16 digits
  | ['0'] => some 0
  | '0' :: digits => digitsIn? 8 digits
  | digits => digitsIn? 10 digits

/-- The parts of a domain between its points, without an empty one at the end. -/
def domainParts (domain : List Char) : List (List Char) :=
  let parts := domain.splitOn '.'
  if parts.getLast? == some [] then parts.dropLast else parts

/-- Whether a domain can only be meant as an IPv4 address: its last part is a number. -/
def endsInNumber (domain : List Char) : Bool :=
  match (domainParts domain).getLast? with
  | none => false
  | some part => (!part.isEmpty && part.all Char.isDigit) || (ipv4Number? part).isSome

/-- The 32 bits of an IPv4 address. The last of its numbers fills all octets that are left. -/
def ipv4? (domain : List Char) : Option Nat := do
  let numbers ← (domainParts domain).mapM ipv4Number?
  let last ← numbers.getLast?
  let front := numbers.dropLast
  if 3 < front.length || front.any (255 < ·) || Nat.pow 256 (4 - front.length) ≤ last then none
  return front.foldl (fun n octet => n * 256 + octet) 0 * Nat.pow 256 (4 - front.length) + last

/-- An IPv4 address as four decimal numbers. -/
def ipv4Text (n : Nat) : String :=
  ".".intercalate ([n / 0x1000000, n / 0x10000 % 256, n / 0x100 % 256, n % 256].map toString)

/-! ## IPv6 -/

/-- A number of at most three decimal digits, without a leading zero, of at most 255. -/
def octet? (cs : List Char) : Option Nat :=
  match cs with
  | [] => none
  | '0' :: _ :: _ => none
  | _ =>
    if cs.length ≤ 3 then (digitsIn? 10 cs).bind fun n => if n ≤ 255 then some n else none
    else none

/-- The two pieces that an IPv4 address is at the end of an IPv6 address. -/
def ipv4Pieces? (cs : List Char) : Option (List Nat) := do
  match ← (cs.splitOn '.').mapM octet? with
  | [a, b, c, d] => some [a * 256 + b, c * 256 + d]
  | _ => none

/-- A piece of one to four hexadecimal digits. -/
def piece? (cs : List Char) : Option Nat :=
  if cs.isEmpty || 4 < cs.length then none else digitsIn? 16 cs

/-- Pieces separated by colons; the last may be an IPv4 address. -/
def pieces? : List (List Char) → Option (List Nat)
  | [] => some []
  | [last] => if last.contains '.' then ipv4Pieces? last else (piece? last).map ([·])
  | p :: rest => do return (← piece? p) :: (← pieces? rest)

/-- The places of `::`: the text before it and the text behind it, if there is one. -/
def splitDoubleColon : List Char → List Char × Option (List Char)
  | [] => ([], none)
  | ':' :: ':' :: rest => ([], some rest)
  | c :: rest => (c :: (splitDoubleColon rest).1, (splitDoubleColon rest).2)

/-- The pieces of a text without `::`, which may be empty. -/
def run? (cs : List Char) : Option (List Nat) :=
  if cs.isEmpty then some [] else pieces? (cs.splitOn ':')

/-- The eight pieces of an IPv6 address; `::` stands for at least one piece of zero. -/
def ipv6? (cs : List Char) : Option (List Nat) :=
  match splitDoubleColon cs with
  | (all, none) => (run? all).bind fun ps => if ps.length = 8 then some ps else none
  | (front, some back) => do
    -- an IPv4 address may only stand at the very end
    if front.contains '.' then none
    let before ← run? front
    let after ← run? back
    if 7 < before.length + after.length then none
    return before ++ List.replicate (8 - before.length - after.length) 0 ++ after

/-- The length of the run of zeros at the front. -/
def zeroRun (ps : List Nat) : Nat := (ps.takeWhile (· == 0)).length

/-- Where the first of the longest runs of zeros begins, and how long it is. -/
def longestZeros (ps : List Nat) : Nat × Nat :=
  (List.range ps.length).foldl
    (fun best i => if best.2 < zeroRun (ps.drop i) then (i, zeroRun (ps.drop i)) else best) (0, 0)

/-- Pieces in hexadecimal with colons between. -/
def piecesText (ps : List Nat) : String :=
  ":".intercalate (ps.map fun p => String.ofList (Nat.toDigits 16 p))

/-- An IPv6 address in brackets; the first of its longest runs of two or more zeros is left out. -/
def ipv6Text (ps : List Nat) : String :=
  let (start, length) := longestZeros ps
  "[" ++ (if length < 2 then piecesText ps
    else piecesText (ps.take start) ++ "::" ++ piecesText (ps.drop (start + length))) ++ "]"

/-! ## Hosts -/

/-- An IPv6 address in brackets. -/
def bracketed? (cs : List Char) : Except Error String :=
  match (cs.drop 1).getLast?, ipv6? (cs.drop 1).dropLast with
  | some ']', some ps => .ok (ipv6Text ps)
  | _, _ => .error .invalidIpv6

/-- The host of a URL with a well-known scheme. -/
def specialHost? (cs : List Char) : Except Error String :=
  if cs.head? == some '[' then bracketed? cs
  else match Domain.toAscii? (percentDecode (Text.utf8 (String.ofList cs))) with
    | none => .error .invalidDomain
    | some domain =>
      if domain.isEmpty then .error .emptyHost
      else if endsInNumber domain then
        match ipv4? domain with
        | some n => .ok (ipv4Text n)
        | none => .error .invalidIpv4
      else .ok (String.ofList domain)

/-- Characters that no host may hold. -/
def forbiddenInHost (c : Char) : Bool :=
  ['\x00', '\t', '\n', '\r', ' ', '#', '/', ':', '<', '>', '?', '@', '[', '\\', ']', '^',
    '|'].contains c

/-- The host of any other URL. -/
def otherHost? (cs : List Char) : Except Error String :=
  if cs.head? == some '[' then bracketed? cs
  else if cs.any forbiddenInHost then .error .invalidHostCharacter
  else .ok (String.ofList (percentEncode reservedAlways cs))

end LogPipeline.Url
