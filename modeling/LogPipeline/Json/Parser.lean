import LogPipeline.Json.Number

/-!
# Reading JSON text

`Written.parse?` reads the grammar only; numbers and strings are kept as they are written.
`Written.value?` gives them their values, which fails for a number too large and for half a
surrogate pair. `parse?` does both and refuses values nested more than 127 levels deep; it keeps
the order of members and repeated names.
-/

namespace LogPipeline.Json

/-- One part of a string as it is written: a character, or a code unit given by four digits. -/
inductive TextPart where
  | char (c : Char)
  | unit (u : Nat)
  deriving DecidableEq, Repr

/-- JSON text by its grammar. -/
inductive Written where
  | null
  | bool (b : Bool)
  | number (t : NumberText)
  | text (parts : List TextPart)
  | list (elements : List Written)
  | record (members : List (List TextPart × Written))
  deriving Inhabited

/-- The blanks of JSON. -/
def isBlank (c : Char) : Bool := c == ' ' || c == '\t' || c == '\n' || c == '\r'

def skipBlanks (s : List Char) : List Char := s.dropWhile isBlank

/-- The value of a decimal digit. -/
def digit? (c : Char) : Option Nat := if c.isDigit then some (c.toNat - 48) else none

/-- The value of a hexadecimal digit. -/
def hexDigit? (c : Char) : Option Nat :=
  if c.isDigit then some (c.toNat - 48)
  else if 'a' ≤ c && c ≤ 'f' then some (c.toNat - 87)
  else if 'A' ≤ c && c ≤ 'F' then some (c.toNat - 55)
  else none

/-- The digits at the front, and the rest. -/
def takeDigits : List Char → List Nat × List Char
  | [] => ([], [])
  | c :: rest =>
    match digit? c with
    | some d => (d :: (takeDigits rest).1, (takeDigits rest).2)
    | none => ([], c :: rest)

/-- The rest of a string after its opening quote, up to the closing quote. -/
def takeText : List Char → Option (List TextPart × List Char)
  | [] => none
  | '"' :: rest => some ([], rest)
  | '\\' :: 'u' :: a :: b :: c :: d :: rest => do
    let u := (((← hexDigit? a) * 16 + (← hexDigit? b)) * 16 + (← hexDigit? c)) * 16
      + (← hexDigit? d)
    let (parts, after) ← takeText rest
    return (.unit u :: parts, after)
  | '\\' :: e :: rest => do
    let c ← match e with
      | '"' => some '"'
      | '\\' => some '\\'
      | '/' => some '/'
      | 'b' => some '\x08'
      | 'f' => some '\x0c'
      | 'n' => some '\n'
      | 'r' => some '\r'
      | 't' => some '\t'
      | _ => none
    let (parts, after) ← takeText rest
    return (.char c :: parts, after)
  | c :: rest =>
    if c.toNat < 0x20 || c == '\\' then none
    else do
      let (parts, after) ← takeText rest
      return (.char c :: parts, after)

/-- The digits after a point, if there is one. -/
def takeFraction : List Char → Option (Option (List Nat) × List Char)
  | '.' :: rest =>
    match takeDigits rest with
    | ([], _) => none
    | (digits, after) => some (some digits, after)
  | s => some (none, s)

/-- The sign and digits after an exponent mark, if there is one. -/
def takeExponent : List Char → Option (Option (Bool × List Nat) × List Char)
  | c :: rest =>
    if c == 'e' || c == 'E' then
      let (isNegative, digits) := match rest with
        | '-' :: more => (true, takeDigits more)
        | '+' :: more => (false, takeDigits more)
        | more => (false, takeDigits more)
      if digits.1.isEmpty then none else some (some (isNegative, digits.1), digits.2)
    else some (none, c :: rest)
  | [] => some (none, [])

/-- A number without its sign. -/
def takeUnsigned (isNegative : Bool) (s : List Char) : Option (NumberText × List Char) := do
  let (whole, afterWhole) := takeDigits s
  let leads := match whole with
    | [] => false
    | 0 :: _ :: _ => false
    | _ => true
  if !leads then none
  let (fraction, afterFraction) ← takeFraction afterWhole
  let (exponent, after) ← takeExponent afterFraction
  return (⟨isNegative, whole, fraction, exponent⟩, after)

/-- A number. -/
def takeNumber : List Char → Option (NumberText × List Char)
  | '-' :: rest => takeUnsigned true rest
  | s => takeUnsigned false s

mutual

/-- The value at the front, and the rest. Each level of the text takes one unit of `fuel`, each
further element or member one more. -/
def takeValue : Nat → List Char → Option (Written × List Char)
  | 0, _ => none
  | fuel + 1, s =>
    match skipBlanks s with
    | 'n' :: 'u' :: 'l' :: 'l' :: rest => some (.null, rest)
    | 't' :: 'r' :: 'u' :: 'e' :: rest => some (.bool true, rest)
    | 'f' :: 'a' :: 'l' :: 's' :: 'e' :: rest => some (.bool false, rest)
    | '"' :: rest => (takeText rest).map fun (parts, after) => (.text parts, after)
    | '[' :: rest =>
      match skipBlanks rest with
      | ']' :: after => some (.list [], after)
      | _ => (takeElements fuel rest).map fun (elements, after) => (.list elements, after)
    | '\x7b' :: rest =>
      match skipBlanks rest with
      | '\x7d' :: after => some (.record [], after)
      | _ => (takeMembers fuel rest).map fun (members, after) => (.record members, after)
    | other => (takeNumber other).map fun (t, after) => (.number t, after)

/-- The elements of a list up to its closing bracket. -/
def takeElements : Nat → List Char → Option (List Written × List Char)
  | 0, _ => none
  | fuel + 1, s => do
    let (first, afterFirst) ← takeValue fuel s
    match skipBlanks afterFirst with
    | ',' :: rest =>
      let (others, after) ← takeElements fuel rest
      return (first :: others, after)
    | ']' :: after => return ([first], after)
    | _ => none

/-- The members of a record up to its closing brace. -/
def takeMembers : Nat → List Char → Option (List (List TextPart × Written) × List Char)
  | 0, _ => none
  | fuel + 1, s =>
    match skipBlanks s with
    | '"' :: afterQuote => do
      let (name, afterName) ← takeText afterQuote
      match skipBlanks afterName with
      | ':' :: afterColon =>
        let (value, afterValue) ← takeValue fuel afterColon
        match skipBlanks afterValue with
        | ',' :: rest =>
          let (others, after) ← takeMembers fuel rest
          return ((name, value) :: others, after)
        | '\x7d' :: after => return ([(name, value)], after)
        | _ => none
      | _ => none
    | _ => none

end

/-- Reads a whole text that holds one value. -/
def Written.parse? (s : String) : Option Written :=
  match takeValue (2 * s.length + 2) s.toList with
  | some (w, rest) => if (skipBlanks rest).isEmpty then some w else none
  | none => none

/-- The characters of a string; two code units of a surrogate pair are one character, and half a
pair is none. -/
def textValue? : List TextPart → Option (List Char)
  | [] => some []
  | .char c :: rest => (textValue? rest).map (c :: ·)
  | .unit u :: rest =>
    if 0xd800 ≤ u && u < 0xdc00 then
      match rest with
      | .unit v :: more =>
        if 0xdc00 ≤ v && v < 0xe000 then
          (textValue? more).map
            (Char.ofNat (0x10000 + (u - 0xd800) * 0x400 + (v - 0xdc00)) :: ·)
        else none
      | _ => none
    else if 0xdc00 ≤ u && u < 0xe000 then none
    else (textValue? rest).map (Char.ofNat u :: ·)

/-- The string that the parts spell. -/
def string? (parts : List TextPart) : Option String := (textValue? parts).map String.ofList

mutual

/-- The value of a text. -/
def Written.value? : Written → Option Json
  | .null => some .null
  | .bool b => some (.bool b)
  | .number t => t.value?
  | .text parts => (string? parts).map .str
  | .list elements => (elementValues? elements).map .arr
  | .record members => (memberValues? members).map .obj

def elementValues? : List Written → Option (List Json)
  | [] => some []
  | w :: rest => do return (← w.value?) :: (← elementValues? rest)

def memberValues? : List (List TextPart × Written) → Option (List (String × Json))
  | [] => some []
  | (name, w) :: rest => do return (← string? name, ← w.value?) :: (← memberValues? rest)

end

mutual

/-- How many lists and records stand around the innermost value. -/
def Written.depth : Written → Nat
  | .list elements => elementDepth elements + 1
  | .record members => memberDepth members + 1
  | _ => 0

def elementDepth : List Written → Nat
  | [] => 0
  | w :: rest => max w.depth (elementDepth rest)

def memberDepth : List (List TextPart × Written) → Nat
  | [] => 0
  | (_, w) :: rest => max w.depth (memberDepth rest)

end

/-- One more than the depth to which values may be nested. -/
def depthLimit : Nat := 128

/-- Reads a JSON value. -/
def parse? (s : String) : Option Json := do
  let w ← Written.parse? s
  if w.depth < depthLimit then w.value? else none

end LogPipeline.Json
