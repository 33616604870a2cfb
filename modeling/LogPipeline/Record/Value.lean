import LogPipeline.Duration
import LogPipeline.Json.Printer

/-!
# Attribute values

A value is a scalar or a group of attributes. It has a text for lines of text and a JSON form, in
which a duration is its number of nanoseconds and a group an object with the attributes in order.
-/

namespace LogPipeline

mutual

/-- What an attribute holds. -/
inductive Value where
  | str (s : String)
  | int (n : Int64)
  | uint (n : UInt64)
  | float (x : Binary64)
  | bool (b : Bool)
  | duration (d : Duration)
  /-- The text of an error. -/
  | error (text : String)
  /-- A structured payload. -/
  | any (payload : Json)
  | group (attrs : List Attr)

/-- A named value. -/
structure Attr where
  key : String
  value : Value

end

deriving instance Repr for Value, Attr

instance : Inhabited Value := ⟨.str ""⟩

namespace Value

/-- The string of a string value. -/
def string? : Value → Option String
  | .str s => some s
  | _ => none

/-- Whether the value is a group. -/
def isGroup : Value → Bool
  | .group _ => true
  | _ => false

mutual

/-- The text of a value. -/
def text : Value → String
  | .str s => s
  | .int n => toString n.toInt
  | .uint n => toString n.toNat
  | .float x => Number.plain x
  | .bool b => if b then "true" else "false"
  | .duration d => d.text
  | .error s => s
  | .any payload => payload.compact
  | .group attrs => "[" ++ attrTexts attrs ++ "]"

/-- Attributes as `key=value`, with a space between. -/
def attrTexts : List Attr → String
  | [] => ""
  | [⟨key, value⟩] => key ++ "=" ++ value.text
  | ⟨key, value⟩ :: rest => key ++ "=" ++ value.text ++ " " ++ attrTexts rest

end

mutual

/-- The JSON form of a value. -/
def json : Value → Json
  | .str s => .str s
  | .int n => .int n.toInt
  | .uint n => .int n.toNat
  | .float x => .ofBinary64 x
  | .bool b => .bool b
  | .duration d => .int d.nanoseconds
  | .error s => .str s
  | .any payload => payload
  | .group attrs => .obj (attrMembers attrs)

/-- Attributes as members of an object. -/
def attrMembers : List Attr → List (String × Json)
  | [] => []
  | ⟨key, value⟩ :: rest => (key, value.json) :: attrMembers rest

end

mutual

/-- Equality of values of one kind, floating point numbers being compared as numbers. -/
def same : Value → Value → Bool
  | .str a, .str b => a == b
  | .int a, .int b => a == b
  | .uint a, .uint b => a == b
  | .float a, .float b => a.same b
  | .bool a, .bool b => a == b
  | .duration a, .duration b => a == b
  | .error a, .error b => a == b
  | .any a, .any b => a.same b
  | .group a, .group b => sameAttrs a b
  | _, _ => false

def sameAttrs : List Attr → List Attr → Bool
  | [], [] => true
  | ⟨k, a⟩ :: as, ⟨l, b⟩ :: bs => k == l && same a b && sameAttrs as bs
  | _, _ => false

end

end Value

end LogPipeline
