import LogPipeline.Record.Basic
import LogPipeline.Text.Utf8

/-!
# Lines

The two encodings of a record as one line. A text line gives time, level, source, message and the
attributes as `name=value`, a group by its name in front of those of its attributes. A JSON line is
one object with the same members, in which groups are objects.
-/

namespace LogPipeline

/-- How a line is written. -/
inductive Encoding where
  | text
  | json
  deriving DecidableEq, Repr

/-- Whether a text would be misread if it stood bare in a text line. -/
def needsQuotes (s : String) : Bool :=
  s.isEmpty || s.toList.any fun c => Text.isBlank c || c == '=' || c == '"' || Text.isControl c

/-- A text as it stands in a text line. -/
def fieldText (s : String) : String := if needsQuotes s then Text.quote s else s

mutual

/-- The fields of one attribute, each after a space; `path` holds the names of the groups around
it, each with a point behind it. -/
def valueFields (path key : String) : Value → String
  | .group attrs => attrFields (path ++ key ++ ".") attrs
  | value => " " ++ path ++ key ++ "=" ++ fieldText value.text

/-- The fields of attributes in order. -/
def attrFields (path : String) : List Attr → String
  | [] => ""
  | ⟨key, value⟩ :: rest => valueFields path key value ++ attrFields path rest

end

namespace Record

/-- The source, if it is to be shown and known. -/
def shownSource (r : Record) (addSource : Bool) : Option Source :=
  if addSource then r.source else none

/-- The text line of a record with the given attributes, without its end. -/
def textLine (r : Record) (addSource : Bool) (attrs : List Attr) : String :=
  "time=" ++ r.timestamp.text ++ " level=" ++ r.level.tag ++
  (match r.shownSource addSource with
    | some s => " source=" ++ s.text
    | none => "") ++
  " msg=" ++ fieldText r.message ++ attrFields "" attrs

/-- The JSON object of a record with the given attributes. -/
def jsonObject (r : Record) (addSource : Bool) (attrs : List Attr) : Json :=
  .obj ([("time", .str r.timestamp.text), ("level", .str r.level.tag)] ++
    (match r.shownSource addSource with
      | some s => [("source", .obj [("file", .str s.file), ("line", .int s.line)])]
      | none => []) ++
    [("msg", .str r.message)] ++ Value.attrMembers attrs)

end Record

/-- The octets of a record's line with its end. -/
def Encoding.line (e : Encoding) (r : Record) (addSource : Bool) (attrs : List Attr) : Bytes :=
  Text.utf8 ((match e with
    | .text => r.textLine addSource attrs
    | .json => (r.jsonObject addSource attrs).compact) ++ "\n")

end LogPipeline
