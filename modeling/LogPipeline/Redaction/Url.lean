import LogPipeline.Text.Lowercase
import LogPipeline.Redaction.Keys
import LogPipeline.Url.Form
import LogPipeline.Url.Parser

/-!
# URLs without credentials

The values of the query parameters that usually hold credentials are replaced, whatever the case of
their names, and all parameters are sorted by name and written as a form.
-/

namespace LogPipeline

/-- The parameters whose values are always replaced, in lower case. -/
def sensitiveParameters : List String := ["apikey", "password", "token", "key"]

/-- A pair of name and value with the value replaced if it is a credential. -/
def redactPair (p : String × String) : String × String :=
  if sensitiveParameters.contains (Text.lowercase p.1) then (p.1, redactedText) else p

namespace Url

/-- The pairs with credentials replaced, sorted by name; pairs of one name keep their order. -/
def sanitizedPairs (query : String) : List (String × String) :=
  ((formPairs query).map redactPair).mergeSort fun a b => a.1 ≤ b.1

/-- The URL with another query. A path that stands for itself may not end in spaces once nothing
follows it. -/
def withQuery (u : Url) (query : Option String) : Url :=
  let path :=
    if u.isRootless && query.isNone && u.fragment.isNone then
      String.ofList (u.path.toList.reverse.dropWhile (· == ' ')).reverse
    else u.path
  { u with query, path }

/-- The URL with credentials in its query replaced. -/
def sanitize (u : Url) : Url :=
  match u.query with
  | none => u
  | some q =>
    let pairs := sanitizedPairs q
    u.withQuery (if pairs.isEmpty then none else some (formQuery pairs))

/-- The URL that references without scheme are seen from. -/
def relativeBase : Url :=
  ⟨"http", some ⟨"", "", "relative.invalid", none⟩, "/", none, none⟩

/-- The text of a URL or of a reference, with credentials replaced. A text that is neither gives
nothing. Of a reference only the path and what follows it remain. -/
def sanitizeText (raw : String) : String :=
  match parse raw with
  | .ok u => u.sanitize.text
  | .error .relativeWithoutBase =>
    match (relativeBase.join raw).bind fun u => parse u.sanitize.text with
    | .ok u => u.fromPath
    | .error _ => ""
  | .error _ => ""

end Url

end LogPipeline
