import LogPipeline.Url.Percent

/-!
# URLs

A URL in its parts, each as it is written, and the text that they make up.
-/

namespace LogPipeline

/-- Who and where a URL is about. -/
structure Authority where
  username : String
  password : String
  host : String
  port : Option Nat
  deriving DecidableEq, Repr

/-- The user name and the password with what separates them from the host. -/
def Authority.userText (a : Authority) : String :=
  if a.username.isEmpty && a.password.isEmpty then ""
  else a.username ++ (if a.password.isEmpty then "" else ":" ++ a.password) ++ "@"

/-- The user, host and port. -/
def Authority.text (a : Authority) : String :=
  a.userText ++ a.host ++ (match a.port with
    | some p => ":" ++ toString p
    | none => "")

/-- A URL. The texts are percent encoded. -/
structure Url where
  scheme : String
  authority : Option Authority
  path : String
  query : Option String
  fragment : Option String
  deriving DecidableEq, Repr

namespace Url

/-- Why a text is no URL. -/
inductive Error where
  | emptyHost
  | invalidDomain
  | invalidPort
  | invalidIpv4
  | invalidIpv6
  | invalidHostCharacter
  | relativeWithoutBase
  deriving DecidableEq, Repr

def Error.message : Error → String
  | emptyHost => "empty host"
  | invalidDomain => "invalid international domain name"
  | invalidPort => "invalid port number"
  | invalidIpv4 => "invalid IPv4 address"
  | invalidIpv6 => "invalid IPv6 address"
  | invalidHostCharacter => "invalid domain character"
  | relativeWithoutBase => "relative URL without a base"

/-- Whether the path stands for itself and has no segments. -/
def isRootless (u : Url) : Bool := u.authority.isNone && !u.path.startsWith "/"

/-- What stands before the path. Without an authority a path may not begin like one. -/
def beforePath (u : Url) : String :=
  u.scheme ++ ":" ++ (match u.authority with
    | some a => "//" ++ a.text
    | none => if u.path.startsWith "//" then "/." else "")

/-- The path and all that follows it. -/
def fromPath (u : Url) : String :=
  u.path ++ (match u.query with
    | some q => "?" ++ q
    | none => "") ++
  (match u.fragment with
    | some f => "#" ++ f
    | none => "")

/-- The text of a URL. -/
def text (u : Url) : String := u.beforePath ++ u.fromPath

end Url

end LogPipeline
