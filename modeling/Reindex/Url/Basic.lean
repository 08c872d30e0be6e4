/-!
# Absolute URLs

The parts of a URL in the normal form that reading gives them: scheme and host in lower case, the
default port absent, everything else percent-encoded where its place demands it.  `Url.text` puts
the parts together again.
-/

namespace Reindex

/-- The path of a URL: the segments after each slash, or a text that no reference can be resolved
against. -/
inductive Url.Path where
  | segments (list : List String)
  | verbatim (text : String)
  deriving DecidableEq, Repr

/-- An absolute URL. -/
structure Url where
  scheme : String
  username : String
  password : Option String
  host : Option String
  port : Option Nat
  path : Url.Path
  query : Option String
  fragment : Option String
  deriving DecidableEq, Repr

namespace Url

/-- The path, each segment after a slash. -/
def Path.text : Path → String
  | .segments list => String.join (list.map ("/" ++ ·))
  | .verbatim text => text

/-- The port that a scheme implies. -/
def defaultPort? : String → Option Nat
  | "http" | "ws" => some 80
  | "https" | "wss" => some 443
  | "ftp" => some 21
  | _ => none

/-- The schemes that the standard gives a grammar of their own: their URLs have a host, and a
backslash counts as a slash. -/
def isSpecial (scheme : String) : Bool := (defaultPort? scheme).isSome || scheme == "file"

/-- The name and password before the host. -/
def credentials (u : Url) : String :=
  if u.username = "" ∧ u.password = none then ""
  else u.username ++ (u.password.map (":" ++ ·)).getD "" ++ "@"

/-- The host and, unless it is implied, the port. -/
def authority (u : Url) : String :=
  u.host.getD "" ++ (u.port.map fun p => ":" ++ toString p).getD ""

/-- What comes between the scheme and the path. -/
def beforePath (u : Url) : String :=
  match u.host, u.path with
  | some _, _ => "//" ++ u.credentials ++ u.authority
  | none, .segments ("" :: _ :: _) => "/."
  | none, _ => ""

/-- The question mark and the query, if there is one. -/
def queryText (u : Url) : String := (u.query.map ("?" ++ ·)).getD ""

/-- The URL as a text. -/
def text (u : Url) : String :=
  u.scheme ++ ":" ++ u.beforePath ++ u.path.text ++ u.queryText ++
    (u.fragment.map ("#" ++ ·)).getD ""

/-- What a request line names: the path and the query. -/
def target (u : Url) : String := u.path.text ++ u.queryText

/-- The URL without its fragment. -/
def withoutFragment (u : Url) : Url := { u with fragment := none }

/-- The URL without name and password. -/
def withoutCredentials (u : Url) : Url := { u with username := "", password := none }

/-- Is the scheme one that requests can be sent with? -/
def isHttp (u : Url) : Bool := u.scheme == "http" || u.scheme == "https"

/-- The port of a connection. -/
def connectionPort? (u : Url) : Option Nat := u.port <|> defaultPort? u.scheme

end Url

end Reindex
