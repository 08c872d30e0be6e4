import Reindex.Http.Status
import Reindex.Text.Utf8
import Reindex.Url.Basic

/-!
# Requests and what comes back

A request names a URL; a reply is what the other side does about it, and `Request.receive` says what
of a reply its sender gets to see.
-/

namespace Reindex.Http

/-- The method of a request. -/
inductive Method where
  | head
  | get
  | put
  | post
  | delete
  deriving DecidableEq, Repr

/-- The name of a method. -/
def Method.name : Method → String
  | .head => "HEAD"
  | .get => "GET"
  | .put => "PUT"
  | .post => "POST"
  | .delete => "DELETE"

/-- A request. -/
structure Request where
  method : Method
  url : Url
  contentType : Option String
  body : Bytes
  deriving DecidableEq, Repr

/-- What a server does about a request. -/
inductive Reply where
  /-- The connection is closed without an answer. -/
  | dropped
  /-- An answer; when it is not complete, the connection breaks while the body is sent. -/
  | answered (status : Status) (body : Bytes) (complete : Bool)
  deriving DecidableEq, Repr, Inhabited

/-- Why a request got no answer. -/
inductive Failure where
  /-- The URL is not one that requests can be sent to. -/
  | unsendable
  /-- The connection failed before an answer came. -/
  | unanswered
  deriving DecidableEq, Repr

/-- The message of a failure of a request for `url`. -/
def Failure.message (url : Url) : Failure → String
  | .unsendable => "builder error for url (" ++ url.withoutCredentials.text ++ ")"
  | .unanswered => "error sending request for url (" ++ url.withoutCredentials.text ++ ")"

/-- An answer: its status, and its body unless that cannot be read to its end. -/
structure Response where
  status : Status
  body? : Option Bytes
  deriving DecidableEq, Repr

/-- What the sender of a request sees of a reply.  Some answers have no body, whatever the server
sends. -/
def Request.receive (r : Request) : Reply → Except Failure Response
  | .dropped => .error .unanswered
  | .answered status body complete =>
    if r.method = .head || !status.allowsBody then .ok ⟨status, some []⟩
    else .ok ⟨status, if complete then some body else none⟩

end Reindex.Http
