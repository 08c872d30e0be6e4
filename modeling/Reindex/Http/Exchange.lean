import Reindex.Http.Message

/-!
# Exchanges with a server

A server is a machine that replies to one request after another.  An exchange is the server's state
together with the requests that have reached it.
-/

namespace Reindex.Http

/-- A server: the URLs it is found at, and its reply to a request in each of its states. -/
structure Server (τ : Type) where
  serves : Url → Bool
  respond : Request → τ → Reply × τ

/-- What has happened between a server and those who talk to it. -/
structure Exchange (τ : Type) where
  state : τ
  sent : List Request

namespace Exchange

variable {τ : Type}

/-- Sends one request.  It reaches the server only if its URL leads there. -/
def send (server : Server τ) (r : Request) (x : Exchange τ) :
    Except Failure Response × Exchange τ :=
  if !r.url.isHttp then (.error .unsendable, x)
  else if server.serves r.url then
    let (reply, state) := server.respond r x.state
    (r.receive reply, ⟨state, x.sent ++ [r]⟩)
  else (.error .unanswered, x)

end Exchange

/-- The answer of a scripted server that has come to its end. -/
def Reply.unscripted : Reply := .answered ⟨500⟩ (utf8 "unscripted") true

/-- A server at all these URLs that goes through a list of replies. -/
def Server.script (serves : Url → Bool) : Server (List Reply) where
  serves := serves
  respond _
    | [] => (.unscripted, [])
    | reply :: rest => (reply, rest)

/-- A server at one address over plain HTTP that goes through a list of replies. -/
def Server.scripted (authority : String) : Server (List Reply) :=
  .script fun url => url.scheme == "http" && url.authority == authority

end Reindex.Http
