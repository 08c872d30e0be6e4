import Reindex.Proofs.Http.Exchange
import Reindex.Proofs.Results
import Reindex.Proofs.Search.Place
import Reindex.Proofs.Url.Reader
import Reindex.Url.Names

/-!
# Clients and the servers that they reach

A client is linked to a server if all its requests can be sent and reach that server.  Each of its
calls then is one exchange, unless it needs none.
-/

namespace Reindex.Search

open Http (Exchange Request Server)

/-- All that the requests of a client need to be sent and to reach the server. -/
structure Client.Linked {τ : Type} (client : Client) (server : Server τ) : Prop where
  http : client.base.isHttp = true
  path : ∃ before, client.base.path = .segments (before ++ [""])
  serves : ∀ url : Url, url.scheme = client.base.scheme →
    url.authority = client.base.authority → server.serves url = true

namespace Client

theorem connect_base {names : Url.Names} {url : String} {client : Client}
    (h : connect names url = .ok client) :
    ∃ u, Url.parse names url = .ok u ∧ client.base = u.asDirectory := by
  unfold connect at h
  cases hparse : Url.parse names url with
  | error e =>
    rw [hparse] at h
    cases h
  | ok u =>
    rw [hparse] at h
    cases h
    exact ⟨u, rfl, rfl⟩

/-- The base of a client with an HTTP address is a directory. -/
theorem connect_path {names : Url.Names} {url : String} {client : Client}
    (h : connect names url = .ok client) (hhttp : client.base.isHttp = true) :
    ∃ before, client.base.path = .segments (before ++ [""]) := by
  obtain ⟨u, hparse, hbase⟩ := connect_base h
  rw [hbase] at hhttp ⊢
  exact Url.directory_path hparse hhttp

theorem linked_of_connect {τ : Type} {server : Server τ} {names : Url.Names} {url : String}
    {client : Client} (h : connect names url = .ok client) (hhttp : client.base.isHttp = true)
    (hserves : ∀ url : Url, url.scheme = client.base.scheme →
      url.authority = client.base.authority → server.serves url = true) :
    client.Linked server :=
  ⟨hhttp, connect_path h hhttp, hserves⟩

/-- Whatever index a call names, its request can be made, and it stays on the host of the base. -/
theorem request_of_segments {client : Client} {list : List String}
    (hpath : client.base.path = .segments list) (c : Call) :
    ∃ url, client.request c = .ok ⟨c.method, url, some contentType, c.body⟩ ∧
      url.scheme = client.base.scheme ∧ url.authority = client.base.authority := by
  have hbelow : ∃ url, client.base.below c.path = .ok url ∧ url.scheme = client.base.scheme ∧
      url.authority = client.base.authority := by
    unfold Url.below
    rw [hpath]
    dsimp only
    by_cases hempty : c.path = ""
    · rw [if_pos hempty]
      exact ⟨_, rfl, rfl, rfl⟩
    · rw [if_neg hempty]
      exact ⟨_, rfl, rfl, rfl⟩
  obtain ⟨url, hurl, hplace⟩ := hbelow
  refine ⟨url, ?_, hplace⟩
  unfold request
  rw [hurl]
  rfl

section Linked

variable {τ : Type} {client : Client} {server : Server τ}

/-- A call that needs a request: the request goes out, and its reply is concluded from. -/
theorem perform_of_request {c : Call} {r : Request} (himmediate : c.immediate? = none)
    (hrequest : client.request c = .ok r) (hhttp : r.url.isHttp = true)
    (hserves : server.serves r.url = true) (x : Exchange τ) :
    (client.service server).perform c x =
      ⟨(conclude r.url (r.receive (server.respond r x.state).1) c).1,
        (conclude r.url (r.receive (server.respond r x.state).1) c).2,
        ⟨(server.respond r x.state).2, x.sent ++ [r]⟩⟩ := by
  unfold service
  dsimp only
  rw [himmediate, hrequest]
  dsimp only
  rw [Http.send_eq hhttp hserves]

theorem Linked.reaches (h : client.Linked server) {url : Url}
    (hscheme : url.scheme = client.base.scheme)
    (hauthority : url.authority = client.base.authority) :
    url.isHttp = true ∧ server.serves url = true := by
  refine ⟨?_, h.serves url hscheme hauthority⟩
  unfold Url.isHttp
  rw [hscheme]
  exact h.http

/-- The request of a call about an index with a plain name. -/
def callRequest (client : Client) (c : Call) : Request :=
  ⟨c.method, client.place c, some contentType, c.body⟩

theorem place_scheme (client : Client) (c : Call) :
    (client.place c).scheme = client.base.scheme ∧
      (client.place c).authority = client.base.authority := by
  cases hpath : client.base.path with
  | segments list =>
    unfold place Url.descend
    rw [hpath]
    cases c <;> exact ⟨rfl, rfl⟩
  | verbatim text =>
    unfold place Url.descend
    rw [hpath]
    cases c <;> exact ⟨rfl, rfl⟩

theorem Linked.perform_eq (h : client.Linked server) {c : Call} (himmediate : c.immediate? = none)
    (hindex : ∀ index, c.index? = some index → Nameable index) (x : Exchange τ) :
    (client.service server).perform c x =
      ⟨(conclude (client.place c)
          ((client.callRequest c).receive (server.respond (client.callRequest c) x.state).1) c).1,
        (conclude (client.place c)
          ((client.callRequest c).receive (server.respond (client.callRequest c) x.state).1) c).2,
        ⟨(server.respond (client.callRequest c) x.state).2,
          x.sent ++ [client.callRequest c]⟩⟩ := by
  obtain ⟨before, hpath⟩ := h.path
  obtain ⟨hscheme, hauthority⟩ := client.place_scheme c
  obtain ⟨hhttp, hserves⟩ := h.reaches hscheme hauthority
  exact perform_of_request himmediate (client.request_eq hpath hindex) hhttp hserves x

end Linked

end Client

/-! ## A client of a service on this host -/

def localClient : Client :=
  ⟨⟨"http", "", none, some "localhost", some 9200, .segments ["es", ""], none, none⟩⟩

theorem connect_localClient :
    Client.connect Url.Names.common "http://localhost:9200/es" = .ok localClient :=
  eq_ok_of_toOption (by decide +kernel)

theorem serves_localClient (url : Url) (hscheme : url.scheme = localClient.base.scheme)
    (hauthority : url.authority = localClient.base.authority) :
    (Server.scripted "localhost:9200").serves url = true := by
  change (url.scheme == "http" && url.authority == "localhost:9200") = true
  rw [hscheme, hauthority]
  decide

end Reindex.Search
