import Reindex.Proofs.Engine.Load
import Reindex.Proofs.Marks
import Reindex.Proofs.Search.Reading
import Reindex.Proofs.Search.Replies
import Reindex.Proofs.Trace.Entries

/-!
# Engines behind a server

A server mirrors an engine if it does to it what the calls behind the requests do, and replies as
the engine answers.  A load over HTTP then goes as it does on the engine itself.
-/

namespace Reindex.Search

open Http (Exchange Reply Request Server)
open Run
open Run.Procedure

/-! ## What goes over HTTP -/

/-- The call is made by a request that can be read back, and so can its answer. -/
structure Call.Carried (c : Call) (answer : c.Result) : Prop where
  named : ∀ index, c.index? = some index → Nameable index
  portable : c.Portable
  requested : c.immediate? = none
  fits : c.Fits answer

/-- If the entry is about a call, it goes over HTTP. -/
def Carried : Entry → Prop
  | .called c answer => c.Carried answer
  | _ => True

namespace Engine

/-! ## Engines and servers -/

/-- A server that has an engine in its state.  A request for a call does what the call does, and its
reply stands for the answer; what it replies to a count that is no word is left open. -/
structure Mirrors {τ : Type} (base : Url) (server : Server τ) (view : τ → Engine) : Prop where
  reply : ∀ r c s, callOf? base r = some c → c.Fits ((view s).perform c).1 →
    c.Replied ((view s).perform c).1 (server.respond r s).1
  state : ∀ r c s, callOf? base r = some c →
    view (server.respond r s).2 = ((view s).perform c).2

theorem proper_perform (c : Call) (e : Engine) : c.Proper (e.perform c).1 := by
  unfold perform respond
  cases c with
  | ping =>
    dsimp only
    split
    · exact Call.proper_ok trivial
    · exact Call.proper_error rfl
  | «exists» | delete => exact Call.proper_ok trivial
  | create =>
    dsimp only
    split
    · exact Call.proper_error rfl
    split
    · exact Call.proper_error rfl
    · exact Call.proper_ok trivial
  | bulk index records =>
    dsimp only
    split
    · exact Call.proper_error rfl
    · have hle : e.rejectedOf records ≤ records.length := Nat.min_le_right ..
      exact Call.proper_ok ⟨rfl, Nat.sub_add_cancel hle⟩
  | count =>
    dsimp only
    split
    · exact Call.proper_ok trivial
    · exact Call.proper_error rfl

/-- A client of a server that mirrors an engine gets the answers of the engine. -/
theorem simulates_mirrored {τ : Type} {client : Client} {server : Server τ} {view : τ → Engine}
    (hlinked : client.Linked server) (hmirrors : Mirrors client.base server view)
    (dataset : Except Run.Error (List Record)) :
    Simulates Call.Agree Carried (fun e x => e = view x.state) Engine.service (.constant dataset)
      (client.service server) (.constant dataset) where
  call c _ x hview hcarried := by
    subst hview
    obtain ⟨before, hpath⟩ := hlinked.path
    have hcall := callOf?_callRequest hpath hcarried.named hcarried.portable
    have hreply := hmirrors.reply _ c x.state hcall hcarried.fits
    have hstate := hmirrors.state _ c x.state hcall
    have hquiet := transitions_of_marks (quiet_client client server c x)
    rw [hlinked.perform_eq hcarried.requested hcarried.named] at hquiet ⊢
    exact ⟨agree_conclude rfl hreply (proper_perform c (view x.state)) _, hstate.symm, hquiet.symm⟩
  fetch _ _ hview := ⟨rfl, hview, rfl⟩

/-! ## The calls of a load -/

/-- The values of a dataset go over HTTP, and their number is a word. -/
structure Sendable (records : List Record) : Prop where
  length : records.length ≤ Number.maxWord
  portable : ∀ r ∈ records, Json.Portable Json.maxDepth r.toJson

variable {config : Config} {dataset : Except Run.Error (List Record)} {t : List Entry}
  {outcome : Except StepFailure Report} {e e' : Engine}

theorem carried_of_loadTrace (h : LoadTrace config t outcome) (ht : Takes dataset e t e')
    (hname : Nameable config.index.name)
    (hbody : Json.Portable Json.maxDepth config.index.body)
    (hrecords : ∀ records, dataset = .ok records → Sendable records) :
    ∀ entry ∈ t, Carried entry := by
  have hnamed : ∀ {c : Call}, c.index? = some config.index.name →
      ∀ index, c.index? = some index → Nameable index := by
    intro c hc index hindex
    rw [hc] at hindex
    exact Option.some.inj hindex ▸ hname
  intro entry hentry
  cases h.entries entry hentry with
  | ping answer =>
    refine ⟨fun index hindex => ?_, trivial, rfl, trivial⟩
    cases hindex
  | «exists» answer | delete answer => exact ⟨hnamed rfl, trivial, rfl, trivial⟩
  | create answer => exact ⟨hnamed rfl, hbody, rfl, trivial⟩
  | fetched result => trivial
  | @bulk records batch hfetched hbatch answer =>
    have hsendable := hrecords records (eq_of_fetched ht hfetched).symm
    refine ⟨hnamed rfl, fun r hr => hsendable.portable r (mem_of_mem_batches hbatch hr), ?_,
      trivial⟩
    cases batch with
    | nil => exact absurd rfl (ne_nil_of_mem_batches hbatch)
    | cons => rfl
  | uncounted error => exact ⟨hnamed rfl, trivial, rfl, trivial⟩
  | @counted report houtcome =>
    subst houtcome
    obtain ⟨-, -, records, rfl⟩ := records_of_load_ok h ht
    obtain ⟨-, -, -, hfetched, -, -, hcount⟩ := takes_load_ok h ht
    have hlength := (hrecords records rfl).length
    have hfits : report.indexedCount ≤ Number.maxWord := by omega
    exact ⟨hnamed rfl, trivial, rfl, hfits⟩

theorem carried_of_load {name : String} {start : State} {e : Engine}
    (hname : Nameable config.index.name)
    (hbody : Json.Portable Json.maxDepth config.index.body)
    (hrecords : ∀ records, dataset = .ok records → Sendable records) :
    ∀ entry ∈ ((load config name start).run Engine.service (.constant dataset) e).journal,
      Carried entry := by
  obtain ⟨⟨outcome, htrace, -⟩, htakes⟩ :=
    exists_loadTrace Engine.service (.constant dataset) config name start e
  have hcarried := carried_of_loadTrace htrace htakes hname hbody hrecords
  intro entry hentry
  cases entry with
  | called c answer => exact hcarried _ (called_mem_contacts hentry)
  | fetched | paused | logged => trivial

/-- A load over HTTP, from a server that mirrors an engine, goes as on that engine: the same calls,
the same states, the same report or an error of the same kind, and the same engine afterwards. -/
theorem load_over_http {τ : Type} (names : Url.Names) (server : Server τ) (view : τ → Engine)
    (url : String) (client : Client) (x : Exchange τ) (config : Config)
    (dataset : Except Run.Error (List Record)) (name : String) (start : State)
    (hconnect : Client.connect names url = .ok client) (hhttp : client.base.isHttp = true)
    (hserves : ∀ url : Url, url.scheme = client.base.scheme →
      url.authority = client.base.authority → server.serves url = true)
    (hmirrors : Mirrors client.base server view) (hname : Nameable config.index.name)
    (hbody : Json.Portable Json.maxDepth config.index.body)
    (hrecords : ∀ records, dataset = .ok records → Sendable records) :
    let direct := (load config name start).run Engine.service (.constant dataset) (view x.state)
    let overHttp := (load config name start).run (client.service server) (.constant dataset) x
    overHttp.calls = direct.calls ∧ overHttp.transitions = direct.transitions ∧
      Related Run.Error.SameKind Eq direct.result overHttp.result ∧
      view overHttp.state.state = direct.state := by
  intro direct overHttp
  have hlinked := Client.linked_of_connect hconnect hhttp hserves
  have hsimulates := simulates_mirrored hlinked hmirrors dataset
  obtain ⟨hresult, hstate, hcalls, htransitions⟩ := (alike_load config name name start).run
    hsimulates rfl (carried_of_load hname hbody hrecords)
  exact ⟨hcalls.symm, htransitions.symm, hresult, hstate.symm⟩

/-- A server at a base with an engine for its state. -/
def server (base : Url) : Server Engine where
  serves url := url.scheme == base.scheme && url.authority == base.authority
  respond r e :=
    match callOf? base r with
    | some c => (replyOf c (e.perform c).1, (e.perform c).2)
    | none => (.answered ⟨400⟩ [] true, e)

theorem mirrors_server (base : Url) : Mirrors base (server base) id where
  reply r c e hcall hfits := by
    unfold server
    dsimp only
    rw [hcall]
    exact replied_replyOf hfits
  state r c e hcall := by
    unfold server
    dsimp only
    rw [hcall]
    rfl

theorem serves_server {base url : Url} (hscheme : url.scheme = base.scheme)
    (hauthority : url.authority = base.authority) : (server base).serves url = true := by
  change (url.scheme == base.scheme && url.authority == base.authority) = true
  rw [hscheme, hauthority, beq_self_eq_true, beq_self_eq_true, Bool.and_self]

theorem late_load_over_http :
    let direct := (load smallConfig "memory" .idle).run Engine.service
      (.constant (.ok threeRecords)) lateEngine
    let overHttp := (load smallConfig "memory" .idle).run
      (localClient.service (server localClient.base)) (.constant (.ok threeRecords))
      ⟨lateEngine, []⟩
    overHttp.result = .ok ⟨2, 3, 3, 2, 1⟩ ∧ overHttp.calls = direct.calls ∧
      overHttp.calls.map Call.kind =
        [.ping, .ping, .exists, .delete, .create, .bulk, .bulk, .count] ∧
      overHttp.transitions = direct.transitions ∧ overHttp.state.state = direct.state := by
  intro direct overHttp
  have hname : Nameable smallConfig.index.name := ⟨by decide, by decide, by decide⟩
  have hrecords : Sendable threeRecords := by
    refine ⟨by decide, fun r hr => ?_⟩
    obtain rfl := List.eq_of_mem_replicate hr
    exact ⟨.nil, fun _ h => absurd h List.not_mem_nil⟩
  obtain ⟨hcalls, htransitions, hresult, hstate⟩ := load_over_http .common
    (server localClient.base) id "http://localhost:9200/es" localClient ⟨lateEngine, []⟩
    smallConfig (.ok threeRecords) "memory" .idle connect_localClient (by decide)
    (fun _ => serves_server) (mirrors_server _) hname portable_movieMapping
    (fun _ h => Except.ok.inj h ▸ hrecords)
  have hdirect : direct.result = .ok ⟨2, 3, 3, 2, 1⟩ := by decide +kernel
  have hkinds : direct.calls.map Call.kind =
      [.ping, .ping, .exists, .delete, .create, .bulk, .bulk, .count] := by decide +kernel
  refine ⟨?_, hcalls, hcalls ▸ hkinds, htransitions, hstate⟩
  rcases related_cases hresult with ⟨report, _, hreport, hreport', rfl⟩ | ⟨_, _, herror, -⟩
  · exact hreport'.trans (hreport.symm.trans hdirect)
  · cases hdirect.symm.trans herror

end Engine

end Reindex.Search
