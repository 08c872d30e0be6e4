import Reindex.Proofs.Conversation.Stage
import Reindex.Proofs.Forwarding
import Reindex.Proofs.Trace.Entries

/-!
# What a load finds

A load takes its dataset from the bytes of its file, or from the whole body of the reply to its
request.  The bytes alone decide what it fetches, so a load can be told what its dataset is without
saying where that comes from.
-/

namespace Reindex

open Http (Exchange Reply Request Server Trades)

/-- The whole body of a reply that means success. -/
def Http.Reply.content? (reply : Reply) : Option Bytes :=
  if reply.succeeds then reply.wholeBody? else none

namespace Dataset

theorem ofBody_fst (body : Bytes) : (ofBody body).1 = parse body := by
  unfold ofBody
  cases parse body <;> rfl

/-- The dataset that is delivered is the one in the body. -/
theorem ofAnswer_of_content (url : Url) {reply : Reply} {content : Bytes}
    (h : reply.content? = some content) :
    ofAnswer url ((request url).receive reply) = ofBody content := by
  cases reply with
  | dropped => cases h
  | answered status body complete =>
    unfold Reply.content? at h
    split at h
    next hsuccess =>
      change status.isSuccess = true at hsuccess
      rw [Setup.receive_answered, if_neg (show (request url).method ≠ .head from nofun), h]
      unfold ofAnswer
      dsimp only
      rw [if_pos hsuccess]
    next => cases h

theorem fetch_file {σ : Type} (read : Files.Reader) (path : String) (s : σ) :
    (Source.file read path).fetch s =
      ⟨(ofFile path (read path)).mapError .fetch, [.readingFile path], s⟩ := rfl

/-- A dataset on the web costs one exchange. -/
theorem fetch_web {τ : Type} {server : Server τ} {url : Url} (hhttp : url.isHttp = true)
    (hserves : server.serves url = true) (x : Exchange τ) :
    let answer := (request url).receive (server.respond (request url) x.state).1
    (Source.http server url).fetch x =
      ⟨(ofAnswer url answer).1.mapError .fetch, .downloading :: (ofAnswer url answer).2,
        ⟨(server.respond (request url) x.state).2, x.sent ++ [request url]⟩⟩ := by
  intro answer
  unfold Source.http Source.fetching
  dsimp only
  rw [Http.send_eq hhttp hserves]

end Dataset

/-! ## Calls -/

/-- The request for a dataset tells no content type, unlike those of calls. -/
theorem ne_request_of_contentType {r : Request} {url : Url}
    (h : r.contentType = some Search.contentType) : r ≠ Dataset.request url := by
  rintro rfl
  cases h

/-- A request never gets to the server, or it always does. -/
theorem send_cases {τ : Type} (server : Server τ) (r : Request) :
    (∃ f, ∀ x : Exchange τ, x.send server r = (.error f, x)) ∨
      r.url.isHttp = true ∧ server.serves r.url = true := by
  by_cases hhttp : r.url.isHttp = true
  · by_cases hserves : server.serves r.url = true
    · exact .inr ⟨hhttp, hserves⟩
    · refine .inl ⟨.unanswered, fun x => ?_⟩
      unfold Exchange.send
      simp [hhttp, hserves]
  · refine .inl ⟨.unsendable, fun x => ?_⟩
    unfold Exchange.send
    simp [hhttp]

/-- A call never gets to the server, or its request always does; then its reply is what counts. -/
theorem Search.Client.perform_cases {τ : Type} (client : Client) (server : Server τ) (c : Call) :
    (∃ result events, ∀ x, (client.service server).perform c x = ⟨result, events, x⟩) ∨
      ∃ r : Request, r.contentType = some contentType ∧
        ∀ x, (client.service server).perform c x =
          ⟨(conclude r.url (r.receive (server.respond r x.state).1) c).1,
            (conclude r.url (r.receive (server.respond r x.state).1) c).2,
            ⟨(server.respond r x.state).2, x.sent ++ [r]⟩⟩ := by
  cases himmediate : c.immediate? with
  | some result =>
    refine .inl ⟨result, [], fun x => ?_⟩
    unfold service
    dsimp only
    rw [himmediate]
  | none =>
    cases hrequest : client.request c with
    | error e =>
      refine .inl ⟨.error ⟨c.errorKind, e.message⟩, [], fun x => ?_⟩
      unfold service
      dsimp only
      rw [himmediate, hrequest]
    | ok r =>
      rcases send_cases server r with ⟨f, hsend⟩ | ⟨hhttp, hserves⟩
      · -- The failure of the request is that of the call, in every state.
        refine .inl ⟨(conclude r.url (.error f) c).1, (conclude r.url (.error f) c).2,
          fun x => ?_⟩
        unfold service
        dsimp only
        rw [himmediate, hrequest]
        dsimp only
        rw [hsend]
      · exact .inr ⟨r, contentType_of_request hrequest,
          perform_of_request himmediate hrequest hhttp hserves⟩

/-! ## Loads -/

section Loads

variable {τ : Type} {server : Server τ} {x x' : Exchange τ}

/-- What a load on the web fetches on its way is what the replies to its requests for the dataset
make, one for each time. -/
theorem exists_trades {client : Search.Client} {url : Url} (hhttp : url.isHttp = true)
    (hserves : server.serves url = true) {t : List Run.Entry}
    (h : Run.Replays (client.service server) (.http server url) x t x') :
    ∃ trades, Trades server x trades x' ∧
      (trades.map Prod.fst).count (Dataset.request url) = t.countP Run.Entry.isFetched ∧
      ∀ answer, .fetched answer ∈ t → ∃ reply, (Dataset.request url, reply) ∈ trades ∧
        answer =
          (Dataset.ofAnswer url ((Dataset.request url).receive reply)).1.mapError .fetch := by
  induction t generalizing x with
  | nil => exact ⟨[], h, rfl, fun _ hmem => absurd hmem List.not_mem_nil⟩
  | cons entry rest ih =>
    cases entry with
    | called c result =>
      obtain ⟨trades, htrades, hcount, hfetched⟩ := ih h.2
      have hlater : ∀ answer, .fetched answer ∈ Run.Entry.called c result :: rest →
          .fetched answer ∈ rest := by
        simp
      rcases client.perform_cases server c with ⟨_, _, hperform⟩ | ⟨r, hcontent, hperform⟩
      · rw [hperform] at htrades
        exact ⟨trades, htrades, hcount, fun answer hmem => hfetched answer (hlater answer hmem)⟩
      · rw [hperform] at htrades
        refine ⟨(r, _) :: trades, ⟨rfl, htrades⟩, ?_, fun answer hmem => ?_⟩
        · rw [List.map_cons, List.count_cons_of_ne (ne_request_of_contentType hcontent), hcount]
          rfl
        · obtain ⟨reply, hreply, hanswer⟩ := hfetched answer (hlater answer hmem)
          exact ⟨reply, List.mem_cons_of_mem _ hreply, hanswer⟩
    | fetched result =>
      obtain ⟨hresult, hrest⟩ := h
      obtain ⟨trades, htrades, hcount, hfetched⟩ := ih hrest
      rw [Dataset.fetch_web hhttp hserves] at hresult htrades
      refine ⟨(Dataset.request url, _) :: trades, ⟨rfl, htrades⟩, ?_, fun answer hmem => ?_⟩
      · rw [List.map_cons, List.count_cons_self, hcount, List.countP_cons_of_pos rfl]
      rcases List.mem_cons.mp hmem with heq | hmem
      · cases heq
        exact ⟨_, List.mem_cons_self, hresult⟩
      · obtain ⟨reply, hreply, hanswer⟩ := hfetched answer hmem
        exact ⟨reply, List.mem_cons_of_mem _ hreply, hanswer⟩
    | paused ms =>
      obtain ⟨trades, htrades, hcount, hfetched⟩ := ih h
      exact ⟨trades, htrades, hcount, fun answer hmem => hfetched answer (by simpa using hmem)⟩
    | logged event =>
      obtain ⟨trades, htrades, hcount, hfetched⟩ := ih h
      exact ⟨trades, htrades, hcount, fun answer hmem => hfetched answer (by simpa using hmem)⟩

/-- The file of the load holds these bytes; or whenever the load asks for its dataset, it gets them
whole. -/
def Setup.Finds (setup : Setup) (read : Files.Reader) (server : Server τ) (x : Exchange τ)
    (content : Bytes) : Prop :=
  match setup.dataset with
  | .file path => read path = .ok content
  | .web url => url.isHttp = true ∧ server.serves url = true ∧
    ∀ trades, Trades server x trades (setup.run read server x).state →
      ∀ reply, (Dataset.request url, reply) ∈ trades → reply.content? = some content

/-- Every load over HTTP is the trace of a load, with the answers of its server. -/
theorem Setup.loadTrace_of_run (setup : Setup) (read : Files.Reader) (server : Server τ)
    (x : Exchange τ) :
    (∃ outcome, Run.LoadTrace setup.config (setup.run read server x).contacts outcome) ∧
      Run.Replays (setup.client.service server)
        (Dataset.Source.ofLocation read server setup.dataset) x
        (setup.run read server x).contacts (setup.run read server x).state := by
  obtain ⟨htrace, -, hreplays⟩ := Run.loadTrace_of_run (setup.client.service server)
    (Dataset.Source.ofLocation read server setup.dataset) setup.config setup.dataset.text .idle x
  exact ⟨⟨_, htrace⟩, hreplays⟩

/-- A load sends at most one request for its dataset. -/
theorem Setup.count_request_le {setup : Setup} {url : Url} (hdataset : setup.dataset = .web url)
    (hhttp : url.isHttp = true) (hserves : server.serves url = true) (read : Files.Reader)
    (state : τ) :
    (setup.run read server ⟨state, []⟩).state.sent.count (Dataset.request url) ≤ 1 := by
  obtain ⟨⟨outcome, htrace⟩, hreplays⟩ := setup.loadTrace_of_run read server ⟨state, []⟩
  rw [hdataset] at hreplays
  obtain ⟨trades, htrades, hcount, -⟩ := exists_trades hhttp hserves hreplays
  rw [htrades.sent, List.nil_append, hcount]
  exact htrace.fetched_once

theorem Setup.Finds.fetched {setup : Setup} {read : Files.Reader} {content : Bytes}
    (h : setup.Finds read server x content) {answer : Except Run.Error (List Record)}
    (hmem : .fetched answer ∈ (setup.run read server x).contacts) :
    answer = (Dataset.parse content).mapError .fetch := by
  have hreplays := (setup.loadTrace_of_run read server x).2
  unfold Setup.Finds at h
  cases hdataset : setup.dataset with
  | file path =>
    rw [hdataset] at h hreplays
    refine Run.fetched_of_replays (P := (· = (Dataset.parse content).mapError .fetch))
      (fun y => ?_) hreplays hmem
    show ((Dataset.Source.file read path).fetch y).answer = _
    rw [Dataset.fetch_file, h]
    rfl
  | web url =>
    rw [hdataset] at h hreplays
    obtain ⟨hhttp, hserves, hdelivers⟩ := h
    obtain ⟨trades, htrades, -, hfetched⟩ := exists_trades hhttp hserves hreplays
    obtain ⟨reply, hreply, rfl⟩ := hfetched answer hmem
    rw [Dataset.ofAnswer_of_content url (hdelivers trades htrades reply hreply),
      Dataset.ofBody_fst]

end Loads

/-! ## Scripts -/

/-- Of a script, the request in each place gets the reply in that place. -/
theorem reply_of_trades {serves : Url → Bool} {trades : List (Request × Reply)}
    {x x' : Exchange (List Reply)} (h : Trades (.script serves) x trades x') {i : Nat}
    {r : Request} {reply : Reply} (htrade : trades[i]? = some (r, reply)) :
    reply = x.state[i]?.getD .unscripted := by
  induction trades generalizing x i with
  | nil => cases htrade
  | cons trade rest ih =>
    obtain ⟨script, sent⟩ := x
    obtain ⟨hreply, hrest⟩ := h
    cases i with
    | zero =>
      cases htrade
      refine Eq.trans hreply ?_
      cases script <;> rfl
    | succ i =>
      rw [ih hrest htrade]
      -- A script that has come to its end stays there.
      cases script <;> rfl

/-- In a script, the reply that is due to the request for the dataset has to be the one. -/
theorem Setup.finds_of_script {setup : Setup} {read : Files.Reader} {serves : Url → Bool}
    {script : List Reply} {url : Url} {content : Bytes} (hdataset : setup.dataset = .web url)
    (hhttp : url.isHttp = true) (hserves : serves url = true)
    (h : ∀ i : Nat, (setup.run read (.script serves) ⟨script, []⟩).state.sent[i]? =
      some (Dataset.request url) → script[i]?.bind Reply.content? = some content) :
    setup.Finds read (.script serves) ⟨script, []⟩ content := by
  unfold Finds
  rw [hdataset]
  refine ⟨hhttp, hserves, fun trades htrades reply hreply => ?_⟩
  obtain ⟨i, hi⟩ := List.mem_iff_getElem?.mp hreply
  have hsent := htrades.sent
  rw [List.nil_append] at hsent
  have hcontent := h i (by rw [hsent, List.getElem?_map, hi]; rfl)
  obtain ⟨due, hdue, hdelivers⟩ := Option.bind_eq_some_iff.mp hcontent
  have hreply := reply_of_trades htrades hi
  dsimp only at hreply
  rw [hdue] at hreply
  rw [hreply]
  exact hdelivers

end Reindex
