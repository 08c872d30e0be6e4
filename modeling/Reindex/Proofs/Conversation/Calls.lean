import Reindex.Proofs.Conversation.Stage
import Reindex.Proofs.Search.Link

/-!
# Calls as exchanges

Each call of a load over HTTP is one exchange with the server: the request of the load's stage goes
out, and the reply leads to the next stage.
-/

namespace Reindex.Setup

open Http (Exchange Reply Request Server Trades)
open Search (Call contentType)

/-- All that the requests of a load need to be sent and to reach the server. -/
structure Reachable {τ : Type} (setup : Setup) (server : Server τ) : Prop where
  maxAttempts : setup.config.readiness.maxAttempts ≠ 0
  batchSize : setup.config.ingest.batchSize ≠ 0
  name : Search.Nameable setup.config.index.name
  http : setup.client.base.isHttp = true
  path : ∃ list, setup.client.base.path = .segments list
  serves : ∀ url : Url, url.scheme = setup.client.base.scheme →
    url.authority = setup.client.base.authority → server.serves url = true
  dataset : ∀ url, setup.dataset = .web url → url.isHttp = true ∧ server.serves url = true

section Reaches

variable {τ : Type} {setup : Setup} {read : Files.Reader} {server : Server τ}
  {x x' x'' : Exchange τ} {stage stage' stage'' : Stage}

/-- Some exchanges lead from one state and stage to another. -/
def Reaches (setup : Setup) (read : Files.Reader) (server : Server τ) (x : Exchange τ)
    (stage : Stage) (x' : Exchange τ) (stage' : Stage) : Prop :=
  ∃ trades, Trades server x trades x' ∧ setup.Converses read stage trades stage'

theorem Reaches.refl : setup.Reaches read server x stage x stage := ⟨[], rfl, rfl⟩

theorem Reaches.trans (h : setup.Reaches read server x stage x' stage')
    (h' : setup.Reaches read server x' stage' x'' stage'') :
    setup.Reaches read server x stage x'' stage'' := by
  obtain ⟨trades, htrades, hconverses⟩ := h
  obtain ⟨trades', htrades', hconverses'⟩ := h'
  exact ⟨trades ++ trades', Http.trades_append.mpr ⟨x', htrades, htrades'⟩,
    converses_append.mpr ⟨stage', hconverses, hconverses'⟩⟩

/-! ## One call -/

/-- The request of a call. -/
def callRequest (setup : Setup) (c : Call) : Request :=
  ⟨c.method, setup.client.place c, some contentType, c.body⟩

theorem Reachable.place (h : setup.Reachable server) (c : Call) :
    (setup.client.place c).isHttp = true ∧ server.serves (setup.client.place c) = true := by
  have hplace := setup.client.place_scheme c
  refine ⟨?_, h.serves _ hplace.1 hplace.2⟩
  unfold Url.isHttp
  rw [hplace.1]
  exact h.http

/-- A call is one exchange.  It leads on to the stage that every reply with its answer leads to. -/
theorem reaches_call (h : setup.Reachable server) {c : Call} (hrequest : c.immediate? = none)
    (hindex : c.index? = none ∨ c.index? = some setup.config.index.name)
    (hstage : setup.request? stage = some (setup.callRequest c)) {answer : c.Result}
    (hanswer : answer = ((setup.client.service server).perform c x).answer)
    (hnext : ∀ reply, answer = concluded (setup.callRequest c) reply c →
      setup.after read stage reply = stage') :
    setup.Reaches read server x stage ((setup.client.service server).perform c x).state stage' := by
  obtain ⟨list, hpath⟩ := h.path
  obtain ⟨hhttp, hserves⟩ := h.place c
  have hname : ∀ index, c.index? = some index → Search.Nameable index := by
    intro index hc
    rcases hindex with hnone | hsome
    · cases hnone.symm.trans hc
    · exact Option.some.inj (hsome.symm.trans hc) ▸ h.name
  have hcall : setup.client.request c = .ok (setup.callRequest c) :=
    Search.Client.request_eq hpath hname
  have hperform := Search.Client.perform_of_request hrequest hcall hhttp hserves x
  rw [hperform] at hanswer ⊢
  exact ⟨[(setup.callRequest c, _)], ⟨rfl, rfl⟩, hstage, (hnext _ hanswer).symm⟩

/-! ## The calls of a load -/

section Calls

variable (h : setup.Reachable server)
include h

theorem reaches_ping {left : Nat} {answer : Call.Result .ping}
    (hanswer : answer = ((setup.client.service server).perform .ping x).answer) :
    setup.Reaches read server x (.pinging left)
      ((setup.client.service server).perform .ping x).state
      (afterPing left answer.toOption) :=
  reaches_call h rfl (.inl rfl) rfl hanswer fun reply hreply =>
    hreply ▸ after_pinging _ reply left

theorem reaches_exists {answer : Call.Result (.exists setup.config.index.name)}
    (hanswer : answer =
      ((setup.client.service server).perform (.exists setup.config.index.name) x).answer) :
    setup.Reaches read server x .checking
      ((setup.client.service server).perform (.exists setup.config.index.name) x).state
      (afterCheck answer.toOption) :=
  reaches_call h rfl (.inr rfl) rfl hanswer fun reply hreply =>
    hreply ▸ after_checking _ reply _

theorem reaches_delete {answer : Call.Result (.delete setup.config.index.name)}
    (hanswer : answer =
      ((setup.client.service server).perform (.delete setup.config.index.name) x).answer) :
    setup.Reaches read server x .deleting
      ((setup.client.service server).perform (.delete setup.config.index.name) x).state
      (if answer.toOption.isSome then .creating else .stopped) :=
  reaches_call h rfl (.inr rfl) rfl hanswer fun reply hreply =>
    hreply ▸ after_deleting _ reply _

theorem reaches_create
    {answer : Call.Result (.create setup.config.index.name setup.config.index.body)}
    (hanswer : answer = ((setup.client.service server).perform
      (.create setup.config.index.name setup.config.index.body) x).answer) :
    setup.Reaches read server x .creating
      ((setup.client.service server).perform
        (.create setup.config.index.name setup.config.index.body) x).state
      (if answer.toOption.isSome then setup.withIndex read else .stopped) :=
  reaches_call h rfl (.inr rfl) rfl hanswer fun reply hreply =>
    hreply ▸ after_creating _ reply _ _

theorem reaches_bulk {batch : List Record} (hbatch : batch ≠ []) (rest : List (List Record))
    {answer : Call.Result (.bulk setup.config.index.name batch)}
    (hanswer : answer =
      ((setup.client.service server).perform (.bulk setup.config.index.name batch) x).answer) :
    setup.Reaches read server x (.writing batch rest)
      ((setup.client.service server).perform (.bulk setup.config.index.name batch) x).state
      (if answer.toOption.isSome then writingFrom rest else .stopped) := by
  have hrequest : (Call.bulk setup.config.index.name batch).immediate? = none := by
    cases batch with
    | nil => exact absurd rfl hbatch
    | cons => rfl
  have hpost : (setup.callRequest (.bulk setup.config.index.name batch)).method ≠ .head := by
    change Http.Method.post ≠ .head
    decide
  exact reaches_call h hrequest (.inr rfl) rfl hanswer fun reply hreply =>
    hreply ▸ after_writing hpost reply _ batch rest

theorem reaches_count {answer : Call.Result (.count setup.config.index.name)}
    (hanswer : answer =
      ((setup.client.service server).perform (.count setup.config.index.name) x).answer) :
    setup.Reaches read server x .counting
      ((setup.client.service server).perform (.count setup.config.index.name) x).state
      (if answer.toOption.isSome then .done else .stopped) := by
  have hget : (setup.callRequest (.count setup.config.index.name)).method ≠ .head := by
    change Http.Method.get ≠ .head
    decide
  exact reaches_call h rfl (.inr rfl) rfl hanswer fun reply hreply =>
    hreply ▸ after_counting hget reply _

/-- The dataset comes from its URL with one exchange, and from a file with none. -/
theorem reaches_fetch {answer : Except Run.Error (List Record)}
    (hanswer : answer = ((Dataset.Source.ofLocation read server setup.dataset).fetch x).answer) :
    setup.Reaches read server x (setup.withIndex read)
      ((Dataset.Source.ofLocation read server setup.dataset).fetch x).state
      (setup.withRecords answer.toOption) := by
  cases hdataset : setup.dataset with
  | file path =>
    -- No exchange takes place, and the file decides at once.
    rw [hdataset] at hanswer
    unfold withIndex
    rw [hdataset, hanswer]
    change setup.Reaches read server x _ x (setup.withRecords (Except.toOption (.mapError _ _)))
    rw [toOption_mapError]
    exact .refl
  | web url =>
    rw [hdataset] at hanswer
    obtain ⟨hhttp, hserves⟩ := h.dataset url hdataset
    have hfetch : (Dataset.Source.ofLocation read server (.web url)).fetch x =
        ⟨(Dataset.ofAnswer url ((Dataset.request url).receive
            (server.respond (Dataset.request url) x.state).1)).1.mapError .fetch,
          .downloading :: (Dataset.ofAnswer url ((Dataset.request url).receive
            (server.respond (Dataset.request url) x.state).1)).2,
          ⟨(server.respond (Dataset.request url) x.state).2, x.sent ++ [Dataset.request url]⟩⟩ := by
      unfold Dataset.Source.ofLocation Dataset.Source.http Dataset.Source.fetching
      dsimp only
      rw [Http.send_eq hhttp hserves]
    rw [hfetch] at hanswer ⊢
    rw [hanswer, toOption_mapError, toOption_ofAnswer]
    unfold withIndex
    rw [hdataset]
    exact ⟨[(Dataset.request url, _)], ⟨rfl, rfl⟩, rfl, rfl⟩

end Calls

end Reaches

end Reindex.Setup
