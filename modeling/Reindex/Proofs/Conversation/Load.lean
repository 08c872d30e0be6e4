import Reindex.Proofs.Conversation.Calls
import Reindex.Proofs.Settings.Setup
import Reindex.Proofs.Trace.Load
import Reindex.Proofs.Url.Reader

/-!
# The conversation of a load

What a load over HTTP sends, and when it ends, for every sequence of replies: the steps of the load
follow its stages, so the whole load does.
-/

namespace Reindex.Setup

open Http (Exchange Reply Server Trades)
open Run
open Search (BulkSummary Call)

section Steps

variable {τ : Type} {setup : Setup} {read : Files.Reader} {server : Server τ}
  {x x' : Exchange τ} {t : List Entry}

/-- The calls and fetches of `t`, with the answers that they get over HTTP. -/
abbrev Makes (setup : Setup) (read : Files.Reader) (server : Server τ) (x : Exchange τ)
    (t : List Entry) (x' : Exchange τ) : Prop :=
  Replays (setup.client.service server) (Dataset.Source.ofLocation read server setup.dataset) x t x'

/-! ## The steps of a load -/

theorem reaches_refusals (h : setup.Reachable server) {refused : List (Call.Result .ping)}
    (hrefused : ∀ answer ∈ refused, answer ≠ .ok true) {left : Nat} (hle : refused.length ≤ left)
    (ht : setup.Makes read server x (pinged refused) x') :
    setup.Reaches read server x (.pinging left) x' (.pinging (left - refused.length)) := by
  induction refused generalizing x left with
  | nil =>
    obtain rfl := ht
    exact .refl
  | cons answer rest ih =>
    obtain ⟨hanswer, hrest⟩ := List.forall_mem_cons.mp hrefused
    obtain ⟨hreply, ht⟩ := ht
    cases left with
    | zero => cases hle
    -- One of the attempts is used up.
    | succ left =>
      have hping : setup.Reaches read server x (.pinging (left + 1)) _ _ := reaches_ping h hreply
      rw [afterPing_of_ne hanswer] at hping
      rw [List.length_cons, Nat.add_sub_add_right]
      exact hping.trans (ih hrest (Nat.le_of_succ_le_succ hle) ht)

theorem reaches_probe (h : setup.Reachable server) {result : Except Error Nat}
    (hprobe : ProbeTrace setup.config.readiness t result)
    (ht : setup.Makes read server x t x') :
    setup.Reaches read server x (.pinging (setup.config.readiness.maxAttempts - 1)) x'
      (if result.toOption.isSome then .checking else .stopped) := by
  cases hprobe with
  | pointless hmax => exact absurd hmax h.maxAttempts
  | ready refused hrefused hlt =>
    rw [pinged, List.map_append] at ht
    obtain ⟨between, hpings, hlast, rfl⟩ := replays_append.mp ht
    exact (reaches_refusals h hrefused (Nat.le_sub_one_of_lt hlt) hpings).trans
      (reaches_ping h hlast)
  | exhausted refused last refusal hrefused hlast hmax =>
    rw [pinged, List.map_append] at ht
    obtain ⟨between, hpings, hanswer, rfl⟩ := replays_append.mp ht
    -- The refusals before the last use up all attempts but one.
    have hnone : setup.config.readiness.maxAttempts - 1 - refused.length = 0 := by omega
    have hle : refused.length ≤ setup.config.readiness.maxAttempts - 1 := by omega
    have hpinged : setup.Reaches read server x _ between _ :=
      reaches_refusals h hrefused hle hpings
    rw [hnone] at hpinged
    have hping : setup.Reaches read server between (.pinging 0) _ _ := reaches_ping h hanswer
    rw [afterPing_of_ne (Readiness.ne_of_refusal? hlast)] at hping
    exact hpinged.trans hping

theorem reaches_reset (h : setup.Reachable server) {result : Except Error Unit}
    (hreset : ResetTrace setup.config.index t result) (ht : setup.Makes read server x t x') :
    setup.Reaches read server x .checking x'
      (if result.toOption.isSome then setup.withIndex read else .stopped) := by
  cases hreset with
  | unclear e =>
    obtain ⟨hexists, rfl⟩ := ht
    exact reaches_exists h hexists
  | undeleted e =>
    obtain ⟨hexists, hdelete, rfl⟩ := ht
    exact (reaches_exists h hexists).trans (reaches_delete h hdelete)
  | uncreated e =>
    obtain ⟨hexists, hcreate, rfl⟩ := ht
    exact (reaches_exists h hexists).trans (reaches_create h hcreate)
  | lost e =>
    obtain ⟨hexists, hdelete, hcreate, rfl⟩ := ht
    exact (reaches_exists h hexists).trans
      ((reaches_delete h hdelete).trans (reaches_create h hcreate))
  | created =>
    obtain ⟨hexists, hcreate, rfl⟩ := ht
    exact (reaches_exists h hexists).trans (reaches_create h hcreate)
  | recreated =>
    obtain ⟨hexists, hdelete, hcreate, rfl⟩ := ht
    exact (reaches_exists h hexists).trans
      ((reaches_delete h hdelete).trans (reaches_create h hcreate))

/-- Batches that are written make room for those after them. -/
theorem reaches_wrote (h : setup.Reachable server) {pending : List (List Record)}
    (hpending : ∀ batch ∈ pending, batch ≠ []) (later : List (List Record))
    {outcomes : List BulkSummary} (hlength : outcomes.length = pending.length)
    (ht : setup.Makes read server x (wrote setup.config.index.name pending outcomes) x') :
    setup.Reaches read server x (writingFrom (pending ++ later)) x' (writingFrom later) := by
  induction pending generalizing x outcomes with
  | nil =>
    obtain rfl := List.eq_nil_of_length_eq_zero hlength
    obtain rfl := ht
    exact .refl
  | cons batch rest ih =>
    cases outcomes with
    | nil => cases hlength
    | cons outcome outcomes =>
      obtain ⟨hbatch, hrest⟩ := List.forall_mem_cons.mp hpending
      obtain ⟨hanswer, ht⟩ := ht
      exact (reaches_bulk h hbatch (rest ++ later) hanswer).trans
        (ih hrest (Nat.succ.inj hlength) ht)

theorem reaches_insert (h : setup.Reachable server) {records : List Record}
    {result : Except Error IngestSummary}
    (hinsert : InsertTrace setup.config.ingest setup.config.index.name records t result)
    (ht : setup.Makes read server x t x') :
    setup.Reaches read server x (setup.withRecords (some records)) x'
      (if result.toOption.isSome then .counting else .stopped) := by
  have hpending : ∀ batch ∈ batches setup.config.ingest.batchSize records, batch ≠ [] :=
    fun _ => ne_nil_of_mem_batches
  cases result with
  | ok sent =>
    obtain ⟨-, outcomes, hlength, rfl, -⟩ := hinsert.of_ok
    have hwrote : setup.Reaches read server x _ x' _ := reaches_wrote h hpending [] hlength ht
    rwa [List.append_nil] at hwrote
  | error err =>
    rcases hinsert.of_error with ⟨-, hsize, -⟩ |
      ⟨-, before, after, batch, outcomes, e, hbatches, hlength, rfl, -⟩
    · exact absurd hsize h.batchSize
    · obtain ⟨between, hwrote, hanswer, rfl⟩ := replays_append.mp ht
      unfold withRecords
      dsimp only
      rw [hbatches] at hpending ⊢
      rw [List.forall_mem_append, List.forall_mem_cons] at hpending
      exact (reaches_wrote h hpending.1 (batch :: after) hlength hwrote).trans
        (reaches_bulk h hpending.2.1 after hanswer)

/-- The steps of a load lead from its first ping to its end. -/
theorem reaches_load (h : setup.Reachable server) {outcome : Except StepFailure Report}
    (htrace : LoadTrace setup.config t outcome) (ht : setup.Makes read server x t x') :
    setup.Reaches read server x (.pinging (setup.config.readiness.maxAttempts - 1)) x'
      (if outcome.toOption.isSome then .done else .stopped) := by
  -- Each case goes on where the one before it stops.
  cases htrace with
  | probing hprobe => exact reaches_probe h hprobe ht
  | initializing hprobe hreset =>
    obtain ⟨_, hpings, ht⟩ := replays_append.mp ht
    exact (reaches_probe h hprobe hpings).trans (reaches_reset h hreset ht)
  | fetching hprobe hreset detail =>
    obtain ⟨_, hpings, ht⟩ := replays_append.mp ht
    obtain ⟨_, hcalls, hfetch, rfl⟩ := replays_append.mp ht
    exact (reaches_probe h hprobe hpings).trans
      ((reaches_reset h hreset hcalls).trans (reaches_fetch h hfetch))
  | ingesting hprobe hreset hinsert =>
    obtain ⟨_, hpings, ht⟩ := replays_append.mp ht
    obtain ⟨_, hcalls, hfetch, ht⟩ := replays_append.mp ht
    exact (reaches_probe h hprobe hpings).trans ((reaches_reset h hreset hcalls).trans
      ((reaches_fetch h hfetch).trans (reaches_insert h hinsert ht)))
  | verifying hprobe hreset hinsert e =>
    obtain ⟨_, hpings, ht⟩ := replays_append.mp ht
    obtain ⟨_, hcalls, hfetch, ht⟩ := replays_append.mp ht
    obtain ⟨_, hbulks, hcount, rfl⟩ := replays_append.mp ht
    exact (reaches_probe h hprobe hpings).trans ((reaches_reset h hreset hcalls).trans
      ((reaches_fetch h hfetch).trans ((reaches_insert h hinsert hbulks).trans
        (reaches_count h hcount))))
  | done hprobe hreset hinsert counted =>
    obtain ⟨_, hpings, ht⟩ := replays_append.mp ht
    obtain ⟨_, hcalls, hfetch, ht⟩ := replays_append.mp ht
    obtain ⟨_, hbulks, hcount, rfl⟩ := replays_append.mp ht
    exact (reaches_probe h hprobe hpings).trans ((reaches_reset h hreset hcalls).trans
      ((reaches_fetch h hfetch).trans ((reaches_insert h hinsert hbulks).trans
        (reaches_count h hcount))))

end Steps

/-! ## Runs -/

/-- What the settings have to say for the requests to be sent. -/
theorem reachable_of_setsUp {τ : Type} {names : Url.Names} {server : Server τ} {s : Settings}
    {read : Files.Reader} {setup : Setup} (h : s.SetsUp names read setup)
    (hhttp : setup.client.base.isHttp = true)
    (hserves : ∀ url : Url, url.scheme = setup.client.base.scheme →
      url.authority = setup.client.base.authority → server.serves url = true)
    (hdataset : ∀ url, setup.dataset = .web url → url.isHttp = true ∧ server.serves url = true)
    (hdot : s.indexName ≠ ".") (hdots : s.indexName ≠ "..") : setup.Reachable server where
  maxAttempts := by
    rw [h.readiness]
    exact h.valid.maxAttempts
  batchSize := by
    rw [h.ingest]
    exact h.valid.batchSize
  name := by
    rw [h.name]
    exact ⟨h.valid.indexName_ne_empty, hdot, hdots⟩
  http := hhttp
  path := by
    obtain ⟨url, hparse, hbase⟩ := h.base
    rw [hbase] at hhttp ⊢
    obtain ⟨before, hdirectory⟩ := Url.directory_path hparse hhttp
    exact ⟨_, hdirectory⟩
  serves := hserves
  dataset := hdataset

/-- A load over HTTP, whatever the server replies: the requests it sends are those of its stages,
each with its one reply, from the first ping to the end; and it succeeds exactly if the conversation
ends with a count. -/
theorem conversation_of_load {τ : Type} (names : Url.Names) (server : Server τ)
    (read : Files.Reader) (s : Settings) (setup : Setup) (x : Exchange τ)
    (hsetup : s.setup names read = .ok setup)
    (hhttp : setup.client.base.isHttp = true)
    (hserves : ∀ url : Url, url.scheme = setup.client.base.scheme →
      url.authority = setup.client.base.authority → server.serves url = true)
    (hdataset : ∀ url, setup.dataset = .web url → url.isHttp = true ∧ server.serves url = true)
    (hdot : s.indexName ≠ ".") (hdots : s.indexName ≠ "..") :
    let run := setup.run read server x
    s.SetsUp names read setup ∧
      ∃ trades final, Trades server x trades run.state ∧
        run.state.sent = x.sent ++ trades.map Prod.fst ∧
        setup.Converses read (.pinging (s.maxAttempts - 1)) trades final ∧
        final = match run.result with
          | .ok _ => .done
          | .error _ => .stopped := by
  intro run
  have hsetsUp := Settings.setsUp_of_setup hsetup
  have hreachable := reachable_of_setsUp hsetsUp hhttp hserves hdataset hdot hdots
  obtain ⟨⟨outcome, htrace, hresult⟩, hmakes⟩ := exists_loadTrace (setup.client.service server)
    (Dataset.Source.ofLocation read server setup.dataset) setup.config setup.dataset.text .idle x
  change run.result = _ at hresult
  obtain ⟨trades, htrades, hconverses⟩ := reaches_load hreachable htrace hmakes
  -- The stages count the attempts that the settings allow.
  rw [hsetsUp.readiness] at hconverses
  refine ⟨hsetsUp, trades, _, htrades, htrades.sent, hconverses, ?_⟩
  rw [hresult]
  cases outcome <;> rfl

/-! ## A load that breaks off -/

/-- The default settings, with the dataset beside the service and two records to a bulk request. -/
def localSettings : Settings :=
  { Settings.default with datasetUrl := "http://localhost:9200/movies.json", batchSize := 2 }

/-- The URL of the dataset. -/
def localDataset : Url :=
  ⟨"http", "", none, some "localhost", some 9200, .segments ["movies.json"], none, none⟩

/-- What `localSettings` lead to. -/
def localSetup : Setup where
  client := ⟨{ localDataset with path := .segments [""] }⟩
  dataset := .web localDataset
  config :=
    ⟨.movies "movies", ⟨localSettings.maxAttempts, localSettings.retryInterval⟩,
      ⟨2, localSettings.pacingDelay⟩⟩

/-- The first ping is lost, the index is new, and the answer to the second bulk request breaks
off. -/
def brokenScript : List Reply :=
  [.dropped, .answered ⟨200⟩ [] true, .answered ⟨404⟩ [] true, .answered ⟨201⟩ [] true,
    .answered ⟨200⟩ (utf8 "[\x7b\x7d,\x7b\x7d,\x7b\x7d]") true,
    .answered ⟨200⟩ (utf8 "\x7b\x7d") true, .answered ⟨200⟩ (utf8 "\x7b\x7d") false]

theorem setup_localSettings (read : Files.Reader) :
    localSettings.setup .common read = .ok localSetup := by
  have hbase : Url.parse .common localSettings.searchUrl = .ok localSetup.client.base :=
    eq_ok_of_toOption (by decide +kernel)
  have hdataset : Url.parse .common localSettings.datasetUrl = .ok localDataset :=
    eq_ok_of_toOption (by decide +kernel)
  have hvalid : localSettings.validate = .ok () := eq_ok_of_toOption (by decide)
  unfold Settings.setup Search.Client.connect Settings.location Dataset.Location.ofUrl
  rw [hvalid, hbase, hdataset]
  rfl

theorem conversation_of_local_load :
    let server := Server.scripted "localhost:9200"
    let run := localSetup.run (fun _ => .ok []) server ⟨brokenScript, []⟩
    localSettings.setup .common (fun _ => .ok []) = .ok localSetup ∧
      run.state.sent.map (fun r => (r.method, r.url.text)) =
        [(.head, "http://localhost:9200/"), (.head, "http://localhost:9200/"),
          (.head, "http://localhost:9200/movies"), (.put, "http://localhost:9200/movies"),
          (.get, "http://localhost:9200/movies.json"),
          (.post, "http://localhost:9200/movies/_bulk"),
          (.post, "http://localhost:9200/movies/_bulk")] ∧
      ∃ trades final, Trades server ⟨brokenScript, []⟩ trades run.state ∧
        run.state.sent = trades.map Prod.fst ∧ trades.map Prod.snd = brokenScript ∧
        localSetup.Converses (fun _ => .ok []) (.pinging (localSettings.maxAttempts - 1)) trades
          final := by
  intro server run
  have hserves : ∀ url : Url, url.scheme = localSetup.client.base.scheme →
      url.authority = localSetup.client.base.authority → server.serves url = true := by
    intro url hscheme hauthority
    change (url.scheme == "http" && url.authority == "localhost:9200") = true
    rw [hscheme, hauthority]
    decide
  have hdataset : ∀ url, localSetup.dataset = .web url →
      url.isHttp = true ∧ server.serves url = true := by
    rintro _ ⟨⟩
    decide
  obtain ⟨-, trades, final, htrades, hsent, hconverses, -⟩ := conversation_of_load .common
    server (fun _ => .ok []) localSettings localSetup ⟨brokenScript, []⟩ (setup_localSettings _)
    (by decide) hserves hdataset (by decide) (by decide)
  have hcount : run.state.sent.length = brokenScript.length := by decide +kernel
  have hlength : trades.length = brokenScript.length := by
    rw [← hcount, hsent, List.nil_append, List.length_map]
  have hreplies := Http.Trades.script htrades (Nat.le_of_eq hlength)
  rw [hlength, List.take_length] at hreplies
  exact ⟨setup_localSettings _, by decide +kernel, trades, final, htrades, hsent, hreplies,
    hconverses⟩

end Reindex.Setup
