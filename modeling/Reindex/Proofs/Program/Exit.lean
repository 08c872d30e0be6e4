import Reindex.Program
import Reindex.Proofs.Conversation.Load
import Reindex.Proofs.Failure.Load
import Reindex.Proofs.Settings.Usable

/-!
# How runs of the program end

Settings that are of no use are found before anything is sent, and with the exit code for them.  No
load that was set up ends like that: its exit code tells whether the service was ever ready.
-/

namespace Reindex.Program

open Http (Exchange Reply Server)
open Run (Fault Heard heard)

variable {τ : Type} {names : Url.Names} {read : Files.Reader} {s : Settings} {server : Server τ}
  {x : Exchange τ}

/-- No fault of a load is one of its settings. -/
theorem ne_config_of_fault {config : Run.Config} {replies : List Heard} {step : Run.State}
    {err : Run.Error} (h : Fault config replies step err) (detail : String) :
    err ≠ .config detail := by
  cases h <;> nofun

/-- After a probe that found the service ready, some ping had a reply that means success. -/
theorem exists_success {client : Search.Client} {source : Dataset.Source (Exchange τ)}
    {r : Run.Readiness} {pings : List Run.Entry} {attempts : Nat} {x' : Exchange τ}
    (h : Run.ProbeTrace r pings (.ok attempts))
    (ht : Run.Replays (client.service server) source x pings x') :
    ∃ reply, .reply .ping reply ∈ heard client server source x pings ∧ reply.succeeds = true := by
  cases h with
  | ready refused hrefused hlt =>
    obtain ⟨replies, hheard, hsucceeds⟩ := Run.heard_pinged ht
    -- The last ping is not refused, so its reply means success.
    have hmem : true ∈ replies.map Reply.succeeds := by
      rw [hsucceeds, List.map_append]
      exact List.mem_append_right _ List.mem_cons_self
    obtain ⟨reply, hreply, hsuccess⟩ := List.mem_map.mp hmem
    rw [hheard]
    exact ⟨reply, List.mem_map_of_mem hreply, hsuccess⟩

/-- A load that fails in a later step has found the service ready. -/
theorem exists_success_of_later {client : Search.Client} {source : Dataset.Source (Exchange τ)}
    {config : Run.Config} {t : List Run.Entry} {failure : Run.StepFailure} {x' : Exchange τ}
    (h : Run.LoadTrace config t (.error failure)) (hstep : failure.step ≠ .probing)
    (ht : Run.Replays (client.service server) source x t x') :
    ∃ reply, .reply .ping reply ∈ heard client server source x t ∧ reply.succeeds = true := by
  have hprobed : ∃ pings rest attempts, t = pings ++ rest ∧
      Run.ProbeTrace config.readiness pings (.ok attempts) := by
    cases h with
    | probing => exact absurd rfl hstep
    | initializing hprobe | fetching hprobe | ingesting hprobe | verifying hprobe =>
      exact ⟨_, _, _, rfl, hprobe⟩
  obtain ⟨pings, rest, attempts, rfl, hprobe⟩ := hprobed
  obtain ⟨between, hpings, -⟩ := Run.replays_append.mp ht
  obtain ⟨reply, hreply, hsuccess⟩ := exists_success hprobe hpings
  rw [Run.heard_append hpings]
  exact ⟨reply, List.mem_append_left _ hreply, hsuccess⟩

/-- How a load ends that was set up. -/
structure Ends (setup : Setup) (read : Files.Reader) (server : Server τ) (x : Exchange τ)
    (ending : Ending) : Prop where
  useful : ∀ detail, (setup.run read server x).result ≠ .error (.config detail)
  exit : ending.exitCode ∈ [0, 2, 3, 4]
  success : ending.exitCode = 0 ↔ ∃ report, (setup.run read server x).result = .ok report
  /-- Only a service that was ready once can fail later. -/
  ready : ending.exitCode = 3 ∨ ending.exitCode = 4 →
    ∃ reply, .reply .ping reply ∈ heard setup.client server
        (Dataset.Source.ofLocation read server setup.dataset) x
        (setup.run read server x).contacts ∧
      reply.succeeds = true

theorem ends_of_setup {setup : Setup} (hsetup : s.setup names read = .ok setup)
    (server : Server τ) (x : Exchange τ) :
    Ends setup read server x (conclude (setup.run read server x).result) := by
  have h := Settings.setsUp_of_setup hsetup
  have hmax : 1 ≤ setup.config.readiness.maxAttempts := by
    rw [h.readiness]
    exact Nat.pos_of_ne_zero h.valid.maxAttempts
  have hsize : 1 ≤ setup.config.ingest.batchSize := by
    rw [h.ingest]
    exact Nat.pos_of_ne_zero h.valid.batchSize
  obtain ⟨htrace, hresult, hreplays⟩ := Run.loadTrace_of_run (setup.client.service server)
    (Dataset.Source.ofLocation read server setup.dataset) setup.config setup.dataset.text .idle x
  change (setup.run read server x).result = _ at hresult
  cases hwork : ((Run.steps setup.config .idle).run (setup.client.service server)
      (Dataset.Source.ofLocation read server setup.dataset) x).result with
  | ok report =>
    rw [hwork] at hresult
    replace hresult : (setup.run read server x).result = .ok report := hresult
    rw [hresult]
    refine ⟨fun detail h => ?_, List.mem_cons_self, iff_of_true rfl ⟨report, hresult⟩, ?_⟩
    · cases hresult.symm.trans h
    · rintro (h | h) <;> cases h
  | error failure =>
    rw [hwork] at htrace hresult
    replace hresult : (setup.run read server x).result = .error failure.error := hresult
    have hsource := Dataset.onlyFetchErrors_ofLocation read server setup.dataset
    have hfault := Run.fault_of_trace htrace hmax hsize hsource hreplays
    -- The exit code is that of the step.
    have hexit : (conclude (setup.run read server x).result).exitCode =
        Run.failureExit failure.step := by
      rw [hresult]
      exact hfault.exitCode
    refine ⟨fun detail h => ?_, ?_, ?_, fun hlater => ?_⟩
    · exact ne_config_of_fault hfault detail (Except.error.inj (hresult.symm.trans h))
    · rw [hexit]
      cases failure.step <;> decide
    · refine iff_of_false ?_ fun ⟨report, h⟩ => by cases hresult.symm.trans h
      rw [hexit]
      cases failure.step <;> decide
    · rw [hexit] at hlater
      have hstep : failure.step ≠ .probing := by
        intro heq
        rw [heq] at hlater
        exact absurd hlater (by decide)
      exact exists_success_of_later htrace hstep hreplays

/-- A run of the program, once its command line is read: the load is set up exactly from usable
settings; if it is not, the exit code says so and nothing is sent; and if it is, no load ends with
an error of the settings, and the exit code tells how it ended. -/
theorem exit_of_run (names : Url.Names) (read : Files.Reader) (arguments : List String)
    (inherited : Settings.Environment) (server : Server τ) (x : Exchange τ) (s : Settings)
    (h : settings read arguments inherited = .ok s) :
    let ended := run names read arguments inherited server x
    ((∃ setup, s.setup names read = .ok setup) ↔ s.Usable names read) ∧
      (∀ err, s.setup names read = .error err →
        ended.answer = .failed err ∧ ended.state = x ∧ ended.answer.exitCode = 64) ∧
      ∀ setup, s.setup names read = .ok setup →
        ended.answer = conclude (setup.run read server x).result ∧
          ended.state = (setup.run read server x).state ∧
          Ends setup read server x ended.answer := by
  intro ended
  have hended : ended = runWith names read s server x := run_of_settings server x h
  refine ⟨Settings.exists_setup_iff, fun err herr => ?_, fun load hload => ?_⟩
  · rw [hended, runWith_of_error server x herr]
    exact ⟨rfl, rfl, Settings.exitCode_of_setup_error herr⟩
  · rw [hended, runWith_of_ok server x hload]
    exact ⟨rfl, rfl, ends_of_setup hload server x⟩

/-- A directory without files. -/
def emptyDirectory : Files.Reader := fun _ => .error .notFound

/-- One command line leads to a load that the answer to a bulk request breaks off; the other asks
for batches without records, and nothing is sent. -/
theorem exit_of_broken_load :
    let server := Server.scripted "localhost:9200"
    let start : Exchange (List Reply) := ⟨Setup.brokenScript, []⟩
    let broken := run .common emptyDirectory
      ["--batch-size=2", "--dataset-url", "http://localhost:9200/movies.json"] [] server start
    let refused := run .common emptyDirectory ["--batch-size", "0"] [] server start
    broken.answer.exitCode = 3 ∧ Setup.localSettings.Usable .common emptyDirectory ∧
      (∃ reply, .reply .ping reply ∈ heard Setup.localSetup.client server
          (Dataset.Source.ofLocation emptyDirectory server Setup.localSetup.dataset) start
          (Setup.localSetup.run emptyDirectory server start).contacts ∧
        reply.succeeds = true) ∧
      refused.answer.exitCode = 64 ∧ refused.state.sent = [] := by
  intro server start broken refused
  have hbroken : settings emptyDirectory
      ["--batch-size=2", "--dataset-url", "http://localhost:9200/movies.json"] [] =
        .ok Setup.localSettings := by decide +kernel
  have hrefused : settings emptyDirectory ["--batch-size", "0"] [] =
      .ok { Settings.default with batchSize := 0 } := by decide +kernel
  obtain ⟨husable, -, hends⟩ := exit_of_run .common emptyDirectory _ [] server start _ hbroken
  obtain ⟨-, hunset, -⟩ := exit_of_run .common emptyDirectory _ [] server start _ hrefused
  have hsetup := Setup.setup_localSettings emptyDirectory
  have hexit : broken.answer.exitCode = 3 := by decide +kernel
  obtain ⟨-, -, hend⟩ := hends _ hsetup
  obtain ⟨-, hstate, hcode⟩ := hunset _ rfl
  exact ⟨hexit, husable.mp ⟨_, hsetup⟩, hend.ready (.inl hexit), hcode,
    congrArg Exchange.sent hstate⟩

end Reindex.Program
