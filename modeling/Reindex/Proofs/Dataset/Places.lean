import Reindex.Program
import Reindex.Proofs.Conversation.Load
import Reindex.Proofs.Dataset.Delivery
import Reindex.Proofs.Trace.Course

/-!
# One dataset in two places

A dataset in a file does what the same bytes at a URL do.  The load from the URL sends one request
more and hears one reply more; without these the two loads send the same and end the same.  They log
the same too, except that each tells where it has its dataset from.
-/

namespace Reindex

open Http (Exchange Reply Request Server)

/-! ## Scripts -/

/-- What is left of a script without the replies to `r`, if the requests `sent` go out. -/
def withoutReplies (r : Request) : (sent : List Request) → List Reply → List Reply
  | [], script => script
  | _ :: _, [] => []
  | s :: sent, reply :: script =>
    if s = r then withoutReplies r sent script else reply :: withoutReplies r sent script

theorem withoutReplies_nil (r : Request) (sent : List Request) : withoutReplies r sent [] = [] := by
  cases sent <;> rfl

/-- Another request gets the same reply from what is left. -/
theorem respond_withoutReplies {r s : Request} (h : s ≠ r) (serves : Url → Bool)
    (sent : List Request) (script : List Reply) :
    (Server.script serves).respond s (withoutReplies r (s :: sent) script) =
      (((Server.script serves).respond s script).1,
        withoutReplies r sent ((Server.script serves).respond s script).2) := by
  cases script with
  | nil =>
    show _ = (Reply.unscripted, withoutReplies r sent [])
    rw [withoutReplies_nil, withoutReplies_nil]
    rfl
  | cons reply script =>
    show _ = (reply, withoutReplies r sent script)
    rw [withoutReplies, if_neg h]
    rfl

/-- The replies that are due after the first. -/
theorem due_after {r s : Request} {serves : Url → Bool} {sent : List Request} {script : List Reply}
    {content : Bytes}
    (h : ∀ i : Nat, (s :: sent)[i]? = some r → script[i]?.bind Reply.content? = some content) :
    ∀ i : Nat, sent[i]? = some r →
      ((Server.script serves).respond s script).2[i]?.bind Reply.content? = some content := by
  intro i hi
  have hdue := h (i + 1) hi
  cases script with
  | nil => exact hdue
  | cons reply script => exact hdue

/-! ## Logs -/

/-- What is logged instead of an event if the dataset is in a file. -/
def Event.inFile (path : String) : Event → List Event
  | .loadStarted _ => [.loadStarted path]
  | .downloading => [.readingFile path]
  | .downloaded _ | .datasetParsed _ => []
  | event => [event]

theorem Event.inFile_of_not_isOfDataset {event : Event} (h : Run.isOfDataset event = false)
    (path : String) : event.inFile path = [event] := by
  cases event <;> first | rfl | cases h

/-- A log that tells nothing of the dataset stays as it is. -/
theorem flatMap_inFile {events : List Event} (h : events.filter Run.isOfDataset = [])
    (path : String) : events.flatMap (Event.inFile path) = events := by
  rw [List.filter_eq_nil_iff] at h
  induction events with
  | nil => rfl
  | cons event rest ih =>
    obtain ⟨hevent, hrest⟩ := List.forall_mem_cons.mp h
    rw [List.flatMap_cons, Event.inFile_of_not_isOfDataset (Bool.eq_false_iff.mpr hevent), ih hrest]
    rfl

/-- What is logged about a dataset that was delivered, and about the same dataset in a file. -/
theorem flatMap_inFile_ofAnswer (url : Url) {reply : Reply} {content : Bytes}
    (h : reply.content? = some content) (path : String) :
    (Event.downloading :: (Dataset.ofAnswer url ((Dataset.request url).receive reply)).2).flatMap
      (Event.inFile path) = [.readingFile path] := by
  have hbody : (Dataset.ofBody content).2.flatMap (Event.inFile path) = [] := by
    unfold Dataset.ofBody
    cases Dataset.parse content <;> rfl
  rw [List.flatMap_cons, Dataset.ofAnswer_of_content url h, hbody]
  rfl

/-! ## Runs -/

namespace Run

variable {σ ε α : Type}

theorem Outcome.events_after (earlier : List Entry) (o : Outcome σ ε α) :
    (o.after earlier).events = earlier.filterMap Entry.event? ++ o.events :=
  List.filterMap_append ..

/-- The outcome `file` is the outcome `web` without the requests for the dataset.  `new` are the
requests that were sent on the way to `web`, and `sent` those that had been sent before the way to
`file`. -/
structure Matches (path : String) (r : Request) (sent new : List Request)
    (web file : Outcome (Exchange (List Reply)) ε α) : Prop where
  result : file.result = web.result
  sent : file.state.sent = sent ++ new.filter (· ≠ r)
  events : file.events = web.events.flatMap (Event.inFile path)

variable {path : String} {r : Request} {sent new : List Request}
  {web file : Outcome (Exchange (List Reply)) ε α}

/-- The request `s` is sent on both ways. -/
theorem Matches.both_sent {s : Request} (h : Matches path r (sent ++ [s]) new web file)
    (hne : s ≠ r) : Matches path r sent (s :: new) web file where
  result := h.result
  sent := by
    rw [h.sent, List.filter_cons_of_pos (by simpa using hne), ← List.append_cons]
  events := h.events

/-- The request for the dataset is sent on one of them only. -/
theorem Matches.one_sent (h : Matches path r sent new web file) :
    Matches path r sent (r :: new) web file where
  result := h.result
  sent := by rw [h.sent, List.filter_cons_of_neg (by simp)]
  events := h.events

/-- Earlier entries do no harm if they match. -/
theorem Matches.after (h : Matches path r sent new web file) {earlier earlier' : List Entry}
    (hearlier : earlier'.filterMap Entry.event? =
      (earlier.filterMap Entry.event?).flatMap (Event.inFile path)) :
    Matches path r sent new (web.after earlier) (file.after earlier') where
  result := h.result
  sent := h.sent
  events := by
    rw [Outcome.events_after, Outcome.events_after, List.flatMap_append, h.events, hearlier]

/-- Both make the same call and log the same about it. -/
theorem Matches.after_call (h : Matches path r sent new web file) (c : Search.Call)
    (result : c.Result) {events : List Event} (hevents : events.filter isHeading = []) :
    let entries : List Entry := .called c result :: events.map .logged
    Matches path r sent new (web.after entries) (file.after entries) := by
  refine h.after ?_
  have hdataset : events.filter isOfDataset = [] := by
    rw [List.filter_eq_nil_iff] at hevents ⊢
    exact fun event hevent hdataset => hevents event hevent (isHeading_of_isOfDataset hdataset)
  have hlogged : (Entry.called c result :: events.map .logged).filterMap Entry.event? = events :=
    Outcome.filterMap_event?_logged events
  rw [hlogged, flatMap_inFile hdataset]

/-- Both come to the same dataset, and log the one or the other about it. -/
theorem Matches.after_fetch (h : Matches path r sent new web file)
    (answer : Except Run.Error (List Record)) {events : List Event}
    (hevents : events.flatMap (Event.inFile path) = [.readingFile path]) :
    Matches path r sent new (web.after (.fetched answer :: events.map .logged))
      (file.after (.fetched answer :: [Event.readingFile path].map .logged)) := by
  refine h.after ?_
  have hlogged : (Entry.fetched answer :: events.map .logged).filterMap Entry.event? = events :=
    Outcome.filterMap_event?_logged events
  rw [hlogged, hevents]
  rfl

end Run

section Runs

variable {serves : Url → Bool} {path : String} {url : Url} {read : Files.Reader} {content : Bytes}

/-- Whatever a procedure does with its dataset: from the file it does the same, with the script that
is left, if it leaves it to the source to tell of the dataset. -/
theorem exists_matches {ε α : Type} (client : Search.Client) (hhttp : url.isHttp = true)
    (hserves : serves url = true) (hread : read path = .ok content) {p : Run.Procedure ε α}
    (hp : p.Discreet Run.isOfDataset) (script : List Reply) (sent sent' : List Request) :
    let service := client.service (.script serves)
    let web := p.run service (.http (.script serves) url) ⟨script, sent⟩
    ∃ new, web.state.sent = sent ++ new ∧
      ((∀ i : Nat, new[i]? = some (Dataset.request url) →
          script[i]?.bind Reply.content? = some content) →
        Run.Matches path (Dataset.request url) sent' new web
          (p.run service (.file read path)
            ⟨withoutReplies (Dataset.request url) new script, sent'⟩)) := by
  intro service web
  induction p generalizing script sent sent' with
  | done result =>
    exact ⟨[], (List.append_nil sent).symm, fun _ => ⟨rfl, (List.append_nil _).symm, rfl⟩⟩
  | call c next ih =>
    have hquiet := Run.headings_perform client (.script serves) c ⟨script, sent⟩
    rcases client.perform_cases (.script serves) c with ⟨answer, events, hperform⟩ |
      ⟨r, hcontent, hperform⟩
    -- A call that never gets to the server leaves both scripts as they are.
    · obtain ⟨new, hsent, hfile⟩ := ih answer (hp answer) script sent sent'
      simp only [web, service, Run.Procedure.run, hperform] at hquiet ⊢
      exact ⟨new, hsent, fun hdue => (hfile hdue).after_call c answer hquiet⟩
    -- Any other gets the same reply from both.
    · have hne : r ≠ Dataset.request url := ne_request_of_contentType hcontent
      let answer :=
        (Search.conclude r.url (r.receive ((Server.script serves).respond r script).1) c).1
      obtain ⟨new, hsent, hfile⟩ := ih answer (hp answer)
        ((Server.script serves).respond r script).2 (sent ++ [r]) (sent' ++ [r])
      simp only [web, service, Run.Procedure.run, hperform] at hquiet ⊢
      refine ⟨r :: new, hsent.trans (List.append_assoc ..), fun hdue => ?_⟩
      simp only [respond_withoutReplies hne]
      exact ((hfile (due_after hdue)).both_sent hne).after_call c answer hquiet
  | fetch next ih =>
    let answer := (Dataset.ofAnswer url ((Dataset.request url).receive
      ((Server.script serves).respond (Dataset.request url) script).1)).1.mapError Run.Error.fetch
    obtain ⟨new, hsent, hfile⟩ := ih answer (hp answer)
      ((Server.script serves).respond (Dataset.request url) script).2
      (sent ++ [Dataset.request url]) sent'
    have hserved : (Server.script serves).serves url = true := hserves
    have hweb := Dataset.fetch_web hhttp hserved ⟨script, sent⟩
    simp only [web, Run.Procedure.run, hweb, Dataset.fetch_file]
    refine ⟨Dataset.request url :: new, hsent.trans (List.append_assoc ..), fun hdue => ?_⟩
    have hmatches := hfile (due_after hdue)
    have hfirst := hdue 0 rfl
    cases script with
    | nil => cases hfirst
    | cons reply script =>
      -- The reply that is left out brings what the file holds.
      have hanswer : (Dataset.ofFile path (read path)).mapError Run.Error.fetch = answer := by
        show _ = (Dataset.ofAnswer url ((Dataset.request url).receive reply)).1.mapError _
        rw [Dataset.ofAnswer_of_content url hfirst, Dataset.ofBody_fst, hread]
        rfl
      have hleft : withoutReplies (Dataset.request url) (Dataset.request url :: new)
          (reply :: script) = withoutReplies (Dataset.request url) new script := if_pos rfl
      rw [hleft, hanswer]
      exact hmatches.one_sent.after_fetch answer (flatMap_inFile_ofAnswer url hfirst path)
  | pause ms next ih =>
    obtain ⟨new, hsent, hfile⟩ := ih hp script sent sent'
    exact ⟨new, hsent, fun hdue => (hfile hdue).after rfl⟩
  | log event next ih =>
    obtain ⟨new, hsent, hfile⟩ := ih hp.2 script sent sent'
    refine ⟨new, hsent, fun hdue => (hfile hdue).after ?_⟩
    show [event] = [event].flatMap (Event.inFile path)
    rw [List.flatMap_singleton, Event.inFile_of_not_isOfDataset hp.1]

/-- A load names its source before its steps, and how they ended after them. -/
theorem Run.Matches.load {r : Request} {sent new : List Request} {config : Run.Config}
    {service : Search.Service (Exchange (List Reply))}
    {web file : Dataset.Source (Exchange (List Reply))} {x y : Exchange (List Reply)}
    (h : Matches path r sent new ((Run.steps config .idle).run service web x)
      ((Run.steps config .idle).run service file y)) (name : String) :
    Matches path r sent new ((Run.load config name .idle).run service web x)
      ((Run.load config path .idle).run service file y) where
  result := by
    rw [run_load, run_load]
    exact congrArg (Except.mapError StepFailure.error) h.result
  sent := by
    rw [run_load]
    exact h.sent
  events := by
    have hending : ∀ result : Except StepFailure Report,
        ((ending result).filterMap Entry.event?).flatMap (Event.inFile path) =
          (ending result).filterMap Entry.event? := by
      intro result
      cases result <;> rfl
    rw [events_run_load, events_run_load, h.events, h.result, List.flatMap_cons,
      List.flatMap_append, hending]
    rfl

/-- A load from the file instead of the URL. -/
theorem Setup.matches_from_file {setup : Setup} (hdataset : setup.dataset = .web url)
    (hhttp : url.isHttp = true) (hserves : serves url = true) (hread : read path = .ok content)
    (script : List Reply) :
    let web := setup.run read (.script serves) ⟨script, []⟩
    (∀ i : Nat, web.state.sent[i]? = some (Dataset.request url) →
        script[i]?.bind Reply.content? = some content) →
      Run.Matches path (Dataset.request url) [] web.state.sent web
        ({ setup with dataset := .file path }.run read (.script serves)
          ⟨withoutReplies (Dataset.request url) web.state.sent script, []⟩) := by
  intro web hdue
  obtain ⟨new, hsent, hfile⟩ := exists_matches setup.client hhttp hserves hread
    (Run.discreet_steps setup.config .idle) script [] []
  have hweb : web = (Run.load setup.config url.text .idle).run
      (setup.client.service (.script serves)) (.http (.script serves) url) ⟨script, []⟩ := by
    change (Run.load setup.config setup.dataset.text .idle).run _ (.ofLocation ..) _ = _
    rw [hdataset]
    rfl
  have hnew : web.state.sent = new := by
    rw [hweb, Run.run_load]
    exact hsent
  rw [hnew] at hdue ⊢
  rw [hweb]
  exact (hfile hdue).load url.text

end Runs

/-! ## Settings -/

section Settings

variable {names : Url.Names} {s : Settings} {read : Files.Reader} {url : Url}

theorem Settings.location_web (hnone : s.datasetFile = none)
    (hurl : Url.parse names s.datasetUrl = .ok url) : s.location names = .ok (.web url) := by
  unfold location Dataset.Location.ofUrl
  rw [hnone, hurl]
  rfl

/-- With a file the settings lead to the same load, from the file, or they are refused for the same
reason. -/
theorem Settings.setup_with_file (hnone : s.datasetFile = none)
    (hurl : Url.parse names s.datasetUrl = .ok url) (read : Files.Reader) (path : String) :
    { s with datasetFile := some path }.setup names read =
      (s.setup names read).map fun setup => { setup with dataset := .file path } := by
  have hvalidate : { s with datasetFile := some path }.validate = s.validate := rfl
  have hfile : { s with datasetFile := some path }.location names = .ok (.file path) := rfl
  have hconfig : { s with datasetFile := some path }.runConfig read = s.runConfig read := rfl
  unfold setup
  rw [hvalidate, hfile, hconfig, location_web hnone hurl]
  cases s.validate with
  | error e => rfl
  | ok =>
    cases (Search.Client.connect names s.searchUrl).mapError LoadError.search with
    | error e => rfl
    | ok client =>
      dsimp only [bind, Except.bind]
      cases s.runConfig read <;> rfl

theorem Settings.dataset_of_setup {setup : Setup} (hnone : s.datasetFile = none)
    (hurl : Url.parse names s.datasetUrl = .ok url) (h : s.setup names read = .ok setup) :
    setup.dataset = .web url := by
  have hlocation := (Settings.setsUp_of_setup h).dataset
  rw [location_web hnone hurl] at hlocation
  exact (Except.ok.inj hlocation).symm

theorem Settings.flatMap_inFile_setupEvents (names : Url.Names) (s : Settings) (path : String) :
    (s.setupEvents names).flatMap (Event.inFile path) = s.setupEvents names := by
  unfold setupEvents
  split <;> rfl

end Settings

/-! ## Runs of the program -/

namespace Program

theorem Ending.flatMap_inFile_events (ending : Ending) (path : String) :
    ending.events.flatMap (Event.inFile path) = ending.events := by
  cases ending with
  | usage | failed => rfl
  | loaded r =>
    unfold events
    dsimp only
    split <;> rfl

/-- If nothing is written about the dataset, then what is written is the same. -/
theorem join_write_inFile {write : Event → String}
    (h : ∀ event, Run.isOfDataset event = true → write event = "") (path : String)
    (events : List Event) :
    String.join ((events.flatMap (Event.inFile path)).map write) =
      String.join (events.map write) := by
  induction events with
  | nil => rfl
  | cons event rest ih =>
    have hevent : String.join ((event.inFile path).map write) = write event := by
      cases hdataset : Run.isOfDataset event with
      | false =>
        rw [Event.inFile_of_not_isOfDataset hdataset]
        exact String.empty_append
      | true =>
        -- What takes its place is about the dataset too.
        rw [h event hdataset]
        cases event with
        | loadStarted | downloading | readingFile => exact String.empty_append.trans (h _ rfl)
        | downloaded | datasetParsed => rfl
        | _ => cases hdataset
    rw [List.flatMap_cons, List.map_append, String.join_append, hevent, ih, List.map_cons,
      String.join_cons]

end Program

/-! ## The two places -/

/-- A dataset in a file does what the same bytes at a URL do, whatever they are and whichever hosts
the server is at: if the run with the URL gets them in reply to its request, which it makes once at
most, the run with the file sends the other requests in the same order, to the replies that are
left, and ends with the same report or error, the same exit code and the same words.  Its log tells
of the file where the other tells of the download, and is the same apart from that; so is what is
printed, and it is the same altogether if nothing is written about the dataset.  With a file, the
URL makes no difference. -/
theorem file_in_place_of_url {names : Url.Names} {s : Settings} {read : Files.Reader} {url : Url}
    {serves : Url → Bool} {path : String} {content : Bytes} (hnone : s.datasetFile = none)
    (hurl : Url.parse names s.datasetUrl = .ok url) (hhttp : url.isHttp = true)
    (hserves : serves url = true) (hread : read path = .ok content) (script : List Reply) :
    let server := Server.script serves
    let web := Program.runWith names read s server ⟨script, []⟩
    (∀ i : Nat, web.state.sent[i]? = some (Dataset.request url) →
        script[i]?.bind Reply.content? = some content) →
      let s' := { s with datasetFile := some path }
      let file := Program.runWith names read s' server
        ⟨withoutReplies (Dataset.request url) web.state.sent script, []⟩
      file.answer = web.answer ∧ file.answer.exitCode = web.answer.exitCode ∧
        file.answer.closing = web.answer.closing ∧ file.answer.stderr = web.answer.stderr ∧
        file.state.sent = web.state.sent.filter (· ≠ Dataset.request url) ∧
        web.state.sent.count (Dataset.request url) ≤ 1 ∧
        file.events = web.events.flatMap (Event.inFile path) ∧
        (∀ (subscriber : Subscriber) (environment : Settings.Environment),
          (∀ event, Run.isOfDataset event = true →
            subscriber.write (Program.directives subscriber environment) event = "") →
          Program.stdout subscriber environment file = Program.stdout subscriber environment web) ∧
        (∀ (other : String) (τ : Type) (server : Server τ) (x : Exchange τ),
          Program.runWith names read { s' with datasetUrl := other } server x =
            Program.runWith names read s' server x) ∧
        ∀ (t : Settings) (arguments : List String) (inherited : Settings.Environment),
          Program.settings read arguments inherited = .ok t → ∀ x : Exchange (List Reply),
            Program.run names read arguments inherited server x =
              Program.runWith names read t server x := by
  intro server web hdue s' file
  have hsetup : s'.setup names read = _ := Settings.setup_with_file hnone hurl read path
  have hevents : s'.setupEvents names = s.setupEvents names := rfl
  have hsame : file.answer = web.answer ∧
      file.state.sent = web.state.sent.filter (· ≠ Dataset.request url) ∧
      web.state.sent.count (Dataset.request url) ≤ 1 ∧
      file.events = web.events.flatMap (Event.inFile path) := by
    cases hload : s.setup names read with
    | error e =>
      rw [hload] at hsetup
      have hweb : web = _ := Program.runWith_of_error server _ hload
      have hfile : file = _ := Program.runWith_of_error server _ hsetup
      rw [hfile, hweb, hevents]
      refine ⟨rfl, rfl, Nat.zero_le _, ?_⟩
      rw [List.flatMap_append, Settings.flatMap_inFile_setupEvents,
        Program.Ending.flatMap_inFile_events]
    | ok load =>
      rw [hload] at hsetup
      have hdataset := Settings.dataset_of_setup hnone hurl hload
      have hweb : web = _ := Program.runWith_of_ok server _ hload
      have hfile : file = _ := Program.runWith_of_ok server _ hsetup
      have hsent : web.state.sent = (load.run read server ⟨script, []⟩).state.sent := by rw [hweb]
      rw [hsent] at hdue hfile
      have hmatches := Setup.matches_from_file hdataset hhttp hserves hread script hdue
      rw [hfile, hweb]
      refine ⟨congrArg Program.conclude hmatches.result, hmatches.sent,
        Setup.count_request_le hdataset hhttp hserves read script, ?_⟩
      dsimp only
      rw [List.flatMap_append, List.flatMap_append, Settings.flatMap_inFile_setupEvents,
        Program.Ending.flatMap_inFile_events, hmatches.events, hmatches.result, hevents]
  obtain ⟨hanswer, hsent, hcount, hlog⟩ := hsame
  refine ⟨hanswer, congrArg _ hanswer, congrArg _ hanswer, congrArg _ hanswer, hsent, hcount, hlog,
    fun subscriber environment hquiet => ?_, fun _ _ _ _ => rfl,
    fun t arguments inherited ht x => ?_⟩
  · unfold Program.stdout
    rw [hlog, Program.join_write_inFile hquiet, hanswer]
  · exact Program.run_of_settings server x ht

/-- Two records, in pieces of two. -/
def twoMovies : Bytes := utf8 "[\x7b\x7d,\x7b\"title\":\"A\"\x7d]"

/-- The service is ready and takes the records; between its replies stands the dataset. -/
def moviesReplies : List Reply :=
  [.answered ⟨200⟩ [] true, .answered ⟨404⟩ [] true, .answered ⟨201⟩ [] true,
    .answered ⟨200⟩ twoMovies true, .answered ⟨200⟩ (utf8 "\x7b\x7d") true,
    .answered ⟨200⟩ (utf8 "\x7b\"count\":2\x7d") true]

/-- The default settings, with the dataset on a host of its own. -/
def remoteSettings : Settings := { Settings.default with datasetUrl := "http://movies/all.json" }

def remoteDataset : Url :=
  ⟨"http", "", none, some "movies", none, .segments ["all.json"], none, none⟩

/-- One script for the service on this host and for the host of the dataset. -/
def twoHosts : Server (List Reply) :=
  .script fun url => url.authority == "localhost:9200" || url.authority == "movies"

/-- The run with the dataset at its URL, and the run with the dataset in a file. -/
def remoteRun : Traced (Exchange (List Reply)) Program.Ending :=
  Program.runWith .common (fun _ => .ok twoMovies) remoteSettings twoHosts ⟨moviesReplies, []⟩

def fileRun : Traced (Exchange (List Reply)) Program.Ending :=
  Program.runWith .common (fun _ => .ok twoMovies)
    { remoteSettings with datasetFile := some "movies.json" } twoHosts
    ⟨moviesReplies.eraseIdx 3, []⟩

theorem file_in_place_of_remote_url :
    remoteRun.answer = .loaded ⟨1, 2, 2, 0, 2⟩ ∧ fileRun.answer = remoteRun.answer ∧
      remoteRun.state.sent.map (·.url.authority) =
        ["localhost:9200", "localhost:9200", "localhost:9200", "movies", "localhost:9200",
          "localhost:9200"] ∧
      fileRun.state.sent = remoteRun.state.sent.eraseIdx 3 ∧
      fileRun.events = remoteRun.events.flatMap (Event.inFile "movies.json") := by
  have hurl : Url.parse .common remoteSettings.datasetUrl = .ok remoteDataset :=
    eq_ok_of_toOption (by decide +kernel)
  have hhosts : remoteRun.state.sent.map (·.url.authority) =
      ["localhost:9200", "localhost:9200", "localhost:9200", "movies", "localhost:9200",
        "localhost:9200"] := by decide +kernel
  have hlength : remoteRun.state.sent.length = 6 := by
    rw [← List.length_map fun r : Request => r.url.authority, hhosts]
    rfl
  have hdue : ∀ i < 6, remoteRun.state.sent[i]? = some (Dataset.request remoteDataset) →
      moviesReplies[i]?.bind Reply.content? = some twoMovies := by decide +kernel
  have hread : (fun _ => .ok twoMovies : Files.Reader) "movies.json" = .ok twoMovies := rfl
  obtain ⟨hanswer, -, -, -, hsent, -, hevents, -⟩ := file_in_place_of_url rfl hurl (by decide)
    (by decide) hread moviesReplies fun i hi =>
      hdue i (hlength ▸ (List.getElem?_eq_some_iff.mp hi).1) hi
  have hscript : withoutReplies (Dataset.request remoteDataset) remoteRun.state.sent moviesReplies =
      moviesReplies.eraseIdx 3 := by decide +kernel
  unfold remoteRun twoHosts at hscript
  rw [hscript] at hanswer hsent hevents
  exact ⟨by decide +kernel, hanswer, hhosts, hsent.trans (by decide +kernel), hevents⟩

/-- What a log that tells of the dataset prints is not the same for both. -/
theorem stdout_differs_in_file :
    remoteRun.answer = .loaded ⟨1, 2, 2, 0, 2⟩ ∧ fileRun.answer = remoteRun.answer ∧
      (∀ i < 6, remoteRun.state.sent[i]? = some (Dataset.request remoteDataset) →
        moviesReplies[i]?.bind Reply.content? = some twoMovies) ∧
      Program.stdout .plain [] fileRun ≠ Program.stdout .plain [] remoteRun := by
  refine ⟨by decide +kernel, by decide +kernel, by decide +kernel, by decide +kernel⟩

end Reindex
