import Reindex.Proofs.Dataset.Texts
import Reindex.Proofs.Marks
import Reindex.Proofs.Search.Link
import Reindex.Settings.Setup

/-!
# What a load passes on

A mapping and a dataset go to the search service as values: nothing is lost, and nothing of the way
they are spelled is left.  So a load that is given other texts of the same values makes the same
calls and sends the same bytes.
-/

namespace Reindex

open Json (IntegerLiteral at?)
open Run (quiet_ofLocation transitions_of_marks)
open Run.Procedure (Alike Simulates)

/-! ## Files -/

/-- Reading gives the same, or texts that are related. -/
inductive SameFile (R : Bytes → Bytes → Prop) :
    Except FileError Bytes → Except FileError Bytes → Prop where
  | same (content : Except FileError Bytes) : SameFile R content content
  | texts {t t' : Bytes} (h : R t t') : SameFile R (.ok t) (.ok t')

namespace Settings

variable {s : Settings} {read read' : Files.Reader}

/-- The file of the mapping, if one is set, holds the same, or another text of it. -/
def SameMapping (s : Settings) (read read' : Files.Reader) : Prop :=
  ∀ path, s.mappingFile = some path → SameFile Json.Respelled (read path) (read' path)

theorem mappingOf_of_sameFile (path : String) {content content' : Except FileError Bytes}
    (h : SameFile Json.Respelled content content') :
    mappingOf path content' = mappingOf path content := by
  cases h with
  | same => rfl
  | texts htexts =>
    unfold mappingOf
    dsimp only
    rw [Json.parse_of_respelled htexts]

theorem indexConfig_of_sameMapping (h : s.SameMapping read read') :
    s.indexConfig read' = s.indexConfig read := by
  unfold indexConfig
  cases hfile : s.mappingFile with
  | none => rfl
  | some path =>
    dsimp only
    rw [mappingOf_of_sameFile path (h path hfile)]

theorem setup_of_sameMapping (names : Url.Names) (h : s.SameMapping read read') :
    s.setup names read' = s.setup names read := by
  unfold setup runConfig
  rw [indexConfig_of_sameMapping h]

/-- The mapping of a file is the one that was written to it. -/
theorem indexConfig_wireBytes {path : String} {body : Json} (hfile : s.mappingFile = some path)
    (hread : read path = .ok body.wireBytes) (hobject : body.isObject = true)
    (hportable : Json.Portable Json.maxDepth body) :
    s.indexConfig read = .ok ⟨s.indexName, body⟩ := by
  unfold indexConfig
  rw [hfile]
  dsimp only
  rw [hread]
  unfold mappingOf
  dsimp only
  rw [Json.parse_wireBytes hportable]
  dsimp only
  rw [if_pos hobject]
  rfl

end Settings

/-! ## Services -/

section Services

variable {τ : Type} {server server' : Http.Server τ}

theorem send_congr {r : Http.Request} (hserves : server'.serves = server.serves)
    (hrespond : ∀ state, server'.respond r state = server.respond r state)
    (x : Http.Exchange τ) : x.send server' r = x.send server r := by
  unfold Http.Exchange.send
  rw [hserves, hrespond]

theorem contentType_of_request {client : Search.Client} {c : Search.Call} {r : Http.Request}
    (h : client.request c = .ok r) : r.contentType = some Search.contentType := by
  obtain ⟨url, -, hr⟩ := bind_eq_ok h
  cases hr
  rfl

/-- A client finds the same service at servers that answer its requests alike. -/
theorem service_congr {client : Search.Client} (hserves : server'.serves = server.serves)
    (hrespond : ∀ r state, r.contentType = some Search.contentType →
      server'.respond r state = server.respond r state) :
    client.service server' = client.service server := by
  unfold Search.Client.service
  congr 1
  funext c x
  cases c.immediate? with
  | some result => rfl
  | none =>
    cases hrequest : client.request c with
    | error e => rfl
    | ok r =>
      dsimp only
      rw [send_congr hserves fun state => hrespond r state (contentType_of_request hrequest)]

/-! ## Datasets -/

/-- The same reply, or one that brings another text of the same dataset. -/
inductive SameReply : Http.Reply → Http.Reply → Prop where
  | same (reply : Http.Reply) : SameReply reply reply
  | texts {body body' : Bytes} (h : Dataset.Respelled body body') (status : Http.Status)
      (complete : Bool) :
      SameReply (.answered status body complete) (.answered status body' complete)

/-- The servers do the same, except that the dataset at the URL may be spelled differently. -/
structure Redelivers (url : Url) (server server' : Http.Server τ) : Prop where
  serves : server'.serves = server.serves
  other : ∀ r state, r ≠ Dataset.request url → server'.respond r state = server.respond r state
  dataset : ∀ state,
    SameReply (server.respond (Dataset.request url) state).1
      (server'.respond (Dataset.request url) state).1
  after : ∀ state, (server'.respond (Dataset.request url) state).2 =
    (server.respond (Dataset.request url) state).2

/-- What is found at the location is the same dataset, maybe spelled differently, and nothing else
differs. -/
def SameDataset (read read' : Files.Reader) (server server' : Http.Server τ) :
    Dataset.Location → Prop
  | .file path => server' = server ∧ SameFile Dataset.Respelled (read path) (read' path)
  | .web url => Redelivers url server server'

theorem ofFile_of_sameFile (path : String) {content content' : Except FileError Bytes}
    (h : SameFile Dataset.Respelled content content') :
    Dataset.ofFile path content' = Dataset.ofFile path content := by
  cases h with
  | same => rfl
  | texts htexts => exact Dataset.parse_of_respelled htexts

theorem ofBody_of_respelled {body body' : Bytes} (h : Dataset.Respelled body body') :
    (Dataset.ofBody body').1 = (Dataset.ofBody body).1 := by
  unfold Dataset.ofBody
  rw [Dataset.parse_of_respelled h]
  cases Dataset.parse body <;> rfl

theorem ofAnswer_of_sameReply (url : Url) {reply reply' : Http.Reply} (h : SameReply reply reply') :
    (Dataset.ofAnswer url ((Dataset.request url).receive reply')).1 =
      (Dataset.ofAnswer url ((Dataset.request url).receive reply)).1 := by
  cases h with
  | same => rfl
  | texts htexts status complete =>
    unfold Http.Request.receive
    dsimp only
    split
    · rfl
    unfold Dataset.ofAnswer
    dsimp only
    split
    · cases complete with
      | false => rfl
      | true => exact ofBody_of_respelled htexts
    · rfl

theorem fetch_of_sameDataset {read read' : Files.Reader} {location : Dataset.Location}
    (h : SameDataset read read' server server' location) (x : Http.Exchange τ) :
    let fetched := (Dataset.Source.ofLocation read server location).fetch x
    let fetched' := (Dataset.Source.ofLocation read' server' location).fetch x
    fetched'.answer = fetched.answer ∧ fetched'.state = fetched.state := by
  cases location with
  | file path =>
    exact ⟨congrArg (Except.mapError Run.Error.fetch) (ofFile_of_sameFile path h.2), rfl⟩
  | web url =>
    intro fetched fetched'
    change
      (Dataset.ofAnswer url (x.send server' (Dataset.request url)).1).1.mapError Run.Error.fetch =
        (Dataset.ofAnswer url (x.send server (Dataset.request url)).1).1.mapError Run.Error.fetch ∧
      (x.send server' (Dataset.request url)).2 = (x.send server (Dataset.request url)).2
    unfold Http.Exchange.send
    rw [h.serves]
    split
    · exact ⟨rfl, rfl⟩
    split
    · refine ⟨congrArg (Except.mapError _) (ofAnswer_of_sameReply url (h.dataset x.state)), ?_⟩
      dsimp only
      rw [h.after x.state]
    · exact ⟨rfl, rfl⟩

/-- A load of another text of the dataset is the same load. -/
theorem run_of_sameDataset {setup : Setup} {read read' : Files.Reader}
    (h : SameDataset read read' server server' setup.dataset) (x : Http.Exchange τ) :
    let run := setup.run read server x
    let run' := setup.run read' server' x
    run'.result = run.result ∧ run'.state = run.state ∧ run'.calls = run.calls := by
  intro run run'
  have hservice : setup.client.service server' = setup.client.service server := by
    cases hlocation : setup.dataset with
    | file path =>
      rw [hlocation] at h
      rw [h.1]
    | web url =>
      rw [hlocation] at h
      -- The request for the dataset tells no content type, unlike those of calls.
      refine service_congr h.serves fun r state hr => h.other r state ?_
      rintro rfl
      cases hr
  have hsim : Simulates (fun _ => Eq) (fun _ => True) Eq (setup.client.service server)
      (Dataset.Source.ofLocation read server setup.dataset) (setup.client.service server')
      (Dataset.Source.ofLocation read' server' setup.dataset) := by
    rw [hservice]
    refine ⟨?_, ?_⟩
    · rintro c y _ rfl -
      exact ⟨rfl, rfl, rfl⟩
    · rintro y _ rfl
      obtain ⟨hanswer, hstate⟩ := fetch_of_sameDataset h y
      refine ⟨hanswer.symm, hstate.symm, ?_⟩
      rw [transitions_of_marks (quiet_ofLocation ..), transitions_of_marks (quiet_ofLocation ..)]
  obtain ⟨hresult, hstate, hcalls, -⟩ :=
    (Alike.refl setup.procedure).run hsim (s := x) rfl fun _ _ => trivial
  exact ⟨hresult.symm, hstate.symm, hcalls.symm⟩

end Services

/-! ## The whole way -/

/-- Records and mappings are passed on as they are: what was written as JSON is read back; other
spellings of the mapping and of the dataset lead to the same requests, byte for byte; and an integer
literal goes out as it came in. -/
theorem json_forwarded :
    (∀ records : List Record,
      Json.Portable Json.maxDepth (.array (records.map Record.toJson)) →
      Dataset.parse (Json.array (records.map Record.toJson)).wireBytes = .ok records) ∧
    (∀ (s : Settings) (read : Files.Reader) (path : String) (body : Json),
      s.mappingFile = some path → read path = .ok body.wireBytes → body.isObject = true →
      Json.Portable Json.maxDepth body → s.indexConfig read = .ok ⟨s.indexName, body⟩) ∧
    (∀ (names : Url.Names) (s : Settings) (read read' : Files.Reader),
      s.SameMapping read read' → s.setup names read' = s.setup names read) ∧
    (∀ (τ : Type) (setup : Setup) (read read' : Files.Reader) (server server' : Http.Server τ)
      (x : Http.Exchange τ), SameDataset read read' server server' setup.dataset →
      let run := setup.run read server x
      let run' := setup.run read' server' x
      run'.result = run.result ∧ run'.state = run.state ∧ run'.calls = run.calls) ∧
    (∀ (v : Json) (t u : Bytes) (l : Number.Literal) (n : Number) (path : List Json.Step),
      Json.IsText v t → IntegerLiteral l u → l.value? = some n →
      at? path v = some (.number n) →
      ∃ body, Json.parse t = .ok body ∧
        at? path body = some (.number (.int (Json.integerOf l))) ∧
        ∀ index, u <:+: (Search.Call.create index body).body) ∧
    (∀ (rows : Dataset.Rows) (t u : Bytes) (l : Number.Literal) (n : Number) (i : Nat)
      (path : List Json.Step), Json.IsText rows.toJson t → IntegerLiteral l u →
      l.value? = some n → at? (.item i :: path) rows.toJson = some (.number n) →
      ∃ records record, Dataset.parse t = .ok records ∧ records[i]? = some record ∧
        at? path record.toJson = some (.number (.int (Json.integerOf l))) ∧
        ∀ index batch, record ∈ batch → u <:+: (Search.Call.bulk index batch).body) := by
  refine ⟨fun records h => Dataset.parse_wireBytes h, ?_, ?_, ?_, ?_, ?_⟩
  · intro s read path body hfile hread hobject hportable
    exact Settings.indexConfig_wireBytes hfile hread hobject hportable
  · intro names s read read' h
    exact Settings.setup_of_sameMapping names h
  · intro τ setup read read' server server' x h
    exact run_of_sameDataset h x
  · intro v t u l n path ht hl hn hat
    obtain ⟨hnormal, htext⟩ := hl.emitted hn hat
    exact ⟨v.normal, Json.parse_of_isText ht, hnormal, fun _ => htext⟩
  · intro rows t u l n i path ht hl hn hat
    exact Dataset.integer_emitted ht hl hn hat

/-! ## A movie in two spellings -/

def movie : Record := ⟨[("title", .string "A"), ("year", .nat 1900)]⟩

/-- The movie, with an escape, a blank and its members in another order. -/
def respelledMovie : Bytes := utf8 "\x7b\"year\" :1900,\"title\":\"\\u0041\"\x7d"

theorem portable_movie (depth : Nat) : Json.Portable (depth + 1) movie.toJson := by
  refine ⟨Keyed.sorted_pair (by decide), ?_⟩
  have hyear : Json.Portable depth (.nat 1900) := by
    unfold Json.nat Json.Portable Json.Fits
    omega
  have htitle : Json.Portable depth (.string "A") := by
    unfold Json.Portable
    trivial
  intro m hm
  rcases List.mem_pair.mp hm with rfl | rfl
  · exact htitle
  · exact hyear

/-- The members as they stand in the other spelling. -/
def writtenMovie : List (String × Json) := [("year", .nat 1900), ("title", .string "A")]

theorem reordered_movie : Json.Reordered movie.toJson (.object writtenMovie) :=
  .swap (by decide) _ _ [] []

theorem spells_respelledMovie (depth : Nat) :
    Json.Spells (depth + 2) (.object writtenMovie) respelledMovie := by
  have hyear : Json.Spells (depth + 1) (.nat 1900) (Json.nat 1900).wireBytes := by
    apply Json.spells_wireBytes
    unfold Json.nat Json.Portable Json.Fits
    omega
  have htitle : Json.Spells (depth + 1) (.string "A") (utf8 "\"\\u0041\"") := by
    refine .inl (.string ⟨[0x5C, 0x75, 0x30, 0x30, 0x34, 0x31], ?_, by decide⟩)
    exact .cons (.unit (n := 0x41) (by decide) (by decide) (by decide)) .nil
  have hblank : Json.Blank [0x20] := by
    intro b hb
    rw [List.mem_singleton.mp hb]
    decide
  have hfirst := Json.SpellsMember.mk (Json.spellsString_stringChars "year") hblank Json.blank_nil
    hyear
  have hsecond := Json.SpellsMember.mk (Json.spellsString_stringChars "title") Json.blank_nil
    Json.blank_nil htitle
  have hmembers := Json.SpellsItems.more hfirst Json.blank_nil Json.blank_nil
    (.last hsecond Json.blank_nil)
  have htext : Json.SpellsList _ 0x7B 0x7D _ _ := .items Json.blank_nil hmembers
  refine .inr (.inr ⟨writtenMovie, rfl, ?_⟩)
  refine (congrArg (Json.SpellsList _ 0x7B 0x7D writtenMovie) ?_).mp htext
  decide +kernel

/-- The movie alone in a dataset, with a line break before it. -/
def respelledMovies : Bytes := [0x0A] ++ (0x5B :: (respelledMovie ++ [0x5D]) ++ [])

theorem isText_respelledMovies :
    Json.IsText (.array [.object writtenMovie]) respelledMovies := by
  have hblank : Json.Blank [0x0A] := by
    intro b hb
    rw [List.mem_singleton.mp hb]
    decide
  have hitem := Json.SpellsItems.last (spells_respelledMovie 124) Json.blank_nil
  have htext : Json.SpellsList _ 0x5B 0x5D _ _ := .items Json.blank_nil hitem
  rw [List.nil_append, List.append_nil] at htext
  exact ⟨[0x0A], _, [], hblank, .inr (.inl ⟨_, rfl, htext⟩), Json.blank_nil, rfl⟩

/-- Where the dataset is, beside the service. -/
def moviesUrl : Url := { Search.localClient.base with path := .segments ["movies.json"] }

/-- A server that goes through a script, except that it always delivers the dataset. -/
def moviesServer (dataset : Bytes) : Http.Server (List Http.Reply) where
  serves := (Http.Server.scripted "localhost:9200").serves
  respond r script :=
    if r = Dataset.request moviesUrl then (.answered ⟨200⟩ dataset true, script)
    else (Http.Server.scripted "localhost:9200").respond r script

theorem redelivers_moviesServer {dataset dataset' : Bytes}
    (h : Dataset.Respelled dataset dataset') :
    Redelivers moviesUrl (moviesServer dataset) (moviesServer dataset') where
  serves := rfl
  other r script hne := by
    unfold moviesServer
    dsimp only
    rw [if_neg hne, if_neg hne]
  dataset script := by
    unfold moviesServer
    dsimp only
    rw [if_pos rfl, if_pos rfl]
    exact .texts h ⟨200⟩ true
  after script := by
    unfold moviesServer
    dsimp only
    rw [if_pos rfl, if_pos rfl]

/-- The service is ready, has no index yet, and accepts the movie. -/
def moviesScript : List Http.Reply :=
  [.answered ⟨200⟩ [] true, .answered ⟨404⟩ [] true, .answered ⟨200⟩ [] true,
    .answered ⟨200⟩ (utf8 "\x7b\x7d") true, .answered ⟨200⟩ (utf8 "\x7b\"count\":1\x7d") true]

theorem literal_1900 :
    IntegerLiteral ⟨false, [1, 9, 0, 0], none, none⟩ (utf8 "1900") where
  spells := ⟨_, ⟨[], [], ⟨⟨by decide, by decide⟩, by decide⟩, .none, .none, rfl⟩, by decide⟩
  fraction := rfl
  exponent := rfl
  notMinusZero := nofun
  fits := by
    unfold Json.Fits
    decide

theorem json_forwarded_movie :
    let read : Files.Reader := fun _ => .ok movie.toJson.wireBytes
    let read' : Files.Reader := fun _ => .ok respelledMovie
    let s := { Settings.default with mappingFile := some "mapping.json" }
    let movies := (Json.array [movie.toJson]).wireBytes
    let setup : Setup := ⟨Search.localClient, .web moviesUrl, .default⟩
    let run := setup.run read (moviesServer movies) ⟨moviesScript, []⟩
    let run' := setup.run read (moviesServer respelledMovies) ⟨moviesScript, []⟩
    respelledMovie ≠ movie.toJson.wireBytes ∧ respelledMovies ≠ movies ∧
      Dataset.parse movies = .ok [movie] ∧
      s.indexConfig read = .ok ⟨s.indexName, movie.toJson⟩ ∧
      s.setup .common read' = s.setup .common read ∧
      run.result = .ok ⟨1, 1, 1, 0, 1⟩ ∧ run'.result = run.result ∧ run'.state = run.state ∧
      (∃ body, Json.parse respelledMovie = .ok body ∧
        at? [.member "year"] body = some (.nat 1900) ∧
        ∀ index, utf8 "1900" <:+: (Search.Call.create index body).body) ∧
      ∃ records record, Dataset.parse respelledMovies = .ok records ∧
        records[0]? = some record ∧ at? [.member "year"] record.toJson = some (.nat 1900) ∧
        ∀ index batch, record ∈ batch →
          utf8 "1900" <:+: (Search.Call.bulk index batch).body := by
  intro read read' s movies setup run run'
  obtain ⟨hrecords, hmapping, hsetup, hrun, hcreate, hbulk⟩ := json_forwarded
  have hportable : Json.Portable Json.maxDepth (.array [movie.toJson]) := by
    intro x hx
    rw [List.mem_singleton.mp hx]
    exact portable_movie 125
  have htext := Json.isText_of_spells (Json.spells_wireBytes (portable_movie 126))
  have htext' := Json.isText_of_spells (spells_respelledMovie 125)
  have hrespelled : Json.Respelled movie.toJson.wireBytes respelledMovie :=
    ⟨movie.toJson, .object writtenMovie, htext, htext', reordered_movie⟩
  have hdataset : Dataset.Respelled movies respelledMovies :=
    ⟨[movie.members], .array [.object writtenMovie],
      Json.isText_of_spells (Json.spells_wireBytes hportable), isText_respelledMovies,
      .item [] [] reordered_movie⟩
  obtain ⟨hresult, hstate, -⟩ := hrun _ setup read read (moviesServer movies)
    (moviesServer respelledMovies) ⟨moviesScript, []⟩ (redelivers_moviesServer hdataset)
  refine ⟨by decide +kernel, by decide +kernel, hrecords [movie] hportable,
    hmapping s read "mapping.json" movie.toJson rfl rfl rfl (portable_movie 126),
    hsetup .common s read read' fun _ _ => .texts hrespelled, by decide +kernel, hresult, hstate,
    ?_, ?_⟩
  · exact hcreate (.object writtenMovie) respelledMovie (utf8 "1900") _ _ [.member "year"] htext'
      literal_1900 rfl rfl
  · exact hbulk [writtenMovie] respelledMovies (utf8 "1900") _ _ 0 [.member "year"]
      isText_respelledMovies literal_1900 rfl rfl

end Reindex
