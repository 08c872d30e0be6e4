import Reindex.Proofs.Conversation.Load
import Reindex.Proofs.Dataset.Delivery
import Reindex.Proofs.Dataset.Grammar

/-!
# Datasets that are cut off

What is left of a dataset that was cut off is no dataset, unless only blanks are missing.  So a load
that finds it either has all records or writes none of them.
-/

namespace Reindex

namespace Json

/-- A text of an array ends with its bracket. -/
theorem exists_eq_snoc {xs : List Json} {t : Bytes} {depth : Nat}
    (h : Spells (depth + 1) (.array xs) t) : ∃ u, t = u ++ [0x5D] := by
  rcases h with h | ⟨_, _, h⟩ | ⟨_, heq, _⟩
  · cases h
  · cases h with
    | empty hblank => exact ⟨_ :: _, rfl⟩
    | items hblank h => exact ⟨_ :: (_ ++ _), by rw [List.cons_append, List.append_assoc]⟩
  · cases heq

/-- If a text of an array goes on with blanks, it is a text of that array without them. -/
theorem isText_of_append_blank {xs : List Json} {p q : Bytes} (h : IsText (.array xs) (p ++ q))
    (hq : Blank q) : IsText (.array xs) p := by
  obtain ⟨blank, t, blank', hblank, hspells, hblank', heq⟩ := h
  obtain ⟨u, rfl⟩ := exists_eq_snoc hspells
  rw [← List.append_assoc] at heq
  rcases List.append_eq_append_iff.mp heq with ⟨more, hmore, rfl⟩ | ⟨more, rfl, rfl⟩
  · rcases List.eq_nil_or_concat' more with rfl | ⟨init, b, rfl⟩
    · rw [List.append_nil] at hmore
      refine ⟨blank, u ++ [0x5D], [], hblank, hspells, blank_nil, ?_⟩
      rw [List.append_nil, hmore]
    -- The bracket at the end of the array would be one of the blanks.
    · rw [← List.append_assoc, ← List.append_assoc] at hmore
      obtain rfl := List.singleton_inj.mp (List.append_inj_right' hmore rfl)
      have hend : isBlankByte 0x5D = true := hq _ (by simp)
      exact absurd hend (by decide)
  · refine ⟨blank, u ++ [0x5D], more, hblank, hspells, ?_, List.append_assoc ..⟩
    exact fun b hb => hblank' b (List.mem_append_left _ hb)

/-- After an array of objects, only blanks can follow in a text that is read. -/
theorem blank_of_parseMaps_append {p q : Bytes} {maps maps' : List Members}
    (h : parseMaps p = .ok maps) (h' : parseMaps (p ++ q) = .ok maps') : Blank q := by
  obtain ⟨blank, t, blank', hblank, hlist, -, rfl⟩ := text_of_document (readsOnly_maps _ 125) h
  obtain ⟨rest, hread, hrest⟩ := read_of_document h'
  have hwhole : readMaps (blank ++ (t ++ blank') ++ q).length maxDepth
      (blank ++ (t ++ (blank' ++ q))) = .ok (maps, blank' ++ q) := by
    apply readMaps_of_spells hlist _ hblank
    simp only [List.length_append]
    omega
  -- The array ends where it ended before, whatever comes after it.
  rw [List.append_assoc, List.append_assoc] at hread hwhole
  rw [hread] at hwhole
  cases hwhole
  exact fun b hb => hrest b (List.mem_append_right _ hb)

end Json

namespace Dataset

/-- A dataset that is cut off has lost blanks only, or it is no dataset. -/
theorem parse_of_append {p q : Bytes} {records : List Record} (h : parse (p ++ q) = .ok records) :
    Json.Blank q ∧ parse p = .ok records ∨ ¬Json.Blank q ∧ ∃ detail, parse p = .error detail := by
  by_cases hq : Json.Blank q
  · obtain ⟨rows, htext, rfl⟩ := rows_of_parse h
    exact .inl ⟨hq, parse_of_isText (Json.isText_of_append_blank htext hq)⟩
  · refine .inr ⟨hq, ?_⟩
    cases hp : parse p with
    | error detail => exact ⟨detail, rfl⟩
    | ok records' =>
      obtain ⟨maps, hmaps, -⟩ := maps_of_parse h
      obtain ⟨maps', hmaps', -⟩ := maps_of_parse hp
      exact absurd (Json.blank_of_parseMaps_append hmaps' hmaps) hq

end Dataset

/-! ## What a load makes of its dataset -/

namespace Run

/-- Is the entry about a bulk request? -/
def Entry.isBulk : Entry → Bool
  | .called (.bulk ..) _ => true
  | _ => false

/-- The bulk requests of a journal. -/
def bulkEntries (t : List Entry) : List Entry := t.filter Entry.isBulk

theorem bulkEntries_append (a b : List Entry) :
    bulkEntries (a ++ b) = bulkEntries a ++ bulkEntries b :=
  List.filter_append ..

theorem bulkEntries_fetched (answer : Except Run.Error (List Record)) (t : List Entry) :
    bulkEntries (.fetched answer :: t) = bulkEntries t := rfl

section Parts

variable {config : Config} {t : List Entry}

theorem ProbeTrace.no_bulk {r : Readiness} {result : Except Error Nat}
    (h : ProbeTrace r t result) : bulkEntries t = [] := by
  obtain ⟨answers, rfl⟩ := h.eq_pinged
  apply List.filter_eq_nil_iff.mpr
  intro entry hentry
  obtain ⟨answer, -, rfl⟩ := List.mem_map.mp hentry
  exact Bool.false_ne_true

theorem ResetTrace.no_bulk {index : Search.IndexConfig} {result : Except Error Unit}
    (h : ResetTrace index t result) : bulkEntries t = [] := by
  cases h <;> rfl

theorem InsertTrace.all_bulk {ingest : Ingest} {index : String} {records : List Record}
    {result : Except Error IngestSummary} (h : InsertTrace ingest index records t result) :
    bulkEntries t = t := by
  apply List.filter_eq_self.mpr
  intro entry hentry
  obtain ⟨batch, -, answer, rfl⟩ := h.bulks entry hentry
  rfl

theorem InsertTrace.submitted {ingest : Ingest} {index : String} {records : List Record}
    {sent : IngestSummary} (h : InsertTrace ingest index records t (.ok sent)) :
    sent.submitted = records.length := by
  cases h
  rfl

/-- What a load makes of its dataset: it does not get to it, it fails for want of it, or it writes
its records and no others. -/
inductive Ingestion (config : Config) (t : List Entry) (outcome : Except StepFailure Report) :
    Prop where
  | unreached (hfetched : ∀ answer, .fetched answer ∉ t) (hbulk : bulkEntries t = [])
      (houtcome : ∃ failure, outcome = .error failure)
  | unread (err : Error) (hfetched : .fetched (.error err) ∈ t) (hbulk : bulkEntries t = [])
      (houtcome : outcome = .error ⟨.fetching, err⟩)
  | written (records : List Record) (result : Except Error IngestSummary)
      (hfetched : .fetched (.ok records) ∈ t)
      (hinsert : InsertTrace config.ingest config.index.name records (bulkEntries t) result)
      (houtcome : ∀ report, outcome = .ok report →
        report.fetched = records.length ∧ report.submitted = records.length)

/-- Neither before the dataset nor after the last record is anything written. -/
theorem ingestion_of_insert {pings calls bulks after : List Entry} {attempts : Nat}
    {records : List Record} {result : Except Error IngestSummary}
    {outcome : Except StepFailure Report}
    (hprobe : ProbeTrace config.readiness pings (.ok attempts))
    (hreset : ResetTrace config.index calls (.ok ()))
    (hinsert : InsertTrace config.ingest config.index.name records bulks result)
    (hafter : bulkEntries after = [])
    (houtcome : ∀ report, outcome = .ok report →
      report.fetched = records.length ∧ report.submitted = records.length) :
    Ingestion config (pings ++ (calls ++ .fetched (.ok records) :: (bulks ++ after))) outcome := by
  have hbulk : bulkEntries (pings ++ (calls ++ .fetched (.ok records) :: (bulks ++ after))) =
      bulks := by
    simp only [bulkEntries_append, bulkEntries_fetched, hprobe.no_bulk, hreset.no_bulk,
      hinsert.all_bulk, hafter, List.nil_append, List.append_nil]
  have hfetched : .fetched (.ok records) ∈
      pings ++ (calls ++ .fetched (.ok records) :: (bulks ++ after)) := by
    simp
  rw [← hbulk] at hinsert
  exact .written records result hfetched hinsert houtcome

theorem LoadTrace.ingestion {outcome : Except StepFailure Report}
    (h : LoadTrace config t outcome) : Ingestion config t outcome := by
  cases h with
  | probing hprobe => exact .unreached hprobe.not_fetched hprobe.no_bulk ⟨_, rfl⟩
  | initializing hprobe hreset =>
    refine .unreached (fun answer hmem => ?_) ?_ ⟨_, rfl⟩
    · rcases List.mem_append.mp hmem with hmem | hmem
      · exact hprobe.not_fetched answer hmem
      · exact hreset.not_fetched answer hmem
    · rw [bulkEntries_append, hprobe.no_bulk, hreset.no_bulk]
      rfl
  | fetching hprobe hreset err =>
    refine .unread err (by simp) ?_ rfl
    rw [bulkEntries_append, bulkEntries_append, hprobe.no_bulk, hreset.no_bulk]
    rfl
  | @ingesting _ _ bulks _ _ err hprobe hreset hinsert =>
    have hall : Ingestion config (_ ++ (_ ++ _ :: (bulks ++ []))) (.error ⟨.ingesting, err⟩) :=
      ingestion_of_insert hprobe hreset hinsert rfl nofun
    rwa [List.append_nil] at hall
  | verifying hprobe hreset hinsert e => exact ingestion_of_insert hprobe hreset hinsert rfl nofun
  | done hprobe hreset hinsert counted =>
    apply ingestion_of_insert hprobe hreset hinsert rfl
    rintro _ ⟨⟩
    exact ⟨rfl, hinsert.submitted⟩

end Parts

/-- A load has all of its records to write, or it writes nothing. -/
inductive AllOrNothing {σ : Type} (config : Config) (records : List Record)
    (run : Outcome σ Error Report) : Prop where
  /-- The load does not get as far as its dataset. -/
  | unreached (hfetched : ∀ answer, .fetched answer ∉ run.contacts)
      (hbulk : bulkEntries run.contacts = []) (hresult : ∃ err, run.result = .error err)
  /-- All records go out, up to the first request that fails. -/
  | all (result : Except Error IngestSummary) (hfetched : .fetched (.ok records) ∈ run.contacts)
      (hinsert : InsertTrace config.ingest config.index.name records (bulkEntries run.contacts)
        result)
      (hreport : ∀ report, run.result = .ok report →
        report.fetched = records.length ∧ report.submitted = records.length)
  /-- The load fails while it fetches. -/
  | nothing (detail : String) (hfetched : .fetched (.error (.fetch detail)) ∈ run.contacts)
      (hbulk : bulkEntries run.contacts = []) (hresult : run.result = .error (.fetch detail))
      (hevents : ∃ earlier, run.events = earlier ++ [.stateChanged .fetching .failed,
        .runFailed .fetching (Error.fetch detail).message])

/-- A load with such a dataset, or with none, writes its records or nothing. -/
theorem allOrNothing_of_fetched {σ : Type} {service : Search.Service σ}
    {source : Dataset.Source σ} {config : Config} {name : String} {start : State} {s : σ}
    {records : List Record} (hsource : source.OnlyFetchErrors)
    (h : ∀ found, .fetched (.ok found) ∈ ((load config name start).run service source s).contacts →
      found = records) :
    AllOrNothing config records ((load config name start).run service source s) := by
  obtain ⟨htrace, hresult, hreplays⟩ := loadTrace_of_run service source config name start s
  cases htrace.ingestion with
  | unreached hfetched hbulk houtcome =>
    obtain ⟨failure, hfailure⟩ := houtcome
    rw [hfailure] at hresult
    exact .unreached hfetched hbulk ⟨failure.error, hresult⟩
  | unread err hfetched hbulk houtcome =>
    obtain ⟨detail, rfl⟩ := hsource.of_replays hreplays hfetched
    have hevents := events_of_failure name houtcome
    rw [houtcome] at hresult
    exact .nothing detail hfetched hbulk hresult hevents
  | written found result hfetched hinsert houtcome =>
    obtain rfl := h found hfetched
    refine .all result hfetched hinsert fun report hreport => houtcome report ?_
    rw [hreport] at hresult
    exact mapError_eq_ok hresult.symm

end Run

namespace Dataset

/-- Of a dataset that is cut off, either only blanks are lost, and it is read as before, or it is no
dataset any more.  A load that finds it, in its file or in a whole reply, writes all of its records
or none: if it is not read, the load fails while it fetches. -/
theorem load_of_cut_off {p q : Bytes} {records : List Record} (h : parse (p ++ q) = .ok records) :
    (Json.Blank q ∧ parse p = .ok records ∨
        ¬Json.Blank q ∧ ∃ detail, parse p = .error detail) ∧
      ∀ (τ : Type) (setup : Setup) (read : Files.Reader) (server : Http.Server τ)
        (x : Http.Exchange τ), setup.Finds read server x p →
        Run.AllOrNothing setup.config records (setup.run read server x) := by
  have hparse := parse_of_append h
  refine ⟨hparse, fun τ setup read server x hfinds => ?_⟩
  apply Run.allOrNothing_of_fetched (onlyFetchErrors_ofLocation read server setup.dataset)
  intro found hfound
  have hread : parse p = .ok found := mapError_eq_ok (hfinds.fetched hfound).symm
  rcases hparse with ⟨-, hall⟩ | ⟨-, detail, hnothing⟩
  · exact Except.ok.inj (hread.symm.trans hall)
  · cases hread.symm.trans hnothing

/-- Two records without members, and no bracket at the end. -/
def cutMovies : Bytes := utf8 "[\x7b\x7d,\x7b\x7d"

/-- The service is ready, the index is new, and the dataset is cut off. -/
def cutScript : List Http.Reply :=
  [.answered ⟨200⟩ [] true, .answered ⟨404⟩ [] true, .answered ⟨201⟩ [] true,
    .answered ⟨200⟩ cutMovies true]

theorem load_of_cut_movies :
    let read : Files.Reader := fun _ => .ok []
    let server := Http.Server.scripted "localhost:9200"
    let run := Setup.localSetup.run read server ⟨cutScript, []⟩
    Setup.localSetup.Finds read server ⟨cutScript, []⟩ cutMovies ∧
      ∃ records, parse (cutMovies ++ [0x5D]) = .ok records ∧ records.length = 2 ∧
        (∃ detail, parse cutMovies = .error detail) ∧
        Run.AllOrNothing Setup.localSetup.config records run ∧
        run.calls.map Search.Call.kind = [.ping, .exists, .create] ∧
        run.result.isOk = false := by
  intro read server run
  have hlength : run.state.sent.length = 4 := by decide +kernel
  have hdue : ∀ i < 4, run.state.sent[i]? = some (request Setup.localDataset) →
      cutScript[i]?.bind Http.Reply.content? = some cutMovies := by decide +kernel
  have hfinds : Setup.localSetup.Finds read server ⟨cutScript, []⟩ cutMovies := by
    apply Setup.finds_of_script rfl (by decide) (by decide)
    intro i hi
    have hlt := (List.getElem?_eq_some_iff.mp hi).1
    exact hdue i (hlength ▸ hlt) hi
  have hcount : (parse (cutMovies ++ [0x5D])).map List.length = .ok 2 := by decide +kernel
  cases hparse : parse (cutMovies ++ [0x5D]) with
  | error detail =>
    rw [hparse] at hcount
    cases hcount
  | ok records =>
    rw [hparse] at hcount
    obtain ⟨hcut, hload⟩ := load_of_cut_off hparse
    have hnothing := (hcut.resolve_left fun h => absurd (h.1 0x5D List.mem_cons_self) (by decide)).2
    exact ⟨hfinds, records, rfl, Except.ok.inj hcount, hnothing, hload _ _ _ _ _ hfinds,
      by decide +kernel, by decide +kernel⟩

end Dataset

end Reindex
