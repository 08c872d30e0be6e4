import Reindex.Proofs.Json.Wire
import Reindex.Proofs.Search.Link

/-!
# The body of a bulk request

The body is cut into lines at its line feeds, because no text of a value holds one.  The lines come
in pairs, an action and a record, and whoever reads the pairs gets back what was sent.
-/

namespace Reindex.Search

/-! ## Lines -/

/-- The lines of a text in which every line is ended by a line feed, the last one too. -/
def lines? : Bytes → Option (List Bytes)
  | [] => some []
  | b :: rest =>
    if b = 0x0A then (lines? rest).map ([] :: ·)
    else match lines? rest with
      | some (line :: lines) => some ((b :: line) :: lines)
      | _ => none

theorem lines?_append {line : Bytes} (h : ∀ b ∈ line, 0x20 ≤ b.toNat) (rest : Bytes) :
    lines? (line ++ 0x0A :: rest) = (lines? rest).map (line :: ·) := by
  induction line with
  | nil => rw [List.nil_append, lines?, if_pos rfl]
  | cons b line ih =>
    obtain ⟨hb, hline⟩ := List.forall_mem_cons.mp h
    have hne : b ≠ 0x0A := by
      rintro rfl
      exact absurd hb (by decide)
    rw [List.cons_append, lines?, if_neg hne, ih hline]
    cases lines? rest <;> rfl

theorem lines?_flatMap {lines : List Bytes} (h : ∀ line ∈ lines, ∀ b ∈ line, 0x20 ≤ b.toNat) :
    lines? (lines.flatMap (· ++ [0x0A])) = some lines := by
  induction lines with
  | nil => rfl
  | cons line rest ih =>
    obtain ⟨hline, hrest⟩ := List.forall_mem_cons.mp h
    rw [List.flatMap_cons, List.append_assoc, List.singleton_append, lines?_append hline,
      ih hrest, Option.map_some]

/-! ## The lines of a bulk request -/

/-- What the first line of a pair says: the index, and no identifier. -/
def bulkAction (index : String) : Json := .object [("index", .object [("_index", .string index)])]

/-- The lines of a bulk request. -/
def bulkTexts (index : String) (records : List Record) : List Bytes :=
  records.flatMap fun r => [(bulkAction index).wireBytes, r.toJson.wireBytes]

theorem body_bulk (index : String) (records : List Record) :
    (Call.bulk index records).body = (bulkTexts index records).flatMap (· ++ [0x0A]) := by
  change records.flatMap (bulkLines index) = _
  induction records with
  | nil => rfl
  | cons r rest ih =>
    have hlines : bulkLines index r =
        (bulkAction index).wireBytes ++ [0x0A] ++ r.toJson.wireBytes ++ [0x0A] := rfl
    have htexts : bulkTexts index (r :: rest) =
        (bulkAction index).wireBytes :: r.toJson.wireBytes :: bulkTexts index rest := rfl
    rw [List.flatMap_cons, ih, hlines, htexts, List.flatMap_cons, List.flatMap_cons]
    simp only [List.append_assoc]

theorem control_free_bulkTexts (index : String) (records : List Record) :
    ∀ line ∈ bulkTexts index records, ∀ b ∈ line, 0x20 ≤ b.toNat := by
  intro line hline
  obtain ⟨r, -, hline⟩ := List.mem_flatMap.mp hline
  simp only [List.mem_cons, List.not_mem_nil, or_false] at hline
  rcases hline with rfl | rfl
  · exact Json.control_free_wireBytes _
  · exact Json.control_free_wireBytes _

theorem length_bulkTexts (index : String) (records : List Record) :
    (bulkTexts index records).length = 2 * records.length := by
  induction records with
  | nil => rfl
  | cons r rest ih =>
    change (bulkTexts index rest).length + 1 + 1 = 2 * (rest.length + 1)
    omega

/-- Each record has the two lines at its place. -/
theorem getElem?_bulkTexts {index : String} {records : List Record} {i : Nat} {r : Record}
    (h : records[i]? = some r) :
    (bulkTexts index records)[2 * i]? = some (bulkAction index).wireBytes ∧
      (bulkTexts index records)[2 * i + 1]? = some r.toJson.wireBytes := by
  induction records generalizing i with
  | nil => cases h
  | cons first rest ih =>
    cases i with
    | zero =>
      cases h
      exact ⟨rfl, rfl⟩
    | succ i => exact ih h

/-! ## Reading the pairs -/

/-- The index that the first line of a pair names. -/
def actionIndex? (action : Json) : Option String :=
  ((action.field? "index").bind (Json.field? "_index")).bind Json.asString?

def recordOf? : Json → Option Record
  | .object members => some ⟨members⟩
  | _ => none

/-- The records in pairs of lines, each with the index that it goes to. -/
def bulkPairs? : List Bytes → Option (List (String × Record))
  | [] => some []
  | [_] => none
  | first :: second :: rest => do
    let action ← (Json.parse first).toOption
    let index ← actionIndex? action
    let document ← (Json.parse second).toOption
    let r ← recordOf? document
    let pairs ← bulkPairs? rest
    some ((index, r) :: pairs)

/-- The records of a bulk request, each with its index. -/
def bulkItems? (body : Bytes) : Option (List (String × Record)) := (lines? body).bind bulkPairs?

theorem portable_bulkAction (index : String) : Json.Portable Json.maxDepth (bulkAction index) :=
  ⟨List.pairwise_singleton .., List.forall_mem_singleton.mpr
    ⟨List.pairwise_singleton .., List.forall_mem_singleton.mpr trivial⟩⟩

theorem bulkPairs?_bulkTexts (index : String) {records : List Record}
    (h : ∀ r ∈ records, Json.Portable Json.maxDepth r.toJson) :
    bulkPairs? (bulkTexts index records) = some (records.map (index, ·)) := by
  induction records with
  | nil => rfl
  | cons r rest ih =>
    obtain ⟨hr, hrest⟩ := List.forall_mem_cons.mp h
    have hindex : actionIndex? (bulkAction index) = some index := rfl
    have hrecord : recordOf? r.toJson = some r := rfl
    change bulkPairs?
      ((bulkAction index).wireBytes :: r.toJson.wireBytes :: bulkTexts index rest) = _
    rw [bulkPairs?, Json.parse_wireBytes (portable_bulkAction index), Json.parse_wireBytes hr,
      ih hrest]
    simp only [Except.toOption, Option.bind_eq_bind, Option.bind_some, hindex, hrecord,
      List.map_cons]

theorem bulkItems?_body (index : String) {records : List Record}
    (h : ∀ r ∈ records, Json.Portable Json.maxDepth r.toJson) :
    bulkItems? (Call.bulk index records).body = some (records.map (index, ·)) := by
  unfold bulkItems?
  rw [body_bulk, lines?_flatMap (control_free_bulkTexts index records), Option.bind_some,
    bulkPairs?_bulkTexts index h]

/-- A body of portable records has one name and one list of records. -/
theorem eq_of_body_eq {index index' : String} {records records' : List Record}
    (hne : records ≠ []) (h : ∀ r ∈ records, Json.Portable Json.maxDepth r.toJson)
    (h' : ∀ r ∈ records', Json.Portable Json.maxDepth r.toJson)
    (hbody : (Call.bulk index' records').body = (Call.bulk index records).body) :
    index' = index ∧ records' = records := by
  have hitems : records'.map (index', ·) = records.map (index, ·) := by
    apply Option.some.inj
    rw [← bulkItems?_body index' h', ← bulkItems?_body index h, hbody]
  have hrecords : records' = records := by
    have hsecond := congrArg (List.map Prod.snd) hitems
    simpa only [List.map_map, Function.comp_def, List.map_id'] using hsecond
  subst hrecords
  cases records' with
  | nil => exact absurd rfl hne
  | cons r rest => exact ⟨(Prod.mk.inj (List.cons.inj hitems).1).1, rfl⟩

/-! ## What is sent -/

/-- The lines of a bulk request for some records of one index. -/
structure Framed (index : String) (records : List Record) (lines : List Bytes) : Prop where
  length : lines.length = 2 * records.length
  visible : ∀ line ∈ lines, ∀ b ∈ line, 0x20 ≤ b.toNat
  /-- The first line of a pair names the index. -/
  action : ∀ i, i < records.length → ∃ line, lines[2 * i]? = some line ∧
    line = (bulkAction index).wireBytes ∧ Json.parse line = .ok (bulkAction index)
  /-- The second line of a pair is the record. -/
  document : ∀ i r, records[i]? = some r → lines[2 * i + 1]? = some r.toJson.wireBytes

theorem framed_bulkTexts (index : String) (records : List Record) :
    Framed index records (bulkTexts index records) where
  length := length_bulkTexts index records
  visible := control_free_bulkTexts index records
  action _ hi :=
    ⟨_, (getElem?_bulkTexts (List.getElem?_eq_getElem hi)).1, rfl,
      Json.parse_wireBytes (portable_bulkAction index)⟩
  document _ _ h := (getElem?_bulkTexts h).2

/-- A bulk request goes out once, and its body is its lines and nothing else.  Whoever reads the
lines of portable records finds the index and the records, and no other request has that body. -/
theorem bulk_request_framed {τ : Type} (names : Url.Names) (server : Http.Server τ) (url : String)
    (client : Client) (x : Http.Exchange τ) (index : String) (records : List Record)
    (hconnect : Client.connect names url = .ok client) (hhttp : client.base.isHttp = true)
    (hserves : ∀ url : Url, url.scheme = client.base.scheme →
      url.authority = client.base.authority → server.serves url = true)
    (hne : records ≠ []) :
    ∃ (r : Http.Request) (lines : List Bytes),
      ((client.service server).perform (.bulk index records) x).state.sent = x.sent ++ [r] ∧
      r.method = .post ∧ r.body = lines.flatMap (· ++ [0x0A]) ∧ Framed index records lines ∧
      ((∀ r ∈ records, Json.Portable Json.maxDepth r.toJson) →
        bulkItems? r.body = some (records.map (index, ·)) ∧
        (∀ i r, records[i]? = some r → ∃ line, lines[2 * i + 1]? = some line ∧
          Json.parse line = .ok r.toJson) ∧
        ∀ index' records', (∀ r ∈ records', Json.Portable Json.maxDepth r.toJson) →
          (Call.bulk index' records').body = r.body → index' = index ∧ records' = records) := by
  have hlinked := Client.linked_of_connect hconnect hhttp hserves
  obtain ⟨before, hpath⟩ := hlinked.path
  obtain ⟨place, hrequest, hscheme, hauthority⟩ :=
    Client.request_of_segments hpath (.bulk index records)
  obtain ⟨hsendable, hserved⟩ := hlinked.reaches hscheme hauthority
  have himmediate : (Call.bulk index records).immediate? = none := by
    cases records with
    | nil => exact absurd rfl hne
    | cons => rfl
  refine ⟨⟨.post, place, some contentType, (Call.bulk index records).body⟩,
    bulkTexts index records, ?_, rfl, body_bulk index records, framed_bulkTexts index records,
    fun hportable => ⟨bulkItems?_body index hportable, ?_, ?_⟩⟩
  · rw [Client.perform_of_request himmediate hrequest hsendable hserved]
    rfl
  · intro i r hr
    have hparse := Json.parse_wireBytes (hportable r (List.mem_of_getElem? hr))
    exact ⟨_, (getElem?_bulkTexts hr).2, hparse⟩
  · intro index' records' hportable' hbody
    exact eq_of_body_eq hne hportable hportable' hbody

/-- A name and records that would break the lines if they were not escaped. -/
def awkwardName : String := "a\"b\\c\nd"

def awkwardRecords : List Record :=
  [⟨[("title", .string "Up\n\x7b")]⟩, ⟨[("cast", .array []), ("year", .number (.int (-2009)))]⟩]

theorem portable_awkwardRecords :
    ∀ r ∈ awkwardRecords, Json.Portable Json.maxDepth r.toJson := by
  have hsorted : Keyed.Sorted [("cast", Json.array []), ("year", Json.number (.int (-2009)))] :=
    Keyed.sorted_pair (by decide)
  have hfits : Json.Fits (-2009) := by
    unfold Json.Fits
    decide
  simp only [awkwardRecords, List.forall_mem_cons, List.not_mem_nil, false_implies, implies_true,
    and_true]
  exact ⟨⟨List.pairwise_singleton .., List.forall_mem_singleton.mpr trivial⟩, hsorted,
    List.forall_mem_cons.mpr ⟨fun _ h => absurd h List.not_mem_nil,
      List.forall_mem_singleton.mpr hfits⟩⟩

theorem awkward_bulk_request_framed :
    let server := Http.Server.scripted "localhost:9200"
    let exchange : Http.Exchange (List Http.Reply) := ⟨[], []⟩
    ∃ (r : Http.Request) (lines : List Bytes),
      ((localClient.service server).perform
        (.bulk awkwardName awkwardRecords) exchange).state.sent = [r] ∧
      r.body = lines.flatMap (· ++ [0x0A]) ∧ lines.length = 4 ∧
      bulkItems? r.body = some (awkwardRecords.map (awkwardName, ·)) := by
  intro server exchange
  have hne : awkwardRecords ≠ [] := List.cons_ne_nil _ _
  obtain ⟨r, lines, hsent, -, hbody, hframed, hportable⟩ := bulk_request_framed .common
    server "http://localhost:9200/es" localClient exchange awkwardName awkwardRecords
    connect_localClient (by decide) serves_localClient hne
  exact ⟨r, lines, hsent, hbody, hframed.length, (hportable portable_awkwardRecords).1⟩

end Reindex.Search
