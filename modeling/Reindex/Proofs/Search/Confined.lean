import Reindex.Proofs.Settings.Setup

/-!
# Requests that stay on their index

The request of a call about an index goes below the base, to the segment that stands for the name,
unless the name is a dot segment.  Those two names pass the checks of the settings, and their
requests go to the base itself or above it.
-/

namespace Reindex.Search

open Http (Request)

/-- What a call does below its index, unless it is about the index as a whole. -/
def Call.operation : Call → Option String
  | .bulk _ _ => some "_bulk"
  | .count _ => some "_count"
  | _ => none

/-- A segment of a path that stands for a name, and for no other. -/
structure StandsFor (segment name : String) : Prop where
  ne_empty : segment ≠ ""
  whole : ∀ c ∈ segment.toList, c ≠ '/' ∧ c ≠ '?' ∧ c ≠ '#'
  decodes : Text.percentDecode segment.toList = utf8 name

namespace Client

/-- The request goes to the segment of the name, right below the base, or to the operation of the
call below that segment. -/
def Addresses (client : Client) (c : Call) (name : String) (r : Request) : Prop :=
  ∃ segment, StandsFor segment name ∧
    r.url.target = client.base.path.text ++ segment ++ (c.operation.map ("/" ++ ·)).getD ""

/-- The request goes to the base or to what lies above it, or to the operation of the call there. -/
def Strays (client : Client) (c : Call) (r : Request) : Prop :=
  ∃ parent rest, client.base.path.text = parent ++ rest ∧
    r.url.target = parent ++ c.operation.getD ""

end Client

/-! ## Segments -/

theorem standsFor_indexSegment {name : String} (h : Nameable name) :
    StandsFor (indexSegment name) name where
  ne_empty hempty := (plain_indexSegment h).ne_nil (String.toList_eq_nil_iff.mpr hempty)
  whole c hc := by
    obtain ⟨hkept, hslash, -⟩ := forall_mem_indexSegment name c hc
    refine ⟨hslash, ?_, ?_⟩
    · rintro rfl
      exact absurd hkept (by decide)
    · rintro rfl
      exact absurd hkept (by decide)
  decodes := percentDecode_indexSegment name

theorem StandsFor.length_ne_zero {segment name : String} (h : StandsFor segment name) :
    segment.length ≠ 0 := by
  intro hzero
  apply h.ne_empty
  rw [← String.toList_eq_nil_iff, ← List.length_eq_zero_iff, String.length_toList]
  exact hzero

theorem StandsFor.name_eq {segment name name' : String} (h : StandsFor segment name)
    (h' : StandsFor segment name') : name = name' :=
  utf8_injective (h.decodes.symm.trans h'.decodes)

/-- The first segment of a path is what comes before its first slash. -/
theorem StandsFor.segment_eq {segment segment' name name' : String} {operation operation' : String}
    (h : StandsFor segment name) (h' : StandsFor segment' name')
    (hop : operation = "" ∨ ∃ rest, operation = "/" ++ rest)
    (hop' : operation' = "" ∨ ∃ rest, operation' = "/" ++ rest)
    (heq : segment ++ operation = segment' ++ operation') : segment = segment' := by
  have hslash : ∀ {s n : String}, StandsFor s n → ∀ c ∈ s.toList, (c != '/') = true := by
    intro s n hs c hc
    have hne := (hs.whole c hc).1
    simpa using hne
  have hcut : ∀ {s n o : String}, StandsFor s n → (o = "" ∨ ∃ rest, o = "/" ++ rest) →
      (s ++ o).toList.takeWhile (· != '/') = s.toList := by
    intro s n o hs ho
    rw [String.toList_append, List.takeWhile_append_of_pos (hslash hs)]
    rcases ho with rfl | ⟨rest, rfl⟩
    · exact List.append_nil _
    · rw [String.toList_append]
      exact List.append_nil _
  apply String.toList_inj.mp
  rw [← hcut h hop, heq, hcut h' hop']

theorem operation_cases (c : Call) :
    (c.operation.map ("/" ++ ·)).getD "" = "" ∨
      ∃ rest, (c.operation.map ("/" ++ ·)).getD "" = "/" ++ rest := by
  cases c with
  | bulk => exact .inr ⟨_, rfl⟩
  | count => exact .inr ⟨_, rfl⟩
  | _ => exact .inl rfl

/-! ## Paths -/

theorem path_text_append (before after : List String) :
    (Url.Path.segments (before ++ after)).text =
      (Url.Path.segments before).text ++ (Url.Path.segments after).text := by
  change String.join ((before ++ after).map _) = _
  rw [List.map_append, String.join_append]
  rfl

theorem path_text_snoc (before : List String) (last : String) :
    (Url.Path.segments (before ++ [last])).text =
      (Url.Path.segments before).text ++ "/" ++ last := by
  have hlast : (Url.Path.segments [last]).text = "/" ++ last := by
    change String.join ["/" ++ last] = _
    rw [String.join_cons]
    exact String.append_empty
  rw [path_text_append, hlast, String.append_assoc]

section Requests

variable {client : Client} {before : List String} {c : Call} {name : String}

theorem place_target (hpath : client.base.path = .segments (before ++ [""]))
    (hindex : c.index? = some name) :
    (client.place c).target =
      client.base.path.text ++ indexSegment name ++ (c.operation.map ("/" ++ ·)).getD "" := by
  have hdescend : ∀ segments, (client.base.descend segments).target =
      (Url.Path.segments (before ++ segments)).text := by
    intro segments
    unfold Url.descend
    rw [hpath]
    dsimp only
    rw [List.dropLast_concat]
    exact String.append_empty
  have hbase : client.base.path.text = (Url.Path.segments before).text ++ "/" := by
    rw [hpath, path_text_snoc]
    exact String.append_empty
  have hone : (Url.Path.segments (before ++ [indexSegment name])).text =
      client.base.path.text ++ indexSegment name ++ "" := by
    rw [path_text_snoc, hbase, String.append_empty]
  have htwo : ∀ operation, (Url.Path.segments (before ++ [indexSegment name, operation])).text =
      client.base.path.text ++ indexSegment name ++ ("/" ++ operation) := by
    intro operation
    have hsplit : before ++ [indexSegment name, operation] =
        before ++ [indexSegment name] ++ [operation] := by
      rw [List.append_assoc, List.singleton_append]
    rw [hsplit, path_text_snoc, hone, String.append_empty, String.append_assoc]
  cases c with
  | ping => cases hindex
  | «exists» index | delete index | create index =>
    cases hindex
    exact (hdescend _).trans hone
  | bulk index | count index =>
    cases hindex
    exact (hdescend _).trans (htwo _)

/-- A single dot is dropped from a path, and two dots take a segment with them. -/
theorem below_of_dots (hpath : client.base.path = .segments (before ++ [""]))
    (hindex : c.index? = some name) (hname : name = "." ∨ name = "..") :
    ∃ parent, (parent = before ∨ parent = before.dropLast) ∧
      client.base.below c.path = .ok { client.base with
        path := .segments (parent ++ [c.operation.getD ""]), query := none, fragment := none } := by
  have hbelow : ∀ reference parent last, reference ≠ "" →
      (∀ special, Url.addSegments before (Url.splitPath special reference.toList) =
        parent ++ [last]) →
      client.base.below reference = .ok { client.base with
        path := .segments (parent ++ [last]), query := none, fragment := none } := by
    intro reference parent last hne hsegments
    unfold Url.below
    rw [hpath]
    dsimp only
    rw [if_neg hne, List.dropLast_concat, hsegments]
  rcases hname with rfl | rfl
  · refine ⟨before, .inl rfl, ?_⟩
    cases c with
    | ping => cases hindex
    | «exists» index | delete index | create index =>
      cases hindex
      exact hbelow "." before "" (by decide) fun special => by cases special <;> rfl
    | bulk index =>
      cases hindex
      exact hbelow "./_bulk" before "_bulk" (by decide) fun special => by cases special <;> rfl
    | count index =>
      cases hindex
      exact hbelow "./_count" before "_count" (by decide) fun special => by cases special <;> rfl
  · refine ⟨before.dropLast, .inr rfl, ?_⟩
    cases c with
    | ping => cases hindex
    | «exists» index | delete index | create index =>
      cases hindex
      exact hbelow ".." before.dropLast "" (by decide) fun special => by cases special <;> rfl
    | bulk index =>
      cases hindex
      exact hbelow "../_bulk" before.dropLast "_bulk" (by decide) fun special => by
        cases special <;> rfl
    | count index =>
      cases hindex
      exact hbelow "../_count" before.dropLast "_count" (by decide) fun special => by
        cases special <;> rfl

/-- The request about a dot segment leaves the base for what lies above, or stays on it. -/
theorem strays_of_dots (hpath : client.base.path = .segments (before ++ [""]))
    (hindex : c.index? = some name) (hname : name = "." ∨ name = "..") {r : Request}
    (hrequest : client.request c = .ok r) : client.Strays c r := by
  obtain ⟨parent, hparent, hbelow⟩ := below_of_dots hpath hindex hname
  have hbase : client.base.path.text = (Url.Path.segments before).text ++ "/" := by
    rw [hpath, path_text_snoc]
    exact String.append_empty
  have htarget : r.url.target = (Url.Path.segments parent).text ++ "/" ++ c.operation.getD "" := by
    unfold Client.request at hrequest
    rw [hbelow] at hrequest
    cases hrequest
    rw [← path_text_snoc]
    exact String.append_empty
  have hsame : parent = before → client.Strays c r := by
    rintro rfl
    exact ⟨_, "", hbase.trans String.append_empty.symm, htarget⟩
  rcases hparent with heq | hup
  · exact hsame heq
  -- At the root of the host there is nothing to go up to.
  rcases List.eq_nil_or_concat before with hroot | ⟨upper, last, hlast⟩
  · exact hsame (by rw [hup, hroot, List.dropLast_nil])
  · rw [List.concat_eq_append] at hlast
    rw [hlast, List.dropLast_concat] at hup
    subst hup
    refine ⟨_, last ++ "/", ?_, htarget⟩
    rw [hbase, hlast, path_text_snoc]
    simp only [String.append_assoc]

/-- A request that strays is too short for the segment of a name. -/
theorem not_addresses_of_strays {r : Request} (h : client.Strays c r) :
    ¬client.Addresses c name r := by
  rintro ⟨segment, hsegment, htarget⟩
  obtain ⟨parent, rest, hbase, hstray⟩ := h
  have hpos := hsegment.length_ne_zero
  have hoperation : (c.operation.getD "").length ≤
      ((c.operation.map ("/" ++ ·)).getD "").length := by
    cases c.operation with
    | none => exact Nat.le_refl _
    | some operation =>
      rw [Option.map_some, Option.getD_some, Option.getD_some, String.length_append]
      omega
  have hlength := congrArg String.length (hstray.symm.trans htarget)
  rw [hbase] at hlength
  simp only [String.length_append] at hlength
  omega

theorem target_ne_base {r : Request} (h : client.Addresses c name r) :
    r.url.target ≠ client.base.path.text := by
  obtain ⟨segment, hsegment, htarget⟩ := h
  have hpos := hsegment.length_ne_zero
  intro hbase
  have hlength := congrArg String.length (hbase.symm.trans htarget)
  simp only [String.length_append] at hlength
  omega

theorem addresses_of_nameable (hpath : client.base.path = .segments (before ++ [""]))
    (hindex : c.index? = some name) (hname : Nameable name) {r : Request}
    (hrequest : client.request c = .ok r) : client.Addresses c name r := by
  have hnames : ∀ index, c.index? = some index → Nameable index := by
    intro index h
    cases hindex.symm.trans h
    exact hname
  rw [client.request_eq hpath hnames] at hrequest
  cases hrequest
  exact ⟨_, standsFor_indexSegment hname, place_target hpath hindex⟩

/-- What a request addresses is known from its path. -/
theorem name_eq_of_target_eq {c' : Call} {name' : String} {r r' : Request}
    (h : client.Addresses c name r) (h' : client.Addresses c' name' r')
    (htarget : r'.url.target = r.url.target) : name' = name := by
  obtain ⟨segment, hsegment, hr⟩ := h
  obtain ⟨segment', hsegment', hr'⟩ := h'
  rw [hr, hr', String.append_assoc, String.append_assoc, String.append_right_inj] at htarget
  have heq := hsegment'.segment_eq hsegment (operation_cases c') (operation_cases c) htarget
  subst heq
  exact hsegment'.name_eq hsegment

end Requests

/-! ## The names that the settings let through -/

/-- A call about a name that passed the checks goes to the segment of that name below the base,
where no other name's calls go, unless the name is a dot segment; then it goes to the base or above
it. -/
theorem request_addresses_index_iff (names : Url.Names) (s : Settings) (url : String)
    (client : Client) (c : Call) (hvalid : s.validate = .ok ())
    (hconnect : Client.connect names url = .ok client)
    (hhttp : client.base.isHttp = true) (hindex : c.index? = some s.indexName) :
    ∃ (r : Request) (parent : String), client.request c = .ok r ∧ r.method = c.method ∧
      r.url.scheme = client.base.scheme ∧ r.url.authority = client.base.authority ∧
      client.base.path.text = parent ++ "/" ∧
      (client.Addresses c s.indexName r ↔ s.indexName ≠ "." ∧ s.indexName ≠ "..") ∧
      (s.indexName = "." ∨ s.indexName = ".." → client.Strays c r) ∧
      (s.indexName ≠ "." → s.indexName ≠ ".." →
        r.url.target ≠ client.base.path.text ∧
        ∀ (s' : Settings) (c' : Call) (r' : Request), s'.validate = .ok () →
          s'.indexName ≠ "." → s'.indexName ≠ ".." → c'.index? = some s'.indexName →
          client.request c' = .ok r' → r'.url.target = r.url.target →
          s'.indexName = s.indexName) := by
  obtain ⟨before, hpath⟩ := Client.connect_path hconnect hhttp
  obtain ⟨place, hrequest, hscheme, hauthority⟩ := Client.request_of_segments hpath c
  have hbase : client.base.path.text = (Url.Path.segments before).text ++ "/" := by
    rw [hpath, path_text_snoc]
    exact String.append_empty
  have haddresses : ∀ (s : Settings) (c : Call) (r : Request), s.validate = .ok () →
      s.indexName ≠ "." → s.indexName ≠ ".." → c.index? = some s.indexName →
      client.request c = .ok r → client.Addresses c s.indexName r := by
    intro s c r hvalid hdot hdots hindex hrequest
    have hne := (Settings.valid_of_validate hvalid).indexName_ne_empty
    exact addresses_of_nameable hpath hindex ⟨hne, hdot, hdots⟩ hrequest
  have hstrays := fun hname => strays_of_dots hpath hindex hname hrequest
  refine ⟨_, _, hrequest, rfl, hscheme, hauthority, hbase, ⟨?_, ?_⟩, hstrays, ?_⟩
  · intro h
    constructor
    · exact fun hdot => not_addresses_of_strays (hstrays (.inl hdot)) h
    · exact fun hdots => not_addresses_of_strays (hstrays (.inr hdots)) h
  · rintro ⟨hdot, hdots⟩
    exact haddresses s c _ hvalid hdot hdots hindex hrequest
  · intro hdot hdots
    have hthis := haddresses s c _ hvalid hdot hdots hindex hrequest
    refine ⟨target_ne_base hthis, ?_⟩
    intro s' c' r' hvalid' hdot' hdots' hindex' hrequest' htarget
    have hother := haddresses s' c' r' hvalid' hdot' hdots' hindex' hrequest'
    exact name_eq_of_target_eq hthis hother htarget

/-- Settings with a name that needs every kind of escape. -/
def escapedSettings : Settings := { Settings.default with indexName := "a/b?#%é" }

theorem escaped_request_addresses_index :
    escapedSettings.validate = .ok () ∧
      ∃ r, localClient.request (.count escapedSettings.indexName) = .ok r ∧
        r.url.target = "/es/a%2Fb%3F%23%25%C3%A9/_count" ∧
        localClient.Addresses (.count escapedSettings.indexName) escapedSettings.indexName r := by
  have hvalid : escapedSettings.validate = .ok () := eq_ok_of_toOption (by decide)
  obtain ⟨r, parent, hrequest, -, -, -, -, haddresses, -⟩ :=
    request_addresses_index_iff .common escapedSettings "http://localhost:9200/es" localClient
      (.count escapedSettings.indexName) hvalid connect_localClient (by decide) rfl
  have htarget : ((localClient.request (.count escapedSettings.indexName)).toOption.map
      (·.url.target)) = some "/es/a%2Fb%3F%23%25%C3%A9/_count" := by
    decide +kernel
  rw [hrequest] at htarget
  exact ⟨hvalid, r, hrequest, Option.some.inj htarget, haddresses.mpr ⟨by decide, by decide⟩⟩

/-- The deletion of an index called `.` asks for the deletion of the base, and that of an index
called `..` for the deletion of what lies above it. -/
theorem dot_deletions_stray :
    let dot : Settings := { Settings.default with indexName := "." }
    let dots : Settings := { Settings.default with indexName := ".." }
    dot.validate = .ok () ∧ dots.validate = .ok () ∧
      Client.connect .common "http://localhost:9200/es" = .ok localClient ∧
      (∃ r, localClient.request (.delete dot.indexName) = .ok r ∧ r.method = .delete ∧
        r.url.target = "/es/" ∧ ¬localClient.Addresses (.delete dot.indexName) dot.indexName r) ∧
      ∃ r, localClient.request (.delete dots.indexName) = .ok r ∧ r.method = .delete ∧
        r.url.target = "/" ∧ ¬localClient.Addresses (.delete dots.indexName) dots.indexName r := by
  intro dot dots
  have hpath : localClient.base.path = .segments (["es"] ++ [""]) := rfl
  refine ⟨eq_ok_of_toOption (by decide), eq_ok_of_toOption (by decide), connect_localClient,
    ⟨⟨.delete, localClient.base, some contentType, []⟩, ?_⟩,
    ⟨.delete, { localClient.base with path := .segments [""] }, some contentType, []⟩, ?_⟩
  · have hrequest : localClient.request (.delete dot.indexName) =
        .ok ⟨.delete, localClient.base, some contentType, []⟩ :=
      eq_ok_of_toOption (by decide +kernel)
    have hstrays := strays_of_dots hpath rfl (.inl rfl) hrequest
    exact ⟨hrequest, rfl, by decide +kernel, not_addresses_of_strays hstrays⟩
  · have hrequest : localClient.request (.delete dots.indexName) =
        .ok ⟨.delete, { localClient.base with path := .segments [""] }, some contentType, []⟩ :=
      eq_ok_of_toOption (by decide +kernel)
    have hstrays := strays_of_dots hpath rfl (.inr rfl) hrequest
    exact ⟨hrequest, rfl, by decide +kernel, not_addresses_of_strays hstrays⟩

end Reindex.Search
