import Reindex.Proofs.Search.Bulk
import Reindex.Search.Index

/-!
# Requests read back

What a service below a base makes of a request, by method, path and body alone.  The request of a
call is read as that call, if the name and the values in it are ones that requests carry.
-/

namespace Reindex.Search

open Http (Request)

/-! ## Paths -/

/-- The name that a segment of a path stands for. -/
def segmentName? (segment : String) : Option String :=
  Utf8.decode? (Text.percentDecode segment.toList)

/-- The segments of a path below the directory of a base. -/
def segmentsBelow? (base url : Url) : Option (List String) :=
  match base.path, url.path with
  | .segments directory, .segments list =>
    if list.take directory.dropLast.length = directory.dropLast then
      some (list.drop directory.dropLast.length)
    else none
  | _, _ => none

theorem segmentName?_indexSegment (name : String) :
    segmentName? (indexSegment name) = some name := by
  unfold segmentName?
  rw [percentDecode_indexSegment]
  unfold utf8
  rw [Utf8.decode?_encode, String.ofList_toList]

theorem segmentsBelow?_descend {base : Url} {before : List String}
    (hpath : base.path = .segments (before ++ [""])) (segments : List String) :
    segmentsBelow? base (base.descend segments) = some segments := by
  have hdescend : (base.descend segments).path = .segments (before ++ segments) := by
    unfold Url.descend
    rw [hpath]
    dsimp only
    rw [List.dropLast_concat]
  unfold segmentsBelow?
  rw [hpath, hdescend]
  dsimp only
  rw [List.dropLast_concat, List.take_left, List.drop_left, if_pos rfl]

theorem segmentsBelow?_base {base : Url} {before : List String}
    (hpath : base.path = .segments (before ++ [""])) :
    segmentsBelow? base base.withoutFragment = some [""] := by
  have hbase : base.withoutFragment.path = .segments (before ++ [""]) := hpath
  unfold segmentsBelow?
  rw [hpath, hbase]
  dsimp only
  rw [List.dropLast_concat, List.take_left, List.drop_left, if_pos rfl]

/-! ## Calls -/

/-- The call that a request with a method and a body asks for, at a place below the base. -/
def callAt? (method : Http.Method) (body : Bytes) : List String → Option Call
  | [segment] =>
    match method with
    | .head => if segment = "" then some .ping else (segmentName? segment).map .exists
    | .delete => (segmentName? segment).map .delete
    | .put => do
      let name ← segmentName? segment
      let value ← (Json.parse body).toOption
      some (.create name value)
    | _ => none
  | [segment, operation] =>
    match method with
    | .post => do
      let name ← segmentName? segment
      let items ← bulkItems? body
      if operation = "_bulk" ∧ items.all (·.1 == name) then
        some (.bulk name (items.map Prod.snd))
      else none
    | .get => if operation = "_count" then (segmentName? segment).map .count else none
    | _ => none
  | _ => none

/-- The call that a request to a service below a base asks for. -/
def callOf? (base : Url) (r : Request) : Option Call :=
  (segmentsBelow? base r.url).bind (callAt? r.method r.body)

/-- All values that the request of a call carries are read back as they are. -/
def Call.Portable : Call → Prop
  | .create _ body => Json.Portable Json.maxDepth body
  | .bulk _ records => ∀ r ∈ records, Json.Portable Json.maxDepth r.toJson
  | _ => True

/-- The built-in mapping is read back as it is. -/
theorem portable_movieMapping : Json.Portable Json.maxDepth IndexConfig.movieMapping := by
  have hmapped : ∀ type : String, Json.Portable 124 (IndexConfig.mapped type) := fun type =>
    Json.portable_ofPairs (List.forall_mem_singleton.mpr trivial)
  have hproperties : Json.Portable 125 (Json.ofPairs
      [("title", IndexConfig.mapped "text"), ("year", IndexConfig.mapped "integer"),
        ("cast", IndexConfig.mapped "keyword"), ("genres", IndexConfig.mapped "keyword"),
        ("directors", IndexConfig.mapped "keyword")]) := by
    apply Json.portable_ofPairs
    simp only [List.forall_mem_cons, hmapped, List.not_mem_nil, false_implies, implies_true,
      and_self]
  unfold IndexConfig.movieMapping
  refine Json.portable_ofPairs (List.forall_mem_singleton.mpr ?_)
  refine Json.portable_ofPairs (List.forall_mem_singleton.mpr ?_)
  exact hproperties

theorem callAt?_segments {c : Call} (hping : c ≠ .ping)
    (hindex : ∀ index, c.index? = some index → Nameable index) (hportable : c.Portable) :
    callAt? c.method c.body c.segments = some c := by
  unfold callAt?
  cases c with
  | ping => exact absurd rfl hping
  | «exists» index =>
    have hne : indexSegment index ≠ "" := fun hempty =>
      (plain_indexSegment (hindex index rfl)).ne_nil (String.toList_eq_nil_iff.mpr hempty)
    simp only [Call.method, Call.segments]
    rw [if_neg hne, segmentName?_indexSegment, Option.map_some]
  | delete index =>
    simp only [Call.method, Call.segments]
    rw [segmentName?_indexSegment, Option.map_some]
  | create index body =>
    simp only [Call.method, Call.segments, Call.body]
    rw [segmentName?_indexSegment, Json.parse_wireBytes hportable]
    rfl
  | bulk index records =>
    have hitems := bulkItems?_body index hportable
    have hall : (records.map (index, ·)).all (·.1 == index) = true := by
      rw [List.all_eq_true]
      intro item hitem
      obtain ⟨r, -, rfl⟩ := List.mem_map.mp hitem
      exact beq_self_eq_true index
    have hrecords : (records.map (index, ·)).map Prod.snd = records := by
      rw [List.map_map]
      exact List.map_id _
    simp only [Call.method, Call.segments]
    rw [segmentName?_indexSegment, hitems]
    simp only [Option.bind_eq_bind, Option.bind_some, hall, hrecords, and_self, if_true]
  | count index =>
    simp only [Call.method, Call.segments]
    rw [if_pos trivial, segmentName?_indexSegment, Option.map_some]

theorem place_eq_descend {client : Client} {c : Call} (h : c ≠ .ping) :
    client.place c = client.base.descend c.segments := by
  cases c with
  | ping => exact absurd rfl h
  | «exists» | delete | create | bulk | count => rfl

/-- The request of a call is read as that call. -/
theorem callOf?_callRequest {client : Client} {before : List String}
    (hpath : client.base.path = .segments (before ++ [""])) {c : Call}
    (hindex : ∀ index, c.index? = some index → Nameable index) (hportable : c.Portable) :
    callOf? client.base (client.callRequest c) = some c := by
  have hcall : callOf? client.base (client.callRequest c) =
      (segmentsBelow? client.base (client.place c)).bind (callAt? c.method c.body) := rfl
  rw [hcall]
  by_cases hping : c = .ping
  · subst hping
    have hplace : client.place .ping = client.base.withoutFragment := rfl
    rw [hplace, segmentsBelow?_base hpath]
    rfl
  · rw [place_eq_descend hping, segmentsBelow?_descend hpath, Option.bind_some]
    exact callAt?_segments hping hindex hportable

end Reindex.Search
