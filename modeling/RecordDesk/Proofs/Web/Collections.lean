import RecordDesk.Proofs.Web.Seamless

/-!
The two ways to the records of a kind. Lists are asked for, and records created and changed together, at the address
that is read from the text of the base with the name of the kind behind it; single records have theirs under the name as
a segment of the base itself. For a base of the web the two are the same exactly when its text is seamless
(`addresses_agree_iff`): a query or a fragment, a blank at the end, or an empty segment sends the calls of one client to
different places (`lists_apart_from_records`).
-/

namespace RecordDesk.Web.Client

variable {c : Client} {parts : List (List Char)}

/-- The text of the base can be written on. -/
def Seamless (c : Client) : Prop := Url.Seamless c.baseUrl c.base

/-- Both ways to the records of a kind give the same address. -/
def Agrees (c : Client) (kind : Kind) : Prop :=
  ∃ u, Url.read (c.urlText kind.name) = .ok u ∧ c.segmentUrl [kind.name] = .ok u

theorem name_ne_empty (kind : Kind) : kind.name ≠ "" := by
  cases kind <;> decide

theorem segmentUrl_name (hparts : c.base.path = .segments parts) (kind : Kind) :
    c.segmentUrl [kind.name] = .ok (c.base.withPath (folder parts kind)) := by
  unfold segmentUrl Url.extend?
  rw [hparts]
  simp only [List.map_cons, List.map_nil, List.foldl_cons, List.foldl_nil, pushSegment_of_isLower (isLower_name kind)]
  rfl

theorem read_name (h : c.Seamless) (hparts : c.base.path = .segments parts) (kind : Kind) :
    Url.read (c.urlText kind.name) = .ok (c.base.withPath (folder parts kind)) := by
  rw [urlText_name]
  exact Url.read_append c.read_baseUrl h (isLower_name kind) hparts

theorem urlText_bulk (c : Client) (kind : Kind) :
    c.urlText (kind.name ++ "/bulk") = c.urlText kind.name ++ "/" ++ "bulk" := by
  have htext : c.urlText (kind.name ++ "/bulk") = c.baseUrl ++ "/" ++ (kind.name ++ ("/" ++ "bulk")) := by
    cases kind <;> rfl
  rw [htext, urlText_name]
  simp only [String.append_assoc]

theorem stem_folder (parts : List (List Char)) (kind : Kind) : Url.stem (folder parts kind) = folder parts kind :=
  stem_concat (fun hempty => name_ne_empty kind (String.toList_inj.1 hempty)) _

/-- The name behind the text of the base can be written on in turn. -/
theorem read_bulk (h : c.Seamless) (hparts : c.base.path = .segments parts) (kind : Kind) :
    Url.read (c.urlText (kind.name ++ "/bulk")) =
      .ok (c.base.withPath (folder parts kind ++ ["bulk".toList])) := by
  have hlonger : Url.Seamless (c.urlText kind.name) (c.base.withPath (folder parts kind)) := by
    rw [urlText_name]
    exact Url.Seamless.append c.read_baseUrl h (isLower_name kind) (name_ne_empty kind)
  have hname : ∀ d ∈ "bulk".toList, d.isLower = true := List.all_eq_true.1 (by decide)
  rw [urlText_bulk, Url.read_append (read_name h hparts kind) hlonger hname rfl, stem_folder]
  rfl

theorem seamless_of_agrees (hhttp : c.base.isHttp = true) {kind : Kind} (h : c.Agrees kind) : c.Seamless := by
  obtain ⟨u, hread, hsegment⟩ := h
  obtain ⟨parts, hparts⟩ := Url.exists_segments_of_isHttp c.read_baseUrl hhttp
  rw [urlText_name] at hread
  rw [segmentUrl_name hparts] at hsegment
  exact Url.seamless_of_read_append c.read_baseUrl hhttp hparts (isLower_name kind) hread (Except.ok.inj hsegment).symm

/-! ## Where the calls go -/

theorem url?_query {kind : Kind} {u : Url} (h : Url.read (c.urlText kind.name) = .ok u) (hu : u.isHttp = true)
    (filter : QueryFilter) : (c.query kind filter).url? = some (u.addPairs (c.queryPairs filter)) := by
  have hpairs : (u.addPairs (c.queryPairs filter)).isHttp = true := hu
  unfold query
  rw [h]
  exact url?_send hpairs _ _ _

theorem url?_create {p : Payload} {u : Url} (h : Url.read (c.urlText p.kind.name) = .ok u) (hu : u.isHttp = true)
    (hp : p.fault? = none) : (c.create p).url? = some u := by
  unfold create Client.url?
  rw [hp, h]
  exact url?_send hu _ _ _

theorem url?_bulkUpdate {kind : Kind} {u : Url} (h : Url.read (c.urlText (kind.name ++ "/bulk")) = .ok u)
    (hu : u.isHttp = true) {ids : List String} (hids : ids ≠ []) (edit : BulkEdit) :
    (c.bulkUpdate kind ids edit).url? = some u := by
  unfold bulkUpdate Client.url?
  rw [if_neg (by simpa using hids), h]
  exact url?_send hu _ _ _

/-- All calls about the records of a kind go to one path: its list and what is created there to the path itself, changes
to many records right below it, and everything about one record at its segment below it. -/
structure Gathers (c : Client) (parts : List (List Char)) (kind : Kind) : Prop where
  query : ∀ filter, (c.query kind filter).url? =
    some ((c.base.withPath (folder parts kind)).addPairs (c.queryPairs filter))
  create : ∀ p : Payload, p.kind = kind → p.fault? = none →
    (c.create p).url? = some (c.base.withPath (folder parts kind))
  bulkUpdate : ∀ ids edit, ids ≠ [] →
    (c.bulkUpdate kind ids edit).url? = some (c.base.withPath (folder parts kind ++ ["bulk".toList]))
  get : ∀ id, (c.get kind id).url? = some (c.base.withPath (c.recordPath parts kind id))
  update : ∀ id body json, updateBody body = .ok json →
    (c.update kind id body).url? = some (c.base.withPath (c.recordPath parts kind id))

theorem gathers_of_seamless (h : c.Seamless) (hhttp : c.base.isHttp = true) (hparts : c.base.path = .segments parts)
    (kind : Kind) : c.Gathers parts kind where
  query filter := url?_query (read_name h hparts kind) hhttp filter
  create := by
    rintro p rfl hp
    exact url?_create (read_name h hparts p.kind) hhttp hp
  bulkUpdate ids edit hids := url?_bulkUpdate (read_bulk h hparts kind) hhttp hids edit
  get id := url?_get (segmentUrl_record hparts kind id) hhttp
  update id body json hbody := url?_update (segmentUrl_record hparts kind id) hhttp hbody

/-- If the text of the base is seamless, then it gives the same address with the name of a kind behind it as its path
with the name put in, and for the web only then. All calls about the records of the kind then go to one path. -/
theorem addresses_agree_iff (c : Client) (kind : Kind) :
    (c.Seamless → c.Agrees kind) ∧ (c.base.isHttp = true → (c.Agrees kind ↔ c.Seamless)) ∧
      (c.Seamless → c.base.isHttp = true → ∃ parts, c.base.path = .segments parts ∧ c.Gathers parts kind) := by
  have hagrees (h : c.Seamless) : c.Agrees kind := by
    obtain ⟨parts, hparts, -⟩ := h.path
    exact ⟨_, read_name h hparts kind, segmentUrl_name hparts kind⟩
  refine ⟨hagrees, fun hhttp => ⟨seamless_of_agrees hhttp, hagrees⟩, fun h hhttp => ?_⟩
  obtain ⟨parts, hparts, -⟩ := h.path
  exact ⟨parts, hparts, gathers_of_seamless h hhttp hparts kind⟩

theorem loopback_seamless : loopback.Seamless where
  query := rfl
  fragment := rfl
  path := ⟨_, rfl, by decide⟩
  blanks := by decide +kernel
  slash := by
    have hlast : (Url.stripped loopback.baseUrl.toList).getLast? = some 'i' := by decide +kernel
    intro c hc
    cases hlast.symm.trans hc
    rfl
  host := .inl (by decide)

theorem addresses_agree_loopback :
    loopback.Agrees .jobs ∧ ∃ parts, loopback.base.path = .segments parts ∧ loopback.Gathers parts .jobs := by
  obtain ⟨hagrees, -, hgathers⟩ := addresses_agree_iff loopback .jobs
  exact ⟨hagrees loopback_seamless, hgathers loopback_seamless rfl⟩

/-- The client of a server with a query in its address. -/
def versioned : Client :=
  { loopback with
    baseUrl := "http://127.0.0.1/api?v=1"
    base := { loopback.base with query := some "v=1".toList }
    read_baseUrl := by decide +kernel }

/-- The client of a server with a blank behind its address. -/
def spaced : Client :=
  { loopback with
    baseUrl := "http://127.0.0.1:1 "
    base := { loopback.base with portNumber := some 1, path := .segments [[]] }
    read_baseUrl := by decide +kernel }

/-- The query of a base takes in the name of the kind, and a blank spoils the port number, but only for lists. -/
theorem lists_apart_from_records :
    (¬ ∀ (c : Client) (kind : Kind), c.base.isHttp = true → c.Agrees kind) ∧
      (versioned.query .jobs ⟨"", false⟩).url?.map Url.target = some "/api?v=1/jobs&limit=10" ∧
      (versioned.get .jobs "a").url?.map Url.target = some "/api/jobs/a?v=1" ∧
      Url.read (spaced.urlText "jobs") = .error .portNumber ∧
      (spaced.get .jobs "a").url?.map Url.target = some "/jobs/a" := by
  have hrefused : Url.read (spaced.urlText "jobs") = .error .portNumber := by decide +kernel
  refine ⟨fun h => ?_, by decide +kernel, by decide +kernel, hrefused, by decide +kernel⟩
  obtain ⟨u, hread, -⟩ := h spaced .jobs rfl
  cases hrefused.symm.trans hread

end RecordDesk.Web.Client
