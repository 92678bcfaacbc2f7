import RecordDesk.Proofs.Form.Untouched
import RecordDesk.Proofs.Metadata.Wire
import RecordDesk.Proofs.Text.Cutting
import RecordDesk.Web.Document

/-!
A service that answers a payload with the payload's own body, and puts the id into it, is understood:
its document is read as the record that the payload describes (`toRecord_document`). Only the title of a
log may differ, because the title of the document is the first line of the content, and that of the
payload all of it.

What the reader looks up in the entries of a document is collected in `Carries`: whatever the kind, a
document that carries a record is read as that record (`toRecord_documentOf`). What is left are
the entries of the five payloads.
-/

namespace RecordDesk

/-- The document that a service makes of a payload: its body with the id put in. -/
def Payload.document (id : String) (p : Payload) : Json :=
  match p.body with
  | .object entries => .object (Keyed.insert "id" (.text id) entries)
  | v => v

namespace Text

/-- The first line of a text, without its end. -/
def firstLine (s : String) : String := ((lines s).head?).getD ""

/-- A text without a line feed is its own first line. -/
theorem firstLine_of_not_mem {s : String} (h : '\n' ∉ s.toList) : firstLine s = s := by
  have hpieces : pieces (· == '\n') s.toList = [s.toList] := by
    refine pieces_of_not fun c hc => ?_
    have hne : c ≠ '\n' := fun he => h (he ▸ hc)
    simp [hne]
  unfold firstLine lines lineList
  rw [hpieces]
  by_cases hs : s.toList = []
  · have hempty : s = "" := String.toList_eq_nil_iff.1 hs
    rw [hempty]
    rfl
  · simp [hs]

end Text

namespace Web

/-- The entries that are not declared, sorted, and with the objects in them sorted. -/
def restOf (entries : List (String × Json)) : List (String × Json) :=
  Keyed.ofList (Json.normalEntries (entries.filter fun e => !declaredKeys.contains e.1))

/-- The entries of a document hold a record: all of it but the title, and no time stamp. -/
structure Carries (entries : List (String × Json)) (tags scopes : List String) (r : Record) : Prop where
  ascending : Keyed.Ascending entries
  id : Keyed.find? "id" entries = some (.text r.id)
  status : Keyed.find? "status" entries = some (.text r.status.name)
  tagTexts : optionalTexts? (Keyed.find? "tags" entries) = some tags
  tagSet : .ofList tags = r.tags
  scopeTexts : optionalTexts? (Keyed.find? "scopes" entries) = some scopes
  scopeSet : .ofList scopes = r.scopes
  metadata : Keyed.find? (if r.kind = .relationships then "properties" else "metadata") entries =
    some r.metadata.toJson
  fields : (attributeKeys r.kind).filterMap (fun key =>
    (((Keyed.find? key entries).map Json.normal).bind fieldText?).map fun s => (key, s)) = r.fields
  unstamped : ∀ key ∈ ["updated_at", "created_at", "at"], Keyed.find? key entries = none
  updatedAt : r.updatedAt = none

/-- The document that such entries are read as. -/
def documentOf (entries : List (String × Json)) (tags scopes : List String) (r : Record) :
    RecordDocument where
  id := r.id
  status := some r.status.name
  tags := tags
  scopes := scopes
  metadata := ((Keyed.find? "metadata" entries).getD .null).normal
  properties := ((Keyed.find? "properties" entries).getD .null).normal
  updatedAt := none
  createdAt := none
  rest := restOf entries

variable {entries : List (String × Json)} {tags scopes : List String} {r : Record}

/-! ## Looking up -/

theorem declared?_of_ascending (h : Keyed.Ascending entries) (key : String) :
    declared? key entries = some (Keyed.find? key entries) := by
  unfold declared?
  rw [Keyed.filter_of_ascending h]
  cases Keyed.find? key entries with
  | none => rfl
  | some v => rfl

theorem find?_restOf (h : Keyed.Ascending entries) {key : String}
    (hkey : declaredKeys.contains key = false) :
    Keyed.find? key (restOf entries) = (Keyed.find? key entries).map Json.normal := by
  have hfilter : Keyed.Ascending (entries.filter fun e => !declaredKeys.contains e.1) := h.filter _
  have hnot : (!declaredKeys.contains key) = true := by rw [hkey]; rfl
  unfold restOf
  rw [Keyed.ofList_of_ascending (Json.ascending_normalEntries hfilter), Json.find?_normalEntries]
  exact congrArg _ (Keyed.find?_filter (p := fun k => !declaredKeys.contains k) hnot entries)

theorem not_declared_of_mem_attributeKeys {kind : Kind} {key : String} (h : key ∈ attributeKeys kind) :
    declaredKeys.contains key = false := by
  revert key
  cases kind <;> decide

theorem ofName?_name (s : Status) : Status.ofName? s.name = some s := by
  cases s <;> rfl

/-! ## A document that carries a record -/

theorem ofEntries?_eq_documentOf (h : Carries entries tags scopes r) :
    RecordDocument.ofEntries? entries = some (documentOf entries tags scopes r) := by
  have hstamps := h.unstamped
  simp only [List.forall_mem_cons] at hstamps
  obtain ⟨hupdated, hcreated, -⟩ := hstamps
  simp only [RecordDocument.ofEntries?, declared?_of_ascending h.ascending, h.id, h.status, h.tagTexts,
    h.scopeTexts, hupdated, hcreated, optionalText?, idText?, Option.bind_eq_bind, Option.bind_some]
  rfl

theorem structured_documentOf (h : Carries entries tags scopes r) :
    (documentOf entries tags scopes r).structured r.kind = r.metadata.toJson.normal := by
  have hmetadata := h.metadata
  unfold RecordDocument.structured
  split
  · next hk =>
    rw [if_pos hk] at hmetadata
    exact congrArg (fun v => (v.getD Json.null).normal) hmetadata
  · next hk =>
    rw [if_neg hk] at hmetadata
    exact congrArg (fun v => (v.getD Json.null).normal) hmetadata

theorem stamp?_documentOf (h : Carries entries tags scopes r) :
    (documentOf entries tags scopes r).stamp? = none := by
  have hat : Keyed.find? "at" entries = none := h.unstamped "at" (by simp)
  show (Keyed.find? "at" (restOf entries)).bind text? = none
  rw [find?_restOf h.ascending (by decide), hat]
  rfl

theorem fields_documentOf (h : Carries entries tags scopes r) :
    (documentOf entries tags scopes r).fields r.kind = r.fields := by
  rw [← h.fields]
  unfold RecordDocument.fields
  refine List.filterMap_congr fun key hkey => ?_
  show ((Keyed.find? key (restOf entries)).bind fieldText?).map _ = _
  rw [find?_restOf h.ascending (not_declared_of_mem_attributeKeys hkey)]

/-- It is the record that the entries carry, under the title that its attributes make. -/
theorem toRecord_documentOf (h : Carries entries tags scopes r) (hm : r.metadata.Portable) :
    (documentOf entries tags scopes r).toRecord r.kind =
      .ok { r with title := titleOf r.kind r.fields } := by
  unfold RecordDocument.toRecord
  rw [structured_documentOf h, Metadata.Tree.ofJson?_toJson hm, fields_documentOf h, stamp?_documentOf h]
  show Except.ok { Record.named r.kind r.id (titleOf r.kind r.fields) with
    fields := r.fields, metadata := r.metadata, updatedAt := none
    status := (Status.ofName? r.status.name).getD .active
    tags := .ofList tags, scopes := .ofList scopes } = _
  rw [ofName?_name, h.tagSet, h.scopeSet, h.updatedAt]
  rfl

/-! ## Payloads -/

theorem optionalTexts?_textItems (names : List String) :
    optionalTexts? (some (Payload.textItems names)) = some names := by
  show (names.map Json.text).mapM text? = some names
  induction names with
  | nil => rfl
  | cons s names ih =>
    rw [List.map_cons, List.mapM_cons, ih]
    rfl

/-- A document has the id, and besides it what the body has. -/
theorem find?_document {key : String} (h : key ≠ "id") (id : String) (p : Payload) :
    Keyed.find? key (Keyed.insert "id" (.text id) (Keyed.ofList p.entries)) =
      Keyed.find? key p.entries.reverse := by
  rw [Keyed.find?_insert_ne h, Keyed.find?_ofList]

theorem carries_document (id : String) (p : Payload) :
    Carries (Keyed.insert "id" (.text id) (Keyed.ofList p.entries)) p.tags p.scopes (p.toRecord id) where
  ascending := Keyed.ascending_insert _ _ (Keyed.ascending_ofList _)
  id := by
    rw [Keyed.find?_insert_self]
    cases p <;> rfl
  status := by
    rw [find?_document (by decide)]
    cases p <;> rfl
  tagTexts := by
    rw [find?_document (by decide)]
    cases p with
    | relationship => rfl
    | entity | job | log | protocol => exact optionalTexts?_textItems _
  tagSet := by cases p <;> rfl
  scopeTexts := by
    rw [find?_document (by decide)]
    cases p with
    | entity => exact optionalTexts?_textItems _
    | relationship | job | log | protocol => rfl
  scopeSet := by cases p <;> rfl
  metadata := by
    rw [find?_document (by split <;> decide)]
    cases p <;> rfl
  fields := by
    have hbody : ∀ key ∈ attributeKeys (p.toRecord id).kind,
        Keyed.find? key (Keyed.insert "id" (.text id) (Keyed.ofList p.entries)) =
          Keyed.find? key p.entries.reverse := by
      intro key hkey
      refine find?_document ?_ id p
      rintro rfl
      exact absurd (not_declared_of_mem_attributeKeys hkey) (by decide)
    rw [List.filterMap_congr fun key hkey => by rw [hbody key hkey]]
    cases p <;> rfl
  unstamped := by
    simp only [List.forall_mem_cons]
    rw [find?_document (by decide), find?_document (by decide), find?_document (by decide)]
    cases p <;> exact ⟨rfl, rfl, rfl, List.forall_mem_nil _⟩
  updatedAt := by cases p <;> rfl

/-- The document of a payload is read as its record, under the title that the attributes make. -/
theorem exists_document (id : String) (p : Payload) (h : p.metadata.Portable) :
    ∃ d, RecordDocument.ofJson? (p.document id) = some d ∧ d.toRecord p.kind =
      .ok { p.toRecord id with title := titleOf p.kind (p.toRecord id).fields } := by
  have hcarries := carries_document id p
  refine ⟨_, ofEntries?_eq_documentOf hcarries, ?_⟩
  cases p with
  | entity | relationship | job | log | protocol => exact toRecord_documentOf hcarries h

theorem titleOf_toRecord (id : String) (p : Payload) :
    titleOf p.kind (p.toRecord id).fields =
      if p.kind = .logs then Text.firstLine (p.toRecord id).title else (p.toRecord id).title := by
  cases p <;> rfl

/-- The document of a payload is read as the record that the payload describes, but for the title of a
log with a line feed in its content, of which it has the first line. -/
theorem toRecord_document (id : String) (p : Payload) (h : p.metadata.Portable) :
    let r := p.toRecord id
    ∃ d, RecordDocument.ofJson? (p.document id) = some d ∧
      d.toRecord p.kind = .ok (if p.kind = .logs ∧ '\n' ∈ r.title.toList then
        { r with title := Text.firstLine r.title } else r) := by
  intro r
  obtain ⟨d, hread, hrecord⟩ := exists_document id p h
  refine ⟨d, hread, ?_⟩
  rw [hrecord, titleOf_toRecord id p]
  by_cases hlog : p.kind = .logs
  · by_cases hfeed : '\n' ∈ r.title.toList
    · rw [if_pos hlog, if_pos ⟨hlog, hfeed⟩]
    · rw [if_pos hlog, if_neg fun h => hfeed h.2, Text.firstLine_of_not_mem hfeed]
  · rw [if_neg hlog, if_neg fun h => hlog h.1]

/-- A meeting is logged, with what came of it on a second line. -/
def meeting : Payload :=
  .log ⟨"meeting", "Weekly sync\nShip on Monday", .active, ["ops", "ai"],
    [("guests", .list [.text "web", .int 2]), ("place", .tree [("floor", .int 3)]),
      ("share", .real ⟨0x3FB999999999999A⟩)]⟩

theorem toRecord_document_meeting :
    meeting.metadata.Portable ∧ ∃ d, RecordDocument.ofJson? (meeting.document "log-1") = some d ∧
      d.toRecord .logs = .ok { meeting.toRecord "log-1" with title := "Weekly sync" } := by
  have hportable : meeting.metadata.Portable := by decide
  obtain ⟨d, hread, hrecord⟩ := toRecord_document "log-1" meeting hportable
  exact ⟨hportable, d, hread, hrecord⟩

/-- A line feed at the end of the content is enough for another title, although there is only one
line. -/
theorem toRecord_document_ne :
    let p := Payload.log ⟨"note", "Note\n", .active, [], []⟩
    p.metadata.Portable ∧ Text.lines "Note\n" = ["Note"] ∧
      ∃ d r, RecordDocument.ofJson? (p.document "x") = some d ∧ d.toRecord .logs = .ok r ∧
        r.title = "Note" ∧ (p.toRecord "x").title = "Note\n" ∧ r ≠ p.toRecord "x" := by
  intro p
  have hportable : p.metadata.Portable := by decide
  have hlines : Text.lines "Note\n" = ["Note"] := by decide
  obtain ⟨d, hread, hrecord⟩ := exists_document "x" p hportable
  have htitle : titleOf .logs (p.toRecord "x").fields = "Note" := by
    show ((Text.lines "Note\n").head?).getD "" = "Note"
    rw [hlines]
    rfl
  refine ⟨hportable, hlines, d, _, hread, hrecord, htitle, rfl, fun hr => ?_⟩
  have hsame := congrArg Record.title hr
  exact absurd (htitle.symm.trans hsame) (by decide)

end Web

end RecordDesk
