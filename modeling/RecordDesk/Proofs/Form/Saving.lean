import RecordDesk.Proofs.Form.PlainFields

/-!
When a form in which nothing was changed can be saved. What refuses it are a required text that is missing, a protocol's
name with white space in it, ends of a relationship that are missing or the same, and a tree that is not read from
its own text. Where none of these is the case and the texts have no white space around them, the record that the form
saves shows what the record in the form shows (`Record.Savable.savesItself`).
-/

namespace RecordDesk

/-- The form of a record can be saved as it is, and what it saves has the title, the state, the tags and the metadata
of the record. -/
def Kind.SavesItself (k : Kind) (r : Record) : Prop :=
  ∃ p, k.buildPayload (k.seedForm r) (some r) = .ok p ∧ (p.toRecord r.id).title = r.title ∧
    (p.toRecord r.id).status = r.status ∧ (p.toRecord r.id).tags = r.tags ∧ (p.toRecord r.id).metadata = r.metadata

/-- The field of a form that holds the title of the record. -/
def Kind.titleKey : Kind → String
  | .entities => "name"
  | .relationships => "relationship_type"
  | .jobs => "title"
  | .logs => "content"
  | .protocols => "name"
  | .history => ""

/-- The fields that must not be blank. -/
def Kind.requiredKeys (k : Kind) : List String := (k.formFields.filter FieldSpec.required).map FieldSpec.key

/-- Nothing in a record keeps its form from being saved, and its title is the text of a field. -/
structure Record.Savable (r : Record) (k : Kind) : Prop where
  editable : k ≠ .history
  title : r.title = r.fieldText k.titleKey
  tight : ∀ key ∈ k.requiredKeys, Text.IsTight (r.fieldText key).toList
  solid : k = .protocols → ∀ c ∈ (r.fieldText "name").toList, Text.isBlank c = false := by nofun
  ends : k = .relationships → r.fieldText "source_id" ≠ "" ∧ r.fieldText "target_id" ≠ "" ∧
    r.fieldText "source_id" ≠ r.fieldText "target_id" := by nofun
  tags : k = .relationships → r.tags = .empty := by nofun
  metadata : k ≠ .relationships → Metadata.Tree.read r.metadata.write = .ok r.metadata
  properties : k = .relationships → Metadata.Tree.readProperties r.metadata.propertiesText = .ok r.metadata := by nofun

/-- A payload of which no condition fails can be sent. -/
theorem Payload.checked_of_checks {p : Payload} (h : ∀ c ∈ p.checks, c.1 = false) : p.checked = .ok p := by
  have hfault : p.fault? = none := by
    unfold fault?
    rw [Option.map_eq_none_iff, List.find?_eq_none]
    exact fun c hc => Bool.eq_false_iff.1 (h c hc)
  unfold checked
  rw [hfault]

namespace Record.Savable

variable {k : Kind} {r : Record}

theorem isTight (h : r.Savable k) (key label : String) (hspec : .ofText key label true ∈ k.formFields) :
    Text.IsTight (r.fieldText key).toList :=
  h.tight key (List.mem_map.2 ⟨_, List.mem_filter.2 ⟨hspec, rfl⟩, rfl⟩)

theorem isBlankText_eq (h : r.Savable k) (key label : String) (hspec : .ofText key label true ∈ k.formFields) :
    Text.isBlankText (r.fieldText key) = false := (h.isTight key label hspec).isBlankText_eq

theorem requiredText_eq (h : r.Savable k) (key label : String) (hspec : .ofText key label true ∈ k.formFields) :
    ((k.seedForm r).requiredText key).mapError FormError.field = .ok (r.fieldText key) := by
  have htight := h.isTight key label hspec
  have htext : (k.seedForm r).text key = r.fieldText key := Kind.fieldText_seedForm hspec rfl r
  have hne : (r.fieldText key).isEmpty = false := by simpa using htight.ne_empty
  unfold Form.requiredText
  rw [htext, htight.trim_eq]
  split
  · simp only [hne, Bool.false_and, Bool.false_eq_true, if_false]
    rfl
  · rfl

theorem tree_metadata_eq (h : r.Savable k) (hk : k ∈ Kind.withMetadata) :
    ((k.seedForm r).tree .metadata "metadata").mapError FormError.field = .ok r.metadata := by
  have hproperties : k ≠ .relationships := by
    rintro rfl
    exact absurd hk (by decide)
  unfold Form.tree
  rw [Kind.text_seedForm hk, h.metadata hproperties]
  rfl

theorem tree_properties_eq (h : r.Savable .relationships) :
    ((Kind.relationships.seedForm r).tree .json "properties").mapError FormError.field = .ok r.metadata := by
  have hfind := Kind.find?_seedForm (show FieldSpec.properties ∈ Kind.relationships.formFields by decide) r
  have htext : (Kind.relationships.seedForm r).text "properties" = r.metadata.propertiesText := by
    unfold Form.text
    rw [show "properties" = FieldSpec.properties.key from rfl, hfind]
    rfl
  unfold Form.tree
  rw [htext, h.properties rfl]
  rfl

/-- A form that can be saved saves what its record shows. -/
theorem savesItself (h : r.Savable k) : k.SavesItself r := by
  have hstatus := Kind.status_seedForm (Kind.status_mem_formFields h.editable) r
  have htags (hk : k ≠ .relationships) : NameSet.ofList ((k.seedForm r).labels "tags") = r.tags := by
    rw [Kind.tags_seedForm (Kind.tags_mem_formFields h.editable hk), NameSet.ofList_toList]
  unfold Kind.SavesItself
  generalize hf : k.seedForm r = f at hstatus htags
  cases k with
  | entities =>
    have hname := h.requiredText_eq "name" "Name" (by decide)
    have htype := h.requiredText_eq "type" "Type" (by decide)
    have htree := h.tree_metadata_eq (by decide)
    rw [hf] at hname htype htree
    refine ⟨.entity ⟨r.fieldText "name", r.fieldText "type", f.status, f.labels "tags", f.labels "scopes", r.metadata⟩,
      ?_, h.title.symm, hstatus, htags (by decide), rfl⟩
    simp only [Kind.buildPayload, hname, htype, htree]
    refine Payload.checked_of_checks ?_
    simp [Payload.checks, h.isBlankText_eq "name" "Name" (by decide),
      h.isBlankText_eq "type" "Type" (by decide)]
  | relationships =>
    have htype := h.requiredText_eq "relationship_type" "Type" (by decide)
    have htree := h.tree_properties_eq
    obtain ⟨hsource, htarget, hne⟩ := h.ends rfl
    rw [hf] at htype htree
    refine ⟨.relationship ⟨r.fieldText "source_id", r.fieldText "target_id", r.fieldText "relationship_type", f.status,
      r.metadata⟩, ?_, h.title.symm, hstatus, (h.tags rfl).symm, rfl⟩
    simp only [Kind.buildPayload, htype, htree]
    refine Payload.checked_of_checks ?_
    simp [Payload.checks, h.isBlankText_eq "relationship_type" "Type" (by decide), hsource, htarget, hne]
  | jobs =>
    have htitle := h.requiredText_eq "title" "Title" (by decide)
    have htree := h.tree_metadata_eq (by decide)
    rw [hf] at htitle htree
    refine ⟨.job ⟨r.fieldText "title", Text.trim (f.text "description"), f.priority, f.status, f.labels "tags",
      r.metadata⟩, ?_, h.title.symm, hstatus, htags (by decide), rfl⟩
    simp only [Kind.buildPayload, htitle, htree]
    refine Payload.checked_of_checks ?_
    simp [Payload.checks, h.isBlankText_eq "title" "Title" (by decide)]
  | logs =>
    have htype := h.requiredText_eq "log_type" "Log type" (by decide)
    have hcontent := h.requiredText_eq "content" "Content" (by decide)
    have htree := h.tree_metadata_eq (by decide)
    rw [hf] at htype hcontent htree
    refine ⟨.log ⟨r.fieldText "log_type", r.fieldText "content", f.status, f.labels "tags", r.metadata⟩, ?_,
      h.title.symm, hstatus, htags (by decide), rfl⟩
    simp only [Kind.buildPayload, htype, hcontent, htree]
    refine Payload.checked_of_checks ?_
    simp [Payload.checks, h.isBlankText_eq "log_type" "Log type" (by decide),
      h.isBlankText_eq "content" "Content" (by decide)]
  | protocols =>
    have hname := h.requiredText_eq "name" "Name" (by decide)
    have hcontent := h.requiredText_eq "content" "Content" (by decide)
    have htree := h.tree_metadata_eq (by decide)
    rw [hf] at hname hcontent htree
    refine ⟨.protocol ⟨r.fieldText "name", Text.trim (f.text "title"), Text.trim (f.text "version"),
      r.fieldText "content", f.status, f.labels "tags", r.metadata⟩, ?_, h.title.symm, hstatus, htags (by decide), rfl⟩
    simp only [Kind.buildPayload, hname, hcontent, htree]
    refine Payload.checked_of_checks ?_
    simpa [Payload.checks, h.isBlankText_eq "name" "Name" (by decide),
      h.isBlankText_eq "content" "Content" (by decide)] using h.solid rfl
  | history => exact absurd rfl h.editable

end Record.Savable

end RecordDesk
