import RecordDesk.Proofs.Form.Untouched
import RecordDesk.Proofs.Label.Normal

/-!
What becomes of the fields that are not trees, when a form is saved in which nothing was changed. A form finds its
fields by their keys, and a payload names its own by the wire; so that a record comes back as it was, the table of
fields, the seeding, the payload's builder and the body have to agree on each name (`Kind.keeps_of_untouched`).
Texts are trimmed on the way. Labels are not brought into normal form again, also where the record has some that
are not in it.
-/

namespace RecordDesk

namespace Payload

/-- The state that a payload gives its record. -/
def status : Payload → Status
  | .entity d => d.status
  | .relationship d => d.status
  | .job d => d.status
  | .log d => d.status
  | .protocol d => d.status

/-- The priority that a payload sends. -/
def priority? : Payload → Option Priority
  | .job d => some d.priority
  | _ => none

/-- The records that a payload ties together. -/
def ends? : Payload → Option (String × String)
  | .relationship d => some (d.source, d.target)
  | _ => none

/-- The names of texts on the wire that are no text fields of a form. -/
def reservedNames : List String := ["status", "priority", "source_id", "target_id"]

/-- The other texts in the body, by their wire names. -/
def texts (p : Payload) : List (String × String) :=
  p.entries.filterMap fun (name, v) =>
    match v with
    | .text s => if reservedNames.contains name then none else some (name, s)
    | _ => none

/-- Where the fields of a payload come from, but for the tree: from the form, and the ends of a relationship from
the record that is edited. -/
structure TakenFrom (p : Payload) (k : Kind) (f : Form) (r : Record) : Prop where
  status : p.status = f.status
  tags : p.tags = if k = .relationships then [] else f.labels "tags"
  scopes : p.scopes = if k = .entities then f.labels "scopes" else []
  texts : p.texts = (k.formFields.filter (·.kind = .text)).map fun s => (s.key, Text.trim (f.text s.key))
  priority : p.priority? = if k = .jobs then some f.priority else none
  ends : p.ends? = if k = .relationships then some (r.fieldText "source_id", r.fieldText "target_id") else none

/-- A payload of a kind says of a record what the record says of itself, but for the tree. -/
structure Keeps (p : Payload) (k : Kind) (r : Record) : Prop where
  kind : p.kind = k
  status : p.status = r.status
  tags : k ≠ .relationships → p.tags = r.tags.toList
  scopes : k = .entities → p.scopes = r.scopes.toList
  ascending : p.tags.Pairwise (· < ·) ∧ p.scopes.Pairwise (· < ·)
  texts : p.texts = (k.formFields.filter (·.kind = .text)).map fun s => (s.key, Text.trim (r.fieldText s.key))
  priority : k = .jobs → ∃ q, p.priority? = some q ∧
    (r.field? "priority" = some q.name ∨ (∀ q' : Priority, r.field? "priority" ≠ some q'.name) ∧ q = .medium)
  ends : k = .relationships → ∃ source target, p.ends? = some (source, target) ∧
    r.field? "source_id" = some source ∧ r.field? "target_id" = some target

end Payload

/-! ## The fields of a seeded form -/

/-- No two fields of a form have one key. -/
theorem Kind.find?_formFields {k : Kind} {spec : FieldSpec} (h : spec ∈ k.formFields) :
    k.formFields.find? (·.key == spec.key) = some spec := by
  revert spec
  cases k <;> decide

theorem Kind.status_mem_formFields {k : Kind} (h : k ≠ .history) : .status ∈ k.formFields := by
  revert h
  cases k <;> decide

theorem Kind.tags_mem_formFields {k : Kind} (h : k ≠ .history) (h' : k ≠ .relationships) :
    .tags ∈ k.formFields := by
  revert h h'
  cases k <;> decide

variable {k : Kind} {spec : FieldSpec}

theorem Kind.find?_seedForm (h : spec ∈ k.formFields) (r : Record) :
    (k.seedForm r).find? spec.key = some ⟨spec, Form.seed r spec⟩ := by
  unfold seedForm
  rw [Form.find?_seeded, find?_formFields h]
  rfl

theorem Kind.fieldText_seedForm (h : spec ∈ k.formFields) (htext : spec.kind = .text) (r : Record) :
    (k.seedForm r).text spec.key = r.fieldText spec.key := by
  simp [Form.text, find?_seedForm h, Form.seed, htext]

theorem Kind.status_seedForm (h : FieldSpec.status ∈ k.formFields) (r : Record) :
    (k.seedForm r).status = r.status := by
  have hfind := find?_seedForm h r
  change (k.seedForm r).find? "status" = some ⟨.status, .choice statusOptions r.status.index⟩ at hfind
  simp [Form.status, Form.choice, hfind]

theorem Kind.priority_seedForm (h : FieldSpec.priority ∈ k.formFields) (r : Record) :
    (k.seedForm r).priority = ((r.field? "priority").bind Priority.ofName?).getD default := by
  have hfind := find?_seedForm h r
  change (k.seedForm r).find? "priority" = some ⟨.priority, .choice priorityOptions
    (((r.field? "priority").bind Priority.ofName?).getD default).index⟩ at hfind
  simp [Form.priority, Form.choice, hfind]

/-- Labels that come from a record are not brought into normal form. -/
theorem LabelEntry.resolved_of_no_staging (kind : LabelKind) (s : NameSet) :
    (LabelEntry.mk kind s "").resolved = s := by
  simp [resolved, pending?, kind.normal_empty]

theorem Kind.tags_seedForm (h : FieldSpec.tags ∈ k.formFields) (r : Record) :
    (k.seedForm r).labels "tags" = r.tags.toList := by
  have hfind := find?_seedForm h r
  change (k.seedForm r).find? "tags" = some ⟨.tags, .labels ⟨.tag, r.tags, ""⟩⟩ at hfind
  simp [Form.labels, hfind, LabelEntry.resolved_of_no_staging]

theorem Kind.scopes_seedForm (h : FieldSpec.scopes ∈ k.formFields) (r : Record) :
    (k.seedForm r).labels "scopes" = r.scopes.toList := by
  have hfind := find?_seedForm h r
  change (k.seedForm r).find? "scopes" = some ⟨.scopes, .labels ⟨.scope, r.scopes, ""⟩⟩ at hfind
  simp [Form.labels, hfind, LabelEntry.resolved_of_no_staging]

theorem Priority.ofName?_name (q : Priority) : ofName? q.name = some q := by
  cases q <;> decide

theorem Priority.name_of_ofName? {s : String} {q : Priority} (h : ofName? s = some q) : s = q.name :=
  (beq_iff_eq.1 (List.find?_some (p := fun q' : Priority => q'.name == s) h)).symm

/-- A text is the name of its priority, or of none, and then it stands for the default. -/
theorem Priority.name_or_default (s : Option String) :
    s = some ((s.bind ofName?).getD default).name ∨
      (∀ q : Priority, s ≠ some q.name) ∧ (s.bind ofName?).getD default = .medium := by
  cases h : s.bind ofName? with
  | none =>
    refine .inr ⟨?_, rfl⟩
    rintro q rfl
    rw [Option.bind_some, ofName?_name] at h
    cases h
  | some q =>
    obtain ⟨name, hs, hq⟩ := Option.bind_eq_some_iff.1 h
    rw [hs, name_of_ofName? hq]
    exact .inl rfl

/-! ## Payloads -/

theorem Form.eq_of_requiredText {f : Form} {key s : String}
    (h : (f.requiredText key).mapError FormError.field = .ok s) : s = Text.trim (f.text key) := by
  have hs := Metadata.ok_of_mapError_ok h
  unfold requiredText at hs
  dsimp only at hs
  split at hs
  · split at hs
    · cases hs
    · exact (Except.ok.inj hs).symm
  · exact (Except.ok.inj hs).symm

theorem Kind.takenFrom_of_buildPayload {k : Kind} {f : Form} {r : Record} {p : Payload}
    (h : k.buildPayload f (some r) = .ok p) : p.TakenFrom k f r := by
  cases k with
  | entities =>
    obtain ⟨name, hname, h⟩ := Metadata.exists_of_bind_ok h
    obtain ⟨type, htype, h⟩ := Metadata.exists_of_bind_ok h
    obtain ⟨metadata, -, h⟩ := Metadata.exists_of_bind_ok h
    obtain rfl := Form.eq_of_requiredText hname
    obtain rfl := Form.eq_of_requiredText htype
    obtain rfl := Payload.eq_of_checked h
    exact ⟨rfl, rfl, rfl, rfl, rfl, rfl⟩
  | relationships =>
    obtain ⟨type, htype, h⟩ := Metadata.exists_of_bind_ok h
    obtain ⟨properties, -, h⟩ := Metadata.exists_of_bind_ok h
    obtain rfl := Form.eq_of_requiredText htype
    obtain rfl := Payload.eq_of_checked h
    exact ⟨rfl, rfl, rfl, rfl, rfl, rfl⟩
  | jobs =>
    obtain ⟨title, htitle, h⟩ := Metadata.exists_of_bind_ok h
    obtain ⟨metadata, -, h⟩ := Metadata.exists_of_bind_ok h
    obtain rfl := Form.eq_of_requiredText htitle
    obtain rfl := Payload.eq_of_checked h
    exact ⟨rfl, rfl, rfl, rfl, rfl, rfl⟩
  | logs =>
    obtain ⟨type, htype, h⟩ := Metadata.exists_of_bind_ok h
    obtain ⟨content, hcontent, h⟩ := Metadata.exists_of_bind_ok h
    obtain ⟨metadata, -, h⟩ := Metadata.exists_of_bind_ok h
    obtain rfl := Form.eq_of_requiredText htype
    obtain rfl := Form.eq_of_requiredText hcontent
    obtain rfl := Payload.eq_of_checked h
    exact ⟨rfl, rfl, rfl, rfl, rfl, rfl⟩
  | protocols =>
    obtain ⟨name, hname, h⟩ := Metadata.exists_of_bind_ok h
    obtain ⟨content, hcontent, h⟩ := Metadata.exists_of_bind_ok h
    obtain ⟨metadata, -, h⟩ := Metadata.exists_of_bind_ok h
    obtain rfl := Form.eq_of_requiredText hname
    obtain rfl := Form.eq_of_requiredText hcontent
    obtain rfl := Payload.eq_of_checked h
    exact ⟨rfl, rfl, rfl, rfl, rfl, rfl⟩
  | history => cases h

theorem Record.field?_of_fieldText_ne {r : Record} {key : String} (h : r.fieldText key ≠ "") :
    r.field? key = some (r.fieldText key) := by
  unfold fieldText at h ⊢
  cases hf : r.field? key with
  | none =>
    rw [hf] at h
    exact absurd rfl h
  | some s => rfl

/-- A relationship that meets its conditions has two ends. -/
theorem Payload.ends_of_validate {p : Payload} (h : p.validate = .ok ()) {source target : String}
    (he : p.ends? = some (source, target)) : source ≠ "" ∧ target ≠ "" := by
  cases p with
  | relationship d =>
    cases he
    unfold validate at h
    split at h
    · cases h
    · next hfault =>
      simp only [fault?, checks, Option.map_eq_none_iff, List.find?_eq_none, List.forall_mem_cons] at hfault
      have hends := hfault.1
      simpa using hends
  | entity | job | log | protocol => cases he

/-- A form in which nothing was changed keeps every field of its record that is not a tree: if it gives a payload,
that has the record's state, its tags and scopes as they are, its texts trimmed, its priority where that is one of
the four, and its ends. -/
theorem Kind.keeps_of_untouched {k : Kind} {r : Record} {p : Payload}
    (h : k.buildPayload (k.seedForm r) (some r) = .ok p) : p.Keeps k r := by
  obtain ⟨hkind, hvalid⟩ := Kind.kind_of_buildPayload h
  have htaken := Kind.takenFrom_of_buildPayload h
  have hedits : k ≠ .history := by
    rintro rfl
    cases h
  have htags (hk : k ≠ .relationships) : p.tags = r.tags.toList := by
    rw [htaken.tags, if_neg hk, tags_seedForm (tags_mem_formFields hedits hk)]
  have hscopes (hk : k = .entities) : p.scopes = r.scopes.toList := by
    subst hk
    rw [htaken.scopes, if_pos rfl, scopes_seedForm (by decide)]
  constructor
  case kind => exact hkind
  case status => rw [htaken.status, status_seedForm (status_mem_formFields hedits)]
  case tags => exact htags
  case scopes => exact hscopes
  case ascending =>
    constructor
    · by_cases hk : k = .relationships
      · simp [htaken.tags, hk]
      · rw [htags hk]
        exact r.tags.ascending
    · by_cases hk : k = .entities
      · rw [hscopes hk]
        exact r.scopes.ascending
      · simp [htaken.scopes, hk]
  case texts =>
    rw [htaken.texts]
    apply List.map_congr_left
    intro spec hspec
    obtain ⟨hmem, htext⟩ := List.mem_filter.1 hspec
    rw [fieldText_seedForm hmem (of_decide_eq_true htext)]
  case priority =>
    intro hk
    subst hk
    refine ⟨_, htaken.priority, ?_⟩
    rw [priority_seedForm (by decide)]
    exact Priority.name_or_default (r.field? "priority")
  case ends =>
    intro hk
    have hends := htaken.ends
    rw [if_pos hk] at hends
    obtain ⟨hsource, htarget⟩ := Payload.ends_of_validate hvalid hends
    exact ⟨_, _, hends, Record.field?_of_fieldText_ne hsource, Record.field?_of_fieldText_ne htarget⟩

/-- A job with blanks around its title, a tag that is in no normal form, no description and a priority of another
name. -/
def Record.paintJob : Record :=
  { Record.named .jobs "job-1" "Paint the hall" with
    status := .archived
    fields := [("title", " Paint the hall "), ("priority", "soon")]
    tags := .ofList ["wall", "AI "] }

theorem keeps_paintJob :
    ∃ p, Kind.jobs.buildPayload (Kind.jobs.seedForm .paintJob) (some .paintJob) = .ok p ∧
      p.Keeps .jobs .paintJob ∧ p.status = .archived ∧ p.tags = ["AI ", "wall"] ∧
      p.texts = [("title", "Paint the hall"), ("description", "")] ∧ p.priority? = some .medium := by
  have hbuild : (Kind.jobs.buildPayload (Kind.jobs.seedForm .paintJob) (some .paintJob)).toOption.isSome = true := by
    decide +kernel
  cases hp : Kind.jobs.buildPayload (Kind.jobs.seedForm .paintJob) (some .paintJob) with
  | error e =>
    rw [hp] at hbuild
    exact absurd hbuild Bool.false_ne_true
  | ok p =>
    have hkeeps := Kind.keeps_of_untouched hp
    have htags : Record.paintJob.tags.toList = ["AI ", "wall"] := by decide +kernel
    have htitle : Text.trim " Paint the hall " = "Paint the hall" := by decide +kernel
    have htexts : p.texts = [("title", Text.trim " Paint the hall "), ("description", Text.trim "")] := hkeeps.texts
    obtain ⟨q, hq, hpriority⟩ := hkeeps.priority rfl
    have hmedium : q = .medium := by
      rcases hpriority with hname | ⟨-, hq⟩
      · cases q <;> exact absurd hname (by decide)
      · exact hq
    refine ⟨p, rfl, hkeeps, hkeeps.status, (hkeeps.tags (by decide)).trans htags, ?_, hmedium ▸ hq⟩
    rw [htexts, htitle]
    rfl

end RecordDesk
