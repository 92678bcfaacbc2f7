import RecordDesk.Proofs.Form.Payloads
import RecordDesk.Proofs.Metadata.Fidelity

/-!
Saving a form in which nothing was changed. The form holds the metadata of the record as text, and the
payload what that text is read as. So the metadata are saved as they were if and only if they come back
from their text (`Kind.metadata_of_untouched`); nothing else refuses or repairs them.
-/

namespace RecordDesk

/-- The tree that a payload sends. -/
def Payload.metadata : Payload → Metadata.Tree
  | .entity d => d.metadata
  | .relationship d => d.properties
  | .job d => d.metadata
  | .log d => d.metadata
  | .protocol d => d.metadata

/-- The kinds whose records hold their metadata in the metadata language. -/
def Kind.withMetadata : List Kind := [.entities, .jobs, .logs, .protocols]

/-! ## Seeded forms -/

theorem Form.find?_seeded (specs : List FieldSpec) (r : Record) (key : String) :
    (Form.seeded specs r).find? key = (specs.find? (·.key == key)).map fun s => ⟨s, seed r s⟩ := by
  unfold Form.find? Form.seeded
  rw [List.find?_map]
  rfl

/-- The metadata field is seeded with the text of the metadata. -/
theorem Kind.text_seedForm {k : Kind} (hk : k ∈ withMetadata) (r : Record) :
    (k.seedForm r).text "metadata" = Metadata.Tree.write r.metadata := by
  have hspec : k.formFields.find? (·.key == "metadata") = some .metadata := by
    revert hk
    cases k <;> decide
  unfold Form.text Kind.seedForm
  rw [Form.find?_seeded, hspec]
  rfl

/-! ## Payloads -/

/-- The last step of every kind: the field with the tree is read and becomes part of the payload. -/
theorem Form.tree_of_checked {f : Form} {language : TreeLanguage} {key : String}
    {make : Metadata.Tree → Payload} (hmake : ∀ t, (make t).metadata = t) {p : Payload}
    (h : ((f.tree language key).mapError FormError.field).bind (fun t => (make t).checked) = .ok p) :
    f.tree language key = .ok p.metadata := by
  obtain ⟨t, htree, h⟩ := Metadata.exists_of_bind_ok h
  rw [Payload.eq_of_checked h, hmake]
  exact Metadata.ok_of_mapError_ok htree

/-- The metadata of a payload are what the text of the metadata field is read as. -/
theorem Kind.tree_of_buildPayload {k : Kind} (hk : k ∈ withMetadata) {f : Form}
    {editing : Option Record} {p : Payload} (h : k.buildPayload f editing = .ok p) :
    f.tree .metadata "metadata" = .ok p.metadata := by
  cases k with
  | entities =>
    obtain ⟨name, -, h⟩ := Metadata.exists_of_bind_ok h
    obtain ⟨type, -, h⟩ := Metadata.exists_of_bind_ok h
    exact Form.tree_of_checked (fun _ => rfl) h
  | relationships => exact absurd hk (by decide)
  | jobs =>
    obtain ⟨title, -, h⟩ := Metadata.exists_of_bind_ok h
    exact Form.tree_of_checked (fun _ => rfl) h
  | logs =>
    obtain ⟨type, -, h⟩ := Metadata.exists_of_bind_ok h
    obtain ⟨content, -, h⟩ := Metadata.exists_of_bind_ok h
    exact Form.tree_of_checked (fun _ => rfl) h
  | protocols =>
    obtain ⟨name, -, h⟩ := Metadata.exists_of_bind_ok h
    obtain ⟨content, -, h⟩ := Metadata.exists_of_bind_ok h
    exact Form.tree_of_checked (fun _ => rfl) h
  | history => exact absurd hk (by decide)

/-- If an untouched form gives a payload, its metadata are what the text of the record's metadata is
read as. They are the record's metadata if and only if these have keys and texts that fit on their lines
and lists that keep their items apart. -/
theorem Kind.metadata_of_untouched {k : Kind} (hk : k ∈ withMetadata) {r : Record} {p : Payload}
    (h : k.buildPayload (k.seedForm r) (some r) = .ok p) :
    Metadata.Tree.read (Metadata.Tree.write r.metadata) = .ok p.metadata ∧
      (p.metadata = r.metadata ↔ Metadata.Tree.WellFormed Metadata.Value.Survives r.metadata) := by
  have htree := Kind.tree_of_buildPayload hk h
  unfold Form.tree at htree
  rw [Kind.text_seedForm hk] at htree
  have hread := Metadata.ok_of_mapError_ok htree
  refine ⟨hread, ?_⟩
  rw [← Metadata.Tree.read_write_iff, hread, Except.ok.injEq]

/-- A job with some metadata. -/
def Record.rota (metadata : Metadata.Tree) : Record :=
  { Record.named .jobs "job-1" "Rota" with fields := [("title", "Rota")], metadata := metadata }

theorem buildPayload_rota {metadata t : Metadata.Tree}
    (h : Metadata.Tree.read (Metadata.Tree.write metadata) = .ok t) :
    ∃ p, Kind.jobs.buildPayload (Kind.jobs.seedForm (.rota metadata)) (some (.rota metadata)) = .ok p ∧
      p.metadata = t := by
  have htree : (Kind.jobs.seedForm (.rota metadata)).tree .metadata "metadata" = .ok t := by
    unfold Form.tree
    rw [Kind.text_seedForm (by decide)]
    show (Metadata.Tree.read (Metadata.Tree.write metadata)).mapError FieldError.metadata = .ok t
    rw [h]
    rfl
  have htitle : (Kind.jobs.seedForm (.rota metadata)).requiredText "title" = .ok "Rota" := by
    have hspec : Kind.jobs.formFields.find? (·.key == "title") = some (.ofText "title" "Title" true) := by
      decide
    have hfind := Form.find?_seeded Kind.jobs.formFields (.rota metadata) "title"
    rw [hspec] at hfind
    have htrim : Text.trim "Rota" = "Rota" := by decide +kernel
    unfold Form.requiredText Form.text Kind.seedForm
    rw [hfind]
    show (if (Text.trim "Rota").isEmpty && true then _ else Except.ok (Text.trim "Rota")) = _
    rw [htrim]
    rfl
  have hchecked (d : JobDraft) (hd : d.title = "Rota") : (Payload.job d).checked = .ok (.job d) := by
    have hblank : Text.isBlankText d.title = false := by
      rw [hd]
      decide +kernel
    have hfault : (Payload.job d).fault? = none := by
      simp [Payload.fault?, Payload.checks, hblank]
    unfold Payload.checked
    rw [hfault]
  unfold Kind.buildPayload
  dsimp only
  rw [htree, htitle]
  exact ⟨_, hchecked ⟨"Rota", _, _, _, _, t⟩ rfl, rfl⟩

/-- The job keeps a list in which a lone quote stands last. -/
theorem metadata_of_untouched_quoteLast :
    let r := Record.rota [("k", .list [.text "b", .text "it's"])]
    Kind.jobs ∈ Kind.withMetadata ∧
      ∃ p, Kind.jobs.buildPayload (Kind.jobs.seedForm r) (some r) = .ok p ∧ p.metadata = r.metadata := by
  intro r
  have hsurvives : Metadata.Tree.WellFormed Metadata.Value.Survives r.metadata := by decide +kernel
  obtain ⟨p, hbuild, -⟩ := buildPayload_rota (Metadata.Tree.read_write_of_survives hsurvives)
  exact ⟨by decide, p, hbuild, (Kind.metadata_of_untouched (by decide) hbuild).2.2 hsurvives⟩

/-- With another item after the quote, saving the untouched form changes the list. -/
theorem metadata_of_untouched_ne :
    let r := Record.rota [("k", .list [.text "it's", .text "b"])]
    ∃ p, Kind.jobs.buildPayload (Kind.jobs.seedForm r) (some r) = .ok p ∧
      p.metadata = [("k", .list [.text "it's, b"])] ∧ p.metadata ≠ r.metadata := by
  intro r
  have hwrite : Metadata.Tree.write r.metadata = "k: [it's, b]\n" := by decide +kernel
  have hread : Metadata.Tree.read (Metadata.Tree.write r.metadata) =
      .ok [("k", .list [.text "it's, b"])] := by
    rw [hwrite]
    decide +kernel
  obtain ⟨p, hbuild, hp⟩ := buildPayload_rota hread
  refine ⟨p, hbuild, hp, ?_⟩
  rw [hp]
  simp [r, Record.rota]

end RecordDesk
