import RecordDesk.Profile
import RecordDesk.Proofs.Metadata.Lists

/-!
What a filled form can become: a payload of the tab's own kind that meets its conditions
(`Kind.kind_of_buildPayload`, `kind_of_relatePayload`), whichever way it is built.
-/

namespace RecordDesk

/-- The tags that a payload sends. -/
def Payload.tags : Payload → List String
  | .entity d => d.tags
  | .relationship _ => []
  | .job d => d.tags
  | .log d => d.tags
  | .protocol d => d.tags

/-- The scopes that a payload sends. -/
def Payload.scopes : Payload → List String
  | .entity d => d.scopes
  | _ => []

theorem Payload.eq_of_checked {p q : Payload} (h : p.checked = .ok q) : q = p := by
  unfold checked at h
  split at h
  · cases h
  · cases h
    rfl

theorem Payload.validate_of_checked {p q : Payload} (h : p.checked = .ok q) : q.validate = .ok () := by
  obtain rfl := eq_of_checked h
  unfold checked at h
  split at h
  · cases h
  · next hfault =>
    unfold validate
    rw [hfault]

/-- The last step of every way to build a payload. -/
theorem Payload.kind_of_checked {p q : Payload} (h : p.checked = .ok q) :
    q.kind = p.kind ∧ q.validate = .ok () :=
  ⟨congrArg kind (eq_of_checked h), validate_of_checked h⟩

/-- The payload of a form is of the kind whose form it is, and meets its conditions. -/
theorem Kind.kind_of_buildPayload {k : Kind} {f : Form} {editing : Option Record} {p : Payload}
    (h : k.buildPayload f editing = .ok p) : p.kind = k ∧ p.validate = .ok () := by
  cases k with
  | entities =>
    obtain ⟨name, -, h⟩ := Metadata.exists_of_bind_ok h
    obtain ⟨type, -, h⟩ := Metadata.exists_of_bind_ok h
    obtain ⟨metadata, -, h⟩ := Metadata.exists_of_bind_ok h
    exact Payload.kind_of_checked h
  | relationships =>
    cases editing with
    | none => cases h
    | some r =>
      obtain ⟨type, -, h⟩ := Metadata.exists_of_bind_ok h
      obtain ⟨properties, -, h⟩ := Metadata.exists_of_bind_ok h
      exact Payload.kind_of_checked h
  | jobs =>
    obtain ⟨title, -, h⟩ := Metadata.exists_of_bind_ok h
    obtain ⟨metadata, -, h⟩ := Metadata.exists_of_bind_ok h
    exact Payload.kind_of_checked h
  | logs =>
    obtain ⟨type, -, h⟩ := Metadata.exists_of_bind_ok h
    obtain ⟨content, -, h⟩ := Metadata.exists_of_bind_ok h
    obtain ⟨metadata, -, h⟩ := Metadata.exists_of_bind_ok h
    exact Payload.kind_of_checked h
  | protocols =>
    obtain ⟨name, -, h⟩ := Metadata.exists_of_bind_ok h
    obtain ⟨content, -, h⟩ := Metadata.exists_of_bind_ok h
    obtain ⟨metadata, -, h⟩ := Metadata.exists_of_bind_ok h
    exact Payload.kind_of_checked h
  | history => cases h

theorem kind_of_relatePayload {source target : Record} {f : Form} {p : Payload}
    (h : relatePayload source target f = .ok p) : p.kind = .relationships ∧ p.validate = .ok () := by
  obtain ⟨type, -, h⟩ := Metadata.exists_of_bind_ok h
  obtain ⟨properties, -, h⟩ := Metadata.exists_of_bind_ok h
  exact Payload.kind_of_checked h

end RecordDesk
