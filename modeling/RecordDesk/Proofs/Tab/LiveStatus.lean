import RecordDesk.Proofs.Form.Untouched
import RecordDesk.Proofs.Metadata.Regular
import RecordDesk.Proofs.Metadata.Wire
import RecordDesk.Proofs.Tab.FormTable

/-!
What the status line of an editor promises. While a tree is typed, the line says how many keys the text holds, or why
it cannot be read; when the form is saved, the text is read again, out of the field that has the key of the tree. The
two agree (`status_predicts_reading`): Escape puts the text into the field in which the editor was opened, its table
has that key once (`Form.Fits.find?_eq`), and both read it in the same language, since a table has its trees in the
language that goes with their keys (`eq_field_of_table`).
-/

namespace RecordDesk

/-- The payload that a request sends, if any. -/
def Request.payload? : Request → Option Payload
  | .create p => some p
  | .update _ _ (.full p) => some p
  | _ => none

namespace TreeLanguage

/-- A text read as a tree. -/
def read (language : TreeLanguage) (s : String) : Except FieldError Metadata.Tree :=
  match language with
  | .metadata => (Metadata.Tree.read s).mapError .metadata
  | .json => (Metadata.Tree.readProperties s).mapError .properties

/-- How a form reports what the status line of an editor says is wrong. -/
def complaint (language : TreeLanguage) (message : String) : String :=
  match language with
  | .metadata => "metadata " ++ message
  | .json => message

end TreeLanguage

/-! ## Reading -/

theorem Form.tree_eq_read (f : Form) (language : TreeLanguage) (key : String) :
    f.tree language key = language.read (f.text key) := by
  cases language with
  | metadata => rfl
  | json => rfl

namespace Metadata

theorem keys_entriesOfJson (es : List (String × Json)) : (entriesOfJson es).map Prod.fst = es.map Prod.fst := by
  induction es with
  | nil => rfl
  | cons e es ih => rw [entriesOfJson, List.map_cons, List.map_cons, ih]

/-- Of a key that is written twice in the text, the last value counts. -/
theorem ascending_of_readProperties {s : String} {t : Tree} (h : Tree.readProperties s = .ok t) :
    Keyed.Ascending t := by
  unfold Tree.readProperties at h
  split at h
  · cases h
    exact List.Pairwise.nil
  · split at h
    · cases h
    · next v hread =>
      split at h
      · next entries hnormal =>
        cases h
        rw [Keyed.ascending_iff_keys, keys_entriesOfJson, ← Keyed.ascending_iff_keys]
        cases v with
        | object es =>
          rw [Json.normal, Json.object.injEq] at hnormal
          rw [← hnormal]
          exact Keyed.ascending_ofList _
        | null | bool | int | real | text | array => cases hnormal
      · cases h

end Metadata

/-- Whatever is read has each of its keys once, in ascending order. -/
theorem TreeLanguage.ascending_of_read {language : TreeLanguage} {s : String} {m : Metadata.Tree}
    (h : language.read s = .ok m) : Keyed.Ascending m := by
  cases language with
  | metadata => exact (Metadata.regular_of_read (Metadata.ok_of_mapError_ok h) _ .here).1
  | json => exact Metadata.ascending_of_readProperties (Metadata.ok_of_mapError_ok h)

/-- Two ways of reporting on one reading: how many keys there are or a text, and the tree or an error. -/
theorem map_length_eq_ok_iff {ε : Type} {x : Except ε Metadata.Tree} {text : ε → String} {wrap : ε → FieldError}
    {n : Nat} : (x.map List.length).mapError text = .ok n ↔ ∃ m, x.mapError wrap = .ok m ∧ m.length = n := by
  cases x with
  | error e => simp [Except.map, Except.mapError]
  | ok m => simp [Except.map, Except.mapError]

theorem map_length_eq_error_iff {ε : Type} {x : Except ε Metadata.Tree} {text : ε → String} {wrap : ε → FieldError}
    {language : TreeLanguage} {message : String}
    (hwrap : ∀ e, (wrap e).message = language.complaint message ↔ text e = message) :
    (x.map List.length).mapError text = .error message ↔
      ∃ y, x.mapError wrap = .error y ∧ y.message = language.complaint message := by
  cases x with
  | error e => simp [Except.map, Except.mapError, hwrap]
  | ok m => simp [Except.map, Except.mapError]

namespace Editor

theorem check_eq_ok_iff {language : TreeLanguage} {s : String} {n : Nat} :
    check language s = .ok n ↔ ∃ m, language.read s = .ok m ∧ m.length = n := by
  cases language with
  | metadata => exact map_length_eq_ok_iff
  | json => exact map_length_eq_ok_iff

theorem check_eq_error_iff {language : TreeLanguage} {s message : String} :
    check language s = .error message ↔
      ∃ x, language.read s = .error x ∧ x.message = language.complaint message := by
  cases language with
  | metadata => exact map_length_eq_error_iff fun e => by simp [FieldError.message, TreeLanguage.complaint]
  | json => exact map_length_eq_error_iff fun e => Iff.rfl

theorem keys_injective {m n : Nat} (h : s!"ok ({m} keys)" = s!"ok ({n} keys)") : m = n := by
  have hdigits := congrArg String.toList h
  simp only [String.toList_append, List.append_cancel_left_eq, List.append_cancel_right_eq] at hdigits
  have hvalue := congrArg (Nat.ofDigitChars 10 · 0) hdigits
  simpa [Nat.toString_eq_ofList_toDigits] using hvalue

/-- The status line tells any two numbers of keys apart. -/
theorem status_eq_ok_iff {e : Editor} {n : Nat} :
    e.status = .ok s!"ok ({n} keys)" ↔ check e.language e.buffer = .ok n := by
  unfold status
  cases check e.language e.buffer with
  | error message => simp [Except.map]
  | ok m =>
    refine ⟨fun h => congrArg Except.ok (keys_injective (Except.ok.inj h)), fun h => ?_⟩
    rw [Except.ok.inj h]
    rfl

theorem status_eq_error_iff {e : Editor} {message : String} :
    e.status = .error message ↔ check e.language e.buffer = .error message := by
  unfold status
  cases check e.language e.buffer with
  | error message => simp [Except.map]
  | ok m => simp [Except.map]

end Editor

/-! ## Sending -/

/-- The tree of a payload is what the text in its form is read as. -/
theorem Kind.tree_of_payload {k : Kind} {f : Form} {editing : Option Record} {p : Payload}
    (h : k.buildPayload f editing = .ok p) : f.tree k.treeLanguage k.treeLanguage.field.key = .ok p.metadata := by
  cases k with
  | relationships =>
    cases editing with
    | none => cases h
    | some r =>
      obtain ⟨type, -, h⟩ := Metadata.exists_of_bind_ok h
      exact Form.tree_of_checked (fun _ => rfl) h
  | history => cases h
  | entities | jobs | logs | protocols => exact tree_of_buildPayload (by decide) h

theorem tree_of_relatePayload {source target : Record} {f : Form} {p : Payload}
    (h : relatePayload source target f = .ok p) : f.tree .json "properties" = .ok p.metadata := by
  obtain ⟨type, -, h⟩ := Metadata.exists_of_bind_ok h
  exact Form.tree_of_checked (fun _ => rfl) h

/-- A tree that has been retyped is found under its key, with its new text. -/
theorem Form.Retyped.text_eq {f g : Form} {index : Nat} {language : TreeLanguage} {s : String}
    (h : f.Retyped index language s g) {specs : List FieldSpec} (hfits : g.Fits specs)
    (hnodup : (specs.map FieldSpec.key).Nodup) :
    ∃ d, g.fields[index]? = some d ∧ d.spec.kind = .structured language ∧ g.text d.spec.key = s := by
  obtain ⟨d, old, -, hkind, -, hd⟩ := h.field
  refine ⟨_, hd, hkind, ?_⟩
  unfold Form.text
  rw [hfits.find?_eq hnodup hd]

namespace Tab

theorem tree_of_saveRequest {t : Tab} {f : Form} {r : Request} (h : t.saveRequest? f = some (.ok r)) :
    ∃ p, r.payload? = some p ∧ f.tree t.language t.language.field.key = .ok p.metadata := by
  unfold saveRequest? at h
  split at h
  · next hv =>
    obtain ⟨p, hp, rfl⟩ := Metadata.exists_of_map_ok (Option.some.inj h)
    have hlanguage : t.language = t.kind.treeLanguage := by simp only [language, hv]
    exact ⟨p, rfl, hlanguage ▸ Kind.tree_of_payload hp⟩
  · next hv _ =>
    obtain ⟨p, hp, rfl⟩ := Metadata.exists_of_map_ok (Option.some.inj h)
    have hlanguage : t.language = t.kind.treeLanguage := by simp only [language, hv]
    exact ⟨p, rfl, hlanguage ▸ Kind.tree_of_payload hp⟩
  · next hv =>
    have hlanguage : t.language = .json := by simp only [language, hv]
    split at h
    · obtain ⟨p, hp, rfl⟩ := Metadata.exists_of_map_ok (Option.some.inj h)
      exact ⟨p, rfl, hlanguage ▸ tree_of_relatePayload hp⟩
    · simp at h
  · simp at h

/-! ## The editor of a form -/

/-- The tab with another text in its open editor. -/
def withBuffer (t : Tab) (s : String) : Tab := { t with editors := t.editors.map fun e => { e with buffer := s } }

theorem press_esc_withBuffer {t : Tab} {e : Editor} {f : Form} (heditors : t.editors = [e]) (hf : t.form = some f)
    (s : String) :
    ((t.withBuffer s).press .esc).1 = { t with editors := [], form := some (f.setStructuredAt e.field s) } := by
  have hopen : (t.withBuffer s).editors = [{ e with buffer := s }] := by
    unfold withBuffer
    rw [heditors]
    rfl
  rw [press_esc_of_editor hopen]
  show ({ t with editors := [], form := t.form.map _ } : Tab) = _
  rw [hf]
  rfl

/-- In any state with an editor open, and with any text in it: after Escape the field in which the editor was opened
is read under its key as the status line says, whether it promises a number of keys or complains. And whatever the
form then sends has the tree that was promised. -/
theorem status_predicts_reading (kind : Kind) (es : List TabEvent) {e : Editor}
    (he : (after kind es).editor? = some e) (s : String) :
    let shown : Editor := { e with buffer := s }
    let u := (((after kind es).withBuffer s).press .esc).1
    u.editors = [] ∧ ∃ g d, u.form = some g ∧ g.fields[e.field]? = some d ∧ d.spec = e.language.field ∧
      (∀ n, shown.status = .ok s!"ok ({n} keys)" ↔
        ∃ m, g.tree e.language d.spec.key = .ok m ∧ m.length = n ∧ Keyed.Ascending m) ∧
      (∀ message, shown.status = .error message ↔
        ∃ x, g.tree e.language d.spec.key = .error x ∧ x.message = e.language.complaint message) ∧
      ∀ r, u.saveRequest? g = some (.ok r) → ∃ p, r.payload? = some p ∧
        g.tree e.language d.spec.key = .ok p.metadata ∧ shown.status = .ok s!"ok ({p.metadata.length} keys)" := by
  intro shown u
  obtain ⟨heditors, f, -, hf, -, htree⟩ := form_of_editor kind es he
  set t := after kind es
  have htabled := tabled_after kind es f hf
  have hu : u = { t with editors := [], form := some (f.setStructuredAt e.field s) } :=
    press_esc_withBuffer heditors hf s
  have hfits := htabled.setStructuredAt e.field s
  obtain ⟨d, hd, hkind, htext⟩ := (htree.retyped s).text_eq hfits t.nodup_table
  obtain ⟨hlanguage, hspec⟩ := t.eq_field_of_table (hfits.mem hd) hkind
  have hread : (f.setStructuredAt e.field s).tree e.language d.spec.key = e.language.read s := by
    rw [Form.tree_eq_read, htext]
  have hok (n : Nat) : shown.status = .ok s!"ok ({n} keys)" ↔
      ∃ m, e.language.read s = .ok m ∧ m.length = n := Editor.status_eq_ok_iff.trans Editor.check_eq_ok_iff
  rw [hu]
  refine ⟨rfl, _, d, rfl, hd, hspec, fun n => ?_, fun message => ?_, fun r hr => ?_⟩
  · rw [hok, hread]
    constructor
    · rintro ⟨m, hm, hlength⟩
      exact ⟨m, hm, hlength, TreeLanguage.ascending_of_read hm⟩
    · rintro ⟨m, hm, hlength, -⟩
      exact ⟨m, hm, hlength⟩
  · rw [hread]
    exact Editor.status_eq_error_iff.trans Editor.check_eq_error_iff
  · obtain ⟨p, hp, hsent⟩ := tree_of_saveRequest hr
    change Form.tree _ t.language t.language.field.key = _ at hsent
    rw [← hlanguage, ← hspec, hread] at hsent
    rw [hread]
    exact ⟨p, hp, hsent, (hok _).2 ⟨_, hsent, rfl⟩⟩

/-- The form of a new job is opened, and the editor of its metadata. -/
def describingJob : List TabEvent :=
  [.input .activate, .input (.press .up), .input (.press .enter), .input (.press .up), .input (.press .enter)]

theorem status_predicts_describingJob :
    let t := after .jobs describingJob
    t.editor? = some ⟨5, "Metadata", .metadata, ""⟩ ∧
      ∃ g m, ((t.withBuffer "shift: night\nhours: [22, 6]").press .esc).1.form = some g ∧
        g.tree .metadata "metadata" = .ok m ∧ m.length = 2 := by
  intro t
  have he : t.editor? = some ⟨5, "Metadata", .metadata, ""⟩ := rfl
  have hcheck : Editor.check .metadata "shift: night\nhours: [22, 6]" = .ok 2 := by decide +kernel
  obtain ⟨-, g, d, hg, -, hspec, hok, -⟩ :=
    status_predicts_reading .jobs describingJob he "shift: night\nhours: [22, 6]"
  obtain ⟨m, hm, hlength, -⟩ := (hok 2).1 (Editor.status_eq_ok_iff.2 hcheck)
  rw [hspec] at hm
  exact ⟨he, g, m, hg, hm, hlength⟩

end Tab

end RecordDesk
