import Mathlib
import RecordDesk.Proofs.Form.Saving
import RecordDesk.Proofs.Metadata.Conversion
import RecordDesk.Proofs.Sample.Phrases

/-!
Records drawn from a seed can be used in place of real ones: there are as many as asked for, no two have one id, and
the form of each can be saved as it is (`valid_samples`). What makes a record savable is shown once for each kind, from
its fields alone; what is drawn into these fields is shown once for each sampling, in step with the ids it gives. All
this holds as long as 64 bits can count the ids, and the entities that relationships tie (`relationships_overflow`).
-/

open Std.Do

set_option mvcgen.warning false

namespace RecordDesk

theorem Record.fieldText_of_fields {r : Record} {fs : List (String × String)} (h : r.fields = fs) (key : String) :
    r.fieldText key = (getField? key fs).getD "" := by
  rw [← h]
  rfl

/-- A record of a kind, the form of which can be saved as it is where the kind has one. -/
structure Record.IsSample (r : Record) (k : Kind) : Prop where
  kind : r.kind = k
  saves : k ≠ .history → k.SavesItself r

namespace Sampler

open Metadata (Tree Value)

/-! ## Metadata -/

theorem read_write_nil : Tree.read (Tree.write []) = .ok [] :=
  Tree.read_write_of_survives ⟨List.Pairwise.nil, trivial⟩

theorem read_write_rank (n : Int64) : Tree.read (Tree.write [("rank", .int n)]) = .ok [("rank", .int n)] :=
  Tree.read_write_of_survives ⟨List.pairwise_singleton _ _, by decide +kernel, trivial, trivial⟩

/-- The properties of a relationship. -/
def weighing (n : Nat) : Tree := [("weight", .int (Int64.ofNat n))]

/-- A weight has one digit, and all else in its text stays the same. -/
theorem read?_weighing {n : Nat} (h : n < 10) : Json.read? (weighing n).toJson.pretty = some (weighing n).toJson := by
  have htext : ∀ n < 10, (weighing n).toJson.pretty.toList =
      "\x7b\n  \"weight\": ".toList ++ Nat.digitChar n :: "\n\x7d".toList := by decide +kernel
  unfold Json.read? Json.read
  rw [htext n h]
  interval_cases n <;> rfl

theorem readProperties_weighing {n : Nat} (h : n < 10) :
    Tree.readProperties (weighing n).propertiesText = .ok (weighing n) := by
  refine Metadata.readProperties_propertiesText
    (Value.ofJson_toJson ⟨List.pairwise_singleton _ _, trivial, trivial⟩) ?_
  rw [read?_weighing h]
  rfl

/-! ## What is drawn can be saved -/

section Savable

variable {r : Record}

theorem isSample_entity {name type : String} {rank : Int64} (hkind : r.kind = .entities) (htitle : r.title = name)
    (hfields : r.fields = [("name", name), ("type", type)]) (hmetadata : r.metadata = [("rank", .int rank)])
    (hname : IsPhrase name.toList) (htype : IsPhrase type.toList) : r.IsSample .entities := by
  have hname' : r.fieldText "name" = name := r.fieldText_of_fields hfields "name"
  have htype' : r.fieldText "type" = type := r.fieldText_of_fields hfields "type"
  have hsavable : r.Savable .entities :=
    { editable := by decide
      title := htitle.trans hname'.symm
      tight := by
        show ∀ key ∈ ["name", "type"], _
        simp only [List.forall_mem_cons, hname', htype']
        exact ⟨hname.tight, htype.tight, nofun⟩
      metadata := fun _ => by rw [hmetadata, read_write_rank] }
  exact ⟨hkind, fun _ => hsavable.savesItself⟩

theorem isSample_relationship {type source target sourceName targetName : String} {weight : Nat}
    (hkind : r.kind = .relationships) (htitle : r.title = type)
    (hfields : r.fields = [("relationship_type", type), ("source_id", source), ("source_name", sourceName),
      ("target_id", target), ("target_name", targetName)])
    (htags : r.tags = .empty) (hmetadata : r.metadata = weighing weight)
    (htype : IsPhrase type.toList) (hsource : source ≠ "") (htarget : target ≠ "") (hne : source ≠ target)
    (hweight : weight < 10) : r.IsSample .relationships := by
  have htype' : r.fieldText "relationship_type" = type := r.fieldText_of_fields hfields "relationship_type"
  have hsource' : r.fieldText "source_id" = source := r.fieldText_of_fields hfields "source_id"
  have htarget' : r.fieldText "target_id" = target := r.fieldText_of_fields hfields "target_id"
  have hsavable : r.Savable .relationships :=
    { editable := by decide
      title := htitle.trans htype'.symm
      tight := by
        show ∀ key ∈ ["relationship_type"], _
        simp only [List.forall_mem_cons, htype']
        exact ⟨htype.tight, nofun⟩
      ends := by
        rw [hsource', htarget']
        exact fun _ => ⟨hsource, htarget, hne⟩
      tags := fun _ => htags
      metadata := fun hk => absurd rfl hk
      properties := fun _ => by rw [hmetadata, readProperties_weighing hweight] }
  exact ⟨hkind, fun _ => hsavable.savesItself⟩

theorem isSample_job {title description priority : String} (hkind : r.kind = .jobs) (htitle : r.title = title)
    (hfields : r.fields = [("title", title), ("description", description), ("priority", priority)])
    (hmetadata : r.metadata = []) (hphrase : IsPhrase title.toList) : r.IsSample .jobs := by
  have htext : r.fieldText "title" = title := r.fieldText_of_fields hfields "title"
  have hsavable : r.Savable .jobs :=
    { editable := by decide
      title := htitle.trans htext.symm
      tight := by
        show ∀ key ∈ ["title"], _
        simp only [List.forall_mem_cons, htext]
        exact ⟨hphrase.tight, nofun⟩
      metadata := fun _ => by rw [hmetadata, read_write_nil] }
  exact ⟨hkind, fun _ => hsavable.savesItself⟩

theorem isSample_log {type content : String} (hkind : r.kind = .logs) (htitle : r.title = content)
    (hfields : r.fields = [("log_type", type), ("content", content)]) (hmetadata : r.metadata = [])
    (htype : IsPhrase type.toList) (hcontent : IsPhrase content.toList) : r.IsSample .logs := by
  have htype' : r.fieldText "log_type" = type := r.fieldText_of_fields hfields "log_type"
  have hcontent' : r.fieldText "content" = content := r.fieldText_of_fields hfields "content"
  have hsavable : r.Savable .logs :=
    { editable := by decide
      title := htitle.trans hcontent'.symm
      tight := by
        show ∀ key ∈ ["log_type", "content"], _
        simp only [List.forall_mem_cons, htype', hcontent']
        exact ⟨htype.tight, hcontent.tight, nofun⟩
      metadata := fun _ => by rw [hmetadata, read_write_nil] }
  exact ⟨hkind, fun _ => hsavable.savesItself⟩

theorem isSample_protocol {subject title version content : String} (hkind : r.kind = .protocols)
    (htitle : r.title = slug subject)
    (hfields : r.fields = [("name", slug subject), ("title", title), ("version", version), ("content", content)])
    (hmetadata : r.metadata = []) (hsubject : IsPhrase subject.toList) (hcontent : IsPhrase content.toList) :
    r.IsSample .protocols := by
  have hname' : r.fieldText "name" = slug subject := r.fieldText_of_fields hfields "name"
  have hcontent' : r.fieldText "content" = content := r.fieldText_of_fields hfields "content"
  have hsavable : r.Savable .protocols :=
    { editable := by decide
      title := htitle.trans hname'.symm
      tight := by
        show ∀ key ∈ ["name", "content"], _
        simp only [List.forall_mem_cons, hname', hcontent']
        exact ⟨(isPhrase_slug hsubject).tight, hcontent.tight, nofun⟩
      solid := by
        rw [hname']
        exact fun _ => not_isBlank_of_mem_slug hsubject
      metadata := fun _ => by rw [hmetadata, read_write_nil] }
  exact ⟨hkind, fun _ => hsavable.savesItself⟩

end Savable

/-! ## One record -/

@[spec]
theorem entityNamed_spec (name : String) (i : Nat) :
    ⦃fun s => ⌜s.nextId.toNat = i⌝⦄ entityNamed name
    ⦃post⟨fun r s => ⌜(IsPhrase name.toList → r.IsSample .entities) ∧ Counted i [r.id] (i + 1) ∧
        s.nextId.toNat = i + 1⌝,
      fun _ => ⌜2 ^ 64 ≤ i + 1⌝⟩⦄ := by
  mvcgen [entityNamed]
  case vc1 s hs id s₁ hid type s₂ htype tags s₃ htags scope s₄ hscope rank s₅ hrank at_ s₆ hat =>
    obtain ⟨rfl, hnext⟩ := hid
    have hphrase : IsPhrase type.toList := isPhrase_of_isSolid (by decide +kernel) (htype.1 (by decide))
    rw [hs]
    exact ⟨fun hname => isSample_entity rfl rfl rfl rfl hname hphrase, .singleton "ent" (by omega), by omega⟩
  all_goals omega

@[spec]
theorem entity_spec (i : Nat) :
    ⦃fun s => ⌜s.nextId.toNat = i⌝⦄ entity
    ⦃post⟨fun r s => ⌜r.IsSample .entities ∧ Counted i [r.id] (i + 1) ∧ s.nextId.toNat = i + 1⌝,
      fun _ => ⌜2 ^ 64 ≤ i + 1⌝⟩⦄ := by
  mvcgen [entity]
  case vc1 s hs name s₁ hname n s₂ hn r s₃ =>
    intro hr hids hnext
    rw [hn.2, hname.2, hs] at hids hnext
    exact ⟨hr (isPhrase_numbered (hname.1 (by decide)) _), hids, hnext⟩
  all_goals omega

@[spec]
theorem relationship_spec (a b : Record) (i : Nat) :
    ⦃fun s => ⌜s.nextId.toNat = i⌝⦄ relationship a b
    ⦃post⟨fun r s => ⌜(a.id ≠ "" → b.id ≠ "" → a.id ≠ b.id → r.IsSample .relationships) ∧
        Counted i [r.id] (i + 1) ∧ s.nextId.toNat = i + 1⌝,
      fun _ => ⌜2 ^ 64 ≤ i + 1⌝⟩⦄ := by
  mvcgen [relationship]
  case vc1 s hs id s₁ hid type s₂ htype weight s₃ hweight at_ s₄ hat =>
    obtain ⟨rfl, hnext⟩ := hid
    have hphrase : IsPhrase type.toList := isPhrase_of_isSolid (by decide +kernel) (htype.1 (by decide))
    rw [hs]
    exact ⟨fun ha hb hne => isSample_relationship rfl rfl rfl rfl rfl hphrase ha hb hne (hweight.1 (by decide)),
      .singleton "rel" (by omega), by omega⟩
  all_goals omega

@[spec]
theorem job_spec (i : Nat) :
    ⦃fun s => ⌜s.nextId.toNat = i⌝⦄ job
    ⦃post⟨fun r s => ⌜r.IsSample .jobs ∧ Counted i [r.id] (i + 1) ∧ s.nextId.toNat = i + 1⌝,
      fun _ => ⌜2 ^ 64 ≤ i + 1⌝⟩⦄ := by
  mvcgen [job]
  case vc1 s hs id s₁ hid title s₂ htitle priority s₃ hpriority description s₄ hdescription tags s₅ htags at_ s₆ hat =>
    obtain ⟨rfl, hnext⟩ := hid
    rw [hs]
    exact ⟨isSample_job rfl rfl rfl rfl htitle.1, .singleton "job" (by omega), by omega⟩
  all_goals omega

@[spec]
theorem log_spec (i : Nat) :
    ⦃fun s => ⌜s.nextId.toNat = i⌝⦄ log
    ⦃post⟨fun r s => ⌜r.IsSample .logs ∧ Counted i [r.id] (i + 1) ∧ s.nextId.toNat = i + 1⌝,
      fun _ => ⌜2 ^ 64 ≤ i + 1⌝⟩⦄ := by
  mvcgen [log]
  case vc1 s hs id s₁ hid content s₂ hcontent type s₃ htype at_ s₄ hat =>
    obtain ⟨rfl, hnext⟩ := hid
    have hphrase : IsPhrase type.toList := isPhrase_of_isSolid (by decide +kernel) (htype.1 (by decide))
    rw [hs]
    exact ⟨isSample_log rfl rfl rfl rfl hphrase hcontent.1, .singleton "log" (by omega), by omega⟩
  all_goals omega

@[spec]
theorem protocol_spec (i : Nat) :
    ⦃fun s => ⌜s.nextId.toNat = i⌝⦄ protocol
    ⦃post⟨fun r s => ⌜r.IsSample .protocols ∧ Counted i [r.id] (i + 1) ∧ s.nextId.toNat = i + 1⌝,
      fun _ => ⌜2 ^ 64 ≤ i + 1⌝⟩⦄ := by
  mvcgen [protocol]
  case vc1 s hs id s₁ hid subject name s₂ hsubject title s₃ htitle content s₄ hcontent version s₅ hversion at_ s₆ hat =>
    obtain ⟨rfl, hnext⟩ := hid
    rw [hs]
    exact ⟨isSample_protocol rfl rfl rfl rfl hsubject.1 hcontent.1, .singleton "proto" (by omega), by omega⟩
  all_goals omega

@[spec]
theorem history_spec (subject : Record) (i : Nat) :
    ⦃fun s => ⌜s.nextId.toNat = i⌝⦄ history subject
    ⦃post⟨fun r s => ⌜r.IsSample .history ∧ Counted i [r.id] (i + 1) ∧ s.nextId.toNat = i + 1⌝,
      fun _ => ⌜2 ^ 64 ≤ i + 1⌝⟩⦄ := by
  mvcgen [history]
  case vc1 s hs id s₁ hid action s₂ haction actor s₃ hactor at_ s₄ hat =>
    obtain ⟨rfl, hnext⟩ := hid
    rw [hs]
    exact ⟨⟨rfl, fun hk => absurd rfl hk⟩, .singleton "hist" (by omega), by omega⟩
  all_goals omega

/-! ## Many records -/

/-- As many samples of a kind as there should be. -/
structure IsBatch (k : Kind) (count : Nat) (rs : List Record) : Prop where
  length : rs.length = count
  samples : ∀ r ∈ rs, r.IsSample k

theorem batch_of_times {k : Kind} {x : Sampling Record}
    (hx : ∀ i, ⦃fun s => ⌜s.nextId.toNat = i⌝⦄ x
      ⦃post⟨fun r s => ⌜r.IsSample k ∧ Counted i [r.id] (i + 1) ∧ s.nextId.toNat = i + 1⌝,
        fun _ => ⌜2 ^ 64 ≤ i + 1⌝⟩⦄)
    (n i : Nat) :
    ⦃fun s => ⌜s.nextId.toNat = i⌝⦄ times n x
    ⦃post⟨fun rs s => ⌜IsBatch k n rs ∧ Counted i (rs.map Record.id) (i + n) ∧ s.nextId.toNat = i + n⌝,
      fun _ => ⌜2 ^ 64 ≤ i + n⌝⟩⦄ := by
  have hloop := times_spec hx n i
  rw [Nat.mul_one] at hloop
  mvcgen [hloop]
  rename_i s hs rs s'
  intro hlength hsamples hids hnext
  rw [← List.map_eq_flatMap] at hids
  exact ⟨⟨hlength, hsamples⟩, hids, hnext⟩

/-- Neighbours are two entities when no two in the list have one id. -/
@[spec]
theorem chain_spec (es : List Record) (i : Nat) :
    ⦃fun s => ⌜s.nextId.toNat = i⌝⦄ chain es
    ⦃post⟨fun rs s => ⌜((∀ e ∈ es, e.id ≠ "") → (es.map Record.id).Nodup →
          IsBatch .relationships (es.length - 1) rs) ∧
        Counted i (rs.map Record.id) (i + (es.length - 1)) ∧ s.nextId.toNat = i + (es.length - 1)⌝,
      fun _ => ⌜2 ^ 64 ≤ i + (es.length - 1)⌝⟩⦄ := by
  induction es generalizing i with
  | nil =>
    rintro s rfl
    exact ⟨fun _ _ => ⟨rfl, nofun⟩, .nil (Nat.le_refl _), rfl⟩
  | cons a es ih =>
    cases es with
    | nil =>
      rintro s rfl
      exact ⟨fun _ _ => ⟨rfl, nofun⟩, .nil (Nat.le_refl _), rfl⟩
    | cons b rest =>
      have hlength : (a :: b :: rest).length - 1 = 1 + ((b :: rest).length - 1) := by simp [Nat.add_comm]
      rw [chain, hlength, ← Nat.add_assoc]
      mvcgen [ih]
      case vc1 s hs r s₁ hr rs s₂ hrs =>
        obtain ⟨hsample, hid, hnext⟩ := hr
        rw [hs] at hid hnext
        rw [hnext] at hrs
        refine ⟨fun hne hnodup => ?_, hid.append hrs.2.1, hrs.2.2⟩
        obtain ⟨ha, hothers⟩ := List.forall_mem_cons.1 hne
        obtain ⟨hnot, hnodup⟩ := List.nodup_cons.1 hnodup
        have hab : a.id ≠ b.id := fun h => hnot (h ▸ List.mem_cons_self)
        have hbatch := hrs.1 hothers hnodup
        exact ⟨by simp [hbatch.length, Nat.add_comm],
          List.forall_mem_cons.2 ⟨hsample ha (hothers b List.mem_cons_self) hab, hbatch.samples⟩⟩
      all_goals omega

/-- How many ids the records of a kind take, with those of the records that are drawn before them. -/
def idsFor (k : Kind) (count : Nat) : Nat :=
  match k with
  | .relationships => count + 1 + count
  | .history => count + count
  | _ => count

theorem relationships_spec (count i : Nat) :
    ⦃fun s => ⌜s.nextId.toNat = i⌝⦄ records .relationships count
    ⦃post⟨fun rs s => ⌜IsBatch .relationships count rs ∧
        Counted i (rs.map Record.id) (i + idsFor .relationships count) ∧
        s.nextId.toNat = i + idsFor .relationships count⌝,
      fun _ => ⌜2 ^ 64 ≤ i + idsFor .relationships count⌝⟩⦄ := by
  have hentities := batch_of_times entity_spec
  simp only [idsFor]
  unfold records
  mvcgen [hentities]
  case vc1 s hs n s₁ hn es s₂ hes rs s₃ =>
    obtain ⟨rfl, hnext₁⟩ := hn
    obtain ⟨hbatch, hids₁, hnext₂⟩ := hes
    rw [hnext₁, hs] at hids₁ hnext₂
    rw [hnext₂, hbatch.length, Nat.add_sub_cancel]
    intro hrs hids hnext
    have hne : ∀ e ∈ es, e.id ≠ "" := fun e he => hids₁.ne_empty (List.mem_map_of_mem he)
    exact ⟨hrs hne hids₁.nodup, Nat.add_assoc _ _ _ ▸ hids.since hids₁.le, by omega⟩
  case vc2 s hs n s₁ hn es s₂ hes _ =>
    have hlength := hes.1.length
    omega
  all_goals omega

theorem histories_spec (count i : Nat) :
    ⦃fun s => ⌜s.nextId.toNat = i⌝⦄ records .history count
    ⦃post⟨fun rs s => ⌜IsBatch .history count rs ∧ Counted i (rs.map Record.id) (i + idsFor .history count) ∧
        s.nextId.toNat = i + idsFor .history count⌝,
      fun _ => ⌜2 ^ 64 ≤ i + idsFor .history count⌝⟩⦄ := by
  have hjobs := batch_of_times job_spec
  have hhistory (js : List Record) (i : Nat) := mapM_spec history_spec js i
  simp only [List.map_const', List.sum_replicate, smul_eq_mul, Nat.mul_one] at hhistory
  simp only [idsFor]
  unfold records
  mvcgen [hjobs, hhistory]
  case vc1 s hs js s₁ hjs rs s₂ =>
    obtain ⟨hbatch, hids₁, hnext₁⟩ := hjs
    rw [hs] at hids₁ hnext₁
    rw [hnext₁, hbatch.length, Nat.add_assoc]
    intro hrs hids hnext
    rw [← List.map_eq_flatMap] at hids
    exact ⟨⟨hrs.length_eq.symm.trans hbatch.length, forall_mem_of_forall₂ hrs⟩, hids.since hids₁.le, hnext⟩
  case vc2 s hs js s₁ hjs _ =>
    have hlength := hjs.1.length
    omega
  all_goals omega

theorem records_spec (k : Kind) (count i : Nat) :
    ⦃fun s => ⌜s.nextId.toNat = i⌝⦄ records k count
    ⦃post⟨fun rs s => ⌜IsBatch k count rs ∧ Counted i (rs.map Record.id) (i + idsFor k count) ∧
        s.nextId.toNat = i + idsFor k count⌝,
      fun _ => ⌜2 ^ 64 ≤ i + idsFor k count⌝⟩⦄ := by
  cases k with
  | entities => exact batch_of_times entity_spec count i
  | jobs => exact batch_of_times job_spec count i
  | logs => exact batch_of_times log_spec count i
  | protocols => exact batch_of_times protocol_spec count i
  | relationships => exact relationships_spec count i
  | history => exact histories_spec count i

/-- The batches that a sampler gives, one after another. -/
def batches (calls : List (Kind × Nat)) : Sampling (List (List Record)) := calls.mapM fun c => records c.1 c.2

/-- How many ids the batches take. -/
def idsOf (calls : List (Kind × Nat)) : Nat := (calls.map fun c => idsFor c.1 c.2).sum

theorem batches_spec (calls : List (Kind × Nat)) (i : Nat) :
    ⦃fun s => ⌜s.nextId.toNat = i⌝⦄ batches calls
    ⦃post⟨fun drawn s => ⌜List.Forall₂ (fun c rs => IsBatch c.1 c.2 rs) calls drawn ∧
        Counted i (drawn.flatMap (·.map Record.id)) (i + idsOf calls) ∧ s.nextId.toNat = i + idsOf calls⌝,
      fun _ => ⌜2 ^ 64 ≤ i + idsOf calls⌝⟩⦄ :=
  mapM_spec (fun (c : Kind × Nat) i => records_spec c.1 c.2 i) calls i

/-- The ids of the entities and of the job that are drawn first are not given again. -/
example : ((batches [(.relationships, 1), (.history, 1)] (ofSeed 0)).map fun r => r.1.flatten.map Record.id) =
    some ["rel-3", "hist-5"] := by
  decide +kernel

end Sampler

end RecordDesk
