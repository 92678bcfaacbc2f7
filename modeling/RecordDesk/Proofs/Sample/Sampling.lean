import Mathlib
import RecordDesk.Proofs.Text.Cutting
import RecordDesk.Sample.Records

/-!
What a sampler gives, whatever its generator draws: a number below a bound, one of some texts, and ids that count up.
Since an id tells its number, ids that were given one after another are all different (`Counted.append`). A loop
over samplings does what each of its rounds does (`mapM_spec`). It is known beforehand how many ids will be drawn, and
the only way to stop is to draw more of them than 64 bits can count.
-/

open Std.Do

set_option mvcgen.warning false

namespace RecordDesk

namespace Generator

theorem below_lt {n : Nat} (h : 0 < n) (g : Generator) : (g.below n).1 < n := by
  unfold below
  split
  · exact h
  · exact Nat.mod_lt _ h

theorem pick_mem {items : List String} (h : items ≠ []) (g : Generator) : (g.pick items).1 ∈ items := by
  have hlt : (g.below items.length).1 < items.length := below_lt (List.length_pos_iff.2 h) g
  show (items[(g.below items.length).1]?).getD "" ∈ items
  rw [List.getElem?_eq_getElem hlt, Option.getD_some]
  exact List.getElem_mem hlt

end Generator

namespace Sampler

/-! ## Ids -/

def idOf (kind : String) (n : Nat) : String := s!"{kind}-{n}"

theorem toList_idOf (kind : String) (n : Nat) : (idOf kind n).toList = kind.toList ++ '-' :: Nat.toDigits 10 n := by
  rw [idOf, Nat.toString_eq_ofList_toDigits, String.toList_append, String.toList_append, String.toList_ofList,
    List.append_assoc]
  rfl

theorem idOf_ne_empty (kind : String) (n : Nat) : idOf kind n ≠ "" := by
  intro h
  have hlist := toList_idOf kind n
  simp [h] at hlist

/-- An id tells its number, which is what stands behind the last hyphen. -/
theorem number_of_idOf {kind kind' : String} {m n : Nat} (h : idOf kind m = idOf kind' n) : m = n := by
  have hdigits (k : Nat) : '-' ∉ (Nat.toDigits 10 k).reverse := by
    intro hmem
    have hdigit := Nat.isDigit_of_mem_toDigits (by decide) (by decide) (List.mem_reverse.1 hmem)
    exact absurd hdigit (by decide)
  have hcut (kind : String) (k : Nat) : Text.cutAt '-' (idOf kind k).toList.reverse =
      some ((Nat.toDigits 10 k).reverse, kind.toList.reverse) := by
    rw [toList_idOf, List.reverse_append, List.reverse_cons, List.append_assoc, List.singleton_append]
    exact Text.cutAt_append (hdigits k) _
  have heq := hcut kind m
  rw [h, hcut kind' n] at heq
  simp only [Option.some.injEq, Prod.mk.injEq, List.reverse_inj] at heq
  have hvalue := congrArg (Nat.ofDigitChars 10 · 0) heq.1
  simpa using hvalue.symm

/-- The ids were given while the counter went from `i` to `j`, each once. -/
structure Counted (i : Nat) (ids : List String) (j : Nat) : Prop where
  le : i ≤ j
  number : ∀ id ∈ ids, ∃ kind n, id = idOf kind n ∧ i ≤ n ∧ n < j
  nodup : ids.Nodup

namespace Counted

variable {i j k : Nat} {ids ids' : List String}

theorem nil (h : i ≤ j) : Counted i [] j := ⟨h, by simp, List.nodup_nil⟩

theorem singleton (kind : String) (h : i < j) : Counted i [idOf kind i] j where
  le := Nat.le_of_lt h
  number _ hid := ⟨kind, i, List.mem_singleton.1 hid, Nat.le_refl i, h⟩
  nodup := List.nodup_singleton _

theorem append (h : Counted i ids j) (h' : Counted j ids' k) : Counted i (ids ++ ids') k where
  le := Nat.le_trans h.le h'.le
  number id hid := by
    rcases List.mem_append.1 hid with hid | hid
    · obtain ⟨kind, n, rfl, hi, hj⟩ := h.number id hid
      exact ⟨kind, n, rfl, hi, Nat.lt_of_lt_of_le hj h'.le⟩
    · obtain ⟨kind, n, rfl, hj, hk⟩ := h'.number id hid
      exact ⟨kind, n, rfl, Nat.le_trans h.le hj, hk⟩
  nodup := by
    refine List.nodup_append.2 ⟨h.nodup, h'.nodup, ?_⟩
    rintro id hid _ hid' rfl
    -- A common id would have a number on both sides of `j`.
    obtain ⟨kind, m, rfl, -, hm⟩ := h.number id hid
    obtain ⟨kind', n, heq, hn, -⟩ := h'.number _ hid'
    have hmn : m = n := number_of_idOf heq
    omega

/-- What was given later is counted from before, too. -/
theorem since (h : i ≤ j) (h' : Counted j ids k) : Counted i ids k := (nil h).append h'

theorem ne_empty (h : Counted i ids j) {id : String} (hid : id ∈ ids) : id ≠ "" := by
  obtain ⟨kind, n, rfl, -⟩ := h.number id hid
  exact idOf_ne_empty kind n

end Counted

/-! ## Draws -/

/-- An id is given unless the one after it has no number. -/
@[spec]
theorem newId_spec (kind : String) (i : Nat) :
    ⦃fun s => ⌜s.nextId.toNat = i⌝⦄ newId kind
    ⦃post⟨fun id s => ⌜id = idOf kind i ∧ s.nextId.toNat = i + 1⌝, fun _ => ⌜2 ^ 64 ≤ i + 1⌝⟩⦄ := by
  rintro s rfl
  show (wp⟦(fit64? (s.nextId.toNat + 1)).map fun n => (idOf kind s.nextId.toNat, { s with nextId := .ofNat n })⟧ _).down
  cases hfit : fit64? (s.nextId.toNat + 1) with
  | none => exact fit64?_eq_none_iff.1 hfit
  | some n =>
    obtain ⟨rfl, hlt⟩ := fit64?_eq_some_iff.1 hfit
    exact ⟨rfl, UInt64.toNat_ofNat_of_lt' hlt⟩

@[spec]
theorem fit_spec (n i : Nat) :
    ⦃fun s => ⌜s.nextId.toNat = i⌝⦄ fit n
    ⦃post⟨fun m s => ⌜m = n ∧ s.nextId.toNat = i⌝, fun _ => ⌜2 ^ 64 ≤ n⌝⟩⦄ := by
  rintro s rfl
  show (wp⟦(fit64? n).map fun n => (n, s)⟧ _).down
  cases hfit : fit64? n with
  | none => exact fit64?_eq_none_iff.1 hfit
  | some m =>
    obtain ⟨rfl, -⟩ := fit64?_eq_some_iff.1 hfit
    exact ⟨rfl, rfl⟩

@[spec]
theorem below_spec (n i : Nat) :
    ⦃fun s => ⌜s.nextId.toNat = i⌝⦄ below n ⦃⇓ m s => ⌜(0 < n → m < n) ∧ s.nextId.toNat = i⌝⦄ := by
  rintro s rfl
  exact ⟨fun h => Generator.below_lt h s.generator, rfl⟩

@[spec]
theorem pick_spec (items : List String) (i : Nat) :
    ⦃fun s => ⌜s.nextId.toNat = i⌝⦄ pick items ⦃⇓ t s => ⌜(items ≠ [] → t ∈ items) ∧ s.nextId.toNat = i⌝⦄ := by
  rintro s rfl
  exact ⟨fun h => Generator.pick_mem h s.generator, rfl⟩

@[spec]
theorem stamp_spec (i : Nat) : ⦃fun s => ⌜s.nextId.toNat = i⌝⦄ stamp ⦃⇓ _ s => ⌜s.nextId.toNat = i⌝⦄ := by
  mvcgen [stamp]
  rename_i s hs _ s' hs'
  exact hs'.2.trans hs

/-! ## Loops -/

section Loops

variable {α β : Type} {ids : β → List String}

/-- What holds of every round holds of a whole loop, and the ids of its rounds go on counting. -/
theorem mapM_spec {f : α → Sampling β} {R : α → β → Prop} {k : α → Nat}
    (hf : ∀ a i, ⦃fun s => ⌜s.nextId.toNat = i⌝⦄ f a
      ⦃post⟨fun b s => ⌜R a b ∧ Counted i (ids b) (i + k a) ∧ s.nextId.toNat = i + k a⌝,
        fun _ => ⌜2 ^ 64 ≤ i + k a⌝⟩⦄)
    (as : List α) (i : Nat) :
    ⦃fun s => ⌜s.nextId.toNat = i⌝⦄ as.mapM f
    ⦃post⟨fun bs s => ⌜List.Forall₂ R as bs ∧ Counted i (bs.flatMap ids) (i + (as.map k).sum) ∧
        s.nextId.toNat = i + (as.map k).sum⌝,
      fun _ => ⌜2 ^ 64 ≤ i + (as.map k).sum⌝⟩⦄ := by
  induction as generalizing i with
  | nil =>
    rw [List.mapM_nil]
    rintro s rfl
    exact ⟨.nil, .nil (Nat.le_refl _), rfl⟩
  | cons a as ih =>
    rw [List.mapM_cons, List.map_cons, List.sum_cons, ← Nat.add_assoc]
    mvcgen [hf, ih]
    case vc1 s hs b s' hb bs s'' hbs =>
      obtain ⟨hb, hids, hnext⟩ := hb
      rw [hs] at hids hnext
      rw [hnext] at hbs
      exact ⟨.cons hb hbs.1, hids.append hbs.2.1, hbs.2.2⟩
    all_goals omega

theorem forall_mem_of_forall₂ {P : β → Prop} {as : List α} {bs : List β} (h : List.Forall₂ (fun _ => P) as bs) :
    ∀ b ∈ bs, P b := by
  induction h with
  | nil => exact fun b hb => absurd hb List.not_mem_nil
  | cons hb _ ih => exact List.forall_mem_cons.2 ⟨hb, ih⟩

theorem times_spec {x : Sampling β} {P : β → Prop} {k : Nat}
    (hx : ∀ i, ⦃fun s => ⌜s.nextId.toNat = i⌝⦄ x
      ⦃post⟨fun b s => ⌜P b ∧ Counted i (ids b) (i + k) ∧ s.nextId.toNat = i + k⌝, fun _ => ⌜2 ^ 64 ≤ i + k⌝⟩⦄)
    (n i : Nat) :
    ⦃fun s => ⌜s.nextId.toNat = i⌝⦄ times n x
    ⦃post⟨fun bs s => ⌜bs.length = n ∧ (∀ b ∈ bs, P b) ∧ Counted i (bs.flatMap ids) (i + n * k) ∧
        s.nextId.toNat = i + n * k⌝,
      fun _ => ⌜2 ^ 64 ≤ i + n * k⌝⟩⦄ := by
  have hloop := mapM_spec (fun _ : Unit => hx) (List.replicate n ()) i
  rw [List.map_replicate, List.sum_replicate, smul_eq_mul] at hloop
  mvcgen [times, hloop]
  rename_i s hs bs s'
  intro hbs hids hnext
  exact ⟨by rw [← hbs.length_eq, List.length_replicate], forall_mem_of_forall₂ hbs, hids, hnext⟩

/-- A loop that gives no ids may draw as often as it likes. -/
theorem times_pick_spec (items : List String) (hne : items ≠ []) (n i : Nat) :
    ⦃fun s => ⌜s.nextId.toNat = i⌝⦄ times n (pick items)
    ⦃⇓ ts s => ⌜ts.length = n ∧ (∀ t ∈ ts, t ∈ items) ∧ s.nextId.toNat = i⌝⦄ := by
  have hround (i : Nat) : ⦃fun s => ⌜s.nextId.toNat = i⌝⦄ pick items
      ⦃post⟨fun t s => ⌜t ∈ items ∧ Counted i [] (i + 0) ∧ s.nextId.toNat = i + 0⌝, fun _ => ⌜2 ^ 64 ≤ i + 0⌝⟩⦄ := by
    mvcgen
    rename_i s hs t s'
    intro ht hs'
    exact ⟨ht hne, .nil (Nat.le_refl i), hs'.trans hs⟩
  have hloop := times_spec hround
  mvcgen [hloop]
  · rename_i s hs ts s'
    intro hlength hts _ hnext
    exact ⟨hlength, hts, hnext.trans (by omega)⟩
  · rename_i s hs _
    intro hfull
    have hlt := s.nextId.toNat_lt
    omega

@[spec]
theorem tags_spec (i : Nat) : ⦃fun s => ⌜s.nextId.toNat = i⌝⦄ tags ⦃⇓ _ s => ⌜s.nextId.toNat = i⌝⦄ := by
  have hloop := times_pick_spec Sample.tagNames (by decide)
  mvcgen [tags, hloop]
  omega

end Loops

end Sampler

end RecordDesk
