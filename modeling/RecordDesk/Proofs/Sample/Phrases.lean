import RecordDesk.Proofs.Metadata.Scalars
import RecordDesk.Proofs.Sample.Sampling
import RecordDesk.Proofs.Text.Lowering

/-!
The texts of samples. A phrase is made of words, which hold no white space, with single spaces between them, so that
trimming leaves it as it is (`phrase_spec`), and its slug holds no white space at all (`not_isBlank_of_mem_slug`).
-/

open Std.Do

set_option mvcgen.warning false

namespace RecordDesk

namespace Sampler

open Text (IsTight isBlank)

/-- There is no white space around a text, and none but spaces in it. -/
structure IsPhrase (cs : List Char) : Prop where
  tight : IsTight cs
  spaces : ∀ c ∈ cs, isBlank c = true → c = ' '

namespace IsPhrase

variable {cs ds : List Char}

theorem of_solid (hne : cs ≠ []) (h : ∀ c ∈ cs, isBlank c = false) : IsPhrase cs where
  tight := ⟨⟨_, List.head?_eq_some_head hne, h _ (List.head_mem hne)⟩,
    ⟨_, List.getLast?_eq_some_getLast hne, h _ (List.getLast_mem hne)⟩⟩
  spaces c hc hblank := by
    rw [h c hc] at hblank
    cases hblank

theorem append_space (h : IsPhrase cs) (h' : IsPhrase ds) : IsPhrase (cs ++ ' ' :: ds) where
  tight := h.tight.append_cons ' ' h'.tight
  spaces c hc hblank := by
    rcases List.mem_append.1 hc with hc | hc
    · exact h.spaces c hc hblank
    · rcases List.mem_cons.1 hc with rfl | hc
      · rfl
      · exact h'.spaces c hc hblank

theorem intercalate {words : List (List Char)} (hne : words ≠ []) (h : ∀ w ∈ words, IsPhrase w) :
    IsPhrase ([' '].intercalate words) := by
  induction words with
  | nil => exact absurd rfl hne
  | cons w words ih =>
    obtain ⟨hw, hwords⟩ := List.forall_mem_cons.1 h
    cases words with
    | nil =>
      rw [List.intercalate_singleton]
      exact hw
    | cons v vs =>
      rw [List.intercalate_cons_cons, List.append_assoc]
      exact hw.append_space (ih (List.cons_ne_nil v vs) hwords)

end IsPhrase

/-! ## Tables -/

/-- The text is not empty, and there is no white space in it. -/
def isSolid (s : String) : Bool := s.toList != [] && s.toList.all fun c => !isBlank c

theorem isPhrase_of_isSolid {table : List String} (h : table.all isSolid = true) {s : String} (hs : s ∈ table) :
    IsPhrase s.toList := by
  have hsolid := List.all_eq_true.1 h s hs
  simp only [isSolid, Bool.and_eq_true, bne_iff_ne, List.all_eq_true, Bool.not_eq_true'] at hsolid
  exact .of_solid hsolid.1 hsolid.2

/-! ## Phrases -/

theorem withoutRuns_ne_nil (w : String) (ws : List String) : withoutRuns (w :: ws) ≠ [] := by
  rw [withoutRuns]
  split
  · exact List.cons_ne_nil _ _
  · split
    · exact List.cons_ne_nil _ _
    · exact List.cons_ne_nil _ _

theorem mem_of_mem_withoutRuns {w : String} {ws : List String} (h : w ∈ withoutRuns ws) : w ∈ ws := by
  induction ws with
  | nil => exact h
  | cons v vs ih =>
    rw [withoutRuns] at h
    split at h
    · exact List.mem_cons.2 (.inl (List.mem_singleton.1 h))
    · next y ys hruns =>
      rw [hruns] at ih
      split at h
      · exact List.mem_cons_of_mem v (ih h)
      · exact List.mem_cons.2 ((List.mem_cons.1 h).imp id ih)

theorem isBlank_toUpper {c : Char} (h : isBlank c = false) : isBlank c.toUpper = false := by
  by_cases hascii : c.toNat < 128
  · have hall : ∀ n < 128, isBlank (Char.ofNat n) = false → isBlank (Char.ofNat n).toUpper = false := by
      decide +kernel
    have hupper := hall c.toNat hascii
    rw [Char.ofNat_toNat] at hupper
    exact hupper h
  · have hkeep : c.toUpper = c := by
      unfold Char.toUpper
      rw [dif_neg]
      rintro ⟨-, hz⟩
      exact hascii (Nat.lt_of_le_of_lt (UInt32.le_iff_toNat_le.1 hz) (by decide))
    rw [hkeep, h]

theorem isPhrase_capitalized {s : String} (h : IsPhrase s.toList) : IsPhrase (capitalized s).toList := by
  obtain ⟨c, rest, hs, hc⟩ := h.tight.exists_cons
  have hupper := isBlank_toUpper hc
  have hlist : (capitalized s).toList = c.toUpper :: rest := by simp [capitalized, hs]
  rw [hs] at h
  rw [hlist]
  refine ⟨⟨⟨_, rfl, hupper⟩, ?_⟩, ?_⟩
  · obtain ⟨d, hd, hblank⟩ := h.tight.last
    cases rest with
    | nil => exact ⟨c.toUpper, rfl, hupper⟩
    | cons e es => exact ⟨d, by rw [← hd]; rfl, hblank⟩
  · refine List.forall_mem_cons.2 ⟨fun hblank => ?_, fun d hd => h.spaces d (List.mem_cons_of_mem c hd)⟩
    rw [hupper] at hblank
    cases hblank

theorem isPhrase_joined {ws : List String} (hne : ws ≠ []) (h : ∀ w ∈ ws, w ∈ Sample.words) :
    IsPhrase (capitalized (Text.joinWith " " (withoutRuns ws))).toList := by
  refine isPhrase_capitalized ?_
  obtain ⟨v, vs, rfl⟩ := List.exists_cons_of_ne_nil hne
  unfold Text.joinWith
  rw [String.toList_intercalate]
  refine IsPhrase.intercalate (mt List.map_eq_nil_iff.1 (withoutRuns_ne_nil v vs)) fun cs hcs => ?_
  obtain ⟨w, hw, rfl⟩ := List.mem_map.1 hcs
  exact isPhrase_of_isSolid (by decide +kernel) (h w (mem_of_mem_withoutRuns hw))

@[spec]
theorem phrase_spec (n i : Nat) :
    ⦃fun s => ⌜s.nextId.toNat = i⌝⦄ phrase n ⦃⇓ t s => ⌜IsPhrase t.toList ∧ s.nextId.toNat = i⌝⦄ := by
  have hloop := times_pick_spec Sample.words (by decide)
  mvcgen [phrase, hloop]
  rename_i s hs ws s' hws
  obtain ⟨hlength, hws, hnext⟩ := hws
  have hne : ws ≠ [] := List.ne_nil_of_length_pos (by omega)
  exact ⟨isPhrase_joined hne hws, by omega⟩

/-! ## Slugs -/

/-- All white space in a phrase are spaces, which become hyphens, and lower case brings up none. -/
theorem not_isBlank_of_mem_slug {s : String} (h : IsPhrase s.toList) : ∀ c ∈ (slug s).toList, isBlank c = false := by
  intro c hc
  simp only [slug, Text.lower, String.toList_map, String.toList_ofList] at hc
  obtain ⟨d, hd, rfl⟩ := List.mem_map.1 hc
  split
  · decide
  · next hspace =>
    refine Bool.eq_false_iff.2 fun hblank => hspace (beq_iff_eq.2 (h.spaces d ?_ hblank))
    exact Text.mem_of_mem_lowerFrom hd (Text.isPlain_of_isBlank hblank)

theorem isPhrase_slug {s : String} (h : IsPhrase s.toList) : IsPhrase (slug s).toList := by
  refine .of_solid ?_ (not_isBlank_of_mem_slug h)
  obtain ⟨c, rest, hlower, -⟩ := h.tight.lowered.exists_cons
  simp [slug, Text.lower, hlower]

/-! ## Numbers -/

theorem isPhrase_toString (n : Nat) : IsPhrase (toString n).toList := by
  rw [Nat.toString_eq_ofList_toDigits, String.toList_ofList]
  refine .of_solid Nat.toDigits_ne_nil fun c hc => ?_
  have hdigit := Nat.isDigit_of_mem_toDigits (by decide) (by decide) hc
  have hbare := Metadata.isBareChar_of_isNumberChar (Metadata.isNumberChar_of_isDigit hdigit)
  exact Metadata.not_isBlank_of_isBareChar hbare

/-- The name of an entity: one of the table, and a number. -/
theorem isPhrase_numbered {name : String} (h : name ∈ Sample.entityNames) (n : Nat) :
    IsPhrase s!"{name} {n}".toList := by
  have hname : IsPhrase name.toList := isPhrase_of_isSolid (by decide +kernel) h
  have hlist : s!"{name} {n}".toList = name.toList ++ ' ' :: (toString n).toList := by
    rw [String.toList_append, String.toList_append, List.append_assoc]
    rfl
  rw [hlist]
  exact hname.append_space (isPhrase_toString n)

end Sampler

end RecordDesk
