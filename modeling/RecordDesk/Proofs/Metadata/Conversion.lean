import Mathlib.Data.List.Forall2
import Mathlib.Logic.Relation
import RecordDesk.Proofs.Metadata.Wire

/-!
Which metadata JSON keeps, and which JSON metadata keep. A tree comes back from its object exactly when all its reals
are finite and all its lists hold scalars; an object comes back from its tree exactly when all its arrays hold scalars
and all its integers fit 64 signed bits (`conversion_exact`).

Both conversions work part by part, and metadata and JSON are both nested values: what holds `Everywhere` in one holds
of it and everywhere in its direct parts, and induction goes from the direct parts to the whole.
-/

namespace RecordDesk

/-! ## Nested values -/

/-- Values that stand in one another. -/
class Nested (α : Type) [SizeOf α] where
  /-- What stands directly in a value. -/
  parts : α → List α
  smaller {w v : α} : w ∈ parts v → sizeOf w < sizeOf v

namespace Nested

variable {α : Type} [SizeOf α] [Nested α] {p q : α → Prop} {v : α}

/-- A property of a value and of all that stands in it, at any depth. -/
def Everywhere (p : α → Prop) (v : α) : Prop := ∀ w, Relation.ReflTransGen (fun a b => a ∈ parts b) w v → p w

theorem everywhere_iff : Everywhere p v ↔ p v ∧ ∀ w ∈ parts v, Everywhere p w := by
  refine ⟨fun h => ⟨h v .refl, fun w hw u hu => h u (hu.tail hw)⟩, fun ⟨hself, hparts⟩ u hu => ?_⟩
  rcases hu.cases_tail with rfl | ⟨w, hu, hw⟩
  · exact hself
  · exact hparts w hw u hu

theorem everywhere_of_leaf (h : parts v = []) : Everywhere p v ↔ p v := by
  rw [everywhere_iff, h]
  exact and_iff_left fun w hw => absurd hw List.not_mem_nil

theorem everywhere_and : Everywhere (fun w => p w ∧ q w) v ↔ Everywhere p v ∧ Everywhere q v :=
  ⟨fun h => ⟨fun w hw => (h w hw).1, fun w hw => (h w hw).2⟩, fun h w hw => ⟨h.1 w hw, h.2 w hw⟩⟩

@[elab_as_elim]
theorem induction_parts {motive : α → Prop} (step : ∀ v, (∀ w ∈ parts v, motive w) → motive v) (v : α) : motive v :=
  (measure sizeOf).wf.induction v fun v ih => step v fun w hw => ih w (smaller hw)

omit [Nested α] in
theorem sizeOf_lt_of_mem_entries {w : α} {entries : List (String × α)} (h : w ∈ entries.map Prod.snd) :
    sizeOf w < sizeOf entries := by
  obtain ⟨⟨k, w⟩, he, rfl⟩ := List.mem_map.1 h
  have hsize := List.sizeOf_lt_of_mem he
  simp only [Prod.mk.sizeOf_spec] at hsize
  show sizeOf w < sizeOf entries
  omega

end Nested

open Nested

namespace Json

def isScalar : Json → Bool
  | .array _ => false
  | .object _ => false
  | _ => true

def inner : Json → List Json
  | .array items => items
  | .object entries => entries.map Prod.snd
  | _ => []

theorem sizeOf_of_mem_inner {w v : Json} (hw : w ∈ v.inner) : sizeOf w < sizeOf v := by
  cases v with
  | array items =>
    have hsize : sizeOf w < sizeOf items := List.sizeOf_lt_of_mem hw
    simp only [Json.array.sizeOf_spec]
    omega
  | object entries =>
    have hsize : sizeOf w < sizeOf entries := sizeOf_lt_of_mem_entries hw
    simp only [Json.object.sizeOf_spec]
    omega
  | null | bool | int | real | text => cases hw

instance : Nested Json := ⟨inner, sizeOf_of_mem_inner⟩

/-- A real is finite. JSON has no other numbers. -/
def Finite : Json → Prop
  | .real x => x.isFinite = true
  | _ => True

/-- An array holds only scalars. -/
def Flat : Json → Prop
  | .array items => ∀ v ∈ items, v.isScalar = true
  | _ => True

/-- An integer fits 64 signed bits. -/
def Short : Json → Prop
  | .int n => -2 ^ 63 ≤ n ∧ n < 2 ^ 63
  | _ => True

/-- An object is in ascending key order. -/
def Sorted : Json → Prop
  | .object entries => Keyed.Ascending entries
  | _ => True

theorem flat_of_isScalar {v : Json} (hs : v.isScalar = true) : v.Flat := by
  cases v with
  | array => exact absurd hs Bool.false_ne_true
  | _ => trivial

theorem everywhere_of_isScalar {p : Json → Prop} {v : Json} (hs : v.isScalar = true) : Everywhere p v ↔ p v := by
  refine everywhere_of_leaf ?_
  cases v with
  | array | object => exact absurd hs Bool.false_ne_true
  | _ => rfl

@[simp] theorem everywhere_array {p : Json → Prop} {items : List Json} :
    Everywhere p (.array items) ↔ p (.array items) ∧ ∀ v ∈ items, Everywhere p v := everywhere_iff

@[simp] theorem everywhere_object {p : Json → Prop} {entries : List (String × Json)} :
    Everywhere p (.object entries) ↔ p (.object entries) ∧ ∀ e ∈ entries, Everywhere p e.2 :=
  everywhere_iff.trans (and_congr_right' List.forall_mem_map)

end Json

namespace Metadata

namespace Value

def inner : Value → List Value
  | .list items => items
  | .tree entries => entries.map Prod.snd
  | _ => []

theorem sizeOf_of_mem_inner {w v : Value} (hw : w ∈ v.inner) : sizeOf w < sizeOf v := by
  cases v with
  | list items =>
    have hsize : sizeOf w < sizeOf items := List.sizeOf_lt_of_mem hw
    simp only [Value.list.sizeOf_spec]
    omega
  | tree entries =>
    have hsize : sizeOf w < sizeOf entries := sizeOf_lt_of_mem_entries hw
    simp only [Value.tree.sizeOf_spec]
    omega
  | null | bool | int | real | text => cases hw

instance : Nested Value := ⟨inner, sizeOf_of_mem_inner⟩

/-- A real is finite. -/
def Finite : Value → Prop
  | .real x => x.isFinite = true
  | _ => True

/-- A list holds only scalars. -/
def Flat : Value → Prop
  | .list items => ∀ v ∈ items, v.isScalar = true
  | _ => True

/-- A tree is in ascending key order. -/
def Sorted : Value → Prop
  | .tree entries => Keyed.Ascending entries
  | _ => True

theorem flat_of_isScalar {v : Value} (hs : v.isScalar = true) : v.Flat := by
  cases v with
  | list => exact absurd hs Bool.false_ne_true
  | _ => trivial

theorem everywhere_of_isScalar {p : Value → Prop} {v : Value} (hs : v.isScalar = true) : Everywhere p v ↔ p v := by
  refine everywhere_of_leaf ?_
  cases v with
  | list | tree => exact absurd hs Bool.false_ne_true
  | _ => rfl

@[simp] theorem everywhere_list {p : Value → Prop} {items : List Value} :
    Everywhere p (.list items) ↔ p (.list items) ∧ ∀ v ∈ items, Everywhere p v := everywhere_iff

@[simp] theorem everywhere_tree {p : Value → Prop} {entries : List (String × Value)} :
    Everywhere p (.tree entries) ↔ p (.tree entries) ∧ ∀ e ∈ entries, Everywhere p e.2 :=
  everywhere_iff.trans (and_congr_right' List.forall_mem_map)

end Value

/-! ## Entry by entry -/

theorem map_eq_self_iff {α : Type} {f : α → α} {xs : List α} : xs.map f = xs ↔ ∀ x ∈ xs, f x = x := by
  rw [← List.map_inj_left, List.map_id']

theorem itemsToJson_eq_map (vs : List Value) : itemsToJson vs = vs.map Value.toJson := by
  induction vs with
  | nil => rfl
  | cons v vs ih => rw [itemsToJson, ih, List.map_cons]

theorem entriesToJson_eq_map (es : List (String × Value)) :
    entriesToJson es = es.map fun e => (e.1, e.2.toJson) := by
  induction es with
  | nil => rfl
  | cons e es ih => rw [entriesToJson, ih, List.map_cons]

theorem entriesOfJson_eq_map (es : List (String × Json)) :
    entriesOfJson es = es.map fun e => (e.1, Value.ofJson e.2) := by
  induction es with
  | nil => rfl
  | cons e es ih => rw [entriesOfJson, ih, List.map_cons]

/-! ## Scalars -/

theorem isScalar_toJson (v : Value) : v.toJson.isScalar = v.isScalar := by
  cases v with
  | real x =>
    rw [Value.toJson, Json.ofReal]
    split
    · rfl
    · rfl
  | _ => rfl

/-- What is nested inside a list comes back as text. -/
theorem isScalar_ofItem (v : Json) : (Value.ofItem v).isScalar = true := by
  cases v with
  | int n =>
    show (ofInteger n).isScalar = true
    unfold ofInteger
    split
    · rfl
    · rfl
  | _ => rfl

/-- Outside of lists scalars are read as inside. -/
theorem ofJson_of_isScalar {v : Json} (hs : v.isScalar = true) : Value.ofJson v = Value.ofItem v := by
  cases v with
  | array | object => exact absurd hs Bool.false_ne_true
  | _ => rfl

/-! ## Metadata through JSON -/

/-- What two ways of comparing values have in common: lists and trees are compared item by item, and of the scalars
those that JSON can hold are equal to themselves. -/
structure Compares (r : Value → Value → Prop) : Prop where
  list {as bs : List Value} : r (.list as) (.list bs) ↔ List.Forall₂ r as bs
  tree {as bs : List (String × Value)} :
    r (.tree as) (.tree bs) ↔ List.Forall₂ (fun a b => a.1 = b.1 ∧ r a.2 b.2) as bs
  scalar {v : Value} : v.isScalar = true → v.Finite → r v v
  isScalar {a b : Value} : r a b → a.isScalar = b.isScalar
  null {x : Binary64} : ¬ r .null (.real x)

theorem compares_eq : Compares (· = ·) where
  list {as bs} := by rw [List.forall₂_eq_eq_eq, Value.list.injEq]
  tree {as bs} := by
    simp only [← Prod.ext_iff]
    rw [List.forall₂_eq_eq_eq, Value.tree.injEq]
  scalar _ _ := rfl
  isScalar := congrArg _
  null h := nomatch h

theorem compares_same : Compares fun a b => a.same b = true where
  list {as bs} := by
    rw [Value.same]
    induction as generalizing bs with
    | nil => cases bs <;> simp [sameItems]
    | cons a as ih =>
      cases bs with
      | nil => simp [sameItems]
      | cons b bs => simp [sameItems, ih]
  tree {as bs} := by
    rw [Value.same]
    induction as generalizing bs with
    | nil => cases bs <;> simp [sameEntries]
    | cons a as ih =>
      cases bs with
      | nil => simp [sameEntries]
      | cons b bs => simp [sameEntries, ih]
  scalar {v} hs hf := by
    cases v with
    | real x =>
      have hnan : x.isNaN = false := by
        have hfinite : x.isFinite = true := hf
        unfold Binary64.isFinite at hfinite
        unfold Binary64.isNaN
        rw [beq_eq_false_iff_ne.2 (bne_iff_ne.1 hfinite), Bool.false_and]
      simp [Value.same, Binary64.same, hnan]
    | null => rfl
    | bool | int | text => exact beq_self_eq_true _
    | list | tree => exact absurd hs Bool.false_ne_true
  isScalar {a b} h := by
    cases a <;> cases b <;> first | rfl | exact absurd h Bool.false_ne_true
  null := Bool.false_ne_true

namespace Compares

variable {r : Value → Value → Prop}

/-- A scalar comes back exactly when JSON can hold it. -/
theorem ofItem_toJson_iff (hr : Compares r) {v : Value} (hs : v.isScalar = true) :
    r (Value.ofItem v.toJson) v ↔ v.Finite := by
  refine ⟨fun h => ?_, fun hf => ?_⟩
  · cases v with
    | real x =>
      by_contra hinfinite
      change ¬ x.isFinite = true at hinfinite
      have hlost : Value.ofItem (Value.real x).toJson = .null := by
        rw [Value.toJson, Json.ofReal, if_neg hinfinite]
        rfl
      rw [hlost] at h
      exact hr.null h
    | _ => trivial
  · have hportable : v.Portable := by
      cases v with
      | real x => exact hf
      | null | bool | int | text => trivial
      | list | tree => exact absurd hs Bool.false_ne_true
    rw [Metadata.ofItem_toJson hs hportable]
    exact hr.scalar hs hf

/-- A value comes back exactly when JSON can hold all its parts. -/
theorem ofJson_toJson_iff (hr : Compares r) (v : Value) :
    r (Value.ofJson v.toJson) v ↔ Everywhere (fun w => w.Finite ∧ w.Flat) v := by
  have hscalar {v : Value} (hs : v.isScalar = true) :
      r (Value.ofItem v.toJson) v ↔ Everywhere (fun w => w.Finite ∧ w.Flat) v := by
    rw [hr.ofItem_toJson_iff hs, Value.everywhere_of_isScalar hs, and_iff_left (Value.flat_of_isScalar hs)]
  induction v using induction_parts with
  | step v ih =>
    cases v with
    | list items =>
      have hback : Value.ofJson (Value.list items).toJson = .list (items.map fun v => Value.ofItem v.toJson) := by
        rw [Value.toJson, Value.ofJson, itemsToJson_eq_map, List.map_map]
        rfl
      rw [hback, hr.list, List.forall₂_map_left_iff, List.forall₂_same, Value.everywhere_list]
      constructor
      · intro h
        have hs (v : Value) (hv : v ∈ items) : v.isScalar = true := by
          rw [← hr.isScalar (h v hv), isScalar_ofItem]
        exact ⟨⟨trivial, hs⟩, fun v hv => (hscalar (hs v hv)).1 (h v hv)⟩
      · rintro ⟨⟨-, hs⟩, h⟩ v hv
        exact (hscalar (hs v hv)).2 (h v hv)
    | tree entries =>
      have hback : Value.ofJson (Value.tree entries).toJson =
          .tree (entries.map fun e => (e.1, Value.ofJson e.2.toJson)) := by
        rw [Value.toJson, Value.ofJson, entriesToJson_eq_map, entriesOfJson_eq_map, List.map_map]
        rfl
      rw [hback, hr.tree, List.forall₂_map_left_iff, List.forall₂_same, Value.everywhere_tree]
      have hentry (e : String × Value) (he : e ∈ entries) := ih e.2 (List.mem_map_of_mem he)
      constructor
      · intro h
        exact ⟨⟨trivial, trivial⟩, fun e he => (hentry e he).1 (h e he).2⟩
      · rintro ⟨-, h⟩ e he
        exact ⟨rfl, (hentry e he).2 (h e he)⟩
    | null | bool | int | real | text =>
      rw [ofJson_of_isScalar (isScalar_toJson _)]
      exact hscalar rfl

end Compares

/-! ## JSON through metadata -/

theorem toJson_ofInteger_iff (n : Int) : (ofInteger n).toJson = .int n ↔ (Json.int n).Short := by
  unfold ofInteger
  split
  · next h =>
    refine iff_of_true ?_ h
    rw [Value.toJson, Int64.toInt_ofInt_of_le h.1 h.2]
  · next h =>
    refine iff_of_false (fun hsame => ?_) h
    rw [Value.toJson, Json.ofReal] at hsame
    split at hsame
    · cases hsame
    · cases hsame

/-- A scalar comes back exactly when it is a finite real, a short integer or no number. -/
theorem toJson_ofItem_iff {v : Json} (hs : v.isScalar = true) :
    (Value.ofItem v).toJson = v ↔ v.Finite ∧ v.Short := by
  cases v with
  | int n => exact (toJson_ofInteger_iff n).trans (and_iff_right trivial).symm
  | real x =>
    refine Iff.trans ?_ (and_iff_left trivial).symm
    show Json.ofReal x = .real x ↔ x.isFinite = true
    unfold Json.ofReal
    split
    · next h => exact iff_of_true rfl h
    · next h => exact iff_of_false (fun hsame => nomatch hsame) h
  | null | bool | text => exact iff_of_true rfl ⟨trivial, trivial⟩
  | array | object => exact absurd hs Bool.false_ne_true

/-- A JSON value comes back exactly when metadata can hold all its parts. -/
theorem toJson_ofJson_iff (v : Json) :
    (Value.ofJson v).toJson = v ↔ Everywhere (fun w => (w.Finite ∧ w.Short) ∧ w.Flat) v := by
  have hscalar {v : Json} (hs : v.isScalar = true) :
      (Value.ofItem v).toJson = v ↔ Everywhere (fun w => (w.Finite ∧ w.Short) ∧ w.Flat) v := by
    rw [toJson_ofItem_iff hs, Json.everywhere_of_isScalar hs, and_iff_left (Json.flat_of_isScalar hs)]
  induction v using induction_parts with
  | step v ih =>
    cases v with
    | array items =>
      have hback : (Value.ofJson (.array items)).toJson = .array (items.map fun v => (Value.ofItem v).toJson) := by
        rw [Value.ofJson, Value.toJson, itemsToJson_eq_map, List.map_map]
        rfl
      rw [hback, Json.array.injEq, map_eq_self_iff, Json.everywhere_array]
      constructor
      · intro h
        have hs (v : Json) (hv : v ∈ items) : v.isScalar = true := by
          rw [← h v hv, isScalar_toJson, isScalar_ofItem]
        exact ⟨⟨⟨trivial, trivial⟩, hs⟩, fun v hv => (hscalar (hs v hv)).1 (h v hv)⟩
      · rintro ⟨⟨-, hs⟩, h⟩ v hv
        exact (hscalar (hs v hv)).2 (h v hv)
    | object entries =>
      have hback : (Value.ofJson (.object entries)).toJson =
          .object (entries.map fun e => (e.1, (Value.ofJson e.2).toJson)) := by
        rw [Value.ofJson, Value.toJson, entriesOfJson_eq_map, entriesToJson_eq_map, List.map_map]
        rfl
      rw [hback, Json.object.injEq, map_eq_self_iff, Json.everywhere_object]
      have hentry (e : String × Json) (he : e ∈ entries) := ih e.2 (List.mem_map_of_mem he)
      constructor
      · intro h
        exact ⟨⟨⟨trivial, trivial⟩, trivial⟩, fun e he => (hentry e he).1 (congrArg Prod.snd (h e he))⟩
      · rintro ⟨-, h⟩ e he
        exact Prod.ext rfl ((hentry e he).2 (h e he))
    | null | bool | int | real | text =>
      rw [ofJson_of_isScalar rfl]
      exact hscalar rfl

/-- The lists of metadata from JSON hold only scalars, whatever its arrays hold. -/
theorem everywhere_flat_ofJson (v : Json) : Everywhere Value.Flat (Value.ofJson v) := by
  have hscalar {v : Value} (hs : v.isScalar = true) : Everywhere Value.Flat v :=
    (Value.everywhere_of_isScalar hs).2 (Value.flat_of_isScalar hs)
  induction v using induction_parts with
  | step v ih =>
    cases v with
    | array items =>
      rw [Value.ofJson, Value.everywhere_list]
      have hitems : ∀ v ∈ items.map Value.ofItem, v.isScalar = true :=
        List.forall_mem_map.2 fun v _ => isScalar_ofItem v
      exact ⟨hitems, fun v hv => hscalar (hitems v hv)⟩
    | object entries =>
      rw [Value.ofJson, entriesOfJson_eq_map, Value.everywhere_tree]
      exact ⟨trivial, List.forall_mem_map.2 fun e he => ih e.2 (List.mem_map_of_mem he)⟩
    | null | bool | int | real | text =>
      rw [ofJson_of_isScalar rfl]
      exact hscalar (isScalar_ofItem _)

/-- Metadata from JSON are in ascending order where the objects are. -/
theorem everywhere_sorted_ofJson {v : Json} (h : Everywhere Json.Sorted v) :
    Everywhere Value.Sorted (Value.ofJson v) := by
  induction v using induction_parts with
  | step v ih =>
    have hscalar {v : Value} (hs : v.isScalar = true) : Everywhere Value.Sorted v := by
      rw [Value.everywhere_of_isScalar hs]
      cases v with
      | tree => exact absurd hs Bool.false_ne_true
      | _ => trivial
    cases v with
    | array items =>
      rw [Value.ofJson, Value.everywhere_list]
      exact ⟨trivial, List.forall_mem_map.2 fun v _ => hscalar (isScalar_ofItem v)⟩
    | object entries =>
      obtain ⟨hascending, hentries⟩ := Json.everywhere_object.1 h
      rw [Value.ofJson, entriesOfJson_eq_map, Value.everywhere_tree]
      exact ⟨List.pairwise_map.2 hascending,
        List.forall_mem_map.2 fun e he => ih e.2 (List.mem_map_of_mem he) (hentries e he)⟩
    | null | bool | int | real | text =>
      rw [ofJson_of_isScalar rfl]
      exact hscalar (isScalar_ofItem _)

/-! ## Properties as text -/

/-- The text of an object with entries starts with a brace. -/
theorem all_isBlank_pretty (e : String × Json) (es : List (String × Json)) :
    (Json.object (e :: es)).pretty.toList.all Text.isBlank = false := by
  have hbrace : "\x7b".toList.all Text.isBlank = false := by decide
  rw [Json.pretty, Json.prettyAt]
  simp only [String.toList_append, List.all_append, hbrace, Bool.false_and]

/-- Properties that JSON can hold are read from their text, if the reader reads the text of their object. -/
theorem readProperties_propertiesText {m : Tree} (hback : Value.ofJson (Value.tree m).toJson = .tree m)
    (hparse : (Json.read? m.toJson.pretty).map Json.normal = some m.toJson) :
    Tree.readProperties (Tree.propertiesText m) = .ok m := by
  cases m with
  | nil => rfl
  | cons e es =>
    obtain ⟨v, hread, hnormal⟩ := Option.map_eq_some_iff.1 hparse
    have hentries : entriesOfJson (entriesToJson (e :: es)) = e :: es := Value.tree.inj hback
    have htext : Tree.propertiesText (e :: es) = (Tree.toJson (e :: es)).pretty := rfl
    have hblank : (Tree.toJson (e :: es)).pretty.toList.all Text.isBlank = false := all_isBlank_pretty _ _
    rw [htext, Tree.readProperties, hblank, if_neg Bool.false_ne_true, Json.read?_eq_some_iff.1 hread]
    dsimp only
    rw [hnormal, Tree.toJson]
    dsimp only
    rw [hentries]

/-- Metadata are read from their own object as they were exactly when everywhere in them reals are finite and lists hold
only scalars; that the two zeros count as one number changes nothing about this. An object always reads as metadata
whose lists hold only scalars, sorted if it is; and it is what these are sent as exactly when everywhere in it arrays
hold only scalars and integers fit 64 signed bits. Properties are read from their text as they were if the reader reads
the text of their object as the object. -/
theorem conversion_exact :
    (∀ m : Tree, ∃ m', Tree.ofJson? m.toJson = .ok m' ∧
      (m' = m ↔ Everywhere Value.Finite (.tree m) ∧ Everywhere Value.Flat (.tree m)) ∧
      (m'.same m = true ↔ Everywhere Value.Finite (.tree m) ∧ Everywhere Value.Flat (.tree m))) ∧
    (∀ entries : List (String × Json), ∃ t, Tree.ofJson? (.object entries) = .ok t ∧
      Everywhere Value.Flat (.tree t) ∧
      (Everywhere Json.Sorted (.object entries) → Everywhere Value.Sorted (.tree t)) ∧
      (Everywhere Json.Finite (.object entries) →
        (t.toJson = .object entries ↔
          Everywhere Json.Flat (.object entries) ∧ Everywhere Json.Short (.object entries)))) ∧
    ∀ m : Tree, Everywhere Value.Finite (.tree m) → Everywhere Value.Flat (.tree m) →
      (Json.read? m.toJson.pretty).map Json.normal = some m.toJson →
        Tree.readProperties (Tree.propertiesText m) = .ok m := by
  refine ⟨fun m => ⟨entriesOfJson (entriesToJson m), rfl, ?_, ?_⟩, fun entries => ⟨entriesOfJson entries, rfl,
    everywhere_flat_ofJson (.object entries), everywhere_sorted_ofJson, fun hfinite => ?_⟩, fun m hfinite hflat => ?_⟩
  · rw [← everywhere_and, ← compares_eq.ofJson_toJson_iff, Value.toJson, Value.ofJson, Value.tree.injEq]
  · rw [← everywhere_and, ← compares_same.ofJson_toJson_iff, Value.toJson, Value.ofJson, Value.same]
    rfl
  · have hback := toJson_ofJson_iff (.object entries)
    rw [everywhere_and, everywhere_and, and_iff_right hfinite, and_comm] at hback
    exact hback
  · exact readProperties_propertiesText ((compares_eq.ofJson_toJson_iff _).2 (everywhere_and.2 ⟨hfinite, hflat⟩))

/-- Metadata with a list and a tree inside. -/
def crate : Tree := [("lid", .tree [("shut", .bool true)]), ("parts", .list [.int (-3), .text "a,b"])]

/-- A list and an object stand in an array. -/
def packed : List (String × Json) := [("parts", .array [.int 3, .object [("shut", .bool true)]])]

theorem conversion_exact_crate :
    (Json.read? crate.toJson.pretty).map Json.normal = some crate.toJson ∧
      Tree.readProperties (Tree.propertiesText crate) = .ok crate ∧
      Everywhere Json.Sorted (.object packed) ∧ Everywhere Json.Finite (.object packed) ∧
      ∃ t, Tree.ofJson? (.object packed) = .ok t ∧ Everywhere Value.Sorted (.tree t) ∧ t.toJson ≠ .object packed := by
  have htext : crate.toJson.pretty =
      "\x7b\n  \"lid\": \x7b\n    \"shut\": true\n  \x7d,\n  \"parts\": [\n    -3,\n    \"a,b\"\n  ]\n\x7d" := by
    decide +kernel
  have hparse : (Json.read? crate.toJson.pretty).map Json.normal = some crate.toJson := by
    rw [htext]
    decide +kernel
  have hfinite : Everywhere Value.Finite (.tree crate) := by
    simp (disch := decide) [crate, Value.everywhere_of_isScalar, Value.Finite]
  have hflat : Everywhere Value.Flat (.tree crate) := by
    simp (disch := decide) [crate, Value.everywhere_of_isScalar, Value.Flat, Value.isScalar]
  have hsorted : Everywhere Json.Sorted (.object packed) := by
    simp (disch := decide) [packed, Json.everywhere_of_isScalar, Json.Sorted, Keyed.Ascending]
  have hreal : Everywhere Json.Finite (.object packed) := by
    simp (disch := decide) [packed, Json.everywhere_of_isScalar, Json.Finite]
  obtain ⟨-, hobjects, htexts⟩ := conversion_exact
  obtain ⟨t, hread, -, hordered, hback⟩ := hobjects packed
  refine ⟨hparse, htexts crate hfinite hflat hparse, hsorted, hreal, t, hread, hordered hsorted, fun hsame => ?_⟩
  have hlists := ((hback hreal).1 hsame).1
  simp [packed, Json.Flat, Json.isScalar] at hlists

end Metadata

end RecordDesk
