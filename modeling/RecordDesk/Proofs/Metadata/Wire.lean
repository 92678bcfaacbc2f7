import RecordDesk.Metadata.Wire

/-!
Metadata are sent as JSON and come back as they were (`Tree.ofJson?_toJson`), when JSON can hold them:
it has no numbers for the reals that are not finite, and what is nested inside a list comes back as
text. The entries of a tree and those of its object stand in the same order, so that sorting the object
changes nothing (`normal_toJson`), and the entries can be read back one by one.
-/

namespace RecordDesk

theorem Json.find?_normalEntries (k : String) (es : List (String × Json)) :
    Keyed.find? k (Json.normalEntries es) = (Keyed.find? k es).map Json.normal := by
  induction es with
  | nil => rfl
  | cons e es ih =>
    rw [Json.normalEntries, Keyed.find?, Keyed.find?, ih]
    split
    · rfl
    · rfl

theorem Json.keys_normalEntries (es : List (String × Json)) :
    (Json.normalEntries es).map Prod.fst = es.map Prod.fst := by
  induction es with
  | nil => rfl
  | cons e es ih => rw [Json.normalEntries, List.map_cons, List.map_cons, ih]

theorem Json.ascending_normalEntries {es : List (String × Json)} (h : Keyed.Ascending es) :
    Keyed.Ascending (Json.normalEntries es) := by
  rw [Keyed.ascending_iff_keys, Json.keys_normalEntries]
  exact Keyed.ascending_iff_keys.1 h

namespace Metadata

/-! ## What JSON can hold -/

mutual

/-- Every real is finite, the items of lists are scalars, and trees are in ascending order, as all trees
of metadata are. -/
def Value.Portable : Value → Prop
  | .real x => x.isFinite = true
  | .list items => ItemsPortable items
  | .tree entries => Keyed.Ascending entries ∧ EntriesPortable entries
  | .null => True
  | .bool _ => True
  | .int _ => True
  | .text _ => True

def ItemsPortable : List Value → Prop
  | [] => True
  | v :: vs => v.isScalar = true ∧ v.Portable ∧ ItemsPortable vs

def EntriesPortable : List (String × Value) → Prop
  | [] => True
  | (_, v) :: es => v.Portable ∧ EntriesPortable es

end

def Tree.Portable (t : Tree) : Prop := (Value.tree t).Portable

mutual

def Value.decidablePortable : (v : Value) → Decidable v.Portable
  | .real x => inferInstanceAs (Decidable (x.isFinite = true))
  | .list items => decidableItemsPortable items
  | .tree entries =>
    have := decidableEntriesPortable entries
    inferInstanceAs (Decidable (entries.Pairwise (fun a b => a.1 < b.1) ∧ EntriesPortable entries))
  | .null | .bool _ | .int _ | .text _ => isTrue trivial

def decidableItemsPortable : (vs : List Value) → Decidable (ItemsPortable vs)
  | [] => isTrue trivial
  | v :: vs =>
    have := Value.decidablePortable v
    have := decidableItemsPortable vs
    inferInstanceAs (Decidable (v.isScalar = true ∧ v.Portable ∧ ItemsPortable vs))

def decidableEntriesPortable : (es : List (String × Value)) → Decidable (EntriesPortable es)
  | [] => isTrue trivial
  | (_, v) :: es =>
    have := Value.decidablePortable v
    have := decidableEntriesPortable es
    inferInstanceAs (Decidable (v.Portable ∧ EntriesPortable es))

end

instance (t : Tree) : Decidable t.Portable := Value.decidablePortable (.tree t)

/-! ## There and back -/

theorem ofInteger_toInt (n : Int64) : ofInteger n.toInt = .int n := by
  unfold ofInteger
  rw [if_pos ⟨Int64.le_toInt n, Int64.toInt_lt n⟩, Int64.ofInt_toInt]

theorem keys_entriesToJson (es : List (String × Value)) :
    (entriesToJson es).map Prod.fst = es.map Prod.fst := by
  induction es with
  | nil => rfl
  | cons e es ih => rw [entriesToJson, List.map_cons, List.map_cons, ih]

theorem ofReal_of_isFinite {x : Binary64} (h : x.isFinite = true) : Json.ofReal x = .real x := if_pos h

/-- A scalar is the same inside and outside a list. -/
theorem ofItem_toJson {v : Value} (hs : v.isScalar = true) (h : v.Portable) : Value.ofItem v.toJson = v := by
  cases v with
  | real x =>
    rw [Value.toJson, ofReal_of_isFinite h]
    rfl
  | int n => exact ofInteger_toInt n
  | null | bool | text => rfl
  | list | tree => exact absurd hs Bool.false_ne_true

theorem map_ofItem_itemsToJson {vs : List Value} (h : ItemsPortable vs) :
    (itemsToJson vs).map Value.ofItem = vs := by
  induction vs with
  | nil => rfl
  | cons v vs ih =>
    obtain ⟨hs, hv, hvs⟩ := h
    rw [itemsToJson, List.map_cons, ofItem_toJson hs hv, ih hvs]

mutual

theorem Value.ofJson_toJson {v : Value} (h : v.Portable) : Value.ofJson v.toJson = v := by
  cases v with
  | tree entries => exact congrArg Value.tree (entriesOfJson_entriesToJson h.2)
  | list items => exact congrArg Value.list (map_ofItem_itemsToJson h)
  | real x =>
    rw [Value.toJson, ofReal_of_isFinite h]
    rfl
  | int n => exact ofInteger_toInt n
  | null | bool | text => rfl

theorem entriesOfJson_entriesToJson {es : List (String × Value)} (h : EntriesPortable es) :
    entriesOfJson (entriesToJson es) = es := by
  cases es with
  | nil => rfl
  | cons e es =>
    rw [entriesToJson, entriesOfJson, Value.ofJson_toJson h.1, entriesOfJson_entriesToJson h.2]

end

theorem normal_toJson_of_isScalar {v : Value} (hs : v.isScalar = true) : v.toJson.normal = v.toJson := by
  cases v with
  | real x =>
    rw [Value.toJson, Json.ofReal]
    split
    · rfl
    · rfl
  | null | bool | int | text => rfl
  | list | tree => exact absurd hs Bool.false_ne_true

theorem normalItems_itemsToJson {vs : List Value} (h : ItemsPortable vs) :
    Json.normalItems (itemsToJson vs) = itemsToJson vs := by
  induction vs with
  | nil => rfl
  | cons v vs ih => rw [itemsToJson, Json.normalItems, normal_toJson_of_isScalar h.1, ih h.2.2]

mutual

theorem normal_toJson {v : Value} (h : v.Portable) : v.toJson.normal = v.toJson := by
  cases v with
  | tree entries =>
    have hasc : Keyed.Ascending (entriesToJson entries) := by
      rw [Keyed.ascending_iff_keys, keys_entriesToJson]
      exact Keyed.ascending_iff_keys.1 h.1
    rw [Value.toJson, Json.normal, normalEntries_entriesToJson h.2, Keyed.ofList_of_ascending hasc]
  | list items => exact congrArg Json.array (normalItems_itemsToJson h)
  | null | bool | int | real | text => exact normal_toJson_of_isScalar rfl

theorem normalEntries_entriesToJson {es : List (String × Value)} (h : EntriesPortable es) :
    Json.normalEntries (entriesToJson es) = entriesToJson es := by
  cases es with
  | nil => rfl
  | cons e es =>
    rw [entriesToJson, Json.normalEntries, normal_toJson h.1, normalEntries_entriesToJson h.2]

end

/-- A tree that JSON can hold comes back from its object, also when this has been sorted. -/
theorem Tree.ofJson?_toJson {t : Tree} (h : t.Portable) : Tree.ofJson? t.toJson.normal = .ok t := by
  have hnormal : t.toJson.normal = t.toJson := normal_toJson (v := .tree t) h
  rw [hnormal]
  exact congrArg Except.ok (entriesOfJson_entriesToJson h.2)

end Metadata

end RecordDesk
