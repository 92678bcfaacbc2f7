/-!
Finite sets of names, kept as their ascending list, so that equal sets are equal values.
-/

namespace RecordDesk

structure NameSet where
  toList : List String
  ascending : toList.Pairwise (· < ·)

namespace NameSet

/-- Puts a name in its place in an ascending list, unless it is there. -/
def insertInto (s : String) : List String → List String
  | [] => [s]
  | t :: ts => if s < t then s :: t :: ts else if s = t then t :: ts else t :: insertInto s ts

theorem mem_insertInto {s t : String} {ts : List String} :
    t ∈ insertInto s ts ↔ t = s ∨ t ∈ ts := by
  induction ts with
  | nil => simp [insertInto]
  | cons u us ih =>
    rw [insertInto]
    split
    · simp
    · split
      · next h => simp [h]
      · simp only [List.mem_cons, ih]; grind

theorem ascending_insertInto (s : String) {ts : List String} (h : ts.Pairwise (· < ·)) :
    (insertInto s ts).Pairwise (· < ·) := by
  induction ts with
  | nil => simp [insertInto]
  | cons t ts ih =>
    have ⟨ht, hts⟩ := List.pairwise_cons.1 h
    rw [insertInto]
    split
    · next hs =>
      refine List.pairwise_cons.2 ⟨fun u hu => ?_, h⟩
      rcases List.mem_cons.1 hu with rfl | hu
      · exact hs
      · exact String.lt_trans hs (ht u hu)
    · split
      · exact h
      · next hlt hne =>
        refine List.pairwise_cons.2 ⟨fun u hu => ?_, ih hts⟩
        rcases mem_insertInto.1 hu with rfl | hu
        · exact String.not_le.1 fun hge => hne (String.le_antisymm hge (String.not_lt.1 hlt))
        · exact ht u hu

/-- A name that is there changes nothing. -/
theorem insertInto_of_mem {s : String} {ts : List String} (h : ts.Pairwise (· < ·)) (hs : s ∈ ts) :
    insertInto s ts = ts := by
  induction ts with
  | nil => cases hs
  | cons t ts ih =>
    obtain ⟨ht, hts⟩ := List.pairwise_cons.1 h
    rw [insertInto]
    rcases List.mem_cons.1 hs with rfl | hs
    · rw [if_neg (String.lt_irrefl _), if_pos rfl]
    · have hlt := ht s hs
      have hne : s ≠ t := by
        rintro rfl
        exact String.lt_irrefl _ hlt
      rw [if_neg (String.lt_asymm hlt), if_neg hne, ih hts hs]

theorem length_insertInto {s : String} {ts : List String} (hs : s ∉ ts) :
    (insertInto s ts).length = ts.length + 1 := by
  induction ts with
  | nil => rfl
  | cons t ts ih =>
    obtain ⟨hne, hs⟩ := not_or.1 (mt List.mem_cons.2 hs)
    rw [insertInto, if_neg hne]
    split
    · rfl
    · rw [List.length_cons, ih hs, List.length_cons]

instance : DecidableEq NameSet := fun a b =>
  decidable_of_iff (a.toList = b.toList) ⟨fun h => by cases a; cases b; simpa using h, fun h => h ▸ rfl⟩

def empty : NameSet := ⟨[], List.Pairwise.nil⟩

instance : Inhabited NameSet := ⟨empty⟩

instance : Membership String NameSet := ⟨fun s x => x ∈ s.toList⟩

def contains (s : NameSet) (x : String) : Bool := s.toList.contains x

def insert (s : NameSet) (x : String) : NameSet := ⟨insertInto x s.toList, ascending_insertInto x s.ascending⟩

def insertAll (s : NameSet) (xs : List String) : NameSet := xs.foldl insert s

def ofList (xs : List String) : NameSet := empty.insertAll xs

/-- The names that satisfy `p`. -/
def filter (s : NameSet) (p : String → Bool) : NameSet :=
  ⟨s.toList.filter p, s.ascending.filter _⟩

def erase (s : NameSet) (x : String) : NameSet := s.filter (· != x)

/-- All names but the greatest. -/
def eraseLast (s : NameSet) : NameSet :=
  ⟨s.toList.dropLast, s.ascending.sublist (List.dropLast_sublist _)⟩

def isEmpty (s : NameSet) : Bool := s.toList.isEmpty

def size (s : NameSet) : Nat := s.toList.length

theorem ext_toList {a b : NameSet} (h : a.toList = b.toList) : a = b := by
  cases a; cases b; simpa using h

theorem nodup (s : NameSet) : s.toList.Nodup := by
  refine List.Pairwise.imp (fun {x y} hlt => ?_) s.ascending
  rintro rfl
  exact String.lt_irrefl _ hlt

theorem mem_def {s : NameSet} {x : String} : x ∈ s ↔ x ∈ s.toList := Iff.rfl

theorem mem_insert {s : NameSet} {x y : String} : y ∈ s.insert x ↔ y = x ∨ y ∈ s := mem_insertInto

/-- Inserting names one after another comes to the union. -/
theorem mem_insertAll {s : NameSet} {xs : List String} {y : String} : y ∈ s.insertAll xs ↔ y ∈ s ∨ y ∈ xs := by
  induction xs generalizing s with
  | nil => simp [insertAll]
  | cons x xs ih =>
    have hfold : s.insertAll (x :: xs) = (s.insert x).insertAll xs := rfl
    rw [hfold, ih, mem_insert, List.mem_cons, or_comm (a := y = x), or_assoc]

theorem insertAll_append (s : NameSet) (xs ys : List String) :
    s.insertAll (xs ++ ys) = (s.insertAll xs).insertAll ys := List.foldl_append

theorem contains_iff {s : NameSet} {x : String} : s.contains x = true ↔ x ∈ s := List.contains_iff_mem

/-- Inserting makes a set greater unless the name is there. -/
theorem size_insert (s : NameSet) (x : String) :
    (s.insert x).size = if s.contains x then s.size else s.size + 1 := by
  split
  · next hx =>
    have hsame : (s.insert x).toList = s.toList := insertInto_of_mem s.ascending (contains_iff.1 hx)
    unfold size
    rw [hsame]
  · next hx => exact length_insertInto (mt contains_iff.2 hx)

theorem not_mem_empty {x : String} : x ∉ empty := by simp [mem_def, empty]

/-- Sets of the same names are the same. -/
theorem ext_mem {a b : NameSet} (h : ∀ x, x ∈ a ↔ x ∈ b) : a = b := by
  have hperm : a.toList.Perm b.toList := (List.perm_ext_iff_of_nodup a.nodup b.nodup).2 h
  exact ext_toList
    (hperm.eq_of_pairwise (fun x y _ _ hxy hyx => absurd hyx (String.lt_asymm hxy)) a.ascending b.ascending)

theorem ofList_toList (s : NameSet) : ofList s.toList = s :=
  ext_mem fun _ => mem_insertAll.trans (or_iff_right not_mem_empty)

theorem mem_filter {s : NameSet} {p : String → Bool} {x : String} :
    x ∈ s.filter p ↔ x ∈ s ∧ p x = true := List.mem_filter

theorem mem_erase {s : NameSet} {x y : String} : y ∈ s.erase x ↔ y ∈ s ∧ y ≠ x := by
  simp [erase, mem_filter]

end NameSet

end RecordDesk
