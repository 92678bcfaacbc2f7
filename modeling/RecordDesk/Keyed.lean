/-!
Maps with text keys as lists of entries in ascending key order. Looking up what was put in needs no
hypothesis on the list; the order is a separate fact, `Ascending`.
-/

namespace RecordDesk.Keyed

variable {α : Type}

/-- Puts an entry in its place, in place of an entry with the same key. -/
def insert (k : String) (x : α) : List (String × α) → List (String × α)
  | [] => [(k, x)]
  | e :: es =>
    if k < e.1 then (k, x) :: e :: es
    else if k = e.1 then (k, x) :: es
    else e :: insert k x es

def find? (k : String) : List (String × α) → Option α
  | [] => none
  | e :: es => if e.1 = k then some e.2 else find? k es

def contains (k : String) (es : List (String × α)) : Bool := (find? k es).isSome

/-- All entries put in one after the other, so that the last of several with one key stays. -/
def ofList (es : List (String × α)) : List (String × α) :=
  es.foldl (fun m e => insert e.1 e.2 m) []

def Ascending (es : List (String × α)) : Prop := es.Pairwise fun a b => a.1 < b.1

theorem find?_insert_self (k : String) (x : α) (es : List (String × α)) :
    find? k (insert k x es) = some x := by
  induction es with
  | nil => simp [insert, find?]
  | cons e es ih =>
    rw [insert]
    split
    · simp [find?]
    · split
      · simp [find?]
      · next h => rw [find?, if_neg (fun he => h he.symm), ih]

theorem find?_insert_ne {k l : String} (h : l ≠ k) (x : α) (es : List (String × α)) :
    find? l (insert k x es) = find? l es := by
  induction es with
  | nil => simp [insert, find?, Ne.symm h]
  | cons e es ih =>
    rw [insert]
    split
    · simp [find?, Ne.symm h]
    · split
      · next he => simp [find?, Ne.symm h, ← he]
      · simp only [find?, ih]

theorem contains_insert_iff {k l : String} {x : α} {es : List (String × α)} :
    contains l (insert k x es) = true ↔ contains l es = true ∨ k = l := by
  unfold contains
  by_cases h : l = k
  · rw [h, find?_insert_self]
    exact iff_of_true rfl (.inr rfl)
  · rw [find?_insert_ne h, or_iff_left (Ne.symm h)]

theorem mem_insert {k : String} {x : α} {e : String × α} {es : List (String × α)}
    (h : e ∈ insert k x es) : e = (k, x) ∨ e ∈ es := by
  induction es with
  | nil => simpa [insert] using h
  | cons d ds ih =>
    rw [insert] at h
    split at h
    · simpa using h
    · split at h
      · rcases List.mem_cons.1 h with h | h
        · exact .inl h
        · exact .inr (List.mem_cons_of_mem _ h)
      · rcases List.mem_cons.1 h with h | h
        · exact .inr (h ▸ List.mem_cons_self)
        · exact (ih h).imp id (List.mem_cons_of_mem _)

theorem ascending_insert (k : String) (x : α) {es : List (String × α)} (h : Ascending es) :
    Ascending (insert k x es) := by
  induction es with
  | nil => simp [insert, Ascending]
  | cons e es ih =>
    have ⟨he, hes⟩ := List.pairwise_cons.1 h
    rw [insert]
    split
    · next hk =>
      refine List.pairwise_cons.2 ⟨fun d hd => ?_, h⟩
      rcases List.mem_cons.1 hd with rfl | hd
      · exact hk
      · exact String.lt_trans hk (he d hd)
    · split
      · next hk => exact List.pairwise_cons.2 ⟨fun d hd => hk ▸ he d hd, hes⟩
      · next hlt hne =>
        refine List.pairwise_cons.2 ⟨fun d hd => ?_, ih hes⟩
        rcases mem_insert hd with rfl | hd
        · exact (String.not_lt.1 hlt |> fun hle => String.not_le.1 fun hge =>
            hne (String.le_antisymm hge hle))
        · exact he d hd

/-- A key above all others goes to the end. -/
theorem insert_of_above {k : String} {es : List (String × α)} (h : ∀ e ∈ es, e.1 < k) (x : α) :
    insert k x es = es ++ [(k, x)] := by
  induction es with
  | nil => rfl
  | cons e es ih =>
    have he := h e List.mem_cons_self
    have hne : ¬ k = e.1 := fun hk => String.lt_irrefl k (hk.symm ▸ he)
    rw [insert, if_neg (String.lt_asymm he), if_neg hne, ih fun d hd => h d (List.mem_cons_of_mem e hd)]
    rfl

theorem contains_of_above {k : String} {es : List (String × α)} (h : ∀ e ∈ es, e.1 < k) :
    contains k es = false := by
  induction es with
  | nil => rfl
  | cons e es ih =>
    have hne : e.1 ≠ k := fun hk => String.lt_irrefl k (hk ▸ h e List.mem_cons_self)
    unfold contains at ih ⊢
    rw [find?, if_neg hne]
    exact ih fun d hd => h d (List.mem_cons_of_mem e hd)

theorem ascending_foldl_insert (es m : List (String × α)) (h : Ascending m) :
    Ascending (es.foldl (fun m e => insert e.1 e.2 m) m) := by
  induction es generalizing m with
  | nil => exact h
  | cons e es ih => exact ih _ (ascending_insert _ _ h)

theorem ascending_ofList (es : List (String × α)) : Ascending (ofList es) :=
  ascending_foldl_insert es [] List.Pairwise.nil

theorem ascending_iff_keys {es : List (String × α)} :
    Ascending es ↔ (es.map Prod.fst).Pairwise (· < ·) := List.pairwise_map.symm

/-! ## Lists of entries as maps -/

theorem find?_append (k : String) (es fs : List (String × α)) :
    find? k (es ++ fs) = (find? k es).or (find? k fs) := by
  induction es with
  | nil => rfl
  | cons e es ih =>
    rw [List.cons_append, find?, find?]
    split
    · rfl
    · exact ih

theorem find?_foldl_insert (k : String) (es m : List (String × α)) :
    find? k (es.foldl (fun m e => insert e.1 e.2 m) m) = (find? k es.reverse).or (find? k m) := by
  induction es generalizing m with
  | nil => rfl
  | cons e es ih =>
    have hinsert : find? k (insert e.1 e.2 m) = (find? k [e]).or (find? k m) := by
      by_cases h : e.1 = k
      · subst h
        rw [find?_insert_self, find?, if_pos rfl]
        rfl
      · rw [find?_insert_ne (Ne.symm h), find?, if_neg h]
        rfl
    rw [List.foldl_cons, ih, hinsert, List.reverse_cons, find?_append, Option.or_assoc]

/-- Of several entries with one key the last counts. -/
theorem find?_ofList (k : String) (es : List (String × α)) : find? k (ofList es) = find? k es.reverse := by
  unfold ofList
  rw [find?_foldl_insert]
  exact Option.or_none

theorem foldl_insert_of_ascending (es m : List (String × α)) (h : Ascending (m ++ es)) :
    es.foldl (fun m e => insert e.1 e.2 m) m = m ++ es := by
  induction es generalizing m with
  | nil => exact (List.append_nil m).symm
  | cons e es ih =>
    have above : ∀ d ∈ m, d.1 < e.1 := fun d hd =>
      (List.pairwise_append.1 h).2.2 d hd e List.mem_cons_self
    have h' : Ascending (m ++ [e] ++ es) := by
      rwa [List.append_assoc]
    rw [List.foldl_cons, insert_of_above above, ih _ h', List.append_assoc]
    rfl

/-- A list in ascending order is the map that it stands for. -/
theorem ofList_of_ascending {es : List (String × α)} (h : Ascending es) : ofList es = es :=
  foldl_insert_of_ascending es [] h

theorem find?_filter {p : String → Bool} {k : String} (h : p k = true) (es : List (String × α)) :
    find? k (es.filter fun e => p e.1) = find? k es := by
  induction es with
  | nil => rfl
  | cons e es ih =>
    rw [List.filter_cons]
    split
    · rw [find?, find?, ih]
    · next hp =>
      have hne : e.1 ≠ k := fun he => hp (he ▸ h)
      rw [find?, if_neg hne, ih]

/-- In ascending order a key stands at most once. -/
theorem filter_of_ascending {es : List (String × α)} (h : Ascending es) (k : String) :
    es.filter (·.1 == k) = ((find? k es).map fun x => (k, x)).toList := by
  induction es with
  | nil => rfl
  | cons e es ih =>
    obtain ⟨above, h⟩ := List.pairwise_cons.1 h
    rw [List.filter_cons, find?, ih h]
    by_cases he : e.1 = k
    · have hnone : find? k es = none := by
        have hfilter : es.filter (·.1 == k) = [] := by
          refine List.filter_eq_nil_iff.2 fun d hd hk => ?_
          have hlt := above d hd
          rw [he, beq_iff_eq.1 hk] at hlt
          exact String.lt_irrefl k hlt
        cases hf : find? k es with
        | none => rfl
        | some x =>
          rw [ih h, hf] at hfilter
          cases hfilter
      rw [if_pos (beq_iff_eq.2 he), if_pos he, hnone, ← he]
      rfl
    · rw [if_neg (fun hk => he (beq_iff_eq.1 hk)), if_neg he]

end RecordDesk.Keyed
