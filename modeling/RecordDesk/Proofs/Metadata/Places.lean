import RecordDesk.Proofs.Metadata.Regular

/-!
Which texts are read, and where their lines end up in the tree. While the lines are taken in, the outline
records them: the blocks that are open are those of the lines that enclose the next one, the keys of a
block are those of its lines, and every line has its place (`Outline.Records`). So a line is refused just
when the grammar refuses it.
-/

namespace RecordDesk.Metadata

/-! ## Places -/

/-- A place in a tree: the keys that lead there, and the value that stands there unless it is a tree. -/
structure Place where
  path : List String
  held : Option Value
  deriving DecidableEq

mutual

/-- The places of an entry: its own one, then those inside. -/
def entryPlaces (path : List String) (k : String) : Value → List Place
  | .tree entries => ⟨path ++ [k], none⟩ :: entriesPlaces (path ++ [k]) entries
  | v => [⟨path ++ [k], some v⟩]

def entriesPlaces (path : List String) : List (String × Value) → List Place
  | [] => []
  | (k, v) :: es => entryPlaces path k v ++ entriesPlaces path es

end

def Tree.places (t : Tree) : List Place := entriesPlaces [] t

/-- A line is around what comes at a depth after some lines: it opens a block that is not as deep, and
none of the lines leaves that block. -/
def Line.Encloses (depth : Nat) (later : List Line) (line : Line) : Prop :=
  line.IsOpener ∧ line.depth < depth ∧ ∀ l ∈ later, line.depth < l.depth

instance (depth : Nat) (later : List Line) (line : Line) : Decidable (line.Encloses depth later) :=
  inferInstanceAs (Decidable (line.IsOpener ∧ line.depth < depth ∧ ∀ l ∈ later, line.depth < l.depth))

/-- The lines around what comes at a depth after all these, the outermost first. -/
def enclosing (depth : Nat) : List Line → List Line
  | [] => []
  | line :: later =>
    if line.Encloses depth later then line :: enclosing depth later else enclosing depth later

/-- The place of a line after some others: below the openers around it. -/
def Line.place (earlier : List Line) (line : Line) : Place :=
  ⟨(enclosing line.depth earlier).map Line.key ++ [line.key], line.held⟩

/-- The places of lines, one for each. -/
def linePlaces (earlier : List Line) : List Line → List Place
  | [] => []
  | line :: later => line.place earlier :: linePlaces (earlier ++ [line]) later

theorem linePlaces_concat (earlier lines : List Line) (line : Line) :
    linePlaces earlier (lines ++ [line]) =
      linePlaces earlier lines ++ [line.place (earlier ++ lines)] := by
  induction lines generalizing earlier with
  | nil =>
    rw [List.append_nil]
    rfl
  | cons a later ih =>
    rw [List.cons_append, linePlaces, ih, List.append_assoc]
    rfl

/-! ## Enclosing lines -/

theorem Line.encloses_concat {depth : Nat} {later : List Line} {line l : Line} :
    line.Encloses depth (later ++ [l]) ↔ line.Encloses depth later ∧ line.depth < l.depth := by
  unfold Encloses
  rw [List.forall_mem_append, List.forall_mem_singleton, and_assoc, and_assoc]

theorem Line.encloses_of_le {depth depth' : Nat} (h : depth ≤ depth') {later : List Line} {line : Line} :
    line.Encloses depth later ↔ line.Encloses depth' later ∧ line.depth < depth :=
  ⟨fun ⟨hopener, hdepth, hall⟩ => ⟨⟨hopener, Nat.lt_of_lt_of_le hdepth h, hall⟩, hdepth⟩,
    fun ⟨⟨hopener, _, hall⟩, hdepth⟩ => ⟨hopener, hdepth, hall⟩⟩

/-- A line ends the blocks that are as deep as itself, and may open one. -/
theorem enclosing_concat (depth : Nat) (lines : List Line) (line : Line) :
    enclosing depth (lines ++ [line]) =
      (enclosing depth lines).filter (fun l => l.depth < line.depth) ++
        if line.IsOpener ∧ line.depth < depth then [line] else [] := by
  induction lines with
  | nil => simp [enclosing, Line.Encloses]
  | cons a later ih =>
    rw [List.cons_append, enclosing, ih, enclosing]
    by_cases ha : a.Encloses depth later
    · rw [if_pos ha]
      by_cases hline : a.depth < line.depth
      · rw [if_pos (Line.encloses_concat.2 ⟨ha, hline⟩), List.filter_cons_of_pos (by simpa using hline),
          List.cons_append]
      · rw [if_neg fun h => hline (Line.encloses_concat.1 h).2,
          List.filter_cons_of_neg (by simpa using hline)]
    · rw [if_neg fun h => ha (Line.encloses_concat.1 h).1, if_neg ha]

theorem depth_lt_of_mem_enclosing {depth : Nat} {lines : List Line} {l : Line}
    (h : l ∈ enclosing depth lines) : l.depth < depth := by
  induction lines with
  | nil => exact absurd h List.not_mem_nil
  | cons a later ih =>
    rw [enclosing] at h
    split at h
    · next ha =>
      rcases List.mem_cons.1 h with rfl | h
      · exact ha.2.1
      · exact ih h
    · exact ih h

/-- What is around the shallower of two depths is around the deeper one too. -/
theorem filter_enclosing {depth depth' : Nat} (h : depth ≤ depth') (lines : List Line) :
    (enclosing depth' lines).filter (fun l => l.depth < depth) = enclosing depth lines := by
  induction lines with
  | nil => rfl
  | cons a later ih =>
    rw [enclosing, enclosing]
    by_cases ha : a.Encloses depth' later
    · rw [if_pos ha]
      by_cases hdepth : a.depth < depth
      · rw [if_pos ((Line.encloses_of_le h).2 ⟨ha, hdepth⟩),
          List.filter_cons_of_pos (by simpa using hdepth), ih]
      · rw [if_neg fun hencl => hdepth hencl.2.1, List.filter_cons_of_neg (by simpa using hdepth), ih]
    · rw [if_neg ha, if_neg fun hencl => ha ((Line.encloses_of_le h).1 hencl).1, ih]

/-- A line changes nothing above itself. -/
theorem enclosing_concat_of_le {depth : Nat} {line : Line} (h : depth ≤ line.depth) (lines : List Line) :
    enclosing depth (lines ++ [line]) = enclosing depth lines := by
  have hall : ∀ l ∈ enclosing depth lines, decide (l.depth < line.depth) = true := fun l hl =>
    decide_eq_true (Nat.lt_of_lt_of_le (depth_lt_of_mem_enclosing hl) h)
  rw [enclosing_concat, List.filter_eq_self.2 hall, if_neg fun hline => Nat.not_lt.2 h hline.2,
    List.append_nil]

/-- An opener encloses what comes one level deeper. -/
theorem enclosing_concat_opener {line : Line} (h : line.IsOpener) (lines : List Line) :
    enclosing (line.depth + 1) (lines ++ [line]) = enclosing line.depth lines ++ [line] := by
  rw [enclosing_concat, filter_enclosing (Nat.le_succ _), if_pos ⟨h, Nat.lt_succ_self _⟩]

/-! ## The places of an outline -/

theorem entryPlaces_of_isScalar (path : List String) (k : String) {v : Value} (h : v.isScalar = true) :
    entryPlaces path k v = [⟨path ++ [k], some v⟩] := by
  cases v with
  | tree entries => cases h
  | _ => rfl

theorem entryPlaces_valueOf (path : List String) (k : String) (cs : List Char) :
    entryPlaces path k (valueOf cs) = [⟨path ++ [k], some (valueOf cs)⟩] := by
  unfold valueOf
  split
  · rfl
  · exact entryPlaces_of_isScalar path k (isScalar_readScalar _)

/-- A new entry adds its places. -/
theorem entriesPlaces_insert (path : List String) {k : String} (v : Value) {es : List (String × Value)}
    (h : Keyed.contains k es = false) :
    (entriesPlaces path (Keyed.insert k v es)).Perm (entryPlaces path k v ++ entriesPlaces path es) := by
  induction es with
  | nil => exact .refl _
  | cons e es ih =>
    unfold Keyed.contains at h ih
    rw [Keyed.find?] at h
    rw [Keyed.insert]
    split
    · exact .refl _
    · split
      · next hk =>
        rw [if_pos hk.symm] at h
        cases h
      · next hk =>
        rw [if_neg (Ne.symm hk)] at h
        exact ((ih h).append_left _).trans (List.perm_append_comm_assoc _ _ _)

/-- The keys of the open blocks, the outermost first. -/
def blockPath (ps : List (String × Tree)) : List String := (ps.map Prod.fst).reverse

theorem blockPath_cons (p : String × Tree) (ps : List (String × Tree)) :
    blockPath (p :: ps) = blockPath ps ++ [p.1] := by
  unfold blockPath
  rw [List.map_cons, List.reverse_cons]

/-- The places of the open blocks and of the entries before them. -/
def outerPlaces : List (String × Tree) → List Place
  | [] => []
  | p :: ps => ⟨blockPath (p :: ps), none⟩ :: (entriesPlaces (blockPath ps) p.2 ++ outerPlaces ps)

namespace Outline

def places (o : Outline) : List Place :=
  entriesPlaces (blockPath o.parents) o.entries ++ outerPlaces o.parents

theorem places_cons (p : String × Tree) (ps : List (String × Tree)) (t : Tree) :
    places ⟨p :: ps, t⟩ =
      entriesPlaces (blockPath (p :: ps)) t ++ ⟨blockPath (p :: ps), none⟩ :: places ⟨ps, p.2⟩ := rfl

theorem places_insert (ps : List (String × Tree)) {k : String} (v : Value) {t : Tree}
    (h : Keyed.contains k t = false) :
    (places ⟨ps, Keyed.insert k v t⟩).Perm (entryPlaces (blockPath ps) k v ++ places ⟨ps, t⟩) := by
  have hinsert := (entriesPlaces_insert (blockPath ps) v h).append_right (outerPlaces ps)
  rw [List.append_assoc] at hinsert
  exact hinsert

/-- No block was opened under a key that its level had already. -/
def Fresh (ps : List (String × Tree)) : Prop := ∀ p ∈ ps, Keyed.contains p.1 p.2 = false

theorem fresh_closeTo {o : Outline} (h : Fresh o.parents) (depth : Nat) :
    Fresh (o.closeTo depth).parents := by
  rw [parents_closeTo]
  exact fun p hp => h p (List.mem_of_mem_drop hp)

/-- Closing blocks leaves every place where it is. -/
theorem places_closing (depth : Nat) {ps : List (String × Tree)} (h : Fresh ps) (t : Tree) :
    (closing depth ps t).places.Perm (places ⟨ps, t⟩) := by
  induction ps generalizing t with
  | nil => exact .refl _
  | cons p ps ih =>
    obtain ⟨hp, hps⟩ := List.forall_mem_cons.1 h
    rw [closing]
    split
    · exact .refl _
    · have hinsert := places_insert ps (.tree t) hp
      rw [entryPlaces, ← blockPath_cons, List.cons_append] at hinsert
      rw [places_cons]
      exact (ih hps _).trans (hinsert.trans List.perm_middle.symm)

/-! ## One more line -/

/-- The line has one place, at the end of the keys of the open blocks. -/
theorem places_extend {o : Outline} {line : Line} (h : Keyed.contains line.key o.entries = false) :
    (o.extend line).places.Perm (⟨blockPath o.parents ++ [line.key], line.held⟩ :: o.places) := by
  unfold Line.held
  by_cases hopener : line.IsOpener
  · rw [extend_of_isOpener hopener, if_pos hopener, places_cons, blockPath_cons]
    exact .refl _
  · rw [extend_of_not_isOpener hopener, if_neg hopener]
    have hinsert := places_insert o.parents (valueOf line.value) h
    rwa [entryPlaces_valueOf] at hinsert

/-- Closing gives the same blocks as without the line. -/
theorem closeTo_extend {o : Outline} {depth : Nat} (h : depth ≤ o.parents.length) (line : Line) :
    ∃ v, (o.extend line).closeTo depth = closing depth o.parents (Keyed.insert line.key v o.entries) := by
  by_cases hopener : line.IsOpener
  · rw [extend_of_isOpener hopener]
    exact ⟨.tree [], if_neg (Nat.not_lt.2 h)⟩
  · rw [extend_of_not_isOpener hopener]
    exact ⟨_, rfl⟩

/-! ## The lines so far -/

/-- What an outline holds of the lines that were taken in. The blocks open at a depth are those of the
lines around what comes there next, their innermost one has the keys of the lines at that depth, and
every line has its place. -/
structure Records (o : Outline) (lines : List Line) : Prop where
  path : ∀ depth ≤ o.parents.length,
    blockPath (o.closeTo depth).parents = (enclosing depth lines).map Line.key
  keys : ∀ depth ≤ o.parents.length, ∀ k, Keyed.contains k (o.closeTo depth).entries = true ↔
    ∃ line ∈ siblings depth lines, line.key = k
  fresh : Fresh o.parents
  places : o.places.Perm (linePlaces [] lines)

theorem records_empty : empty.Records [] := by
  refine ⟨fun depth _ => rfl, fun depth _ k => ?_, fun p hp => absurd hp List.not_mem_nil, .refl _⟩
  exact iff_of_false Bool.false_ne_true fun ⟨line, hline, _⟩ => absurd hline List.not_mem_nil

theorem Records.closeTo {o : Outline} {lines : List Line} (h : o.Records lines) {depth : Nat}
    (hdepth : depth ≤ o.parents.length) : (o.closeTo depth).Records lines := by
  have hlen := length_parents_closeTo hdepth
  refine ⟨fun d hd => ?_, fun d hd k => ?_, fresh_closeTo h.fresh depth,
    (places_closing depth h.fresh o.entries).trans h.places⟩
  · rw [hlen] at hd
    rw [closeTo_closeTo hd]
    exact h.path d (Nat.le_trans hd hdepth)
  · rw [hlen] at hd
    rw [closeTo_closeTo hd]
    exact h.keys d (Nat.le_trans hd hdepth) k

theorem length_parents_extend {o : Outline} {line : Line} (h : o.parents.length = line.depth) :
    (o.extend line).parents.length = line.reach := by
  unfold Line.reach
  by_cases hopener : line.IsOpener
  · rw [extend_of_isOpener hopener, if_pos hopener, ← h]
    rfl
  · rw [extend_of_not_isOpener hopener, if_neg hopener, ← h]

/-- Nothing has to be closed to go on inside the block that a line opens. -/
theorem closeTo_extend_of_isOpener {o : Outline} {line : Line} (h : o.parents.length = line.depth)
    (hopener : line.IsOpener) :
    (o.extend line).closeTo (line.depth + 1) = ⟨(line.key, o.entries) :: o.parents, []⟩ := by
  rw [extend_of_isOpener hopener, ← h]
  exact (standsAt_self ((line.key, o.entries) :: o.parents) []).closes

theorem Records.path_self {o : Outline} {lines : List Line} (h : o.Records lines) {depth : Nat}
    (hlevel : o.parents.length = depth) :
    blockPath o.parents = (enclosing depth lines).map Line.key := by
  have hpath := h.path depth (Nat.le_of_eq hlevel.symm)
  rwa [closeTo_of_length_le (Nat.le_of_eq hlevel)] at hpath

theorem Records.path_extend {o : Outline} {lines : List Line} (h : o.Records lines) {line : Line}
    (hlevel : o.parents.length = line.depth) {depth : Nat} (hdepth : depth ≤ line.reach) :
    blockPath ((o.extend line).closeTo depth).parents =
      (enclosing depth (lines ++ [line])).map Line.key := by
  rcases Line.le_reach_iff.1 hdepth with hle | ⟨hopener, rfl⟩
  · obtain ⟨v, hclose⟩ := closeTo_extend (hlevel ▸ hle) line
    rw [hclose, enclosing_concat_of_le hle, ← h.path depth (hlevel ▸ hle), parents_closing,
      parents_closeTo]
  · rw [closeTo_extend_of_isOpener hlevel hopener, enclosing_concat_opener hopener, List.map_append,
      ← h.path_self hlevel, blockPath_cons]
    rfl

theorem Records.keys_extend {o : Outline} {lines : List Line} (h : o.Records lines) {line : Line}
    (hlevel : o.parents.length = line.depth) {depth : Nat} (hdepth : depth ≤ line.reach) (k : String) :
    Keyed.contains k ((o.extend line).closeTo depth).entries = true ↔
      ∃ l ∈ siblings depth (lines ++ [line]), l.key = k := by
  rw [siblings_concat]
  rcases Line.le_reach_iff.1 hdepth with hle | ⟨hopener, rfl⟩
  · obtain ⟨v, hclose⟩ := closeTo_extend (hlevel ▸ hle) line
    have hkeys := h.keys depth (hlevel ▸ hle) k
    rw [hclose, if_pos hle]
    rcases Nat.lt_or_eq_of_le hle with hlt | rfl
    · rw [if_neg (Nat.ne_of_gt hlt), List.append_nil, ← hkeys,
        contains_closing (hlevel ▸ hlt) k _ o.entries]
      rfl
    · rw [closeTo_of_length_le (Nat.le_of_eq hlevel)] at hkeys
      rw [closing_of_length_le (Nat.le_of_eq hlevel), Keyed.contains_insert_iff, hkeys, if_pos rfl]
      simp only [List.mem_append, List.mem_singleton, or_and_right, exists_or, exists_eq_left]
  · rw [closeTo_extend_of_isOpener hlevel hopener, if_neg (Nat.not_succ_le_self _)]
    exact iff_of_false Bool.false_ne_true fun ⟨l, hl, _⟩ => absurd hl List.not_mem_nil

/-- A line with a key that is new on its level is recorded. -/
theorem Records.extend {o : Outline} {lines : List Line} (h : o.Records lines) {line : Line}
    (hlevel : o.parents.length = line.depth) (hnew : Keyed.contains line.key o.entries = false) :
    (o.extend line).Records (lines ++ [line]) := by
  have hlen := length_parents_extend hlevel
  refine ⟨fun depth hdepth => h.path_extend hlevel (hlen ▸ hdepth),
    fun depth hdepth => h.keys_extend hlevel (hlen ▸ hdepth), ?_, ?_⟩
  · by_cases hopener : line.IsOpener
    · rw [extend_of_isOpener hopener]
      exact List.forall_mem_cons.2 ⟨hnew, h.fresh⟩
    · rw [extend_of_not_isOpener hopener]
      exact h.fresh
  · rw [linePlaces_concat, List.nil_append, Line.place, ← h.path_self hlevel]
    exact (places_extend hnew).trans ((h.places.cons _).trans (List.perm_append_singleton _ _).symm)

/-! ## All lines -/

/-- The outline after some lines: it records them, and is ready for a line as deep as they admit. -/
structure Follows (o : Outline) (lines : List Line) : Prop where
  nested : Nested lines
  level : o.parents.length = reach lines
  records : o.Records lines

theorem Follows.add {o o' : Outline} {lines : List Line} (h : o.Follows lines) {line : Line}
    (hadd : o.add line = .ok o') : o'.Follows (lines ++ [line]) := by
  obtain ⟨hdepth, hentry, hnew, rfl⟩ := add_eq_ok_iff.1 hadd
  have hlevel := length_parents_closeTo hdepth
  have hsiblings : ∀ a ∈ siblings line.depth lines, a.key ≠ line.key := fun a ha hkey => by
    rw [(h.records.keys line.depth hdepth line.key).2 ⟨a, ha, hkey⟩] at hnew
    cases hnew
  refine ⟨nested_concat.2 ⟨h.nested, hentry, h.level ▸ hdepth, hsiblings⟩, ?_,
    (h.records.closeTo hdepth).extend hlevel hnew⟩
  rw [length_parents_extend hlevel]
  unfold reach
  rw [List.getLast?_concat]
  rfl

theorem Follows.exists_add {o : Outline} {lines : List Line} (h : o.Follows lines) {line : Line}
    (hnested : Nested (lines ++ [line])) : ∃ o', o.add line = .ok o' := by
  obtain ⟨-, hentry, hreach, hsiblings⟩ := nested_concat.1 hnested
  have hdepth : line.depth ≤ o.parents.length := h.level ▸ hreach
  refine ⟨_, add_eq_ok_iff.2 ⟨hdepth, hentry, Bool.eq_false_iff.2 fun hold => ?_, rfl⟩⟩
  obtain ⟨a, ha, hkey⟩ := (h.records.keys line.depth hdepth line.key).1 hold
  exact hsiblings a ha hkey

theorem follows_empty : empty.Follows [] := ⟨nested_nil, rfl, records_empty⟩

theorem foldlM_concat (lines : List Line) (line : Line) :
    (lines ++ [line]).foldlM Outline.add .empty =
      (lines.foldlM Outline.add .empty).bind (·.add line) := by
  rw [List.foldlM_append]
  show (lines.foldlM Outline.add .empty).bind (fun o => (o.add line).bind .ok) = _
  congr
  funext o
  cases o.add line <;> rfl

/-- An outline follows the lines that it has taken in. -/
theorem follows_of_foldlM {lines : List Line} {o : Outline}
    (h : lines.foldlM Outline.add .empty = .ok o) : o.Follows lines := by
  induction lines using List.reverseRecOn generalizing o with
  | nil =>
    cases h
    exact follows_empty
  | append_singleton lines line ih =>
    rw [foldlM_concat] at h
    obtain ⟨before, hbefore, hadd⟩ := exists_of_bind_ok h
    exact (ih hbefore).add hadd

theorem exists_foldlM {lines : List Line} (h : Nested lines) :
    ∃ o, lines.foldlM Outline.add .empty = .ok o := by
  induction lines using List.reverseRecOn with
  | nil => exact ⟨.empty, rfl⟩
  | append_singleton lines line ih =>
    obtain ⟨before, hbefore⟩ := ih (nested_concat.1 h).1
    obtain ⟨o, hadd⟩ := (follows_of_foldlM hbefore).exists_add h
    refine ⟨o, ?_⟩
    rw [foldlM_concat, hbefore]
    exact hadd

end Outline

/-! ## Different paths -/

mutual

theorem path_of_mem_entryPlaces {path : List String} {k : String} {v : Value} {p : Place}
    (h : p ∈ entryPlaces path k v) : path ++ [k] <+: p.path := by
  cases v with
  | tree entries =>
    rcases List.mem_cons.1 h with rfl | h
    · exact List.prefix_refl _
    · obtain ⟨e, -, hpath⟩ := path_of_mem_entriesPlaces h
      exact (List.prefix_append _ _).trans hpath
  | _ =>
    obtain rfl := List.mem_singleton.1 h
    exact List.prefix_refl _

theorem path_of_mem_entriesPlaces {path : List String} {es : List (String × Value)} {p : Place}
    (h : p ∈ entriesPlaces path es) : ∃ e ∈ es, path ++ [e.1] <+: p.path := by
  cases es with
  | nil => exact absurd h List.not_mem_nil
  | cons e es =>
    rcases List.mem_append.1 h with h | h
    · exact ⟨e, List.mem_cons_self, path_of_mem_entryPlaces h⟩
    · obtain ⟨d, hd, hpath⟩ := path_of_mem_entriesPlaces h
      exact ⟨d, List.mem_cons_of_mem e hd, hpath⟩

end

mutual

theorem nodup_entryPlaces (path : List String) (k : String) (v : Value) (hv : v.Regular) :
    ((entryPlaces path k v).map Place.path).Nodup := by
  cases v with
  | tree entries =>
    obtain ⟨hasc, -⟩ := hv _ .here
    refine List.nodup_cons.2 ⟨fun hmem => ?_,
      nodup_entriesPlaces (path ++ [k]) entries hasc fun e he u hu => hv u (.entry he hu)⟩
    -- The places inside have longer paths.
    obtain ⟨p, hp, hpath⟩ := List.mem_map.1 hmem
    obtain ⟨e, -, hprefix⟩ := path_of_mem_entriesPlaces hp
    have hlen := hprefix.length_le
    rw [hpath, List.length_append] at hlen
    exact absurd hlen (Nat.not_succ_le_self _)
  | _ => exact List.nodup_cons.2 ⟨List.not_mem_nil, List.nodup_nil⟩

theorem nodup_entriesPlaces (path : List String) (es : List (String × Value))
    (hasc : Keyed.Ascending es) (hes : ∀ e ∈ es, e.2.Regular) :
    ((entriesPlaces path es).map Place.path).Nodup := by
  cases es with
  | nil => exact List.nodup_nil
  | cons e es =>
    obtain ⟨habove, hasc⟩ := List.pairwise_cons.1 hasc
    obtain ⟨he, hes⟩ := List.forall_mem_cons.1 hes
    rw [entriesPlaces, List.map_append, List.nodup_append]
    refine ⟨nodup_entryPlaces path e.1 e.2 he, nodup_entriesPlaces path es hasc hes, ?_⟩
    intro a ha b hb hab
    obtain ⟨p, hp, rfl⟩ := List.mem_map.1 ha
    obtain ⟨q, hq, rfl⟩ := List.mem_map.1 hb
    obtain ⟨d, hd, hother⟩ := path_of_mem_entriesPlaces hq
    -- Both paths go on behind the key of their entry, so a common one would have two keys there.
    have hkey : path ++ [e.1] <+: path ++ [d.1] :=
      List.prefix_of_prefix_length_le (path_of_mem_entryPlaces hp) (hab ▸ hother) (by simp)
    have heq := List.append_cancel_left (hkey.eq_of_length (by simp))
    exact String.lt_irrefl _ (List.head_eq_of_cons_eq heq ▸ habove d hd)

end

/-! ## Reading -/

theorem grammatical_of_read {s : String} {t : Tree} (h : Tree.read s = .ok t) : Grammatical s := by
  obtain ⟨hindented, o, hfold, -⟩ := Tree.read_eq_ok_iff.1 h
  exact ⟨hindented, (Outline.follows_of_foldlM hfold).nested⟩

theorem Grammatical.exists_read {s : String} (h : Grammatical s) : ∃ t, Tree.read s = .ok t := by
  obtain ⟨o, hfold⟩ := Outline.exists_foldlM h.nested
  exact ⟨_, Tree.read_eq_ok_iff.2 ⟨h.indented, o, hfold, rfl⟩⟩

/-- Reading decides the grammar. -/
instance (s : String) : Decidable (Grammatical s) :=
  match h : Tree.read s with
  | .ok _ => isTrue (grammatical_of_read h)
  | .error _ => isFalse fun hs => by
    obtain ⟨t, ht⟩ := hs.exists_read
    rw [h] at ht
    cases ht

/-- Only an opener has lines below it. -/
example : ¬ Grammatical "a: 1\n  b: 2\n" := by decide +kernel

/-- The places of the tree are those of the lines. -/
theorem places_of_read {s : String} {t : Tree} (h : Tree.read s = .ok t) :
    t.places.Perm (linePlaces [] (textLines s)) := by
  obtain ⟨-, o, hfold, rfl⟩ := Tree.read_eq_ok_iff.1 h
  have hrecords := (Outline.follows_of_foldlM hfold).records
  have hplaces := (hrecords.closeTo (Nat.zero_le _)).places
  have hclosed : (o.closeTo 0).parents = [] :=
    List.length_eq_zero_iff.1 (Outline.length_parents_closeTo (Nat.zero_le _))
  unfold Outline.places at hplaces
  rw [hclosed] at hplaces
  show (entriesPlaces [] (o.closeTo 0).entries).Perm _
  rwa [← List.append_nil (entriesPlaces [] _)]

/-- A text is read if and only if it follows the grammar. Its tree then has one entry for each line: at
the keys of the openers around the line and its own key, with the value of the line. -/
theorem Tree.read_iff_grammatical (s : String) :
    ((∃ t, Tree.read s = .ok t) ↔ Grammatical s) ∧
      ∀ t, Tree.read s = .ok t →
        t.places.Perm (linePlaces [] (textLines s)) ∧ (t.places.map Place.path).Nodup := by
  refine ⟨⟨fun ⟨t, h⟩ => grammatical_of_read h, Grammatical.exists_read⟩, fun t h => ⟨places_of_read h, ?_⟩⟩
  obtain ⟨hasc, -⟩ := regular_of_read h _ .here
  exact nodup_entriesPlaces [] t hasc fun e he u hu => regular_of_read h u (.entry he hu)

/-- A key may come again on another level or in another block, and a block may stay empty. -/
theorem read_nestedText :
    let s := "a:\n  k: 1\n\n  b:\n    k: [x, 'y, z']\nc:\n  k: 1\nd:\n"
    let t : Tree := [("a", .tree [("b", .tree [("k", .list [.text "x", .text "y, z"])]), ("k", .int 1)]),
      ("c", .tree [("k", .int 1)]), ("d", .tree [])]
    Tree.read s = .ok t ∧ Grammatical s ∧ (t.places.map Place.path).Nodup ∧
      t.places.Perm [⟨["a"], none⟩, ⟨["a", "k"], some (.int 1)⟩, ⟨["a", "b"], none⟩,
        ⟨["a", "b", "k"], some (.list [.text "x", .text "y, z"])⟩, ⟨["c"], none⟩,
        ⟨["c", "k"], some (.int 1)⟩, ⟨["d"], none⟩] := by
  intro s t
  have hread : Tree.read s = .ok t := by decide +kernel
  have hlines : linePlaces [] (textLines s) = [⟨["a"], none⟩, ⟨["a", "k"], some (.int 1)⟩,
      ⟨["a", "b"], none⟩, ⟨["a", "b", "k"], some (.list [.text "x", .text "y, z"])⟩, ⟨["c"], none⟩,
      ⟨["c", "k"], some (.int 1)⟩, ⟨["d"], none⟩] := by decide +kernel
  obtain ⟨hgrammar, hplaces⟩ := Tree.read_iff_grammatical s
  obtain ⟨hperm, hnodup⟩ := hplaces t hread
  exact ⟨hread, hgrammar.1 ⟨t, hread⟩, hnodup, hlines ▸ hperm⟩

end RecordDesk.Metadata
