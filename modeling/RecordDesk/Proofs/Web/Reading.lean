import Mathlib.Data.List.DropRight
import Mathlib.Data.List.TakeWhile
import RecordDesk.Proofs.Metadata.Lists
import RecordDesk.Proofs.Text.Cutting
import RecordDesk.Proofs.Web.Encoding

/-!
What a URL reads as when a slash and a name are written behind its text (`under_of_read`). The name is then the last
segment of the path. What stands before it is nearly the path of the URL itself, but blanks at the end of the text are
not stripped any more, and a last segment of dots leaves no slash behind.
-/

namespace RecordDesk

/-! ## Pieces -/

namespace Text

variable {p : Char → Bool}

/-- A separator parts the pieces on its two sides. -/
theorem pieces_append_cons {sep : Char} (hsep : p sep = true) (cs ds : List Char) :
    pieces p (cs ++ sep :: ds) = pieces p cs ++ pieces p ds := by
  induction cs with
  | nil => simp [pieces, hsep]
  | cons c cs ih =>
    rw [List.cons_append, pieces, pieces, ih]
    split
    · rfl
    · obtain ⟨first, rest, hrest⟩ := List.exists_cons_of_ne_nil (pieces_ne_nil p cs)
      rw [hrest]
      rfl

/-- What holds no separator joins the last piece. -/
theorem exists_pieces_append (p : Char → Bool) (cs : List Char) :
    ∃ front last, pieces p cs = front ++ [last] ∧
      ∀ ds, (∀ d ∈ ds, p d = false) → pieces p (cs ++ ds) = front ++ [last ++ ds] := by
  induction cs with
  | nil => exact ⟨[], [], rfl, fun ds hds => pieces_of_not hds⟩
  | cons c cs ih =>
    obtain ⟨front, last, hpieces, happend⟩ := ih
    simp only [List.cons_append, pieces]
    split
    · refine ⟨[] :: front, last, ?_, fun ds hds => ?_⟩
      · rw [hpieces, List.cons_append]
      · rw [happend ds hds, List.cons_append]
    · cases front with
      | nil =>
        refine ⟨[], c :: last, ?_, fun ds hds => ?_⟩
        · rw [hpieces]
          rfl
        · rw [happend ds hds]
          rfl
      | cons first front =>
        refine ⟨(c :: first) :: front, last, ?_, fun ds hds => ?_⟩
        · rw [hpieces]
          rfl
        · rw [happend ds hds]
          rfl

/-- The last piece is empty when there is nothing behind the last separator. -/
theorem last_ne_nil_iff {cs last : List Char} {front : List (List Char)} (h : pieces p cs = front ++ [last]) :
    last ≠ [] ↔ ∃ c, cs.getLast? = some c ∧ p c = false := by
  have hlast {front' : List (List Char)} {last' : List Char} (h' : pieces p cs = front' ++ [last']) : last = last' :=
    List.singleton_inj.1 (List.append_inj_right' (h.symm.trans h') rfl)
  rcases List.eq_nil_or_concat cs with rfl | ⟨cs, c, rfl⟩
  · rw [hlast (show pieces p [] = [] ++ [[]] from rfl)]
    simp
  · rw [List.concat_eq_append] at hlast ⊢
    simp only [List.getLast?_concat, Option.some.injEq, exists_eq_left']
    cases hc : p c with
    | true =>
      rw [hlast (pieces_append_cons hc cs [])]
      simp
    | false =>
      obtain ⟨front', last', -, happend⟩ := exists_pieces_append p cs
      rw [hlast (happend [c] (by simpa using hc))]
      simp

theorem mem_of_mem_pieces {cs piece : List Char} (h : piece ∈ pieces p cs) : ∀ c ∈ piece, c ∈ cs := by
  induction cs generalizing piece with
  | nil =>
    rw [List.mem_singleton.1 h]
    exact fun c hc => hc
  | cons d cs ih =>
    rw [pieces] at h
    split at h
    · rcases List.mem_cons.1 h with rfl | h
      · exact fun c hc => absurd hc List.not_mem_nil
      · exact fun c hc => List.mem_cons_of_mem d (ih h c hc)
    · obtain ⟨first, rest, hrest⟩ := List.exists_cons_of_ne_nil (pieces_ne_nil p cs)
      rw [hrest] at h ih
      rcases List.mem_cons.1 h with rfl | h
      · intro c hc
        rcases List.mem_cons.1 hc with rfl | hc
        · exact List.mem_cons_self
        · exact List.mem_cons_of_mem d (ih List.mem_cons_self c hc)
      · exact fun c hc => List.mem_cons_of_mem d (ih (List.mem_cons_of_mem first h) c hc)

/-- Where a run of characters ends inside a text, nothing written behind the text makes it longer. -/
theorem takeWhile_append_of_dropWhile {cs : List Char} (h : cs.dropWhile p ≠ []) (ds : List Char) :
    (cs ++ ds).takeWhile p = cs.takeWhile p := by
  have hlength := congrArg List.length (List.takeWhile_append_dropWhile (p := p) (l := cs))
  rw [List.length_append] at hlength
  have hpositive := List.length_pos_iff.2 h
  rw [List.takeWhile_append, if_neg (by omega)]

theorem dropWhile_append_of_dropWhile {cs : List Char} (h : cs.dropWhile p ≠ []) (ds : List Char) :
    (cs ++ ds).dropWhile p = cs.dropWhile p ++ ds := by
  rw [List.dropWhile_append, if_neg fun hempty => h (List.isEmpty_iff.1 hempty)]

/-- Nor does it get longer where a character follows the text that does not belong to it. -/
theorem takeWhile_append_cons {c : Char} (hc : p c = false) (cs ds : List Char) :
    (cs ++ c :: ds).takeWhile p = cs.takeWhile p := by
  induction cs with
  | nil => simp [hc]
  | cons d cs ih => simp only [List.cons_append, List.takeWhile_cons, ih]

theorem dropWhile_append_cons {c : Char} (hc : p c = false) (cs ds : List Char) :
    (cs ++ c :: ds).dropWhile p = cs.dropWhile p ++ c :: ds := by
  induction cs with
  | nil => simp [hc]
  | cons d cs ih =>
    simp only [List.cons_append, List.dropWhile_cons, ih]
    split
    · rfl
    · rfl

end Text

namespace Web.Url

/-! ## The text of a URL -/

theorem ne_of_blank {c d : Char} (hc : c.toNat ≤ 0x20) (hd : 0x20 < d.toNat) : c ≠ d := by
  rintro rfl
  omega

/-- The blanks and controls at the end of a text, without tabs and line breaks, which count nowhere. -/
def trailing (cs : List Char) : List Char :=
  (cs.rtakeWhile (·.toNat ≤ 0x20)).filter fun c => c != '\t' && c != '\n' && c != '\r'

theorem blank_of_mem_trailing {cs : List Char} {c : Char} (hc : c ∈ trailing cs) : c.toNat ≤ 0x20 := by
  have hblank := List.mem_rtakeWhile_imp (List.mem_filter.1 hc).1
  exact of_decide_eq_true hblank

/-- The end of a text does not depend on how it begins, if there is something else in between. -/
theorem rtakeWhile_dropWhile {q : Char → Bool} {cs : List Char} (h : cs.dropWhile q ≠ []) :
    (cs.dropWhile q).rtakeWhile q = cs.rtakeWhile q := by
  have hstop : (cs.dropWhile q).reverse.dropWhile q ≠ [] := by
    intro hempty
    have hhead := List.dropWhile_eq_nil_iff.1 hempty _ (List.mem_reverse.2 (List.head_mem h))
    exact Bool.false_ne_true ((List.head_dropWhile_not q h).symm.trans hhead)
  have hreverse : cs.reverse = (cs.dropWhile q).reverse ++ (cs.takeWhile q).reverse := by
    rw [← List.reverse_append, List.takeWhile_append_dropWhile]
  unfold List.rtakeWhile
  rw [hreverse, Text.takeWhile_append_of_dropWhile hstop]

/-- Of what is written behind a text nothing is stripped, if no blanks or controls are in it. Those at the end of the
text itself are then kept, except for tabs and line breaks. -/
theorem stripped_append {cs ds : List Char} (hcs : stripped cs ≠ []) (hds : ∀ d ∈ ds, 0x20 < d.toNat) (hne : ds ≠ []) :
    stripped (cs ++ ds) = stripped cs ++ (trailing cs ++ ds) := by
  unfold stripped at hcs ⊢
  unfold trailing
  generalize hq : (fun c : Char => decide (c.toNat ≤ 0x20)) = q at hcs ⊢
  generalize hkeep : (fun c : Char => c != '\t' && c != '\n' && c != '\r') = keep at hcs ⊢
  have hinside : cs.dropWhile q ≠ [] := by
    intro hempty
    rw [hempty] at hcs
    exact hcs rfl
  rw [Text.dropWhile_append_of_dropWhile hinside, ← rtakeWhile_dropWhile hinside]
  generalize cs.dropWhile q = es
  have hend : Text.dropEndWhile q (es ++ ds) = es ++ ds := by
    refine List.rdropWhile_eq_self_iff.2 fun hne' => ?_
    have hlast := hds _ (List.getLast_mem hne)
    rw [List.getLast_append_of_ne_nil hne' hne, ← hq, decide_eq_true_iff]
    omega
  have hall : ds.filter keep = ds := by
    refine List.filter_eq_self.2 fun d hd => ?_
    have hne {c : Char} (hc : c.toNat ≤ 0x20) : d ≠ c := (ne_of_blank hc (hds d hd)).symm
    simp [← hkeep, hne (c := '\t') (by decide), hne (c := '\n') (by decide), hne (c := '\r') (by decide)]
  have hsplit : Text.dropEndWhile q es ++ es.rtakeWhile q = es := List.rdropWhile_append_rtakeWhile
  rw [hend, List.filter_append, hall, ← List.append_assoc, ← List.filter_append, hsplit]

theorem scheme?_append {cs scheme rest : List Char} (h : scheme? cs = some (scheme, rest)) (ds : List Char) :
    scheme? (cs ++ ds) = some (scheme, rest ++ ds) := by
  unfold scheme? at h ⊢
  split at h
  · next c name rest' htake hdrop =>
    have hne : cs.dropWhile isSchemeChar ≠ [] := by
      rw [hdrop]
      exact List.cons_ne_nil _ _
    rw [Text.takeWhile_append_of_dropWhile hne, Text.dropWhile_append_of_dropWhile hne, htake, hdrop]
    split at h
    · next halpha =>
      cases h
      simp only [List.cons_append, halpha, if_true]
    · cases h
  · cases h

theorem ne_nil_of_scheme? {cs : List Char} {r : List Char × List Char} (h : scheme? cs = some r) : cs ≠ [] := by
  rintro rfl
  cases h

theorem of_splitOff {c : Char} {cs : List Char} (h : (splitOff c cs).2 = none) : c ∉ cs := by
  intro hmem
  unfold splitOff at h
  rw [Text.cutAt_of_mem hmem] at h
  cases h

theorem splitOff_of_not_mem {c : Char} {cs : List Char} (h : c ∉ cs) : splitOff c cs = (cs, none) := by
  unfold splitOff
  rw [Text.cutAt_of_not_mem h]

/-- A text without a query and a fragment: its scheme, and what stands behind it. -/
structure Plain (cs scheme rest : List Char) : Prop where
  scheme : scheme? (stripped cs) = some (scheme, rest)
  fragment : '#' ∉ rest
  query : '?' ∉ rest

/-- A URL without a query and a fragment. -/
def ofHierarchy (scheme : List Char) (h : Hierarchy) : Url where
  scheme := scheme
  user := (h.authority.map (·.user)).getD []
  host := h.authority.map (·.host)
  portNumber := h.authority.bind (·.portNumber)
  path := h.path
  query := none
  fragment := none

section Plain

variable {cs scheme rest : List Char}

theorem Plain.readList_eq (h : Plain cs scheme rest) :
    readList cs = (readHierarchy scheme rest false).map (ofHierarchy scheme) := by
  unfold readList
  rw [h.scheme]
  dsimp only
  rw [splitOff_of_not_mem h.fragment]
  dsimp only
  rw [splitOff_of_not_mem h.query]
  simp only [Option.isSome_none, Bool.or_false]
  cases readHierarchy scheme rest false with
  | error e => rfl
  | ok hierarchy => rfl

theorem Plain.exists_hierarchy (h : Plain cs scheme rest) {u : Url} (hu : readList cs = .ok u) :
    ∃ hierarchy, readHierarchy scheme rest false = .ok hierarchy ∧ u = ofHierarchy scheme hierarchy := by
  rw [h.readList_eq] at hu
  cases hhierarchy : readHierarchy scheme rest false with
  | error e =>
    rw [hhierarchy] at hu
    cases hu
  | ok hierarchy =>
    rw [hhierarchy] at hu
    cases hu
    exact ⟨hierarchy, rfl, rfl⟩

/-- What a query and a fragment are read from. -/
theorem exists_splits_of_readList {u : Url} (h : readList cs = .ok u) :
    ∃ scheme rest before fragment front query, scheme? (stripped cs) = some (scheme, rest) ∧
      splitOff '#' rest = (before, fragment) ∧ splitOff '?' before = (front, query) ∧
      u.query = query.map (percentEncoded (if isSpecial scheme then Keep.specialQuery else Keep.query)) ∧
      u.fragment = fragment.map (percentEncoded Keep.fragment) := by
  unfold readList at h
  split at h
  · cases h
  · next scheme rest hscheme =>
    rcases hsharp : splitOff '#' rest with ⟨before, fragment⟩
    rcases hmark : splitOff '?' before with ⟨front, query⟩
    rw [hsharp] at h
    dsimp only at h
    rw [hmark] at h
    obtain ⟨hierarchy, -, h⟩ := Metadata.exists_of_bind_ok h
    cases h
    exact ⟨scheme, rest, before, fragment, front, query, hscheme, hsharp, hmark, rfl, rfl⟩

/-- A URL without a query and a fragment has been read from a text without them. -/
theorem exists_plain_of_readList {u : Url} (h : readList cs = .ok u) (hquery : u.query = none)
    (hfragment : u.fragment = none) : ∃ scheme rest, Plain cs scheme rest := by
  obtain ⟨scheme, rest, before, fragment, front, query, hscheme, hsharp, hmark, hq, hf⟩ := exists_splits_of_readList h
  obtain rfl : fragment = none := Option.map_eq_none_iff.1 (hf.symm.trans hfragment)
  obtain rfl : query = none := Option.map_eq_none_iff.1 (hq.symm.trans hquery)
  have hno : '#' ∉ rest := of_splitOff (congrArg Prod.snd hsharp)
  rw [splitOff_of_not_mem hno] at hsharp
  obtain ⟨rfl, -⟩ := Prod.mk.inj hsharp
  exact ⟨scheme, rest, hscheme, hno, of_splitOff (congrArg Prod.snd hmark)⟩

/-- Such a text with something visible behind it, which begins neither a query nor a fragment. -/
theorem Plain.append (h : Plain cs scheme rest) {ds : List Char}
    (hds : ∀ d ∈ ds, 0x20 < d.toNat ∧ d ≠ '#' ∧ d ≠ '?') (hne : ds ≠ []) :
    Plain (cs ++ ds) scheme (rest ++ (trailing cs ++ ds)) := by
  have hplain {c : Char} (hc : c ∉ rest) (hvisible : 0x20 < c.toNat) (hne : ∀ d ∈ ds, d ≠ c) :
      c ∉ rest ++ (trailing cs ++ ds) := by
    simp only [List.mem_append, not_or]
    exact ⟨hc, fun hmem => ne_of_blank (blank_of_mem_trailing hmem) hvisible rfl, fun hmem => hne c hmem rfl⟩
  refine ⟨?_, hplain h.fragment (by decide) fun d hd => (hds d hd).2.1,
    hplain h.query (by decide) fun d hd => (hds d hd).2.2⟩
  rw [stripped_append (ne_nil_of_scheme? h.scheme) (fun d hd => (hds d hd).1) hne]
  exact scheme?_append h.scheme _

/-- A slash and a name are visible, and begin no query and no fragment. -/
theorem visible_of_name {name : List Char} (hname : ∀ c ∈ name, c.isLower = true) :
    ∀ d ∈ '/' :: name, 0x20 < d.toNat ∧ d ≠ '#' ∧ d ≠ '?' := by
  refine List.forall_mem_cons.2 ⟨by decide, fun d hd => ?_⟩
  have hletter := of_isLower (p := fun d => decide (0x20 < d.toNat ∧ d ≠ '#' ∧ d ≠ '?')) (by decide) (hname d hd)
  exact of_decide_eq_true hletter

theorem toList_under (s name : String) : (s ++ "/" ++ name).toList = s.toList ++ '/' :: name.toList := by
  rw [String.toList_append, String.toList_append, List.append_assoc]
  rfl

end Plain

/-! ## The path -/

theorem mem_of_mem_splitUser {cs : List Char} : ∀ c ∈ (splitUser cs).2, c ∈ cs := by
  unfold splitUser
  dsimp only
  split
  · exact fun c hc => hc
  · next last hlast =>
    split
    · exact fun c hc => hc
    · exact Text.mem_of_mem_pieces (List.mem_of_getLast? hlast)

theorem mem_of_mem_splitPort {cs : List Char} (inBrackets : Bool) :
    ∀ c ∈ (splitPort inBrackets cs).2.getD [], c ∈ cs := by
  induction cs generalizing inBrackets with
  | nil => exact fun c hc => hc
  | cons d cs ih =>
    rw [splitPort]
    split
    · exact fun c hc => List.mem_cons_of_mem d hc
    · exact fun c hc => List.mem_cons_of_mem d (ih _ c hc)

/-- The path of a web URL begins at the first slash behind its host. -/
theorem path_of_readAuthority {scheme cs : List Char} (hspecial : isSpecial scheme = true) {more : Bool}
    {authority : Authority} {path : List Char} (h : readAuthority scheme cs more = .ok (authority, path)) :
    path = cs.dropWhile (!isSlash true ·) := by
  -- A backslash would end the port number, but it is a slash here.
  have hport : (((splitPort false (splitUser (cs.takeWhile (!isSlash true ·))).2).2.getD []).dropWhile
      (· != '\\')) = [] := by
    refine List.dropWhile_eq_nil_iff.2 fun c hc => ?_
    have hmem := mem_of_mem_splitUser c (mem_of_mem_splitPort false c hc)
    have hslash := List.mem_takeWhile_imp hmem
    rw [bne_iff_ne]
    rintro rfl
    exact absurd hslash (by decide)
  unfold readAuthority at h
  rw [hspecial] at h
  dsimp only at h
  split at h
  · cases h
  · split at h
    · cases h
    · obtain ⟨host, -, h⟩ := Metadata.exists_of_bind_ok h
      obtain ⟨portNumber, -, h⟩ := Metadata.exists_of_bind_ok h
      cases h
      rw [hport, List.nil_append]

theorem path_of_readHierarchy {scheme rest : List Char} (hspecial : isSpecial scheme = true)
    (hfile : scheme ≠ "file".toList) {more : Bool} {hierarchy : Hierarchy}
    (h : readHierarchy scheme rest more = .ok hierarchy) :
    rest.dropWhile (isSlash true) ≠ [] ∧
      hierarchy.path = readPath true ((rest.dropWhile (isSlash true)).dropWhile (!isSlash true ·)) := by
  unfold readHierarchy at h
  rw [if_neg hfile, if_pos hspecial] at h
  obtain ⟨⟨authority, path⟩, hauthority, h⟩ := Metadata.exists_of_bind_ok h
  cases h
  have hhost : readAuthority scheme [] more = .error .emptyHost := by
    unfold readAuthority
    rw [hspecial]
    rfl
  refine ⟨fun hempty => ?_, by rw [← path_of_readAuthority hspecial hauthority]⟩
  rw [hempty, hhost] at hauthority
  cases hauthority

theorem addPieces_concat (parts pieces : List (List Char)) (last : List Char) :
    addPieces parts (pieces ++ [last]) = addPiece true (pieces.foldl (addPiece false) parts) last := by
  induction pieces generalizing parts with
  | nil => rfl
  | cons piece pieces ih =>
    obtain ⟨next, rest, hrest⟩ := List.exists_cons_of_ne_nil (l := pieces ++ [last]) (by simp)
    have hstep := ih (addPiece false parts piece)
    rw [hrest] at hstep
    rw [List.cons_append, hrest, addPieces, hstep]
    · rfl
    · exact fun hnil => nomatch hnil

theorem addPiece_of_not_dots {last : Bool} {parts : List (List Char)} {piece : List Char}
    (hsingle : isSingleDot piece = false) (hdouble : isDoubleDot piece = false) :
    addPiece last parts piece = parts ++ [piece] := by
  unfold addPiece
  rw [hsingle, hdouble, if_neg Bool.false_ne_true, if_neg Bool.false_ne_true]

theorem length_up_le (parts : List (List Char)) : (up parts).length ≤ parts.length := by
  unfold up
  split
  · exact Nat.le_refl _
  · exact (List.dropLast_sublist parts).length_le

/-- A piece of dots leaves some of a path, with a slash behind it at the end of a text; any other piece is put in. -/
theorem cases_addPiece (above : List (List Char)) (piece : List Char) :
    (∃ parts, parts.length ≤ above.length ∧ piece ≠ [] ∧ addPiece true above piece = parts ++ [[]] ∧
      addPiece false above piece = parts) ∨
    ∀ last, addPiece last above piece = above ++ [piece] := by
  unfold addPiece
  cases hdouble : isDoubleDot piece with
  | true =>
    refine .inl ⟨up above, length_up_le above, ?_, rfl, List.append_nil _⟩
    · rintro rfl
      cases hdouble
  | false =>
    cases hsingle : isSingleDot piece with
    | true =>
      refine .inl ⟨above, Nat.le_refl _, ?_, rfl, List.append_nil _⟩
      rintro rfl
      cases hsingle
    | false => exact .inr fun last => rfl

theorem not_isSlash {c : Char} (h : isSlash true c = false) (special : Bool) : isSlash special c = false := by
  cases special with
  | true => exact h
  | false => simpa [isSlash] using (Bool.or_eq_false_iff.1 h).1

theorem not_isSlash_of_blank {c : Char} (hc : c.toNat ≤ 0x20) : isSlash true c = false := by
  simp [isSlash, ne_of_blank hc (d := '/') (by decide), ne_of_blank hc (d := '\\') (by decide)]

theorem not_isSlash_of_isLower {c : Char} (hc : c.isLower = true) : isSlash true c = false := by
  have hletter := of_isLower (p := fun c => !isSlash true c) (by decide) hc
  simpa using hletter

/-- The segments of a name. -/
theorem readSegments_name {name : List Char} (hname : ∀ c ∈ name, c.isLower = true) (special : Bool) :
    readSegments special name = [name] := by
  have hletters : ∀ c ∈ name, isSlash special c = false := fun c hc =>
    not_isSlash (not_isSlash_of_isLower (hname c hc)) special
  obtain ⟨hsingle, hdouble⟩ := not_dots_of_isLower hname
  unfold readSegments
  rw [Text.pieces_of_not hletters, List.map_singleton, percentEncoded_of_isLower (by decide) hname]
  exact addPiece_of_not_dots hsingle hdouble

/-- The segments of a text, and of the text with blanks, a slash and a name behind it. -/
theorem exists_readSegments (special : Bool) (cs : List Char) :
    ∃ above last, (last ≠ [] ↔ ∃ c, cs.getLast? = some c ∧ isSlash special c = false) ∧
      readSegments special cs = addPiece true above (percentEncoded Keep.path last) ∧
      ∀ blanks name : List Char, (∀ c ∈ blanks, c.toNat ≤ 0x20) → (∀ c ∈ name, c.isLower = true) →
        readSegments special (cs ++ (blanks ++ '/' :: name)) =
          addPiece false above (percentEncoded Keep.path (last ++ blanks)) ++ [name] := by
  obtain ⟨front, last, hpieces, happend⟩ := Text.exists_pieces_append (isSlash special) cs
  refine ⟨(front.map (percentEncoded Keep.path)).foldl (addPiece false) [], last, Text.last_ne_nil_iff hpieces, ?_,
    fun blanks name hblanks hname => ?_⟩
  · unfold readSegments
    rw [hpieces, List.map_append, List.map_singleton, addPieces_concat]
  · have hblank : ∀ c ∈ blanks, isSlash special c = false := fun c hc =>
      not_isSlash (not_isSlash_of_blank (hblanks c hc)) special
    have hletters : ∀ c ∈ name, isSlash special c = false := fun c hc =>
      not_isSlash (not_isSlash_of_isLower (hname c hc)) special
    unfold readSegments
    rw [← List.append_assoc, Text.pieces_append_cons rfl, happend blanks hblank, Text.pieces_of_not hletters]
    simp only [List.map_append, List.map_singleton]
    rw [addPieces_concat, List.foldl_append, List.foldl_cons, List.foldl_nil,
      percentEncoded_of_isLower (by decide) hname]
    obtain ⟨hsingle, hdouble⟩ := not_dots_of_isLower hname
    exact addPiece_of_not_dots hsingle hdouble

theorem isSpecial_of_web {scheme : List Char} (h : scheme = "http".toList ∨ scheme = "https".toList) :
    isSpecial scheme = true ∧ scheme ≠ "file".toList := by
  rcases h with rfl | rfl <;> decide

theorem isSpecial_of_isHttp {u : Url} (h : u.isHttp = true) :
    isSpecial u.scheme = true ∧ u.scheme ≠ "file".toList := by
  refine isSpecial_of_web ?_
  unfold isHttp at h
  simpa using (Bool.and_eq_true_iff.1 h).1

theorem exists_segments_readPath (cs : List Char) : ∃ parts, readPath true cs = .segments parts := by
  cases cs with
  | nil => exact ⟨_, rfl⟩
  | cons c cs => exact ⟨_, rfl⟩

/-- A web URL has segments. -/
theorem exists_segments_of_isHttp {s : String} {u : Url} (h : Url.read s = .ok u) (hhttp : u.isHttp = true) :
    ∃ parts, u.path = .segments parts := by
  unfold Url.read readList at h
  split at h
  · cases h
  · next scheme rest hscheme =>
    obtain ⟨hierarchy, hhierarchy, h⟩ := Metadata.exists_of_bind_ok h
    cases h
    obtain ⟨hspecial, hfile⟩ := isSpecial_of_isHttp hhttp
    obtain ⟨-, hpath⟩ := path_of_readHierarchy hspecial hfile hhierarchy
    exact hpath ▸ exists_segments_readPath _

/-- A URL with a scheme of the web has a host. -/
theorem isHttp_of_read {s : String} {u : Url} (h : Url.read s = .ok u)
    (hscheme : u.scheme = "http".toList ∨ u.scheme = "https".toList) : u.isHttp = true := by
  have hhost : u.host.isSome = true := by
    unfold Url.read readList at h
    split at h
    · cases h
    · next scheme rest _ =>
      obtain ⟨hierarchy, hhierarchy, h⟩ := Metadata.exists_of_bind_ok h
      cases h
      obtain ⟨hspecial, hfile⟩ := isSpecial_of_web hscheme
      unfold readHierarchy at hhierarchy
      rw [if_neg hfile, if_pos hspecial] at hhierarchy
      obtain ⟨⟨authority, path⟩, -, hhierarchy⟩ := Metadata.exists_of_bind_ok hhierarchy
      cases hhierarchy
      rfl
  simpa [isHttp, hhost] using hscheme

/-- Paths as `path` reads them from a text, and from the same text with a slash and a name behind it. There may be no
path yet; else blanks at the end of the text join its last segment, which dots no longer end. -/
inductive Under (name : List Char) : (path longer : UrlPath) → Prop
  | root : Under name (.segments [[]]) (.segments [name])
  | segments (above : List (List Char)) (last : List Char) {blanks : List Char}
    (hblanks : ∀ c ∈ blanks, c.toNat ≤ 0x20) :
    Under name (.segments (addPiece true above (percentEncoded Keep.path last)))
      (.segments (addPiece false above (percentEncoded Keep.path (last ++ blanks)) ++ [name]))

theorem readPath_cons {c : Char} (hc : isSlash true c = true) (cs : List Char) :
    readPath true (c :: cs) = .segments (readSegments true cs) := by
  rw [readPath, if_pos hc]

/-- The path after a host begins with a slash. -/
theorem isSlash_of_dropWhile {cs path : List Char} {c : Char} (h : cs.dropWhile (!isSlash true ·) = c :: path) :
    isSlash true c = true := by
  have hhead := List.head?_dropWhile_not (!isSlash true ·) cs
  rw [h] at hhead
  simpa using hhead

theorem under_readPath (cs : List Char) {blanks name : List Char} (hblanks : ∀ c ∈ blanks, c.toNat ≤ 0x20)
    (hname : ∀ c ∈ name, c.isLower = true) :
    Under name (readPath true (cs.dropWhile (!isSlash true ·)))
      (readPath true ((cs ++ (blanks ++ '/' :: name)).dropWhile (!isSlash true ·))) := by
  cases hpath : cs.dropWhile (!isSlash true ·) with
  | nil =>
    have hblank : ∀ c ∈ blanks, (!isSlash true c) = true := fun c hc => by
      rw [not_isSlash_of_blank (hblanks c hc), Bool.not_false]
    have hrest : (cs ++ (blanks ++ '/' :: name)).dropWhile (!isSlash true ·) = '/' :: name := by
      rw [List.dropWhile_append, hpath, if_pos List.isEmpty_nil, List.dropWhile_append_of_pos hblank]
      rfl
    rw [hrest, readPath_cons rfl, readSegments_name hname]
    exact .root
  | cons c p =>
    have hslash := isSlash_of_dropWhile hpath
    have hne : cs.dropWhile (!isSlash true ·) ≠ [] := hpath ▸ List.cons_ne_nil c p
    obtain ⟨above, last, -, hsegments, hlonger⟩ := exists_readSegments true p
    rw [Text.dropWhile_append_of_dropWhile hne, hpath, List.cons_append, readPath_cons hslash, readPath_cons hslash,
      hsegments, hlonger blanks name hblanks hname]
    exact .segments above last hblanks

/-- A web URL without a query and a fragment, and the one that is read with a slash and a name behind its text. -/
theorem under_of_read {s name : String} {base u : Url} (hbase : Url.read s = .ok base) (hhttp : base.isHttp = true)
    (hquery : base.query = none) (hfragment : base.fragment = none) (hname : ∀ c ∈ name.toList, c.isLower = true)
    (hu : Url.read (s ++ "/" ++ name) = .ok u) : Under name.toList base.path u.path := by
  obtain ⟨scheme, rest, hplain⟩ := exists_plain_of_readList hbase hquery hfragment
  have hlonger := hplain.append (visible_of_name hname) (List.cons_ne_nil _ _)
  rw [← toList_under] at hlonger
  obtain ⟨hierarchy, hhierarchy, rfl⟩ := hplain.exists_hierarchy hbase
  obtain ⟨hierarchy', hhierarchy', rfl⟩ := hlonger.exists_hierarchy hu
  obtain ⟨hspecial, hfile⟩ := isSpecial_of_isHttp hhttp
  obtain ⟨hne, hread⟩ := path_of_readHierarchy hspecial hfile hhierarchy
  obtain ⟨-, hread'⟩ := path_of_readHierarchy hspecial hfile hhierarchy'
  have hpath : (ofHierarchy scheme hierarchy).path = hierarchy.path := rfl
  have hpath' : (ofHierarchy scheme hierarchy').path = hierarchy'.path := rfl
  rw [hpath, hpath', hread, hread', Text.dropWhile_append_of_dropWhile hne]
  exact under_readPath _ (fun c hc => blank_of_mem_trailing hc) hname

end Web.Url

end RecordDesk
