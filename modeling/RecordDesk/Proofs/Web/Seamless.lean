import RecordDesk.Proofs.Web.Hosts
import RecordDesk.Proofs.Web.Joining

/-!
When a URL with a slash and a name written behind its text is the same as the URL with the name put into its path. That
is so if the text is `Seamless` (`read_append`), and for the web only then (`seamless_of_read_append`).
-/

namespace RecordDesk.Web.Url

/-! ## Whole texts -/

/-- A name can be written behind the text of a URL as well as put into its path. There is no query and no fragment, the
path has segments, which are not just two empty ones, and the text ends in no blank and in no slash. Outside of the web
the host is not empty, either. -/
structure Seamless (s : String) (base : Url) : Prop where
  query : base.query = none
  fragment : base.fragment = none
  path : ∃ parts, base.path = .segments parts ∧ parts ≠ [[], []]
  blanks : trailing s.toList = []
  slash : Unslashed (isSpecial base.scheme) (stripped s.toList)
  host : isSpecial base.scheme = true ∨ base.host ≠ some (.domain [])

theorem exists_eq_append_of_scheme? {cs scheme rest : List Char} (h : scheme? cs = some (scheme, rest)) :
    ∃ front, cs = front ++ ':' :: rest := by
  unfold scheme? at h
  split at h
  · next c name rest' htake hdrop =>
    split at h
    · cases h
      refine ⟨c :: name, ?_⟩
      rw [← htake, ← hdrop, List.takeWhile_append_dropWhile]
    · cases h
  · cases h

variable {s name : String} {base : Url} {parts : List (List Char)}

/-- A slash and a name behind a seamless text put the name into the path. -/
theorem read_append (hbase : Url.read s = .ok base) (h : Seamless s base) (hname : ∀ c ∈ name.toList, c.isLower = true)
    (hparts : base.path = .segments parts) :
    Url.read (s ++ "/" ++ name) = .ok (base.withPath (stem parts ++ [name.toList])) := by
  obtain ⟨scheme, rest, hplain⟩ := exists_plain_of_readList hbase h.query h.fragment
  obtain ⟨hierarchy, hhierarchy, rfl⟩ := hplain.exists_hierarchy hbase
  have hlonger := hplain.append (visible_of_name hname) (List.cons_ne_nil _ _)
  rw [h.blanks, List.nil_append, ← toList_under] at hlonger
  have hrest : Unslashed (isSpecial scheme) rest := by
    obtain ⟨front, hfront⟩ := exists_eq_append_of_scheme? hplain.scheme
    exact h.slash.of_suffix ⟨front ++ [':'], by rw [hfront, List.append_assoc]; rfl⟩
  have hroot : parts ≠ [[], []] := by
    obtain ⟨parts', hparts', hroot⟩ := h.path
    rintro rfl
    exact hroot (UrlPath.segments.inj (hparts'.symm.trans hparts))
  have hread := readHierarchy_append hname hhierarchy hrest h.host hparts hroot
  have hlist : Url.readList (s ++ "/" ++ name).toList = _ := hlonger.readList_eq
  rw [hread] at hlist
  exact hlist

theorem trailing_append {ds : List Char} (hds : ∀ d ∈ ds, 0x20 < d.toNat) (hne : ds ≠ []) (cs : List Char) :
    trailing (cs ++ ds) = [] := by
  have hend : (cs ++ ds).rtakeWhile (·.toNat ≤ 0x20) = [] := by
    rw [List.rtakeWhile_eq_nil_iff]
    intro hboth
    have hlast := hds _ (List.getLast_mem hne)
    rw [List.getLast_append_of_ne_nil hboth hne, decide_eq_true_iff]
    omega
  unfold trailing
  rw [hend, List.filter_nil]

/-- The longer text is seamless again. -/
theorem Seamless.append (hbase : Url.read s = .ok base) (h : Seamless s base)
    (hname : ∀ c ∈ name.toList, c.isLower = true) (hne : name ≠ "") :
    Seamless (s ++ "/" ++ name) (base.withPath (stem parts ++ [name.toList])) := by
  have hlist : name.toList ≠ [] := fun hempty => hne (String.toList_inj.1 hempty)
  have hvisible : ∀ d ∈ '/' :: name.toList, 0x20 < d.toNat := fun d hd => (visible_of_name hname d hd).1
  obtain ⟨scheme, rest, hplain⟩ := exists_plain_of_readList hbase h.query h.fragment
  refine ⟨h.query, h.fragment, ⟨_, rfl, fun hroots => hlist ?_⟩, ?_, ?_, h.host⟩
  · have hsplit : stem parts ++ [name.toList] = [[]] ++ [[]] := hroots
    exact List.singleton_inj.1 (List.append_inj_right' hsplit rfl)
  · rw [toList_under]
    exact trailing_append hvisible (List.cons_ne_nil _ _) _
  · rw [toList_under, stripped_append (ne_nil_of_scheme? hplain.scheme) hvisible (List.cons_ne_nil _ _),
      h.blanks, List.nil_append]
    have hend : Unslashed (isSpecial base.scheme) name.toList := fun c hc =>
      not_isSlash (not_isSlash_of_isLower (hname c (List.mem_of_getLast? hc))) _
    rw [List.append_cons (stripped s.toList)]
    exact (unslashed_append_iff hlist _).2 hend

/-! ## Texts of the web that are not seamless -/

theorem splitOff_append {c : Char} {cs before after : List Char} (h : splitOff c cs = (before, some after))
    (ds : List Char) : splitOff c (cs ++ ds) = (before, some (after ++ ds)) := by
  have hcut : Text.cutAt c cs = some (before, after) := by
    unfold splitOff at h
    split at h
    · cases h
    · next a b hab =>
      cases h
      exact hab
  obtain ⟨rfl, hnot⟩ := Text.eq_of_cutAt hcut
  unfold splitOff
  rw [List.append_assoc, List.cons_append, Text.cutAt_append hnot]

theorem encoded_append_ne {keep : Char → Bool} {cs ds : List Char} (hds : ds ≠ []) :
    some (percentEncoded keep (cs ++ ds)) ≠ some (percentEncoded keep cs) := by
  intro h
  have hsame := Option.some.inj h
  rw [percentEncoded_append] at hsame
  exact percentEncoded_ne_nil hds (List.append_cancel_left (hsame.trans (List.append_nil _).symm))

/-- A query or a fragment would be longer with the name behind it. -/
theorem none_of_read_append {u : Url} (hbase : Url.read s = .ok base)
    (hname : ∀ c ∈ name.toList, c.isLower = true) (hu : Url.read (s ++ "/" ++ name) = .ok u)
    (hquery : u.query = base.query) (hfragment : u.fragment = base.fragment) :
    base.query = none ∧ base.fragment = none := by
  obtain ⟨scheme, rest, before, fragment, front, query, hscheme, hsharp, hmark, hq, hf⟩ :=
    exists_splits_of_readList hbase
  obtain ⟨scheme', rest', before', fragment', front', query', hscheme', hsharp', hmark', hq', hf'⟩ :=
    exists_splits_of_readList hu
  have hvisible := visible_of_name hname
  rw [toList_under, stripped_append (ne_nil_of_scheme? hscheme) (fun d hd => (hvisible d hd).1) (List.cons_ne_nil _ _),
    scheme?_append hscheme] at hscheme'
  obtain ⟨rfl, rfl⟩ := Prod.mk.inj (Option.some.inj hscheme')
  have hds : trailing s.toList ++ '/' :: name.toList ≠ [] := List.append_ne_nil_of_right_ne_nil _ (List.cons_ne_nil _ _)
  have hnot : '#' ∉ trailing s.toList ++ '/' :: name.toList := by
    rw [List.mem_append, not_or]
    exact ⟨fun hmem => ne_of_blank (blank_of_mem_trailing hmem) (by decide) rfl, fun hmem => (hvisible _ hmem).2.1 rfl⟩
  generalize trailing s.toList ++ '/' :: name.toList = ds at hds hnot hsharp'
  cases fragment with
  | some after =>
    rw [splitOff_append hsharp] at hsharp'
    obtain ⟨-, rfl⟩ := Prod.mk.inj hsharp'
    rw [hf, hf'] at hfragment
    exact absurd hfragment (encoded_append_ne hds)
  | none =>
    have hplain : '#' ∉ rest ++ ds := by
      rw [List.mem_append, not_or]
      exact ⟨of_splitOff (congrArg Prod.snd hsharp), hnot⟩
    rw [splitOff_of_not_mem hplain] at hsharp'
    rw [splitOff_of_not_mem (of_splitOff (congrArg Prod.snd hsharp))] at hsharp
    obtain ⟨rfl, -⟩ := Prod.mk.inj hsharp
    obtain ⟨rfl, -⟩ := Prod.mk.inj hsharp'
    cases query with
    | some after =>
      rw [splitOff_append hmark] at hmark'
      obtain ⟨-, rfl⟩ := Prod.mk.inj hmark'
      rw [hq, hq'] at hquery
      exact absurd hquery (encoded_append_ne hds)
    | none => exact ⟨hq, hf⟩

/-! ## Blanks behind a host -/

section Blanks

variable {blanks : List Char} (hblanks : ∀ c ∈ blanks, c.toNat ≤ 0x20)

include hblanks

theorem exists_splitUser_append (cs : List Char) : ∃ rest, (splitUser (cs ++ blanks)).2 = rest ++ blanks := by
  have hat : ∀ c ∈ blanks, (c == '@') = false := fun c hc =>
    beq_eq_false_iff_ne.2 (ne_of_blank (hblanks c hc) (by decide))
  obtain ⟨front, last, -, happend⟩ := Text.exists_pieces_append (· == '@') cs
  unfold splitUser
  rw [happend blanks hat]
  dsimp only
  rw [List.getLast?_concat]
  dsimp only
  split
  · exact ⟨cs, rfl⟩
  · exact ⟨last, rfl⟩

theorem splitPort_blanks (inBrackets : Bool) : splitPort inBrackets blanks = (blanks, none) := by
  induction blanks generalizing inBrackets with
  | nil => rfl
  | cons c cs ih =>
    have hc : c ≠ ':' := ne_of_blank (hblanks c List.mem_cons_self) (by decide)
    rw [splitPort, if_neg (fun h => hc h.1), ih fun d hd => hblanks d (List.mem_cons_of_mem c hd)]

/-- Blanks behind a host and its port number are behind the host if there is no port number. -/
theorem splitPort_append (inBrackets : Bool) (cs : List Char) :
    (∃ host, splitPort inBrackets (cs ++ blanks) = (host ++ blanks, none)) ∨
      ∃ host digits, splitPort inBrackets (cs ++ blanks) = (host, some (digits ++ blanks)) := by
  induction cs generalizing inBrackets with
  | nil => exact .inl ⟨[], splitPort_blanks hblanks inBrackets⟩
  | cons c cs ih =>
    rw [List.cons_append, splitPort]
    split
    · exact .inr ⟨[], cs, rfl⟩
    · rcases ih (c == '[' || (inBrackets && c != ']')) with ⟨host, hhost⟩ | ⟨host, digits, hhost⟩
      · rw [hhost]
        exact .inl ⟨c :: host, rfl⟩
      · rw [hhost]
        exact .inr ⟨c :: host, digits, rfl⟩

/-- There are none behind a host of the web. -/
theorem eq_nil_of_hasAuthority {scheme cs ds path : List Char} {more : Bool} {a : Authority}
    (hspecial : isSpecial scheme = true) (hcs : ∀ c ∈ cs, isSlash true c = false)
    (h : HasAuthority scheme (cs ++ (blanks ++ '/' :: ds)) more a path) : blanks = [] := by
  have hvisible : ∀ c ∈ cs ++ blanks, isSlash true c = false := by
    intro c hc
    rcases List.mem_append.1 hc with hmem | hmem
    · exact hcs c hmem
    · exact not_isSlash_of_blank (hblanks c hmem)
  have hinside : inside scheme (cs ++ (blanks ++ '/' :: ds)) = cs ++ blanks := by
    rw [← List.append_assoc, inside_append]
    refine List.takeWhile_eq_self_iff.2 fun c hc => ?_
    rw [hspecial, hvisible c hc, Bool.not_false]
  obtain ⟨rest, hrest⟩ := exists_splitUser_append hblanks cs
  have hsplit : portOf scheme (cs ++ (blanks ++ '/' :: ds)) = splitPort false (rest ++ blanks) := by
    unfold portOf userOf
    rw [hinside, hrest]
  by_contra hne
  obtain ⟨front, last, hlast⟩ := (List.eq_nil_or_concat blanks).resolve_left hne
  have hmem : last ∈ blanks := by
    rw [hlast, List.concat_eq_append]
    exact List.mem_append_right front (List.mem_singleton_self last)
  rcases splitPort_append hblanks false rest with ⟨host, hport⟩ | ⟨host, digits, hport⟩
  · -- A blank at the end of the host is refused.
    have hread := h.host
    obtain ⟨e, he⟩ := Host.readSpecial_of_blank (host ++ front) (hblanks last hmem)
    rw [hsplit, hport, hspecial, hlast, List.concat_eq_append, ← List.append_assoc, Host.read, if_pos rfl, he] at hread
    cases hread
  · -- A port number consists of digits.
    have hread := h.portNumber
    have hall : (digits ++ blanks).takeWhile (· != '\\') = digits ++ blanks := by
      refine List.takeWhile_eq_self_iff.2 fun c hc => ?_
      have hmem : c ∈ (splitUser (cs ++ blanks)).2 := by
        rw [hrest]
        exact mem_of_mem_splitPort false c (by rw [hport]; exact hc)
      rw [bne_iff_ne]
      rintro rfl
      exact absurd (hvisible '\\' (mem_of_mem_splitUser _ hmem)) (by decide)
    have hdigits : Numeral.isDigits (digits ++ blanks) = false := by
      refine Bool.eq_false_iff.2 fun hdigits => ?_
      have hdigit := List.all_eq_true.1 (Bool.and_eq_true_iff.1 hdigits).2 last (List.mem_append_right digits hmem)
      have hlow : 48 ≤ last.toNat :=
        UInt32.le_iff_toNat_le.1 (of_decide_eq_true (Bool.and_eq_true_iff.1 hdigit).1)
      have hblank := hblanks last hmem
      omega
    rw [hsplit, hport, Option.getD_some, hall, portNumber?, if_neg (by simp [hne]), hdigits, Bool.false_and,
      if_neg Bool.false_ne_true] at hread
    cases hread

end Blanks

/-- From a host on: if a name behind the text comes to stand where it is put into the path, then there are no blanks
before it, no slash, and not just one empty segment. -/
theorem ends_of_readPath {cs blanks name : List Char} (hblanks : ∀ c ∈ blanks, c.toNat ≤ 0x20)
    (hname : ∀ c ∈ name, c.isLower = true) (hhost : cs.dropWhile (!isSlash true ·) = [] → blanks = [])
    (hparts : readPath true (cs.dropWhile (!isSlash true ·)) = .segments parts)
    (hlonger : readPath true ((cs ++ (blanks ++ '/' :: name)).dropWhile (!isSlash true ·)) =
      .segments (stem parts ++ [name])) :
    parts ≠ [[], []] ∧ blanks = [] ∧ Unslashed true cs := by
  cases hpath : cs.dropWhile (!isSlash true ·) with
  | nil =>
    rw [hpath] at hparts
    obtain rfl : [[]] = parts := UrlPath.segments.inj hparts
    refine ⟨by decide, hhost hpath, fun c hc => ?_⟩
    simpa using List.dropWhile_eq_nil_iff.1 hpath c (List.mem_of_getLast? hc)
  | cons slash path =>
    have hslash := isSlash_of_dropWhile hpath
    have hne : cs.dropWhile (!isSlash true ·) ≠ [] := hpath ▸ List.cons_ne_nil slash path
    obtain ⟨above, last, hlast, hsegments, happend⟩ := exists_readSegments true path
    rw [Text.dropWhile_append_of_dropWhile hne, hpath, List.cons_append, readPath_cons hslash,
      happend blanks name hblanks hname] at hlonger
    rw [hpath, readPath_cons hslash, hsegments] at hparts
    obtain rfl := UrlPath.segments.inj hparts
    have hsame := List.append_inj_left' (UrlPath.segments.inj hlonger) rfl
    have hpiece : percentEncoded Keep.path (last ++ blanks) = percentEncoded Keep.path last ∨
        isSingleDot (percentEncoded Keep.path (last ++ blanks)) = false ∧
          isDoubleDot (percentEncoded Keep.path (last ++ blanks)) = false := by
      cases blanks with
      | nil => exact .inl (by rw [List.append_nil])
      | cons blank blanks =>
        have hmem : blank ∈ last ++ blank :: blanks := List.mem_append_right last List.mem_cons_self
        obtain ⟨d, hd, hdigit⟩ := exists_digit_of_blank hmem (hblanks blank List.mem_cons_self)
        exact .inr (not_dots_of_digit hd hdigit)
    obtain ⟨hencoded, hfilled, hroot⟩ := of_stem_addPiece hpiece hsame.symm
    have hnone : blanks = [] := by
      by_contra hsome
      exact encoded_append_ne hsome (congrArg some hencoded)
    obtain ⟨c, hc, hend⟩ := hlast.1 fun hempty => hfilled (by rw [hempty]; rfl)
    refine ⟨hroot, hnone, fun d hd => ?_⟩
    have hsplit : cs = cs.takeWhile (!isSlash true ·) ++ [slash] ++ path := by
      rw [List.append_assoc, List.singleton_append, ← hpath, List.takeWhile_append_dropWhile]
    have hfull : path ≠ [] := by
      rintro rfl
      cases hc
    rw [hsplit, List.getLast?_append_of_ne_nil _ hfull, hc] at hd
    rwa [← Option.some.inj hd]

/-- For the web: if the name behind the text gives what the name in the path gives, then the text is seamless. -/
theorem seamless_of_read_append {u : Url} (hbase : Url.read s = .ok base) (hhttp : base.isHttp = true)
    (hparts : base.path = .segments parts) (hname : ∀ c ∈ name.toList, c.isLower = true)
    (hu : Url.read (s ++ "/" ++ name) = .ok u) (hsame : u = base.withPath (stem parts ++ [name.toList])) :
    Seamless s base := by
  obtain ⟨hquery, hfragment⟩ := none_of_read_append hbase hname hu (by rw [hsame]; rfl) (by rw [hsame]; rfl)
  obtain ⟨scheme, rest, hplain⟩ := exists_plain_of_readList hbase hquery hfragment
  have hlonger := hplain.append (visible_of_name hname) (List.cons_ne_nil _ _)
  rw [← toList_under] at hlonger
  obtain ⟨hierarchy, hhierarchy, rfl⟩ := hplain.exists_hierarchy hbase
  obtain ⟨hierarchy', hhierarchy', rfl⟩ := hlonger.exists_hierarchy hu
  obtain ⟨hspecial, hfile⟩ : isSpecial scheme = true ∧ scheme ≠ "file".toList := isSpecial_of_isHttp hhttp
  obtain ⟨hne, hread⟩ := path_of_readHierarchy hspecial hfile hhierarchy
  obtain ⟨-, hread'⟩ := path_of_readHierarchy hspecial hfile hhierarchy'
  have hpath : hierarchy.path = .segments parts := hparts
  have hpath' : hierarchy'.path = .segments (stem parts ++ [name.toList]) := congrArg Url.path hsame
  rw [Text.dropWhile_append_of_dropWhile hne] at hread'
  rw [hpath] at hread
  rw [hpath'] at hread'
  have hhost : (rest.dropWhile (isSlash true)).dropWhile (!isSlash true ·) = [] → trailing s.toList = [] := by
    intro hpathless
    unfold readHierarchy at hhierarchy'
    rw [if_neg hfile, if_pos hspecial, Text.dropWhile_append_of_dropWhile hne] at hhierarchy'
    obtain ⟨⟨a, path⟩, hauthority, -⟩ := Metadata.exists_of_bind_ok hhierarchy'
    refine eq_nil_of_hasAuthority (fun c hc => blank_of_mem_trailing hc) hspecial (fun c hc => ?_)
      (readAuthority_eq_ok_iff.1 hauthority)
    simpa using List.dropWhile_eq_nil_iff.1 hpathless c hc
  obtain ⟨hroot, hblanks, hslash⟩ :=
    ends_of_readPath (fun c hc => blank_of_mem_trailing hc) hname hhost hread.symm hread'.symm
  refine ⟨hquery, hfragment, ⟨parts, hparts, hroot⟩, hblanks, ?_, .inl hspecial⟩
  obtain ⟨front, hfront⟩ := exists_eq_append_of_scheme? hplain.scheme
  have hsplit : stripped s.toList =
      front ++ ':' :: rest.takeWhile (isSlash true) ++ rest.dropWhile (isSlash true) := by
    rw [hfront, List.append_assoc, List.cons_append, List.takeWhile_append_dropWhile]
  rw [hsplit, unslashed_append_iff hne]
  exact hspecial.symm ▸ hslash

end RecordDesk.Web.Url
