import RecordDesk.Proofs.Web.Addresses

/-!
What a URL reads as with a slash and a name written behind its text, piece by piece: the end of the path, the path, what
stands before it, and all of what stands behind the scheme (`readHierarchy_append`). The name becomes the last segment,
behind what `stem` leaves of the path, if the text does not end in a slash and its path is more than two empty segments.
-/

namespace RecordDesk.Web.Url

/-! ## The end of a path -/

theorem stem_slash_eq_iff {parts : List (List Char)} : stem (parts ++ [[]]) = parts ↔ parts ≠ [[]] := by
  rw [Client.stem_concat_nil]
  split
  · next hroot => simp [hroot]
  · next hroot => simp [hroot]

theorem length_stem_slash_le (parts : List (List Char)) : (stem (parts ++ [[]])).length ≤ parts.length := by
  rw [Client.stem_concat_nil]
  split
  · exact Nat.zero_le _
  · exact Nat.le_refl _

theorem slash_ne_iff {parts : List (List Char)} : parts ++ [[]] ≠ [[], []] ↔ parts ≠ [[]] := by
  have hroots : ([[], []] : List (List Char)) = [[]] ++ [[]] := rfl
  rw [hroots, Ne, Ne, List.append_left_inj]

/-- It does so only then, and not before a piece that is no dots and another one. -/
theorem of_stem_addPiece {above : List (List Char)} {piece piece' : List Char}
    (hpiece : piece' = piece ∨ isSingleDot piece' = false ∧ isDoubleDot piece' = false)
    (h : stem (addPiece true above piece) = addPiece false above piece') :
    piece' = piece ∧ piece ≠ [] ∧ addPiece true above piece ≠ [[], []] := by
  have hlength := congrArg List.length h
  rcases cases_addPiece above piece with ⟨parts, hshort, hne, hend, hinside⟩ | hput
  · have hle := length_stem_slash_le parts
    rcases hpiece with rfl | hplain
    · rw [hend, hinside] at h
      exact ⟨rfl, hne, hend ▸ slash_ne_iff.2 (stem_slash_eq_iff.1 h)⟩
    · rw [hend, addPiece_of_not_dots hplain.1 hplain.2, List.length_append, List.length_singleton] at hlength
      omega
  · have hput' : addPiece false above piece' = above ++ [piece'] := by
      rcases hpiece with rfl | hplain
      · exact hput false
      · exact addPiece_of_not_dots hplain.1 hplain.2
    rw [hput, hput'] at h hlength
    have hne : piece ≠ [] := by
      rintro rfl
      have hle := length_stem_slash_le above
      rw [List.length_append, List.length_singleton] at hlength
      omega
    rw [Client.stem_concat hne] at h
    refine ⟨(List.singleton_inj.1 (List.append_cancel_left h)).symm, hne, fun hroot => hne ?_⟩
    have hroots : above ++ [piece] = [[]] ++ [[]] := (hput true).symm.trans hroot
    exact List.singleton_inj.1 (List.append_inj_right' hroots rfl)

/-! ## Paths -/

/-- The text does not end in a slash. -/
def Unslashed (special : Bool) (cs : List Char) : Prop := ∀ c, cs.getLast? = some c → isSlash special c = false

theorem unslashed_append_iff {special : Bool} {ds : List Char} (hds : ds ≠ []) (cs : List Char) :
    Unslashed special (cs ++ ds) ↔ Unslashed special ds := by
  unfold Unslashed
  rw [List.getLast?_append_of_ne_nil cs hds]

/-- No end of a text that does not end in a slash ends in one. -/
theorem Unslashed.of_suffix {special : Bool} {cs ds : List Char} (h : Unslashed special cs) (hds : ds <:+ cs) :
    Unslashed special ds := by
  obtain ⟨front, rfl⟩ := hds
  by_cases hempty : ds = []
  · rw [hempty]
    intro c hc
    cases hc
  · exact (unslashed_append_iff hempty front).1 h

section Paths

variable {special : Bool} {name : List Char} (hname : ∀ c ∈ name, c.isLower = true)

include hname

/-- A name behind a text comes to stand behind its last piece, or for the slash that dots at the end leave. -/
theorem cases_readSegments_append {cs : List Char} (hne : cs ≠ []) (hcs : Unslashed special cs) :
    (∃ parts, readSegments special cs = parts ++ [[]] ∧ readSegments special (cs ++ '/' :: name) = parts ++ [name]) ∨
    ∃ above piece, piece ≠ [] ∧ readSegments special cs = above ++ [piece] ∧
      readSegments special (cs ++ '/' :: name) = above ++ [piece] ++ [name] := by
  obtain ⟨above, last, hlast, hsegments, hlonger⟩ := exists_readSegments special cs
  have hlast : last ≠ [] := hlast.2 ⟨_, List.getLast?_eq_some_getLast hne, hcs _ (List.getLast?_eq_some_getLast hne)⟩
  have happend := hlonger [] name (fun c hc => absurd hc List.not_mem_nil) hname
  rw [List.nil_append, List.append_nil] at happend
  rw [hsegments, happend]
  rcases cases_addPiece above (percentEncoded Keep.path last) with ⟨parts, -, -, hend, hinside⟩ | hput
  · exact .inl ⟨parts, hend, by rw [hinside]⟩
  · exact .inr ⟨above, _, percentEncoded_ne_nil hlast, hput true, by rw [hput]⟩

theorem readSegments_append {cs : List Char} (hne : cs ≠ []) (hcs : Unslashed special cs)
    (hroot : readSegments special cs ≠ [[], []]) :
    readSegments special (cs ++ '/' :: name) = stem (readSegments special cs) ++ [name] := by
  rcases cases_readSegments_append hname hne hcs with ⟨parts, hend, happend⟩ | ⟨above, piece, hpiece, hend, happend⟩
  · rw [hend, slash_ne_iff] at hroot
    rw [hend, happend, stem_slash_eq_iff.2 hroot]
  · rw [hend, happend, Client.stem_concat hpiece]

theorem readPath_append {cs : List Char} {parts : List (List Char)} (hcs : Unslashed special cs)
    (hpath : readPath special cs = .segments parts) (hroot : parts ≠ [[], []]) :
    readPath special (cs ++ '/' :: name) = .segments (stem parts ++ [name]) := by
  cases cs with
  | nil =>
    have hslash : isSlash special '/' = true := rfl
    rw [List.nil_append, readPath, if_pos hslash, readSegments_name hname]
    cases special with
    | true =>
      obtain rfl : [[]] = parts := UrlPath.segments.inj hpath
      rfl
    | false =>
      obtain rfl : [] = parts := UrlPath.segments.inj hpath
      rfl
  | cons c cs =>
    rw [readPath] at hpath
    obtain rfl := UrlPath.segments.inj hpath
    rw [List.cons_append, readPath]
    split
    · next hslash =>
      rw [if_pos hslash] at hroot
      have hne : cs ≠ [] := by
        rintro rfl
        exact Bool.false_ne_true ((hcs c rfl).symm.trans hslash)
      have hcs := (unslashed_append_iff hne [c]).1 hcs
      rw [readSegments_append hname hne hcs hroot]
    · next hslash =>
      rw [if_neg hslash] at hroot
      rw [← List.cons_append, readSegments_append hname (List.cons_ne_nil c cs) hcs hroot]

end Paths

/-! ## Hosts -/

/-- What stands before the path. -/
def inside (scheme cs : List Char) : List Char := cs.takeWhile (!isSlash (isSpecial scheme) ·)

/-- What stands from the path on. -/
def outside (scheme cs : List Char) : List Char := cs.dropWhile (!isSlash (isSpecial scheme) ·)

/-- The user in front of a host, and the host with its port number. -/
def userOf (scheme cs : List Char) : Option (List Char) × List Char := splitUser (inside scheme cs)

def portOf (scheme cs : List Char) : List Char × Option (List Char) := splitPort false (userOf scheme cs).2

/-- What is read between two slashes and a path, and the path. -/
structure HasAuthority (scheme cs : List Char) (more : Bool) (a : Authority) (path : List Char) : Prop where
  named : ¬ ((userOf scheme cs).1 = some [] ∧ (userOf scheme cs).2.isEmpty = true ∧
    (more = true ∨ (!(outside scheme cs).isEmpty) = true))
  hosted : ¬ ((portOf scheme cs).1.isEmpty && (isSpecial scheme || (portOf scheme cs).2.isSome ||
    !(encodedUser ((userOf scheme cs).1.getD [])).isEmpty)) = true
  host : Host.read (isSpecial scheme) (portOf scheme cs).1 = .ok a.host
  portNumber : portNumber? scheme (((portOf scheme cs).2.getD []).takeWhile (· != '\\')) = .ok a.portNumber
  user : a.user = encodedUser ((userOf scheme cs).1.getD [])
  path : path = ((portOf scheme cs).2.getD []).dropWhile (· != '\\') ++ outside scheme cs

theorem readAuthority_eq_ok_iff {scheme cs : List Char} {more : Bool} {a : Authority} {path : List Char} :
    readAuthority scheme cs more = .ok (a, path) ↔ HasAuthority scheme cs more a path := by
  unfold readAuthority
  dsimp only
  constructor
  · intro h
    split at h
    · cases h
    · next hnamed =>
      split at h
      · cases h
      · next hhosted =>
        obtain ⟨host, hhost, h⟩ := Metadata.exists_of_bind_ok h
        obtain ⟨portNumber, hport, h⟩ := Metadata.exists_of_bind_ok h
        cases h
        exact ⟨hnamed, hhosted, hhost, hport, rfl, rfl⟩
  · rintro ⟨hnamed, hhosted, hhost, hport, huser, rfl⟩
    unfold portOf userOf outside inside at *
    rw [if_neg hnamed, if_neg hhosted]
    simp only [bind, Except.bind, pure, Except.pure] at *
    rw [hhost]
    dsimp only
    rw [hport]
    dsimp only
    rw [← huser]

section Authority

variable {scheme cs path : List Char} {more : Bool} {a : Authority}

theorem inside_append (scheme cs ds : List Char) : inside scheme (cs ++ '/' :: ds) = inside scheme cs :=
  Text.takeWhile_append_cons rfl cs ds

theorem outside_append (scheme cs ds : List Char) :
    outside scheme (cs ++ '/' :: ds) = outside scheme cs ++ '/' :: ds := Text.dropWhile_append_cons rfl cs ds

/-- There is a host, outside of the web perhaps an empty one. -/
theorem HasAuthority.host_ne_nil (h : HasAuthority scheme cs more a path)
    (hhost : isSpecial scheme = true ∨ a.host ≠ .domain []) : (userOf scheme cs).2.isEmpty = false := by
  refine Bool.eq_false_iff.2 fun hempty => ?_
  have hport : portOf scheme cs = ([], none) := by
    unfold portOf
    rw [List.isEmpty_iff.1 hempty]
    rfl
  have hhosted := h.hosted
  have hread := h.host
  rw [hport] at hhosted hread
  rcases hhost with hspecial | hnamed
  · rw [hspecial] at hhosted
    exact hhosted rfl
  · cases hspecial : isSpecial scheme with
    | true =>
      rw [hspecial] at hhosted
      exact hhosted rfl
    | false =>
      rw [hspecial] at hread
      exact hnamed (Except.ok.inj hread).symm

/-- What is written behind a path belongs to the path. -/
theorem HasAuthority.append (h : HasAuthority scheme cs more a path)
    (hhost : isSpecial scheme = true ∨ a.host ≠ .domain []) (ds : List Char) :
    HasAuthority scheme (cs ++ '/' :: ds) more a (path ++ '/' :: ds) := by
  have hne := h.host_ne_nil hhost
  have huser : userOf scheme (cs ++ '/' :: ds) = userOf scheme cs := congrArg splitUser (inside_append scheme cs ds)
  have hport : portOf scheme (cs ++ '/' :: ds) = portOf scheme cs := by
    unfold portOf
    rw [huser]
  refine ⟨?_, ?_, ?_, ?_, ?_, ?_⟩
  · rw [huser, hne]
    exact fun hnamed => Bool.false_ne_true hnamed.2.1
  · rw [huser, hport]
    exact h.hosted
  · rw [hport]
    exact h.host
  · rw [hport]
    exact h.portNumber
  · rw [huser]
    exact h.user
  · rw [hport, outside_append, ← List.append_assoc, ← h.path]

theorem HasAuthority.unslashed (h : HasAuthority scheme cs more a path) (hcs : Unslashed (isSpecial scheme) cs) :
    Unslashed (isSpecial scheme) path := by
  have hsplit : inside scheme cs ++ outside scheme cs = cs := List.takeWhile_append_dropWhile
  rw [h.path]
  by_cases hempty : outside scheme cs = []
  · rw [hempty, List.append_nil]
    intro c hc
    have hmem : c ∈ inside scheme cs := mem_of_mem_splitUser c
      (mem_of_mem_splitPort false c (List.dropWhile_subset _ (List.mem_of_getLast? hc)))
    simpa using List.mem_takeWhile_imp hmem
  · rw [← hsplit, unslashed_append_iff hempty] at hcs
    exact (unslashed_append_iff hempty _).2 hcs

end Authority

/-! ## What stands behind the scheme -/

/-- Behind a segment that is not empty, all segments of a file URL are kept. -/
theorem fileParts_append {parts : List (List Char)} (h : parts.dropWhile List.isEmpty ≠ []) (rest : List (List Char)) :
    fileParts (parts ++ rest) = fileParts parts ++ rest := by
  cases parts with
  | nil => exact absurd rfl h
  | cons part parts =>
    unfold fileParts
    rw [List.cons_append, List.head?_cons, List.head?_cons]
    split
    · rfl
    · rw [← List.cons_append, List.dropWhile_append, if_neg fun hempty => h (List.isEmpty_iff.1 hempty)]
      obtain ⟨first, others, hparts⟩ := List.exists_cons_of_ne_nil h
      rw [hparts]
      rfl

/-- Behind empty segments, one that names no drive becomes the only one. -/
theorem fileParts_concat {parts : List (List Char)} (h : parts.dropWhile List.isEmpty = []) {piece : List Char}
    (hpiece : isDrive piece = false) : fileParts (parts ++ [piece]) = [piece] := by
  have hempty := List.dropWhile_eq_nil_iff.1 h
  have hdrive : (parts ++ [piece]).head?.any isDrive = false := by
    cases parts with
    | nil => exact hpiece
    | cons part parts =>
      have hpart := hempty part List.mem_cons_self
      rw [List.isEmpty_iff.1 hpart]
      rfl
  unfold fileParts
  rw [hdrive, if_neg Bool.false_ne_true, List.dropWhile_append_of_pos hempty]
  cases piece <;> rfl

theorem fileParts_ne_root {parts : List (List Char)} (h : parts.dropWhile List.isEmpty ≠ []) :
    fileParts parts ≠ [[]] := by
  unfold fileParts
  split
  · next hdrive =>
    cases parts with
    | nil => cases hdrive
    | cons part parts =>
      intro hroot
      have hlength := congrArg List.length (List.cons.inj hroot).1
      rw [List.length_set] at hlength
      rw [List.length_eq_zero_iff.1 hlength] at hdrive
      cases hdrive
  · split
    · next hnil => exact absurd hnil h
    · intro hroot
      have hhead := List.head?_dropWhile_not List.isEmpty parts
      rw [hroot] at hhead
      exact Bool.false_ne_true hhead.symm

/-- The last segment stays one that is not empty. -/
theorem exists_fileParts_concat (above : List (List Char)) {piece : List Char} (hpiece : piece ≠ []) :
    ∃ above' piece', piece' ≠ [] ∧ fileParts (above ++ [piece]) = above' ++ [piece'] := by
  have hfull : piece.isEmpty = false := Bool.eq_false_iff.2 fun hempty => hpiece (List.isEmpty_iff.1 hempty)
  unfold fileParts
  split
  · cases above with
    | nil => exact ⟨[], piece.set 1 ':', fun hnil => hpiece ((List.set_eq_nil_iff _ _).1 hnil), rfl⟩
    | cons part parts => exact ⟨part.set 1 ':' :: parts, piece, hpiece, rfl⟩
  · have hkept : (above ++ [piece]).dropWhile List.isEmpty = above.dropWhile List.isEmpty ++ [piece] := by
      rw [List.dropWhile_append]
      split
      · next hnil => rw [List.isEmpty_iff.1 hnil, List.dropWhile_cons, hfull]; rfl
      · rfl
    rw [hkept]
    refine ⟨above.dropWhile List.isEmpty, piece, hpiece, ?_⟩
    split
    · next hnil => exact absurd hnil (by simp)
    · rfl

/-- A name behind the last segment of a file URL. -/
theorem fileHierarchy_concat (host : Option Host) (above : List (List Char)) {piece : List Char} (hpiece : piece ≠ [])
    (name : List Char) :
    fileHierarchy host (above ++ [piece] ++ [name]) =
      ⟨(fileHierarchy host (above ++ [piece])).authority,
        .segments (stem (fileParts (above ++ [piece])) ++ [name])⟩ := by
  have hhead : (above ++ [piece] ++ [name]).head? = (above ++ [piece]).head? :=
    List.head?_append_of_ne_nil _ (List.append_ne_nil_of_right_ne_nil above (List.cons_ne_nil piece []))
  have hfull : (above ++ [piece]).dropWhile List.isEmpty ≠ [] := fun hempty =>
    hpiece (List.isEmpty_iff.1 (List.dropWhile_eq_nil_iff.1 hempty piece List.mem_concat_self))
  obtain ⟨above', piece', hpiece', hparts⟩ := exists_fileParts_concat above hpiece
  unfold fileHierarchy
  rw [hhead, fileParts_append hfull, hparts, Client.stem_concat hpiece']

/-- A text that does not begin with two slashes. -/
theorem readFile_of_not_slashes {cs : List Char}
    (h : ∀ a b rest, cs = a :: b :: rest → (isSlash true a && isSlash true b) = false) :
    readFile cs = .ok (fileHierarchy none (readSegments true (cs.dropWhile (isSlash true)))) := by
  unfold readFile
  split
  · next a b rest =>
    rw [h a b rest rfl]
    rfl
  · rfl

section Hierarchies

variable {scheme cs name : List Char} {hierarchy : Hierarchy} {parts : List (List Char)}
  (hname : ∀ c ∈ name, c.isLower = true)

include hname

theorem isDrive_name : isDrive name = false := by
  refine Bool.eq_false_iff.2 fun hdrive => ?_
  match name with
  | [c, d] =>
    have hd := hname d (List.mem_cons_of_mem c List.mem_cons_self)
    simp only [isDrive, Bool.and_eq_true, Bool.or_eq_true, beq_iff_eq] at hdrive
    rcases hdrive.2 with rfl | rfl
    · exact absurd hd (by decide)
    · exact absurd hd (by decide)

/-- A name for the slash at the end of the segments of a file URL. -/
theorem fileHierarchy_slash (host : Option Host) (parts : List (List Char)) :
    fileHierarchy host (parts ++ [name]) =
      ⟨(fileHierarchy host (parts ++ [[]])).authority, .segments (stem (fileParts (parts ++ [[]])) ++ [name])⟩ := by
  have hname := isDrive_name hname
  have hhead : (parts ++ [name]).head?.any isDrive = (parts ++ [[]]).head?.any isDrive := by
    cases parts with
    | nil => exact hname
    | cons part parts => rfl
  have hparts : fileParts (parts ++ [name]) = stem (fileParts (parts ++ [[]])) ++ [name] := by
    by_cases hempty : parts.dropWhile List.isEmpty = []
    · rw [fileParts_concat hempty hname, fileParts_concat hempty rfl]
      rfl
    · rw [fileParts_append hempty, fileParts_append hempty, stem_slash_eq_iff.2 (fileParts_ne_root hempty)]
  unfold fileHierarchy
  rw [hhead, hparts]

theorem fileHierarchy_append {cs : List Char} (hfull : cs ≠ []) (hcs : Unslashed true cs) (host : Option Host) :
    fileHierarchy host (readSegments true (cs ++ '/' :: name)) =
      ⟨(fileHierarchy host (readSegments true cs)).authority,
        .segments (stem (fileParts (readSegments true cs)) ++ [name])⟩ := by
  rcases cases_readSegments_append hname hfull hcs with ⟨parts, hend, happend⟩ | ⟨above, piece, hpiece, hend, happend⟩
  · rw [hend, happend]
    exact fileHierarchy_slash hname host parts
  · rw [hend, happend]
    exact fileHierarchy_concat host above hpiece name

/-- A name behind two slashes, a host and a path. -/
theorem readFile_append_of_slashes {a b : Char} {rest : List Char} (hab : (isSlash true a && isSlash true b) = true)
    (h : readFile (a :: b :: rest) = .ok hierarchy) (hcs : Unslashed true (a :: b :: rest))
    (hpath : hierarchy.path = .segments parts) :
    readFile (a :: b :: (rest ++ '/' :: name)) =
      .ok ⟨hierarchy.authority, .segments (stem parts ++ [name])⟩ := by
  have hfull : rest ≠ [] := by
    rintro rfl
    have hb := (Bool.and_eq_true_iff.1 hab).2
    exact Bool.false_ne_true ((hcs b rfl).symm.trans hb)
  have hrest : Unslashed true rest := hcs.of_suffix ⟨[a, b], rfl⟩
  have hslash : (!isSlash true '/') = false := rfl
  simp only [readFile, hab, if_true] at h ⊢
  rw [Text.takeWhile_append_cons (p := (!isSlash true ·)) hslash,
    Text.dropWhile_append_cons (p := (!isSlash true ·)) hslash]
  split
  · next hdrive =>
    rw [if_pos hdrive] at h
    cases h
    obtain rfl := UrlPath.segments.inj hpath
    rw [fileHierarchy_append hname hfull hrest]
  · next hdrive =>
    rw [if_neg hdrive] at h
    obtain ⟨host, hhost, h⟩ := Metadata.exists_of_bind_ok h
    cases h
    obtain rfl := UrlPath.segments.inj hpath
    rw [hhost]
    refine congrArg Except.ok ?_
    cases hend : rest.dropWhile (!isSlash true ·) with
    | nil =>
      rw [List.nil_append, List.drop_one, List.tail_cons, readSegments_name hname]
      exact fileHierarchy_slash hname host []
    | cons c path =>
      have hends : Unslashed true (c :: path) := hend ▸ hrest.of_suffix (List.dropWhile_suffix _)
      have hpath : path ≠ [] := by
        rintro rfl
        exact Bool.false_ne_true ((hends c rfl).symm.trans (isSlash_of_dropWhile hend))
      exact fileHierarchy_append hname hpath ((unslashed_append_iff hpath [c]).1 hends) host

/-- A name gives no text two slashes to begin with. -/
theorem not_slashes_append (hcs : Unslashed true cs)
    (h : ∀ a b rest, cs = a :: b :: rest → (isSlash true a && isSlash true b) = false) (a b : Char)
    (rest : List Char) (hstart : cs ++ '/' :: name = a :: b :: rest) : (isSlash true a && isSlash true b) = false := by
  match cs with
  | [] =>
    obtain ⟨-, hrest⟩ := List.cons.inj hstart
    have hb := not_isSlash_of_isLower (hname b (hrest ▸ List.mem_cons_self))
    rw [hb, Bool.and_false]
  | [c] =>
    obtain ⟨rfl, -⟩ := List.cons.inj hstart
    rw [hcs c rfl, Bool.false_and]
  | c :: d :: cs =>
    obtain ⟨rfl, hrest⟩ := List.cons.inj hstart
    obtain ⟨rfl, -⟩ := List.cons.inj hrest
    exact h c d cs rfl

theorem dropWhile_slash_name (hall : ∀ c ∈ cs, isSlash true c = true) :
    (cs ++ '/' :: name).dropWhile (isSlash true) = name := by
  rw [List.dropWhile_append_of_pos hall, List.dropWhile_cons_of_pos rfl]
  refine List.dropWhile_eq_self_iff.2 fun hlength => ?_
  rw [not_isSlash_of_isLower (hname _ (List.getElem_mem hlength))]
  exact Bool.false_ne_true

theorem readFile_append (h : readFile cs = .ok hierarchy) (hcs : Unslashed true cs)
    (hpath : hierarchy.path = .segments parts) :
    readFile (cs ++ '/' :: name) = .ok ⟨hierarchy.authority, .segments (stem parts ++ [name])⟩ := by
  by_cases hslashes : ∃ a b rest, cs = a :: b :: rest ∧ (isSlash true a && isSlash true b) = true
  · obtain ⟨a, b, rest, rfl, hab⟩ := hslashes
    exact readFile_append_of_slashes hname hab h hcs hpath
  · have hsingle : ∀ a b rest, cs = a :: b :: rest → (isSlash true a && isSlash true b) = false := by
      intro a b rest hstart
      exact Bool.eq_false_iff.2 fun hab => hslashes ⟨a, b, rest, hstart, hab⟩
    rw [readFile_of_not_slashes hsingle] at h
    cases h
    obtain rfl := UrlPath.segments.inj hpath
    rw [readFile_of_not_slashes (not_slashes_append hname hcs hsingle)]
    by_cases hempty : cs.dropWhile (isSlash true) = []
    · rw [dropWhile_slash_name hname (List.dropWhile_eq_nil_iff.1 hempty), hempty, readSegments_name hname]
      exact congrArg Except.ok (fileHierarchy_slash hname none [])
    · have hend : Unslashed true (cs.dropWhile (isSlash true)) := hcs.of_suffix (List.dropWhile_suffix _)
      rw [Text.dropWhile_append_of_dropWhile hempty, fileHierarchy_append hname hempty hend]

/-- A name behind a path that follows the scheme at once. -/
theorem readHierarchy_append_of_path {rest : List Char} (hfile : scheme ≠ "file".toList)
    (hspecial : isSpecial scheme = false) (hsingle : ∀ rest', rest ≠ '/' :: rest') (hcs : Unslashed false ('/' :: rest))
    (hroot : readSegments false rest ≠ [[], []]) :
    readHierarchy scheme ('/' :: rest ++ '/' :: name) false =
      .ok ⟨none, .segments (stem (readSegments false rest) ++ [name])⟩ := by
  unfold readHierarchy
  rw [if_neg hfile, if_neg (by simp [hspecial])]
  cases rest with
  | nil => exact absurd (hcs '/' rfl) (by decide)
  | cons c rest =>
    have hlonger := readSegments_append hname (List.cons_ne_nil c rest) (hcs.of_suffix ⟨['/'], rfl⟩) hroot
    rw [List.cons_append] at hlonger
    simp only [List.cons_append]
    split
    · next rest' hslashes =>
      obtain ⟨-, hrest⟩ := List.cons.inj hslashes
      exact absurd (congrArg (· :: rest) (List.cons.inj hrest).1) (hsingle rest)
    · next rest' hrest => rw [← (List.cons.inj hrest).2, hlonger]
    · next hrest => exact absurd rfl (hrest _)

theorem readHierarchy_append (h : readHierarchy scheme cs false = .ok hierarchy)
    (hcs : Unslashed (isSpecial scheme) cs)
    (hhost : isSpecial scheme = true ∨ hierarchy.authority.map (·.host) ≠ some (.domain []))
    (hpath : hierarchy.path = .segments parts) (hroot : parts ≠ [[], []]) :
    readHierarchy scheme (cs ++ '/' :: name) false = .ok ⟨hierarchy.authority, .segments (stem parts ++ [name])⟩ := by
  -- What is written behind an authority is written behind the path after it.
  have hauthority {rest path : List Char} {a : Authority} (hread : readAuthority scheme rest false = .ok (a, path))
      (hrest : Unslashed (isSpecial scheme) rest) (ha : hierarchy.authority = some a)
      (hparts : readPath (isSpecial scheme) path = .segments parts) :
      readAuthority scheme (rest ++ '/' :: name) false = .ok (a, path ++ '/' :: name) ∧
        readPath (isSpecial scheme) (path ++ '/' :: name) = .segments (stem parts ++ [name]) := by
    rw [ha, Option.map_some, Ne, Option.some_inj] at hhost
    have hhas := readAuthority_eq_ok_iff.1 hread
    have hend := hhas.unslashed hrest
    exact ⟨readAuthority_eq_ok_iff.2 (hhas.append hhost name), readPath_append hname hend hparts hroot⟩
  by_cases hfile : scheme = "file".toList
  · unfold readHierarchy at h ⊢
    rw [if_pos hfile] at h ⊢
    rw [hfile] at hcs
    exact readFile_append hname h hcs hpath
  cases hspecial : isSpecial scheme with
  | true =>
    obtain ⟨hne, -⟩ := path_of_readHierarchy hspecial hfile h
    unfold readHierarchy at h ⊢
    rw [if_neg hfile, if_pos hspecial] at h ⊢
    obtain ⟨⟨a, path⟩, hread, h⟩ := Metadata.exists_of_bind_ok h
    cases h
    rw [hspecial] at hauthority hcs
    obtain ⟨hlonger, hparts⟩ := hauthority hread (hcs.of_suffix (List.dropWhile_suffix _)) rfl hpath
    rw [Text.dropWhile_append_of_dropWhile hne, hlonger]
    simp only [bind, Except.bind, hparts]
    rfl
  | false =>
    unfold readHierarchy at h ⊢
    rw [if_neg hfile, if_neg (by simp [hspecial])] at h ⊢
    rw [hspecial] at hauthority hcs
    split at h
    · next rest =>
      obtain ⟨⟨a, path⟩, hread, h⟩ := Metadata.exists_of_bind_ok h
      cases h
      obtain ⟨hlonger, hparts⟩ := hauthority hread (hcs.of_suffix ⟨['/', '/'], rfl⟩) rfl hpath
      show (readAuthority scheme (rest ++ '/' :: name) false >>= _) = _
      rw [hlonger]
      simp only [bind, Except.bind, hparts]
      rfl
    · next rest hsingle =>
      cases h
      obtain rfl := UrlPath.segments.inj hpath
      have hlonger := readHierarchy_append_of_path hname hfile hspecial (fun rest' hrest => hsingle rest' (hrest ▸ rfl))
        hcs hroot
      unfold readHierarchy at hlonger
      rwa [if_neg hfile, if_neg (by simp [hspecial])] at hlonger
    · cases h
      cases hpath

end Hierarchies

end RecordDesk.Web.Url
