import RecordDesk.Proofs.Web.Encoding
import RecordDesk.Proofs.Web.Reading
import RecordDesk.Web.Client

/-!
Where the calls about one record go. An id becomes one segment of the path that stands for it exactly when it is
`Whole` (`id_is_one_segment`): one or two dots are passed over, and tabs and line breaks are lost, after which the rest
may be dots in turn. So there are ids with which a call goes to the list of all records instead
(`dot_addresses_list`).
-/

namespace RecordDesk.Web

/-! ## Segments -/

/-- A text that stays what it is as a segment of a path: it is not made of one or two dots, and has no tab and no line
break. -/
structure Whole (s : String) : Prop where
  notDot : s ≠ "."
  notDots : s ≠ ".."
  unbroken : ∀ c ∈ s.toList, c ≠ '\t' ∧ c ≠ '\n' ∧ c ≠ '\r'

theorem whole_iff {s : String} :
    Whole s ↔ (s ≠ "." ∧ s ≠ "..") ∧ s.toList.filter (fun c => c != '\t' && c != '\n' && c != '\r') = s.toList := by
  refine ⟨fun h => ⟨⟨h.notDot, h.notDots⟩, ?_⟩, fun h => ⟨h.1.1, h.1.2, ?_⟩⟩
  · rw [List.filter_eq_self]
    intro c hc
    obtain ⟨htab, hfeed, hreturn⟩ := h.unbroken c hc
    simp [htab, hfeed, hreturn]
  · have hkept := List.filter_eq_self.1 h.2
    simpa [and_assoc] using hkept

instance (s : String) : Decidable (Whole s) := decidable_of_iff' _ whole_iff

namespace Url

/-- The URL with another path of segments. -/
def withPath (u : Url) (parts : List (List Char)) : Url := { u with path := .segments parts }

theorem withPath_inj {u : Url} {parts parts' : List (List Char)} :
    u.withPath parts = u.withPath parts' ↔ parts = parts' :=
  ⟨fun h => UrlPath.segments.inj (congrArg Url.path h), congrArg _⟩

/-- A path as segments are put after it: without the empty segment that a slash at its end leaves. -/
def stem (parts : List (List Char)) : List (List Char) :=
  if withoutLastSlash parts = [[]] then [] else withoutLastSlash parts

theorem percentDecoded_segment (special : Bool) (cs : List Char) :
    percentDecoded (percentEncoded (Keep.segment special) cs) = utf8 cs := by
  refine percentDecoded_percentEncoded ?_ cs
  cases special <;> rfl

/-- A whole text becomes one segment. -/
theorem pushSegment_of_whole {s : String} (h : Whole s) (special : Bool) (parts : List (List Char)) :
    pushSegment special parts s.toList =
      (if parts = [[]] then [] else parts) ++ [percentEncoded (Keep.segment special) s.toList] := by
  have hdot : s.toList ≠ ['.'] := fun hs => h.notDot (String.toList_inj.1 hs)
  have hdots : s.toList ≠ ['.', '.'] := fun hs => h.notDots (String.toList_inj.1 hs)
  unfold pushSegment
  rw [if_neg (not_or.2 ⟨hdot, hdots⟩), (whole_iff.1 h).2]
  refine addPiece_of_not_dots (Bool.eq_false_iff.2 fun hsingle => hdot ?_) (Bool.eq_false_iff.2 fun hdouble => hdots ?_)
  · have hbytes := percentDecoded_of_isSingleDot hsingle
    rw [percentDecoded_segment] at hbytes
    exact utf8_injective hbytes
  · have hbytes := percentDecoded_of_isDoubleDot hdouble
    rw [percentDecoded_segment] at hbytes
    exact utf8_injective hbytes

/-- A text that becomes one segment that stands for it is whole. -/
theorem whole_of_pushSegment {s : String} {special : Bool} {parts : List (List Char)}
    (hroot : parts ≠ [[]]) {segment : List Char} (h : pushSegment special parts s.toList = parts ++ [segment])
    (hsegment : percentDecoded segment = utf8 s.toList) : Whole s := by
  unfold pushSegment at h
  rw [if_neg hroot] at h
  split at h
  · exact absurd h.symm (by simp)
  · next hdots =>
    dsimp only at h
    generalize hpiece : (s.toList.filter fun c => c != '\t' && c != '\n' && c != '\r') = piece at h
    have hkept : piece = s.toList := by
      rcases cases_addPiece parts (percentEncoded (Keep.segment special) piece) with ⟨above, -, -, hend, -⟩ | hput
      · rw [hend] at h
        obtain rfl : [] = segment := List.singleton_inj.1 (List.append_inj_right' h rfl)
        have hnil : s.toList = [] := utf8_injective hsegment.symm
        rw [← hpiece, hnil]
        rfl
      · rw [hput] at h
        obtain rfl := List.singleton_inj.1 (List.append_cancel_left h)
        rw [percentDecoded_segment] at hsegment
        exact utf8_injective hsegment
    have hdot : s ≠ "." := fun hs => hdots (.inl (String.toList_inj.2 hs))
    have hdots : s ≠ ".." := fun hs => hdots (.inr (String.toList_inj.2 hs))
    exact whole_iff.2 ⟨⟨hdot, hdots⟩, hpiece.trans hkept⟩

end Url

theorem whole_of_isLower {s : String} (h : ∀ c ∈ s.toList, c.isLower = true) : Whole s where
  notDot := by
    rintro rfl
    exact absurd (h '.' (List.mem_singleton_self _)) (by decide)
  notDots := by
    rintro rfl
    exact absurd (h '.' List.mem_cons_self) (by decide)
  unbroken c hc := by
    have hplain := of_isLower (p := fun c => c != '\t' && c != '\n' && c != '\r') (by decide) (h c hc)
    simpa [and_assoc] using hplain

/-- A name of small letters is put in as it is. -/
theorem pushSegment_of_isLower {s : String} (h : ∀ c ∈ s.toList, c.isLower = true) (special : Bool)
    (parts : List (List Char)) :
    Url.pushSegment special parts s.toList = (if parts = [[]] then [] else parts) ++ [s.toList] := by
  have hkeep : ∀ n < 26, Keep.segment special (Char.ofNat (97 + n)) = true := by
    cases special <;> decide
  rw [Url.pushSegment_of_whole (whole_of_isLower h), percentEncoded_of_isLower hkeep h]

/-! ## Calls -/

/-- Where a call sends its request, if it sends one. -/
def Exchange.url? {α : Type} : Exchange α → Option Url
  | .send r _ => some r.url
  | .done _ => none

namespace Client

variable {c : Client} {parts : List (List Char)}

/-- The segments of a path under which a record has its id. -/
def folder (parts : List (List Char)) (kind : Kind) : List (List Char) := Url.stem parts ++ [kind.name.toList]

theorem folder_ne_nil (parts : List (List Char)) (kind : Kind) : folder parts kind ≠ [] :=
  List.append_ne_nil_of_right_ne_nil _ (List.cons_ne_nil _ _)

theorem folder_ne_root (parts : List (List Char)) (kind : Kind) : folder parts kind ≠ [[]] := by
  intro h
  have hlast := congrArg List.getLast? h
  rw [folder, List.getLast?_concat, List.getLast?_singleton, Option.some_inj] at hlast
  cases kind <;> exact absurd hlast (by decide)

/-- The path of a record. -/
def recordPath (c : Client) (parts : List (List Char)) (kind : Kind) (id : String) : List (List Char) :=
  Url.pushSegment (Url.isSpecial c.base.scheme) (folder parts kind) id.toList

/-- The path of taking back a change. -/
def revertPath (c : Client) (parts : List (List Char)) (id : String) : List (List Char) :=
  Url.pushSegment (Url.isSpecial c.base.scheme) (c.recordPath parts .history id) "revert".toList

theorem segmentUrl_record (hbase : c.base.path = .segments parts) (kind : Kind) (id : String) :
    c.segmentUrl [kind.name, id] = .ok (c.base.withPath (c.recordPath parts kind id)) := by
  unfold segmentUrl Url.extend?
  rw [hbase]
  simp only [List.map_cons, List.map_nil, List.foldl_cons, List.foldl_nil, pushSegment_of_isLower (isLower_name kind)]
  rfl

theorem segmentUrl_revert (hbase : c.base.path = .segments parts) (id : String) :
    c.segmentUrl ["history", id, "revert"] = .ok (c.base.withPath (c.revertPath parts id)) := by
  have hname : "history" = Kind.history.name := rfl
  unfold segmentUrl Url.extend?
  rw [hbase, hname]
  simp only [List.map_cons, List.map_nil, List.foldl_cons, List.foldl_nil,
    pushSegment_of_isLower (isLower_name .history)]
  rfl

/-! ### Where requests go -/

theorem url?_send {α : Type} {u : Url} (hu : u.isHttp = true) (method : Method) (body : Option Json)
    (read : String → Except ClientError α) : (c.send method (some u) body read).url? = some u := by
  unfold send
  rw [Option.filter_some, if_pos hu]
  rfl

theorem url?_get {kind : Kind} {id : String} {u : Url} (h : c.segmentUrl [kind.name, id] = .ok u)
    (hu : u.isHttp = true) : (c.get kind id).url? = some u := by
  unfold get
  rw [h]
  exact url?_send hu _ _ _

theorem url?_update {kind : Kind} {id : String} {u : Url} (h : c.segmentUrl [kind.name, id] = .ok u)
    (hu : u.isHttp = true) {body : UpdateBody} {json : Json} (hbody : updateBody body = .ok json) :
    (c.update kind id body).url? = some u := by
  unfold update
  rw [hbody, h]
  exact url?_send hu _ _ _

theorem url?_revert {id : String} {u : Url} (h : c.segmentUrl ["history", id, "revert"] = .ok u)
    (hu : u.isHttp = true) : (c.revert id).url? = some u := by
  unfold revert
  rw [h]
  exact url?_send hu _ _ _

/-! ### Lists of records -/

theorem stem_concat_nil (parts : List (List Char)) : Url.stem (parts ++ [[]]) = if parts = [[]] then [] else parts := by
  cases parts with
  | nil => rfl
  | cons part parts =>
    have hwithout : Url.withoutLastSlash (part :: parts ++ [[]]) = part :: parts := by
      unfold Url.withoutLastSlash
      rw [if_pos ⟨by simp, List.getLast?_concat⟩, List.dropLast_concat]
    unfold Url.stem
    rw [hwithout]

theorem stem_concat {piece : List Char} (hpiece : piece ≠ []) (parts : List (List Char)) :
    Url.stem (parts ++ [piece]) = parts ++ [piece] := by
  have hlast {piece' : List Char} (h : (parts ++ [piece]).getLast? = some piece') : piece = piece' := by
    rw [List.getLast?_concat] at h
    exact Option.some.inj h
  have hwithout : Url.withoutLastSlash (parts ++ [piece]) = parts ++ [piece] := by
    unfold Url.withoutLastSlash
    rw [if_neg fun h => hpiece (hlast h.2)]
  unfold Url.stem
  rw [hwithout, if_neg fun h => hpiece (hlast (congrArg List.getLast? h))]

/-- No path is one name longer than what is left of it without a slash at its end. -/
theorem ne_stem_append (above : List (List Char)) {name : List Char} (hname : name ≠ []) :
    above ≠ Url.stem (above ++ [[]]) ++ [name] := by
  rw [stem_concat_nil]
  intro h
  split at h
  · next habove =>
    rw [habove] at h
    exact hname (List.singleton_inj.1 h).symm
  · have hlength := congrArg List.length h
    rw [List.length_append, List.length_singleton] at hlength
    omega

/-- What a piece that more follows leaves of a path is never what it leaves at the end, with a name behind it. -/
theorem addPiece_ne_stem_append (above : List (List Char)) (piece : List Char) {name : List Char} (hname : name ≠ []) :
    Url.addPiece false above piece ≠ Url.stem (Url.addPiece true above piece) ++ [name] := by
  intro h
  unfold Url.addPiece at h
  split at h
  · exact ne_stem_append _ hname ((List.append_nil _).symm.trans h)
  · split at h
    · exact ne_stem_append _ hname ((List.append_nil _).symm.trans h)
    · have hpiece := List.singleton_inj.1 (List.append_inj_right' h rfl)
      rw [hpiece, stem_concat hname] at h
      have hlength := congrArg List.length h
      simp only [List.length_append, List.length_singleton] at hlength
      omega

/-- The path of a list of records ends in the name of the kind, and what stands before it is no folder of records. -/
theorem ne_of_under {name : List Char} {longer : UrlPath} (h : Url.Under name (.segments parts) longer)
    (kind : Kind) (segment : List Char) : longer ≠ .segments (folder parts kind ++ [segment]) := by
  have hname : kind.name.toList ≠ [] := by
    cases kind <;> exact List.cons_ne_nil _ _
  intro hsame
  cases h with
  | root =>
    have hlength := congrArg List.length (UrlPath.segments.inj hsame)
    simp [folder] at hlength
  | @segments above last blanks hblanks =>
    have hfolder := List.append_inj_left' (UrlPath.segments.inj hsame) rfl
    unfold folder at hfolder
    cases blanks with
    | nil =>
      rw [List.append_nil] at hfolder
      exact addPiece_ne_stem_append above _ hname hfolder
    | cons blank blanks =>
      have hmem : blank ∈ last ++ blank :: blanks := List.mem_append_right last List.mem_cons_self
      obtain ⟨d, hd, hdigit⟩ := exists_digit_of_blank hmem (hblanks blank List.mem_cons_self)
      obtain ⟨hsingle, hdouble⟩ := not_dots_of_digit hd hdigit
      rw [Url.addPiece_of_not_dots hsingle hdouble] at hfolder
      rw [List.singleton_inj.1 (List.append_inj_right' hfolder rfl)] at hd
      have hletter := isLower_name kind d hd
      rcases hdigit with rfl | rfl
      · exact absurd hletter (by decide)
      · exact absurd hletter (by decide)

theorem urlText_name (c : Client) (kind : Kind) : c.urlText kind.name = c.baseUrl ++ "/" ++ kind.name := by
  cases kind <;> rfl

/-! ### The address of a record -/

theorem name_injective {j k : Kind} (h : j.name = k.name) : j = k := by
  cases j <;> cases k <;> first | rfl | exact absurd h (by decide)

theorem recordPath_of_whole {id : String} (h : Whole id) (c : Client) (parts : List (List Char)) (kind : Kind) :
    c.recordPath parts kind id =
      folder parts kind ++ [percentEncoded (Keep.segment (Url.isSpecial c.base.scheme)) id.toList] := by
  unfold recordPath
  rw [Url.pushSegment_of_whole h, if_neg (folder_ne_root parts kind)]

/-- The name behind the segment of a change leaves the segment as it is. -/
theorem revertPath_eq_iff {id : String} {segment : List Char} :
    c.revertPath parts id = folder parts .history ++ [segment, "revert".toList] ↔
      c.recordPath parts .history id = folder parts .history ++ [segment] := by
  have hsplit : folder parts .history ++ [segment, "revert".toList] =
      folder parts .history ++ [segment] ++ ["revert".toList] := by
    rw [List.append_assoc]
    rfl
  have hlonger : 2 ≤ (folder parts .history ++ [segment]).length := by
    have hpositive := List.length_pos_iff.2 (folder_ne_nil parts .history)
    rw [List.length_append, List.length_singleton]
    omega
  unfold revertPath
  rw [pushSegment_of_isLower (List.all_eq_true.1 (by decide)), hsplit, List.append_left_inj]
  split
  · next hroot =>
    refine iff_of_false (fun h => ?_) fun h => ?_
    · rw [← h] at hlonger
      exact absurd hlonger (by decide)
    · rw [← h, hroot] at hlonger
      exact absurd hlonger (by decide)
  · rfl

end Client

/-- A path has, behind some segments and in front of others, one segment that stands for a text. -/
def Holds (path before : List (List Char)) (s : String) (after : List (List Char)) : Prop :=
  ∃ segment, path = before ++ segment :: after ∧ percentDecoded segment = utf8 s.toList

namespace Client

variable {c : Client} {parts : List (List Char)}

theorem recordPath_holds_iff {kind : Kind} {id : String} :
    Holds (c.recordPath parts kind id) (folder parts kind) id [] ↔ Whole id := by
  refine ⟨fun ⟨segment, hpath, hsegment⟩ => ?_, fun h => ⟨_, recordPath_of_whole h c parts kind, ?_⟩⟩
  · exact Url.whole_of_pushSegment (folder_ne_root parts kind) hpath hsegment
  · exact Url.percentDecoded_segment _ _

theorem revertPath_holds_iff {id : String} :
    Holds (c.revertPath parts id) (folder parts .history) id ["revert".toList] ↔ Whole id := by
  rw [← @recordPath_holds_iff c parts .history]
  exact exists_congr fun segment => and_congr_left' revertPath_eq_iff

/-- Different records have different paths. -/
theorem eq_of_recordPath {kind kind' : Kind} {id id' : String} (h : Whole id) (h' : Whole id')
    (hsame : c.recordPath parts kind' id' = c.recordPath parts kind id) : kind' = kind ∧ id' = id := by
  rw [recordPath_of_whole h, recordPath_of_whole h'] at hsame
  have hfolder := List.append_inj_left' hsame rfl
  have hsegment := List.singleton_inj.1 (List.append_inj_right' hsame rfl)
  have hname := List.singleton_inj.1 (List.append_cancel_left hfolder)
  have hbytes := congrArg percentDecoded hsegment
  rw [Url.percentDecoded_segment, Url.percentDecoded_segment] at hbytes
  exact ⟨name_injective (String.toList_inj.1 hname), String.toList_inj.1 (utf8_injective hbytes)⟩

theorem eq_of_revertPath {id id' : String} (h : Whole id) (h' : Whole id')
    (hsame : c.revertPath parts id' = c.revertPath parts id) : id' = id := by
  rw [revertPath_eq_iff.2 (recordPath_of_whole h c parts .history), revertPath_eq_iff] at hsame
  rw [← recordPath_of_whole h] at hsame
  exact (eq_of_recordPath h h' hsame).2

/-- What is under the text of the base is no record. -/
theorem ne_recordPath {kind kind' : Kind} {id : String} {list : Url} (hbase : c.base.path = .segments parts)
    (hhttp : c.base.isHttp = true) (hquery : c.base.query = none) (hfragment : c.base.fragment = none)
    (h : Whole id) (hlist : Url.read (c.urlText kind'.name) = .ok list) :
    list.path ≠ .segments (c.recordPath parts kind id) := by
  rw [urlText_name] at hlist
  have hunder := Url.under_of_read c.read_baseUrl hhttp hquery hfragment (isLower_name kind') hlist
  rw [hbase] at hunder
  rw [recordPath_of_whole h]
  exact ne_of_under hunder kind _

/-- The calls about a record go to one segment under the name of its kind that stands for the id, and a change is taken
back at a name under its segment, exactly when the id is whole. Such ids then never share an address, and none of them
has the address of a list of records. A base that takes no segments sends no request at all. -/
theorem id_is_one_segment (c : Client) (kind : Kind) (id : String) :
    (c.base.isHttp = false ∧ ∀ segments, c.segmentUrl segments = .error (.noPath c.baseUrl)) ∨
    ∃ parts path back : List (List Char), c.base.path = .segments parts ∧
      c.segmentUrl [kind.name, id] = .ok (c.base.withPath path) ∧
      c.segmentUrl ["history", id, "revert"] = .ok (c.base.withPath back) ∧
      (c.base.isHttp = true →
        (c.get kind id).url? = some (c.base.withPath path) ∧ (c.revert id).url? = some (c.base.withPath back) ∧
          ∀ body json, updateBody body = .ok json → (c.update kind id body).url? = some (c.base.withPath path)) ∧
      (Holds path (folder parts kind) id [] ↔ Whole id) ∧
      (Holds back (folder parts .history) id ["revert".toList] ↔ Whole id) ∧
      (Whole id →
        (∃ segment, path = folder parts kind ++ [segment] ∧
          back = folder parts .history ++ [segment, "revert".toList]) ∧
        (∀ (kind' : Kind) (id' : String), Whole id' → c.segmentUrl [kind'.name, id'] = .ok (c.base.withPath path) →
          kind' = kind ∧ id' = id) ∧
        (∀ id' : String, Whole id' → c.segmentUrl ["history", id', "revert"] = .ok (c.base.withPath back) → id' = id) ∧
        (c.base.isHttp = true → c.base.query = none → c.base.fragment = none →
          ∀ (kind' : Kind) (list : Url), Url.read (c.urlText kind'.name) = .ok list → list.path ≠ .segments path)) := by
  cases hbase : c.base.path with
  | text cs =>
    refine .inl ⟨Bool.eq_false_iff.2 fun hhttp => ?_, fun segments => ?_⟩
    · obtain ⟨parts, hparts⟩ := Url.exists_segments_of_isHttp c.read_baseUrl hhttp
      cases hbase.symm.trans hparts
    · unfold segmentUrl Url.extend?
      rw [hbase]
  | segments parts =>
    have hrecord := segmentUrl_record hbase kind id
    have hrevert := segmentUrl_revert hbase id
    refine .inr ⟨parts, _, _, rfl, hrecord, hrevert, fun hhttp => ⟨url?_get hrecord hhttp, url?_revert hrevert hhttp,
      fun body json hbody => url?_update hrecord hhttp hbody⟩, recordPath_holds_iff, revertPath_holds_iff,
      fun hwhole => ⟨⟨_, recordPath_of_whole hwhole c parts kind,
        revertPath_eq_iff.2 (recordPath_of_whole hwhole c parts .history)⟩, fun kind' id' hwhole' hsame => ?_,
        fun id' hwhole' hsame => ?_, fun hhttp hquery hfragment kind' list hlist =>
        ne_recordPath hbase hhttp hquery hfragment hwhole hlist⟩⟩
    · rw [segmentUrl_record hbase] at hsame
      exact eq_of_recordPath hwhole hwhole' (Url.withPath_inj.1 (Except.ok.inj hsame))
    · rw [segmentUrl_revert hbase] at hsame
      exact eq_of_revertPath hwhole hwhole' (Url.withPath_inj.1 (Except.ok.inj hsame))

/-- A client of a server of its own machine. -/
def loopback : Client where
  baseUrl := "http://127.0.0.1/api"
  base := ⟨"http".toList, [], some (.ipv4 0x7f000001), none, .segments ["api".toList], none, none⟩
  apiKey := none
  timeoutMs := 5000
  pageSize := 10
  read_baseUrl := by decide +kernel
  pageSize_pos := by decide

theorem id_is_one_segment_slash :
    Whole "a/b?c#d" ∧ loopback.base.isHttp = true ∧
      ∃ path, (loopback.get .entities "a/b?c#d").url? = some (loopback.base.withPath path) ∧
        (loopback.update .entities "a/b?c#d" (.status .archived)).url? = some (loopback.base.withPath path) ∧
        (loopback.base.withPath path).target = "/api/entities/a%2Fb%3Fc%23d" ∧
        Holds path (folder ["api".toList] .entities) "a/b?c#d" [] ∧
        loopback.segmentUrl ["entities", "a"] ≠ .ok (loopback.base.withPath path) ∧
        loopback.segmentUrl ["history", "a", "revert"] ≠ loopback.segmentUrl ["history", "a/b?c#d", "revert"] ∧
        ∃ list, Url.read (loopback.urlText "entities") = .ok list ∧ list.path ≠ .segments path := by
  have hwhole : Whole "a/b?c#d" := by decide
  have hwhole' : Whole "a" := by decide
  obtain ⟨hfalse, -⟩ | ⟨parts, path, back, hbase, hpath, hback, hsends, hholds, -, hone⟩ :=
    id_is_one_segment loopback .entities "a/b?c#d"
  · cases hfalse
  · obtain ⟨hget, -, hupdate⟩ := hsends rfl
    obtain ⟨-, hrecords, hchanges, hlists⟩ := hone hwhole
    obtain rfl : ["api".toList] = parts := UrlPath.segments.inj hbase
    obtain rfl := Url.withPath_inj.1 (Except.ok.inj ((segmentUrl_record rfl .entities "a/b?c#d").symm.trans hpath))
    refine ⟨hwhole, rfl, _, hget, hupdate _ _ rfl, by decide +kernel, hholds.2 hwhole, fun hsame => ?_, fun hsame => ?_,
      loopback.base.withPath ["api".toList, "entities".toList], by decide +kernel, ?_⟩
    · exact absurd (hrecords .entities "a" hwhole' hsame).2 (by decide)
    · exact absurd (hchanges "a" hwhole' (hsame.trans hback)) (by decide)
    · exact hlists rfl rfl rfl .entities _ (by decide +kernel)

/-- A dot for an id gives the address of the list, two dots take back no change at all, and a tab makes no
difference. -/
theorem dot_addresses_list :
    (¬ ∀ (c : Client) (kind : Kind) (id : String) (parts path : List (List Char)), id ≠ "" → c.base.isHttp = true →
        c.base.query = none → c.base.fragment = none → c.base.path = .segments parts →
        c.segmentUrl [kind.name, id] = .ok (c.base.withPath path) → Holds path (folder parts kind) id []) ∧
      (loopback.get .jobs ".").url?.map Url.target = some "/api/jobs" ∧
      (loopback.url? "jobs").map Url.target = some "/api/jobs" ∧
      (loopback.revert "..").url?.map Url.target = some "/api/history/revert" ∧
      (loopback.get .jobs "a\tb").url? = (loopback.get .jobs "ab").url? := by
  refine ⟨fun h => ?_, by decide +kernel, by decide +kernel, by decide +kernel, by decide +kernel⟩
  have hholds := h loopback .jobs "." ["api".toList] _ (by decide) rfl rfl rfl rfl (segmentUrl_record rfl .jobs ".")
  exact (recordPath_holds_iff.1 hholds).notDot rfl

end Client

end RecordDesk.Web
