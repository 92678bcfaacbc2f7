import RecordDesk.Proofs.Web.Encoding

/-!
Blanks and controls are no part of the host of a web URL. They stay what they are when the name of a host is decoded and
brought into the form that names have, and so they are found there and refused (`readSpecial_of_blank`).
-/

namespace RecordDesk

/-! ## Blanks in composed texts -/

namespace Text

theorem mem_placed {x c : Char} {cs : List Char} : x ∈ placed c cs ↔ x = c ∨ x ∈ cs := by
  induction cs with
  | nil => simp [placed]
  | cons d cs ih =>
    rw [placed]
    split
    · simp only [List.mem_cons, ih]
      tauto
    · simp

theorem mem_ordered {x : Char} {cs : List Char} : x ∈ ordered cs ↔ x ∈ cs := by
  induction cs with
  | nil => rfl
  | cons c cs ih =>
    have hstep : ordered (c :: cs) = placed c (ordered cs) := rfl
    rw [hstep, mem_placed, ih, List.mem_cons]

/-- No blank and no control is a part of another character. -/
theorem visible_of_composition : ∀ k ∈ compositions, 0x20 < k.base ∧ 0x20 < k.mark := by
  have hall : (compositions.all fun k => decide (0x20 < k.base) && decide (0x20 < k.mark)) = true := by decide +kernel
  intro k hk
  simpa using List.all_eq_true.1 hall k hk

theorem visible_of_together {a b whole : Char} (h : together? a b = some whole) : 0x20 < a.toNat ∧ 0x20 < b.toNat := by
  unfold together? at h
  cases hsyllable : syllable? a.toNat b.toNat with
  | some n =>
    unfold syllable? at hsyllable
    split at hsyllable
    · omega
    · split at hsyllable
      · omega
      · cases hsyllable
  | none =>
    rw [hsyllable] at h
    obtain ⟨k, hfind, -⟩ := Option.map_eq_some_iff.1 h
    have hk := visible_of_composition k (List.mem_of_find?_eq_some hfind)
    have hparts := List.find?_some hfind
    simp only [Bool.and_eq_true, beq_iff_eq] at hparts
    omega

theorem mem_puttingTogether {x base : Char} {marks cs : List Char} (hx : x.toNat ≤ 0x20)
    (h : x ∈ base :: marks ++ cs) : x ∈ puttingTogether base marks cs := by
  induction cs generalizing base marks with
  | nil => simpa [puttingTogether] using h
  | cons c cs ih =>
    unfold puttingTogether
    dsimp only
    split
    · next whole htogether =>
      -- Neither of the two that become one character is the blank.
      have hvisible : 0x20 < base.toNat ∧ 0x20 < c.toNat := by
        rw [ite_eq_iff] at htogether
        rcases htogether with ⟨-, hsome⟩ | ⟨-, hnone⟩
        · exact visible_of_together hsome
        · cases hnone
      have hbase : x ≠ base := by
        rintro rfl
        omega
      have hmark : x ≠ c := by
        rintro rfl
        omega
      refine ih ?_
      simp only [List.cons_append, List.mem_cons, List.mem_append, hbase, hmark, false_or] at h ⊢
      exact .inr h
    · split
      · simp only [List.cons_append, List.mem_cons, List.mem_append, List.mem_reverse] at h ⊢
        rcases h with rfl | hmem | hmem | hmem
        · exact .inl rfl
        · exact .inr (.inl hmem)
        · exact .inr (.inr (ih (by simp [hmem])))
        · exact .inr (.inr (ih (by simp [hmem])))
      · refine ih ?_
        simp only [List.cons_append, List.mem_cons, List.mem_append] at h ⊢
        tauto

theorem mem_recomposed {x : Char} {cs : List Char} (hx : x.toNat ≤ 0x20) (h : x ∈ cs) : x ∈ recomposed cs := by
  induction cs with
  | nil => exact h
  | cons c cs ih =>
    rw [recomposed]
    split
    · exact mem_puttingTogether hx (by simpa using h)
    · rcases List.mem_cons.1 h with rfl | hmem
      · exact List.mem_cons_self
      · exact List.mem_cons_of_mem c (ih hmem)

/-- Composing a text leaves its blanks and controls. -/
theorem mem_composed {x : Char} {cs : List Char} (hx : x.toNat ≤ 0x20) (h : x ∈ cs) : x ∈ composed cs := by
  refine mem_recomposed hx (mem_ordered.2 (List.mem_flatMap.2 ⟨x, h, ?_⟩))
  have hlow : x.toNat < 0xC0 := by omega
  unfold decomposition
  rw [if_pos hlow]
  exact List.mem_singleton_self x

end Text

namespace Web

/-! ## Blanks in bytes -/

/-- Only an ASCII character has an ASCII byte. -/
theorem toNat_of_mem_utf8EncodeChar {c : Char} {b : UInt8} (h : b ∈ String.utf8EncodeChar c) (hb : b.toNat < 128) :
    c.toNat = b.toNat := by
  have hval : c.val.toNat = c.toNat := rfl
  unfold String.utf8EncodeChar at h
  dsimp only at h
  split at h
  · rw [List.mem_singleton.1 h, UInt8.toNat_ofNat']
    omega
  · exfalso
    split at h
    · simp only [List.mem_cons, List.not_mem_nil, or_false] at h
      rcases h with rfl | rfl <;> rw [UInt8.toNat_ofNat'] at hb <;> omega
    · split at h
      · simp only [List.mem_cons, List.not_mem_nil, or_false] at h
        rcases h with rfl | rfl | rfl <;> rw [UInt8.toNat_ofNat'] at hb <;> omega
      · simp only [List.mem_cons, List.not_mem_nil, or_false] at h
        rcases h with rfl | rfl | rfl | rfl <;> rw [UInt8.toNat_ofNat'] at hb <;> omega

theorem mem_of_mem_utf8 {c : Char} (hc : c.toNat < 128) {cs : List Char} (h : UInt8.ofNat c.toNat ∈ utf8 cs) :
    c ∈ cs := by
  obtain ⟨d, hd, hbyte⟩ := List.mem_flatMap.1 h
  have hnat : (UInt8.ofNat c.toNat).toNat = c.toNat := by
    rw [UInt8.toNat_ofNat']
    omega
  have hsame := toNat_of_mem_utf8EncodeChar hbyte (by omega)
  rwa [← Char.toNat_inj.1 (hsame.trans hnat)]

theorem utf8EncodeChar_of_lt {c : Char} (hc : c.toNat < 128) : String.utf8EncodeChar c = [UInt8.ofNat c.toNat] := by
  have hval : c.val.toNat = c.toNat := rfl
  unfold String.utf8EncodeChar
  dsimp only
  rw [if_pos (by omega), hval]

theorem hexValue?_of_blank {c : Char} (hc : c.toNat ≤ 0x20) : Json.hexValue? c = none := by
  have hall : ∀ n < 33, Json.hexValue? (Char.ofNat n) = none := by decide
  have hcode := hall c.toNat (by omega)
  rwa [Char.ofNat_toNat] at hcode

theorem ne_of_hexValue? {c d : Char} (hc : c.toNat ≤ 0x20) {n : Nat} (hd : Json.hexValue? d = some n) : c ≠ d := by
  rintro rfl
  rw [hexValue?_of_blank hc] at hd
  cases hd

/-- Decoding leaves blanks and controls. -/
theorem mem_percentDecoded {c : Char} (hc : c.toNat ≤ 0x20) {cs : List Char} (h : c ∈ cs) :
    UInt8.ofNat c.toNat ∈ percentDecoded cs := by
  have hpercent : c ≠ '%' := by
    rintro rfl
    exact absurd hc (by decide)
  induction cs using percentDecoded.induct with
  | case1 => cases h
  | case2 a b cs y x hb ha ih =>
    rw [percentDecoded, ha, hb]
    simp only [List.mem_cons, hpercent, ne_of_hexValue? hc ha, ne_of_hexValue? hc hb, false_or] at h
    exact List.mem_cons_of_mem _ (ih h)
  | case3 a b cs hnone ih =>
    have hstep : percentDecoded ('%' :: a :: b :: cs) = String.utf8EncodeChar '%' ++ percentDecoded (a :: b :: cs) := by
      rw [percentDecoded]
      split
      · next x y hx hy => exact absurd hy (hnone x y hx)
      · rfl
    rw [hstep]
    exact List.mem_append_right _ (ih ((List.mem_cons.1 h).resolve_left hpercent))
  | case4 d cs hd ih =>
    rw [percentDecoded]
    · rcases List.mem_cons.1 h with rfl | hmem
      · rw [utf8EncodeChar_of_lt (by omega)]
        exact List.mem_append_left _ (List.mem_singleton_self _)
      · exact List.mem_append_right _ (ih hmem)
    · exact hd

theorem utf8_of_fromUTF8? {bs : List UInt8} {s : String} (h : String.fromUTF8? ⟨bs.toArray⟩ = some s) :
    utf8 s.toList = bs := by
  unfold String.fromUTF8? at h
  split at h
  · next hvalid =>
    cases h
    have hbytes : (utf8 (String.fromUTF8 ⟨bs.toArray⟩ hvalid).toList).toByteArray = ⟨bs.toArray⟩ := by
      have hencode := @String.toByteArray_ofList (String.fromUTF8 ⟨bs.toArray⟩ hvalid).toList
      rw [String.ofList_toList] at hencode
      exact hencode.symm
    simpa using congrArg (fun bytes => bytes.data.toList) hbytes
  · cases h

/-! ## Hosts -/

theorem mem_normalized {c : Char} (hc : c.toNat ≤ 0x20) {cs : List Char} (h : c ∈ cs) : c ∈ Domain.normalized cs := by
  refine Text.mem_composed hc (List.mem_flatMap.2 ⟨c, h, ?_⟩)
  have hlower : c.toLower = c := by
    rcases eq_or_of_toLower (c := c) rfl with hsame | ⟨hlow, -⟩
    · exact hsame.symm
    · omega
  have hascii : c.toNat < 0x80 := by omega
  unfold Domain.form
  rw [if_pos hascii, hlower]
  exact List.mem_singleton_self c

theorem forbiddenInDomain_of_blank {c : Char} (hc : c.toNat ≤ 0x20) : Host.forbiddenInDomain c = true := by
  have hall : ∀ n < 33, Host.forbiddenInDomain (Char.ofNat n) = true := by decide
  have hcode := hall c.toNat (by omega)
  rwa [Char.ofNat_toNat] at hcode

namespace Host

theorem domain?_of_blank {c : Char} (hc : c.toNat ≤ 0x20) {cs : List Char} (h : c ∈ cs) :
    domain? cs = .error .internationalName := by
  unfold domain?
  split
  · rfl
  · next s hs =>
    have hbyte := mem_percentDecoded hc h
    rw [← utf8_of_fromUTF8? hs] at hbyte
    have hname := mem_normalized hc (mem_of_mem_utf8 (by omega) hbyte)
    have hany := List.any_eq_true.2 ⟨c, hname, forbiddenInDomain_of_blank hc⟩
    dsimp only
    rw [hany, Bool.true_or, if_pos rfl]

/-- A web host with a blank or a control at its end is refused. -/
theorem readSpecial_of_blank (cs : List Char) {c : Char} (hc : c.toNat ≤ 0x20) :
    ∃ e, readSpecial (cs ++ [c]) = .error e := by
  unfold readSpecial
  split
  · next cs' hcs =>
    have hlast : cs'.getLast? ≠ some ']' := by
      intro hbracket
      have hend := congrArg List.getLast? hcs
      rw [List.getLast?_concat, List.getLast?_cons, hbracket] at hend
      cases hend
      exact absurd hc (by decide)
    unfold bracketed?
    rw [if_neg hlast]
    exact ⟨_, rfl⟩
  · rw [domain?_of_blank hc (List.mem_append_right cs (List.mem_singleton_self c))]
    exact ⟨_, rfl⟩

end Host

end Web

end RecordDesk
