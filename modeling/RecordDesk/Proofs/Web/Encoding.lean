import Mathlib.Tactic.IntervalCases
import RecordDesk.Record.Kind
import RecordDesk.Web.Url

/-!
Texts in percent-encoding. What an encoded text stands for are its own bytes, if percent signs are encoded, too
(`percentDecoded_percentEncoded`), so different texts stay different; and what counts as dots in a path stands for dots
(`percentDecoded_of_isSingleDot`, `percentDecoded_of_isDoubleDot`), so nothing else becomes dots by being encoded.
Names made of small letters are left alone by all of this.
-/

namespace RecordDesk.Web

/-! ## Bytes -/

/-- The bytes of a text. -/
def utf8 (cs : List Char) : List UInt8 := cs.flatMap String.utf8EncodeChar

theorem utf8_injective : Function.Injective utf8 := by
  intro a b h
  have hbytes : a.utf8Encode = b.utf8Encode := congrArg List.toByteArray h
  rw [← String.toByteArray_ofList, ← String.toByteArray_ofList, String.toByteArray_inj] at hbytes
  exact String.ofList_injective hbytes

theorem hexValue?_hexDigit {n : Nat} (h : n < 16) : Json.hexValue? (hexDigit n) = some n := by
  have hall : ∀ n < 16, Json.hexValue? (hexDigit n) = some n := by decide
  exact hall n h

theorem percentDecoded_encodeByte (b : UInt8) (cs : List Char) :
    percentDecoded (encodeByte b ++ cs) = b :: percentDecoded cs := by
  have hb : b.toNat < 256 := b.toNat_lt
  have hhigh := hexValue?_hexDigit (n := b.toNat / 16) (by omega)
  have hlow := hexValue?_hexDigit (n := b.toNat % 16) (by omega)
  show percentDecoded ('%' :: hexDigit (b.toNat / 16) :: hexDigit (b.toNat % 16) :: cs) = _
  rw [percentDecoded]
  simp only [hhigh, hlow, Nat.div_add_mod, UInt8.ofNat_toNat]

theorem percentDecoded_cons {c : Char} (h : c ≠ '%') (cs : List Char) :
    percentDecoded (c :: cs) = String.utf8EncodeChar c ++ percentDecoded cs := by
  rw [percentDecoded]
  rintro - - - rfl
  exact absurd rfl h

theorem percentDecoded_encodeBytes (bs : List UInt8) (cs : List Char) :
    percentDecoded (bs.flatMap encodeByte ++ cs) = bs ++ percentDecoded cs := by
  induction bs with
  | nil => rfl
  | cons b bs ih => rw [List.flatMap_cons, List.append_assoc, percentDecoded_encodeByte, ih, List.cons_append]

/-- An encoded text stands for its bytes, if percent signs are encoded, too. -/
theorem percentDecoded_percentEncoded {keep : Char → Bool} (hkeep : keep '%' = false) (cs : List Char) :
    percentDecoded (percentEncoded keep cs) = utf8 cs := by
  induction cs with
  | nil => rfl
  | cons c cs ih =>
    have htail : percentDecoded (encodeChar keep c ++ percentEncoded keep cs) = String.utf8EncodeChar c ++ utf8 cs := by
      unfold encodeChar
      split
      · next hc =>
        have hne : c ≠ '%' := by
          rintro rfl
          exact absurd (hkeep.symm.trans hc) Bool.false_ne_true
        rw [List.singleton_append, percentDecoded_cons hne, ih]
      · rw [percentDecoded_encodeBytes, ih]
    exact htail

theorem percentEncoded_append (keep : Char → Bool) (cs ds : List Char) :
    percentEncoded keep (cs ++ ds) = percentEncoded keep cs ++ percentEncoded keep ds := List.flatMap_append

theorem encodeChar_ne_nil (keep : Char → Bool) (c : Char) : encodeChar keep c ≠ [] := by
  unfold encodeChar
  split
  · exact List.cons_ne_nil c []
  · intro h
    have hbyte : String.utf8EncodeChar c ≠ [] := by
      rw [← List.length_pos_iff, String.length_utf8EncodeChar]
      exact c.utf8Size_pos
    obtain ⟨b, bs, hbs⟩ := List.exists_cons_of_ne_nil hbyte
    rw [hbs] at h
    cases h

theorem percentEncoded_ne_nil {keep : Char → Bool} {cs : List Char} (h : cs ≠ []) : percentEncoded keep cs ≠ [] := by
  obtain ⟨c, cs, rfl⟩ := List.exists_cons_of_ne_nil h
  exact List.append_ne_nil_of_left_ne_nil (encodeChar_ne_nil keep c) _

/-! ## Dots -/

theorem eq_or_of_toLower {c d : Char} (h : c.toLower = d) : c = d ∨ (65 ≤ c.toNat ∧ c.toNat + 32 = d.toNat) := by
  subst h
  unfold Char.toLower
  split
  · next hupper =>
    have hlow : 65 ≤ c.val.toNat := UInt32.le_iff_toNat_le.1 hupper.1
    have hhigh : c.val.toNat ≤ 90 := UInt32.le_iff_toNat_le.1 hupper.2
    refine .inr ⟨hlow, ?_⟩
    show c.val.toNat + 32 = (c.val + ('a'.val - 'A'.val)).toNat
    have hshift : ('a'.val - 'A'.val).toNat = 32 := rfl
    rw [UInt32.toNat_add, hshift]
    omega
  · exact .inl rfl

/-- A character that is no letter is the lower case of no other one. -/
theorem eq_of_toLower {c d : Char} (h : c.toLower = d) (hd : d.toNat < 97) : c = d := by
  rcases eq_or_of_toLower h with rfl | ⟨hc, hcd⟩
  · rfl
  · omega

/-- A text that starts with a dot, plain or encoded, stands for a dot and what the rest stands for. -/
theorem percentDecoded_of_dot {piece dot rest : List Char} (hdot : dot = ['.'] ∨ dot = ['%', '2', 'e'])
    (h : piece.map Char.toLower = dot ++ rest) :
    ∃ tail, tail.map Char.toLower = rest ∧ percentDecoded piece = 46 :: percentDecoded tail := by
  rcases hdot with rfl | rfl
  · obtain ⟨c, tail, rfl, hc, hrest⟩ := List.map_eq_cons_iff.1 h
    obtain rfl := eq_of_toLower hc (by decide)
    exact ⟨tail, hrest, percentDecoded_cons (by decide) tail⟩
  · obtain ⟨c, tail, rfl, hc, h⟩ := List.map_eq_cons_iff.1 h
    obtain ⟨d, tail, rfl, hd, h⟩ := List.map_eq_cons_iff.1 h
    obtain ⟨e, tail, rfl, he, hrest⟩ := List.map_eq_cons_iff.1 h
    obtain rfl := eq_of_toLower hc (by decide)
    obtain rfl := eq_of_toLower hd (by decide)
    have htwo : Json.hexValue? '2' = some 2 := rfl
    have hvalue : Json.hexValue? e = some 14 := by
      rcases eq_or_of_toLower he with rfl | ⟨-, hnat⟩
      · rfl
      · obtain rfl : e = 'E' := Char.toNat_inj.1 (Nat.add_right_cancel hnat)
        rfl
    refine ⟨tail, hrest, ?_⟩
    rw [percentDecoded]
    simp only [htwo, hvalue]
    rfl

theorem percentDecoded_of_isSingleDot {piece : List Char} (h : Url.isSingleDot piece = true) :
    percentDecoded piece = utf8 ['.'] := by
  have hdot : ∃ dot, (dot = ['.'] ∨ dot = ['%', '2', 'e']) ∧ piece.map Char.toLower = dot ++ [] := by
    unfold Url.isSingleDot at h
    simp only [Bool.or_eq_true, beq_iff_eq] at h
    rcases h with rfl | h
    · exact ⟨_, .inl rfl, rfl⟩
    · exact ⟨_, .inr rfl, h⟩
  obtain ⟨dot, hdot, h⟩ := hdot
  obtain ⟨tail, htail, hpiece⟩ := percentDecoded_of_dot hdot h
  obtain rfl := List.map_eq_nil_iff.1 htail
  rw [hpiece]
  rfl

theorem percentDecoded_of_isDoubleDot {piece : List Char} (h : Url.isDoubleDot piece = true) :
    percentDecoded piece = utf8 ['.', '.'] := by
  have hdots : ∃ dot dot', (dot = ['.'] ∨ dot = ['%', '2', 'e']) ∧ (dot' = ['.'] ∨ dot' = ['%', '2', 'e']) ∧
      piece.map Char.toLower = dot ++ (dot' ++ []) := by
    unfold Url.isDoubleDot at h
    simp only [Bool.or_eq_true, beq_iff_eq, or_assoc] at h
    rcases h with h | h | h | h
    · exact ⟨_, _, .inl rfl, .inl rfl, h⟩
    · exact ⟨_, _, .inl rfl, .inr rfl, h⟩
    · exact ⟨_, _, .inr rfl, .inl rfl, h⟩
    · exact ⟨_, _, .inr rfl, .inr rfl, h⟩
  obtain ⟨dot, dot', hdot, hdot', h⟩ := hdots
  obtain ⟨rest, hrest, hpiece⟩ := percentDecoded_of_dot hdot h
  obtain ⟨tail, htail, hrest⟩ := percentDecoded_of_dot hdot' hrest
  obtain rfl := List.map_eq_nil_iff.1 htail
  rw [hpiece, hrest]
  rfl

/-- What counts as dots is made of dots, plain or encoded. -/
theorem mem_of_dots {piece : List Char} (h : Url.isSingleDot piece = true ∨ Url.isDoubleDot piece = true) {c : Char}
    (hc : c ∈ piece) : c.toLower ∈ ['.', '%', '2', 'e'] := by
  have hlower : c.toLower ∈ piece.map Char.toLower := List.mem_map_of_mem hc
  unfold Url.isSingleDot Url.isDoubleDot at h
  simp only [Bool.or_eq_true, beq_iff_eq, or_assoc] at h
  rcases h with rfl | h | h | h | h | h
  · rw [List.mem_singleton.1 hc]
    exact List.mem_cons_self
  all_goals
    rw [h] at hlower
    simp only [List.mem_cons, List.not_mem_nil, or_false] at hlower ⊢
    tauto

theorem not_dots_of_digit {piece : List Char} {d : Char} (hd : d ∈ piece) (hdigit : d = '0' ∨ d = '1') :
    Url.isSingleDot piece = false ∧ Url.isDoubleDot piece = false := by
  have hnone (h : Url.isSingleDot piece = true ∨ Url.isDoubleDot piece = true) : False := by
    have hlower := mem_of_dots h hd
    rcases hdigit with rfl | rfl
    · exact absurd hlower (by decide)
    · exact absurd hlower (by decide)
  exact ⟨Bool.eq_false_iff.2 fun h => hnone (.inl h), Bool.eq_false_iff.2 fun h => hnone (.inr h)⟩

/-- The encoding of a blank or a control has a digit that is no letter and in no dots. -/
theorem exists_digit_of_blank {cs : List Char} {c : Char} (hmem : c ∈ cs) (hc : c.toNat ≤ 0x20) :
    ∃ d ∈ percentEncoded Keep.path cs, d = '0' ∨ d = '1' := by
  have hall : ∀ n < 33, (encodeChar Keep.path (Char.ofNat n)).any (fun d => d = '0' ∨ d = '1') = true := by decide
  have hcode := hall c.toNat (by omega)
  rw [Char.ofNat_toNat, List.any_eq_true] at hcode
  obtain ⟨d, hd, hdigit⟩ := hcode
  exact ⟨d, List.mem_flatMap.2 ⟨c, hmem, hd⟩, of_decide_eq_true hdigit⟩

/-! ## Small letters -/

/-- What holds of each small letter holds of all. -/
theorem of_isLower {p : Char → Bool} (h : ∀ n < 26, p (Char.ofNat (97 + n)) = true) {c : Char}
    (hc : c.isLower = true) : p c = true := by
  have hbounds := Bool.and_eq_true_iff.1 hc
  have hlow : 97 ≤ c.toNat := UInt32.le_iff_toNat_le.1 (of_decide_eq_true hbounds.1)
  have hhigh : c.toNat ≤ 122 := UInt32.le_iff_toNat_le.1 (of_decide_eq_true hbounds.2)
  have hletter := h (c.toNat - 97) (by omega)
  rwa [Nat.add_sub_cancel' hlow, Char.ofNat_toNat] at hletter

theorem isLower_name (k : Kind) : ∀ c ∈ k.name.toList, c.isLower = true := by
  refine List.all_eq_true.1 ?_
  cases k <;> decide

theorem percentEncoded_of_isLower {keep : Char → Bool} (hkeep : ∀ n < 26, keep (Char.ofNat (97 + n)) = true)
    {cs : List Char} (h : ∀ c ∈ cs, c.isLower = true) : percentEncoded keep cs = cs := by
  induction cs with
  | nil => rfl
  | cons c cs ih =>
    have hc := of_isLower hkeep (h c List.mem_cons_self)
    have htail := ih fun d hd => h d (List.mem_cons_of_mem c hd)
    unfold percentEncoded at htail ⊢
    rw [List.flatMap_cons, htail, encodeChar, if_pos hc, List.singleton_append]

theorem not_dots_of_isLower {cs : List Char} (h : ∀ c ∈ cs, c.isLower = true) :
    Url.isSingleDot cs = false ∧ Url.isDoubleDot cs = false := by
  have hbytes : percentDecoded cs = utf8 cs := by
    have hencoded := percentDecoded_percentEncoded (show Keep.segment true '%' = false from rfl) cs
    rwa [percentEncoded_of_isLower (by decide) h] at hencoded
  have hdot : '.' ∉ cs := fun hmem => absurd (h '.' hmem) (by decide)
  refine ⟨Bool.eq_false_iff.2 fun hsingle => hdot ?_, Bool.eq_false_iff.2 fun hdouble => hdot ?_⟩
  · rw [utf8_injective (hbytes.symm.trans (percentDecoded_of_isSingleDot hsingle))]
    exact List.mem_cons_self
  · rw [utf8_injective (hbytes.symm.trans (percentDecoded_of_isDoubleDot hdouble))]
    exact List.mem_cons_self

end RecordDesk.Web
