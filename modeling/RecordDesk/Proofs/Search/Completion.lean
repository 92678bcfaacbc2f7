import Mathlib.Data.List.Infix
import RecordDesk.Proofs.Text.Cutting
import RecordDesk.Proofs.Text.Lowering
import RecordDesk.Search

/-!
The completion of a search text. The candidates that continue the text are folded into one, two at a time, and what
two texts share is their longest common start without regard to case (`prefix_sharedStart_iff`). So a text is a start
of the outcome of the fold if and only if it is one of every candidate (`prefix_foldl_sharedStart_iff`), whatever their
number and their order. The spelling is that of the first candidate.
-/

namespace RecordDesk.Text

/-- All characters are ASCII ones. -/
def IsAscii (cs : List Char) : Prop := ∀ c ∈ cs, c.toNat < 128

instance (cs : List Char) : Decidable (IsAscii cs) := List.decidableBAll (fun c : Char => c.toNat < 128) cs

variable {cs ds needle : List Char}

theorem IsAscii.of_subset (h : IsAscii cs) (hsub : ds ⊆ cs) : IsAscii ds := fun c hc => h c (hsub hc)

theorem lowerAt_of_ascii {c : Char} (h : c.toNat < 128) (before after : List Char) :
    lowerAt before c after = [c.toLower] := by
  unfold lowerAt lowerChar
  rw [if_neg, if_pos h]
  rintro rfl
  exact absurd h (by decide)

/-- ASCII letters are lower-cased one by one. -/
theorem lowered_of_isAscii (h : IsAscii cs) : lowered cs = cs.map Char.toLower := by
  unfold lowered
  generalize ([] : List Char) = before
  induction cs generalizing before with
  | nil => rfl
  | cons c cs ih =>
    obtain ⟨hc, hcs⟩ := List.forall_mem_cons.1 h
    rw [lowerFrom_cons, lowerAt_of_ascii hc, ih hcs]
    rfl

theorem length_lowered_of_isAscii (h : IsAscii cs) : (lowered cs).length = cs.length := by
  rw [lowered_of_isAscii h, List.length_map]

/-- A start of a text in lower case, character by character. -/
theorem prefix_lowered_iff {p : List Char} (h : IsAscii cs) :
    p <+: lowered cs ↔ (p.map fun c => [c]) <+: cs.map lowerChar := by
  have hforms : cs.map lowerChar = (cs.map Char.toLower).map fun c => [c] := by
    rw [List.map_map]
    refine List.map_congr_left fun c hc => ?_
    unfold lowerChar
    rw [if_pos (h c hc)]
    rfl
  rw [hforms, lowered_of_isAscii h]
  exact (List.prefix_map_iff_of_injective List.singleton_injective).symm

/-- No text gets shorter in lower case. -/
theorem length_le_length_lowered (cs : List Char) : cs.length ≤ (lowered cs).length := by
  unfold lowered
  generalize ([] : List Char) = before
  induction cs generalizing before with
  | nil => exact Nat.zero_le _
  | cons c cs ih =>
    have hform := List.length_pos_iff.2 (lowerAt_ne_nil before c cs)
    have hrest := ih (c :: before)
    rw [lowerFrom_cons, List.length_append, List.length_cons]
    omega

theorem occursIn_iff : occursIn needle cs = true ↔ needle <:+: cs := by
  induction cs with
  | nil => rw [occursIn, List.isEmpty_iff, List.infix_nil]
  | cons c cs ih => rw [occursIn, Bool.or_eq_true, ih, List.isPrefixOf_iff_prefix, List.infix_cons_iff]

theorem trimmed_infix (cs : List Char) : trimmed cs <:+: cs :=
  List.infix_iff_prefix_suffix.2 ⟨_, prefix_trimmedEnd _, List.dropWhile_suffix _⟩

end RecordDesk.Text

namespace RecordDesk.Search

open Text (IsAscii lowered lowerChar)

/-- The second text starts with the first one, without regard to case. -/
def Leads (s t : String) : Prop := lowered s.toList <+: lowered t.toList

instance (s t : String) : Decidable (Leads s t) :=
  inferInstanceAs (Decidable (lowered s.toList <+: lowered t.toList))

/-- The longest text that all texts of a list start with, without regard to case. It is in lower case. -/
structure LongestShared (ms : List String) (p : List Char) : Prop where
  shared : ∀ m ∈ ms, p <+: lowered m.toList
  longest : ∀ q, (∀ m ∈ ms, q <+: lowered m.toList) → q.length ≤ p.length

variable {c : List Char} {cs : List (List Char)}

/-! ## Common starts -/

theorem isPrefix_sharedStart (as bs : List Char) : sharedStart as bs <+: as := by
  fun_induction sharedStart as bs with
  | case1 a as b bs _ ih => exact List.cons_prefix_cons.2 ⟨rfl, ih⟩
  | case2 => exact List.nil_prefix
  | case3 => exact List.nil_prefix

/-- What two texts both start with, their common start starts with. -/
theorem prefix_sharedStart_iff {p : List (List Char)} {as bs : List Char} :
    p <+: (sharedStart as bs).map lowerChar ↔ p <+: as.map lowerChar ∧ p <+: bs.map lowerChar := by
  fun_induction sharedStart as bs generalizing p with
  | case1 a as b bs h ih =>
    cases p with
    | nil => simp only [List.nil_prefix, and_self]
    | cons x p =>
      simp only [List.map_cons, List.cons_prefix_cons, ih, h]
      tauto
  | case2 a as b bs h =>
    cases p with
    | nil => simp only [List.nil_prefix, and_self]
    | cons x p =>
      simp only [List.map_cons, List.map_nil, List.cons_prefix_cons, List.prefix_nil, reduceCtorEq, false_iff]
      rintro ⟨⟨hxa, -⟩, hxb, -⟩
      exact h (hxa.symm.trans hxb)
  | case3 as bs h =>
    rw [List.map_nil, List.prefix_nil]
    refine ⟨?_, fun ⟨has, hbs⟩ => ?_⟩
    · rintro rfl
      exact ⟨List.nil_prefix, List.nil_prefix⟩
    · -- One of the two texts is empty.
      cases as with
      | nil => exact List.prefix_nil.1 has
      | cons a as =>
        cases bs with
        | nil => exact List.prefix_nil.1 hbs
        | cons b bs => exact (h a as b bs rfl rfl).elim

theorem isPrefix_foldl_sharedStart (c : List Char) (cs : List (List Char)) : cs.foldl sharedStart c <+: c := by
  induction cs generalizing c with
  | nil => exact List.prefix_refl c
  | cons d cs ih => exact (ih _).trans (isPrefix_sharedStart c d)

/-- What all texts start with, the outcome of the fold starts with. -/
theorem prefix_foldl_sharedStart_iff {p : List (List Char)} :
    p <+: (cs.foldl sharedStart c).map lowerChar ↔ ∀ m ∈ c :: cs, p <+: m.map lowerChar := by
  induction cs generalizing c with
  | nil => rw [List.foldl_nil, List.forall_mem_singleton]
  | cons d cs ih =>
    rw [List.foldl_cons, ih, List.forall_mem_cons, prefix_sharedStart_iff, List.forall_mem_cons, List.forall_mem_cons,
      and_assoc]

/-! ## The longest one -/

theorem LongestShared.unique {ms : List String} {p q : List Char} (hp : LongestShared ms p) (hq : LongestShared ms q)
    (hne : ms ≠ []) : p = q := by
  obtain ⟨m, hm⟩ := List.exists_mem_of_ne_nil ms hne
  have hlength := Nat.le_antisymm (hq.longest p hp.shared) (hp.longest q hq.shared)
  exact (List.prefix_of_prefix_length_le (hp.shared m hm) (hq.shared m hm) hlength.le).eq_of_length hlength

theorem LongestShared.perm {ms ns : List String} {p : List Char} (h : LongestShared ms p) (hperm : ms.Perm ns) :
    LongestShared ns p where
  shared m hm := h.shared m (hperm.mem_iff.2 hm)
  longest q hq := h.longest q fun m hm => hq m (hperm.mem_iff.1 hm)

/-- The fold comes to the longest common start, in the letters of the first text. -/
theorem longestShared_foldl {m : String} {ms : List String} (h : ∀ n ∈ m :: ms, IsAscii n.toList) :
    LongestShared (m :: ms) (lowered ((ms.map String.toList).foldl sharedStart m.toList)) := by
  have hpre := isPrefix_foldl_sharedStart m.toList (ms.map String.toList)
  have hstart : IsAscii ((ms.map String.toList).foldl sharedStart m.toList) :=
    (h m List.mem_cons_self).of_subset hpre.subset
  have hiff (p : List Char) : p <+: lowered ((ms.map String.toList).foldl sharedStart m.toList) ↔
      ∀ n ∈ m :: ms, p <+: lowered n.toList := by
    rw [Text.prefix_lowered_iff hstart, prefix_foldl_sharedStart_iff, ← List.map_cons, List.forall_mem_map]
    exact forall₂_congr fun n hn => (Text.prefix_lowered_iff (h n hn)).symm
  exact ⟨(hiff _).1 (List.prefix_refl _), fun q hq => ((hiff q).2 hq).length_le⟩

/-! ## Completions -/

/-- The candidates that continue a text. -/
def continuations (buffer : String) (candidates : List String) : List String :=
  candidates.filter fun c => Leads buffer c

theorem continuing_eq (buffer : String) (candidates : List String) :
    continuing buffer candidates = (continuations buffer candidates).map String.toList := by
  unfold continuing continuations
  rw [List.filter_map]
  refine congrArg (List.map String.toList) (List.filter_congr fun c _ => ?_)
  rw [Function.comp_apply, Bool.eq_iff_iff, List.isPrefixOf_iff_prefix, decide_eq_true_iff]
  rfl

theorem suggest_of_nil {buffer : String} {candidates : List String}
    (h : buffer = "" ∨ continuations buffer candidates = []) : suggest buffer candidates = none := by
  unfold suggest
  rcases h with rfl | h
  · exact if_pos rfl
  · rw [continuing_eq, h]
    exact ite_self none

/-- What is suggested is a start of the first continuation, as long as the longest one that they all share. -/
theorem suggest_of_cons {buffer m : String} {candidates ms : List String} (hne : buffer ≠ "")
    (h : continuations buffer candidates = m :: ms) (hascii : ∀ n ∈ m :: ms, IsAscii n.toList) :
    ∃ p, LongestShared (m :: ms) p ∧ lowered (m.toList.take p.length) = p ∧
      suggest buffer candidates =
        if p.length ≤ buffer.length then none else some (.ofList (m.toList.take p.length)) := by
  have hlongest := longestShared_foldl hascii
  have hpre := isPrefix_foldl_sharedStart m.toList (ms.map String.toList)
  have hlength := Text.length_lowered_of_isAscii ((hascii m List.mem_cons_self).of_subset hpre.subset)
  have htake := List.prefix_iff_eq_take.1 hpre
  refine ⟨_, hlongest, ?_, ?_⟩
  · rw [hlength, ← htake]
  · unfold suggest
    rw [if_neg (mt String.isEmpty_iff.1 hne), continuing_eq, h, List.map_cons, hlength, ← htake, String.length_toList]
    dsimp only
    split
    · next hlt => rw [if_neg (Nat.not_le.2 hlt)]
    · next hlt => rw [if_pos (Nat.not_lt.1 hlt)]

/-- What is suggested is, in lower case, the longest start that the continuations share, and there are some. -/
theorem longestShared_of_suggest {buffer s : String} {candidates : List String}
    (hascii : ∀ n ∈ candidates, IsAscii n.toList) (h : suggest buffer candidates = some s) :
    continuations buffer candidates ≠ [] ∧ LongestShared (continuations buffer candidates) (lowered s.toList) ∧
      IsAscii s.toList ∧ buffer.length < s.length := by
  have hsome : ¬(buffer = "" ∨ continuations buffer candidates = []) := fun hnone => by
    rw [suggest_of_nil hnone] at h
    cases h
  obtain ⟨hbuffer, hne⟩ := not_or.1 hsome
  obtain ⟨m, ms, hms⟩ := List.exists_cons_of_ne_nil hne
  have hsub : ∀ n ∈ m :: ms, IsAscii n.toList := fun n hn => hascii n (List.mem_of_mem_filter (hms ▸ hn))
  obtain ⟨p, hp, hlower, hsuggest⟩ := suggest_of_cons hbuffer hms hsub
  rw [hsuggest] at h
  split at h
  · cases h
  · next hlt =>
    obtain rfl := Option.some.inj h
    have htake : IsAscii (m.toList.take p.length) :=
      (hsub m List.mem_cons_self).of_subset (List.take_prefix _ _).subset
    have hlength := Text.length_lowered_of_isAscii htake
    rw [hlower] at hlength
    rw [String.toList_ofList, hlower, hms]
    refine ⟨List.cons_ne_nil m ms, hp, htake, ?_⟩
    rw [String.length_ofList, ← hlength]
    exact Nat.not_le.1 hlt

/-- In another order the candidates lead to the same suggestion, but for the case of its letters. -/
theorem suggest_perm {buffer : String} {candidates others : List String}
    (hascii : ∀ n ∈ candidates, IsAscii n.toList) (hperm : candidates.Perm others) :
    (suggest buffer others).map Text.lower = (suggest buffer candidates).map Text.lower := by
  have hms : (continuations buffer candidates).Perm (continuations buffer others) := hperm.filter _
  have hlower {cs : List String} {p : List Char} {m : String} {ms : List String} (hne : buffer ≠ "")
      (hcs : continuations buffer cs = m :: ms) (hsub : ∀ n ∈ m :: ms, IsAscii n.toList)
      (hp : LongestShared (m :: ms) p) :
      (suggest buffer cs).map Text.lower = if p.length ≤ buffer.length then none else some (.ofList p) := by
    obtain ⟨q, hq, hlower, hsuggest⟩ := suggest_of_cons hne hcs hsub
    obtain rfl := hp.unique hq (List.cons_ne_nil m ms)
    rw [hsuggest]
    split
    · rfl
    · rw [Option.map_some, Text.lower, String.toList_ofList, hlower]
  by_cases hbuffer : buffer = ""
  · rw [suggest_of_nil (.inl hbuffer), suggest_of_nil (.inl hbuffer)]
  · cases hcs : continuations buffer candidates with
    | nil =>
      rw [hcs] at hms
      rw [suggest_of_nil (.inr hcs), suggest_of_nil (.inr hms.nil_eq.symm)]
    | cons m ms =>
      rw [hcs] at hms
      have hsub : ∀ n ∈ m :: ms, IsAscii n.toList := fun n hn => hascii n (List.mem_of_mem_filter (hcs ▸ hn))
      obtain ⟨p, hp, -, -⟩ := suggest_of_cons hbuffer hcs hsub
      cases hns : continuations buffer others with
      | nil =>
        rw [hns] at hms
        cases hms.eq_nil
      | cons n ns =>
        rw [hns] at hms
        rw [hlower hbuffer hcs hsub hp, hlower hbuffer hns (fun n hn => hsub n (hms.mem_iff.2 hn)) (hp.perm hms)]

/-- What stands in front of a text is found in it. -/
theorem hit_of_leads {s m : String} (hs : IsAscii s.toList) (h : Leads s m) :
    hit s m = true := by
  have htrimmed := Text.trimmed_infix s.toList
  have hfound : lowered (Text.trimmed s.toList) <:+: lowered m.toList := by
    unfold Leads at h
    rw [Text.lowered_of_isAscii hs] at h
    rw [Text.lowered_of_isAscii (hs.of_subset htrimmed.subset)]
    exact (htrimmed.map Char.toLower).trans h.isInfix
  unfold hit
  rw [Bool.or_eq_true]
  exact .inr (Text.occursIn_iff.2 hfound)

/-- Let `ms` be the candidates that continue a text. There is no suggestion when the text is empty, when `ms` is, or
when what all of `ms` start with is no longer than the text; otherwise the suggestion is as much of the first one of
`ms`. So it is longer than the text and continues it; no longer text is one that all of `ms` start with; all of `ms`
are hits for it; and the candidates in another order change nothing but the case of its letters. -/
theorem suggest_longest (buffer : String) {candidates : List String}
    (hcandidates : ∀ c ∈ candidates, IsAscii c.toList) :
    let ms := continuations buffer candidates
    (buffer = "" ∨ ms = [] → suggest buffer candidates = none) ∧
    (∀ first rest, buffer ≠ "" → ms = first :: rest → ∃ p, LongestShared ms p ∧
      suggest buffer candidates =
        if p.length ≤ buffer.length then none else some (.ofList (first.toList.take p.length))) ∧
    (∀ s, suggest buffer candidates = some s →
      Leads buffer s ∧ buffer.length < s.length ∧ (∀ t : String, s.length < t.length → ¬∀ m ∈ ms, Leads t m) ∧
        ∀ m ∈ ms, Leads s m ∧ hit s m = true) ∧
    ∀ others, candidates.Perm others →
      (suggest buffer others).map Text.lower = (suggest buffer candidates).map Text.lower := by
  intro ms
  refine ⟨suggest_of_nil, fun first rest hne hcons => ?_, fun s hs => ?_, fun others hperm =>
    suggest_perm hcandidates hperm⟩
  · have hsub : ∀ n ∈ first :: rest, IsAscii n.toList :=
      fun n hn => hcandidates n (List.mem_of_mem_filter (hcons ▸ hn))
    obtain ⟨p, hp, -, hsuggest⟩ := suggest_of_cons hne hcons hsub
    exact ⟨p, hcons ▸ hp, hsuggest⟩
  · obtain ⟨hne, hlongest, hascii, hlt⟩ := longestShared_of_suggest hcandidates hs
    obtain ⟨m₀, hm₀⟩ := List.exists_mem_of_ne_nil _ hne
    have hbuffer : ∀ m ∈ ms, Leads buffer m := fun _ hm => of_decide_eq_true (List.mem_filter.1 hm).2
    refine ⟨?_, hlt, fun t ht hall => ?_, fun m hm => ⟨hlongest.shared m hm, ?_⟩⟩
    · exact List.prefix_of_prefix_length_le (hbuffer m₀ hm₀) (hlongest.shared m₀ hm₀) (hlongest.longest _ hbuffer)
    · have hle := (Text.length_le_length_lowered t.toList).trans (hlongest.longest _ hall)
      rw [Text.length_lowered_of_isAscii hascii, String.length_toList, String.length_toList] at hle
      omega
    · exact hit_of_leads hascii (hlongest.shared m hm)

/-- Three names, two of which go on alike; the one that comes first gives the letters. -/
theorem suggest_longest_alpine :
    let names := ["Beta", "Alpine Club", "ALPINE climb"]
    let ms := ["Alpine Club", "ALPINE climb"]
    (∀ c ∈ names, IsAscii c.toList) ∧ continuations "aL" names = ms ∧
      suggest "aL" names = some "Alpine Cl" ∧ suggest "aL" names.reverse = some "ALPINE cl" ∧
      (∃ p, LongestShared ms p ∧ some "Alpine Cl" =
        if p.length ≤ "aL".length then none else some (.ofList ("Alpine Club".toList.take p.length))) ∧
      (¬∀ m ∈ ms, Leads "ALPINE CLU" m) ∧ hit "Alpine Cl" "ALPINE climb" = true ∧
      (suggest "aL" names.reverse).map Text.lower = (suggest "aL" names).map Text.lower := by
  intro names ms
  have hascii : ∀ c ∈ names, IsAscii c.toList := by decide +kernel
  have hms : continuations "aL" names = ms := by decide +kernel
  have hsuggest : suggest "aL" names = some "Alpine Cl" := by decide +kernel
  obtain ⟨-, hcons, hsome, hperm⟩ := suggest_longest "aL" hascii
  obtain ⟨-, -, hlonger, hall⟩ := hsome _ hsuggest
  refine ⟨hascii, hms, hsuggest, by decide +kernel, ?_, ?_, ?_, hperm _ (List.reverse_perm _).symm⟩
  · rw [← hsuggest, ← hms]
    exact hcons _ _ (by decide) hms
  · exact hms ▸ hlonger "ALPINE CLU" (by decide)
  · exact (hall "ALPINE climb" (hms ▸ List.mem_cons_of_mem _ List.mem_cons_self)).2

end RecordDesk.Search
