import RecordDesk.Proofs.Number.Numerals
import RecordDesk.Proofs.Settings.Checks
import RecordDesk.Proofs.Text.Cutting

/-!
What the time limit of the settings means. A text that denotes a number of units (`Denotes`) is read as just that time
if the seconds that it stands for fit 64 bits, and all other texts are refused (`reads_as_denoted`), but for so many
minutes that their seconds do not fit: those stop the program (`minutes_overflow`).
-/

namespace RecordDesk

/-! ## Numbers of 64 bits -/

theorem addDigit_eq_ok_iff {n m : Nat} {c : Char} :
    NumberFault.addDigit n c = .ok m ↔ c.isDigit = true ∧ 10 * n + Numeral.digitValue c = m ∧ m < 2 ^ 64 := by
  unfold NumberFault.addDigit
  split
  · next hdigit => simp_all
  · next hdigit =>
    split
    · next hlarge =>
      refine iff_of_false nofun fun h => ?_
      omega
    · next hsmall =>
      simp only [Bool.not_eq_true', Bool.not_eq_false] at hdigit
      refine ⟨fun h => ?_, fun h => by rw [h.2.1]⟩
      cases h
      exact ⟨hdigit, rfl, Nat.lt_of_not_le hsmall⟩

theorem le_foldl_value (cs : List Char) (n : Nat) :
    n ≤ cs.foldl (fun v c => 10 * v + Numeral.digitValue c) n := by
  rw [Numeral.foldl_value]
  have hpow := Nat.le_mul_of_pos_right n (Nat.pow_pos (n := cs.length) (show 0 < 10 by decide))
  omega

/-- A number only grows with its digits, so it is too large at one of them exactly when it is too large in the end. -/
theorem foldlM_addDigit_eq_ok_iff {n m : Nat} {cs : List Char} (hn : n < 2 ^ 64) :
    cs.foldlM NumberFault.addDigit n = .ok m ↔
      (∀ c ∈ cs, c.isDigit = true) ∧ cs.foldl (fun v c => 10 * v + Numeral.digitValue c) n = m ∧ m < 2 ^ 64 := by
  induction cs generalizing n with
  | nil =>
    simp only [List.foldlM_nil, List.not_mem_nil, List.foldl_nil, false_implies, implies_true, true_and]
    refine ⟨fun h => ?_, fun h => by rw [h.1]; rfl⟩
    cases h
    exact ⟨rfl, hn⟩
  | cons c cs ih =>
    rw [List.foldlM_cons, List.foldl_cons, List.forall_mem_cons]
    have hgrows := le_foldl_value cs (10 * n + Numeral.digitValue c)
    cases hstep : NumberFault.addDigit n c with
    | error e =>
      refine iff_of_false nofun fun ⟨⟨hc, _⟩, hm, hlt⟩ => ?_
      rw [addDigit_eq_ok_iff.2 ⟨hc, rfl, by omega⟩] at hstep
      cases hstep
    | ok k =>
      obtain ⟨hc, rfl, hk⟩ := addDigit_eq_ok_iff.1 hstep
      simp only [hc, true_and]
      exact ih hk

theorem word64?_eq_ok_iff {cs : List Char} {n : Nat} :
    word64? cs = .ok n ↔ Numeral.unsigned? cs = some n ∧ n < 2 ^ 64 := by
  have hdigits {cs : List Char} (hne : cs ≠ []) :
      cs.foldlM NumberFault.addDigit 0 = .ok n ↔ Numeral.toNat? cs = some n ∧ n < 2 ^ 64 := by
    rw [foldlM_addDigit_eq_ok_iff (by decide)]
    simp [Numeral.toNat?, Numeral.isDigits, Numeral.value, hne, and_assoc]
  unfold word64? Numeral.unsigned?
  split
  · simp [Numeral.toNat?, Numeral.isDigits]
  · exact hdigits (List.cons_ne_nil _ _)
  · next hempty hplus =>
    rw [hdigits hempty]
    split
    · next ds =>
      -- A plus sign alone is no number.
      cases ds with
      | nil => simp [Numeral.toNat?, Numeral.isDigits]
      | cons d ds => exact absurd rfl (hplus d ds)
    · rfl

/-! ## Units -/

/-- The units that times are counted in. -/
inductive TimeUnit where
  | milliseconds
  | seconds
  | minutes
  deriving DecidableEq

namespace TimeUnit

def all : List TimeUnit := [milliseconds, seconds, minutes]

def name : TimeUnit → String
  | milliseconds => "ms"
  | seconds => "s"
  | minutes => "m"

/-- How many milliseconds the unit lasts. -/
def length : TimeUnit → Nat
  | milliseconds => 1
  | seconds => 1000
  | minutes => 60000

/-- So many units, in seconds, fit 64 bits. -/
def Fits (u : TimeUnit) (n : Nat) : Prop := u = minutes → 60 * n < 2 ^ 64

instance (u : TimeUnit) (n : Nat) : Decidable (u.Fits n) := inferInstanceAs (Decidable (u = minutes → 60 * n < 2 ^ 64))

/-- The milliseconds of a number of units. -/
def count? : TimeUnit → Nat → Option Nat
  | milliseconds, n => some n
  | seconds, n => some (1000 * n)
  | minutes, n => (fit64? (60 * n)).map (1000 * ·)

theorem units_eq : Duration.units = all.map fun u => (u.name, u.count?) := rfl

/-- What is counted is the time itself. -/
theorem count?_eq_some_iff {u : TimeUnit} {n t : Nat} : u.count? n = some t ↔ u.Fits n ∧ u.length * n = t := by
  cases u with
  | milliseconds => simp [count?, length, Fits]
  | seconds => simp [count?, length, Fits]
  | minutes =>
    simp only [count?, length, Fits, Option.map_eq_some_iff, fit64?_eq_some_iff, true_implies]
    constructor
    · rintro ⟨_, ⟨rfl, hfit⟩, rfl⟩
      exact ⟨hfit, by omega⟩
    · rintro ⟨hfit, rfl⟩
      exact ⟨60 * n, ⟨rfl, hfit⟩, by omega⟩

theorem count?_eq_none_iff {u : TimeUnit} {n : Nat} : u.count? n = none ↔ ¬ u.Fits n := by
  rw [Option.eq_none_iff_forall_ne_some]
  constructor
  · exact fun h hfit => h _ (count?_eq_some_iff.2 ⟨hfit, rfl⟩)
  · exact fun h t ht => h (count?_eq_some_iff.1 ht).1

end TimeUnit

/-! ## What a text denotes -/

/-- A text denotes a number of units: it has the digits of the number, perhaps after a plus sign, and the name of the
unit behind them. -/
def Denotes (raw : String) (n : Nat) (u : TimeUnit) : Prop :=
  ∃ digits, raw.toList = digits ++ u.name.toList ∧ Numeral.unsigned? digits = some n

theorem chars_of_unsigned? {cs : List Char} {n : Nat} (h : Numeral.unsigned? cs = some n) :
    ∀ c ∈ cs, c.isDigit = true ∨ c = '+' := by
  unfold Numeral.unsigned? at h
  split at h
  · exact List.forall_mem_cons.2 ⟨.inr rfl, fun c hc => .inl (Numeral.isDigit_of_toNat? h c hc)⟩
  · exact fun c hc => .inl (Numeral.isDigit_of_toNat? h c hc)

theorem before?_eq_some_iff {tail cs front : List Char} : Text.before? tail cs = some front ↔ cs = front ++ tail := by
  unfold Text.before?
  rw [Option.map_eq_some_iff]
  constructor
  · rintro ⟨rest, hrest, rfl⟩
    rw [← List.reverse_inj, Text.after?_eq_some_iff.1 hrest]
    simp
  · rintro rfl
    exact ⟨front.reverse, Text.after?_eq_some_iff.2 (by simp), List.reverse_reverse front⟩

namespace Duration

theorem exists_of_splitUnit {cs digits : List Char} {count : Nat → Option Nat}
    (h : splitUnit cs = some (digits, count)) : ∃ u : TimeUnit, cs = digits ++ u.name.toList ∧ count = u.count? := by
  unfold splitUnit at h
  rw [TimeUnit.units_eq] at h
  obtain ⟨unit, hunit, hfound⟩ := List.exists_of_findSome?_eq_some h
  obtain ⟨u, -, rfl⟩ := List.mem_map.1 hunit
  obtain ⟨front, hfront, heq⟩ := Option.map_eq_some_iff.1 hfound
  cases heq
  exact ⟨u, before?_eq_some_iff.1 hfront, rfl⟩

/-- No unit that is looked for earlier ends the text of a number of units. -/
theorem splitUnit_of_denotes {raw : String} {n : Nat} {u : TimeUnit} {digits : List Char}
    (hraw : raw.toList = digits ++ u.name.toList) (hdigits : Numeral.unsigned? digits = some n) :
    splitUnit raw.toList = some (digits, u.count?) := by
  have hfound : Text.before? u.name.toList raw.toList = some digits := before?_eq_some_iff.2 hraw
  have hother {v : TimeUnit} (h : ∀ front, digits ++ u.name.toList ≠ front ++ v.name.toList) :
      Text.before? v.name.toList raw.toList = none :=
    Option.eq_none_iff_forall_ne_some.2 fun front hfront => h front (hraw ▸ before?_eq_some_iff.1 hfront)
  unfold splitUnit
  rw [TimeUnit.units_eq]
  cases u with
  | milliseconds => simp [TimeUnit.all, hfound]
  | seconds =>
    have hms : ∀ front, digits ++ ['s'] ≠ front ++ ['m', 's'] := by
      intro front h
      rw [show front ++ ['m', 's'] = front ++ ['m'] ++ ['s'] by simp, List.append_left_inj] at h
      have hm := chars_of_unsigned? hdigits 'm' (by simp [h])
      exact absurd hm (by decide)
    simp [TimeUnit.all, hother (v := .milliseconds) hms, hfound]
  | minutes =>
    have hlast {v : TimeUnit} (hv : v.name.toList.getLast? = some 's') (front : List Char) :
        digits ++ TimeUnit.minutes.name.toList ≠ front ++ v.name.toList := by
      intro h
      have hm : TimeUnit.minutes.name.toList.getLast? = some 'm' := rfl
      have hsame := congrArg List.getLast? h
      rw [List.getLast?_append, List.getLast?_append, hv, hm] at hsame
      cases hsame
    have hms := hother (hlast (v := .milliseconds) rfl)
    have hs := hother (hlast (v := .seconds) rfl)
    simp [TimeUnit.all, hms, hs, hfound]

/-- What is read of a text that denotes a number of units. -/
theorem read_of_denotes {raw : String} {n : Nat} {u : TimeUnit} (h : Denotes raw n u) (hn : n < 2 ^ 64) :
    read raw = (u.count? n).elim (.error .overflow) .ok := by
  obtain ⟨digits, hraw, hdigits⟩ := h
  unfold read
  rw [splitUnit_of_denotes hraw hdigits]
  dsimp only
  rw [word64?_eq_ok_iff.2 ⟨hdigits, hn⟩]

/-- What does not fail denotes a number of units. -/
theorem exists_denotes_of_read {raw : String} (h : ∀ e, read raw ≠ .error (.failed e)) :
    ∃ n u, Denotes raw n u ∧ n < 2 ^ 64 := by
  unfold read at h
  split at h
  · exact absurd rfl (h _)
  · next digits count hsplit =>
    obtain ⟨u, hraw, rfl⟩ := exists_of_splitUnit hsplit
    cases hword : word64? digits with
    | error e =>
      rw [hword] at h
      exact absurd rfl (h _)
    | ok n =>
      obtain ⟨hdigits, hn⟩ := word64?_eq_ok_iff.1 hword
      exact ⟨n, u, ⟨digits, hraw, hdigits⟩, hn⟩

theorem read_eq_ok_iff {raw : String} {t : Nat} :
    read raw = .ok t ↔ ∃ n u, Denotes raw n u ∧ n < 2 ^ 64 ∧ u.Fits n ∧ u.length * n = t := by
  constructor
  · intro h
    have hread : ∀ e, read raw ≠ .error (.failed e) := by simp [h]
    obtain ⟨n, u, hdenotes, hn⟩ := exists_denotes_of_read hread
    rw [read_of_denotes hdenotes hn] at h
    cases hcount : u.count? n with
    | none => simp [hcount] at h
    | some t' =>
      rw [hcount] at h
      cases h
      exact ⟨n, u, hdenotes, hn, TimeUnit.count?_eq_some_iff.1 hcount⟩
  · rintro ⟨n, u, hdenotes, hn, hcount⟩
    rw [read_of_denotes hdenotes hn, TimeUnit.count?_eq_some_iff.2 hcount]
    rfl

theorem read_eq_overflow_iff {raw : String} :
    read raw = .error .overflow ↔ ∃ n u, Denotes raw n u ∧ n < 2 ^ 64 ∧ ¬ u.Fits n := by
  constructor
  · intro h
    have hread : ∀ e, read raw ≠ .error (.failed e) := by simp [h]
    obtain ⟨n, u, hdenotes, hn⟩ := exists_denotes_of_read hread
    refine ⟨n, u, hdenotes, hn, fun hfit => ?_⟩
    rw [read_eq_ok_iff.2 ⟨n, u, hdenotes, hn, hfit, rfl⟩] at h
    cases h
  · rintro ⟨n, u, hdenotes, hn, hlong⟩
    rw [read_of_denotes hdenotes hn, TimeUnit.count?_eq_none_iff.2 hlong]
    rfl

end Duration

/-- A text denotes at most one time. -/
theorem Denotes.unique {raw : String} {n m : Nat} {u v : TimeUnit} (h : Denotes raw n u) (h' : Denotes raw m v) :
    n = m ∧ u = v := by
  obtain ⟨digits, hraw, hdigits⟩ := h
  obtain ⟨digits', hraw', hdigits'⟩ := h'
  have hsplit := Duration.splitUnit_of_denotes hraw hdigits
  rw [Duration.splitUnit_of_denotes hraw' hdigits', Option.some_inj, Prod.mk.injEq] at hsplit
  obtain ⟨rfl, hcount⟩ := hsplit
  refine ⟨Option.some_inj.1 (hdigits.symm.trans hdigits'), ?_⟩
  have hone := congrFun hcount 1
  revert hone
  cases u <;> cases v <;> decide

/-! ## Time limits of the settings -/

/-- The settings are stopped for their time limit. -/
def Halt.isOfTimeout : Halt SettingsError → Bool
  | .failed (.timeout _) => true
  | .failed (.noTimeout _) => true
  | .failed _ => false
  | .overflow => true

namespace Config

theorem isOfTimeout_of_checkBaseUrl {raw : String} {e : Halt SettingsError} (h : checkBaseUrl raw = .error e) :
    e.isOfTimeout = false := by
  unfold checkBaseUrl at h
  split at h
  · cases h
    rfl
  · split at h <;> cases h
    rfl

theorem eq_of_checkPositive {error : Int64 → SettingsError} {n : Int64} {e : Halt SettingsError}
    (h : checkPositive error n = .error e) : e = .failed (error n) := by
  unfold checkPositive at h
  split at h <;> cases h
  rfl

theorem isOfTimeout_of_checkStartTab {raw : String} {e : Halt SettingsError} (h : checkStartTab raw = .error e) :
    e.isOfTimeout = false := by
  unfold checkStartTab at h
  split at h <;> cases h
  rfl

theorem isOfTimeout_of_checkLogLevel {raw : String} {e : Halt SettingsError} (h : checkLogLevel raw = .error e) :
    e.isOfTimeout = false := by
  unfold checkLogLevel at h
  cases hcheck : LogFilter.check raw with
  | error cause =>
    rw [hcheck] at h
    cases h
    rfl
  | ok u =>
    rw [hcheck] at h
    cases h

/-- Settings that are stopped for their time limit have one, and its own check stops them. -/
theorem exists_timeout_of_isOfTimeout {c : Config} {e : Halt SettingsError} (h : c.validate = .error e)
    (he : e.isOfTimeout = true) : ∃ raw, c.api.timeout = some raw ∧ checkTimeout raw = .error e := by
  rcases cases_of_validate_error h with ⟨_, -, h⟩ | h | ⟨_, -, h⟩ | ⟨_, -, h⟩ | ⟨_, -, h⟩ | ⟨_, -, h⟩
  · rw [isOfTimeout_of_checkBaseUrl h] at he
    cases he
  · exact h
  · rw [eq_of_checkPositive h] at he
    cases he
  · rw [isOfTimeout_of_checkStartTab h] at he
    cases he
  · rw [eq_of_checkPositive h] at he
    cases he
  · rw [isOfTimeout_of_checkLogLevel h] at he
    cases he

end Config

namespace Duration

/-- A text is read as a time exactly when it denotes a number of units that fits 64 bits, and so do its seconds if the
units are minutes; the time is then just what the text denotes. Minutes whose seconds do not fit are all that stops the
program. Settings with a time limit of zero are refused; those with a longer one that fits are not stopped for it. -/
theorem reads_as_denoted (raw : String) :
    (∀ t, read raw = .ok t ↔ ∃ n u, Denotes raw n u ∧ n < 2 ^ 64 ∧ u.Fits n ∧ u.length * n = t) ∧
      (read raw = .error .overflow ↔ ∃ n, Denotes raw n .minutes ∧ n < 2 ^ 64 ∧ 2 ^ 64 ≤ 60 * n) ∧
        ∀ n u, Denotes raw n u → n < 2 ^ 64 → u.Fits n → ∀ c : Config, c.api.timeout = some raw →
          (n = 0 → ∃ e, c.validate = .error e) ∧
            (0 < n → ∀ e, c.validate = .error e → e.isOfTimeout = false) ∧
              (c.validate = .ok () → c.timeout = .ok (u.length * n)) := by
  refine ⟨fun t => read_eq_ok_iff, ?_, fun n u hdenotes hn hfit c hc => ?_⟩
  · rw [read_eq_overflow_iff]
    constructor
    · rintro ⟨n, u, hdenotes, hn, hlong⟩
      obtain ⟨rfl, hlarge⟩ := Classical.not_imp.1 hlong
      exact ⟨n, hdenotes, hn, Nat.le_of_not_lt hlarge⟩
    · rintro ⟨n, hdenotes, hn, hlong⟩
      exact ⟨n, .minutes, hdenotes, hn, fun hfit => Nat.not_lt.2 hlong (hfit rfl)⟩
  have hread : read raw = .ok (u.length * n) := read_eq_ok_iff.2 ⟨n, u, hdenotes, hn, hfit, rfl⟩
  refine ⟨fun hzero => ?_, fun hpos e he => ?_, fun _ => ?_⟩
  · cases hvalidate : c.validate with
    | error e => exact ⟨e, rfl⟩
    | ok x =>
      obtain ⟨t, ht, htpos⟩ := (Config.validate_eq_ok_iff.1 hvalidate).timeout raw hc
      rw [hread, Except.ok.injEq] at ht
      rw [← ht, hzero] at htpos
      exact absurd htpos (by simp)
  · refine Bool.eq_false_iff.2 fun hof => ?_
    obtain ⟨raw', hraw', herror⟩ := Config.exists_timeout_of_isOfTimeout he hof
    cases hc.symm.trans hraw'
    have hlength : 0 < u.length := by cases u <;> decide
    rw [Config.checkTimeout_eq_ok_iff.2 ⟨_, hread, Nat.mul_pos hlength hpos⟩] at herror
    cases herror
  · unfold Config.timeout
    rw [hc]
    exact hread

/-- Settings with nothing but a time limit. -/
def limited (raw : String) : Config := ⟨1, ⟨none, none, some raw, none⟩, ⟨none, none⟩, ⟨none, none⟩⟩

/-- The longest time limit in minutes that fits. -/
theorem reads_as_denoted_longest :
    Denotes "+307445734561825860m" 307445734561825860 .minutes ∧
      read "+307445734561825860m" = .ok (60000 * 307445734561825860) ∧
      ∀ e, (limited "+307445734561825860m").validate = .error e → e.isOfTimeout = false := by
  have hdenotes : Denotes "+307445734561825860m" 307445734561825860 .minutes :=
    ⟨"+307445734561825860".toList, rfl, by decide +kernel⟩
  obtain ⟨hread, -, hsettings⟩ := reads_as_denoted "+307445734561825860m"
  have hfit : TimeUnit.minutes.Fits 307445734561825860 := by decide
  exact ⟨hdenotes, (hread _).2 ⟨_, _, hdenotes, by decide, hfit, rfl⟩,
    (hsettings _ _ hdenotes (by decide) hfit (limited _) rfl).2.1 (by decide)⟩

/-- One more minute is neither read nor refused, and settings that ask for it stop the program. -/
theorem minutes_overflow :
    (¬ ∀ raw, (∃ e, read raw = .error (.failed e)) ∨
        ∃ n u, Denotes raw n u ∧ n < 2 ^ 64 ∧ read raw = .ok (u.length * n)) ∧
      Denotes "307445734561825861m" 307445734561825861 .minutes ∧
      read "307445734561825861m" = .error .overflow ∧
      (limited "307445734561825861m").validate = .error .overflow := by
  have hdenotes : Denotes "307445734561825861m" 307445734561825861 .minutes :=
    ⟨"307445734561825861".toList, rfl, by decide +kernel⟩
  have hread : read "307445734561825861m" = .error .overflow :=
    read_eq_overflow_iff.2 ⟨_, _, hdenotes, by decide, by decide⟩
  refine ⟨fun h => ?_, hdenotes, hread, ?_⟩
  · rcases h "307445734561825861m" with ⟨e, he⟩ | ⟨n, u, -, -, hok⟩
    · rw [hread] at he
      cases he
    · rw [hread] at hok
      cases hok
  · have hcheck : Config.checkTimeout "307445734561825861m" = .error .overflow := by
      unfold Config.checkTimeout
      rw [hread]
      rfl
    unfold Config.validate limited
    simp only [Option.forM, hcheck]
    rfl

end Duration

end RecordDesk
