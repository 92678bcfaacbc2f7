import Mathlib.Control.Monad.Basic
import RecordDesk.Proofs.Metadata.Lists
import RecordDesk.Settings.Basic

/-!
What the checks of settings let through (`validate_eq_ok_iff`), and what they stop (`cases_of_validate_error`). Each
value that is there has to be right for itself; what is missing is never wrong, and the defaults are right, too
(`valid_default`).
-/

namespace RecordDesk

theorem Kind.ofName?_eq_some_iff {s : String} {k : Kind} : Kind.ofName? s = some k ↔ k.name = s := by
  constructor
  · intro h
    unfold ofName? at h
    have hname := List.find?_some h
    exact eq_of_beq hname
  · rintro rfl
    cases k <;> rfl

/-! ## Checks of what may be missing -/

section Checks

variable {α ε : Type} {o : Option α} {check : α → Except ε Unit}

theorem forM_eq_ok_iff : o.forM check = .ok () ↔ ∀ a, o = some a → check a = .ok () := by
  cases o with
  | none => exact iff_of_true rfl nofun
  | some a => simp [Option.forM]

theorem forM_eq_error_iff {e : ε} : o.forM check = .error e ↔ ∃ a, o = some a ∧ check a = .error e := by
  cases o with
  | none => exact iff_of_false nofun nofun
  | some a => simp [Option.forM]

theorem bind_unit_eq_ok_iff {x y : Except ε Unit} : (x.bind fun _ => y) = .ok () ↔ x = .ok () ∧ y = .ok () := by
  cases x with
  | error e => exact iff_of_false nofun nofun
  | ok u => exact (and_iff_right rfl).symm

end Checks

namespace Config

variable {c : Config}

/-! ## Single checks -/

theorem checkBaseUrl_eq_ok_iff {raw : String} :
    checkBaseUrl raw = .ok () ↔
      ∃ u, Web.Url.read (Web.trimSlashes raw) = .ok u ∧ (u.scheme = "http".toList ∨ u.scheme = "https".toList) := by
  unfold checkBaseUrl
  cases Web.Url.read (Web.trimSlashes raw) with
  | error e => exact iff_of_false nofun nofun
  | ok u =>
    by_cases hscheme : u.scheme = "http".toList ∨ u.scheme = "https".toList
    · exact iff_of_true (if_pos hscheme) ⟨u, rfl, hscheme⟩
    · refine iff_of_false ?_ ?_
      · dsimp only
        rw [if_neg hscheme]
        nofun
      · rintro ⟨v, hv, hv'⟩
        cases hv
        exact hscheme hv'

theorem checkTimeout_eq_ok_iff {raw : String} :
    checkTimeout raw = .ok () ↔ ∃ t, Duration.read raw = .ok t ∧ 0 < t := by
  unfold checkTimeout
  cases Duration.read raw with
  | error e => exact iff_of_false nofun nofun
  | ok n => by_cases hn : n = 0 <;> simp [hn, Nat.pos_iff_ne_zero]

theorem checkPositive_eq_ok_iff {error : Int64 → SettingsError} {n : Int64} :
    checkPositive error n = .ok () ↔ 0 < n.toInt := by
  unfold checkPositive
  split
  · next h => exact iff_of_false nofun (Int.not_lt.2 h)
  · next h => exact iff_of_true rfl (Int.not_le.1 h)

theorem checkStartTab_eq_ok_iff {raw : String} : checkStartTab raw = .ok () ↔ ∃ k : Kind, k.name = raw := by
  unfold checkStartTab
  simp only [← Kind.ofName?_eq_some_iff]
  cases Kind.ofName? raw <;> simp

theorem checkLogLevel_eq_ok_iff {raw : String} : checkLogLevel raw = .ok () ↔ LogFilter.check raw = .ok () := by
  unfold checkLogLevel
  cases LogFilter.check raw with
  | error e => exact iff_of_false nofun nofun
  | ok u => exact iff_of_true rfl rfl

/-! ## All checks -/

/-- All that the settings say is right. What they do not say does not matter. -/
structure Valid (c : Config) : Prop where
  baseUrl : ∀ raw, c.api.baseUrl = some raw → ∃ u, Web.Url.read (Web.trimSlashes raw) = .ok u ∧
    (u.scheme = "http".toList ∨ u.scheme = "https".toList)
  timeout : ∀ raw, c.api.timeout = some raw → ∃ t, Duration.read raw = .ok t ∧ 0 < t
  pageSize : ∀ n, c.api.pageSize = some n → 0 < n.toInt
  startTab : ∀ raw, c.ui.startTab = some raw → ∃ k : Kind, k.name = raw
  statusClearSecs : ∀ n, c.ui.statusClearSecs = some n → 0 < n.toInt
  logLevel : ∀ raw, c.log.level = some raw → LogFilter.check raw = .ok ()

theorem validate_eq_ok_iff : c.validate = .ok () ↔ c.Valid := by
  unfold validate
  simp only [bind, bind_unit_eq_ok_iff, forM_eq_ok_iff, checkBaseUrl_eq_ok_iff, checkTimeout_eq_ok_iff,
    checkPositive_eq_ok_iff, checkStartTab_eq_ok_iff, checkLogLevel_eq_ok_iff]
  exact ⟨fun ⟨h₁, h₂, h₃, h₄, h₅, h₆⟩ => ⟨h₁, h₂, h₃, h₄, h₅, h₆⟩, fun h => ⟨h.1, h.2, h.3, h.4, h.5, h.6⟩⟩

/-- Some value that is there is wrong. -/
theorem cases_of_validate_error {e : Halt SettingsError} (h : c.validate = .error e) :
    (∃ raw, c.api.baseUrl = some raw ∧ checkBaseUrl raw = .error e) ∨
      (∃ raw, c.api.timeout = some raw ∧ checkTimeout raw = .error e) ∨
      (∃ n, c.api.pageSize = some n ∧ checkPositive .pageSize n = .error e) ∨
      (∃ raw, c.ui.startTab = some raw ∧ checkStartTab raw = .error e) ∨
      (∃ n, c.ui.statusClearSecs = some n ∧ checkPositive .statusClearSecs n = .error e) ∨
      ∃ raw, c.log.level = some raw ∧ checkLogLevel raw = .error e := by
  simp only [← forM_eq_error_iff]
  unfold validate at h
  rcases Metadata.cases_of_bind_error h with h | ⟨_, -, h⟩
  · exact .inl h
  refine .inr ?_
  rcases Metadata.cases_of_bind_error h with h | ⟨_, -, h⟩
  · exact .inl h
  refine .inr ?_
  rcases Metadata.cases_of_bind_error h with h | ⟨_, -, h⟩
  · exact .inl h
  refine .inr ?_
  rcases Metadata.cases_of_bind_error h with h | ⟨_, -, h⟩
  · exact .inl h
  refine .inr ?_
  rcases Metadata.cases_of_bind_error h with h | ⟨_, -, h⟩
  · exact .inl h
  · exact .inr h

/-- Every default passes its own check. -/
theorem valid_default : default.Valid := by
  have hbase : checkBaseUrl defaultBaseUrl = .ok () := by decide +kernel
  have htimeout : checkTimeout defaultTimeout = .ok () := by decide +kernel
  have hlevel : checkLogLevel defaultLogLevel = .ok () := by decide +kernel
  refine ⟨fun raw h => ?_, fun raw h => ?_, fun n h => ?_, fun raw h => ?_, fun n h => ?_, fun raw h => ?_⟩ <;> cases h
  · exact checkBaseUrl_eq_ok_iff.1 hbase
  · exact checkTimeout_eq_ok_iff.1 htimeout
  · decide
  · exact ⟨.entities, rfl⟩
  · decide
  · exact checkLogLevel_eq_ok_iff.1 hlevel

/-! ## Loading -/

/-- Settings that have been loaded have passed the checks, or they are the defaults. -/
theorem default_or_validate_of_load {toml : TomlReader} {file : File} (h : load toml file = .ok c) :
    c = default ∨ c.validate = .ok () := by
  unfold load at h
  split at h
  · cases h
    exact .inl rfl
  · cases h
  · split at h
    · cases h
    · split at h
      · cases h
      · obtain ⟨_, hvalidate, rfl⟩ := Metadata.exists_of_map_ok h
        exact .inr hvalidate

theorem valid_of_load {toml : TomlReader} {file : File} (h : load toml file = .ok c) : c.Valid := by
  rcases default_or_validate_of_load h with rfl | hvalidate
  · exact valid_default
  · exact validate_eq_ok_iff.1 hvalidate

end Config

end RecordDesk
