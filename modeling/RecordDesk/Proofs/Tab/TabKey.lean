import RecordDesk.Proofs.Label.Normal
import RecordDesk.Proofs.Tab.FormTable

/-!
The Tab key in a form, which completes the scope that is being typed or goes on to the next field. Where no known name
completes the scope it goes on, and then round all fields (`Quiet.pressed_tab`), since a field that is left has nothing
staged any more. Where one does, the name is staged; and a name that is staged already is completed to itself, so that
Tab does nothing for good (`Filling.pressed_tab_of_stalls`). With names in normal form that is where every completion
ends (`LabelEntry.completion?_of_completed`).
-/

namespace RecordDesk

namespace LabelEntry

/-- The first name that continues the staged text and is not committed yet. -/
def completion? (e : LabelEntry) (names : List String) : Option String :=
  e.pending?.bind fun s => names.find? fun c => s.toList.isPrefixOf c.toList && !e.committed.contains c

variable {e : LabelEntry} {names : List String}

theorem complete?_eq (e : LabelEntry) (names : List String) :
    e.complete? names = (e.completion? names).map fun c => { e with staging := c } := by
  unfold complete? completion?
  cases e.pending? with
  | none => rfl
  | some s => rfl

theorem completion?_of_no_staging (h : e.staging = "") (names : List String) : e.completion? names = none := by
  have hpending : e.pending? = none := by simp [pending?, h, e.kind.normal_empty]
  unfold completion?
  rw [hpending]
  rfl

/-- A name in normal form is completed to itself: a name before it that it is the beginning of would have been
completed to in its place. -/
theorem completion?_of_completed {c : String} (h : e.completion? names = some c) (hc : e.kind.normal c = c) :
    ({ e with staging := c } : LabelEntry).completion? names = some c := by
  obtain ⟨s, hs, hfind⟩ := Option.bind_eq_some_iff.1 h
  obtain ⟨hfirst, before, after, hnames, hbefore⟩ := List.find?_eq_some_iff_append.1 hfind
  obtain ⟨hbegins, hfresh⟩ := Bool.and_eq_true_iff.1 hfirst
  have hbegins : s.toList <+: c.toList := List.isPrefixOf_iff_prefix.1 hbegins
  have hne : c.isEmpty = false := by
    rw [Bool.eq_false_iff]
    intro hempty
    rw [String.isEmpty_iff.1 hempty] at hbegins
    have hnil : s = "" := String.toList_inj.1 (List.prefix_nil.1 hbegins)
    unfold pending? at hs
    dsimp only at hs
    split at hs
    · cases hs
    · next hs' =>
      rw [Option.some.inj hs, hnil] at hs'
      exact hs' rfl
  have hpending : ({ e with staging := c } : LabelEntry).pending? = some c := by
    simp [pending?, hc, hne]
  unfold completion?
  rw [hpending, Option.bind_some]
  refine List.find?_eq_some_iff_append.2 ⟨?_, before, after, hnames, fun b hb => ?_⟩
  · rw [Bool.and_eq_true_iff]
    exact ⟨List.isPrefixOf_iff_prefix.2 List.prefix_rfl, hfresh⟩
  · have hout := hbefore b hb
    rw [Bool.not_eq_true', Bool.and_eq_false_iff] at hout ⊢
    refine hout.imp (fun hno => ?_) id
    rw [Bool.eq_false_iff, Ne, List.isPrefixOf_iff_prefix] at hno ⊢
    exact fun hlong => hno (hbegins.trans hlong)

end LabelEntry

namespace Form

/-- The scopes in focus, if the field in focus holds scopes. -/
def scopes? (f : Form) : Option LabelEntry :=
  if f.focused?.any fun d => d.spec.kind = .scopes then f.focusedLabels? else none

/-- The text that is staged in the scopes in focus. -/
def staged? (f : Form) : Option String := f.scopes?.map LabelEntry.staging

/-- The name that Tab completes the scopes in focus to. -/
def completion? (f : Form) (names : List String) : Option String := f.scopes?.bind (·.completion? names)

/-- The text that is staged is a name that it is completed to itself. -/
def Stalls (f : Form) (names : List String) : Prop := ∃ s, f.staged? = some s ∧ f.completion? names = some s

/-- The form with another text staged in the labels in focus. -/
def stage (f : Form) (s : String) : Form :=
  match f.focusedLabels? with
  | some e => f.setValue f.focus (.labels { e with staging := s })
  | none => f

variable {f : Form} {e : LabelEntry}

theorem scopes?_eq_some_iff :
    f.scopes? = some e ↔ ∃ spec, f.fields[f.focus]? = some ⟨spec, .labels e⟩ ∧ spec.kind = .scopes := by
  unfold scopes?
  constructor
  · intro h
    split at h
    · next hkind =>
      obtain ⟨spec, hd⟩ := focusedLabels?_eq_some h
      unfold focused? at hkind
      rw [hd] at hkind
      exact ⟨spec, hd, of_decide_eq_true hkind⟩
    · cases h
  · rintro ⟨spec, hd, hkind⟩
    have hfocused : f.focused? = some ⟨spec, .labels e⟩ := hd
    rw [hfocused, Option.any_some, if_pos (decide_eq_true hkind)]
    exact focusedLabels?_of_getElem? hd

theorem focusedLabels?_of_scopes (h : f.scopes? = some e) : f.focusedLabels? = some e := by
  obtain ⟨spec, hd, -⟩ := scopes?_eq_some_iff.1 h
  exact focusedLabels?_of_getElem? hd

theorem focus_stage (f : Form) (s : String) : (f.stage s).focus = f.focus := by
  unfold stage
  split
  · rfl
  · rfl

/-- Staging the text that is staged changes nothing. -/
theorem stage_own (h : f.scopes? = some e) : f.stage e.staging = f := by
  obtain ⟨spec, hd, -⟩ := scopes?_eq_some_iff.1 h
  unfold stage
  rw [focusedLabels?_of_scopes h]
  exact setValue_own hd

theorem scopes?_stage (h : f.scopes? = some e) (s : String) : (f.stage s).scopes? = some { e with staging := s } := by
  obtain ⟨spec, hd, hkind⟩ := scopes?_eq_some_iff.1 h
  refine scopes?_eq_some_iff.2 ⟨spec, ?_, hkind⟩
  unfold stage
  rw [focusedLabels?_of_scopes h]
  simp [setValue, hd]

theorem Settled.completion?_eq_none (h : f.Settled) (names : List String) : f.completion? names = none := by
  refine Option.bind_eq_none_iff.2 fun e he => ?_
  obtain ⟨spec, hd, -⟩ := scopes?_eq_some_iff.1 he
  exact LabelEntry.completion?_of_no_staging (h f.focus spec e hd) names

end Form

namespace Tab

/-- A form is open, and no editor over it. -/
structure Filling (t : Tab) (f : Form) : Prop where
  form : t.form = some f
  editors : t.editors = []

variable {t : Tab} {f : Form}

theorem completeOrNext_of_none (h : f.completion? t.knownScopes = none) : t.completeOrNext f = f.focusNext := by
  unfold completeOrNext
  unfold Form.completion? Form.scopes? at h
  dsimp only
  split
  · next hkind =>
    rw [if_pos hkind] at h
    unfold Form.complete?
    cases he : f.focusedLabels? with
    | none => rfl
    | some e =>
      rw [he, Option.bind_some] at h
      dsimp only
      rw [LabelEntry.complete?_eq, h]
      rfl
  · rfl

theorem completeOrNext_of_some {c : String} (h : f.completion? t.knownScopes = some c) :
    t.completeOrNext f = f.stage c := by
  obtain ⟨e, he, hc⟩ := Option.bind_eq_some_iff.1 h
  obtain ⟨spec, hd, hkind⟩ := Form.scopes?_eq_some_iff.1 he
  have hfocused : f.focused? = some ⟨spec, .labels e⟩ := hd
  unfold completeOrNext Form.complete? Form.stage
  dsimp only
  rw [hfocused, Option.any_some, if_pos (decide_eq_true hkind), Form.focusedLabels?_of_scopes he]
  dsimp only
  rw [LabelEntry.complete?_eq, hc]
  rfl

theorem Filling.press_tab (hf : t.Filling f) (h : t.Coherent) :
    t.press .tab = ({ t with error := none, notice := none, form := some (t.completeOrNext f) }, []) := by
  have hview : t.view.hasForm = true := h.consistent.form.1 (by rw [hf.form]; rfl)
  rw [press_of_form hf.editors hview]
  unfold pressForm
  dsimp only
  rw [hf.form]
  rfl

/-! ## Completing -/

theorem Filling.press_tab_of_some (hf : t.Filling f) (h : t.Coherent) {c : String}
    (hc : f.completion? t.knownScopes = some c) :
    (t.press .tab).1.Filling (f.stage c) ∧ ∃ e, f.scopes? = some e ∧
      (f.stage c).scopes? = some { e with staging := c } ∧ e.completion? t.knownScopes = some c := by
  obtain ⟨e, he, hcompletion⟩ := Option.bind_eq_some_iff.1 hc
  refine ⟨?_, e, he, Form.scopes?_stage he c, hcompletion⟩
  rw [hf.press_tab h, completeOrNext_of_some hc]
  exact ⟨rfl, hf.editors⟩

/-- With a name staged that is completed to itself, Tab does nothing, however often it is pressed. -/
theorem Filling.pressed_tab_of_stalls (hf : t.Filling f) (h : t.Coherent) (hstalls : f.Stalls t.knownScopes) (n : Nat) :
    t.pressed .tab (n + 1) = { t with error := none, notice := none } := by
  have once {u : Tab} (hu : u.Filling f) (hc : u.Coherent) (hnames : u.knownScopes = t.knownScopes) :
      (u.press .tab).1 = { u with error := none, notice := none } := by
    obtain ⟨s, hs, hcompletion⟩ := hstalls
    obtain ⟨e, he, rfl⟩ := Option.map_eq_some_iff.1 hs
    rw [hu.press_tab hc, completeOrNext_of_some (hnames ▸ hcompletion), Form.stage_own he, ← hu.form]
  induction n with
  | zero => exact once hf h rfl
  | succ n ih =>
    rw [pressed_succ, ih]
    exact once (u := { t with error := none, notice := none }) ⟨hf.form, hf.editors⟩ (h.congr rfl) rfl

/-! ## Going round -/

/-- The form has the fields of its table, and Tab completes nothing in it. -/
structure Quiet (t : Tab) (f : Form) : Prop where
  filling : t.Filling f
  fits : f.Fits t.table
  completion : f.completion? t.knownScopes = none

/-- The field that is left has nothing staged any more, so that nothing is completed from then on. -/
theorem Quiet.press_tab (hq : t.Quiet f) (h : t.Coherent) :
    (t.press .tab).1.Quiet f.focusNext ∧ (t.press .tab).1.table = t.table ∧
      f.focusNext.focus = (f.focus + 1) % t.table.length := by
  have hpress := hq.filling.press_tab h
  rw [completeOrNext_of_none hq.completion] at hpress
  rw [hpress]
  refine ⟨⟨⟨rfl, hq.filling.editors⟩, hq.fits.focusNext, hq.fits.settled_focusNext.completion?_eq_none _⟩, rfl, ?_⟩
  rw [hq.fits.focusNext_eq]

theorem Quiet.pressed_tab (hq : t.Quiet f) (h : t.Coherent) (n : Nat) :
    ∃ g, (t.pressed .tab n).Quiet g ∧ (t.pressed .tab n).table = t.table ∧
      g.focus = (f.focus + n) % t.table.length := by
  induction n with
  | zero => exact ⟨f, hq, rfl, (Nat.mod_eq_of_lt hq.fits.focus).symm⟩
  | succ n ih =>
    obtain ⟨g, hg, htable, hfocus⟩ := ih
    have hn : (t.pressed .tab n).Coherent := h.onward _
    obtain ⟨hnext, hsame, hmoved⟩ := hg.press_tab hn
    rw [pressed_succ]
    refine ⟨g.focusNext, hnext, hsame.trans htable, ?_⟩
    rw [hmoved, htable, hfocus, Nat.mod_add_mod, Nat.add_assoc]

/-- Every index is so many steps ahead, counting round. -/
theorem exists_steps {n i j : Nat} (hi : i < n) (hj : j < n) : ∃ m < n, (i + m) % n = j := by
  by_cases h : i ≤ j
  · exact ⟨j - i, by omega, by rw [Nat.add_sub_cancel' h, Nat.mod_eq_of_lt hj]⟩
  · refine ⟨j + n - i, by omega, ?_⟩
    rw [show i + (j + n - i) = j + n by omega, Nat.add_mod_right, Nat.mod_eq_of_lt hj]

theorem succ_mod_ne {n i : Nat} (hi : i < n) (hn : 2 ≤ n) : (i + 1) % n ≠ i := by
  by_cases h : i + 1 < n
  · rw [Nat.mod_eq_of_lt h]
    omega
  · rw [show i + 1 = n by omega, Nat.mod_self]
    omega

/-! ## Every form -/

/-- With a form open and no editor over it, Tab stages another text in the scopes in focus or goes on to the next
field, unless the text that is staged stalls it. If it goes on, it reaches every field of the form in less than a
round. If it is stalled, it does nothing for good; and a name in normal form to which it completes stalls it. -/
theorem tab_advances (kind : Kind) (es : List TabEvent) {f : Form} (hf : (after kind es).Filling f) :
    let t := after kind es
    let n := f.fields.length
    (¬ f.Stalls t.knownScopes → ∃ g, (t.press .tab).1.Filling g ∧
      ((∃ s s', f.staged? = some s ∧ g.staged? = some s' ∧ s' ≠ s ∧ g.focus = f.focus) ∨
        g.focus = (f.focus + 1) % n ∧ g.focus ≠ f.focus)) ∧
    (f.completion? t.knownScopes = none → ∀ i < n, ∃ m < n, ∃ g, (t.pressed .tab m).Filling g ∧ g.focus = i) ∧
    (f.Stalls t.knownScopes → ∀ m, t.pressed .tab (m + 1) = { t with error := none, notice := none }) ∧
    ∀ c, f.completion? t.knownScopes = some c → (∀ l : LabelKind, l.normal c = c) →
      (t.press .tab).1.Filling (f.stage c) ∧ (f.stage c).Stalls t.knownScopes := by
  intro t n
  have h : t.Coherent := coherent_after kind es
  have hfits : f.Fits t.table := tabled_after kind es f hf.form
  have hn : n = t.table.length := hfits.length
  have quiet (hnone : f.completion? t.knownScopes = none) : t.Quiet f := ⟨hf, hfits, hnone⟩
  refine ⟨fun hmoves => ?_, fun hnone i hi => ?_, hf.pressed_tab_of_stalls h, fun c hc hnormal => ?_⟩
  · cases hc : f.completion? t.knownScopes with
    | none =>
      obtain ⟨hnext, -, hfocus⟩ := (quiet hc).press_tab h
      refine ⟨_, hnext.filling, .inr ?_⟩
      rw [hfocus, hn]
      have htwo : 2 ≤ t.table.length := two_le_table (Nat.zero_lt_of_lt hfits.focus)
      exact ⟨rfl, succ_mod_ne hfits.focus htwo⟩
    | some c =>
      obtain ⟨hstaged, e, he, hstage, -⟩ := hf.press_tab_of_some h hc
      have hs : f.staged? = some e.staging := congrArg (Option.map LabelEntry.staging) he
      refine ⟨_, hstaged, .inl ⟨e.staging, c, hs, congrArg (Option.map LabelEntry.staging) hstage, ?_,
        f.focus_stage c⟩⟩
      rintro rfl
      exact hmoves ⟨_, hs, hc⟩
  · obtain ⟨m, hm, hsteps⟩ := exists_steps (hn ▸ hfits.focus) hi
    obtain ⟨g, hg, -, hfocus⟩ := (quiet hnone).pressed_tab h m
    exact ⟨m, hm, g, hg.filling, by rw [hfocus, ← hn, hsteps]⟩
  · obtain ⟨hstaged, e, -, hstage, hcompletion⟩ := hf.press_tab_of_some h hc
    refine ⟨hstaged, c, congrArg (Option.map LabelEntry.staging) hstage, ?_⟩
    unfold Form.completion?
    rw [hstage, Option.bind_some]
    exact LabelEntry.completion?_of_completed hcompletion (hnormal e.kind)

/-- The scope work is known, and the beginning of it is typed into the scopes of a new entity. -/
def typingScope (typed : List Char) : List TabEvent :=
  [.input .activate, .input (.press .up), .input (.press .enter),
    .deliver ⟨.entities, .scopes, 0, .ok (.names ["work"])⟩, .input (.press .down), .input (.press .down),
    .input (.press .down), .input (.press .down)] ++ typed.map fun c => .input (.press (.char c))

/-- In the course of typing it, the form is open, the scopes are in focus, and Tab completes them. -/
theorem filling_typingScope (typed : List Char) (h : typed = ['w', 'o'] ∨ typed = ['w', 'o', 'r', 'k']) :
    ∃ f, (after .entities (typingScope typed)).Filling f ∧ f.staged? = some (String.ofList typed) ∧ f.focus = 4 ∧
      f.completion? (after .entities (typingScope typed)).knownScopes = some "work" := by
  have hall : ((after .entities (typingScope typed)).form.map fun f =>
      (f.staged?, f.focus, f.completion? (after .entities (typingScope typed)).knownScopes)) =
        some (some (String.ofList typed), 4, some "work") ∧ (after .entities (typingScope typed)).editors = [] := by
    rcases h with rfl | rfl
    · decide +kernel
    · decide +kernel
  obtain ⟨hform, heditors⟩ := hall
  obtain ⟨f, hf, hvalues⟩ := Option.map_eq_some_iff.1 hform
  simp only [Prod.mk.injEq] at hvalues
  exact ⟨f, ⟨hf, heditors⟩, hvalues⟩

/-- Of half the name Tab makes the whole, and then it has come to its end. -/
theorem tab_advances_typingScope :
    let t := after .entities (typingScope ['w', 'o'])
    ∃ f, t.Filling f ∧ ¬ f.Stalls t.knownScopes ∧ (t.press .tab).1.Filling (f.stage "work") ∧
      (f.stage "work").staged? ≠ f.staged? ∧ (f.stage "work").Stalls t.knownScopes := by
  intro t
  obtain ⟨f, hf, hstaged, -, hcompletion⟩ := filling_typingScope ['w', 'o'] (.inl rfl)
  have hmoves : ¬ f.Stalls t.knownScopes := by
    rintro ⟨s, hs, hc⟩
    rw [hstaged] at hs
    rw [hcompletion, ← hs] at hc
    exact absurd (Option.some.inj hc) (by decide)
  have hnormal (l : LabelKind) : l.normal "work" = "work" := by cases l <;> decide +kernel
  obtain ⟨hstep, -, -, hends⟩ := tab_advances .entities (typingScope ['w', 'o']) hf
  obtain ⟨hnext, hstalls⟩ := hends "work" hcompletion hnormal
  obtain ⟨g, hg, hchange⟩ := hstep hmoves
  obtain rfl : f.stage "work" = g := Option.some.inj (hnext.form.symm.trans hg.form)
  refine ⟨f, hf, hmoves, hnext, ?_, hstalls⟩
  rcases hchange with ⟨s, s', hs, hs', hne, -⟩ | ⟨-, hne⟩
  · rw [hs, hs']
    exact fun h => hne (Option.some.inj h)
  · exact absurd (f.focus_stage "work") hne

/-- With the whole name typed, Tab neither changes what is staged nor goes on, and the fields below are not reached. -/
theorem tab_stalls :
    (¬ ∀ (kind : Kind) (es : List TabEvent) (f : Form), (after kind es).Filling f →
      ∃ g, ((after kind es).press .tab).1.form = some g ∧
        (g.staged? ≠ f.staged? ∨ g.focus = (f.focus + 1) % f.fields.length)) ∧
    ¬ ∀ (kind : Kind) (es : List TabEvent) (f : Form), (after kind es).Filling f →
      ∀ i < f.fields.length, ∃ m g, ((after kind es).pressed .tab m).form = some g ∧ g.focus = i := by
  obtain ⟨f, hf, hstaged, hfocus, hcompletion⟩ := filling_typingScope ['w', 'o', 'r', 'k'] (.inr rfl)
  have hstalls : f.Stalls (after .entities (typingScope ['w', 'o', 'r', 'k'])).knownScopes :=
    ⟨"work", hstaged, hcompletion⟩
  have hkept (n : Nat) : ((after .entities (typingScope ['w', 'o', 'r', 'k'])).pressed .tab n).form = some f := by
    cases n with
    | zero => exact hf.form
    | succ n =>
      rw [hf.pressed_tab_of_stalls (coherent_after _ _) hstalls]
      exact hf.form
  have hlength : f.fields.length = 6 :=
    (tabled_after .entities (typingScope ['w', 'o', 'r', 'k']) f hf.form).length.trans rfl
  constructor
  · intro h
    obtain ⟨g, hg, hchange⟩ := h .entities (typingScope ['w', 'o', 'r', 'k']) f hf
    obtain rfl : f = g := Option.some.inj ((hkept 1).symm.trans hg)
    rcases hchange with hne | hnext
    · exact hne rfl
    · rw [hfocus, hlength] at hnext
      exact absurd hnext (by decide)
  · intro h
    obtain ⟨m, g, hg, hlast⟩ := h .entities (typingScope ['w', 'o', 'r', 'k']) f hf 5 (by rw [hlength]; decide)
    obtain rfl : f = g := Option.some.inj ((hkept m).symm.trans hg)
    rw [hfocus] at hlast
    exact absurd hlast (by decide)

end Tab

end RecordDesk
