import RecordDesk.CommandLine

/-!
The arguments of a command line as a list of items. An item is a flag, or `--config` and the path behind it. The reader
takes the items one by one (`readFrom_item`), so arguments that spell a list of items are read as that list is
(`readFrom_spelled`); and of any arguments, it takes as many items as there are before it comes to an argument with
which none begins (`exists_items`). What the options are in the end is told from the items without reading them in order
(`asks_adoptAll`).
-/

namespace RecordDesk.Options

/-! ## Items -/

/-- The options that are on or off. -/
inductive Switch where
  | printConfigPath
  | printExample
  | checkOnly
  | showHelp
  deriving DecidableEq

def isOn (o : Options) : Switch → Bool
  | .printConfigPath => o.printConfigPath
  | .printExample => o.printExample
  | .checkOnly => o.checkOnly
  | .showHelp => o.showHelp

def turnOn (o : Options) : Switch → Options
  | .printConfigPath => { o with printConfigPath := true }
  | .printExample => { o with printExample := true }
  | .checkOnly => { o with checkOnly := true }
  | .showHelp => { o with showHelp := true }

/-- The arguments that turn an option on. There are two for help. -/
inductive Flag where
  | printConfigPath
  | printExample
  | check
  | help
  | shortHelp
  deriving DecidableEq

namespace Flag

def text : Flag → String
  | printConfigPath => "--print-config-path"
  | printExample => "--print-example-config"
  | check => "--check"
  | help => "--help"
  | shortHelp => "-h"

def switch : Flag → Switch
  | printConfigPath => .printConfigPath
  | printExample => .printExample
  | check => .checkOnly
  | help => .showHelp
  | shortHelp => .showHelp

end Flag

inductive Item where
  | flag (f : Flag)
  | path (p : String)
  deriving DecidableEq

namespace Item

/-- The arguments of an item. The one behind `--config` may be any. -/
def arguments : Item → List String
  | flag f => [f.text]
  | path p => ["--config", p]

def path? : Item → Option String
  | flag _ => none
  | path p => some p

/-- The arguments of a list of items. -/
def spelled (items : List Item) : List String := items.flatMap arguments

/-- The last path of a list of items. -/
def lastPath? (items : List Item) : Option String := (items.filterMap path?).getLast?

end Item

/-- What the options of a list of items are: on is what one of its flags turns on, and the path is its last one. -/
structure Asks (items : List Item) (defaultPath : String) (o : Options) : Prop where
  isOn : ∀ s, o.isOn s = true ↔ ∃ f, f.switch = s ∧ .flag f ∈ items
  configPath : o.configPath = (Item.lastPath? items).getD defaultPath

theorem eq_of_isOn {o p : Options} (hon : ∀ s, o.isOn s = p.isOn s) (hpath : o.configPath = p.configPath) :
    o = p := by
  cases o
  cases p
  obtain rfl := hpath
  have hprintPath := hon .printConfigPath
  have hprintExample := hon .printExample
  have hcheck := hon .checkOnly
  have hhelp := hon .showHelp
  simp only [Options.isOn] at hprintPath hprintExample hcheck hhelp
  rw [hprintPath, hprintExample, hcheck, hhelp]

theorem Asks.unique {items : List Item} {defaultPath : String} {o p : Options} (ho : Asks items defaultPath o)
    (hp : Asks items defaultPath p) : o = p :=
  eq_of_isOn (fun s => Bool.eq_iff_iff.2 ((ho.isOn s).trans (hp.isOn s).symm)) (ho.configPath.trans hp.configPath.symm)

/-! ## Reading items -/

variable {o : Options} {items : List Item} {args rest : List String} {e : ArgumentError}

/-- What an item makes of the options. -/
def adopt (o : Options) : Item → Options
  | .flag f => o.turnOn f.switch
  | .path p => { o with configPath := p }

theorem setFlag?_text (o : Options) (f : Flag) : o.setFlag? f.text = some (o.turnOn f.switch) := by
  cases f <;> rfl

theorem setFlag?_of_unknown {a : String} (h : ∀ f : Flag, a ≠ f.text) (o : Options) : o.setFlag? a = none := by
  have hprintPath : a ≠ "--print-config-path" := h .printConfigPath
  have hprintExample : a ≠ "--print-example-config" := h .printExample
  have hcheck : a ≠ "--check" := h .check
  have hhelp : ¬ (a = "--help" ∨ a = "-h") := not_or.2 ⟨h .help, h .shortHelp⟩
  unfold setFlag?
  rw [if_neg hprintPath, if_neg hprintExample, if_neg hcheck, if_neg hhelp]

theorem Flag.text_ne_config (f : Flag) : f.text ≠ "--config" := by
  cases f <;> decide

/-- But for `--config`, the reader does not look behind the first argument. -/
theorem readFrom_cons {a : String} (h : a ≠ "--config") (o : Options) (rest : List String) :
    readFrom o (a :: rest) =
      match o.setFlag? a with
      | some o => readFrom o rest
      | none => .error (.unknown a) := by
  cases rest with
  | nil => exact if_neg h
  | cons b rest => exact if_neg h

theorem readFrom_item (o : Options) (i : Item) (rest : List String) :
    readFrom o (i.arguments ++ rest) = readFrom (o.adopt i) rest := by
  cases i with
  | flag f => rw [Item.arguments, List.singleton_append, readFrom_cons f.text_ne_config, setFlag?_text, adopt]
  | path p => exact if_pos rfl

theorem readFrom_spelled (o : Options) (items : List Item) (rest : List String) :
    readFrom o (Item.spelled items ++ rest) = readFrom (items.foldl adopt o) rest := by
  induction items generalizing o with
  | nil => rfl
  | cons i items ih =>
    rw [Item.spelled, List.flatMap_cons, List.append_assoc, readFrom_item]
    exact ih (o.adopt i)

theorem readFrom_of_spelled (o : Options) (items : List Item) :
    readFrom o (Item.spelled items) = .ok (items.foldl adopt o) := by
  rw [← List.append_nil (Item.spelled items), readFrom_spelled, readFrom]

/-- The options that a list of items leaves, one item after the other. -/
def adoptAll (defaultPath : String) (items : List Item) : Options := items.foldl adopt { configPath := defaultPath }

theorem read_spelled (defaultPath : String) (items : List Item) (rest : List String) :
    read defaultPath (Item.spelled items ++ rest) = readFrom (adoptAll defaultPath items) rest :=
  readFrom_spelled _ items rest

theorem read_of_spelled (defaultPath : String) (items : List Item) :
    read defaultPath (Item.spelled items) = .ok (adoptAll defaultPath items) :=
  readFrom_of_spelled _ items

/-! ## What no item begins with -/

/-- What is left of the arguments where no item begins, and the error about it. -/
inductive Refused : List String → ArgumentError → Prop where
  | noPath : Refused ["--config"] .noPath
  | unknown {a : String} (notConfig : a ≠ "--config") (notFlag : ∀ f : Flag, a ≠ f.text) (rest : List String) :
      Refused (a :: rest) (.unknown a)

theorem Refused.readFrom (h : Refused args e) (o : Options) : o.readFrom args = .error e := by
  cases h with
  | noPath => exact if_pos rfl
  | unknown notConfig notFlag rest => rw [readFrom_cons notConfig, setFlag?_of_unknown notFlag]

theorem item_or_refused (a : String) (args : List String) :
    (∃ (i : Item) (rest : List String), a :: args = i.arguments ++ rest) ∨ ∃ e, Refused (a :: args) e := by
  by_cases hconfig : a = "--config"
  · subst hconfig
    cases args with
    | nil => exact .inr ⟨_, .noPath⟩
    | cons p args => exact .inl ⟨.path p, args, rfl⟩
  · by_cases hflag : ∃ f : Flag, a = f.text
    · obtain ⟨f, rfl⟩ := hflag
      exact .inl ⟨.flag f, args, rfl⟩
    · exact .inr ⟨_, .unknown hconfig (fun f hf => hflag ⟨f, hf⟩) args⟩

/-- Any arguments are items, and behind them, if anything, what no item begins with. -/
theorem exists_items (args : List String) :
    ∃ items rest, args = Item.spelled items ++ rest ∧ (rest = [] ∨ ∃ e, Refused rest e) := by
  match args with
  | [] => exact ⟨[], [], rfl, .inl rfl⟩
  | a :: args =>
    rcases item_or_refused a args with ⟨i, behind, hitem⟩ | hrefused
    · obtain ⟨items, rest, hitems, hrest⟩ := exists_items behind
      refine ⟨i :: items, rest, ?_, hrest⟩
      rw [hitem, hitems, Item.spelled, Item.spelled, List.flatMap_cons, List.append_assoc]
    · exact ⟨[], a :: args, rfl, .inr hrefused⟩
termination_by args.length
decreasing_by
  -- Every item takes at least one argument.
  have hlength := congrArg List.length hitem
  cases i <;> simp [Item.arguments] at hlength ⊢ <;> omega

/-! ## The options of a list of items -/

theorem isOn_turnOn (o : Options) (s s' : Switch) : (o.turnOn s).isOn s' = true ↔ o.isOn s' = true ∨ s = s' := by
  cases s <;> cases s' <;> simp [turnOn, Options.isOn]

theorem isOn_adopt (o : Options) (i : Item) (s : Switch) :
    (o.adopt i).isOn s = true ↔ o.isOn s = true ∨ ∃ f : Flag, f.switch = s ∧ .flag f = i := by
  cases i with
  | flag f => simp [adopt, isOn_turnOn]
  | path p => cases s <;> simp [adopt, Options.isOn]

theorem isOn_foldl_adopt (o : Options) (items : List Item) (s : Switch) :
    (items.foldl adopt o).isOn s = true ↔ o.isOn s = true ∨ ∃ f : Flag, f.switch = s ∧ .flag f ∈ items := by
  induction items generalizing o with
  | nil => simp
  | cons i items ih =>
    rw [List.foldl_cons, ih, isOn_adopt, or_assoc]
    simp only [List.mem_cons, and_or_left, exists_or]

theorem Item.lastPath?_cons (i : Item) (items : List Item) : lastPath? (i :: items) = (lastPath? items).or i.path? := by
  unfold lastPath?
  cases i with
  | flag f => simp [path?]
  | path p => simp [path?, List.getLast?_cons]

theorem configPath_adopt (o : Options) (i : Item) : (o.adopt i).configPath = i.path?.getD o.configPath := by
  cases i with
  | flag f => cases f <;> rfl
  | path p => rfl

theorem configPath_foldl_adopt (o : Options) (items : List Item) :
    (items.foldl adopt o).configPath = (Item.lastPath? items).getD o.configPath := by
  induction items generalizing o with
  | nil => rfl
  | cons i items ih =>
    rw [List.foldl_cons, ih, Item.lastPath?_cons, configPath_adopt, Option.getD_or]

theorem asks_adoptAll (items : List Item) (defaultPath : String) :
    Asks items defaultPath (adoptAll defaultPath items) where
  isOn s := by
    rw [adoptAll, isOn_foldl_adopt]
    cases s <;> simp [Options.isOn]
  configPath := configPath_foldl_adopt _ items

/-! ## Reading arguments -/

theorem read_eq_ok_iff {defaultPath : String} :
    read defaultPath args = .ok o ↔ ∃ items, Item.spelled items = args ∧ Asks items defaultPath o := by
  constructor
  · intro h
    obtain ⟨items, rest, rfl, rfl | ⟨e, hrefused⟩⟩ := exists_items args
    · rw [List.append_nil, read_of_spelled] at h
      obtain rfl := Except.ok.inj h
      exact ⟨items, (List.append_nil _).symm, asks_adoptAll items defaultPath⟩
    · rw [read_spelled, hrefused.readFrom] at h
      cases h
  · rintro ⟨items, rfl, hasks⟩
    rw [read_of_spelled, hasks.unique (asks_adoptAll items defaultPath)]

theorem read_eq_error_iff {defaultPath : String} :
    read defaultPath args = .error e ↔ ∃ items rest, args = Item.spelled items ++ rest ∧ Refused rest e := by
  constructor
  · intro h
    obtain ⟨items, rest, rfl, rfl | ⟨e', hrefused⟩⟩ := exists_items args
    · rw [List.append_nil, read_of_spelled] at h
      cases h
    · refine ⟨items, rest, rfl, ?_⟩
      rw [read_spelled, hrefused.readFrom] at h
      exact Except.error.inj h ▸ hrefused
  · rintro ⟨items, rest, rfl, hrefused⟩
    rw [read_spelled, hrefused.readFrom]

/-- What stands behind accepted arguments is read from where they have brought the options. -/
theorem read_append {defaultPath : String} (h : read defaultPath args = .ok o) (rest : List String) :
    read defaultPath (args ++ rest) = o.readFrom rest := by
  obtain ⟨items, rfl, hasks⟩ := read_eq_ok_iff.1 h
  rw [read_spelled, hasks.unique (asks_adoptAll items defaultPath)]

/-- Reordered items ask for the same, as long as the paths among them come in the same order. -/
theorem Asks.perm {items items' : List Item} {defaultPath : String} (h : Asks items defaultPath o)
    (hperm : items.Perm items') (hpaths : items.filterMap Item.path? = items'.filterMap Item.path?) :
    Asks items' defaultPath o where
  isOn s := by simp only [h.isOn, hperm.mem_iff]
  configPath := by rw [h.configPath, Item.lastPath?, Item.lastPath?, hpaths]

theorem quoted_infix_message (a : String) : (Text.quoted a).toList <:+: (ArgumentError.unknown a).message.toList := by
  have hmessage : (ArgumentError.unknown a).message =
      "unknown argument " ++ Text.quoted a ++ "; run with --help to see supported options" := rfl
  rw [hmessage, String.toList_append, String.toList_append]
  exact List.infix_append _ _ _

/-- Arguments are accepted just if they spell a list of items, and the options are those that the items ask for. So the
order of items makes no difference but for that of the paths, and two lists of arguments one after the other turn on
what either turns on, the later one deciding the path if it has any. Otherwise arguments are refused, for the first one
that begins no item; the message quotes it, or says that the path behind the last one is missing. -/
theorem arguments_are_items (defaultPath : String) :
    (∀ args o, read defaultPath args = .ok o ↔ ∃ items, Item.spelled items = args ∧ Asks items defaultPath o) ∧
    (∀ (items items' : List Item) (rest : List String), items.Perm items' →
      items.filterMap Item.path? = items'.filterMap Item.path? →
        read defaultPath (Item.spelled items ++ rest) = read defaultPath (Item.spelled items' ++ rest)) ∧
    (∀ args args' o o', read defaultPath args = .ok o → read defaultPath args' = .ok o' →
      ∃ both, read defaultPath (args ++ args') = .ok both ∧ (∀ s, both.isOn s = (o.isOn s || o'.isOn s)) ∧
        ∀ items', Item.spelled items' = args' → both.configPath = (Item.lastPath? items').getD o.configPath) ∧
    (∀ args e, read defaultPath args = .error e ↔
      ∃ items rest, args = Item.spelled items ++ rest ∧ Refused rest e) ∧
    (∀ a, (Text.quoted a).toList <:+: (ArgumentError.unknown a).message.toList) ∧
    ArgumentError.noPath.message = "--config requires a file path" := by
  refine ⟨fun args o => read_eq_ok_iff, ?_, ?_, fun args e => read_eq_error_iff, quoted_infix_message, rfl⟩
  · intro items items' rest hperm hpaths
    have hsame := ((asks_adoptAll items defaultPath).perm hperm hpaths).unique (asks_adoptAll items' defaultPath)
    rw [read_spelled, read_spelled, hsame]
  · intro args args' o o' h h'
    obtain ⟨items', rfl, hasks'⟩ := read_eq_ok_iff.1 h'
    refine ⟨items'.foldl adopt o, ?_, fun s => ?_, fun js hjs => ?_⟩
    · rw [read_append h, readFrom_of_spelled]
    · rw [Bool.eq_iff_iff, Bool.or_eq_true, isOn_foldl_adopt, hasks'.isOn]
    · have hsame := readFrom_of_spelled o js
      rw [hjs, readFrom_of_spelled] at hsame
      rw [Except.ok.inj hsame, configPath_foldl_adopt]

/-- A flag that stands where a path does is a path, and the last of two paths counts, wherever the check is; a flag
behind these items is turned on and leaves the path as it is, and an argument that is no flag is the one that is
named. -/
theorem arguments_are_items_with_two_paths :
    let o : Options := { configPath := "b.toml", checkOnly := true }
    read "a.toml" ["--check", "--config", "-h", "--config", "b.toml"] = .ok o ∧
      read "a.toml" ["--config", "-h", "--config", "b.toml", "--check"] = .ok o ∧
      (∃ both, read "a.toml" ["--check", "--config", "-h", "--config", "b.toml", "-h"] = .ok both ∧
        both.isOn .checkOnly = true ∧ both.isOn .showHelp = true ∧ both.configPath = "b.toml") ∧
      read "a.toml" ["--check", "--config", "-h", "--chekc", "--config"] = .error (.unknown "--chekc") ∧
      read "a.toml" ["--check", "--config"] = .error .noPath := by
  intro o
  obtain ⟨haccepted, hreordered, hjoined, hrefused, -⟩ := arguments_are_items "a.toml"
  have hread : read "a.toml" ["--check", "--config", "-h", "--config", "b.toml"] = .ok o :=
    (haccepted _ o).2 ⟨[.flag .check, .path "-h", .path "b.toml"], rfl, asks_adoptAll _ _⟩
  have hsame := hreordered [.flag .check, .path "-h", .path "b.toml"] [.path "-h", .path "b.toml", .flag .check] []
    (by decide) (by decide)
  obtain ⟨both, hboth, hon, hpath⟩ := hjoined _ ["-h"] o _ hread rfl
  refine ⟨hread, hsame.symm.trans hread, ⟨both, hboth, ?_, ?_, hpath [.flag .shortHelp] rfl⟩, ?_, ?_⟩
  · rw [hon]
    rfl
  · rw [hon]
    rfl
  · exact (hrefused _ _).2 ⟨[.flag .check, .path "-h"], ["--chekc", "--config"], rfl,
      .unknown (by decide) (fun f => by cases f <;> decide) _⟩
  · exact (hrefused _ _).2 ⟨[.flag .check], ["--config"], rfl, .noPath⟩

end RecordDesk.Options
