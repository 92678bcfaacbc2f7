import RecordDesk.CommandLine
import RecordDesk.Proofs.Settings.Checks
import RecordDesk.Proofs.Web.Failures
import RecordDesk.Proofs.Web.Reading

/-!
Settings that pass their checks always have a client (`valid_settings_serve`). The checks look at the values that are
there, and the settings are read from them again later, with defaults, bounds and a second reading of the time limit of
their own (`Config.Valid.agrees`); an address of the web takes segments, and the client reads the address as the checks
have read it. So the program never ends because of a client that cannot be made, and no call of its client fails for
the want of a path.
-/

namespace RecordDesk

namespace Config

variable {c : Config}

/-! ## Reading settings again -/

/-- What holds of a value that may be missing and of its default holds of the value that is taken. -/
theorem getD_of_forall_some {α : Type} {p : α → Prop} {o : Option α} (h : ∀ a, o = some a → p a) {d : α}
    (hdefault : p d) : p (o.getD d) := by
  cases o with
  | none => exact hdefault
  | some a => exact h a rfl

/-- Each setting that is read is the one that is said, or the default, and it is of use. -/
structure Agrees (c : Config) : Prop where
  timeout : ∃ t, c.timeout = .ok t ∧ 0 < t
  pageSize : (c.pageSize : Int) = (c.api.pageSize.getD defaultPageSize).toInt
  pageSize_pos : 1 ≤ c.pageSize
  startTab : c.startTab.name = c.ui.startTab.getD Kind.entities.name
  statusClearSecs : (c.statusClearSecs : Int) = (c.ui.statusClearSecs.getD defaultStatusClearSecs).toInt
  statusClearSecs_pos : 1 ≤ c.statusClearSecs
  logLevel : LogFilter.check c.logLevel = .ok ()

/-- A number that is positive is not changed by its bounds. -/
theorem pageSize_eq (h : 0 < (c.api.pageSize.getD defaultPageSize).toInt) :
    (c.pageSize : Int) = (c.api.pageSize.getD defaultPageSize).toInt := by
  have hword := (c.api.pageSize.getD defaultPageSize).toInt_lt
  unfold pageSize
  dsimp only
  split <;> omega

theorem statusClearSecs_eq (h : 0 < (c.ui.statusClearSecs.getD defaultStatusClearSecs).toInt) :
    (c.statusClearSecs : Int) = (c.ui.statusClearSecs.getD defaultStatusClearSecs).toInt := by
  unfold statusClearSecs
  omega

theorem name_startTab (h : ∀ raw, c.ui.startTab = some raw → ∃ k : Kind, k.name = raw) :
    c.startTab.name = c.ui.startTab.getD Kind.entities.name := by
  unfold startTab
  cases htab : c.ui.startTab with
  | none => rfl
  | some raw =>
    obtain ⟨k, rfl⟩ := h raw htab
    rw [Option.bind_some, Kind.ofName?_eq_some_iff.2 rfl]
    rfl

theorem Valid.agrees (h : c.Valid) : c.Agrees := by
  have hsize := getD_of_forall_some h.pageSize (show 0 < defaultPageSize.toInt by decide)
  have hsecs := getD_of_forall_some h.statusClearSecs (show 0 < defaultStatusClearSecs.toInt by decide)
  have hpage := pageSize_eq hsize
  have hclear := statusClearSecs_eq hsecs
  exact
    { timeout := getD_of_forall_some h.timeout (valid_default.timeout _ rfl)
      pageSize := hpage
      pageSize_pos := by omega
      startTab := name_startTab h.startTab
      statusClearSecs := hclear
      statusClearSecs_pos := by omega
      logLevel := getD_of_forall_some h.logLevel (valid_default.logLevel _ rfl) }

/-! ## The client of the settings -/

/-- Settings with a time limit that can be read make, with any key, a client of just their address, time limit and page
size, whose calls find the paths that they need. -/
def Serves (c : Config) : Prop :=
  ∀ key t, c.timeout = .ok t → ∃ client, Web.Client.new c.baseUrl key t c.pageSize = .ok client ∧
    client.baseUrl = c.baseUrl ∧ client.timeoutMs = t ∧ client.pageSize = c.pageSize ∧
    client.apiKey = Web.usableKey key ∧ (∀ segments, ∃ u, client.segmentUrl segments = .ok u) ∧ client.HasPaths

theorem Valid.serves (h : c.Valid) : c.Serves := by
  intro key t _
  obtain ⟨u, hread, hscheme⟩ := getD_of_forall_some h.baseUrl (valid_default.baseUrl _ rfl)
  have htrimmed : Web.trimSlashes c.baseUrl = c.baseUrl := Web.trimSlashes_trimSlashes _
  obtain ⟨parts, hparts⟩ := Web.Url.exists_segments_of_isHttp hread (Web.Url.isHttp_of_read hread hscheme)
  have hpaths := Web.Client.hasPaths_of_segments
    (c := ⟨c.baseUrl, u, Web.usableKey key, t, c.pageSize, hread, h.agrees.pageSize_pos⟩) hparts
  exact ⟨_, Web.Client.new_of_read htrimmed hread h.agrees.pageSize_pos, rfl, rfl, rfl, rfl, hpaths.segments, hpaths⟩

end Config

/-! ## The program -/

namespace CommandLine

variable {σ : Type}

/-- The program does not end because of a time limit or a log level that have been checked, nor because of its client:
the client could be made, and it had the paths that it needed. -/
def ServedEnding : Except (Halt Failure) Ending → Prop
  | .error (.failed (.timeout _)) => False
  | .error (.failed (.logLevel _ _)) => False
  | .error (.failed (.client _ _)) => False
  | .error (.failed (.health _ e)) => e.isNoPath = false
  | .ok (.desk config client) => config.Valid ∧ client.baseUrl = config.baseUrl ∧
      config.timeout = .ok client.timeoutMs ∧ client.pageSize = config.pageSize ∧ client.HasPaths
  | _ => True

theorem served_checkHealth {client : Web.Client} (h : client.HasPaths) (net : Web.Network σ) (x : σ) :
    ServedEnding (checkHealth client net x).1 := by
  have hping := Web.Client.hasPath_run (c := client) h.ping net x
  unfold checkHealth
  split
  · trivial
  · next e _ hrun => exact hping e (congrArg Prod.fst hrun)

variable {env : Environment} {disk : Disk} {config : Config}

/-- The filter of settings that have been checked is one. -/
theorem served_openLog (h : config.Valid) {e : Failure} (he : openLog env disk config = .error e) :
    ServedEnding (.error (.failed e)) := by
  unfold openLog at he
  split at he
  · cases he
    trivial
  · split at he
    · cases he
      trivial
    · unfold checkLog at he
      split at he
      · next raw _ =>
        cases hcheck : LogFilter.check raw with
        | error cause =>
          rw [hcheck] at he
          cases he
          trivial
        | ok u =>
          rw [hcheck] at he
          cases he
      · rw [h.agrees.logLevel] at he
        cases he

/-- Settings that have been checked have their client. -/
theorem exists_connect (h : config.Valid) (env : Environment) (path : String) :
    ∃ client, connect env path config = .ok client ∧ client.baseUrl = config.baseUrl ∧
      config.timeout = .ok client.timeoutMs ∧ client.pageSize = config.pageSize ∧ client.HasPaths := by
  obtain ⟨t, htime, -⟩ := h.agrees.timeout
  obtain ⟨client, hnew, hbase, ht, hsize, -, -, hpaths⟩ := h.serves (config.apiKey env.apiKey) t htime
  refine ⟨client, ?_, hbase, ht ▸ htime, hsize, hpaths⟩
  unfold connect
  rw [htime]
  simp only [Except.mapError, bind, Except.bind, hnew]

theorem served_prepare (env : Environment) (disk : Disk) (toml : TomlReader) (path : String) :
    ServedEnding ((prepare env disk toml path).map fun r => .desk r.1 r.2) := by
  unfold prepare
  cases hload : Config.load toml (disk.file path) with
  | error e => cases e <;> trivial
  | ok config =>
    have hvalid := Config.valid_of_load hload
    obtain ⟨client, hconnect, hclient⟩ := exists_connect hvalid env path
    simp only [Except.mapError, bind, Except.bind]
    cases hlog : openLog env disk config with
    | error e => exact served_openLog hvalid hlog
    | ok u =>
      simp only [hconnect]
      exact ⟨hvalid, hclient⟩

theorem served_perform (env : Environment) (disk : Disk) (toml : TomlReader) (net : Web.Network σ) (o : Options)
    (x : σ) : ServedEnding (perform env disk toml net o x).1 := by
  have hprepared := served_prepare env disk toml o.configPath
  unfold perform
  split
  · trivial
  split
  · trivial
  split
  · trivial
  split
  · next e hfail =>
    rw [hfail] at hprepared
    exact hprepared
  · next config client hdone =>
    rw [hdone] at hprepared
    split
    · exact served_checkHealth hprepared.2.2.2.2 net x
    · exact hprepared

theorem served_run (env : Environment) (disk : Disk) (toml : TomlReader) (net : Web.Network σ)
    (arguments : List String) (x : σ) : ServedEnding (run env disk toml net arguments x).1 := by
  unfold run
  split
  · next e hpath =>
    unfold configPath at hpath
    split at hpath <;> cases hpath
    trivial
  · split
    · trivial
    · exact served_perform env disk toml net _ x

end CommandLine

/-- The checks let through just the settings of which all that they say is right, and the defaults, which are not
checked, are right, too. Each setting that is later read from them is what they say, or the default, with a time limit,
a page size and a delay that are positive; and they make a client whose calls find their paths. So however settings
are written and whatever else there is, the program never ends because its client cannot be made, or because its
address cannot carry a path. -/
theorem valid_settings_serve :
    (∀ c : Config, c.validate = .ok () ↔ c.Valid) ∧ Config.default.Valid ∧
      (∀ c : Config, c.Valid → c.Agrees ∧ c.Serves) ∧
      (∀ toml file c, Config.load toml file = .ok c → c = Config.default ∨ c.validate = .ok ()) ∧
      ∀ {σ : Type} (env : CommandLine.Environment) (disk : CommandLine.Disk) (toml : TomlReader) (net : Web.Network σ)
        (arguments : List String) (x : σ), CommandLine.ServedEnding (CommandLine.run env disk toml net arguments x).1 :=
  ⟨fun _ => Config.validate_eq_ok_iff, Config.valid_default, fun _ h => ⟨h.agrees, h.serves⟩,
    fun _ _ _ => Config.default_or_validate_of_load, CommandLine.served_run⟩

/-- Settings with slashes behind their address, and with nothing about pages. -/
def slashes : Config := ⟨1, ⟨some "https://records.example/api///", none, some "2m", none⟩, ⟨none, none⟩, ⟨none, none⟩⟩

theorem valid_settings_serve_slashes :
    slashes.validate = .ok () ∧ slashes.baseUrl = "https://records.example/api" ∧ slashes.timeout = .ok 120000 ∧
      slashes.pageSize = 200 ∧ slashes.Agrees ∧ slashes.Serves := by
  have hvalid : slashes.validate = .ok () := by decide +kernel
  exact ⟨hvalid, by decide +kernel, by decide +kernel, by decide,
    valid_settings_serve.2.2.1 _ ((valid_settings_serve.1 _).1 hvalid)⟩

end RecordDesk
