import RecordDesk.Record.Kind
import RecordDesk.Settings.Duration
import RecordDesk.Settings.LogFilter
import RecordDesk.Settings.Toml
import RecordDesk.Web.Client

/-!
The settings of the program: what a file says, what it may not say, and what holds when it says nothing. What a file
says is checked once, when it is loaded; each setting is then read from it again where it is needed.
-/

namespace RecordDesk

/-! ## What a file says -/

structure ApiConfig where
  baseUrl : Option String
  apiKey : Option String
  timeout : Option String
  pageSize : Option Int64

structure UiConfig where
  startTab : Option String
  statusClearSecs : Option Int64

structure LogConfig where
  level : Option String
  dir : Option String

structure Config where
  version : Int64
  api : ApiConfig
  ui : UiConfig
  log : LogConfig

namespace Config

def currentVersion : Int64 := 1

def defaultBaseUrl : String := "http://localhost:8765/api"

def defaultTimeout : String := "10s"

def defaultPageSize : Int64 := 200

def defaultStatusClearSecs : Int64 := 4

def defaultLogLevel : String := "info"

end Config

/-! Parts that are missing altogether say the defaults; in a part that is there, nothing is said of a missing key. -/

def ApiConfig.default : ApiConfig :=
  ⟨some Config.defaultBaseUrl, none, some Config.defaultTimeout, some Config.defaultPageSize⟩

def UiConfig.default : UiConfig := ⟨some Kind.entities.name, some Config.defaultStatusClearSecs⟩

def LogConfig.default : LogConfig := ⟨some Config.defaultLogLevel, none⟩

def Config.default : Config := ⟨Config.currentVersion, .default, .default, .default⟩

/-! ## Errors -/

/-- Why a file gives no settings. -/
inductive SettingsError where
  | unreadable (cause : String)
  | notToml (cause : String)
  | unversioned
  | unsupported (version : Int64)
  | wrongType (cause : String)
  | badUrl (raw : String) (e : Web.UrlError)
  | notHttp (raw : String)
  | timeout (e : DurationError)
  | noTimeout (raw : String)
  | pageSize (n : Int64)
  | startTab (raw : String)
  | statusClearSecs (n : Int64)
  | logLevel (raw : String) (e : LogFilterError)
  deriving DecidableEq

/-- What is wrong with the file at a path. -/
def SettingsError.message (path : String) : SettingsError → String
  | .unreadable _ => s!"read config file {path}"
  | .notToml _ => s!"parse TOML config {path}"
  | .unversioned =>
    s!"config file {path} is not versioned. " ++
      "Add `version = 1` and put values under [api], [ui], and [log]"
  | .unsupported version =>
    s!"unsupported config version {version.toInt} in {path}; expected version = 1. " ++
      "Run `recdesk --print-example-config` for the current schema"
  | .wrongType _ => s!"decode config {path}"
  | .badUrl raw _ => s!"api.base_url in {path} is not a valid URL: {Text.quoted raw}"
  | .notHttp raw => s!"api.base_url in {path} must use http or https, got {Text.quoted raw}"
  | .timeout e => e.message
  | .noTimeout raw => s!"api.timeout in {path} must be positive, got {raw}"
  | .pageSize n => s!"api.page_size in {path} must be positive, got {n.toInt}"
  | .startTab raw =>
    s!"ui.start_tab in {path} must be one of " ++ Text.joinWith ", " (Kind.all.map Kind.name) ++
      s!", got {Text.quoted raw}"
  | .statusClearSecs n => s!"ui.status_clear_secs in {path} must be positive, got {n.toInt}"
  | .logLevel raw _ => s!"log.level in {path} is not a valid filter: {Text.quoted raw}"

/-- What lies behind the error. -/
def SettingsError.causes : SettingsError → List String
  | .unreadable cause => [cause]
  | .notToml cause => [cause]
  | .wrongType cause => [cause]
  | .badUrl _ e => [e.message]
  | .timeout e => e.cause?.toList
  | .logLevel _ e => e.messages
  | _ => []

namespace Config

/-! ## Decoding a document -/

/-- A part of a document; without it the default stands. -/
def part? {α : Type} (entries : List (String × Toml)) (key : String) (keys : List String) (default : α)
    (decode? : List (String × Toml) → Option α) : Option α :=
  match Toml.find? entries key with
  | none => some default
  | some t => (t.entriesFor keys).bind decode?

def api? (entries : List (String × Toml)) : Option ApiConfig := do
  return {
    baseUrl := ← Toml.text? entries "base_url"
    apiKey := ← Toml.text? entries "api_key"
    timeout := ← Toml.text? entries "timeout"
    pageSize := ← Toml.int? entries "page_size" }

def ui? (entries : List (String × Toml)) : Option UiConfig := do
  return {
    startTab := ← Toml.text? entries "start_tab"
    statusClearSecs := ← Toml.int? entries "status_clear_secs" }

def log? (entries : List (String × Toml)) : Option LogConfig := do
  return {
    level := ← Toml.text? entries "level"
    dir := ← Toml.text? entries "dir" }

/-- The version that a document claims. -/
def version? (entries : List (String × Toml)) : Option Int64 :=
  match Toml.find? entries "version" with
  | some (.int n) => some n
  | _ => none

/-- What a document says, when all its values have the right types. -/
def decode? (entries : List (String × Toml)) : Option Config := do
  return {
    version := ← version? entries
    api := ← part? entries "api" ["base_url", "api_key", "timeout", "page_size"] .default api?
    ui := ← part? entries "ui" ["start_tab", "status_clear_secs"] .default ui?
    log := ← part? entries "log" ["level", "dir"] .default log? }

/-! ## Checking the values -/

/-- The address of the service, which has to be one of the web. -/
def checkBaseUrl (raw : String) : Except (Halt SettingsError) Unit :=
  match Web.Url.read (Web.trimSlashes raw) with
  | .error e => .error (.failed (.badUrl raw e))
  | .ok url =>
    if url.scheme = "http".toList ∨ url.scheme = "https".toList then .ok () else .error (.failed (.notHttp raw))

def checkTimeout (raw : String) : Except (Halt SettingsError) Unit :=
  match Duration.read raw with
  | .error e => .error (e.map .timeout)
  | .ok n => if n = 0 then .error (.failed (.noTimeout raw)) else .ok ()

def checkPositive (error : Int64 → SettingsError) (n : Int64) : Except (Halt SettingsError) Unit :=
  if n.toInt ≤ 0 then .error (.failed (error n)) else .ok ()

def checkStartTab (raw : String) : Except (Halt SettingsError) Unit :=
  match Kind.ofName? raw with
  | some _ => .ok ()
  | none => .error (.failed (.startTab raw))

def checkLogLevel (raw : String) : Except (Halt SettingsError) Unit :=
  (LogFilter.check raw).mapError fun e => .failed (.logLevel raw e)

/-- Checks all that is said; the first value that is not right decides the error. -/
def validate (c : Config) : Except (Halt SettingsError) Unit := do
  c.api.baseUrl.forM checkBaseUrl
  c.api.timeout.forM checkTimeout
  c.api.pageSize.forM (checkPositive .pageSize)
  c.ui.startTab.forM checkStartTab
  c.ui.statusClearSecs.forM (checkPositive .statusClearSecs)
  c.log.level.forM checkLogLevel

/-! ## Loading a file -/

/-- What there is at a path. -/
inductive File where
  | missing
  | unreadable (cause : String)
  | text (s : String)

def ofEntries (toml : TomlReader) (entries : List (String × Toml)) : Except SettingsError Config :=
  match version? entries with
  | none => .error .unversioned
  | some n =>
    if n ≠ currentVersion then .error (.unsupported n)
    else (decode? entries).elim (.error (.wrongType (toml.complaint entries))) .ok

/-- The settings of a file; without a file, the defaults, which are not checked. -/
def load (toml : TomlReader) : File → Except (Halt SettingsError) Config
  | .missing => .ok .default
  | .unreadable cause => .error (.failed (.unreadable cause))
  | .text s =>
    match toml.read s with
    | .error cause => .error (.failed (.notToml cause))
    | .ok entries =>
      match ofEntries toml entries with
      | .error e => .error (.failed e)
      | .ok c => c.validate.map fun _ => c

/-! ## The settings one by one -/

variable (c : Config)

/-- The address, without slashes at its end. -/
def baseUrl : String := Web.trimSlashes (c.api.baseUrl.getD defaultBaseUrl)

/-- The key from the environment wins over the one from the file, even when it is blank. -/
def apiKey (fromEnvironment : Option String) : Option String := Web.usableKey (fromEnvironment.or c.api.apiKey)

/-- The milliseconds of the time limit, which is read once more. -/
def timeout : Except (Halt DurationError) Nat := Duration.read (c.api.timeout.getD defaultTimeout)

/-- At least one, and what does not fit 64 bits is cut down to what does. -/
def pageSize : Nat :=
  let size := max (c.api.pageSize.getD defaultPageSize).toInt 1
  if size < 2 ^ 64 then size.toNat else 2 ^ 64 - 1

def startTab : Kind := (c.ui.startTab.bind Kind.ofName?).getD .entities

/-- The seconds after which a message goes away, at least one. -/
def statusClearSecs : Nat := (max (c.ui.statusClearSecs.getD defaultStatusClearSecs).toInt 1).natAbs

def logLevel : String := c.log.level.getD defaultLogLevel

/-- The directory of the log: the one that is set, or one in the directory for data, if there is any. -/
def logDir? (dataRoot : Option String) : Option String :=
  c.log.dir.or (dataRoot.map fun root => root ++ "/recdesk")

end Config

/-- A file to start from, for a path. -/
def Config.template (path : String) : String :=
  "# recdesk config\n" ++
  s!"# Place this file at: {path}\n\n" ++
  "version = 1\n\n" ++
  "[api]\n" ++
  s!"base_url = {Text.quoted Config.defaultBaseUrl}\n" ++
  "# Optional. RECDESK_API_KEY overrides this value.\n" ++
  "# api_key = \"...\"\n" ++
  s!"timeout = {Text.quoted Config.defaultTimeout}\n" ++
  s!"page_size = {Config.defaultPageSize.toInt}\n\n" ++
  "[ui]\n" ++
  "# One of: entities, relationships, jobs, logs, protocols, history\n" ++
  "start_tab = \"entities\"\n" ++
  s!"status_clear_secs = {Config.defaultStatusClearSecs.toInt}\n\n" ++
  "[log]\n" ++
  "# tracing filter directives; RECDESK_LOG overrides this value.\n" ++
  s!"level = {Text.quoted Config.defaultLogLevel}\n" ++
  "# Optional. Default is the platform data dir (for example ~/.local/share/recdesk)\n" ++
  "# dir = \"/absolute/path/to/logs\"\n"

end RecordDesk
