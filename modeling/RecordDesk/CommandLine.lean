import RecordDesk.Settings.Basic

/-!
The command line: its arguments, its help, and what the program prints before it takes over the
terminal, if it gets there.
-/

namespace RecordDesk

/-- What the arguments ask for. -/
structure Options where
  configPath : String
  printConfigPath : Bool := false
  printExample : Bool := false
  checkOnly : Bool := false
  showHelp : Bool := false
  deriving DecidableEq

inductive ArgumentError where
  | noPath
  | unknown (argument : String)
  deriving DecidableEq

def ArgumentError.message : ArgumentError → String
  | .noPath => "--config requires a file path"
  | .unknown a => s!"unknown argument {Text.quoted a}; run with --help to see supported options"

namespace Options

/-- Sets the option of a flag. -/
def setFlag? (o : Options) (argument : String) : Option Options :=
  if argument = "--print-config-path" then some { o with printConfigPath := true }
  else if argument = "--print-example-config" then some { o with printExample := true }
  else if argument = "--check" then some { o with checkOnly := true }
  else if argument = "--help" ∨ argument = "-h" then some { o with showHelp := true }
  else none

/-- Reads arguments one after the other. What follows `--config` is a path, whatever it looks like. -/
def readFrom (o : Options) : List String → Except ArgumentError Options
  | [] => .ok o
  | [a] =>
    if a = "--config" then .error .noPath
    else match o.setFlag? a with
      | some o => .ok o
      | none => .error (.unknown a)
  | a :: b :: rest =>
    if a = "--config" then readFrom { o with configPath := b } rest
    else match o.setFlag? a with
      | some o => readFrom o (b :: rest)
      | none => .error (.unknown a)

def read (defaultPath : String) (arguments : List String) : Except ArgumentError Options :=
  readFrom { configPath := defaultPath } arguments

end Options

namespace CommandLine

def configPathVariable : String := "RECDESK_CONFIG_PATH"

def apiKeyVariable : String := "RECDESK_API_KEY"

def logVariable : String := "RECDESK_LOG"

/-- A name filled up with blanks to 24 characters. -/
def column (s : String) : String := .ofList (s.toList ++ List.replicate (24 - s.toList.length) ' ')

def help : String :=
  "recdesk: browse and edit records served by the recdesk API\n" ++
  "\n" ++
  "usage: recdesk [--config <path>] [--check | --print-config-path | --print-example-config]\n" ++
  "\n" ++
  "  --config <path>          Read this config file instead of the default\n" ++
  "  --print-config-path      Print the config path that would be read\n" ++
  "  --print-example-config   Print a v1 template with [api], [ui] and [log]\n" ++
  "  --check                  Load config, then GET <base_url>/health and exit\n" ++
  "  -h, --help               Show this help\n" ++
  "\n" ++
  "environment:\n" ++
  s!"  {column configPathVariable} overrides the config path\n" ++
  s!"  {column apiKeyVariable} overrides [api].api_key\n" ++
  s!"  {column logVariable} log filter directives, e.g. recdesk_api=debug\n"

/-- Why the program ends with a failure. -/
inductive Failure where
  | noConfigRoot
  | arguments (e : ArgumentError)
  | settings (path : String) (e : SettingsError)
  | noDataRoot
  | logDir (dir cause : String)
  | logFilter (raw : String) (e : LogFilterError)
  | logLevel (raw : String) (e : LogFilterError)
  | timeout (e : DurationError)
  | client (path : String) (e : Web.ClientError)
  | health (base : String) (e : Web.ClientError)

/-- The message of a failure, and after it what lies behind it. -/
def Failure.messages : Failure → List String
  | .noConfigRoot => [s!"cannot resolve config directory; set {configPathVariable} to the config file"]
  | .arguments e => [e.message]
  | .settings path e =>
    s!"load config {path}; run `recdesk --print-example-config` to generate a v1 template" ::
      e.message path :: e.causes
  | .noDataRoot => ["cannot resolve data directory; set [log].dir to a writable directory"]
  | .logDir dir cause => [s!"create log directory {dir}", cause]
  | .logFilter raw e => s!"{logVariable}={Text.quoted raw} is not a valid log filter" :: e.messages
  | .logLevel raw e => s!"log.level {Text.quoted raw} is not a valid log filter" :: e.messages
  | .timeout e => e.message :: e.cause?.toList
  | .client path e =>
    s!"invalid [api] config in {path}; fix base_url/timeout/page_size values" :: e.message :: e.cause?.toList
  | .health base e => s!"health check against {base} failed" :: e.message :: e.cause?.toList

def Failure.text (f : Failure) : String := Text.joinWith ": " f.messages

/-- The variables that the program looks at, when they are set. -/
structure Environment where
  configPath : Option String := none
  apiKey : Option String := none
  log : Option String := none

/-- The files that the program finds, the directories for settings and for data, and why a directory cannot be made. -/
structure Disk where
  file : String → Config.File
  configRoot : Option String
  dataRoot : Option String
  refusal : String → Option String

/-- What the program does in the end: it prints something, or it opens the desk. -/
inductive Ending where
  | print (s : String)
  | desk (config : Config) (client : Web.Client)

/-- The path of the settings, unless the arguments say another one. -/
def configPath (env : Environment) (disk : Disk) : Except (Halt Failure) String :=
  match env.configPath, disk.configRoot with
  | some path, _ => .ok path
  | none, some root => .ok (root ++ "/recdesk/config.toml")
  | none, none => .error (.failed .noConfigRoot)

/-- The filter of the environment counts unless it is blank. -/
def checkLog (env : Environment) (config : Config) : Except Failure Unit :=
  match (env.log.map Text.trim).filter (!·.isEmpty) with
  | some raw => (LogFilter.check raw).mapError (.logFilter raw)
  | none => (LogFilter.check config.logLevel).mapError (.logLevel config.logLevel)

/-- Makes the directory of the log, and checks what goes into the log. -/
def openLog (env : Environment) (disk : Disk) (config : Config) : Except Failure Unit :=
  match config.logDir? disk.dataRoot with
  | none => .error .noDataRoot
  | some dir =>
    match disk.refusal dir with
    | some cause => .error (.logDir dir cause)
    | none => checkLog env config

/-- The client that settings ask for. -/
def connect (env : Environment) (path : String) (config : Config) : Except (Halt Failure) Web.Client := do
  let timeout ← config.timeout.mapError (Halt.map .timeout)
  (Web.Client.new config.baseUrl (config.apiKey env.apiKey) timeout config.pageSize).mapError fun e =>
    .failed (.client path e)

/-- The settings at a path, and the client for them. -/
def prepare (env : Environment) (disk : Disk) (toml : TomlReader) (path : String) :
    Except (Halt Failure) (Config × Web.Client) := do
  let config ← (Config.load toml (disk.file path)).mapError (Halt.map (.settings path))
  (openLog env disk config).mapError .failed
  let client ← connect env path config
  return (config, client)

variable {σ : Type}

/-- Asks the server whether it is well. -/
def checkHealth (client : Web.Client) (net : Web.Network σ) (s : σ) : Except (Halt Failure) Ending × σ :=
  match client.run net client.ping s with
  | (.ok (), s) => (.ok (.print s!"ok: {client.baseUrl} is reachable\n"), s)
  | (.error e, s) => (.error (.failed (.health client.baseUrl e)), s)

/-- Does what the options ask for. Help comes before all else. -/
def perform (env : Environment) (disk : Disk) (toml : TomlReader) (net : Web.Network σ) (o : Options) (s : σ) :
    Except (Halt Failure) Ending × σ :=
  if o.showHelp then (.ok (.print help), s)
  else if o.printConfigPath then (.ok (.print (o.configPath ++ "\n")), s)
  else if o.printExample then (.ok (.print (Config.template o.configPath)), s)
  else match prepare env disk toml o.configPath with
    | .error e => (.error e, s)
    | .ok (config, client) => if o.checkOnly then checkHealth client net s else (.ok (.desk config client), s)

/-- Runs the program over the files, the reader of settings and the network that there are. -/
def run (env : Environment) (disk : Disk) (toml : TomlReader) (net : Web.Network σ) (arguments : List String) (s : σ) :
    Except (Halt Failure) Ending × σ :=
  match configPath env disk with
  | .error e => (.error e, s)
  | .ok path =>
    match Options.read path arguments with
    | .error e => (.error (.failed (.arguments e)), s)
    | .ok o => perform env disk toml net o s

end CommandLine

end RecordDesk
