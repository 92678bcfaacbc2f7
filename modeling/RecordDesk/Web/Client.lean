import RecordDesk.Command
import RecordDesk.Web.Document
import RecordDesk.Web.Url

/-!
The client of the record service. A call has its answer at once, or it sends one request and reads the
body of the reply; whatever carries requests over is a `Network`.
-/

namespace RecordDesk.Web

inductive Method where
  | get
  | post
  | patch
  deriving DecidableEq

def Method.name : Method → String
  | .get => "GET"
  | .post => "POST"
  | .patch => "PATCH"

/-- `bearer` is the key that the request is authorized with. -/
structure HttpRequest where
  method : Method
  url : Url
  bearer : Option String
  body : Option Json

inductive Reply where
  | answered (status : Nat) (body : String)
  | timedOut
  | unreachable

/-- Carries a request over, changing a state of its own. -/
abbrev Network (σ : Type) := HttpRequest → σ → Reply × σ

/-- Why a call or a client fails. -/
inductive ClientError where
  | emptyBase
  | badBase (base : String) (e : UrlError)
  | noPageSize
  | noPath (base : String)
  | badQuery (kind : Kind) (e : UrlError)
  | unreachable (base : String)
  | timedOut (base : String) (milliseconds : Nat)
  | unauthorized (status : Nat)
  | refused (status : Nat) (message : String)
  | failed (status : Nat)
  | undecodable (what : String)
  | metadata (kind : Kind) (id : String) (e : Metadata.WireError)
  | payload (e : PayloadFault)
  deriving Inhabited

/-- What went wrong. Why a text is no URL is left to `cause?`. -/
def ClientError.message : ClientError → String
  | .emptyBase => "api.base_url must not be empty"
  | .badBase base _ => s!"api.base_url {Text.quoted base} is not a valid URL"
  | .noPageSize => "api.page_size must be positive"
  | .noPath base => s!"api.base_url {Text.quoted base} cannot carry a path"
  | .badQuery kind _ => s!"build {kind.name} query URL"
  | .unreachable base => s!"cannot reach {base} -- check [api].base_url and that the server is running"
  | .timedOut base n => s!"request to {base} timed out after {n}ms -- raise [api].timeout or check the server"
  | .unauthorized status => s!"unauthorized ({status}) -- set [api].api_key or RECDESK_API_KEY"
  | .refused status message => s!"server error ({status}): {message}"
  | .failed status => s!"server returned {status}"
  | .undecodable what => s!"decode {what}"
  | .metadata kind id e => s!"decode metadata of {kind.noun} {id}: {e.message}"
  | .payload e => e.message

def ClientError.cause? : ClientError → Option String
  | .badBase _ e => some e.message
  | .badQuery _ e => some e.message
  | _ => none

/-- `base` is the URL that `baseUrl` reads as. -/
structure Client where
  baseUrl : String
  base : Url
  apiKey : Option String
  timeoutMs : Nat
  pageSize : Nat
  read_baseUrl : Url.read baseUrl = .ok base
  pageSize_pos : 0 < pageSize

/-- An answer that is there, or a request and what its successful reply means. -/
inductive Exchange (α : Type) where
  | done (answer : Except ClientError α)
  | send (request : HttpRequest) (read : String → Except ClientError α)

/-- A text without the slashes at its end. -/
def trimSlashes (s : String) : String := .ofList (Text.dropEndWhile (· == '/') s.toList)

/-- A key that is there and not blank, cut of the white space around it. -/
def usableKey (key : Option String) : Option String :=
  (key.map Text.trim).filter (!·.isEmpty)

/-- What a reply says that is no success. Some servers answer with a short plain text. -/
def errorOf (status : Nat) (body : String) : ClientError :=
  if status = 401 ∨ status = 403 then .unauthorized status
  else match ((Json.read? body).bind note?).filter (!·.isEmpty) with
    | some message => .refused status message
    | none =>
      if !body.isEmpty && body.utf8ByteSize < 100 && !body.toList.contains '{' then
        .refused status (Text.trim body)
      else .failed status

namespace Client

def new (baseUrl : String) (apiKey : Option String) (timeoutMs pageSize : Nat) : Except ClientError Client :=
  let baseUrl := trimSlashes baseUrl
  if baseUrl.isEmpty then .error .emptyBase
  else match h : Url.read baseUrl with
    | .error e => .error (.badBase baseUrl e)
    | .ok base =>
      if hp : 0 < pageSize then .ok ⟨baseUrl, base, usableKey apiKey, timeoutMs, pageSize, h, hp⟩
      else .error .noPageSize

/-! ## URLs -/

/-- The text of the URL of a path. -/
def urlText (c : Client) (path : String) : String :=
  c.baseUrl ++ "/" ++ .ofList (path.toList.dropWhile (· == '/'))

def url? (c : Client) (path : String) : Option Url := (Url.read (c.urlText path)).toOption

/-- The URL with segments put in one by one, so that an id stays one segment whatever it holds. -/
def segmentUrl (c : Client) (segments : List String) : Except ClientError Url :=
  match c.base.extend? segments with
  | some u => .ok u
  | none => .error (.noPath c.baseUrl)

/-! ## Calls -/

/-- A request that no server can be asked cannot reach one. -/
def send {α : Type} (c : Client) (method : Method) (url : Option Url) (body : Option Json)
    (read : String → Except ClientError α) : Exchange α :=
  match url.filter Url.isHttp with
  | some url => .send ⟨method, url, c.apiKey, body⟩ read
  | none => .done (.error (.unreachable c.baseUrl))

/-- Reads a body as JSON and then as a document. -/
def decode {α : Type} (what : String) (document : Json → Option α) (body : String) : Except ClientError α :=
  match (Json.read? body).bind document with
  | some x => .ok x
  | none => .error (.undecodable what)

def recordOf (kind : Kind) (d : RecordDocument) : Except ClientError Record :=
  (d.toRecord kind).mapError (.metadata kind d.id)

def readRecord (kind : Kind) (what body : String) : Except ClientError Record := do
  recordOf kind (← decode what RecordDocument.ofJson? body)

def readRecords (kind : Kind) (body : String) : Except ClientError (List Record) := do
  let documents ← decode (kind.name ++ " list")
    (fun v => (listItems? v).bind fun items => items.mapM RecordDocument.ofJson?) body
  documents.mapM (recordOf kind)

/-- The names of a list in ascending order, each once. -/
def readNames (what body : String) : Except ClientError (List String) := do
  let names ← decode what (fun v => (listItems? v).bind fun items => items.mapM text?) body
  return (NameSet.ofList names).toList

def ping (c : Client) : Exchange Unit := c.send .get (c.url? "health") none fun _ => .ok ()

/-- The pairs that narrow down a list. -/
def queryPairs (c : Client) (filter : QueryFilter) : List (String × String) :=
  let search := Text.trim filter.search
  (if search.isEmpty then [] else [("q", search)]) ++
    (if filter.includeArchived then [("include_archived", "true")] else []) ++
    [("limit", .ofList (Numeral.ofNat c.pageSize))]

def query (c : Client) (kind : Kind) (filter : QueryFilter) : Exchange (List Record) :=
  match Url.read (c.urlText kind.name) with
  | .error e => .done (.error (.badQuery kind e))
  | .ok url => c.send .get (some (url.addPairs (c.queryPairs filter))) none (readRecords kind)

def get (c : Client) (kind : Kind) (id : String) : Exchange Record :=
  match c.segmentUrl [kind.name, id] with
  | .error e => .done (.error e)
  | .ok url => c.send .get (some url) none (readRecord kind kind.noun)

def create (c : Client) (p : Payload) : Exchange Record :=
  match p.fault? with
  | some e => .done (.error (.payload e))
  | none => c.send .post (c.url? p.kind.name) (some p.body) (readRecord p.kind ("created " ++ p.kind.noun))

/-- The body of an update, when it may be sent. -/
def updateBody : UpdateBody → Except ClientError Json
  | .full p =>
    match p.fault? with
    | some e => .error (.payload e)
    | none => .ok p.body
  | .status s => .ok (.object [("status", .text s.name)])

def update (c : Client) (kind : Kind) (id : String) (body : UpdateBody) : Exchange Record :=
  match updateBody body with
  | .error e => .done (.error e)
  | .ok json =>
    match c.segmentUrl [kind.name, id] with
    | .error e => .done (.error e)
    | .ok url => c.send .patch (some url) (some json) (readRecord kind ("updated " ++ kind.noun))

/-- The body of a bulk update. -/
def bulkBody (ids : List String) (edit : BulkEdit) : Json :=
  .object [("ids", .array (ids.map .text)), ("action", .text edit.action.name),
    ("field", .text edit.field.name), ("values", .array (edit.values.map .text))]

/-- No records need no request. -/
def bulkUpdate (c : Client) (kind : Kind) (ids : List String) (edit : BulkEdit) : Exchange Nat :=
  if ids.isEmpty then .done (.ok 0)
  else c.send .post (c.url? (kind.name ++ "/bulk")) (some (bulkBody ids edit))
    (decode "bulk update result" updatedCount?)

def revert (c : Client) (id : String) : Exchange Unit :=
  match c.segmentUrl ["history", id, "revert"] with
  | .error e => .done (.error e)
  | .ok url => c.send .post (some url) none fun _ => .ok ()

def listScopes (c : Client) : Exchange (List String) := c.send .get (c.url? "scopes") none (readNames "scopes")

def listActors (c : Client) : Exchange (List String) := c.send .get (c.url? "actors") none (readNames "actors")

/-! ## Running -/

variable {σ : Type}

/-- What a reply means for a call. -/
def readReply {α : Type} (c : Client) (read : String → Except ClientError α) : Reply → Except ClientError α
  | .unreachable => .error (.unreachable c.baseUrl)
  | .timedOut => .error (.timedOut c.baseUrl c.timeoutMs)
  | .answered status body => if 200 ≤ status ∧ status < 300 then read body else .error (errorOf status body)

def run {α : Type} (c : Client) (net : Network σ) (x : Exchange α) (s : σ) : Except ClientError α × σ :=
  match x with
  | .done a => (a, s)
  | .send r read =>
    let (reply, s) := net r s
    (c.readReply read reply, s)

/-- The same with errors as texts. -/
def ask {α : Type} (c : Client) (net : Network σ) (x : Exchange α) (s : σ) : Except String α × σ :=
  let (a, s) := c.run net x s
  (a.mapError ClientError.message, s)

/-- The service behind the client. -/
def service (c : Client) (net : Network σ) : Service σ where
  query kind filter := c.ask net (c.query kind filter)
  get kind id := c.ask net (c.get kind id)
  create p := c.ask net (c.create p)
  update kind id body := c.ask net (c.update kind id body)
  bulkUpdate kind ids edit := c.ask net (c.bulkUpdate kind ids edit)
  revert id := c.ask net (c.revert id)
  listScopes := c.ask net c.listScopes
  listActors := c.ask net c.listActors

end Client

/-! ## Errors that say what was asked -/

/-- The words for what a request does, as a user would say it. -/
def activity : Request → String
  | .query kind _ => s!"query {kind.name}"
  | .get kind id => s!"load {kind.noun} {id}"
  | .create p => s!"create {p.kind.noun}"
  | .update kind id _ => s!"update {kind.noun} {id}"
  | .bulkUpdate kind ids edit => s!"bulk update {edit.field.name} on {ids.length} {kind.name}"
  | .revert id => s!"revert history {id}"
  | .listScopes => "list scopes"
  | .listActors => "list actors"

/-- Puts the words for a request in front of the message of its failure. -/
def explained {σ α : Type} (r : Request) (call : σ → Except String α × σ) (s : σ) : Except String α × σ :=
  let (a, s) := call s
  (a.mapError fun message => activity r ++ ": " ++ message, s)

/-- A service whose failures say what was asked for. -/
def explain {σ : Type} (g : Service σ) : Service σ where
  query kind filter := explained (.query kind filter) (g.query kind filter)
  get kind id := explained (.get kind id) (g.get kind id)
  create p := explained (.create p) (g.create p)
  update kind id body := explained (.update kind id body) (g.update kind id body)
  bulkUpdate kind ids edit := explained (.bulkUpdate kind ids edit) (g.bulkUpdate kind ids edit)
  revert id := explained (.revert id) (g.revert id)
  listScopes := explained .listScopes g.listScopes
  listActors := explained .listActors g.listActors

end RecordDesk.Web
