import RecordDesk.Text.Blank
import RecordDesk.Web.Host

/-!
URLs as browsers read them, always from a full text and never relative to another URL. A URL carries
a path of segments, or, after a scheme without a slash, one opaque text.
-/

namespace RecordDesk.Web

inductive UrlPath where
  | segments (parts : List (List Char))
  | text (cs : List Char)
  deriving DecidableEq

/-- `user` holds the name and the password before the host as they are written in the URL. `portNumber` is
left out when it is the scheme's own. -/
structure Url where
  scheme : List Char
  user : List Char
  host : Option Host
  portNumber : Option Nat
  path : UrlPath
  query : Option (List Char)
  fragment : Option (List Char)
  deriving DecidableEq

namespace Url

/-! ## Schemes -/

/-- Schemes of the web always have a host, and for them a backslash is a slash. -/
def isSpecial (scheme : List Char) : Bool :=
  ["http", "https", "ws", "wss", "ftp", "file"].any fun s => s.toList == scheme

def defaultPort? (scheme : List Char) : Option Nat :=
  if scheme = "http".toList ∨ scheme = "ws".toList then some 80
  else if scheme = "https".toList ∨ scheme = "wss".toList then some 443
  else if scheme = "ftp".toList then some 21
  else none

def isSchemeChar (c : Char) : Bool := c.isAlphanum || c == '+' || c == '-' || c == '.'

/-- The scheme in lower case, and the text after its colon. -/
def scheme? (cs : List Char) : Option (List Char × List Char) :=
  match cs.takeWhile isSchemeChar, cs.dropWhile isSchemeChar with
  | c :: name, ':' :: rest => if c.isAlpha then some ((c :: name).map Char.toLower, rest) else none
  | _, _ => none

/-! ## Paths -/

def isSlash (special : Bool) (c : Char) : Bool := c == '/' || (special && c == '\\')

/-- A dot, also when it is written in its encoded form. -/
def isSingleDot (cs : List Char) : Bool := cs == ['.'] || cs.map Char.toLower == ['%', '2', 'e']

def isDoubleDot (cs : List Char) : Bool :=
  let cs := cs.map Char.toLower
  cs == ['.', '.'] || cs == ['.', '%', '2', 'e'] || cs == ['%', '2', 'e', '.'] ||
    cs == ['%', '2', 'e', '%', '2', 'e']

/-- Two characters that name a drive. -/
def isDrive : List Char → Bool
  | [c, d] => c.isAlpha && (d == ':' || d == '|')
  | _ => false

/-- A segment that names a drive, also with more behind a backslash, where that is no slash. -/
def beginsWithDrive (segment : List Char) : Bool :=
  isDrive (segment.take 2) && (segment.drop 2).head?.all (· == '\\')

/-- One segment up. With any scheme there is no way up from a drive. -/
def up (parts : List (List Char)) : List (List Char) :=
  if parts.getLast?.any beginsWithDrive then parts else parts.dropLast

/-- Puts an encoded piece at the end of a path. One dot stays, two dots go up, and either leaves an
empty segment behind when it comes last. -/
def addPiece (last : Bool) (parts : List (List Char)) (piece : List Char) : List (List Char) :=
  if isDoubleDot piece then up parts ++ (if last then [[]] else [])
  else if isSingleDot piece then parts ++ (if last then [[]] else [])
  else parts ++ [piece]

/-- Puts in pieces one after the other. -/
def addPieces (parts : List (List Char)) : List (List Char) → List (List Char)
  | [] => parts
  | [piece] => addPiece true parts piece
  | piece :: rest => addPieces (addPiece false parts piece) rest

/-- The segments of a text after its first slash. -/
def readSegments (special : Bool) (cs : List Char) : List (List Char) :=
  addPieces [] ((Text.pieces (isSlash special) cs).map (percentEncoded Keep.path))

/-- The path after a host. A web URL without one has the path of a single slash. -/
def readPath (special : Bool) : List Char → UrlPath
  | [] => .segments (if special then [[]] else [])
  | c :: cs => .segments (readSegments special (if isSlash special c then cs else c :: cs))

/-! ## Hosts -/

/-- Splits at the last at sign: the part before it, when there is one, and the part after it. -/
def splitUser (cs : List Char) : Option (List Char) × List Char :=
  let ps := Text.pieces (· == '@') cs
  match ps.getLast? with
  | none => (none, cs)
  | some last => if ps.length ≤ 1 then (none, cs) else (some (['@'].intercalate ps.dropLast), last)

/-- The name, and the password after a colon unless it is empty. -/
def encodedUser (cs : List Char) : List Char :=
  match Text.cutAt ':' cs with
  | none => percentEncoded Keep.user cs
  | some (name, password) =>
    percentEncoded Keep.user name ++ (if password.isEmpty then [] else ':' :: percentEncoded Keep.user password)

/-- Splits at the first colon outside brackets. -/
def splitPort (inBrackets : Bool) : List Char → List Char × Option (List Char)
  | [] => ([], none)
  | c :: cs =>
    if c = ':' ∧ !inBrackets then ([], some cs)
    else
      let (host, portNumber) := splitPort (c == '[' || (inBrackets && c != ']')) cs
      (c :: host, portNumber)

/-- A number up to 65535 after a colon; none where nothing follows the colon, and none where it is the
scheme's own. -/
def portNumber? (scheme cs : List Char) : Except UrlError (Option Nat) :=
  if cs.isEmpty then .ok none
  else if Numeral.isDigits cs && Numeral.value cs < 65536 then
    .ok (if defaultPort? scheme = some (Numeral.value cs) then none else some (Numeral.value cs))
  else .error .portNumber

/-- What stands between two slashes and the path. -/
structure Authority where
  user : List Char
  host : Host
  portNumber : Option Nat

/-- Reads what stands after two slashes, up to the path. A backslash after a port number begins the path
also where it is no slash; `more` says that a query or a fragment follows the text. The host may only be
empty outside the web, without a user and a port number, and after an at sign only at the very end. -/
def readAuthority (scheme cs : List Char) (more : Bool) : Except UrlError (Authority × List Char) := do
  let special := isSpecial scheme
  let path := cs.dropWhile (!isSlash special ·)
  let (user, rest) := splitUser (cs.takeWhile (!isSlash special ·))
  let (hostText, portText) := splitPort false rest
  let encoded := encodedUser (user.getD [])
  if user = some [] ∧ rest.isEmpty ∧ (more ∨ !path.isEmpty) then throw .emptyHost
  if hostText.isEmpty && (special || portText.isSome || !encoded.isEmpty) then throw .emptyHost
  let host ← Host.read special hostText
  let digits := portText.getD []
  let portNumber ← portNumber? scheme (digits.takeWhile (· != '\\'))
  return (⟨encoded, host, portNumber⟩, digits.dropWhile (· != '\\') ++ path)

/-- The host in a file URL. The local machine needs none. -/
def readFileHost (cs : List Char) : Except UrlError (Option Host) :=
  if cs.isEmpty then .ok none
  else do
    let host ← Host.readSpecial cs
    return if host = .domain "localhost".toList then none else some host

/-! ## Whole URLs -/

/-- Up to the first of a character, and what follows it. -/
def splitOff (c : Char) (cs : List Char) : List Char × Option (List Char) :=
  match Text.cutAt c cs with
  | none => (cs, none)
  | some (a, b) => (a, some b)

/-- Everything between the scheme and the query. -/
structure Hierarchy where
  authority : Option Authority
  path : UrlPath

/-- The segments of a file URL as they are kept: a drive that comes first is written with a colon, and
empty segments that come first are left out. -/
def fileParts (parts : List (List Char)) : List (List Char) :=
  if parts.head?.any isDrive then parts.modifyHead (·.set 1 ':')
  else
    match parts.dropWhile List.isEmpty with
    | [] => [[]]
    | parts => parts

/-- A file URL with a host and a path. A path that begins with a drive leaves no host. -/
def fileHierarchy (host : Option Host) (parts : List (List Char)) : Hierarchy :=
  ⟨if parts.head?.any isDrive then none else host.map fun h => ⟨[], h, none⟩, .segments (fileParts parts)⟩

/-- A file URL. Without two slashes all of it is path. A drive is no host and begins the path. -/
def readFile (cs : List Char) : Except UrlError Hierarchy :=
  match cs with
  | a :: b :: rest =>
    if isSlash true a && isSlash true b then
      let hostText := rest.takeWhile (!isSlash true ·)
      if isDrive hostText then .ok (fileHierarchy none (readSegments true rest))
      else do
        let host ← readFileHost hostText
        return fileHierarchy host (readSegments true ((rest.dropWhile (!isSlash true ·)).drop 1))
    else .ok (fileHierarchy none (readSegments true (cs.dropWhile (isSlash true))))
  | _ => .ok (fileHierarchy none (readSegments true (cs.dropWhile (isSlash true))))

def readHierarchy (scheme cs : List Char) (more : Bool) : Except UrlError Hierarchy :=
  if scheme = "file".toList then readFile cs
  else if isSpecial scheme then do
    let (authority, path) ← readAuthority scheme (cs.dropWhile (isSlash true)) more
    return ⟨some authority, readPath true path⟩
  else
    match cs with
    | '/' :: '/' :: rest => do
      let (authority, path) ← readAuthority scheme rest more
      return ⟨some authority, readPath false path⟩
    | '/' :: rest => .ok ⟨none, .segments (readSegments false rest)⟩
    | _ => .ok ⟨none, .text (percentEncoded Keep.opaquePath cs)⟩

/-- Controls and blanks at the ends do not count, and tabs and line breaks nowhere. -/
def stripped (cs : List Char) : List Char :=
  (Text.dropEndWhile (·.toNat ≤ 0x20) (cs.dropWhile (·.toNat ≤ 0x20))).filter fun c =>
    c != '\t' && c != '\n' && c != '\r'

def readList (cs : List Char) : Except UrlError Url :=
  match scheme? (stripped cs) with
  | none => .error .noScheme
  | some (scheme, rest) => do
    let (rest, fragment) := splitOff '#' rest
    let (rest, query) := splitOff '?' rest
    let h ← readHierarchy scheme rest (query.isSome || fragment.isSome)
    let keepQuery := if isSpecial scheme then Keep.specialQuery else Keep.query
    return {
      scheme
      user := (h.authority.map (·.user)).getD []
      host := h.authority.map (·.host)
      portNumber := h.authority.bind (·.portNumber)
      path := h.path
      query := query.map (percentEncoded keepQuery)
      fragment := fragment.map (percentEncoded Keep.fragment) }

def read (s : String) : Except UrlError Url := readList s.toList

/-! ## Building on a URL -/

/-- Puts one more segment at the end. A segment of one or two dots is passed over. A drive is one segment
among others here: the first segment that is put in is the name of a kind. -/
def pushSegment (special : Bool) (parts : List (List Char)) (segment : List Char) : List (List Char) :=
  if segment = ['.'] ∨ segment = ['.', '.'] then parts
  else
    let piece := segment.filter fun c => c != '\t' && c != '\n' && c != '\r'
    addPiece true (if parts = [[]] then [] else parts) (percentEncoded (Keep.segment special) piece)

/-- A path without the empty segment that a slash at its end leaves. -/
def withoutLastSlash (parts : List (List Char)) : List (List Char) :=
  if 1 < parts.length ∧ parts.getLast? = some [] then parts.dropLast else parts

/-- The URL with segments at the end of its path; none when it has no segments. -/
def extend? (u : Url) (segments : List String) : Option Url :=
  match u.path with
  | .text _ => none
  | .segments parts =>
    some { u with
      path := .segments
        ((segments.map String.toList).foldl (pushSegment (isSpecial u.scheme)) (withoutLastSlash parts)) }

/-- The URL with names and values at the end of its query. -/
def addPairs (u : Url) (pairs : List (String × String)) : Url :=
  let more := formText (pairs.map fun p => (p.1.toList, p.2.toList))
  { u with
    query := some (match u.query with
      | none => more
      | some [] => more
      | some q => q ++ '&' :: more) }

def pathText : UrlPath → List Char
  | .segments parts => parts.flatMap ('/' :: ·)
  | .text cs => cs

/-- The path and the query, as a request line has them. -/
def target (u : Url) : String :=
  .ofList (pathText u.path ++ match u.query with
    | none => []
    | some q => '?' :: q)

/-- A server for web pages can be asked for the URL. -/
def isHttp (u : Url) : Bool :=
  (u.scheme == "http".toList || u.scheme == "https".toList) && u.host.isSome

end Url

end RecordDesk.Web
