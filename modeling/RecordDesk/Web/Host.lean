import RecordDesk.Json.Reader
import RecordDesk.Number.Numeral
import RecordDesk.Web.Domain
import RecordDesk.Web.Percent

/-!
The host of a URL: a domain, an IPv4 address or an IPv6 address.
-/

namespace RecordDesk.Web

inductive Host where
  | domain (name : List Char)
  | ipv4 (address : Nat)
  | ipv6 (pieces : List Nat)
  deriving DecidableEq

/-- Why a text is no URL. -/
inductive UrlError where
  | noScheme
  | emptyHost
  | internationalName
  | portNumber
  | ipv4Address
  | ipv6Address
  | domainCharacter
  deriving DecidableEq

def UrlError.message : UrlError → String
  | .noScheme => "relative URL without a base"
  | .emptyHost => "empty host"
  | .internationalName => "invalid international domain name"
  | .portNumber => "invalid port number"
  | .ipv4Address => "invalid IPv4 address"
  | .ipv6Address => "invalid IPv6 address"
  | .domainCharacter => "invalid domain character"

namespace Host

/-! ## Addresses of four numbers -/

/-- What part of an IPv4 address a text is: not a number at all, or a number, which `none` leaves out
when it needs more than 32 bits. -/
def ipv4Number? (cs : List Char) : Option (Option Nat) :=
  let (base, digits) := match cs with
    | '0' :: 'x' :: rest => (16, rest)
    | '0' :: 'X' :: rest => (16, rest)
    | '0' :: c :: rest => (8, c :: rest)
    | rest => (10, rest)
  if cs.isEmpty then none
  else if digits.all fun c => (Json.hexValue? c).any (· < base) then
    let n := digits.foldl (fun v c => base * v + (Json.hexValue? c).getD 0) 0
    some (if n < 2 ^ 32 then some n else none)
  else none

/-- The parts between the dots, without an empty one at the end. -/
def dottedParts (cs : List Char) : List (List Char) :=
  let ps := Text.pieces (· == '.') cs
  if 1 < ps.length && ps.getLast? == some [] then ps.dropLast else ps

/-- The last part reads as a number, so that the whole host has to be an IPv4 address. -/
def endsInNumber (cs : List Char) : Bool :=
  match (dottedParts cs).getLast? with
  | some p => Numeral.isDigits p || (ipv4Number? p).isSome
  | none => false

/-- At most four numbers, of which the last one fills up the address. -/
def ipv4? (cs : List Char) : Option Nat := do
  let parts := dottedParts cs
  guard (parts.length ≤ 4)
  let numbers ← parts.mapM fun p => (ipv4Number? p).join
  let last ← numbers.getLast?
  let leading := numbers.dropLast
  guard (last < 256 ^ (4 - leading.length) && leading.all (· < 256))
  return (leading.mapIdx fun i n => n * 256 ^ (3 - i)).foldl (· + ·) last

/-! ## Addresses of eight pieces -/

/-- A piece of an IPv6 address: one to four hexadecimal digits. -/
def ipv6Piece? (cs : List Char) : Option Nat :=
  if 1 ≤ cs.length ∧ cs.length ≤ 4 then
    cs.foldlM (fun v c => (Json.hexValue? c).map (16 * v + ·)) 0
  else none

/-- One of the four numbers at the end of an IPv6 address, without leading zeros. -/
def ipv6Byte? (cs : List Char) : Option Nat :=
  if Numeral.isDigits cs && cs.length ≤ 3 && (cs.length == 1 || cs.head? != some '0') && Numeral.value cs < 256 then
    some (Numeral.value cs)
  else none

/-- Four decimal numbers as two pieces. -/
def ipv6Tail? (cs : List Char) : Option (List Nat) := do
  match ← (Text.pieces (· == '.') cs).mapM ipv6Byte? with
  | [a, b, c, d] => return [256 * a + b, 256 * c + d]
  | _ => none

/-- Pieces between single colons. The last one may be an IPv4 address where `tail` allows it. -/
def ipv6Pieces? (tail : Bool) (cs : List Char) : Option (List Nat) :=
  if cs.isEmpty then some []
  else do
    let parts := Text.pieces (· == ':') cs
    let last ← parts.getLast?
    let front ← parts.dropLast.mapM ipv6Piece?
    if tail && last.contains '.' then return front ++ (← ipv6Tail? last)
    else return front ++ [← ipv6Piece? last]

/-- What stands before and after the first two colons in a row. -/
def cutAtGap : List Char → Option (List Char × List Char)
  | ':' :: ':' :: cs => some ([], cs)
  | [] => none
  | c :: cs => (cutAtGap cs).map fun (a, b) => (c :: a, b)

/-- Eight pieces, or fewer around one gap that stands for zeros. -/
def ipv6? (cs : List Char) : Option (List Nat) :=
  match cutAtGap cs with
  | none => (ipv6Pieces? true cs).filter (·.length == 8)
  | some (before, after) => do
    let a ← ipv6Pieces? false before
    let b ← ipv6Pieces? true after
    guard (a.length + b.length ≤ 7)
    return a ++ List.replicate (8 - a.length - b.length) 0 ++ b

/-! ## Domains -/

def forbiddenInHost : List Char :=
  ['\x00', '\t', '\n', '\r', ' ', '#', '/', ':', '<', '>', '?', '@', '[', '\\', ']', '^', '|']

def forbiddenInDomain (c : Char) : Bool :=
  c.toNat < 0x20 || c.toNat == 0x7F || c == '%' || forbiddenInHost.contains c

/-- A domain in the form that names have. -/
def domain? (cs : List Char) : Except UrlError (List Char) :=
  match String.fromUTF8? ⟨(percentDecoded cs).toArray⟩ with
  | none => .error .internationalName
  | some s =>
    let name := Domain.normalized s.toList
    if name.any forbiddenInDomain || !Domain.isName name then .error .internationalName
    else if name.isEmpty then .error .emptyHost
    else .ok name

/-- An address between brackets. -/
def bracketed? (cs : List Char) : Except UrlError Host :=
  if cs.getLast? = some ']' then
    match ipv6? cs.dropLast with
    | some ps => .ok (.ipv6 ps)
    | none => .error .ipv6Address
  else .error .ipv6Address

/-- The host in a URL of a web scheme. -/
def readSpecial : List Char → Except UrlError Host
  | '[' :: cs => bracketed? cs
  | cs => do
    let name ← domain? cs
    if endsInNumber name then
      match ipv4? name with
      | some n => .ok (.ipv4 n)
      | none => .error .ipv4Address
    else .ok (.domain name)

/-- The host in any other URL is hardly looked into. -/
def readPlain : List Char → Except UrlError Host
  | '[' :: cs => bracketed? cs
  | cs =>
    if cs.any forbiddenInHost.contains then .error .domainCharacter
    else .ok (.domain (percentEncoded Keep.opaquePath cs))

def read (special : Bool) (cs : List Char) : Except UrlError Host :=
  if special then readSpecial cs else readPlain cs

end Host

end RecordDesk.Web
