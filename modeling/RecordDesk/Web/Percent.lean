import RecordDesk.Json.Reader

/-!
Percent-encoding: the bytes of a character that may not stand in some part of a URL are written as a
percent sign and two hexadecimal digits.
-/

namespace RecordDesk.Web

def hexDigit (n : Nat) : Char := if n < 10 then Char.ofNat (48 + n) else Char.ofNat (55 + n)

def encodeByte (b : UInt8) : List Char := ['%', hexDigit (b.toNat / 16), hexDigit (b.toNat % 16)]

/-- A character that `keep` admits stands for itself. -/
def encodeChar (keep : Char → Bool) (c : Char) : List Char :=
  if keep c then [c] else (String.utf8EncodeChar c).flatMap encodeByte

def percentEncoded (keep : Char → Bool) (cs : List Char) : List Char := cs.flatMap (encodeChar keep)

/-- The bytes that an encoded text stands for. A percent sign without two hexadecimal digits after it
is a percent sign. -/
def percentDecoded : List Char → List UInt8
  | [] => []
  | '%' :: a :: b :: cs =>
    match Json.hexValue? a, Json.hexValue? b with
    | some x, some y => UInt8.ofNat (16 * x + y) :: percentDecoded cs
    | _, _ => String.utf8EncodeChar '%' ++ percentDecoded (a :: b :: cs)
  | c :: cs => String.utf8EncodeChar c ++ percentDecoded cs

/-- Printable ASCII without the characters of a set. -/
def plainExcept (excluded : List Char) (c : Char) : Bool :=
  0x20 ≤ c.toNat && c.toNat < 0x7F && !excluded.contains c

namespace Keep

def opaquePath : Char → Bool := plainExcept []

def fragment : Char → Bool := plainExcept [' ', '"', '<', '>', '`']

def query : Char → Bool := plainExcept [' ', '"', '#', '<', '>']

/-- Schemes of the web also encode the apostrophe in queries. -/
def specialQuery : Char → Bool := plainExcept [' ', '"', '#', '<', '>', '\'']

def path : Char → Bool := plainExcept [' ', '"', '#', '<', '>', '?', '^', '`', '{', '}']

def user : Char → Bool :=
  plainExcept [' ', '"', '#', '<', '>', '?', '^', '`', '{', '}', '/', ':', ';', '=', '@', '[', '\\', ']', '|']

/-- What may stand inside one path segment that is put in as a whole. -/
def segment (special : Bool) (c : Char) : Bool :=
  path c && c != '/' && c != '%' && !(special && c == '\\')

/-- What a form field keeps; a blank becomes a plus sign. -/
def form (c : Char) : Bool := c.isAlphanum || c == '*' || c == '-' || c == '.' || c == '_'

end Keep

/-- One name or value of a form. -/
def formEncoded (cs : List Char) : List Char :=
  cs.flatMap fun c => if c = ' ' then ['+'] else encodeChar Keep.form c

/-- Names with their values, tied by ampersands. -/
def formText (pairs : List (List Char × List Char)) : List Char :=
  ['&'].intercalate (pairs.map fun p => formEncoded p.1 ++ '=' :: formEncoded p.2)

end RecordDesk.Web
