import RecordDesk.Json.Reader
import RecordDesk.Number.Binary64
import RecordDesk.Number.Numeral
import RecordDesk.Text.Split

/-!
TOML documents, and a reader for the part of TOML that settings are usually written in: keys with texts, numbers and
truth values, on their own or in tables, a line each, and comments. A program may be run with any other reader.
-/

namespace RecordDesk

/-- What a key of a document stands for. A real number is only known to be one, and a date keeps its text. -/
inductive Toml where
  | text (s : String)
  | int (n : Int64)
  | real
  | bool (b : Bool)
  | date (s : String)
  | array (items : List Toml)
  | table (entries : List (String × Toml))

/-- Reads the entries of a document, or says what is wrong with its text; `complaint` is what it says about entries that
do not have the types that are asked for. -/
structure TomlReader where
  read : String → Except String (List (String × Toml))
  complaint : List (String × Toml) → String

namespace Toml

/-! ## Texts -/

def isBlank (c : Char) : Bool := c == ' ' || c == '\t'

/-- No control character but the tab may stand in a text or in a comment. -/
def isAllowed (c : Char) : Bool := c == '\t' || (0x20 ≤ c.toNat && c.toNat != 0x7F)

def escaped? (c : Char) : Option Char :=
  match c with
  | 'b' => some '\x08'
  | 't' => some '\t'
  | 'n' => some '\n'
  | 'f' => some '\x0c'
  | 'r' => some '\r'
  | 'e' => some '\x1b'
  | '"' => some '"'
  | '\\' => some '\\'
  | _ => none

/-- The character of a code point that stands for one. -/
def scalar? (n : Nat) : Option Char := if n.isValidChar then some (Char.ofNat n) else none

/-- The character of hexadecimal digits. -/
def codePoint? (digits : List Char) : Option Char :=
  (digits.foldlM (fun v c => (Json.hexValue? c).map (16 * v + ·)) 0).bind scalar?

/-- The text up to the closing quote, and what follows it. -/
def quoted? : List Char → Option (List Char × List Char)
  | [] => none
  | '"' :: cs => some ([], cs)
  | '\\' :: 'x' :: a :: b :: cs => do
    let x ← codePoint? [a, b]
    (quoted? cs).map fun (s, rest) => (x :: s, rest)
  | '\\' :: 'u' :: a :: b :: c :: d :: cs => do
    let x ← codePoint? [a, b, c, d]
    (quoted? cs).map fun (s, rest) => (x :: s, rest)
  | '\\' :: 'U' :: a :: b :: c :: d :: e :: f :: g :: h :: cs => do
    let x ← codePoint? [a, b, c, d, e, f, g, h]
    (quoted? cs).map fun (s, rest) => (x :: s, rest)
  | '\\' :: c :: cs => do
    let x ← escaped? c
    (quoted? cs).map fun (s, rest) => (x :: s, rest)
  | c :: cs => if isAllowed c then (quoted? cs).map fun (s, rest) => (c :: s, rest) else none

/-! ## Numbers -/

/-- Digits in groups between underscores. -/
def isGrouped (isDigit : Char → Bool) (cs : List Char) : Bool :=
  (Text.pieces (· == '_') cs).all fun g => !g.isEmpty && g.all isDigit

/-- Decimal digits without a leading zero. -/
def isWhole (cs : List Char) : Bool :=
  isGrouped Char.isDigit cs && (cs.length == 1 || cs.head? != some '0')

def digitsValue (base : Nat) (cs : List Char) : Nat :=
  (cs.filter (· != '_')).foldl (fun v c => base * v + (Json.hexValue? c).getD 0) 0

/-- A number without its sign, and whether it has a minus sign. -/
def splitSign : List Char → Bool × Bool × List Char
  | '-' :: cs => (true, true, cs)
  | '+' :: cs => (true, false, cs)
  | cs => (false, false, cs)

/-- Digits of a base after its mark. -/
def based? (cs : List Char) : Option Nat :=
  match cs with
  | '0' :: mark :: digits =>
    let base := if mark = 'x' then 16 else if mark = 'o' then 8 else if mark = 'b' then 2 else 0
    if isGrouped (fun c => (Json.hexValue? c).any (· < base)) digits then some (digitsValue base digits) else none
  | _ => none

def integer? (cs : List Char) : Option Int :=
  let (signed, negative, digits) := splitSign cs
  if isWhole digits then
    some (if negative then -(digitsValue 10 digits : Int) else (digitsValue 10 digits : Int))
  else if signed then none
  else (based? digits).map fun n => (n : Int)

/-! A real number is a whole number with a fraction, an exponent or both. -/

structure RealParts where
  whole : List Char
  fraction : Option (List Char)
  exponent : Option (List Char)

def RealParts.ofList (cs : List Char) : RealParts :=
  let isE := fun c => c == 'e' || c == 'E'
  let mantissa := cs.takeWhile fun c => !isE c
  let exponent := match cs.dropWhile fun c => !isE c with
    | [] => none
    | _ :: rest => some rest
  match Text.cutAt '.' mantissa with
  | some (whole, fraction) => ⟨whole, some fraction, exponent⟩
  | none => ⟨mantissa, none, exponent⟩

def RealParts.isWellFormed (r : RealParts) : Bool :=
  isWhole r.whole && r.fraction.all (isGrouped Char.isDigit) &&
    (r.exponent.all fun e => isGrouped Char.isDigit (splitSign e).2.2) &&
    (r.fraction.isSome || r.exponent.isSome)

/-- The nearest double. -/
def RealParts.value (r : RealParts) : Binary64 :=
  let fraction := (r.fraction.getD []).filter (· != '_')
  let (_, negative, digits) := splitSign (r.exponent.getD [])
  let power := (digitsValue 10 digits : Int)
  .ofDecimal false (digitsValue 10 (r.whole ++ fraction)) ((if negative then -power else power) - fraction.length)

/-- A real number, or one of two words for what is none. Numbers too large for a double are refused. -/
def isReal (cs : List Char) : Bool :=
  let digits := (splitSign cs).2.2
  let r := RealParts.ofList digits
  digits == "inf".toList || digits == "nan".toList || (r.isWellFormed && r.value.isFinite)

/-- A word or a number. -/
def word? (cs : List Char) : Option Toml :=
  if cs = "true".toList then some (.bool true)
  else if cs = "false".toList then some (.bool false)
  else match integer? cs with
    | some n => if -2 ^ 63 ≤ n ∧ n < 2 ^ 63 then some (.int (Int64.ofInt n)) else none
    | none => if isReal cs then some .real else none

/-! ## Lines -/

/-- Nothing but blanks, or a comment after them. -/
def isRest (cs : List Char) : Bool :=
  match cs.dropWhile isBlank with
  | [] => true
  | '#' :: comment => comment.all isAllowed
  | _ => false

def isBareKey (c : Char) : Bool := c.isAlphanum || c == '_' || c == '-'

/-- A key, and what follows it and the blanks after it. -/
def key? (cs : List Char) : Option (String × List Char) :=
  match cs.dropWhile isBlank with
  | '"' :: rest => (quoted? rest).map fun (s, rest) => (.ofList s, rest.dropWhile isBlank)
  | rest =>
    let name := rest.takeWhile isBareKey
    if name.isEmpty then none else some (.ofList name, (rest.dropWhile isBareKey).dropWhile isBlank)

/-- The value at the start of a text, which only a comment may follow. -/
def value? (cs : List Char) : Option Toml :=
  match cs.dropWhile isBlank with
  | '"' :: rest => do
    let (s, rest) ← quoted? rest
    guard (isRest rest)
    return .text (.ofList s)
  | rest => do
    let isWord := fun c => !isBlank c && c != '#'
    guard (isRest (rest.dropWhile isWord))
    word? (rest.takeWhile isWord)

inductive Line where
  | blank
  | header (name : String)
  | entry (key : String) (v : Toml)

def line? (cs : List Char) : Option Line :=
  if isRest cs then some .blank
  else match cs.dropWhile isBlank with
    | '[' :: rest => do
      let (name, rest) ← key? rest
      match rest with
      | ']' :: rest => if isRest rest then some (.header name) else none
      | _ => none
    | rest => do
      let (key, rest) ← key? rest
      match rest with
      | '=' :: rest => (value? rest).map (.entry key)
      | _ => none

/-! ## Documents -/

/-- What has been read, and the table that is open. -/
structure Draft where
  entries : List (String × Toml)
  current : Option (String × List (String × Toml))

def hasKey {α : Type} (key : String) (entries : List (String × α)) : Bool := entries.any (·.1 == key)

/-- Closes the open table. -/
def Draft.close (d : Draft) : List (String × Toml) :=
  d.entries ++ (d.current.map fun (name, entries) => (name, table entries)).toList

/-- Adds a line. No key and no table may come twice. -/
def Draft.add (d : Draft) : Line → Option Draft
  | .blank => some d
  | .header name => if hasKey name d.close then none else some ⟨d.close, some (name, [])⟩
  | .entry key v =>
    match d.current with
    | none => if hasKey key d.entries then none else some ⟨d.entries ++ [(key, v)], none⟩
    | some (name, entries) =>
      if hasKey key entries then none else some ⟨d.entries, some (name, entries ++ [(key, v)])⟩

/-- A byte order mark at the start of a document does not count. -/
def dropMark : List Char → List Char
  | '\ufeff' :: cs => cs
  | cs => cs

def entries? (s : String) : Option (List (String × Toml)) := do
  let lines ← (Text.lineList (dropMark s.toList)).mapM line?
  let d ← lines.foldlM Draft.add ⟨[], none⟩
  return d.close

/-- The reader of lines. -/
def reader : TomlReader where
  read s := (entries? s).elim (.error "no keys with values, a line each") .ok
  complaint _ := "a value has another type"

/-! ## Looking things up -/

def find? (entries : List (String × Toml)) (key : String) : Option Toml :=
  (entries.find? (·.1 == key)).map (·.2)

/-- The entries of a part of the document for the keys that it may have. An array has the values of all keys in their
order. -/
def entriesFor (keys : List String) : Toml → Option (List (String × Toml))
  | table entries => some entries
  | array items => if items.length = keys.length then some (keys.zip items) else none
  | _ => none

/-- The text of an entry, which may be missing. A date counts as its text. -/
def text? (entries : List (String × Toml)) (key : String) : Option (Option String) :=
  match find? entries key with
  | none => some none
  | some (text s) => some (some s)
  | some (date s) => some (some s)
  | some _ => none

/-- The integer of an entry, which may be missing. -/
def int? (entries : List (String × Toml)) (key : String) : Option (Option Int64) :=
  match find? entries key with
  | none => some none
  | some (int n) => some (some n)
  | some _ => none

end Toml

end RecordDesk
