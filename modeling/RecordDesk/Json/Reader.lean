import RecordDesk.Json.Number

/-!
Reading JSON text, strictly, one character after the other. Containers may be nested up to 127 deep. The first character
that does not fit decides the fault.
-/

namespace RecordDesk.Json

def isSpace (c : Char) : Bool := c == ' ' || c == '\n' || c == '\t' || c == '\r'

def hexValue? (c : Char) : Option Nat :=
  if c.isDigit then some (c.toNat - 48)
  else if 'a' ≤ c ∧ c ≤ 'f' then some (c.toNat - 87)
  else if 'A' ≤ c ∧ c ≤ 'F' then some (c.toNat - 55)
  else none

/-- The character of an escape with one letter. -/
def shortEscape? (c : Char) : Option Char :=
  match c with
  | '"' => some '"'
  | '\\' => some '\\'
  | '/' => some '/'
  | 'b' => some '\x08'
  | 'f' => some '\x0c'
  | 'n' => some '\n'
  | 'r' => some '\r'
  | 't' => some '\t'
  | _ => none

/-- Why reading stops at a character, and how many bytes after the start of that character the fault is found. -/
structure Stop where
  code : FaultCode
  bytes : Nat := 1

/-! ## Texts in quotes -/

/-- Where the reader is in a text. A code unit has four digits, of which `bytes` bytes are still to come; it has no
value once one of them is no digit. A leading surrogate `high` needs a partner. -/
inductive QuotedMode where
  | plain
  | escape
  | unit (high : Option Nat) (value : Option Nat) (bytes : Nat)
  | pair (high : Nat)
  | pairMark (high : Nat)

/-- A text as far as it has been read, its characters in reverse. -/
structure Quoted where
  done : List Char
  mode : QuotedMode

namespace Quoted

/-- A full code unit: a leading surrogate waits for a trailing one, which may not stand alone. -/
def addUnit (done : List Char) (high : Option Nat) (v : Nat) : Except FaultCode Quoted :=
  match high with
  | some h =>
    if 0xDC00 ≤ v ∧ v < 0xE000 then
      .ok ⟨Char.ofNat (0x10000 + (h - 0xD800) * 0x400 + (v - 0xDC00)) :: done, .plain⟩
    else .error .loneSurrogate
  | none =>
    if 0xD800 ≤ v ∧ v < 0xDC00 then .ok ⟨done, .pair v⟩
    else if 0xDC00 ≤ v ∧ v < 0xE000 then .error .loneSurrogate
    else .ok ⟨Char.ofNat v :: done, .plain⟩

/-- One more character of a code unit. What is no digit is found out only when the unit is full. -/
def stepUnit (done : List Char) (high value : Option Nat) (bytes : Nat) (c : Char) : Except Stop Quoted :=
  let value := do return 16 * (← value) + (← hexValue? c)
  if c.utf8Size < bytes then .ok ⟨done, .unit high value (bytes - c.utf8Size)⟩
  else match value with
    | none => .error ⟨.escape, bytes⟩
    | some v => (addUnit done high v).mapError fun code => ⟨code, bytes⟩

/-- One more character; no text is left to read after the closing quote. -/
def step (q : Quoted) (c : Char) : Except Stop (Quoted ⊕ String) :=
  match q.mode with
  | .plain =>
    if c = '"' then .ok (.inr (.ofList q.done.reverse))
    else if c = '\\' then .ok (.inl ⟨q.done, .escape⟩)
    else if c.toNat < 0x20 then .error ⟨.control, 1⟩
    else .ok (.inl ⟨c :: q.done, .plain⟩)
  | .escape =>
    if c = 'u' then .ok (.inl ⟨q.done, .unit none (some 0) 4⟩)
    else match shortEscape? c with
      | some d => .ok (.inl ⟨d :: q.done, .plain⟩)
      | none => .error ⟨.escape, 1⟩
  | .unit high value bytes => (stepUnit q.done high value bytes c).map .inl
  | .pair high => if c = '\\' then .ok (.inl ⟨q.done, .pairMark high⟩) else .error ⟨.openSurrogate, 1⟩
  | .pairMark high =>
    if c = 'u' then .ok (.inl ⟨q.done, .unit (some high) (some 0) 4⟩) else .error ⟨.openSurrogate, 1⟩

end Quoted

/-! ## Values -/

/-- A container that is being read around the current value, its finished parts in reverse. -/
inductive Frame where
  | items (done : List Json)
  | member (done : List (String × Json)) (key : String)

/-- What is expected between tokens. Right after an opening bracket or brace the container may close, and right after a
comma it may not. -/
inductive Expected where
  | value (around : List Frame)
  | firstItem (around : List Frame)
  | item (around : List Frame) (done : List Json)
  | firstKey (around : List Frame)
  | key (around : List Frame) (done : List (String × Json))
  | colon (around : List Frame) (done : List (String × Json)) (key : String)
  | afterItem (around : List Frame) (done : List Json)
  | afterMember (around : List Frame) (done : List (String × Json))
  | nothing (v : Json)

/-- What a text in quotes is read for. -/
inductive Role where
  | value (around : List Frame)
  | key (around : List Frame) (done : List (String × Json))

inductive Reader where
  | between (e : Expected)
  /-- A word for a value, with what is left of it. -/
  | word (around : List Frame) (next : Char) (rest : List Char) (v : Json)
  | number (around : List Frame) (n : NumberReader)
  | quoted (role : Role) (q : Quoted)

/-- How many containers may be open at once. -/
def maxDepth : Nat := 127

namespace Reader

/-- Puts a finished value into the container around it. -/
def place (v : Json) : List Frame → Expected
  | [] => .nothing v
  | .items done :: around => .afterItem around (v :: done)
  | .member done k :: around => .afterMember around ((k, v) :: done)

/-- A text in quotes has been read. -/
def Role.place (s : String) : Role → Expected
  | .value around => Reader.place (.text s) around
  | .key around done => .colon around done s

def openQuote (role : Role) : Reader := .quoted role ⟨[], .plain⟩

/-- The first character of a value. -/
def start (around : List Frame) (c : Char) : Except Stop Reader :=
  match c with
  | '[' => if around.length < maxDepth then .ok (.between (.firstItem around)) else .error ⟨.depth, 1⟩
  | '{' => if around.length < maxDepth then .ok (.between (.firstKey around)) else .error ⟨.depth, 1⟩
  | '"' => .ok (openQuote (.value around))
  | 't' => .ok (.word around 'r' ['u', 'e'] (.bool true))
  | 'f' => .ok (.word around 'a' ['l', 's', 'e'] (.bool false))
  | 'n' => .ok (.word around 'u' ['l', 'l'] .null)
  | c =>
    match NumberReader.start? c with
    | some n => .ok (.number around n)
    | none => .error ⟨.value, 1⟩

/-- A character between tokens. -/
def stepBetween (e : Expected) (c : Char) : Except Stop Reader :=
  if isSpace c then .ok (.between e)
  else match e with
    | .value around => start around c
    | .firstItem around => if c = ']' then .ok (.between (place (.array []) around)) else start (.items [] :: around) c
    | .item around done => if c = ']' then .error ⟨.trailingComma, 1⟩ else start (.items done :: around) c
    | .firstKey around =>
      if c = '}' then .ok (.between (place (.object []) around))
      else if c = '"' then .ok (openQuote (.key around []))
      else .error ⟨.key, 1⟩
    | .key around done =>
      if c = '"' then .ok (openQuote (.key around done))
      else if c = '}' then .error ⟨.trailingComma, 1⟩
      else .error ⟨.key, 1⟩
    | .colon around done k => if c = ':' then .ok (.between (.value (.member done k :: around))) else .error ⟨.colon, 1⟩
    | .afterItem around done =>
      if c = ',' then .ok (.between (.item around done))
      else if c = ']' then .ok (.between (place (.array done.reverse) around))
      else .error ⟨.listEnd, 1⟩
    | .afterMember around done =>
      if c = ',' then .ok (.between (.key around done))
      else if c = '}' then .ok (.between (place (.object done.reverse) around))
      else .error ⟨.objectEnd, 1⟩
    | .nothing _ => .error ⟨.trailingCharacters, 1⟩

def step (r : Reader) (c : Char) : Except Stop Reader :=
  match r with
  | .between e => stepBetween e c
  | .word around next rest v =>
    if c = next then
      match rest with
      | [] => .ok (.between (place v around))
      | next :: rest => .ok (.word around next rest v)
    else .error ⟨.word, 1⟩
  | .number around n =>
    match n.step c with
    | .more n => .ok (.number around n)
    | .fault code => .error ⟨code, 1⟩
    | .over =>
      match n.finish with
      | .ok v => stepBetween (place v around) c
      | .error code => .error ⟨code, 0⟩
  | .quoted role q =>
    match q.step c with
    | .ok (.inl q) => .ok (.quoted role q)
    | .ok (.inr s) => .ok (.between (Role.place s role))
    | .error stop => .error stop

/-- Nothing more comes. -/
def finishBetween : Expected → Except FaultCode Json
  | .nothing v => .ok v
  | .value _ | .item _ _ | .key _ _ => .error .unfinishedValue
  | .firstItem _ | .afterItem _ _ => .error .unfinishedList
  | .firstKey _ | .afterMember _ _ | .colon _ _ _ => .error .unfinishedObject

def finish : Reader → Except FaultCode Json
  | .between e => finishBetween e
  | .word _ _ _ _ => .error .unfinishedValue
  | .number around n => n.finish.bind fun v => finishBetween (place v around)
  | .quoted _ _ => .error .unfinishedText

/-- Reads characters after so many bytes; a fault comes with the bytes before it. -/
def run (r : Reader) (bytes : Nat) : List Char → Except (FaultCode × Nat) Json
  | [] => r.finish.mapError fun code => (code, bytes)
  | c :: cs =>
    match r.step c with
    | .ok r => r.run (bytes + c.utf8Size) cs
    | .error stop => .error (stop.code, bytes + stop.bytes)

end Reader

/-- The value that a text holds, the entries of its objects as written. -/
def read (s : String) : Except Fault Json :=
  ((Reader.between (.value [])).run 0 s.toList).mapError fun (code, bytes) => .after bytes s.toList code

def read? (s : String) : Option Json := (read s).toOption

theorem read?_eq_some_iff {s : String} {v : Json} : read? s = some v ↔ read s = .ok v := by
  unfold read?
  cases read s <;> simp [Except.toOption]

end RecordDesk.Json
