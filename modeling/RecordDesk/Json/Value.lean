import RecordDesk.Keyed
import RecordDesk.Number.Binary64

/-!
JSON values. The reader keeps the entries of an object as they are written; `normal` sorts them by
key and lets the last of several entries with one key stand.
-/

namespace RecordDesk

/-- A whole number is kept exactly when it fits 64 bits, signed or unsigned; every other number is a
double. -/
inductive Json where
  | null
  | bool (b : Bool)
  | int (n : Int)
  | real (x : Binary64)
  | text (s : String)
  | array (items : List Json)
  | object (entries : List (String × Json))
  deriving Inhabited

namespace Json

mutual

/-- Equal in form: the two zeros differ, and a NaN is equal to itself. -/
def decEq (v w : Json) : Decidable (v = w) :=
  if h : v.ctorIdx = w.ctorIdx then
    match v, w, h with
    | .null, .null, _ => isTrue rfl
    | .bool a, .bool b, _ => decidable_of_iff (a = b) (by simp)
    | .int a, .int b, _ => decidable_of_iff (a = b) (by simp)
    | .real a, .real b, _ => decidable_of_iff (a = b) (by simp)
    | .text a, .text b, _ => decidable_of_iff (a = b) (by simp)
    | .array as, .array bs, _ =>
      have := itemsDecEq as bs
      decidable_of_iff (as = bs) (by simp)
    | .object as, .object bs, _ =>
      have := entriesDecEq as bs
      decidable_of_iff (as = bs) (by simp)
  else isFalse fun e => h (congrArg _ e)

def itemsDecEq : (as bs : List Json) → Decidable (as = bs)
  | [], [] => isTrue rfl
  | [], _ :: _ | _ :: _, [] => isFalse nofun
  | a :: as, b :: bs =>
    have := a.decEq b
    have := itemsDecEq as bs
    decidable_of_iff (a = b ∧ as = bs) (by simp)

def entriesDecEq : (as bs : List (String × Json)) → Decidable (as = bs)
  | [], [] => isTrue rfl
  | [], _ :: _ | _ :: _, [] => isFalse nofun
  | (j, a) :: as, (k, b) :: bs =>
    have := a.decEq b
    have := entriesDecEq as bs
    decidable_of_iff ((j = k ∧ a = b) ∧ as = bs) (by simp)

end

instance : DecidableEq Json := decEq

mutual

/-- Every object in ascending key order, without repeated keys. -/
def normal : Json → Json
  | array items => array (normalItems items)
  | object entries => object (Keyed.ofList (normalEntries entries))
  | null => null
  | bool b => bool b
  | int n => int n
  | real x => real x
  | text s => text s

def normalItems : List Json → List Json
  | [] => []
  | v :: vs => normal v :: normalItems vs

def normalEntries : List (String × Json) → List (String × Json)
  | [] => []
  | (k, v) :: es => (k, normal v) :: normalEntries es

end

/-- A double as a JSON value; what has no decimal becomes null. -/
def ofReal (x : Binary64) : Json := if x.isFinite then real x else null

/-- The value of a key of an object in normal form. -/
def get? (key : String) : Json → Option Json
  | object entries => Keyed.find? key entries
  | _ => none

end Json

end RecordDesk
