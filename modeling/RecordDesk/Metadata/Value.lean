import RecordDesk.Keyed
import RecordDesk.Number.Binary64

/-!
Metadata: trees of named values. The entries of every tree stand in ascending key order.
-/

namespace RecordDesk.Metadata

inductive Value where
  | null
  | bool (b : Bool)
  | int (n : Int64)
  | real (x : Binary64)
  | text (s : String)
  | list (items : List Value)
  | tree (entries : List (String × Value))
  deriving Inhabited

abbrev Tree := List (String × Value)

def Value.isScalar : Value → Bool
  | .list _ => false
  | .tree _ => false
  | _ => true

mutual

/-- Equal in form: the two zeros differ, and a NaN is equal to itself. -/
def Value.decEq (v w : Value) : Decidable (v = w) :=
  if h : v.ctorIdx = w.ctorIdx then
    match v, w, h with
    | .null, .null, _ => isTrue rfl
    | .bool a, .bool b, _ => decidable_of_iff (a = b) (by simp)
    | .int a, .int b, _ => decidable_of_iff (a = b) (by simp)
    | .real a, .real b, _ => decidable_of_iff (a = b) (by simp)
    | .text a, .text b, _ => decidable_of_iff (a = b) (by simp)
    | .list as, .list bs, _ =>
      have := itemsDecEq as bs
      decidable_of_iff (as = bs) (by simp)
    | .tree as, .tree bs, _ =>
      have := entriesDecEq as bs
      decidable_of_iff (as = bs) (by simp)
  else isFalse fun e => h (congrArg _ e)

def itemsDecEq : (as bs : List Value) → Decidable (as = bs)
  | [], [] => isTrue rfl
  | [], _ :: _ | _ :: _, [] => isFalse nofun
  | a :: as, b :: bs =>
    have := a.decEq b
    have := itemsDecEq as bs
    decidable_of_iff (a = b ∧ as = bs) (by simp)

def entriesDecEq : (as bs : List (String × Value)) → Decidable (as = bs)
  | [], [] => isTrue rfl
  | [], _ :: _ | _ :: _, [] => isFalse nofun
  | (j, a) :: as, (k, b) :: bs =>
    have := a.decEq b
    have := entriesDecEq as bs
    decidable_of_iff ((j = k ∧ a = b) ∧ as = bs) (by simp)

end

instance : DecidableEq Value := Value.decEq

mutual

/-- Equal with numbers compared as numbers: the two zeros are the same, a NaN equals nothing. -/
def Value.same : Value → Value → Bool
  | .null, .null => true
  | .bool a, .bool b => a == b
  | .int a, .int b => a == b
  | .real a, .real b => a.same b
  | .text a, .text b => a == b
  | .list a, .list b => sameItems a b
  | .tree a, .tree b => sameEntries a b
  | _, _ => false

def sameItems : List Value → List Value → Bool
  | [], [] => true
  | a :: as, b :: bs => a.same b && sameItems as bs
  | _, _ => false

def sameEntries : List (String × Value) → List (String × Value) → Bool
  | [], [] => true
  | (j, a) :: as, (k, b) :: bs => j == k && a.same b && sameEntries as bs
  | _, _ => false

end

def Tree.same (a b : Tree) : Bool := sameEntries a b

end RecordDesk.Metadata
