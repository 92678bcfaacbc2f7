/-!
A small generator of numbers that look random and depend on nothing but a seed: a linear
congruential step, and three shifts that mix the bits of what it gives.
-/

namespace RecordDesk

structure Generator where
  state : UInt64
  deriving DecidableEq

namespace Generator

/-- No seed leads to the state zero. -/
def ofSeed (seed : UInt64) : Generator :=
  let s := seed ^^^ 0x9E3779B97F4A7C15
  ⟨if s = 0 then 0xA4093822299F31D0 else s⟩

def mix (x : UInt64) : UInt64 :=
  let x := x ^^^ (x >>> 13)
  let x := x ^^^ (x <<< 7)
  x ^^^ (x >>> 17)

def next (g : Generator) : UInt64 × Generator :=
  let s := g.state * 6364136223846793005 + 1442695040888963407
  (mix s, ⟨s⟩)

/-- A number below `n`; nothing is drawn when there is only one choice. -/
def below (n : Nat) (g : Generator) : Nat × Generator :=
  if n ≤ 1 then (0, g)
  else
    let (x, g) := g.next
    (x.toNat % n, g)

def coin (g : Generator) : Bool × Generator :=
  let (x, g) := g.next
  (x.toNat % 2 == 1, g)

/-- One of several texts. -/
def pick (items : List String) (g : Generator) : String × Generator :=
  let (i, g) := g.below items.length
  ((items[i]?).getD "", g)

end Generator

end RecordDesk
