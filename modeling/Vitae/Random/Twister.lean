import Vitae.Decimal.Binary64

/-!
The Mersenne twister of 624 words, and the draws made from it: some bits, a fraction of 53 bits, a
number below a bound, a shuffle.
-/

namespace Vitae

open Decimal (Binary64)

/-- The words of the current block and how many of them have been used. -/
structure Twister where
  words : Array UInt32
  used : Nat
  deriving Repr

namespace Twister

def size : Nat := 624

def word (words : Array UInt32) (i : Nat) : UInt32 := words.getD i 0

def scramble (w : UInt32) : UInt32 := w ^^^ (w >>> 30)

/-- The words that a single number spreads to. -/
def spread (seed : UInt32) : Array UInt32 :=
  (List.range (size - 1)).foldl (fun words i =>
    words.push (1812433253 * scramble (word words i) + UInt32.ofNat (i + 1))) #[seed]

/-- One pass over the words behind the first, each mixed with the one before it. The pass begins at
`first`, and the last word is copied to the front where it is passed. -/
def mixPass (mix : Nat → UInt32 → UInt32 → UInt32) (count first : Nat) (words : Array UInt32) :
    Array UInt32 :=
  (List.range count).foldl (fun words k =>
    let i := (first - 1 + k) % (size - 1) + 1
    let words := words.setIfInBounds i (mix i (word words i) (scramble (word words (i - 1))))
    if i = size - 1 then words.setIfInBounds 0 (word words i) else words) words

def ofSeed (seed : UInt32) : Twister :=
  let keyed := mixPass (fun _ own before => (own ^^^ (before * 1664525)) + seed) size 1
    (spread 19650218)
  let mixed := mixPass (fun i own before => (own ^^^ (before * 1566083941)) - UInt32.ofNat i)
    (size - 1) 2 keyed
  ⟨mixed.setIfInBounds 0 0x80000000, size⟩

/-- The word that comes `size` words behind another, made from it and from the words that come 1 and
397 words behind it. -/
def twist (own following far : UInt32) : UInt32 :=
  let joined := (own &&& 0x80000000) ||| (following &&& 0x7fffffff)
  let odd : UInt32 := if joined &&& 1 = 1 then 0x9908b0df else 0
  far ^^^ (joined >>> 1) ^^^ odd

/-- The next block of words. -/
def refill (words : Array UInt32) : Array UInt32 :=
  (List.range size).foldl (fun words k =>
    words.setIfInBounds k
      (twist (word words k) (word words ((k + 1) % size)) (word words ((k + 397) % size)))) words

def temper (w : UInt32) : UInt32 :=
  let w := w ^^^ (w >>> 11)
  let w := w ^^^ ((w <<< 7) &&& 0x9d2c5680)
  let w := w ^^^ ((w <<< 15) &&& 0xefc60000)
  w ^^^ (w >>> 18)

def next (t : Twister) : UInt32 × Twister :=
  let t : Twister := if size ≤ t.used then ⟨refill t.words, 0⟩ else t
  (temper (word t.words t.used), { t with used := t.used + 1 })

end Twister

/-- Something drawn from a twister. -/
abbrev Draw (α : Type) := StateM Twister α

namespace Draw

def word : Draw UInt32 := fun t => t.next

/-- The first `count` bits of a word. -/
def bits (count : Nat) : Draw Nat := do return (← word).toNat / Nat.pow 2 (32 - count)

/-- A fraction of 53 bits, at least 0 and below 1. -/
def fraction : Draw Binary64 := do
  let high := (← word).toNat / 32
  let low := (← word).toNat / 64
  return Binary64.ofDyadic false (high * 0x4000000 + low) (-53)

/-- How often a number can come out too large in a row: as often as a block of words has bits. -/
def refusals : Nat := Twister.size * 32

/-- A number below a bound that may be drawn again so many times. Nothing is left of the last one
but its remainder, which is the number itself if there are enough tries. -/
def belowWithin (bound : Nat) : Nat → Draw Nat
  | 0 => do return (← bits (Nat.log2 bound + 1)) % bound
  | tries + 1 => do
    let n ← bits (Nat.log2 bound + 1)
    if n < bound then return n else belowWithin bound tries

/-- A number below a positive bound: as many bits as the bound has, drawn again while they are too
large. -/
def below (bound : Nat) : Draw Nat := belowWithin bound refusals

/-- A number from `low` to `high`, both included. -/
def between (low high : Nat) : Draw Nat := do return low + (← below (high + 1 - low))

/-- One of the items; `default` stands for those of an empty list. -/
def choice {α : Type} (default : α) (items : List α) : Draw α := do
  return items.getD (← below items.length) default

def uniform (low high : Int) : Draw Binary64 := do
  return Binary64.ofInt low + Binary64.ofInt (high - low) * (← fraction)

def swap {α : Type} (items : Array α) (i j : Nat) : Array α := items.swapIfInBounds i j

/-- Exchanges every item from the last to the second with one that is not behind it. -/
def shuffleFrom {α : Type} : Nat → Array α → Draw (Array α)
  | 0, items => pure items
  | i + 1, items => do
    let j ← below (i + 2)
    shuffleFrom i (swap items (i + 1) j)

def shuffle {α : Type} (items : List α) : Draw (List α) := do
  return (← shuffleFrom (items.length - 1) items.toArray).toList

end Draw

end Vitae
