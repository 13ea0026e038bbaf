import Vitae.Pdf.Value

/-!
Going through a text by position. Nothing is read past the end, and a step back from the end leads
to the last character. A reader that fails stays where it failed, so that another one can go on from
there.
-/

namespace Vitae.Pdf

/-- What a reader knows: its text, where the objects of the file begin, and how an object that is
referred to is found. -/
structure Scope where
  text : Array Char
  places : List Int
  lookUp : Ref → Except Flaw (Option Value)

abbrev Reading (α : Type) := ReaderT Scope (EStateM Flaw Nat) α

namespace Reading

def run {α : Type} (reading : Reading α) (scope : Scope) (start : Nat) : Except Flaw α :=
  match (ReaderT.run reading scope).run start with
  | .ok value _ => .ok value
  | .error flaw _ => .error flaw

def position : Reading Nat := get

def goTo (position : Nat) : Reading Unit := set position

def back (count : Nat) : Reading Unit := modify (· - count)

/-- The next character, or nothing at the end. -/
def next : Reading (Option Char) := do
  let c := (← read).text[← get]?
  if c.isSome then modify (· + 1)
  return c

/-- The next characters, fewer at the end. -/
def take (count : Nat) : Reading (List Char) := do
  let text := (← read).text
  let start ← get
  let stop := min (start + count) text.size
  if start < stop then set stop
  return (text.extract start stop).toList

/-- The characters up to one that is marked, which stays. -/
def takeUntil (marked : Char → Bool) : Reading (List Char) := do
  let text := (← read).text
  let start ← get
  let stop := go text marked (text.size - start) start
  set stop
  return (text.extract start stop).toList
where
  go (text : Array Char) (marked : Char → Bool) : Nat → Nat → Nat
    | 0, position => position
    | fuel + 1, position =>
      if text[position]?.any marked then position else go text marked fuel (position + 1)

/-- White space between the parts of a file. -/
def isSpace (c : Char) : Bool := [0, 9, 10, 12, 13, 32].contains c.toNat

/-- White space that ends a word. -/
def isGap (c : Char) : Bool := c == ' ' || (9 ≤ c.toNat && c.toNat ≤ 13)

def isLineEnd (c : Char) : Bool := c == '\n' || c == '\r'

/-- The first character after white space, which is passed over as well. -/
def nextSolid : Reading (Option Char) := do
  let _ ← takeUntil (!isSpace ·)
  next

/-- Passes over white space. -/
def skipSpace : Reading Unit := do
  let _ ← nextSolid
  back 1

/-- The characters up to a gap; the gap is passed over too. -/
def word : Reading (List Char) := do
  let cs ← takeUntil isGap
  let _ ← next
  return cs

/-- Passes over a comment, if there is one; its line has to end. -/
def skipComment : Reading Unit := do
  let c ← next
  back 1
  if c = some '%' then
    let _ ← takeUntil isLineEnd
    if (← next).isNone then throw (.truncated "File ended unexpectedly.")

end Reading

end Vitae.Pdf
