import Vitae.Text.Digit

/-!
Arguments of a command line. A flag is known by its long name, by any beginning of it that no other
flag shares, or by a letter; letters can be written together. After two hyphens everything is a
plain argument, but further ones of two hyphens are lost.
-/

namespace Vitae.Command

structure Flag where
  name : String
  letter : Option Char := none
  takesValue : Bool := true
  /-- The values it can take; any if there are none. -/
  choices : List String := []
  deriving DecidableEq, Repr

def help : Flag := { name := "help", letter := some 'h', takesValue := false }

/-- Why arguments are not acted upon. -/
inductive Stop where
  | usage
  | help
  deriving DecidableEq, Repr

inductive Piece where
  | plain
  | separator
  /-- A flag by its long name, with the value that is written into it. -/
  | long (flag : Flag) (value : Option String)
  /-- A flag by its letter, with what is written after the letter. -/
  | letter (flag : Flag) (rest : List Char)
  | unknown
  deriving DecidableEq, Repr

def longName (f : Flag) : List Char := "--".toList ++ f.name.toList

/-- What stands before and after the first equals sign. -/
def splitValue (cs : List Char) : List Char × Option String :=
  let name := cs.takeWhile (· != '=')
  (name, match cs.drop name.length with
    | [] => none
    | _ :: value => some (String.ofList value))

def isNumberChars (cs : List Char) : Bool :=
  let isDigit := fun c => (Text.digitValue? c).isSome
  let whole := cs.takeWhile isDigit
  match cs.drop whole.length with
  | [] => !whole.isEmpty
  | '.' :: fraction => !fraction.isEmpty && fraction.all isDigit
  | _ => false

/-- Negative numbers are plain arguments, also with a line end after them. -/
def isNegativeNumber : List Char → Bool
  | '-' :: number =>
    isNumberChars (if number.getLast? = some '\n' then number.dropLast else number)
  | _ => false

/-- An argument that begins with a hyphen but names no flag. -/
def unnamed (cs : List Char) : Piece :=
  if isNegativeNumber cs || cs.contains ' ' then .plain else .unknown

def flagWithLetter? (flags : List Flag) (c : Char) : Option Flag :=
  flags.find? fun f => f.letter == some c

/-- What an argument is among some flags. The beginning of several long names is refused. -/
def classify (flags : List Flag) (argument : String) : Except Stop Piece :=
  match argument.toList with
  | ['-'] => .ok .plain
  | '-' :: '-' :: rest =>
    let (name, value) := splitValue ('-' :: '-' :: rest)
    match flags.filter fun f => longName f = name with
    | f :: _ => .ok (.long f value)
    | [] =>
      match flags.filter fun f => name.isPrefixOf (longName f) with
      | [] => .ok (unnamed argument.toList)
      | [f] => .ok (.long f value)
      | _ => .error .usage
  | '-' :: c :: rest =>
    match flagWithLetter? flags c with
    | none => .ok (unnamed argument.toList)
    | some f => .ok (.letter f rest)
  | _ => .ok .plain

/-- The arguments with what they are; those after the separator are plain. -/
def classifyAll (flags : List Flag) : List String → Except Stop (List (String × Piece))
  | [] => .ok []
  | argument :: rest =>
    if argument = "--" then
      .ok ((argument, .separator) :: rest.map fun a => (a, .plain))
    else do
      let piece ← classify flags argument
      return (argument, piece) :: (← classifyAll flags rest)

/-- What arguments give: flags in their order, with their values, and plain arguments. -/
structure Given where
  flags : List (String × String) := []
  /-- Arguments that are not flags; none for one that is lost. -/
  plain : List (Option String) := []
  /-- Something was there that has no meaning. -/
  surplus : Bool := false
  deriving DecidableEq, Repr

namespace Given

def put (g : Given) (name value : String) : Given := { g with flags := g.flags ++ [(name, value)] }

/-- The last value of a flag. -/
def value? (g : Given) (name : String) : Option String := g.flags.reverse.lookup name

def has (g : Given) (name : String) : Bool := (g.value? name).isSome

def count (g : Given) (name : String) : Nat := (g.flags.filter fun f => f.1 = name).length

/-- A flag that has to be there. -/
def require (g : Given) (name : String) : Except Stop String :=
  match g.value? name with
  | some value => .ok value
  | none => .error .usage

end Given

/-- Takes in a flag that has no value; help ends everything. -/
def putSwitch (g : Given) (f : Flag) : Except Stop Given :=
  if f = help then .error .help else .ok (g.put f.name "")

def putValue (g : Given) (f : Flag) (value : String) : Except Stop Given :=
  if f.choices.isEmpty || f.choices.contains value then .ok (g.put f.name value)
  else .error .usage

/-- A plain argument after the separator. -/
def unlessHyphens (argument : String) : Option String :=
  if argument = "--" then none else some argument

/-- The plain arguments after the separator. If none stand before it, the first of them is taken as
it is. -/
def afterSeparator (isFirst : Bool) : List String → List (Option String)
  | [] => []
  | argument :: rest =>
    (if isFirst then some argument else unlessHyphens argument) :: rest.map unlessHyphens

/-- The flags of letters written together, and whether a letter without one follows them. Such a
flag takes no value and no further hyphen. -/
def letterFlags (flags : List Flag) : List Char → Except Stop (List Flag × Bool)
  | [] => .ok ([], false)
  | '=' :: _ => .error .usage
  | '-' :: _ => .error .usage
  | c :: rest =>
    match flagWithLetter? flags c with
    | none => .ok ([], true)
    | some f => do
      let (more, strays) ← letterFlags flags rest
      return (f :: more, strays)

/-- Takes in a flag and the letters after it. -/
def putLetters (flags : List Flag) (g : Given) (f : Flag) (rest : List Char) :
    Except Stop Given := do
  let (more, strays) ← letterFlags flags rest
  let g ← (f :: more).foldlM putSwitch g
  return { g with surplus := g.surplus || strays }

/-- Goes through arguments up to the first plain one, which is not a value, and leaves the rest. -/
def readLeading (flags : List Flag) (g : Given) :
    List (String × Piece) → Except Stop (Given × List String)
  | [] => .ok (g, [])
  | (argument, .plain) :: rest => .ok (g, argument :: rest.map Prod.fst)
  | (_, .separator) :: _ => .error .usage
  | (_, .unknown) :: rest => readLeading flags { g with surplus := true } rest
  | (_, .letter f letters) :: rest => do
    readLeading flags (← putLetters flags g f letters) rest
  | (_, .long f (some value)) :: rest => do
    if f.takesValue then readLeading flags (← putValue g f value) rest else throw .usage
  | (_, .long f none) :: rest => do
    if f.takesValue then
      match rest with
      | (value, .plain) :: rest => readLeading flags (← putValue g f value) rest
      | _ => throw .usage
    else readLeading flags (← putSwitch g f) rest

/-- Goes through all arguments. -/
def readAll (flags : List Flag) (g : Given) : List (String × Piece) → Except Stop Given
  | [] => .ok g
  | (argument, .plain) :: rest =>
    readAll flags { g with plain := g.plain ++ [some argument] } rest
  | (_, .separator) :: rest =>
    .ok { g with plain := g.plain ++ afterSeparator g.plain.isEmpty (rest.map Prod.fst) }
  | (_, .unknown) :: rest => readAll flags { g with surplus := true } rest
  | (_, .letter f letters) :: rest => do readAll flags (← putLetters flags g f letters) rest
  | (_, .long f (some value)) :: rest => do
    if f.takesValue then readAll flags (← putValue g f value) rest else throw .usage
  | (_, .long f none) :: rest => do
    if f.takesValue then
      match rest with
      | (value, .plain) :: rest => readAll flags (← putValue g f value) rest
      | _ => throw .usage
    else readAll flags (← putSwitch g f) rest

end Vitae.Command
