/-!
Expanding compressed data. The data are bits, the low ones of a byte first, in blocks: stored
bytes, or symbols of prefix codes that stand for bytes and for repetitions of earlier output. Data
that break off or make no sense are expanded as far as they go.
-/

namespace Vitae.Compression

abbrev Bits := List Bool

def byteBits (byte : UInt8) : Bits := (List.range 8).map byte.toNat.testBit

def bitsOf (bytes : List UInt8) : Bits := bytes.flatMap byteBits

/-- A number of so many bits, the low ones first. -/
def takeNumber? : Nat → Bits → Option (Nat × Bits)
  | 0, bits => some (0, bits)
  | _ + 1, [] => none
  | count + 1, b :: bits => do
    let (n, bits) ← takeNumber? count bits
    return (2 * n + b.toNat, bits)

/-- A prefix code in canonical form: how many words there are of one bit, of two bits and so on, and
the symbols in the order of their words. -/
structure PrefixCode where
  counts : List Nat
  symbols : List Nat
  deriving DecidableEq, Repr

namespace PrefixCode

def maxLength : Nat := 15

/-- The words that are still free after all lengths; none if there are too many words. -/
def free? (counts : List Nat) : Option Nat :=
  counts.foldlM (fun free count => if 2 * free < count then none else some (2 * free - count)) 1

/-- Whether the words of these lengths make a code. A code without any word, and if it is allowed
one with a single word of one bit, need not be complete. -/
def fits (single : Bool) (counts : List Nat) : Bool :=
  match free? counts with
  | none => false
  | some 0 => true
  | some _ =>
    let longer := (counts.drop 1).all (· == 0)
    longer && (counts.head? == some 0 || single)

/-- The code in which each symbol has a word of a given length; a symbol of length zero has none. -/
def ofLengths? (single : Bool) (lengths : List Nat) : Option PrefixCode :=
  let sizes := (List.range maxLength).map (· + 1)
  let counts := sizes.map fun size => lengths.count size
  let symbols := sizes.flatMap fun size =>
    (lengths.zipIdx.filter fun (length, _) => length == size).map Prod.snd
  if fits single counts then some ⟨counts, symbols⟩ else none

/-- The symbol whose word comes next. The first word of each length follows the last one of the
length before it, one bit longer. -/
def decode? (code : PrefixCode) (bits : Bits) : Option (Nat × Bits) :=
  go code.counts 0 0 0 bits
where
  go : List Nat → Nat → Nat → Nat → Bits → Option (Nat × Bits)
    | [], _, _, _, _ => none
    | _ :: _, _, _, _, [] => none
    | count :: counts, word, first, index, b :: bits =>
      let word := 2 * word + b.toNat
      let first := 2 * first
      if word < first + count then do return (← code.symbols[index + (word - first)]?, bits)
      else go counts word (first + count) (index + count) bits

end PrefixCode

/-- The least length or distance of a symbol, and how many bits are added to it. -/
def lengthRanges : List (Nat × Nat) := [
  (3, 0), (4, 0), (5, 0), (6, 0), (7, 0), (8, 0), (9, 0), (10, 0), (11, 1), (13, 1), (15, 1),
  (17, 1), (19, 2), (23, 2), (27, 2), (31, 2), (35, 3), (43, 3), (51, 3), (59, 3), (67, 4), (83, 4),
  (99, 4), (115, 4), (131, 5), (163, 5), (195, 5), (227, 5), (258, 0)]

def distanceRanges : List (Nat × Nat) := [
  (1, 0), (2, 0), (3, 0), (4, 0), (5, 1), (7, 1), (9, 2), (13, 2), (17, 3), (25, 3), (33, 4),
  (49, 4), (65, 5), (97, 5), (129, 6), (193, 6), (257, 7), (385, 7), (513, 8), (769, 8), (1025, 9),
  (1537, 9), (2049, 10), (3073, 10), (4097, 11), (6145, 11), (8193, 12), (12289, 12), (16385, 13),
  (24577, 13)]

def takeRanged? (ranges : List (Nat × Nat)) (symbol : Nat) (bits : Bits) : Option (Nat × Bits) := do
  let (least, more) ← ranges[symbol]?
  let (n, bits) ← takeNumber? more bits
  return (least + n, bits)

/-- Repeats output from so far back. -/
def repeatBack (distance : Nat) : Nat → Array UInt8 → Array UInt8
  | 0, output => output
  | count + 1, output =>
    repeatBack distance count (output.push (output[output.size - distance]?.getD 0))

/-- The symbol that ends a block. -/
def endOfBlock : Nat := 256

/-- Output, with the bits that are left unless the data break off. -/
abbrev Expansion := Array UInt8 × Option Bits

/-- A repetition, whose length is known by its symbol. -/
def takeRepetition? (distances : PrefixCode) (symbol : Nat) (bits : Bits) :
    Option (Nat × Nat × Bits) := do
  let (length, bits) ← takeRanged? lengthRanges (symbol - (endOfBlock + 1)) bits
  let (symbol, bits) ← distances.decode? bits
  let (distance, bits) ← takeRanged? distanceRanges symbol bits
  return (length, distance, bits)

/-- Expands the symbols of a block; the number bounds how many there are. -/
def expandSymbols (literals distances : PrefixCode) : Nat → Bits → Array UInt8 → Expansion
  | 0, _, output => (output, none)
  | fuel + 1, bits, output =>
    match literals.decode? bits with
    | none => (output, none)
    | some (symbol, bits) =>
      if symbol < endOfBlock then
        expandSymbols literals distances fuel bits (output.push (UInt8.ofNat symbol))
      else if symbol = endOfBlock then (output, some bits)
      else
        match takeRepetition? distances symbol bits with
        | none => (output, none)
        | some (length, distance, bits) =>
          if output.size < distance then (output, none)
          else
            expandSymbols literals distances fuel bits (repeatBack distance length output)

/-- Copies bytes as long as there are any. -/
def copyBytes : Nat → Bits → Array UInt8 → Expansion
  | 0, bits, output => (output, some bits)
  | count + 1, bits, output =>
    match takeNumber? 8 bits with
    | none => (output, none)
    | some (n, bits) => copyBytes count bits (output.push (UInt8.ofNat n))

/-- Expands a block of stored bytes. It starts with a whole byte, and tells its length twice. -/
def expandStored (bits : Bits) (output : Array UInt8) : Expansion :=
  let lengths? := do
    let (length, bits) ← takeNumber? 16 (bits.drop (bits.length % 8))
    let (complement, bits) ← takeNumber? 16 bits
    return (length, complement, bits)
  match lengths? with
  | some (length, complement, bits) =>
    if length + complement = 0xffff then copyBytes length bits output else (output, none)
  | none => (output, none)

def fixedLiterals : List Nat :=
  List.replicate 144 8 ++ List.replicate 112 9 ++ List.replicate 24 7 ++ List.replicate 8 8

/-- The codes of a block that does not bring its own. -/
def fixedCodes? : Option (PrefixCode × PrefixCode) := do
  return (← PrefixCode.ofLengths? true fixedLiterals,
    ← PrefixCode.ofLengths? true (List.replicate 32 5))

/-- The order in which the lengths of the code for lengths are given. -/
def lengthOrder : List Nat := [16, 17, 18, 0, 8, 7, 9, 6, 10, 5, 11, 4, 12, 3, 13, 2, 14, 1, 15]

def takeNumbers? (width : Nat) : Nat → Bits → Option (List Nat × Bits)
  | 0, bits => some ([], bits)
  | count + 1, bits => do
    let (n, bits) ← takeNumber? width bits
    let (rest, bits) ← takeNumbers? width count bits
    return (n :: rest, bits)

/-- The next lengths: one length, or several of the same kind. -/
def takeLengths? (code : PrefixCode) (previous : Option Nat) (bits : Bits) :
    Option (List Nat × Bits) := do
  let (symbol, bits) ← code.decode? bits
  match symbol with
  | 16 =>
    let (n, bits) ← takeNumber? 2 bits
    return (List.replicate (3 + n) (← previous), bits)
  | 17 =>
    let (n, bits) ← takeNumber? 3 bits
    return (List.replicate (3 + n) 0, bits)
  | 18 =>
    let (n, bits) ← takeNumber? 7 bits
    return (List.replicate (11 + n) 0, bits)
  | length => return ([length], bits)

/-- So many lengths; the last ones are given first. -/
def takeAllLengths? (code : PrefixCode) (count : Nat) : Nat → List Nat → Bits →
    Option (List Nat × Bits)
  | 0, backwards, bits => if backwards.length = count then some (backwards, bits) else none
  | fuel + 1, backwards, bits =>
    if count ≤ backwards.length then
      if backwards.length = count then some (backwards, bits) else none
    else do
      let (lengths, bits) ← takeLengths? code backwards.head? bits
      takeAllLengths? code count fuel (lengths.reverse ++ backwards) bits

/-- The codes that a block brings along. It has to have a word for its end. -/
def takeCodes? (bits : Bits) : Option (PrefixCode × PrefixCode × Bits) := do
  let (literals, bits) ← takeNumber? 5 bits
  let (distances, bits) ← takeNumber? 5 bits
  let (sizes, bits) ← takeNumber? 4 bits
  let (literals, distances, sizes) := (literals + 257, distances + 1, sizes + 4)
  if 286 < literals || 30 < distances then none
  let (given, bits) ← takeNumbers? 3 sizes bits
  let ordered := lengthOrder.zip given
  let code ← PrefixCode.ofLengths? false
    ((List.range lengthOrder.length).map fun symbol => (ordered.lookup symbol).getD 0)
  let count := literals + distances
  let (backwards, bits) ← takeAllLengths? code count count [] bits
  let lengths := backwards.reverse
  if lengths[endOfBlock]? = some 0 then none
  return (← PrefixCode.ofLengths? true (lengths.take literals),
    ← PrefixCode.ofLengths? true (lengths.drop literals), bits)

/-- Expands a block of a kind. -/
def expandBlock (kind : Nat) (bits : Bits) (output : Array UInt8) : Expansion :=
  match kind with
  | 0 => expandStored bits output
  | 1 =>
    match fixedCodes? with
    | some (literals, distances) => expandSymbols literals distances bits.length bits output
    | none => (output, none)
  | 2 =>
    match takeCodes? bits with
    | some (literals, distances, bits) =>
      expandSymbols literals distances bits.length bits output
    | none => (output, none)
  | _ => (output, none)

/-- Expands blocks up to the last one; the number bounds how many there are. -/
def expandBlocks : Nat → Bits → Array UInt8 → Array UInt8
  | 0, _, output => output
  | fuel + 1, bits, output =>
    match takeNumber? 1 bits, takeNumber? 2 (bits.drop 1) with
    | some (last, _), some (kind, bits) =>
      match expandBlock kind bits output with
      | (output, some bits) => if last = 1 then output else expandBlocks fuel bits output
      | (output, none) => output
    | _, _ => output

/-- Expands data without a header. -/
def inflate (bytes : List UInt8) : List UInt8 :=
  (expandBlocks (8 * bytes.length) (bitsOf bytes) #[]).toList

/-- Expands data behind a header of two bytes, which name the method and check each other. What
stands behind the data is not looked at. -/
def expand : List UInt8 → List UInt8
  | method :: flags :: rest =>
    let (m, f) := (method.toNat, flags.toNat)
    if m % 16 = 8 && m / 16 ≤ 7 && (256 * m + f) % 31 = 0 && !f.testBit 5 then inflate rest
    else []
  | _ => []

end Vitae.Compression
