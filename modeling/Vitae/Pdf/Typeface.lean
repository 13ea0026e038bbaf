import Vitae.Pdf.Charset

/-!
The faces a text is set in. Each face has codes for some characters only, so a text is set in
pieces: what the bold face lacks is set in the face of symbols, what that one lacks in the face of
ornaments, and a filled square stands for what none of them has.
-/

namespace Vitae.Pdf

inductive Typeface where
  | bold
  | symbol
  | ornament
  deriving DecidableEq, Repr

/-- A piece of text in one face, as the codes of its glyphs. -/
structure Fragment where
  face : Typeface
  codes : List Char
  deriving DecidableEq, Repr

/-- The text that the codes read back as, without regard to the face. -/
def Fragment.text (f : Fragment) : String := decodeText f.codes

namespace Typeface

def fontName : Typeface → String
  | bold => "Helvetica-Bold"
  | symbol => "Symbol"
  | ornament => "ZapfDingbats"

/-- The characters of the bold face that have other codes than their own, from code 0x80 on; a zero
stands for a code without a character. -/
def boldSigns : List Nat := [
  0x20ac, 0, 0x201a, 0x192, 0x201e, 0x2026, 0x2020, 0x2021, 0x2c6, 0x2030, 0x160, 0x2039, 0x152, 0,
  0x17d, 0, 0, 0x2018, 0x2019, 0x201c, 0x201d, 0, 0x2013, 0x2014, 0x2dc, 0x2122, 0x161, 0x203a,
  0x153, 0, 0x17e, 0x178]

/-- The characters of the symbol face from code 0x20 on. -/
def symbolLow : List Nat := [
  0x20, 0x21, 0x2200, 0x23, 0x2203, 0x25, 0x26, 0x220b, 0x28, 0x29, 0x2217, 0x2b, 0x2c, 0x2212,
  0x2e, 0x2f, 0x30, 0x31, 0x32, 0x33, 0x34, 0x35, 0x36, 0x37, 0x38, 0x39, 0x3a, 0x3b, 0x3c, 0x3d,
  0x3e, 0x3f, 0x2245, 0x391, 0x392, 0x3a7, 0x2206, 0x395, 0x3a6, 0x393, 0x397, 0x399, 0x3d1, 0x39a,
  0x39b, 0x39c, 0x39d, 0x39f, 0x3a0, 0x398, 0x3a1, 0x3a3, 0x3a4, 0x3a5, 0x3c2, 0x2126, 0x39e, 0x3a8,
  0x396, 0x5b, 0x2234, 0x5d, 0x22a5, 0x5f, 0xf8e5, 0x3b1, 0x3b2, 0x3c7, 0x3b4, 0x3b5, 0x3c6, 0x3b3,
  0x3b7, 0x3b9, 0x3d5, 0x3ba, 0x3bb, 0xb5, 0x3bd, 0x3bf, 0x3c0, 0x3b8, 0x3c1, 0x3c3, 0x3c4, 0x3c5,
  0x3d6, 0x3c9, 0x3be, 0x3c8, 0x3b6, 0x7b, 0x7c, 0x7d, 0x223c]

/-- The characters of the symbol face from code 0xa0 on. -/
def symbolHigh : List Nat := [
  0x20ac, 0x3d2, 0x2032, 0x2264, 0x2044, 0x221e, 0x192, 0x2663, 0x2666, 0x2665, 0x2660, 0x2194,
  0x2190, 0x2191, 0x2192, 0x2193, 0xb0, 0xb1, 0x2033, 0x2265, 0xd7, 0x221d, 0x2202, 0x2022, 0xf7,
  0x2260, 0x2261, 0x2248, 0x2026, 0xf8e6, 0xf8e7, 0x21b5, 0x2135, 0x2111, 0x211c, 0x2118, 0x2297,
  0x2295, 0x2205, 0x2229, 0x222a, 0x2283, 0x2287, 0x2284, 0x2282, 0x2286, 0x2208, 0x2209, 0x2220,
  0x2207, 0xf6da, 0xf6d9, 0xf6db, 0x220f, 0x221a, 0x22c5, 0xac, 0x2227, 0x2228, 0x21d4, 0x21d0,
  0x21d1, 0x21d2, 0x21d3, 0x25ca, 0x2329, 0xf8e8, 0xf8e9, 0xf8ea, 0x2211, 0xf8eb, 0xf8ec, 0xf8ed,
  0xf8ee, 0xf8ef, 0xf8f0, 0xf8f1, 0xf8f2, 0xf8f3, 0xf8f4, 0, 0x232a, 0x222b, 0x2320, 0xf8f5,
  0x2321, 0xf8f6, 0xf8f7, 0xf8f8, 0xf8f9, 0xf8fa, 0xf8fb, 0xf8fc, 0xf8fd, 0xf8fe]

/-- Further characters that the symbol face shows as ones that look the same. -/
def symbolTwins : List (Nat × Nat) := [(0x394, 0x44), (0x3a9, 0x57), (0x3bc, 0x6d)]

/-- The characters of the ornament face in rows: the first one, the last one and the first code. -/
def ornamentRows : List (Nat × Nat × Nat) := [
  (0x20, 0x20, 0x20), (0x2701, 0x2704, 0x21), (0x260e, 0x260e, 0x25), (0x2706, 0x2709, 0x26),
  (0x261b, 0x261b, 0x2a), (0x261e, 0x261e, 0x2b), (0x270c, 0x2727, 0x2c), (0x2605, 0x2605, 0x48),
  (0x2729, 0x274b, 0x49), (0x25cf, 0x25cf, 0x6c), (0x274d, 0x274d, 0x6d), (0x25a0, 0x25a0, 0x6e),
  (0x274f, 0x2752, 0x6f), (0x25b2, 0x25b2, 0x73), (0x25bc, 0x25bc, 0x74), (0x25c6, 0x25c6, 0x75),
  (0x2756, 0x2756, 0x76), (0x25d7, 0x25d7, 0x77), (0x2758, 0x275e, 0x78), (0xf8d7, 0xf8e4, 0x80),
  (0x2761, 0x2767, 0xa1), (0x2663, 0x2663, 0xa8), (0x2666, 0x2666, 0xa9), (0x2665, 0x2665, 0xaa),
  (0x2660, 0x2660, 0xab), (0x2460, 0x2469, 0xac), (0x2776, 0x2794, 0xb6), (0x2192, 0x2192, 0xd5),
  (0x2194, 0x2195, 0xd6), (0x2798, 0x27af, 0xd8), (0x27b1, 0x27be, 0xf1)]

/-- The code of a character in a table whose first code is given. -/
def codeIn? (table : List Nat) (first n : Nat) : Option Nat :=
  if n = 0 then none else (table.idxOf? n).map (first + ·)

def boldCode? (n : Nat) : Option Nat :=
  if n = 0xa0 then some 0x20
  else if n = 0x2022 then some 0x7f
  else if (0x20 ≤ n && n < 0x7f) || (0xa1 ≤ n && n ≤ 0xff) then some n
  else codeIn? boldSigns 0x80 n

def symbolCode? (n : Nat) : Option Nat :=
  symbolTwins.lookup n <|> codeIn? symbolLow 0x20 n <|> codeIn? symbolHigh 0xa0 n

def ornamentCode? (n : Nat) : Option Nat :=
  (ornamentRows.find? fun (first, last, _) => first ≤ n && n ≤ last).map
    fun (first, _, code) => code + (n - first)

/-- The code a face has for a character. -/
def code? (face : Typeface) (c : Char) : Option Char :=
  (match face with
    | bold => boldCode? c.toNat
    | symbol => symbolCode? c.toNat
    | ornament => ornamentCode? c.toNat).map Char.ofNat

/-- The code of the filled square in the ornament face. -/
def squareCode : Char := 'n'

end Typeface

/-- Puts a character in front of runs of characters that share a mark. -/
def pushRun (marked : Bool) (c : Char) : List (Bool × List Char) → List (Bool × List Char)
  | [] => [(marked, [c])]
  | (other, run) :: rest =>
    if other = marked then (marked, c :: run) :: rest else (marked, [c]) :: (other, run) :: rest

/-- The longest runs of characters of which a face has either all or none. -/
def runsIn (face : Typeface) (cs : List Char) : List (Bool × List Char) :=
  cs.foldr (fun c runs => pushRun (face.code? c).isSome c runs) []

/-- Sets a text in the first of some faces, and what that one lacks in the next ones. -/
def setIn : List Typeface → List Char → List Fragment
  | [], cs => [⟨.ornament, cs.map fun _ => Typeface.squareCode⟩]
  | face :: faces, cs =>
    (runsIn face cs).flatMap fun (covered, run) =>
      if covered then [⟨face, run.filterMap face.code?⟩] else setIn faces run

/-- A text in pieces, each in the first face that has it. -/
def fragments (text : String) : List Fragment := setIn [.bold, .symbol, .ornament] text.toList

end Vitae.Pdf
