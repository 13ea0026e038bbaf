/-!
White space in the Unicode sense: the characters with a space, a paragraph or a segment break as
their direction or category. Trimming, splitting into words and splitting into lines all use it.
-/

namespace Vitae.Text

def isBlank (c : Char) : Bool :=
  let n := c.toNat
  (9 ≤ n && n ≤ 13) || (28 ≤ n && n ≤ 32) || n == 0x85 || n == 0xa0 || n == 0x1680
    || (0x2000 ≤ n && n ≤ 0x200a) || n == 0x2028 || n == 0x2029 || n == 0x202f || n == 0x205f
    || n == 0x3000

/-- Characters that end a line on their own. A carriage return and a line feed in a row end one
line together. -/
def isLineBreak (c : Char) : Bool :=
  let n := c.toNat
  (10 ≤ n && n ≤ 13) || (28 ≤ n && n ≤ 30) || n == 0x85 || n == 0x2028 || n == 0x2029

def trimLeft (cs : List Char) : List Char := cs.dropWhile isBlank

def trimRight (cs : List Char) : List Char := (cs.reverse.dropWhile isBlank).reverse

def trimChars (cs : List Char) : List Char := trimRight (trimLeft cs)

def trim (s : String) : String := String.ofList (trimChars s.toList)

/-- Nothing but white space, the empty text included. -/
def isBlankText (s : String) : Bool := s.toList.all isBlank

/-- A text that may be left out. An empty one counts as left out. -/
def unlessEmpty (text : Option String) : Option String := text.filter fun s => !s.isEmpty

/-- A word read backwards, as a list that is empty when no word was begun. -/
def closeWord (backwards : List Char) : List (List Char) :=
  if backwards.isEmpty then [] else [backwards.reverse]

def wordsFrom (backwards : List Char) : List Char → List (List Char)
  | [] => closeWord backwards
  | c :: rest =>
    if isBlank c then closeWord backwards ++ wordsFrom [] rest
    else wordsFrom (c :: backwards) rest

/-- The maximal runs of characters that are not white space, in order. -/
def wordsOf (cs : List Char) : List (List Char) := wordsFrom [] cs

def words (s : String) : List String := (wordsOf s.toList).map String.ofList

def linesFrom (backwards : List Char) : List Char → List (List Char)
  | [] => closeWord backwards
  | '\r' :: '\n' :: rest => backwards.reverse :: linesFrom [] rest
  | c :: rest =>
    if isLineBreak c then backwards.reverse :: linesFrom [] rest
    else linesFrom (c :: backwards) rest

/-- Lines without their ends. A line end at the very end starts no further line. -/
def linesOf (cs : List Char) : List (List Char) := linesFrom [] cs

def lines (s : String) : List String := (linesOf s.toList).map String.ofList

end Vitae.Text
