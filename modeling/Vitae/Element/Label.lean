import Vitae.Text.Blank

/-!
Labels: short texts that name an element for whoever edits it. Words are one space apart, and what
does not fit ends in an ellipsis.
-/

namespace Vitae

def labelLimit : Nat := 50

def ellipsis : Char := '…'

def joinWords (words : List (List Char)) : List Char := [' '].intercalate words

def shorten (limit : Nat) (cs : List Char) : List Char :=
  if cs.length ≤ limit then cs else cs.take (limit - 1) ++ [ellipsis]

def labelChars (cs : List Char) : List Char := shorten labelLimit (joinWords (Text.wordsOf cs))

def labelOf (s : String) : String := String.ofList (labelChars s.toList)

end Vitae
