/-!
Splitting a text at every occurrence of one character.
-/

namespace Vitae.Text

/-- The pieces between the occurrences of a character; one more than there are occurrences. -/
def splitChars (separator : Char) : List Char → List (List Char)
  | [] => [[]]
  | c :: rest =>
    if c = separator then [] :: splitChars separator rest
    else
      match splitChars separator rest with
      | [] => [[c]]
      | piece :: pieces => (c :: piece) :: pieces

end Vitae.Text
