import Vitae.Fault
import Vitae.Text.Blank

/-!
Declarations that authors add for a zone of the document. Whatever could close the rule, open a
comment or end the style element is taken out, until none of it is left.
-/

namespace Vitae.Style

def isCssMark (c : Char) : Bool := c == '<' || c == '>' || c == '\x7b' || c == '\x7d'

/-- Takes out the marks and the comment signs as they stand, from left to right. -/
def stripMarks : List Char → List Char
  | [] => []
  | '/' :: '*' :: rest => stripMarks rest
  | '*' :: '/' :: rest => stripMarks rest
  | c :: rest => if isCssMark c then stripMarks rest else c :: stripMarks rest

/-- Taking one sign out can join its neighbours into another, so the pass is repeated until it
changes nothing. -/
def cleanDeclarations (cs : List Char) : List Char :=
  if (stripMarks cs).length < cs.length then cleanDeclarations (stripMarks cs) else cs
termination_by cs.length

def sanitizeChars (cs : List Char) : List Char := Text.trimChars (cleanDeclarations cs)

/-- The safe part of the text given for a zone. -/
def sanitize (zone : String) (value : Json) : Checked String :=
  match value with
  | .string s => .ok (String.ofList (sanitizeChars s.toList))
  | _ => .error (.configuration (.styleRuleExpected zone))

end Vitae.Style
