import Vitae.Text.Split

/-!
Names of files, as pieces between slashes. Empty pieces and single dots say nothing.
-/

namespace Vitae.Text

def pathPieces (path : String) : List String :=
  ((splitChars '/' path.toList).map String.ofList).filter fun piece => piece ≠ "" && piece ≠ "."

def isAbsolute (path : String) : Bool := "/".toList.isPrefixOf path.toList

/-- What an absolute name starts with. Exactly two slashes are kept apart from one. -/
def pathRoot (path : String) : String :=
  match path.toList with
  | ['/', '/'] => "//"
  | '/' :: '/' :: c :: _ => if c = '/' then "/" else "//"
  | '/' :: _ => "/"
  | _ => ""

/-- The name that consists of some pieces after a root. -/
def pathOf (root : String) (pieces : List String) : String :=
  let text := root ++ "/".intercalate pieces
  if text.isEmpty then "." else text

/-- A name without the pieces that say nothing. -/
def tidyPath (path : String) : String := pathOf (pathRoot path) (pathPieces path)

/-- The directory that a named file belongs in. -/
def parentPath (path : String) : String := pathOf (pathRoot path) (pathPieces path).dropLast

/-- The directories that a name runs through, the outermost first. -/
def pathParents (path : String) : List String :=
  let pieces := pathPieces path
  (List.range pieces.length).map fun n => pathOf (pathRoot path) (pieces.take n)

end Vitae.Text
