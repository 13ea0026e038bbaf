import Vitae.Element.Basic
import Vitae.Style.Choices

/-!
The body of a document before it is written out: a header and sections, each in a column.
-/

namespace Vitae

/-- Where a section is shown; a section in any other column is not shown at all. -/
inductive Column where
  | main
  | sidebar
  | other (word : String)
  deriving DecidableEq, Repr

def Column.ofWord (word : String) : Column :=
  if word = "main" then .main else if word = "sidebar" then .sidebar else .other word

def Column.word : Column → String
  | .main => "main"
  | .sidebar => "sidebar"
  | .other word => word

structure SectionTree where
  kind : SectionKind
  column : Column
  root : Element
  deriving BEq, Repr

structure DocumentTree where
  header : Element
  sections : List SectionTree
  deriving BEq, Repr

namespace DocumentTree

/-- The header and the roots of the sections. -/
def roots (d : DocumentTree) : List Element := d.header :: d.sections.map SectionTree.root

/-- All heads, those of the header first. -/
def walk (d : DocumentTree) : List ElementHead := Element.walkAll d.roots

def mapRoots (f : Element → Element) (d : DocumentTree) : DocumentTree :=
  { header := f d.header
    sections := d.sections.map fun s => { s with root := f s.root } }

def mapHeads (f : ElementHead → ElementHead) (d : DocumentTree) : DocumentTree :=
  d.mapRoots (Element.mapHeads f)

end DocumentTree

end Vitae
