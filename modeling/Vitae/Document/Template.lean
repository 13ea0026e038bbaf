import Vitae.Fault
import Vitae.Text.Path

/-!
The templates that documents are put together from, by the names of their files.
-/

namespace Vitae

inductive Template where
  | sheet
  | page
  | editScript
  | protectionScript
  deriving DecidableEq, Repr

namespace Template

def file : Template → String
  | .sheet => "base.css"
  | .page => "document.html"
  | .editScript => "edit_mode.js"
  | .protectionScript => "protection.js"

def all : List Template := [.sheet, .page, .editScript, .protectionScript]

/-- The name of a template, which has to be a text. A list or an object cannot even be looked up. -/
def nameOf : Json → Checked String
  | .string s => .ok s
  | .list _ | .object _ => .error (.misuse .wrongType)
  | _ => .error (.misuse .noMembers)

/-- The template whose file a name leads to. All files are in one place, so only pieces that say
nothing can stand beside the file's own name. -/
def named (name : String) : Checked Template :=
  match all.find? fun t => Text.pathPieces name == [t.file] with
  | some t => .ok t
  | none => .error (.render (.unknownTemplate name (all.map file)))

/-- Whether what is put into a template under this name is escaped, which goes by how the name
ends. -/
def escapes (name : String) : Bool := ".html".toList.isSuffixOf name.toList

end Template

end Vitae
