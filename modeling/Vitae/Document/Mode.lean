import Vitae.Vocabulary

/-!
The modes a document is rendered in.
-/

namespace Vitae

inductive RenderMode where
  | interactive
  | exported
  | previewProtected
  deriving DecidableEq, Repr

def RenderMode.word : RenderMode → String
  | .interactive => "interactive"
  | .exported => "export"
  | .previewProtected => "preview-protected"

def RenderMode.all : List RenderMode :=
  [.interactive, .exported, .previewProtected]

instance : Vocabulary RenderMode := ⟨RenderMode.all, RenderMode.word⟩

end Vitae
