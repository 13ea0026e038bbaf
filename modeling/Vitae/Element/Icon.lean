import Vitae.Content
import Vitae.Element.Basic

/-!
Line icons for the contact fields, drawn on a grid of 24 by 24 in the colour of the text.
-/

namespace Vitae

def ContactField.strokes : ContactField → List (String × List (String × String))
  | .email => [
    ("rect", [("width", "20"), ("height", "16"), ("x", "2"), ("y", "4"), ("rx", "2")]),
    ("path", [("d", "m22 7-8.97 5.7a1.94 1.94 0 0 1-2.06 0L2 7")])]
  | .phone => [
    ("path", [("d", "M22 16.92v3a2 2 0 0 1-2.18 2 19.79 19.79 0 0 1-8.63-3.07 19.5 19.5 0 0 1-6-6 "
      ++ "19.79 19.79 0 0 1-3.07-8.67A2 2 0 0 1 4.11 2h3a2 2 0 0 1 2 1.72 12.84 12.84 0 0 0 "
      ++ ".7 2.81 2 2 0 0 1-.45 2.11L8.09 9.91a16 16 0 0 0 6 6l1.27-1.27a2 2 0 0 1 2.11-.45 "
      ++ "12.84 12.84 0 0 0 2.81.7A2 2 0 0 1 22 16.92z")])]
  | .location => [
    ("path", [("d", "M20 10c0 6-8 12-8 12s-8-6-8-12a8 8 0 0 1 16 0Z")]),
    ("circle", [("cx", "12"), ("cy", "10"), ("r", "3")])]
  | .linkedin => [
    ("path", [("d",
      "M16 8a6 6 0 0 1 6 6v7h-4v-7a2 2 0 0 0-2-2 2 2 0 0 0-2 2v7h-4v-7a6 6 0 0 1 6-6z")]),
    ("rect", [("width", "4"), ("height", "12"), ("x", "2"), ("y", "9")]),
    ("circle", [("cx", "4"), ("cy", "4"), ("r", "2")])]
  | .website => [
    ("circle", [("cx", "12"), ("cy", "12"), ("r", "10")]),
    ("path", [("d", "M2 12h20")]),
    ("path", [("d", "M12 2a15.3 15.3 0 0 1 4 10 15.3 15.3 0 0 1-4 10 15.3 15.3 0 0 1-4-10 "
      ++ "15.3 15.3 0 0 1 4-10z")])]

def iconAttributes : List (String × String) := [
  ("aria-hidden", "true"), ("fill", "none"), ("stroke", "currentColor"),
  ("stroke-linecap", "round"), ("stroke-linejoin", "round"), ("stroke-width", "2"),
  ("viewBox", "0 0 24 24")]

/-- The icon of a contact field. It is not addressed. -/
def ContactField.icon (field : ContactField) : Element :=
  .node { tag := "svg", classes := ["contact-icon"], attributes := iconAttributes }
    (field.strokes.map fun (tag, attributes) => .node { tag, attributes } [])

end Vitae
