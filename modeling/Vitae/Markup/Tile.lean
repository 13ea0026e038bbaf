import Vitae.Markup.Html
import Vitae.Text.Percent

/-!
The tile that a protected preview is covered with: a small drawing of a text at an angle, as an
address that holds all of its data.
-/

namespace Vitae

namespace Tile

def scheme : String := "data:image/svg+xml;charset=utf-8,"

def drawing (text : String) : Html :=
  .paired "svg" [("xmlns", "http://www.w3.org/2000/svg"), ("width", "320"), ("height", "220")]
    [.paired "text" [("x", "160"), ("y", "110"), ("transform", "rotate(-45 160 110)"),
        ("text-anchor", "middle"), ("dominant-baseline", "middle"),
        ("font-family", "Helvetica, Arial, sans-serif"), ("font-size", "28"),
        ("font-weight", "700"), ("fill", "#000000"), ("fill-opacity", "0.08")]
      [.text text]]

def addressChars (text : String) : List Char :=
  scheme.toList ++ Text.Percent.encodeChars ((drawing text).chars Html.escapeMarkup)

/-- The address of the tile with a text. -/
def address (text : String) : String := String.ofList (addressChars text)

end Tile

end Vitae
