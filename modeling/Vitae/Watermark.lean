import Vitae.Pdf.Page
import Vitae.Pdf.Typeface

/-!
The watermark of a PDF document: on every page the text stands three times, turned by 45 degrees, in
a size that goes with the page. Writing a document rounds the corners of its pages, which must not
change their sizes.
-/

namespace Vitae

open Decimal (Binary64)
open Pdf (Fragment PageGeometry)
open Text.Utf8 (Bytes)

/-- One occurrence of the text: the point it is centred on, how far below that point, in the turned
frame, its base line is, and the pieces it is set in. -/
structure Mark where
  x : Binary64
  y : Binary64
  fontSize : Binary64
  baseline : Binary64
  fragments : List Fragment
  deriving DecidableEq, Repr

/-- What is drawn on one page. -/
structure PageStamp where
  geometry : PageGeometry
  marks : List Mark
  deriving DecidableEq, Repr

namespace Watermark

/-- The sine and the cosine of the angle the text is turned by. -/
def halfRoot : Binary64 := Binary64.ofRatio false 707107 1000000

/-- The grey of the text, the same for red, green and blue. -/
def grey : Binary64 := Binary64.ofRatio false 85 100

/-- The anchors as quarters of the width and of the height. -/
def anchors : List (Nat × Nat) := [(2, 2), (1, 3), (3, 1)]

/-- The decimals that a number is drawn with: fewer, the more digits it has before its point. -/
def drawnPlaces (x : Binary64) : Nat :=
  match x.abs.ratio? with
  | some (n, d) => 6 - ((Nat.toDigits 10 (n.toNat / d)).length - 1)
  | none => 0

/-- A number as it is drawn. -/
def drawn (x : Binary64) : Binary64 :=
  match x with
  | .finite s _ _ =>
    match x.abs.ratio? with
    | some (n, d) =>
      let places := drawnPlaces x
      Binary64.ofRatio s (Decimal.roundDiv (n.toNat * Nat.pow 10 places) d) (Nat.pow 10 places)
    | none => x
  | _ => x

def quarters (x : Binary64) (count : Nat) : Binary64 := x * Binary64.ofRatio false count 4

def fontSize (p : PageGeometry) : Binary64 :=
  (if Binary64.lt p.height p.width then p.height else p.width).divNat 8

/-- An occurrence on a page, whose origin is as it was written. -/
def mark (p : PageGeometry) (left bottom : Binary64) (text : String) (anchor : Nat × Nat) : Mark :=
  let size := fontSize p
  { x := drawn (quarters p.width anchor.1) + left
    y := drawn (quarters p.height anchor.2) + bottom
    fontSize := drawn size
    baseline := drawn ((-size).divNat 3)
    fragments := Pdf.fragments text }

/-- The stamp of a page, which is drawn for the page as it was before. -/
def stampPage (text : String) (before after : PageGeometry) : PageStamp :=
  ⟨after, anchors.map (mark before after.left after.bottom text)⟩

/-- The text as it is drawn; there has to be something of it. -/
def textOf (text : String) : Checked String :=
  if Text.isBlankText text then .error (.watermark .blankText) else .ok (Text.trim text)

/-- Sizes stay the same; the pages are numbered from the given one on. -/
def checkSizes (page : Nat) : List (PageGeometry × PageGeometry) → Checked Unit
  | [] => .ok ()
  | (before, after) :: rest =>
    if before.sameSize after then checkSizes (page + 1) rest
    else
      .error (.watermark
        (.resized page (before.width, before.height) (after.width, after.height)))

/-- The stamps for a document that is still to be read. The text is looked at first. -/
def stamp (text : String) (document : Checked Pdf.Document) : Checked (List PageStamp) := do
  let text ← textOf text
  let document ← document
  document.check
  let before ← document.geometry .unstampable
  Pdf.foreseen .unstampable document.writable
  let after ← document.written.geometry .unreadableGeometry
  let pages := before.zip after
  checkSizes 1 pages
  return pages.map fun (before, after) => stampPage text before after

end Watermark

end Vitae
