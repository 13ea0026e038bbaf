import Vitae.Pdf.Writer
import Vitae.Watermark

/-!
A PDF document with its stamps. All its objects are written anew, packed ones on their own; every
page draws its stamp over its content.
-/

namespace Vitae.Pdf

open Decimal (Binary64 Number)
open Text.Utf8 (Bytes)

def entriesOf (value : Option Value) : Entries := (value.bind Value.entries?).getD []

def put (key : String) (value : Value) (entries : Entries) : Entries :=
  entries.filter (fun entry => entry.1 ≠ key) ++ [(key, value)]

/-- The value under a key with a reference followed; one that leads nowhere counts as none. -/
def File.entry (f : File) (key : String) (entries : Entries) : Option Value :=
  (Value.under? key entries).bind fun value => (f.resolve value).toOption.join

/-- Adds resources of a kind. -/
def File.putResources (f : File) (kind : String) (added resources : Entries) : Entries :=
  put kind (.dictionary (added.foldl (fun entries (name, value) => put name value entries)
    (entriesOf (f.entry kind resources)))) resources

/-- Widths of the printable ASCII characters in bold Helvetica, in thousandths of the font size. -/
def boldWidths : List Nat := [
  278, 333, 474, 556, 556, 889, 722, 238, 333, 333, 389, 584, 278, 333, 278, 278,
  556, 556, 556, 556, 556, 556, 556, 556, 556, 556, 333, 333, 584, 584, 584, 611,
  975, 722, 722, 722, 722, 667, 611, 778, 722, 278, 556, 722, 611, 833, 722, 778,
  667, 778, 722, 667, 611, 722, 667, 944, 667, 667, 611, 333, 278, 333, 584, 556,
  333, 556, 611, 556, 611, 556, 333, 611, 611, 278, 278, 556, 278, 889, 611, 611,
  611, 611, 389, 556, 333, 611, 556, 778, 556, 556, 500, 389, 280, 389, 584]

/-- The width of a code in thousandths of the font size; other glyphs count as wide as most letters.
-/
def codeWidth (face : Typeface) (code : Char) : Nat :=
  match face with
  | .bold => (boldWidths[code.toNat - 32]?).getD 611
  | _ => 611

def fragmentsWidth (fragments : List Fragment) : Nat :=
  fragments.foldl (fun width f => f.codes.foldl (fun w code => w + codeWidth f.face code) width) 0

/-- The name that a page knows a face by. -/
def Typeface.resourceName : Typeface → String
  | .bold => "WatermarkBold"
  | .symbol => "WatermarkSymbol"
  | .ornament => "WatermarkOrnament"

def Typeface.all : List Typeface := [.bold, .symbol, .ornament]

/-- Only the letters of the bold face have codes that are not its own. -/
def Typeface.font (face : Typeface) : Value :=
  .dictionary ([("Type", .name "Font"), ("Subtype", .name "Type1"),
    ("BaseFont", .name face.fontName)]
      ++ if face = .bold then [("Encoding", .name "WinAnsiEncoding")] else [])

def stateName : String := "Watermark"

/-- Half as opaque as the page itself. -/
def transparency : Value := .dictionary [
  ("Type", .name "ExtGState"), ("ca", .number (.binary (Binary64.ofRatio false 1 2)))]

def numbers (xs : List Binary64) : String :=
  " ".intercalate (xs.map fun x => numberText (.binary x))

def fragmentChars (size : Binary64) (f : Fragment) : List Char :=
  ("/" ++ f.face.resourceName ++ " " ++ numbers [size] ++ " Tf\n").toList ++ textChars f.codes
    ++ " Tj\n".toList

def markChars (mark : Mark) : List Char :=
  let h := Watermark.halfRoot
  let width := Binary64.ofInt (fragmentsWidth mark.fragments)
  let start := (-mark.fontSize * width).divNat 2000
  ("q\n" ++ numbers [h, h, -h, h, mark.x, mark.y] ++ " cm\nBT\n"
    ++ numbers [start, mark.baseline] ++ " Td\n").toList
    ++ mark.fragments.flatMap (fragmentChars mark.fontSize) ++ "ET\nQ\n".toList

/-- The content that draws a stamp, after the state of the page's own content is left behind. -/
def stampChars (stamp : PageStamp) : List Char :=
  let g := Watermark.grey
  ("Q\nq\n/" ++ stateName ++ " gs\n" ++ numbers [g, g, g] ++ " rg\n").toList
    ++ stamp.marks.flatMap markChars ++ ['Q']

/-- The objects that all stamps have in common, and what they are called on a page. -/
structure Shared where
  opening : Ref
  fonts : Entries
  states : Entries

/-- The content of a page, as the streams that it consists of. -/
def File.contents (f : File) (entries : Entries) : List Value :=
  match Value.under? "Contents" entries, f.entry "Contents" entries with
  | _, some (.list items) => items
  | some contents, some _ => [contents]
  | _, _ => []

/-- A page whose content is followed by a stream, with what that one needs. -/
def File.stampedEntries (f : File) (shared : Shared) (page : Page) (stamp : Ref) : Value :=
  let resources := f.putResources "ExtGState" shared.states
    (f.putResources "Font" shared.fonts (entriesOf (f.entry "Resources" page.entries)))
  let contents := .reference shared.opening :: f.contents page.entries ++ [.reference stamp]
  .dictionary (put "Contents" (.list contents) (put "Resources" (.dictionary resources)
    page.entries))

/-- The numbers of all objects of a file, each once. -/
def File.refs (f : File) : List Ref :=
  let packed : List Ref := f.packs.map fun (id, _) => ⟨id, 0⟩
  ((f.places.map Prod.fst ++ packed).filter fun r => 0 < r.id).eraseDups

/-- Whether a value only serves to find objects. -/
def isBookkeeping : Value → Bool
  | .stream entries _ =>
    (Value.under? "Type" entries).any fun type => type.isWord "XRef" || type.isWord "ObjStm"
  | _ => false

/-- The objects of a file that are not replaced. What cannot be read is nothing. -/
def File.keptObjects (f : File) (replaced : List Ref) : List Object :=
  (f.refs.filter fun r => !replaced.contains r).filterMap fun r =>
    let value := ((f.object r).toOption.join).getD .null
    if isBookkeeping value then none else some ⟨r, value⟩

/-- The first number that no object has. -/
def File.freeId (f : File) : Int :=
  f.refs.foldl (fun free r => max free (r.id + 1)) ((f.size.toOption).getD 1 |> max 1)

/-- The objects that stamp pages, with numbers from a free one on, and the first number after. -/
def File.stampObjects (f : File) (free : Int) (pages : List (Page × Ref × PageStamp)) :
    List Object :=
  let ref := fun (n : Nat) => (⟨free + n, 0⟩ : Ref)
  let fonts := Typeface.all.zipIdx.map fun (face, i) => (face, ref (2 + i))
  let shared : Shared := {
    opening := ref 0
    states := [(stateName, .reference (ref 1))]
    fonts := fonts.map fun (face, r) => (face.resourceName, .reference r) }
  [⟨ref 0, .stream [] ['q']⟩, ⟨ref 1, transparency⟩]
    ++ fonts.map (fun (face, r) => ⟨r, face.font⟩)
    ++ pages.zipIdx.flatMap fun ((page, r, stamp), i) =>
      [⟨r, f.stampedEntries shared page (ref (5 + i))⟩,
        ⟨ref (5 + i), .stream [] (stampChars stamp)⟩]

/-- The trailer of a file that is written anew. -/
def File.newTrailer (f : File) (size : Int) : Entries :=
  ("Size", .number (.whole size))
    :: f.trailer.filter fun (key, _) => ["Root", "Info", "ID"].contains key

/-- A document with its stamps, one for each page; none if a page cannot be found again. -/
def stamped? (document : Bytes) (stamps : List PageStamp) : Option Bytes := do
  let f ← (openFile (document.map fun b => Char.ofNat b.toNat)).toOption
  let pages ← f.pages.toOption
  if pages.length ≠ stamps.length then none
  let drawn ← (pages.zip stamps).mapM fun (page, stamp) => return (page, ← page.ref, stamp)
  let free := f.freeId
  let objects := f.stampObjects free drawn
  let all := f.keptObjects (objects.map Object.ref) ++ objects
  let chars := fileChars all (f.newTrailer (free + 5 + pages.length))
  return chars.map fun c => UInt8.ofNat c.toNat

end Vitae.Pdf
