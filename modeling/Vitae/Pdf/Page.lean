import Vitae.Pdf.Encryption

/-!
The pages of a PDF file and their sizes. A page lies within its media box, which is its own or the
one that was met last on the way through the tree of pages.
-/

namespace Vitae.Pdf

open Decimal (Binary64 Number)
open Text.Utf8 (Bytes)

/-- Size and origin of a page, in points. -/
structure PageGeometry where
  width : Binary64
  height : Binary64
  left : Binary64 := Binary64.zero
  bottom : Binary64 := Binary64.zero
  deriving DecidableEq, Repr

/-- How far sizes may be apart and still count as the same. -/
def sizeTolerance : Binary64 := Binary64.ofRatio false 1 100

/-- Whether two lengths are the same. Whole ones are compared exactly. -/
def sameLength (x y : Number) : Checked Bool := return (← x.sub y).abs.le (.binary sizeTolerance)

/-- Whether width and height are the same. The heights are only looked at if the widths are. -/
def sameSize (p q : Json × Json) : Checked Bool := do
  if !(← sameLength (← Number.ofJson p.1) (← Number.ofJson q.1)) then return false
  sameLength (← Number.ofJson p.2) (← Number.ofJson q.2)

def PageGeometry.sameSize (p q : PageGeometry) : Bool :=
  Binary64.le (p.width - q.width).abs sizeTolerance
    && Binary64.le (p.height - q.height).abs sizeTolerance

/-- The corners of a page. -/
structure Box where
  left : Number
  bottom : Number
  right : Number
  top : Number
  deriving DecidableEq, Repr

namespace Box

def geometry (box : Box) : Checked PageGeometry := do
  let width ← (← box.right.sub box.left).toBinary
  let height ← (← box.top.sub box.bottom).toBinary
  return ⟨width, height, ← box.left.toBinary, ← box.bottom.toBinary⟩

/-- A number as it is read again after it was written. -/
def reread : Number → Number
  | .whole n => .whole n
  | .binary x => numberOf (numberText (.binary x)).toList

/-- The corners as they are read again after the page was written. -/
def written (box : Box) : Box :=
  ⟨reread box.left, reread box.bottom, reread box.right, reread box.top⟩

end Box

/-- A page: the object it is, unless it is part of another one, and its entries together with those
that it takes over from above. -/
structure Page where
  ref : Option Ref
  entries : Entries
  deriving Repr

/-- The keys that a page takes over. -/
def inheritedKeys : List String := ["Resources", "MediaBox", "CropBox", "Rotate"]

/-- What pages take over. A value that leads nowhere is kept as none. -/
abbrev Legacy := List (String × Option Value)

namespace File

/-- Adds what a node hands on. It holds for all pages that come later, also outside of the node. -/
def handOn (f : File) (entries : Entries) (legacy : Legacy) : Except Flaw Legacy :=
  inheritedKeys.foldlM (fun legacy key => do
    match Value.under? key entries with
    | none => return legacy
    | some value =>
      return (key, ← f.resolve value) :: legacy.filter fun (other, _) => other ≠ key) legacy

/-- The entries of a page with what it takes over where it has nothing of its own. -/
def inherit (entries : Entries) (legacy : Legacy) : Except Flaw Entries :=
  legacy.foldlM (fun entries (key, value) =>
    if (Value.under? key entries).isSome then .ok entries
    else
      match value with
      | some value => .ok (entries ++ [(key, value)])
      | none => .error (.badValue "value must be PdfObject")) entries

/-- What a node of the tree is. One that does not say so is known by its children. -/
def nodeType (f : File) (entries : Entries) : Except Flaw (Option Value) :=
  match Value.under? "Type" entries with
  | some type => f.resolve type
  | none =>
    .ok (some (.name (if (Value.under? "Kids" entries).isSome then "Pages" else "Page")))

/-- A child that is no dictionary. An empty one is passed over. -/
def checkOddChild (legacy : Legacy) : Value → Except Flaw Unit
  | .text bytes => if bytes.isEmpty then .ok () else refused
  | .name _ => refused
  | value => if value.isFull then .error (.misuse .wrongType) else .ok ()
where
  refused : Except Flaw Unit :=
    if legacy.isEmpty then .error (.badValue "A page is a text")
    else .error (.misuse .wrongType)

/-- The pages under a node, which is at most so many levels high, and what is handed on by then. -/
def pagesUnder (f : File) : Nat → Entries → Option Ref → Legacy →
    Except Flaw (Legacy × List Page)
  | 0, _, _, _ => .error tooDeep
  | height + 1, entries, ref, legacy => do
    let type ← f.nodeType entries
    if type.any (Value.isWord "Pages") then
      let legacy ← f.handOn entries legacy
      match ← required f.resolve "Kids" entries with
      | some (.list kids) =>
        kids.foldlM (fun (legacy, pages) kid => do
          let ref := match kid with
            | .reference r => some r
            | _ => none
          match ← f.resolve kid with
          | none => return (legacy, pages)
          | some child =>
            match child.entries? with
            | some [] => return (legacy, pages)
            | some entries =>
              let (legacy, more) ← pagesUnder f height entries ref legacy
              return (legacy, pages ++ more)
            | none =>
              checkOddChild legacy child
              return (legacy, pages)) (legacy, [])
      | _ => throw (.malformed "The children of a node are no list")
    else if type.any (Value.isWord "Page") then
      return (legacy, [⟨ref, ← inherit entries legacy⟩])
    else return (legacy, [])

/-- Higher trees are not read. -/
def treeHeight : Nat := 900

def isCatalog (entries : Entries) : Bool :=
  (Value.under? "Type" entries).any (Value.isWord "Catalog")

/-- The first object that is a catalog. -/
def findCatalog? (f : File) : Nat → Int → Option Entries
  | 0, _ => none
  | count + 1, id =>
    let found := (f.object ⟨id, 0⟩).toOption.join.bind Value.entries?
    match found.filter isCatalog with
    | some entries => some entries
    | none => findCatalog? f count (id + 1)

/-- So many objects are searched for a catalog. -/
def searchLimit : Nat := 10000

/-- The size that the trailer tells. -/
def size (f : File) : Except Flaw Int :=
  match Value.under? "Size" f.trailer with
  | none => .ok 0
  | some (.number (.whole n)) => .ok n
  | some _ => .error (.misuse .wrongType)

/-- The catalog that the trailer names. Where that one does not say that it is one, the first object
that does is taken, or else the named one if it has pages. -/
def catalog (f : File) : Except Flaw Entries := do
  let root ← (Value.under? "Root" f.trailer).elim (.ok none) f.resolve
  let named ← match root with
    | none => pure none
    | some .null => pure none
    | some value =>
      match value.entries? with
      | some entries => pure (some entries)
      | none => throw (.misuse .noMembers)
  match named.filter isCatalog with
  | some entries => return entries
  | none =>
    let size ← f.size
    if (searchLimit : Int) < size then throw (.malformed "Too many objects for a search")
    match f.findCatalog? size.toNat 1 with
    | some entries => return entries
    | none =>
      match named.filter fun entries => (Value.under? "Pages" entries).isSome with
      | some entries => return entries
      | none => throw (.malformed "Cannot find Root object in pdf")

/-- All pages in order. -/
def pages (f : File) : Except Flaw (List Page) := do
  let some tree := Value.under? "Pages" (← f.catalog) | throw (.misuse .noMembers)
  match (← f.resolve tree).bind Value.entries? with
  | some entries => return (← f.pagesUnder treeHeight entries none []).2
  | none => throw (.malformed "Invalid object in /Pages")

/-- A corner of a box. What is no number counts as zero. -/
def corner (f : File) (value : Value) : Number :=
  match value with
  | .number n => n
  | .text bytes => .binary (ofText bytes)
  | .reference r =>
    match (f.object r).toOption.join with
    | some (.number (.whole n)) =>
      .binary (if (Binary64.ofInt n).isFinite then Binary64.ofInt n else Binary64.zero)
    | some (.number n) => n
    | some (.text bytes) => .binary (ofText bytes)
    | _ => .binary Binary64.zero
  | _ => .binary Binary64.zero
where
  ofText (bytes : List Char) : Binary64 :=
    (decimal? (Text.trimChars (decodeText bytes).toList)).getD Binary64.zero

/-- The media box of a page. -/
def box (f : File) (page : Page) : Except Flaw Box := do
  match ← (Value.under? "MediaBox" page.entries).elim (.ok (some .null)) f.resolve with
  | none => throw (.malformed (noList ++ "None"))
  | some (.list items) =>
    match items with
    | left :: bottom :: right :: top :: _ =>
      return ⟨f.corner left, f.corner bottom, f.corner right, f.corner top⟩
    | _ =>
      throw (.malformed ("Expected four values for /MediaBox, got "
        ++ Decimal.natText items.length ++ ": " ++ (Value.list items).shown))
  | some value => throw (.malformed (noList ++ value.shown))
where
  noList : String := "Expected an array of four values for /MediaBox, got "

end File

/-- What a file has to be known of before it is stamped. -/
structure Document where
  isEncrypted : Bool
  /-- The box of each page, unless it has none. -/
  boxes : List (Except Flaw Box)
  /-- What keeps the document from being written anew, if anything does. -/
  writable : Except Flaw Unit := .ok ()

namespace Document

/-- A document that can be stamped is not encrypted and has pages. -/
def check (d : Document) : Checked Unit :=
  if d.isEncrypted then .error (.watermark .encrypted)
  else if d.boxes.isEmpty then .error (.watermark .noPages)
  else .ok ()

/-- A file can be written anew if it tells its size, and if its catalog and its pages are objects of
their own. -/
def writability (f : File) (pages : List Page) : Except Flaw Unit := do
  match Value.under? "Size" f.trailer with
  | none => throw (.absentKey "Size")
  | some value =>
    match ← f.resolve value with
    | some (.number (.whole _)) => pure ()
    | _ => throw (.misuse .wrongType)
  match Value.under? "Root" f.trailer with
  | some (.dictionary _) => throw (.misuse .noMembers)
  | _ => if !pages.all fun page => page.ref.isSome then throw (.misuse .noMembers)

def ofFile (f : File) : Except Flaw Document := do
  if ← f.isEncrypted then return ⟨true, [], .ok ()⟩
  let pages ← f.pages
  return ⟨false, pages.map f.box, writability f pages⟩

def ofBytes (bytes : Bytes) : Checked Document :=
  if bytes.isEmpty then .error (.watermark .emptyDocument)
  else
    foreseen (fun _ => .unreadable) do
      ofFile (← openFile (bytes.map fun b => Char.ofNat b.toNat))

/-- The document as it is read again after it was written. -/
def written (d : Document) : Document :=
  { d with boxes := d.boxes.map fun box => box.map Box.written }

/-- The geometry of every page; what is wrong with a box hinders what it is needed for. -/
def geometry (d : Document) (hindered : String → WatermarkFault) : Checked (List PageGeometry) := do
  d.check
  d.boxes.mapM fun box => do (← foreseen hindered box).geometry

end Document

end Vitae.Pdf
