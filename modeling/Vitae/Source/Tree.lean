import Vitae.Source.World

/-!
Files held in memory under relative names. The directories are those that the names run through.
-/

namespace Vitae

open Text.Utf8 (Bytes)

structure FileTree where
  files : List (String × Bytes)

namespace FileTree

/-- The pieces of a name once steps up are taken back; none if it leads out of the tree. -/
def resolve? : List String → List String → Option (List String)
  | taken, [] => some taken.reverse
  | taken, ".." :: rest =>
    match taken with
    | [] => none
    | _ :: above => resolve? above rest
  | taken, piece :: rest => resolve? (piece :: taken) rest

def pieces? (path : String) : Option (List String) :=
  if path.isEmpty || Text.isAbsolute path then none else resolve? [] (Text.pathPieces path)

/-- The plain name of a place in the tree. -/
def location? (path : String) : Option String :=
  (pieces? path).map fun pieces => "/".intercalate pieces

def find? (t : FileTree) (pieces : List String) : Option Bytes :=
  (t.files.find? fun file => pieces? file.1 == some pieces).map Prod.snd

def isDirectory (t : FileTree) (pieces : List String) : Bool :=
  pieces.isEmpty || t.files.any fun file => (pieces? file.1).any fun all =>
    pieces.isPrefixOf all && pieces ≠ all

def isFile (t : FileTree) (pieces : List String) : Bool := (t.find? pieces).isSome

/-- Follows a name from directory to directory to the place it names. -/
def follow (t : FileTree) : List String → List String → Except FileProblem (List String)
  | taken, [] => .ok taken.reverse
  | taken, piece :: rest =>
    if t.isFile taken.reverse then .error .notDirectory
    else if !t.isDirectory taken.reverse then .error .missing
    else if isLongPiece piece then .error .nameTooLong
    else if piece = ".." then
      match taken with
      | [] => .error (if rest.all (· = "..") then .directory else .missing)
      | _ :: above => t.follow above rest
    else t.follow (piece :: taken) rest

/-- Whether a name can only be that of a directory. -/
def namesDirectory (path : String) : Bool :=
  "/".toList.isSuffixOf path.toList || "/.".toList.isSuffixOf path.toList

/-- What a name leads to. There is nothing outside the tree but the root of everything. -/
def read (t : FileTree) (path : String) : Except FileProblem Bytes :=
  if path.isEmpty then .error .missing
  else if isLongPath path then .error .nameTooLong
  else if Text.isAbsolute path then
    .error (if (Text.pathPieces path).isEmpty then .directory else .missing)
  else do
    let pieces ← t.follow [] (Text.pathPieces path)
    match t.find? pieces with
    | some bytes => if namesDirectory path then .error .notDirectory else .ok bytes
    | none => .error (if t.isDirectory pieces then .directory else .missing)

/-- The places that a name leads through, one for each of its pieces. -/
def placesAlong (taken : List String) : List String → List (List String)
  | [] => []
  | piece :: rest =>
    let taken := if piece = ".." then taken.drop 1 else piece :: taken
    taken.reverse :: placesAlong taken rest

/-- What keeps a file from being written under a name. Missing directories are made, so the places
on the way become directories. Outside the tree nothing is known to be in the way, but a name that
ends in a step up, or has no pieces at all, is that of a directory. -/
def obstacle (t : FileTree) (path : String) : Option Obstacle :=
  if hasNull path then some .noName
  else
    match pieces? path with
    | none => if (Text.pathPieces path).getLast?.all (· = "..") then some .directory else none
    | some pieces =>
      let places := placesAlong [] (Text.pathPieces path).dropLast
      if places.dropLast.any t.isFile then some .notDirectory
      else if places.getLast?.any t.isFile then some .fileInPlace
      else if t.isDirectory pieces || places.any pieces.isPrefixOf then some .directory
      else Obstacle.ofName? path

end FileTree

end Vitae
