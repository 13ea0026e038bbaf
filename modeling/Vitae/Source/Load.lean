import Vitae.Json.Reader
import Vitae.Override.Collection
import Vitae.Source.World
import Vitae.Style.Descriptor

/-!
Sources: contents, styles, overrides and other files, each named by a path or a web address.
-/

namespace Vitae

open Text.Utf8 (Bytes)

namespace Source

/-- The name of a source. No other value is one. -/
def nameOf : Json → Checked String
  | .string s => .ok s
  | _ => .error (.misuse .noMembers)

/-- The name of a source that may be left out, as what counts as false does. -/
def nameOf? (value : Json) : Checked (Option String) :=
  if value.truthy then (nameOf value).map some else .ok none

def isUrl (source : String) : Bool :=
  "http://".toList.isPrefixOf source.toList || "https://".toList.isPrefixOf source.toList

def fetch (url : String) : Loading Response := do
  let world ← read
  Loading.note .info ("Fetching " ++ url)
  modify fun t => { t with fetches := t.fetches ++ [⟨url, world.trust⟩] }
  match world.reply url with
  | .error reason => throw (.source (.unreachable url reason))
  | .ok response =>
    match response.refusal? url with
    | some reason => throw (.source (.unreachable url reason))
    | none => return response

/-- What a file holds. A name with a null character in it is no name. -/
def fileBytes (world : World) (path : String) : Checked Bytes :=
  if hasNull path then .error (.misuse .badValue)
  else
    match world.file path with
    | .ok bytes => .ok bytes
    | .error problem => .error (.source (.unreadable path (problem.message path)))

def readBytes (source : String) : Loading Bytes := do
  if isUrl source then return (← fetch source).body
  else Loading.ofChecked (fileBytes (← read) source)

/-- The JSON value of a text. -/
def parse (source : String) (text : List Char) : Checked Json :=
  match Json.readChars text with
  | .ok value => .ok value
  | .error fault =>
    match fault.problem with
    | .digitLimit => .error (.misuse .badValue)
    | .nestingLimit => .error (.misuse .tooDeep)
    | .loneSurrogate => .error (.misuse .loneSurrogate)
    | _ => .error (.source (.notJson source (fault.message text)))

/-- The JSON value in a file. -/
def parseFile (source : String) (bytes : Bytes) : Checked Json :=
  match Text.Utf8.decode? bytes with
  | some text => parse source (Text.Utf8.unifyLineEnds text.toList)
  | none => .error (.misuse .notUtf8)

def loadJson (source : String) : Loading Json := do
  if isUrl source then
    let response ← fetch source
    Loading.ofChecked (parse source (Text.Utf8.decodeLossy response.body).toList)
  else Loading.ofChecked ((fileBytes (← read) source).bind (parseFile source))

/-- Refuses whatever is not an object. -/
def requireObject (source what : String) (value : Json) : Checked Json :=
  match value with
  | .object members => .ok (.object members)
  | _ => .error (.source (.objectExpected source what value))

def loadObject (source what : String) : Loading Json := do
  Loading.ofChecked (requireObject source what (← loadJson source))

def loadContent (source : String) : Loading Content := do
  Loading.ofChecked (Content.ofJson (← loadObject source "CV content"))

/-- A style may be wrapped in an object that holds it. -/
def unwrapStyle (value : Json) : Json :=
  match value.member? "style" with
  | some (.object members) => .object members
  | _ => value

def loadDescriptor (source : String) : Loading StyleDescriptor := do
  Loading.ofChecked (StyleDescriptor.ofJson (unwrapStyle (← loadObject source "style descriptor")))

/-- No source means no overrides. -/
def loadOverrides (source : Option String) : Loading OverrideSet := do
  match source.filter fun s => !s.isEmpty with
  | none => return .empty
  | some s => Loading.ofChecked (OverrideSet.ofJson (← loadObject s "overrides"))

end Source

end Vitae
