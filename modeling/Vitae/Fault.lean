import Vitae.Json.Show
import Vitae.Text.Points

/-!
Everything that can go wrong, as causes. The first six families are the errors the compiler reports
on purpose, each with its message. A `Misuse` is a value of the wrong shape that no check foresees.
-/

namespace Vitae

open Decimal (intText natText)

inductive ConfigurationFault where
  | notHexColor (field value : String)
  | hexColorExpected (field : String) (value : Json)
  | missingEntries (table : String) (missing : List String)
  | unknownWord (field : String) (value : Json) (allowed : List String)
  | flagExpected (field : String) (value : Json)
  | paletteExpected (value : Json)
  | paletteIncomplete (missing : List String)
  | styleRulesExpected
  | styleRuleExpected (zone : String)
  | styleExpected (value : Json)
  | emptyElementId
  | unknownElementType (element : String) (value : Json)
  | invalidInstant (value : Json)
  | debounceNotWhole (text : String)
  | debounceNegative (value : Int)
  deriving DecidableEq, Repr

inductive RenderFault where
  | unnamed
  | duplicateId (id : String)
  | unprotected
  | blankWatermark
  | unknownTemplate (name : String) (available : List String)
  deriving DecidableEq, Repr

inductive WatermarkFault where
  | blankText
  | emptyDocument
  | encrypted
  | noPages
  | unreadable
  | unreadableGeometry (reason : String)
  | unstampable (reason : String)
  | resized (page : Nat) (before after : Decimal.Binary64 × Decimal.Binary64)
  deriving DecidableEq, Repr

inductive SourceFault where
  | unreachable (url reason : String)
  | unreadable (path reason : String)
  | notJson (source reason : String)
  | objectExpected (source what : String) (value : Json)
  deriving DecidableEq, Repr

inductive ProtocolFault where
  | objectExpected (value : Json)
  | invalidField (type : Json) (field : String)
  | unknownElementType (type : Json) (elementType : String)
  | unknownType (type : Json)
  | emptyChannelId
  | hostMessage
  deriving DecidableEq, Repr

inductive Misuse where
  | noMembers
  | wrongType
  | absentKey
  | badValue
  | overflow
  | notUtf8
  | unencodable
  /-- Half of a surrogate pair in JSON text, which no value here has room for. -/
  | loneSurrogate
  | unset
  | tooDeep
  | undefinedName
  | refusedMarkup
  | unsupported
  | refuted
  deriving DecidableEq, Repr

inductive Fault where
  | configuration (cause : ConfigurationFault)
  | render (cause : RenderFault)
  | watermark (cause : WatermarkFault)
  | source (cause : SourceFault)
  | protocol (cause : ProtocolFault)
  | channelClosed (id : String)
  | misuse (cause : Misuse)
  deriving DecidableEq, Repr

abbrev Checked (α : Type) := Except Fault α

def commaList (items : List String) : String := ", ".intercalate items

def ConfigurationFault.message : ConfigurationFault → String
  | .notHexColor field value => field ++ ": '" ++ value ++ "' is not a hex colour"
  | .hexColorExpected field value => field ++ ": expected a hex colour, got " ++ value.quotedText
  | .missingEntries table missing => table ++ " has no entry for: " ++ commaList missing
  | .unknownWord field value allowed =>
    field ++ ": unknown value " ++ value.quotedText ++ " (expected one of: " ++ commaList allowed
      ++ ")"
  | .flagExpected field value => field ++ ": expected true or false, got " ++ value.quotedText
  | .paletteExpected value => "colors: expected an object, got " ++ value.typeName
  | .paletteIncomplete missing => "colors: missing " ++ commaList missing
  | .styleRulesExpected => "customCSS: expected an object of zone -> css"
  | .styleRuleExpected zone => "customCSS." ++ zone ++ ": expected a string"
  | .styleExpected value => "style descriptor must be an object, got " ++ value.typeName
  | .emptyElementId => "override: elementId must not be empty"
  | .unknownElementType element value =>
    element ++ ": unknown elementType '" ++ value.plainText ++ "'"
  | .invalidInstant value => "overrides: invalid lastModified '" ++ value.plainText ++ "'"
  | .debounceNotWhole text => "CV_EDIT_DEBOUNCE_MS must be an integer, got '" ++ text ++ "'"
  | .debounceNegative value => "CV_EDIT_DEBOUNCE_MS must not be negative, got " ++ intText value

def RenderFault.message : RenderFault → String
  | .unnamed => "Cannot compile a CV without a full name"
  | .duplicateId id => "Duplicate element id in document tree: " ++ id
  | .unprotected => "preview-protected mode requires protection settings"
  | .blankWatermark => "preview-protected mode requires a non-empty watermark text"
  | .unknownTemplate name available =>
    "Template " ++ name ++ " not found. Available: "
      ++ (Json.list (available.map Json.string)).quotedText

def WatermarkFault.message : WatermarkFault → String
  | .blankText => "Watermark text must not be empty"
  | .emptyDocument => "Cannot watermark an empty document"
  | .encrypted => "Cannot watermark an encrypted PDF"
  | .noPages => "PDF has no pages"
  | .unreadable => "Unreadable PDF"
  | .unreadableGeometry reason => "Unreadable page geometry: " ++ reason
  | .unstampable reason => "Failed to watermark PDF: " ++ reason
  | .resized page before after =>
    "Watermarking changed page " ++ natText page ++ " from " ++ before.1.text ++ "x"
      ++ before.2.text ++ " to " ++ after.1.text ++ "x" ++ after.2.text

def SourceFault.message : SourceFault → String
  | .unreachable url reason => "Failed to fetch " ++ url ++ ": " ++ reason
  | .unreadable path reason => "Cannot read " ++ path ++ ": " ++ reason
  | .notJson source reason => source ++ " is not valid JSON: " ++ reason
  | .objectExpected source what value =>
    source ++ ": expected a JSON object for the " ++ what ++ ", got " ++ value.typeName

def ProtocolFault.message : ProtocolFault → String
  | .objectExpected value => "Message must be an object, got " ++ value.typeName
  | .invalidField type field => type.plainText ++ ": missing or invalid '" ++ field ++ "'"
  | .unknownElementType type elementType =>
    type.plainText ++ ": unknown elementType '" ++ elementType ++ "'"
  | .unknownType type => "Unknown message type: " ++ type.quotedText
  | .emptyChannelId => "channel id must not be empty"
  | .hostMessage => "setEditMode is a host message and cannot be received from the frame"

namespace Fault

/-- Whether the compiler reports this on purpose. -/
def isReported : Fault → Bool
  | .misuse _ => false
  | _ => true

/-- The family of a reported error, as it stands in front of its message in a log. -/
def family : Fault → String
  | .configuration _ => "ConfigurationError"
  | .render _ => "RenderError"
  | .watermark _ => "WatermarkError"
  | .source _ => "SourceError"
  | .protocol _ => "ProtocolError"
  | .channelClosed _ => "ChannelClosedError"
  | .misuse _ => ""

def message : Fault → String
  | .configuration cause => cause.message
  | .render cause => cause.message
  | .watermark cause => cause.message
  | .source cause => cause.message
  | .protocol cause => cause.message
  | .channelClosed id => "Channel '" ++ id ++ "' is closed"
  | .misuse _ => ""

end Fault

/-- A text that has a UTF-8 form. -/
def Text.Points.encodable : Text.Points → Checked String
  | .chars s => .ok s
  | .halved _ _ _ => .error (.misuse .unencodable)

/-- The members of a value that is read as an object. -/
def Json.membersOf : Json → Checked (List (String × Json))
  | .object members => .ok members
  | _ => .error (.misuse .noMembers)

/-- The items of a value that is gone through one by one: a text gives its characters, an object its
keys. -/
def Json.itemsOf : Json → Checked (List Json)
  | .list items => .ok items
  | .string s => .ok (s.toList.map fun c => .string (String.singleton c))
  | .object members => .ok (members.map fun (key, _) => .string key)
  | _ => .error (.misuse .wrongType)

end Vitae
