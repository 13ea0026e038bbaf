import Vitae.Json.Writer

/-!
The scripts of a document. One tells the surrounding page what is selected, and only while edit mode
is on; the other keeps visitors of a protected preview from copying.
-/

namespace Vitae

inductive ScriptLine where
  | blank
  | line (text : String)
  | block (opening : String) (body : List ScriptLine) (closing : String)

namespace ScriptLine

def indentation (depth : Nat) : String := String.ofList (List.replicate (2 * depth) ' ')

mutual

def texts (depth : Nat) : ScriptLine → List String
  | .blank => [""]
  | .line text => [indentation depth ++ text]
  | .block opening body closing =>
    (indentation depth ++ opening ++ "\x7b") :: textsAll (depth + 1) body
      ++ [indentation depth ++ "\x7d" ++ closing]

def textsAll (depth : Nat) : List ScriptLine → List String
  | [] => []
  | first :: rest => texts depth first ++ textsAll depth rest

end

end ScriptLine

/-- A function that is called where it stands. -/
def scriptOf (body : List ScriptLine) : String :=
  "\n".intercalate ((ScriptLine.block "(function () " body ")();").texts 0)

namespace Json

mutual

/-- The same value with the members of every object in the order of their keys. -/
def sorted : Json → Json
  | .list items => .list (sortedItems items)
  | .object members => .object ((sortedMembers members).mergeSort fun a b => a.1 ≤ b.1)
  | value => value

def sortedItems : List Json → List Json
  | [] => []
  | item :: rest => sorted item :: sortedItems rest

def sortedMembers : List (String × Json) → List (String × Json)
  | [] => []
  | (key, value) :: rest => (key, sorted value) :: sortedMembers rest

end

/-- Characters that could end a script or an attribute. -/
def isUnsafeInScript (c : Char) : Bool := c == '<' || c == '>' || c == '&' || c == '\''

/-- A value as it may stand in a script. -/
def scriptText (value : Json) : String :=
  String.ofList ((value.sorted.compact true).toList.flatMap fun c =>
    if isUnsafeInScript c then codeEscape c.toNat else [c])

end Json

def reportSelection (limit : String) : ScriptLine :=
  .block "post(" [
    .line "type: 'elementSelected',",
    .line "elementId: target.dataset.elementId,",
    .line "elementType: target.dataset.elementType,",
    .line ("elementLabel: target.dataset.elementLabel || target.textContent.trim().slice(0, "
      ++ limit ++ ")")] ");"

/-- The script of an editable document. Messages name the channel, and labels are cut at the
limit. -/
def editScript (channel : Json) (limit : String) : String := scriptOf [
  .line ("var CHANNEL = " ++ channel.scriptText ++ ";"),
  .line "var editMode = false;",
  .line "var selected = null;",
  .blank,
  .block "function post(message) " [
    .line "message.channel = CHANNEL;",
    .line "window.parent.postMessage(message, '*');"] "",
  .blank,
  .block "function clearSelection() " [
    .block "if (selected) " [
      .line "selected.classList.remove('cv-selected');",
      .line "selected = null;"] ""] "",
  .blank,
  .block "function onMessage(event) " [
    .line "var data = event.data;",
    .block "if (!data || event.source !== window.parent) " [
      .line "return;"] "",
    .line "// A message without a channel is meant for this document.",
    .block
      "if (data.channel !== undefined && data.channel !== null && data.channel !== CHANNEL) " [
      .line "return;"] "",
    .block "if (data.type === 'setEditMode') " [
      .line "editMode = !!data.enabled;",
      .line "document.body.classList.toggle('cv-edit-mode', editMode);",
      .block "if (!editMode) " [
        .line "clearSelection();"] ""] ""] "",
  .blank,
  .block "function onClick(event) " [
    .block "if (!editMode) " [
      .line "return;"] "",
    .line "event.preventDefault();",
    .line "event.stopPropagation();",
    .line "var target = event.target.closest('[data-element-id]');",
    .block "if (!target) " [
      .block "if (selected) " [
        .line "clearSelection();",
        .line "post(\x7b type: 'elementDeselected' \x7d);"] "",
      .line "return;"] "",
    .line "clearSelection();",
    .line "selected = target;",
    .line "selected.classList.add('cv-selected');",
    reportSelection limit] "",
  .blank,
  .block "function teardown() " [
    .line "window.removeEventListener('message', onMessage);",
    .line "document.removeEventListener('click', onClick, true);",
    .line "window.removeEventListener('pagehide', teardown);"] "",
  .blank,
  .line "window.addEventListener('message', onMessage);",
  .line "document.addEventListener('click', onClick, true);",
  .line "window.addEventListener('pagehide', teardown);"]

/-- The script of a protected preview that must not be copied. -/
def protectionScript : String := scriptOf [
  .line "var BLOCKED = ['copy', 'cut', 'contextmenu', 'dragstart', 'selectstart'];",
  .blank,
  .block "function block(event) " [
    .line "event.preventDefault();",
    .line "return false;"] "",
  .blank,
  .block "BLOCKED.forEach(function (name) " [
    .line "document.addEventListener(name, block, true);"] ");",
  .blank,
  .block "document.addEventListener('keydown', function (event) " [
    .line "var key = (event.key || '').toLowerCase();",
    .block ("if ((event.ctrlKey || event.metaKey) && "
      ++ "(key === 'c' || key === 'x' || key === 's' || key === 'p')) ") [
      .line "event.preventDefault();"] ""] ", true);"]

end Vitae
