import Vitae.Json.Basic
import Vitae.Markup.Html
import Vitae.Markup.Reference
import Vitae.Text.Blank
import Vitae.Text.Case

/-!
Hypertext as a sequence of tokens. A reader goes over the text from the front; every piece of it is
a tag, a reference, something in brackets, or text. What is not finished where the text ends counts
as text.
-/

namespace Vitae

inductive Token where
  | text (s : String)
  | bracketed (bracket : Bracket) (s : String)
  | opening (name : String) (attributes : List (String × String)) (closed : Bool)
  | closing (name : String)
  /-- A section of a kind that is not known; a document that has one is refused. -/
  | unknownSection
  deriving DecidableEq, Repr

namespace Token

/-- The tokens a text starts with, and what follows them. -/
abbrev Piece := List Token × List Char

def textOf (cs : List Char) : List Token := if cs.isEmpty then [] else [.text (String.ofList cs)]

/-- The tokens of the text between two places in it. -/
def textUpTo (cs rest : List Char) : Piece := (textOf (cs.take (cs.length - rest.length)), rest)

def isLetter (c : Char) : Bool := ('a' ≤ c && c ≤ 'z') || ('A' ≤ c && c ≤ 'Z')

/-- Elements whose content is not markup. -/
def isRaw (name : String) : Bool := name == "script" || name == "style"

/-- What comes before a character, and what comes after it. -/
def splitAt? (mark : Char) (cs : List Char) : Option (List Char × List Char) :=
  let before := cs.takeWhile (· ≠ mark)
  match cs.drop before.length with
  | [] => none
  | _ :: after => some (before, after)

/-! Attributes -/

/-- Attributes that hold several words; the words are kept one space apart. -/
def holdsWords (tag name : String) : Bool :=
  name == "class" || name == "accesskey" || name == "dropzone"
    || ((tag == "a" || tag == "link") && (name == "rel" || name == "rev"))
    || ((tag == "td" || tag == "th") && name == "headers")
    || (tag == "form" && name == "accept-charset") || (tag == "object" && name == "archive")
    || (tag == "area" && name == "rel") || (tag == "icon" && name == "sizes")
    || (tag == "iframe" && name == "sandbox") || (tag == "output" && name == "for")

def valueOf (tag name : String) (value : List Char) : String :=
  let s := String.ofList (Reference.resolveValue value)
  if holdsWords tag name then " ".intercalate (Text.words s) else s

/-- A further attribute; the last of several of one name counts. -/
def putAttribute (tag : String) (name value : List Char) (attributes : List (String × String)) :
    List (String × String) :=
  let key := Text.lower (String.ofList name)
  putMember key (valueOf tag key value) attributes

/-- Part of a tag that has been read: its characters, the last character passed, and what follows.
-/
structure Part where
  chars : List Char
  last : Char
  rest : List Char

/-- Passes over white space, and over slashes that do not close the tag. -/
def skipGap (last : Char) : List Char → Char × List Char
  | [] => (last, [])
  | c :: rest =>
    if Text.isBlank c || (c = '/' && rest.head? ≠ some '>') then skipGap c rest
    else (last, c :: rest)

def isQuote (c : Char) : Bool := c == '"' || c == '\''

/-- Whether the name of an attribute can start with a character after another one. -/
def startsName (last c : Char) : Bool :=
  (isQuote last || last == '/' || Text.isBlank last) && !(Text.isBlank c || c == '/' || c == '>')

def isAttributeChar (c : Char) : Bool := !(Text.isBlank c || c == '/' || c == '=' || c == '>')

/-- A value without quotes. -/
def bareValue (last : Char) (cs : List Char) : Part :=
  let value := cs.takeWhile fun c => !(Text.isBlank c || c == '>')
  ⟨value, value.getLast?.getD last, cs.drop value.length⟩

/-- The value after some equals signs. A quote that is not closed does not begin a value: it stands
for no value if white space is before it, and another equals sign makes it part of a bare one. -/
def valueAfter? (equals : Nat) (cs : List Char) : Option Part :=
  let rest := cs.dropWhile Text.isBlank
  match rest with
  | [] => some ⟨[], '=', []⟩
  | c :: inner =>
    if isQuote c then
      match splitAt? c inner with
      | some (value, rest) => some ⟨value, c, rest⟩
      | none =>
        if cs.head?.any Text.isBlank then some ⟨[], ' ', rest⟩
        else if 2 ≤ equals then some (bareValue '=' ('=' :: rest))
        else none
    else some (bareValue '=' rest)

/-- The value of an attribute, if one follows its name. -/
def readValue? (cs : List Char) : Option Part :=
  let rest := cs.dropWhile Text.isBlank
  let equals := rest.takeWhile (· = '=')
  if equals.isEmpty then none else valueAfter? equals.length (rest.drop equals.length)

/-- The attributes of a tag; the number bounds how many there are. -/
def readAttributes (tag : String) :
    Nat → List (String × String) → Char → List Char → List (String × String) × List Char
  | fuel + 1, attributes, last, c :: cs =>
    if startsName last c then
      let name := c :: cs.takeWhile isAttributeChar
      let after := cs.drop (name.length - 1)
      let part := (readValue? after).getD ⟨[], name.getLast?.getD c, after⟩
      let (last, rest) := skipGap part.last part.rest
      readAttributes tag fuel (putAttribute tag name part.chars attributes) last rest
    else (attributes, c :: cs)
  | _, attributes, _, cs => (attributes, cs)

/-! Tags -/

def endsTagName (c : Char) : Bool :=
  c == '\t' || c == '\n' || c == '\r' || c == '\x0c' || c == ' ' || c == '/' || c == '>'
    || c == '\x00'

/-- The name of a tag and what follows it. -/
def readName (cs : List Char) : List Char × List Char :=
  let name := cs.takeWhile fun c => !endsTagName c
  (name, cs.drop name.length)

/-- A tag that opens an element, from its angle bracket on. -/
def opening? (cs : List Char) : Option Piece :=
  let (name, rest) := readName (cs.drop 1)
  let tag := Text.lower (String.ofList name)
  let (last, rest) := skipGap (name.getLast?.getD '<') rest
  match readAttributes tag rest.length [] last rest with
  | (attributes, '>' :: rest) => some ([.opening tag attributes false], rest)
  | (attributes, '/' :: '>' :: rest) => some ([.opening tag attributes true], rest)
  | (_, []) => none
  | (_, c :: rest) => if isLetter c || c == '=' then none else some (textUpTo cs (c :: rest))

def isClosingChar (c : Char) : Bool :=
  isLetter c || Reference.isDecimalDigit c || c == '-' || c == '.' || c == ':' || c == '_'

/-- The name in a closing tag that holds nothing else. -/
def soleName? (content : List Char) : Option (List Char) :=
  let name := (content.dropWhile Text.isBlank).takeWhile isClosingChar
  let after := (content.dropWhile Text.isBlank).drop name.length
  if name.head?.any isLetter && after.all Text.isBlank then some name else none

/-- The tokens of a closing tag; what has no name is a comment. -/
def closingTokens (content : List Char) : List Token :=
  match soleName? content with
  | some name => [.closing (Text.lower (String.ofList name))]
  | none =>
    if content.isEmpty then []
    else if content.head?.any isLetter then
      [.closing (Text.lower (String.ofList (readName content).1))]
    else [.bracketed .comment (String.ofList content)]

/-! Comments, declarations and sections -/

/-- Splits a text at the first place where a reader of an ending finds one. -/
def splitEnding? (ending? : List Char → Option (List Char)) :
    List Char → Option (List Char × List Char)
  | [] => none
  | c :: rest =>
    match ending? (c :: rest) with
    | some after => some ([], after)
    | none => (splitEnding? ending? rest).map fun (before, after) => (c :: before, after)

/-- What follows an angle bracket that may have white space before it. -/
def bracketEnd? (cs : List Char) : Option (List Char) :=
  match cs.dropWhile Text.isBlank with
  | '>' :: rest => some rest
  | _ => none

def commentEnd? : List Char → Option (List Char)
  | '-' :: '-' :: rest => bracketEnd? rest
  | _ => none

def conditionEnd? : List Char → Option (List Char)
  | ']' :: rest => bracketEnd? rest
  | _ => none

def sectionEnd? : List Char → Option (List Char)
  | ']' :: rest => conditionEnd? (rest.dropWhile Text.isBlank)
  | _ => none

def isKeywordChar (c : Char) : Bool :=
  isLetter c || Reference.isDecimalDigit c || c == '-' || c == '_' || c == '.'

def sectionKeywords : List String := ["temp", "cdata", "ignore", "include", "rcdata"]

def conditionKeywords : List String := ["if", "else", "endif"]

def lowerAscii (cs : List Char) : String := String.ofList (cs.map Char.toLower)

/-- The token of a section; one that does not hold character data is a declaration. -/
def sectionToken (content : List Char) : Token :=
  if lowerAscii (content.take 6) = "cdata[" then
    .bracketed .section (String.ofList (content.drop 6))
  else .bracketed .declaration (String.ofList content)

/-- A section, after the square bracket that begins it. -/
def section? (cs : List Char) : Option Piece :=
  let keyword := cs.takeWhile isKeywordChar
  let word := lowerAscii keyword
  let found := fun (ending? : List Char → Option (List Char)) =>
    (splitEnding? ending? cs).map fun (content, rest) => ([sectionToken content], rest)
  if cs.isEmpty then none
  else if !keyword.head?.any isLetter then some ([.unknownSection], [])
  else if ((cs.drop keyword.length).dropWhile Text.isBlank).isEmpty then none
  else if sectionKeywords.contains word then found sectionEnd?
  else if conditionKeywords.contains word then found conditionEnd?
  else some ([.unknownSection], [])

/-- A comment, a section or a declaration, after its exclamation mark; whatever is no document type
is a comment. -/
def declaration? : List Char → Option Piece
  | '-' :: '-' :: rest =>
    (splitEnding? commentEnd? rest).map fun (content, rest) =>
      ([.bracketed .comment (String.ofList content)], rest)
  | '[' :: rest => section? rest
  | cs =>
    (splitAt? '>' cs).map fun (content, rest) =>
      if lowerAscii (content.take 7) = "doctype" then
        ([.bracketed .doctype (String.ofList (content.drop 8))], rest)
      else ([.bracketed .comment (String.ofList content)], rest)

/-- What an angle bracket begins; none if it is not finished. -/
def markup? (cs : List Char) : Option Piece :=
  match cs.drop 1 with
  | '/' :: rest => (splitAt? '>' rest).map fun (content, rest) => (closingTokens content, rest)
  | '!' :: rest => declaration? rest
  | '?' :: rest =>
    (splitAt? '>' rest).map fun (content, rest) =>
      ([.bracketed .instruction (String.ofList content)], rest)
  | rest => if rest.head?.any isLetter then opening? cs else some ([.text "<"], rest)

/-- Unfinished markup as text: up to an angle bracket, or else the first character alone. -/
def unfinished (cs : List Char) : Piece :=
  let inner := cs.drop 1
  match splitAt? '>' inner with
  | some (_, rest) => textUpTo cs rest
  | none =>
    match inner.dropWhile (· ≠ '<') with
    | [] => textUpTo cs inner
    | rest => textUpTo cs rest

/-! References -/

def isNameChar (c : Char) : Bool :=
  isLetter c || Reference.isDecimalDigit c || c == '-' || c == '.'

def dropSemicolon : List Char → List Char
  | ';' :: rest => rest
  | cs => cs

/-- A reference by number, after its mark. Its digits have to end before another character. -/
def numbered? (cs : List Char) : Option Piece :=
  let (mark, digits) := match cs with
    | 'x' :: rest => (1, rest.takeWhile Reference.isHexDigit)
    | 'X' :: rest => (1, rest.takeWhile Reference.isHexDigit)
    | _ => (0, cs.takeWhile Reference.isDecimalDigit)
  match cs.drop (mark + digits.length) with
  | [] => none
  | c :: rest =>
    if Reference.isHexDigit c then none
    else
      (Reference.number? (cs.take (mark + digits.length))).map fun n =>
        ([.text (String.singleton (Reference.numbered n))], dropSemicolon (c :: rest))

/-- The tokens of a name: an unknown one stands for itself. -/
def namedTokens (name : List Char) : List Token :=
  textOf ((Reference.named? name).getD ('&' :: name))

/-- A name that the text ends with. It ends before its last hyphen or point. Without one it is no
reference, and the ampersand before a single letter is lost. -/
def lastName (name : List Char) : Piece :=
  match name.reverse.dropWhile fun c => !(c == '-' || c == '.') with
  | [] => (textOf (if name.length = 1 then name else '&' :: name), [])
  | _ :: before => (namedTokens before.reverse, name.drop before.length)

/-- What an ampersand begins, unless it is a reference by number that is malformed. -/
def reference? (cs : List Char) : Option Piece :=
  match cs.drop 1 with
  | '#' :: rest => numbered? rest
  | rest =>
    if rest.head?.any isLetter then
      let name := rest.takeWhile isNameChar
      match rest.drop name.length with
      | [] => some (lastName name)
      | after => some (namedTokens name, dropSemicolon after)
    else some ([.text "&"], rest)

/-! The content of raw elements -/

/-- Whether a character is a letter of the end of a raw element. Letters that differ in nothing but
their case or their dot are found as well. -/
def resembles (letter c : Char) : Bool :=
  c.toLower == letter || (letter == 's' && c == 'ſ')
    || (letter == 'i' && (c == 'ı' || c == 'İ'))

/-- What follows a name. -/
def dropName? : List Char → List Char → Option (List Char)
  | [], cs => some cs
  | letter :: name, c :: cs => if resembles letter c then dropName? name cs else none
  | _, [] => none

/-- What follows the end of a raw element, or what looks like it. -/
def rawEnd? (name : String) : List Char → Option (List Char)
  | '<' :: '/' :: rest =>
    (dropName? name.toList (rest.dropWhile Text.isBlank)).bind bracketEnd?
  | _ => none

/-- Whether a text starts with the true end of a raw element, given that it looks like that. -/
def isTrueEnd (name : String) (cs : List Char) : Bool :=
  (((cs.drop 2).dropWhile Text.isBlank).take name.length).all isLetter

/-! The reader -/

/-- How the reader stands: in which raw element, and whether something was left unfinished. -/
structure State where
  raw : Option String := none
  late : Bool := false
  deriving DecidableEq, Repr

/-- The raw element that some tokens open. -/
def rawIn : List Token → Option String
  | [.opening name _ false] => if isRaw name then some name else none
  | _ => none

/-- The content of a raw element and its end; content without an end is lost. -/
def rawStep (s : State) (name : String) (cs : List Char) : State × Piece :=
  match splitEnding? (rawEnd? name) cs with
  | none => (s, [], [])
  | some (content, rest) =>
    if isTrueEnd name (cs.drop content.length) then
      ({ s with raw := none }, textOf content ++ [.closing name], rest)
    else (s, textUpTo cs rest)

/-- A malformed reference by number is text up to its mark, and a second one, or one that no
semicolon follows, makes text of everything after it. -/
def malformed (s : State) (cs : List Char) : State × Piece :=
  if !s.late && cs.contains ';' then ({ s with late := true }, [.text "&#"], cs.drop 2)
  else (s, textOf cs, [])

/-- Reads the piece a text starts with. -/
def step (s : State) (cs : List Char) : State × Piece :=
  match s.raw with
  | some name => rawStep s name cs
  | none =>
    match cs.head? with
    | some '<' =>
      match markup? cs with
      | some piece => ({ s with raw := rawIn piece.1 }, piece)
      | none => ({ s with late := true }, unfinished cs)
    | some '&' =>
      match reference? cs with
      | some piece => (s, piece)
      | none => malformed s cs
    | _ =>
      let text := cs.takeWhile fun c => !(c == '<' || c == '&')
      (s, textOf text, cs.drop text.length)

/-- The tokens of a text; the number bounds how many pieces it has. -/
def readFrom : Nat → State → List Char → List Token
  | 0, _, _ => []
  | _, _, [] => []
  | fuel + 1, s, cs =>
    let (s, tokens, rest) := step s cs
    tokens ++ readFrom fuel s rest

def read (cs : List Char) : List Token := readFrom cs.length {} cs

end Token

end Vitae
