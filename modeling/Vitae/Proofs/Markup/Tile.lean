import Mathlib.Data.List.Basic
import Vitae.Markup.Tile
import Vitae.Proofs.Markup.Reading
import Vitae.Proofs.Text.Percent

/-!
Tiles read back. The address of a tile is made of characters that end neither an attribute nor an
address in a style, and whoever takes it apart again finds one text, the one it was made for.
-/

namespace Vitae

open Html (escapeMarkup heldText)

/-! Readers -/

namespace Html

mutual

/-- What the elements of a name hold, in document order. -/
def contents (name : String) : Html → List (List Html)
  | .element tag children =>
    (if tag.name = name then [children] else []) ++ contentsAll name children
  | _ => []

def contentsAll (name : String) : List Html → List (List Html)
  | [] => []
  | html :: rest => contents name html ++ contentsAll name rest

end

/-- The text of trees that are nothing else. -/
def plainText? : List Html → Option String
  | [] => some ""
  | .text s :: rest => (plainText? rest).map (s ++ ·)
  | _ => none

theorem contentsAll_heldText (name text : String) : contentsAll name (heldText text) = [] := by
  unfold heldText
  split <;> rfl

theorem plainText?_heldText (text : String) : plainText? (heldText text) = some text := by
  unfold heldText
  split
  · next empty => rw [plainText?, String.isEmpty_iff.mp empty]
  · simp [plainText?]

end Html

namespace Style

/-- What a browser does not take for a part of an address without quotes. -/
def breaksUrl (c : Char) : Bool :=
  c.toNat ≤ 32 || c.toNat = 127 || ['"', '\'', '(', '\\'].contains c

/-- The address without quotes that a closing bracket ends, and what stands behind the bracket. -/
def readUrl? : List Char → Option (List Char × List Char)
  | [] => none
  | ')' :: rest => some ([], rest)
  | c :: rest =>
    if breaksUrl c then none
    else (readUrl? rest).map fun (address, behind) => (c :: address, behind)

theorem readUrl?_append {address : List Char} (sound : ∀ c ∈ address, breaksUrl c = false)
    (inside : ')' ∉ address) (rest : List Char) :
    readUrl? (address ++ ')' :: rest) = some (address, rest) := by
  induction address with
  | nil => rfl
  | cons c address ih =>
    have other : c ≠ ')' := fun same => inside (by simp [same])
    have later := ih (fun c mem => sound c (List.mem_cons_of_mem _ mem))
      fun mem => inside (List.mem_cons_of_mem _ mem)
    have first := sound c List.mem_cons_self
    rw [List.cons_append, readUrl?.eq_3 c _ other, if_neg (by simp [first]), later]
    rfl

end Style

namespace Tile

/-- The text that a tile shows: the only text element of the drawing that its address holds. -/
def read? (address : String) : Option String := do
  let payload ← scheme.toList.isPrefixOf? address.toList
  let drawn ← Text.Percent.decodeChars? payload
  match Html.contentsAll "text" (Html.parse drawn) with
  | [content] => Html.plainText? content
  | _ => none

/-! Characters -/

/-- The characters of which addresses of tiles consist. -/
def isAddressChar (c : Char) : Bool := Text.Percent.isPlain c || "%:/+;=,".toList.contains c

theorem isAddressChar_spec {c : Char} (h : isAddressChar c) :
    isEscaped c = false ∧ Style.breaksUrl c = false ∧ c ≠ ')' := by
  have small : c.toNat < 128 := by
    simp only [isAddressChar, Text.Percent.isPlain, Char.isDigit, Bool.or_eq_true, Bool.and_eq_true,
      decide_eq_true_eq, Char.le_def, UInt32.le_iff_toNat_le, List.contains_eq_mem, ge_iff_le] at h
    rcases h with (((⟨-, most⟩ | ⟨-, most⟩) | ⟨-, most⟩) | mark) | mark
    · exact Nat.lt_of_le_of_lt most (by decide)
    · exact Nat.lt_of_le_of_lt most (by decide)
    · exact Nat.lt_of_le_of_lt most (by decide)
    · have each : ['_', '.', '-', '~'].all (fun c => c.toNat < 128) := by decide
      simpa using List.all_eq_true.mp each c (by simpa using mark)
    · have each : "%:/+;=,".toList.all (fun c => c.toNat < 128) := by decide
      simpa using List.all_eq_true.mp each c (by simpa using mark)
  have each : ∀ n : Fin 128, isAddressChar (Char.ofNat n) = true →
      isEscaped (Char.ofNat n) = false ∧ Style.breaksUrl (Char.ofNat n) = false
        ∧ Char.ofNat n ≠ ')' := by decide +kernel
  have whole : Char.ofNat c.toNat = c := Char.ofNat_toNat c
  have spec := each ⟨c.toNat, small⟩
  rw [whole] at spec
  exact spec h

theorem isAddressChar_of_mem {text : String} {c : Char} (mem : c ∈ addressChars text) :
    isAddressChar c := by
  rcases List.mem_append.mp mem with mem | mem
  · have each : scheme.toList.all isAddressChar := by decide
    exact List.all_eq_true.mp each c mem
  · rcases (Text.Percent.isEncoded_encodeChars _).eq_of_mem mem with plain | rfl
    · rw [isAddressChar, plain, Bool.true_or]
    · decide

theorem toList_address (text : String) : (address text).toList = addressChars text :=
  String.toList_ofList

/-- Nothing in an address has to be escaped. -/
theorem escaped_address (text : String) : Html.escaped (address text) = address text := by
  have each : ∀ c ∈ addressChars text, escapeMarkup c = [c] := fun c mem =>
    escapeMarkup_of_not_isEscaped (isAddressChar_spec (isAddressChar_of_mem mem)).1
  rw [Html.escaped, toList_address, List.flatMap_congr each, List.flatMap_singleton']
  rfl

/-- An address is read up to the bracket behind it. -/
theorem readUrl?_address (text : String) (rest : List Char) :
    Style.readUrl? ((address text).toList ++ ')' :: rest)
      = some ((address text).toList, rest) := by
  rw [toList_address]
  exact Style.readUrl?_append
    (fun c mem => (isAddressChar_spec (isAddressChar_of_mem mem)).2.1)
    (fun mem => (isAddressChar_spec (isAddressChar_of_mem mem)).2.2 rfl) rest

/-! The drawing -/

/-- What is read of a drawing: a picture whose only text element holds the text. -/
def IsDrawingOf (text : String) (htmls : List Html) : Prop :=
  ∃ attributes children content, htmls = [.paired "svg" attributes children]
    ∧ Html.contentsAll "text" children = [content] ∧ Html.plainText? content = some text

theorem IsDrawingOf.contentsAll {text : String} {htmls : List Html} (h : IsDrawingOf text htmls) :
    ∃ content, Html.contentsAll "text" htmls = [content]
      ∧ Html.plainText? content = some text := by
  obtain ⟨attributes, children, content, rfl, sole, said⟩ := h
  refine ⟨content, ?_, said⟩
  simp [Html.contentsAll, Html.contents, Html.paired, sole]

theorem writable_drawing (text : String) : Html.Writable (drawing text) := by
  refine Html.writable_paired (by decide) (by decide) fun child mem => ?_
  obtain rfl := List.mem_singleton.mp mem
  refine Html.writable_paired (by decide) (by decide) fun child mem => ?_
  obtain rfl := List.mem_singleton.mp mem
  exact .text text

theorem isDrawingOf_parse (text : String) :
    IsDrawingOf text (Html.parse ((drawing text).chars escapeMarkup)) := by
  have outer : Html.keepsNames "svg" ["xmlns", "width", "height"] := by decide
  have inner : Html.keepsNames "text" ["x", "y", "transform", "text-anchor", "dominant-baseline",
      "font-family", "font-size", "font-weight", "fill", "fill-opacity"] := by decide
  have alone : (drawing text).chars escapeMarkup = Html.charsAll escapeMarkup [drawing text] := by
    rw [Html.charsAll, Html.charsAll, List.append_nil]
  have held : Html.asReadAll "" [.text text] = heldText text := by
    rw [Html.asReadAll, Html.asReadAll, String.empty_append]
  have read : Html.parse ((drawing text).chars escapeMarkup) = [(drawing text).asRead] := by
    rw [alone, Html.parse_charsAll fun html mem => List.mem_singleton.mp mem ▸ writable_drawing text,
      Html.asReadAll_of_isElement "" fun html mem => List.mem_singleton.mp mem ▸ rfl]
    rfl
  rw [read, drawing, Html.asRead_paired (Html.isKept_of_keepsNames outer) (by decide)]
  refine ⟨_, _, heldText text, rfl, ?_, Html.plainText?_heldText text⟩
  rw [Html.asReadAll_of_isElement "" fun html mem => List.mem_singleton.mp mem ▸ rfl,
    List.map_singleton, Html.asRead_paired (Html.isKept_of_keepsNames inner) (by decide), held]
  have front : heldText "" = [] := rfl
  simp [front, Html.contentsAll, Html.contents, Html.paired, Html.contentsAll_heldText]

/-! Addresses -/

/-- Decoding what stands behind the scheme gives the text of the drawing. -/
theorem exists_payload (text : String) :
    ∃ payload bytes svg, address text = scheme ++ String.ofList payload
      ∧ Text.Percent.IsEncoded payload ∧ Text.Percent.decodeBytes? payload = some bytes
      ∧ Text.Utf8.decode? bytes = some svg ∧ IsDrawingOf text (Html.parse svg.toList) := by
  refine ⟨Text.Percent.encodeChars ((drawing text).chars escapeMarkup),
    Text.Utf8.encodeChars ((drawing text).chars escapeMarkup), (drawing text).markup, ?_,
    Text.Percent.isEncoded_encodeChars _, Text.Percent.decodeBytes?_encodeChars _, ?_, ?_⟩
  · rw [address, addressChars, String.ofList_append, String.ofList_toList]
  · rw [Text.Utf8.decode?, Text.Utf8.decodeFrom_encodeChars]
    rfl
  · rw [Html.markup, String.toList_ofList]
    exact isDrawingOf_parse text

/-- Whoever takes the address of a tile apart finds the text of the tile. -/
theorem read?_address (text : String) : read? (address text) = some text := by
  obtain ⟨content, sole, said⟩ := (isDrawingOf_parse text).contentsAll
  have payload : scheme.toList.isPrefixOf? (addressChars text)
      = some (Text.Percent.encodeChars ((drawing text).chars escapeMarkup)) :=
    List.isPrefixOf?_eq_some_iff_append_eq.mpr rfl
  simp only [read?, toList_address, payload, Text.Percent.decodeChars?_encodeChars, sole, said,
    Option.bind_eq_bind, Option.bind_some]

/-- Different texts have different tiles. -/
theorem address_injective : Function.Injective address := by
  intro text other same
  have read := read?_address text
  rw [same, read?_address] at read
  exact (Option.some.inj read).symm

end Tile

end Vitae
