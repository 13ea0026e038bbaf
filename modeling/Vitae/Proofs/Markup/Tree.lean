import Vitae.Proofs.Markup.Tag

/-!
Trees read back. A tree that is written out and parsed is the same tree, but for what reading
cannot know: texts that touch are one text, attribute names are in small letters, and an element
that was closed in itself is like one with an end tag and no children.
-/

namespace Vitae

open Token (IsWritable Reads)

def Tag.asRead (tag : Tag) : Tag :=
  { name := tag.name
    attributes := Token.readBack tag
    form := if tag.form = .void then .void else .paired }

namespace Html

/-- The text that is held back until something else begins. -/
def heldText (held : String) : List Html := if held.isEmpty then [] else [.text held]

mutual

def asRead : Html → Html
  | .element tag children => .element tag.asRead (asReadAll "" children)
  | html => html

/-- The trees as a reader finds them behind some text. -/
def asReadAll (held : String) : List Html → List Html
  | [] => heldText held
  | .text s :: rest => asReadAll (held ++ s) rest
  | html :: rest => heldText held ++ asRead html :: asReadAll "" rest

end

/-- Trees whose writing a reader cannot mistake: their names are names, and what is not escaped
holds no mark that would end it. -/
inductive Writable : Html → Prop where
  | text (s : String) : Writable (.text s)
  | doctype (s : String) (begun : s.isEmpty = false) (free : '>' ∉ s.toList) :
      Writable (.bracketed .doctype s)
  | void (tag : Tag) (names : IsWritable tag) (form : tag.form = .void)
      (known : tag.name ∈ voidNames) : Writable (.element tag [])
  | selfClosed (tag : Tag) (names : IsWritable tag) (form : tag.form = .selfClosed)
      (known : tag.name ∉ voidNames) : Writable (.element tag [])
  | raw (tag : Tag) (s : String) (names : IsWritable tag) (form : tag.form = .paired)
      (known : Token.isRaw tag.name) (begun : s.isEmpty = false) (free : '<' ∉ s.toList) :
      Writable (.element tag [.verbatim s])
  | paired (tag : Tag) (children : List Html) (names : IsWritable tag) (form : tag.form = .paired)
      (known : tag.name ∉ voidNames) (notRaw : Token.isRaw tag.name = false)
      (each : ∀ child ∈ children, Writable child) : Writable (.element tag children)

mutual

/-- The tokens of a tree. -/
def tokens : Html → List Token
  | .text s => [.text s]
  | .verbatim s => [.text s]
  | .bracketed bracket s => [.bracketed bracket s]
  | .element tag children =>
    .opening tag.name (Token.readBack tag) (tag.form = .selfClosed) :: (tokensAll children
      ++ if tag.form = .paired then [.closing tag.name] else [])

def tokensAll : List Html → List Token
  | [] => []
  | html :: rest => tokens html ++ tokensAll rest

end

/-- Reading a tree and then the rest gives the tokens of the tree and then those of the rest. -/
def ReadsBack (cs : List Char) (tokens : List Token) : Prop :=
  ∀ (rest : List Char) (more : List Token),
    Reads {} rest more → Reads {} (cs ++ rest) (tokens ++ more)

theorem readsBack_charsAll {htmls : List Html}
    (each : ∀ html ∈ htmls, ReadsBack (chars escapeMarkup html) (tokens html)) :
    ReadsBack (charsAll escapeMarkup htmls) (tokensAll htmls) := by
  intro rest more later
  induction htmls with
  | nil => exact later
  | cons html htmls ih =>
    rw [charsAll, tokensAll, List.append_assoc, List.append_assoc]
    exact each html (by simp) _ _ (ih fun h mem => each h (by simp [mem]))

theorem length_lt_openChars (tag : Tag) (rest : List Char) :
    rest.length < (openChars escapeMarkup tag ++ rest).length := by
  simp only [openChars, List.cons_append, List.length_cons, List.length_append]
  omega

theorem readsBack_opening {tag : Tag} (names : IsWritable tag)
    (notRaw : Token.rawIn [.opening tag.name (Token.readBack tag) (tag.form = .selfClosed)]
      = none) :
    ReadsBack (openChars escapeMarkup tag)
      [.opening tag.name (Token.readBack tag) (tag.form = .selfClosed)] := by
  intro rest more later
  have step := Token.step_opening names rest
  rw [notRaw] at step
  exact Token.reads_step step (length_lt_openChars tag rest) later

theorem readsBack_closing {name : String} (absent : '>' ∉ name.toList)
    (sole : Token.closingTokens name.toList = [.closing name]) :
    ReadsBack ('<' :: '/' :: name.toList ++ ['>']) [.closing name] := by
  intro rest more later
  have step := Token.step_closing absent sole rest
  simp only [List.cons_append, List.append_assoc, List.nil_append]
  exact Token.reads_step step (by simp; omega) later

theorem rawIn_opening (name : String) (attributes : List (String × String)) (closed : Bool)
    (h : Token.isRaw name = false ∨ closed = true) :
    Token.rawIn [.opening name attributes closed] = none := by
  cases closed with
  | true => rfl
  | false => simp [Token.rawIn, h.resolve_right (by simp)]

theorem isRaw_of_mem_voidNames {name : String} (h : name ∈ voidNames) :
    Token.isRaw name = false := by
  simp only [voidNames, List.mem_cons, List.not_mem_nil, or_false] at h
  rcases h with rfl | rfl | rfl | rfl | rfl | rfl | rfl | rfl | rfl | rfl | rfl | rfl | rfl | rfl
    | rfl | rfl | rfl | rfl | rfl | rfl | rfl | rfl | rfl | rfl <;> rfl

theorem not_mem_voidNames_of_isRaw {name : String} (h : Token.isRaw name) : name ∉ voidNames :=
  fun mem => by simp [isRaw_of_mem_voidNames mem] at h

theorem readsBack_chars {html : Html} (h : Writable html) :
    ReadsBack (chars escapeMarkup html) (tokens html) := by
  induction h with
  | text s =>
    intro rest more later
    have text := Token.reads_flatMap (fun c _ _ => Token.reads_escapeMarkup c) s.toList later
    rw [String.ofList_toList] at text
    exact text
  | doctype s begun free =>
    intro rest more later
    have step := Token.step_doctype free rest
    exact Token.reads_step step (by simp [chars, bracketChars, Bracket.opening]; omega) later
  | void tag names form known =>
    have opening := readsBack_opening names
      (rawIn_opening _ _ _ (.inl (isRaw_of_mem_voidNames known)))
    simpa [chars, charsAll, tokens, tokensAll, closeChars, form] using opening
  | selfClosed tag names form known =>
    have opening := readsBack_opening names (rawIn_opening _ _ _ (.inr (by simp [form])))
    simpa [chars, charsAll, tokens, tokensAll, closeChars, form] using opening
  | raw tag s names form known begun free =>
    intro rest more later
    have inner : Reads { raw := some tag.name }
        (s.toList ++ '<' :: '/' :: (tag.name.toList ++ '>' :: rest))
        ([.text s, .closing tag.name] ++ more) := by
      have step := Token.step_raw known free rest
      have content : Token.textOf s.toList = [.text s] := by
        have : s.toList.isEmpty = false := by simpa using begun
        simp [Token.textOf, this]
      rw [content] at step
      exact Token.reads_step step (by simp; omega) later
    have step := Token.step_opening names
      (s.toList ++ '<' :: '/' :: (tag.name.toList ++ '>' :: rest))
    have raw : Token.rawIn [.opening tag.name (Token.readBack tag) (tag.form = .selfClosed)]
        = some tag.name := by simp [Token.rawIn, form, known]
    rw [raw] at step
    have outer := Token.reads_step step (length_lt_openChars tag _) inner
    simpa [chars, charsAll, tokens, tokensAll, closeChars, form] using outer
  | paired tag children names form known notRaw each ih =>
    intro rest more later
    have closing := readsBack_closing (Token.not_close_mem_of_isTagName names.name)
      (Token.closingTokens_of_isTagName names.name) _ _ later
    have content := readsBack_charsAll ih _ _ closing
    have opening := readsBack_opening names (rawIn_opening _ _ _ (.inl notRaw)) _ _ content
    simpa [chars, tokens, closeChars, form, List.append_assoc] using opening

end Html

end Vitae
