import Vitae.Inspection
import Vitae.Proofs.Element.Markup
import Vitae.Proofs.Markup.Parse

/-!
The canonical text of trees read back. Whatever trees a reader has found, their canonical text is
read as the same trees, with the attributes in order and a line feed behind each document type.
-/

namespace Vitae

open Html (escapeText quotedValue canonicalValue canonicalAttributes)
open Token (Quoted Reads IsFoundName IsFoundKey IsFoundAttribute putWritten keptValue)

/-! Escapes -/

theorem escapeText_cases (c : Char) :
    c = '&' ∨ c = '<' ∨ c = '>' ∨ (escapeText c = [c] ∧ Token.isTextChar c) := by
  unfold escapeText
  split
  · exact .inl rfl
  · exact .inr (.inl rfl)
  · exact .inr (.inr (.inl rfl))
  · next amp less _ =>
    have text : Token.isTextChar c := by simpa [Token.isTextChar] using ⟨less, amp⟩
    exact .inr (.inr (.inr ⟨rfl, text⟩))

theorem resolveFrom_of_isTextChar {c : Char} (text : Token.isTextChar c) (rest : List Char) :
    Reference.resolveFrom 0 ([c] ++ rest) = c :: Reference.resolveFrom 0 rest := by
  rw [List.singleton_append, Reference.resolveFrom, if_neg]
  rintro rfl
  exact absurd text (by decide)

theorem resolveFrom_escapeText (c : Char) (rest : List Char) :
    Reference.resolveFrom 0 (escapeText c ++ rest) = c :: Reference.resolveFrom 0 rest := by
  rcases escapeText_cases c with rfl | rfl | rfl | ⟨same, text⟩
  · rfl
  · rfl
  · rfl
  · rw [same, resolveFrom_of_isTextChar text]

/-- What a character is written as in a value that holds quotes of both kinds. -/
def escapeBoth (c : Char) : List Char :=
  (escapeText c).flatMap fun c => if c = '"' then "&quot;".toList else [c]

theorem escapeBoth_cases (c : Char) : c = '&' ∨ c = '<' ∨ c = '>' ∨ c = '"'
    ∨ (escapeBoth c = [c] ∧ Token.isTextChar c ∧ c ≠ '"') := by
  rcases escapeText_cases c with amp | less | greater | ⟨same, text⟩
  · exact .inl amp
  · exact .inr (.inl less)
  · exact .inr (.inr (.inl greater))
  · by_cases quote : c = '"'
    · exact .inr (.inr (.inr (.inl quote)))
    · refine .inr (.inr (.inr (.inr ⟨?_, text, quote⟩)))
      simp [escapeBoth, same, quote]

theorem resolveFrom_escapeBoth (c : Char) (rest : List Char) :
    Reference.resolveFrom 0 (escapeBoth c ++ rest) = c :: Reference.resolveFrom 0 rest := by
  rcases escapeBoth_cases c with rfl | rfl | rfl | rfl | ⟨same, text, -⟩
  · rfl
  · rfl
  · rfl
  · rfl
  · rw [same, resolveFrom_of_isTextChar text]

theorem quote_not_mem_escapeBoth (c : Char) : '"' ∉ escapeBoth c := by
  rcases escapeBoth_cases c with rfl | rfl | rfl | rfl | ⟨same, -, quote⟩
  · decide
  · decide
  · decide
  · decide
  · simpa [same] using Ne.symm quote

/-- A value in quotes holds none of them, and means what was written. -/
theorem exists_quotedValue (value : String) : ∃ (quote : Char) (body : List Char),
    Token.isQuote quote ∧ quote ∉ body ∧ Reference.resolveValue body = value.toList
      ∧ quotedValue value = quote :: body ++ [quote] := by
  have plain := Reference.resolveValue_flatMap resolveFrom_escapeText value.toList
  unfold quotedValue
  simp only [List.contains_iff_mem]
  split
  · next double =>
    split
    · next single =>
      have both : (value.toList.flatMap escapeText).flatMap
          (fun c => if c = '"' then "&quot;".toList else [c]) = value.toList.flatMap escapeBoth :=
        List.flatMap_assoc
      refine ⟨'"', value.toList.flatMap escapeBoth, rfl, ?_, ?_, by rw [both]⟩
      · simp [List.mem_flatMap, quote_not_mem_escapeBoth]
      · exact Reference.resolveValue_flatMap resolveFrom_escapeBoth value.toList
    · next single => exact ⟨'\'', _, rfl, single, plain, rfl⟩
  · next double => exact ⟨'"', _, rfl, double, plain, rfl⟩

/-! Tags -/

theorem Token.IsFoundKey.exists_cons {key : String} (h : IsFoundKey key) :
    ∃ c cs, key.toList = c :: cs ∧ startsAttribute c ∧ ∀ d ∈ cs, isAttributeChar d := by
  cases text : key.toList with
  | nil => exact absurd text h.begun
  | cons c cs =>
    refine ⟨c, cs, rfl, h.whole c (by simp [text]), fun d mem => ?_⟩
    have starts : startsAttribute d := h.whole d (by simp [text, mem])
    have unequal : d ≠ '=' := by
      rintro rfl
      exact h.equals (by simpa [text] using mem)
    simp only [startsAttribute, Bool.not_eq_true', Bool.or_eq_false_iff] at starts
    simp [isAttributeChar, starts, unequal]

/-- An attribute as it stands in canonical text. -/
def writtenChars (pair : String × String) : List Char :=
  ' ' :: pair.1.toList ++ '=' :: quotedValue pair.2

theorem exists_quoted_of_found {pair : String × String} (h : IsFoundKey pair.1) :
    ∃ q : Quoted, q.chars = writtenChars pair
      ∧ ∀ tag before, q.put tag before = putWritten tag before pair := by
  obtain ⟨key, value⟩ := pair
  obtain ⟨c, cs, name, starts, each⟩ := h.exists_cons
  obtain ⟨quote, body, known, free, means, same⟩ := exists_quotedValue value
  simp only at name
  refine ⟨⟨c, cs, quote, body, starts, each, known, free⟩, ?_, fun tag before => ?_⟩
  · simp [Quoted.chars, Quoted.name, writtenChars, name, same]
  · have kept (key : String) : Token.valueOf tag key body = keptValue tag key value := by
      rw [Token.valueOf, means, String.ofList_toList, keptValue]
    simp only [Quoted.put, Quoted.name, Token.putAttribute, putWritten, ← name,
      String.ofList_toList, kept]

namespace Tag

/-- A tag as canonical text has it: its attributes in order, with the values they are written
with. -/
def canonical (tag : Tag) : Tag :=
  { tag with
    attributes := (sortPairs tag.attributes).map fun pair => (pair.1, canonicalValue tag pair) }

theorem canonicalAttributes_eq (tag : Tag) :
    canonicalAttributes tag = tag.canonical.attributes.flatMap writtenChars := by
  rw [canonicalAttributes, canonical, List.flatMap_map]
  rfl

theorem keptValue_canonicalValue {tag : Tag} {pair : String × String}
    (h : keptValue tag.name pair.1 pair.2 = pair.2) :
    keptValue tag.name pair.1 (canonicalValue tag pair) = canonicalValue tag pair := by
  unfold canonicalValue
  split
  · next charset =>
    simp only [Bool.and_eq_true, beq_iff_eq] at charset
    have plain : Token.holdsWords "meta" "charset" = false := by decide
    simp [keptValue, charset, plain]
  · split
    · next content =>
      simp only [Html.statesContentType, Bool.and_eq_true, beq_iff_eq] at content
      have plain : Token.holdsWords "meta" "content" = false := by decide
      simp [keptValue, content, plain]
    · exact h

theorem map_fst_canonical (tag : Tag) :
    tag.canonical.attributes.map Prod.fst = (sortPairs tag.attributes).map Prod.fst := by
  simp [canonical, Function.comp_def]

namespace IsFound

variable {tag : Tag}

theorem isKept (h : tag.IsFound) : tag.IsKept :=
  ⟨fun pair mem => ⟨(h.attributes.each pair mem).key.small, (h.attributes.each pair mem).value⟩,
    h.attributes.distinct, h.form⟩

theorem canonical (h : tag.IsFound) : tag.canonical.IsFound := by
  refine ⟨h.name, ⟨fun pair mem => ?_, ?_⟩, h.form⟩
  · obtain ⟨own, inside, rfl⟩ := List.mem_map.mp mem
    have found := h.attributes.each own ((sortPairs_perm tag.attributes).mem_iff.mp inside)
    exact ⟨found.key, keptValue_canonicalValue found.value⟩
  · rw [map_fst_canonical]
    exact ((sortPairs_perm tag.attributes).map Prod.fst).nodup_iff.mpr h.attributes.distinct

/-- A canonical tag is read as it is. -/
theorem readBack_canonical (h : tag.IsFound) :
    Token.readBack tag.canonical = tag.canonical.attributes :=
  congrArg Tag.attributes h.canonical.isKept.asRead_eq

theorem step_canonical (h : tag.IsFound) (closed : Bool) (rest : List Char) :
    Token.step {} ('<' :: tag.name.toList ++ canonicalAttributes tag ++ Token.tagEnd closed ++ rest)
      = ({ raw := Token.rawIn [.opening tag.name tag.canonical.attributes closed] },
        [.opening tag.name tag.canonical.attributes closed], rest) := by
  obtain ⟨written, chars, put⟩ := Token.exists_quotedAll fun pair mem =>
    exists_quoted_of_found (h.canonical.attributes.each pair mem).key
  have token : Token.opening (Text.lower (String.ofList tag.name.toList))
      (written.foldl (Quoted.put (Text.lower (String.ofList tag.name.toList))) []) closed
      = .opening tag.name tag.canonical.attributes closed := by
    rw [String.ofList_toList, h.name.small, put]
    exact congrArg (Token.opening tag.name · closed) h.readBack_canonical
  have read := Token.step_quoted h.name.letter h.name.whole written closed rest token
  rw [chars, ← canonicalAttributes_eq] at read
  rw [← read]
  simp

end IsFound

end Tag

namespace Token

theorem reads_escapeText (c : Char) (rest : List Char) (more : List Token)
    (later : Reads {} rest more) :
    Reads {} (escapeText c ++ rest) (.text (String.ofList [c]) :: more) := by
  have reference (own : step {} (escapeText c ++ rest) = ({}, [.text (String.ofList [c])], rest))
      (some : escapeText c ≠ []) :
      Reads {} (escapeText c ++ rest) (.text (String.ofList [c]) :: more) := by
    refine reads_step own ?_ later
    have := List.length_pos_iff.mpr some
    rw [List.length_append]
    omega
  rcases escapeText_cases c with rfl | rfl | rfl | ⟨same, text⟩
  · exact reference rfl (by decide)
  · exact reference rfl (by decide)
  · exact reference rfl (by decide)
  · rw [same]
    exact reads_char text later

theorem not_mem_of_isFoundName {name : String} (h : IsFoundName name) : '>' ∉ name.toList :=
  fun mem => absurd (h.whole _ mem) (by decide)

/-- A name without white space that stands alone in a closing tag is all that is in it. -/
theorem eq_of_soleName? {cs name : List Char} (solid : ∀ c ∈ cs, Text.isBlank c = false)
    (found : soleName? cs = some name) : name = cs := by
  have start : cs.dropWhile Text.isBlank = cs := by
    cases cs with
    | nil => rfl
    | cons c cs => exact List.dropWhile_cons_of_neg (by simp [solid c List.mem_cons_self])
  simp only [soleName?, start, Option.ite_none_right_eq_some, Bool.and_eq_true,
    List.all_eq_true, Option.some.injEq] at found
  obtain ⟨⟨-, blank⟩, rfl⟩ := found
  have nothing : cs.drop (cs.takeWhile isClosingChar).length = [] := by
    rw [List.eq_nil_iff_forall_not_mem]
    intro c mem
    have solid := solid c (List.mem_of_mem_drop mem)
    rw [blank c mem] at solid
    cases solid
  have whole := List.take_append_drop (cs.takeWhile isClosingChar).length cs
  rw [nothing, List.append_nil] at whole
  exact (List.prefix_iff_eq_take.mp (List.takeWhile_prefix isClosingChar)).trans whole

theorem closingTokens_of_found {name : String} (h : IsFoundName name)
    (solid : ∀ c ∈ name.toList, Text.isBlank c = false) :
    closingTokens name.toList = [.closing name] := by
  have small : Text.lower (String.ofList name.toList) = name := by
    rw [String.ofList_toList, h.small]
  unfold closingTokens
  split
  · next sole found => rw [eq_of_soleName? solid found, small]
  · have begun : name.toList.isEmpty = false := by
      cases text : name.toList with
      | nil => simpa [text] using h.letter
      | cons c cs => rfl
    have run : (name.toList ++ []).takeWhile (fun c => !endsTagName c) = name.toList ++ [] :=
      List.takeWhile_append_of_pos fun c mem => by simp [h.whole c mem]
    rw [List.append_nil] at run
    rw [if_neg (by simp [begun]), if_pos h.letter, readName, run, small]

end Token

namespace Html

mutual

/-- A tree as its canonical text spells it: a line feed stands behind a document type. -/
def spelled : Html → List Html
  | .bracketed bracket s => .bracketed bracket s :: if bracket = .doctype then [.text "\n"] else []
  | .element tag children => [.element tag.canonical (spelledAll children)]
  | html => [html]

def spelledAll : List Html → List Html
  | [] => []
  | html :: rest => spelled html ++ spelledAll rest

end

mutual

/-- Standard hypertext: no name of an element holds white space, and every section is one of
character data. -/
def isStandard : Html → Bool
  | .bracketed bracket _ => bracket != .declaration
  | .element tag children =>
    (tag.name.toList.all fun c => !Text.isBlank c) && areStandard children
  | _ => true

def areStandard : List Html → Bool
  | [] => true
  | html :: rest => isStandard html && areStandard rest

end

theorem areStandard_iff {htmls : List Html} :
    areStandard htmls ↔ ∀ html ∈ htmls, html.isStandard := by
  induction htmls with
  | nil => simp [areStandard]
  | cons html htmls ih => simp [areStandard, ih]

namespace Nesting

/-- A nesting that trees can be put into: no raw element is open, no end is left over, and a
preformatted element is open if need be. -/
structure IsReady (preformatted : Bool) (n : Nesting) : Prop where
  plain : n.IsPlain
  nothing : n.understood = []
  inside : preformatted → n.isPreformatted

namespace IsReady

variable {preformatted : Bool} {n : Nesting}

theorem flush (h : n.IsReady preformatted) : n.flush.IsReady preformatted :=
  ⟨h.plain.flush, (understood_flush n).trans h.nothing, fun need => by
    rw [isPreformatted_flush]
    exact h.inside need⟩

theorem add (h : n.IsReady preformatted) (html : Html) : (n.add html).IsReady preformatted :=
  ⟨h.plain.add html, (understood_add n html).trans h.nothing, fun need => by
    rw [isPreformatted_add]
    exact h.inside need⟩

theorem put (h : n.IsReady preformatted) (html : Html) : (n.put html).IsReady preformatted := by
  cases html with
  | text s => exact ⟨h.plain, h.nothing, h.inside⟩
  | verbatim s => exact h.flush.add _
  | bracketed bracket s => exact h.flush.add _
  | element tag children => exact h.flush.add _

theorem foldl_put (h : n.IsReady preformatted) (htmls : List Html) :
    (htmls.foldl Nesting.put n).IsReady preformatted := by
  induction htmls generalizing n with
  | nil => exact h
  | cons html htmls ih => exact ih (h.put html)

theorem push (h : n.IsReady preformatted) {name : String} (attributes : List (String × String))
    (notRaw : Token.isRaw name = false) :
    (n.push name attributes).IsReady (preformattedNames.contains name || preformatted) := by
  refine ⟨isPlain_push n attributes notRaw, h.nothing, fun need => ?_⟩
  rcases Bool.or_eq_true_iff.mp need with own | outer
  · simp only [isPreformatted, Nesting.push, List.any_cons, own, Bool.true_or]
  · have inside := h.inside outer
    simp only [isPreformatted] at inside
    simp only [isPreformatted, Nesting.push, List.any_cons, inside, Bool.or_true]

theorem leaving_nil (h : n.IsReady preformatted) : n.leaving [] = n := by
  rw [leaving, ← h.nothing]

end IsReady

/-- Tokens that put some trees into any nesting that is ready for them. -/
structure Puts (preformatted : Bool) (tokens : List Token) (htmls : List Html) : Prop where
  known : .unknownSection ∉ tokens
  nesting : ∀ n : Nesting, n.IsReady preformatted → tokens.foldl step n = htmls.foldl put n

namespace Puts

variable {preformatted : Bool} {tokens others : List Token} {htmls more : List Html}

theorem nil (preformatted : Bool) : Puts preformatted [] [] :=
  ⟨List.not_mem_nil, fun _ _ => rfl⟩

theorem append (h : Puts preformatted tokens htmls) (h' : Puts preformatted others more) :
    Puts preformatted (tokens ++ others) (htmls ++ more) := by
  refine ⟨fun mem => (List.mem_append.mp mem).elim h.known h'.known, fun n ready => ?_⟩
  rw [List.foldl_append, List.foldl_append, h.nesting n ready, h'.nesting _ (ready.foldl_put htmls)]

theorem text (preformatted : Bool) (s : String) : Puts preformatted [.text s] [.text s] :=
  ⟨by simp, fun _ _ => rfl⟩

theorem bracketed {bracket : Bracket} {s : String} (begun : s = "" → preformatted) :
    Puts preformatted [.bracketed bracket s] [.bracketed bracket s] := by
  refine ⟨by simp, fun n ready => ?_⟩
  have content : n.contentOf s = s := by
    unfold contentOf
    split
    · next hollow =>
      simp only [Bool.and_eq_true, String.isEmpty_iff, Bool.not_eq_true'] at hollow
      rw [ready.inside (begun hollow.1)] at hollow
      cases hollow.2
    · rfl
  simp only [List.foldl_cons, List.foldl_nil, step, content, put, asRead]

end Puts

variable {tag : Tag} {preformatted : Bool}

theorem put_canonical (h : tag.IsFound) (n : Nesting) (children : List Html) :
    n.put (.element tag.canonical children)
      = n.flush.add (.element tag.canonical (asReadAll "" children)) := by
  simp only [put, asRead, h.canonical.isKept.asRead_eq]

theorem puts_void (h : tag.IsFound) (form : tag.form = .void) (known : tag.name ∈ voidNames) :
    Puts preformatted [.opening tag.name tag.canonical.attributes true]
      [.element tag.canonical []] := by
  refine ⟨by simp, fun n _ => ?_⟩
  have same : tag.canonical
      = { name := tag.name, attributes := tag.canonical.attributes, form := .void } := by
    rw [← form]
    rfl
  rw [List.foldl_cons, List.foldl_nil, List.foldl_cons, List.foldl_nil, put_canonical h, same]
  simp [step, openElement, known, Html.void, asReadAll, heldText]

/-- An element is put once its end is reached, if its content was put into it. -/
theorem puts_paired (h : tag.IsFound) (form : tag.form = .paired) (known : tag.name ∉ voidNames)
    {tokens : List Token} {children : List Html} (sections : .unknownSection ∉ tokens)
    (content : ∀ n : Nesting, n.IsReady preformatted → ∃ k : Nesting,
      tokens.foldl step (n.flush.push tag.name tag.canonical.attributes) = k ∧ k.understood = []
        ∧ k.flush = (asReadAll "" children).foldl Nesting.add
          (n.flush.push tag.name tag.canonical.attributes)) :
    Puts preformatted (.opening tag.name tag.canonical.attributes false
      :: (tokens ++ [.closing tag.name])) [.element tag.canonical children] := by
  refine ⟨by simp [sections], fun n ready => ?_⟩
  obtain ⟨k, read, nothing, inside⟩ := content n ready
  have opened : n.step (.opening tag.name tag.canonical.attributes false)
      = n.flush.push tag.name tag.canonical.attributes := by
    simp [step, openElement, known]
  have closed := endElement_of_content inside [] List.not_mem_nil
  have same : tag.canonical = { name := tag.name, attributes := tag.canonical.attributes } := by
    rw [← form]
    rfl
  have own : k.leaving [] = k := by rw [leaving, ← nothing]
  rw [own, (ready.flush.add _).leaving_nil] at closed
  rw [List.foldl_cons, List.foldl_append, opened, read, List.foldl_cons, List.foldl_nil,
    List.foldl_cons, List.foldl_nil, put_canonical h, same]
  exact closed

/-- The content of a raw element: one text at most. -/
theorem puts_raw (h : tag.IsFound) (form : tag.form = .paired) (raw : Token.isRaw tag.name)
    {s : String} {children : List Html}
    (content : (children = [] ∧ s = "") ∨ (children = [.verbatim s] ∧ s.isEmpty = false)) :
    Puts preformatted (.opening tag.name tag.canonical.attributes false
      :: ([.text s] ++ [.closing tag.name])) [.element tag.canonical children] := by
  refine puts_paired h form (not_mem_voidNames_of_isRaw raw) (by simp) fun n ready =>
    ⟨_, rfl, ready.flush.nothing, ?_⟩
  have pending : (n.flush.push tag.name tag.canonical.attributes).pending = "" := pending_flush n
  rcases content with ⟨rfl, rfl⟩ | ⟨rfl, begun⟩
  · have same : (n.flush.push tag.name tag.canonical.attributes).step (.text "")
        = n.flush.push tag.name tag.canonical.attributes := by simp [step]
    rw [List.foldl_cons, List.foldl_nil, same, Nesting.flush, pending]
    rfl
  · exact flush_push_raw (pending_flush n) tag.canonical.attributes raw begun

theorem Puts.paired (h : tag.IsFound) (form : tag.form = .paired) (known : tag.name ∉ voidNames)
    (notRaw : Token.isRaw tag.name = false) {tokens : List Token} {children : List Html}
    (content : Puts (preformattedNames.contains tag.name || preformatted) tokens children) :
    Puts preformatted (.opening tag.name tag.canonical.attributes false
      :: (tokens ++ [.closing tag.name])) [.element tag.canonical children] := by
  refine puts_paired h form known content.known fun n ready => ?_
  have inner := ready.flush.push tag.canonical.attributes notRaw
  refine ⟨_, content.nesting _ inner, (inner.foldl_put children).nothing, ?_⟩
  exact flush_foldl_put_of_pending children inner.plain (pending_flush n)

end Nesting

theorem ReadsBack.append {cs others : List Char} {tokens more : List Token}
    (h : ReadsBack cs tokens) (h' : ReadsBack others more) :
    ReadsBack (cs ++ others) (tokens ++ more) := by
  intro rest later reads
  rw [List.append_assoc, List.append_assoc]
  exact h _ _ (h' _ _ reads)

theorem readsBack_text (s : String) : ReadsBack (s.toList.flatMap escapeText) [.text s] := by
  intro rest more later
  have text := Token.reads_flatMap Token.reads_escapeText s.toList later
  rwa [String.ofList_toList] at text

theorem readsBack_standsAlone {bracket : Bracket} {s : String}
    (alone : Token.StandsAlone bracket s) :
    ReadsBack (bracketChars bracket s) [.bracketed bracket s] := by
  intro rest more later
  refine Token.reads_step (alone rest) ?_ later
  cases bracket <;> simp [bracketChars, Bracket.opening] <;> omega

theorem length_lt_tag (name attributes ending rest : List Char) :
    rest.length < ('<' :: name ++ attributes ++ ending ++ rest).length := by
  simp only [List.cons_append, List.length_cons, List.length_append]
  omega

theorem readsBack_tag {tag : Tag} (h : tag.IsFound) (closed : Bool)
    (ordinary : Token.rawIn [.opening tag.name tag.canonical.attributes closed] = none) :
    ReadsBack ('<' :: tag.name.toList ++ canonicalAttributes tag ++ Token.tagEnd closed)
      [.opening tag.name tag.canonical.attributes closed] := by
  intro rest more later
  have step := h.step_canonical closed rest
  rw [ordinary] at step
  exact Token.reads_step step (length_lt_tag _ _ _ rest) later

/-- The canonical text of an element with an end tag. -/
def pairedChars (tag : Tag) (content : List Char) : List Char :=
  '<' :: tag.name.toList ++ canonicalAttributes tag ++ Token.tagEnd false
    ++ (content ++ ('<' :: '/' :: tag.name.toList ++ ['>']))

theorem canonical_of_paired {tag : Tag} (form : tag.form = .paired) (children : List Html) :
    canonical (.element tag children) = pairedChars tag (canonicalAll children) := by
  simp [canonical, form, pairedChars, Token.tagEnd]

theorem readsBack_raw {tag : Tag} (h : tag.IsFound) (raw : Token.isRaw tag.name) {s : String}
    (fills : Token.FillsRaw tag.name s.toList) :
    ReadsBack (pairedChars tag s.toList) (.opening tag.name tag.canonical.attributes false
      :: ([.text s] ++ [.closing tag.name])) := by
  intro rest more later
  have inner := fills rest more later
  rw [String.ofList_toList] at inner
  have step := h.step_canonical false (s.toList ++ ('<' :: '/' :: tag.name.toList) ++ '>' :: rest)
  have opens : Token.rawIn [.opening tag.name tag.canonical.attributes false] = some tag.name := by
    simp [Token.rawIn, raw]
  rw [opens] at step
  have outer := Token.reads_step step (length_lt_tag _ _ _ _) inner
  simpa [pairedChars] using outer

/-- A text that is read as some trees, wherever there is a place for them. -/
def Spells (preformatted : Bool) (cs : List Char) (htmls : List Html) : Prop :=
  ∃ tokens, ReadsBack cs tokens ∧ Nesting.Puts preformatted tokens htmls

theorem Spells.append {preformatted : Bool} {cs others : List Char} {htmls more : List Html}
    (h : Spells preformatted cs htmls) (h' : Spells preformatted others more) :
    Spells preformatted (cs ++ others) (htmls ++ more) := by
  obtain ⟨tokens, reads, puts⟩ := h
  obtain ⟨later, reads', puts'⟩ := h'
  exact ⟨tokens ++ later, reads.append reads', puts.append puts'⟩

theorem spells_canonicalAll {preformatted : Bool} {htmls : List Html}
    (each : ∀ html ∈ htmls, Spells preformatted (canonical html) (spelled html)) :
    Spells preformatted (canonicalAll htmls) (spelledAll htmls) := by
  induction htmls with
  | nil => exact ⟨[], fun _ _ later => later, .nil preformatted⟩
  | cons html htmls ih =>
    rw [canonicalAll, spelledAll]
    exact (each html List.mem_cons_self).append
      (ih fun other mem => each other (List.mem_cons_of_mem _ mem))

theorem spells_bracketed {preformatted : Bool} {bracket : Bracket} {s : String}
    (begun : s = "" → preformatted) (alone : Token.StandsAlone bracket s) :
    Spells preformatted (canonical (.bracketed bracket s)) (spelled (.bracketed bracket s)) := by
  have own : Spells preformatted (bracketChars bracket s) [.bracketed bracket s] :=
    ⟨_, readsBack_standsAlone alone, .bracketed begun⟩
  have feed : Spells preformatted ['\n'] [.text "\n"] := ⟨_, readsBack_text "\n", .text _ "\n"⟩
  cases bracket with
  | doctype => exact own.append feed
  | _ => exact own

/-- What a reader has found is read again in its canonical text. -/
theorem spells_canonical {preformatted : Bool} {html : Html} (h : html.IsFound preformatted)
    (standard : html.isStandard) : Spells preformatted (canonical html) (spelled html) := by
  induction h with
  | text preformatted s => exact ⟨_, readsBack_text s, .text preformatted s⟩
  | bracketed preformatted bracket s begun alone =>
    exact spells_bracketed begun (alone (by simpa [isStandard] using standard))
  | void preformatted tag found form known =>
    have notRaw := isRaw_of_mem_voidNames known
    refine ⟨_, ?_, Nesting.puts_void found form known⟩
    have reads := readsBack_tag found true (rawIn_opening _ _ _ (.inr rfl))
    simpa [canonical, form, Token.tagEnd] using reads
  | hollow preformatted tag found form raw =>
    refine ⟨_, ?_, Nesting.puts_raw found form raw (.inl ⟨rfl, rfl⟩)⟩
    rw [canonical_of_paired form]
    exact readsBack_raw (s := "") found raw (Token.fillsRaw_nil raw)
  | raw preformatted tag s found form raw begun fills =>
    refine ⟨_, ?_, Nesting.puts_raw found form raw (.inr ⟨rfl, begun⟩)⟩
    rw [canonical_of_paired form]
    simpa [canonicalAll, canonical] using readsBack_raw found raw fills
  | paired preformatted tag children found form known notRaw each ih =>
    simp only [isStandard, Bool.and_eq_true, List.all_eq_true, Bool.not_eq_true'] at standard
    obtain ⟨tokens, reads, puts⟩ := spells_canonicalAll fun child mem =>
      ih child mem (areStandard_iff.mp standard.2 child mem)
    refine ⟨_, ?_, puts.paired found form known notRaw⟩
    -- The end tag is read as one because its name holds no white space.
    rw [canonical_of_paired form]
    have closing := readsBack_closing (Token.not_mem_of_isFoundName found.name)
      (Token.closingTokens_of_found found.name standard.1)
    exact (readsBack_tag found false (rawIn_opening _ _ _ (.inl notRaw))).append
      (reads.append closing)

/-- The canonical text of what a reader has found is not refused, and gives the trees that it
spells. -/
theorem parse_canonicalAll {htmls : List Html} (found : ∀ html ∈ htmls, html.IsFound false)
    (standard : areStandard htmls) : isRefused (canonicalAll htmls) = false
      ∧ parse (canonicalAll htmls) = asReadAll "" (spelledAll htmls) := by
  obtain ⟨tokens, reads, puts⟩ := spells_canonicalAll fun html mem =>
    spells_canonical (found html mem) (areStandard_iff.mp standard html mem)
  have ready : Nesting.IsReady false {} := ⟨fun _ => rfl, rfl, fun need => by cases need⟩
  have nested := puts.nesting {} ready
  rw [← (ready.foldl_put _).leaving_nil] at nested
  exact ⟨isRefused_of_readsBack reads puts.known, parse_of_readsBack reads nested⟩

end Html

end Vitae
