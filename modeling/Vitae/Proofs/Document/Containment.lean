import Vitae.Proofs.Document.Outcome
import Vitae.Proofs.Style.Reading
import Vitae.Proofs.Style.Zones

/-!
Declarations stay where they belong. They add rules of their own to the end of the sheet, one for
each zone, and no text of theirs reaches out of its rule; the rest of a document is the same
whatever they are.
-/

namespace Vitae

/-! Rules without comments -/

/-- Two signs stand together on one side of a character that is neither. -/
theorem pair_isInfix_append_cons {a b c : Char} (first : c ≠ a) (second : c ≠ b) {xs ys : List Char}
    (h : [a, b] <:+: xs ++ c :: ys) : [a, b] <:+: xs ∨ [a, b] <:+: ys := by
  induction xs with
  | nil =>
    rw [List.nil_append, List.infix_cons_iff] at h
    rcases h with ⟨more, start⟩ | inside
    · exact absurd (List.cons.inj start).1.symm first
    · exact .inr inside
  | cons x xs ih =>
    rw [List.cons_append, List.infix_cons_iff] at h
    rcases h with ⟨more, start⟩ | inside
    · refine .inl (List.IsPrefix.isInfix ?_)
      cases xs with
      | nil =>
        simp only [List.cons_append, List.nil_append, List.cons.injEq] at start
        exact absurd start.2.1.symm second
      | cons y xs =>
        simp only [List.cons_append, List.nil_append, List.cons.injEq] at start
        rw [start.1, start.2.1]
        exact ⟨xs, rfl⟩
    · exact (ih inside).imp (fun within => within.trans (List.suffix_cons x xs).isInfix) id

/-- A text that holds so many rules, and nothing that ends the style element or is a comment. -/
structure HoldsRules (count : Nat) (cs : List Char) : Prop where
  opened : cs.count '\x7b' = count
  closed : cs.count '\x7d' = count
  element : '<' ∉ cs
  opening : ¬ ['/', '*'] <:+: cs
  closing : ¬ ['*', '/'] <:+: cs

theorem holdsRules_nil : HoldsRules 0 [] := ⟨rfl, rfl, by simp, by simp, by simp⟩

namespace HoldsRules

variable {count more : Nat} {cs others : List Char}

/-- What stands around a character that is no part of a sign. -/
theorem append_cons {c : Char} (outside : c ∉ ['/', '*', '\x7b', '\x7d', '<'])
    (h : HoldsRules count cs) (h' : HoldsRules more others) :
    HoldsRules (count + more) (cs ++ c :: others) := by
  simp only [List.mem_cons, List.not_mem_nil, or_false, not_or] at outside
  obtain ⟨slash, star, left, right, angle⟩ := outside
  refine ⟨?_, ?_, ?_, fun within => ?_, fun within => ?_⟩
  · rw [List.count_append, List.count_cons_of_ne left, h.opened, h'.opened]
  · rw [List.count_append, List.count_cons_of_ne right, h.closed, h'.closed]
  · simp [h.element, h'.element, Ne.symm angle]
  · exact (pair_isInfix_append_cons slash star within).elim h.opening h'.opening
  · exact (pair_isInfix_append_cons star slash within).elim h.closing h'.closing

/-- Braces around a text without rules make a rule of it. -/
theorem braced (h : HoldsRules 0 cs) : HoldsRules 1 ('\x7b' :: cs ++ ['\x7d']) := by
  have inner {a b : Char} (left : '\x7b' ≠ a) (left' : '\x7b' ≠ b) (right : '\x7d' ≠ a)
      (right' : '\x7d' ≠ b) (none : ¬ [a, b] <:+: cs) :
      ¬ [a, b] <:+: '\x7b' :: cs ++ ['\x7d'] := by
    intro within
    rcases pair_isInfix_append_cons right right' within with within | within
    · have start : [a, b] <:+: [] ++ '\x7b' :: cs := within
      rcases pair_isInfix_append_cons left left' start with within | within
      · simp at within
      · exact none within
    · simp at within
  refine ⟨?_, ?_, ?_, ?_, ?_⟩
  · simp [h.opened]
  · simp [h.closed]
  · simp [h.element]
  · exact inner (by decide) (by decide) (by decide) (by decide) h.opening
  · exact inner (by decide) (by decide) (by decide) (by decide) h.closing

end HoldsRules

theorem Style.IsClean.holdsRules {cs : List Char} (h : Style.IsClean cs) : HoldsRules 0 cs where
  opened := List.count_eq_zero.mpr fun mem => absurd (h.marks _ mem) (by decide)
  closed := List.count_eq_zero.mpr fun mem => absurd (h.marks _ mem) (by decide)
  element mem := absurd (h.marks _ mem) (by decide)
  opening := h.opening
  closing := h.closing

theorem StyleZone.isClean_selector (zone : StyleZone) : Style.IsClean zone.selector.toList := by
  have plain : zone.selector.toList.all fun c => !Style.isCssMark c && c != '/' := by
    cases zone <;> decide
  have free : ∀ c ∈ zone.selector.toList, Style.isCssMark c = false ∧ c ≠ '/' := by
    simpa using plain
  have slash : '/' ∉ zone.selector.toList := fun mem => (free '/' mem).2 rfl
  exact ⟨fun c mem => (free c mem).1, fun within => slash (within.subset (by simp)),
    fun within => slash (within.subset (by simp))⟩

/-! The sheet -/

/-- The rules of the zones, one behind the other. -/
def zoneRules (declarations : List (StyleZone × String)) : String :=
  String.join (declarations.map fun entry =>
    SheetParts.customRuleText (entry.1.selector, entry.2))

theorem holdsRules_zoneRules {declarations : List (StyleZone × String)}
    (clean : ∀ entry ∈ declarations, Style.IsClean entry.2.toList) :
    HoldsRules declarations.length (zoneRules declarations).toList := by
  induction declarations with
  | nil => simpa [zoneRules] using holdsRules_nil
  | cons entry declarations ih =>
    have css := (clean entry List.mem_cons_self).holdsRules
    have others := ih fun other mem => clean other (List.mem_cons_of_mem _ mem)
    have outside : ' ' ∉ ['/', '*', '\x7b', '\x7d', '<'] := by decide
    have spaced : HoldsRules 0 (' ' :: entry.2.toList ++ [' ']) :=
      (holdsRules_nil.append_cons outside css).append_cons outside holdsRules_nil
    have rule := spaced.braced.append_cons (by decide : '\n' ∉ _) others
    have selected := entry.1.isClean_selector.holdsRules.append_cons outside rule
    have whole := holdsRules_nil.append_cons (by decide : '\n' ∉ _) selected
    have text : (zoneRules (entry :: declarations)).toList = [] ++ '\n' :: (entry.1.selector.toList
        ++ ' ' :: (('\x7b' :: (' ' :: entry.2.toList ++ [' ']) ++ ['\x7d'])
          ++ '\n' :: (zoneRules declarations).toList)) := by
      simp [zoneRules, SheetParts.customRuleText]
    rw [text, List.length_cons]
    simpa [Nat.add_comm] using whole

namespace StyleTokens

/-- The sheet of tokens is that of the same tokens without declarations, with the rules of the zones
behind it. -/
theorem stylesheet_eq (t : StyleTokens) :
    t.stylesheet = ({ t with declarations := [] } : StyleTokens).stylesheet
      ++ zoneRules t.declarations := by
  have custom : t.sheetParts.custom.map SheetParts.customRuleText
      = t.declarations.map fun entry =>
        SheetParts.customRuleText (entry.1.selector, entry.2) := by
    simp [sheetParts, customRules, Function.comp_def]
  have fixed : ({ t with declarations := [] } : StyleTokens).sheetParts.text
      = t.sheetParts.fixedText := by
    rw [SheetParts.text]
    exact String.append_empty
  rw [stylesheet, stylesheet, SheetParts.text, custom, fixed]
  rfl

end StyleTokens

/-! The page -/

namespace Html

theorem charsAll_append (escape : Escape) (htmls others : List Html) :
    charsAll escape (htmls ++ others) = charsAll escape htmls ++ charsAll escape others := by
  induction htmls with
  | nil => rfl
  | cons html htmls ih => rw [List.cons_append, charsAll, ih, charsAll, List.append_assoc]

/-- Markup in which a text stands in one place, and nothing around it depends on the text. -/
def Surrounds (inner : String → List Char) (markup : String → List Html) : Prop :=
  ∃ before after, ∀ s, charsAll escapeMarkup (markup s) = before ++ inner s ++ after

namespace Surrounds

variable {inner : String → List Char} {markup : String → List Html}

theorem between (h : Surrounds inner markup) (left right : List Html) :
    Surrounds inner fun s => left ++ markup s ++ right := by
  obtain ⟨before, after, around⟩ := h
  refine ⟨charsAll escapeMarkup left ++ before, after ++ charsAll escapeMarkup right, fun s => ?_⟩
  simp [charsAll_append, around s]

theorem paired (h : Surrounds inner markup) (name : String) (attributes : List (String × String)) :
    Surrounds inner fun s => [.paired name attributes (markup s)] := by
  obtain ⟨before, after, around⟩ := h
  refine ⟨openChars escapeMarkup { name, attributes } ++ before,
    after ++ closeChars { name, attributes }, fun s => ?_⟩
  simp [charsAll, chars, Html.paired, around s]

theorem onLines (h : Surrounds inner markup) (left right : List (List Html)) :
    Surrounds inner fun s => Page.onLines (left ++ [markup s] ++ right) := by
  have parts := h.between (Page.lineEnd :: left.flatMap fun part => part ++ [Page.lineEnd])
    (Page.lineEnd :: right.flatMap fun part => part ++ [Page.lineEnd])
  simpa [Page.onLines] using parts

end Surrounds

end Html

/-- The style element of a page. -/
def styleElement (sheet : String) : String :=
  "<style id=\"cv-styles\">" ++ ("\n" ++ sheet ++ "\n") ++ "</style>"

namespace Page

theorem surrounds_styleBlock :
    Html.Surrounds (fun sheet => (styleElement sheet).toList) (styleBlock "cv-styles") := by
  refine ⟨[], [], fun sheet => ?_⟩
  let tag : Tag := { name := "style", attributes := [("id", "cv-styles")] }
  have opening : Html.openChars Html.escapeMarkup tag = "<style id=\"cv-styles\">".toList := by
    decide +kernel
  have closing : Html.closeChars tag = "</style>".toList := by decide +kernel
  have whole : Html.charsAll Html.escapeMarkup (styleBlock "cv-styles" sheet)
      = Html.openChars Html.escapeMarkup tag ++ ("\n" ++ sheet ++ "\n").toList
        ++ Html.closeChars tag := by
    simp only [styleBlock, Html.charsAll, Html.paired, Html.chars, List.append_nil]
    rfl
  have text : (styleElement sheet).toList = "<style id=\"cv-styles\">".toList
      ++ ("\n" ++ sheet ++ "\n").toList ++ "</style>".toList := by
    unfold styleElement
    simp only [String.toList_append]
  simp only [whole, text, opening, closing, List.nil_append, List.append_nil]

/-- A page with another sheet differs in the text of its style element only. -/
theorem text_with_stylesheet (p : Page) : ∃ before after : String, ∀ sheet,
    ({ p with stylesheet := sheet } : Page).text = before ++ styleElement sheet ++ after := by
  have head := surrounds_styleBlock.onLines ([[.void "meta" [("charset", "UTF-8")]],
    [.void "meta" [("name", "viewport"), ("content", "width=device-width, initial-scale=1.0")]],
    [.paired "title" [] (if p.title.isEmpty then [] else [.text p.title])]]
    ++ p.fontUrls.map fun url => [.void "link" [("href", url), ("rel", "stylesheet")]])
    (optionalStyle "cv-edit-styles" p.editSheet
      ++ optionalStyle "cv-protection-styles" p.protectionSheet)
  have page := ((head.paired "head" []).onLines [] [[.paired "body" [] (onLines p.bodyParts)]]).paired
    "html" [("lang", "en")]
  obtain ⟨before, after, around⟩ := page.between [.bracketed .doctype "html", lineEnd] []
  refine ⟨String.ofList before, String.ofList after, fun sheet => ?_⟩
  rw [← String.toList_inj, text, Html.markupAll, String.toList_ofList, String.toList_append,
    String.toList_append, String.toList_ofList, String.toList_ofList, ← around sheet, html]
  simp only [headParts, List.append_assoc, List.nil_append, List.append_nil, List.cons_append]
  rfl

end Page

/-! Documents -/

namespace StyleTokens

/-- The declarations that a style gives, by the words of their zones. -/
def givenDeclarations (style : Json) : List (String × Json) :=
  match style.member? "customCSS" with
  | some (.object rules) => rules
  | _ => []

/-- What is left of the declarations of a style, in the order of the zones' words. -/
def leftDeclarations (style : Json) : List (StyleZone × String) :=
  (StyleZone.byWord.map fun zone => (zone, zone.cssIn (givenDeclarations style))).filter
    fun entry => !entry.2.isEmpty

theorem isClean_of_mem_leftDeclarations {style : Json} {entry : StyleZone × String}
    (mem : entry ∈ leftDeclarations style) : Style.IsClean entry.2.toList := by
  obtain ⟨zone, -, rfl⟩ := List.mem_map.mp (List.mem_filter.mp mem).1
  exact zone.isClean_cssIn _

theorem eq_givenDeclarations {members rules : List (String × Json)}
    (read : StyleDescriptor.readDeclarations (Json.getOrNull "customCSS" members) = .ok rules) :
    rules = givenDeclarations (.object members) := by
  rw [givenDeclarations, Json.member?]
  rw [Json.getOrNull] at read
  cases found : Json.get? "customCSS" members with
  | none =>
    rw [found] at read
    exact (Except.ok.inj read).symm
  | some value =>
    rw [found] at read
    cases value with
    | object given => exact (Except.ok.inj read).symm
    | _ =>
      simp only [StyleDescriptor.readDeclarations, Option.getD_some] at read
      split at read
      · cases read
      · exact (Except.ok.inj read).symm

/-- A style that resolves, taken apart into its declarations and the rest. -/
theorem exists_apart {style : Json} {tokens : StyleTokens} (h : ofJson style = .ok tokens) :
    (∃ members, style = .object members)
      ∧ ofJson (style.without "customCSS") = .ok { tokens with declarations := [] }
      ∧ resolveDeclarations (givenDeclarations style) = .ok tokens.declarations := by
  cases style with
  | object members =>
    obtain ⟨plain, rules, read, resolved⟩ := ofJson_object_eq_ok_iff.mp h
    exact ⟨⟨members, rfl⟩, plain, eq_givenDeclarations read ▸ resolved⟩
  | _ => cases h

/-- Tokens of two styles that are the same but for their declarations. -/
theorem eq_with_declarations {style other : Json} {tokens tokens' : StyleTokens}
    (same : Json.SameBut "customCSS" other style)
    (h : ofJson style = .ok tokens) (h' : ofJson other = .ok tokens') :
    tokens' = { tokens with declarations := tokens'.declarations } := by
  obtain ⟨⟨_, rfl⟩, plain, -⟩ := exists_apart h
  obtain ⟨⟨_, rfl⟩, plain', -⟩ := exists_apart h'
  have others := Except.ok.inj (plain'.symm.trans ((ofJson_without_congr same).trans plain))
  exact congrArg (fun t : StyleTokens => { t with declarations := tokens'.declarations }) others

end StyleTokens

open StyleTokens (givenDeclarations leftDeclarations)

/-- A document says the same around its style element whatever the declarations of its style are. -/
theorem exists_around_styleElement {content : Content} {style : Json} {tokens : StyleTokens}
    {overrides : OverrideSet} {options : RenderOptions} {document : String}
    (resolved : StyleTokens.ofJson style = .ok tokens)
    (compiled : compile content (StyleTokens.ofJson style) overrides options = .ok document) :
    ∃ before after, document = before ++ styleElement tokens.stylesheet ++ after
      ∧ ∀ other tokens', Json.SameBut "customCSS" other style →
        StyleTokens.ofJson other = .ok tokens' →
          compile content (StyleTokens.ofJson other) overrides options
            = .ok (before ++ styleElement tokens'.stylesheet ++ after) := by
  have some := isBlankText_of_compile compiled
  obtain ⟨_, tree, layer, known, built, mode, rfl⟩ := exists_page_of_compile compiled
  obtain rfl := Except.ok.inj (resolved.symm.trans known)
  obtain ⟨before, after, around⟩ :=
    (tree.page tokens layer (pageTitle content)).text_with_stylesheet
  refine ⟨before, after, around tokens.stylesheet, fun other tokens' same given => ?_⟩
  have restyled := StyleTokens.eq_with_declarations same resolved given
  have layout : tokens'.layout = tokens.layout := by rw [restyled]
  have page : tree.page tokens' layer (pageTitle content)
      = { tree.page tokens layer (pageTitle content) with stylesheet := tokens'.stylesheet } := by
    rw [restyled]
    rfl
  rw [compile_of_compiledTree some given (layout ▸ built) mode, page, around]

/-- Declarations are contained. The sheet of a style is that of the style without declarations,
followed by one rule for each zone of whose text something is left, in the order of their words. The
rules hold one pair of braces each and nothing that ends the style element or is a comment, and the
order in which the zones are given does not matter. Documents whose styles differ in declarations
only are the same outside the style element, which nothing in the sheet ends. -/
theorem declarations_are_contained {style : Json} {tokens : StyleTokens}
    (distinct : ((givenDeclarations style).map Prod.fst).Nodup)
    (resolved : StyleTokens.ofJson style = .ok tokens) :
    (∃ plain, StyleTokens.ofJson (style.without "customCSS") = .ok plain
        ∧ tokens.stylesheet = plain.stylesheet ++ zoneRules (leftDeclarations style))
      ∧ (leftDeclarations style).Pairwise (fun a b => a.1.word < b.1.word)
      ∧ HoldsRules (leftDeclarations style).length (zoneRules (leftDeclarations style)).toList
      ∧ (∀ entry ∈ leftDeclarations style, Style.IsClean entry.2.toList)
      ∧ Lacks '<' tokens.stylesheet
      ∧ (∀ members rules, Json.SameBut "customCSS" (.object members) style →
        Json.get? "customCSS" members = some (.object rules) →
          (givenDeclarations style).Perm rules →
            StyleTokens.ofJson (.object members) = .ok tokens)
      ∧ ∀ (content : Content) (overrides : OverrideSet) (options : RenderOptions)
        (document : String),
        compile content (StyleTokens.ofJson style) overrides options = .ok document →
          ∃ before after, document = before ++ styleElement tokens.stylesheet ++ after
            ∧ ∀ other tokens', Json.SameBut "customCSS" other style →
              StyleTokens.ofJson other = .ok tokens' →
                compile content (StyleTokens.ofJson other) overrides options
                  = .ok (before ++ styleElement tokens'.stylesheet ++ after) := by
  obtain ⟨⟨own, whole⟩, plain, declarations⟩ := StyleTokens.exists_apart resolved
  have left : tokens.declarations = leftDeclarations style :=
    resolveDeclarations_eq_byWord distinct declarations
  have clean : ∀ entry ∈ leftDeclarations style, Style.IsClean entry.2.toList :=
    fun entry mem => StyleTokens.isClean_of_mem_leftDeclarations mem
  refine ⟨⟨_, plain, left ▸ tokens.stylesheet_eq⟩,
    left ▸ strict_resolveDeclarations distinct declarations, holdsRules_zoneRules clean, clean,
    StyleTokens.lacks_stylesheet resolved, fun members rules same given perm => ?_,
    fun content overrides options document compiled =>
      exists_around_styleElement resolved compiled⟩
  have read : StyleDescriptor.readDeclarations (Json.getOrNull "customCSS" members) = .ok rules := by
    rw [Json.getOrNull, given]
    rfl
  have others : StyleTokens.ofJson ((Json.object members).without "customCSS")
      = .ok { tokens with declarations := [] } := by
    rw [whole] at same plain
    exact (StyleTokens.ofJson_without_congr same).trans plain
  have permuted := (resolveDeclarations_perm distinct perm).symm.trans declarations
  exact StyleTokens.ofJson_object_eq_ok_iff.mpr ⟨others, rules, read, permuted⟩

/-- Declarations that reach out of their rule, and out of the style element. -/
def framedStyle : Json :=
  .object [("themeBase", .string "bold"),
    ("customCSS", .object [("name", .string "color: red; \x7d"), ("item", .string "</style>")])]

theorem exists_ofJson_framedStyle : ∃ tokens, StyleTokens.ofJson framedStyle = .ok tokens := by
  let sorted : List (String × Json) :=
    [("item", .string "</style>"), ("name", .string "color: red; \x7d")]
  have cleans : List.Forall₂ StyleZone.Cleans sorted
      [(.item, Style.safePart "</style>"), (.name, Style.safePart "color: red; \x7d")] :=
    .cons ⟨rfl, _, rfl, rfl⟩ (.cons ⟨rfl, _, rfl, rfl⟩ .nil)
  have order : sorted.mergeSort wordOrder = sorted :=
    List.mergeSort_of_pairwise (by decide +kernel)
  obtain ⟨declarations, given⟩ : ∃ declarations,
      resolveDeclarations (givenDeclarations framedStyle) = .ok declarations := by
    have swapped : (givenDeclarations framedStyle).Perm sorted := .swap _ _ _
    exact ⟨_, (resolveDeclarations_perm (by decide) swapped).trans
      (resolveDeclarations_eq_ok_iff.mpr ⟨_, order.symm ▸ cleans, rfl⟩)⟩
  have resolvable : (StyleTokens.ofJson (framedStyle.without "customCSS")).isOk := by
    decide +kernel
  obtain ⟨bare, plain⟩ := Checked.exists_of_isOk resolvable
  obtain ⟨-, -, own⟩ := StyleTokens.exists_apart plain
  have none : bare.declarations = [] :=
    (Except.ok.inj (StyleDescriptor.resolveDeclarations_nil.symm.trans own)).symm
  have others : ({ bare with declarations := [] } : StyleTokens) = bare := by rw [← none]
  exact ⟨{ bare with declarations }, StyleTokens.ofJson_object_eq_ok_iff.mpr
    ⟨plain.trans (congrArg Except.ok others.symm), _, rfl, given⟩⟩

theorem declarations_are_contained_framed :
    ∃ content tokens plain document before after, Content.ofJson adaJson = .ok content
      ∧ StyleTokens.ofJson framedStyle = .ok tokens
      ∧ StyleTokens.ofJson (framedStyle.without "customCSS") = .ok plain
      ∧ tokens.stylesheet
        = plain.stylesheet ++ zoneRules [(.item, "/style"), (.name, "color: red;")]
      ∧ HoldsRules 2 (zoneRules [(.item, "/style"), (.name, "color: red;")]).toList
      ∧ compile content (StyleTokens.ofJson framedStyle) .empty {} = .ok document
      ∧ document = before ++ styleElement tokens.stylesheet ++ after
      ∧ compile content (StyleTokens.ofJson (framedStyle.without "customCSS")) .empty {}
        = .ok (before ++ styleElement plain.stylesheet ++ after) := by
  obtain ⟨tokens, resolved⟩ := exists_ofJson_framedStyle
  have readable : (Content.ofJson adaJson).isOk := by decide +kernel
  obtain ⟨content, read⟩ := Checked.exists_of_isOk readable
  have named : ∀ o ∈ OverrideSet.empty.entries, o.id.isText := by simp [OverrideSet.empty]
  obtain ⟨tree, built⟩ := exists_compiledTree read resolved named
  obtain ⟨layer, mode⟩ := @ModeLayer.exists_of_settled {} (by decide) (by decide)
  have compiled := compile_of_compiledTree (isBlankText_fullName_ada read) resolved built mode
  obtain ⟨⟨plain, bare, sheet⟩, -, rules, -, -, -, documents⟩ :=
    declarations_are_contained (by decide) resolved
  have left : leftDeclarations framedStyle = [(.item, "/style"), (.name, "color: red;")] := by
    decide +kernel
  rw [left] at sheet rules
  obtain ⟨before, after, own, others⟩ := documents content .empty {} _ compiled
  have same : Json.SameBut "customCSS" (framedStyle.without "customCSS") framedStyle :=
    fun other differs => Json.get?_filter_other differs _
  exact ⟨content, tokens, plain, _, before, after, read, resolved, bare, sheet, rules, compiled, own,
    others _ plain same bare⟩

end Vitae
