import Vitae.Document.Page
import Vitae.Proofs.Markup.Reading

/-!
Pages read back. Whatever its title, its addresses and the ids of its scripts are, the text of a
page is read as that page, as long as no sheet and no script holds an angle bracket.
-/

namespace Vitae

open Html (Writable)

namespace Page

/-- Parts that stay apart on their lines. -/
def AreApart (parts : List (List Html)) : Prop :=
  ∀ part ∈ parts, part ≠ [] ∧ ∀ html ∈ part, html.isElement

/-- A page that is read as what it is. -/
structure IsReadable (p : Page) : Prop where
  stylesheet : '<' ∉ p.stylesheet.toList
  editSheet : '<' ∉ p.editSheet.toList
  protectionSheet : '<' ∉ p.protectionSheet.toList
  scripts : ∀ script ∈ p.scripts, '<' ∉ script.body.toList
  layout : Token.keptValue "div" "class" ("cv-body layout-" ++ p.layout)
    = "cv-body layout-" ++ p.layout
  decorations : ∀ html ∈ p.decorations, html.isElement ∧ Writable html
  header : AreApart [p.header] ∧ ∀ html ∈ p.header, Writable html
  sidebar : AreApart p.sidebar ∧ ∀ part ∈ p.sidebar, ∀ html ∈ part, Writable html
  main : AreApart p.main ∧ ∀ part ∈ p.main, ∀ html ∈ part, Writable html

/-- The parts of a page that are trees of their own, as they are read. -/
def asRead (p : Page) : Page :=
  { p with
    decorations := p.decorations.map Html.asRead
    header := p.header.map Html.asRead
    sidebar := p.sidebar.map (·.map Html.asRead)
    main := p.main.map (·.map Html.asRead) }

/-! Lines -/

theorem writable_onLines {parts : List (List Html)}
    (h : ∀ part ∈ parts, ∀ html ∈ part, Writable html) :
    ∀ html ∈ onLines parts, Writable html := by
  intro html mem
  simp only [onLines, lineEnd, List.mem_cons, List.mem_flatMap, List.mem_append, List.not_mem_nil,
    or_false] at mem
  rcases mem with rfl | ⟨part, hp, hh | rfl⟩
  · exact .text _
  · exact h part hp html hh
  · exact .text _

theorem asReadAll_parts {parts : List (List Html)} (h : AreApart parts) :
    Html.asReadAll "\n" (parts.flatMap fun part => part ++ [lineEnd])
      = onLines (parts.map (·.map Html.asRead)) := by
  induction parts with
  | nil => rfl
  | cons part parts ih =>
    obtain ⟨some, elements⟩ := h part (by simp)
    have later := ih fun part mem => h part (List.mem_cons_of_mem _ mem)
    have read := Html.asReadAll_append "\n" some elements
      (lineEnd :: parts.flatMap fun part => part ++ [lineEnd])
    rw [List.flatMap_cons, List.append_assoc, List.singleton_append, read]
    simp only [lineEnd, Html.asReadAll, String.empty_append] at later ⊢
    rw [later]
    simp [onLines, lineEnd, Html.heldText]

theorem asReadAll_onLines {parts : List (List Html)} (h : AreApart parts) :
    Html.asReadAll "" (onLines parts) = onLines (parts.map (·.map Html.asRead)) :=
  asReadAll_parts h

theorem areApart_append {parts others : List (List Html)} (h : AreApart parts)
    (h' : AreApart others) : AreApart (parts ++ others) := by
  intro part mem
  rcases List.mem_append.mp mem with mem | mem
  · exact h part mem
  · exact h' part mem

theorem areApart_onlyIf (condition : Bool) {part : List Html}
    (h : condition = true → part ≠ [] ∧ ∀ html ∈ part, html.isElement) :
    AreApart (onlyIf condition part) := by
  intro other mem
  cases condition with
  | false => simp [onlyIf] at mem
  | true =>
    obtain rfl : other = part := by simpa [onlyIf] using mem
    exact h rfl

theorem map_onlyIf (condition : Bool) (part : List Html) :
    (onlyIf condition part).map (·.map Html.asRead) = onlyIf condition (part.map Html.asRead) := by
  cases condition <;> rfl

/-! Parts that reading does not change -/

/-- An element that is read as what it is. -/
structure IsSettled (html : Html) : Prop where
  element : html.isElement
  writable : Writable html
  same : html.asRead = html

/-- Parts with one such element each. -/
def AreSettled (parts : List (List Html)) : Prop :=
  ∀ part ∈ parts, ∃ html, part = [html] ∧ IsSettled html

theorem AreSettled.apart {parts : List (List Html)} (h : AreSettled parts) : AreApart parts := by
  intro part mem
  obtain ⟨html, rfl, settled⟩ := h part mem
  exact ⟨by simp, by simpa using settled.element⟩

theorem AreSettled.writable {parts : List (List Html)} (h : AreSettled parts) :
    ∀ part ∈ parts, ∀ html ∈ part, Writable html := by
  intro part mem
  obtain ⟨html, rfl, settled⟩ := h part mem
  simpa using settled.writable

theorem AreSettled.map_eq {parts : List (List Html)} (h : AreSettled parts) :
    parts.map (·.map Html.asRead) = parts := by
  have each : ∀ part ∈ parts, part.map Html.asRead = part := by
    intro part mem
    obtain ⟨html, rfl, settled⟩ := h part mem
    simpa using settled.same
  conv => rhs; rw [← List.map_id parts]
  exact List.map_congr_left each

theorem AreSettled.append {parts others : List (List Html)} (h : AreSettled parts)
    (h' : AreSettled others) : AreSettled (parts ++ others) := by
  intro part mem
  rcases List.mem_append.mp mem with mem | mem
  · exact h part mem
  · exact h' part mem

theorem areSettled_of_singleton {html : Html} (h : IsSettled html) : AreSettled [[html]] := by
  intro part mem
  exact ⟨html, by simpa using mem, h⟩

theorem areSettled_onlyIf (condition : Bool) {html : Html} (h : IsSettled html) :
    AreSettled (onlyIf condition [html]) := by
  cases condition with
  | false => exact fun part mem => absurd mem (by simp [onlyIf])
  | true => exact areSettled_of_singleton h

/-- Names of attributes, each one once. -/
def areNames (names : List String) : Bool :=
  names.all Token.isAttributeName && decide names.Nodup

theorem isSettled_paired {name : String} {attributes : List (String × String)}
    {children : List Html} (ordinary : Html.isOrdinary name) {names : List String}
    (proper : areNames names) (same : attributes.map Prod.fst = names)
    (kept : ∀ pair ∈ attributes, Token.IsKept name pair)
    (each : ∀ child ∈ children, Writable child)
    (content : Html.asReadAll "" children = children) :
    IsSettled (.paired name attributes children) := by
  subst same
  simp only [areNames, Bool.and_eq_true, decide_eq_true_eq] at proper
  exact ⟨rfl, Html.writable_paired ordinary proper.1 each,
    by rw [Html.asRead_paired kept proper.2, content]⟩

theorem isSettled_raw {name s : String} {attributes : List (String × String)}
    (raw : Token.isRaw name) {names : List String} (proper : areNames names)
    (keeps : Html.keepsNames name names) (same : attributes.map Prod.fst = names)
    (free : '<' ∉ s.toList) :
    IsSettled (.paired name attributes [.verbatim ("\n" ++ s ++ "\n")]) := by
  subst same
  simp only [areNames, Bool.and_eq_true, decide_eq_true_eq] at proper
  have begun : ("\n" ++ s ++ "\n").isEmpty = false := by simp
  have lines : '<' ∉ ("\n" ++ s ++ "\n").toList := by simpa using free
  have content : Html.asReadAll "" [.verbatim ("\n" ++ s ++ "\n")]
      = [.verbatim ("\n" ++ s ++ "\n")] := by
    simp [Html.asReadAll, Html.heldText, Html.asRead]
  exact ⟨rfl, Html.writable_raw raw proper.1 begun lines,
    by rw [Html.asRead_paired (Html.isKept_of_keepsNames keeps) proper.2, content]⟩

theorem isSettled_void {name : String} {attributes : List (String × String)}
    (tagName : Token.isTagName name) (known : Html.voidNames.contains name) {names : List String}
    (proper : areNames names) (same : attributes.map Prod.fst = names)
    (kept : ∀ pair ∈ attributes, Token.IsKept name pair) :
    IsSettled (.void name attributes) := by
  subst same
  simp only [areNames, Bool.and_eq_true, decide_eq_true_eq] at proper
  exact ⟨rfl, Html.writable_void tagName known proper.1, Html.asRead_void kept proper.2⟩

theorem isSettled_meta {attributes : List (String × String)} {names : List String}
    (proper : areNames names) (keeps : Html.keepsNames "meta" names)
    (same : attributes.map Prod.fst = names) : IsSettled (.void "meta" attributes) :=
  isSettled_void (by decide) (by decide) proper same (Html.isKept_of_keepsNames (same ▸ keeps))

theorem isSettled_title (title : String) :
    IsSettled (.paired "title" [] (if title.isEmpty then [] else [.text title])) := by
  have kept : ∀ pair ∈ ([] : List (String × String)), Token.IsKept "title" pair := by simp
  refine isSettled_paired (by decide) (by decide : areNames []) rfl kept ?_ ?_
  · intro child mem
    split at mem
    · simp at mem
    · obtain rfl : child = .text title := by simpa using mem
      exact .text title
  · split
    · rfl
    · next some => simp [Html.asReadAll, Html.heldText, some]

theorem isSettled_link (url : String) :
    IsSettled (.void "link" [("href", url), ("rel", "stylesheet")]) := by
  refine isSettled_void (by decide) (by decide) (by decide : areNames ["href", "rel"]) rfl ?_
  intro pair mem
  simp only [List.mem_cons, List.not_mem_nil, or_false] at mem
  rcases mem with rfl | rfl
  · exact Token.isKept_of_name (by decide) (by decide) url
  · exact ⟨by decide, by decide⟩

theorem isSettled_style (id : String) {css : String} (free : '<' ∉ css.toList) :
    IsSettled (.paired "style" [("id", id)] [.verbatim ("\n" ++ css ++ "\n")]) :=
  isSettled_raw (by decide) (by decide : areNames ["id"]) (by decide) rfl free

theorem isSettled_overlay (tile : String) :
    IsSettled (.paired "div" [("class", "cv-watermark"), ("data-protection", "watermark"),
      ("aria-hidden", "true"), ("style", "background-image: url(" ++ tile ++ ");")] []) := by
  refine isSettled_paired (by decide)
    (by decide : areNames ["class", "data-protection", "aria-hidden", "style"]) rfl ?_ (by simp) rfl
  intro pair mem
  simp only [List.mem_cons, List.not_mem_nil, or_false] at mem
  rcases mem with rfl | rfl | rfl | rfl
  · exact ⟨by decide, by decide⟩
  · exact Token.isKept_of_name (by decide) (by decide) _
  · exact Token.isKept_of_name (by decide) (by decide) _
  · exact Token.isKept_of_name (by decide) (by decide) _

theorem areSettled_scripts {scripts : List PageScript}
    (free : ∀ script ∈ scripts, '<' ∉ script.body.toList) :
    AreSettled (scripts.map scriptBlock) := by
  intro part mem
  obtain ⟨script, hs, rfl⟩ := List.mem_map.mp mem
  refine ⟨_, rfl, ?_⟩
  by_cases role : script.role.isEmpty
  · rw [if_pos role]
    exact isSettled_raw (by decide) (by decide : areNames ["id"]) (by decide) rfl (free script hs)
  · rw [if_neg role]
    exact isSettled_raw (by decide) (by decide : areNames ["id", "data-protection"]) (by decide) rfl
      (free script hs)

theorem areSettled_headParts {p : Page} (h : p.IsReadable) : AreSettled p.headParts := by
  have links : AreSettled (p.fontUrls.map fun url =>
      [.void "link" [("href", url), ("rel", "stylesheet")]]) := by
    intro part mem
    obtain ⟨url, -, rfl⟩ := List.mem_map.mp mem
    exact ⟨_, rfl, isSettled_link url⟩
  have charset := isSettled_meta (by decide : areNames ["charset"]) (by decide)
    (rfl : [("charset", "UTF-8")].map Prod.fst = _)
  have viewport := isSettled_meta (by decide : areNames ["name", "content"]) (by decide)
    (rfl : [("name", "viewport"), ("content", "width=device-width, initial-scale=1.0")].map Prod.fst
      = _)
  have first : AreSettled [_, _, _] := ((areSettled_of_singleton charset).append
    (areSettled_of_singleton viewport)).append (areSettled_of_singleton (isSettled_title p.title))
  exact ((((first.append links).append
    (areSettled_of_singleton (isSettled_style "cv-styles" h.stylesheet))).append
    (areSettled_onlyIf _ (isSettled_style "cv-edit-styles" h.editSheet))).append
    (areSettled_onlyIf _ (isSettled_style "cv-protection-styles" h.protectionSheet)))

/-! The page -/

theorem isKept_class {cls : String} (words : Token.keptValue "div" "class" cls = cls) :
    ∀ pair ∈ [("class", cls)], Token.IsKept "div" pair := by
  intro pair mem
  obtain rfl : pair = ("class", cls) := by simpa using mem
  have lower : Text.lower "class" = "class" := by decide
  exact ⟨lower, words⟩

theorem writable_box (cls : String) {parts : List (List Html)}
    (each : ∀ part ∈ parts, ∀ html ∈ part, Writable html) :
    ∀ html ∈ box cls parts, Writable html := by
  intro html mem
  obtain rfl : html = .paired "div" [("class", cls)] (onLines parts) := by simpa [box] using mem
  exact Html.writable_paired (by decide) (by decide : ["class"].all _) (writable_onLines each)

theorem isApart_box (cls : String) (parts : List (List Html)) :
    box cls parts ≠ [] ∧ ∀ html ∈ box cls parts, html.isElement := by
  simp [box, Html.paired, Html.isElement]

theorem map_asRead_box {cls : String} (words : Token.keptValue "div" "class" cls = cls)
    {parts : List (List Html)} (apart : AreApart parts) :
    (box cls parts).map Html.asRead = box cls (parts.map (·.map Html.asRead)) := by
  simp only [box, List.map_cons, List.map_nil]
  rw [Html.asRead_paired (isKept_class words) (by decide : ["class"].Nodup),
    asReadAll_onLines apart]

theorem writable_columns {p : Page} (h : p.IsReadable) : ∀ html ∈ p.columns, Writable html := by
  apply writable_box
  intro part mem
  simp only [List.mem_append, List.mem_singleton] at mem
  rcases mem with mem | rfl
  · cases empty : p.sidebar.isEmpty with
    | true => simp [onlyIf, empty] at mem
    | false =>
      obtain rfl : part = box "cv-sidebar" p.sidebar := by simpa [onlyIf, empty] using mem
      exact writable_box _ h.sidebar.2
  · exact writable_box _ h.main.2

theorem map_asRead_columns {p : Page} (h : p.IsReadable) :
    p.columns.map Html.asRead = p.asRead.columns := by
  have apart : AreApart (onlyIf (!p.sidebar.isEmpty) (box "cv-sidebar" p.sidebar)
      ++ [box "cv-main" p.main]) :=
    areApart_append (areApart_onlyIf _ fun _ => isApart_box _ _)
      (by simpa [AreApart] using isApart_box "cv-main" p.main)
  rw [columns, map_asRead_box h.layout apart, List.map_append, map_onlyIf, List.map_singleton,
    map_asRead_box (by decide) h.sidebar.1, map_asRead_box (by decide) h.main.1]
  simp [columns, asRead]

theorem map_asRead_wrapper {p : Page} (h : p.IsReadable) :
    p.wrapper.map Html.asRead = p.asRead.wrapper := by
  have decorations : AreApart (onlyIf (!p.decorations.isEmpty) p.decorations) := by
    apply areApart_onlyIf
    intro some
    exact ⟨by simpa using some, fun html mem => (h.decorations html mem).1⟩
  have apart : AreApart (onlyIf (!p.decorations.isEmpty) p.decorations
      ++ [box "cv-container" [p.header, p.columns]]) :=
    areApart_append decorations (by simpa [AreApart] using isApart_box "cv-container" _)
  have inner : AreApart [p.header, p.columns] := by
    have header := h.header.1 p.header (by simp)
    have columns := isApart_box ("cv-body layout-" ++ p.layout) (onlyIf (!p.sidebar.isEmpty)
      (box "cv-sidebar" p.sidebar) ++ [box "cv-main" p.main])
    intro part mem
    simp only [List.mem_cons, List.not_mem_nil, or_false] at mem
    rcases mem with rfl | rfl
    · exact header
    · exact columns
  rw [wrapper, map_asRead_box (by decide) apart, List.map_append, map_onlyIf, List.map_singleton,
    map_asRead_box (by decide) inner]
  simp [wrapper, asRead, map_asRead_columns h]

theorem writable_wrapper {p : Page} (h : p.IsReadable) : ∀ html ∈ p.wrapper, Writable html := by
  apply writable_box
  intro part mem
  simp only [List.mem_append, List.mem_singleton] at mem
  rcases mem with mem | rfl
  · cases empty : p.decorations.isEmpty with
    | true => simp [onlyIf, empty] at mem
    | false =>
      obtain rfl : part = p.decorations := by simpa [onlyIf, empty] using mem
      exact fun html mem => (h.decorations html mem).2
  · apply writable_box
    intro part mem
    simp only [List.mem_cons, List.not_mem_nil, or_false] at mem
    rcases mem with rfl | rfl
    · exact h.header.2
    · exact writable_columns h

/-- What a mode adds to the body. -/
theorem areSettled_layers {p : Page} (h : p.IsReadable) :
    AreSettled (onlyIf (!p.tile.isEmpty) (overlay p.tile) ++ p.scripts.map scriptBlock) :=
  (areSettled_onlyIf _ (isSettled_overlay p.tile)).append (areSettled_scripts h.scripts)

theorem writable_html {p : Page} (h : p.IsReadable) : ∀ html ∈ p.html, Writable html := by
  have head : Writable (.paired "head" [] (onLines p.headParts)) :=
    Html.writable_paired (by decide) (by decide)
      (writable_onLines (areSettled_headParts h).writable)
  have body : Writable (.paired "body" [] (onLines p.bodyParts)) := by
    refine Html.writable_paired (by decide) (by decide) (writable_onLines ?_)
    intro part mem
    simp only [bodyParts, List.cons_append, List.mem_cons] at mem
    rcases mem with rfl | mem
    · exact writable_wrapper h
    · exact (areSettled_layers h).writable part mem
  have whole : Writable (.paired "html" [("lang", "en")]
      (onLines [[.paired "head" [] (onLines p.headParts)],
        [.paired "body" [] (onLines p.bodyParts)]])) := by
    refine Html.writable_paired (by decide) (by decide) (writable_onLines ?_)
    intro part mem
    simp only [List.mem_cons, List.not_mem_nil, or_false] at mem
    rcases mem with rfl | rfl
    · simpa using head
    · simpa using body
  intro html mem
  simp only [Page.html, lineEnd, List.mem_cons, List.not_mem_nil, or_false] at mem
  rcases mem with rfl | rfl | rfl
  · exact .doctype "html" (by decide) (by decide)
  · exact .text _
  · exact whole

theorem asReadAll_html {p : Page} (h : p.IsReadable) :
    Html.asReadAll "" p.html = p.asRead.html := by
  have none {name : String} : ∀ pair ∈ ([] : List (String × String)), Token.IsKept name pair := by
    simp
  have lang : ∀ pair ∈ [("lang", "en")], Token.IsKept "html" pair :=
    Html.isKept_of_keepsNames (by decide)
  have body : AreApart p.bodyParts := by
    intro part mem
    simp only [bodyParts, List.cons_append, List.mem_cons] at mem
    rcases mem with rfl | mem
    · exact isApart_box _ _
    · exact (areSettled_layers h).apart part mem
  have bodyRead : p.bodyParts.map (·.map Html.asRead) = p.asRead.bodyParts := by
    have layers := (areSettled_layers h).map_eq
    rw [bodyParts, List.cons_append, List.map_cons, layers, map_asRead_wrapper h]
    rfl
  have apart : AreApart [[.paired "head" [] (onLines p.headParts)],
      [.paired "body" [] (onLines p.bodyParts)]] := by
    simp [AreApart, Html.paired, Html.isElement]
  have whole : Html.asRead (.paired "html" [("lang", "en")]
      (onLines [[.paired "head" [] (onLines p.headParts)],
        [.paired "body" [] (onLines p.bodyParts)]])) = _ :=
    Html.asRead_paired lang (by decide : ["lang"].Nodup)
  rw [asReadAll_onLines apart] at whole
  simp only [List.map_cons, List.map_nil, Html.asRead_paired none (by decide : [].Nodup),
    asReadAll_onLines (areSettled_headParts h).apart, (areSettled_headParts h).map_eq,
    asReadAll_onLines body, bodyRead] at whole
  have outer {html : Html} (element : html.isElement) :
      Html.asReadAll "" [.bracketed .doctype "html", .text "\n", html]
        = [.bracketed .doctype "html", .text "\n", html.asRead] := by
    have last := Html.asReadAll_append "\n" (by simp) (by simpa using element : ∀ h ∈ [html], _) []
    simpa [Html.asReadAll, Html.heldText, Html.asRead] using last
  rw [Page.html, lineEnd, outer rfl, whole]
  rfl

/-- The text of a page is read as the page. -/
theorem parse_text {p : Page} (h : p.IsReadable) : Html.parse p.text.toList = p.asRead.html := by
  rw [text, Html.markupAll, String.toList_ofList, Html.parse_charsAll (writable_html h),
    asReadAll_html h]

theorem isRefused_text {p : Page} (h : p.IsReadable) : Html.isRefused p.text.toList = false := by
  rw [text, Html.markupAll, String.toList_ofList]
  exact Html.isRefused_charsAll (writable_html h)

end Page

end Vitae
