import Vitae.Proofs.Document.Outcome
import Vitae.Proofs.Document.Shape

/-!
Restyling. The elements of a document that can be addressed and the texts it shows are those of the
content. A style decides on the order of the sections, on the format of experience and on the photo,
and on nothing else of them.
-/

namespace Vitae

open Element (seen seen_append seen_cons seen_map seen_node)

/-- What identifies an addressed element, and what it is called. -/
structure ElementIdentity where
  path : List String
  type : Option ElementType
  label : Option String
  required : Bool
  deriving DecidableEq, Repr

namespace ElementHead

def identity? (h : ElementHead) : Option ElementIdentity :=
  h.path.map fun path => ⟨path, h.type, h.label, h.required⟩

def shownText? (h : ElementHead) : Option String := presentText h.text

/-- A head without its classes. -/
def plain (h : ElementHead) : ElementHead := { h with classes := [] }

end ElementHead

namespace DocumentTree

/-- The addressed elements of a tree. -/
def identities (d : DocumentTree) : List ElementIdentity := seen ElementHead.identity? d.roots

/-- The texts of a tree that are not empty. -/
def texts (d : DocumentTree) : List String := seen ElementHead.shownText? d.roots

theorem pathIds_eq_map_identities (d : DocumentTree) :
    d.pathIds = d.identities.map fun identity => ElementId.ofPath identity.path := by
  rw [identities, seen, List.map_filterMap]
  simp only [ElementHead.identity?, Option.map_map]
  rfl

end DocumentTree

/-- Layouts that show the same of a content, in whatever order and looks. -/
structure LayoutTokens.ShowsAlike (content : Content) (layout layout' : LayoutTokens) : Prop where
  format : layout.experienceFormat = layout'.experienceFormat
  photo : content.avatarUrl.isSome → layout.showPhoto = layout'.showPhoto

namespace Assembly

variable {β : Type} {observe : ElementHead → Option β}

/-- An observer that sees neither classes nor where the text of a contact field stands. -/
structure IsStyleless (observe : ElementHead → Option β) : Prop where
  plain : ∀ h, observe h.plain = observe h
  contact : ∀ layout layout' item,
    seen observe [contactItem layout item] = seen observe [contactItem layout' item]

/-! Identities and texts -/

theorem seen_identity_contactItem (layout : LayoutTokens) (item : ContactField × String) :
    seen ElementHead.identity? [contactItem layout item]
      = [⟨["header", item.1.word], some .headerField, some (labelOf item.2), false⟩] := by
  obtain ⟨field, value⟩ := item
  have icon : seen ElementHead.identity? [field.icon] = [] := by cases field <;> rfl
  unfold contactItem
  dsimp only
  split
  · rw [seen_node, seen_cons, icon]
    rfl
  · rfl

theorem seen_text_contactItem (layout : LayoutTokens) (item : ContactField × String) :
    seen ElementHead.shownText? [contactItem layout item] = (presentText (some item.2)).toList := by
  obtain ⟨field, value⟩ := item
  have icon : seen ElementHead.shownText? [field.icon] = [] := by cases field <;> rfl
  unfold contactItem
  dsimp only
  split
  · rw [seen_node, seen_cons, icon, seen_node]
    exact List.append_nil _
  · rw [seen_node]
    exact List.append_nil _

theorem isStyleless_identity : IsStyleless ElementHead.identity? where
  plain _ := rfl
  contact layout layout' item := by rw [seen_identity_contactItem, seen_identity_contactItem]

theorem isStyleless_shownText : IsStyleless ElementHead.shownText? where
  plain _ := rfl
  contact layout layout' item := by rw [seen_text_contactItem, seen_text_contactItem]

/-! What an observer sees, part by part -/

theorem seen_mapIndexed_congr {α : Type} {f g : Nat → α → Element}
    (same : ∀ i a, seen observe [f i a] = seen observe [g i a]) (items : List α) :
    seen observe (mapIndexed f items) = seen observe (mapIndexed g items) := by
  simp only [mapIndexed, seen_map, same]

section Parts

variable (styleless : IsStyleless observe) {content : Content} {layout layout' : LayoutTokens}

include styleless

theorem seen_node_congr {head head' : ElementHead} {children children' : List Element}
    (heads : head.plain = head'.plain) (below : seen observe children = seen observe children') :
    seen observe [.node head children] = seen observe [.node head' children'] := by
  rw [seen_node, seen_node, below, ← styleless.plain head, ← styleless.plain head', heads]

theorem seen_contactBlock (layout layout' : LayoutTokens) :
    seen observe (contactBlock content layout) = seen observe (contactBlock content layout') := by
  unfold contactBlock
  dsimp only
  split
  · rfl
  · refine seen_node_congr styleless (by rfl) ?_
    simp only [seen_map, styleless.contact layout layout']

theorem seen_header (alike : layout.ShowsAlike content layout') :
    seen observe [header content layout] = seen observe [header content layout'] := by
  have photos : photo content layout = photo content layout' := by
    unfold photo
    cases given : Text.unlessEmpty content.avatarUrl with
    | none => rfl
    | some url =>
      obtain ⟨set, -⟩ := Text.unlessEmpty_eq_some_iff.mp given
      simp only [alike.photo (by simp [set])]
  refine seen_node_congr styleless (by rfl) ?_
  rw [photos, seen_append, seen_append, seen_contactBlock styleless layout layout',
    ← seen_append, ← seen_append]

theorem seen_experienceItem (format : layout.experienceFormat = layout'.experienceFormat) (i : Nat)
    (e : Experience) :
    seen observe [experienceItem layout i e] = seen observe [experienceItem layout' i e] := by
  have highlights (key : List String) :
      highlightElements layout key e.highlights = highlightElements layout' key e.highlights := by
    unfold highlightElements
    rw [format]
  refine seen_node_congr styleless (by rfl) ?_
  rw [highlights]

theorem seen_educationItem (layout layout' : LayoutTokens) (i : Nat) (e : Education) :
    seen observe [educationItem layout i e] = seen observe [educationItem layout' i e] :=
  seen_node_congr styleless (by rfl) rfl

theorem seen_skillGroup (layout layout' : LayoutTokens) (category : SkillCategory)
    (skills : List String) :
    seen observe (skillGroup layout category skills)
      = seen observe (skillGroup layout' category skills) := by
  unfold skillGroup
  split
  · rfl
  · refine seen_node_congr styleless (by rfl) ?_
    rw [seen_cons, seen_cons observe _ [boxElement _ _ _]]
    congr 1
    refine seen_node_congr styleless (by rfl) ?_
    apply seen_mapIndexed_congr
    intro i skill
    exact seen_node_congr styleless (by rfl) rfl

theorem seen_sectionChildren (format : layout.experienceFormat = layout'.experienceFormat)
    (kind : SectionKind) :
    seen observe (sectionChildren content layout kind)
      = seen observe (sectionChildren content layout' kind) := by
  cases kind with
  | experience =>
    exact seen_mapIndexed_congr (seen_experienceItem styleless format) _
  | education =>
    exact seen_mapIndexed_congr (seen_educationItem styleless layout layout') _
  | skills =>
    refine seen_node_congr styleless (by rfl) ?_
    rw [seen_append, seen_append, seen_skillGroup styleless layout layout',
      seen_skillGroup styleless layout layout']
  | summary => rfl
  | languages => rfl
  | certifications => rfl

theorem seen_sectionElement (format : layout.experienceFormat = layout'.experienceFormat)
    (kind : SectionKind) :
    seen observe [sectionElement kind (sectionChildren content layout kind)]
      = seen observe [sectionElement kind (sectionChildren content layout' kind)] := by
  refine seen_node_congr styleless (by rfl) ?_
  rw [seen_cons, seen_sectionChildren styleless format, ← seen_cons]

end Parts

end Assembly

namespace DocumentTree

open Assembly (IsStyleless)

variable {β : Type} {observe : ElementHead → Option β} {content : Content}
  {layout layout' : LayoutTokens}

/-- What is seen under a layout, part by part, under another that shows the same. -/
theorem seen_restyled (styleless : IsStyleless observe)
    (alike : layout.ShowsAlike content layout') :
    seen observe (assemble content layout).roots
      = seen observe [Assembly.header content layout']
        ++ (layout.sectionOrder.filter (Assembly.hasContent content)).flatMap fun kind =>
          seen observe
            [Assembly.sectionElement kind (Assembly.sectionChildren content layout' kind)] := by
  rw [seen_assemble, Assembly.seen_header styleless alike]
  simp only [Assembly.seen_sectionElement styleless alike.format]

theorem seen_congr (styleless : IsStyleless observe) (alike : layout.ShowsAlike content layout')
    (order : layout.sectionOrder = layout'.sectionOrder) :
    seen observe (assemble content layout).roots
      = seen observe (assemble content layout').roots := by
  rw [seen_restyled styleless alike, order, ← seen_assemble]

theorem seen_perm (styleless : IsStyleless observe) (alike : layout.ShowsAlike content layout')
    (orders : layout.sectionOrder.Perm layout'.sectionOrder) :
    (seen observe (assemble content layout).roots).Perm
      (seen observe (assemble content layout').roots) := by
  rw [seen_restyled styleless alike, seen_assemble]
  exact ((orders.filter _).flatMap_right _).append_left _

end DocumentTree

/-- Style does not interfere with what is addressed and what is said. The ids of a content are
known, and under another style whose layout shows the same of it they differ in nothing but their
order. If the order of the sections is the same, then so are the ids, the addressed elements, with
their types and labels, and the texts. Nor do texts interfere with ids: contents of one shape have
the same. -/
theorem restyling_keeps_ids {value style : Json} {content : Content} {tokens : StyleTokens}
    (read : Content.ofJson value = .ok content) (resolved : StyleTokens.ofJson style = .ok tokens) :
    ∃ ids, knownIds content tokens.layout = .ok ids
      ∧ (∀ style' tokens', StyleTokens.ofJson style' = .ok tokens' →
        tokens.layout.ShowsAlike content tokens'.layout →
          ∃ ids', knownIds content tokens'.layout = .ok ids' ∧ ids.Perm ids'
            ∧ (tokens.layout.sectionOrder = tokens'.layout.sectionOrder → ids = ids'
              ∧ (DocumentTree.assemble content tokens.layout).identities
                = (DocumentTree.assemble content tokens'.layout).identities
              ∧ (DocumentTree.assemble content tokens.layout).texts
                = (DocumentTree.assemble content tokens'.layout).texts))
      ∧ ∀ value' content', Content.ofJson value' = .ok content' → content.SameShape content' →
        knownIds content' tokens.layout = .ok ids := by
  refine ⟨_, knownIds_eq read resolved, ?_, ?_⟩
  · intro style' tokens' resolved' alike
    obtain ⟨requested, order⟩ := StyleTokens.exists_sectionOrder resolved
    obtain ⟨requested', order'⟩ := StyleTokens.exists_sectionOrder resolved'
    have orders : tokens.layout.sectionOrder.Perm tokens'.layout.sectionOrder := by
      rw [order, order']
      exact perm_completeOrder requested requested'
    refine ⟨_, knownIds_eq read resolved', ?_, fun same => ?_⟩
    · rw [DocumentTree.pathIds_eq_map_identities, DocumentTree.pathIds_eq_map_identities]
      exact (DocumentTree.seen_perm Assembly.isStyleless_identity alike orders).map _
    · have identities : (DocumentTree.assemble content tokens.layout).identities
          = (DocumentTree.assemble content tokens'.layout).identities :=
        DocumentTree.seen_congr Assembly.isStyleless_identity alike same
      refine ⟨?_, identities, DocumentTree.seen_congr Assembly.isStyleless_shownText alike same⟩
      rw [DocumentTree.pathIds_eq_map_identities, DocumentTree.pathIds_eq_map_identities,
        identities]
  · intro value' content' read' shape
    rw [knownIds_eq read' resolved, DocumentTree.pathIds_eq, DocumentTree.pathIds_eq,
      DocumentTree.paths_assemble_congr _ (Content.isTidy_ofJson read)
        (Content.isTidy_ofJson read') shape]

/-- A content with a contact, one item of experience and one skill. -/
def profileJson (name email title highlight skill : String) : Json :=
  .object [("fullName", .string name), ("contact", .object [("email", .string email)]),
    ("experience", .list [.object [("title", .string title),
      ("highlights", .list [.string highlight])]]),
    ("skills", .object [("technical", .list [.string skill])])]

def profile (name email title highlight skill : String) : Content :=
  { fullName := name, contact := some { email := some email }
    experience := [{ title, highlights := [highlight] }], skills := { technical := [skill] } }

def analystJson : Json :=
  profileJson "Ada" "ada@example.org" "Builder" "Built an engine" "Analysis"

def analyst : Content := profile "Ada" "ada@example.org" "Builder" "Built an engine" "Analysis"

def admiralJson : Json := profileJson "Grace" "grace@example.org" "Admiral" "Compiled" "Languages"

def admiral : Content := profile "Grace" "grace@example.org" "Admiral" "Compiled" "Languages"

/-- A style that looks different in every way, with a photo that the analyst does not have. -/
def iconStyle : Json :=
  .object [("themeBase", .string "creative"), ("headerVariant", .string "banner"),
    ("sectionStyle", .string "timeline"), ("skillsDisplay", .string "list"),
    ("contactLayout", .string "double-column"), ("showPhoto", .bool true),
    ("useIcons", .bool true)]

def lookOf (tokens : StyleTokens) : ExperienceFormat × List SectionKind × Bool :=
  (tokens.layout.experienceFormat, tokens.layout.sectionOrder, tokens.layout.useIcons)

theorem restyling_keeps_ids_analyst :
    ∃ tokens tokens' ids, StyleTokens.ofJson (.object []) = .ok tokens
      ∧ StyleTokens.ofJson iconStyle = .ok tokens'
      ∧ tokens.layout.useIcons = false ∧ tokens'.layout.useIcons = true
      ∧ Content.ofJson analystJson = .ok analyst ∧ Content.ofJson admiralJson = .ok admiral
      ∧ knownIds analyst tokens.layout = .ok ids ∧ knownIds analyst tokens'.layout = .ok ids
      ∧ knownIds admiral tokens.layout = .ok ids
      ∧ (DocumentTree.assemble analyst tokens.layout).texts
        = (DocumentTree.assemble analyst tokens'.layout).texts := by
  have read : Content.ofJson analystJson = .ok analyst :=
    Checked.eq_ok_of_toOption (by decide +kernel)
  have read' : Content.ofJson admiralJson = .ok admiral :=
    Checked.eq_ok_of_toOption (by decide +kernel)
  have looks : (StyleTokens.ofJson (.object [])).map lookOf
      = .ok (.bullets, SectionKind.all, false) := Checked.eq_ok_of_toOption (by decide +kernel)
  have looks' : (StyleTokens.ofJson iconStyle).map lookOf
      = .ok (.bullets, SectionKind.all, true) := Checked.eq_ok_of_toOption (by decide +kernel)
  obtain ⟨tokens, resolved, look⟩ := Checked.map_eq_ok.mp looks
  obtain ⟨tokens', resolved', look'⟩ := Checked.map_eq_ok.mp looks'
  simp only [lookOf, Prod.mk.injEq] at look look'
  have alike : tokens.layout.ShowsAlike analyst tokens'.layout :=
    ⟨look.1.trans look'.1.symm, fun photo => absurd photo (by decide)⟩
  have shape : analyst.SameShape admiral := {
    headline := rfl
    summary := rfl
    experience := .cons ⟨by decide, by decide, by decide, rfl, rfl⟩ .nil
    education := .nil
    technical := rfl
    soft := rfl
    languages := .nil
    certifications := rfl
    contact := fun field => by cases field <;> rfl
    avatar := rfl }
  obtain ⟨ids, known, restyled, shaped⟩ := restyling_keeps_ids read resolved
  obtain ⟨ids', known', -, same⟩ := restyled iconStyle tokens' resolved' alike
  obtain ⟨rfl, -, texts⟩ := same (look.2.1.trans look'.2.1.symm)
  exact ⟨tokens, tokens', ids, resolved, resolved', look.2.2, look'.2.2, read, read', known, known',
    shaped _ _ read' shape, texts⟩

end Vitae
