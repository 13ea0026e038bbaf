import Vitae.Proofs.Color
import Vitae.Proofs.Color.Repair
import Vitae.Proofs.Style.Order
import Vitae.Proofs.Style.Zones

/-!
Resolving once is enough. Tokens that are written back as a style which states every choice resolve
to themselves, and their colours need no repair.
-/

namespace Vitae

open Vocabulary (word)

/-! Styles that state every choice -/

namespace StyleTokens

def colorMembers (t : StyleTokens) : List (String × Json) :=
  t.palette.entries.map fun entry => (entry.1, .string entry.2.hex)

def orderItems (t : StyleTokens) : List Json :=
  t.layout.sectionOrder.map fun kind => .string (word kind)

def declarationMembers (t : StyleTokens) : List (String × Json) :=
  t.declarations.map fun entry => (word entry.1, .string entry.2)

/-- The members of a style that states every choice of the tokens. -/
def explicitMembers (t : StyleTokens) (fixContrast : Bool) : List (String × Json) := [
  ("themeBase", .string (word t.theme)),
  ("fontPairing", .string (word t.fontPairing)),
  ("scale", .string (word t.scale)),
  ("spacing", .string (word t.layout.spacing)),
  ("colors", .object t.colorMembers),
  ("headerVariant", .string (word t.layout.headerVariant)),
  ("sectionStyle", .string (word t.layout.sectionStyle)),
  ("skillsDisplay", .string (word t.layout.skillsDisplay)),
  ("decorations", .string (word t.decorations)),
  ("layout", .string (word t.layout.page)),
  ("experienceDescriptionFormat", .string (word t.layout.experienceFormat)),
  ("sectionOrder", .list t.orderItems),
  ("showPhoto", .bool t.layout.showPhoto),
  ("roundedCorners", .bool t.layout.roundedCorners),
  ("contactLayout", .string (word t.layout.contactLayout)),
  ("headerGradient", .string (word t.layout.headerGradient)),
  ("headerFullBleed", .bool t.layout.headerFullBleed),
  ("useIcons", .bool t.layout.useIcons),
  ("decorationTheme", .string (word t.decorationTheme)),
  ("customCSS", .object t.declarationMembers),
  ("styleName", .string t.styleName),
  ("fixContrast", .bool fixContrast)]

/-- A style that states every choice of the tokens. -/
def explicitStyle (t : StyleTokens) (fixContrast : Bool) : Json :=
  .object (t.explicitMembers fixContrast)

/-- What is read of a style that states every choice of the tokens. -/
def explicitDescriptor (t : StyleTokens) (fixContrast : Bool) : StyleDescriptor where
  theme := t.theme
  fontPairing := some t.fontPairing
  scale := t.scale
  spacing := t.layout.spacing
  colors := some t.palette
  headerVariant := some t.layout.headerVariant
  sectionStyle := some t.layout.sectionStyle
  skillsDisplay := some t.layout.skillsDisplay
  decorations := t.decorations
  layout := t.layout.page
  experienceFormat := t.layout.experienceFormat
  sectionOrder := t.orderItems
  showPhoto := t.layout.showPhoto
  roundedCorners := some t.layout.roundedCorners
  contactLayout := some t.layout.contactLayout
  headerGradient := some t.layout.headerGradient
  headerFullBleed := some t.layout.headerFullBleed
  useIcons := t.layout.useIcons
  decorationTheme := t.decorationTheme
  fixContrast := fixContrast
  declarations := t.declarationMembers
  styleName := t.styleName

theorem readColors_colorMembers (t : StyleTokens) :
    StyleDescriptor.readColors (.object t.colorMembers) = .ok (some t.palette) := by
  have found : ∀ entry ∈ t.palette.entries,
      Json.getOrNull entry.1 t.colorMembers = .string entry.2.hex := by
    simp [colorMembers, Palette.entries, Json.getOrNull, Json.get?]
  simp only [Palette.entries, List.forall_mem_cons] at found
  obtain ⟨primary, secondary, accent, text, muted, -⟩ := found
  have given : Palette.names.filter (fun name => !(Json.getOrNull name t.colorMembers).truthy)
      = [] := by
    simp [Palette.names, primary, secondary, accent, text, muted, Json.truthy, Color.isEmpty_hex]
  have built : Palette.build (fun name =>
      Color.read ("colors." ++ name) (Json.getOrNull name t.colorMembers)) = .ok t.palette := by
    simp only [Palette.build, primary, secondary, accent, text, muted, Color.read_hex]
    rfl
  simp only [StyleDescriptor.readColors, given, built]
  rfl

theorem textOrEmpty_string (s : String) : StyleDescriptor.textOrEmpty (.string s) = s := by
  rw [StyleDescriptor.textOrEmpty, Json.truthy]
  cases empty : s.isEmpty with
  | false => rfl
  | true => exact (String.isEmpty_iff.mp empty).symm

theorem ofMembers_explicitMembers (t : StyleTokens) (fixContrast : Bool) :
    StyleDescriptor.ofMembers (t.explicitMembers fixContrast)
      = .ok (t.explicitDescriptor fixContrast) := by
  have order : StyleDescriptor.readOrder (.list t.orderItems) = .ok t.orderItems := by
    cases t.orderItems <;> rfl
  simp [StyleDescriptor.ofMembers, StyleDescriptor.wordOr, StyleDescriptor.optionalWord,
    StyleDescriptor.optionalFlag, StyleDescriptor.flagOr, Json.getOrNull, Json.get?,
    explicitMembers, Vocabulary.read_word, readFlag, readColors_colorMembers, order,
    StyleDescriptor.readDeclarations, textOrEmpty_string, explicitDescriptor, Except.map, bind,
    Except.bind, pure, Except.pure]

/-! Tokens that are settled -/

/-- Tokens that resolving makes: they have a name, an order of all kinds and declarations of which
nothing is to be taken out, and their colours are readable if they are to be. -/
structure IsSettled (fixContrast : Bool) (t : StyleTokens) : Prop where
  named : t.styleName.isEmpty = false
  readable : fixContrast → t.palette.IsReadable
  distinct : t.layout.sectionOrder.Nodup
  complete : ∀ kind, kind ∈ t.layout.sectionOrder
  sorted : t.declarations.Pairwise fun a b => a.1.word ≤ b.1.word
  safe : ∀ entry ∈ t.declarations, entry.2.isEmpty = false ∧ Style.safePart entry.2 = entry.2

end StyleTokens

theorem isEmpty_defaultStyleName (theme : Theme) (scale : TypeScale) :
    (defaultStyleName theme scale).isEmpty = false := by
  cases theme <;> cases scale <;> decide

theorem Checked.mapM_word {α : Type} [Vocabulary α] [LawfulVocabulary α] (field : String)
    (items : List α) :
    (items.map fun a => Json.string (word a)).mapM (Vocabulary.read field) = .ok items := by
  rw [Checked.mapM_eq_ok_iff, List.forall₂_map_left_iff, List.forall₂_same]
  exact fun a _ => Vocabulary.read_word field a

namespace StyleDescriptor

theorem isReadable_resolvePalette {d : StyleDescriptor} (fix : d.fixContrast) :
    d.resolvePalette.1.IsReadable := by
  unfold resolvePalette
  rw [if_pos fix]
  exact Palette.isReadable_repair _ _

theorem isSettled_of_resolve {d : StyleDescriptor} {r : Resolution} (h : d.resolve = .ok r) :
    r.tokens.IsSettled d.fixContrast := by
  have readable : d.fixContrast → d.resolvePalette.1.IsReadable := isReadable_resolvePalette
  unfold resolve at h
  generalize d.resolvePalette = palette at h readable
  obtain ⟨declarations, declared, rest⟩ := Checked.bind_eq_ok.mp h
  obtain ⟨order, ordered, rest⟩ := Checked.bind_eq_ok.mp rest
  obtain rfl := Except.ok.inj rest
  obtain ⟨kinds, -, made⟩ := Checked.bind_eq_ok.mp ordered
  obtain rfl := Except.ok.inj made
  exact {
    named := by
      dsimp only
      split
      · exact isEmpty_defaultStyleName d.theme d.scale
      · next given => simpa using given
    readable := readable
    distinct := nodup_completeOrder kinds
    complete := mem_completeOrder kinds
    sorted := pairwise_resolveDeclarations declared
    safe := fun entry mem => by
      obtain ⟨some, s, -, safe⟩ := (mem_resolveDeclarations declared).mp mem
      exact ⟨some, by rw [← safe, Style.safePart_safePart]⟩ }

end StyleDescriptor

namespace StyleTokens

theorem resolvePalette_explicitDescriptor {t : StyleTokens} {fixContrast : Bool}
    (readable : fixContrast → t.palette.IsReadable) :
    (t.explicitDescriptor fixContrast).resolvePalette = (t.palette, []) := by
  have given : (t.explicitDescriptor fixContrast).colors.getD
      (t.explicitDescriptor fixContrast).theme.defaults.palette = t.palette := rfl
  unfold StyleDescriptor.resolvePalette
  simp only [given]
  cases fixContrast with
  | false => rfl
  | true =>
    have swatches : ((t.palette.map Color.swatch).map Swatch.color).IsReadable := readable rfl
    rw [Palette.repair_of_isReadable swatches]
    rfl

/-- There is nothing left to resolve in settled tokens. -/
theorem resolve_explicitDescriptor {t : StyleTokens} {fixContrast : Bool}
    (h : t.IsSettled fixContrast) :
    (t.explicitDescriptor fixContrast).resolve = .ok ⟨t, []⟩ := by
  have palette := resolvePalette_explicitDescriptor h.readable
  have declarations : resolveDeclarations (t.explicitDescriptor fixContrast).declarations
      = .ok t.declarations := resolveDeclarations_of_safe h.sorted h.safe
  have order : resolveSectionOrder (t.explicitDescriptor fixContrast).sectionOrder
      = .ok t.layout.sectionOrder := by
    have kinds := Checked.mapM_word "sectionOrder" t.layout.sectionOrder
    have whole := completeOrder_of_complete h.distinct h.complete
    exact Checked.bind_eq_ok.mpr ⟨_, kinds, congrArg Except.ok whole⟩
  unfold StyleDescriptor.resolve
  rw [palette]
  refine Checked.bind_eq_ok.mpr ⟨_, declarations, Checked.bind_eq_ok.mpr ⟨_, order, ?_⟩⟩
  simp only [explicitDescriptor, StyleDescriptor.header, Option.getD_some, h.named,
    Bool.false_eq_true, if_false]
  rfl

/-- Whether the colours of a style are to be repaired, which they are unless it says otherwise. -/
def fixesContrast (style : Json) : Bool :=
  match style.member? "fixContrast" with
  | some (.bool fix) => fix
  | _ => true

theorem fixContrast_of_ofMembers {members : List (String × Json)} {d : StyleDescriptor}
    (read : StyleDescriptor.ofMembers members = .ok d) :
    d.fixContrast = fixesContrast (.object members) := by
  unfold StyleDescriptor.ofMembers at read
  -- The choices that are read before it.
  iterate 20 obtain ⟨_, -, read⟩ := Checked.bind_eq_ok.mp read
  obtain ⟨fix, flag, read⟩ := Checked.bind_eq_ok.mp read
  obtain rfl := Except.ok.inj read
  obtain ⟨given, known, rfl⟩ := Checked.map_eq_ok.mp flag
  rw [fixesContrast, Json.member?]
  rw [StyleDescriptor.optionalFlag, Json.getOrNull] at known
  cases found : Json.get? "fixContrast" members with
  | none =>
    rw [found] at known
    obtain rfl := Except.ok.inj known
    rfl
  | some value =>
    rw [found] at known
    cases value with
    | null =>
      obtain rfl := Except.ok.inj known
      rfl
    | bool fix =>
      obtain rfl := Except.ok.inj known
      rfl
    | _ => cases known

/-- Resolving is a projection. Whatever a style leaves open and however it is written, its tokens
written back as a style that states every choice resolve to the same tokens, and no colour is
repaired again. -/
theorem resolutionOf_explicitStyle {style : Json} {r : Resolution}
    (resolved : resolutionOf style = .ok r) :
    resolutionOf (r.tokens.explicitStyle (fixesContrast style)) = .ok ⟨r.tokens, []⟩ := by
  cases style with
  | object members =>
    obtain ⟨d, read, resolved⟩ := Checked.bind_eq_ok.mp resolved
    have settled := StyleDescriptor.isSettled_of_resolve resolved
    rw [fixContrast_of_ofMembers read] at settled
    have again := ofMembers_explicitMembers r.tokens (fixesContrast (.object members))
    exact Checked.bind_eq_ok.mpr ⟨_, again, resolve_explicitDescriptor settled⟩
  | _ => cases resolved

/-- A style that leaves much to do: no colour of it is readable, a section is named twice, a zone has
a rule of its own, and the header is a banner because its theme has one. -/
def fadedStyle : Json :=
  .object [("themeBase", .string "bold"),
    ("colors", .object [("primary", .string "#FD0"), ("secondary", .string " 333333 "),
      ("accent", .string "#eeeeee"), ("text", .string "ccc"), ("muted", .string "#ddd")]),
    ("sectionOrder", .list [.string "skills", .string "skills", .string "summary"]),
    ("customCSS", .object [("name", .string " color: red; \x7d ")])]

theorem resolutionOf_explicitStyle_faded :
    ∃ r, resolutionOf fadedStyle = .ok r ∧ r.fixes.length = 5
      ∧ resolutionOf (r.tokens.explicitStyle true) = .ok ⟨r.tokens, []⟩ := by
  have repaired : (resolutionOf fadedStyle).map (fun r => r.fixes.length) = .ok 5 := by
    decide +kernel
  obtain ⟨r, resolved, fixes⟩ := Checked.map_eq_ok.mp repaired
  have again := resolutionOf_explicitStyle resolved
  have asked : fixesContrast fadedStyle = true := by decide
  rw [asked] at again
  exact ⟨r, resolved, fixes, again⟩

end StyleTokens

end Vitae
