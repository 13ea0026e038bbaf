import Vitae.Proofs.Decimal.Digits
import Vitae.Proofs.Style.Zones
import Vitae.Style.Sheet

/-!
Style sheets hold no angle bracket that could end them, whatever declarations an author adds.
-/

namespace Vitae

namespace StyleRule

/-- A rule without a mark. -/
structure IsFree (mark : Char) (r : StyleRule) : Prop where
  selector : Lacks mark r.selector
  declarations : ∀ d ∈ r.declarations, Lacks mark d

theorem IsFree.text {r : StyleRule} (h : r.IsFree '<') : Lacks '<' r.text := by
  have lines : ∀ line ∈ r.declarations.map fun d => "  " ++ d ++ ";\n", Lacks '<' line := by
    intro line mem
    obtain ⟨d, inside, rfl⟩ := List.mem_map.mp mem
    exact ((Lacks.of_chars rfl rfl).append (h.declarations d inside)).append (.of_chars rfl rfl)
  exact ((h.selector.append (.of_chars rfl rfl)).append (.join lines)).append (.of_chars rfl rfl)

theorem IsFree.indentedText {r : StyleRule} (h : r.IsFree '<') : Lacks '<' r.indentedText := by
  have lines : ∀ line ∈ r.declarations.map fun d => "    " ++ d ++ ";\n", Lacks '<' line := by
    intro line mem
    obtain ⟨d, inside, rfl⟩ := List.mem_map.mp mem
    exact ((Lacks.of_chars rfl rfl).append (h.declarations d inside)).append (.of_chars rfl rfl)
  exact ((((Lacks.of_chars rfl rfl).append h.selector).append (.of_chars rfl rfl)).append
    (.join lines)).append (.of_chars rfl rfl)

theorem lacks_sheet {rules : List StyleRule} (h : ∀ r ∈ rules, r.IsFree '<') :
    Lacks '<' (sheet rules) := by
  refine .intercalate (.of_chars rfl rfl) fun text mem => ?_
  obtain ⟨r, inside, rfl⟩ := List.mem_map.mp mem
  exact (h r inside).text

theorem lacks_media {query : String} (free : Lacks '<' query) {rules : List StyleRule}
    (h : ∀ r ∈ rules, r.IsFree '<') : Lacks '<' (media query rules) := by
  have texts : Lacks '<' ("\n\n".intercalate (rules.map indentedText)) := by
    refine .intercalate (.of_chars rfl rfl) fun text mem => ?_
    obtain ⟨r, inside, rfl⟩ := List.mem_map.mp mem
    exact (h r inside).indentedText
  exact ((((Lacks.of_chars rfl rfl).append free).append (.of_chars rfl rfl)).append texts).append
    (.of_chars rfl rfl)

end StyleRule

namespace StyleRule

theorem isFree_iff {mark : Char} {selector : String} {declarations : List String} :
    IsFree mark ⟨selector, declarations⟩
      ↔ Lacks mark selector ∧ ∀ d ∈ declarations, Lacks mark d :=
  ⟨fun h => ⟨h.selector, h.declarations⟩, fun h => ⟨h.1, h.2⟩⟩

end StyleRule

open StyleRule (isFree_iff)

/-- The rules that do not depend on a choice. -/
def commonRules : List StyleRule :=
  pageRules ++ fullBleedRules ++ contactIconRules ++ decorationRules ++ printRules ++ editRules
    ++ copyGuardRules ++ overlayRules ++ overlayPrintRules

theorem isFree_commonRules : ∀ r ∈ commonRules, r.IsFree '<' := by
  simp only [commonRules, pageRules, fullBleedRules, contactIconRules, decorationRules, printRules,
    editRules, copyGuardRules, overlayRules, overlayPrintRules, List.cons_append, List.nil_append,
    List.forall_mem_cons, List.not_mem_nil, false_implies, implies_true, and_true, isFree_iff]
  and_intros
  all_goals exact .of_chars rfl rfl

theorem HeaderVariant.isFree_rules (v : HeaderVariant) : ∀ r ∈ v.rules, r.IsFree '<' := by
  cases v <;>
    simp only [HeaderVariant.rules, List.forall_mem_cons, List.not_mem_nil, false_implies,
      implies_true, and_true, isFree_iff] <;>
    and_intros <;> exact .of_chars rfl rfl

theorem SectionStyle.isFree_rules (v : SectionStyle) : ∀ r ∈ v.rules, r.IsFree '<' := by
  cases v <;>
    simp only [SectionStyle.rules, List.forall_mem_cons, List.not_mem_nil, false_implies,
      implies_true, and_true, isFree_iff] <;>
    and_intros <;> exact .of_chars rfl rfl

theorem SkillsDisplay.isFree_rules (v : SkillsDisplay) : ∀ r ∈ v.rules, r.IsFree '<' := by
  cases v <;>
    simp only [SkillsDisplay.rules, List.forall_mem_cons, List.not_mem_nil, false_implies,
      implies_true, and_true, isFree_iff] <;>
    and_intros <;> exact .of_chars rfl rfl

theorem PageLayout.isFree_rules (v : PageLayout) : ∀ r ∈ v.rules, r.IsFree '<' := by
  cases v <;>
    simp only [PageLayout.rules, List.forall_mem_cons, List.not_mem_nil, false_implies,
      implies_true, and_true, isFree_iff] <;>
    and_intros <;> exact .of_chars rfl rfl

theorem ContactLayout.isFree_rules (v : ContactLayout) : ∀ r ∈ v.rules, r.IsFree '<' := by
  cases v <;>
    simp only [ContactLayout.rules, List.forall_mem_cons, List.not_mem_nil, false_implies,
      implies_true, and_true, isFree_iff] <;>
    and_intros <;> exact .of_chars rfl rfl

theorem HeaderGradient.isFree_rules (v : HeaderGradient) : ∀ r ∈ v.rules, r.IsFree '<' := by
  cases v
  case none => simp [HeaderGradient.rules]
  all_goals
    simp only [HeaderGradient.rules, List.forall_mem_cons, List.not_mem_nil, false_implies,
      implies_true, and_true, isFree_iff, Lacks.append_iff]
    and_intros <;> exact .of_chars rfl rfl

namespace SheetParts

/-- Parts without a mark. -/
structure IsFree (mark : Char) (p : SheetParts) : Prop where
  rootVariables : ∀ pair ∈ p.rootVariables, Lacks mark pair.1 ∧ Lacks mark pair.2
  choices : ∀ choice ∈ p.choices,
    Lacks mark choice.1 ∧ Lacks mark choice.2.1 ∧ Lacks mark choice.2.2
  custom : ∀ rule ∈ p.custom, Lacks mark rule.1 ∧ Lacks mark rule.2

theorem IsFree.variableRule {p : SheetParts} (h : p.IsFree '<') : p.variableRule.IsFree '<' := by
  refine ⟨.of_chars rfl rfl, fun d mem => ?_⟩
  obtain ⟨⟨name, value⟩, inside, rfl⟩ := List.mem_map.mp mem
  obtain ⟨nameFree, valueFree⟩ := h.rootVariables _ inside
  show Lacks '<' ("--" ++ name ++ ": " ++ value)
  exact (((Lacks.of_chars rfl rfl).append nameFree).append (.of_chars rfl rfl)).append valueFree

theorem lacks_optionalText (wanted : Bool) {rules : List StyleRule}
    (h : ∀ r ∈ rules, r ∈ commonRules) : Lacks '<' (optionalText wanted rules) := by
  unfold optionalText
  split
  · exact ((Lacks.of_chars rfl rfl).append (StyleRule.lacks_sheet fun r mem =>
      isFree_commonRules r (h r mem))).append (.of_chars rfl rfl)
  · exact .of_chars rfl rfl

theorem IsFree.text {p : SheetParts} (h : p.IsFree '<') : Lacks '<' p.text := by
  have newLine : Lacks '<' "\n" := .of_chars rfl rfl
  have gap : Lacks '<' "\n\n" := .of_chars rfl rfl
  have main : Lacks '<' (StyleRule.sheet (p.variableRule :: pageRules)) := by
    apply StyleRule.lacks_sheet
    intro r mem
    rcases List.mem_cons.mp mem with rfl | mem
    · exact h.variableRule
    · exact isFree_commonRules r (by simp [commonRules, mem])
  have choices : Lacks '<' ("\n\n".intercalate (p.choices.map choiceText)) := by
    refine gap.intercalate fun text mem => ?_
    obtain ⟨choice, inside, rfl⟩ := List.mem_map.mp mem
    obtain ⟨what, word, rules⟩ := h.choices choice inside
    exact (((((Lacks.of_chars rfl rfl).append what).append (.of_chars rfl rfl)).append word).append
      (.of_chars rfl rfl)).append rules
  have print : Lacks '<' (StyleRule.media "print" printRules) :=
    StyleRule.lacks_media (.of_chars rfl rfl) fun r mem =>
      isFree_commonRules r (by simp [commonRules, mem])
  have custom : Lacks '<' (String.join (p.custom.map customRuleText)) := by
    refine .join fun text mem => ?_
    obtain ⟨rule, inside, rfl⟩ := List.mem_map.mp mem
    obtain ⟨selector, css⟩ := h.custom rule inside
    exact ((((Lacks.of_chars rfl rfl).append selector).append (.of_chars rfl rfl)).append
      css).append (.of_chars rfl rfl)
  have fullBleed : Lacks '<' (optionalText p.fullBleed fullBleedRules) :=
    lacks_optionalText _ fun r mem => by simp [commonRules, mem]
  have icons : Lacks '<' (optionalText p.icons contactIconRules) :=
    lacks_optionalText _ fun r mem => by simp [commonRules, mem]
  have decorations : Lacks '<' (optionalText p.decorations decorationRules) :=
    lacks_optionalText _ fun r mem => by simp [commonRules, mem]
  exact (((((((((main.append gap).append choices).append newLine).append fullBleed).append
    icons).append decorations).append newLine).append print).append newLine).append custom

end SheetParts

namespace Color

theorem lacks_hex (c : Color) : Lacks '<' c.hex := by
  have digits := Text.not_mem_hexDigits (by decide : ∀ d < 16, Text.lowerHexDigit d ≠ '<') 2
  rw [Lacks, hex, String.toList_ofList]
  simp [hexChars, channelChars, digits]

end Color

namespace StyleTokens

theorem lacks_points (n : Nat) : Lacks '<' (points n) :=
  (Decimal.lacks_natText (by decide) n).append (.of_chars rfl rfl)

theorem lacks_families (p : FontPairing) :
    Lacks '<' p.faces.heading.family ∧ Lacks '<' p.faces.body.family := by
  cases p <;> exact ⟨.of_chars rfl rfl, .of_chars rfl rfl⟩

theorem lacks_lineHeight (s : TypeScale) :
    Lacks '<' (Decimal.unitsText s.sizes.lineHeightTenths 1) := by
  unfold Lacks
  cases s <;> decide

theorem lacks_distances (s : SpacingScale) : Lacks '<' s.distances.sectionGap
    ∧ Lacks '<' s.distances.item ∧ Lacks '<' s.distances.element
    ∧ Lacks '<' s.distances.pageMargin := by
  cases s <;> exact ⟨.of_chars rfl rfl, .of_chars rfl rfl, .of_chars rfl rfl, .of_chars rfl rfl⟩

theorem lacks_rootVariables (t : StyleTokens) :
    ∀ pair ∈ t.rootVariables, Lacks '<' pair.1 ∧ Lacks '<' pair.2 := by
  obtain ⟨heading, body⟩ := lacks_families t.fontPairing
  obtain ⟨gap, item, element, margin⟩ := lacks_distances t.layout.spacing
  have radius : Lacks '<' (if t.layout.roundedCorners then "4pt" else "0") := by
    split <;> exact .of_chars rfl rfl
  have hex := Color.lacks_hex
  have points := lacks_points
  simp only [rootVariables, List.forall_mem_cons, List.not_mem_nil, false_implies, implies_true,
    and_true]
  exact ⟨⟨.of_chars rfl rfl, hex _⟩, ⟨.of_chars rfl rfl, hex _⟩, ⟨.of_chars rfl rfl, hex _⟩,
    ⟨.of_chars rfl rfl, hex _⟩, ⟨.of_chars rfl rfl, hex _⟩, ⟨.of_chars rfl rfl, hex _⟩,
    ⟨.of_chars rfl rfl, hex _⟩, ⟨.of_chars rfl rfl, hex _⟩, ⟨.of_chars rfl rfl, hex _⟩,
    ⟨.of_chars rfl rfl, hex _⟩, ⟨.of_chars rfl rfl, heading⟩, ⟨.of_chars rfl rfl, body⟩,
    ⟨.of_chars rfl rfl, points _⟩, ⟨.of_chars rfl rfl, points _⟩, ⟨.of_chars rfl rfl, points _⟩,
    ⟨.of_chars rfl rfl, points _⟩, ⟨.of_chars rfl rfl, lacks_lineHeight _⟩,
    ⟨.of_chars rfl rfl, gap⟩, ⟨.of_chars rfl rfl, item⟩, ⟨.of_chars rfl rfl, element⟩,
    ⟨.of_chars rfl rfl, margin⟩, ⟨.of_chars rfl rfl, radius⟩⟩

theorem lacks_choices (t : StyleTokens) : ∀ choice ∈ t.sheetParts.choices,
    Lacks '<' choice.1 ∧ Lacks '<' choice.2.1 ∧ Lacks '<' choice.2.2 := by
  have header : Lacks '<' t.layout.headerVariant.word := by
    cases t.layout.headerVariant <;> exact .of_chars rfl rfl
  have sections : Lacks '<' t.layout.sectionStyle.word := by
    cases t.layout.sectionStyle <;> exact .of_chars rfl rfl
  have skills : Lacks '<' t.layout.skillsDisplay.word := by
    cases t.layout.skillsDisplay <;> exact .of_chars rfl rfl
  have page : Lacks '<' t.layout.page.word := by
    cases t.layout.page <;> exact .of_chars rfl rfl
  have contact : Lacks '<' t.layout.contactLayout.word := by
    cases t.layout.contactLayout <;> exact .of_chars rfl rfl
  have gradient : Lacks '<' t.layout.headerGradient.word := by
    cases t.layout.headerGradient <;> exact .of_chars rfl rfl
  simp only [sheetParts, List.forall_mem_cons, List.not_mem_nil, false_implies, implies_true,
    and_true]
  exact ⟨⟨.of_chars rfl rfl, header, StyleRule.lacks_sheet (HeaderVariant.isFree_rules _)⟩,
    ⟨.of_chars rfl rfl, sections, StyleRule.lacks_sheet (SectionStyle.isFree_rules _)⟩,
    ⟨.of_chars rfl rfl, skills, StyleRule.lacks_sheet (SkillsDisplay.isFree_rules _)⟩,
    ⟨.of_chars rfl rfl, page, StyleRule.lacks_sheet (PageLayout.isFree_rules _)⟩,
    ⟨.of_chars rfl rfl, contact, StyleRule.lacks_sheet (ContactLayout.isFree_rules _)⟩,
    ⟨.of_chars rfl rfl, gradient, StyleRule.lacks_sheet (HeaderGradient.isFree_rules _)⟩⟩

theorem lacks_selector (zone : StyleZone) : Lacks '<' zone.selector := by
  cases zone <;> exact .of_chars rfl rfl

/-- The sheet of a resolved style cannot end its style element. -/
theorem lacks_stylesheet {style : Json} {tokens : StyleTokens} (h : ofJson style = .ok tokens) :
    Lacks '<' tokens.stylesheet := by
  have custom : ∀ rule ∈ tokens.customRules, Lacks '<' rule.1 ∧ Lacks '<' rule.2 := by
    intro rule mem
    obtain ⟨⟨zone, css⟩, inside, rfl⟩ := List.mem_map.mp mem
    exact ⟨lacks_selector zone, lacks_declarations h (by decide) _ inside⟩
  exact SheetParts.IsFree.text ⟨lacks_rootVariables tokens, lacks_choices tokens, custom⟩

end StyleTokens

theorem lacks_editSheet : Lacks '<' editSheet :=
  StyleRule.lacks_sheet fun r mem => isFree_commonRules r (by simp [commonRules, mem])

theorem lacks_protectionSheet (blockCopy : Bool) : Lacks '<' (protectionSheet blockCopy) := by
  have rules : ∀ r ∈ (if blockCopy then copyGuardRules else []) ++ overlayRules,
      r.IsFree '<' := by
    intro r mem
    rcases List.mem_append.mp mem with mem | mem
    · split at mem
      · exact isFree_commonRules r (by simp [commonRules, mem])
      · simp at mem
    · exact isFree_commonRules r (by simp [commonRules, mem])
  have print : Lacks '<' (StyleRule.media "print" overlayPrintRules) :=
    StyleRule.lacks_media (.of_chars rfl rfl) fun r mem =>
      isFree_commonRules r (by simp [commonRules, mem])
  exact ((StyleRule.lacks_sheet rules).append (.of_chars rfl rfl)).append print

end Vitae
