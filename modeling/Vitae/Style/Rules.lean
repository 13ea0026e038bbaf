import Vitae.Style.Tokens

/-!
Style rules as data, and the fixed rules for every choice that has some.
-/

namespace Vitae

/-- A rule of a style sheet: a selector and its declarations. -/
structure StyleRule where
  selector : String
  declarations : List String
  deriving DecidableEq, Repr

namespace StyleRule

def text (r : StyleRule) : String :=
  r.selector ++ " \x7b\n" ++ String.join (r.declarations.map fun d => "  " ++ d ++ ";\n") ++ "\x7d"

/-- Rules one after another, with an empty line between two. -/
def sheet (rules : List StyleRule) : String := "\n\n".intercalate (rules.map text)

def indentedText (r : StyleRule) : String :=
  "  " ++ r.selector ++ " \x7b\n"
    ++ String.join (r.declarations.map fun d => "    " ++ d ++ ";\n") ++ "  \x7d"

/-- Rules that hold for one medium. -/
def media (query : String) (rules : List StyleRule) : String :=
  "@media " ++ query ++ " \x7b\n" ++ "\n\n".intercalate (rules.map indentedText) ++ "\n\x7d"

end StyleRule

def HeaderVariant.rules : HeaderVariant → List StyleRule
  | .simple => [
    ⟨".cv-header", ["display: flex", "gap: var(--space-item)", "align-items: flex-start",
      "padding-bottom: var(--space-item)", "margin-bottom: var(--space-section)",
      "border-bottom: 1pt solid var(--color-border)"]⟩,
    ⟨".header-identity", ["flex: 1"]⟩,
    ⟨".contact > span:not(:last-child)::after", ["content: \" \\2022 \""]⟩]
  | .accented => [
    ⟨".cv-header", ["display: flex", "gap: var(--space-item)", "align-items: flex-start",
      "padding: 0 0 var(--space-item) var(--space-item)", "margin-bottom: var(--space-section)",
      "border-left: 4pt solid var(--color-accent)"]⟩,
    ⟨".header-identity", ["flex: 1"]⟩,
    ⟨".headline", ["color: var(--color-accent)"]⟩,
    ⟨".contact > span:not(:last-child)::after", ["content: \" | \"",
      "color: var(--color-border)"]⟩]
  | .banner => [
    ⟨".cv-header", ["display: flex", "gap: var(--space-item)", "align-items: center",
      "background: var(--color-primary)", "color: var(--color-header-text)",
      "padding: 18pt 20pt", "margin-bottom: var(--space-section)"]⟩,
    ⟨".header-identity", ["flex: 1"]⟩,
    ⟨".cv-header .name,\n.cv-header .headline,\n.cv-header .contact", [
      "color: var(--color-header-text)"]⟩,
    ⟨".cv-header .headline,\n.cv-header .contact", ["opacity: 0.9"]⟩,
    ⟨".contact > span:not(:last-child)::after", ["content: \" \\2022 \""]⟩]
  | .split => [
    ⟨".cv-header", ["display: flex", "justify-content: space-between", "align-items: flex-start",
      "gap: var(--space-item)", "padding-bottom: var(--space-item)",
      "margin-bottom: var(--space-section)", "border-bottom: 2pt solid var(--color-accent)"]⟩,
    ⟨".header-identity", ["flex: 1"]⟩,
    ⟨".contact", ["text-align: right", "color: var(--color-text)"]⟩,
    ⟨".contact > span", ["display: block", "margin-bottom: 2pt"]⟩]

def SectionStyle.rules : SectionStyle → List StyleRule
  | .clean => []
  | .underlined => [
    ⟨".section-title", ["padding-bottom: 3pt", "border-bottom: 2pt solid var(--color-accent)"]⟩]
  | .boxed => [
    ⟨".cv-section", ["background: var(--color-secondary)", "padding: var(--space-item)",
      "border-radius: var(--radius)"]⟩]
  | .timeline => [
    ⟨".cv-section", ["padding-left: var(--space-item)",
      "border-left: 2pt solid var(--color-border)"]⟩]
  | .accentLeft => [
    ⟨".section-title", ["border-left: 4pt solid var(--color-accent)", "padding-left: 8pt"]⟩]
  | .card => [
    ⟨".cv-section", ["border: 1pt solid var(--color-border)", "padding: var(--space-item)",
      "border-radius: var(--radius)"]⟩]

def SkillsDisplay.rules : SkillsDisplay → List StyleRule
  | .tags => [
    ⟨".skills-list", ["display: flex", "flex-wrap: wrap", "gap: 5pt"]⟩,
    ⟨".skill-tag", ["font-size: var(--size-small)", "padding: 2pt 8pt",
      "border-radius: var(--radius)", "background: var(--color-secondary)",
      "color: var(--color-primary)"]⟩,
    ⟨".skill-tag.soft", ["background: #f0f0f0", "color: var(--color-muted)"]⟩]
  | .list => [
    ⟨".skills-list", ["display: flex", "flex-direction: column", "gap: 2pt"]⟩,
    ⟨".skill-item::before", ["content: \"\\2022\"", "color: var(--color-accent)",
      "margin-right: var(--space-element)"]⟩]
  | .compact => [
    ⟨".skills-list", ["line-height: 1.8"]⟩,
    ⟨".skill-inline:not(:last-child)::after", ["content: \" \\2022 \"",
      "color: var(--color-muted)"]⟩]

def PageLayout.rules : PageLayout → List StyleRule
  | .singleColumn => [
    ⟨".cv-body", ["display: block"]⟩]
  | .sidebarLeft => [
    ⟨".cv-body", ["display: grid", "grid-template-columns: 32% 1fr",
      "grid-template-areas: \"sidebar main\"", "column-gap: var(--space-section)"]⟩,
    ⟨".cv-sidebar", ["grid-area: sidebar"]⟩,
    ⟨".cv-main", ["grid-area: main"]⟩]
  | .sidebarRight => [
    ⟨".cv-body", ["display: grid", "grid-template-columns: 1fr 32%",
      "grid-template-areas: \"main sidebar\"", "column-gap: var(--space-section)"]⟩,
    ⟨".cv-sidebar", ["grid-area: sidebar"]⟩,
    ⟨".cv-main", ["grid-area: main"]⟩]

def ContactLayout.rules : ContactLayout → List StyleRule
  | .singleRow => []
  | .doubleRow => [
    ⟨".contact.contact-double-row", ["display: grid", "grid-template-rows: auto auto",
      "grid-auto-flow: column", "justify-content: start", "column-gap: 12pt", "row-gap: 2pt"]⟩]
  | .singleColumn => [
    ⟨".contact.contact-single-column > span", ["display: block", "margin-bottom: 2pt"]⟩]
  | .doubleColumn => [
    ⟨".contact.contact-double-column", ["display: grid",
      "grid-template-columns: repeat(2, auto)", "justify-content: start", "column-gap: 16pt",
      "row-gap: 2pt"]⟩]

def HeaderGradient.rules : HeaderGradient → List StyleRule
  | .none => []
  | .subtle => [
    ⟨".cv-header.header-banner", [
      "background: linear-gradient(135deg, var(--color-primary) 0%, "
        ++ "var(--color-primary-deep) 100%)"]⟩]
  | .radial => [
    ⟨".cv-header.header-banner", [
      "background: radial-gradient(circle at 15% 0%, var(--color-primary-glow) 0%, "
        ++ "var(--color-primary) 45%,\n    var(--color-primary-deep) 100%)"]⟩]

def StyleZone.selector : StyleZone → String
  | .header => ".cv-header"
  | .item => ".item"
  | .sectionBox => ".cv-section"
  | .skills => ".skills-container, .skills-list"
  | .name => ".name"
  | .headline => ".headline"
  | .sectionTitle => ".section-title"
  | .itemTitle => ".item-title"
  | .itemSubtitle => ".item-subtitle"
  | .summary => ".summary"
  | .highlights => ".highlights"
  | .skillTag => ".skill-tag"
  | .avatar => ".avatar-container"
  | .divider => ".section-title::after"

/-- Outlines and shadows only: marking a selection moves no box. -/
def editRules : List StyleRule := [
  ⟨"body.cv-edit-mode [data-element-id]", ["cursor: pointer"]⟩,
  ⟨"body.cv-edit-mode [data-element-id]:hover", ["outline: 2px dashed #3b82f6",
    "outline-offset: 2px"]⟩,
  ⟨"body.cv-edit-mode [data-element-id].cv-selected", ["outline: 2px solid #3b82f6",
    "outline-offset: 2px", "box-shadow: 0 0 0 4px rgba(59, 130, 246, 0.2)"]⟩]

def copyGuardRules : List StyleRule := [
  ⟨"body", ["-webkit-user-select: none", "user-select: none"]⟩]

def overlayRules : List StyleRule := [
  ⟨".cv-watermark", ["position: fixed", "top: 0", "left: 0", "width: 100%", "height: 100%",
    "pointer-events: none", "z-index: 9999", "background-repeat: repeat"]⟩]

def overlayPrintRules : List StyleRule := [
  ⟨".cv-watermark", ["-webkit-print-color-adjust: exact !important",
    "print-color-adjust: exact !important"]⟩]

/-- Rules that every document has. -/
def pageRules : List StyleRule := [
  ⟨"*", ["margin: 0", "padding: 0", "box-sizing: border-box"]⟩,
  ⟨"html, body", ["font-family: var(--font-body)", "font-size: var(--size-body)",
    "line-height: var(--line-height)", "color: var(--color-text)", "background: #ffffff"]⟩,
  ⟨".cv-wrapper", ["position: relative", "min-height: 100%"]⟩,
  ⟨".cv-container", ["max-width: 210mm", "margin: 0 auto", "padding: var(--space-page)",
    "position: relative", "z-index: 1"]⟩,
  ⟨"h1, h2, h3, h4", ["font-family: var(--font-heading)", "line-height: 1.3"]⟩,
  ⟨".name", ["font-size: var(--size-name)", "font-weight: 700", "color: var(--color-primary)",
    "margin-bottom: var(--space-element)"]⟩,
  ⟨".headline", ["font-size: calc(var(--size-body) + 1pt)", "color: var(--color-muted)",
    "font-weight: 500", "margin-bottom: var(--space-element)"]⟩,
  ⟨".contact", ["font-size: var(--size-small)", "color: var(--color-muted)"]⟩,
  ⟨".avatar-container", ["width: 80pt", "height: 80pt", "border-radius: 50%", "overflow: hidden",
    "flex-shrink: 0"]⟩,
  ⟨".avatar", ["width: 100%", "height: 100%", "object-fit: cover", "display: block"]⟩,
  ⟨".cv-section", ["margin-bottom: var(--space-section)"]⟩,
  ⟨".section-title", ["font-size: var(--size-heading)", "font-weight: 600",
    "color: var(--color-section-title)", "margin-bottom: var(--space-item)",
    "text-transform: uppercase", "letter-spacing: 0.5pt"]⟩,
  ⟨".summary", ["font-size: var(--size-body)", "line-height: calc(var(--line-height) + 0.1)"]⟩,
  ⟨".item", ["margin-bottom: var(--space-item)"]⟩,
  ⟨".item-header", ["display: flex", "justify-content: space-between", "align-items: flex-start",
    "margin-bottom: 4pt"]⟩,
  ⟨".item-title", ["font-size: calc(var(--size-body) + 1pt)", "font-weight: 600",
    "color: var(--color-text)"]⟩,
  ⟨".item-subtitle", ["display: block", "font-size: var(--size-body)",
    "color: var(--color-accent)", "font-weight: 500"]⟩,
  ⟨".item-period", ["font-size: var(--size-small)", "color: var(--color-muted)",
    "white-space: nowrap"]⟩,
  ⟨".item-details, .description", ["margin-top: var(--space-element)"]⟩,
  ⟨".highlights", ["margin: var(--space-element) 0 0 15pt"]⟩,
  ⟨".highlights li", ["margin-bottom: 3pt"]⟩,
  ⟨".item-card-subtle", ["background: var(--color-secondary)", "padding: 12pt",
    "border-radius: var(--radius)"]⟩,
  ⟨".item-card-bordered", ["border: 1pt solid var(--color-primary)", "padding: 12pt",
    "border-radius: var(--radius)"]⟩,
  ⟨".item-accent-left", ["border-left: 4pt solid var(--color-primary)", "padding-left: 12pt",
    "margin-left: 2pt"]⟩,
  ⟨".item-timeline", ["position: relative", "padding-left: 20pt", "margin-left: 8pt",
    "border-left: 2pt solid var(--color-border)"]⟩,
  ⟨".item-timeline::before", ["content: ''", "position: absolute", "left: -5pt", "top: 5pt",
    "width: 8pt", "height: 8pt", "background: var(--color-primary)", "border-radius: 50%"]⟩,
  ⟨".skills-category", ["margin-bottom: 8pt"]⟩,
  ⟨".skills-label", ["font-size: var(--size-small)", "font-weight: 600",
    "color: var(--color-muted)", "margin-bottom: 4pt"]⟩,
  ⟨".languages-list", ["display: flex", "flex-wrap: wrap", "gap: 15pt"]⟩,
  ⟨".language-item", ["display: flex", "flex-direction: column"]⟩,
  ⟨".language-name", ["font-weight: 600"]⟩,
  ⟨".language-level", ["font-size: var(--size-small)", "color: var(--color-muted)"]⟩,
  ⟨".certifications-list", ["margin-left: 15pt"]⟩,
  ⟨".certifications-list li", ["margin-bottom: 3pt"]⟩]

def fullBleedRules : List StyleRule := [
  ⟨".cv-header.header-full-bleed", [
    "margin: calc(-1 * var(--space-page)) calc(-1 * var(--space-page)) var(--space-section)",
    "padding: var(--space-section) var(--space-page)"]⟩]

def contactIconRules : List StyleRule := [
  ⟨".contact-icon", ["display: inline-block", "width: 10pt", "height: 10pt", "margin-right: 4pt",
    "vertical-align: -1pt", "color: var(--color-accent)"]⟩,
  ⟨".header-banner .contact-icon", ["color: inherit"]⟩]

def decorationRules : List StyleRule := [
  ⟨".cv-decorations", ["position: absolute", "top: 0", "left: 0", "right: 0", "bottom: 0",
    "overflow: hidden", "pointer-events: none", "z-index: 0"]⟩,
  ⟨".cv-decoration", ["position: absolute", "pointer-events: none"]⟩]

def printRules : List StyleRule := [
  ⟨"html, body", ["-webkit-print-color-adjust: exact !important",
    "print-color-adjust: exact !important"]⟩,
  ⟨".cv-container", ["max-width: none"]⟩,
  ⟨".cv-header", ["page-break-after: avoid"]⟩,
  ⟨".cv-section", ["page-break-before: auto"]⟩,
  ⟨".cv-section:first-of-type", ["page-break-before: avoid"]⟩,
  ⟨".item, .highlights, .section-title", ["page-break-inside: avoid"]⟩,
  ⟨".section-title", ["page-break-after: avoid"]⟩,
  ⟨"p, li", ["orphans: 3", "widows: 3"]⟩]

end Vitae
