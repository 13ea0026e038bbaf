import Vitae.Vocabulary

/-!
The choices a style is made of.
-/

namespace Vitae

/-- The look a style starts from; it sets the defaults of the other choices. -/
inductive Theme where
  | professional
  | modern
  | creative
  | minimal
  | bold
  deriving DecidableEq, Repr

def Theme.word : Theme → String
  | .professional => "professional"
  | .modern => "modern"
  | .creative => "creative"
  | .minimal => "minimal"
  | .bold => "bold"

def Theme.all : List Theme :=
  [.professional, .modern, .creative, .minimal, .bold]

instance : Vocabulary Theme := ⟨Theme.all, Theme.word⟩

inductive FontPairing where
  | interInter
  | playfairInter
  | montserratOpenSans
  | ralewayLato
  | poppinsNunito
  | robotoRoboto
  | latoLato
  | merriweatherSourceSans
  | oswaldSourceSans
  | dmSerifDmSans
  | spaceGroteskWorkSans
  | libreBaskervilleSourceSans
  deriving DecidableEq, Repr

def FontPairing.word : FontPairing → String
  | .interInter => "inter-inter"
  | .playfairInter => "playfair-inter"
  | .montserratOpenSans => "montserrat-open-sans"
  | .ralewayLato => "raleway-lato"
  | .poppinsNunito => "poppins-nunito"
  | .robotoRoboto => "roboto-roboto"
  | .latoLato => "lato-lato"
  | .merriweatherSourceSans => "merriweather-source-sans"
  | .oswaldSourceSans => "oswald-source-sans"
  | .dmSerifDmSans => "dm-serif-dm-sans"
  | .spaceGroteskWorkSans => "space-grotesk-work-sans"
  | .libreBaskervilleSourceSans => "libre-baskerville-source-sans"

def FontPairing.all : List FontPairing :=
  [.interInter, .playfairInter, .montserratOpenSans, .ralewayLato, .poppinsNunito, .robotoRoboto,
    .latoLato, .merriweatherSourceSans, .oswaldSourceSans, .dmSerifDmSans, .spaceGroteskWorkSans,
    .libreBaskervilleSourceSans]

instance : Vocabulary FontPairing := ⟨FontPairing.all, FontPairing.word⟩

inductive TypeScale where
  | small
  | medium
  | large
  deriving DecidableEq, Repr

def TypeScale.word : TypeScale → String
  | .small => "small"
  | .medium => "medium"
  | .large => "large"

def TypeScale.all : List TypeScale :=
  [.small, .medium, .large]

instance : Vocabulary TypeScale := ⟨TypeScale.all, TypeScale.word⟩

inductive SpacingScale where
  | compact
  | comfortable
  | spacious
  deriving DecidableEq, Repr

def SpacingScale.word : SpacingScale → String
  | .compact => "compact"
  | .comfortable => "comfortable"
  | .spacious => "spacious"

def SpacingScale.all : List SpacingScale :=
  [.compact, .comfortable, .spacious]

instance : Vocabulary SpacingScale := ⟨SpacingScale.all, SpacingScale.word⟩

inductive HeaderVariant where
  | simple
  | accented
  | banner
  | split
  deriving DecidableEq, Repr

def HeaderVariant.word : HeaderVariant → String
  | .simple => "simple"
  | .accented => "accented"
  | .banner => "banner"
  | .split => "split"

def HeaderVariant.all : List HeaderVariant :=
  [.simple, .accented, .banner, .split]

instance : Vocabulary HeaderVariant := ⟨HeaderVariant.all, HeaderVariant.word⟩

inductive SectionStyle where
  | clean
  | underlined
  | boxed
  | timeline
  | accentLeft
  | card
  deriving DecidableEq, Repr

def SectionStyle.word : SectionStyle → String
  | .clean => "clean"
  | .underlined => "underlined"
  | .boxed => "boxed"
  | .timeline => "timeline"
  | .accentLeft => "accent-left"
  | .card => "card"

def SectionStyle.all : List SectionStyle :=
  [.clean, .underlined, .boxed, .timeline, .accentLeft, .card]

instance : Vocabulary SectionStyle := ⟨SectionStyle.all, SectionStyle.word⟩

inductive SkillsDisplay where
  | tags
  | list
  | compact
  deriving DecidableEq, Repr

def SkillsDisplay.word : SkillsDisplay → String
  | .tags => "tags"
  | .list => "list"
  | .compact => "compact"

def SkillsDisplay.all : List SkillsDisplay :=
  [.tags, .list, .compact]

instance : Vocabulary SkillsDisplay := ⟨SkillsDisplay.all, SkillsDisplay.word⟩

inductive DecorationIntensity where
  | none
  | minimal
  | moderate
  | abundant
  deriving DecidableEq, Repr

def DecorationIntensity.word : DecorationIntensity → String
  | .none => "none"
  | .minimal => "minimal"
  | .moderate => "moderate"
  | .abundant => "abundant"

def DecorationIntensity.all : List DecorationIntensity :=
  [.none, .minimal, .moderate, .abundant]

instance : Vocabulary DecorationIntensity := ⟨DecorationIntensity.all, DecorationIntensity.word⟩

inductive DecorationTheme where
  | geometric
  | organic
  | minimal
  | tech
  | creative
  | abstract
  deriving DecidableEq, Repr

def DecorationTheme.word : DecorationTheme → String
  | .geometric => "geometric"
  | .organic => "organic"
  | .minimal => "minimal"
  | .tech => "tech"
  | .creative => "creative"
  | .abstract => "abstract"

def DecorationTheme.all : List DecorationTheme :=
  [.geometric, .organic, .minimal, .tech, .creative, .abstract]

instance : Vocabulary DecorationTheme := ⟨DecorationTheme.all, DecorationTheme.word⟩

inductive ContactLayout where
  | singleRow
  | doubleRow
  | singleColumn
  | doubleColumn
  deriving DecidableEq, Repr

def ContactLayout.word : ContactLayout → String
  | .singleRow => "single-row"
  | .doubleRow => "double-row"
  | .singleColumn => "single-column"
  | .doubleColumn => "double-column"

def ContactLayout.all : List ContactLayout :=
  [.singleRow, .doubleRow, .singleColumn, .doubleColumn]

instance : Vocabulary ContactLayout := ⟨ContactLayout.all, ContactLayout.word⟩

inductive HeaderGradient where
  | none
  | subtle
  | radial
  deriving DecidableEq, Repr

def HeaderGradient.word : HeaderGradient → String
  | .none => "none"
  | .subtle => "subtle"
  | .radial => "radial"

def HeaderGradient.all : List HeaderGradient :=
  [.none, .subtle, .radial]

instance : Vocabulary HeaderGradient := ⟨HeaderGradient.all, HeaderGradient.word⟩

inductive PageLayout where
  | singleColumn
  | sidebarLeft
  | sidebarRight
  deriving DecidableEq, Repr

def PageLayout.word : PageLayout → String
  | .singleColumn => "single-column"
  | .sidebarLeft => "sidebar-left"
  | .sidebarRight => "sidebar-right"

def PageLayout.all : List PageLayout :=
  [.singleColumn, .sidebarLeft, .sidebarRight]

instance : Vocabulary PageLayout := ⟨PageLayout.all, PageLayout.word⟩

inductive ExperienceFormat where
  | bullets
  | paragraph
  deriving DecidableEq, Repr

def ExperienceFormat.word : ExperienceFormat → String
  | .bullets => "bullets"
  | .paragraph => "paragraph"

def ExperienceFormat.all : List ExperienceFormat :=
  [.bullets, .paragraph]

instance : Vocabulary ExperienceFormat := ⟨ExperienceFormat.all, ExperienceFormat.word⟩

inductive SectionKind where
  | summary
  | experience
  | education
  | skills
  | languages
  | certifications
  deriving DecidableEq, Repr

def SectionKind.word : SectionKind → String
  | .summary => "summary"
  | .experience => "experience"
  | .education => "education"
  | .skills => "skills"
  | .languages => "languages"
  | .certifications => "certifications"

def SectionKind.all : List SectionKind :=
  [.summary, .experience, .education, .skills, .languages, .certifications]

instance : Vocabulary SectionKind := ⟨SectionKind.all, SectionKind.word⟩

/-- The parts of a document that take declarations of their own. -/
inductive StyleZone where
  | header
  | item
  | sectionBox
  | skills
  | name
  | headline
  | sectionTitle
  | itemTitle
  | itemSubtitle
  | summary
  | highlights
  | skillTag
  | avatar
  | divider
  deriving DecidableEq, Repr

def StyleZone.word : StyleZone → String
  | .header => "header"
  | .item => "item"
  | .sectionBox => "section"
  | .skills => "skills"
  | .name => "name"
  | .headline => "headline"
  | .sectionTitle => "section-title"
  | .itemTitle => "item-title"
  | .itemSubtitle => "item-subtitle"
  | .summary => "summary"
  | .highlights => "highlights"
  | .skillTag => "skill-tag"
  | .avatar => "avatar"
  | .divider => "divider"

def StyleZone.all : List StyleZone :=
  [.header, .item, .sectionBox, .skills, .name, .headline, .sectionTitle, .itemTitle, .itemSubtitle,
    .summary, .highlights, .skillTag, .avatar, .divider]

instance : Vocabulary StyleZone := ⟨StyleZone.all, StyleZone.word⟩

end Vitae
